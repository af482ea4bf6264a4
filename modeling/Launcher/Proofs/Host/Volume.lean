import Mathlib.Data.List.Basic
import Launcher.Host.Volume
/-!
# What opening does to the files

Opening for reading changes nothing. Opening for appending makes a missing file, and opening for
creating empties one as well. No other file is changed, no directory comes or goes, and every path
leads to the place that it led to before.

## Main definitions

* `Launcher.Host.Volume.text?` — the bytes of the file at a place.
* `Launcher.Host.Volume.place?` — the place that a path leads to.
* `Launcher.Host.Volume.SameFile` — two places of one file.
* `Launcher.Host.Volume.Sound` — every name is in a directory, and every file has been numbered.
* `Launcher.Host.Volume.Opens` — what an opened file has done to the volume.

## Main results

* `Launcher.Host.Volume.opens_of_openFile` — opening a file does what its mode says, and nothing else.
-/

namespace Launcher.Host.Volume

/-! ## Views -/

/-- There is a directory at a place. -/
def isDirectoryAt (v : Volume) (l : Location) : Bool :=
  (v.at? l).any (·.node == .directory)

/-- The number of the file at a place. -/
def number? (v : Volume) (l : Location) : Option Nat :=
  match v.at? l with
  | some ⟨_, .file number, _⟩ => some number
  | _ => none

/-- The bytes of the file at a place. -/
def text? (v : Volume) (l : Location) : Option (List UInt8) :=
  match v.at? l with
  | none => none
  | some b =>
    match b.node with
    | .directory => none
    | .file number => some (v.bytes number)
    | .null | .full => some []
    | .program _ => some programBytes

/-- The places are two names of one file. -/
def SameFile (v : Volume) (l l' : Location) : Prop :=
  l = l' ∨ (v.number? l).isSome ∧ v.number? l = v.number? l'

instance (v : Volume) (l l' : Location) : Decidable (v.SameFile l l') :=
  inferInstanceAs (Decidable (_ ∨ _))

/-- Every name is in a directory, and every file has a number that has been given out. -/
structure Sound (v : Volume) : Prop where
  parent : ∀ l, (v.at? l).isSome → v.isDirectoryAt l.dropLast
  numbered : ∀ l n, v.number? l = some n → n < v.next

/-- Soundness, told by the names. -/
lemma sound_of_bindings {v : Volume}
    (hparent : ∀ b ∈ v.bindings, v.isDirectoryAt b.location.dropLast)
    (hnumbered : ∀ b ∈ v.bindings, ∀ n, b.node = .file n → n < v.next) : v.Sound := by
  have hmem {l : Location} {b : Binding} (h : v.at? l = some b) :
      l = [] ∧ b.node = .directory ∨ b.location = l ∧ b ∈ v.bindings := by
    unfold at? at h
    split at h
    · rename_i hl
      cases h
      exact .inl ⟨List.isEmpty_iff.1 hl, rfl⟩
    · exact .inr ⟨by simpa using List.find?_some h, List.mem_of_find?_eq_some h⟩
  refine ⟨fun l hl => ?_, fun l n hn => ?_⟩
  · obtain ⟨b, hb⟩ := Option.isSome_iff_exists.1 hl
    rcases hmem hb with ⟨rfl, -⟩ | ⟨rfl, hmem⟩
    · rfl
    · exact hparent b hmem
  · unfold number? at hn
    split at hn
    · rename_i hb
      cases hn
      rcases hmem hb with ⟨-, hnode⟩ | ⟨-, hb⟩
      · cases hnode
      · exact hnumbered _ hb _ rfl
    · cases hn

variable {v w : Volume} {l l' here : Location} {node : Node} {mode n : Nat} {bs : List UInt8}
  {names : List String} {path : String}

/-! ## Writing -/

/-- New bytes change no name. -/
@[simp]
lemma at?_setBytes (v : Volume) (n : Nat) (bs : List UInt8) (l : Location) :
    (v.setBytes n bs).at? l = v.at? l := rfl

/-- What is found at a place is the binding of this place. -/
lemma location_of_at? {b : Binding} (h : v.at? l = some b) : b.location = l := by
  unfold at? at h
  split at h
  · rename_i hl
    cases h
    exact (List.isEmpty_iff.1 hl).symm
  · simpa using List.find?_some h

/-- The bytes of one file are changed, and no others. -/
lemma bytes_setBytes (v : Volume) (n m : Nat) (bs : List UInt8) :
    (v.setBytes n bs).bytes m = if m = n then bs else v.bytes m := by
  unfold bytes setBytes
  by_cases hm : m = n
  · simp [hm]
  · have hne : ¬ n = m := fun h => hm h.symm
    have hfind : (v.contents.filter fun entry => entry.1 != n).find? (fun entry => entry.1 == m) =
        v.contents.find? fun entry => entry.1 == m := by
      rw [List.find?_filter]
      congr 1
      funext entry
      by_cases h : entry.1 = m <;> simp [h, hm]
    simp [hne, hm, hfind]

/-- A new binding is found at its place. -/
lemma at?_bind_self (hl : l ≠ []) : (v.bind l node mode).at? l = some ⟨l, node, mode⟩ := by
  have hnone : (v.bindings.filter fun b => b.location != l).find? (fun b => b.location == l) =
      none := by
    simp
  simp [at?, bind, hl, List.find?_append, hnone]

/-- A new binding changes no other place. -/
lemma at?_bind_of_ne (h : l' ≠ l) : (v.bind l node mode).at? l' = v.at? l' := by
  have hne : ¬ l = l' := fun heq => h heq.symm
  have hfind : (v.bindings.filter fun b => b.location != l).find? (fun b => b.location == l') =
      v.bindings.find? fun b => b.location == l' := by
    rw [List.find?_filter]
    congr 1
    funext b
    by_cases hb : b.location = l' <;> simp [hb, h]
  simp [at?, bind, List.find?_append, hfind, hne]

/-- A new file is found at its place, with the next number. -/
lemma at?_create_self (hl : l ≠ []) :
    (v.create l mode bs).at? l = some ⟨l, .file v.next, mode⟩ :=
  at?_bind_self hl

/-- A new file changes no other place. -/
lemma at?_create_of_ne (h : l' ≠ l) : (v.create l mode bs).at? l' = v.at? l' :=
  at?_bind_of_ne h

/-- A new file has its bytes, and no other bytes are changed. -/
lemma bytes_create (v : Volume) (l : Location) (mode : Nat) (bs : List UInt8) (m : Nat) :
    (v.create l mode bs).bytes m = if m = v.next then bs else v.bytes m :=
  bytes_setBytes _ _ _ _

/-! ## Views of a new file -/

/-- There is a directory at a place if the binding says so. -/
lemma isDirectoryAt_of_at? {b : Binding} (h : v.at? l = some b) :
    v.isDirectoryAt l = (b.node == .directory) := by
  simp [isDirectoryAt, h]

/-- There is always a directory at the root. -/
lemma isDirectoryAt_nil (v : Volume) : v.isDirectoryAt [] = true := rfl

/-- Where no directory is, is not the root. -/
lemma ne_nil_of_isDirectoryAt (h : v.isDirectoryAt l = false) : l ≠ [] := by
  rintro rfl
  simp [isDirectoryAt_nil] at h

/-! ## Where paths lead -/

/-- Where something is, and whether it is a directory. -/
def spot : Found → Location × Bool
  | .present b => (b.location, b.node == .directory)
  | .free l => (l, false)

/-- The spot that was found, if one was. -/
def spot? (result : Except Errno Found) : Option (Location × Bool) :=
  result.toOption.map spot

/-- The place that a path leads to from a directory, where something is or can be made. -/
def place? (v : Volume) (here : Location) (path : String) : Option Location :=
  (spot? (v.find here path)).map Prod.fst

/-- Nothing is gone, and no directory has come or gone. -/
structure Grown (v w : Volume) : Prop where
  present : ∀ l, (v.at? l).isSome → (w.at? l).isSome
  directory : ∀ l, w.isDirectoryAt l = v.isDirectoryAt l

/-- A volume has grown into itself. -/
@[refl]
lemma Grown.refl (v : Volume) : Grown v v := ⟨fun _ h => h, fun _ => rfl⟩

/-- What grows and grows again has grown. -/
lemma Grown.trans {u : Volume} (h : Grown v w) (h' : Grown w u) : Grown v u :=
  ⟨fun l hl => h'.present l (h.present l hl), fun l => (h'.directory l).trans (h.directory l)⟩

/-- A search that fails finds no spot. -/
@[simp]
lemma spot?_error (e : Errno) : spot? (.error e) = none := rfl

/-- What is found when the way ends. -/
lemma spot?_walk_nil (v : Volume) (here : Location) :
    spot? (v.walk here []) = if (v.at? here).isSome then some (here, v.isDirectoryAt here) else none := by
  cases h : v.at? here with
  | none => simp [walk, h]
  | some b => simp [walk, h, spot?, spot, Except.toOption, isDirectoryAt_of_at? h, location_of_at? h]

/-- What is found when the way goes on. The last name leads to its place, whether something is there
or not. -/
lemma spot?_walk_cons (v : Volume) (here : Location) (name : String) (rest : List String) :
    spot? (v.walk here (name :: rest)) =
      if v.isDirectoryAt here = false then none
      else if name = "." then spot? (v.walk here rest)
      else if name = ".." then spot? (v.walk here.dropLast rest)
      else if nameLimit < name.utf8ByteSize then none
      else if rest = [] then some (here ++ [name], v.isDirectoryAt (here ++ [name]))
      else spot? (v.walk (here ++ [name]) rest) := by
  cases h : v.at? here with
  | none => simp [walk, h, isDirectoryAt]
  | some b =>
    rw [isDirectoryAt_of_at? h, walk, h]
    by_cases hb : b.node = .directory
    · simp only [hb, ne_eq, not_true, if_false, beq_self_eq_true, Bool.true_eq_false, beq_iff_eq,
        Bool.and_eq_true, List.isEmpty_iff, Option.isNone_iff_eq_none]
      by_cases hrest : rest = []
      · cases hchild : v.at? (here ++ [name]) with
        | none =>
          have hfile : v.isDirectoryAt (here ++ [name]) = false := by simp [isDirectoryAt, hchild]
          simp only [hrest, and_self, if_true, hfile]
          split_ifs <;> rfl
        | some child =>
          simp only [hrest, reduceCtorEq, and_false, if_true, if_false]
          split_ifs <;> first | rfl | simp [spot?_walk_nil, hchild]
      · simp only [hrest, false_and, if_false]
        split_ifs <;> rfl
    · simp [hb]

/-- **Paths lead where they led**, as files come and no directory does. -/
theorem Grown.spot?_walk (h : Grown v w) (hv : v.Sound)
    (hhere : names ≠ [] ∨ (v.at? here).isSome ∨ w.at? here = none) :
    spot? (w.walk here names) = spot? (v.walk here names) := by
  induction names generalizing here with
  | nil =>
    have hsome : (w.at? here).isSome = (v.at? here).isSome := by
      rcases hhere with hne | hpresent | hnone
      · exact absurd rfl hne
      · rw [hpresent, h.present here hpresent]
      · have := h.present here
        simp_all
    rw [spot?_walk_nil, spot?_walk_nil, hsome, h.directory]
  | cons name rest ih =>
    rw [spot?_walk_cons, spot?_walk_cons, h.directory]
    by_cases hdir : v.isDirectoryAt here = false
    · rw [if_pos hdir, if_pos hdir]
    have hpresent : (v.at? here).isSome := by
      cases hat : v.at? here with
      | none => simp [isDirectoryAt, hat] at hdir
      | some b => rfl
    have hparent : (v.at? here.dropLast).isSome := by
      have := hv.parent here hpresent
      cases hat : v.at? here.dropLast with
      | none => simp [isDirectoryAt, hat] at this
      | some b => rfl
    rw [if_neg hdir, if_neg hdir, ih (.inr (.inl hpresent)), ih (.inr (.inl hparent)), h.directory]
    by_cases hrest : rest = []
    · rw [if_pos hrest, if_pos hrest]
    · rw [if_neg hrest, if_neg hrest, ih (.inl hrest)]

/-- A path that neither is empty nor begins at the root has a name in it. -/
lemma names_ne_nil (hpath : path ≠ "") (hrelative : ¬ isAbsolute path) : Volume.names path ≠ [] := by
  cases htext : path.toList with
  | nil => exact absurd (String.toList_eq_nil_iff.1 htext) hpath
  | cons c rest =>
    have hc : c ≠ '/' := by
      rintro rfl
      simp [isAbsolute, htext] at hrelative
    obtain ⟨piece, others, hpieces⟩ : ∃ piece others, Path.pieces (c :: rest) =
        (c :: piece) :: others := by
      cases hrest : Path.pieces rest with
      | nil => exact ⟨[], [], by simp [Path.pieces, hrest]⟩
      | cons piece others => exact ⟨piece, others, by simp [Path.pieces, hrest]⟩
    have hmem : String.ofList (c :: piece) ∈ Volume.names path := by
      rw [Volume.names, htext, hpieces]
      simp
    exact List.ne_nil_of_mem hmem

/-- A path that ends in a slash leads to a directory, or nowhere. -/
lemma spot?_find (v : Volume) (here : Location) (path : String) :
    spot? (v.find here path) = match steps? here path with
      | .error _ => none
      | .ok (start, names) => (spot? (v.walk start names)).filter fun s => !endsInSlash path || s.2 := by
  unfold find
  cases hsteps : steps? here path with
  | error e => rfl
  | ok steps =>
    obtain ⟨start, names⟩ := steps
    cases hwalk : v.walk start names with
    | error e => simp [Bind.bind, Except.bind, hwalk]
    | ok found =>
      cases found with
      | present b => by_cases hslash : endsInSlash path <;> by_cases hb : b.node = .directory <;>
          simp [Bind.bind, Except.bind, hwalk, hslash, hb, spot?, spot, Except.toOption, Option.filter]
      | free l => by_cases hslash : endsInSlash path <;>
          simp [Bind.bind, Except.bind, hwalk, hslash, spot?, spot, Except.toOption, Option.filter]

/-- The launcher's own directory, and all others, are where they were. -/
lemma Grown.spot?_find (h : Grown v w) (hv : v.Sound) (here : Location) (path : String) :
    spot? (w.find here path) = spot? (v.find here path) := by
  rw [Volume.spot?_find, Volume.spot?_find]
  cases hsteps : steps? here path with
  | error e => rfl
  | ok steps =>
    obtain ⟨start, names⟩ := steps
    simp only
    rw [h.spot?_walk hv]
    unfold steps? at hsteps
    split_ifs at hsteps with hempty hlong habsolute
    · cases hsteps
      exact .inr (.inl rfl)
    · cases hsteps
      refine .inl (names_ne_nil ?_ habsolute)
      simpa using hempty

/-- Paths lead to the places that they led to, in a grown volume. -/
lemma Grown.place?_eq (h : Grown v w) (hv : v.Sound) (here : Location) (path : String) :
    w.place? here path = v.place? here path := by
  rw [place?, place?, h.spot?_find hv]

/-- Paths lead to directories, in a grown volume, if they did. -/
lemma Grown.isDirectory_eq (h : Grown v w) (hv : v.Sound) (here : Location) (path : String) :
    w.isDirectory here path = v.isDirectory here path := by
  have isDirectory_eq (v : Volume) : v.isDirectory here path =
      ((spot? (v.find here path)).any Prod.snd && !path.toList.contains '\x00') := by
    unfold isDirectory
    cases v.find here path with
    | error e => rfl
    | ok found => cases found <;> simp [spot?, spot, Except.toOption]
  rw [isDirectory_eq, isDirectory_eq, h.spot?_find hv]

/-! ## What is found -/

/-- What stands where a way ends. -/
def Stands (v : Volume) : Found → Prop
  | .present b => v.at? b.location = some b
  | .free l => v.at? l = none ∧ v.isDirectoryAt l.dropLast

/-- What is found on a way stands at its end. -/
lemma stands_of_walk {found : Found} (h : v.walk here names = .ok found) : v.Stands found := by
  induction names generalizing here with
  | nil =>
    cases hat : v.at? here with
    | none => simp [walk, hat] at h
    | some b =>
      obtain rfl : Found.present b = found := by simpa [walk, hat] using h
      rwa [Stands, location_of_at? hat]
  | cons name rest ih =>
    cases hat : v.at? here with
    | none => simp [walk, hat] at h
    | some b =>
      simp only [walk, hat] at h
      split_ifs at h with hdir hdot hdots hlong hfree
      · exact ih h
      · exact ih h
      · obtain rfl : Found.free (here ++ [name]) = found := by simpa using h
        have hfree := (Bool.and_eq_true_iff.1 hfree).2
        refine ⟨by simpa using hfree, ?_⟩
        rw [List.dropLast_concat, isDirectoryAt_of_at? hat]
        simpa using hdir
      · exact ih h

/-- What is found by a path stands where it leads to. -/
lemma stands_of_find {found : Found} (h : v.find here path = .ok found) : v.Stands found := by
  unfold find at h
  cases hsteps : steps? here path with
  | error e => simp [hsteps, Bind.bind, Except.bind] at h
  | ok steps =>
    obtain ⟨start, names⟩ := steps
    cases hwalk : v.walk start names with
    | error e => simp [hsteps, hwalk, Bind.bind, Except.bind] at h
    | ok found' =>
      obtain rfl : found' = found := by
        cases found' <;> simp only [hsteps, hwalk, Bind.bind, Except.bind] at h <;>
          split_ifs at h <;> simpa using h
      exact stands_of_walk hwalk

/-! ## Opening -/

/-- The bytes that opening in a mode leaves of those that were there, if any were. -/
def left (mode : OpenMode) (old : Option (List UInt8)) : Option (List UInt8) :=
  match mode with
  | .read => old
  | .append => some (old.getD [])
  | .create => some []

/-- Opening the file at a place, in a mode, has made one volume of another. -/
structure Opens (v : Volume) (l : Location) (mode : OpenMode) (w : Volume) : Prop where
  changes : ∀ l', v.SameFile l' l → w.text? l' = left mode (v.text? l')
  spares : ∀ l', ¬ v.SameFile l' l → w.text? l' = v.text? l'
  grown : Grown v w
  same : ∀ l₁ l₂, w.SameFile l₁ l₂ ↔ v.SameFile l₁ l₂
  sound : w.Sound

/-- The number of a file is that of its binding. -/
lemma number?_eq_some_iff : v.number? l = some n ↔ ∃ m, v.at? l = some ⟨l, .file n, m⟩ := by
  unfold number?
  cases hat : v.at? l with
  | none => simp
  | some b =>
    obtain ⟨location, node, m⟩ := b
    obtain rfl : location = l := location_of_at? hat
    cases node <;> simp

/-- The text at a place is that of the file with the number there. -/
lemma text?_of_number? (h : v.number? l = some n) : v.text? l = some (v.bytes n) := by
  obtain ⟨m, hat⟩ := number?_eq_some_iff.1 h
  simp [text?, hat]

/-- Two names of one file have one text. -/
lemma SameFile.text?_eq (h : v.SameFile l l') : v.text? l = v.text? l' := by
  rcases h with rfl | ⟨hsome, heq⟩
  · rfl
  · obtain ⟨n, hn⟩ := Option.isSome_iff_exists.1 hsome
    rw [text?_of_number? hn, text?_of_number? (heq ▸ hn)]

/-- What is no file has one name only. -/
lemma sameFile_iff_of_number?_eq_none (h : v.number? l = none) : v.SameFile l' l ↔ l' = l := by
  constructor
  · rintro (rfl | ⟨hsome, heq⟩)
    · rfl
    · rw [heq, h] at hsome
      cases hsome
  · exact .inl

/-- The names of a file are the places with its number. -/
lemma sameFile_iff_of_number? (h : v.number? l = some n) :
    v.SameFile l' l ↔ v.number? l' = some n := by
  constructor
  · rintro (rfl | ⟨-, heq⟩)
    · exact h
    · rw [heq, h]
  · exact fun h' => .inr ⟨by simp [h'], h'.trans h.symm⟩

/-- What is opened without a change. -/
lemma Opens.of_left_eq (hv : v.Sound) {mode : OpenMode} (h : left mode (v.text? l) = v.text? l) :
    Opens v l mode v where
  changes l' hsame := by rw [hsame.text?_eq, h]
  spares _ _ := rfl
  grown := .refl v
  same _ _ := Iff.rfl
  sound := hv

/-- New bytes are seen under all names of the file, and under no others. -/
lemma text?_setBytes (v : Volume) (n : Nat) (bs : List UInt8) (l : Location) :
    (v.setBytes n bs).text? l = if v.number? l = some n then some bs else v.text? l := by
  cases hl : v.at? l with
  | none => simp [text?, number?, hl]
  | some b =>
    obtain ⟨location, node, m⟩ := b
    cases node with
    | file number => by_cases h : number = n <;> simp [text?, number?, hl, bytes_setBytes, h]
    | _ => simp [text?, number?, hl]

/-- A file that is emptied. -/
lemma Opens.of_setBytes (hv : v.Sound) (h : v.number? l = some n) :
    Opens v l .create (v.setBytes n []) where
  changes l' hsame := by
    rw [text?_setBytes, if_pos ((sameFile_iff_of_number? h).1 hsame), left]
  spares l' hsame := by
    rw [text?_setBytes, if_neg fun h' => hsame ((sameFile_iff_of_number? h).2 h')]
  grown := ⟨fun _ h => h, fun _ => rfl⟩
  same _ _ := Iff.rfl
  sound := ⟨hv.parent, hv.numbered⟩

/-- The file at a place, after one was made at another. -/
lemma number?_create (hl : l ≠ []) (l' : Location) :
    (v.create l n bs).number? l' = if l' = l then some v.next else v.number? l' := by
  by_cases h : l' = l
  · rw [h, if_pos rfl]
    simp [number?, at?_create_self hl]
  · rw [if_neg h]
    simp [number?, at?_create_of_ne h]

/-- A new file makes and takes no directory. -/
lemma isDirectoryAt_create (hl : v.isDirectoryAt l = false) (l' : Location) :
    (v.create l n bs).isDirectoryAt l' = v.isDirectoryAt l' := by
  by_cases h : l' = l
  · rw [h, hl]
    simp [isDirectoryAt, at?_create_self (ne_nil_of_isDirectoryAt hl)]
  · simp [isDirectoryAt, at?_create_of_ne h]

/-- A new file has its text. -/
lemma text?_create_self (hl : l ≠ []) : (v.create l n bs).text? l = some bs := by
  simp [text?, at?_create_self hl, bytes_create]

/-- A new file changes the text of no other. -/
lemma text?_create_of_ne (hv : v.Sound) (h : l' ≠ l) :
    (v.create l n bs).text? l' = v.text? l' := by
  cases hl' : v.at? l' with
  | none => simp [text?, at?_create_of_ne h, hl']
  | some b =>
    obtain ⟨location, node, m⟩ := b
    cases node with
    | file number =>
      have hlt : number < v.next := hv.numbered l' number (by simp [number?, hl'])
      simp [text?, at?_create_of_ne h, hl', bytes_create, Nat.ne_of_lt hlt]
    | _ => simp [text?, at?_create_of_ne h, hl']

/-- A new file, at a place with no other that can be written to. -/
lemma Opens.of_create (hv : v.Sound) {mode : OpenMode} (hnumber : v.number? l = none)
    (hfile : v.isDirectoryAt l = false) (hparent : v.isDirectoryAt l.dropLast)
    (hleft : left mode (v.text? l) = some []) : Opens v l mode (v.create l n []) where
  changes l' hsame := by
    obtain rfl := (sameFile_iff_of_number?_eq_none hnumber).1 hsame
    rw [text?_create_self (ne_nil_of_isDirectoryAt hfile), hleft]
  spares l' hsame := by
    refine text?_create_of_ne hv fun h => hsame ?_
    exact (sameFile_iff_of_number?_eq_none hnumber).2 h
  grown := by
    refine ⟨fun l' hl' => ?_, isDirectoryAt_create hfile⟩
    by_cases h : l' = l
    · simp [h, at?_create_self (ne_nil_of_isDirectoryAt hfile)]
    · rwa [at?_create_of_ne h]
  same l₁ l₂ := by
    have hl := ne_nil_of_isDirectoryAt hfile
    have hfresh : ∀ l', v.number? l' ≠ some v.next := fun l' h =>
      Nat.lt_irrefl _ (hv.numbered l' _ h)
    have hfresh' : ∀ l', some v.next ≠ v.number? l' := fun l' h => hfresh l' h.symm
    unfold SameFile
    rw [number?_create hl, number?_create hl]
    by_cases h₁ : l₁ = l <;> by_cases h₂ : l₂ = l <;>
      simp +contextual [h₁, h₂, hnumber, hfresh, hfresh', Option.isSome_iff_ne_none]
  sound := by
    have hl := ne_nil_of_isDirectoryAt hfile
    refine ⟨fun l' hl' => ?_, fun l' m hm => ?_⟩
    · rw [isDirectoryAt_create hfile]
      by_cases h : l' = l
      · rwa [h]
      · rw [at?_create_of_ne h] at hl'
        exact hv.parent l' hl'
    · rw [number?_create hl] at hm
      split at hm
      · cases hm
        exact Nat.lt_succ_self _
      · exact Nat.lt_succ_of_lt (hv.numbered l' m hm)

/-- What opening does to what was found. -/
lemma opens_of_openFound (hv : v.Sound) {mode : OpenMode} {found : Found} {channel : Channel}
    (hfound : v.Stands found) (h : v.openFound found mode = .ok (channel, w)) :
    Opens v (spot found).1 mode w := by
  cases found with
  | free l =>
    have hnone : v.at? l = none := hfound.1
    have hnumber : v.number? l = none := by simp [number?, hnone]
    have hfile : v.isDirectoryAt l = false := by simp [isDirectoryAt, hnone]
    have htext : v.text? l = none := by simp [text?, hnone]
    by_cases hmode : mode = .read
    · simp [openFound, hmode] at h
    obtain ⟨-, rfl⟩ : .file v.next = channel ∧ v.create l 0o644 [] = w := by
      simpa [openFound, hmode] using h
    refine .of_create hv hnumber hfile hfound.2 ?_
    cases mode with
    | read => exact absurd rfl hmode
    | create => rfl
    | append => simp [spot, left, htext]
  | present b =>
    obtain ⟨l, node, m⟩ := b
    have hat : v.at? l = some ⟨l, node, m⟩ := hfound
    cases node with
    | directory =>
      by_cases hmode : mode = .read
      · obtain ⟨-, rfl⟩ : .directory = channel ∧ v = w := by simpa [openFound, hmode] using h
        exact .of_left_eq hv (by rw [hmode]; rfl)
      · simp [openFound, hmode] at h
    | file number =>
      have hnumber : v.number? l = some number := by simp [number?, hat]
      have htext : v.text? l = some (v.bytes number) := text?_of_number? hnumber
      obtain ⟨-, hw⟩ : .file number = channel ∧
          (if mode = .create then v.setBytes number [] else v) = w := by
        simpa [openFound] using h
      cases mode with
      | read => exact hw ▸ .of_left_eq hv rfl
      | create => exact hw ▸ .of_setBytes hv hnumber
      | append => exact hw ▸ .of_left_eq hv (by simp [spot, left, htext])
    | null =>
      obtain ⟨-, rfl⟩ : .null = channel ∧ v = w := by simpa [openFound] using h
      refine .of_left_eq hv ?_
      cases mode <;> simp [spot, left, text?, hat]
    | full =>
      obtain ⟨-, rfl⟩ : .full = channel ∧ v = w := by simpa [openFound] using h
      refine .of_left_eq hv ?_
      cases mode <;> simp [spot, left, text?, hat]
    | program program =>
      have hnumber : v.number? l = none := by simp [number?, hat]
      have hfile : v.isDirectoryAt l = false := by simp [isDirectoryAt, hat]
      by_cases hmode : mode = .create
      · obtain ⟨-, rfl⟩ : .file v.next = channel ∧ v.create l m [] = w := by
          simpa [openFound, hmode] using h
        exact .of_create hv hnumber hfile (hv.parent l (by simp [hat])) (by rw [hmode]; rfl)
      · obtain ⟨-, rfl⟩ : .text programBytes = channel ∧ v = w := by
          simpa [openFound, hmode] using h
        refine .of_left_eq hv ?_
        cases mode with
        | read => rfl
        | create => exact absurd rfl hmode
        | append => simp [spot, left, text?, hat]

/-- **Opening.** A file that is opened by its path is there, or it can be made there; what opening
does is what its mode says. -/
theorem opens_of_openFile (hv : v.Sound) {mode : OpenMode} {channel : Channel}
    (h : v.openFile here path mode = .ok (channel, w)) :
    ∃ l, v.place? here path = some l ∧ Opens v l mode w := by
  obtain ⟨found, hfind, hopen⟩ : ∃ found, v.find here path = .ok found ∧
      v.openFound found mode = .ok (channel, w) := by
    unfold openFile at h
    split_ifs at h with hslash
    · cases hparent : v.findParent here path <;> simp [hparent, Bind.bind, Except.bind] at h
    · cases hfind : v.find here path with
      | error e => simp [hfind, Bind.bind, Except.bind] at h
      | ok found => exact ⟨found, rfl, by simpa [hfind, Bind.bind, Except.bind] using h⟩
  refine ⟨_, ?_, opens_of_openFound hv (stands_of_find hfind) hopen⟩
  simp [place?, hfind, spot?, Except.toOption]

end Launcher.Host.Volume
