import Launcher.Proofs.Yaml.Entries
import Launcher.Spec.Read
/-!
# The entries of a file

A stream that leads to a file is a mapping with a path and, perhaps, a flag. The mapping is taken in as it is
before anybody asks what it stands for; then its entries are gone through, and what they say is put into a
draft. It does not matter in which order they stand, and entries of other names say nothing. What is said
twice is refused.

What is taken in can hold no whole number of 128 bits that does not fit in 64. So the values of foreign
entries have to be narrow here (`Launcher.Yaml.ScalarValue.isNarrow`).

## Main definitions

* `Launcher.StreamSpec.FileEntry` — what an entry says of a file.
* `Launcher.StreamSpec.StandsForFile` — a mapping stands for a file.
* `Launcher.StreamSpec.Recasts` — a file with its entries in another order, and with others among them;
  `Launcher.StreamSpec.recasts` computes it.

## Main results

* `Launcher.StreamSpec.fileEntries?_eq_of_perm` — the order of the entries of a file.
* `Launcher.StreamSpec.fileEntries?_eq_none_of_twice` — what is said twice of a file.
* `Launcher.StreamSpec.keeps_read` — a stream is read alike when it is recast.
-/

namespace Launcher

open Yaml Yaml.Place

/-! ## The entries of a file -/

namespace StreamSpec

/-- The names of the entries of a file. -/
def fileNames : List String := ["file", "append"]

/-- What an entry says of a file. -/
inductive FileEntry where
  | path (path : String)
  | append (on : Bool)
  /-- Nothing. -/
  | other
  /-- Its key cannot name an entry, or its value does not suit its name. -/
  | wrong

/-- What an entry says of a file. -/
def fileEntry (e : Content × Content) : FileEntry :=
  match named? fileNames e.1, e.2 with
  | some 0, .scalar (.text path) => .path path
  | some 1, .scalar (.bool on) => .append on
  | some 0, _ | some 1, _ | none, _ => .wrong
  | some _, _ => .other

/-- What an entry says is put into a draft, which must not know it yet. -/
def FileEntry.put : FileEntry → FileDraft → Option FileDraft
  | .path name, d => if d.file.isSome then none else some { d with file := some name }
  | .append on, d => if d.append.isSome then none else some { d with append := some on }
  | .other, d => some d
  | .wrong, _ => none

variable {e e' : Content × Content} {rest contents contents' : List (Content × Content)} {d : FileDraft}

/-- Entries are put into the draft one by one, by what they say. -/
lemma fileEntries?_cons :
    fileEntries? (e :: rest) d = ((fileEntry e).put d).bind (fileEntries? rest) := by
  obtain ⟨key, value⟩ := e
  have hnamed : named? fileNames key = named? ["file", "append"] key := rfl
  rw [fileEntries?, fileEntry, hnamed]
  rcases hname : named? ["file", "append"] key with _ | _ | _ | index
  · rfl
  · rcases value with (_ | _ | _ | _ | _ | _ | name) | _ | _ <;> try rfl
    by_cases hd : d.file.isSome <;> simp [FileEntry.put, hd]
  · rcases value with (_ | on | _ | _ | _ | _ | _) | _ | _ <;> try rfl
    by_cases hd : d.append.isSome <;> simp [FileEntry.put, hd]
  · rfl

/-- It does not matter which of two entries is put first. -/
lemma put_comm (x y : FileEntry) (d : FileDraft) :
    (x.put d).bind y.put = (y.put d).bind x.put := by
  obtain ⟨_ | _, _ | _⟩ := d <;> cases x <;> cases y <;> rfl

/-- **The order of the entries of a file** does not matter. -/
theorem fileEntries?_eq_of_perm (h : contents.Perm contents') (d : FileDraft) :
    fileEntries? contents d = fileEntries? contents' d := by
  induction h generalizing d with
  | nil => rfl
  | cons e h ih =>
    rw [fileEntries?_cons, fileEntries?_cons]
    exact congrArg _ (funext ih)
  | swap e e' rest =>
    have hnext (x : Content × Content) : fileEntries? (x :: rest) =
        fun d => ((fileEntry x).put d).bind (fileEntries? rest) := funext fun _ => fileEntries?_cons
    rw [fileEntries?_cons, fileEntries?_cons, hnext, hnext, ← Option.bind_assoc, ← Option.bind_assoc,
      put_comm]
  | trans h₁ h₂ ih₁ ih₂ => exact (ih₁ d).trans (ih₂ d)

/-- Entries that say nothing of a file are passed over. -/
lemma fileEntries?_append_other {others : List (Content × Content)}
    (h : ∀ e ∈ others, fileEntry e = .other) (d : FileDraft) :
    fileEntries? (contents ++ others) d = fileEntries? contents d := by
  rw [fileEntries?_eq_of_perm List.perm_append_comm d]
  induction others with
  | nil => rfl
  | cons e others ih =>
    rw [List.cons_append, fileEntries?_cons, h e List.mem_cons_self]
    exact ih fun e he => h e (List.mem_cons_of_mem _ he)

/-- Behind the name of the path there is a path, or something wrong. -/
lemma fileEntry_zero (h : named? fileNames e.1 = some 0) :
    fileEntry e = .wrong ∨ ∃ path, fileEntry e = .path path := by
  unfold fileEntry
  rw [h]
  split <;> simp_all

/-- Behind the name of the flag there is a flag, or something wrong. -/
lemma fileEntry_one (h : named? fileNames e.1 = some 1) :
    fileEntry e = .wrong ∨ ∃ on, fileEntry e = .append on := by
  unfold fileEntry
  rw [h]
  split <;> simp_all

/-- What has been put into a draft cannot be put there again. -/
lemma put_put_eq_none {index : Nat} (hindex : index < 2) (he : named? fileNames e.1 = some index)
    (he' : named? fileNames e'.1 = some index) (d : FileDraft) :
    ((fileEntry e).put d).bind (fileEntry e').put = none := by
  obtain rfl | rfl : index = 0 ∨ index = 1 := by omega
  · rcases fileEntry_zero he with h | ⟨path, h⟩ <;> rcases fileEntry_zero he' with h' | ⟨path', h'⟩ <;>
      rw [h, h'] <;> obtain ⟨_ | _, _⟩ := d <;> rfl
  · rcases fileEntry_one he with h | ⟨on, h⟩ <;> rcases fileEntry_one he' with h' | ⟨on', h'⟩ <;>
      rw [h, h'] <;> obtain ⟨_, _ | _⟩ := d <;> rfl

/-- **What is said twice of a file** is refused. -/
theorem fileEntries?_eq_none_of_twice {index : Nat} (htwice : List.Sublist [e, e'] contents)
    (hindex : index < 2) (he : named? fileNames e.1 = some index)
    (he' : named? fileNames e'.1 = some index) (d : FileDraft) : fileEntries? contents d = none := by
  obtain ⟨others, hperm⟩ := htwice.exists_perm_append
  have hnext : fileEntries? (e' :: others) =
      fun d => ((fileEntry e').put d).bind (fileEntries? others) := funext fun _ => fileEntries?_cons
  rw [fileEntries?_eq_of_perm hperm d, List.cons_append, List.cons_append, List.nil_append,
    fileEntries?_cons, hnext, ← Option.bind_assoc, put_put_eq_none hindex he he', Option.bind_none]

/-- A mapping in which a text stands for something is not the name of a mode. -/
lemma modeOfContent?_eq_none {path : String} (h : e ∈ contents) (hpath : e.2 = .scalar (.text path)) :
    modeOfContent? (.mapping contents) = none := by
  unfold modeOfContent?
  split
  · cases ‹Content.mapping contents = _›
  · obtain rfl := Content.mapping.inj ‹_›
    obtain rfl := List.mem_singleton.1 h
    cases hpath
  · rfl

/-- A mapping of two entries or more is not the name of a mode. -/
lemma modeOfContent?_eq_none_of_twice (htwice : List.Sublist [e, e'] contents) :
    modeOfContent? (.mapping contents) = none := by
  unfold modeOfContent?
  split
  · cases ‹Content.mapping contents = _›
  · obtain rfl := Content.mapping.inj ‹_›
    exact absurd htwice.length_le (by simp)
  · rfl

/-- The file does not depend on the order of its entries, nor on what says nothing of it. -/
lemma ofContent?_eq_of_perm {others : List (Content × Content)} {path : String}
    (hpath : e.2 = .scalar (.text path)) (he : e ∈ contents)
    (hothers : ∀ e ∈ others, fileEntry e = .other) (hperm : contents'.Perm (contents ++ others)) :
    ofContent? (.mapping contents') = ofContent? (.mapping contents) := by
  have he' : e ∈ contents' := hperm.mem_iff.2 (List.mem_append_left others he)
  rw [ofContent?, ofContent?, modeOfContent?_eq_none he hpath, modeOfContent?_eq_none he' hpath]
  simp only [fileOfContent?, fileEntries?_eq_of_perm hperm, fileEntries?_append_other hothers]

/-- A mapping in which something is said twice of a file stands for no stream. -/
lemma ofContent?_eq_none_of_twice {index : Nat} (htwice : List.Sublist [e, e'] contents)
    (hindex : index < 2) (he : named? fileNames e.1 = some index)
    (he' : named? fileNames e'.1 = some index) : ofContent? (.mapping contents) = none := by
  rw [ofContent?, modeOfContent?_eq_none_of_twice htwice]
  simp only [fileOfContent?, fileEntries?_eq_none_of_twice htwice hindex he he']
  rfl

/-- An entry that says a path has it as its value. -/
lemma eq_text_of_fileEntry {path : String} (h : fileEntry e = .path path) :
    e.2 = .scalar (.text path) := by
  unfold fileEntry at h
  split at h <;> simp_all

/-- A path comes from an entry, if there was none before. -/
lemma exists_path_of_fileEntries? {d' : FileDraft} (h : fileEntries? contents d = some d')
    (hnew : d.file = none) (hpath : d'.file ≠ none) :
    ∃ e ∈ contents, ∃ path, fileEntry e = .path path := by
  induction contents generalizing d with
  | nil =>
    obtain rfl := Option.some.inj h
    exact absurd hnew hpath
  | cons e contents ih =>
    rw [fileEntries?_cons] at h
    obtain ⟨next, hput, hrest⟩ := Option.bind_eq_some_iff.1 h
    cases hentry : fileEntry e with
    | path path => exact ⟨e, List.mem_cons_self, path, hentry⟩
    | append on =>
      have hnext : next.file = none := by
        simp only [hentry, FileEntry.put, Option.ite_none_left_eq_some, Option.some.injEq] at hput
        rw [← hput.2, hnew]
      obtain ⟨e', he', hpath'⟩ := ih hrest hnext
      exact ⟨e', List.mem_cons_of_mem _ he', hpath'⟩
    | other =>
      rw [hentry] at hput
      obtain rfl := Option.some.inj hput
      obtain ⟨e', he', hpath'⟩ := ih hrest hnew
      exact ⟨e', List.mem_cons_of_mem _ he', hpath'⟩
    | wrong =>
      rw [hentry] at hput
      cases hput

/-! ## Streams -/

/-- What stands in a list stands there in a related one. -/
lemma exists_sublist_of_forall₂ {α β : Type} {R : α → β → Prop} {part whole : List α}
    {whole' : List β} (hpart : part.Sublist whole) (h : List.Forall₂ R whole whole') :
    ∃ part', part'.Sublist whole' ∧ List.Forall₂ R part part' := by
  induction hpart generalizing whole' with
  | slnil => exact ⟨[], List.nil_sublist _, .nil⟩
  | cons a hpart ih =>
    cases h with
    | cons ha h =>
      obtain ⟨part', hpart', hall⟩ := ih h
      exact ⟨part', hpart'.cons _, hall⟩
  | cons_cons a hpart ih =>
    cases h with
    | cons ha h =>
      obtain ⟨part', hpart', hall⟩ := ih h
      exact ⟨_ :: part', hpart'.cons_cons _, .cons ha hall⟩

/-- What stands in a list is related to something in a related one. -/
lemma exists_of_mem_forall₂ {α β : Type} {R : α → β → Prop} {a : α} {whole : List α}
    {whole' : List β} (ha : a ∈ whole) (h : List.Forall₂ R whole whole') : ∃ b ∈ whole', R a b := by
  obtain ⟨part, hpart, hall⟩ := exists_sublist_of_forall₂ (List.singleton_sublist.2 ha) h
  obtain ⟨b, _, hab, -, rfl⟩ := List.forall₂_cons_left_iff.1 hall
  exact ⟨b, hpart.subset List.mem_cons_self, hab⟩

/-- The place of a key among the names of the entries of a file. -/
def entryOf? (key : Node) : Option Nat :=
  key.meaning?.bind fun value => named? fileNames (.scalar value)

/-- What is taken in of a key names the same entry as the key. -/
lemma named?_of_entryOf? {key : Node} {c : Content} {index depth depth' : Nat}
    (h : entryOf? key = some index) (hmakes : Makes (contentTo depth) depth' key c) :
    named? fileNames c = some index := by
  obtain ⟨value, hvalue, hname⟩ := Option.bind_eq_some_iff.1 h
  rw [eq_of_meaning? hvalue hmakes, hname]

/-- The mapping stands for a file: there is a path in it, behind its name. -/
def StandsForFile (entries : List (Node × Node)) : Prop :=
  ∃ e ∈ entries, entryOf? e.1 = some 0 ∧ ∃ path, e.2.meaning? = some (.text path)

/-- **A stream** that is alike, or a file whose entries are recast. -/
inductive Recasts (admits : ScalarValue → Bool) : Node → Node → Prop
  | alike {n n' : Node} (h : Alike n n') : Recasts admits n n'
  | file {mark : Mark} {entries : List (Node × Node)} {n' : Node} (hfile : StandsForFile entries)
      (h : Yaml.Recasts fileNames admits (fun _ => Alike) (.mapping mark none entries) n') :
    Recasts admits (.mapping mark none entries) n'

/-- A recast stream is a node of the same kind. -/
lemma Recasts.kin {admits : ScalarValue → Bool} {n n' : Node} (h : Recasts admits n n') : Kin n n' := by
  cases h with
  | alike h => exact h.kin
  | file hfile h => exact h.kin

/-- Whether a node is a mapping that stands for a file. -/
def standsForFile : Node → Bool
  | .mapping _ none entries => entries.any fun e =>
    entryOf? e.1 == some 0 && match e.2.meaning? with
      | some (.text _) => true
      | _ => false
  | _ => false

/-- Whether a stream is recast. -/
def recasts (admits : ScalarValue → Bool) (n n' : Node) : Bool :=
  alike n n' || (standsForFile n && Yaml.recasts fileNames admits (fun _ => Yaml.alike) n n')

/-- What is said can be computed. -/
lemma Recasts.of_recasts {admits : ScalarValue → Bool} {n n' : Node} (h : recasts admits n n') :
    Recasts admits n n' := by
  rcases Bool.or_eq_true_iff.1 h with h | h
  · exact .alike (.of_alike h)
  · obtain ⟨hfile, hrecasts⟩ := Bool.and_eq_true_iff.1 h
    unfold standsForFile at hfile
    split at hfile
    · obtain ⟨e, he, hentry⟩ := List.any_eq_true.1 hfile
      obtain ⟨hname, hvalue⟩ := Bool.and_eq_true_iff.1 hentry
      split at hvalue
      · exact .file ⟨e, he, beq_iff_eq.1 hname, _, ‹_›⟩ (.of_recasts (fun _ _ _ => .of_alike) hrecasts)
      · cases hvalue
    · cases hfile

variable {p : Place} {n n' : Node} {followed after : Nat} {stream : StreamSpec}

/-- **A stream is read** by taking in the content, and asking what it stands for. -/
theorem read_eq_ok_iff :
    StreamSpec.read p n followed = .ok (stream, after) ↔
      ∃ c, p.content n followed = .ok (c, after) ∧ ofContent? c = some stream := by
  rw [StreamSpec.read, bind_eq_ok_iff]
  constructor
  · rintro ⟨c, between, hcontent, hread⟩
    cases hstream : ofContent? c with
    | none =>
      rw [hstream] at hread
      exact absurd hread complain_ne_ok
    | some stream' =>
      rw [hstream] at hread
      obtain ⟨rfl, rfl⟩ := pure_eq_ok_iff.1 hread
      exact ⟨c, hcontent, hstream⟩
  · rintro ⟨c, hcontent, hstream⟩
    exact ⟨c, after, hcontent, by rw [hstream]; rfl⟩

/-- The content of a foreign entry can be taken in, and says nothing of a file. -/
lemma exists_content_of_foreign {entry : Node × Node} (depth depth' : Nat)
    (h : Foreign fileNames ScalarValue.isNarrow entry) :
    ∃ c, EntryHolds (contentTo depth) depth' entry c ∧ fileEntry c = .other := by
  cases h with
  | @mk mark mark' name text style style' key unknown value =>
    have hholds (mark : Mark) (text : String) (style : ScalarStyle)
        (h : (ScalarValue.untagged text style).isNarrow) :
        Holds (contentTo depth) depth' (.scalar mark none text style)
          (.scalar (.untagged text style)) := by
      intro p followed _
      cases depth <;> exact contentBy_scalar_eq_ok_iff.2 ⟨h, rfl, rfl⟩
    refine ⟨(.scalar (.untagged name style), .scalar (.untagged text style')),
      ⟨hholds mark name style (by rw [key]; rfl), hholds mark' text style' value⟩, ?_⟩
    have hnamed : named? fileNames (.scalar (.text name)) = some 2 :=
      congrArg some (List.idxOf_eq_length unknown)
    unfold fileEntry
    rw [key, hnamed]
    split <;> simp_all

/-- So can the contents of foreign entries. -/
lemma exists_contents_of_foreign {added : List (Node × Node)} (depth depth' : Nat)
    (h : ∀ entry ∈ added, Foreign fileNames ScalarValue.isNarrow entry) :
    ∃ others, List.Forall₂ (EntryHolds (contentTo depth) depth') added others ∧
      ∀ e ∈ others, fileEntry e = .other := by
  induction added with
  | nil => exact ⟨[], .nil, by simp⟩
  | cons entry added ih =>
    obtain ⟨c, hholds, hother⟩ := exists_content_of_foreign depth depth' (h entry List.mem_cons_self)
    obtain ⟨others, hall, hothers⟩ := ih fun entry he => h entry (List.mem_cons_of_mem _ he)
    exact ⟨c :: others, .cons hholds hall, List.forall_mem_cons.2 ⟨hother, hothers⟩⟩

/-- **A stream is read alike** from a node that is alike, and from a file whose entries are recast.

**Proof sketch.** The content of the entries that are recast is that of the entries before, in another order,
and the content of foreign entries. In both there is a text, so that they are not the name of a mode; and
the file that they stand for does not depend on their order, nor on what says nothing of it. -/
theorem keeps_read : Keeps StreamSpec.read (Recasts ScalarValue.isNarrow) := by
  intro p n n' followed stream after h hread p' followed' hdepth
  obtain ⟨c, hcontent, hstream⟩ := read_eq_ok_iff.1 hread
  cases h with
  | alike h => exact read_eq_ok_iff.2 ⟨c, keeps_content h hcontent p' followed' hdepth, hstream⟩
  | @file mark entries n' hfile h =>
    obtain ⟨depth, contents, hp, hcontents, rfl⟩ := content_mapping_eq_ok_iff.1 hcontent
    obtain ⟨entry, hentry, -, path, hpath⟩ := hfile
    have hmakes := entryMakes_of_contentEntries hcontents
    obtain ⟨e, he, -, hvalue⟩ := exists_of_mem_forall₂ hentry hmakes
    cases h with
    | @mk _ mark' _ kept added entries' same foreign order =>
      have hkept : List.Forall₂ (EntryHolds (contentTo depth) p.depth) kept contents :=
        entryHolds_of_entryMakes (keeps_contentTo depth) same hmakes
      obtain ⟨others, hadded, hothers⟩ := exists_contents_of_foreign depth p.depth foreign
      obtain ⟨contents', hcontents', hperm⟩ :=
        List.perm_comp_forall₂ order (List.rel_append hkept hadded)
      refine read_eq_ok_iff.2 ⟨.mapping contents', content_mapping_eq_ok_iff.2
        ⟨depth, contents', hdepth.trans hp, ?_, rfl⟩, ?_⟩
      · exact contentEntries_of_entryHolds (hdepth ▸ hcontents') followed'
      · rwa [ofContent?_eq_of_perm (eq_of_meaning? hpath hvalue) he hothers hperm]

/-- **A stream in which something is said twice of a file** is refused. -/
theorem read_ne_ok_of_standsTwice {mark : Mark} {entries : List (Node × Node)}
    (h : standsTwice entryOf? [0, 1] entries) :
    StreamSpec.read p (.mapping mark none entries) followed ≠ .ok (stream, after) := by
  intro hread
  obtain ⟨c, hcontent, hstream⟩ := read_eq_ok_iff.1 hread
  obtain ⟨depth, contents, -, hcontents, rfl⟩ := content_mapping_eq_ok_iff.1 hcontent
  obtain ⟨entry, entry', index, htwice, hindex, hentry, hentry'⟩ := exists_of_standsTwice h
  have hsmall : index < 2 := by
    simp only [List.mem_cons, List.not_mem_nil, or_false] at hindex
    omega
  obtain ⟨part, hpart, hall⟩ :=
    exists_sublist_of_forall₂ htwice (entryMakes_of_contentEntries hcontents)
  obtain ⟨e, _, hfirst, hrest, rfl⟩ := List.forall₂_cons_left_iff.1 hall
  obtain ⟨e', _, hsecond, hnil, rfl⟩ := List.forall₂_cons_left_iff.1 hrest
  obtain rfl := List.forall₂_nil_left_iff.1 hnil
  rw [ofContent?_eq_none_of_twice hpart hsmall (named?_of_entryOf? hentry hfirst.1)
    (named?_of_entryOf? hentry' hsecond.1)] at hstream
  cases hstream

end StreamSpec

end Launcher
