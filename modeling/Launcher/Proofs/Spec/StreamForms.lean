import Launcher.Proofs.Spec.FileEntries
import Launcher.Proofs.Yaml.Denotes
/-!
# The forms of a stream

A stream is written as the name of a mode or as the entries of a file, and no tag says which. What is
written is taken in, and one form after the other is tried. A mode can also be written as a mapping of its
name alone, so that a mapping is tried as both.

Nothing is accepted in both forms, so it does not matter which is tried first. A mapping with an entry for
the path stands for a file, or for nothing; one without stands for no file.

## Main definitions

* `Launcher.Yaml.Content.ofEntries` — a mapping whose keys are texts.
* `Launcher.StreamSpec.valuesOf` — the values behind a key.
* `Launcher.StreamSpec.forms` — the forms of a stream, in the order in which they are tried;
  `Launcher.StreamSpec.readBy` tries them in any order.

## Main results

* `Launcher.StreamSpec.readBy_eq_of_perm` — the order in which the forms are tried.
* `Launcher.StreamSpec.fileOfContent?_eq_some_iff` — a file, by the values of its entries.
* `Launcher.StreamSpec.read_eq_ok_iff_of_denotes` — the stream of a node, by the value of the node.
* `Launcher.StreamSpec.reads_one_form` — how the forms of a stream are told apart.
-/

namespace Launcher

open Yaml Yaml.Place

/-! ## Mappings of texts -/

/-- A mapping whose keys are texts. -/
def Yaml.Content.ofEntries (entries : List (String × Content)) : Content :=
  .mapping (entries.map fun e => (.scalar (.text e.1), e.2))

namespace StreamSpec

/-- The values behind a key, in order. -/
def valuesOf (key : String) (entries : List (String × Content)) : List Content :=
  (entries.filter fun e => e.1 == key).map Prod.snd

/-! ## Forms -/

/-- The forms of a stream, in the order in which they are tried. -/
def forms : List (Content → Option StreamSpec) :=
  [fun c => (modeOfContent? c).map .mode, fileOfContent?]

/-- The reader of a stream that tries some forms in their order. -/
def readBy (tried : List (Content → Option StreamSpec)) (p : Place) (n : Node) : Reader StreamSpec := do
  let c ← p.content n
  match tried.findSome? fun form => form c with
  | some stream => pure stream
  | none => Reader.complain "data did not match any variant of untagged enum StdioSpec"

/-- A content stands for the stream of the first form that it has. -/
lemma ofContent?_eq_findSome? (c : Content) : ofContent? c = forms.findSome? fun form => form c := by
  simp only [ofContent?, forms, List.findSome?_cons, List.findSome?_nil]
  cases modeOfContent? c with
  | some mode => rfl
  | none => cases fileOfContent? c <;> rfl

/-- Nothing but a mapping stands for a file, and there is a path in it. -/
lemma exists_of_fileOfContent? {c : Content} {stream : StreamSpec} (h : fileOfContent? c = some stream) :
    ∃ contents, c = .mapping contents ∧ ∃ e ∈ contents, ∃ path, e.2 = .scalar (.text path) := by
  cases c with
  | mapping contents =>
    obtain ⟨d, hd, hfile⟩ := Option.bind_eq_some_iff.1 h
    obtain ⟨path, hpath, -⟩ := Option.bind_eq_some_iff.1 hfile
    obtain ⟨e, he, path, hentry⟩ := exists_path_of_fileEntries? hd rfl (by simp [hpath])
    exact ⟨contents, rfl, e, he, path, eq_text_of_fileEntry hentry⟩
  | scalar value => cases h
  | sequence items => cases h

/-- **Nothing is accepted in both forms.** -/
theorem modeOfContent?_eq_none_of_file {c : Content} {stream : StreamSpec}
    (h : fileOfContent? c = some stream) : modeOfContent? c = none := by
  obtain ⟨contents, rfl, e, he, path, hpath⟩ := exists_of_fileOfContent? h
  exact modeOfContent?_eq_none he hpath

/-- What is found does not depend on the order, if nothing else could be found. -/
lemma findSome?_eq_of_perm {α β : Type} {f : α → Option β} {as as' : List α} (h : as.Perm as')
    (hone : as.Pairwise fun a a' => f a = none ∨ f a' = none) : as.findSome? f = as'.findSome? f := by
  induction h with
  | nil => rfl
  | cons a h ih => rw [List.findSome?_cons, List.findSome?_cons, ih (List.pairwise_cons.1 hone).2]
  | swap a a' as =>
    have hnone := (List.pairwise_cons.1 hone).1 a List.mem_cons_self
    simp only [List.findSome?_cons]
    rcases hnone with ha | ha <;> rw [ha]
  | trans h₁ h₂ ih₁ ih₂ =>
    exact (ih₁ hone).trans (ih₂ (h₁.pairwise hone fun h => h.symm))

/-- No content has two forms. -/
lemma pairwise_forms (c : Content) : forms.Pairwise fun form form' => form c = none ∨ form' c = none := by
  refine List.pairwise_pair.2 ?_
  cases h : fileOfContent? c with
  | none => exact .inr rfl
  | some stream => exact .inl (congrArg (Option.map mode) (modeOfContent?_eq_none_of_file h))

/-- The order in which the forms are tried does not matter. -/
lemma readBy_eq_of_perm {tried : List (Content → Option StreamSpec)} (h : tried.Perm forms) :
    readBy tried = StreamSpec.read := by
  funext p n
  unfold readBy StreamSpec.read
  congr 1
  funext c
  have hfound : (tried.findSome? fun form => form c) = ofContent? c := by
    rw [ofContent?_eq_findSome?, findSome?_eq_of_perm h.symm (pairwise_forms c)]
  generalize (tried.findSome? fun form => form c) = found at hfound ⊢
  subst hfound
  rfl

/-! ## Entries by their names -/

variable {entries : List (String × Content)} {d d' : FileDraft} {name path : String} {append : Bool}
  {e : String × Content}

/-- The values behind a key, one entry more. -/
lemma valuesOf_cons : valuesOf name (e :: entries) =
    if e.1 = name then e.2 :: valuesOf name entries else valuesOf name entries := by
  by_cases h : e.1 = name <;> simp [valuesOf, h]

/-- Some values are put where one may be: there was none before, or there is no value. -/
def Fills {α : Type} (wrap : α → Content) (before : Option α) (values : List Content)
    (after : Option α) : Prop :=
  values = [] ∧ after = before ∨ before = none ∧ ∃ a, values = [wrap a] ∧ after = some a

section

variable {α : Type} {wrap : α → Content} {before after : Option α} {values : List Content}
  {value : Content}

/-- A value can be put if there was none before, and nothing can be put behind it. -/
lemma fills_cons_iff : Fills wrap before (value :: values) after ↔
    before = none ∧ ∃ a, value = wrap a ∧ Fills wrap (some a) values after := by
  simp only [Fills, List.cons_ne_nil, false_and, false_or, List.cons.injEq]
  grind

end

/-- An entry for the path is put if there was none, and its value is a text. -/
lemma put_file_iff {value : Content} : (fileEntry (.scalar (.text "file"), value)).put d = some d' ↔
    d.file = none ∧ ∃ path, value = .scalar (.text path) ∧ d' = { d with file := some path } := by
  have hnamed : named? fileNames (.scalar (.text "file")) = some 0 := by decide
  unfold fileEntry
  rw [hnamed]
  rcases value with (_ | _ | _ | _ | _ | _ | path) | _ | _ <;> obtain ⟨_ | _, _⟩ := d <;>
    simp [FileEntry.put, eq_comm]

/-- An entry for the flag is put if there was none, and its value is a truth value. -/
lemma put_append_iff {value : Content} :
    (fileEntry (.scalar (.text "append"), value)).put d = some d' ↔
      d.append = none ∧ ∃ on, value = .scalar (.bool on) ∧ d' = { d with append := some on } := by
  have hnamed : named? fileNames (.scalar (.text "append")) = some 1 := by decide
  unfold fileEntry
  rw [hnamed]
  rcases value with (_ | on | _ | _ | _ | _ | _) | _ | _ <;> obtain ⟨_, _ | _⟩ := d <;>
    simp [FileEntry.put, eq_comm]

/-- An entry of another name changes nothing. -/
lemma put_foreign_iff {value : Content} (hfile : name ≠ "file") (happend : name ≠ "append") :
    (fileEntry (.scalar (.text name), value)).put d = some d' ↔ d' = d := by
  have hnamed : named? fileNames (.scalar (.text name)) = some 2 :=
    congrArg some (List.idxOf_eq_length (by simp [fileNames, hfile, happend]))
  have hother : fileEntry (.scalar (.text name), value) = .other := by
    unfold fileEntry
    rw [hnamed]
    split <;> simp_all
  rw [hother, FileEntry.put, Option.some.injEq, eq_comm]

/-- **What the entries of a file say**, by the values behind each name. -/
theorem fileEntries?_eq_some_iff :
    fileEntries? (entries.map fun e => (.scalar (.text e.1), e.2)) d = some d' ↔
      Fills (fun path => .scalar (.text path)) d.file (valuesOf "file" entries) d'.file ∧
        Fills (fun on => .scalar (.bool on)) d.append (valuesOf "append" entries) d'.append := by
  induction entries generalizing d with
  | nil =>
    obtain ⟨file, append⟩ := d
    obtain ⟨file', append'⟩ := d'
    simp [fileEntries?, valuesOf, Fills, eq_comm]
  | cons e entries ih =>
    obtain ⟨key, value⟩ := e
    rw [List.map_cons, fileEntries?_cons, Option.bind_eq_some_iff]
    simp only [ih, valuesOf_cons]
    by_cases hfile : key = "file"
    · subst hfile
      simp only [put_file_iff, if_true, fills_cons_iff]
      grind
    by_cases happend : key = "append"
    · subst happend
      simp only [put_append_iff, if_true, fills_cons_iff]
      grind
    · simp only [put_foreign_iff hfile happend, if_neg hfile, if_neg happend, exists_eq_left]

/-- **A file**, by the values of its entries: one path, and one flag or none. -/
theorem fileOfContent?_eq_some_iff {stream : StreamSpec} :
    fileOfContent? (.ofEntries entries) = some stream ↔
      ∃ path append, valuesOf "file" entries = [.scalar (.text path)] ∧
        (valuesOf "append" entries = [] ∧ append = false ∨
          valuesOf "append" entries = [.scalar (.bool append)]) ∧
        stream = .file path append := by
  constructor
  · intro h
    obtain ⟨d, hd, hfile⟩ := Option.bind_eq_some_iff.1 h
    obtain ⟨path, hpath, hstream⟩ := Option.bind_eq_some_iff.1 hfile
    obtain ⟨hpaths, hflags⟩ := fileEntries?_eq_some_iff.1 hd
    refine ⟨path, d.append.getD false, ?_, ?_, (Option.some.inj hstream).symm⟩
    · rcases hpaths with ⟨-, hnone⟩ | ⟨-, path', hpaths, hsome⟩
      · rw [hnone] at hpath
        cases hpath
      · rw [hpath] at hsome
        rw [hpaths, Option.some.inj hsome]
    · rcases hflags with ⟨hflags, hnone⟩ | ⟨-, append, hflags, hsome⟩
      · exact .inl ⟨hflags, by rw [hnone]; rfl⟩
      · exact .inr (by rw [hflags, hsome]; rfl)
  · rintro ⟨path, append, hpaths, hflags, rfl⟩
    have hpath : Fills (fun path => .scalar (.text path)) none (valuesOf "file" entries) (some path) :=
      .inr ⟨rfl, path, hpaths, rfl⟩
    rcases hflags with ⟨hflags, rfl⟩ | hflags
    · have hd : fileEntries? (entries.map fun e => (.scalar (.text e.1), e.2)) {} =
          some { file := some path } :=
        fileEntries?_eq_some_iff.2 ⟨hpath, .inl ⟨hflags, rfl⟩⟩
      exact Option.bind_eq_some_iff.2 ⟨_, hd, rfl⟩
    · have hd : fileEntries? (entries.map fun e => (.scalar (.text e.1), e.2)) {} =
          some { file := some path, append := some append } :=
        fileEntries?_eq_some_iff.2 ⟨hpath, .inr ⟨rfl, append, hflags, rfl⟩⟩
      exact Option.bind_eq_some_iff.2 ⟨_, hd, rfl⟩

/-- A mapping with an entry for the path is not the name of a mode. -/
lemma modeOfContent?_ofEntries (h : "file" ∈ entries.map Prod.fst) :
    modeOfContent? (.ofEntries entries) = none := by
  have hnamed : named? (StreamMode.all.map StreamMode.name) (.scalar (.text "file")) = some 2 := by
    decide
  obtain ⟨e, he, hkey⟩ := List.mem_map.1 h
  unfold modeOfContent? Content.ofEntries
  split
  · cases ‹Content.mapping _ = _›
  next key hmap =>
    obtain ⟨e', rfl, hentry⟩ := List.map_eq_singleton_iff.1 (Content.mapping.inj hmap)
    obtain rfl := List.mem_singleton.1 he
    obtain rfl : .scalar (.text e.1) = key := congrArg Prod.fst hentry
    rw [hkey, hnamed]
    rfl
  · rfl

/-- A mapping with an entry for the path stands for a file, or for nothing. -/
lemma ofContent?_ofEntries (h : "file" ∈ entries.map Prod.fst) :
    ofContent? (.ofEntries entries) = fileOfContent? (.ofEntries entries) := by
  rw [ofContent?, modeOfContent?_ofEntries h]

/-- A mapping without an entry for the path stands for no file. -/
lemma fileOfContent?_ofEntries (h : "file" ∉ entries.map Prod.fst) :
    fileOfContent? (.ofEntries entries) = none := by
  rw [Option.eq_none_iff_forall_ne_some]
  intro stream hstream
  obtain ⟨path, append, hpaths, -⟩ := fileOfContent?_eq_some_iff.1 hstream
  have hmem : Content.scalar (.text path) ∈ valuesOf "file" entries := hpaths ▸ List.mem_singleton_self _
  obtain ⟨e, he, -⟩ := List.mem_map.1 hmem
  obtain ⟨hentry, hkey⟩ := List.mem_filter.1 he
  exact h (beq_iff_eq.1 hkey ▸ List.mem_map_of_mem hentry)

/-- A scalar stands for a stream if it is the name of a mode. -/
lemma ofContent?_scalar_eq_some_iff {value : ScalarValue} {stream : StreamSpec} :
    ofContent? (.scalar value) = some stream ↔
      value = .text "inherit" ∧ stream = .mode .inherit ∨
        value = .text "discard" ∧ stream = .mode .discard := by
  cases value with
  | text name =>
    have hmode : ofContent? (.scalar (.text name)) = (StreamMode.ofName? name).map .mode := by
      simp only [ofContent?, modeOfContent?]
      cases StreamMode.ofName? name <;> rfl
    rw [hmode, StreamMode.ofName?]
    by_cases hinherit : name = "inherit"
    · subst hinherit
      simp [StreamMode.all, StreamMode.name, eq_comm]
    · by_cases hdiscard : name = "discard"
      · subst hdiscard
        simp [StreamMode.all, StreamMode.name, eq_comm]
      · simp [StreamMode.all, StreamMode.name, hinherit, hdiscard, Ne.symm hinherit, Ne.symm hdiscard]
  | _ => simp [ofContent?, modeOfContent?, fileOfContent?]

/-! ## The forms of a stream -/

/-- **The stream of a node** is the one that its value stands for, if the value can be taken in. -/
theorem read_eq_ok_iff_of_denotes {p : Place} {n : Node} {v : Content} {aliases followed after : Nat}
    {stream : StreamSpec} (h : Denotes p.document n v aliases) :
    StreamSpec.read p n followed = .ok (stream, after) ↔
      v.fits p.depth ∧ p.document.Affords followed aliases ∧ after = followed + aliases ∧
        ofContent? v = some stream := by
  simp only [read_eq_ok_iff, content_eq_ok_iff h]
  constructor
  · rintro ⟨_, ⟨hfits, haffords, rfl, rfl⟩, hstream⟩
    exact ⟨hfits, haffords, rfl, hstream⟩
  · rintro ⟨hfits, haffords, rfl, hstream⟩
    exact ⟨v, ⟨hfits, haffords, rfl, rfl⟩, hstream⟩

/-- **The forms of a stream are told apart.** What can be taken in of a node is the value that it denotes;
what cannot is refused (`Launcher.Yaml.Content.fits`, `Launcher.Yaml.Document.Affords`). Nothing is accepted
in two forms, so the order in which they are tried does not matter. A scalar is accepted if it is the name
of a mode, and a sequence never. A mapping whose keys are texts, with an entry for the path, is accepted if
there is one path, which is a text, and one flag, which is a truth value, or none; and then it leads to this
file, whatever other entries it has. Without an entry for the path, it never leads to a file.

**Proof sketch.** What a node denotes is its content, and each form looks at the content. A file has a path,
which is a text, and the name of a mode stands in front of null. -/
theorem reads_one_form {p : Place} {n : Node} {v : Content} {aliases followed : Nat}
    (h : Denotes p.document n v aliases) :
    (forms.Pairwise fun form form' => form v = none ∨ form' v = none) ∧
    (∀ tried : List (Content → Option StreamSpec), tried.Perm forms →
      readBy tried p n = StreamSpec.read p n) ∧
    (∀ value, v = .scalar value → ∀ stream after,
      StreamSpec.read p n followed = .ok (stream, after) ↔
        p.document.Affords followed aliases ∧ after = followed + aliases ∧
          (value = .text "inherit" ∧ stream = .mode .inherit ∨
            value = .text "discard" ∧ stream = .mode .discard)) ∧
    (∀ items, v = .sequence items → ∀ stream after,
      StreamSpec.read p n followed ≠ .ok (stream, after)) ∧
    (∀ entries, v = .ofEntries entries → "file" ∈ entries.map Prod.fst → ∀ stream after,
      StreamSpec.read p n followed = .ok (stream, after) ↔
        v.fits p.depth ∧ p.document.Affords followed aliases ∧ after = followed + aliases ∧
          ∃ path append, valuesOf "file" entries = [.scalar (.text path)] ∧
            (valuesOf "append" entries = [] ∧ append = false ∨
              valuesOf "append" entries = [.scalar (.bool append)]) ∧
            stream = .file path append) ∧
    (∀ entries, v = .ofEntries entries → "file" ∉ entries.map Prod.fst → ∀ path append after,
      StreamSpec.read p n followed ≠ .ok (.file path append, after)) := by
  refine ⟨pairwise_forms v, fun tried hperm => by rw [readBy_eq_of_perm hperm], ?_, ?_, ?_, ?_⟩
  · rintro value rfl stream after
    rw [read_eq_ok_iff_of_denotes h, ofContent?_scalar_eq_some_iff, Content.fits_scalar, and_iff_right_iff_imp]
    rintro ⟨-, -, ⟨rfl, -⟩ | ⟨rfl, -⟩⟩ <;> rfl
  · rintro items rfl stream after haccepts
    obtain ⟨-, -, -, hstream⟩ := (read_eq_ok_iff_of_denotes h).1 haccepts
    cases hstream
  · rintro entries rfl hkey stream after
    rw [read_eq_ok_iff_of_denotes h, ofContent?_ofEntries hkey, fileOfContent?_eq_some_iff]
  · rintro entries rfl hkey path append after haccepts
    obtain ⟨-, -, -, hstream⟩ := (read_eq_ok_iff_of_denotes h).1 haccepts
    unfold ofContent? at hstream
    split at hstream
    · cases hstream
    · rw [fileOfContent?_ofEntries hkey] at hstream
      cases hstream

/-- A file among foreign entries, one of which is an alias of another. -/
theorem reads_one_form_of_alias :
    let d := Document.ofText "append: true\nnote: &a [1.5, \x7bb: c\x7d]\nfile: x\nmore: *a\n"
    let note := .sequence [.scalar (.float "1.5"), .ofEntries [("b", .scalar (.text "c"))]]
    let entries := [("append", .scalar (.bool true)), ("note", note), ("file", .scalar (.text "x")),
      ("more", note)]
    Denotes d d.root (.ofEntries entries) 1 ∧
      StreamSpec.read { document := d } d.root 0 = .ok (.file "x" true, 1) := by
  intro d note entries
  have hdenotes : Denotes d d.root (.ofEntries entries) 1 :=
    .of_denotes? 4 (by decide +kernel)
  have haffords : d.Affords 0 1 := .inr (by decide +kernel)
  obtain ⟨-, -, -, -, hfile, -⟩ := @reads_one_form { document := d } d.root _ 1 0 hdenotes
  exact ⟨hdenotes, (hfile entries rfl (by decide) _ _).2
    ⟨by decide +kernel, haffords, rfl, "x", true, rfl, .inr rfl, rfl⟩⟩

/-- So many sequences inside of each other, the innermost one empty. -/
def nested : Nat → Content
  | 0 => .sequence []
  | depth + 1 => .sequence [nested depth]

/-- **A foreign entry that cannot be taken in** refuses the file: a whole number that fits in 128 bits but
not in 64, or sequences of which too many are open inside of each other. -/
theorem foreign_entry_refuses_file :
    let d := Document.ofText "file: x\nfoo: 99999999999999999999\n"
    let word (text : String) := Piece.leaf (.scalar {} none text .plain)
    let deep : Document :=
      { pieces := [.mappingStart {} none, word "file", word "x", word "foo"] ++
          List.replicate 128 (.sequenceStart {} none) ++ List.replicate 129 .collectionEnd }
    (d.fault = none ∧ d.more = false ∧
      Denotes d d.root (.ofEntries [("file", .scalar (.text "x")),
        ("foo", .scalar (.wide 99999999999999999999 "u128"))]) 0 ∧
      ∀ stream, d.read StreamSpec.read ≠ .ok stream) ∧
    (Denotes deep deep.root (.ofEntries [("file", .scalar (.text "x")), ("foo", nested 127)]) 0 ∧
      ∀ stream, deep.read StreamSpec.read ≠ .ok stream) := by
  intro d word deep
  have hrefused {d : Document} {v : Content} {aliases : Nat} (h : Denotes d d.root v aliases)
      (hfits : v.fits 128 = false) (stream : StreamSpec) : d.read StreamSpec.read ≠ .ok stream := by
    intro hread
    obtain ⟨⟨after, hstream⟩, -⟩ := Document.read_eq_ok_iff.1 hread
    obtain ⟨htrue, -⟩ := (read_eq_ok_iff_of_denotes h).1 hstream
    exact Bool.false_ne_true (hfits.symm.trans htrue)
  have hwide : Denotes d d.root (.ofEntries [("file", .scalar (.text "x")),
      ("foo", .scalar (.wide 99999999999999999999 "u128"))]) 0 :=
    .of_denotes? 2 (by decide +kernel)
  have hdeep : Denotes deep deep.root
      (.ofEntries [("file", .scalar (.text "x")), ("foo", nested 127)]) 0 :=
    .of_denotes? 130 (by decide +kernel)
  exact ⟨⟨by decide +kernel, by decide +kernel, hwide, hrefused hwide (by decide +kernel)⟩,
    hdeep, hrefused hdeep (by decide +kernel)⟩

end StreamSpec

end Launcher
