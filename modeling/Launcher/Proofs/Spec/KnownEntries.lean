import Launcher.Proofs.Spec.FileEntries
/-!
# Loading depends on the known entries alone

A launch spec is loaded from a mapping, and there can be mappings in it: the flags about consoles, the
options of a job, and the files of streams. In each of them the entries can be put in any order, and entries
of other names can be added, and the launch spec is the same. An entry of a known name must not stand there
twice.

The mapping of a file is read in another way than the others, and a value in it that nobody asks for can
still be refused (`Launcher.StreamSpec`).

## Main definitions

* `Launcher.RecastRecord`, `Launcher.Spec.Recasts` — the known entries are put in another order, with others
  among them; `Launcher.Spec.recasts` computes it.
* `Launcher.Spec.repeats` — a known name stands twice in a mapping.

## Main results

* `Launcher.Spec.keeps_read` — a launch spec is read alike from a document that is recast.
* `Launcher.Spec.read_ne_ok_of_repeats` — what is repeated is refused.
* `Launcher.Spec.load_known_entries` — the same about loading a text.
* `Launcher.Spec.wide_number_is_refused` — a number that nobody asks for.
-/

namespace Launcher

open Yaml Yaml.Place

/-! ## Records of flags -/

/-- **A record of simple values** that is alike, or whose entries are recast. -/
def RecastRecord {σ : Type} (known : List (Place.Field σ)) (n n' : Node) : Prop :=
  Alike n n' ∨ Yaml.Recasts (known.map Place.Field.name) (fun _ => true) (fun _ => Alike) n n'

/-- A recast record is a node of the same kind. -/
lemma RecastRecord.kin {σ : Type} {known : List (Place.Field σ)} {n n' : Node}
    (h : RecastRecord known n n') : Kin n n' :=
  h.elim Alike.kin Yaml.Recasts.kin

/-- Whether a record of simple values is recast. -/
def recastRecord {σ : Type} (known : List (Place.Field σ)) (n n' : Node) : Bool :=
  alike n n' || recasts (known.map Place.Field.name) (fun _ => true) (fun _ => alike) n n'

/-- What is said can be computed. -/
lemma RecastRecord.of_recastRecord {σ : Type} {known : List (Place.Field σ)} {n n' : Node}
    (h : recastRecord known n n') : RecastRecord known n n' :=
  (Bool.or_eq_true_iff.1 h).imp .of_alike (.of_recasts fun _ _ _ => .of_alike)

/-- **A record of simple values** is read alike from a node that is recast. -/
theorem keeps_recastRecord {α σ : Type} {known : List (Place.Field σ)} {expected : String} {start : σ}
    {finish : σ → Except String α} (hkeeps : ∀ field ∈ known, Keeps field.read Alike)
    (hcommutes : known.Pairwise Place.Field.Commutes) :
    Keeps (Place.record expected known start finish) (RecastRecord known) :=
  keeps_record hkeeps (fun _ _ _ => Alike.kin) (fun _ _ _ h => h) hcommutes

/-- A field is kept if its value is, whatever becomes of that in the record. -/
lemma keeps_put {α σ : Type} {read : Place → Node → Reader α} {R S : Node → Node → Prop}
    (h : Keeps read S) (hRS : ∀ n n', R n n' → S n n') (put : α → σ → σ) :
    Keeps (fun p n => put <$> read p n) R :=
  (h.mono hRS).map put

/-- It does not matter which flag of a console is put first. -/
lemma ConsoleSpec.fields_commute : fields.Pairwise Place.Field.Commutes := by
  simp only [fields, List.pairwise_cons, List.forall_mem_cons, List.not_mem_nil, false_imp_iff,
    implies_true, List.Pairwise.nil, and_true]
  and_intros <;> exact commutes_of_puts fun _ _ _ => rfl

/-- The flags of a console are read alike from a recast mapping. -/
lemma ConsoleSpec.keeps_read : Keeps ConsoleSpec.read (RecastRecord fields) := by
  refine keeps_recastRecord ?_ fields_commute
  simp only [fields, List.forall_mem_cons, List.not_mem_nil, false_imp_iff, implies_true, and_true]
  and_intros <;> exact keeps_put keeps_bool (fun _ _ => Alike.kin) _

/-- The options of a job are read alike from a recast mapping. -/
lemma JobOptions.keeps_read : Keeps JobOptions.read (RecastRecord fields) := by
  refine keeps_recastRecord ?_ (List.pairwise_singleton _ _)
  rintro field hfield
  obtain rfl := List.mem_singleton.1 hfield
  exact keeps_put keeps_bool (fun _ _ => Alike.kin) _

/-! ## Launch specs -/

namespace Spec

variable {admits : ScalarValue → Bool} {n n' : Node}

/-- What a value in a launch spec is, as far as its entries go. -/
inductive ValueKind where
  | stream
  | console
  | job
  | plain

/-- What stands behind a name. -/
def valueKind : Option String → ValueKind
  | some "stdin" | some "stdout" | some "stderr" => .stream
  | some "console" => .console
  | some "job" => .job
  | _ => .plain

/-- Few fields have a value with entries. -/
lemma mem_of_valueKind_ne_plain {name : Option String} (h : valueKind name ≠ .plain) :
    name ∈ ["stdin", "stdout", "stderr", "console", "job"].map some := by
  unfold valueKind at h
  split at h <;> simp at h ⊢

/-- What the value of a field may be replaced by: the mapping of a file, of flags or of options may be
recast, and any other value stays alike. -/
def Related (admits : ScalarValue → Bool) (name : Option String) : Node → Node → Prop :=
  match valueKind name with
  | .stream => StreamSpec.Recasts admits
  | .console => RecastRecord ConsoleSpec.fields
  | .job => RecastRecord JobOptions.fields
  | .plain => Alike

/-- **A document is recast**: the entries of a launch spec, and those of the mappings in it. -/
def Recasts (admits : ScalarValue → Bool) : Node → Node → Prop :=
  Yaml.Recasts (fields.map Place.Field.name) (fun _ => true) (Related admits)

/-- What the value of a field may be replaced by is a node of the same kind. -/
lemma Related.kin (name : Option String) (n n' : Node) (h : Related admits name n n') : Kin n n' := by
  unfold Related at h
  generalize valueKind name = kind at h
  cases kind with
  | stream => exact StreamSpec.Recasts.kin h
  | console => exact RecastRecord.kin h
  | job => exact RecastRecord.kin h
  | plain => exact Alike.kin h

/-- Any value may be replaced by one that is alike. -/
lemma related_of_alike (name : Option String) (n n' : Node) (h : Alike n n') :
    Related admits name n n' := by
  unfold Related
  cases valueKind name with
  | stream => exact .alike h
  | console => exact .inl h
  | job => exact .inl h
  | plain => exact h

/-- Whether the value of a field may be replaced by another. -/
def related (admits : ScalarValue → Bool) (name : Option String) : Node → Node → Bool :=
  match valueKind name with
  | .stream => StreamSpec.recasts admits
  | .console => recastRecord ConsoleSpec.fields
  | .job => recastRecord JobOptions.fields
  | .plain => alike

/-- Whether a document is recast. -/
def recasts (admits : ScalarValue → Bool) : Node → Node → Bool :=
  Yaml.recasts (fields.map Place.Field.name) (fun _ => true) (related admits)

/-- What is said can be computed. -/
lemma Recasts.of_recasts (h : recasts admits n n') : Recasts admits n n' := by
  refine Yaml.Recasts.of_recasts (fun name n n' hrelated => ?_) h
  unfold related at hrelated
  unfold Related
  generalize valueKind name = kind at hrelated ⊢
  cases kind with
  | stream => exact .of_recasts hrelated
  | console => exact .of_recastRecord hrelated
  | job => exact .of_recastRecord hrelated
  | plain => exact .of_alike hrelated

/-- It does not matter which field of a launch spec is put first. -/
lemma fields_commute : fields.Pairwise Place.Field.Commutes := by
  simp only [fields, List.pairwise_cons, List.forall_mem_cons, List.not_mem_nil, false_imp_iff,
    implies_true, List.Pairwise.nil, and_true]
  and_intros <;> exact commutes_of_puts fun _ _ _ => rfl

/-- Every field reads alike what its value may be replaced by. -/
lemma keeps_fields : ∀ field ∈ fields,
    Keeps field.read (Related ScalarValue.isNarrow (some field.name)) := by
  have hkin (n n' : Node) (h : Alike n n') : Kin n n' := h.kin
  have hoptional : Keeps (Place.optional (Place.text "path string")) Alike :=
    keeps_optional hkin ((keeps_text _).mono hkin)
  have hjob : Keeps (Place.optional JobOptions.read) (RecastRecord JobOptions.fields) :=
    keeps_optional (fun _ _ => RecastRecord.kin) JobOptions.keeps_read
  simp only [fields, List.forall_mem_cons, List.not_mem_nil, false_imp_iff, implies_true, and_true]
  exact ⟨keeps_put (keeps_text _) hkin _, keeps_put hoptional (fun _ _ h => h) _,
    keeps_put StreamSpec.keeps_read (fun _ _ h => h) _,
    keeps_put StreamSpec.keeps_read (fun _ _ h => h) _,
    keeps_put StreamSpec.keeps_read (fun _ _ h => h) _, keeps_put keeps_bool hkin _,
    keeps_put ConsoleSpec.keeps_read (fun _ _ h => h) _, keeps_put (keeps_bare _ _) hkin _,
    keeps_put hjob (fun _ _ h => h) _⟩

/-- **A launch spec** is read alike from a recast document. -/
theorem keeps_read : Keeps Spec.read (Recasts ScalarValue.isNarrow) :=
  (keeps_record keeps_fields Related.kin related_of_alike fields_commute).mono fun _ _ h => .inr h

/-! ### Names that stand there twice -/

/-- The value of a field is a mapping in which a known name stands twice. -/
def repeatsInside (name : Option String) : Node → Bool
  | .mapping _ none entries =>
    match valueKind name with
    | .stream => standsTwice StreamSpec.entryOf? [0, 1] entries
    | .console => standsTwice Node.text? (ConsoleSpec.fields.map Place.Field.name) entries
    | .job => standsTwice Node.text? (JobOptions.fields.map Place.Field.name) entries
    | .plain => false
  | _ => false

/-- **A known name stands twice** in a launch spec, or in a mapping in it. -/
def repeats : Node → Bool
  | .mapping _ none entries =>
    standsTwice Node.text? (fields.map Place.Field.name) entries ||
      entries.any fun e => repeatsInside e.1.text? e.2
  | _ => false

/-- No field can read a value in which something is repeated. -/
lemma exists_field_of_repeatsInside {name : Option String} (h : repeatsInside name n) :
    ∃ known field, name = some known ∧ fields.find? (fun field => field.name == known) = some field ∧
      ∀ p followed put after, field.read p n followed ≠ .ok (put, after) := by
  have hstream {mark : Mark} {entries : List (Node × Node)}
      (h : standsTwice StreamSpec.entryOf? [0, 1] entries) (put : StreamSpec → SpecDraft → SpecDraft)
      (p : Place) (followed : Nat) (d : SpecDraft → SpecDraft) (after : Nat) :
      (put <$> StreamSpec.read p (.mapping mark none entries)) followed ≠ .ok (d, after) := by
    intro hread
    obtain ⟨stream, hread, -⟩ := map_eq_ok_iff.1 hread
    exact StreamSpec.read_ne_ok_of_standsTwice h hread
  unfold repeatsInside at h
  split at h
  · have hmem : name ∈ ["stdin", "stdout", "stderr", "console", "job"].map some := by
      refine mem_of_valueKind_ne_plain fun hplain => ?_
      rw [hplain] at h
      cases h
    simp only [List.map_cons, List.map_nil, List.mem_cons, List.not_mem_nil, or_false] at hmem
    rcases hmem with rfl | rfl | rfl | rfl | rfl
    · exact ⟨"stdin", _, rfl, rfl, hstream h _⟩
    · exact ⟨"stdout", _, rfl, rfl, hstream h _⟩
    · exact ⟨"stderr", _, rfl, rfl, hstream h _⟩
    · refine ⟨"console", _, rfl, rfl, fun p followed put after hread => ?_⟩
      obtain ⟨c, hread, -⟩ := map_eq_ok_iff.1 hread
      exact record_ne_ok_of_standsTwice h hread
    · refine ⟨"job", _, rfl, rfl, fun p followed put after hread => ?_⟩
      obtain ⟨j, hread, -⟩ := map_eq_ok_iff.1 hread
      obtain ⟨j, hread, -⟩ := map_eq_ok_iff.1 hread
      exact record_ne_ok_of_standsTwice h hread
  · cases h

/-- **A launch spec in which something is repeated** is refused. -/
theorem read_ne_ok_of_repeats {p : Place} {s : Spec} {followed after : Nat} (h : repeats n) :
    Spec.read p n followed ≠ .ok (s, after) := by
  intro hread
  unfold repeats at h
  split at h
  · rcases Bool.or_eq_true_iff.1 h with h | h
    · exact record_ne_ok_of_standsTwice h hread
    · obtain ⟨e, he, hinside⟩ := List.any_eq_true.1 h
      obtain ⟨name, field, hname, hfind, hrefused⟩ := exists_field_of_repeatsInside hinside
      obtain ⟨depth, r, -, hfields, -⟩ := record_mapping_eq_ok_iff.1 hread
      obtain ⟨p, followed, put, after, hput⟩ := exists_read_of_fields_eq_ok hfields he hname hfind
      exact hrefused p followed put after hput
  · cases h

/-! ### Loading -/

/-- Loading is reading the document of the text. -/
lemma load_eq_ok_iff {text : String} {s : Spec} :
    load text = .ok s ↔ (Document.ofText text).read read = .ok s := by
  rw [load, parse]
  cases (Document.ofText text).read read <;> simp [Except.mapError]

/-- **Loading depends on the known entries alone.** If a launch spec is loaded from a text, the same one is
loaded from every text of one document that is recast, where no value that is added to the mapping of a
file is a whole number that fits in 128 bits but not in 64. A text in which a known name is repeated is never
loaded.

**Proof sketch.** Both are said of the root of the document, by `Launcher.Spec.keeps_read` and
`Launcher.Spec.read_ne_ok_of_repeats`; what else there is of a document, its places, its anchors and the
number of aliases, is nothing that a document without tags and aliases is read by. -/
theorem load_known_entries {text : String} :
    (∀ (s : Spec) (text' : String), load text = .ok s →
      (Document.ofText text').fault = none → (Document.ofText text').more = false →
      Recasts ScalarValue.isNarrow (Document.ofText text).root (Document.ofText text').root →
      load text' = .ok s) ∧
    (repeats (Document.ofText text).root → ∃ failure, load text = .error failure) := by
  constructor
  · intro s text' hload hwhole hsingle hrecast
    have hread := load_eq_ok_iff.1 hload
    exact load_eq_ok_iff.2 (Document.read_eq_ok_of_keeps keeps_read hrecast hwhole hsingle hread)
  · intro hrepeats
    cases hload : load text with
    | error failure => exact ⟨failure, rfl⟩
    | ok s =>
      obtain ⟨⟨after, hread⟩, -⟩ := Document.read_eq_ok_iff.1 (load_eq_ok_iff.1 hload)
      exact absurd hread (read_ne_ok_of_repeats hrepeats)

/-- A launch spec with its entries in another order and with others among them, and so the file in it; and
one in which the path of a file is given twice. -/
theorem load_known_entries_of_recast :
    load "command_line: a\nstdout:\n  append: true\n  file: x\n" =
      .ok { commandLine := "a", stdout := .file "x" true } ∧
    load "stdout:\n  file: x\n  mode: 8\n  append: true\nnote: b\ncommand_line: a\n" =
      .ok { commandLine := "a", stdout := .file "x" true } ∧
    ∃ failure, load "command_line: a\nstdout:\n  file: x\n  file: x\n" = .error failure := by
  have hload : load "command_line: a\nstdout:\n  append: true\n  file: x\n" =
      .ok { commandLine := "a", stdout := .file "x" true } := by decide +kernel
  exact ⟨hload, load_known_entries.1 _ _ hload (by decide +kernel) (by decide +kernel)
    (.of_recasts (by decide +kernel)), load_known_entries.2 (by decide +kernel)⟩

/-- **A number that nobody asks for** is refused all the same, when it is in the mapping of a file and fits
in 128 bits but not in 64. -/
theorem wide_number_is_refused :
    let text := "command_line: a\nstdout:\n  file: x\n"
    let text' := "command_line: a\nstdout:\n  file: x\n  foo: 99999999999999999999\n"
    Recasts (fun _ => true) (Document.ofText text).root (Document.ofText text').root ∧
      (Document.ofText text').fault = none ∧ (Document.ofText text').more = false ∧
      load text = .ok { commandLine := "a", stdout := .file "x" false } ∧
      ∃ failure, load text' = .error failure := by
  refine ⟨.of_recasts (by decide +kernel), by decide +kernel, by decide +kernel, by decide +kernel, ?_⟩
  have hrefused : (load "command_line: a\nstdout:\n  file: x\n  foo: 99999999999999999999\n").toOption =
      none := by decide +kernel
  generalize load "command_line: a\nstdout:\n  file: x\n  foo: 99999999999999999999\n" = result at hrefused ⊢
  cases result with
  | error failure => exact ⟨failure, rfl⟩
  | ok s => cases hrefused

end Spec

end Launcher
