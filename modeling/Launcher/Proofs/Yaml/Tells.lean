import Mathlib.Tactic.Lemma
import Launcher.Yaml.Content
import Launcher.Yaml.Writer
/-!
# Documents that tell a value

A value is written as a text, and the text is read as a tree of nodes. That the notation is faithful
means that the tree tells the value that was written: each text, truth value, number and name of a
variant is found again where it stood. Here it is taken for granted, and readers are shown to
understand a tree that tells a value, also when entries that have their default are left out of it.

## Main definitions

* `Launcher.Yaml.Tells` — a node tells a value; `Launcher.Yaml.tells` computes it.
* `Launcher.Yaml.Abridges` — a value with some entries left out that have their default.
* `Launcher.Yaml.Reads` — a reader makes something of every node that tells a value, abridged or not.
* `Launcher.Yaml.Chain` — the entries of a mapping put one record after another.

## Main results

* `Launcher.Yaml.reads_record` — a record is read from a mapping whose entries make it.
* `Launcher.Yaml.Document.read_eq_ok` — a document that tells a value is read.
-/

namespace Launcher.Yaml

open Place

/-! ## What nodes tell -/

mutual

/-- The node tells the value. A text that is written plain must not mean anything else. -/
inductive Tells : Node → Value → Prop
  | text {mark : Mark} {text : String} {style : ScalarStyle}
      (plain : style = .plain → ScalarValue.ofPlain text = .text text) :
      Tells (.scalar mark none text style) (.text text)
  | bool {mark : Mark} {text : String} {value : Bool} (word : bool? text = some value) :
      Tells (.scalar mark none text .plain) (.bool value)
  | variant {mark : Mark} {tag : Tag} {name text : String} {value : Int}
      (named : tag.variant? = some name) (number : int? text = some value) :
      Tells (.scalar mark (some tag) text .plain) (.variant name value)
  | mapping {mark : Mark} {nodes : List (Node × Node)} {entries : List (String × Value)}
      (all : TellsAll nodes entries) : Tells (.mapping mark none nodes) (.mapping entries)

/-- The nodes tell the entries, keys and values. -/
inductive TellsAll : List (Node × Node) → List (String × Value) → Prop
  | nil : TellsAll [] []
  | cons {key node : Node} {name : String} {v : Value} {nodes : List (Node × Node)}
      {entries : List (String × Value)} (named : Tells key (.text name)) (value : Tells node v)
      (rest : TellsAll nodes entries) : TellsAll ((key, node) :: nodes) ((name, v) :: entries)

end

/-- The document can be read to its end, there is no other behind it, and its root tells the value. -/
structure Document.Tells (d : Document) (v : Value) : Prop where
  whole : d.fault = none
  single : d.more = false
  root : Yaml.Tells d.root v

mutual

/-- Whether a node tells a value. -/
def tells : Node → Value → Bool
  | .scalar _ none text style, .text value =>
    text == value && (style != .plain || ScalarValue.ofPlain text == .text text)
  | .scalar _ none text .plain, .bool value => bool? text == some value
  | .scalar _ (some tag) text .plain, .variant name value =>
    tag.variant? == some name && int? text == some value
  | .mapping _ none nodes, .mapping entries => tellsAll nodes entries
  | _, _ => false

/-- Whether nodes tell some entries. -/
def tellsAll : List (Node × Node) → List (String × Value) → Bool
  | [], [] => true
  | (key, node) :: nodes, (name, v) :: entries =>
    tells key (.text name) && tells node v && tellsAll nodes entries
  | _, _ => false

end

mutual

/-- What is said can be computed. -/
lemma Tells.of_tells {n : Node} {v : Value} (h : tells n v) : Tells n v := by
  unfold tells at h
  split at h
  · simp only [Bool.and_eq_true, beq_iff_eq, Bool.or_eq_true, bne_iff_ne] at h
    obtain ⟨rfl, h⟩ := h
    exact .text fun hstyle => h.resolve_left fun hne => hne hstyle
  · exact .bool (beq_iff_eq.1 h)
  · simp only [Bool.and_eq_true, beq_iff_eq] at h
    exact .variant h.1 h.2
  · exact .mapping (.of_tellsAll h)
  · cases h

/-- So can what is said of entries. -/
lemma TellsAll.of_tellsAll {nodes : List (Node × Node)} {entries : List (String × Value)}
    (h : tellsAll nodes entries) : TellsAll nodes entries := by
  unfold tellsAll at h
  split at h
  · exact .nil
  · simp only [Bool.and_eq_true] at h
    exact .cons (.of_tells h.1.1) (.of_tells h.1.2) (.of_tellsAll h.2)
  · cases h

end

/-- So can what is said of a document. -/
lemma Document.Tells.of_tells {d : Document} {v : Value}
    (h : (d.fault.isNone && !d.more && tells d.root v) = true) : d.Tells v := by
  simp only [Bool.and_eq_true, Option.isNone_iff_eq_none, Bool.not_eq_true'] at h
  exact ⟨h.1.1, h.1.2, .of_tells h.2⟩

/-! ## Entries left out -/

mutual

/-- The second value is the first one, perhaps without some of the entries in `defaults`. -/
inductive Abridges (defaults : List (String × Value)) : Value → Value → Prop
  | refl (v : Value) : Abridges defaults v v
  | mapping {entries shorter : List (String × Value)} (all : AbridgesAll defaults entries shorter) :
      Abridges defaults (.mapping entries) (.mapping shorter)

/-- Each entry is there, perhaps abridged, or it is one of `defaults` and is left out. -/
inductive AbridgesAll (defaults : List (String × Value)) :
    List (String × Value) → List (String × Value) → Prop
  | nil : AbridgesAll defaults [] []
  | keep {name : String} {v v' : Value} {entries shorter : List (String × Value)}
      (value : Abridges defaults v v') (rest : AbridgesAll defaults entries shorter) :
      AbridgesAll defaults ((name, v) :: entries) ((name, v') :: shorter)
  | drop {name : String} {v : Value} {entries shorter : List (String × Value)}
      (default : (name, v) ∈ defaults) (rest : AbridgesAll defaults entries shorter) :
      AbridgesAll defaults ((name, v) :: entries) shorter

end

variable {α σ : Type} {defaults : List (String × Value)} {entries shorter : List (String × Value)}
  {v v' : Value} {n : Node} {nodes : List (Node × Node)} {p : Place} {followed depth : Nat}
  {name text : String}

/-- Nothing need be left out. -/
lemma AbridgesAll.refl (defaults entries : List (String × Value)) :
    AbridgesAll defaults entries entries := by
  induction entries with
  | nil => exact .nil
  | cons e rest ih => exact .keep (.refl _) ih

/-- A mapping is abridged to one with fewer entries. -/
lemma abridges_mapping_iff :
    Abridges defaults (.mapping entries) v' ↔
      ∃ shorter, v' = .mapping shorter ∧ AbridgesAll defaults entries shorter := by
  constructor
  · intro h
    cases h with
    | refl => exact ⟨entries, rfl, .refl _ _⟩
    | mapping all => exact ⟨_, rfl, all⟩
  · rintro ⟨shorter, rfl, all⟩
    exact .mapping all

/-- A text is not abridged. -/
@[simp]
lemma abridges_text_iff : Abridges defaults (.text text) v' ↔ v' = .text text := by
  constructor
  · intro h
    cases h
    rfl
  · rintro rfl
    exact .refl _

/-- A truth value is not abridged. -/
@[simp]
lemma abridges_bool_iff {value : Bool} : Abridges defaults (.bool value) v' ↔ v' = .bool value := by
  constructor
  · intro h
    cases h
    rfl
  · rintro rfl
    exact .refl _

/-- A variant is not abridged. -/
@[simp]
lemma abridges_variant_iff {value : Int} :
    Abridges defaults (.variant name value) v' ↔ v' = .variant name value := by
  constructor
  · intro h
    cases h
    rfl
  · rintro rfl
    exact .refl _

/-! ## Readers -/

/-- The reader makes `a` of every node that tells the value, abridged or not, where so many more
collections may be open inside of each other. -/
def Reads (defaults : List (String × Value)) (read : Place → Node → Reader α) (depth : Nat)
    (v : Value) (a : α) : Prop :=
  ∀ ⦃p n v'⦄ (followed : Nat), depth ≤ p.depth → p.inVariant = false → Abridges defaults v v' →
    Tells n v' → read p n followed = .ok (a, followed)

/-- A value that is there is read from nothing. -/
lemma pure_eq_ok (a : α) (followed : Nat) : (pure a : Reader α) followed = .ok (a, followed) := rfl

/-- A function of what is read. -/
lemma map_eq_ok {β : Type} {read : Reader α} {a : α} {after : Nat} {f : α → β}
    (h : read followed = .ok (a, after)) : (f <$> read) followed = .ok (f a, after) := by
  simp [Functor.map, StateT.map, Bind.bind, Except.bind, h]
  rfl

/-- More collections may be open. -/
lemma Reads.mono {read : Place → Node → Reader α} {a : α} {deeper : Nat}
    (h : Reads defaults read depth v a) (hle : depth ≤ deeper) : Reads defaults read deeper v a :=
  fun _ _ _ followed hdepth => h followed (Nat.le_trans hle hdepth)

/-- A node that tells something is no alias, and is read where it stands. -/
lemma Tells.enter_eq_ok {read : Place → Node → Reader α} {a : α} (h : Tells n v)
    (hread : read p n followed = .ok (a, followed)) : p.enter n read followed = .ok (a, followed) := by
  cases h <;> simp [enter, visit, located, hread]

/-- A text is read from itself. -/
lemma reads_text (expected : String) :
    Reads defaults (Place.text expected) 0 (.text text) text := by
  intro p n v' followed _ _ hshort htells
  obtain rfl := abridges_text_iff.1 hshort
  refine htells.enter_eq_ok ?_
  cases htells
  rfl

/-- A truth value is read from itself. -/
lemma reads_bool {value : Bool} : Reads defaults Place.bool 0 (.bool value) value := by
  intro p n v' followed _ _ hshort htells
  obtain rfl := abridges_bool_iff.1 hshort
  refine htells.enter_eq_ok ?_
  cases htells with
  | bool word =>
    simp [mayBe, word]
    rfl

/-- The word of a truth value, written plain, means it. -/
lemma ofPlain_of_bool? {value : Bool} (h : bool? text = some value) :
    ScalarValue.ofPlain text = .bool value := by
  have hword : text ∈ ["true", "True", "TRUE", "false", "False", "FALSE"] := by
    by_cases htrue : ["true", "True", "TRUE"].contains text
    · exact List.mem_append_left ["false", "False", "FALSE"] (List.contains_iff_mem.1 htrue)
    by_cases hfalse : ["false", "False", "FALSE"].contains text
    · exact List.mem_append_right ["true", "True", "TRUE"] (List.contains_iff_mem.1 hfalse)
    rw [bool?, if_neg htrue, if_neg hfalse] at h
    cases h
  simp only [List.mem_cons, List.not_mem_nil, or_false] at hword
  rcases hword with rfl | rfl | rfl | rfl | rfl | rfl <;> cases h <;> rfl

/-- A plain text that means something is not null. -/
lemma isNull_eq_false (h : ScalarValue.ofPlain text ≠ .null) :
    (text.isEmpty || isNullWord text) = false := by
  rw [Bool.eq_false_iff]
  intro hnull
  exact h (by rw [ScalarValue.ofPlain, if_pos hnull])

/-- The tag of a variant is not that of null. -/
lemma ne_null_of_variant? {tag : Tag} (h : tag.variant? = some name) : tag ≠ Tag.null := by
  rintro rfl
  have hlocal := Tag.isLocal_of_variant? h
  exact absurd hlocal (by decide)

/-- A value that is there is not missing. -/
lemma reads_optional {read : Place → Node → Reader α} {a : α} (h : Reads defaults read depth v a) :
    Reads defaults (Place.optional read) depth v (some a) := by
  intro p n v' followed hdepth hvariant hshort htells
  have hread := h followed hdepth hvariant hshort htells
  have hsome : (some <$> read p n) followed = .ok (some a, followed) := map_eq_ok hread
  suffices optional.present read p n = some <$> read p n by
    cases htells <;> exact (congrFun this followed).trans hsome
  cases htells with
  | text plain =>
    rename_i style
    by_cases hstyle : style = .plain
    · have hnull := isNull_eq_false (by rw [plain hstyle]; exact nofun)
      simp [optional.present, hstyle, hnull]
    · simp [optional.present, hstyle]
  | bool word =>
    have hnull := isNull_eq_false (by rw [ofPlain_of_bool? word]; exact nofun)
    simp [optional.present, hnull]
  | variant named number => simp [optional.present, ne_null_of_variant? named]
  | mapping all => rfl

/-! ## Variants -/

/-- A variant without content, by its name. -/
lemma reads_bare {names : List String} {ofName : String → α} {a : α} (hknown : name ∈ names)
    (hname : ofName name = a) :
    Reads defaults (Place.variant names fun chosen => Place.bare (ofName chosen)) 0 (.text name) a := by
  intro p n v' followed _ _ hshort htells
  obtain rfl := abridges_text_iff.1 hshort
  cases htells with
  | text plain =>
    simp [variant, variant.choose, located, known, hknown, bare, hname]
    rfl

/-- A variant with a number. -/
lemma reads_full {names : List String} {make : String → Int → α} {value : Int}
    (hknown : name ∈ names) (hlow : -0x80000000 ≤ value) (hhigh : value < 0x80000000) :
    Reads defaults (Place.variant names fun chosen content => do
      let value ← Place.full Place.int32 content
      pure (make chosen value)) 0 (.variant name value) (make name value) := by
  intro p n v' followed _ _ hshort htells
  obtain rfl := abridges_variant_iff.1 hshort
  cases htells with
  | variant named number =>
    simp [variant, variant.choose, variant.tagged, known, hknown, full, named, int32, enter, visit,
      mayBe, number, hlow, hhigh]
    rfl

/-! ## Records -/

/-- The entry puts a value into a record. When it may be left out, it changes nothing. -/
structure Step (defaults : List (String × Value)) (known : List (Place.Field σ)) (depth : Nat)
    (name : String) (v : Value) (r r' : σ) : Prop where
  kept : ∃ (α : Type) (read : Place → Node → Reader α) (put : α → σ → σ) (a : α),
    known.find? (fun field => field.name == name) = some ⟨name, fun p n => put <$> read p n⟩ ∧
      Reads defaults read depth v a ∧ put a r = r'
  dropped : (name, v) ∈ defaults → r' = r

/-- The entries, one after the other, make one record of another. -/
inductive Chain (defaults : List (String × Value)) (known : List (Place.Field σ)) (depth : Nat) :
    List (String × Value) → σ → σ → Prop
  | nil (r : σ) : Chain defaults known depth [] r r
  | cons {name : String} {v : Value} {rest : List (String × Value)} {r between r' : σ}
      (step : Step defaults known depth name v r between)
      (after : Chain defaults known depth rest between r') :
      Chain defaults known depth ((name, v) :: rest) r r'

variable {known : List (Place.Field σ)} {r r' start : σ}

/-- An entry that is always there. -/
lemma Step.of_reads {read : Place → Node → Reader α} {put : α → σ → σ} {a : α}
    (hknown : known.find? (fun field => field.name == name) =
      some ⟨name, fun p n => put <$> read p n⟩)
    (hreads : Reads defaults read depth v a) (hput : put a r = r') (hentry : (name, v) ∉ defaults) :
    Step defaults known depth name v r r' :=
  ⟨⟨α, read, put, a, hknown, hreads, hput⟩, fun hmem => absurd hmem hentry⟩

/-- An entry that may be left out when it has the default which is in the record already. -/
lemma Step.of_default {read : Place → Node → Reader α} {put : α → σ → σ} {a default : α}
    (hknown : known.find? (fun field => field.name == name) =
      some ⟨name, fun p n => put <$> read p n⟩)
    (hreads : Reads defaults read depth v a) (hput : put a r = r')
    (hdefault : (name, v) ∈ defaults → a = default) (hkeep : put default r = r) :
    Step defaults known depth name v r r' := by
  refine ⟨⟨α, read, put, a, hknown, hreads, hput⟩, fun hmem => ?_⟩
  rw [← hput, hdefault hmem, hkeep]

/-- Entries behind others go on with the record that those have made. -/
lemma Chain.append {later : List (String × Value)} {between : σ}
    (h : Chain defaults known depth entries r between)
    (h' : Chain defaults known depth later between r') :
    Chain defaults known depth (entries ++ later) r r' := by
  induction h with
  | nil => exact h'
  | cons step _ ih => exact .cons step (ih h')

/-- An entry stands as deep as the mapping that it is in. -/
lemma depth_child (p : Place) (key : Node) : (p.child key).depth = p.depth := by
  cases key <;> rfl

/-- An entry is in a variant if its mapping is. -/
lemma inVariant_child (p : Place) (key : Node) : (p.child key).inVariant = p.inVariant := by
  cases key <;> rfl

/-- **The entries of a mapping**, perhaps without some that have their default, make the record that
all of them make.

**Proof sketch.** By induction on the entries that are there. One that is kept is read and put into the
record; one that is left out would have changed nothing. -/
theorem fields_eq_ok {seen : List String} (hchain : Chain defaults known depth entries r r')
    (hshort : AbridgesAll defaults entries shorter) (htells : TellsAll nodes shorter)
    (hnodup : (entries.map Prod.fst).Nodup) (hseen : ∀ e ∈ entries, e.1 ∉ seen)
    (hdepth : depth ≤ p.depth) (hvariant : p.inVariant = false) :
    fields known p nodes seen r followed = .ok (r', followed) := by
  induction hchain generalizing shorter nodes seen with
  | nil =>
    cases hshort
    cases htells
    rfl
  | @cons name v rest r between r' step after ih =>
    rw [List.map_cons, List.nodup_cons] at hnodup
    cases hshort with
    | drop default hshort =>
      obtain rfl := step.dropped default
      exact ih hshort htells hnodup.2 fun e he => hseen e (List.mem_cons_of_mem _ he)
    | @keep _ _ v' _ shorter value hshort =>
      cases htells with
      | @cons key node _ _ nodes _ named hnode htells =>
        obtain ⟨α, read, put, a, hknown, hreads, rfl⟩ := step.kept
        have hkey : Reads defaults (Place.text "field identifier") 0 (.text name) name :=
          reads_text _
        have hname : Place.text "field identifier" p key followed = .ok (name, followed) :=
          hkey followed (Nat.zero_le _) hvariant (.refl _) named
        have hunseen : seen.contains name = false := by
          simpa using hseen (name, v) List.mem_cons_self
        have hread : read (p.child key) node followed = .ok (a, followed) :=
          hreads followed (by rwa [depth_child]) (by rwa [inVariant_child]) value hnode
        have hrest : fields known p nodes (name :: seen) (put a r) followed = .ok (r', followed) := by
          refine ih hshort htells hnodup.2 fun e he hmem => ?_
          rcases List.mem_cons.1 hmem with heq | hmem
          · exact hnodup.1 (List.mem_map.2 ⟨e, he, heq⟩)
          · exact hseen e (List.mem_cons_of_mem _ he) hmem
        rw [fields]
        simp only [bind, StateT.bind, Except.bind, hname, hknown, hunseen, Bool.false_eq_true, if_false,
          map_eq_ok hread]
        exact hrest

/-- **A record** is read from a mapping whose entries make it. -/
theorem reads_record {expected : String} {finish : σ → Except String α} {a : α}
    (hchain : Chain defaults known depth entries start r) (hfinish : finish r = .ok a)
    (hnodup : (entries.map Prod.fst).Nodup) :
    Reads defaults (Place.record expected known start finish) (depth + 1) (.mapping entries) a := by
  intro p n v' followed hdepth hvariant hshort htells
  obtain ⟨shorter, rfl, hall⟩ := abridges_mapping_iff.1 hshort
  refine htells.enter_eq_ok ?_
  cases htells with
  | @mapping _ nodes _ all =>
    obtain ⟨document, path, _ | depth', inVariant⟩ := p
    · exact absurd hdepth (Nat.not_succ_le_zero _)
    · have hfields : fields known ⟨document, path, depth', false⟩ nodes [] start followed =
          .ok (r, followed) :=
        fields_eq_ok hchain hall all hnodup (by simp) (Nat.le_of_succ_le_succ hdepth) rfl
      simp only [inside, bind, StateT.bind, Except.bind, pure_eq_ok, hfields, hfinish]

/-! ## Content -/

/-- What a scalar value means. -/
def Value.scalar? : Value → Option ScalarValue
  | .text value => some (.text value)
  | .bool value => some (.bool value)
  | .variant _ _ | .mapping _ => none

/-- The content of the entries of a mapping of scalars. -/
def scalarEntries (entries : List (String × Value)) : List (Content × Content) :=
  entries.map fun e => (.scalar (.text e.1), .scalar (e.2.scalar?.getD .null))

/-- The content of a node that tells a simple value. -/
lemma contentTo_scalar {value : ScalarValue} (h : Tells n v) (hv : v.scalar? = some value)
    (depth : Nat) : contentTo depth p n followed = .ok (.scalar value, followed) := by
  suffices ∀ inner, contentBy inner p n followed = .ok (.scalar value, followed) by
    cases depth <;> exact this _
  intro inner
  refine h.enter_eq_ok ?_
  cases h with
  | @text _ text style plain =>
    cases hv
    by_cases hstyle : style = .plain
    · simp [ScalarValue.read, hstyle, plain hstyle, bind, StateT.bind, Except.bind, pure_eq_ok]
    · simp [ScalarValue.read, hstyle, bind, StateT.bind, Except.bind, pure_eq_ok]
  | bool word =>
    cases hv
    simp [ScalarValue.read, ofPlain_of_bool? word, bind, StateT.bind, Except.bind, pure_eq_ok]
  | variant => cases hv
  | mapping => cases hv

/-- The contents of entries that tell simple values. -/
lemma contentEntries_eq_ok (h : TellsAll nodes entries) (hscalar : ∀ e ∈ entries, e.2.scalar?.isSome)
    (depth : Nat) :
    contentEntries (contentTo depth) p nodes followed = .ok (scalarEntries entries, followed) := by
  induction entries generalizing nodes with
  | nil =>
    cases h
    rfl
  | cons e entries ih =>
    cases h with
    | @cons key node name v nodes _ named value rest =>
      obtain ⟨meaning, hv⟩ := Option.isSome_iff_exists.1 (hscalar (name, v) List.mem_cons_self)
      have hrest := ih rest fun e he => hscalar e (List.mem_cons_of_mem _ he)
      have hkey : contentTo depth p key followed = .ok (.scalar (.text name), followed) :=
        contentTo_scalar named rfl depth
      have hvalue : contentTo depth (p.child key) node followed = .ok (.scalar meaning, followed) :=
        contentTo_scalar value hv depth
      simp only [contentEntries, bind, StateT.bind, Except.bind, hkey, hvalue, hrest, scalarEntries,
        List.map_cons, hv, Option.getD_some]
      rfl

/-- The content of a mapping of simple values. -/
lemma content_mapping (h : Tells n (.mapping entries))
    (hscalar : ∀ e ∈ entries, e.2.scalar?.isSome) (hdepth : 1 ≤ p.depth) :
    content p n followed = .ok (.mapping (scalarEntries entries), followed) := by
  obtain ⟨document, path, _ | depth, inVariant⟩ := p
  · exact absurd hdepth (Nat.not_succ_le_zero _)
  · refine h.enter_eq_ok ?_
    cases h with
    | mapping all =>
      simp only [bind, StateT.bind, Except.bind]
      exact map_eq_ok (contentEntries_eq_ok all hscalar depth)

/-! ## Documents -/

/-- **A document that tells a value**, abridged or not, is read. -/
theorem Document.read_eq_ok {d : Document} {read : Place → Node → Reader α} {a : α}
    (hreads : Reads defaults read depth v a) (hdepth : depth ≤ 128) (hshort : Abridges defaults v v')
    (htells : d.Tells v') : d.read read = .ok a := by
  have hroot : read { document := d } d.root 0 = .ok (a, 0) :=
    hreads 0 hdepth rfl hshort htells.root
  simp [Document.read, StateT.run, bind, Except.bind, hroot, htells.whole, htells.single]

end Launcher.Yaml
