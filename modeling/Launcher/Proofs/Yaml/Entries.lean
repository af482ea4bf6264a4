import Mathlib.Data.List.Nodup
import Mathlib.Data.List.Pairwise
import Mathlib.Data.List.Perm.Basic
import Mathlib.Data.List.ReduceOption
import Launcher.Proofs.Yaml.Alike
/-!
# The order of entries, and entries that nobody asks for

A record is read from a mapping entry by entry. What it is in the end depends on the entries of known
names alone: in which order they stand does not matter, since each puts something else into the record,
and an entry of another name is passed over. A known name that stands there twice is refused.

## Main definitions

* `Launcher.Yaml.Foreign` — an entry that has nothing to do with some names.
* `Launcher.Yaml.Recasts` — a mapping whose entries are put in another order, with foreign entries among
  them; `Launcher.Yaml.recasts` computes it.
* `Launcher.Yaml.Place.Field.Commutes` — it does not matter which of two fields is put first.
* `Launcher.Yaml.Means` — what an entry does to a record.
* `Launcher.Yaml.standsTwice` — a known name stands twice.

## Main results

* `Launcher.Yaml.fields_cons_eq_ok_iff` — how one entry is read.
* `Launcher.Yaml.keeps_record` — a record is read alike from a mapping that is recast.
* `Launcher.Yaml.record_ne_ok_of_standsTwice` — a record in which a known name stands twice.
-/

namespace Launcher.Yaml

open Place

/-! ## Mappings that are recast -/

/-- The text of a scalar. -/
def Node.text? : Node → Option String
  | .scalar _ _ text _ => some text
  | _ => none

/-- **A foreign entry.** Its key is a text that is none of the names, and its value is a scalar of which the
meaning is admitted. -/
inductive Foreign (names : List String) (admits : ScalarValue → Bool) : Node × Node → Prop
  | mk (mark mark' : Mark) {name text : String} {style style' : ScalarStyle}
      (key : ScalarValue.untagged name style = .text name) (unknown : name ∉ names)
      (value : admits (.untagged text style')) :
    Foreign names admits (.scalar mark none name style, .scalar mark' none text style')

/-- **A mapping is recast.** Its entries are put in any order, with foreign entries anywhere among them;
and the value behind each key may be replaced by a related one. -/
inductive Recasts (names : List String) (admits : ScalarValue → Bool)
    (values : Option String → Node → Node → Prop) : Node → Node → Prop
  | mk (mark mark' : Mark) {entries kept added entries' : List (Node × Node)}
      (same : List.Forall₂ (fun e e' => Alike e.1 e'.1 ∧ values e.1.text? e.2 e'.2) entries kept)
      (foreign : ∀ e ∈ added, Foreign names admits e) (order : entries'.Perm (kept ++ added)) :
    Recasts names admits values (.mapping mark none entries) (.mapping mark' none entries')

variable {α σ : Type} {names : List String} {admits : ScalarValue → Bool}
  {values : Option String → Node → Node → Prop} {n n' : Node} {entries entries' : List (Node × Node)}

/-- A recast mapping is a mapping. -/
lemma Recasts.kin (h : Recasts names admits values n n') : Kin n n' := by
  cases h
  exact .mapping _ _ _ _

/-- A mapping that is alike is recast in a trivial way. -/
lemma recasts_of_alike (mark mark' : Mark) (hvalues : ∀ name n n', Alike n n' → values name n n')
    (h : AlikeEntries entries entries') :
    Recasts names admits values (.mapping mark none entries) (.mapping mark' none entries') := by
  have hsame := h.forall₂.imp fun e e' he => And.intro he.1 (hvalues e.1.text? _ _ he.2)
  have hforeign : ∀ e ∈ [], Foreign names admits e := by simp
  have horder : entries'.Perm (entries' ++ []) := by simp
  exact .mk mark mark' hsame hforeign horder

/-! ## Reading entries -/

variable {known : List (Place.Field σ)} {p : Place} {seen : List String} {r r' : σ}
  {followed after : Nat} {key value : Node} {rest : List (Node × Node)} {name : String}

/-- **One entry.** Its key is a text. If that is no known name, the value is passed over; and otherwise
the name has not been seen, and the value is read and put into the record. -/
theorem fields_cons_eq_ok_iff :
    fields known p ((key, value) :: rest) seen r followed = .ok (r', after) ↔
      ∃ name between, Place.text "field identifier" p key followed = .ok (name, between) ∧
        ((known.find? (fun field => field.name == name) = none ∧
            ∃ later, p.skip value between = .ok ((), later) ∧
              fields known p rest seen r later = .ok (r', after)) ∨
          ∃ field put later, known.find? (fun field => field.name == name) = some field ∧
            name ∉ seen ∧ field.read (p.child key) value between = .ok (put, later) ∧
            fields known p rest (name :: seen) (put r) later = .ok (r', after)) := by
  rw [fields, bind_eq_ok_iff]
  refine exists_congr fun name => exists_congr fun between => and_congr_right fun _ => ?_
  cases hfind : known.find? fun field => field.name == name with
  | none =>
    simp only [bind_eq_ok_iff]
    constructor
    · rintro ⟨⟨⟩, later, hskip, hrest⟩
      exact .inl ⟨trivial, later, hskip, hrest⟩
    · rintro (⟨-, later, hskip, hrest⟩ | ⟨_, _, _, ⟨⟩, -⟩)
      exact ⟨(), later, hskip, hrest⟩
  | some field =>
    by_cases hseen : name ∈ seen
    · simp [hseen]
    · simp only [List.contains_eq_mem, hseen, decide_false, Bool.false_eq_true, if_false, bind_eq_ok_iff]
      constructor
      · rintro ⟨put, later, hread, hrest⟩
        exact .inr ⟨field, put, later, rfl, not_false, hread, hrest⟩
      · rintro (⟨⟨⟩, -⟩ | ⟨_, put, later, ⟨⟩, -, hread, hrest⟩)
        exact ⟨put, later, hread, hrest⟩

/-- A value is passed over, and nothing in it is followed, unless the text is cut off there. -/
lemma skip_eq_ok_iff : p.skip value followed = .ok ((), after) ↔ value ≠ .cut ∧ followed = after := by
  cases value <;> simp [skip]

/-- The text of a scalar key is what is read of it. -/
lemma eq_of_text_eq_ok {expected text : String} (h : key.text? = some text)
    (hread : Place.text expected p key followed = .ok (name, after)) : name = text := by
  cases key with
  | scalar mark tag text' style =>
    cases h
    have hlocated : p.located mark (pure text) followed = .ok (name, after) := hread
    exact (pure_eq_ok_iff.1 (located_eq_ok_iff.1 hlocated)).1.symm
  | _ => cases h

/-- A key without aliases of which a text is read is a scalar. -/
lemma text?_of_text_eq_ok {key' : Node} {expected : String} (h : Kin key key')
    (hread : Place.text expected p key followed = .ok (name, after)) : key.text? = some name := by
  cases h with
  | scalar mark mark' text style => exact congrArg some (eq_of_text_eq_ok rfl hread).symm
  | sequence mark mark' items items' =>
    exact absurd ((Kin.sequence mark mark' items items').enter_eq.1.1 hread) throw_ne_ok
  | mapping mark mark' entries entries' =>
    exact absurd ((Kin.mapping mark mark' entries entries').enter_eq.1.1 hread) throw_ne_ok

/-! ## Known names that stand there twice -/

/-- A known name has a field. -/
lemma find?_ne_none (h : name ∈ known.map Place.Field.name) :
    known.find? (fun field => field.name == name) ≠ none := by
  obtain ⟨field, hfield, rfl⟩ := List.mem_map.1 h
  intro hnone
  exact List.find?_eq_none.1 hnone field hfield (beq_self_eq_true field.name)

/-- A name that has been seen is not read again. -/
lemma notMem_of_fields_eq_ok {e : Node × Node}
    (hread : fields known p entries seen r followed = .ok (r', after)) (he : e ∈ entries)
    (hname : e.1.text? = some name) (hknown : name ∈ known.map Place.Field.name) : name ∉ seen := by
  induction entries generalizing seen r followed with
  | nil => cases he
  | cons first rest ih =>
    obtain ⟨key, value⟩ := first
    obtain ⟨found, between, htext, hentry⟩ := fields_cons_eq_ok_iff.1 hread
    rcases List.mem_cons.1 he with rfl | he
    · obtain rfl := eq_of_text_eq_ok hname htext
      rcases hentry with ⟨hnone, -⟩ | ⟨field, _, _, -, hseen, -⟩
      · exact absurd hnone (find?_ne_none hknown)
      · exact hseen
    · rcases hentry with ⟨-, _, -, hrest⟩ | ⟨_, _, _, -, -, -, hrest⟩
      · exact ih hrest he
      · exact fun hmem => ih hrest he (List.mem_cons_of_mem _ hmem)

/-- **A known name that stands there twice** is refused. -/
theorem fields_ne_ok_of_twice {e e' : Node × Node} (htwice : List.Sublist [e, e'] entries)
    (hname : e.1.text? = some name) (hname' : e'.1.text? = some name)
    (hknown : name ∈ known.map Place.Field.name) :
    fields known p entries seen r followed ≠ .ok (r', after) := by
  intro hread
  induction entries generalizing seen r followed with
  | nil => cases htwice
  | cons first rest ih =>
    obtain ⟨key, value⟩ := first
    obtain ⟨found, between, htext, hentry⟩ := fields_cons_eq_ok_iff.1 hread
    cases htwice with
    | cons _ htwice =>
      rcases hentry with ⟨-, _, -, hrest⟩ | ⟨_, _, _, -, -, -, hrest⟩ <;> exact ih htwice hrest
    | cons_cons _ hlater =>
      obtain rfl := eq_of_text_eq_ok hname htext
      rcases hentry with ⟨hnone, -⟩ | ⟨_, _, _, -, -, -, hrest⟩
      · exact absurd hnone (find?_ne_none hknown)
      · exact notMem_of_fields_eq_ok hrest (List.singleton_sublist.1 hlater) hname' hknown
          List.mem_cons_self

/-- Behind every known name there is something that its field can read. -/
lemma exists_read_of_fields_eq_ok {e : Node × Node} {field : Place.Field σ}
    (hread : fields known p entries seen r followed = .ok (r', after)) (he : e ∈ entries)
    (hname : e.1.text? = some name)
    (hfind : known.find? (fun field => field.name == name) = some field) :
    ∃ p followed put after, field.read p e.2 followed = .ok (put, after) := by
  induction entries generalizing seen r followed with
  | nil => cases he
  | cons first rest ih =>
    obtain ⟨key, value⟩ := first
    obtain ⟨found, between, htext, hentry⟩ := fields_cons_eq_ok_iff.1 hread
    rcases List.mem_cons.1 he with rfl | he
    · obtain rfl := eq_of_text_eq_ok hname htext
      rcases hentry with ⟨hnone, -⟩ | ⟨_, put, later, hfound, -, hput, -⟩
      · rw [hfind] at hnone
        cases hnone
      · rw [hfind] at hfound
        cases hfound
        exact ⟨_, _, _, _, hput⟩
    · rcases hentry with ⟨-, _, -, hrest⟩ | ⟨_, _, _, -, -, -, hrest⟩ <;> exact ih hrest he

/-! ## What entries do to a record -/

/-- **What an entry does to a record**, wherever it stands: nothing, when its name is not known, or it puts
something behind a name. -/
inductive Means (known : List (Place.Field σ)) (depth : Nat) :
    Node × Node → Option (String × (σ → σ)) → Prop
  | skip {key value : Node} {name : String}
      (named : Holds (Place.text "field identifier") depth key name)
      (unknown : known.find? (fun field => field.name == name) = none) (there : value ≠ .cut) :
    Means known depth (key, value) none
  | put {key value : Node} {name : String} {field : Place.Field σ} {put : σ → σ}
      (named : Holds (Place.text "field identifier") depth key name)
      (found : known.find? (fun field => field.name == name) = some field)
      (holds : Holds field.read depth value put) :
    Means known depth (key, value) (some (name, put))

/-- What entries do to a record, one after the other. -/
def applied (effects : List (Option (String × (σ → σ)))) (r : σ) : σ :=
  effects.reduceOption.foldl (fun r e => e.2 r) r

/-- The names behind which something is put. -/
def touched (effects : List (Option (String × (σ → σ)))) : List String :=
  effects.reduceOption.map Prod.fst

variable {effects : List (Option (String × (σ → σ)))}

/-- **Entries that do something to a record** are read, if no name stands there twice. -/
theorem fields_eq_ok_of_means (h : List.Forall₂ (Means known p.depth) entries effects)
    (honce : (touched effects).Nodup) (hseen : ∀ name ∈ touched effects, name ∉ seen) (r : σ)
    (followed : Nat) :
    fields known p entries seen r followed = .ok (applied effects r, followed) := by
  induction h generalizing seen r with
  | nil => rfl
  | cons hentry hrest ih =>
    cases hentry with
    | skip named unknown there =>
      refine fields_cons_eq_ok_iff.2 ⟨_, _, named p followed rfl, .inl ⟨unknown, _,
        skip_eq_ok_iff.2 ⟨there, rfl⟩, ?_⟩⟩
      exact ih honce hseen r
    | @put key value name field put named found holds =>
      obtain ⟨hnew, honce⟩ := List.nodup_cons.1 honce
      refine fields_cons_eq_ok_iff.2 ⟨name, _, named p followed rfl, .inr ⟨field, put, followed, found,
        hseen name List.mem_cons_self, holds (p.child key) followed (depth_child p key), ?_⟩⟩
      refine ih honce (fun other hother hmem => ?_) (put r)
      rcases List.mem_cons.1 hmem with rfl | hmem
      · exact hnew hother
      · exact hseen other (List.mem_cons_of_mem _ hother) hmem

/-- **What has been read of some entries** tells what related entries do to a record. -/
theorem means_of_fields_eq_ok
    (hkeeps : ∀ field ∈ known, Keeps field.read (values (some field.name)))
    (hkin : ∀ name n n', values name n n' → Kin n n')
    (hsame : List.Forall₂ (fun e e' => Alike e.1 e'.1 ∧ values e.1.text? e.2 e'.2) entries entries')
    (hread : fields known p entries seen r followed = .ok (r', after)) :
    ∃ effects, List.Forall₂ (Means known p.depth) entries' effects ∧ (touched effects).Nodup ∧
      (∀ name ∈ touched effects, name ∉ seen) ∧ r' = applied effects r := by
  induction hsame generalizing seen r followed with
  | nil =>
    obtain ⟨rfl, -⟩ := pure_eq_ok_iff.1 hread
    exact ⟨[], .nil, List.nodup_nil, fun _ hname => absurd hname List.not_mem_nil, rfl⟩
  | @cons e e' entries entries' hentry hsame ih =>
    obtain ⟨key, value⟩ := e
    obtain ⟨key', value'⟩ := e'
    obtain ⟨name, between, htext, hcases⟩ := fields_cons_eq_ok_iff.1 hread
    have hnamed : Holds (Place.text "field identifier") p.depth key' name :=
      keeps_text _ hentry.1.kin htext
    have hvalue := hentry.2
    rcases hcases with ⟨hnone, later, -, hrest⟩ | ⟨field, put, later, hfound, hseen, hput, hrest⟩
    · obtain ⟨effects, hmeans, honce, hnew, rfl⟩ := ih hrest
      have hthere : value' ≠ .cut := by
        rintro rfl
        cases hkin _ _ _ hvalue
      exact ⟨none :: effects, .cons (.skip hnamed hnone hthere) hmeans, honce, hnew, rfl⟩
    · obtain ⟨effects, hmeans, honce, hnew, rfl⟩ := ih hrest
      have hfield : field ∈ known := List.mem_of_find?_eq_some hfound
      have hfieldName : field.name = name := by simpa using List.find?_some hfound
      have hkeyName : key.text? = some field.name :=
        hfieldName ▸ text?_of_text_eq_ok hentry.1.kin htext
      have hholds : Holds field.read p.depth value' put := by
        have hread := hkeeps field hfield (hkeyName ▸ hvalue) hput
        rwa [depth_child] at hread
      refine ⟨some (name, put) :: effects, .cons (.put hnamed hfound hholds) hmeans, ?_, ?_, rfl⟩
      · exact List.nodup_cons.2 ⟨fun hmem => hnew name hmem List.mem_cons_self, honce⟩
      · intro other hother
        rcases List.mem_cons.1 hother with rfl | hother
        · exact hseen
        · exact fun hmem => hnew other hother (List.mem_cons_of_mem _ hmem)

/-! ## The order of entries -/

/-- Something that the field puts into a record. -/
def Place.Field.Gives (field : Place.Field σ) (put : σ → σ) : Prop :=
  ∃ depth n, Holds field.read depth n put

/-- **It does not matter which of two fields is put first.** -/
def Place.Field.Commutes (field field' : Place.Field σ) : Prop :=
  ∀ put put', field.Gives put → field'.Gives put' → ∀ r, put (put' r) = put' (put r)

/-- Two fields whose values are put into different parts of a record. -/
lemma commutes_of_puts {β : Type} {name name' : String} {read : Place → Node → Reader α}
    {read' : Place → Node → Reader β} {put : α → σ → σ} {put' : β → σ → σ}
    (h : ∀ a b r, put a (put' b r) = put' b (put a r)) :
    Place.Field.Commutes ⟨name, fun p n => put <$> read p n⟩ ⟨name', fun p n => put' <$> read' p n⟩ := by
  rintro f g ⟨depth, n, hf⟩ ⟨depth', n', hg⟩ r
  obtain ⟨a, -, rfl⟩ := map_eq_ok_iff.1 (hf { document := { pieces := [] }, depth } 0 rfl)
  obtain ⟨b, -, rfl⟩ := map_eq_ok_iff.1 (hg { document := { pieces := [] }, depth := depth' } 0 rfl)
  exact h a b r

instance : Std.Symm (Place.Field.Commutes (σ := σ)) where
  symm _ _ h put put' hput hput' r := (h put' put hput' hput r).symm

/-- Whatever is put into the record is put there by a known field of this name. -/
lemma gives_of_means {depth : Nat} (h : List.Forall₂ (Means known depth) entries effects) :
    ∀ x ∈ effects.reduceOption, ∃ field ∈ known, field.name = x.1 ∧ field.Gives x.2 := by
  induction h with
  | nil => exact fun x hx => absurd hx List.not_mem_nil
  | cons hentry hrest ih =>
    cases hentry with
    | skip => exact ih
    | put named found holds =>
      intro x hx
      rcases List.mem_cons.1 hx with rfl | hx
      · exact ⟨_, List.mem_of_find?_eq_some found, by simpa using List.find?_some found, _, _, holds⟩
      · exact ih x hx

/-- **What is put behind different names** can be put in any order. -/
theorem applied_eq_of_perm {depth : Nat} {effects' : List (Option (String × (σ → σ)))}
    (hcommutes : known.Pairwise Place.Field.Commutes) (h : effects.Perm effects')
    (hmeans : List.Forall₂ (Means known depth) entries effects) (honce : (touched effects).Nodup)
    (r : σ) : applied effects r = applied effects' r := by
  have hgives := gives_of_means hmeans
  refine (h.filterMap id).foldl_eq' (fun x hx y hy z => ?_) r
  by_cases hxy : x.1 = y.1
  · obtain rfl : x = y := List.inj_on_of_nodup_map honce hx hy hxy
    rfl
  · obtain ⟨field, hfield, hname, hput⟩ := hgives x hx
    obtain ⟨field', hfield', hname', hput'⟩ := hgives y hy
    have hne : field' ≠ field := by
      rintro rfl
      exact hxy (hname.symm.trans hname')
    exact hcommutes.forall hfield' hfield hne y.2 x.2 hput' hput z

/-- A foreign entry does nothing to a record. -/
lemma Foreign.means {depth : Nat} {e : Node × Node}
    (h : Foreign (known.map Place.Field.name) admits e) : Means known depth e none := by
  cases h with
  | mk mark mark' key unknown value =>
    refine .skip (fun p followed _ => rfl) (List.find?_eq_none.2 fun field hfield hname => ?_) nofun
    exact unknown (List.mem_map.2 ⟨field, hfield, beq_iff_eq.1 hname⟩)

/-- **Entries in another order, with foreign entries among them**, make the same record. -/
theorem fields_recast (p' : Place) {kept added : List (Node × Node)}
    (hkeeps : ∀ field ∈ known, Keeps field.read (values (some field.name)))
    (hkin : ∀ name n n', values name n n' → Kin n n')
    (hcommutes : known.Pairwise Place.Field.Commutes)
    (hsame : List.Forall₂ (fun e e' => Alike e.1 e'.1 ∧ values e.1.text? e.2 e'.2) entries kept)
    (hforeign : ∀ e ∈ added, Foreign (known.map Place.Field.name) admits e)
    (horder : entries'.Perm (kept ++ added))
    (hread : fields known p entries [] r followed = .ok (r', after)) (hdepth : p'.depth = p.depth)
    (followed' : Nat) : fields known p' entries' [] r followed' = .ok (r', followed') := by
  obtain ⟨effects, hmeans, honce, -, rfl⟩ := means_of_fields_eq_ok hkeeps hkin hsame hread
  have hadded : List.Forall₂ (Means known p.depth) added (added.map fun _ => none) :=
    List.forall₂_map_right_iff.2 (List.forall₂_same.2 fun e he => (hforeign e he).means)
  have hall := List.rel_append hmeans hadded
  -- foreign entries add nothing to what is put
  have hreduce : (effects ++ added.map fun _ => none).reduceOption = effects.reduceOption := by
    rw [List.reduceOption_append, List.map_const', List.reduceOption_replicate_none, List.append_nil]
  have hallOnce : (touched (effects ++ added.map fun _ => none)).Nodup := by rwa [touched, hreduce]
  obtain ⟨effects', hmeans', hperm⟩ := List.perm_comp_forall₂ horder hall
  have happlied : applied effects r = applied effects' r := by
    rw [← applied_eq_of_perm hcommutes hperm.symm hall hallOnce r, applied, applied, hreduce]
  rw [happlied]
  refine fields_eq_ok_of_means (hdepth ▸ hmeans') ?_ (by simp) r followed'
  exact (((hperm.filterMap id).map Prod.fst).nodup_iff).2 hallOnce

/-! ## Records -/

variable {expected : String} {start : σ} {finish : σ → Except String α}

/-- The value that is made of what has been read of the fields. -/
def finished (finish : σ → Except String α) (r : σ) : Reader α :=
  match finish r with
  | .ok value => pure value
  | .error complaint => Reader.complain complaint

/-- What has been read of the fields is finished without reading on. -/
lemma finished_eq_ok_iff {a : α} :
    finished finish r followed = .ok (a, after) ↔ finish r = .ok a ∧ followed = after := by
  unfold finished
  cases finish r <;> simp

/-- A record is read from a mapping entry by entry, if the mapping may be open. -/
lemma record_mapping_eq_ok_iff {mark : Mark} {tag : Option Tag} {a : α} :
    Place.record expected known start finish p (.mapping mark tag entries) followed = .ok (a, after) ↔
      ∃ depth r, p.depth = depth + 1 ∧
        fields known { p with depth, inVariant := false } entries [] start followed = .ok (r, after) ∧
        finish r = .ok a := by
  have hlocated : Place.record expected known start finish p (.mapping mark tag entries) =
      p.located mark (p.inside mark >>= fun p => fields known p entries [] start >>= fun r =>
        finished finish r) := rfl
  rw [hlocated, located_eq_ok_iff, bind_eq_ok_iff]
  obtain ⟨document, path, _ | depth, inVariant⟩ := p
  · constructor
    · rintro ⟨_, _, hinside, -⟩
      exact absurd hinside throw_ne_ok
    · rintro ⟨_, _, ⟨⟩, -⟩
  · constructor
    · rintro ⟨_, between, hinside, hread⟩
      obtain ⟨rfl, rfl⟩ := pure_eq_ok_iff.1 hinside
      obtain ⟨r, _, hfields, hfinished⟩ := bind_eq_ok_iff.1 hread
      obtain ⟨hfinish, rfl⟩ := finished_eq_ok_iff.1 hfinished
      exact ⟨depth, r, rfl, hfields, hfinish⟩
    · rintro ⟨_, r, ⟨⟩, hfields, hfinish⟩
      exact ⟨_, _, rfl, bind_eq_ok_iff.2 ⟨r, _, hfields, finished_eq_ok_iff.2 ⟨hfinish, rfl⟩⟩⟩

/-- A record is read from nothing at all, and from no other scalar. -/
lemma record_scalar_eq_ok_iff {mark : Mark} {text : String} {style : ScalarStyle} {a : α} :
    Place.record expected known start finish p (.scalar mark none text style) followed =
        .ok (a, after) ↔
      (text.isEmpty && style == .plain) ∧ finish start = .ok a ∧ followed = after := by
  have hlocated : Place.record expected known start finish p (.scalar mark none text style) =
      p.located mark (if text.isEmpty && style == .plain then finished finish start else throw _) := rfl
  rw [hlocated, located_eq_ok_iff]
  split
  · rename_i hempty
    simp [hempty, finished_eq_ok_iff]
  · rename_i hfull
    simp [hfull]

/-- **A record** is read alike from a node that is alike, and from a mapping that is recast.

**Proof sketch.** What has been read of the entries tells what they do to a record
(`Launcher.Yaml.means_of_fields_eq_ok`). The entries that are recast do the same in another order, and what
is put behind different names can be put in any order. -/
theorem keeps_record (hkeeps : ∀ field ∈ known, Keeps field.read (values (some field.name)))
    (hkin : ∀ name n n', values name n n' → Kin n n')
    (halike : ∀ name n n', Alike n n' → values name n n')
    (hcommutes : known.Pairwise Place.Field.Commutes) :
    Keeps (Place.record expected known start finish) fun n n' =>
      Alike n n' ∨ Recasts (known.map Place.Field.name) admits values n n' := by
  have hrecasts : Keeps (Place.record expected known start finish)
      (Recasts (known.map Place.Field.name) admits values) := by
    rintro p _ _ followed a after ⟨mark, mark', hsame, hforeign, horder⟩ hread p' followed' hdepth
    obtain ⟨depth, r, hp, hfields, hfinish⟩ := record_mapping_eq_ok_iff.1 hread
    have hfields' := fields_recast { p' with depth, inVariant := false } hkeeps hkin hcommutes hsame
      hforeign horder hfields rfl followed'
    exact record_mapping_eq_ok_iff.2 ⟨depth, r, hdepth.trans hp, hfields', hfinish⟩
  refine Keeps.or ?_ hrecasts
  intro p n n' followed a after h hread p' followed' hdepth
  cases h with
  | scalar mark mark' text style =>
    obtain ⟨hempty, hfinish, -⟩ := record_scalar_eq_ok_iff.1 hread
    exact record_scalar_eq_ok_iff.2 ⟨hempty, hfinish, rfl⟩
  | sequence mark mark' all =>
    have hlocated : p.located mark (throw _) followed = .ok (a, after) := hread
    exact absurd (located_eq_ok_iff.1 hlocated) throw_ne_ok
  | mapping mark mark' all =>
    exact hrecasts (recasts_of_alike mark mark' halike all) hread p' followed' hdepth

/-! ## Records in which a name stands twice -/

/-- Among the keys of some entries, a known name stands twice. What the name of a key is depends on how the
mapping is read. -/
def standsTwice {ι : Type} [BEq ι] (name? : Node → Option ι) (known : List ι)
    (entries : List (Node × Node)) : Bool :=
  known.any fun name => 1 < entries.countP fun e => name? e.1 == some name

/-- Two entries whose keys have the same name stand there one after the other. -/
lemma exists_of_standsTwice {ι : Type} [BEq ι] [LawfulBEq ι] {name? : Node → Option ι} {known : List ι}
    (h : standsTwice name? known entries) :
    ∃ e e' name, List.Sublist [e, e'] entries ∧ name ∈ known ∧ name? e.1 = some name ∧
      name? e'.1 = some name := by
  obtain ⟨name, hname, hcount⟩ := List.any_eq_true.1 h
  have hsublist := List.filter_sublist (l := entries) (p := fun e => name? e.1 == some name)
  have hmem (e) (he : e ∈ entries.filter fun e => name? e.1 == some name) : name? e.1 = some name :=
    beq_iff_eq.1 (List.mem_filter.1 he).2
  rw [decide_eq_true_iff, List.countP_eq_length_filter] at hcount
  match hfilter : entries.filter fun e => name? e.1 == some name with
  | [] | [_] => simp [hfilter] at hcount
  | e :: e' :: others =>
    rw [hfilter] at hsublist hmem
    have htwice : List.Sublist [e, e'] (e :: e' :: others) := by simp
    exact ⟨e, e', name, htwice.trans hsublist, hname, hmem e (by simp), hmem e' (by simp)⟩

/-- **A record in which a known name stands twice** is refused. -/
theorem record_ne_ok_of_standsTwice {mark : Mark} {a : α}
    (h : standsTwice Node.text? (known.map Place.Field.name) entries) :
    Place.record expected known start finish p (.mapping mark none entries) followed ≠
      .ok (a, after) := by
  intro hread
  obtain ⟨depth, r, -, hfields, -⟩ := record_mapping_eq_ok_iff.1 hread
  obtain ⟨e, e', name, htwice, hname, he, he'⟩ := exists_of_standsTwice h
  exact fields_ne_ok_of_twice htwice he he' hname hfields

/-! ## Computing it -/

/-- Whether an entry is foreign. -/
def foreign (names : List String) (admits : ScalarValue → Bool) : Node × Node → Bool
  | (.scalar _ none name style, .scalar _ none text style') =>
    ScalarValue.untagged name style == .text name && !names.contains name &&
      admits (.untagged text style')
  | _ => false

/-- Whether each of some entries has one of its own among the others, and those that are left are extra. -/
def recastEntries (same : Node × Node → Node × Node → Bool) (extra : Node × Node → Bool) :
    List (Node × Node) → List (Node × Node) → Bool
  | [], entries' => entries'.all extra
  | e :: entries, entries' =>
    match entries'.findIdx? (same e) with
    | some i => recastEntries same extra entries (entries'.eraseIdx i)
    | none => false

/-- Whether a mapping is recast. -/
def recasts (names : List String) (admits : ScalarValue → Bool)
    (values : Option String → Node → Node → Bool) : Node → Node → Bool
  | .mapping _ none entries, .mapping _ none entries' =>
    recastEntries (fun e e' => alike e.1 e'.1 && values e.1.text? e.2 e'.2) (foreign names admits)
      entries entries'
  | _, _ => false

/-- What is said of an entry can be computed. -/
lemma Foreign.of_foreign {e : Node × Node} (h : foreign names admits e) : Foreign names admits e := by
  unfold foreign at h
  split at h
  · simp only [Bool.and_eq_true, beq_iff_eq, Bool.not_eq_true', List.contains_eq_mem,
      decide_eq_false_iff_not] at h
    exact .mk _ _ h.1.1 h.1.2 h.2
  · cases h

/-- What is computed finds the entries that were kept, and those that were added. -/
lemma exists_of_recastEntries {same : Node × Node → Node × Node → Bool} {extra : Node × Node → Bool}
    (h : recastEntries same extra entries entries') :
    ∃ kept added, List.Forall₂ (fun e e' => same e e' = true) entries kept ∧
      (∀ e ∈ added, extra e = true) ∧ entries'.Perm (kept ++ added) := by
  induction entries generalizing entries' with
  | nil => exact ⟨[], entries', .nil, List.all_eq_true.1 h, .refl _⟩
  | cons e entries ih =>
    unfold recastEntries at h
    split at h
    · rename_i i hfind
      obtain ⟨hi, hsame, -⟩ := List.findIdx?_eq_some_iff_getElem.1 hfind
      obtain ⟨kept, added, hall, hadded, hperm⟩ := ih h
      refine ⟨entries'[i] :: kept, added, .cons hsame hall, hadded, ?_⟩
      exact (List.getElem_cons_eraseIdx_perm hi).symm.trans (hperm.cons _)
    · cases h

/-- What is said can be computed. -/
lemma Recasts.of_recasts {computed : Option String → Node → Node → Bool}
    (hvalues : ∀ name n n', computed name n n' = true → values name n n')
    (h : recasts names admits computed n n') : Recasts names admits values n n' := by
  unfold recasts at h
  split at h
  · obtain ⟨kept, added, hsame, hadded, hperm⟩ := exists_of_recastEntries h
    refine .mk _ _ (hsame.imp fun e e' he => ?_) (fun e he => .of_foreign (hadded e he)) hperm
    rw [Bool.and_eq_true] at he
    exact ⟨.of_alike he.1, hvalues _ _ _ he.2⟩
  · cases h

end Launcher.Yaml
