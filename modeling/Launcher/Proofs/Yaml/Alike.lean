import Mathlib.Data.List.Forall2
import Launcher.Proofs.Yaml.Tells
/-!
# Nodes that are alike

When entries are put in another order, or other entries between them, every node behind them stands at
another place in the text. Nodes that differ by their places alone are alike, and a reader makes the same
of them. Here this is said of nodes without tags and aliases; such a node is understood without the
document around it, so it is read alike in another document too.

## Main definitions

* `Launcher.Yaml.Alike` — nodes without tags and aliases that differ by their places alone;
  `Launcher.Yaml.alike` computes it.
* `Launcher.Yaml.Kin` — the same, but of collections nothing is said than that both are.
* `Launcher.Yaml.Holds`, `Makes` — what a reader makes of a node wherever it stands, or somewhere.
* `Launcher.Yaml.Keeps` — what a reader makes of a node, it makes of a related one.
* `Launcher.Yaml.Node.meaning?` — what a scalar without a tag means.

## Main results

* `Launcher.Yaml.keeps_text`, `keeps_bool`, `keeps_bare`, `keeps_optional` — readers of simple values.
* `Launcher.Yaml.keeps_content` — the content of alike nodes is the same.
* `Launcher.Yaml.eq_of_meaning?` — the content of a scalar is what it means.
* `Launcher.Yaml.Document.read_eq_ok_of_keeps` — documents whose roots are related.
-/

namespace Launcher.Yaml

open Place

/-! ## Nodes that differ by their places -/

mutual

/-- The nodes have neither tags nor aliases, and differ by their places alone. -/
inductive Alike : Node → Node → Prop
  | scalar (mark mark' : Mark) (text : String) (style : ScalarStyle) :
    Alike (.scalar mark none text style) (.scalar mark' none text style)
  | sequence (mark mark' : Mark) {items items' : List Node} (all : AlikeItems items items') :
    Alike (.sequence mark none items) (.sequence mark' none items')
  | mapping (mark mark' : Mark) {entries entries' : List (Node × Node)}
      (all : AlikeEntries entries entries') :
    Alike (.mapping mark none entries) (.mapping mark' none entries')

/-- So do the items of two sequences. -/
inductive AlikeItems : List Node → List Node → Prop
  | nil : AlikeItems [] []
  | cons {n n' : Node} {items items' : List Node} (first : Alike n n')
      (rest : AlikeItems items items') : AlikeItems (n :: items) (n' :: items')

/-- So do the entries of two mappings. -/
inductive AlikeEntries : List (Node × Node) → List (Node × Node) → Prop
  | nil : AlikeEntries [] []
  | cons {key key' value value' : Node} {entries entries' : List (Node × Node)}
      (keys : Alike key key') (values : Alike value value') (rest : AlikeEntries entries entries') :
    AlikeEntries ((key, value) :: entries) ((key', value') :: entries')

end

mutual

/-- Whether two nodes are alike. -/
def alike : Node → Node → Bool
  | .scalar _ none text style, .scalar _ none text' style' => text == text' && style == style'
  | .sequence _ none items, .sequence _ none items' => alikeItems items items'
  | .mapping _ none entries, .mapping _ none entries' => alikeEntries entries entries'
  | _, _ => false

/-- Whether items are alike. -/
def alikeItems : List Node → List Node → Bool
  | [], [] => true
  | n :: items, n' :: items' => alike n n' && alikeItems items items'
  | _, _ => false

/-- Whether entries are alike. -/
def alikeEntries : List (Node × Node) → List (Node × Node) → Bool
  | [], [] => true
  | (key, value) :: entries, (key', value') :: entries' =>
    alike key key' && alike value value' && alikeEntries entries entries'
  | _, _ => false

end

mutual

/-- What is said can be computed. -/
lemma Alike.of_alike {n n' : Node} (h : alike n n') : Alike n n' := by
  unfold alike at h
  split at h
  · simp only [Bool.and_eq_true, beq_iff_eq] at h
    obtain ⟨rfl, rfl⟩ := h
    exact .scalar _ _ _ _
  · exact .sequence _ _ (.of_alikeItems h)
  · exact .mapping _ _ (.of_alikeEntries h)
  · cases h

/-- So can what is said of items. -/
lemma AlikeItems.of_alikeItems {items items' : List Node} (h : alikeItems items items') :
    AlikeItems items items' := by
  unfold alikeItems at h
  split at h
  · exact .nil
  · simp only [Bool.and_eq_true] at h
    exact .cons (.of_alike h.1) (.of_alikeItems h.2)
  · cases h

/-- So can what is said of entries. -/
lemma AlikeEntries.of_alikeEntries {entries entries' : List (Node × Node)}
    (h : alikeEntries entries entries') : AlikeEntries entries entries' := by
  unfold alikeEntries at h
  split at h
  · exact .nil
  · simp only [Bool.and_eq_true] at h
    exact .cons (.of_alike h.1.1) (.of_alike h.1.2) (.of_alikeEntries h.2)
  · cases h

end

/-- Two scalars that are alike, two sequences, or two mappings, all without tags. -/
inductive Kin : Node → Node → Prop
  | scalar (mark mark' : Mark) (text : String) (style : ScalarStyle) :
    Kin (.scalar mark none text style) (.scalar mark' none text style)
  | sequence (mark mark' : Mark) (items items' : List Node) :
    Kin (.sequence mark none items) (.sequence mark' none items')
  | mapping (mark mark' : Mark) (entries entries' : List (Node × Node)) :
    Kin (.mapping mark none entries) (.mapping mark' none entries')

/-- Nodes that are alike are of the same kind. -/
lemma Alike.kin {n n' : Node} (h : Alike n n') : Kin n n' := by
  cases h with
  | scalar mark mark' text style => exact .scalar _ _ _ _
  | sequence mark mark' all => exact .sequence _ _ _ _
  | mapping mark mark' all => exact .mapping _ _ _ _

/-! ## Readers that keep what they make -/

variable {α β σ : Type} {p p' : Place} {n n' : Node} {followed followed' after : Nat} {depth : Nat}
  {read : Place → Node → Reader α} {R S : Node → Node → Prop}

/-- The reader makes `a` of the node wherever it stands, if so many collections may be open inside of
each other. -/
def Holds (read : Place → Node → Reader α) (depth : Nat) (n : Node) (a : α) : Prop :=
  ∀ (p : Place) (followed : Nat), p.depth = depth → read p n followed = .ok (a, followed)

/-- **What the reader makes of a node, it makes of a related one**, wherever that stands. -/
def Keeps (read : Place → Node → Reader α) (R : Node → Node → Prop) : Prop :=
  ∀ ⦃p n n' followed a after⦄, R n n' → read p n followed = .ok (a, after) → Holds read p.depth n' a

/-- Somewhere the reader makes `a` of the node. -/
def Makes (read : Place → Node → Reader α) (depth : Nat) (n : Node) (a : α) : Prop :=
  ∃ (p : Place) (followed after : Nat), p.depth = depth ∧ read p n followed = .ok (a, after)

/-- What a reader makes of a node somewhere, it makes of a related one everywhere. -/
lemma Keeps.holds {a : α} (h : Keeps read R) (hR : R n n') (hmakes : Makes read depth n a) :
    Holds read depth n' a := by
  obtain ⟨p, followed, after, rfl, hread⟩ := hmakes
  exact h hR hread

/-- Fewer nodes may be related. -/
lemma Keeps.mono (h : Keeps read S) (hRS : ∀ n n', R n n' → S n n') : Keeps read R :=
  fun _ _ _ _ _ _ hR hread => h (hRS _ _ hR) hread

/-- Nodes may be related in one of two ways. -/
lemma Keeps.or (h : Keeps read R) (h' : Keeps read S) : Keeps read fun n n' => R n n' ∨ S n n' :=
  fun _ _ _ _ _ _ hRS hread => hRS.elim (fun hR => h hR hread) fun hS => h' hS hread

/-- Two readers, one after the other, read what the second makes behind the first. -/
lemma bind_eq_ok_iff {read : Reader α} {next : α → Reader β} {b : β} :
    (read >>= next) followed = .ok (b, after) ↔
      ∃ a between, read followed = .ok (a, between) ∧ next a between = .ok (b, after) := by
  simp only [bind, StateT.bind, Except.bind]
  rcases read followed with fault | ⟨a, between⟩
  · simp
  · constructor
    · exact fun h => ⟨a, between, rfl, h⟩
    · rintro ⟨_, _, ⟨⟩, h⟩
      exact h

/-- A function of what is read. -/
lemma map_eq_ok_iff {read : Reader α} {f : α → β} {b : β} :
    (f <$> read) followed = .ok (b, after) ↔ ∃ a, read followed = .ok (a, after) ∧ f a = b := by
  constructor
  · intro h
    rcases hread : read followed with fault | ⟨a, between⟩
    · simp [Functor.map, StateT.map, Bind.bind, Except.bind, hread] at h
    · rw [map_eq_ok hread] at h
      cases h
      exact ⟨a, rfl, rfl⟩
  · rintro ⟨a, hread, rfl⟩
    exact map_eq_ok hread

/-- Nothing is read to give a value. -/
@[simp]
lemma pure_eq_ok_iff {a b : α} :
    (pure a : Reader α) followed = .ok (b, after) ↔ a = b ∧ followed = after := by
  simp [pure_eq_ok]

/-- A fault gives no value. -/
@[simp]
lemma throw_ne_ok {fault : Fault} {a : α} :
    ¬ (throw fault : Reader α) followed = .ok (a, after) :=
  nofun

/-- A complaint gives no value. -/
@[simp]
lemma complain_ne_ok {text : String} {a : α} :
    ¬ (Reader.complain text : Reader α) followed = .ok (a, after) :=
  nofun

/-- Saying where a fault is does not matter to a value. -/
@[simp]
lemma located_eq_ok_iff {mark : Mark} {read : Reader α} {a : α} :
    p.located mark read followed = .ok (a, after) ↔ read followed = .ok (a, after) := by
  unfold located
  split <;> simp [*]

/-- A function of what a reader makes of a node everywhere. -/
lemma Holds.map {f : α → β} {a : α} (h : Holds read depth n a) :
    Holds (fun p n => f <$> read p n) depth n (f a) :=
  fun p followed hdepth => map_eq_ok (h p followed hdepth)

/-- A function of what a reader makes keeps what the reader keeps. -/
lemma Keeps.map (h : Keeps read R) (f : α → β) : Keeps (fun p n => f <$> read p n) R := by
  intro p n n' followed b after hR hmap
  obtain ⟨a, hread, rfl⟩ := map_eq_ok_iff.1 hmap
  exact (h hR hread).map

/-- A node without an alias is read where it stands. -/
lemma Kin.enter_eq (h : Kin n n') {a : α} :
    (p.enter n read followed = .ok (a, after) ↔ read p n followed = .ok (a, after)) ∧
    (p.enter n' read followed = .ok (a, after) ↔ read p n' followed = .ok (a, after)) := by
  cases h <;> exact ⟨located_eq_ok_iff, located_eq_ok_iff⟩

/-- A reader that looks at the node itself keeps what it keeps of nodes without aliases. -/
lemma Keeps.enter (hR : ∀ n n', R n n' → Kin n n') (h : Keeps read R) :
    Keeps (fun p n => p.enter n read) R := by
  intro p n n' followed a after hrel hread p' followed' hdepth
  have hkin := hR n n' hrel
  exact hkin.enter_eq.2.2 (h hrel (hkin.enter_eq.1.1 hread) p' followed' hdepth)

/-! ## Simple values -/

/-- Texts are read alike from nodes of the same kind. -/
lemma keeps_text (expected : String) : Keeps (Place.text expected) Kin := by
  refine Keeps.enter (fun _ _ h => h) ?_
  intro p n n' followed a after h hread p' followed' hdepth
  cases h with
  | scalar mark mark' text style =>
    obtain ⟨rfl, -⟩ := pure_eq_ok_iff.1 hread
    rfl
  | sequence => exact absurd hread throw_ne_ok
  | mapping => exact absurd hread throw_ne_ok

/-- Without a tag a scalar may be something simple if it is plain. -/
lemma mayBe_none (p : Place) (expected : Tag) (style : ScalarStyle) :
    p.mayBe expected none style = (style == .plain) := by
  simp [mayBe]

/-- Truth values are read alike from nodes of the same kind. -/
lemma keeps_bool : Keeps Place.bool Kin := by
  refine Keeps.enter (fun _ _ h => h) ?_
  intro p n n' followed a after h hread p' followed' hdepth
  cases h with
  | scalar mark mark' text style =>
    simp only [mayBe_none] at hread ⊢
    cases hvalue : if style == .plain then bool? text else none with
    | none =>
      rw [hvalue] at hread
      exact absurd hread throw_ne_ok
    | some value =>
      rw [hvalue] at hread
      obtain ⟨rfl, -⟩ := pure_eq_ok_iff.1 hread
      rfl
  | sequence => exact absurd hread throw_ne_ok
  | mapping => exact absurd hread throw_ne_ok

/-- A variant without content is named by a scalar, when there are no tags. -/
lemma keeps_bare (names : List String) (ofName : String → α) :
    Keeps (Place.variant names fun chosen => Place.bare (ofName chosen)) Kin := by
  intro p n n' followed a after h hread p' followed' hdepth
  cases h with
  | scalar mark mark' text style =>
    obtain ⟨_, between, hknown, htake⟩ := bind_eq_ok_iff.1 (located_eq_ok_iff.1 hread)
    refine located_eq_ok_iff.2 (bind_eq_ok_iff.2 ⟨(), followed', ?_, ?_⟩)
    · unfold known at hknown ⊢
      split at hknown
      · rename_i hcontains
        exact if_pos hcontains ▸ rfl
      · exact absurd hknown complain_ne_ok
    · obtain ⟨rfl, -⟩ : ofName text = a ∧ between = after := by
        simpa [bare] using htake
      rfl
  | sequence mark =>
    have hthrow : p.located mark (throw _) followed = .ok (a, after) := hread
    exact absurd (located_eq_ok_iff.1 hthrow) throw_ne_ok
  | mapping mark =>
    have hthrow : p.located mark (throw _) followed = .ok (a, after) := hread
    exact absurd (located_eq_ok_iff.1 hthrow) throw_ne_ok

/-- What may be missing is read alike if it is read alike when it is there. -/
lemma keeps_optional (hR : ∀ n n', R n n' → Kin n n') (h : Keeps read R) :
    Keeps (Place.optional read) R := by
  intro p n n' followed a after hrel hread p' followed' hdepth
  have hsome {a : Option α} (hread : (some <$> read p n) followed = .ok (a, after)) :
      (some <$> read p' n') followed' = .ok (a, followed') :=
    h.map some hrel hread p' followed' hdepth
  cases hR n n' hrel with
  | scalar mark mark' text style =>
    simp only [Place.optional, Place.optional.present] at hread ⊢
    split at hread
    · rename_i hstyle
      rw [if_pos hstyle]
      exact hsome hread
    · rename_i hstyle
      rw [if_neg hstyle]
      split at hread
      · rename_i hnull
        rw [if_pos hnull]
        obtain ⟨rfl, -⟩ := pure_eq_ok_iff.1 hread
        rfl
      · rename_i hnull
        rw [if_neg hnull]
        exact hsome hread
  | sequence => exact hsome hread
  | mapping => exact hsome hread

/-! ## Content -/

/-- The reader makes the content of an entry wherever it stands. -/
def EntryHolds (read : Place → Node → Reader Content) (depth : Nat) (e : Node × Node)
    (c : Content × Content) : Prop :=
  Holds read depth e.1 c.1 ∧ Holds read depth e.2 c.2

/-- Somewhere the reader makes the content of an entry. -/
def EntryMakes (read : Place → Node → Reader Content) (depth : Nat) (e : Node × Node)
    (c : Content × Content) : Prop :=
  Makes read depth e.1 c.1 ∧ Makes read depth e.2 c.2

section

variable {read : Place → Node → Reader Content} {entries entries' : List (Node × Node)}

/-- The content of entries, each of which has its content everywhere. -/
lemma contentEntries_of_entryHolds {contents : List (Content × Content)}
    (h : List.Forall₂ (EntryHolds read p.depth) entries contents) (followed : Nat) :
    contentEntries read p entries followed = .ok (contents, followed) := by
  induction h with
  | nil => rfl
  | @cons e c entries contents hentry hrest ih =>
    obtain ⟨key, value⟩ := e
    refine bind_eq_ok_iff.2 ⟨_, _, hentry.1 p followed rfl, bind_eq_ok_iff.2 ⟨_, _,
      hentry.2 (p.child key) followed (depth_child p key), bind_eq_ok_iff.2 ⟨_, _, ih, rfl⟩⟩⟩

/-- Entries whose content was taken in have their contents somewhere. -/
lemma entryMakes_of_contentEntries {contents : List (Content × Content)}
    (hread : contentEntries read p entries followed = .ok (contents, after)) :
    List.Forall₂ (EntryMakes read p.depth) entries contents := by
  induction entries generalizing followed after contents with
  | nil =>
    obtain ⟨rfl, -⟩ := pure_eq_ok_iff.1 hread
    exact .nil
  | cons e entries ih =>
    obtain ⟨key, value⟩ := e
    obtain ⟨name, _, hname, hread⟩ := bind_eq_ok_iff.1 hread
    obtain ⟨content, _, hcontent, hread⟩ := bind_eq_ok_iff.1 hread
    obtain ⟨others, _, hothers, hread⟩ := bind_eq_ok_iff.1 hread
    obtain ⟨rfl, -⟩ := pure_eq_ok_iff.1 hread
    exact .cons ⟨⟨_, _, _, rfl, hname⟩, ⟨_, _, _, depth_child p key, hcontent⟩⟩ (ih hothers)

/-- Related entries have the same contents everywhere. -/
lemma entryHolds_of_entryMakes {contents : List (Content × Content)} (h : Keeps read R)
    (hall : List.Forall₂ (fun e e' => R e.1 e'.1 ∧ R e.2 e'.2) entries entries')
    (hmakes : List.Forall₂ (EntryMakes read depth) entries contents) :
    List.Forall₂ (EntryHolds read depth) entries' contents := by
  induction hall generalizing contents with
  | nil =>
    cases hmakes
    exact .nil
  | cons hentry hall ih =>
    cases hmakes with
    | cons hmade hmakes => exact .cons ⟨h.holds hentry.1 hmade.1, h.holds hentry.2 hmade.2⟩ (ih hmakes)

/-- The contents of alike items are the same. -/
lemma keeps_contentItems (h : Keeps read Alike) {items items' : List Node} {index : Nat}
    {contents : List Content} (hall : AlikeItems items items')
    (hread : contentItems read p items index followed = .ok (contents, after))
    (hdepth : p'.depth = p.depth) (followed' : Nat) :
    contentItems read p' items' index followed' = .ok (contents, followed') := by
  induction items generalizing items' index contents followed after with
  | nil =>
    cases hall
    obtain ⟨rfl, -⟩ := pure_eq_ok_iff.1 hread
    rfl
  | cons n items ih =>
    cases hall with
    | cons first rest =>
      obtain ⟨content, _, hcontent, hread⟩ := bind_eq_ok_iff.1 hread
      obtain ⟨others, _, hothers, hread⟩ := bind_eq_ok_iff.1 hread
      obtain ⟨rfl, -⟩ := pure_eq_ok_iff.1 hread
      exact bind_eq_ok_iff.2 ⟨_, _, h first hcontent _ _ hdepth, bind_eq_ok_iff.2 ⟨_, _,
        ih rest hothers, rfl⟩⟩

end

/-- Alike entries have alike keys and alike values. -/
lemma AlikeEntries.forall₂ {entries entries' : List (Node × Node)} (h : AlikeEntries entries entries') :
    List.Forall₂ (fun e e' => Alike e.1 e'.1 ∧ Alike e.2 e'.2) entries entries' := by
  induction entries generalizing entries' with
  | nil =>
    cases h
    exact .nil
  | cons e entries ih =>
    cases h with
    | cons keys values rest => exact .cons ⟨keys, values⟩ (ih rest)

/-- What a scalar without a tag means. -/
def ScalarValue.untagged (text : String) (style : ScalarStyle) : ScalarValue :=
  if style = .plain then ofPlain text else .text text

/-- The value is no whole number that fits in 128 bits but not in 64. -/
def ScalarValue.isNarrow : ScalarValue → Bool
  | wide _ _ => false
  | _ => true

/-- The content of a scalar without a tag is what it means, unless that is a number that is too wide. -/
lemma contentBy_scalar_eq_ok_iff {inner : Option (Place → Node → Reader Content)} {mark : Mark}
    {text : String} {style : ScalarStyle} {c : Content} :
    contentBy inner p (.scalar mark none text style) followed = .ok (c, after) ↔
      (ScalarValue.untagged text style).isNarrow ∧ c = .scalar (.untagged text style) ∧
        followed = after := by
  have hread : ScalarValue.read none text style = .ok (.untagged text style) := rfl
  rw [contentBy, (Kin.scalar mark mark text style).enter_eq.1, bind_eq_ok_iff]
  simp only [hread]
  generalize ScalarValue.untagged text style = value
  constructor
  · rintro ⟨_, between, hnone, hend⟩
    obtain ⟨-, rfl⟩ := pure_eq_ok_iff.1 hnone
    cases value with
    | wide => exact absurd hend throw_ne_ok
    | _ =>
      obtain ⟨rfl, hafter⟩ := pure_eq_ok_iff.1 hend
      exact ⟨rfl, rfl, hafter⟩
  · rintro ⟨hnarrow, rfl, rfl⟩
    refine ⟨(), followed, rfl, ?_⟩
    cases value with
    | wide => cases hnarrow
    | _ => rfl

/-- A collection without a tag is read, if it may be open. -/
lemma opened_eq_ok_iff {inner : Option (Place → Node → Reader Content)}
    {body : (Place → Node → Reader Content) → Reader α} {f : α → Content} {fault : Fault} {c : Content} :
    ((pure () : Reader Unit) >>= fun _ =>
      match inner with
      | none => throw fault
      | some read => f <$> body read) followed = .ok (c, after) ↔
    ∃ read ∈ inner, ∃ contents, body read followed = .ok (contents, after) ∧ c = f contents := by
  rw [bind_eq_ok_iff]
  constructor
  · rintro ⟨_, between, hnone, hread⟩
    obtain ⟨-, rfl⟩ := pure_eq_ok_iff.1 hnone
    cases inner with
    | none => exact absurd hread throw_ne_ok
    | some read =>
      obtain ⟨contents, hcontents, rfl⟩ := map_eq_ok_iff.1 hread
      exact ⟨read, rfl, contents, hcontents, rfl⟩
  · rintro ⟨read, rfl, contents, hcontents, rfl⟩
    exact ⟨(), followed, rfl, map_eq_ok hcontents⟩

/-- The content of a sequence is that of its items. -/
lemma contentBy_sequence_eq_ok_iff {inner : Option (Place → Node → Reader Content)} {mark : Mark}
    {items : List Node} {c : Content} :
    contentBy inner p (.sequence mark none items) followed = .ok (c, after) ↔
      ∃ read ∈ inner, ∃ contents, contentItems read { p with inVariant := false } items 0 followed =
        .ok (contents, after) ∧ c = .sequence contents :=
  (Kin.sequence mark mark items items).enter_eq.1.trans opened_eq_ok_iff

/-- The content of a mapping is that of its entries. -/
lemma contentBy_mapping_eq_ok_iff {inner : Option (Place → Node → Reader Content)} {mark : Mark}
    {entries : List (Node × Node)} {c : Content} :
    contentBy inner p (.mapping mark none entries) followed = .ok (c, after) ↔
      ∃ read ∈ inner, ∃ contents, contentEntries read { p with inVariant := false } entries followed =
        .ok (contents, after) ∧ c = .mapping contents :=
  (Kin.mapping mark mark entries entries).enter_eq.1.trans opened_eq_ok_iff

/-- The content of a node depends on that of the nodes inside of it. -/
lemma keeps_contentBy {inner : Option (Place → Node → Reader Content)}
    (h : ∀ read ∈ inner, Keeps read Alike) : Keeps (contentBy inner) Alike := by
  intro p n n' followed c after halike hread p' followed' hdepth
  cases halike with
  | scalar mark mark' text style =>
    obtain ⟨hnarrow, rfl, -⟩ := contentBy_scalar_eq_ok_iff.1 hread
    exact contentBy_scalar_eq_ok_iff.2 ⟨hnarrow, rfl, rfl⟩
  | sequence mark mark' all =>
    obtain ⟨read, hinner, contents, hitems, rfl⟩ := contentBy_sequence_eq_ok_iff.1 hread
    exact contentBy_sequence_eq_ok_iff.2 ⟨read, hinner, contents,
      keeps_contentItems (h read hinner) all hitems (by exact hdepth) followed', rfl⟩
  | mapping mark mark' all =>
    obtain ⟨read, hinner, contents, hentries, rfl⟩ := contentBy_mapping_eq_ok_iff.1 hread
    have hholds := entryHolds_of_entryMakes (h read hinner) all.forall₂
      (entryMakes_of_contentEntries hentries)
    exact contentBy_mapping_eq_ok_iff.2 ⟨read, hinner, contents,
      contentEntries_of_entryHolds (hdepth ▸ hholds) followed', rfl⟩

/-- The contents of alike nodes are the same, to any depth. -/
lemma keeps_contentTo (depth : Nat) : Keeps (contentTo depth) Alike := by
  induction depth with
  | zero => exact keeps_contentBy nofun
  | succ depth ih =>
    refine keeps_contentBy fun read hread => ?_
    obtain rfl := Option.some.inj hread
    exact ih

/-- **The content of alike nodes is the same.** -/
theorem keeps_content : Keeps content Alike := by
  intro p n n' followed c after halike hread p' followed' hdepth
  rw [content, hdepth]
  exact keeps_contentTo p.depth halike hread p' followed' hdepth

/-- The content of a mapping is that of its entries, if the mapping may be open. -/
lemma content_mapping_eq_ok_iff {mark : Mark} {entries : List (Node × Node)} {c : Content} :
    p.content (.mapping mark none entries) followed = .ok (c, after) ↔
      ∃ depth contents, p.depth = depth + 1 ∧
        contentEntries (contentTo depth) { p with inVariant := false } entries followed =
          .ok (contents, after) ∧ c = .mapping contents := by
  obtain ⟨document, path, _ | depth, inVariant⟩ := p
  · rw [content, contentTo, contentBy_mapping_eq_ok_iff]
    refine iff_of_false ?_ ?_
    · rintro ⟨_, ⟨⟩, -⟩
    · rintro ⟨_, _, ⟨⟩, -⟩
  · rw [content, contentTo, contentBy_mapping_eq_ok_iff]
    constructor
    · rintro ⟨_, ⟨⟩, contents, hcontents, rfl⟩
      exact ⟨depth, contents, rfl, hcontents, rfl⟩
    · rintro ⟨_, contents, ⟨⟩, hcontents, rfl⟩
      exact ⟨_, rfl, contents, hcontents, rfl⟩

/-- What a node means, if it is a scalar without a tag. -/
def Node.meaning? : Node → Option ScalarValue
  | .scalar _ none text style => some (.untagged text style)
  | _ => none

/-- To any depth the content of a node is that of the nodes inside of it, if any may be there. -/
lemma exists_contentTo_eq (depth : Nat) : ∃ inner, contentTo depth = contentBy inner := by
  cases depth with
  | zero => exact ⟨none, rfl⟩
  | succ depth => exact ⟨some (contentTo depth), rfl⟩

/-- The content of a scalar is what it means. -/
lemma eq_of_meaning? {depth' : Nat} {value : ScalarValue} {c : Content}
    (hvalue : n.meaning? = some value) (hmakes : Makes (contentTo depth) depth' n c) :
    c = .scalar value := by
  obtain ⟨p, followed, after, -, hread⟩ := hmakes
  obtain ⟨inner, hinner⟩ := exists_contentTo_eq depth
  rw [hinner] at hread
  unfold Node.meaning? at hvalue
  split at hvalue
  · cases hvalue
    exact (contentBy_scalar_eq_ok_iff.1 hread).2.1
  · cases hvalue

/-! ## Documents -/

/-- What is wrong with the document itself counts as well as what is wrong with its root. -/
lemma Document.read_eq_ok_iff {d : Document} {a : α} :
    d.read read = .ok a ↔
      (∃ after, read { document := d } d.root 0 = .ok (a, after)) ∧ d.fault = none ∧
        d.more = false := by
  simp only [Document.read, StateT.run, Bind.bind, Except.bind]
  rcases read { document := d } d.root 0 with fault | ⟨value, after⟩
  · simp
  · rcases d.fault with _ | fault <;> cases d.more <;> simp

/-- **What is made of a document** is made of another whose root is related. -/
theorem Document.read_eq_ok_of_keeps {d d' : Document} {a : α} (h : Keeps read R)
    (hroot : R d.root d'.root) (hwhole : d'.fault = none) (hsingle : d'.more = false)
    (hread : d.read read = .ok a) : d'.read read = .ok a := by
  obtain ⟨⟨after, hread⟩, -⟩ := Document.read_eq_ok_iff.1 hread
  exact Document.read_eq_ok_iff.2 ⟨⟨0, h hroot hread _ 0 rfl⟩, hwhole, hsingle⟩

end Launcher.Yaml
