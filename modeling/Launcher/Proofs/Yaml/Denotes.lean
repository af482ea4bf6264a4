import Launcher.Proofs.Yaml.Alike
/-!
# What nodes denote

A node without tags denotes a value: a scalar denotes what it means, a collection what is in it, and an
alias what the node denotes that it refers to. This is what the author of a document has in mind, whatever
a reader can make of it.

The content of a node is taken in as it is, before anybody asks what it stands for. What is taken in is
what the node denotes. But there are values that cannot be taken in: a whole number that fits in 128 bits
but not in 64, and collections of which too many are open inside of each other. And no more aliases are
followed than a hundred for each piece of the document.

## Main definitions

* `Launcher.Yaml.Denotes` — a node denotes a value; `Launcher.Yaml.denotes?` computes it.
* `Launcher.Yaml.Content.fits` — a value can be taken in.
* `Launcher.Yaml.Document.Affords` — so many aliases can be followed.

## Main results

* `Launcher.Yaml.Denotes.unique` — a node denotes one value.
* `Launcher.Yaml.content_eq_ok_iff` — the content of a node is what it denotes.
-/

namespace Launcher.Yaml

open Place

/-! ## Values -/

mutual

/-- **The node denotes the value**, and to find it, so many aliases are followed. A whole number of any
width is a value. An alias refers to a node that is none. -/
inductive Denotes (d : Document) : Node → Content → Nat → Prop
  | scalar (mark : Mark) (text : String) (style : ScalarStyle) :
    Denotes d (.scalar mark none text style) (.scalar (.untagged text style)) 0
  | absent (mark : Mark) : Denotes d (.absent mark) (.scalar .null) 0
  | sequence {mark : Mark} {items : List Node} {values : List Content} {aliases : Nat}
      (all : DenotesItems d items values aliases) :
    Denotes d (.sequence mark none items) (.sequence values) aliases
  | mapping {mark : Mark} {entries : List (Node × Node)} {values : List (Content × Content)}
      {aliases : Nat} (all : DenotesEntries d entries values aliases) :
    Denotes d (.mapping mark none entries) (.mapping values) aliases
  | reference {mark : Mark} {anchor : Nat} {value : Content} {aliases : Nat}
      (direct : ∀ mark' anchor', d.target anchor ≠ .reference mark' anchor')
      (target : Denotes d (d.target anchor) value aliases) :
    Denotes d (.reference mark anchor) value (aliases + 1)

/-- So do the items of a sequence. -/
inductive DenotesItems (d : Document) : List Node → List Content → Nat → Prop
  | nil : DenotesItems d [] [] 0
  | cons {n : Node} {value : Content} {items : List Node} {values : List Content} {aliases more : Nat}
      (first : Denotes d n value aliases) (rest : DenotesItems d items values more) :
    DenotesItems d (n :: items) (value :: values) (aliases + more)

/-- So do the entries of a mapping, keys and values. -/
inductive DenotesEntries (d : Document) :
    List (Node × Node) → List (Content × Content) → Nat → Prop
  | nil : DenotesEntries d [] [] 0
  | cons {key n : Node} {name value : Content} {entries : List (Node × Node)}
      {values : List (Content × Content)} {aliases aliases' more : Nat}
      (keys : Denotes d key name aliases) (first : Denotes d n value aliases')
      (rest : DenotesEntries d entries values more) :
    DenotesEntries d ((key, n) :: entries) ((name, value) :: values) (aliases + aliases' + more)

end

variable {d : Document}

mutual

/-- **A node denotes one value.** -/
theorem Denotes.unique {n : Node} {value value' : Content} {aliases aliases' : Nat}
    (h : Denotes d n value aliases) (h' : Denotes d n value' aliases') :
    value' = value ∧ aliases' = aliases := by
  cases h with
  | scalar mark text style =>
    cases h'
    exact ⟨rfl, rfl⟩
  | absent mark =>
    cases h'
    exact ⟨rfl, rfl⟩
  | sequence all =>
    cases h' with
    | sequence all' =>
      obtain ⟨rfl, rfl⟩ := all.unique all'
      exact ⟨rfl, rfl⟩
  | mapping all =>
    cases h' with
    | mapping all' =>
      obtain ⟨rfl, rfl⟩ := all.unique all'
      exact ⟨rfl, rfl⟩
  | reference direct target =>
    cases h' with
    | reference direct' target' =>
      obtain ⟨rfl, rfl⟩ := target.unique target'
      exact ⟨rfl, rfl⟩

/-- Items denote one list of values. -/
lemma DenotesItems.unique {items : List Node} {values values' : List Content}
    {aliases aliases' : Nat} (h : DenotesItems d items values aliases)
    (h' : DenotesItems d items values' aliases') : values' = values ∧ aliases' = aliases := by
  cases h with
  | nil =>
    cases h'
    exact ⟨rfl, rfl⟩
  | cons first rest =>
    cases h' with
    | cons first' rest' =>
      obtain ⟨rfl, rfl⟩ := first.unique first'
      obtain ⟨rfl, rfl⟩ := rest.unique rest'
      exact ⟨rfl, rfl⟩

/-- Entries denote one list of values. -/
lemma DenotesEntries.unique {entries : List (Node × Node)} {values values' : List (Content × Content)}
    {aliases aliases' : Nat} (h : DenotesEntries d entries values aliases)
    (h' : DenotesEntries d entries values' aliases') : values' = values ∧ aliases' = aliases := by
  cases h with
  | nil =>
    cases h'
    exact ⟨rfl, rfl⟩
  | cons keys first rest =>
    cases h' with
    | cons keys' first' rest' =>
      obtain ⟨rfl, rfl⟩ := keys.unique keys'
      obtain ⟨rfl, rfl⟩ := first.unique first'
      obtain ⟨rfl, rfl⟩ := rest.unique rest'
      exact ⟨rfl, rfl⟩

end

/-! ## Finding the value -/

section

variable {inner : Node → Content → Option Nat}

/-- How many aliases are followed to find the items, by what says it of one. -/
def denotesItems? (inner : Node → Content → Option Nat) : List Node → List Content → Option Nat
  | [], [] => some 0
  | n :: items, value :: values => do
    let aliases ← inner n value
    let more ← denotesItems? inner items values
    some (aliases + more)
  | _, _ => none

/-- How many aliases are followed to find the entries. -/
def denotesEntries? (inner : Node → Content → Option Nat) :
    List (Node × Node) → List (Content × Content) → Option Nat
  | [], [] => some 0
  | (key, n) :: entries, (name, value) :: values => do
    let aliases ← inner key name
    let aliases' ← inner n value
    let more ← denotesEntries? inner entries values
    some (aliases + aliases' + more)
  | _, _ => none

/-- How many aliases are followed to find that a node denotes a value. `steps` bounds the way to a
scalar. -/
def denotes? (d : Document) : (steps : Nat) → Node → Content → Option Nat
  | _, .scalar _ none text style, .scalar value =>
    if value = .untagged text style then some 0 else none
  | _, .absent _, .scalar .null => some 0
  | steps + 1, .sequence _ none items, .sequence values => denotesItems? (denotes? d steps) items values
  | steps + 1, .mapping _ none entries, .mapping values =>
    denotesEntries? (denotes? d steps) entries values
  | steps + 1, .reference _ anchor, value =>
    match d.target anchor with
    | .reference _ _ => none
    | n => (denotes? d steps n value).map (· + 1)
  | _, _, _ => none

/-- So can what is said of items. -/
lemma DenotesItems.of_denotesItems? {items : List Node} {values : List Content} {aliases : Nat}
    (hinner : ∀ n value aliases, inner n value = some aliases → Denotes d n value aliases)
    (h : denotesItems? inner items values = some aliases) : DenotesItems d items values aliases := by
  induction items generalizing values aliases with
  | nil =>
    cases values with
    | nil =>
      cases h
      exact .nil
    | cons => cases h
  | cons n items ih =>
    cases values with
    | nil => cases h
    | cons value values =>
      obtain ⟨first, hfirst, h⟩ := Option.bind_eq_some_iff.1 h
      obtain ⟨more, hmore, h⟩ := Option.bind_eq_some_iff.1 h
      cases h
      exact .cons (hinner _ _ _ hfirst) (ih hmore)

/-- So can what is said of entries. -/
lemma DenotesEntries.of_denotesEntries? {entries : List (Node × Node)}
    {values : List (Content × Content)} {aliases : Nat}
    (hinner : ∀ n value aliases, inner n value = some aliases → Denotes d n value aliases)
    (h : denotesEntries? inner entries values = some aliases) :
    DenotesEntries d entries values aliases := by
  induction entries generalizing values aliases with
  | nil =>
    cases values with
    | nil =>
      cases h
      exact .nil
    | cons => cases h
  | cons entry entries ih =>
    cases values with
    | nil => cases h
    | cons value values =>
      obtain ⟨keys, hkeys, h⟩ := Option.bind_eq_some_iff.1 h
      obtain ⟨first, hfirst, h⟩ := Option.bind_eq_some_iff.1 h
      obtain ⟨more, hmore, h⟩ := Option.bind_eq_some_iff.1 h
      cases h
      exact .cons (hinner _ _ _ hkeys) (hinner _ _ _ hfirst) (ih hmore)

end

/-- What is said can be computed. -/
lemma Denotes.of_denotes? (steps : Nat) {n : Node} {value : Content} {aliases : Nat}
    (h : denotes? d steps n value = some aliases) : Denotes d n value aliases := by
  induction steps using Nat.strongRecOn generalizing n value aliases with
  | _ steps ih =>
    unfold denotes? at h
    split at h
    · split at h
      next hvalue =>
        cases h
        rw [hvalue]
        exact .scalar _ _ _
      next => cases h
    · cases h
      exact .absent _
    · exact .sequence (.of_denotesItems? (fun _ _ _ => ih _ (Nat.lt_succ_self _)) h)
    · exact .mapping (.of_denotesEntries? (fun _ _ _ => ih _ (Nat.lt_succ_self _)) h)
    · split at h
      next => cases h
      next direct =>
        obtain ⟨aliases, htarget, rfl⟩ := Option.map_eq_some_iff.1 h
        exact .reference direct (ih _ (Nat.lt_succ_self _) htarget)
    · cases h

/-! ## Limits -/

/-- **A value can be taken in**, if so many collections may be open inside of each other: there are no more
of them, and no whole number in it fits in 128 bits but not in 64. -/
def Content.fits : (depth : Nat) → Content → Bool
  | _, .scalar value => value.isNarrow
  | depth + 1, .sequence items => items.all (fits depth)
  | depth + 1, .mapping entries => entries.all fun e => fits depth e.1 && fits depth e.2
  | 0, _ => false

/-- So many aliases can be followed, when some have been followed before. -/
def Document.Affords (d : Document) (followed aliases : Nat) : Prop :=
  aliases = 0 ∨ followed + aliases ≤ d.pieces.length * 100

/-- Aliases can be followed one after another. -/
lemma affords_add_iff {followed first second : Nat} :
    d.Affords followed (first + second) ↔
      d.Affords followed first ∧ d.Affords (followed + first) second := by
  unfold Document.Affords
  omega

/-! ## What is taken in -/

section

variable {read : Place → Node → Reader Content} {inner : Option (Place → Node → Reader Content)}
  {fits : Content → Bool} {p : Place} {followed after : Nat} {mark : Mark} {c : Content}

/-- **What the reader takes in is what the node denotes**, if that fits, and the aliases can be
followed. -/
def TakesIn (d : Document) (read : Place → Node → Reader Content) (fits : Content → Bool) (n : Node)
    (value : Content) (aliases : Nat) : Prop :=
  ∀ ⦃p : Place⦄, p.document = d → ∀ followed c after, read p n followed = .ok (c, after) ↔
    fits value ∧ d.Affords followed aliases ∧ c = value ∧ after = followed + aliases

/-- **Items are taken in** as the values that they denote. -/
theorem contentItems_eq_ok_iff
    (hread : ∀ n value aliases, Denotes d n value aliases → TakesIn d read fits n value aliases)
    {items : List Node} {values contents : List Content} {aliases index : Nat}
    (h : DenotesItems d items values aliases) (hp : p.document = d) :
    contentItems read p items index followed = .ok (contents, after) ↔
      values.all fits ∧ d.Affords followed aliases ∧ contents = values ∧
        after = followed + aliases := by
  induction items generalizing values contents aliases index followed after with
  | nil =>
    cases h
    rw [contentItems, pure_eq_ok_iff]
    simp [Document.Affords, eq_comm]
  | cons n items ih =>
    cases h with
    | cons first rest =>
      have hfirst := hread _ _ _ first (p := p.item index) hp
      rw [contentItems, bind_eq_ok_iff]
      simp only [bind_eq_ok_iff, hfirst, ih rest, pure_eq_ok_iff, affords_add_iff, List.all_cons,
        Bool.and_eq_true]
      constructor
      · rintro ⟨_, _, ⟨hfits, haffords, rfl, rfl⟩, _, _, ⟨hall, hmore, rfl, rfl⟩, rfl, rfl⟩
        exact ⟨⟨hfits, hall⟩, ⟨haffords, hmore⟩, rfl, Nat.add_assoc _ _ _⟩
      · rintro ⟨⟨hfits, hall⟩, ⟨haffords, hmore⟩, rfl, rfl⟩
        exact ⟨_, _, ⟨hfits, haffords, rfl, rfl⟩, _, _, ⟨hall, hmore, rfl, rfl⟩, rfl,
          Nat.add_assoc _ _ _⟩

/-- **Entries are taken in** as the values that they denote. -/
theorem contentEntries_eq_ok_iff
    (hread : ∀ n value aliases, Denotes d n value aliases → TakesIn d read fits n value aliases)
    {entries : List (Node × Node)} {values contents : List (Content × Content)} {aliases : Nat}
    (h : DenotesEntries d entries values aliases) (hp : p.document = d) :
    contentEntries read p entries followed = .ok (contents, after) ↔
      (values.all fun e => fits e.1 && fits e.2) ∧ d.Affords followed aliases ∧ contents = values ∧
        after = followed + aliases := by
  induction entries generalizing values contents aliases followed after with
  | nil =>
    cases h
    rw [contentEntries, pure_eq_ok_iff]
    simp [Document.Affords, eq_comm]
  | cons entry entries ih =>
    cases h with
    | @cons key n _ _ _ _ _ _ _ keys first rest =>
      have hkey := hread _ _ _ keys hp
      have hchild : (p.child key).document = d := by
        cases key <;> exact hp
      have hfirst := hread _ _ _ first hchild
      rw [contentEntries, bind_eq_ok_iff]
      simp only [bind_eq_ok_iff, hkey, hfirst, ih rest, pure_eq_ok_iff, affords_add_iff, List.all_cons,
        Bool.and_eq_true]
      constructor
      · rintro ⟨_, _, ⟨hfits, haffords, rfl, rfl⟩, _, _, ⟨hfits', haffords', rfl, rfl⟩, _, _,
          ⟨hall, hmore, rfl, rfl⟩, rfl, rfl⟩
        refine ⟨⟨⟨hfits, hfits'⟩, hall⟩, ⟨⟨haffords, haffords'⟩, ?_⟩, rfl, ?_⟩
        · rwa [← Nat.add_assoc]
        · rw [← Nat.add_assoc, ← Nat.add_assoc]
      · rintro ⟨⟨⟨hfits, hfits'⟩, hall⟩, ⟨⟨haffords, haffords'⟩, hmore⟩, rfl, rfl⟩
        rw [← Nat.add_assoc] at hmore
        refine ⟨_, _, ⟨hfits, haffords, rfl, rfl⟩, _, _, ⟨hfits', haffords', rfl, rfl⟩, _, _,
          ⟨hall, hmore, rfl, rfl⟩, rfl, ?_⟩
        rw [← Nat.add_assoc, ← Nat.add_assoc]

/-- An alias is followed to its target, if one more can be followed. -/
lemma follow_eq_ok_iff {anchor : Nat} {found : Place × Node} :
    p.follow anchor followed = .ok (found, after) ↔
      p.document.Affords followed 1 ∧
        ({ p with path := .target p.path, inVariant := false }, p.document.target anchor) = found ∧
          followed + 1 = after := by
  have hrun : p.follow anchor followed =
      (if p.document.pieces.length * 100 < followed + 1 then throw .tooManyAliases
        else pure ({ p with path := .target p.path, inVariant := false }, p.document.target anchor) :
          Reader (Place × Node)) (followed + 1) := rfl
  have haffords : p.document.Affords followed 1 ↔
      ¬ p.document.pieces.length * 100 < followed + 1 := by
    unfold Document.Affords
    omega
  rw [hrun, haffords]
  split
  next hmany => simp [hmany]
  next hmany => simp [hmany]

/-- The content of an alias is that of the node that it refers to, if that is none. -/
lemma contentBy_reference_eq_ok_iff {anchor : Nat}
    (direct : ∀ mark' anchor', p.document.target anchor ≠ .reference mark' anchor') :
    contentBy inner p (.reference mark anchor) followed = .ok (c, after) ↔
      p.document.Affords followed 1 ∧
        contentBy inner { p with path := .target p.path, inVariant := false }
          (p.document.target anchor) (followed + 1) = .ok (c, after) := by
  have henter (p : Place) {n : Node} {body : Place → Node → Reader Content}
      (hn : ∀ mark' anchor', n ≠ .reference mark' anchor') : p.visit n body = p.enter n body := by
    cases n with
    | reference mark' anchor' => exact absurd rfl (hn mark' anchor')
    | _ => rfl
  refine located_eq_ok_iff.trans (bind_eq_ok_iff.trans ⟨?_, fun ⟨haffords, hread⟩ => ?_⟩)
  · rintro ⟨_, _, hfollow, hread⟩
    obtain ⟨haffords, rfl, rfl⟩ := follow_eq_ok_iff.1 hfollow
    exact ⟨haffords, (congrFun (henter _ direct) _).symm.trans hread⟩
  · exact ⟨_, _, follow_eq_ok_iff.2 ⟨haffords, rfl, rfl⟩, (congrFun (henter _ direct) _).trans hread⟩

/-- A scalar can be taken in unless it is a number that is too wide. -/
@[simp]
lemma Content.fits_scalar {depth : Nat} {value : ScalarValue} :
    (Content.scalar value).fits depth = value.isNarrow := by
  cases depth <;> rfl

/-- A node that is no alias is taken in, if the nodes inside of it are. -/
lemma takesIn_of_direct {depth : Nat} {n : Node} {value : Content} {aliases : Nat}
    (h : Denotes d n value aliases) (direct : ∀ mark anchor, n ≠ .reference mark anchor)
    (hinner : ∀ less, less < depth → ∀ n value aliases, Denotes d n value aliases →
      TakesIn d (contentTo less) (Content.fits less) n value aliases) :
    TakesIn d (contentTo depth) (Content.fits depth) n value aliases := by
  intro p hp followed c after
  obtain ⟨inner, hto⟩ := exists_contentTo_eq depth
  cases h with
  | scalar mark text style =>
    rw [hto, contentBy_scalar_eq_ok_iff, Content.fits_scalar, eq_comm (a := followed)]
    simp [Document.Affords]
  | absent mark =>
    have habsent : contentBy inner p (.absent mark) followed = .ok (c, after) ↔
        .scalar .null = c ∧ followed = after := by
      change p.located mark (pure (.scalar .null)) followed = .ok (c, after) ↔ _
      rw [located_eq_ok_iff, pure_eq_ok_iff]
    rw [hto, habsent, Content.fits_scalar, eq_comm (b := c), eq_comm (b := after)]
    simp [Document.Affords, ScalarValue.isNarrow]
  | sequence all =>
    cases depth with
    | zero => exact contentBy_sequence_eq_ok_iff.trans (by simp [Content.fits])
    | succ depth =>
      have hitems := hinner depth (Nat.lt_succ_self depth)
      refine contentBy_sequence_eq_ok_iff.trans ⟨?_, ?_⟩
      · rintro ⟨_, ⟨⟩, contents, hcontents, rfl⟩
        obtain ⟨hfits, haffords, rfl, rfl⟩ :=
          (contentItems_eq_ok_iff hitems all (by exact hp)).1 hcontents
        exact ⟨hfits, haffords, rfl, rfl⟩
      · rintro ⟨hfits, haffords, rfl, rfl⟩
        exact ⟨_, rfl, _, (contentItems_eq_ok_iff hitems all (by exact hp)).2
          ⟨hfits, haffords, rfl, rfl⟩, rfl⟩
  | mapping all =>
    cases depth with
    | zero => exact contentBy_mapping_eq_ok_iff.trans (by simp [Content.fits])
    | succ depth =>
      have hentries := hinner depth (Nat.lt_succ_self depth)
      refine contentBy_mapping_eq_ok_iff.trans ⟨?_, ?_⟩
      · rintro ⟨_, ⟨⟩, contents, hcontents, rfl⟩
        obtain ⟨hfits, haffords, rfl, rfl⟩ :=
          (contentEntries_eq_ok_iff hentries all (by exact hp)).1 hcontents
        exact ⟨hfits, haffords, rfl, rfl⟩
      · rintro ⟨hfits, haffords, rfl, rfl⟩
        exact ⟨_, rfl, _, (contentEntries_eq_ok_iff hentries all (by exact hp)).2
          ⟨hfits, haffords, rfl, rfl⟩, rfl⟩
  | reference => exact absurd rfl (direct _ _)

/-- **What is taken in of a node** is what it denotes.

**Proof sketch.** By induction on the number of collections that may be open inside of each other. An
alias is none, so behind it there is the same number left; but it does not refer to another alias. -/
theorem takesIn_contentTo (depth : Nat) (n : Node) (value : Content) (aliases : Nat)
    (h : Denotes d n value aliases) : TakesIn d (contentTo depth) (Content.fits depth) n value aliases := by
  induction depth using Nat.strongRecOn generalizing n value aliases with
  | _ depth ih =>
    cases h with
    | @reference _ _ _ aliases direct target =>
      intro p hp followed c after
      subst hp
      obtain ⟨inner, hto⟩ := exists_contentTo_eq depth
      have htarget := takesIn_of_direct target direct ih
      rw [hto] at htarget ⊢
      rw [contentBy_reference_eq_ok_iff direct, Nat.add_comm aliases 1, affords_add_iff,
        ← Nat.add_assoc, htarget (p := { p with path := .target p.path, inVariant := false }) rfl]
      exact ⟨fun ⟨haffords, hfits, hmore, hc⟩ => ⟨hfits, ⟨haffords, hmore⟩, hc⟩,
        fun ⟨hfits, ⟨haffords, hmore⟩, hc⟩ => ⟨haffords, hfits, hmore, hc⟩⟩
    | scalar => exact takesIn_of_direct (.scalar _ _ _) nofun ih
    | absent => exact takesIn_of_direct (.absent _) nofun ih
    | sequence all => exact takesIn_of_direct (.sequence all) nofun ih
    | mapping all => exact takesIn_of_direct (.mapping all) nofun ih

/-- **The content of a node** is what it denotes, if that fits, and its aliases can be followed. -/
theorem content_eq_ok_iff {n : Node} {value : Content} {aliases : Nat}
    (h : Denotes p.document n value aliases) :
    p.content n followed = .ok (c, after) ↔ value.fits p.depth ∧ p.document.Affords followed aliases ∧
      c = value ∧ after = followed + aliases :=
  takesIn_contentTo p.depth n value aliases h rfl followed c after

end

end Launcher.Yaml
