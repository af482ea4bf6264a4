import Launcher.Proofs.Children.Care
/-!
# What happens to children

All children that there ever were are kept by their numbers, together with the answers to the waits
on them. Events add a child or an answer; the end of an activity drops the children that it has not
passed on.

A child is settled by a wait that collects it, or by being given up after a refused wait. The
balance says who is to settle it until then: its number is owned once, by one activity or in one of
the other places. From the point of view of one activity all these are just the others, and it is
this point of view that an event and an ending keep.

## Main definitions

* `Launcher.Children.Child` — what has happened to a child.
* `Launcher.Children.Records` — all children by their numbers.
* `Launcher.Children.Orderly` — the children of a number are settled one after the other.
* `Launcher.Children.Records.Balanced` — the balance, as one activity and all others see it.

## Main results

* `Launcher.Children.Records.Balanced.after`, `Launcher.Children.Records.Balanced.after_eq` — an
  event on a child in the care of an activity keeps the balance, and leaves the children of others
  alone.
* `Launcher.Children.Records.Balanced.leave`, `Launcher.Children.Records.Balanced.orderly_leave` —
  so does the end of an activity, and it settles what it gives up.
-/

namespace Launcher.Children

open Host Host.Dialogue

/-! ## Children -/

/-- What has happened to a child. -/
structure Child where
  /-- It has ended. -/
  ended : Bool := false
  /-- The answers to all waits on it, the last first. -/
  waits : List (Except Errno (Option WaitStatus)) := []
  /-- The activity that had it in its care is over, and has not passed it on. -/
  dropped : Bool := false

/-- The wait has collected the child. -/
def isCollected : Except Errno (Option WaitStatus) → Bool
  | .ok (some _) => true
  | .ok none | .error _ => false

namespace Child

/-- How many waits have collected the child. -/
def collects (c : Child) : Nat :=
  c.waits.countP isCollected

/-- The last wait on the child was refused. -/
def lastRefused (c : Child) : Bool :=
  match c.waits with
  | .error _ :: _ => true
  | _ => false

/-- The child was given up because a wait on it was refused; 1, if so. -/
def gaveUp (c : Child) : Nat :=
  if c.dropped ∧ c.lastRefused then 1 else 0

/-- Nobody is to collect the child any more. -/
def settled (c : Child) : Bool :=
  c.dropped || decide (0 < c.collects)

/-- The child after a wait. -/
def wait (c : Child) (answer : Except Errno (Option WaitStatus)) : Child :=
  { c with waits := answer :: c.waits }

/-- The child after its end. -/
def exit (c : Child) : Child :=
  { c with ended := true }

/-- The child after an activity that has not passed it on. -/
def drop (c : Child) : Child :=
  { c with dropped := true }

end Child

/-- All children that there ever were, by their numbers, the newest of a number first. -/
abbrev Records := Pid → List Child

namespace Records

/-- Something happens to the newest child of a number. -/
def amend (r : Records) (pid : Pid) (f : Child → Child) : Records :=
  Function.update r pid ((r pid).modifyHead f)

/-- The children after an event. -/
def after (r : Records) : Event → Records
  | .started pid => Function.update r pid ({} :: r pid)
  | .waited pid answer => r.amend pid (·.wait answer)
  | .adopted _ | .nothing => r

/-- A new child gets a number of which every child is settled. -/
def Admits (r : Records) : Event → Prop
  | .started pid => ∀ c ∈ r pid, c.settled
  | .waited _ _ | .adopted _ | .nothing => True

/-- The children after the end of an activity with this care that has passed on those in `held`. -/
def leave (r : Records) (s : Care) (held : Pid → Nat) : Records := fun pid =>
  if s pid ≠ .none ∧ held pid = 0 then (r pid).modifyHead (·.drop) else r pid

end Records

/-! ## One child -/

namespace Child

variable {c : Child}

/-- The child is settled in one way exactly, or is not settled. -/
def Once (c : Child) : Prop :=
  c.collects + c.gaveUp = if c.settled then 1 else 0

/-- A child that is not settled has not been collected. -/
lemma collects_eq_zero (h : c.settled = false) : c.collects = 0 := by
  simp only [settled, Bool.or_eq_false_iff, decide_eq_false_iff_not] at h
  omega

/-- A child that is not settled has not been given up. -/
lemma dropped_eq_false (h : c.settled = false) : c.dropped = false :=
  (Bool.or_eq_false_iff.1 h).1

/-- A wait collects the child when it is answered with its end. -/
lemma collects_wait (answer : Except Errno (Option WaitStatus)) :
    (c.wait answer).collects = c.collects + if isCollected answer then 1 else 0 := by
  simp [collects, wait, List.countP_cons]

/-- A wait settles a child that is not settled exactly when it collects the child. -/
lemma settled_wait (h : c.settled = false) (answer : Except Errno (Option WaitStatus)) :
    (c.wait answer).settled = isCollected answer := by
  have hdropped : (c.wait answer).dropped = false := dropped_eq_false (c := c) h
  rw [settled, hdropped, collects_wait, collects_eq_zero h]
  cases isCollected answer <;> rfl

/-- A wait on a child that is not settled leaves it settled in at most one way. -/
lemma once_wait (h : c.settled = false) (answer : Except Errno (Option WaitStatus)) :
    (c.wait answer).Once := by
  have hgaveUp : (c.wait answer).gaveUp = 0 := by
    simp [gaveUp, wait, dropped_eq_false h]
  rw [Once, settled_wait h, collects_wait, collects_eq_zero h, hgaveUp]
  simp

/-- If the last wait was refused, some wait was. -/
lemma exists_of_lastRefused (h : c.lastRefused) : ∃ e, .error e ∈ c.waits := by
  unfold lastRefused at h
  split at h
  · rename_i e rest hwaits
    exact ⟨e, by simp [hwaits]⟩
  · cases h

/-- A child that is given up is settled. -/
lemma settled_drop : c.drop.settled = true := rfl

/-- A child that is not settled can be dropped after a refused wait. -/
lemma once_drop (h : c.settled = false) (hrefused : c.lastRefused) : c.drop.Once := by
  have hcollects : c.drop.collects = 0 := collects_eq_zero (c := c) h
  have hgaveUp : c.drop.gaveUp = 1 := if_pos ⟨rfl, hrefused⟩
  rw [Once, settled_drop, hcollects, hgaveUp]
  rfl

end Child

/-- The newest child of some is still to be settled; 1, if so. -/
def unsettled : List Child → Nat
  | [] => 0
  | c :: _ => if c.settled then 0 else 1

/-- Of the children of one number, the newest counts at most. -/
lemma unsettled_le_one (cs : List Child) : unsettled cs ≤ 1 := by
  cases cs with
  | nil => simp [unsettled]
  | cons c cs =>
    simp only [unsettled]
    split <;> simp

/-- All but the newest child of some are settled, and all in one way only. -/
structure Orderly (cs : List Child) : Prop where
  older : ∀ c ∈ cs.tail, c.settled
  once : ∀ c ∈ cs, c.Once

/-- What happens to the newest child leaves the others as they are. -/
lemma Orderly.modifyHead {cs : List Child} {f : Child → Child} (h : Orderly cs)
    (hf : ∀ c ∈ cs.head?, (f c).Once) : Orderly (cs.modifyHead f) := by
  cases cs with
  | nil => exact h
  | cons c older =>
    refine ⟨h.older, fun d hd => ?_⟩
    rcases List.mem_cons.1 hd with rfl | hd
    · exact hf c rfl
    · exact h.once d (List.mem_cons_of_mem _ hd)

/-! ## The balance -/

namespace Records

variable {r : Records} {mine : Care} {others held : Pid → Nat} {e : Event}

/-- **The balance**: a number whose newest child is still to be settled is owned once, by one
activity or by one of all others, and any other number is not owned. -/
def Balanced (r : Records) (mine : Care) (others : Pid → Nat) : Prop :=
  ∀ pid, (mine pid).count + others pid = unsettled (r pid)

/-- On the children that are marked so, the last wait was refused. -/
def Marked (r : Records) (s : Care) : Prop :=
  ∀ pid, s pid = .refused → ∃ c ∈ (r pid).head?, c.lastRefused

/-- The child in an activity's care is not settled, and is in no other place. -/
lemma Balanced.exists_of_ne_none {pid : Pid} (h : r.Balanced mine others)
    (hmine : mine pid ≠ .none) :
    others pid = 0 ∧ ∃ c older, r pid = c :: older ∧ c.settled = false := by
  have hcount := Standing.count_ne_zero hmine
  have hbalance := h pid
  cases hr : r pid with
  | nil =>
    rw [hr, unsettled] at hbalance
    omega
  | cons c older =>
    rw [hr, unsettled] at hbalance
    cases hsettled : c.settled with
    | true =>
      rw [hsettled, if_pos rfl] at hbalance
      omega
    | false =>
      rw [hsettled, if_neg (by simp)] at hbalance
      exact ⟨by omega, c, older, rfl, hsettled⟩

/-- A number that is given to a new child is not owned. -/
lemma Balanced.eq_zero_of_admits {pid : Pid} (h : r.Balanced mine others)
    (hadmits : r.Admits (.started pid)) : mine pid = .none ∧ others pid = 0 := by
  have hzero : unsettled (r pid) = 0 := by
    cases hr : r pid with
    | nil => rfl
    | cons c older => exact if_pos (hadmits c (by simp [hr]))
  have hbalance := h pid
  rw [hzero] at hbalance
  exact ⟨Standing.count_eq_zero_iff.1 (by omega), by omega⟩

/-- What changes for one number only changes the balance for that number only. -/
lemma Balanced.update {pid : Pid} {st : Standing} {cs : List Child} {others' : Pid → Nat}
    (h : r.Balanced mine others) (hsame : ∀ q, q ≠ pid → others' q = others q)
    (hpid : st.count + others' pid = unsettled cs) :
    Balanced (Function.update r pid cs) (Function.update mine pid st) others' := by
  intro q
  by_cases hq : q = pid
  · rw [hq, Function.update_self, Function.update_self]
    exact hpid
  · rw [Function.update_of_ne hq, Function.update_of_ne hq, hsame q hq]
    exact h q

/-! ### Events -/

/-- An event on the children in an activity's care keeps the balance. -/
lemma Balanced.after (h : r.Balanced mine others) (hallows : mine.Allows e)
    (hadmits : r.Admits e) :
    Balanced (r.after e) (mine.after e) fun pid => others pid + e.handedOver.count pid := by
  cases e with
  | started pid =>
    obtain ⟨-, hzero⟩ := h.eq_zero_of_admits hadmits
    refine h.update (fun q _ => by simp [Event.handedOver]) ?_
    simp [hzero, Event.handedOver, Standing.count, unsettled, Child.settled, Child.collects]
  | waited pid answer =>
    obtain ⟨hzero, c, older, hr, hc⟩ := h.exists_of_ne_none hallows
    refine h.update (fun q _ => by simp [Event.handedOver]) ?_
    rw [hr, List.modifyHead_cons, unsettled, Child.settled_wait hc, hzero]
    rcases answer with e | _ | status <;> rfl
  | adopted pid =>
    obtain ⟨hzero, c, older, hr, hc⟩ := h.exists_of_ne_none hallows
    have hsame : r.after (.adopted pid) = Function.update r pid (r pid) :=
      (Function.update_eq_self pid r).symm
    rw [hsame]
    refine h.update (fun q hq => ?_) ?_
    · simp [Event.handedOver, Ne.symm hq]
    · simp [hr, unsettled, hc, hzero, Event.handedOver, Standing.count]
  | nothing => exact fun pid => by simpa [Event.handedOver, Records.after, Care.after] using h pid

/-- An event on the children in an activity's care does not touch those in other places. -/
lemma Balanced.after_eq {pid : Pid} (h : r.Balanced mine others) (hallows : mine.Allows e)
    (hadmits : r.Admits e) (hothers : others pid ≠ 0) : r.after e pid = r pid := by
  cases e with
  | started q =>
    have hne : pid ≠ q := by
      rintro rfl
      exact hothers (h.eq_zero_of_admits hadmits).2
    exact Function.update_of_ne hne _ _
  | waited q answer =>
    have hne : pid ≠ q := by
      rintro rfl
      exact hothers (h.exists_of_ne_none hallows).1
    exact Function.update_of_ne hne _ _
  | adopted q => rfl
  | nothing => rfl

/-- An event on the children in an activity's care settles each child in one way only. -/
lemma Balanced.orderly_after (h : r.Balanced mine others) (hr : ∀ pid, Orderly (r pid))
    (hallows : mine.Allows e) (hadmits : r.Admits e) (pid : Pid) : Orderly (r.after e pid) := by
  cases e with
  | started q =>
    by_cases hq : pid = q
    · subst hq
      rw [Records.after, Function.update_self]
      refine ⟨fun c hc => hadmits c hc, fun c hc => ?_⟩
      rcases List.mem_cons.1 hc with rfl | hc
      · rfl
      · exact (hr pid).once c hc
    · rw [Records.after, Function.update_of_ne hq]
      exact hr pid
  | waited q answer =>
    by_cases hq : pid = q
    · subst hq
      obtain ⟨-, c, older, hcons, hc⟩ := h.exists_of_ne_none hallows
      rw [Records.after, amend, Function.update_self]
      refine (hr pid).modifyHead fun d hd => ?_
      rw [hcons, List.head?_cons, Option.mem_some_iff] at hd
      exact hd ▸ Child.once_wait hc answer
    · rw [Records.after, amend, Function.update_of_ne hq]
      exact hr pid
  | adopted q => exact hr pid
  | nothing => exact hr pid

/-- The marks of an activity are right after an event. -/
lemma Balanced.marked_after (h : r.Balanced mine others) (hmarked : r.Marked mine)
    (hallows : mine.Allows e) : (r.after e).Marked (mine.after e) := by
  intro pid hpid
  cases e with
  | started q =>
    by_cases hq : pid = q
    · subst hq
      rw [Care.after, Function.update_self] at hpid
      cases hpid
    · rw [Care.after, Function.update_of_ne hq] at hpid
      rw [Records.after, Function.update_of_ne hq]
      exact hmarked pid hpid
  | waited q answer =>
    by_cases hq : pid = q
    · subst hq
      obtain ⟨-, c, older, hcons, -⟩ := h.exists_of_ne_none hallows
      rw [Care.after, Function.update_self] at hpid
      rw [Records.after, amend, Function.update_self, hcons]
      refine ⟨c.wait answer, rfl, ?_⟩
      rcases answer with e | _ | status
      · rfl
      · cases hpid
      · cases hpid
    · rw [Care.after, Function.update_of_ne hq] at hpid
      rw [Records.after, amend, Function.update_of_ne hq]
      exact hmarked pid hpid
  | adopted q =>
    by_cases hq : pid = q
    · subst hq
      rw [Care.after, Function.update_self] at hpid
      cases hpid
    · rw [Care.after, Function.update_of_ne hq] at hpid
      exact hmarked pid hpid
  | nothing => exact hmarked pid hpid

/-- The marks of an activity stay right as long as nothing happens to the children in its care. -/
lemma Marked.congr {r' : Records} (h : r.Marked mine)
    (hsame : ∀ pid, mine pid ≠ .none → r' pid = r pid) : r'.Marked mine := by
  intro pid hpid
  rw [hsame pid (by simp [hpid])]
  exact h pid hpid

/-! ### The end of an activity -/

/-- At the end of an activity, what it passes on keeps the balance. -/
lemma Balanced.leave (h : r.Balanced mine others) (hend : mine.EndsWith held) (pid : Pid) :
    held pid + others pid = unsettled (r.leave mine held pid) := by
  rcases hend pid with ⟨hheld, -⟩ | ⟨hheld, hmine⟩
  · by_cases hmine : mine pid = .none
    · have hsame : r.leave mine held pid = r pid := if_neg fun hleft => hleft.1 hmine
      rw [hsame, ← h pid, hmine, hheld]
      rfl
    · obtain ⟨hzero, c, older, hr, -⟩ := h.exists_of_ne_none hmine
      have hdrop : r.leave mine held pid = (r pid).modifyHead (·.drop) := if_pos ⟨hmine, hheld⟩
      rw [hdrop, hr, hheld, hzero]
      rfl
  · have hsame : r.leave mine held pid = r pid := if_neg fun hleft => by omega
    have hcount : (mine pid).count = 1 := by
      have hle := (mine pid).count_le_one
      have hne := Standing.count_ne_zero hmine
      omega
    rw [hsame, ← h pid, hcount, hheld]

/-- The end of an activity does not touch children in other places. -/
lemma Balanced.leave_eq {pid : Pid} (h : r.Balanced mine others) (hothers : others pid ≠ 0) :
    r.leave mine held pid = r pid :=
  if_neg fun hleft => hothers (h.exists_of_ne_none hleft.1).1

/-- What an activity does not pass on has been given up after a refused wait, and is settled by
that. -/
lemma Balanced.orderly_leave (h : r.Balanced mine others) (hr : ∀ pid, Orderly (r pid))
    (hmarked : r.Marked mine) (hend : mine.EndsWith held) (pid : Pid) :
    Orderly (r.leave mine held pid) := by
  by_cases hleft : mine pid ≠ .none ∧ held pid = 0
  · obtain ⟨hmine, hheld⟩ := hleft
    have hrefused : mine pid = .refused := by
      rcases hend pid with ⟨-, hne⟩ | ⟨hone, -⟩
      · cases hcare : mine pid with
        | none => exact absurd hcare hmine
        | minded => exact absurd hcare hne
        | refused => rfl
      · omega
    obtain ⟨-, c, older, hcons, hc⟩ := h.exists_of_ne_none hmine
    obtain ⟨d, hd, hlast⟩ := hmarked pid hrefused
    rw [hcons, List.head?_cons, Option.mem_some_iff] at hd
    subst hd
    rw [Records.leave, if_pos ⟨hmine, hheld⟩]
    refine (hr pid).modifyHead fun d hd => ?_
    rw [hcons, List.head?_cons, Option.mem_some_iff] at hd
    exact hd ▸ Child.once_drop hc hlast
  · rw [Records.leave, if_neg hleft]
    exact hr pid

/-! ### The end of a child -/

/-- An exit changes nothing, or the newest child of a number. -/
lemma amend_exit_eq_or (pid q : Pid) :
    r.amend pid (·.exit) q = r q ∨ r.amend pid (·.exit) q = (r q).modifyHead (·.exit) := by
  by_cases hq : q = pid
  · subst hq
    exact .inr (Function.update_self _ _ _)
  · exact .inl (Function.update_of_ne hq _ _)

/-- An exit keeps the children of a number in order. -/
lemma orderly_exit (hr : ∀ pid, Orderly (r pid)) (pid q : Pid) :
    Orderly (r.amend pid (·.exit) q) := by
  rcases r.amend_exit_eq_or pid q with hsame | hexit
  · rw [hsame]
    exact hr q
  · rw [hexit]
    refine (hr q).modifyHead fun c hc => ?_
    exact (hr q).once c (List.mem_of_mem_head? hc)

/-- An exit settles no child. -/
lemma unsettled_exit (pid q : Pid) : unsettled (r.amend pid (·.exit) q) = unsettled (r q) := by
  rcases r.amend_exit_eq_or pid q with hsame | hexit
  · rw [hsame]
  · rw [hexit]
    cases r q with
    | nil => rfl
    | cons c older => rfl

/-- An exit keeps the marks on the children. -/
lemma Marked.exit (h : r.Marked mine) (pid : Pid) : (r.amend pid (·.exit)).Marked mine := by
  intro q hq
  obtain ⟨c, hc, hlast⟩ := h q hq
  rcases r.amend_exit_eq_or pid q with hsame | hexit
  · rw [hsame]
    exact ⟨c, hc, hlast⟩
  · rw [hexit]
    cases hr : r q with
    | nil =>
      rw [hr] at hc
      cases hc
    | cons d older =>
      rw [hr] at hc
      cases hc
      exact ⟨c.exit, rfl, hlast⟩

end Records

end Launcher.Children
