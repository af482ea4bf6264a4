import Launcher.Proofs.Reaper.Loop
/-!
# What the rounds of the reaper leave

Each round begins with the children that the round before it has left, and with all that have been handed
over since; it polls each of them once; and it leaves those that were found running. So a child is polled
in every round from the first one after it has been handed over, until it is reported to have ended or the
poll is refused, and never again. Before that, it does not get lost.

What a step keeps is said of the whole history of rounds. What becomes of one child is then read off the
history, by induction on the rounds.

## Main definitions

* `Launcher.Reaping.Round.Begins`, `Launcher.Reaping.History`, `Launcher.Reaping.Records` — how one round
  follows the others, and that it polls each child once.
* `Launcher.Reaping.left`, `Launcher.Reaping.answers` — the children that some rounds leave, and what was
  reported of a child, by the places of children among all that were handed over.
* `Launcher.Reaping.Accounts` — what becomes of the children in some rounds.
* `Launcher.Reaping.World.Kept` — the invariant.
* `Launcher.Reaping.World.Agrees` — the list of the reaper, and what was reported of the children in it.

## Main results

* `Launcher.Reaping.Accounts.cons` — another round goes on with what the rounds before it have left.
* `Launcher.Reaping.World.Kept.step`, `Launcher.Reaping.World.Kept.of_reachable` — every step keeps the
  invariant, so it holds wherever the loop comes to.
* `Launcher.Reaping.polls_until_settled` — the loop of the reaper.
-/

namespace Launcher.Reaping

open Host Host.Dialogue Relation

/-! ## Histories -/

/-- The list that some rounds leave. The latest round comes first. -/
def leftBy : List Round → List Pid
  | [] => []
  | r :: _ => remain r.calls r.taken

/-- All children that had been handed over when the polls of the latest round began. -/
def sentBy : List Round → List Pid
  | [] => []
  | r :: _ => r.sent

/-- **How a round begins.** Its list is what the rounds before it have left, and behind that all children,
in order, that have been handed over since their polls: the channel is empty when the polls begin. -/
structure Round.Begins (r : Round) (earlier : List Round) : Prop where
  before : r.before = leftBy earlier
  takes : ∃ received, r.taken = r.before ++ received ∧ r.sent = sentBy earlier ++ received

/-- **Rounds that are over**, the latest first. Each one polls the children in its list, one after the
other, and makes no other call. -/
inductive History : List Round → Prop
  | nil : History []
  | cons {r : Round} {earlier : List Round} (begins : r.Begins earlier)
      (polls : r.calls.map Sigma.fst = r.taken.map Call.poll) (rest : History earlier) :
    History (r :: earlier)

/-- Rounds of which the latest may be under way: its calls so far are the first of its polls. -/
inductive Records : List Round → Prop
  | nil : Records []
  | cons {r : Round} {earlier : List Round} (begins : r.Begins earlier)
      (polls : r.calls.map Sigma.fst <+: r.taken.map Call.poll) (rest : History earlier) :
    Records (r :: earlier)

variable {history earlier : List Round} {r : Round} {w w' : World}

/-- A history of rounds has all their records. -/
lemma History.records (h : History history) : Records history := by
  cases h with
  | nil => exact .nil
  | cons begins polls rest => exact .cons begins (polls ▸ List.prefix_rfl) rest

/-! ## Children by their places -/

/-- The places of the children that a round takes in. -/
def arrivals (r : Round) (earlier : List Round) : List Nat :=
  List.range' (sentBy earlier).length (r.sent.length - (sentBy earlier).length)

/-- The places of the children that some rounds leave. -/
def left : List Round → List Nat
  | [] => []
  | r :: earlier => remain r.calls (left earlier ++ arrivals r earlier)

/-- What some calls report of the child at a place, when they are about the children at such places. -/
def told (place : Nat) : List Exchange → List Nat → List Answer
  | e :: calls, p :: places =>
    (if p = place then (answer? e).toList else []) ++ told place calls places
  | _, _ => []

/-- What was reported of the child at a place, the latest first. -/
def answers (place : Nat) : List Round → List Answer
  | [] => []
  | r :: earlier => told place r.calls (left earlier ++ arrivals r earlier) ++ answers place earlier

section

variable {α β : Type} {calls : List Exchange} {as : List α} {places : List Nat} {place : Nat}

/-- Those that remain keep their order. -/
lemma remain_sublist : (remain calls as).Sublist as := by
  induction as generalizing calls with
  | nil => cases calls <;> exact .slnil
  | cons a as ih =>
    cases calls with
    | nil => exact .refl _
    | cons e calls =>
      rw [remain]
      split
      · exact ih.cons_cons a
      · exact ih.cons a

/-- Who remains does not depend on what else is known of each. -/
lemma map_remain (f : α → β) : (remain calls as).map f = remain calls (as.map f) := by
  induction as generalizing calls with
  | nil => cases calls <;> rfl
  | cons a as ih =>
    cases calls with
    | nil => rfl
    | cons e calls =>
      rw [remain, List.map_cons, remain, apply_ite (List.map f), List.map_cons, ih]

/-- Nothing is told of a place that is not polled. -/
lemma told_eq_nil (h : place ∉ places) : told place calls places = [] := by
  induction places generalizing calls with
  | nil => cases calls <;> rfl
  | cons p places ih =>
    cases calls with
    | nil => rfl
    | cons e calls =>
      obtain ⟨hp, hrest⟩ := not_or.1 (mt List.mem_cons.2 h)
      rw [told, if_neg (Ne.symm hp), ih hrest, List.append_nil]

/-- **A child in the list** has been polled once, and is left if it was found running; or there was no
call about it yet, and it is left. -/
theorem told_cases (hnodup : places.Nodup) (hpolls : ∀ e ∈ calls, ∃ answer, answer? e = some answer)
    (h : place ∈ places) :
    (told place calls places = [] ∧ place ∈ remain calls places) ∨
      ∃ answer, told place calls places = [answer] ∧
        (place ∈ remain calls places ↔ answer = .ok none) := by
  induction places generalizing calls with
  | nil => cases h
  | cons p places ih =>
    obtain ⟨hp, hrest⟩ := List.nodup_cons.1 hnodup
    cases calls with
    | nil => exact .inl ⟨rfl, h⟩
    | cons e calls =>
      obtain ⟨⟨answer, hanswer⟩, hpolls⟩ := List.forall_mem_cons.1 hpolls
      rw [told, remain]
      by_cases hplace : p = place
      · subst hplace
        refine .inr ⟨answer, by rw [if_pos rfl, hanswer, told_eq_nil hp]; rfl, ?_⟩
        have hgone : p ∉ remain calls places := fun hmem => hp (remain_sublist.subset hmem)
        rw [← Reaper.stays_iff, stayed, hanswer, Option.any_some]
        split <;> simp [*]
      · have hmem : place ∈ places := (List.mem_cons.1 h).resolve_left (Ne.symm hplace)
        have hleft : place ∈ (if stayed e = true then p :: remain calls places
            else remain calls places) ↔ place ∈ remain calls places := by
          split
          · exact List.mem_cons.trans (or_iff_right (Ne.symm hplace))
          · exact Iff.rfl
        rw [if_neg hplace, List.nil_append, hleft]
        exact ih hrest hpolls hmem

/-- The children behind the first ones, by their places. -/
lemma map_range'_append (first second : List α) :
    (List.range' first.length second.length).map ((first ++ second)[·]?) = second.map some := by
  refine List.ext_getElem (by simp) fun i _ hi => ?_
  have hi : i < second.length := by simpa using hi
  simp [hi]

end

/-! ## What becomes of children -/

/-- **What becomes of the children** in some rounds. A child has a place in the order in which all were
handed over. -/
structure Accounts (rounds : List Round) : Prop where
  /-- Those that are left are still in this order. -/
  order : (left rounds).Pairwise (· < ·)
  known : ∀ place ∈ left rounds, place < (sentBy rounds).length
  /-- The list of the reaper has their numbers. -/
  numbers : (left rounds).map ((sentBy rounds)[·]?) = (leftBy rounds).map some
  /-- Nothing is reported of a child before it is taken in. -/
  later : ∀ place, (sentBy rounds).length ≤ place → answers place rounds = []
  /-- All reports but the last say that it is running. -/
  once : ∀ place, ∀ answer ∈ (answers place rounds).tail, answer = .ok none
  /-- It is left as long as all of them do. -/
  mem_left_iff : ∀ place < (sentBy rounds).length,
    (place ∈ left rounds ↔ ∀ answer ∈ answers place rounds, answer = .ok none)

/-- Before the first round nothing is to be accounted for. -/
lemma accounts_nil : Accounts [] where
  order := .nil
  known := nofun
  numbers := rfl
  later _ _ := rfl
  once _ _ h := nomatch h
  mem_left_iff _ h := nomatch h

/-- Every call in a round is a poll. -/
lemma exists_answer {e : Exchange} (he : e ∈ r.calls)
    (polls : r.calls.map Sigma.fst <+: r.taken.map Call.poll) : ∃ answer, answer? e = some answer := by
  obtain ⟨pid, -, hpid⟩ := List.mem_map.1 (polls.subset (List.mem_map_of_mem he))
  obtain ⟨c, answer⟩ := e
  obtain rfl : Call.poll pid = c := hpid
  exact ⟨answer, rfl⟩

/-- **Another round** goes on with what the rounds before it have left. -/
theorem Accounts.cons (h : Accounts earlier) (begins : r.Begins earlier)
    (polls : r.calls.map Sigma.fst <+: r.taken.map Call.poll) : Accounts (r :: earlier) := by
  obtain ⟨received, htaken, hsent⟩ := begins.takes
  have harrivals : arrivals r earlier = List.range' (sentBy earlier).length received.length := by
    rw [arrivals, hsent, List.length_append, Nat.add_sub_cancel_left]
  have hlength : r.sent.length = (sentBy earlier).length + received.length := by
    rw [hsent, List.length_append]
  have hmem {place : Nat} : place ∈ left earlier ++ arrivals r earlier ↔
      place ∈ left earlier ∨ (sentBy earlier).length ≤ place ∧ place < r.sent.length := by
    rw [List.mem_append, harrivals, List.mem_range'_1, hlength]
  have horder : (left earlier ++ arrivals r earlier).Pairwise (· < ·) := by
    refine List.pairwise_append.2 ⟨h.order, ?_, fun old hold new hnew => ?_⟩
    · rw [harrivals]
      exact List.pairwise_lt_range'
    · rw [harrivals, List.mem_range'_1] at hnew
      exact Nat.lt_of_lt_of_le (h.known old hold) hnew.1
  have hnodup : (left earlier ++ arrivals r earlier).Nodup := horder.imp Nat.ne_of_lt
  have hnumbers : (left earlier ++ arrivals r earlier).map (r.sent[·]?) = r.taken.map some := by
    have hold : (left earlier).map (r.sent[·]?) = r.before.map some := by
      rw [begins.before, ← h.numbers]
      refine List.map_congr_left fun place hplace => ?_
      rw [hsent, List.getElem?_append_left (h.known place hplace)]
    rw [List.map_append, hold, harrivals, hsent, map_range'_append, htaken, List.map_append]
  have hpolls : ∀ e ∈ r.calls, ∃ answer, answer? e = some answer := fun e he =>
    exists_answer he polls
  have hstays {place : Nat} (hplace : place ∈ left earlier ++ arrivals r earlier) :
      ∀ answer ∈ answers place earlier, answer = .ok none := by
    rcases hmem.1 hplace with hleft | ⟨hnew, -⟩
    · exact (h.mem_left_iff place (h.known place hleft)).1 hleft
    · rw [h.later place hnew]
      exact nofun
  constructor
  case order => exact horder.sublist remain_sublist
  case known =>
    intro place hplace
    rcases hmem.1 (remain_sublist.subset hplace) with hleft | ⟨-, hnew⟩
    · have := h.known place hleft
      rw [sentBy, hlength]
      omega
    · exact hnew
  case numbers => rw [left, map_remain, sentBy, hnumbers, leftBy, map_remain]
  case later =>
    intro place hplace
    rw [sentBy, hlength] at hplace
    have hnone : place ∉ left earlier ++ arrivals r earlier := by
      rw [hmem, hlength]
      rintro (hleft | hnew)
      · have := h.known place hleft
        omega
      · omega
    rw [answers, told_eq_nil hnone, h.later place (by omega)]
    rfl
  case once =>
    intro place
    by_cases hplace : place ∈ left earlier ++ arrivals r earlier
    · rcases told_cases hnodup hpolls hplace with ⟨htold, -⟩ | ⟨answer, htold, -⟩
      · rw [answers, htold]
        exact fun a ha => hstays hplace a (List.mem_of_mem_tail ha)
      · rw [answers, htold]
        exact hstays hplace
    · rw [answers, told_eq_nil hplace]
      exact h.once place
  case mem_left_iff =>
    intro place hknown
    by_cases hplace : place ∈ left earlier ++ arrivals r earlier
    · rcases told_cases hnodup hpolls hplace with ⟨htold, hleft⟩ | ⟨answer, htold, hiff⟩
      · rw [answers, htold]
        exact ⟨fun _ => hstays hplace, fun _ => hleft⟩
      · rw [answers, htold, left, hiff, List.singleton_append, List.forall_mem_cons]
        exact ⟨fun hanswer => ⟨hanswer, hstays hplace⟩, fun hall => hall.1⟩
    · have hgone : place ∉ left (r :: earlier) := fun hmem' => hplace (remain_sublist.subset hmem')
      have hold : place < (sentBy earlier).length ∧ place ∉ left earlier := by
        rw [hmem] at hplace
        rw [sentBy] at hknown
        exact ⟨Nat.lt_of_not_le fun hnew => hplace (.inr ⟨hnew, hknown⟩),
          fun hleft => hplace (.inl hleft)⟩
      rw [answers, told_eq_nil hplace, List.nil_append, ← h.mem_left_iff place hold.1]
      exact iff_of_false hgone hold.2

/-- A history accounts for every child, by induction on its rounds. -/
lemma History.accounts (h : History history) : Accounts history := by
  induction h with
  | nil => exact accounts_nil
  | cons begins polls rest ih => exact ih.cons begins (polls ▸ List.prefix_rfl)

/-- **Records account for every child**, also when the last round is still under way. -/
theorem Records.accounts (h : Records history) : Accounts history := by
  cases h with
  | nil => exact accounts_nil
  | cons begins polls rest => exact rest.accounts.cons begins polls

/-! ## The invariant -/

/-- An answer to a call, for any call. -/
lemma nonempty_answer (c : Call) : Nonempty c.Answer := by
  cases c with
  | isDirectory | isElevated => exact ⟨false⟩
  | close | adopt => exact ⟨()⟩
  | readText | openFile | print => exact ⟨.error .nulInPath⟩
  | _ => exact ⟨.error ⟨1⟩⟩

/-- The calls of a round under way are the first of its polls: it could still be brought to an end. -/
lemma prefix_of_leads {reaper : Reaper} {trace : List Exchange} {rest : Dialogue Reaper}
    (h : Leads reaper.round trace rest) :
    trace.map Sigma.fst <+: (reaper.pending ++ reaper.inbox).map Call.poll := by
  obtain ⟨more, result, hrun, -⟩ := exists_run (fun c => Classical.choice (nonempty_answer c)) rest
  obtain ⟨hcalls, -⟩ := run_round_iff.1 (h.run hrun)
  exact ⟨_, (List.map_append ..).symm.trans hcalls⟩

namespace World

/-- The rounds that are over, and the one under way. -/
def rounds (w : World) : List Round :=
  match w.stage with
  | .polling r _ => r :: w.past
  | _ => w.past

/-- The list of the reaper. While it polls, these are the children that stay so far, and those that are
not polled yet. -/
def list (w : World) : List Pid :=
  match w.stage with
  | .polling r _ => remain r.calls r.taken
  | _ => w.reaper.pending

/-- How many children have left the channel. -/
def arrived (w : World) : Nat :=
  w.sent.length - w.reaper.inbox.length

/-- The places of the children in the list: those that the rounds leave, and those that have been taken
in since. -/
def listed (w : World) : List Nat :=
  left w.rounds ++
    List.range' (sentBy w.rounds).length (w.arrived - (sentBy w.rounds).length)

/-- What was reported of the child at a place, the latest first. -/
def answers (w : World) (place : Nat) : List Answer :=
  Reaping.answers place w.rounds

/-- **The invariant.** What the reaper is doing goes on from the rounds that are over. -/
structure Kept (w : World) : Prop where
  past : History w.past
  /-- It waits with the list that the last round has left. -/
  waiting : w.stage = .waiting →
    w.reaper.pending = leftBy w.past ∧ w.sent = sentBy w.past ++ w.reaper.inbox
  /-- It has taken in some of the children that were handed over since. -/
  gathering : ∀ before, w.stage = .gathering before → before = leftBy w.past ∧
    ∃ received, w.reaper.pending = before ++ received ∧
      w.sent = sentBy w.past ++ received ++ w.reaper.inbox
  /-- It had taken in all of them when the polls began. -/
  polling : ∀ r rest, w.stage = .polling r rest → r.Begins w.past ∧
    Leads (Reaper.round { inbox := [], pending := r.taken }) r.calls rest ∧
      w.sent = r.sent ++ w.reaper.inbox

namespace Kept

/-- **Every step keeps the invariant.** -/
theorem step (h : w.Kept) (hstep : Step w w') : w'.Kept := by
  cases hstep with
  | send pid =>
    refine ⟨h.past, fun hstage => ?_, fun before hstage => ?_, fun r rest hstage => ?_⟩
    · obtain ⟨hpending, hsent⟩ := h.waiting hstage
      exact ⟨hpending, by simp [Reaper.adopt, hsent]⟩
    · obtain ⟨hbefore, received, hpending, hsent⟩ := h.gathering before hstage
      exact ⟨hbefore, received, hpending, by simp [Reaper.adopt, hsent]⟩
    · obtain ⟨hbegins, hleads, hsent⟩ := h.polling r rest hstage
      exact ⟨hbegins, hleads, by simp [Reaper.adopt, hsent]⟩
  | @receive pid rest hstage hinbox =>
    obtain ⟨hpending, hsent⟩ := h.waiting hstage
    refine ⟨h.past, nofun, ?_, nofun⟩
    rintro _ ⟨⟩
    exact ⟨hpending, [pid], rfl, by simp [hsent, hinbox]⟩
  | elapse hstage hpause =>
    obtain ⟨hpending, hsent⟩ := h.waiting hstage
    refine ⟨h.past, nofun, ?_, nofun⟩
    rintro _ ⟨⟩
    exact ⟨hpending, [], (List.append_nil _).symm, by simp [hsent]⟩
  | @take before pid rest hstage hinbox =>
    obtain ⟨hbefore, received, hpending, hsent⟩ := h.gathering before hstage
    refine ⟨h.past, fun hwaits => ?_, fun before' hstage' => ?_, fun r rest hpolls => ?_⟩
    · cases hstage.symm.trans hwaits
    · cases hstage.symm.trans hstage'
      exact ⟨hbefore, received ++ [pid], by simp [hpending], by simp [hsent, hinbox]⟩
    · cases hstage.symm.trans hpolls
  | @beginPolls before hstage hinbox =>
    obtain ⟨hbefore, received, hpending, hsent⟩ := h.gathering before hstage
    rw [hinbox, List.append_nil] at hsent
    refine ⟨h.past, nofun, nofun, ?_⟩
    rintro _ _ ⟨⟩
    refine ⟨⟨hbefore, received, hpending, hsent⟩, ?_, by simp [hinbox]⟩
    rw [← hinbox]
    exact .refl _
  | answer a hstage =>
    obtain ⟨hbegins, hleads, hsent⟩ := h.polling _ _ hstage
    refine ⟨h.past, nofun, nofun, ?_⟩
    rintro _ _ ⟨⟩
    exact ⟨⟨hbegins.before, hbegins.takes⟩, hleads.step a, hsent⟩
  | endRound hstage =>
    obtain ⟨hbegins, hleads, hsent⟩ := h.polling _ _ hstage
    obtain ⟨hpolls, rfl⟩ := run_round_iff.1 (hleads.run (.done _))
    simp only [List.append_nil] at hpolls ⊢
    exact ⟨.cons hbegins hpolls h.past, fun _ => ⟨rfl, hsent⟩, nofun, nofun⟩

/-- **The invariant holds wherever the loop comes to.** -/
theorem of_reachable (h : Reachable w) : w.Kept := by
  induction h with
  | refl => exact ⟨.nil, fun _ => ⟨rfl, rfl⟩, nofun, nofun⟩
  | tail _ hstep ih => exact ih.step hstep

/-- The rounds are over, but for the latest. -/
lemma records (h : w.Kept) : Records w.rounds := by
  rw [rounds]
  split
  next r rest hstage =>
    obtain ⟨hbegins, hleads, -⟩ := h.polling r rest hstage
    exact .cons hbegins ((prefix_of_leads hleads).trans (by simp)) h.past
  next => exact h.past.records

/-- The list is what the rounds leave, and behind that what has been taken in since. -/
lemma exists_received (h : w.Kept) : ∃ received, w.list = leftBy w.rounds ++ received ∧
    w.sent = sentBy w.rounds ++ received ++ w.reaper.inbox := by
  rw [rounds, list]
  cases hstage : w.stage with
  | waiting =>
    obtain ⟨hpending, hsent⟩ := h.waiting hstage
    exact ⟨[], by simp [hpending], by simp [hsent]⟩
  | gathering before =>
    obtain ⟨rfl, received, hpending, hsent⟩ := h.gathering before hstage
    exact ⟨received, hpending, hsent⟩
  | polling r rest =>
    obtain ⟨-, -, hsent⟩ := h.polling r rest hstage
    exact ⟨[], (List.append_nil _).symm, by simp [sentBy, hsent]⟩

end Kept

/-- **The list and what was reported of the children in it.** -/
structure Agrees (w : World) : Prop where
  /-- The children in the list are in the order in which they were handed over. -/
  order : w.listed.Pairwise (· < ·)
  numbers : w.listed.map (w.sent[·]?) = w.list.map some
  /-- All reports of a child but the last say that it is running. -/
  once : ∀ place, ∀ answer ∈ (w.answers place).tail, answer = .ok none
  /-- A child is in the list from when it has left the channel, as long as all of them do. -/
  mem_listed_iff : ∀ place, place ∈ w.listed ↔
    place < w.arrived ∧ ∀ answer ∈ w.answers place, answer = .ok none

/-- What the rounds leave is in the list, and behind it what has been taken in since, of which nothing
is reported. -/
lemma Kept.agrees (h : w.Kept) : w.Agrees := by
  have haccounts := h.records.accounts
  obtain ⟨received, hlist, hsent⟩ := h.exists_received
  have harrived : w.arrived = (sentBy w.rounds).length + received.length := by
    rw [arrived, hsent, List.length_append, List.length_append, Nat.add_sub_cancel]
  have hlisted : w.listed =
      left w.rounds ++ List.range' (sentBy w.rounds).length received.length := by
    rw [listed, harrived, Nat.add_sub_cancel_left]
  constructor
  case order =>
    rw [hlisted]
    refine List.pairwise_append.2 ⟨haccounts.order, List.pairwise_lt_range', fun old hold new hnew => ?_⟩
    exact Nat.lt_of_lt_of_le (haccounts.known old hold) (List.mem_range'_1.1 hnew).1
  case numbers =>
    have hold : (left w.rounds).map (w.sent[·]?) = (leftBy w.rounds).map some := by
      rw [← haccounts.numbers]
      refine List.map_congr_left fun place hplace => ?_
      rw [hsent, List.append_assoc, List.getElem?_append_left (haccounts.known place hplace)]
    have hnew : (List.range' (sentBy w.rounds).length received.length).map (w.sent[·]?) =
        received.map some := by
      rw [← map_range'_append (sentBy w.rounds) received]
      refine List.map_congr_left fun place hplace => ?_
      rw [hsent, List.getElem?_append_left (by simpa using (List.mem_range'_1.1 hplace).2)]
    rw [hlisted, hlist, List.map_append, List.map_append, hold, hnew]
  case once => exact haccounts.once
  case mem_listed_iff =>
    intro place
    rw [hlisted, List.mem_append, List.mem_range'_1, harrived]
    by_cases hplace : place < (sentBy w.rounds).length
    · rw [or_iff_left (fun hnew => Nat.not_le_of_lt hplace hnew.1),
        haccounts.mem_left_iff place hplace]
      exact (and_iff_right (by omega)).symm
    · have hnone : w.answers place = [] := haccounts.later place (Nat.le_of_not_lt hplace)
      rw [or_iff_right (fun hleft => hplace (haccounts.known place hleft)), hnone]
      simp [Nat.le_of_not_lt hplace]

end World

/-! ## The loop -/

/-- **The loop of the reaper**, in every world that it can come to, whichever children were handed over
and whenever, and whatever the host has answered. Each round takes in all that have arrived, and then
polls each child in its list once; between the rounds, the list is what the last one has left. The reaper
waits without a limit only when its list is empty, and then each child that it has taken in was
reported to have ended, or could not be polled. No child is polled after that, and before that, it
does not leave the list.

**Proof sketch.** The invariant says that the rounds follow each other, and what has been taken in since
the last one. By induction on the rounds, a child is left as long as it was always found running. -/
theorem polls_until_settled (h : Reachable w) :
    History w.past ∧ Records w.rounds ∧ (w.stage = .waiting → w.reaper.pending = leftBy w.past) ∧
    (w.stage = .waiting → w.reaper.pause? = none → w.list = [] ∧
      ∀ place < w.arrived, ∃ answer ∈ w.answers place, answer ≠ .ok none) ∧
    w.Agrees := by
  have hkept := World.Kept.of_reachable h
  have hagrees := hkept.agrees
  refine ⟨hkept.past, hkept.records, fun hstage => (hkept.waiting hstage).1, fun hstage hpause => ?_,
    hagrees⟩
  have hlist : w.list = [] := by
    rw [World.list, hstage]
    simpa [Reaper.pause?] using hpause
  have hlisted : w.listed = [] := by
    have hnumbers := hagrees.numbers
    rw [hlist] at hnumbers
    exact List.map_eq_nil_iff.1 hnumbers
  refine ⟨hlist, fun place hplace => ?_⟩
  have hsettled := mt (hagrees.mem_listed_iff place).2 (by simp [hlisted])
  simpa [hplace] using hsettled

/-- Two children are handed over, the second one ends, and its number comes again. -/
theorem polls_until_settled_of_numberAgain :
    ∃ w, Reachable w ∧ w.stage = .waiting ∧ w.reaper.pause? = none ∧ w.sent = [7, 8, 8] ∧
      w.answers 0 = [.error ⟨10⟩, .ok none] ∧ w.answers 1 = [.ok (some (.ofCode 0))] ∧
      w.answers 2 = [.ok (some (.ofCode 3)), .ok none] ∧ w.list = [] ∧ 2 ∉ w.listed := by
  have first : Run (Reaper.round { inbox := [7, 8] })
      [⟨.poll 7, .ok none⟩, ⟨.poll 8, .ok (some (.ofCode 0))⟩] { pending := [7] } :=
    run_round_iff.2 ⟨rfl, rfl⟩
  have second : Run (Reaper.round { inbox := [8], pending := [7] })
      [⟨.poll 7, .error ⟨10⟩⟩, ⟨.poll 8, .ok none⟩] { pending := [8] } :=
    run_round_iff.2 ⟨rfl, rfl⟩
  have third : Run (Reaper.round { pending := [8] }) [⟨.poll 8, .ok (some (.ofCode 3))⟩] {} :=
    run_round_iff.2 ⟨rfl, rfl⟩
  have hsent : Reachable { reaper := { inbox := [7, 8] }, sent := [7, 8] } :=
    .tail (.tail .refl (.send 7)) (.send 8)
  have hfirst := hsent.trans (reaches_of_run rfl (.inl nofun) first)
  have hsecond := (hfirst.tail (.send 8)).trans (reaches_of_run rfl (.inl nofun) second)
  have hthird := hsecond.trans (reaches_of_run rfl (.inr nofun) third)
  obtain ⟨-, -, -, hwaits, hagrees⟩ := polls_until_settled hthird
  obtain ⟨hlist, -⟩ := hwaits rfl rfl
  refine ⟨_, hthird, rfl, rfl, rfl, rfl, rfl, rfl, hlist, fun hmem => ?_⟩
  have hruns := ((hagrees.mem_listed_iff 2).1 hmem).2 (.ok (some (.ofCode 3))) (.head _)
  cases hruns

end Launcher.Reaping
