import Launcher.Proofs.Jobs.Abandon
import Launcher.Proofs.Tracked.World
/-!
# What a handle tells of its child

The end of a child is collected once and then remembered. So there are two kinds of uses of a handle:
as long as the end is not known, each use asks the host about the child, which is still there; from
then on each use is answered from memory, and the host is not asked again. The number of the child may
be another's by then.

## Main definitions

* `Launcher.Tracked.Entry.Asked` — a use that has asked the host.
* `Launcher.Tracked.History` — a history of uses, with what the handle knows after it.
* `Launcher.Tracked.World.Kept` — the invariant.
* `Launcher.Tracked.Follows` — what can be relied on in a history.
* `Launcher.Tracked.Drops` — the calls that are made when a handle is dropped.

## Main results

* `Launcher.Tracked.World.Kept.step`, `Launcher.Tracked.World.Kept.of_reachable` — every step keeps the
  invariant, so it holds in every world that a program can come to.
* `Launcher.Tracked.History.follows` — what can be relied on.
* `Launcher.Tracked.drops_of_run` — what comes of dropping the handle.
-/

namespace Launcher.Tracked

open Host Host.Dialogue Jobs

variable {fate : Identity → Fate} {c : Identity} {p p' : Population} {trace : List Exchange}
  {calls : List Event} {known : Option ExitStatus} {later earlier past : List Entry} {x : Entry}

/-! ## Histories -/

/-- The use has asked the host, and reports what it was told. -/
def Entry.Asked (fate : Identity → Fate) (c : Identity) (x : Entry) : Prop :=
  ∃ e, Answered c.pid x.use e x.report ∧ Comes fate c e x.calls

/-- **A history of uses**, the latest first, with the end of the child as far as the handle knows it
afterwards. While it is not known, a use asks the host. -/
inductive History (fate : Identity → Fate) (c : Identity) : Option ExitStatus → List Entry → Prop
  | nil : History fate c none []
  | asked {x : Entry} {past : List Entry} (before : History fate c none past)
      (hx : x.Asked fate c) : History fate c x.report.status? (x :: past)
  | recalled {status : ExitStatus} {past : List Entry} (before : History fate c (some status) past)
      (u : Use) : History fate c (some status) (⟨u, u.remembered status, []⟩ :: past)

/-- How many of the calls have collected the child. -/
def collections (c : Identity) (past : List Entry) : Nat :=
  (past.flatMap Entry.calls).countP (·.collects c.pid)

namespace Entry.Asked

/-- A use that has asked has collected the child if it reports a status, and otherwise not. -/
lemma countP_collects (hx : x.Asked fate c) :
    x.calls.countP (·.collects c.pid) = if x.report.status? = none then 0 else 1 := by
  obtain ⟨e, hanswered, hcomes⟩ := hx
  rw [hcomes.countP_collects]
  simp only [hanswered.status?_eq_none_iff]

/-- A status that is reported on asking is that of the real end. -/
lemma status_eq {status : ExitStatus} (hx : x.Asked fate c)
    (hstatus : x.report.status? = some status) : status = (fate c).status := by
  obtain ⟨e, hanswered, hcomes⟩ := hx
  rw [hanswered.status?_eq] at hstatus
  obtain ⟨⟨pid, word⟩, htold, rfl⟩ := Option.map_eq_some_iff.1 hstatus
  rw [hcomes.word_eq htold, Fate.ofWait_word]

end Entry.Asked

namespace History

/-- **The child is collected once**, when the handle gets to know its end. -/
theorem collections_eq (h : History fate c known past) :
    collections c past = if known = none then 0 else 1 := by
  induction h with
  | nil => rfl
  | asked before hx ih =>
    have hcollects := hx.countP_collects
    simp only [collections, List.flatMap_cons, List.countP_append] at ih ⊢
    simp [hcollects, ih]
  | recalled before u ih => simpa [collections] using ih

/-- What the handle knows is the real end. -/
lemma status_eq {status : ExitStatus} (h : History fate c (some status) past) :
    status = (fate c).status := by
  generalize hknown : some status = known at h
  induction h with
  | nil => cases hknown
  | asked before hx ih => exact hx.status_eq hknown.symm
  | recalled before u ih => exact ih hknown

/-- The handle knows what has been reported. -/
lemma eq_some_iff {status : ExitStatus} (h : History fate c known past) :
    known = some status ↔ ∃ x ∈ past, x.report.status? = some status := by
  induction h with
  | nil => simp
  | @asked x past before hx ih =>
    constructor
    · exact fun hstatus => ⟨x, List.mem_cons_self, hstatus⟩
    · rintro ⟨y, hy, hstatus⟩
      rcases List.mem_cons.1 hy with rfl | hy
      · exact hstatus
      · cases ih.2 ⟨y, hy, hstatus⟩
  | @recalled status' past before u ih =>
    constructor
    · intro hknown
      obtain ⟨y, hy, hstatus⟩ := ih.1 hknown
      exact ⟨y, List.mem_cons_of_mem _ hy, hstatus⟩
    · rintro ⟨y, hy, hstatus⟩
      rcases List.mem_cons.1 hy with rfl | hy
      · rw [Use.status?_remembered hstatus]
      · exact ih.2 ⟨y, hy, hstatus⟩

/-- **A history in two parts.** What was known between them is known in the end, and nobody was asked
again. -/
theorem split (h : History fate c known (later ++ past)) :
    ∃ known', History fate c known' past ∧ ∀ status, known' = some status →
      known = some status ∧ ∀ y ∈ later, y.calls = [] ∧ y.report = y.use.remembered status := by
  induction later generalizing known with
  | nil => exact ⟨known, h, fun status hknown => ⟨hknown, by simp⟩⟩
  | cons y later ih =>
    cases h with
    | asked before hx =>
      obtain ⟨known', hpast, hrest⟩ := ih before
      refine ⟨known', hpast, fun status hknown => ?_⟩
      cases (hrest status hknown).1
    | recalled before u =>
      obtain ⟨known', hpast, hrest⟩ := ih before
      refine ⟨known', hpast, fun status hknown => ?_⟩
      obtain ⟨hsame, hlater⟩ := hrest status hknown
      cases hsame
      exact ⟨rfl, List.forall_mem_cons.2 ⟨⟨rfl, rfl⟩, hlater⟩⟩

end History

/-! ## The invariant -/

/-- **The invariant.** As long as the handle does not know how the child has ended, the child is
there. -/
structure World.Kept (fate : Identity → Fate) (c : Identity) (w : World) : Prop where
  child : w.handle.pid = c.pid
  history : History fate c w.handle.status? w.history
  present : w.handle.status? = none → w.people.Present c

namespace World.Kept

variable {w w' : World}

/-- **Every step keeps the invariant.** -/
theorem step (h : w.Kept fate c) (hstep : Step fate c w w') : w'.Kept fate c := by
  cases hstep with
  | go hgo => exact ⟨h.child, h.history, fun hopen => hgo.present (h.present hopen)⟩
  | @use u r handle trace calls p run carries =>
    have hhistory := h.history
    rcases hended : w.handle.status? with _ | status
    · rw [hended] at hhistory
      obtain ⟨e, rfl, hanswered, hpid, hstatus⟩ := Use.run_of_open hended run
      rw [h.child] at hanswered
      obtain ⟨hcomes, hstays⟩ := carries.single (h.present hended) hanswered.minds
      have hasked : Entry.Asked fate c ⟨u, r, calls⟩ := ⟨e, hanswered, hcomes⟩
      refine ⟨hpid.trans h.child, ?_, fun hopen => ?_⟩
      · rw [hstatus]
        exact .asked hhistory hasked
      · exact hstays (hanswered.status?_eq_none_iff.1 (hstatus.symm.trans hopen))
    · rw [hended] at hhistory
      rw [Use.dialogue_of_ended hended] at run
      obtain ⟨rfl, heq⟩ := run_pure_iff.1 run
      cases heq
      obtain ⟨rfl, -⟩ := carries.nothing
      refine ⟨h.child, ?_, fun hopen => ?_⟩
      · rw [hended]
        exact .recalled hhistory u
      · rw [hended] at hopen
        cases hopen

/-- **The invariant holds in every world** that a program can come to. -/
theorem of_reachable (hc : p.Present c) (h : Reachable fate c p w) : w.Kept fate c := by
  induction h with
  | refl => exact ⟨rfl, .nil, fun _ => hc⟩
  | tail _ hstep ih => exact ih.step hstep

end World.Kept

/-! ## What can be relied on -/

/-- **What can be relied on** in a history of uses, whatever has gone on beside it. -/
structure Follows (fate : Identity → Fate) (c : Identity) (history : List Entry) : Prop where
  /-- The child is collected by one call at most, and by one exactly if a status was reported. -/
  once : collections c history ≤ 1 ∧
    (collections c history = 1 ↔ ∃ x ∈ history, x.report.status? ≠ none)
  /-- A call that collects finds the child ended, and takes it away. -/
  ended : ∀ x ∈ history, ∀ y ∈ x.calls, y.collects c.pid →
    (∃ m, y.before.members c.pid = some m ∧ m.birth = c.birth ∧ m.life = .ended) ∧
      ¬ y.after.Present c
  /-- A use makes its own kind of calls alone, about the child and as long as the child is there. They
  change nobody else, and send no signal to a group. -/
  own : ∀ x ∈ history, ∀ y ∈ x.calls, y.exchange.1 = x.use.call c.pid ∧ y.before.Present c ∧
    (∀ r, r ≠ c.pid → y.after.members r = y.before.members r) ∧ y.after.signals = y.before.signals
  /-- A status that is reported is the real end, and from then on each use repeats it and asks
  nobody. -/
  told : ∀ later x earlier status, history = later ++ x :: earlier →
    x.report.status? = some status → status = (fate c).status ∧
      ∀ y ∈ later, y.calls = [] ∧ y.report = y.use.remembered status
  /-- Only a look or a timed wait reports that there is no end yet. Then the child has not been
  collected, and is still there. -/
  running : ∀ later x earlier, history = later ++ x :: earlier → x.report = .looked (.ok none) →
    (x.use = .tryWait ∨ ∃ limit, x.use = .waitFor limit) ∧ collections c (x :: earlier) = 0 ∧
      ∀ y ∈ x.calls, y.after.Present c
  /-- An untimed wait reports an end, or how the host has refused it. -/
  waits : ∀ x ∈ history, x.use = .wait → (∃ status, x.report = .waited (.ok status)) ∨
    ∃ e before after, x.calls = [⟨before, ⟨.wait c.pid, .error e⟩, after⟩] ∧
      x.report = .waited (.error (waitFault c.pid e))
  /-- Once a status was reported, a kill does nothing and is a success. Before that it is one call, and
  its answer is reported. -/
  kills : ∀ later x earlier, history = later ++ x :: earlier → x.use = .kill →
    ((∃ y ∈ earlier, y.report.status? ≠ none) ∧ x.calls = [] ∧ x.report = .killed (.ok ())) ∨
    ((∀ y ∈ earlier, y.report.status? = none) ∧
      ∃ answer before after, x.calls = [⟨before, ⟨.kill c.pid, answer⟩, after⟩] ∧
        x.report = .killed (answer.mapError (killFault c.pid)))

/-- A call that collects a process finds it ended, and takes it away. -/
lemma Event.Minds.ended {y : Event} (hy : y.Minds fate c) (hcollects : y.collects c.pid) :
    (∃ m, y.before.members c.pid = some m ∧ m.birth = c.birth ∧ m.life = .ended) ∧
      ¬ y.after.Present c := by
  have hcollected : collected? y.exchange = some c.pid := by simpa [Event.collects] using hcollects
  rcases Population.cases_of_serves hy.tells.1 with ⟨hnone, -⟩ | ⟨pid, hsome, -, ⟨m, hm, hlife⟩, heq⟩
  · rw [hnone] at hcollected
    cases hcollected
  · obtain rfl : pid = c.pid := Option.some.inj (hsome.symm.trans hcollected)
    obtain ⟨n, hn, hbirth⟩ := hy.present
    obtain rfl : m = n := Option.some.inj (hm.symm.trans hn)
    refine ⟨⟨m, hm, hbirth, hlife⟩, ?_⟩
    rintro ⟨n, hn, -⟩
    simp [heq] at hn

namespace Entry.Asked

/-- Whoever asks makes calls about the child alone. -/
lemma minds (hx : x.Asked fate c) : ∀ y ∈ x.calls, y.Minds fate c := by
  obtain ⟨e, -, hcomes⟩ := hx
  exact hcomes.minds

/-- Whoever asks makes the call of the use, and no other. -/
lemma call (hx : x.Asked fate c) : ∀ y ∈ x.calls, y.exchange.1 = x.use.call c.pid := by
  obtain ⟨e, hanswered, hcomes⟩ := hx
  intro y hy
  rw [hcomes.call y hy, hanswered.call]

/-- A use that has found no end is a look or a timed wait, and the child is there after each of its
calls. -/
lemma running (hx : x.Asked fate c) (hreport : x.report = .looked (.ok none)) :
    (x.use = .tryWait ∨ ∃ limit, x.use = .waitFor limit) ∧ ∀ y ∈ x.calls, y.after.Present c := by
  obtain ⟨e, hanswered, hcomes⟩ := hx
  have hopen : told? e = none := by
    rw [← hanswered.status?_eq_none_iff, hreport]
    rfl
  refine ⟨?_, hcomes.present hopen⟩
  generalize x.use = u, x.report = r at hanswered hreport
  cases hanswered with
  | wait answer | kill answer => cases hreport
  | tryWait answer => exact .inl rfl
  | waitFor_zero answer | waitFor hlimit answer => exact .inr ⟨_, rfl⟩

/-- An untimed wait is one call. -/
lemma waits (hx : x.Asked fate c) (huse : x.use = .wait) :
    ∃ answer before after, x.calls = [⟨before, ⟨.wait c.pid, answer⟩, after⟩] ∧
      x.report = .waited ((answer.map .ofWait).mapError (waitFault c.pid)) := by
  obtain ⟨e, hanswered, hcomes⟩ := hx
  rw [huse] at hanswered
  generalize x.report = r at hanswered
  cases hanswered with
  | wait answer =>
    obtain ⟨before, after, hcalls⟩ := hcomes.single rfl
    exact ⟨answer, before, after, hcalls, rfl⟩

/-- So is a kill. -/
lemma kills (hx : x.Asked fate c) (huse : x.use = .kill) :
    ∃ answer before after, x.calls = [⟨before, ⟨.kill c.pid, answer⟩, after⟩] ∧
      x.report = .killed (answer.mapError (killFault c.pid)) := by
  obtain ⟨e, hanswered, hcomes⟩ := hx
  rw [huse] at hanswered
  generalize x.report = r at hanswered
  cases hanswered with
  | kill answer =>
    obtain ⟨before, after, hcalls⟩ := hcomes.single rfl
    exact ⟨answer, before, after, hcalls, rfl⟩

end Entry.Asked

namespace History

/-- A use has asked the host, or its report is a repetition. -/
lemma asked_or_recalled (h : History fate c known (x :: earlier)) :
    (x.Asked fate c ∧ History fate c none earlier ∧ known = x.report.status?) ∨
      ∃ status, known = some status ∧ History fate c (some status) earlier ∧ x.calls = [] ∧
        x.report = x.use.remembered status := by
  cases h with
  | asked before hx => exact .inl ⟨hx, before, rfl⟩
  | recalled before u => exact .inr ⟨_, rfl, before, rfl, rfl⟩

/-- Each use of a history has asked, or repeats what the handle knows. -/
lemma asked_or_recalled_of_mem (h : History fate c known past) (hx : x ∈ past) :
    x.Asked fate c ∨ x.calls = [] ∧ ∃ status, x.report = x.use.remembered status := by
  obtain ⟨later, earlier, rfl⟩ := List.append_of_mem hx
  obtain ⟨known', hpast, -⟩ := h.split
  rcases hpast.asked_or_recalled with ⟨hasked, -⟩ | ⟨status, -, -, hcalls, hreport⟩
  · exact .inl hasked
  · exact .inr ⟨hcalls, status, hreport⟩

/-- The calls of a history are about the child, and each is of the kind of its use. -/
lemma minds_of_mem {y : Event} (h : History fate c known past) (hx : x ∈ past)
    (hy : y ∈ x.calls) : y.Minds fate c ∧ y.exchange.1 = x.use.call c.pid := by
  rcases h.asked_or_recalled_of_mem hx with hasked | ⟨hcalls, -⟩
  · exact ⟨hasked.minds y hy, hasked.call y hy⟩
  · rw [hcalls] at hy
    cases hy

/-- The handle knows the end exactly if it has been reported. -/
lemma ne_none_iff (h : History fate c known past) :
    known ≠ none ↔ ∃ x ∈ past, x.report.status? ≠ none := by
  simp only [Option.ne_none_iff_exists']
  constructor
  · rintro ⟨status, hknown⟩
    obtain ⟨x, hx, hstatus⟩ := h.eq_some_iff.1 hknown
    exact ⟨x, hx, status, hstatus⟩
  · rintro ⟨x, hx, status, hstatus⟩
    exact ⟨status, h.eq_some_iff.2 ⟨x, hx, hstatus⟩⟩

/-- **What can be relied on** in every history of uses. -/
theorem follows (h : History fate c known past) : Follows fate c past := by
  refine ⟨?once, ?ended, ?own, ?told, ?running, ?waits, ?kills⟩
  case once =>
    rw [← h.ne_none_iff, h.collections_eq]
    split <;> simp_all
  case ended => exact fun x hx y hy hcollects => (h.minds_of_mem hx hy).1.ended hcollects
  case own =>
    intro x hx y hy
    obtain ⟨hminds, hcall⟩ := h.minds_of_mem hx hy
    exact ⟨hcall, hminds.present, others_of_serves hminds.tells.1 hminds.child⟩
  case told =>
    rintro later x earlier status rfl hstatus
    obtain ⟨known', hpast, hrest⟩ := h.split
    obtain rfl := hpast.eq_some_iff.2 ⟨x, List.mem_cons_self, hstatus⟩
    exact ⟨hpast.status_eq, (hrest status rfl).2⟩
  case running =>
    rintro later x earlier rfl hreport
    obtain ⟨known', hpast, -⟩ := h.split
    have hcollections := hpast.collections_eq
    rcases hpast.asked_or_recalled with ⟨hasked, -, rfl⟩ | ⟨status, -, -, -, hrepeats⟩
    · obtain ⟨huse, hpresent⟩ := hasked.running hreport
      exact ⟨huse, by rw [hcollections, hreport]; rfl, hpresent⟩
    · rw [hreport] at hrepeats
      generalize x.use = u at hrepeats
      cases u <;> cases hrepeats
  case waits =>
    intro x hx huse
    rcases h.asked_or_recalled_of_mem hx with hasked | ⟨-, status, hreport⟩
    · obtain ⟨answer, before, after, hcalls, hreport⟩ := hasked.waits huse
      rcases answer with e | word
      · exact .inr ⟨e, before, after, hcalls, hreport⟩
      · exact .inl ⟨.ofWait word, hreport⟩
    · rw [huse] at hreport
      exact .inl ⟨status, hreport⟩
  case kills =>
    rintro later x earlier rfl huse
    obtain ⟨known', hpast, -⟩ := h.split
    rcases hpast.asked_or_recalled with ⟨hasked, hbefore, -⟩ | ⟨status, -, hbefore, hcalls, hreport⟩
    · refine .inr ⟨fun y hy => ?_, hasked.kills huse⟩
      by_contra hne
      exact hbefore.ne_none_iff.2 ⟨y, hy, hne⟩ rfl
    · rw [huse] at hreport
      exact .inl ⟨hbefore.ne_none_iff.1 (by simp), hcalls, hreport⟩

end History

/-! ## Dropping the handle -/

/-- **The calls that are made when a handle is dropped.** If the end is not known, the child is polled
once, and handed over to the reaper exactly if it has not ended. -/
inductive Drops (c : Identity) : Option ExitStatus → List Event → Prop
  | known (status : ExitStatus) : Drops c (some status) []
  | done {before after : Population} {answer : Except Errno (Option WaitStatus)}
      (hanswer : answer ≠ .ok none) : Drops c none [⟨before, ⟨.poll c.pid, answer⟩, after⟩]
  | handed {before between ready after : Population} :
      Drops c none [⟨before, ⟨.poll c.pid, .ok none⟩, between⟩, ⟨ready, ⟨.adopt c.pid, ()⟩, after⟩]

/-- **What comes of dropping the handle.** The calls are made as long as the child is there, and one of
them at most collects it, if it has not been collected before. -/
theorem drops_of_run {h : Process} (hchild : h.pid = c.pid)
    (hpresent : h.status? = none → p.Present c) (run : Run h.release trace ())
    (carries : Carries fate c p trace calls p') :
    Drops c h.status? calls ∧ (∀ y ∈ calls, y.before.Present c) ∧
      calls.countP (·.collects c.pid) ≤ if h.status? = none then 1 else 0 := by
  obtain ⟨pid, ended⟩ := h
  obtain rfl : pid = c.pid := hchild
  rcases ended with _ | word
  · have hc : p.Present c := hpresent rfl
    obtain ⟨answer, rest, hrest, rfl⟩ := run_call_seq_iff.1 run
    obtain ⟨here, q, later, hcomes, hstays, hlater, rfl⟩ := carries.first hc rfl
    have hcount := hcomes.countP_collects
    have hpoll := hcomes.minds
    obtain ⟨before, after, rfl⟩ := hcomes.single rfl
    by_cases hanswer : answer = .ok none
    · subst hanswer
      obtain rfl := run_call_iff.1 hrest
      obtain ⟨hadopts, -⟩ := hlater.single (hstays rfl) rfl
      have hnone := hadopts.countP_collects
      have hadopt := hadopts.minds
      obtain ⟨ready, gone, rfl⟩ := hadopts.single rfl
      refine ⟨.handed, fun y hy => ?_, ?_⟩
      · exact ((List.mem_append.1 hy).elim (hpoll y) (hadopt y)).present
      · rw [List.countP_append, hcount, hnone]
        exact Nat.zero_le _
    · have hdone : rest = [] := by
        rcases answer with e | _ | word
        · exact (run_pure_iff.1 hrest).1
        · exact absurd rfl hanswer
        · exact (run_pure_iff.1 hrest).1
      subst hdone
      obtain ⟨rfl, -⟩ := hlater.nothing
      refine ⟨.done hanswer, fun y hy => (hpoll y hy).present, ?_⟩
      rw [List.append_nil, hcount]
      split <;> simp
  · obtain ⟨rfl, -⟩ := run_pure_iff.1 run
    obtain ⟨rfl, -⟩ := carries.nothing
    exact ⟨.known (.ofWait word), by simp, Nat.zero_le _⟩

/-- **A handle follows its child.** The child is collected once at most, and whatever is asked or
signalled is the child. Every status is the real end of the child, and is final. Dropping the handle
collects the child if it has ended, hands it over if not, and does nothing if the end is known.

**Proof sketch.** Every world keeps the invariant (`Launcher.Tracked.World.Kept`), and its history is
one of uses that have asked the host and, after them, of uses that are answered from memory
(`Launcher.Tracked.History`). -/
theorem follows_child {w : World} (hc : p.Present c) (h : Reachable fate c p w) :
    Follows fate c w.history ∧
      (∀ status, w.handle.status? = some status ↔ ∃ x ∈ w.history, x.report.status? = some status) ∧
      (∀ status, w.handle.status? = some status →
        ∀ u : Use, u.dialogue w.handle = pure (u.remembered status, w.handle)) ∧
      ∀ trace calls p', Run w.handle.release trace () → Carries fate c w.people trace calls p' →
        Drops c w.handle.status? calls ∧ (∀ y ∈ calls, y.before.Present c) ∧
          calls.countP (·.collects c.pid) + collections c w.history ≤ 1 := by
  have hkept := World.Kept.of_reachable hc h
  refine ⟨hkept.history.follows, fun status => hkept.history.eq_some_iff,
    fun status => Use.dialogue_of_ended, fun trace calls p' run carries => ?_⟩
  obtain ⟨hdrops, hpresent, hcount⟩ := drops_of_run hkept.child hkept.present run carries
  refine ⟨hdrops, hpresent, ?_⟩
  rw [hkept.history.collections_eq]
  split at hcount <;> simp_all

/-- The launcher with number 10 has the handle of child 42. It looks at the child in vain, and waits for
it with a limit. The child exits during the wait and is collected, and its number is given to another
process. A kill then leaves that one alone, and so does dropping the handle. -/
theorem follows_child_of_reusedNumber :
    ∃ (fate : Identity → Fate) (c : Identity) (p : Population) (w : World), p.Present c ∧
      Reachable fate c p w ∧ ¬ w.people.Present c ∧ (w.people.members c.pid).isSome ∧
      w.history.map Entry.report =
        [.killed (.ok ()), .looked (.ok (some (.code 3))), .looked (.ok none)] ∧
      Follows fate c w.history ∧ Run w.handle.release [] () ∧
      Carries fate c w.people [] [] w.people ∧ Drops c w.handle.status? [] := by
  let fate : Identity → Fate := fun _ => .exited 3
  let c : Identity := ⟨42, 1⟩
  let p : Population := (Population.solitary 10).bear 42 ⟨10, 0⟩ false
  let ended : Population := p.put 42 { birth := 1, group := ⟨10, 0⟩, life := .ended }
  let free : Population := ended.remove 42
  let reused : Population := free.bear 42 ⟨10, 0⟩ false
  have hvain : Tells fate p ⟨.poll 42, .ok none⟩ p := ⟨rfl, nofun⟩
  have hend : Happens p ended := .finish (m := { birth := 1, group := ⟨10, 0⟩ }) rfl
  have hcollect : Tells fate ended ⟨.poll 42, .ok (some (.ofCode 3))⟩ free := by
    refine ⟨⟨by decide, ⟨{ birth := 1, group := ⟨10, 0⟩, life := .ended }, rfl, rfl⟩, rfl⟩, ?_⟩
    rintro pid word m htold -
    cases htold
    rfl
  have hfresh : free.Fresh 42 := by
    refine ⟨by decide, rfl, fun q m hm => ?_⟩
    by_cases hq : q = 42
    · simp [free, hq] at hm
    · have hbefore : (Population.solitary 10).members q = some m := by
        simpa [free, ended, p, hq] using hm
      rw [(Population.eq_of_members_solitary hbefore).2]
      decide
  have hlauncher : free.members 10 = some { birth := 0, group := ⟨10, 0⟩ } := rfl
  have hreuse : Goes c free reused := .happen (.fork false hlauncher rfl hfresh)
  have hlook : Run (Use.dialogue { pid := 42 } .tryWait) [⟨.poll 42, .ok none⟩]
      (.looked (.ok none), { pid := 42 }) := .ask (.done _)
  have hwait : Run (Use.dialogue { pid := 42 } (.waitFor 1000))
      [⟨.pollFor 42 1000, .ok (some (.ofCode 3))⟩]
      (.looked (.ok (some (.code 3))), { pid := 42, ended := some (.ofCode 3) }) := .ask (.done _)
  have hkill : Run (Use.dialogue { pid := 42, ended := some (.ofCode 3) } .kill) []
      (.killed (.ok ()), { pid := 42, ended := some (.ofCode 3) }) := .done _
  have hpolls : Carries fate c p [⟨.pollFor 42 1000, .ok (some (.ofCode 3))⟩]
      [⟨p, ⟨.poll 42, .ok none⟩, p⟩, ⟨ended, ⟨.poll 42, .ok (some (.ofCode 3))⟩, free⟩] free :=
    .again hvain (.go (.happen hend) (.call hcollect (.nil free)))
  have hc : p.Present c := ⟨{ birth := 1, group := ⟨10, 0⟩ }, rfl, rfl⟩
  have hreach := (((Relation.ReflTransGen.refl (r := Step fate c) (a := World.begun p c)).tail
    (.use hlook (.call hvain (.nil p)))).tail (.use hwait hpolls)).tail (.go hreuse) |>.tail
    (.use hkill (.nil reused))
  obtain ⟨hfollows, -, -, hdrop⟩ := follows_child hc hreach
  have hgone : ¬ reused.Present c := by
    rintro ⟨m, hm, hbirth⟩
    cases hm
    cases hbirth
  exact ⟨fate, c, p, _, hc, hreach, hgone, rfl, rfl, hfollows, .done (), .nil reused,
    (hdrop [] [] reused (.done ()) (.nil reused)).1⟩

end Launcher.Tracked
