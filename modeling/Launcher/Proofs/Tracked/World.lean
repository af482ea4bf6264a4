import Mathlib.Logic.Relation
import Launcher.Proofs.Jobs.Population
/-!
# A tracked child

A program has the handle of a child, and waits for the child, looks at it and kills it as often as it
likes. Meanwhile everybody else goes on: processes fork, found groups, are killed, end and are
collected, the launcher makes other calls, and numbers are given out again. Only the child is not
collected by anybody else.

A use of the handle is a dialogue, and the world may change before each of its calls. A timed wait is
not one call: the child is polled until there is an answer, or the time is over.

How each process ends is given from outside. When the process is collected, the host tells its end by
one word, out of which the status is read.

## Main definitions

* `Launcher.Tracked.Fate`, `Launcher.Tracked.Tells` — how processes really end, and a host that tells
  it.
* `Launcher.Tracked.Goes` — what goes on beside the handle.
* `Launcher.Tracked.Carries` — the calls that the exchanges of a dialogue come to.
* `Launcher.Tracked.Comes` — the calls that one exchange about the child comes to.
* `Launcher.Tracked.Use`, `Launcher.Tracked.Report` — what is done with the handle, and what comes
  back.
* `Launcher.Tracked.World`, `Launcher.Tracked.Step`, `Launcher.Tracked.Reachable` — the runs of a
  program.

## Main results

* `Launcher.Tracked.Goes.present` — the child stays.
* `Launcher.Tracked.others_of_serves` — a call about one process leaves all others alone.
* `Launcher.Tracked.Carries.first` — the first exchange of a dialogue, if it is about the child, comes
  to its calls, and the child stays unless it is collected.
* `Launcher.Tracked.Use.dialogue_of_ended`, `Launcher.Tracked.Use.run_of_open` — a use of the handle is
  no call at all, or one exchange about the child.
-/

namespace Launcher.Tracked

open Host Host.Dialogue Jobs

/-! ## Ends -/

/-- How a process really ends. -/
inductive Fate where
  /-- It exits with a code. -/
  | exited (code : UInt8)
  /-- A signal ends it, and its memory may be written to a file. -/
  | struck (signal : Nat) (dumped : Bool) (hpos : 0 < signal) (hlt : signal < 127)
  deriving DecidableEq

namespace Fate

/-- The word by which the host tells an end. -/
def word : Fate → WaitStatus
  | exited code => .ofCode code.toNat
  | struck signal dumped _ _ => .ofSignal signal dumped

/-- The status that stands for an end. -/
def status : Fate → ExitStatus
  | exited code => .code code.toNat
  | struck signal _ _ _ => .signaled signal

/-- **The status that is read out of a word** is the one of the end that the word tells. -/
theorem ofWait_word (f : Fate) : ExitStatus.ofWait f.word = f.status := by
  cases f with
  | exited code => rw [word, ExitStatus.ofWait_ofCode, Nat.mod_eq_of_lt code.toNat_lt, status]
  | struck signal dumped hpos hlt => rw [word, ExitStatus.ofWait_ofSignal hpos hlt, status]

end Fate

/-- What a wait that collects a process tells about it. -/
def told? : Exchange → Option (Pid × WaitStatus)
  | ⟨.wait pid, .ok word⟩ | ⟨.poll pid, .ok (some word)⟩ | ⟨.pollFor pid _, .ok (some word)⟩ =>
    some (pid, word)
  | _ => none

/-- **How the host answers** when all processes end as is given: of a process that it collects, it
tells the end. -/
def Tells (fate : Identity → Fate) (p : Population) (e : Exchange) (p' : Population) : Prop :=
  Serves p e p' ∧ ∀ pid word m, told? e = some (pid, word) → p.members pid = some m →
    word = (fate ⟨pid, m.birth⟩).word

/-- The process that is collected is the one whose end is told. -/
lemma collected?_eq (e : Exchange) : collected? e = (told? e).map Prod.fst := by
  rcases e with ⟨k, answer⟩
  cases k with
  | wait pid => rcases answer with _ | status <;> rfl
  | poll pid | pollFor pid => rcases answer with _ | _ | status <;> rfl
  | _ => rfl

variable {fate : Identity → Fate} {c : Identity} {p p' q : Population} {e : Exchange}

/-! ## What goes on beside the handle -/

/-- **What goes on beside the handle** of a child. Everybody may be collected but the child itself:
its number can be another's by then. -/
inductive Goes (c : Identity) (p : Population) : Population → Prop
  | happen {p' : Population} (h : Happens p p') : Goes c p p'
  | serve {e : Exchange} {p' : Population} (h : Serves p e p')
      (hother : collected? e = some c.pid → ¬ p.Present c) : Goes c p p'
  | collect {pid : Pid} {p' : Population} (h : p.Collects pid p')
      (hother : pid = c.pid → ¬ p.Present c) : Goes c p p'

/-- Whatever changes, a process stays that is not collected. -/
lemma present_of_changes {gone : Option Pid} (hc : p.Present c) (h : p.Changes gone p')
    (hgone : gone ≠ some c.pid) : p'.Present c := by
  obtain ⟨m, hm, hbirth⟩ := hc
  obtain ⟨m', hm', hsame⟩ := Population.stays_of_changes h hm hgone
  exact ⟨m', hm', hsame.trans hbirth⟩

/-- **The child stays** while others go on. -/
theorem Goes.present (h : Goes c p p') (hc : p.Present c) : p'.Present c := by
  cases h with
  | happen h => exact present_of_changes hc (Population.changes_of_happens h) nofun
  | serve h hother =>
    exact present_of_changes hc (Population.changes_of_serves h) fun hgone => hother hgone hc
  | collect h hother =>
    exact present_of_changes hc (.pass h.passes) fun hgone => hother (Option.some.inj hgone) hc

/-- The child stays as long as no wait tells its end. -/
lemma Tells.present (h : Tells fate p e p') (hc : p.Present c) (hopen : told? e = none) :
    p'.Present c :=
  present_of_changes hc (Population.changes_of_serves h.1) (by simp [collected?_eq, hopen])

/-! ## Calls -/

/-- The process that a call is about: it is killed, waited for, or handed over. -/
def minds? : Call → Option Pid
  | .kill pid | .wait pid | .poll pid | .pollFor pid _ | .adopt pid => some pid
  | _ => none

/-- Only a call about a process collects it. -/
lemma minds?_of_told? {pid : Pid} {word : WaitStatus} (h : told? e = some (pid, word)) :
    minds? e.1 = some pid := by
  rcases e with ⟨k, answer⟩
  cases k with
  | wait pid' =>
    rcases answer with _ | status' <;> cases h
    rfl
  | poll pid' | pollFor pid' =>
    rcases answer with _ | _ | status' <;> cases h
    rfl
  | _ => cases h

/-- **A call about one process** leaves all others alone, and sends no signal to a group. -/
theorem others_of_serves {pid : Pid} (h : Serves p e p') (hminds : minds? e.1 = some pid) :
    (∀ r, r ≠ pid → p'.members r = p.members r) ∧ p'.signals = p.signals := by
  have hgroup : ∀ g, e.1 ≠ .killGroup g := fun g hg => by rw [hg] at hminds; cases hminds
  refine ⟨fun r hr => ?_, Population.signals_of_serves h hgroup⟩
  rcases e with ⟨k, answer⟩
  cases k with
  | kill pid' =>
    obtain rfl : pid' = pid := Option.some.inj hminds
    rcases answer with _ | ⟨⟩
    · rw [show p' = p from h]
    · obtain ⟨m, -, -, rfl⟩ := h
      simp [hr]
  | wait pid' =>
    obtain rfl : pid' = pid := Option.some.inj hminds
    rcases answer with _ | status
    · rw [show p' = p from h]
    · obtain ⟨-, -, rfl⟩ := h
      simp [hr]
  | poll pid' | pollFor pid' =>
    obtain rfl : pid' = pid := Option.some.inj hminds
    rcases answer with _ | _ | status
    · rw [show p' = p from h]
    · rw [show p' = p from h]
    · obtain ⟨-, -, rfl⟩ := h
      simp [hr]
  | adopt pid' => rw [show p' = p from h]
  | _ => cases hminds

/-- A call with its answer, and the processes before and after it. -/
structure Event where
  before : Population
  exchange : Exchange
  after : Population

/-- The event collects a process of this number. -/
def Event.collects (x : Event) (pid : Pid) : Bool :=
  collected? x.exchange == some pid

/-- The event is about the child, which is there when the call is made. -/
structure Event.Minds (fate : Identity → Fate) (c : Identity) (x : Event) : Prop where
  present : x.before.Present c
  child : minds? x.exchange.1 = some c.pid
  tells : Tells fate x.before x.exchange x.after

/-- The last call of an exchange: a timed wait ends with a poll. -/
def final : Exchange → Exchange
  | ⟨.pollFor pid _, answer⟩ => ⟨.poll pid, answer⟩
  | e => e

/-- The last call of an exchange tells what the exchange tells. -/
@[simp]
lemma told?_final (e : Exchange) : told? (final e) = told? e := by
  rcases e with ⟨k, answer⟩
  cases k with
  | pollFor pid => rcases answer with _ | _ | status <;> rfl
  | _ => rfl

/-- The last call of an exchange is about the same process. -/
@[simp]
lemma minds?_final (e : Exchange) : minds? (final e).1 = minds? e.1 := by
  rcases e with ⟨k, answer⟩
  cases k <;> rfl

/-- **The calls that some exchanges come to**, while others go on. In a timed wait there may be any
number of polls in vain before the last. -/
inductive Carries (fate : Identity → Fate) (c : Identity) :
    Population → List Exchange → List Event → Population → Prop
  | nil (p : Population) : Carries fate c p [] [] p
  | go {p q p' : Population} {trace : List Exchange} {calls : List Event} (first : Goes c p q)
      (rest : Carries fate c q trace calls p') : Carries fate c p trace calls p'
  | call {p q p' : Population} {e : Exchange} {trace : List Exchange} {calls : List Event}
      (first : Tells fate p (final e) q) (rest : Carries fate c q trace calls p') :
      Carries fate c p (e :: trace) (⟨p, final e, q⟩ :: calls) p'
  | again {p q p' : Population} {pid : Pid} {limit : Nat} {answer : Except Errno (Option WaitStatus)}
      {trace : List Exchange} {calls : List Event} (first : Tells fate p ⟨.poll pid, .ok none⟩ q)
      (rest : Carries fate c q (⟨.pollFor pid limit, answer⟩ :: trace) calls p') :
      Carries fate c p (⟨.pollFor pid limit, answer⟩ :: trace)
        (⟨p, ⟨.poll pid, .ok none⟩, q⟩ :: calls) p'

/-- The calls that one exchange about the child comes to. -/
inductive Comes (fate : Identity → Fate) (c : Identity) : Exchange → List Event → Prop
  | last {p q : Population} {e : Exchange} (h : Event.Minds fate c ⟨p, final e, q⟩) :
      Comes fate c e [⟨p, final e, q⟩]
  | again {p q : Population} {limit : Nat} {answer : Except Errno (Option WaitStatus)}
      {calls : List Event} (h : Event.Minds fate c ⟨p, ⟨.poll c.pid, .ok none⟩, q⟩)
      (rest : Comes fate c ⟨.pollFor c.pid limit, answer⟩ calls) :
      Comes fate c ⟨.pollFor c.pid limit, answer⟩ (⟨p, ⟨.poll c.pid, .ok none⟩, q⟩ :: calls)

variable {trace : List Exchange} {calls : List Event}

/-- Where there is nothing to do, no call is made, but others go on. -/
lemma Carries.nothing (h : Carries fate c p [] calls p') :
    calls = [] ∧ (p.Present c → p'.Present c) := by
  generalize htrace : ([] : List Exchange) = trace at h
  induction h with
  | nil p => exact ⟨rfl, id⟩
  | go first rest ih => exact ⟨(ih htrace).1, fun hc => (ih htrace).2 (first.present hc)⟩
  | call first rest ih => cases htrace
  | again first rest ih => cases htrace

/-- **The first exchange of a dialogue**, when it is about the child.

**Proof sketch.** The child stays while others go on (`Launcher.Tracked.Goes.present`) and while polls
are in vain (`Launcher.Tracked.Tells.present`), so that every call is made as long as it is there. -/
theorem Carries.first (h : Carries fate c p (e :: trace) calls p') (hc : p.Present c)
    (hminds : minds? e.1 = some c.pid) :
    ∃ here q later, Comes fate c e here ∧ (told? e = none → q.Present c) ∧
      Carries fate c q trace later p' ∧ calls = here ++ later := by
  generalize htrace : e :: trace = whole at h
  induction h with
  | nil p => cases htrace
  | go first rest ih => exact ih (first.present hc) htrace
  | call first rest ih =>
    cases htrace
    refine ⟨_, _, _, .last ⟨hc, by simpa using hminds, first⟩, fun hopen => ?_, rest, rfl⟩
    exact first.present hc (by simpa using hopen)
  | again first rest ih =>
    cases htrace
    obtain rfl := Option.some.inj hminds
    obtain ⟨here, r, later, hcomes, hstays, hlater, rfl⟩ := ih (first.present hc rfl) rfl
    exact ⟨_, r, later, .again ⟨hc, rfl, first⟩ hcomes, hstays, hlater, rfl⟩

/-- A whole dialogue of one exchange about the child. -/
lemma Carries.single (h : Carries fate c p [e] calls p') (hc : p.Present c)
    (hminds : minds? e.1 = some c.pid) :
    Comes fate c e calls ∧ (told? e = none → p'.Present c) := by
  obtain ⟨here, q, later, hcomes, hstays, hlater, rfl⟩ := h.first hc hminds
  obtain ⟨rfl, hkeeps⟩ := hlater.nothing
  exact ⟨by simpa using hcomes, fun hopen => hkeeps (hstays hopen)⟩

namespace Comes

/-- All calls are about the child, which is there. -/
lemma minds (h : Comes fate c e calls) : ∀ x ∈ calls, x.Minds fate c := by
  induction h with
  | last hx => simpa using hx
  | again hx rest ih => exact List.forall_mem_cons.2 ⟨hx, ih⟩

/-- All calls are the same call. -/
lemma call (h : Comes fate c e calls) : ∀ x ∈ calls, x.exchange.1 = (final e).1 := by
  induction h with
  | last hx => simp
  | again hx rest ih => exact List.forall_mem_cons.2 ⟨rfl, ih⟩

/-- An exchange is one call, unless it is a timed wait. -/
lemma single (h : Comes fate c e calls) (hfinal : final e = e) :
    ∃ before after, calls = [⟨before, e, after⟩] := by
  cases h with
  | last hx => exact ⟨_, _, by rw [hfinal]⟩
  | again hx rest => cases hfinal

/-- The child is collected by one of the calls, the last, if its end is told, and by none if not. -/
lemma countP_collects (h : Comes fate c e calls) :
    calls.countP (·.collects c.pid) = if told? e = none then 0 else 1 := by
  induction h with
  | @last p q e hx =>
    have hminds : minds? e.1 = some c.pid := by simpa using hx.child
    rcases htold : told? e with _ | ⟨pid, status⟩
    · simp [Event.collects, collected?_eq, htold]
    · obtain rfl : pid = c.pid :=
        Option.some.inj ((minds?_of_told? htold).symm.trans hminds)
      simp [Event.collects, collected?_eq, htold]
  | again hx rest ih =>
    rw [List.countP_cons_of_neg (by simp [Event.collects, collected?]), ih]

/-- What is told is the end of the child. -/
lemma word_eq {pid : Pid} {word : WaitStatus} (h : Comes fate c e calls)
    (htold : told? e = some (pid, word)) : word = (fate c).word := by
  induction h with
  | last hx =>
    obtain ⟨⟨m, hm, hbirth⟩, hchild, -, htells⟩ := hx
    have hminds := (minds?_of_told? htold).symm.trans ((minds?_final _).symm.trans hchild)
    obtain rfl := Option.some.inj hminds
    have hword := htells c.pid word m (by simpa using htold) hm
    rwa [hbirth] at hword
  | again hx rest ih => exact ih htold

/-- As long as the end is not told, the child is there after each of the calls. -/
lemma present (h : Comes fate c e calls) (hopen : told? e = none) :
    ∀ x ∈ calls, x.after.Present c := by
  induction h with
  | last hx => simpa using hx.tells.present hx.present (by simpa using hopen)
  | again hx rest ih =>
    exact List.forall_mem_cons.2 ⟨hx.tells.present hx.present rfl, ih hopen⟩

end Comes

/-! ## Uses -/

/-- What can be done with the handle. -/
inductive Use where
  | wait
  | tryWait
  | waitFor (limit : Nat)
  | kill

/-- What comes back. -/
inductive Report where
  | waited (result : Except Fault ExitStatus)
  | looked (result : Except Fault (Option ExitStatus))
  | killed (result : Except Fault Unit)

/-- The status that is reported, if one is. -/
def Report.status? : Report → Option ExitStatus
  | waited (.ok status) => some status
  | looked (.ok ended) => ended
  | _ => none

/-- The fault of a wait that the host has refused. -/
def waitFault (pid : Pid) (e : Errno) : Fault :=
  .waitFailed pid e.message (some e.code)

/-- The fault of a kill that the host has refused. -/
def killFault (pid : Pid) (e : Errno) : Fault :=
  .terminateFailed (.process pid) e.message (some e.code)

namespace Use

/-- The dialogue of a use, with the handle as it is afterwards. Looking at a process is waiting for it
without any time. -/
def dialogue (h : Process) : Use → Dialogue (Report × Process)
  | wait => do
    let (result, h) ← h.wait
    pure (.waited result, h)
  | tryWait => do
    let (result, h) ← h.waitFor 0
    pure (.looked result, h)
  | waitFor limit => do
    let (result, h) ← h.waitFor limit
    pure (.looked result, h)
  | kill => do
    let result ← h.kill
    pure (.killed result, h)

/-- The call that a use makes, as often as it makes one. -/
def call (pid : Pid) : Use → Call
  | wait => .wait pid
  | tryWait | waitFor _ => .poll pid
  | kill => .kill pid

/-- What a use reports when the end is known. -/
def remembered (status : ExitStatus) : Use → Report
  | wait => .waited (.ok status)
  | tryWait | waitFor _ => .looked (.ok (some status))
  | kill => .killed (.ok ())

/-- What is reported of a known end is this end. -/
lemma status?_remembered {status status' : ExitStatus} {u : Use}
    (h : (u.remembered status).status? = some status') : status' = status := by
  cases u with
  | kill => cases h
  | wait | tryWait | waitFor limit => exact (Option.some.inj h).symm

/-- **A handle that knows the end** asks nobody any more. -/
theorem dialogue_of_ended {h : Process} {status : ExitStatus} (hended : h.status? = some status)
    (u : Use) : u.dialogue h = pure (u.remembered status, h) := by
  obtain ⟨pid, ended⟩ := h
  obtain ⟨word, hword, rfl⟩ := Option.map_eq_some_iff.1 hended
  obtain rfl : ended = some word := hword
  cases u <;> rfl

end Use

/-- What a use reports of one exchange about the process. -/
inductive Answered (pid : Pid) : Use → Exchange → Report → Prop
  | wait (answer : Except Errno WaitStatus) :
    Answered pid .wait ⟨.wait pid, answer⟩
      (.waited ((answer.map .ofWait).mapError (waitFault pid)))
  | tryWait (answer : Except Errno (Option WaitStatus)) :
    Answered pid .tryWait ⟨.poll pid, answer⟩
      (.looked ((answer.map (·.map .ofWait)).mapError (waitFault pid)))
  | waitFor_zero (answer : Except Errno (Option WaitStatus)) :
    Answered pid (.waitFor 0) ⟨.poll pid, answer⟩
      (.looked ((answer.map (·.map .ofWait)).mapError (waitFault pid)))
  | waitFor {limit : Nat} (hlimit : limit ≠ 0) (answer : Except Errno (Option WaitStatus)) :
    Answered pid (.waitFor limit) ⟨.pollFor pid limit, answer⟩
      (.looked ((answer.map (·.map .ofWait)).mapError (waitFault pid)))
  | kill (answer : Except Errno Unit) :
    Answered pid .kill ⟨.kill pid, answer⟩ (.killed (answer.mapError (killFault pid)))

namespace Answered

variable {pid : Pid} {u : Use} {r : Report}

/-- A use is about the process of its handle. -/
lemma minds (h : Answered pid u e r) : minds? e.1 = some pid := by
  cases h <;> rfl

/-- The last call of a use is the call that it makes. -/
lemma call (h : Answered pid u e r) : (final e).1 = u.call pid := by
  cases h <;> rfl

/-- A status is reported if a word is told, and is read out of it. -/
lemma status?_eq (h : Answered pid u e r) :
    r.status? = (told? e).map fun told => .ofWait told.2 := by
  cases h with
  | wait answer => rcases answer with _ | status <;> rfl
  | tryWait answer | waitFor_zero answer | waitFor hlimit answer =>
    rcases answer with _ | _ | status <;> rfl
  | kill answer => rcases answer with _ | ⟨⟩ <;> rfl

/-- No status is reported exactly if no end is told. -/
lemma status?_eq_none_iff (h : Answered pid u e r) : r.status? = none ↔ told? e = none := by
  rw [h.status?_eq, Option.map_eq_none_iff]

end Answered

/-- **A handle that does not know the end** has one exchange with the host, and remembers what it is
told. -/
theorem Use.run_of_open {h h' : Process} {u : Use} {r : Report} (hopen : h.status? = none)
    (run : Run (u.dialogue h) trace (r, h')) :
    ∃ e, trace = [e] ∧ Answered h.pid u e r ∧ h'.pid = h.pid ∧ h'.status? = r.status? := by
  obtain ⟨pid, ended⟩ := h
  obtain rfl : ended = none := Process.status?_eq_none_iff.1 hopen
  cases u with
  | wait =>
    rw [dialogue, Process.wait_eq] at run
    obtain ⟨answer, _, hend, rfl⟩ := run_call_seq_iff.1 run
    rcases answer with e | word <;> obtain ⟨rfl, heq⟩ := run_pure_iff.1 hend <;> cases heq
    · exact ⟨_, rfl, .wait (.error e), rfl, rfl⟩
    · exact ⟨_, rfl, .wait (.ok word), rfl, rfl⟩
  | tryWait =>
    obtain ⟨answer, _, hend, rfl⟩ := run_call_seq_iff.1 run
    rcases answer with e | _ | word <;> obtain ⟨rfl, heq⟩ := run_pure_iff.1 hend <;> cases heq
    · exact ⟨_, rfl, .tryWait (.error e), rfl, rfl⟩
    · exact ⟨_, rfl, .tryWait (.ok none), rfl, rfl⟩
    · exact ⟨_, rfl, .tryWait (.ok (some word)), rfl, rfl⟩
  | waitFor limit =>
    by_cases hlimit : limit = 0
    · subst hlimit
      obtain ⟨answer, _, hend, rfl⟩ := run_call_seq_iff.1 run
      rcases answer with e | _ | word <;> obtain ⟨rfl, heq⟩ := run_pure_iff.1 hend <;> cases heq
      · exact ⟨_, rfl, .waitFor_zero (.error e), rfl, rfl⟩
      · exact ⟨_, rfl, .waitFor_zero (.ok none), rfl, rfl⟩
      · exact ⟨_, rfl, .waitFor_zero (.ok (some word)), rfl, rfl⟩
    · simp only [Use.dialogue, Process.waitFor, Process.await, Process.askEnd, if_neg hlimit] at run
      obtain ⟨answer, _, hend, rfl⟩ := run_call_seq_iff.1 run
      rcases answer with e | _ | word <;> obtain ⟨rfl, heq⟩ := run_pure_iff.1 hend <;> cases heq
      · exact ⟨_, rfl, .waitFor hlimit (.error e), rfl, rfl⟩
      · exact ⟨_, rfl, .waitFor hlimit (.ok none), rfl, rfl⟩
      · exact ⟨_, rfl, .waitFor hlimit (.ok (some word)), rfl, rfl⟩
  | kill =>
    obtain ⟨answer, _, hend, rfl⟩ := run_call_seq_iff.1 run
    rcases answer with e | ⟨⟩ <;> obtain ⟨rfl, heq⟩ := run_pure_iff.1 hend <;> cases heq
    · exact ⟨_, rfl, .kill (.error e), rfl, rfl⟩
    · exact ⟨_, rfl, .kill (.ok ()), rfl, rfl⟩

/-! ## Runs of a program -/

/-- A use of the handle, with what it has reported and the calls that were made for it. -/
structure Entry where
  use : Use
  report : Report
  calls : List Event

/-- The processes, the handle, and what has been done with it, the latest first. -/
structure World where
  people : Population
  handle : Process
  history : List Entry := []

/-- A handle has just been given out for the child. -/
def World.begun (p : Population) (c : Identity) : World where
  people := p
  handle := { pid := c.pid }

/-- What can happen next: others go on, or the handle is used. -/
inductive Step (fate : Identity → Fate) (c : Identity) (w : World) : World → Prop
  | go {p : Population} (h : Goes c w.people p) : Step fate c w { w with people := p }
  | use {u : Use} {r : Report} {handle : Process} {trace : List Exchange} {calls : List Event}
      {p : Population} (run : Run (u.dialogue w.handle) trace (r, handle))
      (carries : Carries fate c w.people trace calls p) :
      Step fate c w ⟨p, handle, ⟨u, r, calls⟩ :: w.history⟩

/-- All worlds that a program can come to with the handle of the child. -/
def Reachable (fate : Identity → Fate) (c : Identity) (p : Population) : World → Prop :=
  Relation.ReflTransGen (Step fate c) (World.begun p c)

end Launcher.Tracked
