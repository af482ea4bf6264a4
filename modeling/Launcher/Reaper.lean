import Launcher.Host.Call
/-!
# The reaper

A process whose handle was released while it was running is handed over to the reaper, which
polls it until it has ended, so that its end is collected.

## Main definitions

* `Launcher.Reaper` — the processes that have arrived, and those that are being polled.
* `Launcher.Reaper.round` — one round: all that have arrived are taken in, and all are polled.
* `Launcher.Reaper.pause?` — how long the reaper sleeps before its next round.
-/

namespace Launcher

open Host (Pid Errno WaitStatus Dialogue)
open Host.Dialogue (call)

/-- The state of the reaper. -/
structure Reaper where
  /-- The processes that have arrived, the first first. -/
  inbox : List Pid := []
  /-- The processes that are polled, the oldest first. -/
  pending : List Pid := []
  deriving Repr, DecidableEq

namespace Reaper

/-- Hands a process over. -/
def adopt (r : Reaper) (pid : Pid) : Reaper :=
  { r with inbox := r.inbox ++ [pid] }

/-- The time between two rounds, in milliseconds. -/
def interval : Nat := 100

/-- How long the reaper sleeps before its next round, in milliseconds; without processes to poll,
until one arrives. -/
def pause? (r : Reaper) : Option Nat :=
  if r.pending.isEmpty then none else some interval

/-- A process stays as long as a poll finds it running. -/
def stays : Except Errno (Option WaitStatus) → Bool
  | .ok none => true
  | .ok (some _) | .error _ => false

/-- A child stays with the reaper exactly when the answer is that it has not ended. -/
theorem stays_iff (answer : Except Errno (Option WaitStatus)) :
    stays answer = true ↔ answer = .ok none := by
  rcases answer with e | _ | status <;> simp [stays]

/-- Polls some processes once each, and keeps those that stay. -/
def pollAll : List Pid → Dialogue (List Pid)
  | [] => pure []
  | pid :: rest => do
    let answer ← call (.poll pid)
    let kept ← pollAll rest
    pure (if stays answer then pid :: kept else kept)

/-- One round. -/
def round (r : Reaper) : Dialogue Reaper := do
  pure { inbox := [], pending := ← pollAll (r.pending ++ r.inbox) }

end Reaper

end Launcher
