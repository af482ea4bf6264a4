import Launcher.Config.Choice
import Launcher.Host.Machine.Base
import Launcher.Host.Machine.Clock
import Launcher.Launch.Basic
import Launcher.Spec.Open
/-!
# A launcher at work

A session is a launcher at work on a machine. What its launches have produced is kept in slots,
under names.

## Main definitions

* `Launcher.Slot` — what a launch has produced.
* `Launcher.Session` — a machine and the slots.
* `Launcher.Session.play` — a dialogue with the machine.
* `Launcher.Session.watch` — waiting until something can be seen.
-/

namespace Launcher

open Host (Pid Dialogue Machine Call)

/-- What a launch has produced. -/
structure Slot where
  /-- The process that was started; 0, if there was none. -/
  pid : Pid := 0
  process : Option Process := none
  job : Option Job := none
  deriving Repr, DecidableEq, Inhabited

/-- A launcher at work. -/
structure Session where
  machine : Machine
  slots : List (String × Slot) := []
  /-- So many descriptors were open at the beginning. -/
  descriptors : Nat

namespace Session

/-- A session on a machine. -/
def on (machine : Machine) : Session :=
  { machine, descriptors := machine.descriptors.length }

/-- What is kept under a name. -/
def slot (s : Session) (name : String) : Slot :=
  (s.slots.lookup name).getD default

/-- The session with something else kept under a name. -/
def setSlot (s : Session) (name : String) (slot : Slot) : Session :=
  { s with slots := (name, slot) :: s.slots.filter fun entry => entry.1 != name }

/-- A dialogue with the machine. -/
def play {α : Type} (s : Session) (d : Dialogue α) : α × Session :=
  let (value, machine) := d.play Machine.answer s.machine
  (value, { s with machine })

/-- A dialogue during which only so many descriptors can be opened. -/
def playWith {α : Type} (s : Session) (spare : Option Nat) (d : Dialogue α) : α × Session :=
  let limit := spare.map fun n => s.machine.descriptors.length + n
  let (value, s) := { s with machine := { s.machine with limit } }.play d
  (value, { s with machine := { s.machine with limit := none } })

/-- The session after some time, in microseconds. -/
def pass (s : Session) (time : Host.Time) : Session :=
  { s with machine := s.machine.pass time }

/-- Whether something can be seen now. -/
def look (s : Session) (sees : Machine → Bool) : Bool × Session :=
  let s := s.pass Machine.stepTime
  (sees s.machine, s)

/-- The longest time for which something is watched, in microseconds. -/
def patience : Host.Time := 5000000

/-- Waits until something can be seen, and tells whether it was. -/
def watch (s : Session) (sees : Machine → Bool) : Bool × Session :=
  let machine := s.machine.runUntil sees (some (s.machine.now + patience))
  (sees machine, { s with machine })

/-- Gives up what is kept under a name, and keeps something else. -/
def replaceSlot (s : Session) (name : String) (slot : Slot) : Session :=
  let old := s.slot name
  let ((), s) := s.play do
    releaseProcess old.process
    releaseJob old.job
  s.setSlot name slot

end Session

end Launcher
