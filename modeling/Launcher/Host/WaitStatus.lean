/-!
# The word of a wait

When a process is collected, the host tells how it has ended by one word. The low seven bits of the
word are 0 if the process has exited, and the second byte is the exit code then. Else they are the
number of the signal that has ended it, and the bit above them tells whether its memory was written to
a file. If all seven are set, the process was stopped and has not ended.

## Main definitions

* `Launcher.Host.WaitStatus` — the word.
* `Launcher.Host.WaitStatus.code?`, `signal?` — the exit code and the signal that a word tells.
* `Launcher.Host.WaitStatus.ofCode`, `ofSignal` — the word of an exit and that of a signal.
-/

namespace Launcher.Host

/-- The word by which the host tells how a process has ended. -/
structure WaitStatus where
  word : UInt32
  deriving Repr, DecidableEq

namespace WaitStatus

/-! ## Reading a word -/

/-- The low seven bits. -/
def cause (s : WaitStatus) : Nat :=
  s.word.toNat % 128

/-- The exit code, of a process that has exited. -/
def code? (s : WaitStatus) : Option Nat :=
  if s.cause = 0 then some (s.word.toNat / 256 % 256) else none

/-- The signal, of a process that a signal has ended. -/
def signal? (s : WaitStatus) : Option Nat :=
  if s.cause = 0 ∨ s.cause = 127 then none else some s.cause

/-! ## Writing a word -/

/-- The word of a process that has exited. Of its code the low byte is kept. -/
def ofCode (code : Nat) : WaitStatus :=
  ⟨UInt32.ofNat (code % 256 * 256)⟩

/-- The word of a process that a signal has ended, and whether its memory was written to a file. -/
def ofSignal (signal : Nat) (dumped : Bool) : WaitStatus :=
  ⟨UInt32.ofNat (signal + if dumped then 128 else 0)⟩

/-- Of the number of an exit the lowest eight bits come back. -/
theorem code?_ofCode (code : Nat) : (ofCode code).code? = some (code % 256) := by
  have hword : (ofCode code).word.toNat = code % 256 * 256 := by
    simp only [ofCode, UInt32.toNat_ofNat']
    omega
  have hcause : (ofCode code).cause = 0 := by
    rw [cause, hword]
    omega
  rw [code?, if_pos hcause, hword]
  congr 1
  omega

/-- The cause of an end by a signal is the number of the signal, whether memory was dumped or not.
-/
theorem cause_ofSignal {signal : Nat} (h : signal < 128) (dumped : Bool) :
    (ofSignal signal dumped).cause = signal := by
  cases dumped <;> simp only [cause, ofSignal, UInt32.toNat_ofNat'] <;> simp <;> omega

/-- An end by a signal is no exit. -/
theorem code?_ofSignal {signal : Nat} (hpos : 0 < signal) (h : signal < 128) (dumped : Bool) :
    (ofSignal signal dumped).code? = none := by
  rw [code?, cause_ofSignal h, if_neg (by omega)]

/-- The number of a signal comes back. -/
theorem signal?_ofSignal {signal : Nat} (hpos : 0 < signal) (h : signal < 127) (dumped : Bool) :
    (ofSignal signal dumped).signal? = some signal := by
  rw [signal?, cause_ofSignal (by omega), if_neg (by omega)]

end WaitStatus

end Launcher.Host
