import Launcher.Proofs.Host.Protocol
/-!
# Refused calls

The host can refuse a call, and then tells a number for the reason. When several calls of a dialogue are
refused, it matters which of them was the first, so the first exchange of a kind is followed through
dialogues by a protocol. The same protocol keeps files in order that are to be duplicated one after the
other.

## Main definitions

* `Launcher.Host.Call.told` — the number that comes to the caller.
* `Launcher.Host.Refused` — an exchange in which the host refuses a call.
* `Launcher.Host.refusal?` — the number in the answer to a refused call.
* `Launcher.Host.duplicated` — the files that the host is asked to duplicate.
* `Launcher.Host.inTurn` — the protocol: files are duplicated in their order, then the process is
  started, and neither is done after an exchange of some kind.

## Main results

* `Launcher.Host.Dialogue.Obeys.first` — the protocol has the first exchange of the kind in the end.
* `Launcher.Host.Dialogue.Obeys.orderly` — what the order of the calls is in a run.
-/

namespace Launcher.Host

open Dialogue

/-! ## Refusals -/

/-- The number that comes to the caller. The calls about groups tell a number by its name, and one
without a name comes as zero. -/
def Call.told (c : Call) (e : Errno) : Errno :=
  match c with
  | groupOf _ | killGroup _ => e.symbolic
  | _ => e

/-- **A refused call.** The host refuses it with the number `e`. -/
inductive Refused (e : Errno) : Exchange → Prop
  | duplicate (d : Descriptor) : Refused e ⟨.duplicate d, .error e⟩
  | start (s : Start) : Refused e ⟨.start s, .error e⟩
  | groupOf (pid : Pid) : Refused e ⟨.groupOf pid, .error e.symbolic⟩
  | kill (pid : Pid) : Refused e ⟨.kill pid, .error e⟩
  | killGroup (g : Pid) : Refused e ⟨.killGroup g, .error e.symbolic⟩
  | wait (pid : Pid) : Refused e ⟨.wait pid, .error e⟩
  | poll (pid : Pid) : Refused e ⟨.poll pid, .error e⟩
  | pollFor (pid : Pid) (limit : Nat) : Refused e ⟨.pollFor pid limit, .error e⟩

/-- The number in the answer to a call that was refused. -/
def refusal? : Exchange → Option Errno
  | ⟨.duplicate _, .error e⟩ | ⟨.start _, .error e⟩ | ⟨.groupOf _, .error e⟩ | ⟨.kill _, .error e⟩
  | ⟨.killGroup _, .error e⟩ | ⟨.wait _, .error e⟩ | ⟨.poll _, .error e⟩
  | ⟨.pollFor _ _, .error e⟩ => some e
  | _ => none

/-- A refused call is answered with the number that comes to the caller. -/
lemma Refused.refusal?_eq {e : Errno} {x : Exchange} (h : Refused e x) :
    refusal? x = some (x.1.told e) := by
  cases h <;> rfl

/-! ## Files that are duplicated in turn -/

/-- The file that the host is asked to duplicate. -/
def duplicated? : Exchange → Option Descriptor
  | ⟨.duplicate d, _⟩ => some d
  | _ => none

/-- The files that the host is asked to duplicate, in this order. -/
def duplicated (trace : List Exchange) : List Descriptor :=
  trace.filterMap duplicated?

/-- Without exchanges nothing is duplicated. -/
@[simp]
lemma duplicated_nil : duplicated [] = [] := rfl

/-- The files to be duplicated, from the first exchange on. -/
@[simp]
lemma duplicated_cons (e : Exchange) (t : List Exchange) :
    duplicated (e :: t) = (duplicated? e).toList ++ duplicated t := by
  cases h : duplicated? e <;> simp [duplicated, h]

/-- What is known on the way through a dialogue. -/
structure Progress where
  /-- The first exchange of some kind, if there has been one. -/
  first : Option Exchange := none
  /-- The files that have not been duplicated yet. -/
  left : List Descriptor := []

/-- **In turn.** Files are duplicated in their order, a process is started when none is left, and neither
is done after an exchange of the kind. -/
def inTurn (kind : Exchange → Bool) : Protocol Progress where
  allows
    | s, .duplicate d => s.first = none ∧ ∃ rest, s.left = d :: rest
    | s, .start _ => s.first = none ∧ s.left = []
    | _, _ => True
  after s e :=
    { first := s.first.or (if kind e then some e else none)
      left := if (duplicated? e).isSome then s.left.tail else s.left }

/-- The call neither duplicates a file nor starts a process. -/
def Call.IsLate (c : Call) : Prop :=
  (∀ d, c ≠ duplicate d) ∧ ∀ s, c ≠ start s

/-- A call is late, or duplicates a file, or starts a process. -/
lemma Call.isLate_or (c : Call) : c.IsLate ∨ (∃ d, c = duplicate d) ∨ ∃ s, c = start s := by
  cases c with
  | duplicate d => exact .inr (.inl ⟨d, rfl⟩)
  | start s => exact .inr (.inr ⟨s, rfl⟩)
  | _ => exact .inl ⟨nofun, nofun⟩

/-- Calls on a process that is there are late. -/
lemma Call.IsMinding.isLate {c : Call} (h : c.IsMinding) : c.IsLate := by
  cases c <;> first | exact h.elim | exact ⟨nofun, nofun⟩

/-- Closing a file is late. -/
lemma Call.isLate_close (d : Descriptor) : (close d).IsLate := ⟨nofun, nofun⟩

/-- Asking for the group of a process is late. -/
lemma Call.isLate_groupOf (pid : Pid) : (groupOf pid).IsLate := ⟨nofun, nofun⟩

/-- Ending a group is late. -/
lemma Call.isLate_killGroup (g : Pid) : (killGroup g).IsLate := ⟨nofun, nofun⟩

/-- A late call duplicates no file. -/
lemma Call.IsLate.duplicated?_eq {c : Call} (h : c.IsLate) (answer : c.Answer) :
    duplicated? ⟨c, answer⟩ = none := by
  cases c with
  | duplicate d => exact absurd rfl (h.1 d)
  | _ => rfl

/-- A late call asks for no process. -/
lemma Call.IsLate.asked?_eq {c : Call} (h : c.IsLate) (answer : c.Answer) :
    asked? ⟨c, answer⟩ = none := by
  cases c with
  | start s => exact absurd rfl (h.2 s)
  | _ => rfl

section

variable {α : Type} {kind : Exchange → Bool} {Q : α → Progress → Prop} {s : Progress}
  {d : Dialogue α} {trace : List Exchange} {value : α}

/-- Late calls are allowed at any time. -/
lemma allows_of_isLate {c : Call} (h : c.IsLate) : (inTurn kind).allows s c := by
  cases c with
  | duplicate d => exact absurd rfl (h.1 d)
  | start process => exact absurd rfl (h.2 process)
  | _ => trivial

/-- Only late calls are allowed when there has been an exchange of the kind. -/
lemma isLate_of_allows {c : Call} (h : (inTurn kind).allows s c) (hs : s.first ≠ none) :
    c.IsLate := by
  constructor
  · rintro file rfl
    exact hs h.1
  · rintro process rfl
    exact hs h.1

/-- A late call is noticed if it is the first of the kind, and changes nothing else. -/
lemma after_of_isLate {c : Call} (h : c.IsLate) (answer : c.Answer) :
    (inTurn kind).after s ⟨c, answer⟩ =
      { s with first := s.first.or (if kind ⟨c, answer⟩ then some ⟨c, answer⟩ else none) } := by
  simp [inTurn, h.duplicated?_eq answer]

/-- A call that is neither early nor of the kind is not noticed. -/
lemma after_of_unkind {c : Call} (h : c.IsLate) {answer : c.Answer}
    (hkind : kind ⟨c, answer⟩ = false) : (inTurn kind).after s ⟨c, answer⟩ = s := by
  simp [after_of_isLate h, hkind]

namespace Dialogue

/-- When there has been an exchange of the kind, no other is noticed. -/
lemma obeys_of_some {x : Exchange} {left : List Descriptor} (h : Only Call.IsLate d)
    (hQ : ∀ value, Q value ⟨some x, left⟩) : Obeys (inTurn kind) Q d ⟨some x, left⟩ :=
  h.obeys (fun _ hc => allows_of_isLate hc) (fun _ hc answer => after_of_isLate hc answer) hQ

/-- In the end the protocol has the first exchange of the kind. -/
lemma foldl_inTurn (kind : Exchange → Bool) (trace : List Exchange) (s : Progress) :
    (trace.foldl (inTurn kind).after s).first = s.first.or (trace.find? kind) := by
  induction trace generalizing s with
  | nil => simp
  | cons e trace ih =>
    rw [List.foldl_cons, ih, List.find?_cons]
    obtain ⟨_ | x, left⟩ := s
    · cases hkind : kind e <;> simp [inTurn, hkind]
    · simp [inTurn]

/-- **The first exchange of the kind**, at the end of a run. -/
theorem Obeys.first {P : α → Option Exchange → Prop}
    (h : Obeys (inTurn kind) (fun value s => P value s.first) d s) (hs : s.first = none)
    (run : Run d trace value) : P value (trace.find? kind) := by
  have hend := h.of_run run
  rwa [foldl_inTurn, hs] at hend

/-- **The order of the calls** in a run. No other files are duplicated than those that are left, in their
order; nothing is started before one of them; and after an exchange of the kind no file is duplicated and
nothing is started.

**Proof sketch.** By induction on the run. A call that is allowed comes at its turn, and the protocol has
the rest of the files after it. -/
theorem Obeys.orderly (h : Obeys (inTurn kind) Q d s) (run : Run d trace value) :
    (s.first ≠ none → duplicated trace = [] ∧ starts trace = []) ∧
    duplicated trace <+: s.left ∧
    ∀ before x after, trace = before ++ x :: after →
      ((duplicated? x).isSome → starts before = []) ∧
      (kind x → duplicated after = [] ∧ starts after = []) := by
  induction run generalizing s with
  | done value => simp
  | @ask c next answer rest value run ih =>
    obtain ⟨hallows, hnext⟩ := h
    obtain ⟨hstopped, hleft, hparts⟩ := ih (hnext answer)
    refine ⟨fun hfirst => ?_, ?_, fun before x after hsplit => ?_⟩
    · have hlate := isLate_of_allows hallows hfirst
      obtain ⟨hrest, hstarts⟩ := hstopped (by simp [inTurn, hfirst])
      simp [hlate.duplicated?_eq, hlate.asked?_eq, hrest, hstarts]
    · rcases c.isLate_or with hlate | ⟨file, rfl⟩ | ⟨process, rfl⟩
      · rw [after_of_isLate hlate] at hleft
        simpa [hlate.duplicated?_eq] using hleft
      · obtain ⟨-, files, hfiles⟩ := hallows
        simp only [inTurn, hfiles] at hleft
        rw [hfiles]
        exact (List.prefix_cons_inj file).2 hleft
      · exact hleft
    · rcases List.cons_eq_append_iff.1 hsplit with ⟨rfl, hcons⟩ | ⟨before, rfl, rfl⟩
      · obtain ⟨rfl, rfl⟩ := List.cons.inj hcons
        refine ⟨fun _ => rfl, fun hkind => hstopped ?_⟩
        simp [inTurn, hkind]
      · obtain ⟨hearly, hlast⟩ := hparts before x after rfl
        refine ⟨fun hdup => ?_, hlast⟩
        rcases c.isLate_or with hlate | ⟨file, rfl⟩ | ⟨process, rfl⟩
        · simp [hlate.asked?_eq, hearly hdup]
        · simp [asked?, hearly hdup]
        · -- a process is started when no file is left
          exfalso
          obtain ⟨-, hnone⟩ := hallows
          obtain ⟨file, hfile⟩ := Option.isSome_iff_exists.1 hdup
          have hmem : file ∈ duplicated (before ++ x :: after) :=
            List.mem_filterMap.2 ⟨x, by simp, hfile⟩
          have hmem := hleft.subset hmem
          simp [inTurn, duplicated?, hnone] at hmem

end Dialogue

end

end Launcher.Host
