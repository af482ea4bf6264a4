import Mathlib.Tactic.Lemma
import Launcher.Host.Call
/-!
# Dialogues that keep to a protocol

A protocol follows a dialogue call by call: in each of its states it allows some calls, and each
answer brings it into another state. A dialogue keeps to a protocol when it makes no call that is
not allowed, whatever the host answers, and ends in a state that is good for its value. This is
the form in which a part of a dialogue that is left over, after some answers, is reasoned about;
a whole dialogue is also reasoned about by its runs.

## Main definitions

* `Launcher.Host.Protocol` — which calls are allowed when, and what they change.
* `Launcher.Host.Dialogue.Obeys` — a dialogue keeps to a protocol.
* `Launcher.Host.Dialogue.Only` — a dialogue makes calls of one kind alone.
* `Launcher.Host.starts`, `Launcher.Host.started` — the processes that the host is asked to start on
  the way of a run, and those that it has started.

## Main results

* `Launcher.Host.Dialogue.obeys_bind_iff` — one dialogue after another keeps to a protocol when the
  second does from where the first ends.
* `Launcher.Host.Dialogue.Obeys.of_run` — what a protocol says of the end of a run.
* `Launcher.Host.Dialogue.exists_run` — whatever the host answers, a dialogue comes to its end.
-/

namespace Launcher.Host

/-! ## Protocols -/

/-- Which calls are allowed when, and what they change. -/
structure Protocol (σ : Type) where
  /-- The calls that are allowed in a state. -/
  allows : σ → Call → Prop
  /-- The state after a call and its answer. -/
  after : σ → Dialogue.Exchange → σ

namespace Dialogue

variable {α β σ : Type} {p : Protocol σ} {Q R : α → σ → Prop} {s : σ}

/-- The dialogue, begun in state `s`, makes allowed calls only and ends with a value and in a state
of which `Q` holds. -/
def Obeys (p : Protocol σ) (Q : α → σ → Prop) : Dialogue α → σ → Prop
  | done value, s => Q value s
  | ask call next, s =>
    p.allows s call ∧ ∀ answer, Obeys p Q (next answer) (p.after s ⟨call, answer⟩)

/-- A value without calls obeys if its end is good. -/
@[simp]
lemma obeys_pure_iff {value : α} : Obeys p Q (pure value) s ↔ Q value s := Iff.rfl

/-- A single call obeys if it is allowed, and every answer leads to a good end. -/
@[simp]
lemma obeys_call_iff {c : Call} {Q : c.Answer → σ → Prop} :
    Obeys p Q (call c) s ↔ p.allows s c ∧ ∀ answer, Q answer (p.after s ⟨c, answer⟩) := Iff.rfl

/-- A dialogue may end in more than is asked for. -/
lemma Obeys.mono {d : Dialogue α} (h : Obeys p Q d s) (hQR : ∀ value s, Q value s → R value s) :
    Obeys p R d s := by
  induction d generalizing s with
  | done value => exact hQR value s h
  | ask c next ih => exact ⟨h.1, fun answer => ih answer (h.2 answer)⟩

/-- **One dialogue after another.** -/
theorem obeys_bind_iff {d : Dialogue α} {f : α → Dialogue β} {Q : β → σ → Prop} :
    Obeys p Q (d >>= f) s ↔ Obeys p (fun value s => Obeys p Q (f value) s) d s := by
  induction d generalizing s with
  | done value => exact Iff.rfl
  | ask c next ih =>
    constructor
    · exact fun h => ⟨h.1, fun answer => (ih answer).1 (h.2 answer)⟩
    · exact fun h => ⟨h.1, fun answer => (ih answer).2 (h.2 answer)⟩

/-- A call, and then what follows on its answer. -/
lemma obeys_call_seq_iff {c : Call} {f : c.Answer → Dialogue β} {Q : β → σ → Prop} :
    Obeys p Q (call c >>= f) s ↔
      p.allows s c ∧ ∀ answer, Obeys p Q (f answer) (p.after s ⟨c, answer⟩) := Iff.rfl

/-- At the end of a run the protocol is in a state that is good for the value. -/
lemma Obeys.of_run {d : Dialogue α} {trace : List Exchange} {value : α} (h : Obeys p Q d s)
    (run : Run d trace value) : Q value (trace.foldl p.after s) := by
  induction run generalizing s with
  | done value => exact h
  | ask run ih => exact ih (h.2 _)

/-! ## Calls of one kind -/

/-- The protocol that allows some calls at any time. -/
def always (allowed : Call → Prop) : Protocol Unit where
  allows _ c := allowed c
  after _ _ := ()

/-- The dialogue makes no other calls than those. -/
def Only (allowed : Call → Prop) (d : Dialogue α) : Prop :=
  Obeys (always allowed) (fun _ _ => True) d ()

variable {allowed : Call → Prop}

/-- A value makes no calls. -/
@[simp]
lemma only_pure (value : α) : Only allowed (pure value : Dialogue α) := trivial

/-- A single call is of the kind, or is not. -/
@[simp]
lemma only_call_iff {c : Call} : Only allowed (call c) ↔ allowed c :=
  ⟨fun h => h.1, fun h => ⟨h, fun _ => trivial⟩⟩

/-- Two dialogues of one kind make one. -/
lemma Only.bind {d : Dialogue α} {f : α → Dialogue β} (h : Only allowed d)
    (hf : ∀ value, Only allowed (f value)) : Only allowed (d >>= f) :=
  obeys_bind_iff.2 (h.mono fun value _ _ => hf value)

/-- A kind may be made wider. -/
lemma Only.mono {wider : Call → Prop} {d : Dialogue α} (h : Only allowed d)
    (hw : ∀ c, allowed c → wider c) : Only wider d := by
  induction d with
  | done value => trivial
  | ask c next ih => exact ⟨hw c h.1, fun answer => ih answer (h.2 answer)⟩

/-- A dialogue with calls of one kind alone keeps to a protocol that allows them and that they leave
in its state. -/
lemma Only.obeys {d : Dialogue α} (h : Only allowed d) (hallows : ∀ c, allowed c → p.allows s c)
    (hafter : ∀ c, allowed c → ∀ answer, p.after s ⟨c, answer⟩ = s) (hQ : ∀ value, Q value s) :
    Obeys p Q d s := by
  induction d with
  | done value => exact hQ value
  | ask c next ih =>
    refine ⟨hallows c h.1, fun answer => ?_⟩
    rw [hafter c h.1 answer]
    exact ih answer (h.2 answer)

/-- All calls of a run are of the kind. -/
lemma Only.of_run {d : Dialogue α} {trace : List Exchange} {value : α} (h : Only allowed d)
    (run : Run d trace value) : ∀ e ∈ trace, allowed e.1 := by
  induction run with
  | done value => simp
  | ask run ih =>
    intro e he
    rcases List.mem_cons.1 he with rfl | he
    · exact h.1
    · exact ih (h.2 _) e he

/-! ## Runs -/

/-- The only run of a value. -/
lemma run_pure_iff {value value' : α} {trace : List Exchange} :
    Run (pure value) trace value' ↔ trace = [] ∧ value' = value := by
  constructor
  · intro run
    cases run
    exact ⟨rfl, rfl⟩
  · rintro ⟨rfl, rfl⟩
    exact .done value'

/-- The runs of a single call. -/
lemma run_call_iff {c : Call} {trace : List Exchange} {answer : c.Answer} :
    Run (call c) trace answer ↔ trace = [⟨c, answer⟩] := by
  constructor
  · intro run
    cases run with
    | ask run => cases run; rfl
  · rintro rfl
    exact .ask (.done answer)

/-- A run of one dialogue after another, taken apart. -/
lemma run_seq_iff {d : Dialogue α} {f : α → Dialogue β} {trace : List Exchange} {value : β} :
    Run (d >>= f) trace value ↔
      ∃ first second between, Run d first between ∧ Run (f between) second value ∧
        trace = first ++ second :=
  run_bind_iff

/-- A run that begins with a call, taken apart. -/
lemma run_call_seq_iff {c : Call} {f : c.Answer → Dialogue β} {trace : List Exchange}
    {value : β} :
    Run (call c >>= f) trace value ↔
      ∃ answer rest, Run (f answer) rest value ∧ trace = ⟨c, answer⟩ :: rest := by
  constructor
  · intro run
    obtain ⟨first, rest, answer, hfirst, hrest, rfl⟩ := run_seq_iff.1 run
    obtain rfl := run_call_iff.1 hfirst
    exact ⟨answer, rest, hrest, rfl⟩
  · rintro ⟨answer, rest, hrest, rfl⟩
    exact run_seq_iff.2 ⟨_, rest, answer, run_call_iff.2 rfl, hrest, rfl⟩

/-- Whatever the host answers, the dialogue comes to its end. -/
lemma exists_run (answer : (c : Call) → c.Answer) (d : Dialogue α) :
    ∃ trace value, Run d trace value ∧ ∀ e ∈ trace, e.2 = answer e.1 := by
  induction d with
  | done value => exact ⟨[], value, .done value, by simp⟩
  | ask c next ih =>
    obtain ⟨trace, value, run, htrace⟩ := ih (answer c)
    refine ⟨⟨c, answer c⟩ :: trace, value, .ask run, ?_⟩
    intro e he
    rcases List.mem_cons.1 he with rfl | he
    · rfl
    · exact htrace e he

end Dialogue

/-! ## Starting processes -/

open Dialogue (Exchange)

/-- The call starts a process. -/
def Call.IsStart : Call → Prop
  | start _ => True
  | _ => False

/-- The call has nothing to do with a child: it neither starts one, nor waits for one, nor hands one
over. -/
def Call.IsAside : Call → Prop
  | start _ | wait _ | poll _ | pollFor _ _ | adopt _ => False
  | _ => True

/-- Calls aside start no process. -/
lemma Call.IsAside.not_isStart {c : Call} (h : c.IsAside) : ¬ c.IsStart := by
  cases c with
  | start s => exact h.elim
  | _ => exact id

/-- The call has to do with files and descriptors alone. -/
def Call.IsFiling : Call → Prop
  | isDirectory _ | readText _ | openFile _ _ | duplicate _ | close _ => True
  | _ => False

/-- Calls on files are aside. -/
lemma Call.IsFiling.isAside {c : Call} (h : c.IsFiling) : c.IsAside := by
  cases c <;> trivial

/-- The call has to do with one process that is there already: it is waited for, ended, or handed
over. -/
def Call.IsMinding : Call → Prop
  | kill _ | wait _ | poll _ | pollFor _ _ | adopt _ => True
  | _ => False

/-- Calls on a process that is there start none. -/
lemma Call.IsMinding.not_isStart {c : Call} (h : c.IsMinding) : ¬ c.IsStart := by
  cases c with
  | start s => exact h.elim
  | _ => exact id

/-- The process that the host is asked to start. -/
def asked? : Exchange → Option Start
  | ⟨.start s, _⟩ => some s
  | _ => none

/-- The number of a process that the host has started. -/
def started? : Exchange → Option Pid
  | ⟨.start _, .ok pid⟩ => some pid
  | _ => none

/-- The processes that the host is asked to start, in this order. -/
def starts (trace : List Exchange) : List Start :=
  trace.filterMap asked?

/-- The numbers of the processes that the host has started, in this order. -/
def started (trace : List Exchange) : List Pid :=
  trace.filterMap started?

/-- Without exchanges no process is asked for. -/
@[simp]
lemma starts_nil : starts [] = [] := rfl

/-- Without exchanges no process is started. -/
@[simp]
lemma started_nil : started [] = [] := rfl

/-- The processes asked for, from the first exchange on. -/
@[simp]
lemma starts_cons (e : Exchange) (t : List Exchange) :
    starts (e :: t) = (asked? e).toList ++ starts t := by
  cases h : asked? e <;> simp [starts, h]

/-- The processes started, from the first exchange on. -/
@[simp]
lemma started_cons (e : Exchange) (t : List Exchange) :
    started (e :: t) = (started? e).toList ++ started t := by
  cases h : started? e <;> simp [started, h]

/-- The processes asked for in one trace after another. -/
@[simp]
lemma starts_append (t t' : List Exchange) : starts (t ++ t') = starts t ++ starts t' :=
  List.filterMap_append

/-- The processes started in one trace after another. -/
@[simp]
lemma started_append (t t' : List Exchange) : started (t ++ t') = started t ++ started t' :=
  List.filterMap_append

/-- Without calls to start one, no process is asked for. -/
lemma starts_eq_nil {trace : List Exchange} (h : ∀ e ∈ trace, ¬ e.1.IsStart) :
    starts trace = [] := by
  refine List.filterMap_eq_nil_iff.2 fun e he => ?_
  have := h e he
  rcases e with ⟨c, a⟩
  cases c <;> first | rfl | exact absurd trivial this

/-- No process is started that was not asked for. -/
lemma started_eq_nil_of_starts {trace : List Exchange} (h : starts trace = []) :
    started trace = [] := by
  refine List.filterMap_eq_nil_iff.2 fun e he => ?_
  have := List.filterMap_eq_nil_iff.1 h e he
  rcases e with ⟨c, a⟩
  cases c <;> first | rfl | cases this

end Launcher.Host
