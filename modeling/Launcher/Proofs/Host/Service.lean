import Launcher.Proofs.Host.Protocol
/-!
# Hosts with a state

What a host can answer depends on what has been before: a descriptor that was closed cannot be
duplicated any more, and a file that was emptied stays empty. A service says which exchanges a host
can have in each of its states, and to which states they lead. Where the host has a choice, as in
refusing a call, a service allows for every answer.

## Main definitions

* `Launcher.Host.Service` — how a host with a state answers.
* `Launcher.Host.Served` — some exchanges, one after the other, with such a host.

## Main results

* `Launcher.Host.served_append_iff` — exchanges in two parts lead through a state between them.
* `Launcher.Host.Served.eq_of_forall` — exchanges that leave every state as it is do nothing.
-/

namespace Launcher.Host

open Dialogue

/-- Which exchanges a host can have in a state, and the states that they lead to. -/
abbrev Service (σ : Type) := σ → Exchange → σ → Prop

variable {σ : Type} {serves : Service σ} {s s' : σ} {e : Exchange} {trace later : List Exchange}

/-- The exchanges, in their order, can lead from one state of the host to another. -/
inductive Served (serves : Service σ) : σ → List Exchange → σ → Prop
  | nil (s : σ) : Served serves s [] s
  | cons {s between s' : σ} {e : Exchange} {rest : List Exchange} (first : serves s e between)
      (after : Served serves between rest s') : Served serves s (e :: rest) s'

/-- Without exchanges the state stays. -/
lemma served_nil_iff : Served serves s [] s' ↔ s' = s := by
  constructor
  · intro h
    cases h
    rfl
  · rintro rfl
    exact .nil s'

/-- The first exchange leads to the state in which the others begin. -/
lemma served_cons_iff :
    Served serves s (e :: trace) s' ↔ ∃ between, serves s e between ∧
      Served serves between trace s' := by
  constructor
  · intro h
    cases h with
    | cons first after => exact ⟨_, first, after⟩
  · rintro ⟨between, first, after⟩
    exact .cons first after

/-- One exchange alone. -/
lemma served_singleton_iff : Served serves s [e] s' ↔ serves s e s' := by
  simp only [served_cons_iff, served_nil_iff, exists_eq_right']

/-- Exchanges in two parts lead through a state between them. -/
lemma served_append_iff :
    Served serves s (trace ++ later) s' ↔
      ∃ between, Served serves s trace between ∧ Served serves between later s' := by
  induction trace generalizing s with
  | nil => simp only [List.nil_append, served_nil_iff, exists_eq_left]
  | cons e trace ih =>
    simp only [List.cons_append, served_cons_iff, ih]
    constructor
    · rintro ⟨first, he, between, htrace, hlater⟩
      exact ⟨between, ⟨first, he, htrace⟩, hlater⟩
    · rintro ⟨between, ⟨first, he, htrace⟩, hlater⟩
      exact ⟨first, he, between, htrace, hlater⟩

/-- Exchanges that leave every state as it is do nothing. -/
lemma Served.eq_of_forall (h : Served serves s trace s')
    (hidle : ∀ e ∈ trace, ∀ s s', serves s e s' → s' = s) : s' = s := by
  induction h with
  | nil s => rfl
  | cons first after ih =>
    rw [ih fun e he => hidle e (List.mem_cons_of_mem _ he)]
    exact hidle _ List.mem_cons_self _ _ first

end Launcher.Host
