import Mathlib.Logic.Relation
import Launcher.Proofs.Host.Protocol
import Launcher.Reaper
/-!
# The loop of the reaper

The reaper goes round and round. It waits for a first child to arrive, or for the pause to be over;
then it takes in whatever has arrived, one child after the other; and when nothing is left to take in it
polls the children that it has, the old ones and the new ones. Children are handed over at any moment,
also while it takes in others, and while it polls. The host may give any answer to a poll. The loop has no
end, since children can be handed over as long as the launcher runs.

Numbers of children come again, so a child is known by its place among all that were handed over.

## Main definitions

* `Launcher.Reaping.World` — the reaper, what it is doing, and what has happened so far.
* `Launcher.Reaping.Step`, `Launcher.Reaping.Reachable` — the steps of the loop, and where they lead.
* `Launcher.Reaping.Leads` — some calls lead from a dialogue to what is left of it.

## Main results

* `Launcher.Reaping.run_round_iff` — the calls of a round, and the children that stay.
* `Launcher.Reaping.reaches_of_run` — a round that is made at once is one of the rounds of the loop.
-/

namespace Launcher.Reaping

open Host Host.Dialogue Relation

/-! ## Rounds -/

/-- The answer to a poll. -/
abbrev Answer := Except Errno (Option WaitStatus)

/-- The answer to a call, if that is a poll. -/
def answer? : Exchange → Option Answer
  | ⟨.poll _, answer⟩ => some answer
  | _ => none

/-- The call is a poll that has found its child running. -/
def stayed (e : Exchange) : Bool :=
  (answer? e).any Reaper.stays

/-- What is left of a list when some calls have been answered, each about the next element: those that
stayed, and those about which there was no call yet. -/
def remain {α : Type} : List Exchange → List α → List α
  | e :: calls, a :: as => if stayed e then a :: remain calls as else remain calls as
  | _, as => as

/-- A round of which the polls have begun. -/
structure Round where
  /-- The children that were pending before it. -/
  before : List Pid
  /-- The children that it polls. -/
  taken : List Pid
  /-- All children that had been handed over when the polls began. -/
  sent : List Pid
  /-- The calls that have been answered. -/
  calls : List Exchange := []

/-! ## The world -/

/-- What the reaper is doing. -/
inductive Stage where
  /-- It waits for a child, or until its pause is over. -/
  | waiting
  /-- It takes in what has arrived. The children that were pending before are known. -/
  | gathering (before : List Pid)
  /-- It polls, and this is left of the dialogue. -/
  | polling (round : Round) (rest : Dialogue Reaper)

/-- The reaper, what it is doing, and what has happened so far. -/
structure World where
  /-- Its channel and its list. While it polls, it has the list that it is polling. -/
  reaper : Reaper := {}
  stage : Stage := .waiting
  /-- All children that were ever handed over, in order. -/
  sent : List Pid := []
  /-- The rounds that are over, the latest first. -/
  past : List Round := []

/-- One step of the loop, or a child that is handed over. -/
inductive Step : World → World → Prop
  /-- A child is handed over, whatever the reaper is doing. -/
  | send {w : World} (pid : Pid) :
    Step w { w with reaper := w.reaper.adopt pid, sent := w.sent ++ [pid] }
  /-- A child has arrived, which ends the wait. -/
  | receive {w : World} {pid : Pid} {rest : List Pid} (hstage : w.stage = .waiting)
      (hinbox : w.reaper.inbox = pid :: rest) :
    Step w { w with
      reaper := { inbox := rest, pending := w.reaper.pending ++ [pid] }
      stage := .gathering w.reaper.pending }
  /-- The wait has a limit, and that is reached. -/
  | elapse {w : World} {limit : Nat} (hstage : w.stage = .waiting)
      (hpause : w.reaper.pause? = some limit) :
    Step w { w with stage := .gathering w.reaper.pending }
  /-- Another child is taken in. -/
  | take {w : World} {before : List Pid} {pid : Pid} {rest : List Pid}
      (hstage : w.stage = .gathering before) (hinbox : w.reaper.inbox = pid :: rest) :
    Step w { w with reaper := { inbox := rest, pending := w.reaper.pending ++ [pid] } }
  /-- There is no other, and the polls begin. -/
  | beginPolls {w : World} {before : List Pid} (hstage : w.stage = .gathering before)
      (hinbox : w.reaper.inbox = []) :
    Step w { w with
      stage := .polling { before, taken := w.reaper.pending, sent := w.sent } w.reaper.round }
  /-- The host answers the next call. -/
  | answer {w : World} {r : Round} {c : Call} {next : c.Answer → Dialogue Reaper} (answer : c.Answer)
      (hstage : w.stage = .polling r (.ask c next)) :
    Step w { w with stage := .polling { r with calls := r.calls ++ [⟨c, answer⟩] } (next answer) }
  /-- The round is over. What has arrived in between stays in the channel. -/
  | endRound {w : World} {r : Round} {result : Reaper} (hstage : w.stage = .polling r (.done result)) :
    Step w { w with
      reaper := { inbox := result.inbox ++ w.reaper.inbox, pending := result.pending }
      stage := .waiting
      past := r :: w.past }

/-- The worlds that the loop can come to. -/
def Reachable (w : World) : Prop :=
  ReflTransGen Step {} w

/-! ## Dialogues under way -/

section

variable {α : Type} {d rest : Dialogue α} {trace more : List Exchange} {value : α}

/-- Some calls lead from a dialogue to what is left of it. -/
inductive Leads : Dialogue α → List Exchange → Dialogue α → Prop
  | refl (d : Dialogue α) : Leads d [] d
  | step {d : Dialogue α} {trace : List Exchange} {c : Call} {next : c.Answer → Dialogue α}
      (h : Leads d trace (.ask c next)) (answer : c.Answer) :
    Leads d (trace ++ [⟨c, answer⟩]) (next answer)

/-- A run of what is left of a dialogue completes a run of the whole. -/
lemma Leads.run (h : Leads d trace rest) (hrun : Run rest more value) :
    Run d (trace ++ more) value := by
  induction h generalizing more with
  | refl => exact hrun
  | step h answer ih =>
    rw [List.append_assoc]
    exact ih (.ask hrun)

end

/-! ## The calls of a round -/

variable {pids kept : List Pid} {trace : List Exchange} {r result : Reaper}

/-- **The calls of the polls**: one for each child, in order, whatever the answers. Those stay that were
found running. -/
theorem run_pollAll_iff : Run (Reaper.pollAll pids) trace kept ↔
    trace.map Sigma.fst = pids.map Call.poll ∧ kept = remain trace pids := by
  induction pids generalizing trace kept with
  | nil =>
    refine run_pure_iff.trans ⟨?_, fun ⟨hcalls, hkept⟩ => ?_⟩
    · rintro ⟨rfl, rfl⟩
      exact ⟨rfl, rfl⟩
    · obtain rfl := List.map_eq_nil_iff.1 hcalls
      exact ⟨rfl, hkept⟩
  | cons pid pids ih =>
    refine run_call_seq_iff.trans ⟨?_, fun ⟨hcalls, hkept⟩ => ?_⟩
    · rintro ⟨answer, others, hrest, rfl⟩
      obtain ⟨first, second, left, hfirst, hsecond, rfl⟩ := run_seq_iff.1 hrest
      obtain ⟨rfl, rfl⟩ := run_pure_iff.1 hsecond
      obtain ⟨hcalls, rfl⟩ := ih.1 hfirst
      rw [List.append_nil]
      exact ⟨by rw [List.map_cons, List.map_cons, hcalls], rfl⟩
    · obtain ⟨⟨c, answer⟩, others, rfl, hcall, hothers⟩ := List.map_eq_cons_iff.1 hcalls
      obtain rfl : c = .poll pid := hcall
      refine ⟨answer, others, run_seq_iff.2 ⟨others, [], _, ih.2 ⟨hothers, rfl⟩, ?_, ?_⟩, rfl⟩
      · exact run_pure_iff.2 ⟨rfl, hkept⟩
      · exact (List.append_nil _).symm

/-- **The calls of a round**, and what it leaves. -/
theorem run_round_iff : Run r.round trace result ↔
    trace.map Sigma.fst = (r.pending ++ r.inbox).map Call.poll ∧
      result = { inbox := [], pending := remain trace (r.pending ++ r.inbox) } := by
  refine run_seq_iff.trans ⟨?_, fun ⟨hcalls, hresult⟩ => ?_⟩
  · rintro ⟨first, second, kept, hfirst, hsecond, rfl⟩
    obtain ⟨rfl, rfl⟩ := run_pure_iff.1 hsecond
    obtain ⟨hcalls, rfl⟩ := run_pollAll_iff.1 hfirst
    rw [List.append_nil]
    exact ⟨hcalls, rfl⟩
  · refine ⟨trace, [], _, run_pollAll_iff.2 ⟨hcalls, rfl⟩, run_pure_iff.2 ⟨rfl, hresult⟩, ?_⟩
    exact (List.append_nil _).symm

/-! ## Rounds at once -/

variable {w : World} {before : List Pid} {rest : Dialogue Reaper}

/-- The reaper can take in all that has arrived. -/
lemma reaches_gathered (hstage : w.stage = .gathering before) :
    ReflTransGen Step w
      { w with reaper := { inbox := [], pending := w.reaper.pending ++ w.reaper.inbox } } := by
  obtain ⟨⟨inbox, pending⟩, stage, sent, past⟩ := w
  induction inbox generalizing pending with
  | nil =>
    simp only [List.append_nil]
    exact .refl
  | cons pid inbox ih =>
    have hall := ih (pending ++ [pid]) hstage
    rw [List.append_assoc] at hall
    exact .head (.take hstage rfl) hall

/-- The reaper can come to the end of its polls. -/
lemma reaches_polled (round : Round) (hstage : w.stage = .polling round rest)
    (run : Run rest trace result) :
    ReflTransGen Step w { w with
      reaper := { inbox := result.inbox ++ w.reaper.inbox, pending := result.pending }
      stage := .waiting
      past := { round with calls := round.calls ++ trace } :: w.past } := by
  induction run generalizing w round with
  | done value =>
    rw [List.append_nil]
    exact .single (.endRound hstage)
  | @ask c next answer trace value run ih =>
    have hrest := ih (w := { w with
      stage := .polling { round with calls := round.calls ++ [⟨c, answer⟩] } (next answer) }) _ rfl
    simp only [List.append_assoc, List.singleton_append] at hrest
    exact .head (.answer answer hstage) hrest

/-- **A round at once.** A reaper that waits, and has something to poll or to take in, can make the round
that is made when nothing else happens meanwhile. -/
theorem reaches_of_run (hstage : w.stage = .waiting)
    (hready : w.reaper.inbox ≠ [] ∨ w.reaper.pending ≠ []) (run : Run w.reaper.round trace result) :
    ReflTransGen Step w { w with
      reaper := result
      past := ⟨w.reaper.pending, w.reaper.pending ++ w.reaper.inbox, w.sent, trace⟩ :: w.past } := by
  have hstarts : ReflTransGen Step w { w with
      reaper := { inbox := [], pending := w.reaper.pending ++ w.reaper.inbox }
      stage := .gathering w.reaper.pending } := by
    cases hinbox : w.reaper.inbox with
    | nil =>
      have hpause : w.reaper.pause? = some Reaper.interval := by
        rw [Reaper.pause?, if_neg]
        simpa [hinbox] using hready
      have hgathered := reaches_gathered
        (w := { w with stage := .gathering w.reaper.pending }) rfl
      simp only [hinbox] at hgathered
      exact .head (.elapse hstage hpause) hgathered
    | cons pid inbox =>
      have hgathered := reaches_gathered (w := { w with
        reaper := { inbox, pending := w.reaper.pending ++ [pid] }
        stage := .gathering w.reaper.pending }) rfl
      simp only [List.append_assoc, List.singleton_append] at hgathered
      exact .head (.receive hstage hinbox) hgathered
  have hround : Reaper.round { inbox := [], pending := w.reaper.pending ++ w.reaper.inbox } =
      w.reaper.round := by
    simp only [Reaper.round, List.append_nil]
  obtain ⟨-, rfl⟩ := run_round_iff.1 run
  rw [← hround] at run
  have hpolled := reaches_polled (w := { w with
    reaper := { inbox := [], pending := w.reaper.pending ++ w.reaper.inbox }
    stage := .polling ⟨w.reaper.pending, w.reaper.pending ++ w.reaper.inbox, w.sent, []⟩ _ }) _ rfl run
  simp only [List.append_nil, List.nil_append, ← hstage] at hpolled
  exact hstarts.trans (.head (.beginPolls rfl rfl) hpolled)

end Launcher.Reaping
