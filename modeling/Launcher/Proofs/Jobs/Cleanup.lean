import Launcher.Proofs.Host.Refusal
import Launcher.Proofs.Jobs.Abandon
/-!
# What is done with a child that leads no group

A launch as a job asks the host for the group of its child, and the host can refuse that. The child is then
there and nobody has a handle of it, so the launch kills it and waits for it before it fails. Both calls can
be refused in turn, and the world goes on between them. The fault is that of the first refusal all the
same, and no group is ever sent a signal for such a launch.

## Main definitions

* `Launcher.Jobs.Unchecked` — a call that does not ask for a group.
* `Launcher.Jobs.Spares` — a call that ends no group and hands nobody to the reaper.

## Main results

* `Launcher.Jobs.run_of_refusedCheck` — the calls of a launch that is refused the group of its child.
* `Launcher.Jobs.cleans_up_child` — what such a launch does with its child, and what it reports.
* `Launcher.Jobs.reports_zero_for_unnamed` — a number without a name is reported as zero.
-/

namespace Launcher.Jobs

open Host Host.Dialogue

variable {c : Config} {o : JobOptions} {trace : List Exchange} {pid : Pid} {e : Errno}

/-! ## The calls of the launch -/

/-- The call does not ask for a group. -/
def Unchecked (c : Call) : Prop :=
  ∀ pid, c ≠ .groupOf pid

/-- The call ends no group and hands nobody to the reaper. -/
def Spares (c : Call) : Prop :=
  (∀ g, c ≠ .killGroup g) ∧ ∀ pid, c ≠ .adopt pid

/-- Calls on files end no group and hand nobody over. -/
lemma spares_of_isFiling {c : Call} (h : c.IsFiling) : Spares c := by
  cases c <;> first | exact h.elim | exact ⟨nofun, nofun⟩

/-- Calls on files ask for no group. -/
lemma unchecked_of_isFiling {c : Call} (h : c.IsFiling) : Unchecked c := by
  cases c <;> first | exact h.elim | nofun

/-- Calls on a process that is there ask for no group. -/
lemma unchecked_of_isMinding {c : Call} (h : c.IsMinding) : Unchecked c := by
  cases c <;> first | exact h.elim | nofun

/-- A start neither asks for a group nor touches what is there. -/
lemma plain_start (ownGroup : Bool) :
    Only (fun c => Unchecked c ∧ Spares c) (Launch.start c ownGroup) := by
  have hfiling (c : Call) (h : c.IsFiling) : Unchecked c ∧ Spares c :=
    ⟨unchecked_of_isFiling h, spares_of_isFiling h⟩
  unfold Launch.start
  split
  · exact only_pure _
  refine ((Launch.filing_duplicateStreams _).mono hfiling).bind fun streams => ?_
  rcases streams with e | streams
  · exact only_pure _
  refine Only.bind (only_call_iff.2 ⟨nofun, nofun, nofun⟩) fun answer => ?_
  refine ((Launch.filing_closeAll _).mono hfiling).bind fun _ => ?_
  rcases answer with e | pid <;> exact only_pure _

/-- **The calls of a launch that is refused the group of its child.** It has started the child, and after
the refusal there are a kill and a wait, and nothing else.

**Proof sketch.** Neither a start nor what follows on a confirmed group asks for a group, so the refused
call is the check of the launch. -/
theorem run_of_refusedCheck {result : Except Fault Launched}
    (run : Run (tryLaunchAsJob c o) trace result)
    (hasked : (⟨.groupOf pid, .error e⟩ : Exchange) ∈ trace) :
    ∃ first killed waited, Run (Launch.start c true) first (.ok pid) ∧
      trace = first ++ [⟨.groupOf pid, .error e⟩, ⟨.kill pid, killed⟩, ⟨.wait pid, waited⟩] ∧
      result = .error (.assignFailed pid ("getpgid failed: " ++ e.named) (some e.code)) := by
  have hstart {first : List Exchange} {started : Except Fault Pid}
      (run : Run (Launch.start c true) first started) :
      (⟨.groupOf pid, .error e⟩ : Exchange) ∉ first :=
    fun hmem => ((plain_start true).of_run run _ hmem).1 pid rfl
  have hcomplete {p : Process} {job : Option Job} {mode : Completion} {last : List Exchange}
      {result : Except Fault Launched} (run : Run (Launch.complete p job mode) last result) :
      (⟨.groupOf pid, .error e⟩ : Exchange) ∉ last :=
    fun hmem => (Launch.only_complete_of (fun _ => unchecked_of_isMinding) (fun _ => nofun)
      p job mode).of_run run _ hmem pid rfl
  rw [tryLaunchAsJob] at run
  split at run
  · obtain ⟨rfl, -⟩ := run_pure_iff.1 run
    cases hasked
  obtain ⟨first, last, started, hjob, hlast, rfl⟩ := run_seq_iff.1 run
  rcases Launch.run_startJob hjob with ⟨fault, hfirst, rfl⟩ | ⟨first, pid', hfirst, rfl, rfl⟩ |
    ⟨first, pid', answer, fault, cleanup, hfirst, hassign, habort, rfl, rfl⟩
  · obtain ⟨rfl, rfl⟩ := run_pure_iff.1 hlast
    rw [List.append_nil] at hasked
    exact absurd hasked (hstart hfirst)
  · simp [hstart hfirst, hcomplete hlast] at hasked
  · obtain ⟨rfl, rfl⟩ := run_pure_iff.1 hlast
    obtain ⟨killed, _, hkilled, rfl⟩ := run_call_seq_iff.1 habort
    obtain ⟨waited, _, hwaited, rfl⟩ := run_call_seq_iff.1 hkilled
    obtain ⟨rfl, -⟩ := run_pure_iff.1 hwaited
    have hthis : (⟨.groupOf pid, .error e⟩ : Exchange) = ⟨.groupOf pid', answer⟩ := by
      simpa [hstart hfirst] using hasked
    cases hthis
    cases hassign
    exact ⟨first, killed, waited, hfirst, by simp, rfl⟩

/-! ## The child -/

variable {s s' : Scene} {x : Exchange} {child : Identity}

namespace Scene

/-- Only a start changes who the child is. -/
lemma child_of_answers (h : s.Answers x s') (hx : ¬ x.1.IsStart) : s'.child = s.child := by
  obtain ⟨call, answer⟩ := x
  cases call with
  | start process => exact absurd trivial hx
  | _ => exact h.2.1

end Scene

/-- As long as nothing is started, the child stays who it is. -/
lemma Amid.child_eq (h : Amid s trace s') (htrace : ∀ x ∈ trace, ¬ x.1.IsStart)
    (hchild : s.child = some child) : s'.child = some child := by
  refine h.keeps (P := fun s => s.child = some child) (fun _ _ hs hgo => ?_)
    (fun x hx _ _ hs hcall => ?_) hchild
  · exact hgo.cases.1.trans hs
  · exact (Scene.child_of_answers hcall (htrace x hx)).trans hs

/-- **A child that is waited for is gone**, whatever the host said to the calls before. -/
theorem Amid.collected {status : WaitStatus} (hs : s.Watched child)
    (h : Amid s (trace ++ [⟨.wait child.pid, .ok status⟩]) s') : ¬ s'.people.Present child := by
  obtain ⟨s₁, hbefore, hwait⟩ := amid_append_iff.1 h
  obtain ⟨s₂, s₃, hidle, hcollect, hafter⟩ := amid_cons_iff.1 hwait
  have hborn : child.birth < s₃.people.births := by
    have h₁ := hbefore.births_le
    have h₂ := hidle.births_le
    have h₃ := Scene.births_le_of_answers hcollect
    have h₀ := hs.born
    omega
  exact hafter.not_present hborn (Scene.not_present_of_wait hcollect)

/-! ## The cleanup -/

/-- The fault of a launch that is refused the group of its child, with the number that comes of it. -/
def uncheckedFault (pid : Pid) (e : Errno) : Fault :=
  .assignFailed pid ("getpgid failed: " ++ ((Call.groupOf pid).told e).named)
    (some ((Call.groupOf pid).told e).code)

/-- **The cleanup of a child that leads no group.** When a launch as a job is refused the group of its
child, it has started the child, and it asks the host to kill it and then to wait for it, whatever the
host answers, and asks nothing more. The fault tells the child and the number of the refusal, so there is
neither a job nor a handle that could be given up, and no group is ended, and nobody is handed to the
reaper. Whatever has gone on meanwhile, the child is not there in the end, unless the wait was refused.

**Proof sketch.** The calls are read off the dialogue. From its start on the child is watched
(`Launcher.Jobs.Scene.Watched`), and the wait, if it works, collects it. -/
theorem cleans_up_child {result : Except Fault Launched} {answer : Except Errno Pid}
    (run : Run (tryLaunchAsJob c o) trace result) (hasked : ⟨.groupOf pid, answer⟩ ∈ trace)
    (hrefused : Refused e ⟨.groupOf pid, answer⟩) :
    ∃ first killed waited, Run (Launch.start c true) first (.ok pid) ∧
      trace = first ++ [⟨.groupOf pid, answer⟩, ⟨.kill pid, killed⟩, ⟨.wait pid, waited⟩] ∧
      result = .error (uncheckedFault pid e) ∧
      Outcome.ofResult result = { fault := some (uncheckedFault pid e) } ∧
      (Outcome.ofResult result).release = pure () ∧
      (∀ x ∈ trace, (∀ g, x.1 ≠ .killGroup g) ∧ ∀ q, x.1 ≠ .adopt q) ∧
      ∀ s s' : Scene, s.people.Sound → s.kin = ∅ → Amid s trace s' →
        ∃ child, child.pid = pid ∧ s'.child = some child ∧
          ∀ status, waited = .ok status → ¬ s'.people.Present child := by
  cases hrefused
  obtain ⟨first, killed, waited, hstart, rfl, rfl⟩ := run_of_refusedCheck run hasked
  refine ⟨first, killed, waited, hstart, rfl, rfl, rfl, rfl, ?_, fun s s' hs hkin h => ?_⟩
  · have hspares : ∀ x ∈ first, Spares x.1 := fun x hx => ((plain_start true).of_run hstart x hx).2
    intro x hx
    rcases List.mem_append.1 hx with hx | hx
    · exact hspares x hx
    · simp only [List.mem_cons, List.not_mem_nil, or_false] at hx
      rcases hx with rfl | rfl | rfl <;> exact ⟨nofun, nofun⟩
  · obtain ⟨s₁, hfirst, hlast⟩ := amid_append_iff.1 h
    obtain ⟨child, rfl, hwatched⟩ := watched_of_run_start hs hkin hstart hfirst
    refine ⟨child, rfl, ?_, ?_⟩
    · refine hlast.child_eq (fun x hx => ?_) hwatched.known
      simp only [List.mem_cons, List.not_mem_nil, or_false] at hx
      rcases hx with rfl | rfl | rfl <;> exact not_false
    · rintro status rfl
      have hlast : Amid s₁ ([⟨.groupOf child.pid, _⟩, ⟨.kill child.pid, killed⟩] ++
        [⟨.wait child.pid, .ok status⟩]) s' := hlast
      exact hlast.collected hwatched

/-- Whatever the host answers, it can refuse the group of process 42, and then this is the run. -/
lemma exists_run_refusedCheck (killed : Except Errno Unit) (waited : Except Errno WaitStatus)
    (e : Errno) :
    ∃ c process, process.ownGroup = true ∧
      Run (tryLaunchAsJob c { killOnClose := true })
        [⟨.start process, .ok 42⟩, ⟨.groupOf 42, .error e⟩, ⟨.kill 42, killed⟩, ⟨.wait 42, waited⟩]
        (.error (.assignFailed 42 ("getpgid failed: " ++ e.named) (some e.code))) := by
  let config : Config := ⟨{ Draft.ofCommand "true" with completion := .track }, by decide⟩
  let process : Start :=
    { program := "true", arguments := [], directory := none, ownGroup := true, streams := {} }
  have hsplit : CommandLine.split config.commandLine = ["true"] := by
    have hjoin : CommandLine.join ["true"] = .ok config.commandLine := rfl
    rw [CommandLine.split_of_join hjoin]
    simp
  refine ⟨config, process, rfl, ?_⟩
  rw [tryLaunchAsJob, if_neg (by decide), Launch.startJob, Launch.start, hsplit]
  exact .ask (.ask (.ask (.ask (.done _))))

/-- The kill is refused as well, and the child ends by itself. -/
theorem cleans_up_child_of_refusedKill :
    ∃ c trace result s s', Run (tryLaunchAsJob c { killOnClose := true }) trace result ∧
      ⟨.groupOf 42, .error .noProcess⟩ ∈ trace ∧ ⟨.kill 42, .error ⟨1⟩⟩ ∈ trace ∧
      result = .error (uncheckedFault 42 .noProcess) ∧ Amid s trace s' ∧
      ∃ child, child.pid = 42 ∧ s'.child = some child ∧ ¬ s'.people.Present child := by
  obtain ⟨c, process, hgroup, run⟩ :=
    exists_run_refusedCheck (.error ⟨1⟩) (.ok (.ofCode 0)) .noProcess
  have hsymbolic : Errno.noProcess.symbolic = .noProcess := by decide
  have hrefused : Refused .noProcess ⟨.groupOf 42, .error .noProcess⟩ := by
    have h := Refused.groupOf (e := .noProcess) 42
    rwa [hsymbolic] at h
  obtain ⟨first, killed, waited, -, htrace, hresult, -, -, -, hworld⟩ :=
    cleans_up_child run (by simp) hrefused
  have hparts : [(⟨.start process, .ok 42⟩ : Exchange)] ++ [⟨.groupOf 42, .error .noProcess⟩,
      ⟨.kill 42, .error ⟨1⟩⟩, ⟨.wait 42, .ok (.ofCode 0)⟩] = first ++ _ := htrace
  obtain ⟨rfl, hlast⟩ := List.append_inj' hparts rfl
  cases hlast
  -- the host starts the child, refuses both calls, and the child ends before it is waited for
  let ended : Population := Scene.begun.people.put 42 { birth := 1, group := ⟨42, 1⟩, life := .ended }
  have hstart : Scene.Answers { people := .solitary 10 } ⟨.start process, .ok 42⟩ .begun :=
    ⟨⟨⟨42, 1⟩, false, Population.fresh_solitary (by decide) (by decide), .inr ⟨hgroup, rfl⟩, rfl⟩,
      rfl, rfl⟩
  have hend : Happens Scene.begun.people ended :=
    .finish (m := { birth := 1, group := ⟨42, 1⟩ }) rfl
  have hwait : Scene.Answers { Scene.begun with people := ended } ⟨.wait 42, .ok (.ofCode 0)⟩
      { Scene.begun with people := ended.remove 42 } :=
    ⟨⟨by decide, ⟨{ birth := 1, group := ⟨42, 1⟩, life := .ended }, by simp [ended], rfl⟩, rfl⟩,
      rfl, rfl⟩
  have hcheck : Scene.begun.Answers ⟨.groupOf 42, .error .noProcess⟩ .begun := ⟨rfl, rfl, rfl⟩
  have hkill : Scene.begun.Answers ⟨.kill 42, .error ⟨1⟩⟩ .begun := ⟨rfl, rfl, rfl⟩
  have h : Amid { people := .solitary 10 } _ _ :=
    .call hstart (.call hcheck (.call hkill (.go (.happen hend rfl) (.call hwait (.nil _)))))
  obtain ⟨child, hpid, hknown, hgone⟩ := hworld _ _ (Population.sound_solitary 10) rfl h
  exact ⟨c, _, _, _, _, run, by simp, by simp, hresult, h, child, hpid, hknown, hgone _ rfl⟩

/-- **A number without a name is reported as zero.** The host refuses the group of the child for a reason
that the libraries have no name for. -/
theorem reports_zero_for_unnamed :
    ∃ c trace fault, ∃ e : Errno, Run (tryLaunchAsJob c { killOnClose := true }) trace (.error fault) ∧
      (∃ x ∈ trace, x.1 = .groupOf 42 ∧ Refused e x) ∧ e.code = 41 ∧ fault.code? = some 0 := by
  obtain ⟨c, process, -, run⟩ :=
    exists_run_refusedCheck (.ok ()) (.ok (.ofSignal 9 false)) (Errno.symbolic ⟨41⟩)
  have hcode : (Errno.symbolic ⟨41⟩).code = 0 := by decide
  exact ⟨c, _, _, ⟨41⟩, run, ⟨_, by simp, rfl, .groupOf 42⟩, rfl, congrArg some hcode⟩

end Launcher.Jobs
