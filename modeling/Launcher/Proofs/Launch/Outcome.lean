import Launcher.Proofs.CommandLine.RoundTrip
import Launcher.Proofs.Launch.Runs
/-!
# How launches end

A launch ends in one of four ways: it has produced what its mode asks for, it could not wait for
its process, its process did not come to lead a group, or nothing was started. The record that the
caller gets is made from this, and each of its fields is read off the way in which the launch has
ended.

## Main definitions

* `Launcher.Ending` — the ways in which a launch can end.
* `Launcher.launchWith` — a launch, alone or as a job.

## Main results

* `Launcher.ending_of_run_tryLaunch`, `Launcher.ending_of_run_tryLaunchAsJob` — every launch ends in
  one of these ways.
* `Launcher.outcome_shape` — which fields of an outcome are there.
-/

namespace Launcher

open Host Host.Dialogue

/-! ## The ways in which a launch can end -/

/-- How a launch can end, as a relation between its mode, whether it is one as a job, the processes
that the host has started for it, and its result. -/
inductive Ending (mode : Completion) (asJob : Bool) : List Pid → Except Fault Launched → Prop
  /-- The launch has produced what its mode asks for. -/
  | launched (pid : Pid) (job : Option Job) (status : Option ExitStatus)
      (hjob : job.isSome = asJob) (hstatus : status.isSome ↔ mode = .wait) :
      Ending mode asJob [pid] (.ok
        { pid, process := if mode = .track then some { pid } else none, job, status })
  /-- The process is there, and waiting for it was refused. -/
  | waitFailed (pid : Pid) (e : Errno) (hmode : mode = .wait) :
      Ending mode asJob [pid] (.error (Process.waitFault { pid } e))
  /-- The process did not come to lead its own group, and has been ended. -/
  | assignFailed (pid : Pid) (reason : String) (code : Option Int) (hjob : asJob = true) :
      Ending mode asJob [pid] (.error (.assignFailed pid reason code))
  /-- What is asked for is impossible, and nothing was started. -/
  | refused (reason : String) : Ending mode asJob [] (.error (.configuration reason))
  /-- The host did not start the process. -/
  | spawnFailed (command reason : String) (code : Option Int) :
      Ending mode asJob [] (.error (.spawnFailed command reason code))

variable {c : Config} {trace : List Exchange}

namespace Launch

/-- A process that has been started is completed in a way that its mode allows. -/
lemma ending_of_run_complete {pid : Pid} {job : Option Job} {mode : Completion}
    {result : Except Fault Launched} (run : Run (complete { pid } job mode) trace result) :
    Ending mode job.isSome [pid] result := by
  rcases run_complete run with ⟨word, rfl, -, rfl⟩ | ⟨e, first, last, rfl, -, -, -, rfl⟩ |
    ⟨rfl, -, rfl⟩ | ⟨rfl, -, rfl⟩
  · exact .launched pid job (some (.ofWait word)) rfl (by simp)
  · exact .waitFailed pid e rfl
  · exact .launched pid job none rfl (by simp)
  · exact .launched pid job none rfl (by simp)

/-- A failed start is an ending, whatever the launch. -/
lemma ending_of_run_start {ownGroup : Bool} {fault : Fault} (mode : Completion) (asJob : Bool)
    (run : Run (start c ownGroup) trace (.error fault)) :
    Ending mode asJob (started trace) (.error fault) := by
  rcases started_start run with ⟨_, hfault, hnone, ⟨reason, rfl⟩ | ⟨command, reason, code, rfl⟩⟩ |
    ⟨pid, hok, -⟩
  · cases hfault
    rw [hnone]
    exact .refused reason
  · cases hfault
    rw [hnone]
    exact .spawnFailed command reason code
  · cases hok

/-- A start that worked has started the one process that it tells of. -/
lemma started_of_run_start {ownGroup : Bool} {pid : Pid}
    (run : Run (start c ownGroup) trace (.ok pid)) : started trace = [pid] := by
  rcases started_start run with ⟨_, hfault, -⟩ | ⟨_, hok, hstarted⟩
  · cases hfault
  · cases hok
    exact hstarted

end Launch

/-- **The endings of a launch alone.** -/
theorem ending_of_run_tryLaunch {result : Except Fault Launched}
    (run : Run (tryLaunch c) trace result) :
    Ending c.completion false (started trace) result := by
  obtain ⟨first, rest, pid, hstart, hrest, rfl⟩ := run_seq_iff.1 run
  rcases pid with fault | pid
  · obtain ⟨rfl, rfl⟩ := run_pure_iff.1 hrest
    rw [List.append_nil]
    exact Launch.ending_of_run_start _ _ hstart
  · have hstarts := starts_eq_nil_of_only (Launch.only_complete _ _ _) hrest
    have hnone := started_eq_nil_of_starts hstarts
    rw [started_append, Launch.started_of_run_start hstart, hnone]
    exact Launch.ending_of_run_complete hrest

/-- **The endings of a launch as a job.** Waiting for a job is refused without a call. -/
theorem ending_of_run_tryLaunchAsJob {o : JobOptions} {result : Except Fault Launched}
    (run : Run (tryLaunchAsJob c o) trace result) :
    Ending c.completion true (started trace) result := by
  unfold tryLaunchAsJob at run
  split at run
  · obtain ⟨rfl, rfl⟩ := run_pure_iff.1 run
    exact .refused _
  obtain ⟨first, rest, started, hstart, hrest, rfl⟩ := run_seq_iff.1 run
  rcases started with fault | ⟨pid, job⟩
  · obtain ⟨rfl, rfl⟩ := run_pure_iff.1 hrest
    rw [List.append_nil]
    rcases Launch.run_startJob hstart with ⟨_, hfault, hresult⟩ | ⟨_, _, -, -, hresult⟩ |
      ⟨before, pid, answer, _, last, hpid, hassign, habort, rfl, hresult⟩
    · cases hresult
      exact Launch.ending_of_run_start _ _ hfault
    · cases hresult
    · cases hresult
      have hlast := started_eq_nil_of_starts (starts_eq_nil_of_only (Launch.only_abort _) habort)
      obtain ⟨reason, code, rfl⟩ := Launch.exists_of_assignFault?_eq_some hassign
      rw [started_append, Launch.started_of_run_start hpid, started_cons, hlast]
      exact .assignFailed pid reason code rfl
  · have hstarts := starts_eq_nil_of_only (Launch.only_complete _ _ _) hrest
    have hnone := started_eq_nil_of_starts hstarts
    rcases Launch.run_startJob hstart with ⟨_, -, hresult⟩ | ⟨before, _, hpid, rfl, hresult⟩ |
      ⟨_, _, _, _, _, -, -, -, -, hresult⟩
    · cases hresult
    · cases hresult
      rw [started_append, started_append, Launch.started_of_run_start hpid, hnone]
      exact Launch.ending_of_run_complete hrest
    · cases hresult

/-! ## Outcomes -/

/-- A launch of a configuration, alone or as a job. -/
def launchWith (c : Config) : Option JobOptions → Dialogue Outcome
  | none => launch c
  | some o => launchAsJob c o

/-- Every outcome is made from an ending. -/
lemma ending_of_run_launchWith {job : Option JobOptions} {o : Outcome}
    (run : Run (launchWith c job) trace o) :
    ∃ result, o = .ofResult result ∧ Ending c.completion job.isSome (started trace) result := by
  cases job with
  | none =>
    obtain ⟨first, _, result, hlaunch, hend, rfl⟩ := run_seq_iff.1 run
    obtain ⟨rfl, rfl⟩ := run_pure_iff.1 hend
    rw [List.append_nil]
    exact ⟨result, rfl, ending_of_run_tryLaunch hlaunch⟩
  | some options =>
    obtain ⟨first, _, result, hlaunch, hend, rfl⟩ := run_seq_iff.1 run
    obtain ⟨rfl, rfl⟩ := run_pure_iff.1 hend
    rw [List.append_nil]
    exact ⟨result, rfl, ending_of_run_tryLaunchAsJob hlaunch⟩

/-- Waiting for a job is refused before the host is asked anything. -/
lemma run_launchWith_waitingJob {options : JobOptions} {o : Outcome}
    (hmode : c.completion = .wait) (run : Run (launchWith c (some options)) trace o) :
    trace = [] ∧
      o.fault = some (.configuration "Job-tracked launches cannot wait for completion") := by
  have hlaunch : launchWith c (some options) = pure (.ofResult (.error Launch.waitingJob)) := by
    rw [launchWith, launchAsJob, tryLaunchAsJob, if_pos (by rw [hmode]; rfl)]
    rfl
  rw [hlaunch] at run
  obtain ⟨rfl, rfl⟩ := run_pure_iff.1 run
  exact ⟨rfl, rfl⟩

/-- **The shape of every outcome.** Without a fault the outcome has the number of the process that
was started, its handle exactly in the mode `track`, its end exactly in the mode `wait`, and a job
exactly when it is one of a launch as a job. With a fault it has none of these, except that the
number of a process that could not be waited for is kept. The host never gives the number 0 to a
process.

**Proof sketch.** Every outcome is made from an ending, and the five kinds of endings are gone
through. Only the last part, on a job that is to be waited for, is about the calls and not about
the ending. -/
theorem outcome_shape {job : Option JobOptions} {o : Outcome} (run : Run (launchWith c job) trace o)
    (hpid : ∀ pid ∈ started trace, pid ≠ 0) :
    (o.fault = none →
      o.pid ≠ 0 ∧ started trace = [o.pid] ∧
      (o.process.isSome ↔ c.completion = .track) ∧ (∀ p ∈ o.process, p.pid = o.pid) ∧
      (o.status.isSome ↔ c.completion = .wait) ∧ (o.job.isSome ↔ job.isSome)) ∧
    (∀ fault, o.fault = some fault →
      o.process = none ∧ o.job = none ∧ o.status = none ∧
      (o.pid ≠ 0 ↔ ∃ pid reason code, fault = .waitFailed pid reason code) ∧
      (∀ pid reason code, fault = .waitFailed pid reason code →
        o.pid = pid ∧ started trace = [pid] ∧ c.completion = .wait) ∧
      (∀ pid reason code, fault = .assignFailed pid reason code → job.isSome)) ∧
    (job.isSome → c.completion = .wait →
      trace = [] ∧ ∃ reason, o.fault = some (.configuration reason)) := by
  refine and_assoc.1 ⟨?_, fun hjob hmode => ?_⟩
  · obtain ⟨result, rfl, hending⟩ := ending_of_run_launchWith run
    generalize started trace = pids at hending hpid
    cases hending with
    | launched pid handle status hjob hstatus =>
      refine ⟨fun _ => ⟨hpid pid (by simp), rfl, ?_, ?_, hstatus, by simp [Outcome.ofResult, hjob]⟩,
        fun fault hfault => by cases hfault⟩
      · by_cases htrack : c.completion = .track <;> simp [Outcome.ofResult, htrack]
      · intro p hp
        by_cases htrack : c.completion = .track <;> simp [Outcome.ofResult, htrack] at hp ⊢
        rw [← hp]
    | waitFailed pid e hmode =>
      refine ⟨fun hnone => (by cases hnone), fun fault hfault => ?_⟩
      cases hfault
      refine ⟨rfl, rfl, rfl, ⟨fun _ => ⟨_, _, _, rfl⟩, fun _ => hpid pid (by simp)⟩, ?_, ?_⟩
      · intro pid' reason code h
        cases h
        exact ⟨rfl, rfl, hmode⟩
      · intro pid' reason code h
        cases h
    | assignFailed pid reason code hjob =>
      refine ⟨fun hnone => (by cases hnone), fun fault hfault => ?_⟩
      cases hfault
      exact ⟨rfl, rfl, rfl, by simp [Outcome.ofResult, Outcome.failed], by simp,
        fun _ _ _ _ => hjob⟩
    | refused reason =>
      refine ⟨fun hnone => (by cases hnone), fun fault hfault => ?_⟩
      cases hfault
      exact ⟨rfl, rfl, rfl, by simp [Outcome.ofResult, Outcome.failed], by simp, by simp⟩
    | spawnFailed command reason code =>
      refine ⟨fun hnone => (by cases hnone), fun fault hfault => ?_⟩
      cases hfault
      exact ⟨rfl, rfl, rfl, by simp [Outcome.ofResult, Outcome.failed], by simp, by simp⟩
  · obtain ⟨options, rfl⟩ := Option.isSome_iff_exists.1 hjob
    obtain ⟨hnone, hfault⟩ := run_launchWith_waitingJob hmode run
    exact ⟨hnone, _, hfault⟩

/-- A process that is started with the number 7 and cannot be waited for. Its number is kept. -/
theorem outcome_shape_of_refusedWait :
    ∃ c : Config, ∃ trace o, Run (launchWith c none) trace o ∧ (∀ pid ∈ started trace, pid ≠ 0) ∧
      started trace = [7] ∧ c.completion = .wait ∧ o.pid = 7 ∧
      o.fault = some (.waitFailed 7 "No child processes (os error 10)" (some 10)) := by
  let c : Config := ⟨{ Draft.ofCommand "true" with completion := .wait }, by decide⟩
  let process : Start :=
    { program := "true", arguments := [], directory := none, ownGroup := false, streams := {} }
  let e : Errno := ⟨10⟩
  have hsplit : CommandLine.split c.commandLine = ["true"] := by
    have hjoin : CommandLine.join ["true"] = .ok c.commandLine := rfl
    rw [CommandLine.split_of_join hjoin]
    simp
  have run : Run (launchWith c none)
      [⟨.start process, .ok 7⟩, ⟨.wait 7, .error e⟩, ⟨.poll 7, .error e⟩]
      { pid := 7, fault := some (.waitFailed 7 e.message (some e.code)) } := by
    rw [launchWith, launch, tryLaunch, Launch.start, hsplit]
    exact .ask (.ask (.ask (.done _)))
  have hpid : ∀ pid ∈ started [⟨.start process, .ok 7⟩, ⟨.wait 7, .error e⟩, ⟨.poll 7, .error e⟩],
      pid ≠ 0 := by
    simp [started?]
  obtain ⟨-, hfailed, -⟩ := outcome_shape run hpid
  obtain ⟨-, -, -, -, hwait, -⟩ := hfailed _ rfl
  obtain ⟨hkept, hstarted, hmode⟩ := hwait _ _ _ rfl
  exact ⟨c, _, _, run, hpid, hstarted, hmode, hkept, by decide⟩

end Launcher
