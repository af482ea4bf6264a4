import Launcher.Launch.Basic
import Launcher.Proofs.Host.Protocol
/-!
# The runs of a launch

What each part of a launch can ask the host, and what comes of it. Every statement takes a run of
one function apart into runs of the functions that it calls, so that facts about whole launches
follow without another look at the definitions.

## Main definitions

* `Launcher.AnswersBy` — the host knows which paths are directories.

## Main results

* `Launcher.Launch.run_build` — the check of a draft asks at most about its directory.
* `Launcher.Launch.result_of_run_build` — what the check says, with a host that knows the directories.
* `Launcher.Launch.run_start` — the three ways of starting a process.
* `Launcher.Launch.run_startJob` — the three ways of starting a process as a job.
* `Launcher.Launch.run_complete` — what is done with a started process in each mode.
-/

namespace Launcher

open Host Host.Dialogue

/-- No process is started by the call. -/
def NoStart (c : Call) : Prop := ¬ c.IsStart

variable {c : Config} {trace : List Exchange}

/-! ## Parts that have nothing to do with children -/

namespace Launch

/-- Closing files has to do with files alone. -/
lemma filing_closeAll (rs : List Redirect) : Only Call.IsFiling (closeAll rs) := by
  induction rs with
  | nil => exact only_pure ()
  | cons r rs ih =>
    cases r with
    | inherit => exact ih
    | discard => exact ih
    | file descriptor => exact Only.bind (only_call_iff.2 trivial) fun _ => ih

/-- Duplicating a redirect has to do with files alone. -/
lemma filing_duplicate (r : Redirect) : Only Call.IsFiling (duplicate r) := by
  cases r with
  | inherit => exact only_pure _
  | discard => exact only_pure _
  | file descriptor =>
    refine Only.bind (only_call_iff.2 trivial) fun answer => ?_
    cases answer <;> exact only_pure _

/-- Duplicating the streams has to do with files alone. -/
lemma filing_duplicateStreams (s : Streams) : Only Call.IsFiling (duplicateStreams s) := by
  refine (filing_duplicate s.stdin).bind fun stdin => ?_
  rcases stdin with e | stdin
  · exact only_pure _
  refine (filing_duplicate s.stdout).bind fun stdout => ?_
  rcases stdout with e | stdout
  · exact (filing_closeAll _).bind fun _ => only_pure _
  refine (filing_duplicate s.stderr).bind fun stderr => ?_
  rcases stderr with e | stderr
  · exact (filing_closeAll _).bind fun _ => only_pure _
  · exact only_pure _

/-- The check of a draft has to do with files alone. -/
lemma filing_build (d : Draft) : Only Call.IsFiling (build d) := by
  unfold build
  split
  · exact Only.bind (only_call_iff.2 trivial) fun _ => only_pure _
  · exact only_pure _

/-- Closing files has nothing to do with children. -/
lemma only_closeAll (rs : List Redirect) : Only Call.IsAside (closeAll rs) :=
  (filing_closeAll rs).mono fun _ => Call.IsFiling.isAside

/-- Duplicating the streams has nothing to do with children. -/
lemma only_duplicateStreams (s : Streams) : Only Call.IsAside (duplicateStreams s) :=
  (filing_duplicateStreams s).mono fun _ => Call.IsFiling.isAside

/-- The check of a draft has nothing to do with children. -/
lemma only_build (d : Draft) : Only Call.IsAside (build d) :=
  (filing_build d).mono fun _ => Call.IsFiling.isAside

end Launch

/-- Ending a job neither waits for a child nor starts one. -/
lemma Job.only_terminate (j : Job) : Only Call.IsAside j.terminate := by
  refine Only.bind (only_call_iff.2 trivial) fun answer => ?_
  rcases answer with e | _
  · simp only
    split <;> exact only_pure _
  · exact only_pure _

/-- **The release of a job**, which may be missing, is the end of its group or nothing. -/
theorem only_releaseJob_of {allowed : Call → Prop} (hend : ∀ group, allowed (.killGroup group))
    (job : Option Job) : Only allowed (releaseJob job) := by
  rcases job with _ | ⟨group, _ | _⟩
  · exact only_pure ()
  · exact only_pure ()
  · exact Only.bind (only_call_iff.2 (hend group)) fun _ => only_pure ()

/-- The release of a job neither waits for a child nor starts one. -/
lemma only_releaseJob (job : Option Job) : Only Call.IsAside (releaseJob job) :=
  only_releaseJob_of (fun _ => trivial) job

/-- Killing a process neither waits for a child nor starts one. -/
lemma Process.only_kill (p : Process) : Only Call.IsAside p.kill := by
  unfold Process.kill
  split
  · exact only_pure _
  · refine Only.bind (only_call_iff.2 trivial) fun answer => ?_
    cases answer <;> exact only_pure _

/-! ## Parts that start nothing -/

/-- Calls aside start nothing. -/
lemma noStart_of_isAside {c : Call} (h : c.IsAside) : NoStart c := h.not_isStart

/-- Calls on a process that is there start nothing. -/
lemma noStart_of_isMinding {c : Call} (h : c.IsMinding) : NoStart c := h.not_isStart

/-- Giving up a new process has to do with it alone. -/
lemma Launch.minding_abort (pid : Pid) : Only Call.IsMinding (abort pid) :=
  Only.bind (only_call_iff.2 trivial) fun _ =>
    Only.bind (only_call_iff.2 trivial) fun _ => only_pure ()

/-- The release of a handle has to do with its process alone. -/
lemma Process.minding_release (p : Process) : Only Call.IsMinding p.release := by
  unfold Process.release
  split
  · exact only_pure ()
  · refine Only.bind (only_call_iff.2 trivial) fun answer => ?_
    rcases answer with e | _ | status
    · exact only_pure ()
    · exact only_call_iff.2 trivial
    · exact only_pure ()

/-- Waiting has to do with the process alone. -/
lemma Process.minding_wait (p : Process) : Only Call.IsMinding p.wait := by
  rw [Process.wait_eq]
  split
  · exact only_pure _
  · refine Only.bind (only_call_iff.2 trivial) fun answer => ?_
    cases answer <;> exact only_pure _

/-- Giving up a new process starts nothing. -/
lemma Launch.only_abort (pid : Pid) : Only NoStart (abort pid) :=
  (minding_abort pid).mono fun _ => noStart_of_isMinding

/-- The release of a handle starts nothing. -/
lemma Process.only_release (p : Process) : Only NoStart p.release :=
  p.minding_release.mono fun _ => noStart_of_isMinding

/-- **Completion** has to do with the process, and with its job only by ending it. -/
theorem Launch.only_complete_of {allowed : Call → Prop}
    (hminding : ∀ c : Call, c.IsMinding → allowed c) (hend : ∀ group, allowed (.killGroup group))
    (p : Process) (job : Option Job) (mode : Completion) : Only allowed (complete p job mode) := by
  have hrelease (p : Process) : Only allowed p.release := p.minding_release.mono hminding
  cases mode with
  | wait =>
    refine (p.minding_wait.mono hminding).bind fun waited => ?_
    rcases waited with ⟨fault | status, p⟩
    · refine (only_releaseJob_of hend job).bind fun _ => ?_
      exact (hrelease p).bind fun _ => only_pure _
    · exact (hrelease p).bind fun _ => only_pure _
  | track => exact only_pure _
  | detach => exact (hrelease p).bind fun _ => only_pure _

/-- Completion starts nothing. -/
lemma Launch.only_complete (p : Process) (job : Option Job) (mode : Completion) :
    Only NoStart (complete p job mode) :=
  only_complete_of (fun _ => noStart_of_isMinding) (fun _ => id) p job mode

/-- In a run of a part that starts nothing, the host is not asked to start anything. -/
lemma starts_eq_nil_of_only {α : Type} {d : Dialogue α} {value : α} (h : Only NoStart d)
    (run : Run d trace value) : starts trace = [] :=
  starts_eq_nil (h.of_run run)

/-- Nor is it in a run of a part aside. -/
lemma starts_eq_nil_of_only_aside {α : Type} {d : Dialogue α} {value : α}
    (h : Only Call.IsAside d) (run : Run d trace value) : starts trace = [] :=
  starts_eq_nil_of_only (h.mono fun _ => noStart_of_isAside) run

/-! ## The check of a draft -/

/-- The host has said that these paths are directories, wherever it was asked. -/
def AnswersBy (isDirectory : String → Bool) (trace : List Exchange) : Prop :=
  ∀ e ∈ trace, ∀ path isThere, e = ⟨.isDirectory path, isThere⟩ → isThere = isDirectory path

/-- A host that knows the directories knows them in a part of a trace. -/
lemma AnswersBy.mono {isDirectory : String → Bool} {part : List Exchange} (h : AnswersBy isDirectory trace)
    (hsub : part ⊆ trace) : AnswersBy isDirectory part :=
  fun e he => h e (hsub he)

namespace Launch

variable {d : Draft}

/-- **The check of a draft.** When a rule on the draft alone is broken nothing is asked; else the
host is asked about the directory, if one is given. -/
theorem run_build {result : Except ConfigFault Config} (run : Run (build d) trace result) :
    (∃ fault, d.staticFault? = some fault ∧ trace = [] ∧ result = .error fault) ∨
    (∃ h : d.staticFault? = none, d.workingDirectory = none ∧ trace = [] ∧ result = .ok ⟨d, h⟩) ∨
    (∃ directory isThere, ∃ h : d.staticFault? = none, d.workingDirectory = some directory ∧
      trace = [⟨.isDirectory directory, isThere⟩] ∧
      result = if isThere then .ok ⟨d, h⟩ else .error (.noWorkingDirectory directory)) := by
  rcases Option.eq_none_or_eq_some d.staticFault? with hstatic | ⟨fault, hstatic⟩
  · rcases Option.eq_none_or_eq_some d.workingDirectory with hdir | ⟨directory, hdir⟩
    · have hfault : d.fault? (fun _ => false) = none := by simp [Draft.fault?, hstatic, hdir]
      have hbuild : build d = pure (.ok ⟨d, hstatic⟩) := by
        rw [build, hstatic, hdir]
        exact congrArg pure (Draft.build_eq_ok_iff.2 ⟨hfault, rfl⟩)
      rw [hbuild] at run
      obtain ⟨rfl, rfl⟩ := run_pure_iff.1 run
      exact .inr (.inl ⟨hstatic, hdir, rfl, rfl⟩)
    · rw [build, hstatic, hdir] at run
      obtain ⟨isThere, rest, hend, rfl⟩ := run_call_seq_iff.1 run
      obtain ⟨rfl, rfl⟩ := run_pure_iff.1 hend
      refine .inr (.inr ⟨directory, isThere, hstatic, hdir, rfl, ?_⟩)
      cases isThere with
      | true => exact Draft.build_eq_ok_iff.2 ⟨by simp [Draft.fault?, hstatic, hdir], rfl⟩
      | false => exact Draft.build_eq_error_iff.2 (by simp [Draft.fault?, hstatic, hdir])
  · have hfault : d.fault? (fun _ => false) = some fault := by simp [Draft.fault?, hstatic]
    have hbuild : build d = pure (.error fault) := by
      rw [build, hstatic]
      exact congrArg pure (Draft.build_eq_error_iff.2 hfault)
    rw [hbuild] at run
    obtain ⟨rfl, rfl⟩ := run_pure_iff.1 run
    exact .inl ⟨fault, hstatic, rfl, rfl⟩

/-- The check of a draft, with a host that says what is a directory. -/
lemma result_of_run_build {isDirectory : String → Bool} {result : Except ConfigFault Config}
    (run : Run (build d) trace result) (h : AnswersBy isDirectory trace) :
    result = d.build isDirectory := by
  rcases run_build run with ⟨fault, hstatic, rfl, rfl⟩ | ⟨hstatic, hdir, rfl, rfl⟩ |
    ⟨directory, isThere, hstatic, hdir, rfl, rfl⟩
  · exact (Draft.build_eq_error_iff.2 (by rw [Draft.fault?, hstatic])).symm
  · exact (Draft.build_eq_ok_iff.2 ⟨by rw [Draft.fault?, hstatic, hdir], rfl⟩).symm
  · obtain rfl : isThere = isDirectory directory := h _ (List.mem_singleton_self _) _ _ rfl
    cases hthere : isDirectory directory with
    | true =>
      exact (Draft.build_eq_ok_iff.2 ⟨by simp [Draft.fault?, hstatic, hdir, hthere], rfl⟩).symm
    | false =>
      exact (Draft.build_eq_error_iff.2 (by simp [Draft.fault?, hstatic, hdir, hthere])).symm

/-- What the check accepts is the draft itself. -/
lemma draft_of_run_build (run : Run (build d) trace (.ok c)) : c.draft = d := by
  rcases run_build run with ⟨_, -, -, heq⟩ | ⟨_, -, -, heq⟩ | ⟨_, isThere, _, -, -, heq⟩
  · cases heq
  · cases heq
    rfl
  · cases isThere <;> cases heq
    rfl

/-! ## Starting a process -/

/-- **Starting a process.** There is no program; or a stream cannot be duplicated; or the host is
asked, once, to start the program of the command line with its arguments, in the directory of the
configuration and with duplicates of its streams. -/
theorem run_start {ownGroup : Bool} {result : Except Fault Pid}
    (run : Run (start c ownGroup) trace result) :
    (CommandLine.split c.commandLine = [] ∧ trace = [] ∧
      result = .error (.configuration "Command line has no program")) ∨
    (∃ e, Run (duplicateStreams c.draft.streams) trace (.error e) ∧
      result = .error (.spawnFailed c.commandLine
        ("Failed to duplicate stdio file: " ++ e.message) (some e.code))) ∨
    (∃ streams first process answer last,
      Run (duplicateStreams c.draft.streams) first (.ok streams) ∧
      (process.program :: process.arguments = CommandLine.split c.commandLine ∧
        process.directory = c.draft.workingDirectory ∧ process.ownGroup = ownGroup ∧
        process.streams = streams) ∧
      Run (closeAll streams.toList) last () ∧ trace = first ++ ⟨.start process, answer⟩ :: last ∧
      result = answer.mapError fun e => .spawnFailed c.commandLine e.message (some e.code)) := by
  unfold start at run
  cases hsplit : CommandLine.split c.commandLine with
  | nil =>
    rw [hsplit] at run
    obtain ⟨rfl, rfl⟩ := run_pure_iff.1 run
    exact .inl ⟨rfl, rfl, rfl⟩
  | cons program arguments =>
    rw [hsplit] at run
    obtain ⟨first, rest, streams, hfirst, hrest, rfl⟩ := run_seq_iff.1 run
    rcases streams with e | streams
    · obtain ⟨rfl, rfl⟩ := run_pure_iff.1 hrest
      rw [List.append_nil]
      exact .inr (.inl ⟨e, hfirst, rfl⟩)
    · obtain ⟨answer, _, hclose, rfl⟩ := run_call_seq_iff.1 hrest
      obtain ⟨last, nothing, _, hlast, hend, rfl⟩ := run_seq_iff.1 hclose
      have hresult : nothing = [] ∧ result = answer.mapError (startFault c) := by
        rcases answer with e | pid <;> exact run_pure_iff.1 hend
      obtain ⟨rfl, rfl⟩ := hresult
      rw [List.append_nil]
      exact .inr (.inr ⟨streams, first, _, answer, last, hfirst, ⟨rfl, rfl, rfl, rfl⟩, hlast, rfl, rfl⟩)

/-- What starting a process asks the host to start, and what it has started in the end. A fault is
one of the configuration or of starting. -/
lemma started_start {ownGroup : Bool} {result : Except Fault Pid}
    (run : Run (start c ownGroup) trace result) :
    (∃ fault, result = .error fault ∧ started trace = [] ∧
      ((∃ reason, fault = .configuration reason) ∨
        ∃ command reason code, fault = .spawnFailed command reason code)) ∨
    ∃ pid, result = .ok pid ∧ started trace = [pid] := by
  rcases run_start run with ⟨-, rfl, rfl⟩ | ⟨e, hdup, rfl⟩ |
    ⟨streams, first, process, answer, last, hdup, -, hclose, rfl, rfl⟩
  · exact .inl ⟨_, rfl, rfl, .inl ⟨_, rfl⟩⟩
  · have hnone := starts_eq_nil_of_only_aside (only_duplicateStreams _) hdup
    exact .inl ⟨_, rfl, started_eq_nil_of_starts hnone, .inr ⟨_, _, _, rfl⟩⟩
  · have hdup := starts_eq_nil_of_only_aside (only_duplicateStreams _) hdup
    have hclose := starts_eq_nil_of_only_aside (only_closeAll _) hclose
    have hfirst := started_eq_nil_of_starts hdup
    have hlast := started_eq_nil_of_starts hclose
    rcases answer with e | pid
    · exact .inl ⟨_, rfl, by simp [hfirst, hlast, started?], .inr ⟨_, _, _, rfl⟩⟩
    · exact .inr ⟨pid, rfl, by simp [hfirst, hlast, started?]⟩

/-- The fault of a process that does not lead its own group tells its number. -/
lemma exists_of_assignFault?_eq_some {pid : Pid} {answer : Except Errno Pid} {fault : Fault}
    (h : assignFault? pid answer = some fault) :
    ∃ reason code, fault = .assignFailed pid reason code := by
  rcases answer with e | group
  · cases h
    exact ⟨_, _, rfl⟩
  · by_cases hgroup : group = pid
    · simp [assignFault?, hgroup] at h
    · simp only [assignFault?, if_neg hgroup, Option.some.injEq] at h
      exact ⟨_, _, h.symm⟩

/-- There is no such fault only if the host gives the number of the process as that of its group. -/
lemma eq_ok_of_assignFault?_eq_none {pid : Pid} {answer : Except Errno Pid}
    (h : assignFault? pid answer = none) : answer = .ok pid := by
  rcases answer with e | group
  · simp [assignFault?] at h
  · by_cases hgroup : group = pid
    · rw [hgroup]
    · simp [assignFault?, hgroup] at h

/-- **Starting a process as a job.** It is not started; or it is, and the host says that it leads
its own group; or the host says anything else, and the process is ended and collected. -/
theorem run_startJob {killOnClose : Bool} {result : Except Fault (Pid × Job)}
    (run : Run (startJob c killOnClose) trace result) :
    (∃ fault, Run (start c true) trace (.error fault) ∧ result = .error fault) ∨
    (∃ first pid, Run (start c true) first (.ok pid) ∧ trace = first ++ [⟨.groupOf pid, .ok pid⟩] ∧
      result = .ok (pid, { group := pid, killOnClose })) ∨
    (∃ first pid answer fault last, Run (start c true) first (.ok pid) ∧
      assignFault? pid answer = some fault ∧ Run (abort pid) last () ∧
      trace = first ++ ⟨.groupOf pid, answer⟩ :: last ∧ result = .error fault) := by
  obtain ⟨first, rest, startResult, hstart, hrest, rfl⟩ := run_seq_iff.1 run
  rcases startResult with fault | pid
  · obtain ⟨rfl, rfl⟩ := run_pure_iff.1 hrest
    rw [List.append_nil]
    exact .inl ⟨fault, hstart, rfl⟩
  · obtain ⟨answer, _, hcheck, rfl⟩ := run_call_seq_iff.1 hrest
    cases hassign : assignFault? pid answer with
    | none =>
      rw [hassign] at hcheck
      obtain ⟨rfl, rfl⟩ := run_pure_iff.1 hcheck
      obtain rfl := eq_ok_of_assignFault?_eq_none hassign
      exact .inr (.inl ⟨first, pid, hstart, rfl, rfl⟩)
    | some fault =>
      rw [hassign] at hcheck
      obtain ⟨last, _, _, habort, hend, rfl⟩ := run_seq_iff.1 hcheck
      obtain ⟨rfl, rfl⟩ := run_pure_iff.1 hend
      rw [List.append_nil]
      exact .inr (.inr ⟨first, pid, answer, fault, last, hstart, hassign, habort, rfl, rfl⟩)

/-- A start as a job is a start, behind which nothing else is started. -/
lemma exists_start_of_run_startJob {killOnClose : Bool} {result : Except Fault (Pid × Job)}
    (run : Run (startJob c killOnClose) trace result) :
    ∃ first last started, Run (start c true) first started ∧ starts last = [] ∧
      trace = first ++ last ∧ ∀ fault, started = .error fault → result = .error fault := by
  rcases run_startJob run with ⟨fault, hstart, rfl⟩ | ⟨first, pid, hstart, rfl, rfl⟩ |
    ⟨first, pid, answer, fault, last, hstart, -, habort, rfl, rfl⟩
  · refine ⟨trace, [], _, hstart, rfl, by simp, fun fault' h => ?_⟩
    cases h
    rfl
  · exact ⟨first, _, _, hstart, rfl, rfl, fun fault h => by cases h⟩
  · have hlast := starts_eq_nil_of_only (only_abort pid) habort
    exact ⟨first, _, _, hstart, by simp [asked?, hlast], rfl, fun fault' h => by cases h⟩

/-! ## What is done with a started process -/

/-- **Completion.** The process is waited for, and released if that is refused; or it is handed to
the caller and the host is not asked anything; or it is released. -/
theorem run_complete {pid : Pid} {job : Option Job} {mode : Completion}
    {result : Except Fault Launched} (run : Run (complete { pid } job mode) trace result) :
    (∃ word, mode = .wait ∧ trace = [⟨.wait pid, .ok word⟩] ∧
      result = .ok { pid, process := none, job, status := some (.ofWait word) }) ∨
    (∃ e first last, mode = .wait ∧ Run (releaseJob job) first () ∧
      Run (Process.release { pid }) last () ∧ trace = ⟨.wait pid, .error e⟩ :: (first ++ last) ∧
      result = .error (Process.waitFault { pid } e)) ∨
    (mode = .track ∧ trace = [] ∧
      result = .ok { pid, process := some { pid }, job, status := none }) ∨
    (mode = .detach ∧ Run (Process.release { pid }) trace () ∧
      result = .ok { pid, process := none, job, status := none }) := by
  cases mode with
  | wait =>
    obtain ⟨first, rest, waited, hwait, hrest, rfl⟩ := run_seq_iff.1 run
    rw [Process.wait_eq] at hwait
    obtain ⟨answer, _, hanswer, rfl⟩ := run_call_seq_iff.1 hwait
    rcases answer with e | word
    · obtain ⟨rfl, rfl⟩ := run_pure_iff.1 hanswer
      obtain ⟨first, _, _, hjob, hrelease, rfl⟩ := run_seq_iff.1 hrest
      obtain ⟨last, _, _, hlast, hend, rfl⟩ := run_seq_iff.1 hrelease
      obtain ⟨rfl, rfl⟩ := run_pure_iff.1 hend
      rw [List.append_nil]
      exact .inr (.inl ⟨e, first, last, rfl, hjob, hlast, rfl, rfl⟩)
    · obtain ⟨rfl, rfl⟩ := run_pure_iff.1 hanswer
      obtain ⟨rfl, rfl⟩ := run_pure_iff.1 hrest
      exact .inl ⟨word, rfl, rfl, rfl⟩
  | track =>
    obtain ⟨rfl, rfl⟩ := run_pure_iff.1 run
    exact .inr (.inr (.inl ⟨rfl, rfl, rfl⟩))
  | detach =>
    obtain ⟨first, _, _, hrelease, hend, rfl⟩ := run_seq_iff.1 run
    obtain ⟨rfl, rfl⟩ := run_pure_iff.1 hend
    rw [List.append_nil]
    exact .inr (.inr (.inr ⟨rfl, hrelease, rfl⟩))

end Launch

/-! ## Whole launches -/

/-- A launch is a start, in a group of its own if the flags ask for one, behind which nothing else is
started. -/
lemma exists_start_of_run_tryLaunch {result : Except Fault Launched}
    (run : Run (tryLaunch c) trace result) :
    ∃ first last started,
      Run (Launch.start c (c.draft.creation.newProcessGroup || c.draft.creation.detachedConsole)) first
        started ∧
      starts last = [] ∧ trace = first ++ last ∧
      ∀ fault, started = .error fault → result = .error fault := by
  obtain ⟨first, last, started, hstart, hlast, rfl⟩ := run_seq_iff.1 run
  refine ⟨first, last, started, hstart, ?_, rfl, ?_⟩
  · rcases started with fault | pid
    · obtain ⟨rfl, -⟩ := run_pure_iff.1 hlast
      rfl
    · exact starts_eq_nil_of_only (Launch.only_complete _ _ _) hlast
  · rintro fault rfl
    exact (run_pure_iff.1 hlast).2

/-- A launch as a job is a start, behind which nothing else is started, unless it is refused for
its mode. -/
lemma exists_start_of_run_tryLaunchAsJob {o : JobOptions} {result : Except Fault Launched}
    (hmode : c.completion ≠ .wait) (run : Run (tryLaunchAsJob c o) trace result) :
    ∃ first last started, Run (Launch.start c true) first started ∧ starts last = [] ∧
      trace = first ++ last ∧ ∀ fault, started = .error fault → result = .error fault := by
  have hwaits : ¬ c.completion.waits = true := by
    cases h : c.completion with
    | wait => exact absurd h hmode
    | track => simp [Completion.waits]
    | detach => simp [Completion.waits]
  rw [tryLaunchAsJob, if_neg hwaits] at run
  obtain ⟨before, after, job, hjob, hafter, rfl⟩ := run_seq_iff.1 run
  obtain ⟨first, last, started, hstart, hlast, rfl, hfault⟩ :=
    Launch.exists_start_of_run_startJob hjob
  rcases job with fault | ⟨pid, job⟩
  · obtain ⟨rfl, rfl⟩ := run_pure_iff.1 hafter
    refine ⟨first, last, started, hstart, hlast, by simp, fun fault h => ?_⟩
    cases hfault fault h
    rfl
  · have hafter := starts_eq_nil_of_only (Launch.only_complete _ _ _) hafter
    refine ⟨first, last ++ after, started, hstart, by simp [hlast, hafter], by simp, ?_⟩
    intro fault h
    cases hfault fault h

end Launcher
