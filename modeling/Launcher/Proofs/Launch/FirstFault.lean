import Launcher.Cli.Tool
import Launcher.Proofs.Host.Refusal
import Launcher.Proofs.Launch.Outcome
import Launcher.Proofs.Launch.Streams
/-!
# The fault that is reported

Several calls of one operation can be refused: a launch that cannot ask for the group of its child kills
the child and waits for it, and both can be refused too. What the caller gets is the fault of the first
call that was refused, with the number of that refusal. Later refusals change nothing, and neither do
those of the calls with which a handle is given up.

## Main definitions

* `Launcher.Operation`, `Launcher.Operation.reported` — what a caller can ask for, and the fault that
  comes back.
* `Launcher.Operation.fails` — the exchanges in which a call of an operation fails.
* `Launcher.Fault.TellsOf` — a fault tells which call has failed, and with which number.
* `Launcher.Accounts`, `Launcher.Settles` — a fault accounts for the first failure, and is about the
  process of a handle.

## Main results

* `Launcher.obeys_launchPrepared`, `Launcher.Operation.obeys_of_handle` — so it is with launches and with
  handles.

* `Launcher.Operation.obeys_reported` — in the end the first failure is reported.
* `Launcher.Operation.subject_of_run` — a fault is about the process of the operation.
* `Launcher.reports_first_failure` — the same about whole runs, with the number that the host has given.
* `Launcher.unnamed_number_is_lost` — a number without a name does not come through.
-/

namespace Launcher

open Host Host.Dialogue

/-! ## Operations -/

/-- What a caller can ask for. -/
inductive Operation where
  /-- A launch, alone or as a job. -/
  | launch (c : Config) (job : Option JobOptions)
  /-- The same, with an outcome as one record. -/
  | launchWith (c : Config) (job : Option JobOptions)
  | wait (p : Process)
  | waitFor (p : Process) (limit : Nat)
  | kill (p : Process)
  | terminate (j : Job)

/-- The fault of a result. -/
def faultOf? {α : Type} : Except Fault α → Option Fault
  | .ok _ => none
  | .error fault => some fault

namespace Operation

/-- The operation, of which only the fault is kept that it ends with. -/
def reported : Operation → Dialogue (Option Fault)
  | launch c job => do pure (faultOf? (← Cli.launchPrepared c job))
  | launchWith c job => do pure (← Launcher.launchWith c job).fault
  | wait p => do pure (faultOf? (← p.wait).1)
  | waitFor p limit => do pure (faultOf? (← p.waitFor limit).1)
  | kill p => do pure (faultOf? (← p.kill))
  | terminate j => do pure (faultOf? (← j.terminate))

/-- The command line of a launch. -/
def commandLine : Operation → String
  | launch c _ | launchWith c _ => c.commandLine
  | _ => ""

/-- The open files that the streams of a launch lead to. -/
def files : Operation → List Descriptor
  | launch c _ | launchWith c _ => Launch.files c.draft.streams.toList
  | _ => []

end Operation

/-! ## Failures -/

/-- A call has failed: it was refused, or it tells that a process is not in its own group. It is no
failure if there is nothing left to be ended in a group. -/
def failed : Exchange → Bool
  | ⟨.groupOf pid, .ok g⟩ => g != pid
  | ⟨.killGroup _, .error e⟩ => e != .noProcess
  | x => (refusal? x).isSome

/-- A call of a launch has failed. With a look at a child or a kill of its group a launch only gives up
what it has. -/
def failedInLaunch : Exchange → Bool
  | ⟨.poll _, _⟩ | ⟨.killGroup _, _⟩ => false
  | x => failed x

/-- A call of the operation has failed. -/
def Operation.fails : Operation → Exchange → Bool
  | launch _ _ | launchWith _ _ => failedInLaunch
  | _ => failed

/-- The fault tells which call has failed, and gives this number for it. -/
inductive Fault.TellsOf (line : String) (code : Option Int) : Call → Fault → Prop
  | duplicate (d : Descriptor) (reason : String) :
    TellsOf line code (.duplicate d) (.spawnFailed line reason code)
  | start (process : Start) (reason : String) :
    TellsOf line code (.start process) (.spawnFailed line reason code)
  | groupOf (pid : Pid) (reason : String) :
    TellsOf line code (.groupOf pid) (.assignFailed pid reason code)
  | wait (pid : Pid) (reason : String) : TellsOf line code (.wait pid) (.waitFailed pid reason code)
  | poll (pid : Pid) (reason : String) : TellsOf line code (.poll pid) (.waitFailed pid reason code)
  | pollFor (pid : Pid) (limit : Nat) (reason : String) :
    TellsOf line code (.pollFor pid limit) (.waitFailed pid reason code)
  | kill (pid : Pid) (reason : String) :
    TellsOf line code (.kill pid) (.terminateFailed (.process pid) reason code)
  | killGroup (g : Pid) (reason : String) :
    TellsOf line code (.killGroup g) (.terminateFailed (.group g) reason code)

/-- The code of a fault is the number that it gives for the call. -/
lemma Fault.TellsOf.code?_eq {line : String} {code : Option Int} {call : Call} {fault : Fault}
    (h : fault.TellsOf line code call) : fault.code? = code := by
  cases h <;> rfl

/-- The process or the group that a fault is about. -/
def Fault.subject? : Fault → Option Pid
  | .assignFailed pid _ _ | .waitFailed pid _ _ | .terminateFailed (.process pid) _ _
  | .terminateFailed (.group pid) _ _ => some pid
  | _ => none

/-- The process or the group whose handle is used. -/
def Operation.handle? : Operation → Option Pid
  | launch _ _ | launchWith _ _ => none
  | wait p | waitFor p _ | kill p => some p.pid
  | terminate j => some j.group

/-- The processes that an operation is about: that of a handle, or those that a launch has started. -/
def Operation.subjects (op : Operation) (trace : List Exchange) : List Pid :=
  match op.handle? with
  | some pid => [pid]
  | none => started trace

/-- The number that an answer gives for a failure. -/
def number? (x : Exchange) : Option Int :=
  (refusal? x).map Errno.code

/-- **The fault accounts for the first failure**, or there was none and nothing is wrong but, perhaps, what
was asked for. -/
def Accounts (line : String) (fault? : Option Fault) : Option Exchange → Prop
  | none => ∀ fault ∈ fault?, ∃ reason, fault = .configuration reason
  | some x => ∃ fault, fault? = some fault ∧ fault.TellsOf line (number? x) x.1

/-- Nothing is wrong exactly if nothing has failed. -/
lemma accounts_none_iff {line : String} {first : Option Exchange} :
    Accounts line none first ↔ first = none := by
  cases first <;> simp [Accounts]

/-! ## Launches -/

namespace Launch

variable {c : Config} {line : String}

/-- Closing files never fails. -/
lemma obeys_closeAll {Q : Unit → Progress → Prop} {s : Progress} (rs : List Redirect) (hQ : Q () s) :
    Obeys (inTurn failedInLaunch) Q (closeAll rs) s := by
  induction rs with
  | nil => exact hQ
  | cons r rs ih =>
    cases r with
    | inherit => exact ih
    | discard => exact ih
    | file d =>
      refine obeys_call_seq_iff.2 ⟨trivial, fun _ => ?_⟩
      rw [after_of_unkind (Call.isLate_close d) rfl]
      exact ih

/-- How duplicating ends: with nothing failed, or with the first failure. -/
def Duplicated {α : Type} (left : List Descriptor) (result : Except Errno α) (s : Progress) : Prop :=
  match result with
  | .ok _ => s = ⟨none, left⟩
  | .error e => ∃ d, s.first = some ⟨.duplicate d, .error e⟩

/-- Duplicating a redirect fails with the first failure. -/
lemma obeys_duplicate (r : Redirect) (left : List Descriptor) :
    Obeys (inTurn failedInLaunch) (Duplicated left) (duplicate r) ⟨none, files [r] ++ left⟩ := by
  cases r with
  | inherit => exact rfl
  | discard => exact rfl
  | file d =>
    refine obeys_call_seq_iff.2 ⟨⟨rfl, left, rfl⟩, fun answer => ?_⟩
    rcases answer with e | copy
    · exact ⟨d, rfl⟩
    · exact rfl

/-- Duplicating the streams goes in their order, and ends with the first failure. -/
lemma obeys_duplicateStreams (streams : Streams) :
    Obeys (inTurn failedInLaunch) (Duplicated []) (duplicateStreams streams)
      ⟨none, files streams.toList⟩ := by
  obtain ⟨stdin, stdout, stderr⟩ := streams
  have hfiles : files [stdin, stdout, stderr] = files [stdin] ++ (files [stdout] ++
      (files [stderr] ++ [])) := by
    rw [List.append_nil, ← files_append, ← files_append]
    rfl
  show Obeys _ _ _ (Progress.mk none (files [stdin, stdout, stderr]))
  rw [hfiles]
  refine obeys_bind_iff.2 ((obeys_duplicate stdin _).mono fun result s hs => ?_)
  rcases result with e | stdin'
  · exact hs
  obtain rfl : s = _ := hs
  refine obeys_bind_iff.2 ((obeys_duplicate stdout _).mono fun result s hs => ?_)
  rcases result with e | stdout'
  · exact obeys_bind_iff.2 (obeys_closeAll _ hs)
  obtain rfl : s = _ := hs
  refine obeys_bind_iff.2 ((obeys_duplicate stderr _).mono fun result s hs => ?_)
  rcases result with e | stderr'
  · exact obeys_bind_iff.2 (obeys_closeAll _ hs)
  · exact hs

/-- How a start or a launch ends: its fault accounts for the first failure. -/
def Reports {α : Type} (line : String) (result : Except Fault α) (s : Progress) : Prop :=
  Accounts line (faultOf? result) s.first

/-- A success is reported exactly if nothing has failed. -/
lemma reports_ok_iff {α : Type} {value : α} {s : Progress} :
    Reports line (.ok value) s ↔ s.first = none :=
  accounts_none_iff

/-- What is impossible is refused when nothing has failed. -/
lemma reports_configuration {α : Type} (reason : String) (left : List Descriptor) :
    Reports line (.error (.configuration reason) : Except Fault α) ⟨none, left⟩ :=
  fun _ hfault => ⟨reason, (Option.some.inj hfault).symm⟩

/-- **A start** reports the first failure. -/
theorem obeys_start (ownGroup : Bool) :
    Obeys (inTurn failedInLaunch) (Reports c.commandLine) (start c ownGroup)
      ⟨none, files c.draft.streams.toList⟩ := by
  unfold start
  split
  · exact reports_configuration _ _
  refine obeys_bind_iff.2 ((obeys_duplicateStreams _).mono fun result s hs => ?_)
  rcases result with e | streams
  · obtain ⟨d, hd⟩ := hs
    show Accounts _ _ s.first
    rw [hd]
    exact ⟨_, rfl, .duplicate d _⟩
  obtain rfl : s = _ := hs
  refine obeys_call_seq_iff.2 ⟨⟨rfl, rfl⟩, fun answer => ?_⟩
  refine obeys_bind_iff.2 (obeys_closeAll _ ?_)
  rcases answer with e | pid
  · exact ⟨_, rfl, .start _ _⟩
  · exact reports_ok_iff.2 rfl

/-- **A start as a job** reports the first failure, also when the child is then killed and waited for. -/
theorem obeys_startJob (killOnClose : Bool) :
    Obeys (inTurn failedInLaunch) (Reports c.commandLine) (startJob c killOnClose)
      ⟨none, files c.draft.streams.toList⟩ := by
  refine obeys_bind_iff.2 ((obeys_start true).mono fun result s hs => ?_)
  rcases result with fault | pid
  · exact hs
  obtain ⟨first, left⟩ := s
  obtain rfl : first = none := reports_ok_iff.1 hs
  refine obeys_call_seq_iff.2 ⟨trivial, fun answer => ?_⟩
  have hlate := (minding_abort pid).mono fun _ => Call.IsMinding.isLate
  rcases answer with e | g
  · exact obeys_bind_iff.2 (obeys_of_some hlate fun _ => ⟨_, rfl, .groupOf pid _⟩)
  by_cases hg : g = pid
  · have hassign : assignFault? pid (.ok g) = none := if_pos hg
    have hkind : failedInLaunch ⟨.groupOf pid, .ok g⟩ = false := by simp [failedInLaunch, failed, hg]
    simp only [hassign]
    rw [after_of_unkind (Call.isLate_groupOf pid) hkind]
    exact reports_ok_iff.2 rfl
  · have hassign : assignFault? pid (.ok g) =
        some (.assignFailed pid ("process is in group " ++ toString g) none) := if_neg hg
    have hkind : failedInLaunch ⟨.groupOf pid, .ok g⟩ = true := by simp [failedInLaunch, failed, hg]
    simp only [hassign]
    rw [after_of_isLate (Call.isLate_groupOf pid), if_pos hkind]
    exact obeys_bind_iff.2 (obeys_of_some hlate fun _ => ⟨_, rfl, .groupOf pid _⟩)

/-- **Completion** reports that the child could not be waited for. Giving up its handle reports
nothing. -/
theorem obeys_complete (pid : Pid) (job : Option Job) (mode : Completion) (left : List Descriptor) :
    Obeys (inTurn failedInLaunch) (Reports line) (complete { pid } job mode) ⟨none, left⟩ := by
  have hok (process : Option Process) (status : Option ExitStatus) :
      Reports line (.ok (Launched.mk pid process job status)) ⟨none, left⟩ := reports_ok_iff.2 rfl
  cases mode with
  | wait =>
    rw [complete, Process.wait_eq]
    refine obeys_bind_iff.2 (obeys_call_seq_iff.2 ⟨trivial, fun answer => ?_⟩)
    rcases answer with e | word
    · have hrelease := (Process.minding_release { pid }).mono fun _ => Call.IsMinding.isLate
      have hjob := only_releaseJob_of (fun _ => Call.isLate_killGroup _) job
      refine obeys_bind_iff.2 (obeys_of_some hjob fun _ => ?_)
      refine obeys_bind_iff.2 (obeys_of_some hrelease fun _ => ?_)
      exact ⟨_, rfl, .wait pid _⟩
    · exact hok none (some (.ofWait word))
  | track => exact hok (some { pid }) none
  | detach =>
    refine obeys_bind_iff.2 (obeys_call_seq_iff.2 ⟨trivial, fun answer => ?_⟩)
    rcases answer with e | _ | status
    · exact hok none none
    · exact obeys_call_iff.2 ⟨trivial, fun _ => hok none none⟩
    · exact hok none none

/-- A start that is refused as impossible makes no call. -/
lemma eq_nil_of_start_configuration {ownGroup : Bool} {trace : List Exchange} {reason : String}
    (run : Run (start c ownGroup) trace (.error (.configuration reason))) : trace = [] := by
  rcases run_start run with ⟨-, rfl, -⟩ | ⟨e, -, hresult⟩ | ⟨_, _, _, answer, _, -, -, -, -, hresult⟩
  · rfl
  · cases hresult
  · cases answer <;> cases hresult

/-- The completion of a launch is never impossible. -/
lemma ne_configuration_of_complete {pid : Pid} {job : Option Job} {mode : Completion}
    {trace : List Exchange} {reason : String} :
    ¬ Run (complete { pid } job mode) trace (.error (.configuration reason)) := by
  intro run
  rcases run_complete run with ⟨_, -, -, hresult⟩ | ⟨_, _, _, -, -, -, -, hresult⟩ |
    ⟨-, -, hresult⟩ | ⟨-, -, hresult⟩ <;> cases hresult

end Launch

/-- **A launch** reports the first failure. -/
theorem obeys_launchPrepared (c : Config) (job : Option JobOptions) :
    Obeys (inTurn failedInLaunch) (Launch.Reports c.commandLine) (Cli.launchPrepared c job)
      ⟨none, Launch.files c.draft.streams.toList⟩ := by
  cases job with
  | none =>
    refine obeys_bind_iff.2 ((Launch.obeys_start _).mono fun result s hs => ?_)
    rcases result with fault | pid
    · exact hs
    · obtain ⟨first, left⟩ := s
      obtain rfl : first = none := Launch.reports_ok_iff.1 hs
      exact Launch.obeys_complete pid none _ left
  | some o =>
    show Obeys _ _ (tryLaunchAsJob c o) _
    unfold tryLaunchAsJob
    split
    · exact Launch.reports_configuration _ _
    refine obeys_bind_iff.2 ((Launch.obeys_startJob _).mono fun result s hs => ?_)
    rcases result with fault | ⟨pid, j⟩
    · exact hs
    · obtain ⟨first, left⟩ := s
      obtain rfl : first = none := Launch.reports_ok_iff.1 hs
      exact Launch.obeys_complete pid (some j) _ left

/-- A launch that is refused as impossible makes no call. -/
lemma eq_nil_of_configuration {c : Config} {job : Option JobOptions} {trace : List Exchange}
    {reason : String} (run : Run (Cli.launchPrepared c job) trace (.error (.configuration reason))) :
    trace = [] := by
  cases job with
  | none =>
    obtain ⟨first, rest, result, hstart, hrest, rfl⟩ := run_seq_iff.1 run
    rcases result with fault | pid
    · obtain ⟨rfl, ⟨⟩⟩ := run_pure_iff.1 hrest
      rw [List.append_nil]
      exact Launch.eq_nil_of_start_configuration hstart
    · exact absurd hrest Launch.ne_configuration_of_complete
  | some o =>
    change Run (tryLaunchAsJob c o) trace _ at run
    unfold tryLaunchAsJob at run
    split at run
    · exact (run_pure_iff.1 run).1
    obtain ⟨first, rest, result, hstart, hrest, rfl⟩ := run_seq_iff.1 run
    rcases result with fault | ⟨pid, j⟩
    · obtain ⟨rfl, ⟨⟩⟩ := run_pure_iff.1 hrest
      rw [List.append_nil]
      rcases Launch.run_startJob hstart with ⟨_, hfirst, ⟨⟩⟩ | ⟨_, _, -, -, ⟨⟩⟩ |
        ⟨_, _, _, _, _, -, hassign, -, -, ⟨⟩⟩
      · exact Launch.eq_nil_of_start_configuration hfirst
      · obtain ⟨_, _, ⟨⟩⟩ := Launch.exists_of_assignFault?_eq_some hassign
    · exact absurd hrest Launch.ne_configuration_of_complete

/-- The fault of an outcome is that of the launch. -/
lemma fault_ofResult (result : Except Fault Launched) :
    (Outcome.ofResult result).fault = faultOf? result := by
  rcases result with fault | launched
  · cases fault <;> rfl
  · rfl

/-- The two launches for an outcome are the prepared launch, whose result is told as an outcome. -/
lemma launchWith_eq (c : Config) (job : Option JobOptions) :
    launchWith c job = Cli.launchPrepared c job >>= fun result => pure (.ofResult result) := by
  cases job <;> rfl

/-! ## Handles -/

/-- How the use of a handle ends: its fault accounts for the first failure, and is about the process or
the group of the handle. -/
def Settles (pid : Pid) (fault? : Option Fault) (s : Progress) : Prop :=
  Accounts "" fault? s.first ∧ ∀ fault ∈ fault?, fault.subject? = some pid

/-- The use of a handle ends well if nothing has failed. -/
lemma settles_none (pid : Pid) (left : List Descriptor) : Settles pid none ⟨none, left⟩ :=
  ⟨accounts_none_iff.2 rfl, nofun⟩

/-- The use of a handle ends with a fault that tells of the first failure. -/
lemma settles_some {pid : Pid} {fault : Fault} {x : Exchange} {left : List Descriptor}
    (htells : fault.TellsOf "" (number? x) x.1) (hsubject : fault.subject? = some pid) :
    Settles pid (some fault) ⟨some x, left⟩ :=
  ⟨⟨fault, rfl, htells⟩, fun _ hfault => Option.some.inj hfault ▸ hsubject⟩

namespace Operation

/-- Waiting reports its failure, and nothing about another process. -/
lemma obeys_wait (p : Process) : Obeys (inTurn failed) (Settles p.pid) (wait p).reported ⟨none, []⟩ := by
  refine obeys_bind_iff.2 ?_
  show Obeys _ _ p.wait _
  rw [Process.wait_eq]
  split
  · exact settles_none _ _
  · refine obeys_call_seq_iff.2 ⟨trivial, fun answer => ?_⟩
    rcases answer with e | status
    · exact settles_some (.wait _ _) rfl
    · exact settles_none _ _

/-- Waiting for some time does. -/
lemma obeys_waitFor (p : Process) (limit : Nat) :
    Obeys (inTurn failed) (Settles p.pid) (waitFor p limit).reported ⟨none, []⟩ := by
  refine obeys_bind_iff.2 ?_
  show Obeys _ _ (p.waitFor limit) _
  rw [Process.waitFor, Process.await]
  split
  · exact settles_none _ _
  rw [Process.askEnd]
  -- one look and a timed wait differ in the call only
  split <;> refine obeys_call_seq_iff.2 ⟨trivial, fun answer => ?_⟩
  · rcases answer with e | status
    · exact settles_some (.poll _ _) rfl
    · exact settles_none _ _
  · rcases answer with e | status
    · exact settles_some (.pollFor _ _ _) rfl
    · exact settles_none _ _

/-- Killing does. -/
lemma obeys_kill (p : Process) : Obeys (inTurn failed) (Settles p.pid) (kill p).reported ⟨none, []⟩ := by
  refine obeys_bind_iff.2 ?_
  show Obeys _ _ p.kill _
  unfold Process.kill
  split
  · exact settles_none _ _
  · refine obeys_call_seq_iff.2 ⟨trivial, fun answer => ?_⟩
    rcases answer with e | ⟨⟩
    · exact settles_some (.kill _ _) rfl
    · exact settles_none _ _

/-- Ending a job does, if somebody was in its group. -/
lemma obeys_terminate (j : Job) :
    Obeys (inTurn failed) (Settles j.group) (terminate j).reported ⟨none, []⟩ := by
  refine obeys_bind_iff.2 (obeys_call_seq_iff.2 ⟨trivial, fun answer => ?_⟩)
  rcases answer with e | ⟨⟩
  · show Obeys _ _ _ ((inTurn failed).after _ _)
    rw [after_of_isLate (Call.isLate_killGroup j.group)]
    -- a group without processes is ended already
    by_cases he : e = .noProcess
    · have hkind : failed ⟨.killGroup j.group, .error e⟩ = false := by simp [failed, he]
      simp only [if_pos he, hkind]
      exact settles_none _ _
    · have hkind : failed ⟨.killGroup j.group, .error e⟩ = true := by simp [failed, he]
      simp only [if_neg he, hkind]
      exact settles_some (.killGroup _ _) rfl
  · exact settles_none _ _

/-- **The use of a handle** reports the first failure, and nothing about another process. -/
theorem obeys_of_handle {op : Operation} {pid : Pid} (hop : op.handle? = some pid) :
    Obeys (inTurn op.fails) (Settles pid) op.reported ⟨none, op.files⟩ := by
  cases op with
  | launch c job => cases hop
  | launchWith c job => cases hop
  | wait p =>
    cases hop
    exact obeys_wait p
  | waitFor p limit =>
    cases hop
    exact obeys_waitFor p limit
  | kill p =>
    cases hop
    exact obeys_kill p
  | terminate j =>
    cases hop
    exact obeys_terminate j

/-! ## Operations -/

/-- **Every operation** reports the first failure.

**Proof sketch.** A launch is gone through part by part, each beginning when nothing has failed. The use of
a handle is at most one call. -/
theorem obeys_reported (op : Operation) :
    Obeys (inTurn op.fails) (fun fault? s => Accounts op.commandLine fault? s.first) op.reported
      ⟨none, op.files⟩ := by
  cases op with
  | launch c job =>
    exact obeys_bind_iff.2 (obeys_launchPrepared c job)
  | launchWith c job =>
    refine obeys_bind_iff.2 ?_
    rw [launchWith_eq]
    refine obeys_bind_iff.2 ((obeys_launchPrepared c job).mono fun result s hs => ?_)
    show Accounts _ (Outcome.ofResult result).fault _
    rw [fault_ofResult]
    exact hs
  | wait p => exact (obeys_wait p).mono fun _ _ h => h.1
  | waitFor p limit => exact (obeys_waitFor p limit).mono fun _ _ h => h.1
  | kill p => exact (obeys_kill p).mono fun _ _ h => h.1
  | terminate j => exact (obeys_terminate j).mono fun _ _ h => h.1

/-- A launch tells of the process that it has started. -/
lemma subject_of_ending {mode : Completion} {asJob : Bool} {pids : List Pid}
    {result : Except Fault Launched} (h : Ending mode asJob pids result) :
    ∀ fault ∈ faultOf? result, ∀ pid ∈ fault.subject?, pids = [pid] := by
  intro fault hfault pid hpid
  cases h with
  | launched => cases hfault
  | waitFailed pid e hmode =>
    cases hfault
    cases hpid
    rfl
  | assignFailed pid reason code hjob =>
    cases hfault
    cases hpid
    rfl
  | refused reason =>
    cases hfault
    cases hpid
  | spawnFailed command reason code =>
    cases hfault
    cases hpid

/-- The result of a prepared launch fits what it has started. -/
lemma ending_of_run_launchPrepared {c : Config} {job : Option JobOptions} {trace : List Exchange}
    {result : Except Fault Launched} (run : Run (Cli.launchPrepared c job) trace result) :
    Ending c.completion job.isSome (started trace) result := by
  cases job with
  | none => exact ending_of_run_tryLaunch run
  | some o => exact ending_of_run_tryLaunchAsJob run

/-- What is reported of a launch is the fault of its result. -/
lemma result_of_run_launch {op : Operation} {trace : List Exchange} {fault? : Option Fault}
    (hop : op.handle? = none) (run : Run op.reported trace fault?) :
    ∃ c job result, Run (Cli.launchPrepared c job) trace result ∧ fault? = faultOf? result ∧
      op.subjects trace = started trace := by
  cases op with
  | launch c job =>
    obtain ⟨first, _, result, hlaunch, hend, rfl⟩ := run_seq_iff.1 run
    obtain ⟨rfl, rfl⟩ := run_pure_iff.1 hend
    rw [List.append_nil]
    exact ⟨c, job, result, hlaunch, rfl, rfl⟩
  | launchWith c job =>
    obtain ⟨first, _, outcome, hlaunch, hend, rfl⟩ := run_seq_iff.1 run
    obtain ⟨rfl, rfl⟩ := run_pure_iff.1 hend
    rw [launchWith_eq] at hlaunch
    obtain ⟨first, _, result, hprepared, hend, rfl⟩ := run_seq_iff.1 hlaunch
    obtain ⟨rfl, rfl⟩ := run_pure_iff.1 hend
    rw [List.append_nil, List.append_nil]
    exact ⟨c, job, result, hprepared, fault_ofResult result, rfl⟩
  | wait p => cases hop
  | waitFor p limit => cases hop
  | kill p => cases hop
  | terminate j => cases hop

/-- **A fault is about the process of the operation**, if it is about any, and what is impossible is
refused before any call. -/
theorem subject_of_run {op : Operation} {trace : List Exchange} {fault? : Option Fault}
    (run : Run op.reported trace fault?) :
    (∀ fault ∈ fault?, ∀ pid ∈ fault.subject?, op.subjects trace = [pid]) ∧
    ∀ reason, fault? = some (.configuration reason) → trace = [] := by
  cases hop : op.handle? with
  | none =>
    obtain ⟨c, job, result, hlaunch, rfl, hsubjects⟩ := result_of_run_launch hop run
    rw [hsubjects]
    refine ⟨subject_of_ending (ending_of_run_launchPrepared hlaunch), fun reason hreason => ?_⟩
    rcases result with fault | launched
    · cases hreason
      exact eq_nil_of_configuration hlaunch
    · cases hreason
  | some pid =>
    have hsubject := ((obeys_of_handle hop).of_run run).2
    refine ⟨fun fault hfault pid' hpid => ?_, fun reason hreason => ?_⟩
    · obtain rfl : pid = pid' := by simpa [hsubject fault hfault] using hpid
      simp [subjects, hop]
    · cases hsubject _ hreason

end Operation

/-! ## The first failure -/

/-- **The fault that is reported is that of the first failure**, whatever fails after it.

When a call is refused and none has failed before it, the fault tells of that call, with the number that
has come to the caller, and it is about the process of the operation. When no call fails, nothing is
reported but, perhaps, that what is asked for is impossible, and that is found out before any call. The
streams are duplicated in their order, and when one cannot be, neither are those behind it, and no process
is started.

**Proof sketch.** Every operation keeps to the protocol that has the first failure, and its fault accounts
for what the protocol has in the end. -/
theorem reports_first_failure {op : Operation} {trace : List Exchange} {fault? : Option Fault}
    (run : Run op.reported trace fault?) :
    (∀ x e, trace.find? op.fails = some x → Refused e x →
      ∃ fault, fault? = some fault ∧ fault.TellsOf op.commandLine (some (x.1.told e).code) x.1 ∧
        fault.code? = some (x.1.told e).code ∧
        ∀ pid ∈ fault.subject?, op.subjects trace = [pid]) ∧
    (trace.find? op.fails = none →
      ∀ fault ∈ fault?, ∃ reason, fault = .configuration reason ∧ trace = []) ∧
    duplicated trace <+: op.files ∧
    ∀ before d e after, trace = before ++ ⟨.duplicate d, .error e⟩ :: after →
      duplicated after = [] ∧ starts trace = [] := by
  have hobeys := op.obeys_reported
  have hfirst : Accounts op.commandLine fault? (trace.find? op.fails) := hobeys.first rfl run
  obtain ⟨hsubject, hconfiguration⟩ := Operation.subject_of_run run
  obtain ⟨-, hfiles, hparts⟩ := hobeys.orderly run
  refine ⟨fun x e hx hrefused => ?_, fun hnone fault hfault => ?_, hfiles, ?_⟩
  · rw [hx] at hfirst
    obtain ⟨fault, hfault, htells⟩ := hfirst
    have hnumber : number? x = some (x.1.told e).code := by simp [number?, hrefused.refusal?_eq]
    rw [hnumber] at htells
    exact ⟨fault, hfault, htells, htells.code?_eq, hsubject fault hfault⟩
  · rw [hnone] at hfirst
    obtain ⟨reason, rfl⟩ := hfirst fault hfault
    exact ⟨reason, rfl, hconfiguration reason hfault⟩
  · rintro before d e after rfl
    obtain ⟨hearly, hlate⟩ := hparts before _ after rfl
    have hbefore := hearly rfl
    have hfails : op.fails ⟨.duplicate d, .error e⟩ = true := by cases op <;> rfl
    obtain ⟨hduplicated, hafter⟩ := hlate hfails
    exact ⟨hduplicated, by simp [hbefore, hafter, asked?]⟩

/-- A launch as a job, in which everything is refused after the start. What is reported is that the group
could not be asked for. -/
theorem reports_first_failure_of_three :
    ∃ c : Config, ∃ trace fault, Run (Operation.launch c (some {})).reported trace (some fault) ∧
      trace.map (·.1) = [.start ⟨"true", [], none, true, {}⟩, .groupOf 7, .kill 7, .wait 7] ∧
      Refused .noProcess ⟨.groupOf 7, .error .noProcess⟩ ∧ fault.code? = some 3 ∧
      fault.TellsOf "true" (some 3) (.groupOf 7) ∧ fault.subject? = some 7 := by
  let c : Config := ⟨{ Draft.ofCommand "true" with completion := .track }, by decide⟩
  let op : Operation := .launch c (some {})
  let trace : List Exchange :=
    [⟨.start ⟨"true", [], none, true, {}⟩, .ok 7⟩, ⟨.groupOf 7, .error .noProcess⟩,
      ⟨.kill 7, .error ⟨1⟩⟩, ⟨.wait 7, .error .noChild⟩]
  have hsplit : CommandLine.split c.commandLine = ["true"] := by
    have hjoin : CommandLine.join ["true"] = .ok c.commandLine := rfl
    rw [CommandLine.split_of_join hjoin]
    simp
  have hlaunch : Run (tryLaunchAsJob c {}) trace
      (.error (.assignFailed 7 ("getpgid failed: " ++ Errno.noProcess.named) (some 3))) := by
    rw [tryLaunchAsJob, if_neg (by decide), Launch.startJob, Launch.start, hsplit]
    exact .ask (.ask (.ask (.ask (.done _))))
  have run : Run op.reported trace _ := run_seq_iff.2 ⟨trace, [], _, hlaunch, .done _, rfl⟩
  have hsymbolic : Errno.noProcess.symbolic = .noProcess := by decide
  have hrefused : Refused .noProcess ⟨.groupOf 7, .error .noProcess⟩ := by
    have := Refused.groupOf (e := .noProcess) 7
    rwa [hsymbolic] at this
  obtain ⟨fault, hfault, htells, hcode, -⟩ :=
    (reports_first_failure run).1 ⟨.groupOf 7, .error .noProcess⟩ .noProcess rfl hrefused
  cases hfault
  have htold : (Call.groupOf 7).told .noProcess = .noProcess := hsymbolic
  rw [htold] at hcode htells
  exact ⟨c, trace, _, run, rfl, hrefused, hcode, htells, rfl⟩

/-- **A number without a name is lost.** The group of a job cannot be ended, for a reason that the
libraries have no name for, and the fault gives the number zero. -/
theorem unnamed_number_is_lost :
    ∃ op trace fault x, ∃ e : Errno, Run (Operation.reported op) trace (some fault) ∧
      trace.find? op.fails = some x ∧ Refused e x ∧ e.code = 41 ∧ fault.code? = some 0 := by
  let e : Errno := ⟨41⟩
  have hsymbolic : e.symbolic = .success := by decide
  have run : Run (Operation.terminate ⟨7, false⟩).reported [⟨.killGroup 7, .error e.symbolic⟩]
      (some (.terminateFailed (.group 7) e.symbolic.named (some e.symbolic.code))) := by
    rw [hsymbolic]
    exact .ask (.done _)
  exact ⟨_, _, _, _, e, run, by rw [hsymbolic]; rfl, .killGroup 7, rfl, by rw [hsymbolic]; rfl⟩

end Launcher
