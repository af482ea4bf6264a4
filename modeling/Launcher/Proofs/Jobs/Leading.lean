import Launcher.Proofs.Launch.Runs
/-!
# Launches and their jobs

A launch has at most one child that it has started and not collected or handed over. Only this child
it asks about, kills or waits for, and it never kills a group. A job that it gives back is the group
of a child of which the host has said that it is in a group of its own number, while the child had
not been collected.

As for the children in the care of an activity, this is stated with a protocol, so that it is known
of what is left of a launch at any time.

## Main definitions

* `Launcher.Jobs.Stage` — the child of a launch, and the group that the host has confirmed.
* `Launcher.Jobs.leading` — the protocol.
* `Launcher.Jobs.Stage.Gives` — the job of a launch is the group that was confirmed.

## Main results

* `Launcher.Jobs.obeys_startJob` — a start as a job makes a job of a confirmed group only.
* `Launcher.Jobs.obeys_tryLaunch`, `obeys_tryLaunchAsJob`, `obeys_runDraft`, `obeys_runForPid` — all
  launches keep to the protocol.
-/

namespace Launcher.Jobs

open Host Host.Dialogue

/-! ## The protocol -/

/-- How far a launch has come. -/
structure Stage where
  /-- The child that it has started and neither collected nor handed over. -/
  child : Option Pid := none
  /-- The group of the child that it has started last, once that is confirmed. -/
  group : Option Pid := none

namespace Stage

/-- The stage after a call and its answer. -/
def after (s : Stage) : Exchange → Stage
  | ⟨.start _, .ok pid⟩ => { child := some pid }
  | ⟨.groupOf pid, .ok group⟩ => if group = pid then { s with group := some pid } else s
  | ⟨.wait _, .ok _⟩ | ⟨.poll _, .ok (some _)⟩ | ⟨.pollFor _ _, .ok (some _)⟩ | ⟨.adopt _, _⟩ =>
    { s with child := none }
  | _ => s

/-- The call is on the child of the launch, or on no process at all. -/
def Allows (s : Stage) : Call → Prop
  | .start _ => s.child = none
  | .groupOf pid | .kill pid | .wait pid | .poll pid | .pollFor pid _ | .adopt pid =>
    s.child = some pid
  | .killGroup _ => False
  | _ => True

/-- The job, if there is one, is the group that was confirmed. -/
def Gives (s : Stage) (job : Option Job) : Prop :=
  ∀ j, job = some j → s.group = some j.group

/-- Without a job there is nothing to be confirmed. -/
lemma gives_none (s : Stage) : s.Gives none := nofun

end Stage

/-- **The protocol of launches.** -/
def leading : Protocol Stage where
  allows := Stage.Allows
  after := Stage.after

variable {α : Type} {s : Stage} {Q : α → Stage → Prop} {c : Config} {job : Option Job}

/-- Calls for files and descriptors change nothing. -/
lemma obeys_of_filing {d : Dialogue α} (h : Only Call.IsFiling d) (hQ : ∀ value, Q value s) :
    Obeys leading Q d s := by
  refine h.obeys (fun c hc => ?_) (fun c hc answer => ?_) hQ <;>
    cases c <;> first | exact trivial | rfl | exact hc.elim

/-! ## The child -/

/-- The child of a handle is that of the launch, until it is known how it has ended. -/
def Stage.Minds (s : Stage) (h : Process) : Prop :=
  h.ended = none → s.child = some h.pid

/-- The release of a handle changes nothing but that the child is gone. -/
lemma obeys_release {h : Process} (hs : s.Minds h) :
    Obeys leading (fun _ s' => s'.group = s.group) h.release s := by
  unfold Process.release
  cases hended : h.ended with
  | some status => exact obeys_pure_iff.2 rfl
  | none =>
    refine obeys_call_seq_iff.2 ⟨hs hended, fun answer => ?_⟩
    rcases answer with e | _ | status
    · exact obeys_pure_iff.2 rfl
    · exact ⟨hs hended, fun _ => rfl⟩
    · exact obeys_pure_iff.2 rfl

/-- A handle that waits has its child until it is known how that has ended. -/
lemma obeys_wait {h : Process} (hs : s.Minds h) :
    Obeys leading (fun result s' => s'.group = s.group ∧ s'.Minds result.2) h.wait s := by
  rw [Process.wait_eq]
  cases hended : h.ended with
  | some status => exact obeys_pure_iff.2 ⟨rfl, hs⟩
  | none =>
    refine obeys_call_seq_iff.2 ⟨hs hended, fun answer => ?_⟩
    rcases answer with e | status
    · exact obeys_pure_iff.2 ⟨rfl, hs⟩
    · exact obeys_pure_iff.2 ⟨rfl, nofun⟩

/-! ## Launches -/

/-- A start that succeeds has the child that it has started, of which nothing is confirmed yet. -/
lemma obeys_start (ownGroup : Bool) (hs : s.child = none) :
    Obeys leading (fun result s' => ∀ pid, result = .ok pid → s' = { child := some pid })
      (Launch.start c ownGroup) s := by
  unfold Launch.start
  split
  · exact obeys_pure_iff.2 nofun
  refine obeys_bind_iff.2 (obeys_of_filing (Launch.filing_duplicateStreams _) fun streams => ?_)
  rcases streams with e | streams
  · exact obeys_pure_iff.2 nofun
  refine obeys_call_seq_iff.2 ⟨hs, fun answer => ?_⟩
  refine obeys_bind_iff.2 (obeys_of_filing (Launch.filing_closeAll _) fun _ => ?_)
  rcases answer with e | pid
  · exact obeys_pure_iff.2 nofun
  · refine obeys_pure_iff.2 fun pid' h => ?_
    cases h
    rfl

/-- A child that does not lead its own group is killed and waited for. -/
lemma obeys_abort {pid : Pid} (hs : s.child = some pid) :
    Obeys leading (fun _ _ => True) (Launch.abort pid) s := by
  refine obeys_call_seq_iff.2 ⟨hs, fun killed => ?_⟩
  refine obeys_call_seq_iff.2 ⟨?_, fun waited => obeys_pure_iff.2 trivial⟩
  cases killed <;> exact hs

/-- **A start as a job** that succeeds has a child whose group is confirmed to be its own. -/
theorem obeys_startJob (killOnClose : Bool) (hs : s.child = none) :
    Obeys leading
      (fun result s' => ∀ pid job, result = .ok (pid, job) →
        s' = { child := some pid, group := some job.group })
      (Launch.startJob c killOnClose) s := by
  refine obeys_bind_iff.2 ((obeys_start true hs).mono fun result s' hs' => ?_)
  rcases result with fault | pid
  · exact obeys_pure_iff.2 nofun
  obtain rfl := hs' pid rfl
  refine obeys_call_seq_iff.2 ⟨rfl, fun answer => ?_⟩
  cases hfault : Launch.assignFault? pid answer with
  | none =>
    obtain rfl : answer = .ok pid := Launch.eq_ok_of_assignFault?_eq_none hfault
    refine obeys_pure_iff.2 fun pid' job h => ?_
    cases h
    simp [leading, Stage.after]
  | some fault =>
    -- what was said about the group is not used any more; the child is ended and collected
    have hchild : (leading.after { child := some pid } ⟨.groupOf pid, answer⟩).child =
        some pid := by
      rcases answer with e | group
      · rfl
      · simp only [leading, Stage.after]
        split <;> rfl
    exact obeys_bind_iff.2 ((obeys_abort hchild).mono fun _ _ _ => obeys_pure_iff.2 nofun)

/-! ## Whole launches -/

/-- Completion gives back the job with which it has begun, and may give back the child. Only without
a job it waits. -/
lemma obeys_complete {h : Process} {mode : Completion} (hs : s.Minds h)
    (hmode : mode = .wait → job = none) :
    Obeys leading
      (fun result s' => ∀ l, result = .ok l →
        (∀ h, l.process = some h → s'.Minds h) ∧ l.job = job ∧ s'.group = s.group)
      (Launch.complete h job mode) s := by
  cases mode with
  | wait =>
    obtain rfl := hmode rfl
    refine obeys_bind_iff.2 ((obeys_wait hs).mono fun waited s₁ hwaited => ?_)
    rcases waited with ⟨fault | status, h⟩
    · refine obeys_bind_iff.2 (obeys_pure_iff.2 ?_)
      exact obeys_bind_iff.2 ((obeys_release hwaited.2).mono fun _ _ _ => obeys_pure_iff.2 nofun)
    · refine obeys_bind_iff.2 ((obeys_release hwaited.2).mono fun _ s₂ hreleased => ?_)
      refine obeys_pure_iff.2 fun l hl => ?_
      cases hl
      exact ⟨nofun, rfl, hreleased.trans hwaited.1⟩
  | track =>
    refine obeys_pure_iff.2 fun l hl => ?_
    cases hl
    exact ⟨fun h' hh => by cases hh; exact hs, rfl, rfl⟩
  | detach =>
    refine obeys_bind_iff.2 ((obeys_release hs).mono fun _ s₁ hreleased => ?_)
    refine obeys_pure_iff.2 fun l hl => ?_
    cases hl
    exact ⟨nofun, rfl, hreleased⟩

/-- A launch on its own gives back no job. -/
lemma obeys_tryLaunch (c : Config) (hs : s.child = none) :
    Obeys leading
      (fun result s' => ∀ l, result = .ok l →
        (∀ h, l.process = some h → s'.Minds h) ∧ l.job = none)
      (tryLaunch c) s := by
  refine obeys_bind_iff.2 ((obeys_start _ hs).mono fun result s₁ hs₁ => ?_)
  rcases result with fault | pid
  · exact obeys_pure_iff.2 nofun
  · obtain rfl := hs₁ pid rfl
    refine (obeys_complete (fun _ => rfl) fun _ => rfl).mono fun result s₂ hs₂ l hl => ?_
    exact ⟨(hs₂ l hl).1, (hs₂ l hl).2.1⟩

/-- **A launch as a job** gives back a job whose group is confirmed. -/
theorem obeys_tryLaunchAsJob (c : Config) (o : JobOptions) (hs : s.child = none) :
    Obeys leading (fun result s' => ∀ l, result = .ok l → s'.Gives l.job)
      (tryLaunchAsJob c o) s := by
  unfold tryLaunchAsJob
  split
  · exact obeys_pure_iff.2 nofun
  rename_i hmode
  refine obeys_bind_iff.2 ((obeys_startJob _ hs).mono fun result s₁ hs₁ => ?_)
  rcases result with fault | ⟨pid, job⟩
  · exact obeys_pure_iff.2 nofun
  · obtain rfl := hs₁ pid job rfl
    have hmode : c.completion = .wait → some job = none := fun hwait =>
      absurd (by rw [hwait]; rfl) hmode
    have hcomplete := @obeys_complete { child := some pid, group := some job.group } (some job)
      { pid } c.completion (fun _ => rfl) hmode
    refine hcomplete.mono fun result s₂ hs₂ l hl j hj => ?_
    obtain ⟨-, hjob, hgroup⟩ := hs₂ l hl
    rw [hgroup, ← Option.some.inj (hjob.symm.trans hj)]

/-- **A launch for its outcome** gives back its child, and no job. -/
theorem obeys_launch (c : Config) (hs : s.child = none) :
    Obeys leading
      (fun outcome s' => (∀ h, outcome.process = some h → s'.Minds h) ∧ outcome.job = none)
      (launch c) s := by
  refine obeys_bind_iff.2 ((obeys_tryLaunch c hs).mono fun result s₁ hs₁ => ?_)
  rcases result with fault | l
  · cases fault <;> exact obeys_pure_iff.2 ⟨nofun, rfl⟩
  · exact obeys_pure_iff.2 (hs₁ l rfl)

/-- **A launch as a job, for its outcome,** gives back a job whose group is confirmed. -/
theorem obeys_launchAsJob (c : Config) (o : JobOptions) (hs : s.child = none) :
    Obeys leading (fun outcome s' => s'.Gives outcome.job) (launchAsJob c o) s := by
  refine obeys_bind_iff.2 ((obeys_tryLaunchAsJob c o hs).mono fun result s₁ hs₁ => ?_)
  rcases result with fault | l
  · cases fault <;> exact obeys_pure_iff.2 s₁.gives_none
  · exact obeys_pure_iff.2 (hs₁ l rfl)

/-- The release of an outcome without a job releases the child. -/
lemma obeys_releaseOutcome {o : Outcome} (hs : ∀ h, o.process = some h → s.Minds h)
    (hjob : o.job = none) : Obeys leading (fun _ _ => True) o.release s := by
  rw [Outcome.release, hjob]
  cases hprocess : o.process with
  | none => exact obeys_bind_iff.2 (obeys_pure_iff.2 (obeys_pure_iff.2 trivial))
  | some h =>
    exact obeys_bind_iff.2 ((obeys_release (hs h hprocess)).mono fun _ _ _ =>
      obeys_pure_iff.2 trivial)

/-- A launch from a draft keeps to the protocol. -/
lemma obeys_runDraft (d : Draft) (hs : s.child = none) :
    Obeys leading (fun _ _ => True) (runDraft d) s := by
  refine obeys_bind_iff.2 (obeys_of_filing (Launch.filing_build d) fun checked => ?_)
  rcases checked with fault | c
  · exact obeys_pure_iff.2 trivial
  refine obeys_bind_iff.2 ((obeys_launch c hs).mono fun outcome s₁ hs₁ => ?_)
  exact obeys_bind_iff.2 ((obeys_releaseOutcome hs₁.1 hs₁.2).mono fun _ _ _ =>
    obeys_pure_iff.2 trivial)

/-- A launch for the number only keeps to the protocol. -/
lemma obeys_runForPid (c : Config) (hs : s.child = none) :
    Obeys leading (fun _ _ => True) (runForPid c) s := by
  refine obeys_bind_iff.2 ((obeys_launch c hs).mono fun outcome s₁ hs₁ => ?_)
  exact obeys_bind_iff.2 ((obeys_releaseOutcome hs₁.1 hs₁.2).mono fun _ _ _ =>
    obeys_pure_iff.2 trivial)

end Launcher.Jobs
