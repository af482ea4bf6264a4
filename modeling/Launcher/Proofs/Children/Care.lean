import Mathlib.Logic.Function.Basic
import Launcher.Proofs.Launch.Runs
import Launcher.Reaper
/-!
# Children in the care of an activity

A launch, an operation on a handle, the release of a handle and a round of the reaper are
activities. Each has some children in its care from its beginning or by starting them, and in the
end it must have passed on every one of them: to the handle that it gives back, to the reaper, or
to nobody, which is allowed for a child that has been collected, and for one on which the last wait
was refused.

What an activity may still do and where it may still end is a fact about what is left of its
dialogue, so it is stated with a protocol whose states are the children in its care.

## Main definitions

* `Launcher.Children.Event` — what an exchange with the host means for children.
* `Launcher.Children.Care` — the children in the care of an activity.
* `Launcher.Children.custody` — the protocol: only for a child in its care does an activity wait,
  and only such a child does it hand over.
* `Launcher.Children.Care.EndsWith` — the care of an activity at its end.

## Main results

* `Launcher.Children.obeys_tryLaunch`, `obeys_tryLaunchAsJob` — a launch passes on the child that it
  starts.
* `Launcher.Children.obeys_release` — the release of a handle passes on its child.
* `Launcher.Children.obeys_round` — a round of the reaper passes on all children that it has begun
  with.
-/

namespace Launcher.Children

open Host Host.Dialogue

/-! ## Events -/

/-- What an exchange with the host means for children. -/
inductive Event where
  /-- A child was started. -/
  | started (pid : Pid)
  /-- A wait on a child, with its answer: refused, not ended yet, or ended and thereby collected. -/
  | waited (pid : Pid) (answer : Except Errno (Option WaitStatus))
  /-- A child was handed over to the reaper. -/
  | adopted (pid : Pid)
  /-- Nothing. -/
  | nothing

/-- What an exchange with the host means for children. -/
def event : Exchange → Event
  | ⟨.start _, .ok pid⟩ => .started pid
  | ⟨.wait pid, answer⟩ => .waited pid (answer.map some)
  | ⟨.poll pid, answer⟩ => .waited pid answer
  | ⟨.pollFor pid _, answer⟩ => .waited pid answer
  | ⟨.adopt pid, _⟩ => .adopted pid
  | _ => .nothing

/-- The children that an event hands over. -/
def Event.handedOver : Event → List Pid
  | .adopted pid => [pid]
  | .started _ | .waited _ _ | .nothing => []

/-- Calls aside mean nothing for children. -/
lemma event_of_isAside {c : Call} (h : c.IsAside) (answer : c.Answer) :
    event ⟨c, answer⟩ = .nothing := by
  cases c <;> first | rfl | exact h.elim

/-! ## Care -/

/-- How an activity stands to a number. -/
inductive Standing where
  /-- No child with this number is in its care. -/
  | none
  /-- The child with this number is in its care. -/
  | minded
  /-- The child is in its care, and the last wait on it was refused. -/
  | refused
  deriving Repr, DecidableEq

/-- The number of children that this is. -/
def Standing.count : Standing → Nat
  | none => 0
  | minded | refused => 1

/-- Only a number that is not in the care counts for no child. -/
@[simp]
lemma Standing.count_eq_zero_iff {s : Standing} : s.count = 0 ↔ s = .none := by
  cases s <;> simp [count]

/-- A number in the care counts for some child. -/
lemma Standing.count_ne_zero {s : Standing} (h : s ≠ .none) : s.count ≠ 0 :=
  fun hzero => h (count_eq_zero_iff.1 hzero)

/-- A number counts for one child at most. -/
lemma Standing.count_le_one (s : Standing) : s.count ≤ 1 := by
  cases s <;> simp [count]

/-- The children in the care of an activity, by their numbers. -/
abbrev Care := Pid → Standing

/-- The standing after a wait. A child that was collected is in nobody's care any more. -/
def standing : Except Errno (Option WaitStatus) → Standing
  | .error _ => .refused
  | .ok none => .minded
  | .ok (some _) => .none

namespace Care

variable {s : Care} {held : Pid → Nat}

/-- The care after an event. -/
def after (s : Care) : Event → Care
  | .started pid => Function.update s pid .minded
  | .waited pid answer => Function.update s pid (standing answer)
  | .adopted pid => Function.update s pid .none
  | .nothing => s

/-- The event is on a child in the activity's care, or on none of those that there were. -/
def Allows (s : Care) : Event → Prop
  | .waited pid _ | .adopted pid => s pid ≠ .none
  | .started _ | .nothing => True

/-- The care at the end of an activity that passes on the children in `held`: those are in its care,
and any other that is, is given up after a wait was refused. -/
def EndsWith (held : Pid → Nat) (s : Care) : Prop :=
  ∀ pid, (held pid = 0 ∧ s pid ≠ .minded) ∨ (held pid = 1 ∧ s pid ≠ .none)

/-- Nothing is in the care. -/
def empty : Care := fun _ => .none

/-- An activity without children ends with none. -/
lemma endsWith_empty : EndsWith (fun _ => 0) empty :=
  fun _ => .inl ⟨rfl, by simp [empty]⟩

/-- Of one child the activity gets to know something else. -/
lemma EndsWith.update {held' : Pid → Nat} {pid : Pid} {st : Standing} (h : s.EndsWith held)
    (hsame : ∀ q, q ≠ pid → held' q = held q)
    (hpid : (held' pid = 0 ∧ st ≠ .minded) ∨ (held' pid = 1 ∧ st ≠ .none)) :
    EndsWith held' (Function.update s pid st) := by
  intro q
  by_cases hq : q = pid
  · rw [hq, Function.update_self]
    exact hpid
  · rw [Function.update_of_ne hq, hsame q hq]
    exact h q

/-- A child that is passed on is in the care. -/
lemma EndsWith.ne_none {pid : Pid} (h : s.EndsWith held) (hheld : held pid = 1) :
    s pid ≠ .none := by
  rcases h pid with ⟨hzero, -⟩ | ⟨-, hne⟩
  · omega
  · exact hne

end Care

/-- **Custody.** An activity waits only for children in its care, and hands over only such. -/
def custody : Protocol Care where
  allows s c := ∀ answer, s.Allows (event ⟨c, answer⟩)
  after s e := s.after (event e)

variable {α : Type} {s : Care} {Q : α → Care → Prop}

/-- Calls aside do not change what is in the care. -/
lemma obeys_of_only {d : Dialogue α} (h : Only Call.IsAside d) (hQ : ∀ value, Q value s) :
    Obeys custody Q d s := by
  refine h.obeys (fun c hc answer => ?_) (fun c hc answer => ?_) hQ
  · rw [event_of_isAside hc]
    trivial
  · simp [custody, Care.after, event_of_isAside hc]

/-! ## Handles -/

/-- The children that a handle holds: the one that it was made for, until it is known how that has
ended. -/
def holds (h : Process) (pid : Pid) : Nat :=
  if h.ended = none ∧ h.pid = pid then 1 else 0

/-- The children that a handle holds, if there is a handle. -/
def holds? : Option Process → Pid → Nat
  | some h => holds h
  | none => fun _ => 0

/-- A handle holds no child but its own. -/
lemma holds_of_ne {h : Process} {pid : Pid} (hne : pid ≠ h.pid) : holds h pid = 0 := by
  simp [holds, Ne.symm hne]

/-- A handle holds no child whose end it knows. -/
lemma holds_of_ended {h : Process} {status : WaitStatus} (hended : h.ended = some status) :
    holds h = fun _ => 0 := by
  funext pid
  simp [holds, hended]

namespace Care.EndsWith

variable {h : Process}

/-- The child of a handle is passed on, or given up. -/
lemma leave {st : Standing} (hs : s.EndsWith (holds h)) (hst : st ≠ .minded) :
    EndsWith (holds? none) (Function.update s h.pid st) :=
  hs.update (fun _ hq => (holds_of_ne hq).symm) (.inl ⟨rfl, hst⟩)

/-- The child of a handle stays with it as long as it is not known how the child has ended. -/
lemma keep {st : Standing} (hs : s.EndsWith (holds h)) (hended : h.ended = none)
    (hst : st ≠ .none) : EndsWith (holds h) (Function.update s h.pid st) :=
  hs.update (fun _ _ => rfl) (.inr ⟨by simp [holds, hended], hst⟩)

/-- The child of a handle is collected, and its handle knows how it has ended. -/
lemma collect (hs : s.EndsWith (holds h)) (status : WaitStatus) :
    EndsWith (holds { h with ended := some status }) (Function.update s h.pid .none) := by
  rw [holds_of_ended rfl]
  exact hs.leave (by simp)

end Care.EndsWith

/-- A handle that is given up hands its child over to the reaper, or has collected it, or a wait
was refused. -/
lemma obeys_release {h : Process} (hs : s.EndsWith (holds h)) :
    Obeys custody (fun _ s => s.EndsWith (holds? none)) h.release s := by
  unfold Process.release
  cases hended : h.ended with
  | some status =>
    rw [holds_of_ended hended] at hs
    exact hs
  | none =>
    have hmine : s h.pid ≠ .none := hs.ne_none (by simp [holds, hended])
    refine obeys_bind_iff.2 ⟨fun _ => hmine, fun answer => ?_⟩
    rcases answer with e | _ | status
    · exact hs.leave (by simp [standing])
    · have hpolled : Care.EndsWith (holds h) (Function.update s h.pid .minded) :=
        hs.keep hended (by simp)
      have hmine : Function.update s h.pid Standing.minded h.pid ≠ .none := by simp
      exact ⟨fun _ => hmine, fun _ => hpolled.leave (by simp)⟩
    · exact hs.leave (by simp [standing])

/-- A handle that waits holds its child until it is known how the child has ended. -/
lemma obeys_wait {h : Process} (hs : s.EndsWith (holds h)) :
    Obeys custody (fun result s => s.EndsWith (holds result.2)) h.wait s := by
  rw [Process.wait_eq]
  cases hended : h.ended with
  | some status => exact hs
  | none =>
    have hmine : s h.pid ≠ .none := hs.ne_none (by simp [holds, hended])
    refine obeys_bind_iff.2 ⟨fun _ => hmine, fun answer => ?_⟩
    rcases answer with e | status
    · exact hs.keep hended (by simp [standing, Except.map])
    · exact hs.collect status

/-- Waiting for some time is no different. -/
lemma obeys_waitFor {h : Process} (limit : Nat) (hs : s.EndsWith (holds h)) :
    Obeys custody (fun result s => s.EndsWith (holds result.2)) (h.waitFor limit) s := by
  unfold Process.waitFor Process.await Process.askEnd
  cases hended : h.ended with
  | some status => exact hs
  | none =>
    have hmine : s h.pid ≠ .none := hs.ne_none (by simp [holds, hended])
    have hrunning : holds { h with ended := none } = holds h := by
      funext pid
      simp [holds, hended]
    simp only
    -- one poll and polling for some time differ in the call only
    split <;> refine obeys_bind_iff.2 ⟨fun _ => hmine, fun answer => ?_⟩
    all_goals
      rcases answer with e | _ | status
      · exact hs.keep hended (by simp [standing])
      · show Care.EndsWith (holds { h with ended := none }) _
        rw [hrunning]
        exact hs.keep hended (by simp [standing])
      · exact hs.collect status

/-! ## Launches -/

/-- The handle of a process that has just been started. -/
def newHandle? : Except Fault Pid → Option Process
  | .ok pid => some { pid }
  | .error _ => none

/-- The handle that a launch gives back. -/
def handle? : Except Fault Launched → Option Process
  | .ok l => l.process
  | .error _ => none

/-- The outcome of a launch has the handle that its result has. -/
lemma process_ofResult (result : Except Fault Launched) :
    (Outcome.ofResult result).process = handle? result := by
  cases result with
  | ok l => rfl
  | error fault => cases fault <;> rfl

variable {c : Config}

/-- A start gives the started child a handle. -/
lemma obeys_start (ownGroup : Bool) (hs : s.EndsWith (holds? none)) :
    Obeys custody (fun result s => s.EndsWith (holds? (newHandle? result)))
      (Launch.start c ownGroup) s := by
  unfold Launch.start
  split
  · exact hs
  refine obeys_bind_iff.2 (obeys_of_only (Launch.only_duplicateStreams _) fun streams => ?_)
  rcases streams with e | streams
  · exact hs
  refine obeys_bind_iff.2 ⟨fun answer => by cases answer <;> trivial, fun answer => ?_⟩
  refine obeys_bind_iff.2 (obeys_of_only (Launch.only_closeAll _) fun _ => ?_)
  rcases answer with e | pid
  · exact hs
  · have hheld : holds? (newHandle? (.ok pid)) pid = 1 := by simp [newHandle?, holds?, holds]
    exact hs.update (fun q hq => holds_of_ne hq) (.inr ⟨hheld, by simp⟩)

/-- A process that is ended for not leading its group is waited for. -/
lemma obeys_abort {pid : Pid} (hs : s.EndsWith (holds { pid })) :
    Obeys custody (fun _ s => s.EndsWith (holds? none)) (Launch.abort pid) s := by
  have hmine : s pid ≠ .none := hs.ne_none (by simp [holds])
  have hkill : Only Call.IsAside (call (.kill pid)) := only_call_iff.2 trivial
  refine obeys_bind_iff.2 (obeys_of_only hkill fun _ => ?_)
  refine obeys_bind_iff.2 ⟨fun _ => hmine, fun answer => ?_⟩
  refine Care.EndsWith.leave hs ?_
  cases answer <;> simp [standing, Except.map]

/-- A start as a job gives the started child a handle, or has ended it again. -/
lemma obeys_startJob (killOnClose : Bool) (hs : s.EndsWith (holds? none)) :
    Obeys custody (fun result s => s.EndsWith (holds? (newHandle? (result.map Prod.fst))))
      (Launch.startJob c killOnClose) s := by
  refine obeys_bind_iff.2 ((obeys_start true hs).mono fun result s hs => ?_)
  rcases result with fault | pid
  · exact hs
  have hgroup : Only Call.IsAside (call (.groupOf pid)) := only_call_iff.2 trivial
  refine obeys_bind_iff.2 (obeys_of_only hgroup fun answer => ?_)
  cases Launch.assignFault? pid answer with
  | none => exact hs
  | some fault => exact obeys_bind_iff.2 ((obeys_abort hs).mono fun _ _ hs => hs)

/-- Completion gives back the handle, or releases it. -/
lemma obeys_complete {h : Process} {job : Option Job} {mode : Completion}
    (hs : s.EndsWith (holds h)) :
    Obeys custody (fun result s => s.EndsWith (holds? (handle? result)))
      (Launch.complete h job mode) s := by
  cases mode with
  | wait =>
    refine obeys_bind_iff.2 ((obeys_wait hs).mono fun waited s₁ hwaited => ?_)
    obtain ⟨result, h⟩ := waited
    have hreleased := obeys_release hwaited
    rcases result with fault | status
    · refine obeys_bind_iff.2 (obeys_of_only (only_releaseJob job) fun _ => ?_)
      exact obeys_bind_iff.2 (hreleased.mono fun _ _ hs => hs)
    · exact obeys_bind_iff.2 (hreleased.mono fun _ _ hs => hs)
  | track => exact hs
  | detach => exact obeys_bind_iff.2 ((obeys_release hs).mono fun _ _ hs => hs)

/-- **A launch** passes on the child that it starts: to the handle that it gives back, or by a
release. -/
theorem obeys_tryLaunch (c : Config) (hs : s.EndsWith (holds? none)) :
    Obeys custody (fun result s => s.EndsWith (holds? (handle? result))) (tryLaunch c) s := by
  refine obeys_bind_iff.2 ((obeys_start _ hs).mono fun result s hs => ?_)
  rcases result with fault | pid
  · exact hs
  · exact obeys_complete hs

/-- **A launch as a job** passes on the child that it starts. -/
theorem obeys_tryLaunchAsJob (c : Config) (o : JobOptions) (hs : s.EndsWith (holds? none)) :
    Obeys custody (fun result s => s.EndsWith (holds? (handle? result)))
      (tryLaunchAsJob c o) s := by
  unfold tryLaunchAsJob
  split
  · exact hs
  refine obeys_bind_iff.2 ((obeys_startJob _ hs).mono fun result s hs => ?_)
  rcases result with fault | ⟨pid, job⟩
  · exact hs
  · exact obeys_complete hs

/-- **A launch for its outcome** passes on the child that it starts. -/
theorem obeys_launch (c : Config) (hs : s.EndsWith (holds? none)) :
    Obeys custody (fun outcome s => s.EndsWith (holds? outcome.process)) (launch c) s := by
  refine obeys_bind_iff.2 ((obeys_tryLaunch c hs).mono fun result s hs => ?_)
  rw [← process_ofResult] at hs
  exact hs

/-- **A launch as a job, for its outcome,** passes on the child that it starts. -/
theorem obeys_launchAsJob (c : Config) (o : JobOptions) (hs : s.EndsWith (holds? none)) :
    Obeys custody (fun outcome s => s.EndsWith (holds? outcome.process)) (launchAsJob c o) s := by
  refine obeys_bind_iff.2 ((obeys_tryLaunchAsJob c o hs).mono fun result s hs => ?_)
  rw [← process_ofResult] at hs
  exact hs

/-- The release of an outcome releases its handle. -/
lemma obeys_releaseOutcome {o : Outcome} (hs : s.EndsWith (holds? o.process)) :
    Obeys custody (fun _ s => s.EndsWith (holds? none)) o.release s := by
  have hjob := only_releaseJob o.job
  cases hprocess : o.process with
  | none =>
    rw [hprocess] at hs
    rw [Outcome.release, hprocess]
    exact obeys_bind_iff.2 (obeys_of_only (only_pure ()) fun _ => obeys_of_only hjob fun _ => hs)
  | some h =>
    rw [hprocess] at hs
    rw [Outcome.release, hprocess]
    exact obeys_bind_iff.2 ((obeys_release hs).mono fun _ _ hs => obeys_of_only hjob fun _ => hs)

/-- A launch from a draft, for its outcome only, keeps no child. -/
lemma obeys_runDraft (d : Draft) (hs : s.EndsWith (holds? none)) :
    Obeys custody (fun _ s => s.EndsWith (holds? none)) (runDraft d) s := by
  refine obeys_bind_iff.2 (obeys_of_only (Launch.only_build d) fun checked => ?_)
  rcases checked with fault | c
  · exact hs
  refine obeys_bind_iff.2 ((obeys_launch c hs).mono fun outcome s hs => ?_)
  exact obeys_bind_iff.2 ((obeys_releaseOutcome hs).mono fun _ _ hs => hs)

/-- A launch for the number only keeps no child. -/
lemma obeys_runForPid (c : Config) (hs : s.EndsWith (holds? none)) :
    Obeys custody (fun _ s => s.EndsWith (holds? none)) (runForPid c) s := by
  refine obeys_bind_iff.2 ((obeys_launch c hs).mono fun outcome s hs => ?_)
  exact obeys_bind_iff.2 ((obeys_releaseOutcome hs).mono fun _ _ hs => hs)

/-! ## Rounds of the reaper -/

/-- Polling some children keeps those that have not ended. Of the others, each was collected, or a
wait was refused; the care of children that are not polled stays the same. -/
lemma obeys_pollAll {pids : List Pid} (hnodup : pids.Nodup)
    (hmine : ∀ pid ∈ pids, s pid ≠ .none) :
    Obeys custody
      (fun kept s' => ∀ pid, if pid ∈ pids
        then (kept.count pid = 0 ∧ s' pid ≠ .minded) ∨ (kept.count pid = 1 ∧ s' pid ≠ .none)
        else kept.count pid = 0 ∧ s' pid = s pid)
      (Reaper.pollAll pids) s := by
  induction pids generalizing s with
  | nil => exact fun pid => by simp
  | cons first rest ih =>
    obtain ⟨hfirst, hrest⟩ := List.nodup_cons.1 hnodup
    refine obeys_bind_iff.2 ⟨fun _ => hmine first (by simp), fun answer => ?_⟩
    have hmine' : ∀ pid ∈ rest, Function.update s first (standing answer) pid ≠ .none := by
      intro pid hpid
      have hne : pid ≠ first := fun h => hfirst (h ▸ hpid)
      rw [Function.update_of_ne hne]
      exact hmine pid (List.mem_cons_of_mem _ hpid)
    refine obeys_bind_iff.2 ((ih hrest hmine').mono fun kept s' hs' pid => ?_)
    by_cases hpid : pid = first
    · subst hpid
      obtain ⟨hcount, hstanding⟩ : kept.count pid = 0 ∧ s' pid = standing answer := by
        simpa [hfirst] using hs' pid
      rw [if_pos (by simp), hstanding]
      rcases answer with e | _ | status
      · exact .inl ⟨hcount, by simp [standing]⟩
      · exact .inr ⟨by simp [Reaper.stays, hcount], by simp [standing]⟩
      · exact .inl ⟨hcount, by simp [standing]⟩
    · have hkept : List.count pid (if Reaper.stays answer then first :: kept else kept) =
          kept.count pid := by
        split
        · exact List.count_cons_of_ne (Ne.symm hpid)
        · rfl
      have := hs' pid
      rw [Function.update_of_ne hpid] at this
      rw [hkept]
      simpa [hpid] using this

/-- The children that a reaper has. -/
def reaps (r : Reaper) (pid : Pid) : Nat :=
  r.pending.count pid + r.inbox.count pid

/-- The care for the children in a list. -/
def Care.ofList (pids : List Pid) : Care :=
  fun pid => if pid ∈ pids then .minded else .none

/-- **A round of the reaper** passes on every child that it has begun with. -/
theorem obeys_round {r : Reaper} (hnodup : (r.pending ++ r.inbox).Nodup) :
    Obeys custody (fun r' s => s.EndsWith (reaps r')) r.round
      (Care.ofList (r.pending ++ r.inbox)) := by
  have hmine : ∀ pid ∈ r.pending ++ r.inbox, Care.ofList (r.pending ++ r.inbox) pid ≠ .none :=
    fun pid hpid => by simp only [Care.ofList, if_pos hpid]; simp
  refine obeys_bind_iff.2 ((obeys_pollAll hnodup hmine).mono fun kept s hs pid => ?_)
  have hkept : reaps { inbox := [], pending := kept } pid = kept.count pid := by simp [reaps]
  rw [hkept]
  have := hs pid
  split at this
  · exact this
  · rename_i hpid
    exact .inl ⟨this.1, by simp [this.2, Care.ofList, hpid]⟩

end Launcher.Children
