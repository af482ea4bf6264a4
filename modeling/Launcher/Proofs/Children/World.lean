import Mathlib.Logic.Relation
import Launcher.Proofs.Children.Records
/-!
# Launches, handles and the reaper side by side

A program makes any number of launches, uses the handles that it gets, gives them up again, and has
a reaper beside it. All of this goes on at the same time: every activity is a dialogue of which some
calls have been answered, and any of them may be the next to get an answer. The host may give any
answer at any time, with one exception: a new child does not get the number of one that is still to
be collected, and has not been given up either. A host keeps the number of a child for as long as
nobody has collected it.

A number stands for the newest child that has it. Which children an activity has in its care is
written down beside what is left of its dialogue; the host and the dialogues know nothing of it.

## Main definitions

* `Launcher.Children.World` — all children, activities and handles, and the reaper.
* `Launcher.Children.Request`, `Launcher.Children.Operation` — what a program can do.
* `Launcher.Children.Step`, `Launcher.Children.Reachable` — the runs of a program.
-/

namespace Launcher.Children

open Host Host.Dialogue

/-! ## Activities -/

/-- An activity under way: the children in its care, and what is left of its dialogue. -/
structure Activity (α : Type) where
  care : Care
  rest : Dialogue α

/-- What is being done to a child in the care of an activity. -/
inductive Role where
  /-- The activity is a launch, or has to do with a job only. -/
  | launch
  /-- A handle is being given up. -/
  | drop
  /-- A live handle is being used, and is given back at the end. -/
  | use
  deriving DecidableEq

/-- An activity of the program. At its end there may be a handle. -/
structure Task where
  role : Role
  activity : Activity (Option Process)

/-- The reaper: between two rounds, with the children that it polls; or in a round. -/
inductive Thread where
  | resting (pending : List Pid)
  | polling (activity : Activity Reaper)

/-- What a program can ask for without a handle. -/
inductive Request where
  | tryLaunch (c : Config)
  | tryLaunchAsJob (c : Config) (o : JobOptions)
  | launch (c : Config)
  | launchAsJob (c : Config) (o : JobOptions)
  | runAndWait (commandLine : String) (directory : Option String)
  | runDetached (commandLine : String)
  | runForPid (c : Config)
  | terminateJob (j : Job)
  | releaseJob (j : Job)

/-- The dialogue of a request. Of what it gives back, only the handle matters here. -/
def Request.dialogue : Request → Dialogue (Option Process)
  | tryLaunch c => do pure (handle? (← Launcher.tryLaunch c))
  | tryLaunchAsJob c o => do pure (handle? (← Launcher.tryLaunchAsJob c o))
  | launch c => do pure (← Launcher.launch c).process
  | launchAsJob c o => do pure (← Launcher.launchAsJob c o).process
  | runAndWait commandLine directory => do
    let _ ← Launcher.runAndWait commandLine directory
    pure none
  | runDetached commandLine => do
    let _ ← Launcher.runDetached commandLine
    pure none
  | runForPid c => do
    let _ ← Launcher.runForPid c
    pure none
  | terminateJob j => do
    let _ ← j.terminate
    pure none
  | releaseJob j => do
    j.release
    pure none

/-- A request passes on the child that it starts, if it starts one. -/
lemma Request.obeys (r : Request) :
    Obeys custody (fun h s => s.EndsWith (holds? h)) r.dialogue Care.empty := by
  have hs : Care.EndsWith (holds? none) Care.empty := Care.endsWith_empty
  cases r with
  | tryLaunch c => exact obeys_bind_iff.2 (obeys_tryLaunch c hs)
  | tryLaunchAsJob c o => exact obeys_bind_iff.2 (obeys_tryLaunchAsJob c o hs)
  | launch c => exact obeys_bind_iff.2 (obeys_launch c hs)
  | launchAsJob c o => exact obeys_bind_iff.2 (obeys_launchAsJob c o hs)
  | runAndWait commandLine directory => exact obeys_bind_iff.2 (obeys_runDraft _ hs)
  | runDetached commandLine => exact obeys_bind_iff.2 (obeys_runDraft _ hs)
  | runForPid c => exact obeys_bind_iff.2 (obeys_runForPid c hs)
  | terminateJob j => exact obeys_bind_iff.2 (obeys_of_only j.only_terminate fun _ => hs)
  | releaseJob j => exact obeys_bind_iff.2 (obeys_of_only (only_releaseJob (some j)) fun _ => hs)

/-- What a program can do with a handle and keep it. -/
inductive Operation where
  | wait
  | waitFor (limit : Nat)
  | kill

/-- The dialogue of an operation on a handle. The handle is there again at its end. -/
def Operation.dialogue (h : Process) : Operation → Dialogue (Option Process)
  | wait => do pure (some (← h.wait).2)
  | waitFor limit => do pure (some (← h.waitFor limit).2)
  | kill => do
    let _ ← h.kill
    pure (some h)

/-- The release of a handle. Nothing is there at its end. -/
def releaseDialogue (h : Process) : Dialogue (Option Process) := do
  h.release
  pure none

/-- The care that begins with a handle. -/
def Care.ofHandle (h : Process) : Care :=
  fun pid => if holds h pid = 1 then .minded else .none

/-- The care of a handle's activity begins with what the handle holds. -/
lemma Care.endsWith_ofHandle (h : Process) : (Care.ofHandle h).EndsWith (holds h) := by
  intro pid
  by_cases hpid : h.ended = none ∧ h.pid = pid
  · exact .inr ⟨if_pos hpid, by simp [ofHandle, holds, hpid]⟩
  · exact .inl ⟨if_neg hpid, by simp [ofHandle, holds, hpid]⟩

/-- The care that begins with a handle is for the child that the handle holds. -/
lemma Care.count_ofHandle (h : Process) (pid : Pid) : (ofHandle h pid).count = holds h pid := by
  by_cases hpid : h.ended = none ∧ h.pid = pid
  · simp [ofHandle, holds, hpid, Standing.count]
  · simp [ofHandle, holds, hpid, Standing.count]

/-- An operation keeps the child of its handle, until that is collected. -/
lemma Operation.obeys (h : Process) (o : Operation) :
    Obeys custody (fun h s => s.EndsWith (holds? h)) (o.dialogue h) (Care.ofHandle h) := by
  have hs := Care.endsWith_ofHandle h
  cases o with
  | wait => exact obeys_bind_iff.2 (obeys_wait hs)
  | waitFor limit => exact obeys_bind_iff.2 (obeys_waitFor limit hs)
  | kill => exact obeys_bind_iff.2 (obeys_of_only h.only_kill fun _ => hs)

/-- The release of a handle passes on the child, or gives it up. -/
lemma obeys_releaseDialogue (h : Process) :
    Obeys custody (fun h s => s.EndsWith (holds? h)) (releaseDialogue h) (Care.ofHandle h) :=
  obeys_bind_iff.2 (obeys_release (Care.endsWith_ofHandle h))

/-! ## The world -/

/-- All children, activities and handles, and the reaper. -/
structure World where
  /-- All children. -/
  children : Records := fun _ => []
  /-- The activities of the program that are under way. -/
  tasks : List Task := []
  /-- The live handles that are not in use. -/
  handles : List Process := []
  /-- The children that have been handed over and have not arrived at the reaper. -/
  channel : List Pid := []
  /-- The reaper. -/
  thread : Thread := .resting []

/-- The children and the channel after an event. -/
def World.after (w : World) (e : Event) : World :=
  { w with children := w.children.after e, channel := w.channel ++ e.handedOver }

/-- One step of anything that goes on. -/
inductive Step : World → World → Prop
  /-- A request begins, with nothing in its care. -/
  | request {w : World} (r : Request) :
    Step w { w with tasks := ⟨.launch, ⟨.empty, r.dialogue⟩⟩ :: w.tasks }
  /-- An operation on a live handle begins. -/
  | use {w : World} {before after : List Process} {h : Process} (o : Operation)
      (hhandles : w.handles = before ++ h :: after) :
    Step w { w with
      handles := before ++ after, tasks := ⟨.use, ⟨.ofHandle h, o.dialogue h⟩⟩ :: w.tasks }
  /-- A live handle is being given up. -/
  | drop {w : World} {before after : List Process} {h : Process}
      (hhandles : w.handles = before ++ h :: after) :
    Step w { w with
      handles := before ++ after, tasks := ⟨.drop, ⟨.ofHandle h, releaseDialogue h⟩⟩ :: w.tasks }
  /-- The host answers the next call of an activity of the program. -/
  | answer {w : World} {before after : List Task} {role : Role} {care : Care} {c : Call}
      {next : c.Answer → Dialogue (Option Process)} (answer : c.Answer)
      (htasks : w.tasks = before ++ ⟨role, ⟨care, .ask c next⟩⟩ :: after)
      (hadmits : w.children.Admits (event ⟨c, answer⟩)) :
    Step w { w.after (event ⟨c, answer⟩) with
      tasks := before ++ ⟨role, ⟨care.after (event ⟨c, answer⟩), next answer⟩⟩ :: after }
  /-- An activity of the program is over. A handle that it gives back is a live one from now on. -/
  | finish {w : World} {before after : List Task} {role : Role} {care : Care} {h : Option Process}
      (htasks : w.tasks = before ++ ⟨role, ⟨care, .done h⟩⟩ :: after) :
    Step w { w with
      children := w.children.leave care (holds? h)
      tasks := before ++ after
      handles := h.toList ++ w.handles }
  /-- A child ends. -/
  | exit {w : World} (pid : Pid) : Step w { w with children := w.children.amend pid (·.exit) }
  /-- The reaper begins a round with what it polls and all that has arrived. -/
  | beginRound {w : World} {pending : List Pid} (hthread : w.thread = .resting pending) :
    Step w { w with
      channel := []
      thread := .polling ⟨.ofList (pending ++ w.channel),
        Reaper.round { inbox := w.channel, pending }⟩ }
  /-- The host answers the next call of the reaper. -/
  | answerReaper {w : World} {care : Care} {c : Call} {next : c.Answer → Dialogue Reaper}
      (answer : c.Answer) (hthread : w.thread = .polling ⟨care, .ask c next⟩)
      (hadmits : w.children.Admits (event ⟨c, answer⟩)) :
    Step w { w.after (event ⟨c, answer⟩) with
      thread := .polling ⟨care.after (event ⟨c, answer⟩), next answer⟩ }
  /-- The round is over. What has arrived in between stays in the channel. -/
  | endRound {w : World} {care : Care} {r : Reaper}
      (hthread : w.thread = .polling ⟨care, .done r⟩) :
    Step w { w with
      children := w.children.leave care (reaps r)
      channel := r.inbox ++ w.channel
      thread := .resting r.pending }

/-- The worlds that a program can come to. -/
def Reachable (w : World) : Prop :=
  Relation.ReflTransGen Step {} w

/-! ## Where a child is -/

/-- All counts of some things, taken together. -/
def total {α : Type} (count : α → Nat) (as : List α) : Nat :=
  as.foldr (fun a n => count a + n) 0

/-- How often a number is in the care of some activities. -/
def inCare (tasks : List Task) (pid : Pid) : Nat :=
  total (fun t => (t.activity.care pid).count) tasks

/-- How often some handles hold a number. -/
def inHandles (handles : List Process) (pid : Pid) : Nat :=
  total (fun h => holds h pid) handles

namespace World

/-- How often a number is being handled inside a launch or the release of a handle. -/
def handled (w : World) (pid : Pid) : Nat :=
  inCare (w.tasks.filter fun t => t.role ≠ .use) pid

/-- How often a number is held by a live handle, in use or not. -/
def held (w : World) (pid : Pid) : Nat :=
  inHandles w.handles pid + inCare (w.tasks.filter fun t => t.role = .use) pid

/-- How often a number is in the channel of the reaper or is polled by it. -/
def inReaper (w : World) (pid : Pid) : Nat :=
  w.channel.count pid +
    match w.thread with
    | .resting pending => pending.count pid
    | .polling activity => (activity.care pid).count

end World

end Launcher.Children
