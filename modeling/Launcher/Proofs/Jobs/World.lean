import Mathlib.Logic.Relation
import Mathlib.Data.List.Perm.Basic
import Launcher.Proofs.Jobs.Leading
import Launcher.Proofs.Jobs.Population
/-!
# Jobs in a world of processes

A program makes any number of launches, and gets a handle with each job. It ends a job by its
handle, as often as it likes, and drops the handle at some time. Meanwhile everybody else goes on:
processes fork, found groups, are killed, end and are collected, in any order, and numbers are given
out again as soon as no process and no group has them any more. Only the launcher collects a child
that it has started, as long as it has it in its hands.

What is done with a handle is one call to the host, so it is one step here. A launch makes many
calls, and between any two of them the world may change.

Which process a launch has started, and so which process a job is about, is written down beside the
launch and the handle; neither the host nor the launcher knows more of it than a number.

## Main definitions

* `Launcher.Jobs.Terminates`, `Launcher.Jobs.Releases` — what comes of ending a job, and of dropping
  its handle.
* `Launcher.Jobs.Request` — the launches.
* `Launcher.Jobs.World`, `Launcher.Jobs.Step`, `Launcher.Jobs.Reachable` — the runs of a program.
* `Launcher.Jobs.World.Sound` — the invariant.

## Main results

* `Launcher.Jobs.Request.obeys` — every launch keeps to the protocol of jobs.
* `Launcher.Jobs.World.Sound.step`, `Launcher.Jobs.World.Sound.of_reachable` — every step keeps the
  invariant, so it holds in every world that a program can come to.
-/

namespace Launcher.Jobs

open Host Host.Dialogue

/-! ## Handles -/

/-- The job is ended by its handle, with a result. -/
def Terminates (p : Population) (j : Job) (result : Except Fault Unit) (p' : Population) : Prop :=
  ∃ trace, Run j.terminate trace result ∧ Served Serves p trace p'

/-- The handle of the job is dropped, with these calls to the host. -/
def Releases (p : Population) (j : Job) (trace : List Exchange) (p' : Population) : Prop :=
  Run j.release trace () ∧ Served Serves p trace p'

/-- The fault of a group that the host does not end. -/
def refusal (j : Job) (e : Errno) : Fault :=
  .terminateFailed (.group j.group) e.named (some e.code)

/-- What is told about a group that was to be killed. It is no fault if nobody is in it. -/
def verdict (j : Job) : Except Errno Unit → Except Fault Unit
  | .ok () => .ok ()
  | .error e => if e = .noProcess then .ok () else .error (refusal j e)

variable {p p' : Population} {j : Job}

/-- Ending a job is a call to the host, whose answer is told. -/
lemma terminate_eq (j : Job) :
    j.terminate = call (.killGroup j.group) >>= fun answer => pure (verdict j answer) := by
  refine congrArg (call (.killGroup j.group) >>= ·) (funext fun answer => ?_)
  rcases answer with e | ⟨⟩
  · by_cases he : e = .noProcess
    · simp only [verdict, if_pos he]
    · simp only [verdict, if_neg he, refusal]
  · rfl

/-- Ending a job is one call. -/
lemma terminates_iff {result : Except Fault Unit} :
    Terminates p j result p' ↔
      ∃ answer, p.KillsGroup j.group answer p' ∧ result = verdict j answer := by
  rw [Terminates, terminate_eq]
  constructor
  · rintro ⟨trace, run, hserved⟩
    obtain ⟨answer, rest, hend, rfl⟩ := run_call_seq_iff.1 run
    obtain ⟨rfl, hresult⟩ := run_pure_iff.1 hend
    exact ⟨answer, served_singleton_iff.1 hserved, hresult⟩
  · rintro ⟨answer, hkills, hresult⟩
    exact ⟨_, run_call_seq_iff.2 ⟨answer, [], run_pure_iff.2 ⟨rfl, hresult⟩, rfl⟩,
      served_singleton_iff.2 hkills⟩

/-- Dropping a handle is the same call, or none. -/
lemma releases_iff {trace : List Exchange} :
    Releases p j trace p' ↔
      if j.killOnClose
      then ∃ answer, trace = [⟨.killGroup j.group, answer⟩] ∧ p.KillsGroup j.group answer p'
      else trace = [] ∧ p' = p := by
  rw [Releases, Job.release]
  split
  · rw [run_call_seq_iff]
    constructor
    · rintro ⟨⟨answer, rest, hrest, rfl⟩, hserved⟩
      obtain ⟨rfl, -⟩ := run_pure_iff.1 hrest
      exact ⟨answer, rfl, served_singleton_iff.1 hserved⟩
    · rintro ⟨answer, rfl, hkills⟩
      exact ⟨⟨answer, [], run_pure_iff.2 ⟨rfl, rfl⟩, rfl⟩, served_singleton_iff.2 hkills⟩
  · rw [run_pure_iff]
    constructor
    · rintro ⟨⟨rfl, -⟩, hserved⟩
      exact ⟨rfl, served_nil_iff.1 hserved⟩
    · rintro ⟨rfl, rfl⟩
      exact ⟨⟨rfl, rfl⟩, served_nil_iff.2 rfl⟩

/-- Ending a job is among what can change. -/
lemma Terminates.passes {result : Except Fault Unit} (h : Terminates p j result p') :
    p.Passes none p' := by
  obtain ⟨answer, hkills, -⟩ := terminates_iff.1 h
  exact hkills.passes

/-- Dropping the handle of a job is among what can change. -/
lemma Releases.passes {trace : List Exchange} (h : Releases p j trace p') :
    p.Passes none p' := by
  have h := releases_iff.1 h
  split at h
  · obtain ⟨answer, -, hkills⟩ := h
    exact hkills.passes
  · rw [h.2]
    exact .refl

/-! ## Launches -/

/-- The launches. -/
inductive Request where
  | tryLaunch (c : Config)
  | tryLaunchAsJob (c : Config) (o : JobOptions)
  | launch (c : Config)
  | launchAsJob (c : Config) (o : JobOptions)
  | runAndWait (commandLine : String) (directory : Option String)
  | runDetached (commandLine : String)
  | runForPid (c : Config)

/-- The dialogue of a launch. Of what it gives back, only the job matters here. -/
def Request.dialogue : Request → Dialogue (Option Job)
  | tryLaunch c => do
    match ← Launcher.tryLaunch c with
    | .ok l => pure l.job
    | .error _ => pure none
  | tryLaunchAsJob c o => do
    match ← Launcher.tryLaunchAsJob c o with
    | .ok l => pure l.job
    | .error _ => pure none
  | launch c => do pure (← Launcher.launch c).job
  | launchAsJob c o => do pure (← Launcher.launchAsJob c o).job
  | runAndWait commandLine directory => do
    let _ ← Launcher.runAndWait commandLine directory
    pure none
  | runDetached commandLine => do
    let _ ← Launcher.runDetached commandLine
    pure none
  | runForPid c => do
    let _ ← Launcher.runForPid c
    pure none

/-- **Every launch** kills no group, and gives back a job only of a confirmed group. -/
theorem Request.obeys (r : Request) : Obeys leading (fun job s => s.Gives job) r.dialogue {} := by
  cases r with
  | tryLaunch c =>
    refine obeys_bind_iff.2 ((obeys_tryLaunch c rfl).mono fun result s hs => ?_)
    rcases result with fault | l
    · exact obeys_pure_iff.2 s.gives_none
    · exact obeys_pure_iff.2 fun j hj => by rw [(hs l rfl).2] at hj; cases hj
  | tryLaunchAsJob c o =>
    refine obeys_bind_iff.2 ((obeys_tryLaunchAsJob c o rfl).mono fun result s hs => ?_)
    rcases result with fault | l
    · exact obeys_pure_iff.2 s.gives_none
    · exact obeys_pure_iff.2 (hs l rfl)
  | launch c =>
    refine obeys_bind_iff.2 ((obeys_launch c rfl).mono fun outcome s hs => ?_)
    exact obeys_pure_iff.2 fun j hj => by rw [hs.2] at hj; cases hj
  | launchAsJob c o => exact obeys_bind_iff.2 (obeys_launchAsJob c o rfl)
  | runAndWait commandLine directory =>
    rw [dialogue, Launcher.runAndWait]
    exact obeys_bind_iff.2 ((obeys_runDraft _ rfl).mono fun _ s _ => s.gives_none)
  | runDetached commandLine =>
    rw [dialogue, Launcher.runDetached]
    exact obeys_bind_iff.2 ((obeys_runDraft _ rfl).mono fun _ s _ => s.gives_none)
  | runForPid c =>
    exact obeys_bind_iff.2 ((obeys_runForPid c rfl).mono fun _ s _ => s.gives_none)

/-! ## The world -/

/-- A launch under way: the process that it has started last, how far it has come, and what is left
of its dialogue. -/
structure Task where
  child : Option Identity := none
  stage : Stage := {}
  rest : Dialogue (Option Job)

/-- The handle of a job, with the process that its launch has started. -/
structure Handle where
  job : Job
  child : Option Identity

/-- All processes, the launches under way, and the handles that have not been dropped. -/
structure World where
  people : Population
  tasks : List Task := []
  handles : List Handle := []

/-- The process that a launch has started last, after an exchange. -/
def childAfter (p : Population) (child : Option Identity) : Exchange → Option Identity
  | ⟨.start _, .ok pid⟩ => some ⟨pid, p.births⟩
  | _ => child

/-- One step of anything that goes on. -/
inductive Step : World → World → Prop
  /-- A launch begins. -/
  | request {w : World} (r : Request) :
    Step w { w with tasks := { rest := r.dialogue } :: w.tasks }
  /-- The host answers the next call of a launch. -/
  | answer {w : World} {people : Population} {before after : List Task} {child : Option Identity}
      {stage : Stage} {c : Call} {next : c.Answer → Dialogue (Option Job)} (answer : c.Answer)
      (htasks : w.tasks = before ++ ⟨child, stage, .ask c next⟩ :: after)
      (hserves : Serves w.people ⟨c, answer⟩ people) :
    Step w { w with
      people
      tasks := before ++
        ⟨childAfter w.people child ⟨c, answer⟩, stage.after ⟨c, answer⟩, next answer⟩ :: after }
  /-- A launch is over. A job that it gives back has a handle from now on. -/
  | finish {w : World} {before after : List Task} {child : Option Identity} {stage : Stage}
      {job : Option Job} (htasks : w.tasks = before ++ ⟨child, stage, .done job⟩ :: after) :
    Step w { w with
      tasks := before ++ after
      handles := (job.map fun j => ⟨j, child⟩).toList ++ w.handles }
  /-- A job is ended by its handle. -/
  | terminate {w : World} {people : Population} {x : Handle} {result : Except Fault Unit}
      (hx : x ∈ w.handles) (hterminates : Terminates w.people x.job result people) :
    Step w { w with people }
  /-- The handle of a job is dropped. -/
  | drop {w : World} {people : Population} {before after : List Handle} {x : Handle}
      {trace : List Exchange} (hhandles : w.handles = before ++ x :: after)
      (hreleases : Releases w.people x.job trace people) :
    Step w { w with people, handles := before ++ after }
  /-- Something goes on without the launcher. -/
  | happen {w : World} {people : Population} (hhappens : Happens w.people people) :
    Step w { w with people }
  /-- A process that has ended is collected, by its parent or by the reaper of the launcher. It is
  not the child that a launch has in its hands. -/
  | collect {w : World} {people : Population} {pid : Pid}
      (hcollects : w.people.Collects pid people)
      (hfree : ∀ t ∈ w.tasks, t.stage.child ≠ some pid) :
    Step w { w with people }

/-- The worlds that a program can come to. In the beginning there are some processes, the launcher
among them, and neither launches nor handles. -/
def Reachable (w : World) : Prop :=
  ∃ people : Population, people.Sound ∧ Relation.ReflTransGen Step { people } w

/-! ## The invariant -/

/-- What is true of a launch at any time: the process that it has started is the child that it has
in its hands, and leads a group of its own, once that is confirmed. -/
structure Task.Fits (p : Population) (t : Task) : Prop where
  obeys : Obeys leading (fun job s => s.Gives job) t.rest t.stage
  launched : ∀ c, t.child = some c → p.Launched c
  minded : ∀ pid, t.stage.child = some pid →
    ∃ m, p.members pid = some m ∧ t.child = some ⟨pid, m.birth⟩
  leads : ∀ pid, t.stage.group = some pid → ∃ c, t.child = some c ∧ c.pid = pid ∧ p.Leads c

/-- What is true of a handle at any time: its job is the group of the process that its launch has
started, which leads the group. -/
def Handle.Fits (p : Population) (x : Handle) : Prop :=
  ∃ c, x.child = some c ∧ x.job.group = c.pid ∧ p.Leads c

/-- The processes that were started by some launches and for some handles. -/
def startedBy (tasks : List Task) (handles : List Handle) : List Identity :=
  handles.filterMap (·.child) ++ tasks.filterMap (·.child)

/-- **The invariant.** No two launches and handles are about the same process. -/
structure World.Sound (w : World) : Prop where
  people : w.people.Sound
  tasks : ∀ t ∈ w.tasks, t.Fits w.people
  handles : ∀ x ∈ w.handles, x.Fits w.people
  apart : (startedBy w.tasks w.handles).Nodup

variable {gone : Option Pid} {t : Task} {x : Handle} {c : Call}
  {tasks before after : List Task} {handles : List Handle}

/-! ### Launches and handles while the world changes -/

/-- A handle goes on fitting, whatever changes. -/
lemma Handle.Fits.changes (hx : x.Fits p) (h : p.Changes gone p') : x.Fits p' := by
  obtain ⟨c, hchild, hgroup, hleads⟩ := hx
  exact ⟨c, hchild, hgroup, hleads.changes h⟩

/-- A launch goes on, and the processes change. It has the same child in its hands as before and
that is not collected, or none. -/
lemma Task.Fits.go {s : Stage} {rest : Dialogue (Option Job)} (ht : t.Fits p)
    (h : p.Changes gone p') (hobeys : Obeys leading (fun job s => s.Gives job) rest s)
    (hchild : ∀ pid, s.child = some pid → t.stage.child = some pid ∧ gone ≠ some pid)
    (hgroup : s.group = t.stage.group) : Task.Fits p' ⟨t.child, s, rest⟩ := by
  refine ⟨hobeys, fun c hc => (ht.launched c hc).changes h, fun pid hpid => ?_, fun pid hpid => ?_⟩
  · obtain ⟨hmine, hgone⟩ := hchild pid hpid
    obtain ⟨m, hm, hc⟩ := ht.minded pid hmine
    obtain ⟨m', hm', hbirth⟩ := Population.stays_of_changes h hm hgone
    exact ⟨m', hm', by rw [hbirth]; exact hc⟩
  · obtain ⟨c, hc, hcpid, hleads⟩ := ht.leads pid (hgroup.symm.trans hpid)
    exact ⟨c, hc, hcpid, hleads.changes h⟩

/-- Of a call that a launch makes, it is known whom it collects. -/
lemma eq_of_collected {answer : c.Answer} {s : Stage} {pid : Pid} (hallows : s.Allows c)
    (h : collected? ⟨c, answer⟩ = some pid) :
    s.child = some pid ∧ (s.after ⟨c, answer⟩).child = none := by
  cases c with
  | wait q =>
    rcases answer with _ | status <;> cases h
    exact ⟨hallows, rfl⟩
  | poll q | pollFor q =>
    rcases answer with _ | _ | status <;> cases h
    exact ⟨hallows, rfl⟩
  | _ => cases h

/-- What an exchange can mean for a launch: it has a new child; or its child leads a group; or it
has the same child as before, or gives it out of its hands. -/
lemma stage_cases (p : Population) (answer : c.Answer) {s : Stage} (hallows : s.Allows c) :
    (∃ process pid, (⟨c, answer⟩ : Exchange) = ⟨.start process, .ok pid⟩) ∨
    (∃ pid, (⟨c, answer⟩ : Exchange) = ⟨.groupOf pid, .ok pid⟩ ∧ s.child = some pid ∧
      s.after ⟨c, answer⟩ = { s with group := some pid }) ∨
    ((∀ child, childAfter p child ⟨c, answer⟩ = child) ∧
      ((s.after ⟨c, answer⟩).child = none ∨ s.after ⟨c, answer⟩ = s) ∧
      (s.after ⟨c, answer⟩).group = s.group) := by
  cases c with
  | start process =>
    rcases answer with e | pid
    · exact .inr (.inr ⟨fun _ => rfl, .inr rfl, rfl⟩)
    · exact .inl ⟨process, pid, rfl⟩
  | groupOf pid =>
    rcases answer with e | group
    · exact .inr (.inr ⟨fun _ => rfl, .inr rfl, rfl⟩)
    · by_cases hgroup : group = pid
      · subst hgroup
        exact .inr (.inl ⟨group, rfl, hallows, by simp [Stage.after]⟩)
      · have hafter : s.after ⟨.groupOf pid, .ok group⟩ = s := by simp [Stage.after, hgroup]
        exact .inr (.inr ⟨fun _ => rfl, .inr hafter, by rw [hafter]⟩)
  | wait pid =>
    rcases answer with e | status
    · exact .inr (.inr ⟨fun _ => rfl, .inr rfl, rfl⟩)
    · exact .inr (.inr ⟨fun _ => rfl, .inl rfl, rfl⟩)
  | poll pid | pollFor pid =>
    rcases answer with e | _ | status
    · exact .inr (.inr ⟨fun _ => rfl, .inr rfl, rfl⟩)
    · exact .inr (.inr ⟨fun _ => rfl, .inr rfl, rfl⟩)
    · exact .inr (.inr ⟨fun _ => rfl, .inl rfl, rfl⟩)
  | adopt pid => exact .inr (.inr ⟨fun _ => rfl, .inl rfl, rfl⟩)
  | _ => exact .inr (.inr ⟨fun _ => rfl, .inr rfl, rfl⟩)

/-- A launch whose call is answered. -/
lemma Task.Fits.answer {child : Option Identity} {stage : Stage}
    {next : c.Answer → Dialogue (Option Job)} (ht : Task.Fits p ⟨child, stage, .ask c next⟩)
    (hp : p.Sound) (answer : c.Answer) (hserves : Serves p ⟨c, answer⟩ p') :
    Task.Fits p'
      ⟨childAfter p child ⟨c, answer⟩, stage.after ⟨c, answer⟩, next answer⟩ := by
  obtain ⟨hallows, hnext⟩ := ht.obeys
  have hobeys := hnext answer
  have hchanges := Population.changes_of_serves hserves
  rcases stage_cases p answer hallows with
    ⟨process, pid, he⟩ | ⟨pid, he, hchild, hafter⟩ | ⟨hsame, hchild, hgroup⟩
  · -- the child has just been born
    cases he
    obtain ⟨group, guarded, hfresh, -, rfl⟩ := hserves
    refine ⟨hobeys, fun c hc => ?_, fun q hq => ?_, nofun⟩
    · cases hc
      exact ⟨Nat.lt_succ_self _, hfresh.1, Ne.symm (hp.home_of_fresh hfresh)⟩
    · cases hq
      exact ⟨{ birth := p.births, group, guarded }, by simp, rfl⟩
  · -- the host has confirmed the group of the child, which is still there
    cases he
    obtain ⟨⟨m, hm, hgroup⟩, rfl⟩ := hserves
    obtain ⟨n, hn, hmine⟩ := ht.minded pid hchild
    obtain rfl : m = n := Option.some.inj (hm.symm.trans hn)
    have hleads : p'.Leads ⟨pid, m.birth⟩ :=
      (ht.launched _ hmine).leads hp hm hgroup rfl
    rw [hafter]
    refine ⟨hafter ▸ hobeys, ht.launched, ht.minded, fun q hq => ?_⟩
    cases hq
    exact ⟨_, hmine, rfl, hleads⟩
  · rw [hsame]
    refine ht.go hchanges hobeys (fun pid hpid => ?_) hgroup
    have hafter : stage.after ⟨c, answer⟩ = stage :=
      hchild.resolve_left fun hnone => by rw [hnone] at hpid; cases hpid
    refine ⟨hafter ▸ hpid, fun hgone => ?_⟩
    rw [(eq_of_collected hallows hgone).2] at hpid
    cases hpid

/-! ### Which processes were started -/

/-- After an exchange a launch has the same process as before, or a new one. -/
lemma childAfter_cases (p : Population) (child : Option Identity) (e : Exchange) :
    childAfter p child e = child ∨ ∃ pid, childAfter p child e = some ⟨pid, p.births⟩ := by
  rcases e with ⟨c, answer⟩
  cases c with
  | start process =>
    rcases answer with e | pid
    · exact .inl rfl
    · exact .inr ⟨pid, rfl⟩
  | _ => exact .inl rfl

/-- A launch that gives back a job leaves its process to the handle. -/
lemma startedBy_handle (j : Job) (child : Option Identity) (tasks : List Task)
    (handles : List Handle) :
    startedBy tasks (⟨j, child⟩ :: handles) = child.toList ++ startedBy tasks handles := by
  cases child <;> rfl

/-- The processes that were started, one launch more. -/
lemma startedBy_cons (t : Task) (tasks : List Task) (handles : List Handle) :
    (startedBy (t :: tasks) handles).Perm (t.child.toList ++ startedBy tasks handles) := by
  cases hchild : t.child with
  | none => simp [startedBy, hchild]
  | some c =>
    simp only [startedBy, List.filterMap_cons, hchild, Option.toList_some, List.singleton_append]
    exact List.perm_middle

/-- The order of the launches and handles does not matter. -/
lemma startedBy_perm {tasks' : List Task} {handles' : List Handle} (h : tasks.Perm tasks')
    (h' : handles.Perm handles') : (startedBy tasks handles).Perm (startedBy tasks' handles') :=
  (h'.filterMap _).append (h.filterMap _)

/-- Two ways to take one thing out of a list, where the second leaves nothing of what the first has
taken: it is the same thing. -/
lemma eq_of_split {α : Type} {a b c d : List α} {x y : α} (h : a ++ x :: b = c ++ y :: d)
    (hx : x ∉ c ++ d) : x = y ∧ (c ++ d).Perm (a ++ b) := by
  have hperm : (y :: (c ++ d)).Perm (x :: (a ++ b)) :=
    List.perm_middle.symm.trans (h ▸ List.perm_middle)
  have hmem : x ∈ y :: (c ++ d) := hperm.mem_iff.2 List.mem_cons_self
  obtain rfl : x = y := (List.mem_cons.1 hmem).resolve_right hx
  exact ⟨rfl, hperm.cons_inv⟩

/-- The launches beside one of all. -/
lemma mem_of_split (htasks : tasks = before ++ t :: after) :
    ∀ u ∈ before ++ after, u ∈ tasks := by
  intro u hu
  rw [htasks]
  exact List.perm_middle.mem_iff.2 (List.mem_cons_of_mem _ hu)

/-- The processes that were started, one launch taken out. -/
lemma startedBy_middle (t : Task) (before after : List Task) (handles : List Handle) :
    (startedBy (before ++ t :: after) handles).Perm
      (t.child.toList ++ startedBy (before ++ after) handles) :=
  (startedBy_perm List.perm_middle (.refl _)).trans (startedBy_cons t _ handles)

/-- The processes that were started, one handle taken out. -/
lemma startedBy_middle_handle (x : Handle) (handles handles' : List Handle)
    (tasks : List Task) :
    (startedBy tasks (handles ++ x :: handles')).Perm
      (x.child.toList ++ startedBy tasks (handles ++ handles')) := by
  rw [← startedBy_handle x.job x.child]
  exact startedBy_perm (.refl _) List.perm_middle

/-- The process of a launch counts as started. -/
lemma mem_startedBy_of_mem_tasks {c : Identity} (ht : t ∈ tasks) (hc : t.child = some c) :
    c ∈ startedBy tasks handles :=
  List.mem_append_right _ (List.mem_filterMap.2 ⟨t, ht, hc⟩)

/-- The process of a handle counts as started. -/
lemma mem_startedBy_of_mem_handles {c : Identity} (hx : x ∈ handles) (hc : x.child = some c) :
    c ∈ startedBy tasks handles :=
  List.mem_append_left _ (List.mem_filterMap.2 ⟨x, hx, hc⟩)

namespace World.Sound

variable {w : World} {people : Population}

/-- All processes that were started have been counted. -/
lemma born (hw : w.Sound) {c : Identity} (hc : c ∈ startedBy w.tasks w.handles) :
    c.birth < w.people.births := by
  rcases List.mem_append.1 hc with hc | hc
  · obtain ⟨x, hx, hchild⟩ := List.mem_filterMap.1 hc
    obtain ⟨c', hc', -, hleads⟩ := hw.handles x hx
    obtain rfl : c = c' := Option.some.inj (hchild.symm.trans hc')
    exact hleads.born
  · obtain ⟨t, ht, hchild⟩ := List.mem_filterMap.1 hc
    exact ((hw.tasks t ht).launched c hchild).born

/-! ### The steps -/

/-- The processes change, and the child that a launch has in its hands is not collected. -/
lemma change (hw : w.Sound) (h : w.people.Changes gone people)
    (hfree : ∀ t ∈ w.tasks, ∀ pid, t.stage.child = some pid → gone ≠ some pid) :
    World.Sound { w with people } :=
  ⟨hw.people.changes h,
    fun t ht => (hw.tasks t ht).go h (hw.tasks t ht).obeys
      (fun pid hpid => ⟨hpid, hfree t ht pid hpid⟩) rfl,
    fun x hx => (hw.handles x hx).changes h, hw.apart⟩

/-- The processes change, and nobody is collected. -/
lemma pass (hw : w.Sound) (h : w.people.Changes none people) : World.Sound { w with people } :=
  hw.change h fun _ _ _ _ => nofun

/-- A launch begins. -/
lemma request (hw : w.Sound) (r : Request) :
    World.Sound { w with tasks := { rest := r.dialogue } :: w.tasks } := by
  refine ⟨hw.people, fun t ht => ?_, hw.handles,
    (startedBy_cons _ w.tasks w.handles).nodup_iff.2 hw.apart⟩
  rcases List.mem_cons.1 ht with rfl | ht
  · exact ⟨r.obeys, nofun, nofun, nofun⟩
  · exact hw.tasks t ht

/-- Another launch does not have the child of this one in its hands. -/
lemma ne_of_minded (hw : w.Sound) (htasks : w.tasks = before ++ t :: after) {u : Task}
    (hu : u ∈ before ++ after) {pid : Pid} (ht : t.stage.child = some pid) :
    u.stage.child ≠ some pid := by
  intro hsame
  obtain ⟨m, hm, hmine⟩ := (hw.tasks t (by simp [htasks])).minded pid ht
  obtain ⟨n, hn, hother⟩ := (hw.tasks u (mem_of_split htasks u hu)).minded pid hsame
  obtain rfl : m = n := Option.some.inj (hm.symm.trans hn)
  have hapart := hw.apart
  rw [htasks, (startedBy_middle t before after w.handles).nodup_iff, hmine] at hapart
  exact (List.nodup_cons.1 hapart).1 (mem_startedBy_of_mem_tasks hu hother)

/-- The host answers the next call of a launch. -/
lemma answer {child : Option Identity} {stage : Stage} {next : c.Answer → Dialogue (Option Job)}
    (hw : w.Sound) (answer : c.Answer)
    (htasks : w.tasks = before ++ ⟨child, stage, .ask c next⟩ :: after)
    (hserves : Serves w.people ⟨c, answer⟩ people) :
    World.Sound { w with
      people
      tasks := before ++
        ⟨childAfter w.people child ⟨c, answer⟩, stage.after ⟨c, answer⟩, next answer⟩ ::
          after } := by
  have hmine := hw.tasks ⟨child, stage, .ask c next⟩ (by simp [htasks])
  have hchanges := Population.changes_of_serves hserves
  refine ⟨hw.people.changes hchanges, fun t ht => ?_,
    fun x hx => (hw.handles x hx).changes hchanges, ?_⟩
  · rcases List.mem_cons.1 (List.perm_middle.mem_iff.1 ht) with rfl | hu
    · exact hmine.answer hw.people answer hserves
    · have hfits := hw.tasks t (mem_of_split htasks t hu)
      refine hfits.go hchanges hfits.obeys (fun pid hpid => ⟨hpid, fun hgone => ?_⟩) rfl
      have hcollected := (eq_of_collected hmine.obeys.1 hgone).1
      exact hw.ne_of_minded htasks hu hcollected hpid
  · have hapart := hw.apart
    rw [htasks, (startedBy_middle _ before after w.handles).nodup_iff] at hapart
    refine (startedBy_middle _ before after w.handles).nodup_iff.2 ?_
    rcases childAfter_cases w.people child ⟨c, answer⟩ with hsame | ⟨pid, hnew⟩
    · rw [hsame]
      exact hapart
    · -- a new child has not been counted before
      rw [hnew]
      refine List.nodup_cons.2 ⟨fun hmem => ?_, (List.nodup_append.1 hapart).2.1⟩
      have hold : (⟨pid, w.people.births⟩ : Identity) ∈ startedBy w.tasks w.handles := by
        rw [htasks]
        exact (startedBy_middle _ before after w.handles).mem_iff.2 (List.mem_append_right _ hmem)
      exact Nat.lt_irrefl _ (hw.born hold)

/-- A launch is over. -/
lemma finish {child : Option Identity} {stage : Stage} {job : Option Job} (hw : w.Sound)
    (htasks : w.tasks = before ++ ⟨child, stage, .done job⟩ :: after) :
    World.Sound { w with
      tasks := before ++ after
      handles := (job.map fun j => ⟨j, child⟩).toList ++ w.handles } := by
  have hmine := hw.tasks ⟨child, stage, .done job⟩ (by simp [htasks])
  have hgives : stage.Gives job := hmine.obeys
  have hapart := hw.apart
  rw [htasks, (startedBy_middle _ before after w.handles).nodup_iff] at hapart
  refine ⟨hw.people, fun t ht => hw.tasks t (mem_of_split htasks t ht), fun x hx => ?_, ?_⟩
  · rcases List.mem_append.1 hx with hx | hx
    · obtain ⟨j, rfl, rfl⟩ : ∃ j, job = some j ∧ x = ⟨j, child⟩ := by
        cases job with
        | none => cases hx
        | some j => exact ⟨j, rfl, List.mem_singleton.1 hx⟩
      obtain ⟨c, hc, hpid, hleads⟩ := hmine.leads j.group (hgives j rfl)
      exact ⟨c, hc, hpid.symm, hleads⟩
    · exact hw.handles x hx
  · cases job with
    | none => exact (List.nodup_append.1 hapart).2.1
    | some j =>
      rw [← startedBy_handle j child] at hapart
      exact hapart

/-- A handle is dropped. -/
lemma drop {handles handles' : List Handle} (hw : w.Sound)
    (hhandles : w.handles = handles ++ x :: handles') :
    World.Sound { w with handles := handles ++ handles' } := by
  have hsub : (handles ++ handles').Sublist w.handles := by
    rw [hhandles]
    exact (List.sublist_cons_self _ _).append_left _
  exact ⟨hw.people, hw.tasks, fun y hy => hw.handles y (hsub.subset hy),
    hw.apart.sublist ((hsub.filterMap _).append_right _)⟩

/-- **Every step keeps the invariant.** -/
theorem step {w' : World} (hw : w.Sound) (hstep : Step w w') : w'.Sound := by
  cases hstep with
  | request r => exact hw.request r
  | answer a htasks hserves => exact hw.answer a htasks hserves
  | finish htasks => exact hw.finish htasks
  | terminate hx hterminates => exact hw.pass (.pass hterminates.passes)
  | drop hhandles hreleases => exact (hw.pass (.pass hreleases.passes)).drop hhandles
  | happen hhappens => exact hw.pass (Population.changes_of_happens hhappens)
  | collect hcollects hfree =>
    refine hw.change (.pass hcollects.passes) fun t ht pid hpid hgone => ?_
    exact hfree t ht (hpid.trans hgone.symm)

/-- In the beginning there is nothing that was started. -/
lemma init (hp : people.Sound) : World.Sound { people } :=
  ⟨hp, nofun, nofun, List.nodup_nil⟩

/-- The invariant holds after a run, by induction along it. -/
lemma run {w' : World} (hw : w.Sound) (hrun : Relation.ReflTransGen Step w w') : w'.Sound := by
  induction hrun with
  | refl => exact hw
  | tail _ hstep ih => exact ih.step hstep

/-- **Every world that a program can come to is sound.** -/
theorem of_reachable (h : Reachable w) : w.Sound := by
  obtain ⟨people, hp, hrun⟩ := h
  exact (init hp).run hrun

end World.Sound

/-! ## What a step leaves as it is -/

variable {w w' : World}

/-- The processes after a step are among what can change. -/
lemma Step.changes (h : Step w w') : ∃ gone, w.people.Changes gone w'.people := by
  cases h with
  | request r => exact ⟨none, .pass .refl⟩
  | answer a htasks hserves => exact ⟨_, Population.changes_of_serves hserves⟩
  | finish htasks => exact ⟨none, .pass .refl⟩
  | terminate hx hterminates => exact ⟨none, .pass hterminates.passes⟩
  | drop hhandles hreleases => exact ⟨none, .pass hreleases.passes⟩
  | happen hhappens => exact ⟨none, Population.changes_of_happens hhappens⟩
  | collect hcollects hfree => exact ⟨_, .pass hcollects.passes⟩

/-- A process that a launch has started was started before, or has just been born. -/
lemma Step.mem_startedBy {c : Identity} (h : Step w w')
    (hc : c ∈ startedBy w'.tasks w'.handles) :
    c ∈ startedBy w.tasks w.handles ∨ c.birth = w.people.births := by
  cases h with
  | request r => exact .inl ((startedBy_cons _ w.tasks w.handles).mem_iff.1 hc)
  | @answer _ before after child stage call next a htasks hserves =>
    rw [htasks]
    rcases List.mem_append.1 ((startedBy_middle _ before after w.handles).mem_iff.1 hc) with hc | hc
    · rcases childAfter_cases w.people child ⟨call, a⟩ with hsame | ⟨pid, hnew⟩
      · rw [hsame] at hc
        refine .inl ((startedBy_middle _ before after w.handles).mem_iff.2 ?_)
        exact List.mem_append_left _ hc
      · rw [hnew] at hc
        exact .inr (by rw [List.mem_singleton.1 hc])
    · refine .inl ((startedBy_middle _ before after w.handles).mem_iff.2 ?_)
      exact List.mem_append_right _ hc
  | @finish before after child stage job htasks =>
    rw [htasks]
    refine .inl ((startedBy_middle _ before after w.handles).mem_iff.2 ?_)
    cases job with
    | none => exact List.mem_append_right _ hc
    | some j => exact startedBy_handle j child _ w.handles ▸ hc
  | @drop _ handles handles' x trace hhandles hreleases =>
    have hsub : (handles ++ handles').Sublist w.handles := by
      rw [hhandles]
      exact (List.sublist_cons_self _ _).append_left _
    exact .inl (((hsub.filterMap _).append_right _).subset hc)
  | terminate hx hterminates => exact .inl hc
  | happen hhappens => exact .inl hc
  | collect hcollects hfree => exact .inl hc

/-- A process that no launch and no handle is about any more is in no launch and no handle ever
after. -/
lemma not_mem_startedBy_of_run {c : Identity} (h : Relation.ReflTransGen Step w w')
    (hborn : c.birth < w.people.births) (hc : c ∉ startedBy w.tasks w.handles) :
    c.birth < w'.people.births ∧ c ∉ startedBy w'.tasks w'.handles := by
  induction h with
  | refl => exact ⟨hborn, hc⟩
  | tail _ hstep ih =>
    obtain ⟨gone, hchanges⟩ := hstep.changes
    refine ⟨Nat.lt_of_lt_of_le ih.1 (Population.births_le_of_changes hchanges), fun hmem => ?_⟩
    rcases hstep.mem_startedBy hmem with hmem | hnew
    · exact ih.2 hmem
    · exact Nat.ne_of_lt ih.1 hnew

end Launcher.Jobs
