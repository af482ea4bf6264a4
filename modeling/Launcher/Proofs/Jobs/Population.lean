import Mathlib.Logic.Function.Basic
import Launcher.Handle
import Launcher.Proofs.Host.Service
/-!
# Processes and their groups

A host has processes, each with a number and in a group. A group has the number of the process that
has founded it. Processes are born by others and begin in the group of their parent, end, and leave
the host when they are collected. From then on their numbers can be given out again, unless a group
has them still. So a number alone does not tell which process or group is meant; a number together
with a birth does, where the births of all processes are counted through.

The launcher is one of the processes. It never changes its group and is never collected.

## Main definitions

* `Launcher.Jobs.Identity`, `Launcher.Jobs.Member`, `Launcher.Jobs.Population` — the processes.
* `Launcher.Jobs.Population.signal` — all processes of one kind are killed.
* `Launcher.Jobs.Population.KillsGroup` — how a host answers when a group is to be killed.
* `Launcher.Jobs.Serves` — how it answers all calls of the launcher.
* `Launcher.Jobs.Happens` — what goes on without the launcher.
* `Launcher.Jobs.Population.Changes` — what all of this can change.
* `Launcher.Jobs.Population.Sound` — what a number still tells.
* `Launcher.Jobs.Population.Leads` — a process that was started for a group of its own.
* `Launcher.Jobs.Population.Stilled` — nobody in a group runs any more.

## Main results

* `Launcher.Jobs.Population.changes_of_serves`, `changes_of_happens` — every answer and everything
  that happens is a birth or leaves the births alone.
* `Launcher.Jobs.Population.signals_of_serves` — only a call for a group sends signals to one.
* `Launcher.Jobs.Population.Sound.changes`, `Leads.changes`, `Stilled.changes` — the three
  invariants.
* `Launcher.Jobs.Population.group_eq_of_inhabited` — as long as somebody is in the group, or its
  leader is there, everybody in a group of this number is in this group.
-/

namespace Launcher.Jobs

open Host Host.Dialogue

/-! ## Processes -/

/-- A process, or the group that it has founded: a number is not enough, since it is given out
again. -/
structure Identity where
  pid : Pid
  birth : Nat
  deriving DecidableEq

/-- Where a process is in its life. -/
inductive Life where
  | running
  /-- It has been sent a kill signal, and does nothing any more but end. -/
  | killed
  /-- It has ended and has not been collected. -/
  | ended
  deriving DecidableEq

/-- A process. Its number stands outside of this. -/
structure Member where
  birth : Nat
  group : Identity
  life : Life := .running
  /-- The launcher may not send signals to it. -/
  guarded : Bool := false
  deriving DecidableEq

/-- What is left of a life after a kill signal. -/
def Life.kill : Life → Life
  | running | killed => killed
  | ended => ended

/-- The process is sent a kill signal. -/
def Member.kill (m : Member) : Member :=
  { m with life := m.life.kill }

/-- Nothing runs on after a kill signal. -/
lemma Life.kill_ne_running (l : Life) : l.kill ≠ .running := by
  cases l <;> simp [kill]

/-- All processes of a host that have not been collected, by their numbers. -/
@[ext]
structure Population where
  members : Pid → Option Member
  /-- How many processes there have been. -/
  births : Nat
  launcher : Pid
  /-- The group of the launcher. -/
  home : Identity
  /-- How many kill signals the launcher has sent to each process by way of its group. -/
  signals : Identity → Nat := fun _ => 0

namespace Population

variable {p p' : Population} {c : Identity} {pid g : Pid} {m m' : Member}

/-- There is a process with this identity. -/
def Present (p : Population) (c : Identity) : Prop :=
  ∃ m, p.members c.pid = some m ∧ m.birth = c.birth

/-- The number can be given to a new process: there is neither a process nor a group that has it.
The numbers 0 and 1 are never given out. -/
def Fresh (p : Population) (pid : Pid) : Prop :=
  1 < pid ∧ p.members pid = none ∧ ∀ q m, p.members q = some m → m.group.pid ≠ pid

/-- A process of this number changes. -/
def put (p : Population) (pid : Pid) (m : Member) : Population :=
  { p with members := Function.update p.members pid (some m) }

/-- The process of this number is collected. -/
def remove (p : Population) (pid : Pid) : Population :=
  { p with members := Function.update p.members pid none }

/-- A process is born. -/
def bear (p : Population) (pid : Pid) (group : Identity) (guarded : Bool) : Population :=
  { p.put pid { birth := p.births, group, guarded } with births := p.births + 1 }

/-- Who is there when one process has changed. -/
@[simp]
lemma members_put (q : Pid) :
    (p.put pid m).members q = if q = pid then some m else p.members q := by
  by_cases hq : q = pid
  · simp [put, hq]
  · simp [put, hq]

/-- Who is there when one process is gone. -/
@[simp]
lemma members_remove (q : Pid) :
    (p.remove pid).members q = if q = pid then none else p.members q := by
  by_cases hq : q = pid
  · simp [remove, hq]
  · simp [remove, hq]

/-- Who is there when a process has been born. -/
@[simp]
lemma members_bear {group : Identity} {guarded : Bool} (q : Pid) :
    (p.bear pid group guarded).members q =
      if q = pid then some { birth := p.births, group, guarded } else p.members q :=
  members_put q

/-! ## Kill signals to a group -/

/-- The processes that a kill signal to a group is meant for. The number 0 stands for the launcher's
own group, and 1 for everybody. -/
def addressed (p : Population) (g : Pid) (m : Member) : Bool :=
  if g = 0 then m.group = p.home else g = 1 || m.group.pid = g

/-- How many signals a process gets that are meant for some kind of processes, as far as the launcher
may send them. -/
def hits (p : Population) (meant : Member → Bool) (c : Identity) : Nat :=
  match p.members c.pid with
  | some m => if m.birth = c.birth ∧ meant m && !m.guarded then 1 else 0
  | none => 0

/-- The launcher sends a kill signal to all processes of some kind at once, as far as it may. -/
def signal (p : Population) (meant : Member → Bool) : Population :=
  { p with
    members := fun pid => (p.members pid).map fun m => if meant m && !m.guarded then m.kill else m
    signals := fun c => p.signals c + p.hits meant c }

/-- Who is there when a signal was sent. -/
lemma members_signal (p : Population) (meant : Member → Bool) (q : Pid) :
    (p.signal meant).members q =
      (p.members q).map fun m => if meant m && !m.guarded then m.kill else m := rfl

/-- **How the host kills a group.** Nobody is in the group; or the signal goes to all in it to whom
the launcher may send it, which are some; or it may not send it to any. -/
inductive KillsGroup (p : Population) (g : Pid) : Except Errno Unit → Population → Prop
  | nobody (hnone : ∀ q m, p.members q = some m → p.addressed g m = false) :
    KillsGroup p g (.error .noProcess) p
  | struck {q : Pid} {m : Member} (hm : p.members q = some m) (hg : p.addressed g m)
      (hfree : m.guarded = false) :
    KillsGroup p g (.ok ()) (p.signal (p.addressed g))
  | refused {q : Pid} {m : Member} {e : Errno} (hm : p.members q = some m) (hg : p.addressed g m)
      (hall : ∀ q m, p.members q = some m → p.addressed g m → m.guarded)
      (he : e ≠ .noProcess) :
    KillsGroup p g (.error e) p

/-- The host has an answer when a group is to be killed. -/
lemma exists_killsGroup (p : Population) (g : Pid) : ∃ answer p', p.KillsGroup g answer p' := by
  by_cases hsome : ∃ q m, p.members q = some m ∧ p.addressed g m
  · obtain ⟨q, m, hm, hg⟩ := hsome
    by_cases hfree : ∃ q m, p.members q = some m ∧ p.addressed g m ∧ m.guarded = false
    · obtain ⟨q, m, hm, hg, hfree⟩ := hfree
      exact ⟨_, _, .struck hm hg hfree⟩
    · refine ⟨.error ⟨1⟩, p, .refused hm hg (fun q m hm hg => ?_) (by decide)⟩
      cases hguarded : m.guarded with
      | true => rfl
      | false => exact (hfree ⟨q, m, hm, hg, hguarded⟩).elim
  · refine ⟨_, p, .nobody fun q m hm => ?_⟩
    cases hg : p.addressed g m with
    | true => exact (hsome ⟨q, m, hm, hg⟩).elim
    | false => rfl

/-- The number of a group stands for those in it, unless it is 0 or 1. -/
lemma addressed_of_one_lt (hg : 1 < g) : p.addressed g = fun m => decide (m.group.pid = g) := by
  funext m
  have hzero : g ≠ 0 := Nat.ne_of_gt (Nat.lt_of_succ_lt hg)
  have hone : g ≠ 1 := Nat.ne_of_gt hg
  simp [addressed, hzero, hone]

end Population

/-! ## The host -/

/-- The process that is collected by a wait. -/
def collected? : Exchange → Option Pid
  | ⟨.wait pid, .ok _⟩ | ⟨.poll pid, .ok (some _)⟩ | ⟨.pollFor pid _, .ok (some _)⟩ => some pid
  | _ => none

/-- The process of this number has ended and is collected. The launcher is no child of its own. -/
def Population.Collects (p : Population) (pid : Pid) (p' : Population) : Prop :=
  pid ≠ p.launcher ∧ (∃ m, p.members pid = some m ∧ m.life = .ended) ∧ p' = p.remove pid

/-- **How the host answers.** A call for which there is no line here changes nothing that matters. -/
def Serves (p : Population) : Exchange → Population → Prop
  -- the child is in its own group, as it was asked for, or still in that of the launcher
  | ⟨.start process, .ok pid⟩, p' => ∃ group guarded, p.Fresh pid ∧
    (group = p.home ∨ process.ownGroup ∧ group = ⟨pid, p.births⟩) ∧ p' = p.bear pid group guarded
  | ⟨.groupOf pid, .ok g⟩, p' => (∃ m, p.members pid = some m ∧ m.group.pid = g) ∧ p' = p
  | ⟨.kill pid, .ok ()⟩, p' => ∃ m, p.members pid = some m ∧ ¬ m.guarded ∧ p' = p.put pid m.kill
  | ⟨.killGroup g, answer⟩, p' => p.KillsGroup g answer p'
  | ⟨.wait pid, .ok _⟩, p' | ⟨.poll pid, .ok (some _)⟩, p' | ⟨.pollFor pid _, .ok (some _)⟩, p' =>
    p.Collects pid p'
  | _, p' => p' = p

/-- **What goes on without the launcher.** Processes fork, leave the group of their parent for one
of their own, are killed by somebody else, and end; and the right of the launcher to send signals to
them may change. Nobody joins a group but by being born into it. That processes are collected is not
among this. -/
inductive Happens (p : Population) : Population → Prop
  | fork {parent : Member} {q pid : Pid} (guarded : Bool) (hparent : p.members q = some parent)
      (hrunning : parent.life = .running) (hfresh : p.Fresh pid) :
    Happens p (p.bear pid parent.group guarded)
  | found {pid : Pid} {m : Member} (hm : p.members pid = some m) (hrunning : m.life = .running)
      (hother : pid ≠ p.launcher) :
    Happens p (p.put pid { m with group := ⟨pid, m.birth⟩ })
  | strike {pid : Pid} {m : Member} (hm : p.members pid = some m) :
    Happens p (p.put pid m.kill)
  | finish {pid : Pid} {m : Member} (hm : p.members pid = some m) :
    Happens p (p.put pid { m with life := .ended })
  | guard {pid : Pid} {m : Member} (guarded : Bool) (hm : p.members pid = some m)
      (hrunning : m.life = .running) :
    Happens p (p.put pid { m with guarded })

/-! ## What can change -/

/-- What can become of a process. Only while it is running it can found a group, and only then it
can change whether the launcher may send signals to it. -/
structure Member.Becomes (own : Identity) (m m' : Member) : Prop where
  birth : m'.birth = m.birth
  group : m'.group = m.group ∨ (m.life = .running ∧ m'.group = own)
  life : m.life ≠ .running → m'.life ≠ .running ∧ m'.guarded = m.guarded

namespace Member.Becomes

variable {own : Identity} {m : Member}

/-- A process may stay what it is. -/
lemma refl : m.Becomes own m :=
  ⟨rfl, .inl rfl, fun h => ⟨h, rfl⟩⟩

/-- A process may get a kill signal. -/
lemma kill : m.Becomes own m.kill :=
  ⟨rfl, .inl rfl, fun _ => ⟨Life.kill_ne_running _, rfl⟩⟩

/-- A process may end. -/
lemma finish : m.Becomes own { m with life := .ended } :=
  ⟨rfl, .inl rfl, fun _ => ⟨by simp, rfl⟩⟩

/-- A running process may found its group. -/
lemma found (hrunning : m.life = .running) : m.Becomes own { m with group := own } :=
  ⟨rfl, .inr ⟨hrunning, rfl⟩, fun h => absurd hrunning h⟩

/-- A running process may put itself out of the launcher's reach, and back. -/
lemma guard (hrunning : m.life = .running) (guarded : Bool) :
    m.Becomes own { m with guarded } :=
  ⟨rfl, .inl rfl, fun h => absurd hrunning h⟩

end Member.Becomes

namespace Population

variable {p p' : Population} {c : Identity} {pid q g : Pid} {m m' : Member} {e : Exchange}
  {gone : Option Pid}

/-- No process is born, and nobody is collected but the one that is given, if one is. Everybody who
is there was there before. The launcher stays, and in its group. -/
structure Passes (p : Population) (gone : Option Pid) (p' : Population) : Prop where
  births : p'.births = p.births
  launcher : p'.launcher = p.launcher
  home : p'.home = p.home
  remains : gone ≠ some p.launcher
  stays : ∀ q m, p.members q = some m → gone ≠ some q →
    ∃ m', p'.members q = some m' ∧ m'.birth = m.birth ∧ (q = p.launcher → m'.group = m.group)
  members : ∀ q m', p'.members q = some m' →
    ∃ m, p.members q = some m ∧ m.Becomes ⟨q, m.birth⟩ m'

/-- **What can change**: nobody is born, or one process is, into the launcher's group, the group of
a running parent, or a group of its own. -/
inductive Changes (p : Population) : Option Pid → Population → Prop
  | pass {gone : Option Pid} {p' : Population} (hpass : p.Passes gone p') : Changes p gone p'
  | bear {pid : Pid} {group : Identity} (guarded : Bool) (hfresh : p.Fresh pid)
      (hgroup : group = p.home ∨ group = ⟨pid, p.births⟩ ∨
        ∃ q parent, p.members q = some parent ∧ parent.life = .running ∧ parent.group = group) :
    Changes p none (p.bear pid group guarded)

/-- The processes may stay as they are. -/
lemma Passes.refl : p.Passes none p :=
  ⟨rfl, rfl, rfl, nofun, fun _ m hm _ => ⟨m, hm, rfl, fun _ => rfl⟩, fun _ m hm => ⟨m, hm, .refl⟩⟩

/-- One process becomes something else. -/
lemma passes_put (hm : p.members pid = some m) (hbecomes : m.Becomes ⟨pid, m.birth⟩ m')
    (hstays : pid = p.launcher → m'.group = m.group) : p.Passes none (p.put pid m') := by
  refine ⟨rfl, rfl, rfl, nofun, fun q n hn _ => ?_, fun q n hn => ?_⟩ <;> by_cases hq : q = pid
  · subst hq
    obtain rfl : m = n := Option.some.inj (hm.symm.trans hn)
    exact ⟨m', by simp, hbecomes.birth, hstays⟩
  · exact ⟨n, by simp [hq, hn], rfl, fun _ => rfl⟩
  · subst hq
    obtain rfl : m' = n := by simpa using hn
    exact ⟨m, hm, hbecomes⟩
  · exact ⟨n, by simpa [hq] using hn, .refl⟩

/-- A process is collected. -/
lemma Collects.passes (h : p.Collects pid p') : p.Passes (some pid) p' := by
  obtain ⟨hother, -, rfl⟩ := h
  refine ⟨rfl, rfl, rfl, fun hsome => hother (Option.some.inj hsome), fun q n hn hgone => ?_,
    fun q n hn => ⟨n, ?_, .refl⟩⟩
  · have hq : q ≠ pid := fun hq => hgone (by rw [hq])
    exact ⟨n, by simp [hq, hn], rfl, fun _ => rfl⟩
  · by_cases hq : q = pid
    · simp [hq] at hn
    · simpa [hq] using hn

/-- A signal is sent. -/
lemma passes_signal (p : Population) (meant : Member → Bool) :
    p.Passes none (p.signal meant) := by
  refine ⟨rfl, rfl, rfl, nofun, fun q n hn _ => ?_, fun q n hn => ?_⟩
  · refine ⟨_, by rw [members_signal, hn, Option.map_some], ?_⟩
    split <;> exact ⟨rfl, fun _ => rfl⟩
  · rw [members_signal, Option.map_eq_some_iff] at hn
    obtain ⟨m, hm, rfl⟩ := hn
    refine ⟨m, hm, ?_⟩
    split
    · exact .kill
    · exact .refl

/-- A kill signal to a group passes, whatever the answer is. -/
lemma KillsGroup.passes {answer : Except Errno Unit} (h : p.KillsGroup g answer p') :
    p.Passes none p' := by
  cases h with
  | nobody _ => exact .refl
  | struck _ _ _ => exact passes_signal _ _
  | refused _ _ _ _ => exact .refl

/-- What an answer of the host can do: nothing; a child is born, into the launcher's group or its own;
one process is killed, or a group; or one process is collected. -/
lemma cases_of_serves (h : Serves p e p') :
    (collected? e = none ∧
      (p' = p ∨
        (∃ pid group guarded, p.Fresh pid ∧ (group = p.home ∨ group = ⟨pid, p.births⟩) ∧
          p' = p.bear pid group guarded) ∨
        (∃ pid m, p.members pid = some m ∧ p' = p.put pid m.kill) ∨
        ∃ g answer, e = ⟨.killGroup g, answer⟩ ∧ p.KillsGroup g answer p')) ∨
    ∃ pid, collected? e = some pid ∧ p.Collects pid p' := by
  rcases e with ⟨c, answer⟩
  cases c with
  | start process =>
    rcases answer with _ | pid
    · exact .inl ⟨rfl, .inl h⟩
    · obtain ⟨group, guarded, hfresh, hgroup, rfl⟩ := h
      exact .inl ⟨rfl, .inr (.inl ⟨pid, group, guarded, hfresh, hgroup.imp_right And.right, rfl⟩)⟩
  | groupOf pid =>
    rcases answer with _ | g
    · exact .inl ⟨rfl, .inl h⟩
    · exact .inl ⟨rfl, .inl h.2⟩
  | kill pid =>
    rcases answer with _ | ⟨⟩
    · exact .inl ⟨rfl, .inl h⟩
    · obtain ⟨m, hm, -, rfl⟩ := h
      exact .inl ⟨rfl, .inr (.inr (.inl ⟨pid, m, hm, rfl⟩))⟩
  | killGroup g => exact .inl ⟨rfl, .inr (.inr (.inr ⟨g, answer, rfl, h⟩))⟩
  | wait pid =>
    rcases answer with _ | status
    · exact .inl ⟨rfl, .inl h⟩
    · exact .inr ⟨pid, rfl, h⟩
  | poll pid | pollFor pid =>
    rcases answer with _ | _ | status
    · exact .inl ⟨rfl, .inl h⟩
    · exact .inl ⟨rfl, .inl h⟩
    · exact .inr ⟨pid, rfl, h⟩
  | _ => exact .inl ⟨rfl, .inl h⟩

/-- Every answer of the host is among what can change. -/
lemma changes_of_serves (h : Serves p e p') : p.Changes (collected? e) p' := by
  rcases cases_of_serves h with ⟨hnone, h⟩ | ⟨pid, hsome, hcollects⟩
  · rw [hnone]
    rcases h with rfl | ⟨pid, group, guarded, hfresh, hgroup, rfl⟩ | ⟨pid, m, hm, rfl⟩ |
      ⟨g, answer, -, hkills⟩
    · exact .pass .refl
    · exact .bear guarded hfresh (hgroup.imp_right .inl)
    · exact .pass (passes_put hm .kill fun _ => rfl)
    · exact .pass hkills.passes
  · rw [hsome]
    exact .pass hcollects.passes

/-- An answer sends signals to a group only if the group was to be killed. -/
lemma signals_of_serves (h : Serves p e p') (hother : ∀ g, e.1 ≠ .killGroup g) :
    p'.signals = p.signals := by
  rcases cases_of_serves h with ⟨-, h⟩ | ⟨pid, -, -, -, rfl⟩
  · rcases h with rfl | ⟨pid, group, guarded, -, -, rfl⟩ | ⟨pid, m, -, rfl⟩ | ⟨g, answer, rfl, -⟩
    · rfl
    · rfl
    · rfl
    · exact absurd rfl (hother g)
  · rfl

/-- What goes on without the launcher is among it, too. -/
lemma changes_of_happens (h : Happens p p') : p.Changes none p' := by
  cases h with
  | fork guarded hparent hrunning hfresh =>
    exact .bear guarded hfresh (.inr (.inr ⟨_, _, hparent, hrunning, rfl⟩))
  | found hm hrunning hother =>
    exact .pass (passes_put hm (.found hrunning) fun h => absurd h hother)
  | strike hm => exact .pass (passes_put hm .kill fun _ => rfl)
  | finish hm => exact .pass (passes_put hm .finish fun _ => rfl)
  | guard guarded hm hrunning => exact .pass (passes_put hm (.guard hrunning guarded) fun _ => rfl)

/-! ## Numbers and what they tell -/

/-- **What a number still tells.** -/
structure Sound (p : Population) : Prop where
  /-- All births have been counted. -/
  born : ∀ q m, p.members q = some m → m.birth < p.births ∧ m.group.birth < p.births
  /-- There is one group of each number at a time. -/
  groups : ∀ q m r n, p.members q = some m → p.members r = some n → n.group.pid = m.group.pid →
    n.group = m.group
  /-- A process with the number of a group has founded the group. -/
  founders : ∀ q m n, p.members q = some m → p.members m.group.pid = some n →
    n.birth = m.group.birth
  /-- The launcher is there. -/
  launcher : ∃ m, p.members p.launcher = some m ∧ m.group = p.home

/-- A number that can be given out is not that of the launcher's group. -/
lemma Sound.home_of_fresh (hp : p.Sound) (hfresh : p.Fresh pid) : p.home.pid ≠ pid := by
  obtain ⟨m, hm, hhome⟩ := hp.launcher
  rw [← hhome]
  exact hfresh.2.2 _ m hm

/-- The processes after a birth: the new one, and the others. -/
lemma members_bear_cases {group : Identity} {guarded : Bool}
    (h : (p.bear pid group guarded).members q = some m) :
    (q = pid ∧ m = { birth := p.births, group, guarded }) ∨ (q ≠ pid ∧ p.members q = some m) := by
  rw [members_bear] at h
  split at h
  · rename_i hq
    exact .inl ⟨hq, (Option.some.inj h).symm⟩
  · rename_i hq
    exact .inr ⟨hq, h⟩

/-- As long as nobody is born, a group that is new has been founded by a process that was there. -/
lemma Sound.pass (hp : p.Sound) (hpass : p.Passes gone p') : p'.Sound := by
  -- the group of a process is its own, or that of a process that was there before
  have hgroup : ∀ q m', p'.members q = some m' → (∃ n, p.members q = some n ∧
      m'.birth = n.birth ∧ m'.group = ⟨q, n.birth⟩) ∨
      ∃ n, p.members q = some n ∧ m'.birth = n.birth ∧ m'.group = n.group := by
    intro q m' hm'
    obtain ⟨m, hm, hbecomes⟩ := hpass.members q m' hm'
    rcases hbecomes.group with h | ⟨-, h⟩
    · exact .inr ⟨m, hm, hbecomes.birth, h⟩
    · exact .inl ⟨m, hm, hbecomes.birth, h⟩
  refine ⟨fun q m' hm' => ?_, fun q m' r n' hm' hn' hpid => ?_, fun q m' n' hm' hn' => ?_, ?_⟩
  · rw [hpass.births]
    rcases hgroup q m' hm' with ⟨m, hm, hbirth, hg⟩ | ⟨m, hm, hbirth, hg⟩
    · rw [hbirth, hg]
      exact ⟨(hp.born q m hm).1, (hp.born q m hm).1⟩
    · rw [hbirth, hg]
      exact hp.born q m hm
  · rcases hgroup q m' hm' with ⟨m, hm, -, hg⟩ | ⟨m, hm, -, hg⟩ <;>
      rcases hgroup r n' hn' with ⟨n, hn, -, hg'⟩ | ⟨n, hn, -, hg'⟩ <;>
      rw [hg, hg'] at hpid ⊢
    · obtain rfl : r = q := hpid
      rw [Option.some.inj (hn.symm.trans hm)]
    · obtain hpid : n.group.pid = q := hpid
      have hbirth := hp.founders r n m hn (hpid ▸ hm)
      rw [hbirth, ← hpid]
    · obtain hpid : r = m.group.pid := hpid
      have hbirth := hp.founders q m n hm (hpid ▸ hn)
      rw [hbirth, hpid]
    · exact hp.groups q m r n hm hn hpid
  · obtain ⟨n, hn, hbecomes⟩ := hpass.members _ n' hn'
    rw [hbecomes.birth]
    rcases hgroup q m' hm' with ⟨m, hm, -, hg⟩ | ⟨m, hm, -, hg⟩
    · rw [hg] at hn ⊢
      rw [Option.some.inj (hn.symm.trans hm)]
    · rw [hg] at hn ⊢
      exact hp.founders q m n hm hn
  · obtain ⟨m, hm, hhome⟩ := hp.launcher
    obtain ⟨m', hm', -, hgroup⟩ := hpass.stays p.launcher m hm hpass.remains
    rw [hpass.launcher, hpass.home]
    exact ⟨m', hm', (hgroup rfl).trans hhome⟩

/-- The group of a new process: there it is founded by the process, or somebody is in it. -/
lemma Sound.group_of_birth {group : Identity} (hp : p.Sound)
    (hgroup : group = p.home ∨ group = ⟨pid, p.births⟩ ∨
      ∃ q parent, p.members q = some parent ∧ parent.life = .running ∧ parent.group = group) :
    group = ⟨pid, p.births⟩ ∨ ∃ q m, p.members q = some m ∧ m.group = group := by
  rcases hgroup with rfl | rfl | ⟨q, parent, hparent, -, rfl⟩
  · obtain ⟨m, hm, hhome⟩ := hp.launcher
    exact .inr ⟨_, m, hm, hhome⟩
  · exact .inl rfl
  · exact .inr ⟨q, parent, hparent, rfl⟩

/-- Numbers go on telling what they tell when a process is born. -/
lemma Sound.bear {group : Identity} (hp : p.Sound) (guarded : Bool) (hfresh : p.Fresh pid)
    (hgroup : group = ⟨pid, p.births⟩ ∨ ∃ q m, p.members q = some m ∧ m.group = group) :
    (p.bear pid group guarded).Sound := by
  obtain ⟨-, hnone, hnogroup⟩ := hfresh
  -- the number of the new process is that of no other's group, and the new group is known
  have hnumber : group.pid = pid → group = ⟨pid, p.births⟩ := by
    intro hpid
    rcases hgroup with h | ⟨q, m, hm, rfl⟩
    · exact h
    · exact absurd hpid (hnogroup q m hm)
  have hknown : ∀ q m, p.members q = some m → m.group.pid = group.pid → m.group = group := by
    intro q m hm hpid
    rcases hgroup with rfl | ⟨r, n, hn, rfl⟩
    · exact absurd hpid (hnogroup q m hm)
    · exact hp.groups r n q m hn hm hpid
  refine ⟨fun q m hm => ?_, fun q m r n hm hn hpid => ?_, fun q m n hm hn => ?_, ?_⟩
  · show m.birth < p.births + 1 ∧ m.group.birth < p.births + 1
    rcases members_bear_cases hm with ⟨-, rfl⟩ | ⟨-, hm⟩
    · refine ⟨Nat.lt_succ_self _, ?_⟩
      rcases hgroup with rfl | ⟨r, n, hn, rfl⟩
      · exact Nat.lt_succ_self _
      · exact Nat.lt_succ_of_lt (hp.born r n hn).2
    · have := hp.born q m hm
      omega
  · rcases members_bear_cases hm with ⟨-, rfl⟩ | ⟨-, hm⟩ <;>
      rcases members_bear_cases hn with ⟨-, rfl⟩ | ⟨-, hn⟩
    · rfl
    · exact hknown r n hn hpid
    · exact (hknown q m hm hpid.symm).symm
    · exact hp.groups q m r n hm hn hpid
  · rcases members_bear_cases hm with ⟨-, rfl⟩ | ⟨-, hm⟩ <;>
      rcases members_bear_cases hn with ⟨hpid, rfl⟩ | ⟨hpid, hn⟩
    · rw [hnumber hpid]
    · rcases hgroup with rfl | ⟨r, k, hk, rfl⟩
      · exact absurd rfl hpid
      · exact hp.founders r k n hk hn
    · exact absurd hpid (hnogroup q m hm)
    · exact hp.founders q m n hm hn
  · obtain ⟨m, hm, hhome⟩ := hp.launcher
    have hother : p.launcher ≠ pid := fun h => by rw [h, hnone] at hm; cases hm
    exact ⟨m, by rw [members_bear]; exact (if_neg hother).trans hm, hhome⟩

/-- **Numbers go on telling what they tell.** -/
theorem Sound.changes (hp : p.Sound) (h : p.Changes gone p') : p'.Sound := by
  cases h with
  | pass hpass => exact hp.pass hpass
  | bear guarded hfresh hgroup => exact hp.bear guarded hfresh (hp.group_of_birth hgroup)

/-! ## Leaders -/

/-- The process was started by the launcher. Its number was not that of the launcher's group
then. -/
structure Launched (p : Population) (c : Identity) : Prop where
  born : c.birth < p.births
  proper : 1 < c.pid
  apart : c.pid ≠ p.home.pid

/-- The process was started by the launcher, and is in the group that it has founded as long as it
is there. -/
structure Leads (p : Population) (c : Identity) : Prop extends p.Launched c where
  own : ∀ m, p.members c.pid = some m → m.birth = c.birth → m.group = c

/-- No birth is taken back. -/
lemma births_le_of_changes (h : p.Changes gone p') : p.births ≤ p'.births := by
  cases h with
  | pass hpass => exact Nat.le_of_eq hpass.births.symm
  | bear guarded hfresh hgroup => exact Nat.le_succ _

/-- The launcher's group stays the same. -/
lemma home_of_changes (h : p.Changes gone p') : p'.home = p.home := by
  cases h with
  | pass hpass => exact hpass.home
  | bear guarded hfresh hgroup => rfl

/-- A process that the launcher has started stays so. -/
lemma Launched.changes (hc : p.Launched c) (h : p.Changes gone p') : p'.Launched c :=
  ⟨Nat.lt_of_lt_of_le hc.born (births_le_of_changes h), hc.proper, home_of_changes h ▸ hc.apart⟩

/-- A process with a known birth was there before. -/
lemma before_of_changes (h : p.Changes gone p') (hm' : p'.members q = some m')
    (hbirth : m'.birth < p.births) :
    ∃ m, p.members q = some m ∧ m.Becomes ⟨q, m.birth⟩ m' := by
  cases h with
  | pass hpass => exact hpass.members q m' hm'
  | bear guarded hfresh hgroup =>
    rcases members_bear_cases hm' with ⟨-, rfl⟩ | ⟨-, hm'⟩
    · exact absurd hbirth (Nat.lt_irrefl _)
    · exact ⟨m', hm', .refl⟩

/-- A process stays what it was, unless it is collected. -/
lemma stays_of_changes (h : p.Changes gone p') (hm : p.members q = some m)
    (hgone : gone ≠ some q) : ∃ m', p'.members q = some m' ∧ m'.birth = m.birth := by
  cases h with
  | pass hpass =>
    obtain ⟨m', hm', hbirth, -⟩ := hpass.stays q m hm hgone
    exact ⟨m', hm', hbirth⟩
  | bear guarded hfresh hgroup =>
    have hother : q ≠ _ := fun h => by rw [h, hfresh.2.1] at hm; cases hm
    exact ⟨m, by simp [hother, hm], rfl⟩

/-- **A leader stays in its group.** -/
theorem Leads.changes (hc : p.Leads c) (h : p.Changes gone p') : p'.Leads c := by
  refine ⟨hc.toLaunched.changes h, fun m' hm' hbirth => ?_⟩
  obtain ⟨m, hm, hbecomes⟩ := before_of_changes h hm' (hbirth ▸ hc.born)
  have hsame : m.birth = c.birth := hbecomes.birth.symm.trans hbirth
  rcases hbecomes.group with hgroup | ⟨-, hgroup⟩
  · exact hgroup.trans (hc.own m hm hsame)
  · rw [hgroup, hsame]

/-- A child that is in a group of its own number leads it. -/
lemma Launched.leads (hc : p.Launched c) (hp : p.Sound) (hm : p.members c.pid = some m)
    (hgroup : m.group.pid = c.pid) (hbirth : m.birth = c.birth) : p.Leads c := by
  refine ⟨hc, fun n hn _ => ?_⟩
  obtain rfl : m = n := Option.some.inj (hm.symm.trans hn)
  have hfounder : m.birth = m.group.birth := hp.founders c.pid m m hm (by rw [hgroup, hm])
  cases hg : m.group
  cases c
  simp_all

/-- Somebody is in the group, or its leader is there, even if it has ended. -/
def Inhabited (p : Population) (c : Identity) : Prop :=
  (∃ q m, p.members q = some m ∧ m.group = c) ∨ p.Present c

/-- Nobody is in a group of this number. -/
def Vacant (p : Population) (g : Pid) : Prop :=
  ∀ q m, p.members q = some m → m.group.pid ≠ g

/-- **As long as somebody is in the group, or its leader is there,** everybody in a group of this
number is in this group. -/
theorem group_eq_of_inhabited (hp : p.Sound) (hc : p.Inhabited c) (hm : p.members q = some m)
    (hpid : m.group.pid = c.pid) : m.group = c := by
  rcases hc with ⟨r, n, hn, rfl⟩ | ⟨n, hn, hbirth⟩
  · exact hp.groups r n q m hn hm hpid
  · have hfounder : n.birth = m.group.birth := hp.founders q m n hm (by rw [hpid, hn])
    cases hg : m.group
    cases c
    simp_all

/-- A group whose leader is there has somebody in it. -/
lemma Leads.exists_member (hc : p.Leads c) (h : p.Inhabited c) :
    ∃ q m, p.members q = some m ∧ m.group = c := by
  rcases h with h | ⟨m, hm, hbirth⟩
  · exact h
  · exact ⟨c.pid, m, hm, hc.own m hm hbirth⟩

/-- The launcher may send signals to everybody in the group. -/
def PermitsAll (p : Population) (c : Identity) : Prop :=
  ∀ q m, p.members q = some m → m.group = c → m.guarded = false

/-! ## Groups in which nobody runs -/

/-- Nobody in the group runs, neither does its leader, and the launcher may send signals to them. -/
structure Stilled (p : Population) (c : Identity) : Prop where
  born : c.birth < p.births
  apart : c ≠ p.home
  still : ∀ q m, p.members q = some m → m.group = c ∨ (⟨q, m.birth⟩ : Identity) = c →
    m.life ≠ .running ∧ m.guarded = false

/-- **A group in which nobody runs stays so**, since only a running process can bring somebody into
it. -/
theorem Stilled.changes (hc : p.Stilled c) (h : p.Changes gone p') : p'.Stilled c := by
  refine ⟨Nat.lt_of_lt_of_le hc.born (births_le_of_changes h), home_of_changes h ▸ hc.apart, ?_⟩
  intro q m' hm' hmine
  cases h with
  | pass hpass =>
    obtain ⟨m, hm, hbecomes⟩ := hpass.members q m' hm'
    rw [hbecomes.birth] at hmine
    have hstill : m.life ≠ .running ∧ m.guarded = false := by
      refine hc.still q m hm ?_
      rcases hbecomes.group with hgroup | ⟨-, hgroup⟩
      · rwa [hgroup] at hmine
      · rw [hgroup, or_self] at hmine
        exact .inr hmine
    exact ⟨(hbecomes.life hstill.1).1, (hbecomes.life hstill.1).2.trans hstill.2⟩
  | bear guarded hfresh hgroup =>
    rcases members_bear_cases hm' with ⟨rfl, rfl⟩ | ⟨-, hm'⟩
    · -- a new process is not the leader, and has not been born into the group
      exfalso
      have hnew : (⟨q, p.births⟩ : Identity) ≠ c := by
        rintro rfl
        exact absurd hc.born (Nat.lt_irrefl _)
      rcases hmine with rfl | hmine
      · rcases hgroup with h | h | ⟨r, parent, hparent, hrunning, h⟩
        · exact hc.apart h
        · exact hnew h.symm
        · exact (hc.still r parent hparent (.inl h)).1 hrunning
      · exact hnew hmine
    · exact hc.still q m' hm' hmine

end Population

end Launcher.Jobs
