import Mathlib.Data.Set.Insert
import Launcher.Proofs.CommandLine.RoundTrip
import Launcher.Proofs.Jobs.Population
import Launcher.Proofs.Launch.Runs
/-!
# Launches as a job that are given up

A launch as a job fails when the host does not confirm that the child leads a group of its own. The child
is then killed and collected. It has been running all the while, and may have forked. Of its group only
the child itself is sent a signal, so a process that it has brought forth goes on in the group when the
launch has failed. If none runs there at the moment of the kill, none does in the end.

Which processes come from a launch cannot be read off the host. It is written down beside the processes:
the child is one of them, and so is whatever one of them brings forth.

## Main definitions

* `Launcher.Jobs.Scene` — the processes of a host, and those of them that come from a launch.
* `Launcher.Jobs.Scene.Goes`, `Launcher.Jobs.Amid` — what goes on without the launcher, and the calls
  of the launcher amid it.
* `Launcher.Jobs.Abandoned` — a launch as a job whose child was killed and collected.
* `Launcher.Jobs.Scene.Watched`, `Launcher.Jobs.Scene.Quieted` — the invariants before the kill and
  after it.

## Main results

* `Launcher.Jobs.nothing_left_running` — nobody runs in the child's group in the end, if nobody but the
  child ran there when it was killed.
* `Launcher.Jobs.left_running` — otherwise somebody may.
-/

namespace Launcher.Jobs

open Host Host.Dialogue

/-! ## Processes and where they come from -/

/-- The processes of a host, and what is known of a launch. -/
structure Scene where
  people : Population
  /-- The child that the launch has started. -/
  child : Option Identity := none
  /-- The child and all who descend from it. -/
  kin : Set Identity := ∅

namespace Scene

variable {s s' : Scene} {e : Exchange}

/-- How the host answers the launcher. A process that is started comes from the launch. -/
def Answers (s : Scene) (e : Exchange) (s' : Scene) : Prop :=
  Serves s.people e s'.people ∧
    match e with
    | ⟨.start _, .ok pid⟩ => s'.child = some ⟨pid, s.people.births⟩ ∧
      s'.kin = insert ⟨pid, s.people.births⟩ s.kin
    | _ => s'.child = s.child ∧ s'.kin = s.kin

/-- What goes on without the launcher. A process that is forked comes from where its parent does. Only
the launcher collects its child. -/
inductive Goes (s : Scene) : Scene → Prop
  | happen {people : Population} (h : Happens s.people people)
      (hbirths : people.births = s.people.births) : Goes s { s with people }
  | fork {parent : Member} {q pid : Pid} (guarded : Bool)
      (hparent : s.people.members q = some parent) (hrunning : parent.life = .running)
      (hfresh : s.people.Fresh pid) :
    Goes s { s with
      people := s.people.bear pid parent.group guarded
      kin := { c | c ∈ s.kin ∨ c = ⟨pid, s.people.births⟩ ∧ ⟨q, parent.birth⟩ ∈ s.kin } }
  | collect {pid : Pid} {people : Population} (h : s.people.Collects pid people)
      (hother : ∀ c ∈ s.child, c.pid ≠ pid) : Goes s { s with people }

/-- A process of the launch runs in a group. -/
def Runs (s : Scene) (q : Pid) (g : Identity) : Prop :=
  ∃ m, s.people.members q = some m ∧ ⟨q, m.birth⟩ ∈ s.kin ∧ m.group = g ∧ m.life = .running

end Scene

/-- The calls of the launcher in their order, and whatever goes on before, between and after them. -/
inductive Amid : Scene → List Exchange → Scene → Prop
  | nil (s : Scene) : Amid s [] s
  | go {s between s' : Scene} {trace : List Exchange} (h : s.Goes between)
      (after : Amid between trace s') : Amid s trace s'
  | call {s between s' : Scene} {e : Exchange} {trace : List Exchange} (h : s.Answers e between)
      (after : Amid between trace s') : Amid s (e :: trace) s'

variable {s s' : Scene} {e : Exchange} {trace later : List Exchange}

/-- What goes on amid some calls, and then amid others, goes on amid all of them. -/
lemma Amid.trans {between : Scene} (h : Amid s trace between) (h' : Amid between later s') :
    Amid s (trace ++ later) s' := by
  induction h with
  | nil s => exact h'
  | go hgo _ ih => exact .go hgo (ih h')
  | call hcall _ ih => exact .call hcall (ih h')

/-- Before the first call there is what goes on without the launcher. -/
lemma amid_cons_iff : Amid s (e :: trace) s' ↔
    ∃ before after, Amid s [] before ∧ before.Answers e after ∧ Amid after trace s' := by
  constructor
  · intro h
    generalize hall : e :: trace = all at h
    induction h with
    | nil s => cases hall
    | go hgo _ ih =>
      obtain ⟨before, after, hbefore, hcall, hafter⟩ := ih hall
      exact ⟨before, after, .go hgo hbefore, hcall, hafter⟩
    | call hcall hafter =>
      obtain ⟨rfl, rfl⟩ := List.cons.inj hall
      exact ⟨_, _, .nil _, hcall, hafter⟩
  · rintro ⟨before, after, hbefore, hcall, hafter⟩
    exact hbefore.trans (.call hcall hafter)

/-- Calls in two parts lead through a scene between them. -/
lemma amid_append_iff :
    Amid s (trace ++ later) s' ↔ ∃ between, Amid s trace between ∧ Amid between later s' := by
  constructor
  · intro h
    induction trace generalizing s with
    | nil => exact ⟨s, .nil s, h⟩
    | cons e trace ih =>
      obtain ⟨before, after, hbefore, hcall, hafter⟩ := amid_cons_iff.1 h
      obtain ⟨between, hfirst, hsecond⟩ := ih hafter
      exact ⟨between, amid_cons_iff.2 ⟨before, after, hbefore, hcall, hfirst⟩, hsecond⟩
  · rintro ⟨between, hfirst, hsecond⟩
    exact hfirst.trans hsecond

/-- What every step keeps, a whole run keeps. -/
lemma Amid.keeps {P : Scene → Prop} (h : Amid s trace s')
    (hgo : ∀ s s', P s → s.Goes s' → P s')
    (hcall : ∀ e ∈ trace, ∀ s s', P s → s.Answers e s' → P s') (hs : P s) : P s' := by
  induction h with
  | nil s => exact hs
  | go h _ ih => exact ih hcall (hgo _ _ hs h)
  | call h _ ih =>
    exact ih (fun e he => hcall e (List.mem_cons_of_mem _ he)) (hcall _ List.mem_cons_self _ _ hs h)

/-! ## Steps -/

namespace Scene

/-- Apart from a fork, nobody is born and nothing is learned of where the processes come from; and the
child is not collected. -/
lemma Goes.cases (h : s.Goes s') : s'.child = s.child ∧
    ((∃ gone, s.people.Passes gone s'.people ∧ (∀ c ∈ s.child, gone ≠ some c.pid) ∧
        s'.kin = s.kin) ∨
      ∃ q parent pid guarded, s.people.members q = some parent ∧ parent.life = .running ∧
        s.people.Fresh pid ∧ s'.people = s.people.bear pid parent.group guarded ∧
        ∀ c, c ∈ s'.kin ↔ c ∈ s.kin ∨ c = ⟨pid, s.people.births⟩ ∧ ⟨q, parent.birth⟩ ∈ s.kin) := by
  cases h with
  | happen h hbirths =>
    refine ⟨rfl, .inl ⟨none, ?_, fun _ _ => nofun, rfl⟩⟩
    cases Population.changes_of_happens h with
    | pass hpass => exact hpass
    | bear guarded hfresh hgroup => exact absurd hbirths (Nat.succ_ne_self _)
  | fork guarded hparent hrunning hfresh =>
    exact ⟨rfl, .inr ⟨_, _, _, guarded, hparent, hrunning, hfresh, rfl, fun c => Iff.rfl⟩⟩
  | collect h hother =>
    refine ⟨rfl, .inl ⟨_, h.passes, fun c hc hsome => ?_, rfl⟩⟩
    exact hother c hc (Option.some.inj hsome).symm

/-- What goes on without the launcher is among what can change. -/
lemma Goes.changes (h : s.Goes s') : ∃ gone, s.people.Changes gone s'.people := by
  rcases h.cases with ⟨-, ⟨gone, hpass, -, -⟩ | ⟨q, parent, pid, guarded, hq, hrun, hfresh, hp, -⟩⟩
  · exact ⟨gone, .pass hpass⟩
  · rw [hp]
    exact ⟨none, .bear guarded hfresh (.inr (.inr ⟨q, parent, hq, hrun, rfl⟩))⟩

/-- A call that has to do with files or asks for a group changes nothing. -/
lemma eq_of_answers (h : s.Answers e s') (hidle : e.1.IsFiling ∨ ∃ pid, e.1 = .groupOf pid) :
    s' = s := by
  obtain ⟨people, child, kin⟩ := s
  obtain ⟨people', child', kin'⟩ := s'
  rcases e with ⟨c, answer⟩
  obtain ⟨hserves, hknown⟩ := h
  cases c with
  | groupOf pid =>
    obtain ⟨rfl, rfl⟩ := hknown
    rcases answer with errno | g
    · obtain rfl : people' = people := hserves
      rfl
    · obtain rfl : people' = people := hserves.2
      rfl
  | isDirectory _ | readText _ | openFile _ _ | duplicate _ | close _ =>
    obtain ⟨rfl, rfl⟩ := hknown
    obtain rfl : people' = people := hserves
    rfl
  | _ => rcases hidle with h | ⟨_, h⟩ <;> first | exact h.elim | cases h

/-! ## Until the child is killed -/

/-- **Before the kill.** The child is there, in its own group or in one that is older; and who comes
from the launch is no older than the child. -/
structure Watched (s : Scene) (child : Identity) : Prop where
  known : s.child = some child
  born : child.birth < s.people.births
  there : ∃ m, s.people.members child.pid = some m ∧ m.birth = child.birth ∧
    (m.group = child ∨ m.group.birth < child.birth)
  kin : ∀ c ∈ s.kin, child.birth ≤ c.birth ∧ c.birth < s.people.births

/-- After a fork, too, who comes from the launch is no older than the child, and has been counted. -/
lemma kin_of_goes {child : Identity} (h : s.Goes s')
    (hkin : ∀ c ∈ s.kin, child.birth ≤ c.birth ∧ c.birth < s.people.births) :
    ∀ c ∈ s'.kin, child.birth ≤ c.birth ∧ c.birth < s'.people.births := by
  intro c hc
  rcases h.cases with ⟨-, ⟨gone, hpass, -, hsame⟩ | ⟨q, parent, pid, guarded, -, -, -, hp, hkin'⟩⟩
  · rw [hpass.births]
    exact hkin c (hsame ▸ hc)
  · have hbirths : s'.people.births = s.people.births + 1 := by
      rw [hp]
      rfl
    rcases (hkin' c).1 hc with hc | ⟨rfl, hparent⟩
    · have := hkin c hc
      omega
    · have := hkin _ hparent
      show child.birth ≤ s.people.births ∧ s.people.births < s'.people.births
      omega

/-- The child stays watched, whatever goes on without the launcher. -/
lemma Watched.goes {child : Identity} (hs : s.Watched child) (h : s.Goes s') :
    s'.Watched child := by
  obtain ⟨m, hm, hbirth, hgroup⟩ := hs.there
  obtain ⟨_, hchanges⟩ := h.changes
  have hborn := Nat.lt_of_lt_of_le hs.born (Population.births_le_of_changes hchanges)
  refine ⟨h.cases.1.trans hs.known, hborn, ?_, kin_of_goes h hs.kin⟩
  rcases h.cases with ⟨-, ⟨gone, hpass, hstays, -⟩ | ⟨q, parent, pid, guarded, -, -, hfresh, hp, -⟩⟩
  · obtain ⟨m', hm', hbirth', -⟩ := hpass.stays _ m hm (hstays child hs.known)
    obtain ⟨n, hn, hbecomes⟩ := hpass.members _ m' hm'
    obtain rfl : m = n := Option.some.inj (hm.symm.trans hn)
    refine ⟨m', hm', hbirth'.trans hbirth, ?_⟩
    rcases hbecomes.group with hsame | ⟨-, hown⟩
    · rwa [hsame]
    · rw [hown, hbirth]
      exact .inl rfl
  · have hother : child.pid ≠ pid := fun hpid => by
      rw [hpid, hfresh.2.1] at hm
      cases hm
    rw [hp]
    exact ⟨m, by simp [hother, hm], hbirth, hgroup⟩

/-- The child has just been started. -/
lemma watched_of_start {process : Start} {pid : Pid} (hs : s.people.Sound) (hkin : s.kin = ∅)
    (h : s.Answers ⟨.start process, .ok pid⟩ s') : s'.Watched ⟨pid, s.people.births⟩ := by
  obtain ⟨⟨group, guarded, -, hgroup, hp⟩, hchild, hkin'⟩ := h
  refine ⟨hchild, by rw [hp]; exact Nat.lt_succ_self _,
    ⟨_, by rw [hp, Population.members_bear, if_pos rfl], rfl, ?_⟩, fun c hc => ?_⟩
  · rcases hgroup with rfl | ⟨-, rfl⟩
    · obtain ⟨m, hm, hhome⟩ := hs.launcher
      have hborn := (hs.born _ m hm).2
      rw [hhome] at hborn
      exact .inr hborn
    · exact .inl rfl
  · rw [hkin', hkin] at hc
    rcases hc with rfl | hc
    · rw [hp]
      exact ⟨Nat.le_refl _, Nat.lt_succ_self _⟩
    · exact hc.elim

/-! ## After the child is killed -/

/-- **After the kill.** Of those who come from the launch nobody runs in the group `g` of the child any
more, and neither does the child. The group is the child's own or older than the child, so nobody else of
them can found it. -/
structure Quieted (s : Scene) (child g : Identity) : Prop where
  origin : g = child ∨ g.birth < child.birth
  born : child.birth < s.people.births
  kin : ∀ c ∈ s.kin, child.birth ≤ c.birth ∧ c.birth < s.people.births
  still : ∀ q m, s.people.members q = some m → ⟨q, m.birth⟩ ∈ s.kin →
    m.group = g ∨ (⟨q, m.birth⟩ : Identity) = child → m.life ≠ .running

variable {child g : Identity}

/-- As long as nobody is born, nobody begins to run. -/
lemma Quieted.pass {gone : Option Pid} (hs : s.Quieted child g)
    (hpass : s.people.Passes gone s'.people) (hkin : s'.kin = s.kin) : s'.Quieted child g := by
  refine ⟨hs.origin, ?_, ?_, fun q m' hm' hmem hmine => ?_⟩
  · rw [hpass.births]
    exact hs.born
  · rw [hkin, hpass.births]
    exact hs.kin
  · obtain ⟨m, hm, hbecomes⟩ := hpass.members q m' hm'
    rw [hkin, hbecomes.birth] at hmem
    rw [hbecomes.birth] at hmine
    -- only a process that runs can have left its group
    have hbefore : m.life = .running → False := by
      intro hrunning
      refine hs.still q m hm hmem ?_ hrunning
      rcases hmine with hgroup | hchild
      · rcases hbecomes.group with hsame | ⟨-, hown⟩
        · exact .inl (hsame ▸ hgroup)
        · have hg : g = ⟨q, m.birth⟩ := hgroup.symm.trans hown
          rcases hs.origin with rfl | holder
          · exact .inr hg.symm
          · have hle := (hs.kin _ hmem).1
            rw [hg] at holder
            exact absurd holder (Nat.not_lt.2 hle)
      · exact .inr hchild
    exact (hbecomes.life hbefore).1

/-- A quieted group stays so, whatever goes on without the launcher. -/
lemma Quieted.goes (hs : s.Quieted child g) (h : s.Goes s') : s'.Quieted child g := by
  rcases h.cases with ⟨-, ⟨gone, hpass, -, hkin⟩ |
    ⟨q, parent, pid, guarded, hparent, hrunning, hfresh, hp, hkin⟩⟩
  · exact hs.pass hpass hkin
  obtain ⟨_, hchanges⟩ := h.changes
  refine ⟨hs.origin, Nat.lt_of_lt_of_le hs.born (Population.births_le_of_changes hchanges),
    kin_of_goes h hs.kin, fun r n hn hmem hmine => ?_⟩
  rw [hp] at hn
  rcases Population.members_bear_cases hn with ⟨rfl, rfl⟩ | ⟨hother, hbefore⟩
  · -- a new process of the launch has a parent of the launch, which runs in another group
    exfalso
    rcases (hkin _).1 hmem with hold | ⟨-, hmem⟩
    · exact absurd (hs.kin _ hold).2 (Nat.lt_irrefl _)
    · rcases hmine with hgroup | hchild
      · exact hs.still q parent hparent hmem (.inl hgroup) hrunning
      · have hborn := hs.born
        rw [← hchild] at hborn
        exact absurd hborn (Nat.lt_irrefl _)
  · refine hs.still r n hbefore ?_ hmine
    rcases (hkin _).1 hmem with hold | ⟨hnew, -⟩
    · exact hold
    · exact absurd (Identity.mk.inj hnew).1 hother

/-- **The kill** quiets the group of the child if nobody else of the launch runs in it. -/
theorem Watched.kill {m : Member} (hs : s.Watched child)
    (h : s.Answers ⟨.kill child.pid, .ok ()⟩ s') (hm : s.people.members child.pid = some m)
    (halone : ∀ q, s.Runs q m.group → q = child.pid) : s'.Quieted child m.group := by
  obtain ⟨⟨m₁, hm₁, -, hp⟩, -, hkin⟩ := h
  obtain rfl : m = m₁ := Option.some.inj (hm.symm.trans hm₁)
  obtain ⟨m₂, hm₂, hbirth, horigin⟩ := hs.there
  obtain rfl : m = m₂ := Option.some.inj (hm.symm.trans hm₂)
  refine ⟨horigin, ?_, ?_, fun q n hn hmem hmine => ?_⟩
  · rw [hp]
    exact hs.born
  · rw [hkin, hp]
    exact hs.kin
  rw [hp, Population.members_put] at hn
  split at hn
  · obtain rfl := Option.some.inj hn
    exact Life.kill_ne_running _
  · rename_i hother
    rw [hkin] at hmem
    intro hrunning
    rcases hmine with hgroup | hchild
    · exact hother (halone q ⟨n, hn, hmem, hgroup, hrunning⟩)
    · exact hother (congrArg Identity.pid hchild)

/-- An answer of the host takes back no birth. -/
lemma births_le_of_answers (h : s.Answers e s') : s.people.births ≤ s'.people.births :=
  Population.births_le_of_changes (Population.changes_of_serves h.1)

/-- The child is collected. -/
lemma not_present_of_wait {status : WaitStatus} (h : s.Answers ⟨.wait child.pid, .ok status⟩ s') :
    ¬ s'.people.Present child := by
  obtain ⟨⟨-, -, hp⟩, -⟩ := h
  rintro ⟨m, hm, -⟩
  rw [hp, Population.members_remove, if_pos rfl] at hm
  cases hm

/-- A quieted group stays so when the child is collected. -/
lemma Quieted.wait {status : WaitStatus} (hs : s.Quieted child g)
    (h : s.Answers ⟨.wait child.pid, .ok status⟩ s') : s'.Quieted child g := by
  obtain ⟨hcollects, -, hkin⟩ := h
  exact hs.pass (Population.Collects.passes hcollects) hkin

end Scene

/-! ## Launches that are given up -/

/-- **A launch as a job is given up**, while everybody else goes on. It begins in the scene `s`, and its
child is killed when `a` has come about, which works and leads to `b`. The child is collected, too, and
the launch has failed in `s'`. -/
structure Abandoned (c : Config) (o : JobOptions) (before : List Exchange) (status : WaitStatus)
    (s a b s' : Scene) (child : Identity) : Prop where
  sound : s.people.Sound
  unknown : s.child = none ∧ s.kin = ∅
  fails : ∃ reason code, Run (tryLaunchAsJob c o)
    (before ++ [⟨.kill child.pid, .ok ()⟩, ⟨.wait child.pid, .ok status⟩])
    (.error (.assignFailed child.pid reason code))
  checks : Amid s before a
  known : a.child = some child
  kills : a.Answers ⟨.kill child.pid, .ok ()⟩ b
  collects : Amid b [⟨.wait child.pid, .ok status⟩] s'

/-- A launch that fails with its check has started the child, has asked for its group, and has then tried
to kill and to collect it. -/
lemma run_of_assignFailed {c : Config} {o : JobOptions} {pid : Pid} {reason : String}
    {code : Option Int}
    (run : Run (tryLaunchAsJob c o) trace (.error (.assignFailed pid reason code))) :
    ∃ first answer killed waited, Run (Launch.start c true) first (.ok pid) ∧
      trace = first ++ [⟨.groupOf pid, answer⟩] ++ [⟨.kill pid, killed⟩, ⟨.wait pid, waited⟩] := by
  rw [tryLaunchAsJob] at run
  split at run
  · cases (run_pure_iff.1 run).2
  obtain ⟨first, last, started, hstart, hlast, rfl⟩ := run_seq_iff.1 run
  rcases started with fault | ⟨pid', job⟩
  · obtain ⟨rfl, heq⟩ := run_pure_iff.1 hlast
    cases heq
    rcases Launch.run_startJob hstart with ⟨fault, hfault, heq⟩ | ⟨_, _, -, -, heq⟩ |
      ⟨first, pid', answer, fault, last, hpid, hassign, habort, rfl, heq⟩
    · cases heq
      rcases Launch.started_start hfault with ⟨_, heq, -, ⟨_, rfl⟩ | ⟨_, _, _, rfl⟩⟩ | ⟨_, heq, -⟩ <;>
        cases heq
    · cases heq
    · cases heq
      obtain ⟨_, _, heq⟩ := Launch.exists_of_assignFault?_eq_some hassign
      cases heq
      obtain ⟨killed, _, hkilled, rfl⟩ := run_call_seq_iff.1 habort
      obtain ⟨waited, _, hwaited, rfl⟩ := run_call_seq_iff.1 hkilled
      obtain ⟨rfl, -⟩ := run_pure_iff.1 hwaited
      exact ⟨first, answer, killed, waited, hpid, by simp⟩
  · rcases Launch.run_complete hlast with ⟨_, -, -, heq⟩ | ⟨_, _, _, -, -, -, -, heq⟩ |
      ⟨-, -, heq⟩ | ⟨-, -, heq⟩ <;> cases heq

/-- As long as the launch has started nothing, nobody comes from it. -/
lemma Scene.unknown_of_goes (hs : s.people.Sound ∧ s.kin = ∅) (h : s.Goes s') :
    s'.people.Sound ∧ s'.kin = ∅ := by
  obtain ⟨_, hchanges⟩ := h.changes
  refine ⟨hs.1.changes hchanges, ?_⟩
  rcases h.cases with ⟨-, ⟨_, -, -, hkin⟩ | ⟨q, parent, pid, guarded, -, -, -, -, hkin⟩⟩
  · rw [hkin, hs.2]
  · refine Set.eq_empty_iff_forall_notMem.2 fun c hc => ?_
    rcases (hkin c).1 hc with hc | ⟨-, hc⟩ <;> rw [hs.2] at hc <;> exact hc

/-- Calls that have to do with files or ask for a group keep whatever is kept without the launcher. -/
lemma Amid.keeps_of_idle {P : Scene → Prop} (h : Amid s trace s')
    (hidle : ∀ e ∈ trace, e.1.IsFiling ∨ ∃ pid, e.1 = .groupOf pid)
    (hgo : ∀ s s', P s → s.Goes s' → P s') (hs : P s) : P s' :=
  h.keeps hgo (fun e he _ _ hs hcall => Scene.eq_of_answers hcall (hidle e he) ▸ hs) hs

/-- Births are not taken back. -/
lemma Amid.births_le (h : Amid s trace s') : s.people.births ≤ s'.people.births := by
  refine h.keeps (P := fun x => s.people.births ≤ x.people.births) (fun _ _ hle hgo => ?_)
    (fun _ _ _ _ hle hcall => Nat.le_trans hle (Scene.births_le_of_answers hcall)) (Nat.le_refl _)
  obtain ⟨_, hchanges⟩ := hgo.changes
  exact Nat.le_trans hle (Population.births_le_of_changes hchanges)

/-- A process that is gone does not come back. -/
lemma Amid.not_present {child : Identity} (h : Amid s trace s')
    (hborn : child.birth < s.people.births) (hgone : ¬ s.people.Present child) :
    ¬ s'.people.Present child := by
  have hstep {x y : Scene} {gone : Option Pid} (hchanges : x.people.Changes gone y.people)
      (hx : child.birth < x.people.births ∧ ¬ x.people.Present child) :
      child.birth < y.people.births ∧ ¬ y.people.Present child := by
    refine ⟨Nat.lt_of_lt_of_le hx.1 (Population.births_le_of_changes hchanges), ?_⟩
    rintro ⟨m', hm', hbirth⟩
    obtain ⟨m, hm, hbecomes⟩ := Population.before_of_changes hchanges hm' (hbirth ▸ hx.1)
    exact hx.2 ⟨m, hm, hbecomes.birth.symm.trans hbirth⟩
  refine (h.keeps (fun x y hx hgo => ?_)
    (fun _ _ x y hx hcall => hstep (Population.changes_of_serves hcall.1) hx) ⟨hborn, hgone⟩).2
  obtain ⟨_, hchanges⟩ := hgo.changes
  exact hstep hchanges hx

/-- Starting the child: from then on it is watched. -/
lemma watched_of_run_start {c : Config} {ownGroup : Bool} {pid : Pid} (hs : s.people.Sound)
    (hkin : s.kin = ∅) (run : Run (Launch.start c ownGroup) trace (.ok pid)) (h : Amid s trace s') :
    ∃ child, child.pid = pid ∧ s'.Watched child := by
  rcases Launch.run_start run with ⟨-, -, heq⟩ | ⟨_, -, heq⟩ |
    ⟨streams, first, process, answer, last, hdup, -, hclose, rfl, heq⟩
  · cases heq
  · cases heq
  rcases answer with errno | pid' <;> cases heq
  obtain ⟨s₁, hfirst, hrest⟩ := amid_append_iff.1 h
  obtain ⟨s₂, s₃, hwait, hstart, hlast⟩ := amid_cons_iff.1 hrest
  have hfiling := (Launch.filing_duplicateStreams _).of_run hdup
  have hbefore := hfirst.keeps_of_idle (fun e he => .inl (hfiling e he))
    (fun _ _ => Scene.unknown_of_goes) ⟨hs, hkin⟩
  have hready := hwait.keeps_of_idle (by simp) (fun _ _ => Scene.unknown_of_goes) hbefore
  have hwatched := Scene.watched_of_start hready.1 hready.2 hstart
  have hclosing := (Launch.filing_closeAll _).of_run hclose
  exact ⟨_, rfl, hlast.keeps_of_idle (fun e he => .inl (hclosing e he))
    (fun _ _ => Scene.Watched.goes) hwatched⟩

/-! ## A host to try it on -/

namespace Population

variable {p : Population} {launcher pid q : Pid} {m : Member}

/-- There is nobody but the launcher. -/
def solitary (launcher : Pid) : Population where
  members q := if q = launcher then some { birth := 0, group := ⟨launcher, 0⟩ } else none
  births := 1
  launcher := launcher
  home := ⟨launcher, 0⟩

/-- Whoever is there is the launcher. -/
lemma eq_of_members_solitary (h : (solitary launcher).members q = some m) :
    q = launcher ∧ m = { birth := 0, group := ⟨launcher, 0⟩ } := by
  by_cases hq : q = launcher
  · exact ⟨hq, by simpa [solitary, hq] using h.symm⟩
  · simp [solitary, hq] at h

/-- The launcher alone is a sound population. -/
lemma sound_solitary (launcher : Pid) : (solitary launcher).Sound := by
  refine ⟨fun q m hm => ?_, fun q m r n hm hn _ => ?_, fun q m n hm hn => ?_,
    ⟨_, if_pos rfl, rfl⟩⟩
  · obtain ⟨-, rfl⟩ := eq_of_members_solitary hm
    exact ⟨Nat.zero_lt_one, Nat.zero_lt_one⟩
  · rw [(eq_of_members_solitary hm).2, (eq_of_members_solitary hn).2]
  · rw [(eq_of_members_solitary hm).2, (eq_of_members_solitary hn).2]

/-- Every other number can be given out. -/
lemma fresh_solitary (hpid : 1 < pid) (hother : pid ≠ launcher) :
    (solitary launcher).Fresh pid := by
  refine ⟨hpid, if_neg hother, fun q m hm => ?_⟩
  rw [(eq_of_members_solitary hm).2]
  exact Ne.symm hother

/-- A number that is neither given out nor that of the new process' group can still be given out. -/
lemma Fresh.bear {group : Identity} (h : p.Fresh pid) (guarded : Bool) (hother : pid ≠ q)
    (hgroup : group.pid ≠ pid) : (p.bear q group guarded).Fresh pid := by
  obtain ⟨hpid, hnone, hall⟩ := h
  refine ⟨hpid, by rw [members_bear, if_neg hother, hnone], fun r m hm => ?_⟩
  rcases members_bear_cases hm with ⟨-, rfl⟩ | ⟨-, hm⟩
  · exact hgroup
  · exact hall r m hm

end Population

/-- The launcher with number 10 has started process 42 as the leader of a group. -/
def Scene.begun : Scene where
  people := (Population.solitary 10).bear 42 ⟨42, 1⟩ false
  child := some ⟨42, 1⟩
  kin := insert ⟨42, 1⟩ ∅

/-- A process to which the launcher may send signals can be killed, end, and be collected. This changes
nothing for the others. -/
lemma Scene.exists_collected {pid : Pid} {m : Member} (hm : s.people.members pid = some m)
    (hfree : m.guarded = false) (hother : pid ≠ s.people.launcher) (status : WaitStatus) :
    ∃ b s', s.Answers ⟨.kill pid, .ok ()⟩ b ∧ Amid b [⟨.wait pid, .ok status⟩] s' ∧
      s'.kin = s.kin ∧ ∀ q, q ≠ pid → s'.people.members q = s.people.members q := by
  let killed : Population := s.people.put pid m.kill
  let ended : Population := killed.put pid { m.kill with life := .ended }
  have hkill : s.Answers ⟨.kill pid, .ok ()⟩ { s with people := killed } :=
    ⟨⟨m, hm, by simp [hfree], rfl⟩, rfl, rfl⟩
  have hend : Happens killed ended := .finish (by simp [killed])
  have hcollect : Scene.Answers { s with people := ended } ⟨.wait pid, .ok status⟩
      { s with people := ended.remove pid } :=
    ⟨⟨hother, ⟨{ m.kill with life := .ended }, by simp [ended], rfl⟩, rfl⟩, rfl, rfl⟩
  refine ⟨_, _, hkill, .go (.happen hend rfl) (.call hcollect (.nil _)), rfl, fun q hq => ?_⟩
  simp [ended, killed, hq]

/-- The launcher gives the launch up when it is not told the group of its child. -/
lemma exists_run_refused (pid : Pid) (e : Errno) (status : WaitStatus) :
    ∃ c o process, process.ownGroup = true ∧
      Run (tryLaunchAsJob c o)
        ([⟨.start process, .ok pid⟩, ⟨.groupOf pid, .error e⟩] ++
          [⟨.kill pid, .ok ()⟩, ⟨.wait pid, .ok status⟩])
        (.error (.assignFailed pid ("getpgid failed: " ++ e.named) (some e.code))) := by
  let config : Config := ⟨{ Draft.ofCommand "true" with completion := .track }, by decide⟩
  let process : Start :=
    { program := "true", arguments := [], directory := none, ownGroup := true, streams := {} }
  have hsplit : CommandLine.split config.commandLine = ["true"] := by
    have hjoin : CommandLine.join ["true"] = .ok config.commandLine := rfl
    rw [CommandLine.split_of_join hjoin]
    simp
  have hwaits : ¬ config.completion.waits = true := by decide
  refine ⟨config, ⟨false⟩, process, rfl, ?_⟩
  rw [tryLaunchAsJob, if_neg hwaits, Launch.startJob, Launch.start, hsplit]
  exact .ask (.ask (.ask (.ask (.done _))))

/-- Whatever has gone on since the start, the launcher can be refused the group of the child, and then
gives the launch up. This changes nothing for the others. -/
lemma exists_abandoned {a : Scene} {m : Member} (hgo : Amid Scene.begun [] a)
    (hknown : a.child = some ⟨42, 1⟩) (hlauncher : a.people.launcher = 10)
    (hm : a.people.members 42 = some m) (hfree : m.guarded = false) :
    ∃ c o before status s b s', Abandoned c o before status s a b s' ⟨42, 1⟩ ∧ s'.kin = a.kin ∧
      ∀ q, q ≠ 42 → s'.people.members q = a.people.members q := by
  obtain ⟨c, o, process, hgroup, run⟩ := exists_run_refused 42 ⟨1⟩ (.ofSignal 9 false)
  have hother : 42 ≠ a.people.launcher := by
    rw [hlauncher]
    decide
  obtain ⟨b, s', hkill, hcollect, hkin, hothers⟩ :=
    Scene.exists_collected hm hfree hother (.ofSignal 9 false)
  have hstart : Scene.Answers { people := .solitary 10 } ⟨.start process, .ok 42⟩ .begun :=
    ⟨⟨⟨42, 1⟩, false, Population.fresh_solitary (by decide) (by decide), .inr ⟨hgroup, rfl⟩, rfl⟩,
      rfl, rfl⟩
  have hrefused : a.Answers ⟨.groupOf 42, .error ⟨1⟩⟩ a := ⟨rfl, rfl, rfl⟩
  have habandoned : Abandoned c o [⟨.start process, .ok 42⟩, ⟨.groupOf 42, .error ⟨1⟩⟩] (.ofSignal 9 false)
      { people := .solitary 10 } a b s' ⟨42, 1⟩ := {
    sound := Population.sound_solitary 10
    unknown := ⟨rfl, rfl⟩
    fails := ⟨_, _, run⟩
    checks := .call hstart (hgo.trans (.call hrefused (.nil a)))
    known := hknown
    kills := hkill
    collects := hcollect }
  exact ⟨_, _, _, _, _, _, _, habandoned, hkin, hothers⟩

/-- **What a launch that was given up leaves behind.** Its child is gone. If of all who come from the
launch nobody but the child ran in the child's group when the child was killed, nobody runs there now.

**Proof sketch.** Up to the kill the child is there and nobody of the launch is older
(`Launcher.Jobs.Scene.Watched`). With the kill nobody of the launch runs in the group any more, and only
one who runs there could bring somebody into it (`Launcher.Jobs.Scene.Quieted`). Both are kept by
whatever goes on in between. -/
theorem nothing_left_running {c : Config} {o : JobOptions} {before : List Exchange}
    {status : WaitStatus} {s a b s' : Scene} {child : Identity}
    (h : Abandoned c o before status s a b s' child) :
    ∃ m, a.people.members child.pid = some m ∧ m.birth = child.birth ∧
      ¬ s'.people.Present child ∧
      ((∀ q, a.Runs q m.group → q = child.pid) → ∀ q, ¬ s'.Runs q m.group) := by
  obtain ⟨reason, code, run⟩ := h.fails
  obtain ⟨first, answer, killed, waited, hstart, htrace⟩ := run_of_assignFailed run
  obtain ⟨rfl, -⟩ := List.append_inj' htrace rfl
  obtain ⟨s₁, hfirst, hgroup⟩ := amid_append_iff.1 h.checks
  obtain ⟨child', hpid, hwatched⟩ :=
    watched_of_run_start h.sound h.unknown.2 hstart hfirst
  have hready : a.Watched child' :=
    hgroup.keeps_of_idle (by simp) (fun _ _ => Scene.Watched.goes) hwatched
  obtain rfl : child = child' := Option.some.inj (h.known.symm.trans hready.known)
  obtain ⟨m, hm, hbirth, -⟩ := hready.there
  obtain ⟨s₂, s₃, hwait, hcollect, hlast⟩ := amid_cons_iff.1 h.collects
  refine ⟨m, hm, hbirth, ?_, fun halone => ?_⟩
  · have hborn : child.birth < s₃.people.births := by
      have hkilled := Scene.births_le_of_answers h.kills
      have hwaited := hwait.births_le
      have hcollected := Scene.births_le_of_answers hcollect
      have hbefore := hready.born
      omega
    exact hlast.not_present hborn (Scene.not_present_of_wait hcollect)
  · have hquiet := hready.kill h.kills hm halone
    have hstill := hwait.keeps_of_idle (by simp) (fun _ _ => Scene.Quieted.goes) hquiet
    have hend := hlast.keeps_of_idle (by simp) (fun _ _ => Scene.Quieted.goes) (hstill.wait hcollect)
    rintro q ⟨n, hn, hmem, hsame, hrunning⟩
    exact hend.still q n hn hmem (.inl hsame) hrunning

/-- A child that does not fork: it is killed, and nothing is left. -/
theorem nothing_left_running_of_childless :
    ∃ c o before status s a b s' child, Abandoned c o before status s a b s' child ∧
      (∀ q, a.Runs q child → q = child.pid) ∧ ¬ s'.people.Present child ∧ ∀ q, ¬ s'.Runs q child := by
  obtain ⟨c, o, before, status, s, b, s', habandoned, -, -⟩ :=
    exists_abandoned (.nil .begun) rfl rfl rfl rfl
  have halone : ∀ q, Scene.begun.Runs q ⟨42, 1⟩ → q = 42 := by
    rintro q ⟨m, -, hmem, -⟩
    rcases hmem with hmem | hmem
    · exact congrArg Identity.pid hmem
    · exact hmem.elim
  obtain ⟨m, hm, -, hgone, hleft⟩ := nothing_left_running habandoned
  obtain rfl := Option.some.inj hm
  exact ⟨c, o, before, status, s, .begun, b, s', ⟨42, 1⟩, habandoned, halone, hgone, hleft halone⟩

/-- **Somebody may be left running.** The child with number 42 leads a group and has forked process 43
when the launcher is refused the group of the child. The child is killed and collected, and process 43
runs in the child's group when the launch has failed. -/
theorem left_running :
    ∃ c o before status s a b s' child, Abandoned c o before status s a b s' child ∧
      (∃ m, a.people.members child.pid = some m ∧ m.group = child) ∧ s'.Runs 43 child := by
  have hfresh : Scene.begun.people.Fresh 43 :=
    (Population.fresh_solitary (by decide) (by decide)).bear false (by decide) (by decide)
  have hfork := Scene.Goes.fork (s := .begun) (q := 42) false rfl rfl hfresh
  obtain ⟨c, o, before, status, s, b, s', habandoned, hkin, hothers⟩ :=
    exists_abandoned (.go hfork (.nil _)) rfl rfl rfl rfl
  refine ⟨c, o, before, status, s, _, b, s', ⟨42, 1⟩, habandoned, ⟨_, rfl, rfl⟩, _,
    (hothers 43 (by decide)).trans rfl, ?_, rfl, rfl⟩
  rw [hkin]
  exact .inr ⟨rfl, .inl rfl⟩

end Launcher.Jobs
