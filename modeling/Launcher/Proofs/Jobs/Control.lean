import Launcher.Proofs.CommandLine.RoundTrip
import Launcher.Proofs.Jobs.World
/-!
# Job control

The handle of a job reaches all of the job and nothing else: as long as somebody is in the group or
its leader is there, a kill signal to the number of the group goes to the group of the child that
the launch has started, to everybody in it and to nobody else. Once nobody is in a group of this
number, ending the job does nothing and works.

The number of the group alone does not say so. It is the invariant of all runs that does: a job
exists only after the host has confirmed that the child leads a group of its own, and no number is
given out again as long as a process or a group has it.

## Main definitions

* `Launcher.Jobs.Population.strike` — everybody in a group is killed.
* `Launcher.Jobs.Reaches` — what the handle of a job does to a group that is there.
* `Launcher.Jobs.Reports` — what the handle tells about it.
* `Launcher.Jobs.World.Lasting` — a job that was ended can be ended again.
* `Launcher.Jobs.World.Sole` — nothing else sends signals to groups, and a handle goes only by being
  dropped.

## Main results

* `Launcher.Jobs.controls_job` — job control, in every world that a program can come to.
-/

namespace Launcher.Jobs

open Host Host.Dialogue

/-! ## Kill signals -/

namespace Population

variable {p p' : Population} {c : Identity} {g : Pid} {meant meant' : Member → Bool}

/-- Everybody in the group is sent a kill signal, as far as the launcher may send it. -/
def strike (p : Population) (c : Identity) : Population :=
  p.signal fun m => m.group = c

/-- It only matters for whom of those that are there a signal is meant. -/
lemma signal_congr (h : ∀ q m, p.members q = some m →
    (meant m && !m.guarded) = (meant' m && !m.guarded)) : p.signal meant = p.signal meant' := by
  refine Population.ext (funext fun q => ?_) rfl rfl rfl (funext fun d => ?_)
  · rw [members_signal, members_signal]
    cases hm : p.members q with
    | none => rfl
    | some m => simp only [Option.map_some, h q m hm]
  · simp only [signal, hits]
    cases hm : p.members d.pid with
    | none => rfl
    | some m => simp only [h d.pid m hm]

/-- A signal that may be sent to nobody changes nothing. -/
lemma signal_eq_self (h : ∀ q m, p.members q = some m → meant m → m.guarded) :
    p.signal meant = p := by
  have hnobody : ∀ q m, p.members q = some m → (meant m && !m.guarded) = false := by
    intro q m hm
    cases hmeant : meant m with
    | false => rfl
    | true => simp [h q m hm hmeant]
  refine Population.ext (funext fun q => ?_) rfl rfl rfl (funext fun d => ?_)
  · rw [members_signal]
    cases hm : p.members q with
    | none => rfl
    | some m => simp only [Option.map_some, hnobody q m hm, Bool.false_eq_true, if_false]
  · simp only [signal, hits]
    cases hm : p.members d.pid with
    | none => rfl
    | some m => simp only [hnobody d.pid m hm, Bool.false_eq_true, and_false, if_false, Nat.add_zero]

/-- Whatever the host answers, the signal goes to everybody whom it is meant for, as far as the
launcher may send it. -/
lemma KillsGroup.eq_signal {answer : Except Errno Unit} (h : p.KillsGroup g answer p') :
    p' = p.signal (p.addressed g) := by
  cases h with
  | nobody hnone =>
    refine (signal_eq_self fun q m hm hg => ?_).symm
    rw [hnone q m hm] at hg
    cases hg
  | struck _ _ _ => rfl
  | refused _ _ hall _ => exact (signal_eq_self hall).symm

/-- **A signal to the number of a group that is there goes to this group.** -/
theorem signal_addressed_eq_strike (hp : p.Sound) (hc : p.Leads c) (hinhabited : p.Inhabited c) :
    p.signal (p.addressed c.pid) = p.strike c := by
  refine signal_congr fun q m hm => ?_
  have hsame : m.group.pid = c.pid ↔ m.group = c :=
    ⟨group_eq_of_inhabited hp hinhabited hm, fun h => by rw [h]⟩
  rw [addressed_of_one_lt hc.proper]
  simp only [hsame]

end Population

/-! ## What a handle does -/

/-- **What the handle of a job does** to the group of a leader. -/
structure Reaches (p : Population) (j : Job) (leader : Identity) : Prop where
  /-- Ending the job kills the group. -/
  terminate : ∀ result p', Terminates p j result p' → p' = p.strike leader
  /-- Dropping the handle makes one call, which kills the group, or none. -/
  release : ∀ trace p', Releases p j trace p' →
    if j.killOnClose
    then (∃ answer, trace = [⟨.killGroup j.group, answer⟩]) ∧ p' = p.strike leader
    else trace = [] ∧ p' = p
  /-- To kill the group is to send one signal to everybody in it, as far as the launcher may. -/
  hit : ∀ q m, p.members q = some m → m.group = leader → m.guarded = false →
    (p.strike leader).signals ⟨q, m.birth⟩ = p.signals ⟨q, m.birth⟩ + 1
  /-- Nobody else is sent one. -/
  spared : ∀ d, (∀ m, p.members d.pid = some m → m.birth = d.birth → m.group = leader → m.guarded) →
    (p.strike leader).signals d = p.signals d
  /-- Who is not in the group goes on. -/
  others : ∀ q m, p.members q = some m → m.group ≠ leader → (p.strike leader).members q = some m
  /-- If the launcher may send signals to everybody in the group, it works, and everybody in the
  group has been killed. -/
  all : p.PermitsAll leader → (∀ result p', Terminates p j result p' → result = .ok ()) ∧
    ∀ q m, p.members q = some m → m.group = leader → (p.strike leader).members q = some m.kill

/-- **What the handle of a job tells.** -/
structure Reports (p : Population) (j : Job) : Prop where
  /-- Ending the job comes to a result, and dropping the handle to an end. -/
  total : (∃ result p', Terminates p j result p') ∧ ∃ trace p', Releases p j trace p'
  /-- It works if nobody is in the group, or if the launcher may send signals to somebody in it, and
  only then. -/
  works : ∀ result p', Terminates p j result p' → (result = .ok () ↔
    p.Vacant j.group ∨ ∃ q m, p.members q = some m ∧ m.group.pid = j.group ∧ m.guarded = false)
  /-- If nobody is in the group, nothing is done. -/
  vacant : p.Vacant j.group → ∀ result p', Terminates p j result p' → result = .ok () ∧ p' = p
  /-- Any fault is an error that the host has answered with, and not the one that there is no such
  process. Nothing is done then. -/
  fault : ∀ fault p', Terminates p j (.error fault) p' → p' = p ∧
    ∃ e, e ≠ .noProcess ∧ p.KillsGroup j.group (.error e) p' ∧ fault = refusal j e
  /-- When it has worked, it works again at once. -/
  again : ∀ p', Terminates p j (.ok ()) p' → ∀ result p'', Terminates p' j result p'' →
    result = .ok ()

namespace Population

variable {p p' : Population} {c : Identity} {j : Job} {result : Except Fault Unit}

/-- Ending a job fails only with an error of the host. Somebody is in the group then, and the launcher
may not send signals to anybody in it. -/
lemma of_terminates_error {fault : Fault} (hj : 1 < j.group)
    (h : Terminates p j (.error fault) p') :
    (p' = p ∧ ∃ e, e ≠ .noProcess ∧ p.KillsGroup j.group (.error e) p' ∧ fault = refusal j e) ∧
      (∃ q m, p.members q = some m ∧ m.group.pid = j.group) ∧
      ∀ q m, p.members q = some m → m.group.pid = j.group → m.guarded := by
  obtain ⟨answer, hkills, hresult⟩ := terminates_iff.1 h
  rcases answer with e | ⟨⟩
  · by_cases he : e = .noProcess
    · simp [verdict, he] at hresult
    · simp only [verdict, if_neg he, Except.error.injEq] at hresult
      have hanswer := hkills
      cases hkills with
      | nobody hnone => exact absurd rfl he
      | @refused q m _ hm hg hall _ =>
        rw [addressed_of_one_lt hj] at hg hall
        refine ⟨⟨rfl, e, he, hanswer, hresult⟩, ⟨q, m, hm, of_decide_eq_true hg⟩,
          fun q m hm hpid => ?_⟩
        exact hall q m hm (decide_eq_true hpid)
  · cases hresult

/-- Ending a job sends a signal to its group, and does nothing else. -/
lemma eq_signal_of_terminates (h : Terminates p j result p') :
    p' = p.signal (p.addressed j.group) := by
  obtain ⟨answer, hkills, -⟩ := terminates_iff.1 h
  exact hkills.eq_signal

/-- Ending a job works when nobody is in the group, or when the launcher may send signals to
somebody in it. -/
lemma eq_ok_of_terminates (hj : 1 < j.group) (h : Terminates p j result p')
    (hgroup : p.Vacant j.group ∨
      ∃ q m, p.members q = some m ∧ m.group.pid = j.group ∧ m.guarded = false) :
    result = .ok () := by
  rcases result with fault | ⟨⟩
  · obtain ⟨-, ⟨q, m, hm, hpid⟩, hall⟩ := of_terminates_error hj h
    rcases hgroup with hvacant | ⟨q', m', hm', hpid', hfree⟩
    · exact absurd hpid (hvacant q m hm)
    · rw [hall q' m' hm' hpid'] at hfree
      cases hfree
  · rfl

/-- When ending a job has worked, nobody was in the group, or the launcher might send signals to
somebody in it. -/
lemma of_terminates_ok (hj : 1 < j.group) (h : Terminates p j (.ok ()) p') :
    p.Vacant j.group ∨
      ∃ q m, p.members q = some m ∧ m.group.pid = j.group ∧ m.guarded = false := by
  obtain ⟨answer, hkills, hresult⟩ := terminates_iff.1 h
  cases hkills with
  | nobody hnone =>
    rw [addressed_of_one_lt hj] at hnone
    exact .inl fun q m hm => of_decide_eq_false (hnone q m hm)
  | @struck q m hm hg hfree =>
    rw [addressed_of_one_lt hj] at hg
    exact .inr ⟨q, m, hm, of_decide_eq_true hg, hfree⟩
  | refused _ _ _ he => simp [verdict, he] at hresult

/-- **What ending a job tells**, of every job whose number is that of a group. -/
theorem reports (hj : 1 < j.group) : Reports p j := by
  refine ⟨⟨?_, ?_⟩, fun result p' h => ⟨?_, eq_ok_of_terminates hj h⟩,
    fun hvacant result p' h => ?_, fun fault p' h => (of_terminates_error hj h).1,
    fun p' h result p'' h' => ?_⟩
  · obtain ⟨answer, p', hkills⟩ := p.exists_killsGroup j.group
    exact ⟨_, p', terminates_iff.2 ⟨answer, hkills, rfl⟩⟩
  · cases hclose : j.killOnClose with
    | true =>
      obtain ⟨answer, p', hkills⟩ := p.exists_killsGroup j.group
      exact ⟨_, p', releases_iff.2 (by rw [if_pos hclose]; exact ⟨answer, rfl, hkills⟩)⟩
    | false => exact ⟨[], p, releases_iff.2 (by simp [hclose])⟩
  · rintro rfl
    exact of_terminates_ok hj h
  · refine ⟨eq_ok_of_terminates hj h (.inl hvacant), (eq_signal_of_terminates h).trans ?_⟩
    refine signal_eq_self fun q m hm hg => ?_
    rw [addressed_of_one_lt hj] at hg
    exact absurd (of_decide_eq_true hg) (hvacant q m hm)
  · -- the signal has not brought anybody out of the group
    refine eq_ok_of_terminates hj h' ?_
    rw [eq_signal_of_terminates h]
    rcases of_terminates_ok hj h with hvacant | ⟨q, m, hm, hpid, hfree⟩
    · refine .inl fun q m' hm' => ?_
      rw [members_signal, Option.map_eq_some_iff] at hm'
      obtain ⟨m, hm, rfl⟩ := hm'
      split <;> exact hvacant q m hm
    · refine .inr ⟨q, _, by rw [members_signal, hm, Option.map_some], ?_⟩
      split <;> exact ⟨hpid, hfree⟩

/-- **The handle of a job reaches all of the job and nothing else**, as long as somebody is in the
group or its leader is there. -/
theorem reaches {c : Identity} (hp : p.Sound) (hc : p.Leads c) (hj : j.group = c.pid)
    (hinhabited : p.Inhabited c) : Reaches p j c := by
  have hproper : 1 < j.group := hj ▸ hc.proper
  have hstrike : p.signal (p.addressed j.group) = p.strike c :=
    hj ▸ signal_addressed_eq_strike hp hc hinhabited
  refine ⟨fun result p' h => (eq_signal_of_terminates h).trans hstrike, fun trace p' h => ?_,
    fun q m hm hg hfree => ?_, fun d hspared => ?_, fun q m hm hother => ?_,
    fun hall => ⟨fun result p' h => ?_, fun q m hm hg => ?_⟩⟩
  · have h := releases_iff.1 h
    split at h
    · rename_i hclose
      obtain ⟨answer, htrace, hkills⟩ := h
      rw [if_pos hclose]
      exact ⟨⟨answer, htrace⟩, hkills.eq_signal.trans hstrike⟩
    · rename_i hclose
      rw [if_neg hclose]
      exact h
  · simp [strike, signal, hits, hm, hg, hfree]
  · simp only [strike, signal, hits]
    cases hm : p.members d.pid with
    | none => rfl
    | some m =>
      have hnot : ¬ (m.birth = d.birth ∧ (decide (m.group = c) && !m.guarded) = true) := by
        rintro ⟨hbirth, hmeant⟩
        rw [Bool.and_eq_true, decide_eq_true_iff] at hmeant
        rw [hspared m hm hbirth hmeant.1] at hmeant
        cases hmeant.2
      simp only [if_neg hnot, Nat.add_zero]
  · rw [strike, members_signal, hm]
    simp [hother]
  · obtain ⟨q, m, hm, hg⟩ := hc.exists_member hinhabited
    exact eq_ok_of_terminates hproper h (.inr ⟨q, m, hm, by rw [hg, hj], hall q m hm hg⟩)
  · rw [strike, members_signal, hm]
    simp [hg, hall q m hm hg]

/-- When a job has been ended and the launcher might send signals to everybody in it, nobody in the
group runs any more. -/
lemma stilled_of_terminates {c : Identity} (hc : p.Leads c) (hj : j.group = c.pid)
    (h : Terminates p j result p') (hall : p.PermitsAll c) : p'.Stilled c := by
  refine ⟨?_, ?_, fun q m' hm' hmine => ?_⟩
  · rw [h.passes.births]
    exact hc.born
  · rw [h.passes.home]
    exact fun hhome => hc.apart (by rw [hhome])
  · rw [eq_signal_of_terminates h, members_signal, Option.map_eq_some_iff] at hm'
    obtain ⟨m, hm, rfl⟩ := hm'
    have hgroup : m.group = c := by
      rcases hmine with hgroup | hleader
      · split at hgroup <;> exact hgroup
      · have hbirth : m.birth = c.birth := by
          rw [← hleader]
          split <;> rfl
        exact hc.own m (by rw [← hleader]; exact hm) hbirth
    have hfree := hall q m hm hgroup
    have haddressed : p.addressed j.group m = true := by
      rw [hj, addressed_of_one_lt hc.proper]
      exact decide_eq_true (congrArg Identity.pid hgroup)
    rw [haddressed, hfree]
    exact ⟨Life.kill_ne_running _, hfree⟩

end Population

/-! ## Handles in a world -/

/-- **A job that was ended can be ended again**, if the launcher might send signals to everybody in
it: it works at any time later, unless the number of the group is that of another group by then. -/
def World.Lasting (w : World) (j : Job) (leader : Identity) : Prop :=
  ∀ people, Terminates w.people j (.ok ()) people → w.people.PermitsAll leader →
    ∀ w', Relation.ReflTransGen Step { w with people } w' →
      w'.people.Inhabited leader ∨ w'.people.Vacant j.group →
      ∀ result p', Terminates w'.people j result p' → result = .ok ()

/-- **Nothing else has to do with the group of a handle.** -/
structure World.Sole (w : World) (x : Handle) : Prop where
  /-- A signal is sent to a group only by ending a job by its handle, or by dropping the handle. -/
  signals : ∀ w', Step w w' → w'.people.signals ≠ w.people.signals → ∃ y ∈ w.handles,
    (∃ result, Terminates w.people y.job result w'.people) ∨
      ∃ trace, Releases w.people y.job trace w'.people
  /-- The handle goes only by being dropped, and then there is never again one for this job. -/
  gone : ∀ w', Step w w' → x ∉ w'.handles → (∃ trace, Releases w.people x.job trace w'.people) ∧
    ∀ w'', Relation.ReflTransGen Step w' w'' → ∀ y ∈ w''.handles, y.child ≠ x.child

namespace World.Sound

variable {w : World} {x : Handle} {leader : Identity} {before after : List Handle}

/-- A job stays ended in every world that a program can come to. -/
lemma lasting (hw : w.Sound) (hleads : w.people.Leads leader)
    (hgroup : x.job.group = leader.pid) : w.Lasting x.job leader := by
  intro people hterminates hall w' hrun hthere result p' h
  have hfirst : World.Sound { w with people } := hw.pass (.pass hterminates.passes)
  have hsound : w'.Sound := hfirst.run hrun
  have hstilled : w'.people.Leads leader ∧ w'.people.Stilled leader := by
    clear h hthere hsound
    induction hrun with
    | refl =>
      exact ⟨hleads.changes (.pass hterminates.passes),
        Population.stilled_of_terminates hleads hgroup hterminates hall⟩
    | tail _ hstep ih =>
      obtain ⟨gone, hchanges⟩ := hstep.changes
      exact ⟨ih.1.changes hchanges, ih.2.changes hchanges⟩
  refine Population.eq_ok_of_terminates (hgroup ▸ hleads.proper) h ?_
  rcases hthere with hinhabited | hvacant
  · obtain ⟨q, m, hm, hg⟩ := hstilled.1.exists_member hinhabited
    exact .inr ⟨q, m, hm, by rw [hg, hgroup], (hstilled.2.still q m hm (.inl hg)).2⟩
  · exact .inl hvacant

/-- If no other launch or handle is about a leader, nothing but its handle has to do with its group. -/
lemma sole (hw : w.Sound) (hhandles : w.handles = before ++ x :: after)
    (hchild : x.child = some leader) (hleads : w.people.Leads leader)
    (hothers : leader ∉ startedBy w.tasks (before ++ after)) : w.Sole x := by
  refine ⟨fun w' hstep hsignals => ?_, fun w' hstep hgone => ?_⟩
  · cases hstep with
    | answer a htasks hserves =>
      have hmine := hw.tasks _ (htasks ▸ List.mem_append_right _ List.mem_cons_self)
      have hallows := hmine.obeys.1
      refine absurd (Population.signals_of_serves hserves fun g hg => ?_) hsignals
      obtain rfl : _ = Call.killGroup g := hg
      exact hallows
    | terminate hx hterminates => exact ⟨_, hx, .inl ⟨_, hterminates⟩⟩
    | drop hhandles hreleases =>
      exact ⟨_, hhandles ▸ List.mem_append_right _ List.mem_cons_self, .inr ⟨_, hreleases⟩⟩
    | happen hhappens => cases hhappens <;> exact absurd rfl hsignals
    | collect hcollects hfree =>
      obtain ⟨-, -, rfl⟩ := hcollects
      exact absurd rfl hsignals
    | request r => exact absurd rfl hsignals
    | finish htasks => exact absurd rfl hsignals
  · have hx : x ∈ w.handles := by simp [hhandles]
    cases hstep with
    | @drop _ handles handles' y trace hhandles' hreleases =>
      obtain ⟨rfl, hperm⟩ := eq_of_split (hhandles.symm.trans hhandles') hgone
      refine ⟨⟨_, hreleases⟩, fun w'' hrun z hz hsame => ?_⟩
      have hnever : leader ∉ startedBy w.tasks (handles ++ handles') := fun hmem =>
        hothers ((startedBy_perm (.refl _) hperm).mem_iff.1 hmem)
      refine (not_mem_startedBy_of_run hrun ?_ hnever).2 ?_
      · rw [show _ = w.people.births from hreleases.passes.births]
        exact hleads.born
      · exact mem_startedBy_of_mem_handles hz (hsame.trans hchild)
    | finish htasks => exact absurd (List.mem_append_right _ hx) hgone
    | _ => exact absurd hx hgone

end World.Sound

/-! ## Job control -/

/-- **Job control**, in every world that a program can come to and for every handle that there is. The
job is the group that the child of its launch leads. This is not the launcher's own group, and no
other handle is about it. As long as somebody is in the group or its leader is there, the handle
reaches all of the group and nothing else.

**Proof sketch.** The invariant holds in all such worlds, so the child of the handle leads its group.
Numbers and groups that are there belong together, so what is sent to the number of the group goes
to the group. That nobody runs in a group that was ended is kept by every step, since only a running
process can bring somebody into it. -/
theorem controls_job {w : World} (h : Reachable w) {before after : List Handle} {x : Handle}
    (hhandles : w.handles = before ++ x :: after) :
    ∃ leader, x.child = some leader ∧ x.job.group = leader.pid ∧
      (∃ m, w.people.members w.people.launcher = some m ∧ m.group.pid ≠ leader.pid) ∧
      (∀ y ∈ before ++ after, y.child ≠ some leader) ∧
      (w.people.Inhabited leader → Reaches w.people x.job leader ∧
        ∀ q m, w.people.members q = some m → m.group.pid = leader.pid → m.group = leader) ∧
      Reports w.people x.job ∧ w.Lasting x.job leader ∧ w.Sole x := by
  have hw := World.Sound.of_reachable h
  obtain ⟨leader, hchild, hgroup, hleads⟩ := hw.handles x (by simp [hhandles])
  have hothers : leader ∉ startedBy w.tasks (before ++ after) := by
    have hapart := hw.apart
    rw [hhandles, (startedBy_middle_handle x before after w.tasks).nodup_iff, hchild] at hapart
    exact (List.nodup_cons.1 hapart).1
  refine ⟨leader, hchild, hgroup, ?_, fun y hy hsame => ?_, fun hinhabited => ⟨?_, ?_⟩,
    Population.reports (hgroup ▸ hleads.proper), hw.lasting hleads hgroup,
    hw.sole hhandles hchild hleads hothers⟩
  · obtain ⟨m, hm, hhome⟩ := hw.people.launcher
    exact ⟨m, hm, fun hpid => hleads.apart (by rw [← hpid, hhome])⟩
  · exact hothers (mem_startedBy_of_mem_handles hy hsame)
  · exact Population.reaches hw.people hleads hgroup hinhabited
  · exact fun q m hm hpid => Population.group_eq_of_inhabited hw.people hinhabited hm hpid

/-- A job whose leader has forked: the launcher with number 10 has started process 42, which has
started process 43 in its group. Dropping the handle kills both of them, and not the launcher. -/
theorem controls_job_of_forked :
    ∃ w x leader, Reachable w ∧ w.handles = [] ++ x :: [] ∧ x.child = some leader ∧
      w.people.Inhabited leader ∧ Reaches w.people x.job leader ∧ x.job.killOnClose ∧
      (∃ m, w.people.members 43 = some m ∧ m.group = leader ∧
        (w.people.strike leader).members 43 = some m.kill) ∧
      ∃ m, w.people.members 10 = some m ∧ (w.people.strike leader).members 10 = some m := by
  let config : Config := ⟨{ Draft.ofCommand "true" with completion := .track }, by decide⟩
  let process : Start :=
    { program := "true", arguments := [], directory := none, ownGroup := true, streams := {} }
  let launcher : Member := { birth := 0, group := ⟨10, 0⟩ }
  let people : Population :=
    { members := fun q => if q = 10 then some launcher else none
      births := 1, launcher := 10, home := ⟨10, 0⟩ }
  have honly : ∀ q m, people.members q = some m → q = 10 ∧ m = launcher := by
    intro q m hm
    by_cases hq : q = 10
    · exact ⟨hq, by simpa [people, hq] using hm.symm⟩
    · simp [people, hq] at hm
  have hsound : people.Sound := by
    refine ⟨fun q m hm => ?_, fun q m r n hm hn _ => ?_, fun q m n hm hn => ?_, launcher, rfl, rfl⟩
    · obtain ⟨-, rfl⟩ := honly q m hm
      decide
    · rw [(honly q m hm).2, (honly r n hn).2]
    · rw [(honly q m hm).2, (honly _ n hn).2]
  have hsplit : CommandLine.split config.commandLine = ["true"] := by
    have hjoin : CommandLine.join ["true"] = .ok config.commandLine := rfl
    rw [CommandLine.split_of_join hjoin]
    simp
  obtain ⟨next, hstart, next', hgroup, hdone⟩ :
      ∃ next, (Request.tryLaunchAsJob config ⟨true⟩).dialogue = .ask (.start process) next ∧
      ∃ next', next (.ok 42) = .ask (.groupOf 42) next' ∧
        next' (.ok 42) = .done (some { group := 42, killOnClose := true }) := by
    have hwaits : ¬ config.completion.waits = true := by decide
    rw [Request.dialogue, tryLaunchAsJob, if_neg hwaits, Launch.startJob, Launch.start, hsplit]
    exact ⟨_, rfl, _, rfl, rfl⟩
  have halone : ∀ t : Task, [t] = [] ++ t :: [] := fun t => rfl
  -- the child is born into a group of its own
  have hfresh : people.Fresh 42 :=
    ⟨by decide, rfl, fun q m hm => by rw [(honly q m hm).2]; decide⟩
  let started := people.bear 42 ⟨42, 1⟩ false
  have hrequest := Relation.ReflTransGen.tail (.refl : Relation.ReflTransGen Step { people } _)
    (.request (.tryLaunchAsJob config ⟨true⟩))
  rw [hstart] at hrequest
  have hborn : Serves people ⟨.start process, .ok 42⟩ started :=
    ⟨⟨42, 1⟩, false, hfresh, .inr ⟨rfl, rfl⟩, rfl⟩
  have hstarted := hrequest.tail (.answer _ (halone _) hborn)
  rw [hgroup] at hstarted
  have hleads : Serves started ⟨.groupOf 42, .ok 42⟩ started := ⟨⟨_, rfl, rfl⟩, rfl⟩
  have hconfirmed := hstarted.tail (.answer _ (halone _) hleads)
  rw [hdone] at hconfirmed
  have hfinished := hconfirmed.tail (.finish (halone _))
  -- it forks
  have hfresh' : started.Fresh 43 := by
    refine ⟨by decide, rfl, fun q m hm => ?_⟩
    rcases Population.members_bear_cases hm with ⟨-, rfl⟩ | ⟨-, hm⟩
    · decide
    · rw [(honly q m hm).2]
      decide
  have hfork : Happens started (started.bear 43 ⟨42, 1⟩ false) :=
    .fork (q := 42) false rfl rfl hfresh'
  have hforked := hfinished.tail (.happen hfork)
  have hreachable : Reachable _ := ⟨people, hsound, hforked⟩
  obtain ⟨leader, hchild, -, -, -, hreaches, -⟩ := @controls_job _ hreachable [] [] _ rfl
  cases hchild
  have hinhabited : (started.bear 43 ⟨42, 1⟩ false).Inhabited ⟨42, 1⟩ := .inl ⟨43, _, rfl, rfl⟩
  have hreach := (hreaches hinhabited).1
  exact ⟨_, _, _, hreachable, rfl, rfl, hinhabited, hreach, rfl, ⟨_, rfl, rfl, rfl⟩, _, rfl, rfl⟩

end Launcher.Jobs
