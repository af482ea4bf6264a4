import Mathlib.Data.Finset.Card
import Launcher.Proofs.Host.Service
import Launcher.Launch.Basic
import Launcher.Proofs.CommandLine.RoundTrip
import Launcher.Proofs.Launch.Streams
/-!
# Open descriptors

A launch duplicates the files of its streams, and closes the duplicates again, however it ends. A
launch spec opens its files, and either all of them stay open, one for each stream that leads to a
file, or none does.

The host may refuse any call that makes a descriptor, at any time, so that every limit on their
number is covered. A descriptor that it gives out is one that is not in use.

## Main definitions

* `Launcher.Descriptors.serves` — how a host keeps the open descriptors of the launcher.
* `Launcher.Descriptors.Opens` — some exchanges open the files of some redirects, and leave alone
  what was open before.
* `Launcher.IsLaunch` — the four ways to launch a configuration.

## Main results

* `Launcher.Descriptors.opens_start`, `Launcher.Descriptors.opens_toConfig` — what starting a
  process, and making a configuration of a launch spec, open in the end.
* `Launcher.Descriptors.keeps_descriptors` — no launch and no launch spec leaks a descriptor.
-/

namespace Launcher

open Host Host.Dialogue
open Launch (files files_append closing)

namespace Descriptors

/-! ## The open descriptors -/

/-- How a host keeps the open descriptors of the launcher. What it opens to start a process is
closed again when it answers. -/
def serves : Service (Finset Descriptor)
  | s, ⟨.openFile _ _, .ok d⟩, s' => d ∉ s ∧ s' = insert d s
  | s, ⟨.duplicate d, .ok copy⟩, s' => d ∈ s ∧ copy ∉ s ∧ s' = insert copy s
  | s, ⟨.close d, _⟩, s' => s' = s.erase d
  | s, _, s' => s' = s

/-- The exchanges open the files of some redirects, each under a descriptor of its own. What was
open before is still open, and was never closed in between. -/
structure Opens (s : Finset Descriptor) (trace : List Exchange) (s' : Finset Descriptor)
    (rs : List Redirect) : Prop where
  distinct : (files rs).Nodup
  fresh : ∀ d ∈ files rs, d ∉ s
  after : ∀ d, d ∈ s' ↔ d ∈ s ∨ d ∈ files rs
  spares : ∀ d ∈ s, closing d ∉ trace

variable {s m s' : Finset Descriptor} {trace later : List Exchange} {rs rs' : List Redirect}
  {r : Redirect} {d : Descriptor}

/-- The call makes no descriptor and closes none. -/
def IsIdle : Call → Prop
  | .openFile _ _ | .duplicate _ | .close _ => False
  | _ => True

/-- A call that makes no descriptor and closes none leaves all open that are open. -/
lemma eq_of_isIdle {c : Call} (hc : IsIdle c) (answer : c.Answer)
    (h : serves s ⟨c, answer⟩ s') : s' = s := by
  cases c <;> first | exact h | exact hc.elim

/-- Calls on a process that is there have nothing to do with descriptors. -/
lemma isIdle_of_isMinding {c : Call} (h : c.IsMinding) : IsIdle c := by
  cases c <;> trivial

namespace Opens

/-- Where no file is opened, the same descriptors are open in the end. -/
lemma eq (h : Opens s trace s' []) : s' = s := by
  ext d
  simpa using h.after d

/-- Exchanges that have nothing to do with descriptors. -/
lemma of_idle (served : Served serves s trace s') (hidle : ∀ e ∈ trace, IsIdle e.1) :
    Opens s trace s' [] := by
  have hs : s' = s := served.eq_of_forall fun e he s s' => eq_of_isIdle (hidle e he) e.2
  refine ⟨List.nodup_nil, by simp, by simp [hs], fun d _ hd => ?_⟩
  exact hidle _ hd

/-- What is opened by some exchanges, and then by others, is opened by all of them. -/
lemma append (h : Opens s trace m rs) (h' : Opens m later s' rs') :
    Opens s (trace ++ later) s' (rs ++ rs') := by
  refine ⟨?_, fun d hd => ?_, fun d => ?_, fun d hd hclosed => ?_⟩
  · rw [files_append]
    refine h.distinct.append h'.distinct fun d hd hd' => ?_
    exact h'.fresh d hd' ((h.after d).2 (.inr hd))
  · rw [files_append, List.mem_append] at hd
    rcases hd with hd | hd
    · exact h.fresh d hd
    · exact fun hs => h'.fresh d hd ((h.after d).2 (.inl hs))
  · rw [h'.after d, h.after d, files_append, List.mem_append, or_assoc]
  · rcases List.mem_append.1 hclosed with hclosed | hclosed
    · exact h.spares d hd hclosed
    · exact h'.spares d ((h.after d).2 (.inl hd)) hclosed

/-- A dialogue that has nothing to do with descriptors. -/
lemma of_only {α : Type} {d : Dialogue α} {value : α} (hd : Only IsIdle d)
    (run : Run d trace value) (served : Served serves s trace s') : Opens s trace s' [] :=
  .of_idle served (hd.of_run run)

/-- Calls that have nothing to do with descriptors may follow. -/
lemma append_of_only {α : Type} {d : Dialogue α} {value : α} (h : Opens s trace m rs)
    (hd : Only IsIdle d) (run : Run d later value) (served : Served serves m later s') :
    Opens s (trace ++ later) s' rs := by
  simpa using h.append (of_only hd run served)

end Opens

/-! ## Closing -/

/-- Behind closing calls those are open that were open and were not closed. -/
lemma mem_of_served_closing {ds : List Descriptor} (h : Served serves s (ds.map closing) s') :
    d ∈ s' ↔ d ∈ s ∧ d ∉ ds := by
  induction ds generalizing s with
  | nil =>
    obtain rfl := served_nil_iff.1 h
    simp
  | cons first ds ih =>
    obtain ⟨between, hfirst, hrest⟩ := served_cons_iff.1 h
    obtain rfl : between = s.erase first := hfirst
    rw [ih hrest, Finset.mem_erase, List.mem_cons]
    tauto

/-- **Giving back.** When all that was opened is closed, what is open is what was open before. -/
theorem Opens.close (h : Opens s trace m rs) (run : Run (Launch.closeAll rs) later ())
    (served : Served serves m later s') : Opens s (trace ++ later) s' [] := by
  obtain rfl := Launch.run_closeAll run
  refine ⟨List.nodup_nil, by simp, fun d => ?_, fun d hd hclosed => ?_⟩
  · rw [mem_of_served_closing served, h.after d]
    have := h.fresh d
    simp
    tauto
  · rcases List.mem_append.1 hclosed with hclosed | hclosed
    · exact h.spares d hd hclosed
    · obtain ⟨d', hd', heq⟩ := List.mem_map.1 hclosed
      cases heq
      exact h.fresh d hd' hd

/-! ## Making descriptors -/

/-- A redirect that has no file needs no descriptor. -/
lemma opens_of_none (hr : r.descriptor? = none) : Opens s [] s [r] := by
  have hfiles : files [r] = [] := by simp [files, hr]
  exact ⟨by simp [hfiles], by simp [hfiles], by simp [hfiles], by simp⟩

/-- A refused call makes no descriptor. -/
lemma opens_nothing {e : Exchange} (served : Served serves s [e] s')
    (hs : ∀ s s', serves s e s' → s' = s) (he : ∀ d, e ≠ closing d) : Opens s [e] s' [] := by
  obtain rfl := hs _ _ (served_singleton_iff.1 served)
  exact ⟨List.nodup_nil, by simp, by simp, fun d _ hclosed => he d (List.mem_singleton.1 hclosed).symm⟩

/-- One exchange gives a descriptor that was not in use. -/
lemma opens_insert {e : Exchange} (hd : d ∉ s) (he : ∀ d, e ≠ closing d) :
    Opens s [e] (insert d s) [.file d] := by
  have hfiles : files [.file d] = [d] := rfl
  refine ⟨by simp [hfiles], by simpa [hfiles], fun d' => ?_, fun d' _ hclosed => ?_⟩
  · rw [hfiles, Finset.mem_insert, List.mem_singleton]
    exact or_comm
  · exact he d' (List.mem_singleton.1 hclosed).symm

/-- The dialogue makes one redirect, and opens the file that it leads to; when it fails, it opens
nothing. `isFile` tells whether there is a file. -/
structure Makes {ε : Type} (d : Dialogue (Except ε Redirect)) (isFile : Bool) : Prop where
  made : ∀ ⦃s trace r s'⦄, Run d trace (.ok r) → Served serves s trace s' →
    r.descriptor?.isSome = isFile ∧ Opens s trace s' [r]
  failed : ∀ ⦃s trace e s'⦄, Run d trace (.error e) → Served serves s trace s' →
    Opens s trace s' []

/-- A redirect without a file is made without a call. -/
lemma makes_of_none {ε : Type} (hr : r.descriptor? = none) :
    Makes (pure (.ok r) : Dialogue (Except ε Redirect)) false := by
  constructor
  · intro s trace r' s' run served
    obtain ⟨rfl, heq⟩ := run_pure_iff.1 run
    cases heq
    obtain rfl := served_nil_iff.1 served
    exact ⟨by simp [hr], opens_of_none hr⟩
  · intro s trace e s' run served
    cases (run_pure_iff.1 run).2

/-- Duplicating a redirect opens a file if the redirect leads to one. -/
lemma makes_duplicate (r : Redirect) : Makes (Launch.duplicate r) r.descriptor?.isSome := by
  cases r with
  | inherit => exact makes_of_none rfl
  | discard => exact makes_of_none rfl
  | file d =>
    constructor
    · intro s trace r s' run served
      obtain ⟨answer, _, hend, rfl⟩ := run_call_seq_iff.1 run
      rcases answer with e | copy <;> obtain ⟨rfl, heq⟩ := run_pure_iff.1 hend <;> cases heq
      obtain ⟨-, hcopy, rfl⟩ := served_singleton_iff.1 served
      exact ⟨rfl, opens_insert hcopy fun d h => by cases h⟩
    · intro s trace e s' run served
      obtain ⟨answer, _, hend, rfl⟩ := run_call_seq_iff.1 run
      rcases answer with e | copy <;> obtain ⟨rfl, heq⟩ := run_pure_iff.1 hend <;> cases heq
      exact opens_nothing served (fun _ _ h => h) fun d h => by cases h

/-- The stream leads to a file. -/
def leadsToFile : StreamSpec → Bool
  | .mode _ => false
  | .file _ _ => true

/-- A stream of a spec opens a file if it leads to one. -/
lemma makes_toRedirect (which : Stream) (stream : StreamSpec) :
    Makes (stream.toRedirect which) (leadsToFile stream) := by
  rcases stream with (_ | _) | ⟨path, append⟩
  · exact makes_of_none rfl
  · exact makes_of_none rfl
  · constructor
    · intro s trace r s' run served
      obtain ⟨answer, _, hend, rfl⟩ := run_call_seq_iff.1 run
      rcases answer with fault | d <;> obtain ⟨rfl, heq⟩ := run_pure_iff.1 hend <;> cases heq
      obtain ⟨hd, rfl⟩ := served_singleton_iff.1 served
      exact ⟨rfl, opens_insert hd fun d h => by cases h⟩
    · intro s trace e s' run served
      obtain ⟨answer, _, hend, rfl⟩ := run_call_seq_iff.1 run
      rcases answer with fault | d <;> obtain ⟨rfl, heq⟩ := run_pure_iff.1 hend <;> cases heq
      exact opens_nothing served (fun _ _ h => h) fun d h => by cases h

/-- **Making three streams.** The files of all three are open, or none is.

**Proof sketch.** What one stream opens, and then the next, is opened by both together
(`Launcher.Descriptors.Opens.append`). When a stream fails, those before it are closed, and closing
all that was opened gives back the state before (`Launcher.Descriptors.Opens.close`). -/
theorem opens_makeStreams {ε : Type} {makeIn makeOut makeErr : Dialogue (Except ε Redirect)}
    {isIn isOut isErr : Bool} {result : Except ε Streams} (hin : Makes makeIn isIn)
    (hout : Makes makeOut isOut) (herr : Makes makeErr isErr)
    (run : Run (Launch.makeStreams makeIn makeOut makeErr) trace result)
    (served : Served serves s trace s') :
    (∃ e, result = .error e ∧ Opens s trace s' []) ∨
      ∃ streams, result = .ok streams ∧
        streams.toList.map (·.descriptor?.isSome) = [isIn, isOut, isErr] ∧
        Opens s trace s' streams.toList := by
  rcases Launch.run_makeStreams run with ⟨e, run₁, rfl⟩ |
    ⟨t₁, t₂, t₃, stdin, e, run₁, run₂, hclose, rfl, rfl⟩ |
    ⟨t₁, t₂, t₃, t₄, stdin, stdout, e, run₁, run₂, run₃, hclose, rfl, rfl⟩ |
    ⟨t₁, t₂, t₃, stdin, stdout, stderr, run₁, run₂, run₃, rfl, rfl⟩
  · exact .inl ⟨e, rfl, hin.failed run₁ served⟩
  · obtain ⟨s₂, served, served₃⟩ := served_append_iff.1 served
    obtain ⟨s₁, served₁, served₂⟩ := served_append_iff.1 served
    have h₁ := (hin.made run₁ served₁).2
    have h₂ := hout.failed run₂ served₂
    exact .inl ⟨e, rfl, (h₁.append h₂).close hclose served₃⟩
  · obtain ⟨s₃, served, served₄⟩ := served_append_iff.1 served
    obtain ⟨s₂, served, served₃⟩ := served_append_iff.1 served
    obtain ⟨s₁, served₁, served₂⟩ := served_append_iff.1 served
    have h₁ := (hin.made run₁ served₁).2
    have h₂ := (hout.made run₂ served₂).2
    have h₃ := herr.failed run₃ served₃
    exact .inl ⟨e, rfl, ((h₁.append h₂).append h₃).close hclose served₄⟩
  · obtain ⟨s₂, served, served₃⟩ := served_append_iff.1 served
    obtain ⟨s₁, served₁, served₂⟩ := served_append_iff.1 served
    obtain ⟨his₁, h₁⟩ := hin.made run₁ served₁
    obtain ⟨his₂, h₂⟩ := hout.made run₂ served₂
    obtain ⟨his₃, h₃⟩ := herr.made run₃ served₃
    exact .inr ⟨_, rfl, by simp [Streams.toList, his₁, his₂, his₃], (h₁.append h₂).append h₃⟩

/-! ## Launches -/

variable {c : Config}

/-- Completion has nothing to do with descriptors. -/
lemma idle_complete (p : Process) (job : Option Job) (mode : Completion) :
    Only IsIdle (Launch.complete p job mode) :=
  Launch.only_complete_of (fun _ => isIdle_of_isMinding) (fun _ => trivial) p job mode

/-- **Starting a process** opens nothing that stays open. -/
theorem opens_start {ownGroup : Bool} {result : Except Fault Pid}
    (run : Run (Launch.start c ownGroup) trace result) (served : Served serves s trace s') :
    Opens s trace s' [] := by
  rcases Launch.run_start run with ⟨-, rfl, -⟩ | ⟨e, hdup, -⟩ |
    ⟨streams, first, process, answer, last, hdup, -, hclose, rfl, -⟩
  · exact .of_idle served (by simp)
  · rw [Launch.duplicateStreams_eq] at hdup
    rcases opens_makeStreams (makes_duplicate _) (makes_duplicate _) (makes_duplicate _) hdup
      served with ⟨_, -, h⟩ | ⟨_, heq, -⟩
    · exact h
    · cases heq
  · obtain ⟨s₁, served₁, served⟩ := served_append_iff.1 served
    obtain ⟨s₂, hstart, served₂⟩ := served_cons_iff.1 served
    obtain rfl : s₂ = s₁ := by cases answer <;> exact hstart
    rw [Launch.duplicateStreams_eq] at hdup
    rcases opens_makeStreams (makes_duplicate _) (makes_duplicate _) (makes_duplicate _) hdup
      served₁ with ⟨_, heq, -⟩ | ⟨_, heq, -, h⟩ <;> cases heq
    have hasked : Opens s₂ [⟨.start process, answer⟩] s₂ [] :=
      .of_idle (served_singleton_iff.2 hstart) (by simp [IsIdle])
    rw [List.append_cons]
    exact (h.append hasked).close (by simpa using hclose) served₂

/-- **Starting a process as a job** opens nothing that stays open. -/
theorem opens_startJob {killOnClose : Bool} {result : Except Fault (Pid × Job)}
    (run : Run (Launch.startJob c killOnClose) trace result) (served : Served serves s trace s') :
    Opens s trace s' [] := by
  obtain ⟨first, last, started, hstart, hlast, rfl⟩ := run_seq_iff.1 run
  obtain ⟨s₁, served₁, served₂⟩ := served_append_iff.1 served
  refine (opens_start hstart served₁).append_of_only ?_ hlast served₂
  rcases started with fault | pid
  · exact only_pure _
  · refine Only.bind (only_call_iff.2 trivial) fun answer => ?_
    cases Launch.assignFault? pid answer with
    | none => exact only_pure _
    | some fault =>
      exact ((Launch.minding_abort pid).mono fun _ => isIdle_of_isMinding).bind fun _ => only_pure _

/-- A launch opens nothing that stays open. -/
lemma opens_tryLaunch {result : Except Fault Launched} (run : Run (tryLaunch c) trace result)
    (served : Served serves s trace s') : Opens s trace s' [] := by
  obtain ⟨first, last, started, hstart, hlast, rfl⟩ := run_seq_iff.1 run
  obtain ⟨s₁, served₁, served₂⟩ := served_append_iff.1 served
  refine (opens_start hstart served₁).append_of_only ?_ hlast served₂
  rcases started with fault | pid
  · exact only_pure _
  · exact idle_complete _ _ _

/-- A launch as a job opens nothing that stays open. -/
lemma opens_tryLaunchAsJob {o : JobOptions} {result : Except Fault Launched}
    (run : Run (tryLaunchAsJob c o) trace result) (served : Served serves s trace s') :
    Opens s trace s' [] := by
  by_cases hwaits : c.completion.waits
  · rw [tryLaunchAsJob, if_pos hwaits] at run
    exact .of_only (only_pure _) run served
  · rw [tryLaunchAsJob, if_neg hwaits] at run
    obtain ⟨first, last, started, hstart, hlast, rfl⟩ := run_seq_iff.1 run
    obtain ⟨s₁, served₁, served₂⟩ := served_append_iff.1 served
    refine (opens_startJob hstart served₁).append_of_only ?_ hlast served₂
    rcases started with fault | ⟨pid, job⟩
    · exact only_pure _
    · exact idle_complete _ _ _

end Descriptors

/-- The dialogue launches the configuration, in one of four ways. -/
inductive IsLaunch (c : Config) : (α : Type) → Dialogue α → Prop
  | tryLaunch : IsLaunch c _ (tryLaunch c)
  | tryLaunchAsJob (o : JobOptions) : IsLaunch c _ (tryLaunchAsJob c o)
  | launch : IsLaunch c _ (launch c)
  | launchAsJob (o : JobOptions) : IsLaunch c _ (launchAsJob c o)

namespace Descriptors

variable {c : Config}

/-- **A launch** opens nothing that stays open. -/
theorem opens_launch {α : Type} {d : Dialogue α} {value : α} (hd : IsLaunch c α d)
    (run : Run d trace value) (served : Served serves s trace s') : Opens s trace s' [] := by
  cases hd with
  | tryLaunch => exact opens_tryLaunch run served
  | tryLaunchAsJob o => exact opens_tryLaunchAsJob run served
  | launch =>
    obtain ⟨first, _, _, hlaunch, hend, rfl⟩ := run_seq_iff.1 run
    obtain ⟨rfl, rfl⟩ := run_pure_iff.1 hend
    rw [List.append_nil] at served ⊢
    exact opens_tryLaunch hlaunch served
  | launchAsJob o =>
    obtain ⟨first, _, _, hlaunch, hend, rfl⟩ := run_seq_iff.1 run
    obtain ⟨rfl, rfl⟩ := run_pure_iff.1 hend
    rw [List.append_nil] at served ⊢
    exact opens_tryLaunchAsJob hlaunch served

/-! ## Launch specs -/

/-- The check of a draft has nothing to do with descriptors. -/
lemma idle_build (draft : Draft) : Only IsIdle (Launch.build draft) := by
  unfold Launch.build
  split
  · exact Only.bind (only_call_iff.2 trivial) fun _ => only_pure _
  · exact only_pure _

/-- **Making a configuration.** The files of its streams are open, one for each stream of the spec
that leads to a file; or there is no configuration, and no file is open. -/
theorem opens_toConfig {spec : Spec} {result : Except Fault Config}
    (run : Run spec.toConfig trace result) (served : Served serves s trace s') :
    (∃ fault, result = .error fault ∧ Opens s trace s' []) ∨
      ∃ c, result = .ok c ∧
        c.draft.streams.toList.map (·.descriptor?.isSome) =
          [spec.stdin, spec.stdout, spec.stderr].map leadsToFile ∧
        Opens s trace s' c.draft.streams.toList := by
  obtain ⟨t₁, _, streams, hopen, run, rfl⟩ := run_seq_iff.1 run
  obtain ⟨s₁, served₁, served⟩ := served_append_iff.1 served
  rw [Launch.openStreams_eq] at hopen
  rcases opens_makeStreams (makes_toRedirect _ _) (makes_toRedirect _ _) (makes_toRedirect _ _)
    hopen served₁ with ⟨fault, rfl, h⟩ | ⟨streams, rfl, hfiles, h⟩
  · obtain ⟨rfl, rfl⟩ := run_pure_iff.1 run
    obtain rfl := served_nil_iff.1 served
    rw [List.append_nil]
    exact .inl ⟨fault, rfl, h⟩
  obtain ⟨t₂, t₃, checked, hbuild, run, rfl⟩ := run_seq_iff.1 run
  obtain ⟨s₂, served₂, served₃⟩ := served_append_iff.1 served
  have hchecked := h.append_of_only (idle_build _) hbuild served₂
  rcases checked with fault | c
  · obtain ⟨t₃, _, _, hclose, hend, rfl⟩ := run_seq_iff.1 run
    obtain ⟨rfl, rfl⟩ := run_pure_iff.1 hend
    rw [List.append_nil] at served₃ ⊢
    rw [← List.append_assoc]
    exact .inl ⟨_, rfl, hchecked.close hclose served₃⟩
  · obtain ⟨rfl, rfl⟩ := run_pure_iff.1 run
    obtain rfl := served_nil_iff.1 served₃
    rw [List.append_nil]
    have hdraft : c.draft = spec.draft streams := Launch.draft_of_run_build hbuild
    exact .inr ⟨c, rfl, by rw [hdraft]; exact hfiles, by rw [hdraft]; exact hchecked⟩

/-- Opening files adds as many descriptors as there are files. -/
lemma Opens.card (h : Opens s trace s' rs) :
    s' = s ∪ (files rs).toFinset ∧ Disjoint s (files rs).toFinset ∧
      s'.card = s.card + rs.countP (·.descriptor?.isSome) := by
  have hs' : s' = s ∪ (files rs).toFinset := by
    ext d
    simpa using h.after d
  have hdisjoint : Disjoint s (files rs).toFinset := by
    refine Finset.disjoint_right.2 fun d hd => h.fresh d ?_
    simpa using hd
  refine ⟨hs', hdisjoint, ?_⟩
  rw [hs', Finset.card_union_of_disjoint hdisjoint, List.toFinset_card_of_nodup h.distinct, files,
    List.length_filterMap_eq_countP]

/-! ## No leak -/

/-- **No descriptor is leaked**, however the host answers.

When a launch of a configuration returns, the same descriptors are open as before, and none of these
has been closed in between: the files of the configuration are there for another launch. A launch
spec that does not become a configuration leaves open what was open; one that does opens one file
for each of its streams that leads to a file, all under new descriptors, until the configuration is
given up.

**Proof sketch.** A launch is a start, followed by calls that have nothing to do with descriptors
(`Launcher.Descriptors.opens_launch`); the making of a configuration is
`Launcher.Descriptors.opens_toConfig`. Giving up a configuration closes all that making it has
opened. -/
theorem keeps_descriptors (s : Finset Descriptor) :
    (∀ (c : Config) (α : Type) (d : Dialogue α) trace value s', IsLaunch c α d →
      Run d trace value → Served serves s trace s' → s' = s ∧ ∀ f ∈ s, closing f ∉ trace) ∧
    (∀ (spec : Spec) trace result s', Run spec.toConfig trace result → Served serves s trace s' →
      (∀ fault, result = .error fault → s' = s) ∧
      (∀ c, result = .ok c →
        c.draft.streams.toList.map (·.descriptor?.isSome) =
          [spec.stdin, spec.stdout, spec.stderr].map leadsToFile ∧
        s' = s ∪ c.draft.streams.descriptors.toFinset ∧
        Disjoint s c.draft.streams.descriptors.toFinset ∧
        s'.card = s.card + [spec.stdin, spec.stdout, spec.stderr].countP leadsToFile ∧
        ∀ later s'', Run c.release later () → Served serves s' later s'' → s'' = s)) := by
  refine ⟨fun c α d trace value s' hd run served => ?_, fun spec trace result s' run served => ?_⟩
  · have h := opens_launch hd run served
    exact ⟨h.eq, h.spares⟩
  rcases opens_toConfig run served with ⟨fault, rfl, h⟩ | ⟨c, rfl, hfiles, h⟩
  · exact ⟨fun _ _ => h.eq, fun _ => nofun⟩
  · refine ⟨fun _ => nofun, fun c' hc' => ?_⟩
    cases hc'
    obtain ⟨hs', hdisjoint, hcard⟩ := h.card
    have hcount : c.draft.streams.toList.countP (·.descriptor?.isSome) =
        [spec.stdin, spec.stdout, spec.stderr].countP leadsToFile := by
      have := congrArg (List.countP id) hfiles
      simpa only [List.countP_map, Function.id_comp] using this
    refine ⟨hfiles, hs', hdisjoint, hcard.trans (by rw [hcount]), fun later s'' hclose hserved => ?_⟩
    exact (h.close hclose hserved).eq

/-- A launch that fails because the third stream cannot be duplicated, and a spec whose third file
cannot be opened: both close what they have opened. -/
theorem keeps_descriptors_of_refusedThird :
    (∃ (c : Config) (trace : List Exchange) (fault : Fault) (s' : Finset Descriptor),
      Run (tryLaunch c) trace (.error fault) ∧ Served serves {3, 4, 5} trace s' ∧
      closing 6 ∈ trace ∧ closing 7 ∈ trace ∧ s' = {3, 4, 5}) ∧
    (∃ (spec : Spec) (trace : List Exchange) (fault : Fault) (s' : Finset Descriptor),
      Run spec.toConfig trace (.error fault) ∧ Served serves ∅ trace s' ∧
      closing 3 ∈ trace ∧ closing 4 ∈ trace ∧ s' = ∅) := by
  let full : Errno := ⟨24⟩
  let c : Config :=
    ⟨{ Draft.ofCommand "true" with
        streams := { stdin := .file 3, stdout := .file 4, stderr := .file 5 }
        inheritHandles := true }, by decide⟩
  let launch : List Exchange :=
    [⟨.duplicate 3, .ok 6⟩, ⟨.duplicate 4, .ok 7⟩, ⟨.duplicate 5, .error full⟩, closing 6, closing 7]
  have hsplit : CommandLine.split c.commandLine = ["true"] := by
    have hjoin : CommandLine.join ["true"] = .ok c.commandLine := rfl
    rw [CommandLine.split_of_join hjoin]
    simp
  have run : Run (tryLaunch c) launch (.error (Launch.duplicateFault c full)) := by
    rw [tryLaunch, Launch.start, hsplit]
    exact .ask (.ask (.ask (.ask (.ask (.done _)))))
  have served : Served serves {3, 4, 5} launch
      (((insert 7 (insert 6 {3, 4, 5}) : Finset Descriptor).erase 6).erase 7) :=
    .cons ⟨by decide, by decide, rfl⟩ (.cons ⟨by decide, by decide, rfl⟩
      (.cons rfl (.cons rfl (.cons rfl (.nil _)))))
  have spared := ((keeps_descriptors {3, 4, 5}).1 c _ _ _ _ _ .tryLaunch run served).1
  let spec : Spec :=
    { commandLine := "true", stdin := .file "in" false, stdout := .file "out" false
      stderr := .file "log" true, inheritHandles := true }
  let making : List Exchange :=
    [⟨.openFile "in" .read, .ok 3⟩, ⟨.openFile "out" .create, .ok 4⟩,
      ⟨.openFile "log" .append, .error (.refused full)⟩, closing 3, closing 4]
  have run' : Run spec.toConfig making (.error (StreamSpec.openFault "log" (.refused full))) :=
    .ask (.ask (.ask (.ask (.ask (.done _)))))
  have served' : Served serves ∅ making
      (((insert 4 (insert 3 ∅) : Finset Descriptor).erase 3).erase 4) :=
    .cons ⟨by decide, rfl⟩ (.cons ⟨by decide, rfl⟩ (.cons rfl (.cons rfl (.cons rfl (.nil _)))))
  have spared' := ((keeps_descriptors ∅).2 spec _ _ _ run' served').1 _ rfl
  exact ⟨⟨c, launch, _, _, run, served, by simp [launch, closing], by simp [launch, closing], spared⟩,
    spec, making, _, _, run', served', by simp [making, closing], by simp [making, closing], spared'⟩

end Descriptors

end Launcher
