import Launcher.Proofs.Cli.Command
import Launcher.Proofs.Spec.Files
/-!
# Drafts and the rules they are checked by

A draft is written by settings, in any order and any number of times. Several settings write the same
field: the flags of process creation are written one by one or all four at once, and the completion
mode has a shorthand. In the end each field holds what was written to it last, and what is made of a
draft depends on nothing else.

The check has six rules in an order. A draft passes when it breaks none of them; otherwise the fault
is that of the first one that is broken. All ways to a launch lead through this check.

## Main definitions

* `Launcher.Field`, `Launcher.Field.written`, `Launcher.Field.last` — the fields of a draft, what a
  setting writes to a field, and what is written to it last.
* `Launcher.Draft.Breaks`, `Launcher.ConfigFault.rank` — the rules, and their order.
* `Launcher.Draft.Lawful` — no rule is broken.
* `Launcher.Offered` — the configurations that are there to be launched.

## Main results

* `Launcher.Field.get_ofSettings` — a field holds what was written to it last.
* `Launcher.Draft.fault?_eq_some_iff` — the fault of a draft is that of the first broken rule.
* `Launcher.Offered.lawful` — a configuration that is there to be launched breaks no rule.
* `Launcher.checked_last_writes` — all of this together.
-/

namespace Launcher

open Host Host.Dialogue

/-! ## Fields and settings -/

/-- A field of a draft that can be written. -/
inductive Field where
  | workingDirectory
  | stream (which : Stream)
  | inheritHandles
  | newConsole
  | noWindow
  | detachedConsole
  | newProcessGroup
  | hideWindow
  | completion
  deriving Repr, DecidableEq

namespace Field

/-- What a field can hold. -/
@[reducible]
def Value : Field → Type
  | workingDirectory => Option String
  | stream _ => Redirect
  | inheritHandles | newConsole | noWindow | detachedConsole | newProcessGroup | hideWindow => Bool
  | completion => Completion

/-- What a field of a draft holds. -/
def get : (f : Field) → Draft → f.Value
  | workingDirectory, d => d.workingDirectory
  | stream which, d => d.streams.get which
  | inheritHandles, d => d.inheritHandles
  | newConsole, d => d.creation.newConsole
  | noWindow, d => d.creation.noWindow
  | detachedConsole, d => d.creation.detachedConsole
  | newProcessGroup, d => d.creation.newProcessGroup
  | hideWindow, d => d.hideWindow
  | completion, d => d.completion

/-- What a field holds before anything is written. -/
def initial : (f : Field) → f.Value
  | workingDirectory => none
  | stream _ => .inherit
  | inheritHandles | newConsole | noWindow | detachedConsole | newProcessGroup | hideWindow => false
  | completion => .track

/-- What a setting writes to a field, if it touches the field. -/
def written : (f : Field) → Setting → Option f.Value
  | workingDirectory, .workingDirectory directory => some (some directory)
  | stream which, .stream other r => if other = which then some r else none
  | inheritHandles, .inheritHandles on => some on
  | newConsole, .newConsole on => some on
  | newConsole, .creation flags => some flags.newConsole
  | noWindow, .noWindow on => some on
  | noWindow, .creation flags => some flags.noWindow
  | detachedConsole, .detachedConsole on => some on
  | detachedConsole, .creation flags => some flags.detachedConsole
  | newProcessGroup, .newProcessGroup on => some on
  | newProcessGroup, .creation flags => some flags.newProcessGroup
  | hideWindow, .hideWindow on => some on
  | completion, .completion mode => some mode
  | completion, .waitForCompletion on => some (if on then .wait else .track)
  | _, _ => none

/-- What is written to a field last, and what it holds from the beginning if nothing is. -/
def last (f : Field) (settings : List Setting) : f.Value :=
  (settings.filterMap f.written).getLast?.getD f.initial

variable {d : Draft} {commandLine : String} {settings : List Setting}

/-- **One write.** A setting changes the fields that it touches, and no others. -/
theorem get_apply (f : Field) (d : Draft) (s : Setting) :
    f.get (d.apply s) = (f.written s).getD (f.get d) := by
  cases f with
  | stream which =>
    cases s with
    | stream other r =>
      by_cases h : other = which
      · subst h
        simp [get, written, Draft.apply]
      · simp [get, written, Draft.apply, h, Streams.get_set_of_ne d.streams r (Ne.symm h)]
    | _ => rfl
  | _ => cases s <;> rfl

/-- **Many writes.** A field holds what is written to it last, or what it has held before. -/
theorem get_foldl_apply (f : Field) (d : Draft) (settings : List Setting) :
    f.get (settings.foldl Draft.apply d) =
      (settings.filterMap f.written).getLast?.getD (f.get d) := by
  induction settings generalizing d with
  | nil => rfl
  | cons s rest ih =>
    rw [List.foldl_cons, ih, get_apply]
    cases hwritten : f.written s with
    | none => simp [hwritten]
    | some value => simp [hwritten, List.getLast?_cons]

/-- A draft begins with the initial value of each field. -/
lemma get_ofCommand (f : Field) (commandLine : String) :
    f.get (Draft.ofCommand commandLine) = f.initial := by
  cases f with
  | stream which => cases which <;> rfl
  | _ => rfl

/-- A field holds what was written to it last. -/
lemma get_ofSettings (f : Field) (commandLine : String) (settings : List Setting) :
    f.get (Draft.ofSettings commandLine settings) = f.last settings := by
  rw [Draft.ofSettings, get_foldl_apply, get_ofCommand, last]

end Field

namespace Draft

/-- No setting writes the command line. -/
@[simp]
lemma commandLine_ofSettings (commandLine : String) (settings : List Setting) :
    (ofSettings commandLine settings).commandLine = commandLine := by
  suffices h : ∀ d, (settings.foldl apply d).commandLine = d.commandLine from h _
  induction settings with
  | nil => exact fun _ => rfl
  | cons s rest ih => exact fun d => (ih _).trans (commandLine_apply d s)

/-- A draft is nothing but its command line and its fields. -/
lemma eq_of_get_eq {d d' : Draft} (hline : d.commandLine = d'.commandLine)
    (hget : ∀ f : Field, f.get d = f.get d') : d = d' := by
  obtain ⟨line, directory, ⟨stdin, stdout, stderr⟩, inherits, ⟨console, window, detached, group⟩,
    hides, mode⟩ := d
  obtain ⟨line', directory', ⟨stdin', stdout', stderr'⟩, inherits',
    ⟨console', window', detached', group'⟩, hides', mode'⟩ := d'
  obtain rfl : line = line' := hline
  obtain rfl : directory = directory' := hget .workingDirectory
  obtain rfl : stdin = stdin' := hget (.stream .stdin)
  obtain rfl : stdout = stdout' := hget (.stream .stdout)
  obtain rfl : stderr = stderr' := hget (.stream .stderr)
  obtain rfl : inherits = inherits' := hget .inheritHandles
  obtain rfl : console = console' := hget .newConsole
  obtain rfl : window = window' := hget .noWindow
  obtain rfl : detached = detached' := hget .detachedConsole
  obtain rfl : group = group' := hget .newProcessGroup
  obtain rfl : hides = hides' := hget .hideWindow
  obtain rfl : mode = mode' := hget .completion
  rfl

/-- Settings that write the same in the end make the same draft. -/
lemma ofSettings_eq_of_last_eq {settings others : List Setting} (commandLine : String)
    (h : ∀ f : Field, f.last others = f.last settings) :
    ofSettings commandLine others = ofSettings commandLine settings := by
  refine eq_of_get_eq ?_ fun f => ?_
  · rw [commandLine_ofSettings, commandLine_ofSettings]
  · rw [Field.get_ofSettings, Field.get_ofSettings, h f]

/-- The working directory cannot be taken back: it is absent only if it was never written. -/
lemma workingDirectory_ofSettings_eq_none_iff {commandLine : String} {settings : List Setting} :
    (ofSettings commandLine settings).workingDirectory = none ↔
      ∀ directory, .workingDirectory directory ∉ settings := by
  have hlast : (ofSettings commandLine settings).workingDirectory =
      Field.last .workingDirectory settings :=
    Field.get_ofSettings .workingDirectory commandLine settings
  rw [hlast]
  constructor
  · intro hnone directory hmem
    cases hwritten : (settings.filterMap (Field.written .workingDirectory)).getLast? with
    | none =>
      have hempty := List.getLast?_eq_none_iff.1 hwritten
      have := List.filterMap_eq_nil_iff.1 hempty _ hmem
      cases this
    | some value =>
      obtain ⟨s, -, hs⟩ := List.mem_filterMap.1 (List.mem_of_getLast? hwritten)
      have hvalue : value = none := by simpa [Field.last, hwritten] using hnone
      rw [hvalue] at hs
      cases s <;> cases hs
  · intro hnever
    have hempty : settings.filterMap (Field.written .workingDirectory) = [] := by
      refine List.filterMap_eq_nil_iff.2 fun s hs => ?_
      cases s with
      | workingDirectory directory => exact absurd hs (hnever directory)
      | _ => rfl
    simp [Field.last, hempty, Field.initial]

end Draft

/-! ## Rules -/

/-- The place of a rule in the order of the check. -/
def ConfigFault.rank : ConfigFault → Nat
  | emptyCommandLine => 0
  | nulInCommandLine => 1
  | redirectNotInherited => 2
  | consoleConflict => 3
  | windowConflict => 4
  | noWorkingDirectory _ => 5

namespace Draft

variable {isDirectory : String → Bool} {d : Draft} {fault : ConfigFault}

/-- The draft breaks a rule, when these paths are directories. -/
def Breaks (isDirectory : String → Bool) (d : Draft) : ConfigFault → Prop
  | .emptyCommandLine => ∀ c ∈ d.commandLine.toList, Text.isWhiteSpace c = true
  | .nulInCommandLine => '\x00' ∈ d.commandLine.toList
  | .redirectNotInherited =>
    (∃ which, d.streams.get which ≠ .inherit) ∧ d.inheritHandles = false
  | .consoleConflict => d.creation.newConsole = true ∧ d.creation.detachedConsole = true
  | .windowConflict => d.creation.newConsole = true ∧ d.creation.noWindow = true
  | .noWorkingDirectory directory =>
    d.workingDirectory = some directory ∧ isDirectory directory = false

/-- The draft breaks no rule. -/
def Lawful (isDirectory : String → Bool) (d : Draft) : Prop :=
  ∀ fault, ¬ d.Breaks isDirectory fault

/-- The draft breaks a rule, and none that comes before it. -/
def BreaksFirst (isDirectory : String → Bool) (d : Draft) (fault : ConfigFault) : Prop :=
  d.Breaks isDirectory fault ∧ ∀ other, d.Breaks isDirectory other → fault.rank ≤ other.rank

/-- Streams are redirected if one of them is not inherited. -/
lemma redirectsStreams_iff : d.redirectsStreams = true ↔
    ∃ which, d.streams.get which ≠ .inherit := by
  have hinherit (r : Redirect) : r.isInherit = true ↔ r = .inherit := by
    cases r <;> simp [Redirect.isInherit]
  constructor
  · intro h
    by_contra hnone
    have hall (which : Stream) : d.streams.get which = .inherit :=
      not_not.1 fun hne => hnone ⟨which, hne⟩
    have hstdin := hall .stdin
    have hstdout := hall .stdout
    have hstderr := hall .stderr
    simp only [Streams.get] at hstdin hstdout hstderr
    simp [redirectsStreams, Streams.toList, hstdin, hstdout, hstderr, Redirect.isInherit] at h
  · rintro ⟨which, hne⟩
    rw [redirectsStreams, Bool.not_eq_true', Bool.eq_false_iff]
    intro hall
    refine hne ((hinherit _).1 (List.all_eq_true.1 hall _ ?_))
    cases which <;> simp [Streams.get, Streams.toList]

instance : Decidable (d.Breaks isDirectory fault) :=
  match fault with
  | .emptyCommandLine =>
    inferInstanceAs (Decidable (∀ c ∈ d.commandLine.toList, Text.isWhiteSpace c = true))
  | .nulInCommandLine => inferInstanceAs (Decidable ('\x00' ∈ d.commandLine.toList))
  | .redirectNotInherited =>
    decidable_of_iff (d.redirectsStreams = true ∧ d.inheritHandles = false)
      (and_congr_left' redirectsStreams_iff)
  | .consoleConflict =>
    inferInstanceAs (Decidable (d.creation.newConsole = true ∧ d.creation.detachedConsole = true))
  | .windowConflict =>
    inferInstanceAs (Decidable (d.creation.newConsole = true ∧ d.creation.noWindow = true))
  | .noWorkingDirectory directory =>
    inferInstanceAs (Decidable (d.workingDirectory = some directory ∧ isDirectory directory = false))

/-- The rules that do not ask for a directory, in their order. -/
def staticRules : List ConfigFault :=
  [.emptyCommandLine, .nulInCommandLine, .redirectNotInherited, .consoleConflict, .windowConflict]

/-- The rules that a draft can break, in their order. -/
def rules (d : Draft) : List ConfigFault :=
  staticRules ++ (d.workingDirectory.map .noWorkingDirectory).toList

/-- The rules are checked in the order of their ranks. -/
lemma pairwise_rank_rules (d : Draft) : d.rules.Pairwise fun f g => f.rank < g.rank := by
  rw [rules, staticRules]
  cases d.workingDirectory <;> simp [ConfigFault.rank]

/-- All rules that are broken are among them. -/
lemma Breaks.mem_rules (h : d.Breaks isDirectory fault) : fault ∈ d.rules := by
  cases fault with
  | noWorkingDirectory directory =>
    have hdirectory : d.workingDirectory = some directory := h.1
    simp [rules, hdirectory]
  | _ => simp [rules, staticRules]

/-- A test before a search is a search in a longer list. -/
lemma ite_eq_find?_cons {test : Bool} {rest : List ConfigFault} {found : Option ConfigFault}
    (htest : test = true ↔ d.Breaks isDirectory fault)
    (hfound : found = rest.find? (d.Breaks isDirectory ·)) :
    (if test then some fault else found) = (fault :: rest).find? (d.Breaks isDirectory ·) := by
  rw [List.find?_cons]
  by_cases hbreaks : d.Breaks isDirectory fault
  · rw [if_pos (htest.2 hbreaks), decide_eq_true hbreaks]
  · rw [if_neg (mt htest.1 hbreaks), decide_eq_false hbreaks, hfound]

/-- The first part of the check finds the first of its rules that is broken. -/
lemma staticFault?_eq_find? : d.staticFault? = staticRules.find? (d.Breaks isDirectory ·) := by
  have hstreams : (d.redirectsStreams && !d.inheritHandles) = true ↔
      d.Breaks isDirectory .redirectNotInherited := by
    rw [Bool.and_eq_true, Bool.not_eq_true', redirectsStreams_iff]
    exact Iff.rfl
  exact ite_eq_find?_cons List.all_eq_true (ite_eq_find?_cons List.contains_iff_mem
    (ite_eq_find?_cons hstreams (ite_eq_find?_cons Bool.and_eq_true_iff
      (ite_eq_find?_cons Bool.and_eq_true_iff rfl))))

/-- **The check** looks for the first broken rule. -/
theorem fault?_eq_find? : d.fault? isDirectory = d.rules.find? (d.Breaks isDirectory ·) := by
  rw [rules, List.find?_append, ← staticFault?_eq_find?, fault?]
  rcases Option.eq_none_or_eq_some d.staticFault? with hstatic | ⟨fault, hstatic⟩
  · rcases Option.eq_none_or_eq_some d.workingDirectory with hdir | ⟨directory, hdir⟩
    · simp [hstatic, hdir]
    · cases hthere : isDirectory directory <;> simp [hstatic, hdir, hthere, Breaks]
  · simp [hstatic]

/-- A draft has no fault exactly when it breaks no rule. -/
lemma fault?_eq_none_iff : d.fault? isDirectory = none ↔ d.Lawful isDirectory := by
  rw [fault?_eq_find?, List.find?_eq_none]
  constructor
  · intro hnone fault hbreaks
    exact hnone fault hbreaks.mem_rules (decide_eq_true hbreaks)
  · intro hlawful fault _ hbreaks
    exact hlawful fault (of_decide_eq_true hbreaks)

/-- **The fault of a draft** is that of the first rule that it breaks. -/
theorem fault?_eq_some_iff :
    d.fault? isDirectory = some fault ↔ d.BreaksFirst isDirectory fault := by
  rw [fault?_eq_find?, List.find?_eq_some_iff_append]
  constructor
  · rintro ⟨hbreaks, before, after, hrules, hbefore⟩
    refine ⟨of_decide_eq_true hbreaks, fun other hother => ?_⟩
    have hsorted := d.pairwise_rank_rules
    rw [hrules, List.pairwise_append] at hsorted
    have hmem := hother.mem_rules
    rw [hrules, List.mem_append] at hmem
    rcases hmem with hmem | hmem
    · exact absurd (decide_eq_true hother) (by simpa using hbefore other hmem)
    · rcases List.mem_cons.1 hmem with rfl | hmem
      · exact Nat.le_refl _
      · exact Nat.le_of_lt ((List.pairwise_cons.1 hsorted.2.1).1 other hmem)
  · rintro ⟨hbreaks, hfirst⟩
    obtain ⟨before, after, hrules⟩ := List.append_of_mem hbreaks.mem_rules
    refine ⟨decide_eq_true hbreaks, before, after, hrules, fun other hother => ?_⟩
    have hsorted := d.pairwise_rank_rules
    rw [hrules, List.pairwise_append] at hsorted
    have hlt := hsorted.2.2 other hother fault List.mem_cons_self
    rw [Bool.not_eq_true', decide_eq_false_iff_not]
    intro hother
    have hle := hfirst other hother
    omega

/-- The check accepts the drafts that break no rule. -/
lemma exists_build_eq_ok_iff :
    (∃ c, d.build isDirectory = .ok c) ↔ d.Lawful isDirectory := by
  rw [← fault?_eq_none_iff]
  constructor
  · rintro ⟨c, hc⟩
    exact (build_eq_ok_iff.1 hc).1
  · intro hnone
    exact ⟨⟨d, staticFault?_of_fault? hnone⟩, build_eq_ok_iff.2 ⟨hnone, rfl⟩⟩

end Draft

/-! ## The ways to a launch -/

variable {isDirectory : String → Bool} {trace : List Exchange} {c : Config}

/-- The configurations that are there to be launched: those of a draft, of a launch spec, and of the
words of a command. -/
inductive Offered (isDirectory : String → Bool) : Config → Prop
  | ofDraft {d : Draft} {trace : List Exchange} {c : Config}
      (run : Run (Launch.build d) trace (.ok c)) (h : AnswersBy isDirectory trace) :
      Offered isDirectory c
  | ofSpec {spec : Spec} {trace : List Exchange} {c : Config} (run : Run spec.toConfig trace (.ok c))
      (h : AnswersBy isDirectory trace) : Offered isDirectory c
  | ofCommand {o : Cli.Options} {trace : List Exchange} {c : Config} {job : Option JobOptions}
      (run : Run o.build trace (.ok (c, job))) (h : AnswersBy isDirectory trace) :
      Offered isDirectory c

/-- The configuration of a launch spec is one of its draft. -/
lemma Spec.exists_build_of_run_toConfig {spec : Spec} (run : Run spec.toConfig trace (.ok c)) :
    ∃ first rest streams, Run (Launch.build (spec.draft streams)) rest (.ok c) ∧
      trace = first ++ rest := by
  obtain ⟨first, _, opened, hopen, hrest, rfl⟩ := run_seq_iff.1 run
  rcases opened with fault | streams
  · cases (run_pure_iff.1 hrest).2
  obtain ⟨rest, last, checked, hbuild, hend, rfl⟩ := run_seq_iff.1 hrest
  rcases checked with fault | config
  · obtain ⟨_, _, _, -, hfault, -⟩ := run_seq_iff.1 hend
    cases (run_pure_iff.1 hfault).2
  · obtain ⟨rfl, hok⟩ := run_pure_iff.1 hend
    cases hok
    exact ⟨first, rest, streams, hbuild, by rw [List.append_nil]⟩

/-- **A configuration that is there to be launched breaks no rule.** -/
theorem Offered.lawful (h : Offered isDirectory c) : c.draft.Lawful isDirectory := by
  have ofDraft {d : Draft} {trace : List Exchange} (run : Run (Launch.build d) trace (.ok c))
      (h : AnswersBy isDirectory trace) : c.draft.Lawful isDirectory := by
    have hbuild := (Launch.result_of_run_build run h).symm
    rw [(Draft.build_eq_ok_iff.1 hbuild).2]
    exact Draft.exists_build_eq_ok_iff.1 ⟨c, hbuild⟩
  cases h with
  | ofDraft run h => exact ofDraft run h
  | ofSpec run h =>
    obtain ⟨first, rest, streams, hbuild, rfl⟩ := Spec.exists_build_of_run_toConfig run
    exact ofDraft hbuild (h.mono (List.subset_append_right _ _))
  | ofCommand run h =>
    rcases Cli.Options.run_build run with ⟨_, -, -, herror⟩ | ⟨line, checked, -, hbuild, hresult⟩
    · cases herror
    · rcases hresult with ⟨_, -, herror⟩ | ⟨config, rfl, hok⟩
      · cases herror
      · cases hok
        exact ofDraft hbuild h

/-- Giving up a handle starts no process. -/
lemma only_releaseProcess (process : Option Process) : Only NoStart (releaseProcess process) := by
  cases process with
  | none => exact only_pure _
  | some p => exact p.only_release

/-- Giving up an outcome starts no process. -/
lemma Outcome.only_release (o : Outcome) : Only NoStart o.release :=
  (only_releaseProcess o.process).bind fun _ =>
    (only_releaseJob o.job).mono fun _ => noStart_of_isAside

/-- What a launch does that only tells whether it worked: nothing is started for a draft that breaks a
rule; of any other the configuration is launched, and all that is started is started by that. -/
def LaunchesChecked (isDirectory : String → Bool) (d : Draft) (trace : List Exchange)
    (worked : Bool) : Prop :=
  (¬ d.Lawful isDirectory ∧ starts trace = [] ∧ worked = false) ∨
  (d.Lawful isDirectory ∧ ∃ c before own after outcome, Offered isDirectory c ∧ c.draft = d ∧
    Run (launch c) own outcome ∧ trace = before ++ own ++ after ∧
    starts before = [] ∧ starts after = [] ∧ worked = outcome.succeeded)

/-- **A launch that only tells whether it worked.** Its draft is checked like all others. -/
theorem launchesChecked_runDraft {d : Draft} {worked : Bool} (run : Run (runDraft d) trace worked)
    (h : AnswersBy isDirectory trace) : LaunchesChecked isDirectory d trace worked := by
  obtain ⟨before, rest, checked, hbuild, hrest, rfl⟩ := run_seq_iff.1 run
  have hbefore : AnswersBy isDirectory before := h.mono (List.subset_append_left _ _)
  have hchecked := Launch.result_of_run_build hbuild hbefore
  have hnone := starts_eq_nil_of_only_aside (Launch.only_build d) hbuild
  rcases checked with fault | c
  · obtain ⟨rfl, rfl⟩ := run_pure_iff.1 hrest
    refine .inl ⟨fun hlawful => ?_, by rw [List.append_nil, hnone], rfl⟩
    obtain ⟨c, hc⟩ := Draft.exists_build_eq_ok_iff.2 hlawful
    cases hchecked.trans hc
  · obtain ⟨own, _, outcome, hlaunch, hrelease, rfl⟩ := run_seq_iff.1 hrest
    obtain ⟨after, _, _, hafter, hend, rfl⟩ := run_seq_iff.1 hrelease
    obtain ⟨rfl, rfl⟩ := run_pure_iff.1 hend
    have hdraft := Launch.draft_of_run_build hbuild
    have hoffered : Offered isDirectory c := .ofDraft hbuild hbefore
    refine .inr ⟨hdraft ▸ hoffered.lawful, c, before, own, after, outcome, hoffered, hdraft, hlaunch,
      by simp, hnone, starts_eq_nil_of_only outcome.only_release hafter, rfl⟩

/-! ## The law of settings -/

/-- **Settings and the check.**

After any settings, each field of a draft holds what was written to it last, so that settings that
write the same in the end come to the same. The check accepts the draft, as it is, exactly when no rule
is broken, and otherwise names the first broken rule. No configuration that is there to be launched
breaks a rule, and the launches that only tell whether they worked go through the check like the
others.

**Proof sketch.** One write is `Launcher.Field.get_apply`, and many are an induction over it. The check
looks through the rules in their order (`Launcher.Draft.fault?_eq_find?`). All configurations come from
the check of a draft (`Launcher.Offered.lawful`). -/
theorem checked_last_writes (commandLine : String) (settings : List Setting)
    (isDirectory : String → Bool) :
    let d := Draft.ofSettings commandLine settings
    (d.commandLine = commandLine ∧ (∀ f : Field, f.get d = f.last settings) ∧
      (d.workingDirectory = none ↔ ∀ directory, .workingDirectory directory ∉ settings)) ∧
    (∀ others, (∀ f : Field, f.last others = f.last settings) →
      (Draft.ofSettings commandLine others).build isDirectory = d.build isDirectory) ∧
    (((∃ c, d.build isDirectory = .ok c) ↔ d.Lawful isDirectory) ∧
      (∀ c, d.build isDirectory = .ok c → c.draft = d) ∧
      ∀ fault, d.build isDirectory = .error fault ↔ d.BreaksFirst isDirectory fault) ∧
    (∀ trace result, Run (Launch.build d) trace result → AnswersBy isDirectory trace →
      result = d.build isDirectory) ∧
    (∀ c, Offered isDirectory c → c.draft.Lawful isDirectory) ∧
    (∀ directory trace worked, AnswersBy isDirectory trace →
      (Run (runAndWait commandLine directory) trace worked →
        LaunchesChecked isDirectory (Draft.ofSettings commandLine
          (.completion .wait :: directory.toList.map .workingDirectory)) trace worked) ∧
      (Run (runDetached commandLine) trace worked →
        LaunchesChecked isDirectory (Draft.ofSettings commandLine [.completion .detach]) trace
          worked)) := by
  refine ⟨⟨Draft.commandLine_ofSettings _ _, fun f => Field.get_ofSettings f _ _,
    Draft.workingDirectory_ofSettings_eq_none_iff⟩, fun others hlast => ?_,
    ⟨Draft.exists_build_eq_ok_iff, fun c hc => (Draft.build_eq_ok_iff.1 hc).2, fun fault => ?_⟩,
    fun trace result run h => Launch.result_of_run_build run h, fun c h => h.lawful,
    fun directory trace worked h => ⟨fun run => ?_, fun run => launchesChecked_runDraft run h⟩⟩
  · rw [Draft.ofSettings_eq_of_last_eq commandLine hlast]
  · rw [Draft.build_eq_error_iff, Draft.fault?_eq_some_iff]
  · cases directory with
    | none => exact launchesChecked_runDraft run h
    | some path => exact launchesChecked_runDraft run h

/-- Two flags are written together, one of them is taken back, and the rule that is broken then comes
before that of the directory. -/
example : (Draft.ofSettings "tool" [.detachedConsole true, .workingDirectory "gone",
      .creation { newConsole := true, noWindow := true }, .detachedConsole true, .noWindow false,
      .waitForCompletion true]).build (fun _ => false) = .error .consoleConflict := by
  rw [Draft.build_eq_error_iff]
  decide

end Launcher
