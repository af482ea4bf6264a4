import Launcher.Proofs.CommandLine.Letters
import Launcher.Proofs.Config.Settings
/-!
# The words that a launch hands to the host

A configuration has a command line that is not made of white space alone. Its words are made when it is
started, and then there may be none after all: white space is not the same as blanks, and a line of
quotes is neither. In that case the start fails, and the host is not asked anything.

In any other case the host is asked to start the first word with the others as its arguments. There is
no NUL in any of them, since there is none in the line, nor in the directory, since that was found to be
one.

## Main definitions

* `Launcher.FailsWithoutWords` — a launch fails for want of a program exactly if there are no words,
  and then has asked the host nothing.
* `Launcher.Host.Start.HasNul` — a process that cannot be started for a NUL in one of its texts.
* `Launcher.StartsOf` — a start with the words and the directory of a configuration.

## Main results

* `Launcher.Config.split_eq_nil_iff` — which command lines have no words.
* `Launcher.Launch.failsWithoutWords_start`, `Launcher.failsWithoutWords_launchPrepared` — every launch
  fails so.
* `Launcher.only_launchPrepared` — what the host is asked to start by a launch.
* `Launcher.lacks_program` — which configurations have no program.
* `Launcher.keeps_words_without_nul` — no text with a NUL reaches the host.
-/

namespace Launcher

open Host Host.Dialogue

variable {c : Config} {trace : List Exchange}

/-! ## What a configuration is made of -/

/-- A configuration breaks none of the rules that do not ask for a directory. -/
lemma Config.lawful (c : Config) : c.draft.Lawful fun _ => true := by
  refine Draft.fault?_eq_none_iff.1 ?_
  rw [Draft.fault?, c.sound]
  cases c.draft.workingDirectory <;> rfl

/-- A checked command line has no zero character in it. -/
lemma Config.nul_notMem (c : Config) : '\x00' ∉ c.commandLine.toList :=
  c.lawful .nulInCommandLine

/-- A blank is white space. -/
lemma isWhiteSpace_of_isBlank {c : Char} (h : CommandLine.isBlank c = true) :
    Text.isWhiteSpace c = true := by
  have hc : c = ' ' ∨ c = '\t' := by simpa [CommandLine.isBlank] using h
  rcases hc with rfl | rfl
  · exact Text.isWhiteSpace_space
  · exact Text.isWhiteSpace_tab

/-- The command line of a configuration has no words only if it names a program of quotes. -/
lemma Config.split_eq_nil_iff (c : Config) :
    CommandLine.split c.commandLine = [] ↔ CommandLine.NamesNothing c.commandLine := by
  rw [CommandLine.split_eq_nil_iff]
  refine or_iff_right fun hblanks => c.lawful .emptyCommandLine fun d hd => ?_
  exact isWhiteSpace_of_isBlank (hblanks d hd)

/-! ## Launches without a program -/

/-- **It fails for want of a program** exactly if the configuration has no words, and the host has not
been asked anything then. -/
def FailsWithoutWords {α : Type} (c : Config) (trace : List Exchange) (result : Except Fault α) : Prop :=
  (result = .error Launch.noProgram ↔ CommandLine.split c.commandLine = []) ∧
    (result = .error Launch.noProgram → trace = [])

/-- What goes on behind a start does not add to this. -/
lemma FailsWithoutWords.append {α β : Type} {first rest : List Exchange}
    {started : Except Fault α} {result : Except Fault β} (h : FailsWithoutWords c first started)
    (herror : ∀ fault, started = .error fault → rest = [] ∧ result = .error fault)
    (hok : ∀ value, started = .ok value → result ≠ .error Launch.noProgram) :
    FailsWithoutWords c (first ++ rest) result := by
  rcases started with fault | value
  · obtain ⟨rfl, rfl⟩ := herror fault rfl
    have hsame : (Except.error fault : Except Fault β) = .error Launch.noProgram ↔
        (Except.error fault : Except Fault α) = .error Launch.noProgram := by
      rw [Except.error.injEq, Except.error.injEq]
    rw [List.append_nil]
    exact ⟨hsame.trans h.1, fun hresult => h.2 (hsame.1 hresult)⟩
  · have hother := hok value rfl
    have hsome : CommandLine.split c.commandLine ≠ [] := fun hsplit => by cases h.1.2 hsplit
    exact ⟨iff_of_false hother hsome, fun hresult => absurd hresult hother⟩

namespace Launch

/-- A start without words fails at once. -/
lemma failsWithoutWords_start {ownGroup : Bool} {result : Except Fault Pid}
    (run : Run (start c ownGroup) trace result) : FailsWithoutWords c trace result := by
  by_cases hsplit : CommandLine.split c.commandLine = []
  · rw [start, hsplit] at run
    obtain ⟨rfl, rfl⟩ := run_pure_iff.1 run
    exact ⟨iff_of_true rfl hsplit, fun _ => rfl⟩
  · have hother : result ≠ .error noProgram := by
      rcases run_start run with ⟨hnone, -, -⟩ | ⟨e, -, rfl⟩ |
        ⟨streams, first, process, answer, last, -, -, -, -, rfl⟩
      · exact absurd hnone hsplit
      · simp [noProgram]
      · cases answer <;> simp [Except.mapError, noProgram]
    exact ⟨iff_of_false hother hsplit, fun h => absurd h hother⟩

/-- Nothing that is done with a started process fails for want of a program. -/
lemma ne_noProgram_of_run_complete {pid : Pid} {job : Option Job} {mode : Completion}
    {result : Except Fault Launched} (run : Run (complete { pid } job mode) trace result) :
    result ≠ .error noProgram := by
  rcases run_complete run with ⟨status, -, -, rfl⟩ | ⟨e, first, last, -, -, -, -, rfl⟩ |
    ⟨-, -, rfl⟩ | ⟨-, -, rfl⟩ <;> simp [Process.waitFault, noProgram]

/-- A start as a job without words fails at once. -/
lemma failsWithoutWords_startJob {killOnClose : Bool} {result : Except Fault (Pid × Job)}
    (run : Run (startJob c killOnClose) trace result) : FailsWithoutWords c trace result := by
  obtain ⟨first, rest, started, hstart, hrest, rfl⟩ := run_seq_iff.1 run
  refine (failsWithoutWords_start hstart).append ?_ ?_
  · rintro fault rfl
    exact run_pure_iff.1 hrest
  · rintro pid rfl
    obtain ⟨answer, _, hcheck, rfl⟩ := run_call_seq_iff.1 hrest
    cases hassign : assignFault? pid answer with
    | none =>
      rw [hassign] at hcheck
      rw [(run_pure_iff.1 hcheck).2]
      nofun
    | some fault =>
      rw [hassign] at hcheck
      obtain ⟨_, _, _, -, hend, -⟩ := run_seq_iff.1 hcheck
      obtain ⟨reason, code, rfl⟩ := exists_of_assignFault?_eq_some hassign
      rw [(run_pure_iff.1 hend).2]
      simp [noProgram]

end Launch

/-- **Launches without words fail for want of a program**, be they alone or as a job, and no other launch
does. Waiting for a job is refused before. -/
theorem failsWithoutWords_launchPrepared {job : Option JobOptions} {result : Except Fault Launched}
    (hmode : job.isSome → c.completion ≠ .wait) (run : Run (Cli.launchPrepared c job) trace result) :
    FailsWithoutWords c trace result := by
  cases job with
  | none =>
    obtain ⟨first, rest, started, hstart, hrest, rfl⟩ := run_seq_iff.1 run
    refine (Launch.failsWithoutWords_start hstart).append ?_ ?_
    · rintro fault rfl
      exact run_pure_iff.1 hrest
    · rintro pid rfl
      exact Launch.ne_noProgram_of_run_complete hrest
  | some options =>
    have hwaits : ¬ c.completion.waits = true := by
      have hne := hmode rfl
      cases hcompletion : c.completion with
      | wait => exact absurd hcompletion hne
      | track | detach => simp [Completion.waits]
    rw [Cli.launchPrepared, tryLaunchAsJob, if_neg hwaits] at run
    obtain ⟨first, rest, started, hstart, hrest, rfl⟩ := run_seq_iff.1 run
    refine (Launch.failsWithoutWords_startJob hstart).append ?_ ?_
    · rintro fault rfl
      exact run_pure_iff.1 hrest
    · rintro ⟨pid, job⟩ rfl
      exact Launch.ne_noProgram_of_run_complete hrest

/-- **Configurations without a program.**

A line has no words exactly if it is made of blanks, or ends with a program name of quotes alone, with at
most one blank behind an even number of them. Of the lines that pass the check these are the ones that
name a program of quotes. A launch fails for want of a program exactly for them, and then the host has
not been asked anything: no stream was duplicated and no process started.

**Proof sketch.** Which lines have no words is `Launcher.CommandLine.split_eq_nil_iff`; a line of blanks
does not pass the check, since blanks are white space. The rest follows the parts of a launch. -/
theorem lacks_program :
    (∀ line, CommandLine.split line = [] ↔
      (∀ c ∈ line.toList, CommandLine.isBlank c = true) ∨ CommandLine.NamesNothing line) ∧
    ∀ c : Config,
      (CommandLine.split c.commandLine = [] ↔ CommandLine.NamesNothing c.commandLine) ∧
      (∀ ownGroup trace result, Run (Launch.start c ownGroup) trace result →
        (result = .error (.configuration "Command line has no program") ↔
          CommandLine.NamesNothing c.commandLine) ∧
        (result = .error (.configuration "Command line has no program") → trace = [])) ∧
      ∀ job trace result, (job.isSome → c.completion ≠ .wait) →
        Run (Cli.launchPrepared c job) trace result →
        (result = .error (.configuration "Command line has no program") ↔
          CommandLine.NamesNothing c.commandLine) ∧
        (result = .error (.configuration "Command line has no program") → trace = []) := by
  refine ⟨CommandLine.split_eq_nil_iff, fun c => ⟨c.split_eq_nil_iff, ?_, ?_⟩⟩
  · intro ownGroup trace result run
    obtain ⟨hiff, hnone⟩ := Launch.failsWithoutWords_start run
    exact ⟨hiff.trans c.split_eq_nil_iff, hnone⟩
  · intro job trace result hmode run
    obtain ⟨hiff, hnone⟩ := failsWithoutWords_launchPrepared hmode run
    exact ⟨hiff.trans c.split_eq_nil_iff, hnone⟩

/-- Two quotes between two blanks pass the check. They are not started, neither alone nor as a job. -/
theorem lacks_program_of_quotes :
    ∃ c : Config, c.commandLine = " \"\"\t" ∧ CommandLine.NamesNothing c.commandLine ∧
      CommandLine.split c.commandLine = [] ∧
      (∀ result, Run (Launch.start c true) [] result →
        result = .error (.configuration "Command line has no program")) ∧
      Run (Cli.launchPrepared c (some {})) []
        (.error (.configuration "Command line has no program")) ∧
      ∀ trace result, Run (Cli.launchPrepared c (some {})) trace result →
        trace = [] ∧ result = .error (.configuration "Command line has no program") := by
  let c : Config := ⟨Draft.ofCommand " \"\"\t", by decide⟩
  have hnames : CommandLine.NamesNothing c.commandLine :=
    ⟨[' '], 2, ['\t'], by decide, by simp [CommandLine.isBlank], by decide,
      .inr ⟨by decide, '\t', by decide, rfl⟩⟩
  have hmode : (some ({} : JobOptions)).isSome → c.completion ≠ .wait := by decide
  obtain ⟨hsplit, hstart, hlaunch⟩ := lacks_program.2 c
  have run : Run (Cli.launchPrepared c (some {})) [] (.error Launch.noProgram) := by
    rw [Cli.launchPrepared, tryLaunchAsJob, Launch.startJob, Launch.start, hsplit.2 hnames]
    exact .done _
  refine ⟨c, rfl, hnames, hsplit.2 hnames, fun result run => ?_, run, fun trace result run => ?_⟩
  · exact (hstart true [] result run).1.2 hnames
  · obtain ⟨hiff, hnone⟩ := hlaunch (some {}) trace result hmode run
    exact ⟨hnone (hiff.2 hnames), hiff.2 hnames⟩

/-! ## What is handed to the host -/

/-- **A text with a NUL inside** cannot be handed to a host, for which the text would end there. So a
process with such a text cannot be started. -/
def Host.Start.HasNul (process : Start) : Prop :=
  ∃ text ∈ process.program :: process.arguments ++ process.directory.toList, '\x00' ∈ text.toList

/-- A start with the words and the directory of a configuration, or any other call. -/
def StartsOf (c : Config) : Call → Prop
  | .start process => process.program :: process.arguments = CommandLine.split c.commandLine ∧
    process.directory = c.draft.workingDirectory
  | _ => True

/-- A call that starts nothing starts no other words. -/
lemma startsOf_of_noStart {call : Call} (h : NoStart call) : StartsOf c call := by
  cases call with
  | start process => exact absurd trivial h
  | _ => trivial

/-- A part that starts nothing starts no other words. -/
lemma only_startsOf {α : Type} {d : Dialogue α} (h : Only NoStart d) : Only (StartsOf c) d :=
  h.mono fun _ => startsOf_of_noStart

/-- A part that has to do with files alone starts no other words. -/
lemma only_startsOf_of_filing {α : Type} {d : Dialogue α} (h : Only Call.IsFiling d) :
    Only (StartsOf c) d :=
  only_startsOf (h.mono fun _ hfiling => noStart_of_isAside hfiling.isAside)

/-- A start asks for the words of its command line alone. -/
lemma Launch.only_start (ownGroup : Bool) : Only (StartsOf c) (start c ownGroup) := by
  unfold start
  split
  · exact only_pure _
  rename_i program arguments hsplit
  refine (only_startsOf_of_filing (filing_duplicateStreams _)).bind fun streams => ?_
  rcases streams with e | streams
  · exact only_pure _
  refine Only.bind (only_call_iff.2 ⟨hsplit.symm, rfl⟩) fun started => ?_
  refine (only_startsOf_of_filing (filing_closeAll _)).bind fun _ => ?_
  cases started <;> exact only_pure _

/-- So does a start as a job. -/
lemma Launch.only_startJob (killOnClose : Bool) : Only (StartsOf c) (startJob c killOnClose) := by
  refine (only_start true).bind fun started => ?_
  rcases started with fault | pid
  · exact only_pure _
  refine Only.bind (only_call_iff.2 trivial) fun group => ?_
  split
  · exact only_pure _
  · exact (only_startsOf (only_abort pid)).bind fun _ => only_pure _

/-- **What a launch asks the host to start** has the words and the directory of the configuration. -/
theorem only_launchPrepared (job : Option JobOptions) :
    Only (StartsOf c) (Cli.launchPrepared c job) := by
  cases job with
  | none =>
    refine (Launch.only_start c.ownGroup).bind fun started => ?_
    rcases started with fault | pid
    · exact only_pure _
    · exact only_startsOf (Launch.only_complete _ _ _)
  | some options =>
    rw [Cli.launchPrepared, tryLaunchAsJob]
    split
    · exact only_pure _
    refine (Launch.only_startJob options.killOnClose).bind fun started => ?_
    rcases started with fault | ⟨pid, job⟩
    · exact only_pure _
    · exact only_startsOf (Launch.only_complete _ _ _)

/-- What the host is asked to start is asked of it in some exchange. -/
lemma exists_mem_of_mem_starts {process : Start} (h : process ∈ starts trace) :
    ∃ answer, ⟨.start process, answer⟩ ∈ trace := by
  obtain ⟨⟨call, answer⟩, hmem, hasked⟩ := List.mem_filterMap.1 h
  cases call with
  | start s =>
    cases hasked
    exact ⟨answer, hmem⟩
  | _ => cases hasked

/-- There is no NUL in the words of a configuration. -/
lemma Config.nul_notMem_of_mem_split {word : String} (h : word ∈ CommandLine.split c.commandLine) :
    '\x00' ∉ word.toList := by
  intro hnul
  refine c.nul_notMem ((CommandLine.keeps_split c.commandLine).sublist.subset ?_)
  exact List.mem_flatMap.2 ⟨word, h, hnul⟩

/-- **Texts with a NUL do not reach the host.**

The words of a line, one after the other, are the line with some quotes, blanks, and backslashes before
quotes left out; all other characters are there once and in their order. There is no quote in the program
name. So no word of a configuration has a NUL in it, since its line has none. If no path with a NUL is a
directory, the directory of a configuration that was accepted has none either, and nothing that a launch
asks the host to start does.

**Proof sketch.** What is kept of a line is part of it (`Launcher.CommandLine.Keeps.sublist`), and a launch
starts nothing but the words of the line in the directory of the configuration
(`Launcher.only_launchPrepared`). -/
theorem keeps_words_without_nul :
    (∀ line,
      CommandLine.Keeps line.toList ((CommandLine.split line).flatMap String.toList) ∧
      ((CommandLine.split line).flatMap String.toList).Sublist line.toList ∧
      ((CommandLine.split line).flatMap String.toList).filter CommandLine.isPlain =
        line.toList.filter CommandLine.isPlain ∧
      ∀ program ∈ (CommandLine.split line).head?, '"' ∉ program.toList) ∧
    (∀ c : Config, ∀ word ∈ CommandLine.split c.commandLine, '\x00' ∉ word.toList) ∧
    ∀ (isDirectory : String → Bool) (d : Draft) (c : Config),
      (∀ path, '\x00' ∈ path.toList → isDirectory path = false) → d.build isDirectory = .ok c →
      ∀ job trace result, Run (Cli.launchPrepared c job) trace result →
        ∀ process ∈ starts trace, ¬ process.HasNul := by
  refine ⟨fun line => ?_, fun c word => c.nul_notMem_of_mem_split, ?_⟩
  · have hkeeps := CommandLine.keeps_split line
    exact ⟨hkeeps, hkeeps.sublist, hkeeps.filter_isPlain,
      fun program => CommandLine.quote_notMem_of_head?_split⟩
  rintro isDirectory d c hpaths hbuild job trace result run process hprocess ⟨text, htext, hnul⟩
  obtain ⟨answer, hmem⟩ := exists_mem_of_mem_starts hprocess
  obtain ⟨hwords, hdirectory⟩ := (only_launchPrepared job).of_run run _ hmem
  rw [hwords, hdirectory, List.mem_append, Option.mem_toList] at htext
  rcases htext with hword | hpath
  · exact c.nul_notMem_of_mem_split hword hnul
  · have hlawful := Draft.exists_build_eq_ok_iff.1 ⟨c, hbuild⟩
    rw [← (Draft.build_eq_ok_iff.1 hbuild).2] at hlawful
    exact hlawful (.noWorkingDirectory text) ⟨hpath, hpaths text hnul⟩

/-- A line with quotes in the program name and escaped quotes in an argument, in a directory. -/
theorem keeps_words_without_nul_of_escapes :
    ∃ c : Config, ∃ trace result, c.commandLine = "pro\"g x\"  a\\\\\\\"b\\c" ∧
      Run (Cli.launchPrepared c none) trace result ∧
      ∃ process ∈ starts trace, process.program = "prog x" ∧ process.arguments = ["a\\\"b\\c"] ∧
        ¬ process.HasNul := by
  let d : Draft :=
    { Draft.ofCommand "pro\"g x\"  a\\\\\\\"b\\c" with workingDirectory := some "/tmp" }
  let c : Config := ⟨d, by decide⟩
  let process : Start :=
    { program := "prog x", arguments := ["a\\\"b\\c"], directory := some "/tmp", ownGroup := false,
      streams := {} }
  have hsplit : CommandLine.split c.commandLine = ["prog x", "a\\\"b\\c"] := by decide +kernel
  have hpaths : ∀ path : String, '\x00' ∈ path.toList → (path == "/tmp") = false := by
    intro path hnul
    rw [beq_eq_false_iff_ne]
    rintro rfl
    exact absurd hnul (by decide)
  have hbuild : d.build (fun path => path == "/tmp") = .ok c :=
    Draft.build_eq_ok_iff.2 ⟨by decide, rfl⟩
  have run : Run (Cli.launchPrepared c none) [⟨.start process, .ok 7⟩]
      (.ok { pid := 7, process := some { pid := 7 }, job := none, status := none }) := by
    rw [Cli.launchPrepared, tryLaunch, Launch.start, hsplit]
    exact .ask (.done _)
  obtain ⟨-, -, hclean⟩ := keeps_words_without_nul
  have hmem : process ∈ starts [⟨.start process, .ok 7⟩] := by simp [asked?]
  exact ⟨c, _, _, rfl, run, process, hmem, rfl, rfl, hclean _ d c hpaths hbuild none _ _ run _ hmem⟩

end Launcher
