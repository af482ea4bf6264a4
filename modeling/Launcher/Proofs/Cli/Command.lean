import Launcher.Cli.Tool
import Launcher.Proofs.CommandLine.RoundTrip
import Launcher.Proofs.Launch.Runs
/-!
# Commands are run word by word

The command line tool is given a command word by word. On the way to the host the words are joined
into one line, the line is checked, and is then split into words again. The program and the
arguments of the process that the host is asked to start are the given words nevertheless, or the
host is not asked at all; and what is refused can be told from the words and the directory alone.

## Main definitions

* `Launcher.Cli.Options.launchCommand` — from the words of a command to its launch.
* `Launcher.Cli.Options.Refused` — the commands that are refused.

## Main results

* `Launcher.Draft.staticFault?_eq_none_iff` — when the draft of a bare command passes the check.
* `Launcher.Launch.starts_start` — a start without redirects asks for the words of the line.
* `Launcher.Cli.launchCommand_starts` — a command is refused, or the host is asked to start it.
-/

namespace Launcher

open Host Host.Dialogue

variable {c : Config} {trace : List Exchange}

/-! ## Bare commands -/

namespace Draft

/-- Nothing is said of the streams and of the flags. -/
structure IsBare (d : Draft) : Prop where
  streams : d.streams = {}
  creation : d.creation = {}

/-- A bare draft is refused for its command line only. -/
lemma staticFault?_eq_none_iff {d : Draft} (h : d.IsBare) :
    d.staticFault? = none ↔
      Text.isBlankText d.commandLine = false ∧ '\x00' ∉ d.commandLine.toList := by
  have hstreams : d.redirectsStreams = false := by
    rw [redirectsStreams, h.streams]
    rfl
  rw [staticFault?, hstreams, h.creation]
  cases hblank : Text.isBlankText d.commandLine with
  | true => simp
  | false =>
    by_cases hnul : '\x00' ∈ d.commandLine.toList
    · simp [hnul]
    · simp [hnul]

end Draft

/-- **Starting a bare command.** There is no word in its line; or the host is asked, once, to start
the program of these words with the arguments. -/
theorem Launch.starts_start {ownGroup : Bool} {result : Except Fault Pid} (hbare : c.draft.IsBare)
    (run : Run (start c ownGroup) trace result) :
    (CommandLine.split c.commandLine = [] ∧ starts trace = [] ∧ result = .error noProgram) ∨
    (∃ process, starts trace = [process] ∧
      process.program :: process.arguments = CommandLine.split c.commandLine) := by
  rcases run_start run with ⟨hsplit, rfl, rfl⟩ | ⟨e, hdup, rfl⟩ |
    ⟨streams, first, process, answer, last, hdup, ⟨hwords, -⟩, hclose, rfl, rfl⟩
  · exact .inl ⟨hsplit, rfl, rfl⟩
  · rw [hbare.streams] at hdup
    cases hdup
  · have hfirst := starts_eq_nil_of_only_aside (only_duplicateStreams _) hdup
    have hlast := starts_eq_nil_of_only_aside (only_closeAll _) hclose
    exact .inr ⟨process, by simp [hfirst, hlast, asked?], hwords⟩

namespace Cli

variable {o : Options}

/-! ## From words to a launch -/

/-- Why a command is not launched. -/
inductive CommandFault where
  /-- There is no configuration of the command. -/
  | build (fault : BuildFault)
  /-- The launch has failed. -/
  | launch (fault : Fault)

namespace Options

/-- Makes a configuration of the words of a command, and launches it. -/
def launchCommand (o : Options) : Dialogue (Except CommandFault Launched) := do
  match ← o.build with
  | .error fault => pure (.error (.build fault))
  | .ok (config, job) =>
    match ← launchPrepared config job with
    | .error fault => pure (.error (.launch fault))
    | .ok launched => pure (.ok launched)

/-- The commands that are refused, when these paths are directories. -/
inductive Refused (isDirectory : String → Bool) (o : Options) : Prop
  | noWord (h : o.command = [])
  | quoteInProgram {program : String} {arguments : List String}
      (h : o.command = program :: arguments) (hquote : '"' ∈ program.toList)
  | nulInWord {word : String} (h : word ∈ o.command) (hnul : '\x00' ∈ word.toList)
  | blankLine {line : String} (h : CommandLine.join o.command = .ok line)
      (hblank : Text.isBlankText line)
  | noDirectory {directory : String} (h : o.directory = some directory)
      (hnone : isDirectory directory = false)
  | emptyProgram (h : o.command = [""])

/-- The draft of a command with this line. -/
def draft (o : Options) (commandLine : String) : Draft :=
  { commandLine, workingDirectory := o.directory, completion := o.completion }

/-- The draft of options and a command line sets nothing but what an option says. -/
lemma isBare_draft (o : Options) (commandLine : String) : (o.draft commandLine).IsBare :=
  ⟨rfl, rfl⟩

variable {isDirectory : String → Bool}

/-- A command without a line is refused for its first word. -/
lemma Refused.of_join_eq_error {fault : CommandLine.JoinFault}
    (h : CommandLine.join o.command = .error fault) : o.Refused isDirectory := by
  cases hcommand : o.command with
  | nil => exact .noWord hcommand
  | cons program arguments =>
    rw [hcommand, CommandLine.join] at h
    split at h
    · rename_i hquote
      exact .quoteInProgram hcommand (by simpa using hquote)
    · cases h

/-- Of a command with a line, the other rules can be read off. -/
lemma refused_iff_of_join {line : String} (h : CommandLine.join o.command = .ok line) :
    o.Refused isDirectory ↔
      (o.draft line).staticFault? ≠ none ∨ (∃ path ∈ o.directory, isDirectory path = false) ∨
        CommandLine.split line = [] := by
  have hwords := CommandLine.split_of_join h
  have hchecks := Draft.staticFault?_eq_none_iff (o.isBare_draft line)
  have hnul := CommandLine.mem_of_join_iff (c := '\x00') h (by decide) (by decide) (by decide)
  constructor
  · intro hrefused
    cases hrefused with
    | noWord hcommand =>
      rw [hcommand] at h
      cases h
    | quoteInProgram hcommand hquote =>
      rw [hcommand, CommandLine.join, if_pos (by simpa using hquote)] at h
      cases h
    | nulInWord hword hmem =>
      exact .inl fun hnone => (hchecks.1 hnone).2 (hnul.2 ⟨_, hword, hmem⟩)
    | blankLine hline hblank =>
      cases h.symm.trans hline
      refine .inl fun hnone => ?_
      have hfalse : Text.isBlankText line = false := (hchecks.1 hnone).1
      rw [hfalse] at hblank
      cases hblank
    | noDirectory hdirectory hnone => exact .inr (.inl ⟨_, hdirectory, hnone⟩)
    | emptyProgram hcommand => exact .inr (.inr (by rw [hwords, if_pos hcommand]))
  · rintro (hfault | ⟨directory, hdirectory, hnone⟩ | hempty)
    · by_cases hblank : Text.isBlankText line
      · exact .blankLine h hblank
      · by_cases hmem : '\x00' ∈ line.toList
        · obtain ⟨word, hword, hmem⟩ := hnul.1 hmem
          exact .nulInWord hword hmem
        · exact absurd (hchecks.2 ⟨Bool.eq_false_iff.2 hblank, hmem⟩) hfault
    · exact .noDirectory hdirectory hnone
    · by_cases hcommand : o.command = [""]
      · exact .emptyProgram hcommand
      · exact .noWord (by rwa [hwords, if_neg hcommand] at hempty)

/-- **The configuration of a command.** The words have no line; or the draft with their line is
checked. -/
theorem run_build {result : Except BuildFault (Config × Option JobOptions)}
    (run : Run o.build trace result) :
    (∃ fault, CommandLine.join o.command = .error fault ∧ trace = [] ∧
      result = .error (.join fault)) ∨
    (∃ line checked, CommandLine.join o.command = .ok line ∧
      Run (Launch.build (o.draft line)) trace checked ∧
      ((∃ fault, checked = .error fault ∧ result = .error (.config fault)) ∨
        ∃ config, checked = .ok config ∧ result = .ok (config, o.job))) := by
  unfold build at run
  cases hjoin : CommandLine.join o.command with
  | error fault =>
    rw [hjoin] at run
    obtain ⟨rfl, rfl⟩ := run_pure_iff.1 run
    exact .inl ⟨fault, rfl, rfl, rfl⟩
  | ok line =>
    rw [hjoin] at run
    obtain ⟨first, _, checked, hcheck, hend, rfl⟩ := run_seq_iff.1 run
    refine .inr ⟨line, checked, rfl, ?_⟩
    rcases checked with fault | config
    · obtain ⟨rfl, rfl⟩ := run_pure_iff.1 hend
      rw [List.append_nil]
      exact ⟨hcheck, .inl ⟨fault, rfl, rfl⟩⟩
    · obtain ⟨rfl, rfl⟩ := run_pure_iff.1 hend
      rw [List.append_nil]
      exact ⟨hcheck, .inr ⟨config, rfl, rfl⟩⟩

/-- Making the configuration starts nothing. Either the command is refused; or there is a bare
configuration with its line, and the one reason that is left to refuse it is that the line has no
words. -/
lemma refused_of_run_build {result : Except BuildFault (Config × Option JobOptions)}
    (run : Run o.build trace result)
    (hdir : ∀ e ∈ trace, ∀ path isThere, e = ⟨.isDirectory path, isThere⟩ →
      isThere = isDirectory path) :
    starts trace = [] ∧
    ((o.Refused isDirectory ∧ ∃ fault, result = .error fault) ∨
      ∃ config line, CommandLine.join o.command = .ok line ∧ config.draft = o.draft line ∧
        (o.Refused isDirectory ↔ CommandLine.split line = []) ∧ result = .ok (config, o.job)) := by
  rcases run_build run with ⟨fault, hjoin, rfl, rfl⟩ | ⟨line, checked, hjoin, hcheck, hresult⟩
  · exact ⟨rfl, .inl ⟨.of_join_eq_error hjoin, _, rfl⟩⟩
  have hrefused : o.Refused isDirectory ↔ _ := refused_iff_of_join hjoin
  rcases Launch.run_build hcheck with ⟨fault, hstatic, rfl, rfl⟩ | ⟨hstatic, hnone, rfl, rfl⟩ |
    ⟨directory, isThere, hstatic, hsome, rfl, rfl⟩
  · obtain ⟨_, -, rfl⟩ | ⟨_, hok, -⟩ := hresult
    · exact ⟨rfl, .inl ⟨hrefused.2 (.inl (by simp [hstatic])), _, rfl⟩⟩
    · cases hok
  · obtain ⟨_, herror, -⟩ | ⟨config, hok, rfl⟩ := hresult
    · cases herror
    · cases hok
      have hnone : o.directory = none := hnone
      refine ⟨rfl, .inr ⟨_, line, hjoin, rfl, ?_, rfl⟩⟩
      simpa [hstatic, hnone] using hrefused
  · have hthere : isThere = isDirectory directory := hdir _ (by simp) _ _ rfl
    have hsome : o.directory = some directory := hsome
    cases isThere with
    | false =>
      obtain ⟨_, -, rfl⟩ | ⟨_, hok, -⟩ := hresult
      · exact ⟨rfl, .inl ⟨.noDirectory hsome hthere.symm, _, rfl⟩⟩
      · cases hok
    | true =>
      obtain ⟨_, herror, -⟩ | ⟨config, hok, rfl⟩ := hresult
      · cases herror
      · cases hok
        refine ⟨rfl, .inr ⟨_, line, hjoin, rfl, ?_, rfl⟩⟩
        simpa [hstatic, hsome, ← hthere] using hrefused

end Options

/-! ## The launch of a command -/

/-- A command is never both a job and waited for. -/
lemma completion_ne_wait_of_job {job : JobOptions} (h : o.job = some job) :
    o.completion ≠ .wait := by
  unfold Options.job at h
  split at h
  · rename_i hmode
    simp [Options.completion, hmode]
  · cases h

/-- **The launch of a bare configuration** asks the host to start the words of its line, or there
are none and it fails. -/
theorem starts_launchPrepared {job : Option JobOptions} {result : Except Fault Launched}
    (hbare : c.draft.IsBare) (hmode : ∀ j, job = some j → c.completion ≠ .wait)
    (run : Run (launchPrepared c job) trace result) :
    (CommandLine.split c.commandLine = [] ∧ starts trace = [] ∧ ∃ fault, result = .error fault) ∨
    (∃ process, starts trace = [process] ∧
      process.program :: process.arguments = CommandLine.split c.commandLine) := by
  obtain ⟨ownGroup, first, last, started, hstart, hlast, rfl, hfault⟩ :
      ∃ ownGroup first last started, Run (Launch.start c ownGroup) first started ∧
        starts last = [] ∧ trace = first ++ last ∧
        ∀ fault, started = .error fault → result = .error fault := by
    cases job with
    | none => exact ⟨_, exists_start_of_run_tryLaunch run⟩
    | some j => exact ⟨_, exists_start_of_run_tryLaunchAsJob (hmode j rfl) run⟩
  rw [starts_append, hlast, List.append_nil]
  rcases Launch.starts_start hbare hstart with ⟨hsplit, hnone, hstarted⟩ | hprocess
  · exact .inl ⟨hsplit, hnone, _, hfault _ hstarted⟩
  · exact .inr hprocess

/-- **A command is run word by word.** Either it is refused and the host is not asked to start
anything; or the host is asked, once, to start the first word as the program with all other words
as its arguments. Which of the two it is depends on the words and the directory only.

**Proof sketch.** A command that has a configuration passes every rule but the last, that its line
has words. These are the words of the command again, or none when the command is the empty word
alone. -/
theorem launchCommand_starts {isDirectory : String → Bool} {result : Except CommandFault Launched}
    (run : Run o.launchCommand trace result)
    (hdir : ∀ e ∈ trace, ∀ path isThere, e = ⟨.isDirectory path, isThere⟩ →
      isThere = isDirectory path) :
    (o.Refused isDirectory ∧ starts trace = [] ∧ ∃ fault, result = .error fault) ∨
    (¬ o.Refused isDirectory ∧ ∃ process, starts trace = [process] ∧
      process.program :: process.arguments = o.command) := by
  obtain ⟨first, rest, built, hbuild, hrest, rfl⟩ := run_seq_iff.1 run
  have hdir : ∀ e ∈ first, ∀ path isThere, e = ⟨.isDirectory path, isThere⟩ →
      isThere = isDirectory path := fun e he => hdir e (List.mem_append_left _ he)
  obtain ⟨hfirst, ⟨hrefused, fault, rfl⟩ | ⟨config, line, hjoin, hdraft, hiff, rfl⟩⟩ :=
    Options.refused_of_run_build hbuild hdir
  · obtain ⟨rfl, rfl⟩ := run_pure_iff.1 hrest
    exact .inl ⟨hrefused, by simpa using hfirst, _, rfl⟩
  obtain ⟨second, third, launched, hlaunch, hend, rfl⟩ := run_seq_iff.1 hrest
  obtain ⟨rfl, hresult⟩ : third = [] ∧
      ∀ fault, launched = .error fault → result = .error (.launch fault) := by
    rcases launched with fault | launched
    · refine ⟨(run_pure_iff.1 hend).1, ?_⟩
      rintro _ ⟨⟩
      exact (run_pure_iff.1 hend).2
    · refine ⟨(run_pure_iff.1 hend).1, ?_⟩
      rintro _ ⟨⟩
  have hline : config.commandLine = line := congrArg Draft.commandLine hdraft
  have hbare : config.draft.IsBare := hdraft ▸ o.isBare_draft line
  have hmode : ∀ j, o.job = some j → config.completion ≠ .wait := by
    intro j hj
    have hcompletion : config.completion = o.completion := congrArg Draft.completion hdraft
    rw [hcompletion]
    exact completion_ne_wait_of_job hj
  rw [List.append_nil, starts_append, hfirst, List.nil_append]
  rcases starts_launchPrepared hbare hmode hlaunch with ⟨hsplit, hnone, fault, hfault⟩ |
    ⟨process, hstarts, hwords⟩
  · rw [hline] at hsplit
    exact .inl ⟨hiff.2 hsplit, hnone, _, hresult fault hfault⟩
  · rw [hline] at hwords
    have hsplit : CommandLine.split line ≠ [] := by simp [← hwords]
    have hcommand : o.command ≠ [""] := fun h => hsplit (hiff.1 (.emptyProgram h))
    refine .inr ⟨fun h => hsplit (hiff.1 h), process, hstarts, ?_⟩
    rw [hwords, CommandLine.split_of_join hjoin, if_neg hcommand]

/-- A command with a blank in a word, in a directory. -/
theorem launchCommand_starts_echo :
    ∃ trace result, Run (Options.launchCommand
        { command := ["echo", "a b"], directory := some "/tmp" }) trace result ∧
      (∀ e ∈ trace, ∀ path isThere, e = ⟨.isDirectory path, isThere⟩ → isThere = (path == "/tmp")) ∧
      ∃ process, starts trace = [process] ∧ process.program = "echo" ∧
        process.arguments = ["a b"] := by
  let o : Options := { command := ["echo", "a b"], directory := some "/tmp" }
  let process : Start :=
    { program := "echo", arguments := ["a b"], directory := some "/tmp", ownGroup := false,
      streams := {} }
  let config : Config := ⟨o.draft "echo \"a b\"", by decide⟩
  have hjoin : CommandLine.join o.command = .ok config.commandLine := rfl
  have hsplit : CommandLine.split config.commandLine = o.command := by
    rw [CommandLine.split_of_join hjoin]
    simp [o]
  have hcheck : Run (Launch.build config.draft) [⟨.isDirectory "/tmp", true⟩] (.ok config) := by
    have hok : config.draft.build (fun path => path == "/tmp" && true) = .ok config :=
      Draft.build_eq_ok_iff.2 ⟨by decide, rfl⟩
    rw [Launch.build, config.sound]
    exact run_call_seq_iff.2 ⟨true, [], run_pure_iff.2 ⟨rfl, hok.symm⟩, rfl⟩
  have hbuild : Run o.build [⟨.isDirectory "/tmp", true⟩] (.ok (config, none)) := by
    rw [Options.build, hjoin]
    exact run_seq_iff.2 ⟨_, [], .ok config, hcheck, .done _, rfl⟩
  have hlaunch : Run (tryLaunch config) [⟨.start process, .ok 7⟩, ⟨.wait 7, .ok (.ofCode 0)⟩]
      (.ok { pid := 7, process := none, job := none, status := some (.code 0) }) := by
    rw [tryLaunch, Launch.start, hsplit]
    exact .ask (.ask (.done _))
  have run : Run o.launchCommand
      [⟨.isDirectory "/tmp", true⟩, ⟨.start process, .ok 7⟩, ⟨.wait 7, .ok (.ofCode 0)⟩]
      (.ok { pid := 7, process := none, job := none, status := some (.code 0) }) :=
    run_seq_iff.2 ⟨_, _, _, hbuild, run_seq_iff.2 ⟨_, [], _, hlaunch, .done _, rfl⟩, rfl⟩
  have hdir : ∀ e ∈ [(⟨.isDirectory "/tmp", true⟩ : Exchange), ⟨.start process, .ok 7⟩,
      ⟨.wait 7, .ok (.ofCode 0)⟩], ∀ path isThere, e = ⟨.isDirectory path, isThere⟩ →
      isThere = (path == "/tmp") := by
    intro e he path isThere heq
    simp only [List.mem_cons, List.not_mem_nil, or_false] at he
    rcases he with rfl | rfl | rfl
    · cases heq
      rfl
    · cases heq
    · cases heq
  rcases launchCommand_starts run hdir with ⟨-, hnone, -⟩ | ⟨-, asked, hstarts, hwords⟩
  · cases hnone
  · obtain ⟨hprogram, harguments⟩ := List.cons.inj hwords
    exact ⟨_, _, run, hdir, asked, hstarts, hprogram, harguments⟩

end Cli

end Launcher
