import Launcher.Proofs.Yaml.Tells
import Launcher.Spec.Read
import Launcher.Spec.Write
/-!
# Launch specs are read as they were written

A launch spec that is written as a document and read again is the same launch spec, whatever is in it;
and so it is when entries that have their default are left out of the document, at any level and in any
selection. The parts of a launch spec, and the status of a process, are read as they were written too.

What is taken for granted is the notation (`Launcher.Yaml.Document.Tells`): that a document which was
written from a value tells that value. What is shown is that writing and reading agree about names,
variants, defaults, and what is missing.

## Main definitions

* `Launcher.Spec.defaults` — the entries that may be left out.
* `Launcher.ExitStatus.Fits` — the number of a status has 32 bits.

## Main results

* `Launcher.Spec.reads`, and `reads` of each part — a reader makes of a value what it was written from.
* `Launcher.Spec.load_render` — a launch spec is loaded from the document that is written for it.
* `Launcher.Spec.round_trip` — all of them, for whole documents.
-/

namespace Launcher

open Yaml

/-- The entries that may be left out, with the values that they have then. -/
def Spec.defaults : List (String × Value) :=
  [ ("stdin", .text "inherit"), ("stdout", .text "inherit"), ("stderr", .text "inherit"),
    ("inherit_handles", .bool false), ("console", ConsoleSpec.toValue {}),
    ("completion", .text "track"), ("new_console", .bool false), ("no_window", .bool false),
    ("detached", .bool false), ("new_process_group", .bool false), ("hide_window", .bool false),
    ("kill_on_close", .bool false), ("append", .bool false) ]

open Spec (defaults)

variable {σ : Type}

/-! ## Variants -/

/-- A mode of completion is read from its name. -/
lemma Completion.reads (c : Completion) : Reads defaults Completion.read 0 c.toValue c :=
  reads_bare (by cases c <;> decide) (by rw [ofName?_name]; rfl)

/-- A mode of a stream is read from its name. -/
lemma StreamMode.reads (m : StreamMode) : Reads defaults StreamMode.read 0 m.toValue m :=
  reads_bare (by cases m <;> decide) (by rw [ofName?_name]; rfl)

/-- The number of the status has 32 bits. -/
def ExitStatus.Fits : ExitStatus → Prop
  | code value | signaled value => -0x80000000 ≤ value ∧ value < 0x80000000

/-- A status whose number fits is read from what it is written as. -/
lemma ExitStatus.reads {e : ExitStatus} (h : e.Fits) :
    Reads defaults ExitStatus.read 0 e.toValue e := by
  cases e with
  | code value => exact reads_full (by decide) h.1 h.2
  | signaled value => exact reads_full (by decide) h.1 h.2

/-! ## Streams -/

/-- **A stream** is read from a text or from a mapping of one or two entries. -/
theorem StreamSpec.reads (stream : StreamSpec) :
    Reads defaults StreamSpec.read 1 stream.toValue stream := by
  intro p n v' followed hdepth hvariant hshort htells
  suffices ∃ c, p.content n followed = .ok (c, followed) ∧ ofContent? c = some stream by
    obtain ⟨c, hcontent, hstream⟩ := this
    simp only [StreamSpec.read, bind, StateT.bind, Except.bind, hcontent, hstream]
    rfl
  rcases stream with m | ⟨path, append⟩
  · obtain rfl := abridges_text_iff.1 hshort
    refine ⟨_, contentTo_scalar htells rfl p.depth, ?_⟩
    simp [ofContent?, modeOfContent?, StreamMode.ofName?_name]
  · obtain ⟨shorter, rfl, hall⟩ := abridges_mapping_iff.1 hshort
    cases hall with
    | drop hdefault => simp [defaults] at hdefault
    | keep hpath hrest =>
      obtain rfl := abridges_text_iff.1 hpath
      cases hrest with
      | keep happend hrest =>
        obtain rfl := abridges_bool_iff.1 happend
        cases hrest
        exact ⟨_, content_mapping htells (by simp [Value.scalar?]) hdepth, rfl⟩
      | drop hdefault hrest =>
        cases hrest
        obtain rfl : append = false := by simpa [defaults] using hdefault
        exact ⟨_, content_mapping htells (by simp [Value.scalar?]) hdepth, rfl⟩

/-! ## Records -/

/-- A truth value may be left out when it is false. -/
lemma eq_false_of_mem_defaults {name : String} {value : Bool}
    (h : (name, Value.bool value) ∈ defaults) : value = false := by
  simp only [defaults, ConsoleSpec.toValue, List.mem_cons, Prod.mk.injEq, reduceCtorEq, and_false,
    Value.bool.injEq, List.not_mem_nil, false_or, or_false] at h
  rcases h with ⟨-, h⟩ | ⟨-, h⟩ | ⟨-, h⟩ | ⟨-, h⟩ | ⟨-, h⟩ | ⟨-, h⟩ | ⟨-, h⟩ | ⟨-, h⟩ <;> exact h

/-- The flags of a console are read from their entries. -/
lemma ConsoleSpec.reads (c : ConsoleSpec) : Reads defaults ConsoleSpec.read 1 c.toValue c :=
  reads_record
    (.cons (.of_default rfl reads_bool rfl eq_false_of_mem_defaults rfl)
      (.cons (.of_default rfl reads_bool rfl eq_false_of_mem_defaults rfl)
        (.cons (.of_default rfl reads_bool rfl eq_false_of_mem_defaults rfl)
          (.cons (.of_default rfl reads_bool rfl eq_false_of_mem_defaults rfl)
            (.cons (.of_default rfl reads_bool rfl eq_false_of_mem_defaults rfl) (.nil c))))))
    rfl (by simp)

/-- The options of a job are read from their entry. -/
lemma JobOptions.reads (j : JobOptions) : Reads defaults JobOptions.read 1 j.toValue j :=
  reads_record (.cons (.of_default rfl reads_bool rfl eq_false_of_mem_defaults rfl) (.nil j)) rfl
    (by simp)

/-! ## Launch specs -/

namespace Spec

/-- A stream whose entry may be left out is inherited. -/
lemma eq_inherit_of_mem_defaults {name : String} {stream : StreamSpec}
    (hname : name ∈ ["stdin", "stdout", "stderr"]) (h : (name, stream.toValue) ∈ defaults) :
    stream = default := by
  have hvalue : stream.toValue = .text "inherit" := by
    simp only [List.mem_cons, List.not_mem_nil, or_false] at hname
    rcases hname with rfl | rfl | rfl <;> simpa [defaults] using h
  rcases stream with (_ | _) | ⟨path, append⟩
  · rfl
  · simp [StreamSpec.toValue, StreamMode.toValue, StreamMode.name] at hvalue
  · simp [StreamSpec.toValue] at hvalue

/-- A console whose entry may be left out has no flag set. -/
lemma eq_default_of_console_mem_defaults {c : ConsoleSpec} (h : ("console", c.toValue) ∈ defaults) :
    c = {} := by
  have hvalue : c.toValue = ConsoleSpec.toValue {} := by simpa [defaults] using h
  cases c
  simpa [ConsoleSpec.toValue] using hvalue

/-- A mode of completion whose entry may be left out is the default. -/
lemma eq_default_of_completion_mem_defaults {c : Completion}
    (h : ("completion", c.toValue) ∈ defaults) : c = default := by
  have hvalue : c.toValue = .text "track" := by simpa [defaults] using h
  cases c with
  | wait => simp [Completion.toValue, Completion.name] at hvalue
  | track => rfl
  | detach => simp [Completion.toValue, Completion.name] at hvalue

/-- **A launch spec** is read from its entries.

**Proof sketch.** The entries, in the order in which they are written, put one field after the other
into an empty draft (`Launcher.Yaml.Chain`); the working directory and the job have no entry when they
are not there, and then the draft has none either. -/
theorem reads (s : Spec) : Reads defaults Spec.read 2 s.toValue s := by
  have hcommand : Chain defaults fields 1 [("command_line", .text s.commandLine)] {}
      { commandLine := some s.commandLine } :=
    .cons (.of_reads rfl ((reads_text "a string").mono (Nat.zero_le _)) rfl (by simp [defaults]))
      (.nil _)
  have hdirectory (d : SpecDraft) (hd : d.rest.workingDirectory = none) :
      Chain defaults fields 1
        ((s.workingDirectory.map Value.text).map fun v => ("working_directory", v)).toList d
        { d with rest := { d.rest with workingDirectory := s.workingDirectory } } := by
    cases hdirectory : s.workingDirectory with
    | none =>
      show Chain defaults fields 1 [] d _
      rw [← hd]
      exact .nil d
    | some directory =>
      exact .cons (.of_reads rfl (reads_optional ((reads_text "path string").mono (Nat.zero_le _)))
        rfl (by simp [defaults])) (.nil _)
  have hmiddle (directory : Option String) : Chain defaults fields 1
      [ ("stdin", s.stdin.toValue), ("stdout", s.stdout.toValue), ("stderr", s.stderr.toValue),
        ("inherit_handles", .bool s.inheritHandles), ("console", s.console.toValue),
        ("completion", s.completion.toValue) ]
      { commandLine := some s.commandLine
        rest := { commandLine := "", workingDirectory := directory } }
      { commandLine := some s.commandLine
        rest := { s with commandLine := "", workingDirectory := directory, job := none } } :=
    .cons (.of_default rfl s.stdin.reads rfl (eq_inherit_of_mem_defaults (by simp)) rfl)
      (.cons (.of_default rfl s.stdout.reads rfl (eq_inherit_of_mem_defaults (by simp)) rfl)
      (.cons (.of_default rfl s.stderr.reads rfl (eq_inherit_of_mem_defaults (by simp)) rfl)
      (.cons (.of_default rfl (reads_bool.mono (Nat.zero_le _)) rfl eq_false_of_mem_defaults rfl)
      (.cons (.of_default rfl s.console.reads rfl eq_default_of_console_mem_defaults rfl)
      (.cons (.of_default rfl (s.completion.reads.mono (Nat.zero_le _)) rfl
        eq_default_of_completion_mem_defaults rfl) (.nil _))))))
  have hjob (d : SpecDraft) (hd : d.rest.job = none) :
      Chain defaults fields 1 ((s.job.map JobOptions.toValue).map fun v => ("job", v)).toList d
        { d with rest := { d.rest with job := s.job } } := by
    cases hjob : s.job with
    | none =>
      show Chain defaults fields 1 [] d _
      rw [← hd]
      exact .nil d
    | some options =>
      exact .cons (.of_reads rfl (reads_optional options.reads) rfl (by simp [defaults])) (.nil _)
  have hchain := ((hcommand.append (hdirectory _ rfl)).append (hmiddle _)).append (hjob _ rfl)
  refine reads_record hchain rfl ?_
  cases s.workingDirectory <;> cases s.job <;> simp

/-- A launch spec is loaded from a document that tells what it is written from, or a part of that. -/
lemma load_of_tells {text : String} {v : Value} {s : Spec} (hshort : Abridges defaults s.toValue v)
    (htells : (Document.ofText text).Tells v) : load text = .ok s := by
  rw [load, parse, Document.read_eq_ok s.reads (by decide) hshort htells]
  rfl

/-- **A launch spec is loaded from its own document**, if that tells what it was written from. -/
theorem load_render {s : Spec} (htells : (Document.ofText s.render).Tells s.toValue) :
    load s.render = .ok s :=
  load_of_tells (.refl _) htells

/-- **Round trip.** Let a document tell a value. When the value is what a launch spec is written from,
perhaps without some entries that have their default, then loading the document gives that launch spec;
in particular, the document which is written for a launch spec gives it back. The same holds for each
part of a launch spec and for the status of a process, with a number of 32 bits.

**Proof sketch.** A document that tells a value is read by any reader that understands the value
(`Launcher.Yaml.Document.read_eq_ok`), and the readers do, each by its own `reads`. -/
theorem round_trip {text : String} {v : Value} (htells : (Document.ofText text).Tells v) :
    (∀ s : Spec, Abridges defaults s.toValue v → load text = .ok s) ∧
    (∀ c : Completion, Abridges defaults c.toValue v →
      (Document.ofText text).read Completion.read = .ok c) ∧
    (∀ e : ExitStatus, e.Fits → Abridges defaults e.toValue v →
      (Document.ofText text).read ExitStatus.read = .ok e) ∧
    (∀ j : JobOptions, Abridges defaults j.toValue v →
      (Document.ofText text).read JobOptions.read = .ok j) ∧
    (∀ m : StreamMode, Abridges defaults m.toValue v →
      (Document.ofText text).read StreamMode.read = .ok m) ∧
    (∀ stream : StreamSpec, Abridges defaults stream.toValue v →
      (Document.ofText text).read StreamSpec.read = .ok stream) ∧
    (∀ c : ConsoleSpec, Abridges defaults c.toValue v →
      (Document.ofText text).read ConsoleSpec.read = .ok c) := by
  refine ⟨fun s h => load_of_tells h htells, fun c h => ?_, fun e he h => ?_, fun j h => ?_,
    fun m h => ?_, fun stream h => ?_, fun c h => ?_⟩
  · exact Document.read_eq_ok c.reads (by decide) h htells
  · exact Document.read_eq_ok (ExitStatus.reads he) (by decide) h htells
  · exact Document.read_eq_ok j.reads (by decide) h htells
  · exact Document.read_eq_ok m.reads (by decide) h htells
  · exact Document.read_eq_ok stream.reads (by decide) h htells
  · exact Document.read_eq_ok c.reads (by decide) h htells

/-- A launch spec as it is written, and without all entries that have their default, among them the
only one of its job; and a status. -/
theorem round_trip_of_abridged :
    (∃ s : Spec, s.job = some {} ∧ load s.render = .ok s ∧
      load "command_line: 'true'\nstdout:\n  file: out\njob: \x7b\x7d\n" = .ok s) ∧
    (Document.ofText "!Signaled 9\n").read ExitStatus.read = .ok (.signaled 9) := by
  let s : Spec := { commandLine := "true", stdout := .file "out" false, job := some {} }
  have hwritten : (Document.ofText s.render).Tells s.toValue := .of_tells (by decide +kernel)
  have habridged : (Document.ofText
      "command_line: 'true'\nstdout:\n  file: out\njob: \x7b\x7d\n").Tells
      (.mapping [("command_line", .text "true"), ("stdout", .mapping [("file", .text "out")]),
        ("job", .mapping [])]) := .of_tells (by decide +kernel)
  have hstatus : (Document.ofText "!Signaled 9\n").Tells (.variant "Signaled" 9) :=
    .of_tells (by decide +kernel)
  have hshort : Abridges defaults s.toValue (.mapping [("command_line", .text "true"),
      ("stdout", .mapping [("file", .text "out")]), ("job", .mapping [])]) := by
    refine .mapping (.keep (.refl _) (.drop ?_ (.keep (.mapping (.keep (.refl _) (.drop ?_ .nil)))
      (.drop ?_ (.drop ?_ (.drop ?_ (.drop ?_ (.keep (.mapping (.drop ?_ .nil)) .nil))))))))
    all_goals simp [defaults]
    all_goals rfl
  exact ⟨⟨s, rfl, (round_trip hwritten).1 s (.refl _), (round_trip habridged).1 s hshort⟩,
    (round_trip hstatus).2.2.1 (.signaled 9) ⟨by decide, by decide⟩ (.refl _)⟩

end Spec

end Launcher
