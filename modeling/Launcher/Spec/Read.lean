import Launcher.Failure
import Launcher.Spec.Basic
import Launcher.Yaml.Content
/-!
# Reading launch specs

## Main definitions

* `Launcher.Spec.read`, and `read` of each part of a launch spec — its reader.
* `Launcher.StreamSpec.ofContent?` — the stream that some content stands for.
* `Launcher.Spec.parse` — the launch spec of a text.
-/

namespace Launcher

open Yaml (Node Place Reader Content)

/-! ## Variants -/

/-- The reader of a mode. -/
def Completion.read : Place → Node → Reader Completion :=
  Place.variant (all.map name) fun chosen => Place.bare ((ofName? chosen).getD default)

/-- The reader of a mode. -/
def StreamMode.read : Place → Node → Reader StreamMode :=
  Place.variant (all.map name) fun chosen => Place.bare ((ofName? chosen).getD .inherit)

/-- The reader of a status. -/
def ExitStatus.read : Place → Node → Reader ExitStatus :=
  Place.variant ["Code", "Signaled"] fun chosen content => do
    let value ← Place.full Place.int32 content
    pure (if chosen == "Code" then .code value else .signaled value)

/-! ## Streams -/

namespace StreamSpec

/-- The place of a name in a list, where the name may stand for itself or be given as its place in
the list. Nothing but a text or a number without a sign can name anything. -/
def named? (names : List String) : Content → Option Nat
  | .scalar (.text name) => some (names.idxOf name)
  | .scalar (.unsigned index) => some (min index names.length)
  | _ => none

/-- The mode that some content stands for: its name, or a mapping of its name alone to null. -/
def modeOfContent? : Content → Option StreamMode
  | .scalar (.text name) => StreamMode.ofName? name
  | .mapping [(key, .scalar .null)] =>
    (named? (StreamMode.all.map StreamMode.name) key).bind fun index => StreamMode.all[index]?
  | _ => none

/-- What has been read of a file. -/
structure FileDraft where
  file : Option String := none
  append : Option Bool := none

/-- Reads the entries of a mapping that stands for a file. Entries of other names are passed
over, but every key must be one that can name an entry. -/
def fileEntries? : List (Content × Content) → FileDraft → Option FileDraft
  | [], d => some d
  | (key, value) :: rest, d => do
    match ← named? ["file", "append"] key, value with
    | 0, .scalar (.text path) =>
      if d.file.isSome then none else fileEntries? rest { d with file := some path }
    | 0, _ => none
    | 1, .scalar (.bool append) =>
      if d.append.isSome then none else fileEntries? rest { d with append := some append }
    | 1, _ => none
    | _, _ => fileEntries? rest d

/-- The file that some content stands for. -/
def fileOfContent? : Content → Option StreamSpec
  | .mapping entries => do
    let d ← fileEntries? entries {}
    some (.file (← d.file) (d.append.getD false))
  | _ => none

/-- The stream that some content stands for. -/
def ofContent? (c : Content) : Option StreamSpec :=
  match modeOfContent? c with
  | some m => some (.mode m)
  | none => fileOfContent? c

/-- The reader of a stream. -/
def read (p : Place) (n : Node) : Reader StreamSpec := do
  match ofContent? (← p.content n) with
  | some stream => pure stream
  | none => Reader.complain "data did not match any variant of untagged enum StdioSpec"

end StreamSpec

/-! ## Records -/

/-- A truth value that is put into a record. -/
private def flag {σ : Type} (name : String) (put : Bool → σ → σ) : Place.Field σ :=
  ⟨name, fun p n => put <$> p.bool n⟩

/-- The fields of `ConsoleSpec`. -/
def ConsoleSpec.fields : List (Place.Field ConsoleSpec) :=
  [ flag "new_console" fun on c => { c with newConsole := on },
    flag "no_window" fun on c => { c with noWindow := on },
    flag "detached" fun on c => { c with detached := on },
    flag "new_process_group" fun on c => { c with newProcessGroup := on },
    flag "hide_window" fun on c => { c with hideWindow := on } ]

/-- The reader of the flags about consoles. -/
def ConsoleSpec.read : Place → Node → Reader ConsoleSpec :=
  Place.record "struct ConsoleSpec" fields {} .ok

/-- The fields of `JobOptions`. -/
def JobOptions.fields : List (Place.Field JobOptions) :=
  [flag "kill_on_close" fun on j => { j with killOnClose := on }]

/-- The reader of the options of a job. -/
def JobOptions.read : Place → Node → Reader JobOptions :=
  Place.record "struct JobOptions" fields {} .ok

/-- What has been read of a launch spec: all its fields but the command line, which has no
default. -/
structure SpecDraft where
  commandLine : Option String := none
  rest : Spec := { commandLine := "" }

/-- The launch spec of a draft. -/
def SpecDraft.finish (d : SpecDraft) : Except String Spec :=
  match d.commandLine with
  | some commandLine => .ok { d.rest with commandLine }
  | none => .error (Place.missing "command_line")

namespace Spec

/-- A field other than the command line. -/
private def entry {α : Type} (name : String) (read : Place → Node → Reader α)
    (put : α → Spec → Spec) : Place.Field SpecDraft :=
  ⟨name, fun p n => (fun value d => { d with rest := put value d.rest }) <$> read p n⟩

/-- The fields of a launch spec. -/
def fields : List (Place.Field SpecDraft) :=
  [ ⟨"command_line", fun p n =>
      (fun value d => { d with commandLine := some value }) <$> Place.text "a string" p n⟩,
    entry "working_directory" (Place.optional (Place.text "path string"))
      fun value s => { s with workingDirectory := value },
    entry "stdin" StreamSpec.read fun value s => { s with stdin := value },
    entry "stdout" StreamSpec.read fun value s => { s with stdout := value },
    entry "stderr" StreamSpec.read fun value s => { s with stderr := value },
    entry "inherit_handles" Place.bool fun value s => { s with inheritHandles := value },
    entry "console" ConsoleSpec.read fun value s => { s with console := value },
    entry "completion" Completion.read fun value s => { s with completion := value },
    entry "job" (Place.optional JobOptions.read) fun value s => { s with job := value } ]

/-- The reader of a launch spec. -/
def read : Place → Node → Reader Spec :=
  Place.record "struct LaunchSpec" fields {} SpecDraft.finish

/-- The launch spec of a text. -/
def parse (text : String) : Except Yaml.Fault Spec :=
  (Yaml.Document.ofText text).read read

/-- The launch spec of a text, with what was being done when it cannot be read. -/
def load (text : String) : Except Failure Spec :=
  (parse text).mapError fun fault =>
    .during "Failed to parse YAML launch spec" (.document fault)

end Spec

end Launcher
