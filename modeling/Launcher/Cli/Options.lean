/-!
# The options of the command line

The words of the command line are options, and behind them a command, which is taken word by word
as it stands. The command begins behind `--`, or at the first word that is no option. An option
with a value takes the next word for it, unless that word is an option itself.

A value that is given as a word of its own is looked at late: when the next option or the command
begins, or at the end.

## Main definitions

* `Launcher.Cli.Options` — what the words say.
* `Launcher.Cli.UsageFault` — why some words say nothing.
* `Launcher.Cli.Options.ofWords` — the options of some words.
-/

namespace Launcher.Cli

/-- How the command is run. -/
inductive Mode where
  | wait
  | track
  | detach
  | job
  deriving Repr, DecidableEq

namespace Mode

/-- The name of a mode. -/
def name : Mode → String
  | wait => "wait"
  | track => "track"
  | detach => "detach"
  | job => "job"

/-- All modes. -/
def all : List Mode :=
  [wait, track, detach, job]

/-- The mode of a name. -/
def ofName? (name : String) : Option Mode :=
  all.find? fun mode => mode.name == name

end Mode

/-- What the words of the command line say. -/
structure Options where
  /-- A file with a launch spec, which replaces the command. -/
  config : Option String := none
  /-- How the command is run. -/
  mode : Mode := .wait
  /-- Where the command is run. -/
  directory : Option String := none
  /-- The whole job is ended when its handle is released. -/
  killOnClose : Bool := false
  /-- After so many seconds the process or job is ended. -/
  timeout : Option Nat := none
  /-- Only tell whether all privileges are there. -/
  elevated : Bool := false
  /-- Tell more about what happens. -/
  debug : Bool := false
  /-- The command and its arguments. -/
  command : List String := []
  deriving Repr, DecidableEq

/-- Why the words of the command line say nothing. -/
inductive UsageFault where
  /-- The help was asked for. -/
  | helpAsked
  /-- The version was asked for. -/
  | versionAsked
  /-- A value is missing, empty, or not one of those that there are. -/
  | invalidValue
  /-- A number is none, or too large. -/
  | invalidNumber
  /-- An option is given twice, or two are given that exclude each other. -/
  | conflict
  /-- An option has a value and takes none. -/
  | unwantedValue
  deriving Repr, DecidableEq

/-- The name of an option. -/
inductive Key where
  | config
  | mode
  | directory
  | killOnClose
  | timeout
  | elevated
  | debug
  deriving Repr, DecidableEq

/-- What a switch asks for. -/
inductive Switch where
  | option (key : Key)
  | help
  | version
  deriving Repr, DecidableEq

namespace Key

/-- The option has a value. -/
def takesValue : Key → Bool
  | config | mode | directory | timeout => true
  | killOnClose | elevated | debug => false

/-- The long form of the option. -/
def long : Key → String
  | config => "config"
  | mode => "mode"
  | directory => "cwd"
  | killOnClose => "kill-on-close"
  | timeout => "timeout"
  | elevated => "elevated"
  | debug => "debug"

/-- All options. -/
def all : List Key :=
  [config, mode, directory, killOnClose, timeout, elevated, debug]

end Key

namespace Switch

/-- The switch of a long form. -/
def ofLong? (name : String) : Option Switch :=
  if name == "help" then some help
  else if name == "version" then some version
  else (Key.all.find? fun key => key.long == name).map option

/-- The switch of a letter. -/
def ofLetter? : Char → Option Switch
  | 'c' => some (option .config)
  | 'm' => some (option .mode)
  | 'd' => some (option .debug)
  | 'h' => some help
  | 'V' => some version
  | _ => none

end Switch

/-! ## Words -/

/-- What a word looks like. -/
inductive Shape where
  /-- Two dashes alone. -/
  | separator
  /-- Two dashes, a name, and a value behind an equals sign, if there is one. -/
  | long (name : String) (value : Option String)
  /-- One dash and letters. -/
  | letters (letters : List Char)
  /-- Any other word. -/
  | plain
  deriving Repr, DecidableEq

/-- What a word looks like. -/
def Shape.ofWord (word : String) : Shape :=
  match word.toList with
  | ['-', '-'] => separator
  | '-' :: '-' :: rest =>
    let name := rest.takeWhile (· != '=')
    match rest.drop name.length with
    | _ :: value => long (String.ofList name) (some (String.ofList value))
    | [] => long (String.ofList name) none
  | '-' :: c :: rest => letters (c :: rest)
  | _ => plain

/-! ## Reading options -/

/-- What has been read of the options. -/
structure Reading where
  options : Options := {}
  /-- The options that have been given. -/
  given : List Key := []
  /-- The last option, while its value has not been looked at, and the value, if it is there. -/
  pending : Option (Key × Option String) := none
  deriving Repr, DecidableEq

/-- A whole number below 2⁶⁴. A plus sign may stand in front. -/
def number? (text : String) : Option Nat :=
  let digits := match text.toList with
    | '+' :: rest => rest
    | chars => chars
  let value := digits.foldl (fun n c => 10 * n + (c.toNat - '0'.toNat)) 0
  if !digits.isEmpty && digits.all Char.isDigit && value < 0x10000000000000000 then some value else none

/-- Puts the value of an option into the options. -/
def Options.set (o : Options) (key : Key) (value : String) : Except UsageFault Options :=
  match key with
  | .config => if value.isEmpty then .error .invalidValue else .ok { o with config := some value }
  | .directory =>
    if value.isEmpty then .error .invalidValue else .ok { o with directory := some value }
  | .mode =>
    match Mode.ofName? value with
    | some mode => .ok { o with mode }
    | none => .error .invalidValue
  | .timeout =>
    match number? value with
    | some seconds => .ok { o with timeout := some seconds }
    | none => .error .invalidNumber
  | .killOnClose => .ok { o with killOnClose := true }
  | .elevated => .ok { o with elevated := true }
  | .debug => .ok { o with debug := true }

namespace Reading

/-- Takes in an option, which may be given once. -/
def give (r : Reading) (key : Key) (value : String) : Except UsageFault Reading :=
  if r.given.contains key then .error .conflict
  else do
    let options ← r.options.set key value
    pure { options, given := key :: r.given }

/-- Takes in the last option. -/
def settle (r : Reading) : Except UsageFault Reading :=
  match r.pending with
  | none => .ok r
  | some (_, none) => .error .invalidValue
  | some (key, some value) => { r with pending := none }.give key value

/-- The next word is the value of the last option, unless it is an option. -/
def awaitsValue (r : Reading) : Bool :=
  match r.pending with
  | some (_, none) => true
  | _ => false

/-- Takes a word as the value of the last option. -/
def takeValue (r : Reading) (word : String) : Reading :=
  { r with pending := r.pending.map fun (key, _) => (key, some word) }

/-- Takes in a switch in its long form. -/
def long (r : Reading) (s : Switch) (value : Option String) : Except UsageFault Reading :=
  match s, value with
  | .option key, some value =>
    if key.takesValue then r.settle >>= fun r => r.give key value else .error .unwantedValue
  | .option key, none => do
    let r ← r.settle
    if key.takesValue then pure { r with pending := some (key, none) } else r.give key ""
  | _, some _ => .error .unwantedValue
  | .help, none => r.settle >>= fun _ => .error .helpAsked
  | .version, none => r.settle >>= fun _ => .error .versionAsked

/-- Takes in switches by their letters. What stands behind the letter of an option with a value is
the value. -/
def letters (r : Reading) : List Char → Except UsageFault Reading
  | [] => .ok r
  | c :: rest =>
    match Switch.ofLetter? c with
    | none => .ok r
    | some .help => r.settle >>= fun _ => .error .helpAsked
    | some .version => r.settle >>= fun _ => .error .versionAsked
    | some (.option key) => do
      let r ← r.settle
      if !key.takesValue then
        let r ← r.give key ""
        r.letters rest
      else if rest.isEmpty then pure { r with pending := some (key, none) }
      else r.give key (String.ofList rest)

/-- The options, when the command is known. A launch spec and a command exclude each other. -/
def finish (r : Reading) (command : List String) : Except UsageFault Options := do
  let r ← r.settle
  if r.options.config.isSome && !command.isEmpty then .error .conflict
  else pure { r.options with command }

/-- Reads some words. -/
def words : List String → Reading → Except UsageFault Options
  | [], r => r.finish []
  | word :: rest, r =>
    let other : Except UsageFault Options :=
      if r.awaitsValue then words rest (r.takeValue word) else r.finish (word :: rest)
    match Shape.ofWord word with
    | .separator => r.finish rest
    | .long name value =>
      match Switch.ofLong? name with
      | some s => r.long s value >>= words rest
      | none => other
    | .letters cs =>
      if cs.all fun c => (Switch.ofLetter? c).isSome then r.letters cs >>= words rest else other
    | .plain => other

end Reading

/-- The options that some words say. -/
def Options.ofWords (words : List String) : Except UsageFault Options :=
  Reading.words words {}

end Launcher.Cli
