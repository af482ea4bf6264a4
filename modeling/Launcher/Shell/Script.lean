import Launcher.Shell.Arithmetic
/-!
# Shell scripts

The programs that are launched are often small shell scripts. A script is made of commands, and
these of words, whose parameters are replaced when the command runs. A word may also have scripts in
it: they run before the command, and what they write takes their place.

## Main definitions

* `Launcher.Shell.Word` — a word of a command, by its pieces.
* `Launcher.Shell.Redirection` — where a descriptor of a command leads.
* `Launcher.Shell.Script` — a command, simple or compound.
* `Launcher.Shell.Script.pending?`, `fill?` — a script in the words of a command, and the command
  with what that script has written.
* `Launcher.Shell.Scope` — the values of parameters.
* `Launcher.Shell.Scope.expand` — the words of a command with their parameters replaced.
-/

namespace Launcher.Shell

/-- What is wanted of a parameter. -/
inductive Wanted where
  | value
  | length
  /-- The value, or else a text. `full` says that an empty value does not count. -/
  | valueOr (full : Bool) (other : String)
  /-- A text, if there is a value. -/
  | insteadOf (full : Bool) (other : String)
  deriving Repr, DecidableEq

/-- A piece of a word. Outside of quotes, what takes the place of a piece is cut at blanks. -/
inductive Piece where
  /-- A text that stands for itself. -/
  | text (text : String)
  | parameter (name : String) (wanted : Wanted) (quoted : Bool)
  /-- A number that is computed. -/
  | number (tokens : List Arithmetic.Token) (quoted : Bool)
  /-- A script that has not been run yet. -/
  | script (text : String) (quoted : Bool)
  /-- What a script has written, and how it ended. -/
  | written (text : String) (status : Nat) (quoted : Bool)
  deriving Repr, DecidableEq

/-- A word of a command. Quotes without anything in them make a piece without a text. -/
abbrev Word := List Piece

/-- How a descriptor of a command is redirected. -/
inductive Direction where
  | input
  | output
  | append
  /-- To where another descriptor leads. -/
  | same
  deriving Repr, DecidableEq

/-- Where a descriptor of a command leads. -/
structure Redirection where
  descriptor : Nat
  direction : Direction
  target : Word
  deriving Repr, DecidableEq

/-- A command, simple or compound. -/
inductive Script where
  /-- Nothing. -/
  | skip
  /-- A command with its assignments, words and redirections. -/
  | simple (assignments : List (String × Word)) (words : List Word)
      (redirections : List Redirection)
  | sequence (first second : Script)
  /-- Two commands at the same time, of which the second reads what the first writes. -/
  | piped (first second : Script)
  | background (body : Script)
  | both (first second : Script)
  | either (first second : Script)
  | negate (body : Script)
  | choose (condition yes no : Script)
  /-- Repeats the body as long as the condition has the given success. -/
  | loop (condition body : Script) (success : Bool)
  | each (name : String) (words : List Word) (body : Script)
  | grouped (body : Script) (redirections : List Redirection)
  /-- A command that runs in a process of its own. -/
  | forked (body : Script) (redirections : List Redirection)
  deriving Repr, Inhabited

/-! ## Scripts in words -/

/-- A list with its first element changed that can be. -/
def changeFirst {α : Type} (change? : α → Option α) : List α → Option (List α)
  | [] => none
  | a :: rest =>
    match change? a with
    | some a => some (a :: rest)
    | none => (changeFirst change? rest).map fun rest => a :: rest

namespace Word

/-- The first script in a word that has not been run. -/
def pending? (w : Word) : Option String :=
  w.findSome? fun
    | .script text _ => some text
    | _ => none

/-- A word with what its first script has written. -/
def fill? (text : String) (status : Nat) (w : Word) : Option Word :=
  changeFirst
    (fun
      | .script _ quoted => some (.written text status quoted)
      | _ => none) w

/-- How the last script in a word ended. -/
def status? (w : Word) : Option Nat :=
  w.reverse.findSome? fun
    | .written _ status _ => some status
    | _ => none

end Word

namespace Script

/-- The commands that run at the same time, each reading what the one before it writes. -/
def parts : Script → List Script
  | piped first second => first :: second.parts
  | script => [script]

/-- The words that are replaced when a command begins. -/
def words : Script → List Word
  | simple assignments words redirections =>
    words ++ redirections.map Redirection.target ++ assignments.map Prod.snd
  | each _ words _ => words
  | grouped _ redirections | forked _ redirections => redirections.map Redirection.target
  | _ => []

/-- The first script in the words of a command that has not been run. -/
def pending? (s : Script) : Option String :=
  s.words.findSome? Word.pending?

/-- A redirection with what the first script in its target has written. -/
def fillTarget? (text : String) (status : Nat) (r : Redirection) : Option Redirection :=
  (Word.fill? text status r.target).map fun target => { r with target }

/-- A command with what the first script in its words has written. -/
def fill? (text : String) (status : Nat) : Script → Option Script
  | simple assignments words redirections =>
    match changeFirst (Word.fill? text status) words,
      changeFirst (fillTarget? text status) redirections with
    | some words, _ => some (simple assignments words redirections)
    | none, some redirections => some (simple assignments words redirections)
    | none, none =>
      (changeFirst
        (fun (name, w) => (Word.fill? text status w).map fun w => (name, w))
        assignments).map fun assignments => simple assignments words redirections
  | each name words body =>
    (changeFirst (Word.fill? text status) words).map fun words => each name words body
  | grouped body redirections =>
    (changeFirst (fillTarget? text status) redirections).map (grouped body)
  | forked body redirections =>
    (changeFirst (fillTarget? text status) redirections).map (forked body)
  | _ => none

end Script

/-! ## Parameters -/

/-- The values of parameters. -/
structure Scope where
  /-- The name of the script. -/
  name : String
  /-- The arguments of the script. -/
  arguments : List String := []
  /-- The variables, the latest first. -/
  named : List (String × String) := []
  /-- How the last command ended. -/
  status : Nat := 0
  /-- The process of the shell. -/
  pid : Nat
  /-- The process that started it. -/
  parent : Nat
  /-- The last process in the background. -/
  lastJob : Option Nat := none
  deriving Repr

namespace Scope

/-- The value of a parameter, if it has one. -/
def value? (s : Scope) (parameter : String) : Option String :=
  match parameter with
  | "0" => some s.name
  | "#" => some (toString s.arguments.length)
  | "?" => some (toString s.status)
  | "$" => some (toString s.pid)
  | "!" => s.lastJob.map toString
  | "@" | "*" => if s.arguments.isEmpty then none else some (" ".intercalate s.arguments)
  | "PPID" => some (toString s.parent)
  | _ =>
    match parameter.toNat? with
    | some n => s.arguments[n - 1]?
    | none => (s.named.find? fun v => v.1 == parameter).map Prod.snd

/-- The value of a parameter; without one, an empty text. -/
def value (s : Scope) (parameter : String) : String :=
  (s.value? parameter).getD ""

/-- What is wanted of a parameter. -/
def answer (s : Scope) (parameter : String) : Wanted → String
  | .value => s.value parameter
  | .length => toString (s.value parameter).length
  | .valueOr full other => ((s.value? parameter).filter fun v => !full || !v.isEmpty).getD other
  | .insteadOf full other =>
    if ((s.value? parameter).filter fun v => !full || !v.isEmpty).isSome then other else ""

/-- The text that takes the place of a piece. -/
def textOf (s : Scope) : Piece → String
  | .text text => text
  | .parameter name wanted _ => s.answer name wanted
  | .number tokens _ => ((Arithmetic.evaluate? s.value tokens).map toString).getD ""
  | .script _ _ => ""
  | .written text _ _ => text

/-- The scope with a value for a variable. -/
def assign (s : Scope) (name value : String) : Scope :=
  { s with named := (name, value) :: s.named.filter fun v => v.1 != name }

/-- What expanding a word has made so far: the finished words, backwards, and the word that is
being made, if one has begun. -/
structure Fields where
  finished : List String := []
  current : Option String := none

namespace Fields

/-- Goes on with the current word. -/
def add (f : Fields) (text : String) : Fields :=
  { f with current := some (f.current.getD "" ++ text) }

/-- Ends the current word, if one has begun. -/
def cut (f : Fields) : Fields :=
  match f.current with
  | some word => { finished := word :: f.finished }
  | none => f

/-- Goes on with a text that is cut at blanks. -/
def addCut (f : Fields) (text : String) : Fields :=
  text.toList.foldl
    (fun f c => if c == ' ' || c == '\t' || c == '\n' then f.cut else f.add c.toString) f

/-- Goes on with words of which the first continues the current one. -/
def addWords (f : Fields) : List String → Fields
  | [] => f
  | [word] => f.add word
  | word :: rest => ((f.add word).cut).addWords rest

/-- The words. -/
def words (f : Fields) : List String :=
  f.cut.finished.reverse

end Fields

/-- A word with its parameters replaced; it may become any number of words. -/
def expandWord (s : Scope) (w : Word) : List String :=
  let fields := w.foldl (fun (f : Fields) piece =>
    match piece with
    | .text text => f.add text
    | .parameter "@" .value true => f.addWords s.arguments
    | .parameter _ _ quoted | .number _ quoted | .script _ quoted | .written _ _ quoted =>
      if quoted then f.add (s.textOf piece) else f.addCut (s.textOf piece)) {}
  fields.words

/-- A word with its parameters replaced, as one word. -/
def expandWhole (s : Scope) (w : Word) : String :=
  String.join (w.map s.textOf)

/-- The words of a command with their parameters replaced. -/
def expand (s : Scope) (words : List Word) : List String :=
  words.flatMap s.expandWord

end Scope

end Launcher.Shell
