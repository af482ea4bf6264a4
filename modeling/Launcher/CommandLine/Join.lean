import Launcher.CommandLine.Split
/-!
# Writing a command line

The inverse of `Launcher.CommandLine.split`: one line that splits into given words. An argument
that holds a blank or a quote, and the empty argument, are put between quotes; there a quote gets
a backslash, and backslashes are doubled where they stand before a quote. The program name knows
no escape, so one with a quote in it cannot be written.

## Main definitions

* `Launcher.CommandLine.quote` — one argument as it stands in a line.
* `Launcher.CommandLine.join` — a whole line, or the reason why the words have none.
-/

namespace Launcher.CommandLine

/-- An argument that is read back as itself only between quotes. -/
def needsQuotes (word : List Char) : Bool :=
  word.isEmpty || word.any fun c => isBlank c || c == '"'

/-- The inside of a quoted argument and its closing quote. `held` counts the backslashes read
and not yet written: they are doubled before a quote, the closing one included. -/
def escape (held : Nat) : List Char → List Char
  | [] => backslashes (held * 2) ++ ['"']
  | '\\' :: rest => escape (held + 1) rest
  | '"' :: rest => backslashes (held * 2 + 1) ++ '"' :: escape 0 rest
  | c :: rest => backslashes held ++ c :: escape 0 rest

/-- An argument as it stands in a line of characters. -/
def quoteWord (word : List Char) : List Char :=
  if needsQuotes word then '"' :: escape 0 word else word

/-- An argument as it stands in a command line. -/
def quote (argument : String) : String :=
  String.ofList (quoteWord argument.toList)

/-- Why a list of words is not the words of any command line. -/
inductive JoinFault where
  /-- There is no word, so no program. -/
  | noCommand
  /-- A quote in a program name only delimits, so no line yields this name. -/
  | quoteInProgram (program : String)
  deriving Repr, DecidableEq

namespace JoinFault

/-- The text shown for a fault. -/
def message : JoinFault → String
  | noCommand => "No command given (use --config or pass a command)"
  | quoteInProgram program => "Program name cannot contain '\"': " ++ program

end JoinFault

/-- A program name as it stands at the front of a line: between quotes when it is empty or
holds a blank. -/
def quoteProgram (program : List Char) : List Char :=
  if program.isEmpty || program.any isBlank then '"' :: (program ++ ['"']) else program

/-- The line of a program name and its arguments: one space before each argument. -/
def line (program : List Char) (arguments : List (List Char)) : List Char :=
  quoteProgram program ++ arguments.flatMap fun word => ' ' :: quoteWord word

/-- The command line of a list of words, the program name first. -/
def join : List String → Except JoinFault String
  | [] => .error .noCommand
  | program :: arguments =>
    if program.toList.contains '"' then .error (.quoteInProgram program)
    else .ok (String.ofList (line program.toList (arguments.map String.toList)))

end Launcher.CommandLine
