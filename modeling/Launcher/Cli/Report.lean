import Launcher.Failure
/-!
# The report of a failure

A failure is reported by its own text and those of its causes, each the cause of the one before.
A single cause is set off by four blanks; several are numbered.

## Main definitions

* `Launcher.Cli.Trouble` — a failure and its causes, by their texts.
* `Launcher.Cli.Trouble.report` — the text of the report.
-/

namespace Launcher.Cli

/-- A failure and its causes, by their texts. -/
structure Trouble where
  /-- What has failed. -/
  text : String
  /-- Why; each text is the cause of the one before. -/
  causes : List String := []
  deriving Repr, DecidableEq

namespace Trouble

/-- The failure of a process. -/
def ofFault (f : Fault) : Trouble :=
  ⟨f.message, []⟩

/-- The causes of a failure. -/
def causesOf : Failure → List String
  | .invalid _ => []
  | .io fault => [fault.message]
  | .document fault => [fault.message]
  | .during _ cause => cause.message :: causesOf cause

/-- A failure with its causes. -/
def ofFailure (f : Failure) : Trouble :=
  ⟨f.message, causesOf f⟩

/-- A text whose first line is behind a mark, and whose other lines are behind blanks of the same
width. -/
def behind (mark text : String) : String :=
  ("\n" ++ String.ofList (List.replicate mark.length ' ')).intercalate (text.splitOn "\n")
    |> fun lines => mark ++ lines

/-- The mark in front of a numbered cause. -/
def numberMark (n : Nat) : String :=
  let digits := toString n
  String.ofList (List.replicate (5 - digits.length) ' ') ++ digits ++ ": "

/-- The causes, each on lines of its own. -/
def causeLines (causes : List String) : List String :=
  match causes with
  | [cause] => [behind "    " cause]
  | causes => causes.zipIdx.map fun (cause, n) => behind (numberMark n) cause

/-- The text of the report. -/
def report (t : Trouble) : String :=
  if t.causes.isEmpty then "Error: " ++ t.text
  else "\n".intercalate (["Error: " ++ t.text, "", "Caused by:"] ++ causeLines t.causes)

end Trouble

end Launcher.Cli
