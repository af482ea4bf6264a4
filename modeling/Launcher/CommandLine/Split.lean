/-!
# Command lines and the words in them

A command line is one string that holds a program name and its arguments. The two are read by
different rules. In the program name a double quote only delimits: it is dropped, and a blank
between quotes does not end the name. In an argument a run of backslashes before a double quote
is halved, and an odd run makes that quote a character of the argument; inside a quoted run two
quotes in a row stand for one.

## Main definitions

* `Launcher.CommandLine.isBlank` — the two characters that separate words.
* `Launcher.CommandLine.takeProgram` — the program name and the text behind it.
* `Launcher.CommandLine.takeArgument` — one argument and the text behind it.
* `Launcher.CommandLine.arguments` — all arguments of a text.
* `Launcher.CommandLine.split` — the words of a command line, the program name first.

## Main results

* `Launcher.CommandLine.length_takeArgument_le`, `Launcher.CommandLine.length_takeArgument_lt` —
  reading an argument never lengthens the text, and shortens one that starts with no blank.
-/

namespace Launcher.CommandLine

/-- The characters that separate words: the space and the tab, and no other white space. -/
def isBlank (c : Char) : Bool :=
  c == ' ' || c == '\t'

/-- `k` backslashes. -/
def backslashes (k : Nat) : List Char :=
  List.replicate k '\\'

/-! ## The program name -/

/-- The program name at the front of a text, and the text behind it. `quoted` says whether an
odd number of quotes has been passed. The blank that ends the name is consumed. -/
def takeProgram (quoted : Bool) : List Char → List Char × List Char
  | [] => ([], [])
  | c :: rest =>
    if c = '"' then takeProgram (!quoted) rest
    else if isBlank c && !quoted then ([], rest)
    else (c :: (takeProgram quoted rest).1, (takeProgram quoted rest).2)

/-! ## Arguments -/

/-- The argument at the front of a text, and the text behind it. `quoted` says whether a quoted
run is open, and `held` counts the backslashes read and not yet written. A blank outside a quoted
run ends the argument and is left in the text. -/
def takeArgument (quoted : Bool) (held : Nat) : List Char → List Char × List Char
  | [] => (backslashes held, [])
  | '\\' :: rest => takeArgument quoted (held + 1) rest
  | '"' :: rest =>
    if held % 2 = 1 then
      let (word, after) := takeArgument quoted 0 rest
      (backslashes (held / 2) ++ '"' :: word, after)
    else
      match quoted, rest with
      | true, '"' :: rest =>
        let (word, after) := takeArgument true 0 rest
        (backslashes (held / 2) ++ '"' :: word, after)
      | _, rest =>
        let (word, after) := takeArgument (!quoted) 0 rest
        (backslashes (held / 2) ++ word, after)
  | c :: rest =>
    if isBlank c && !quoted then (backslashes held, c :: rest)
    else
      let (word, after) := takeArgument quoted 0 rest
      (backslashes held ++ c :: word, after)

/-- Reading an argument leaves no more text than there was.

**Proof sketch.** Induction along the definition: every branch either stops or reads on in a
shorter text. -/
theorem length_takeArgument_le (quoted : Bool) (held : Nat) (cs : List Char) :
    (takeArgument quoted held cs).2.length ≤ cs.length := by
  fun_induction takeArgument quoted held cs <;> simp_all <;> omega

/-- Reading an argument in a text that starts with no blank consumes a character. -/
theorem length_takeArgument_lt {c : Char} (rest : List Char) (h : isBlank c = false) :
    (takeArgument false 0 (c :: rest)).2.length < (c :: rest).length := by
  unfold takeArgument
  split
  · simp_all
  · rename_i r heq
    cases heq
    have := length_takeArgument_le false 1 rest
    simp only [Nat.zero_add, List.length_cons]
    omega
  · rename_i r heq
    cases heq
    have := length_takeArgument_le true 0 rest
    simp
    omega
  · rename_i heq
    cases heq
    have := length_takeArgument_le false 0 rest
    simp [h]
    omega

/-- The text without the blanks at its front. -/
def skipBlanks (cs : List Char) : List Char :=
  cs.dropWhile isBlank

/-- Skipping blanks makes a text no longer. -/
theorem length_skipBlanks_le (cs : List Char) : (skipBlanks cs).length ≤ cs.length :=
  (List.dropWhile_suffix _).length_le

/-- What is left when blanks are skipped does not begin with one. -/
theorem isBlank_of_skipBlanks_eq_cons {cs rest : List Char} {c : Char}
    (h : skipBlanks cs = c :: rest) : isBlank c = false := by
  induction cs with
  | nil => simp [skipBlanks] at h
  | cons d cs ih =>
    by_cases hd : isBlank d
    · exact ih (by simpa [skipBlanks, hd] using h)
    · simp [skipBlanks, hd] at h
      simpa [← h.1] using hd

/-- The arguments of a text, in order: blanks are skipped, then an argument is read, until the
text is empty. -/
def arguments (cs : List Char) : List (List Char) :=
  match h : skipBlanks cs with
  | [] => []
  | c :: rest =>
    have : (takeArgument false 0 (c :: rest)).2.length < cs.length := by
      have h₁ := length_skipBlanks_le cs
      have h₂ := length_takeArgument_lt rest (isBlank_of_skipBlanks_eq_cons h)
      rw [h] at h₁
      omega
    (takeArgument false 0 (c :: rest)).1 :: arguments (takeArgument false 0 (c :: rest)).2
termination_by cs.length

/-! ## The whole line -/

/-- The words of a line of characters. There is none when the program name is empty and the
line ends with it. -/
def words (line : List Char) : List (List Char) :=
  let (program, rest) := takeProgram false (skipBlanks line)
  if program.isEmpty && rest.isEmpty then [] else program :: arguments rest

/-- The words of a command line: the program name, then the arguments. -/
def split (line : String) : List String :=
  (words line.toList).map String.ofList

end Launcher.CommandLine
