import Launcher.Shell.Script
/-!
# Reading shell scripts

## Main definitions

* `Launcher.Shell.Lexeme` — a word, a redirection or an operator of a script.
* `Launcher.Shell.lexemes` — those of a text.
* `Launcher.Shell.Script.ofText?` — the script of a text.
-/

namespace Launcher.Shell

/-- A word, a redirection or an operator of a script. -/
inductive Lexeme where
  /-- A word. `bare` says that nothing in it is quoted. -/
  | word (word : Word) (bare : Bool)
  /-- The operator of a redirection, with the descriptor that it is for. -/
  | redirect (descriptor : Nat) (direction : Direction)
  | operator (text : String)
  deriving Repr, DecidableEq

/-! ## Words -/

/-- A character that ends a word outside of quotes. -/
def endsWord (c : Char) : Bool :=
  " \t\n;&|<>()".toList.contains c

/-- A parameter has one of these signs, or a digit, as its name. -/
def isSpecialName (c : Char) : Bool :=
  "@*#?$!".toList.contains c || c.isDigit

/-- What is wanted of a parameter in braces, as it is written behind the name. -/
def wanted? : List Char → Option Wanted
  | [] => some .value
  | ':' :: '-' :: other | ':' :: '=' :: other => some (.valueOr true (String.ofList other))
  | '-' :: other | '=' :: other => some (.valueOr false (String.ofList other))
  | ':' :: '+' :: other => some (.insteadOf true (String.ofList other))
  | '+' :: other => some (.insteadOf false (String.ofList other))
  | _ => none

/-- A parameter as it is written between braces. -/
def braced? (quoted : Bool) (text : List Char) : Option Piece :=
  match text with
  | [] => none
  | '#' :: c :: rest => some (.parameter (String.ofList (c :: rest)) .length quoted)
  | c :: rest =>
    let name := if isNameChar c then (c :: rest).takeWhile isNameChar else [c]
    if isNameChar c || isSpecialName c then
      (wanted? ((c :: rest).drop name.length)).map fun wanted =>
        .parameter (String.ofList name) wanted quoted
    else none

/-- The text up to a parenthesis that closes so many, backwards and behind another text, and the text
behind that parenthesis. -/
def enclosed : (steps depth : Nat) → List Char → (taken : List Char) →
    Option (List Char × List Char)
  | 0, _, _, _ => none
  | _, _, [], _ => none
  | steps + 1, depth, '\\' :: c :: rest, taken => enclosed steps depth rest (c :: '\\' :: taken)
  | steps + 1, depth, '(' :: rest, taken => enclosed steps (depth + 1) rest ('(' :: taken)
  | _ + 1, 0, ')' :: rest, taken => some (taken.reverse, rest)
  | steps + 1, depth + 1, ')' :: rest, taken => enclosed steps depth rest (')' :: taken)
  | steps + 1, depth, c :: rest, taken =>
    if c == '\'' || c == '"' then
      let inside := rest.takeWhile (· != c)
      match rest.drop inside.length with
      | _ :: rest => enclosed steps depth rest (c :: inside.reverse ++ c :: taken)
      | [] => none
    else enclosed steps depth rest (c :: taken)

/-- The mark around a script in a word, in its old form. -/
def oldMark : Char :=
  '\x60'

/-- The script up to a mark, backwards, and the text behind the mark. -/
def marked : List Char → (taken : List Char) → Option (List Char × List Char)
  | [], _ => none
  | '\\' :: c :: rest, taken =>
    if c == oldMark || c == '$' || c == '\\' then marked rest (c :: taken)
    else marked rest (c :: '\\' :: taken)
  | c :: rest, taken =>
    if c == oldMark then some (taken.reverse, rest) else marked rest (c :: taken)

/-- A piece behind a dollar sign, and the text behind it. -/
def dollar? (quoted : Bool) (text : List Char) : Option (Piece × List Char) :=
  match text with
  | '\x7b' :: rest =>
    match rest.span (· != '\x7d') with
    | (inside, _ :: rest) => (braced? quoted inside).map fun piece => (piece, rest)
    | _ => none
  | '(' :: '(' :: rest => do
    let (inside, rest) ← enclosed (rest.length + 1) 0 rest []
    match rest with
    | ')' :: rest => (Arithmetic.tokens? inside).map fun tokens => (.number tokens quoted, rest)
    | _ => none
  | '(' :: rest => do
    let (inside, rest) ← enclosed (rest.length + 1) 0 rest []
    some (.script (String.ofList inside) quoted, rest)
  | c :: rest =>
    if isSpecialName c then some (.parameter c.toString .value quoted, rest)
    else
      let name := (c :: rest).takeWhile isNameChar
      if name.isEmpty then none
      else some (.parameter (String.ofList name) .value quoted, (c :: rest).drop name.length)
  | [] => none

/-- A dollar sign that begins no piece stands for itself. -/
def beginsPiece (text : List Char) : Bool :=
  match text with
  | c :: _ => c == '\x7b' || c == '(' || isSpecialName c || isNameChar c
  | [] => false

/-- A piece of a word, behind the pieces before it. Texts are joined. -/
def addText (w : Word) (text : String) : Word :=
  match w with
  | .text before :: rest => .text (before ++ text) :: rest
  | w => .text text :: w

/-- The pieces between double quotes, in front of others, backwards, and the text behind the closing
quote. -/
def quotedPieces : (steps : Nat) → List Char → Word → Option (Word × List Char)
  | 0, _, _ => none
  | _, [], _ => none
  | _, '"' :: rest, w => some (w, rest)
  | steps + 1, '\\' :: c :: rest, w =>
    if "$\x60\"\\".toList.contains c then quotedPieces steps rest (addText w c.toString)
    else if c == '\n' then quotedPieces steps rest w
    else quotedPieces steps rest (addText w (String.ofList ['\\', c]))
  | steps + 1, c :: rest, w => do
    if c == '$' && beginsPiece rest then
      let (piece, rest) ← dollar? true rest
      quotedPieces steps rest (piece :: w)
    else if c == oldMark then
      let (script, rest) ← marked rest []
      quotedPieces steps rest (.script (String.ofList script) true :: w)
    else quotedPieces steps rest (addText w c.toString)

/-- The pieces of a word, backwards, whether nothing was quoted, and the text behind the word. -/
def wordPieces : (steps : Nat) → List Char → Word → (bare : Bool) → Option (Word × Bool × List Char)
  | 0, _, _, _ => none
  | _, [], w, bare => some (w, bare, [])
  | steps + 1, c :: rest, w, bare =>
    if endsWord c then some (w, bare, c :: rest)
    else if c == '\'' then
      match rest.span (· != '\'') with
      | (text, _ :: rest) => wordPieces steps rest (addText w (String.ofList text)) false
      | _ => none
    else if c == '"' then do
      let (w, rest) ← quotedPieces (rest.length + 1) rest (addText w "")
      wordPieces steps rest w false
    else if c == '\\' then
      match rest with
      | '\n' :: rest => wordPieces steps rest w bare
      | c :: rest => wordPieces steps rest (addText w c.toString) false
      | [] => some (addText w "\\", false, [])
    else if c == '$' && beginsPiece rest then do
      let (piece, rest) ← dollar? false rest
      wordPieces steps rest (piece :: w) false
    else if c == oldMark then do
      let (script, rest) ← marked rest []
      wordPieces steps rest (.script (String.ofList script) false :: w) false
    else wordPieces steps rest (addText w c.toString) bare

/-! ## Lexemes -/

/-- A redirection behind its descriptor. -/
def direction? : List Char → Option (Nat × Direction × List Char)
  | '>' :: '>' :: rest => some (1, .append, rest)
  | '>' :: '&' :: rest => some (1, .same, rest)
  | '>' :: '|' :: rest => some (1, .output, rest)
  | '>' :: rest => some (1, .output, rest)
  | '<' :: '&' :: rest => some (0, .same, rest)
  | '<' :: '<' :: _ => none
  | '<' :: rest => some (0, .input, rest)
  | _ => none

/-- An operator, and the text behind it. -/
def operator? : List Char → Option (String × List Char)
  | '&' :: '&' :: rest => some ("&&", rest)
  | '|' :: '|' :: rest => some ("||", rest)
  | c :: rest => if ";&|()\n".toList.contains c then some (c.toString, rest) else none
  | [] => none

/-- The lexemes of a text. -/
def lexemesFrom : (steps : Nat) → List Char → Option (List Lexeme)
  | 0, _ => none
  | _, [] => some []
  | steps + 1, c :: rest =>
    if c == ' ' || c == '\t' then lexemesFrom steps rest
    else if c == '#' then lexemesFrom steps (rest.dropWhile (· != '\n'))
    else
      let (digits, behind) := (c :: rest).span Char.isDigit
      match if digits.length ≤ 1 then direction? behind else none with
      | some (usual, direction, rest) => do
        let descriptor := match digits with
          | [d] => d.toNat - '0'.toNat
          | _ => usual
        let others ← lexemesFrom steps rest
        some (.redirect descriptor direction :: others)
      | none =>
        match operator? (c :: rest) with
        | some (text, rest) => do
          let others ← lexemesFrom steps rest
          some (.operator text :: others)
        | none => do
          let (pieces, bare, rest) ← wordPieces (rest.length + 2) (c :: rest) [] true
          let others ← lexemesFrom steps rest
          some (.word pieces.reverse bare :: others)

/-- The lexemes of a text. -/
def lexemes? (text : String) : Option (List Lexeme) :=
  lexemesFrom (text.length + 1) text.toList

/-! ## Commands -/

/-- The lexeme is the reserved word of a text. -/
def isReserved (text : String) : Lexeme → Bool
  | .word [.text t] true => t == text
  | _ => false

/-- The words that end the body of a compound command. -/
def closers : List String :=
  ["then", "else", "elif", "fi", "do", "done", "\x7d"]

/-- The lexeme ends the body of a compound command. -/
def isCloser (l : Lexeme) : Bool :=
  l == .operator ")" || closers.any fun text => isReserved text l

/-- The lexemes behind line breaks. -/
def skipBreaks (ls : List Lexeme) : List Lexeme :=
  ls.dropWhile (· == .operator "\n")

/-- The lexemes behind the end of a list of words: a semicolon, line breaks, or both. -/
def skipEnd : List Lexeme → List Lexeme
  | .operator ";" :: rest => skipBreaks rest
  | ls => skipBreaks ls

/-- The redirections in front, and the lexemes behind them. -/
def redirections : List Lexeme → List Redirection × List Lexeme
  | .redirect descriptor direction :: .word target _ :: rest =>
    let (more, rest) := redirections rest
    (⟨descriptor, direction, target⟩ :: more, rest)
  | ls => ([], ls)

/-- The words in front, and the lexemes behind them. -/
def wordsIn : List Lexeme → List Word × List Lexeme
  | .word w _ :: rest =>
    let (more, rest) := wordsIn rest
    (w :: more, rest)
  | ls => ([], ls)

/-- The name and the value of an assignment. -/
def assignment? : Word → Option (String × Word)
  | .text text :: rest =>
    match text.toList.span isNameChar with
    | (c :: name, '=' :: value) =>
      if c.isDigit then none
      else
        let front := if value.isEmpty then [] else [.text (String.ofList value)]
        some (String.ofList (c :: name), front ++ rest)
    | _ => none
  | _ => none

/-- A simple command, and the lexemes behind it. -/
def simpleCommand : List Lexeme → (assignments : List (String × Word)) → (words : List Word) →
    (redirects : List Redirection) → Option (Script × List Lexeme)
  | .word w _ :: rest, assignments, words, redirects =>
    match if words.isEmpty then assignment? w else none with
    | some assigned => simpleCommand rest (assigned :: assignments) words redirects
    | none => simpleCommand rest assignments (w :: words) redirects
  | .redirect descriptor direction :: .word target _ :: rest, assignments, words, redirects =>
    simpleCommand rest assignments words (⟨descriptor, direction, target⟩ :: redirects)
  | .redirect _ _ :: _, _, _, _ => none
  | ls, assignments, words, redirects =>
    if assignments.isEmpty && words.isEmpty && redirects.isEmpty then none
    else some (.simple assignments.reverse words.reverse redirects.reverse, ls)

/-- The lexemes behind a reserved word. -/
def expect (text : String) : List Lexeme → Option (List Lexeme)
  | l :: rest => if isReserved text l then some rest else none
  | [] => none

mutual

/-- A command, and the lexemes behind it. -/
def command : (steps : Nat) → List Lexeme → Option (Script × List Lexeme)
  | 0, _ => none
  | _, [] => none
  | steps + 1, l :: rest =>
    if isReserved "if" l then conditional steps rest
    else if isReserved "while" l then repetition steps rest true
    else if isReserved "until" l then repetition steps rest false
    else if isReserved "for" l then iteration steps rest
    else if isReserved "\x7b" l then do
      let (body, rest) ← commands steps rest
      let rest ← expect "\x7d" rest
      let (redirects, rest) := redirections rest
      some (.grouped body redirects, rest)
    else if l == .operator "(" then do
      let (body, rest) ← commands steps rest
      match rest with
      | .operator ")" :: rest =>
        let (redirects, rest) := redirections rest
        some (.forked body redirects, rest)
      | _ => none
    else if isCloser l then none
    else simpleCommand (l :: rest) [] [] []

/-- A choice behind its first word, up to its last. -/
def conditional : (steps : Nat) → List Lexeme → Option (Script × List Lexeme)
  | 0, _ => none
  | steps + 1, ls => do
    let (condition, rest) ← commands steps ls
    let rest ← expect "then" rest
    let (yes, rest) ← commands steps rest
    match rest with
    | [] => none
    | l :: rest =>
      if isReserved "elif" l then
        let (no, rest) ← conditional steps rest
        some (.choose condition yes no, rest)
      else if isReserved "else" l then
        let (no, rest) ← commands steps rest
        let rest ← expect "fi" rest
        let (redirects, rest) := redirections rest
        some (.grouped (.choose condition yes no) redirects, rest)
      else if isReserved "fi" l then
        let (redirects, rest) := redirections rest
        some (.grouped (.choose condition yes .skip) redirects, rest)
      else none

/-- A loop behind its first word. -/
def repetition : (steps : Nat) → List Lexeme → (success : Bool) → Option (Script × List Lexeme)
  | 0, _, _ => none
  | steps + 1, ls, success => do
    let (condition, rest) ← commands steps ls
    let rest ← expect "do" rest
    let (body, rest) ← commands steps rest
    let rest ← expect "done" rest
    let (redirects, rest) := redirections rest
    some (.grouped (.loop condition body success) redirects, rest)

/-- A loop over words behind its first word. -/
def iteration : (steps : Nat) → List Lexeme → Option (Script × List Lexeme)
  | 0, _ => none
  | _, [] => none
  | steps + 1, l :: rest => do
    let .word [.text name] true := l | none
    let (words, rest) :=
      match rest with
      | l :: rest' => if isReserved "in" l then wordsIn rest' else ([[.parameter "@" .value true]], rest)
      | [] => ([], [])
    let rest ← expect "do" (skipEnd rest)
    let (body, rest) ← commands steps rest
    let rest ← expect "done" rest
    let (redirects, rest) := redirections rest
    some (.grouped (.each name words body) redirects, rest)

/-- Commands that are joined by `|`. -/
def pipeline : (steps : Nat) → List Lexeme → Option (Script × List Lexeme)
  | 0, _ => none
  | steps + 1, ls => do
    let (first, rest) ← command steps ls
    match rest with
    | .operator "|" :: rest =>
      let (others, rest) ← pipeline steps (skipBreaks rest)
      some (.piped first others, rest)
    | rest => some (first, rest)

/-- Commands that are joined by `|`, with or without a negation in front. -/
def negatable : (steps : Nat) → List Lexeme → Option (Script × List Lexeme)
  | 0, _ => none
  | _, [] => none
  | steps + 1, l :: rest =>
    if isReserved "!" l then do
      let (body, rest) ← pipeline steps rest
      some (.negate body, rest)
    else pipeline steps (l :: rest)

/-- Commands that are joined by `&&` and `||`, behind the first of them. -/
def joined : (steps : Nat) → Script → List Lexeme → Option (Script × List Lexeme)
  | 0, _, _ => none
  | steps + 1, first, .operator "&&" :: rest => do
    let (second, rest) ← negatable steps (skipBreaks rest)
    joined steps (.both first second) rest
  | steps + 1, first, .operator "||" :: rest => do
    let (second, rest) ← negatable steps (skipBreaks rest)
    joined steps (.either first second) rest
  | _, first, ls => some (first, ls)

/-- Commands one after the other, up to the end of the body that they are in. -/
def commands : (steps : Nat) → List Lexeme → Option (Script × List Lexeme)
  | 0, _ => none
  | steps + 1, ls =>
    match skipBreaks ls with
    | [] => some (.skip, [])
    | l :: rest =>
      if isCloser l then some (.skip, l :: rest)
      else do
        let (first, rest) ← negatable steps (l :: rest)
        let (first, rest) ← joined steps first rest
        match rest with
        | .operator "&" :: rest =>
          let (more, rest) ← commands steps rest
          some (.sequence (.background first) more, rest)
        | .operator ";" :: rest | .operator "\n" :: rest =>
          let (more, rest) ← commands steps rest
          some (.sequence first more, rest)
        | rest => some (first, rest)

end

/-- The script of a text; nothing, for a text that is none. -/
def Script.ofText? (text : String) : Option Script := do
  let ls ← lexemes? text
  let (script, rest) ← commands (6 * ls.length + 8) ls
  if rest.isEmpty then some script else none

end Launcher.Shell
