/-!
# Places in a document

## Main definitions

* `Launcher.Yaml.Mark` — a place in a text: its index in bytes, its line, and its column in
  characters, all from zero.
* `Launcher.Yaml.Cursor` — the rest of a text and the place where it begins.
* `Launcher.Yaml.isBreak`, `isBlank`, `isWord` — the classes of characters that the notation is
  made of.
-/

namespace Launcher.Yaml

/-- How many bytes some characters take. -/
def utf8Size (cs : List Char) : Nat :=
  cs.foldl (fun n c => n + c.utf8Size) 0

/-- A place in a text. -/
structure Mark where
  /-- How many bytes stand before it. -/
  index : Nat := 0
  /-- How many lines end before it. -/
  line : Nat := 0
  /-- How many characters of its line stand before it. -/
  column : Nat := 0
  deriving Repr, DecidableEq, Inhabited

namespace Mark

/-- The place behind some characters of the same line. -/
def skip (m : Mark) (passed : List Char) : Mark :=
  { m with index := m.index + utf8Size passed, column := m.column + passed.length }

/-- The start of the next line, behind the characters of a line break. -/
def nextLine (m : Mark) (passed : List Char) : Mark :=
  { index := m.index + utf8Size passed, line := m.line + 1, column := 0 }

/-- The place is the very start of a text. -/
def isStart (m : Mark) : Bool :=
  m.line == 0 && m.column == 0

/-- The text shown for a place; lines and columns are counted from one there. -/
def text (m : Mark) : String :=
  "line " ++ toString (m.line + 1) ++ " column " ++ toString (m.column + 1)

end Mark

/-! ## Classes of characters -/

/-- A character that ends a line. -/
def isBreak (c : Char) : Bool :=
  c == '\n' || c == '\r' || c == '\u0085' || c == '\u2028' || c == '\u2029'

/-- A blank inside a line. -/
def isBlank (c : Char) : Bool :=
  c == ' ' || c == '\t'

/-- A letter, a digit, `_` or `-`: what names of anchors, handles and directives are made of. -/
def isWord (c : Char) : Bool :=
  c.isAlphanum || c == '_' || c == '-'

/-- A digit of base sixteen. -/
def isHexDigit (c : Char) : Bool :=
  c.isDigit || ('a' ≤ c && c ≤ 'f') || ('A' ≤ c && c ≤ 'F')

/-- The value of a digit of base sixteen. -/
def hexValue (c : Char) : Nat :=
  if c.isDigit then c.toNat - '0'.toNat
  else if 'a' ≤ c && c ≤ 'f' then c.toNat - 'a'.toNat + 10
  else c.toNat - 'A'.toNat + 10

/-- A character that may stand in a document. -/
def isAllowed (c : Char) : Bool :=
  let n := c.toNat
  n == 0x09 || n == 0x0A || n == 0x0D || (0x20 ≤ n && n ≤ 0x7E) || n == 0x85 ||
    (0xA0 ≤ n && n ≤ 0xFFFD) || 0x10000 ≤ n

/-- What a line break is read as: one line feed, unless it is a separator of its own. -/
def foldBreak (c : Char) : Char :=
  if c == '\u2028' || c == '\u2029' then c else '\n'

/-! ## Reading a text -/

/-- A text is taken in by parts of so many bytes. -/
def partSize : Nat := 16384

/-- As many characters as have room in some bytes, and the others. -/
def splitBytes : (room : Nat) → List Char → List Char × List Char
  | _, [] => ([], [])
  | room, c :: rest =>
    if c.utf8Size ≤ room then
      let (front, behind) := splitBytes (room - c.utf8Size) rest
      (c :: front, behind)
    else ([], c :: rest)

/-- The part of a text that can be taken in, and whether that is all of it. A part with a character
that may not stand in a document cannot be taken in, and ends the text. `parts` bounds the number of
parts. -/
def readable : (parts : Nat) → List Char → List Char × Bool
  | 0, _ => ([], true)
  | parts + 1, text =>
    if text.all isAllowed then (text, true)
    else
      let (front, behind) := splitBytes partSize text
      if front.all isAllowed then
        let (more, whole) := readable parts behind
        (front ++ more, whole)
      else ([], false)

/-- The rest of a text, and where in the text it begins. -/
structure Cursor where
  /-- What has not been read. -/
  rest : List Char
  /-- The place where it begins. -/
  mark : Mark := {}

namespace Cursor

/-- The character `n` places ahead, if the text goes so far. -/
def peek? (c : Cursor) (n : Nat := 0) : Option Char :=
  c.rest[n]?

/-- The character `n` places ahead is `x`. -/
def at? (c : Cursor) (x : Char) (n : Nat := 0) : Bool :=
  c.peek? n == some x

/-- The character `n` places ahead is one of those in a list. -/
def atAny (c : Cursor) (xs : List Char) (n : Nat := 0) : Bool :=
  match c.peek? n with
  | some x => xs.contains x
  | none => false

/-- The text ends `n` places ahead, or a blank or a line break stands there. -/
def atGap (c : Cursor) (n : Nat := 0) : Bool :=
  match c.peek? n with
  | some x => isBlank x || isBreak x
  | none => true

/-- The text or the line ends here. -/
def atLineEnd (c : Cursor) : Bool :=
  match c.peek? with
  | some x => isBreak x
  | none => true

/-- The cursor behind `n` characters of the same line. -/
def skip (c : Cursor) (n : Nat := 1) : Cursor :=
  ⟨c.rest.drop n, c.mark.skip (c.rest.take n)⟩

/-- The cursor behind a line break, if one stands here. -/
def skipBreak (c : Cursor) : Cursor :=
  match c.rest with
  | '\r' :: '\n' :: rest => ⟨rest, c.mark.nextLine ['\r', '\n']⟩
  | x :: rest => if isBreak x then ⟨rest, c.mark.nextLine [x]⟩ else c
  | [] => c

/-- What the line break that stands here is read as; nothing, if none stands here. -/
def breakText (c : Cursor) : List Char :=
  match c.rest with
  | x :: _ => if isBreak x then [foldBreak x] else []
  | [] => []

/-- The characters from here on that satisfy `p`, and the cursor behind them. None of them may
end a line. -/
def span (c : Cursor) (p : Char → Bool) : List Char × Cursor :=
  let taken := c.rest.takeWhile p
  (taken, c.skip taken.length)

/-- The cursor behind the characters that satisfy `p`. -/
def skipWhile (c : Cursor) (p : Char → Bool) : Cursor :=
  (c.span p).2

/-- The cursor behind the rest of the line, if a comment begins here. -/
def skipComment (c : Cursor) : Cursor :=
  if c.at? '#' then c.skipWhile fun x => !isBreak x else c

/-- Three characters `x` and a gap stand at the start of a line: the mark of a document. -/
def atDocumentMark (c : Cursor) (x : Char) : Bool :=
  c.mark.column == 0 && c.at? x && c.at? x 1 && c.at? x 2 && c.atGap 3

end Cursor

end Launcher.Yaml
