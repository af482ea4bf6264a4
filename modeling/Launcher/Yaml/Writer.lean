import Launcher.Yaml.Scalar
/-!
# Writing documents

A text is written plain where it reads back as itself, on lines of its own where it holds line
feeds, and quoted otherwise. The entries of a mapping stand on lines of their own, those of an
inner mapping indented by two blanks.

## Main definitions

* `Launcher.Yaml.Value` — what a document is written from.
* `Launcher.Yaml.Value.render` — the document of a value.
-/

namespace Launcher.Yaml

/-- What a document is written from. -/
inductive Value where
  | text (value : String)
  | bool (value : Bool)
  /-- A variant that holds a whole number. -/
  | variant (name : String) (value : Int)
  | mapping (entries : List (String × Value))

/-! ## Styles -/

/-- A character that can be written as it is. -/
def isPrintable (c : Char) : Bool :=
  let n := c.toNat
  n == 0x0A || (0x20 ≤ n && n ≤ 0x7E) || (0xA0 ≤ n && n ≤ 0xFFFD && n != 0xFEFF) || 0x10000 ≤ n

/-- A blank, a line break, or the end of a text. -/
def isGap : Option Char → Bool
  | some c => isBlank c || isBreak c
  | none => true

/-- The beginning of a text would be taken for something else than a plain scalar. -/
def startsLikeMarkup (text : List Char) : Bool :=
  "---".toList.isPrefixOf text || "...".toList.isPrefixOf text ||
  match text with
  | c :: rest =>
    "#,[]\x7b\x7d&*!|>'\"%@\x60".toList.contains c || ("?:-".toList.contains c && isGap rest.head?)
  | [] => false

/-- Two neighbours in a text satisfy `p`. -/
def anyPair (p : Char → Char → Bool) : List Char → Bool
  | a :: b :: rest => p a b || anyPair p (b :: rest)
  | _ => false

/-- Something in a text would be taken for the end of a key or the start of a comment. -/
def holdsMarkup (text : List Char) : Bool :=
  anyPair (fun a b => (a == ':' && isGap (some b)) || (b == '#' && isGap (some a))) text ||
    text.getLast? == some ':'

/-- A character at an end of a plain scalar would be lost. -/
def isLostAtEnd : Option Char → Bool
  | some c => c == ' ' || isBreak c
  | none => false

/-- A blank stands next to a line break, in this order or the other. -/
def blankBeforeBreak (text : List Char) : Bool :=
  anyPair (fun a b => a == ' ' && isBreak b) text

@[inherit_doc blankBeforeBreak]
def blankAfterBreak (text : List Char) : Bool :=
  anyPair (fun a b => isBreak a && b == ' ') text

/-- A text can be written between single quotes. -/
def allowsSingleQuotes (text : List Char) : Bool :=
  text.all isPrintable && !blankBeforeBreak text && !blankAfterBreak text

/-- A text can be written plain. -/
def allowsPlain (text : List Char) : Bool :=
  allowsSingleQuotes text && !text.any isBreak && !startsLikeMarkup text && !holdsMarkup text &&
    !isLostAtEnd text.head? && !isLostAtEnd text.getLast?

/-- A text can be written on lines of its own. -/
def allowsLiteral (text : List Char) : Bool :=
  text.all isPrintable && !blankBeforeBreak text && text.getLast? != some ' '

/-- A plain scalar of this text would be read as something else. -/
def readsOtherwise (text : String) : Bool :=
  isPaddedDigits text.toList ||
  match ScalarValue.ofPlain text with
  | .text _ => false
  | _ => true

/-- How a text is written. -/
def styleOf (text : String) : ScalarStyle :=
  let chars := text.toList
  let quoted := if allowsSingleQuotes chars then .singleQuoted else .doubleQuoted
  if chars.contains '\n' then (if allowsLiteral chars then .literal else .doubleQuoted)
  else if readsOtherwise text || !allowsPlain chars then quoted
  else .plain

/-! ## Scalars -/

/-- Blanks in front of a line. -/
def margin (indent : Nat) : List Char :=
  List.replicate indent ' '

/-- A text with a margin in front of every line that is not empty. `fresh` says that a line begins
here. -/
def withMargin (indent : Nat) : (fresh : Bool) → List Char → List Char
  | _, [] => []
  | fresh, c :: rest =>
    if isBreak c then c :: withMargin indent true rest
    else (if fresh then margin indent else []) ++ c :: withMargin indent false rest

/-- What a literal scalar says of the line breaks at its end: there is none, or more than one. -/
def chompingMark (text : List Char) : String :=
  match text.reverse with
  | last :: before =>
    if !isBreak last then "-"
    else if before.head?.all isBreak then "+" else ""
  | [] => "-"

/-- A text on lines of its own, the last of them ended. -/
def literal (indent : Nat) (text : List Char) : String :=
  let leads := text.head?.any fun c => c == ' ' || isBreak c
  let lines := withMargin indent true text
  "|" ++ (if leads then "2" else "") ++ chompingMark text ++ "\n" ++ String.ofList lines ++
    (if (text.getLast?).any isBreak then "" else "\n")

/-- A text between single quotes. -/
def singleQuoted (indent : Nat) (text : List Char) : String :=
  let doubled := text.flatMap fun c => if c == '\'' then ['\'', '\''] else [c]
  let ended := if (text.getLast?).any isBreak then margin indent else []
  "'" ++ String.ofList (withMargin indent false doubled ++ ended) ++ "'"

/-- A number in base sixteen with capital letters, in so many places. -/
def hexPadded (places n : Nat) : String :=
  let digits := (Nat.toDigits 16 n).map Char.toUpper
  String.ofList (List.replicate (places - digits.length) '0' ++ digits)

/-- A character between double quotes. -/
def doubleQuotedChar (c : Char) : String :=
  if c == '"' || c == '\\' then String.ofList ['\\', c]
  else if isPrintable c && !isBreak c then c.toString
  else
    match c.toNat with
    | 0x00 => "\\0"
    | 0x07 => "\\a"
    | 0x08 => "\\b"
    | 0x09 => "\\t"
    | 0x0A => "\\n"
    | 0x0B => "\\v"
    | 0x0C => "\\f"
    | 0x0D => "\\r"
    | 0x1B => "\\e"
    | 0x85 => "\\N"
    | 0x2028 => "\\L"
    | 0x2029 => "\\P"
    | n =>
      if n ≤ 0xFF then "\\x" ++ hexPadded 2 n
      else if n ≤ 0xFFFF then "\\u" ++ hexPadded 4 n
      else "\\U" ++ hexPadded 8 n

/-- A text between double quotes. -/
def doubleQuoted (text : List Char) : String :=
  "\"" ++ String.join (text.map doubleQuotedChar) ++ "\""

/-- A text as a scalar, with the end of its last line. -/
def scalarText (indent : Nat) (text : String) : String :=
  match styleOf text with
  | .singleQuoted => singleQuoted indent text.toList ++ "\n"
  | .doubleQuoted => doubleQuoted text.toList ++ "\n"
  | .literal | .folded => literal indent text.toList
  | .plain => text ++ "\n"

/-! ## Values -/

namespace Value

/-- The text of a scalar value. Nothing is said of a mapping. -/
def scalarPart (indent : Nat) : Value → String
  | text value => scalarText indent value
  | bool value => (if value then "true" else "false") ++ "\n"
  | variant name value => "!" ++ name ++ " " ++ toString value ++ "\n"
  | mapping _ => ""

mutual

/-- The entries of a mapping, each on lines of its own. -/
def entryLines (indent : Nat) : List (String × Value) → String
  | [] => ""
  | (key, value) :: rest =>
    String.ofList (margin indent) ++ key ++ ":" ++ afterKey indent value ++ entryLines indent rest

/-- A value behind a key. -/
def afterKey (indent : Nat) : Value → String
  | mapping entries => "\n" ++ entryLines (indent + 2) entries
  | value => " " ++ scalarPart (indent + 2) value

end

/-- The document of a value. -/
def render : Value → String
  | mapping entries => entryLines 0 entries
  | value => scalarPart 2 value

end Value

end Launcher.Yaml
