import Launcher.Yaml.Cursor
import Launcher.Yaml.Tag
/-!
# The tokens of a document

## Main definitions

* `Launcher.Yaml.Token` — a token: what it is, and where it begins and ends.
* `Launcher.Yaml.Token.directive`, `anchor`, `tag` — the tokens whose text has a form of its own.
* `Launcher.Yaml.Token.quoted`, `plain`, `block` — the three ways to write a scalar.

Each reader answers with the token and the cursor behind it, or with nothing when the text is
malformed.
-/

namespace Launcher.Yaml

/-- How a scalar is written. -/
inductive ScalarStyle where
  | plain
  | singleQuoted
  | doubleQuoted
  | literal
  | folded
  deriving Repr, DecidableEq

/-- What a token is. -/
inductive TokenKind where
  | streamEnd
  /-- The version of the notation that a document is written in. -/
  | version (major minor : Nat)
  /-- A short form for the beginning of tags. -/
  | shorthand (handle : String) (expansion : Tag)
  | documentStart
  | documentEnd
  | blockSequenceStart
  | blockMappingStart
  | blockEnd
  | flowSequenceStart
  | flowSequenceEnd
  | flowMappingStart
  | flowMappingEnd
  | blockEntry
  | flowEntry
  | key
  | value
  | reference (name : String)
  | anchor (name : String)
  | tag (handle : String) (suffix : Tag)
  | scalar (text : String) (style : ScalarStyle)
  deriving Repr, DecidableEq

/-- A token, where it begins, and where it ends. -/
structure Token where
  kind : TokenKind
  start : Mark
  stop : Mark
  deriving Repr, DecidableEq

namespace Token

/-- The token of a text between two cursors. -/
private def spanning (kind : TokenKind) (start stop : Cursor) : Token × Cursor :=
  (⟨kind, start.mark, stop.mark⟩, stop)

/-! ## Tags and directives -/

/-- A handle: `!`, a name between two `!`, or `!!`. The answer may lack the second `!`, unless a
directive needs it. -/
def handle? (inDirective : Bool) (c : Cursor) : Option (String × Cursor) :=
  if c.at? '!' then
    let (name, behind) := (c.skip).span isWord
    if behind.at? '!' then some (String.ofList ('!' :: name ++ ['!']), behind.skip)
    else if inDirective && !name.isEmpty then none
    else some (String.ofList ('!' :: name), behind)
  else none

/-- How many bytes a character has whose first byte is `b`; nothing, if no character begins so. -/
def escapedWidth? (b : UInt8) : Option Nat :=
  if b < 0x80 then some 1
  else if b / 0x20 = 6 then some 2
  else if b / 0x10 = 14 then some 3
  else if b / 0x08 = 30 then some 4
  else none

/-- The byte that a percent sign and two digits stand for. -/
def escapedByte? (c : Cursor) : Option (UInt8 × Cursor) :=
  match c.rest with
  | '%' :: x :: y :: _ =>
    if isHexDigit x && isHexDigit y then
      some (UInt8.ofNat (16 * hexValue x + hexValue y), c.skip 3)
    else none
  | _ => none

/-- The later bytes of an escaped character. They need not fit the first one. -/
def escapedTail? : (count : Nat) → Cursor → Option (List UInt8 × Cursor)
  | 0, c => some ([], c)
  | count + 1, c => do
    let (b, c) ← escapedByte? c
    if b / 0x40 ≠ 2 then none
    let (bytes, c) ← escapedTail? count c
    some (b :: bytes, c)

/-- The bytes of the character that stands escaped here. -/
def escapedBytes? (c : Cursor) : Option (List UInt8 × Cursor) := do
  let (lead, c) ← escapedByte? c
  let width ← escapedWidth? lead
  let (bytes, c) ← escapedTail? (width - 1) c
  some (lead :: bytes, c)

/-- A character that may stand in a tag; `verbatim` admits those that delimit collections. -/
def isTagChar (verbatim : Bool) (x : Char) : Bool :=
  isWord x || ";/?:@&=+$.%!~*'()".toList.contains x || (verbatim && ",[]".toList.contains x)

/-- The bytes of a tag from here on. `steps` bounds the number of its characters. -/
def tagBytes (verbatim : Bool) : (steps : Nat) → Cursor → Option (List UInt8 × Cursor)
  | 0, c => some ([], c)
  | steps + 1, c =>
    match c.peek? with
    | none => some ([], c)
    | some x =>
      if !isTagChar verbatim x then some ([], c)
      else do
        let (front, behind) ←
          if x == '%' then escapedBytes? c else some ([UInt8.ofNat x.toNat], c.skip)
        let (bytes, c) ← tagBytes verbatim steps behind
        some (front ++ bytes, c)

/-- All of a tag from here on, which may be nothing. -/
def tagRest? (verbatim : Bool) (c : Cursor) : Option (Tag × Cursor) :=
  (tagBytes verbatim c.rest.length c).map fun (bytes, c) => (.cut bytes, c)

/-- All of a tag from here on. At least one character must stand here. -/
def tagText? (verbatim : Bool) (c : Cursor) : Option (Tag × Cursor) :=
  if (c.peek?).any (isTagChar verbatim) then tagRest? verbatim c else none

/-- The handle and the suffix of a tag that is not verbatim. A tag `!suffix` has the handle `!`,
and a tag of one `!` has no handle. -/
def shortTag? (c : Cursor) : Option (String × Tag × Cursor) := do
  let (handle, behind) ← handle? false c
  if handle.length ≥ 2 && handle.endsWith "!" then
    let (suffix, c) ← tagText? false behind
    some (handle, suffix, c)
  else
    let (more, c) ← tagRest? false behind
    let suffix := (Tag.ofText (handle.drop 1).toString).append more
    some (if suffix.isEmpty then ("", .ofText "!", c) else ("!", suffix, c))

/-- The suffix of a tag that is written out between `!<` and `>`. -/
def verbatimTag? (c : Cursor) : Option (String × Tag × Cursor) := do
  let (suffix, c) ← tagText? true (c.skip 2)
  if c.at? '>' then some ("", suffix, c.skip) else none

/-- A tag. A gap must follow it, or a comma inside of brackets. -/
def tag? (inFlow : Bool) (c : Cursor) : Option (Token × Cursor) := do
  let (handle, suffix, behind) ← if c.at? '<' 1 then verbatimTag? c else shortTag? c
  if behind.atGap || (inFlow && behind.at? ',') then
    some (spanning (.tag handle suffix) c behind)
  else none

/-- An anchor or an alias, by its first character. -/
def anchor? (c : Cursor) : Option (Token × Cursor) :=
  let (name, behind) := (c.skip).span isWord
  let ends := behind.atGap || behind.atAny "?:,]\x7d%@`".toList
  if name.isEmpty || !ends then none
  else
    let name := String.ofList name
    some (spanning (if c.at? '*' then .reference name else .anchor name) c behind)

/-- A number of at most nine digits. -/
def versionNumber? (c : Cursor) : Option (Nat × Cursor) :=
  let (digits, behind) := c.span Char.isDigit
  if digits.isEmpty || 9 < digits.length then none
  else some (digits.foldl (fun n d => 10 * n + (d.toNat - '0'.toNat)) 0, behind)

/-- What a directive of a name says. -/
def directiveValue? (name : String) (c : Cursor) : Option (TokenKind × Cursor) := do
  let c := c.skipWhile isBlank
  if name == "YAML" then
    let (major, c) ← versionNumber? c
    if !c.at? '.' then none
    let (minor, c) ← versionNumber? c.skip
    some (.version major minor, c)
  else if name == "TAG" then
    let (handle, c) ← handle? true c
    if !c.atAny [' ', '\t'] then none
    let (expansion, c) ← tagText? true (c.skipWhile isBlank)
    if !c.atGap then none
    some (.shorthand handle expansion, c)
  else none

/-- A directive, and the rest of its line. -/
def directive? (c : Cursor) : Option (Token × Cursor) := do
  let (name, behind) := (c.skip).span isWord
  if name.isEmpty || !behind.atGap then none
  let (kind, stop) ← directiveValue? (String.ofList name) behind
  let behind := (stop.skipWhile isBlank).skipComment
  if behind.atLineEnd then some (⟨kind, c.mark, stop.mark⟩, behind.skipBreak) else none

/-! ## Plain and quoted scalars -/

/-- What stands between two words of a scalar. -/
structure Gap where
  /-- A line has ended in it. -/
  broken : Bool := false
  /-- The blanks before the first line break, backwards. -/
  blanks : List Char := []
  /-- The first line break. -/
  first : List Char := []
  /-- The other line breaks, backwards. -/
  others : List Char := []

namespace Gap

/-- The gap with one more blank; blanks count in the first line only. -/
def addBlank (g : Gap) (x : Char) : Gap :=
  if g.broken then g else { g with blanks := x :: g.blanks }

/-- The gap with one more line break. -/
def addBreak (g : Gap) (x : Char) : Gap :=
  if g.broken then { g with others := x :: g.others } else { broken := true, first := [x] }

/-- The gap behind an escaped line break. -/
def escaped : Gap :=
  { broken := true }

/-- What a gap is read as, in front of a text that is kept backwards: its blanks, or a blank for
one line break, or the other line breaks for several. -/
def onto (g : Gap) (text : List Char) : List Char :=
  if !g.broken then g.blanks ++ text
  else if g.first == ['\n'] then (if g.others.isEmpty then ' ' :: text else g.others ++ text)
  else g.others ++ g.first ++ text

end Gap

/-- The end of a quoted scalar stands here. -/
private def closes (single : Bool) (c : Cursor) : Bool :=
  if single then c.at? '\'' && !c.at? '\'' 1 else c.at? '"'

/-- How many digits follow the letter of an escape, for those that name a character by number. -/
def escapeDigits? (x : Char) : Option Nat :=
  match x with
  | 'x' => some 2
  | 'u' => some 4
  | 'U' => some 8
  | _ => none

/-- The character that an escape of one letter stands for. -/
def escapeChar? (x : Char) : Option Char :=
  match x with
  | '0' => some '\x00'
  | 'a' => some '\x07'
  | 'b' => some '\x08'
  | 't' | '\t' => some '\t'
  | 'n' => some '\n'
  | 'v' => some '\x0b'
  | 'f' => some '\x0c'
  | 'r' => some '\r'
  | 'e' => some '\x1b'
  | ' ' | '"' | '/' | '\\' => some x
  | 'N' => some '\u0085'
  | '_' => some '\u00a0'
  | 'L' => some '\u2028'
  | 'P' => some '\u2029'
  | _ => none

/-- The character that stands escaped here, behind a backslash. -/
def escape? (c : Cursor) : Option (Char × Cursor) := do
  let x ← c.peek? 1
  match escapeDigits? x with
  | none => (escapeChar? x).map fun y => (y, c.skip 2)
  | some count =>
    let digits := (c.rest.drop 2).take count
    let value := digits.foldl (fun n d => 16 * n + hexValue d) 0
    if digits.length = count && digits.all isHexDigit && value.isValidChar then
      some (Char.ofNat value, c.skip (2 + count))
    else none

/-- The rest of a quoted scalar. `text` is what has been read, backwards, and `gap` what stands
between it and the cursor. `steps` bounds the number of characters. -/
def quotedRest (single : Bool) :
    (steps : Nat) → Cursor → (text : List Char) → Gap → Option (List Char × Cursor)
  | 0, _, _, _ => none
  | steps + 1, c, text, gap =>
    match c.peek? with
    | none => none
    | some x =>
      if isBlank x then quotedRest single steps c.skip text (gap.addBlank x)
      else if isBreak x then quotedRest single steps c.skipBreak text (gap.addBreak (foldBreak x))
      else if c.atDocumentMark '-' || c.atDocumentMark '.' then none
      else if closes single c then some ((gap.onto text).reverse, c.skip)
      else if single && x == '\'' then
        quotedRest single steps (c.skip 2) ('\'' :: gap.onto text) {}
      else if !single && x == '\\' then
        if (c.peek? 1).any isBreak then
          quotedRest single steps (c.skip).skipBreak (gap.onto text) .escaped
        else
          match escape? c with
          | some (y, behind) => quotedRest single steps behind (y :: gap.onto text) {}
          | none => none
      else quotedRest single steps c.skip (x :: gap.onto text) {}

/-- A quoted scalar, by its first character. -/
def quoted? (c : Cursor) : Option (Token × Cursor) :=
  let single := c.at? '\''
  (quotedRest single (c.rest.length + 1) c.skip [] {}).map fun (text, behind) =>
    spanning (.scalar (String.ofList text) (if single then .singleQuoted else .doubleQuoted))
      c behind

/-- What has been read of a plain scalar. -/
structure PlainText where
  /-- The text, backwards. -/
  text : List Char
  /-- The place behind the last word. -/
  stop : Mark
  /-- The text ended behind a line break. -/
  broken : Bool
  /-- What is left. -/
  behind : Cursor

/-- A character that ends a plain scalar inside of brackets. -/
private def isFlowEnd (x : Char) : Bool :=
  ",[]\x7b\x7d".toList.contains x

/-- The rest of a plain scalar, whose lines begin at a column of at least `indent`. -/
def plainRest (inFlow : Bool) (indent : Nat) :
    (steps : Nat) → Cursor → (text : List Char) → (stop : Mark) → Gap → Option PlainText
  | 0, c, text, stop, gap => some ⟨text, stop, gap.broken, c⟩
  | steps + 1, c, text, stop, gap =>
    let done := some ⟨text, stop, gap.broken, c⟩
    let inGap := gap.broken || !gap.blanks.isEmpty
    match c.peek? with
    | none => done
    | some x =>
      if isBlank x then
        if gap.broken && c.mark.column < indent && x == '\t' then none
        else plainRest inFlow indent steps c.skip text stop (gap.addBlank x)
      else if isBreak x then
        plainRest inFlow indent steps c.skipBreak text stop (gap.addBreak (foldBreak x))
      else if inGap && !inFlow && c.mark.column < indent then done
      else if c.atDocumentMark '-' || c.atDocumentMark '.' then done
      else if inGap && x == '#' then done
      else if inFlow && x == ':' && c.atAny ",?[]\x7b\x7d".toList 1 then none
      else if (x == ':' && c.atGap 1) || (inFlow && isFlowEnd x) then done
      else
        let behind := c.skip
        plainRest inFlow indent steps behind (x :: gap.onto text) behind.mark {}

/-- A plain scalar, and whether it ended behind a line break. -/
def plain? (inFlow : Bool) (indent : Nat) (c : Cursor) : Option (Token × Bool × Cursor) :=
  (plainRest inFlow indent (c.rest.length + 1) c [] c.mark {}).map fun p =>
    (⟨.scalar (String.ofList p.text.reverse) .plain, c.mark, p.stop⟩, p.broken, p.behind)

/-! ## Block scalars -/

/-- What becomes of the line breaks at the end of a block scalar. -/
inductive Chomping where
  | strip
  | clip
  | keep
  deriving DecidableEq

/-- The header of a block scalar: what becomes of its end, and its indentation, if it is given.
Both may be given, in either order, and an indentation is not zero. -/
def blockHeader? (c : Cursor) : Option (Chomping × Option Nat × Cursor) :=
  let chomping (c : Cursor) : Option Chomping :=
    if c.at? '+' then some .keep else if c.at? '-' then some .strip else none
  let digit (c : Cursor) : Option Nat :=
    (c.peek?).bind fun x => if x.isDigit then some (x.toNat - '0'.toNat) else none
  match chomping c, digit c with
  | some mode, _ =>
    match digit c.skip with
    | some 0 => none
    | some n => some (mode, some n, c.skip 2)
    | none => some (mode, none, c.skip)
  | none, some 0 => none
  | none, some n =>
    match chomping c.skip with
    | some mode => some (mode, some n, c.skip 2)
    | none => some (.clip, some n, c.skip)
  | none, none => some (.clip, none, c)

/-- The line breaks and the indentation in front of a line of a block scalar. -/
structure Indentation where
  /-- The line breaks, backwards. -/
  breaks : List Char
  /-- The place behind the last line break. -/
  stop : Mark
  /-- The greatest column that a line reached. -/
  widest : Nat
  /-- What is left. -/
  behind : Cursor

/-- Reads empty lines and the indentation of the next line. `limit` is the indentation, if it is
known. A tab may not stand in it. -/
def indentation (limit : Option Nat) :
    (steps : Nat) → Cursor → (breaks : List Char) → (stop : Mark) → (widest : Nat) →
      Option Indentation
  | 0, c, breaks, stop, widest => some ⟨breaks, stop, widest, c⟩
  | steps + 1, c, breaks, stop, widest =>
    let widest := max widest c.mark.column
    let inside := limit.all fun n => c.mark.column < n
    match c.peek? with
    | none => some ⟨breaks, stop, widest, c⟩
    | some x =>
      if inside && x == ' ' then indentation limit steps c.skip breaks stop widest
      else if inside && x == '\t' then none
      else if isBreak x then
        let behind := c.skipBreak
        indentation limit steps behind (foldBreak x :: breaks) behind.mark widest
      else some ⟨breaks, stop, widest, c⟩

/-- What has been read of a block scalar. -/
structure BlockText where
  /-- The text, backwards. -/
  text : List Char
  /-- The line break behind the last line. -/
  lastBreak : List Char
  /-- The line breaks behind that, backwards. -/
  breaks : List Char
  /-- The place behind the last line break. -/
  stop : Mark
  /-- What is left. -/
  behind : Cursor

/-- The lines of a block scalar of a known indentation. `blankBefore` says that the line before
began with a blank. A folded scalar joins two lines by a blank when neither begins with one. -/
def blockLines (folded : Bool) (indent : Nat) :
    (steps : Nat) → (text lastBreak : List Char) → Indentation → (blankBefore : Bool) →
      Option BlockText
  | 0, text, lastBreak, i, _ => some ⟨text, lastBreak, i.breaks, i.stop, i.behind⟩
  | steps + 1, text, lastBreak, i, blankBefore =>
    let c := i.behind
    if c.rest.isEmpty || c.mark.column ≠ indent then
      some ⟨text, lastBreak, i.breaks, i.stop, c⟩
    else
      let blank := (c.peek?).any isBlank
      let joined :=
        if folded && lastBreak == ['\n'] && !blankBefore && !blank then
          if i.breaks.isEmpty then ' ' :: text else i.breaks ++ text
        else i.breaks ++ lastBreak ++ text
      let (line, behind) := c.span fun x => !isBreak x
      let next := behind.skipBreak
      match indentation (some indent) (next.rest.length + 1) next [] next.mark 0 with
      | none => none
      | some i => blockLines folded indent steps (line.reverse ++ joined) behind.breakText i blank

/-- A block scalar, by its first character. `parent` is the indentation of the collection around
it, if there is one. -/
def block? (parent : Option Nat) (c : Cursor) : Option (Token × Cursor) := do
  let folded := c.at? '>'
  let (chomping, increment, header) ← blockHeader? c.skip
  let header := (header.skipWhile isBlank).skipComment
  if !header.atLineEnd then none
  let body := header.skipBreak
  let given := increment.map fun n => parent.getD 0 + n
  let i ← indentation given (body.rest.length + 1) body [] body.mark 0
  let least := max 1 (parent.elim 0 (· + 1))
  let indent := given.getD (max i.widest least)
  let b ← blockLines folded indent (body.rest.length + 1) [] [] i false
  let text :=
    match chomping with
    | .strip => b.text
    | .clip => b.lastBreak ++ b.text
    | .keep => b.breaks ++ b.lastBreak ++ b.text
  let style := if folded then .folded else .literal
  some (⟨.scalar (String.ofList text.reverse) style, c.mark, b.stop⟩, b.behind)

end Token

end Launcher.Yaml
