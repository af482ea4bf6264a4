import Launcher.Yaml.Token
/-!
# The stream of tokens of a document

Tokens are read when they are asked for. A text that may be the key of a mapping shows itself as
one only by the colon behind it. So a token at which a key may begin is not handed out before the
text has been read far enough to know; then the tokens that open the mapping and announce the key
are put in front of it.

## Main definitions

* `Launcher.Yaml.TokenStream` — the state of reading.
* `Launcher.Yaml.TokenStream.ofText` — the stream of a text.
* `Launcher.Yaml.TokenStream.peek?`, `advance` — the first token, and the stream behind it.
-/

namespace Launcher.Yaml

/-- A place where a key may begin. -/
structure KeyCandidate where
  /-- The number of the token that begins there. -/
  number : Nat
  /-- The text is malformed unless a key begins there. -/
  required : Bool
  /-- The place. -/
  mark : Mark

/-- The state of reading tokens. -/
structure TokenStream where
  /-- What has not been read. -/
  cursor : Cursor
  /-- The tokens that have been read and not handed out. -/
  queue : List Token := []
  /-- How many tokens have been handed out. -/
  taken : Nat := 0
  /-- The columns of the open block collections, the innermost first. -/
  indents : List Nat := []
  /-- For each open bracket, the innermost first, and last for the text outside of all brackets:
  the place where a key may have begun. -/
  candidates : List (Option KeyCandidate) := [none]
  /-- A key may begin at the cursor. -/
  keyAllowed : Bool := true
  /-- How many characters the text has that can be read: nothing takes more steps than these. -/
  size : Nat
  /-- The rest of the text is all that there is. Otherwise something follows that cannot be read. -/
  whole : Bool := true

namespace TokenStream

/-- The stream of a text. -/
def ofText (text : List Char) : TokenStream :=
  let (readable, whole) := readable (text.length + 1) text
  { cursor := ⟨readable, {}⟩, size := readable.length, whole }

/-- The cursor is inside of brackets. -/
def inFlow (s : TokenStream) : Bool :=
  !(s.candidates.drop 1).isEmpty

/-- The place of the cursor. -/
def mark (s : TokenStream) : Mark :=
  s.cursor.mark

/-- The column of the innermost block collection is below `column`; it always is, outside of all
collections. -/
def indentBelow (s : TokenStream) (column : Nat) : Bool :=
  s.indents.head?.all fun n => n < column

/-- The stream with a token at the end of the queue. -/
def push (s : TokenStream) (t : Token) : TokenStream :=
  { s with queue := s.queue ++ [t] }

/-- The stream with a token of no extent, at the cursor, at the end of the queue. -/
def pushHere (s : TokenStream) (kind : TokenKind) : TokenStream :=
  s.push ⟨kind, s.mark, s.mark⟩

/-- The stream with a token in the queue at the place that a number says. -/
def insert (s : TokenStream) (number : Nat) (t : Token) : TokenStream :=
  let ahead := number - s.taken
  { s with queue := s.queue.take ahead ++ t :: s.queue.drop ahead }

/-- Reads `n` characters as a token. -/
def pushSkip (s : TokenStream) (kind : TokenKind) (n : Nat := 1) : TokenStream :=
  let behind := s.cursor.skip n
  { s with cursor := behind, queue := s.queue ++ [⟨kind, s.mark, behind.mark⟩] }

/-! ## Keys -/

/-- A key lies on one line and is not longer than 1024 bytes. -/
def isStale (s : TokenStream) (k : KeyCandidate) : Bool :=
  k.mark.line < s.mark.line || k.mark.index + 1024 < s.mark.index

/-- Gives up the places from which the cursor is too far away for a key. -/
def dropStale? (s : TokenStream) : Option TokenStream :=
  let stale (k : Option KeyCandidate) : Bool := k.any s.isStale
  if !s.candidates.any stale then some s
  else if s.candidates.any fun k => stale k && k.any (·.required) then none
  else some { s with candidates := s.candidates.map fun k => if stale k then none else k }

/-- Gives up the place where a key may have begun in the innermost bracket. -/
def dropKey? (s : TokenStream) : Option TokenStream :=
  match s.candidates with
  | some k :: rest => if k.required then none else some { s with candidates := none :: rest }
  | _ => some s

/-- Notes that a key may begin at the cursor, if one is allowed here. -/
def noteKey? (s : TokenStream) : Option TokenStream := do
  if !s.keyAllowed then some s
  else
    let required := !s.inFlow && s.indents.head? == some s.mark.column
    let k : KeyCandidate := ⟨s.taken + s.queue.length, required, s.mark⟩
    let s ← s.dropKey?
    some { s with candidates := some k :: s.candidates.drop 1 }

/-! ## Block collections -/

/-- Closes the block collections whose column is greater than `column`; all of them, when it is
not given. -/
def closeBlocks (s : TokenStream) (column : Option Nat) : TokenStream :=
  if s.inFlow then s
  else
    let isOpen (n : Nat) : Bool := column.all fun c => c < n
    let closed := s.indents.takeWhile isOpen
    { s with
      indents := s.indents.drop closed.length
      queue := s.queue ++ closed.map fun _ => ⟨.blockEnd, s.mark, s.mark⟩ }

/-- Opens a block collection at a column, unless one is open there. Its token is put in the place
that `number` says, or at the end. -/
def openBlock (s : TokenStream) (kind : TokenKind) (mark : Mark) (number : Option Nat) :
    TokenStream :=
  if s.inFlow || !s.indentBelow mark.column then s
  else
    let t : Token := ⟨kind, mark, mark⟩
    let s := match number with
      | some n => s.insert n t
      | none => s.push t
    { s with indents := mark.column :: s.indents }

/-! ## One more token -/

/-- The end of the text, which is also the end of its last line. -/
def readEnd? (s : TokenStream) : Option TokenStream := do
  let m := s.mark
  let s :=
    if m.column = 0 then s
    else { s with cursor := { s.cursor with mark := { m with line := m.line + 1, column := 0 } } }
  let s ← (s.closeBlocks none).dropKey?
  some ({ s with keyAllowed := false }.pushHere .streamEnd)

/-- A directive. -/
def readDirective? (s : TokenStream) : Option TokenStream := do
  let s ← (s.closeBlocks none).dropKey?
  let (t, behind) ← Token.directive? s.cursor
  some { s.push t with cursor := behind, keyAllowed := false }

/-- The mark of a document. -/
def readDocumentMark? (s : TokenStream) (kind : TokenKind) : Option TokenStream := do
  let s ← (s.closeBlocks none).dropKey?
  some ({ s with keyAllowed := false }.pushSkip kind 3)

/-- An opening bracket. -/
def readOpening? (s : TokenStream) (kind : TokenKind) : Option TokenStream := do
  let s ← s.noteKey?
  some ({ s with candidates := none :: s.candidates, keyAllowed := true }.pushSkip kind)

/-- A closing bracket. -/
def readClosing? (s : TokenStream) (kind : TokenKind) : Option TokenStream := do
  let s ← s.dropKey?
  let outer := if s.inFlow then s.candidates.drop 1 else s.candidates
  some ({ s with candidates := outer, keyAllowed := false }.pushSkip kind)

/-- A comma. -/
def readComma? (s : TokenStream) : Option TokenStream := do
  let s ← s.dropKey?
  some ({ s with keyAllowed := true }.pushSkip .flowEntry)

/-- The dash of an entry. -/
def readDash? (s : TokenStream) : Option TokenStream := do
  if !s.inFlow && !s.keyAllowed then none
  let s ← (s.openBlock .blockSequenceStart s.mark none).dropKey?
  some ({ s with keyAllowed := true }.pushSkip .blockEntry)

/-- The question mark of a key. -/
def readKeyMark? (s : TokenStream) : Option TokenStream := do
  if !s.inFlow && !s.keyAllowed then none
  let s ← (s.openBlock .blockMappingStart s.mark none).dropKey?
  some ({ s with keyAllowed := !s.inFlow }.pushSkip .key)

/-- The colon of a value. If a key may have begun before it, one has. -/
def readColon? (s : TokenStream) : Option TokenStream :=
  match s.candidates with
  | some k :: rest =>
    let s := s.insert k.number ⟨.key, k.mark, k.mark⟩
    let s := s.openBlock .blockMappingStart k.mark (some k.number)
    some ({ s with candidates := none :: rest, keyAllowed := false }.pushSkip .value)
  | _ =>
    if !s.inFlow && !s.keyAllowed then none
    else
      let s := s.openBlock .blockMappingStart s.mark none
      some ({ s with keyAllowed := !s.inFlow }.pushSkip .value)

/-- An alias, an anchor, a tag or a quoted scalar: a token at which a key may begin. -/
def readKeyLike? (s : TokenStream) (read : Cursor → Option (Token × Cursor)) :
    Option TokenStream := do
  let s ← s.noteKey?
  let (t, behind) ← read s.cursor
  some { s.push t with cursor := behind, keyAllowed := false }

/-- A block scalar. -/
def readBlock? (s : TokenStream) : Option TokenStream := do
  let s ← s.dropKey?
  let (t, behind) ← Token.block? s.indents.head? s.cursor
  some { s.push t with cursor := behind, keyAllowed := true }

/-- A plain scalar. -/
def readPlain? (s : TokenStream) : Option TokenStream := do
  let s ← s.noteKey?
  let (t, broken, behind) ← Token.plain? s.inFlow (s.indents.head?.elim 0 (· + 1)) s.cursor
  some { s.push t with cursor := behind, keyAllowed := broken }

/-- A plain scalar may begin with the character that stands at a cursor. -/
def plainBegins (inFlow : Bool) (c : Cursor) : Bool :=
  let reserved := c.atGap || c.atAny "-?:,[]\x7b\x7d#&*!|>'\"%@`".toList
  let dash := c.at? '-' && !(c.atAny [' ', '\t'] 1)
  let other := !inFlow && (c.at? '?' || c.at? ':') && !c.atGap 1
  !reserved || dash || other

/-- Reads the token that begins at the cursor, and the tokens that it implies. -/
def readToken? (s : TokenStream) : Option TokenStream :=
  let c := s.cursor
  let flow := s.inFlow
  match c.peek? with
  | none => s.readEnd?
  | some x =>
    if c.mark.column == 0 && x == '%' then s.readDirective?
    else if c.atDocumentMark '-' then s.readDocumentMark? .documentStart
    else if c.atDocumentMark '.' then s.readDocumentMark? .documentEnd
    else if x == '[' then s.readOpening? .flowSequenceStart
    else if x == '\x7b' then s.readOpening? .flowMappingStart
    else if x == ']' then s.readClosing? .flowSequenceEnd
    else if x == '\x7d' then s.readClosing? .flowMappingEnd
    else if x == ',' then s.readComma?
    else if x == '-' && c.atGap 1 then s.readDash?
    else if x == '?' && (flow || c.atGap 1) then s.readKeyMark?
    else if x == ':' && (flow || c.atGap 1) then s.readColon?
    else if x == '*' || x == '&' then s.readKeyLike? Token.anchor?
    else if x == '!' then s.readKeyLike? (Token.tag? flow)
    else if (x == '|' || x == '>') && !flow then s.readBlock?
    else if x == '\'' || x == '"' then s.readKeyLike? Token.quoted?
    else if plainBegins flow c then s.readPlain?
    else none

/-- Skips blanks, comments and line breaks. A tab is no blank where a key may begin, and a byte
order mark may begin a line. -/
def skipGap : (steps : Nat) → TokenStream → TokenStream
  | 0, s => s
  | steps + 1, s =>
    let c := if s.mark.column == 0 && s.cursor.at? '\ufeff' then s.cursor.skip else s.cursor
    let tabs := s.inFlow || !s.keyAllowed
    let c := (c.skipWhile fun x => x == ' ' || (tabs && x == '\t')).skipComment
    if (c.peek?).any isBreak then
      skipGap steps { s with cursor := c.skipBreak, keyAllowed := s.keyAllowed || !s.inFlow }
    else { s with cursor := c }

/-- So many characters can be looked at. -/
def reaches (s : TokenStream) (count : Nat) : Bool :=
  s.whole || !(s.cursor.rest.drop (count - 1)).isEmpty

/-- Reads one more token, with all that stands before it. A token is told by its first four
characters, and ends where something else begins. -/
def readNext? (s : TokenStream) : Option TokenStream := do
  let s ← (s.skipGap (s.size + 1)).dropStale?
  if !s.reaches 4 then none
  let s ← (s.closeBlocks (some s.mark.column)).readToken?
  if s.reaches 1 then some s else none

/-- Reads until the first token of the queue can be handed out. -/
def fill? : (steps : Nat) → TokenStream → Option TokenStream
  | 0, _ => none
  | steps + 1, s =>
    match s.queue with
    | [] => (s.readNext?).bind (fill? steps)
    | _ :: _ => do
      let s ← s.dropStale?
      if s.candidates.any fun k => k.any fun k => k.number == s.taken then
        (s.readNext?).bind (fill? steps)
      else some s

/-- The first token, and the stream that has it at the front of its queue. Every token that is
read shortens the text, but for the last. -/
def peek? (s : TokenStream) : Option (Token × TokenStream) := do
  let s ← fill? (s.size + 3) s
  let t ← s.queue.head?
  some (t, s)

/-- The stream behind its first token. -/
def advance (s : TokenStream) : TokenStream :=
  { s with queue := s.queue.drop 1, taken := s.taken + 1 }

end TokenStream

end Launcher.Yaml
