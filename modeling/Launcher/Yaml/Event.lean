import Launcher.Yaml.TokenStream
/-!
# The events of a document

The structure of a document is a sequence of events: scalars and aliases, and the beginnings and
ends of sequences, mappings and documents.

## Main definitions

* `Launcher.Yaml.Event` — an event.
* `Launcher.Yaml.EventStream` — the state of reading events.
* `Launcher.Yaml.EventStream.next?` — the next event, where it begins, and the stream behind it.
-/

namespace Launcher.Yaml

/-- What a node may carry in front of its content. -/
structure Properties where
  /-- The name by which aliases refer to the node. -/
  anchor : Option String := none
  /-- The tag of the node. -/
  tag : Option Tag := none
  deriving Repr, DecidableEq, Inhabited

/-- A step in the structure of a document. -/
inductive Event where
  | streamEnd
  | documentStart
  | documentEnd
  | reference (name : String)
  | scalar (properties : Properties) (text : String) (style : ScalarStyle)
  | sequenceStart (properties : Properties)
  | sequenceEnd
  | mappingStart (properties : Properties)
  | mappingEnd
  deriving Repr, DecidableEq

/-- What is expected next. -/
inductive Expected where
  /-- A document, which may begin without a mark if it is the first. -/
  | document (first : Bool)
  /-- The content of a document that has begun with a mark. -/
  | documentContent
  | documentEnd
  /-- The content of a document that has begun without a mark. -/
  | blockNode
  | blockSequenceEntry
  /-- An entry of a sequence that is not indented against the key before it. -/
  | looseSequenceEntry
  | blockMappingKey
  | blockMappingValue
  | flowSequenceEntry (first : Bool)
  /-- The key of a mapping of one entry inside a sequence. -/
  | pairKey
  | pairValue
  | pairEnd
  | flowMappingKey (first : Bool)
  | flowMappingValue
  /-- The value of a key that has no colon behind it. -/
  | flowMappingNoValue
  | nothing
  deriving DecidableEq

/-- The state of reading events. -/
structure EventStream where
  /-- The tokens that have not been read. -/
  tokens : TokenStream
  /-- What is expected next. -/
  expected : Expected := .document true
  /-- What is expected behind the open nodes, the innermost first. -/
  pending : List Expected := []
  /-- The short forms for the beginning of tags, with what they stand for. -/
  shorthands : List (String × Tag) := []

/-- An event, where it begins, and the stream behind it; nothing, if the text is malformed. -/
abbrev EventStream.Step := Option (Event × Mark × EventStream)

namespace EventStream

/-- The short forms that every document has. -/
def defaultShorthands : List (String × Tag) :=
  [("!", .ofText "!"), ("!!", .core)]

/-- The first token. -/
def peek? (s : EventStream) : Option (Token × EventStream) :=
  s.tokens.peek?.map fun (t, tokens) => (t, { s with tokens })

/-- The stream behind its first token. -/
def advance (s : EventStream) : EventStream :=
  { s with tokens := s.tokens.advance }

/-- The stream behind its first token, and the token behind that. -/
def next (s : EventStream) : Option (Token × EventStream) :=
  s.advance.peek?

/-- Expects something next. -/
def expecting (s : EventStream) (e : Expected) : EventStream :=
  { s with expected := e }

/-- Expects something behind the node that comes next. -/
def after (s : EventStream) (e : Expected) : EventStream :=
  { s with pending := e :: s.pending }

/-- Expects what follows the innermost open node. -/
def closing (s : EventStream) : EventStream :=
  match s.pending with
  | e :: rest => { s with expected := e, pending := rest }
  | [] => { s with expected := .nothing }

/-- A scalar that is not there. -/
def absent (s : EventStream) (mark : Mark) : Step :=
  some (.scalar {} "" .plain, mark, s)

/-! ## Nodes -/

/-- The tag that a handle and a suffix stand for. -/
def expand? (s : EventStream) (handle : String) (suffix : Tag) : Option Tag :=
  if handle.isEmpty then some suffix
  else
    (s.shorthands.find? fun entry => entry.1 == handle).map fun entry => entry.2.append suffix

/-- The anchor and the tag in front of a node, in either order, where they begin, and the token
behind them. -/
def properties? (s : EventStream) : Option (Properties × Mark × Token × EventStream) := do
  let (t, s) ← s.peek?
  match t.kind with
  | .anchor name =>
    let (t', s) ← s.next
    match t'.kind with
    | .tag handle suffix =>
      let (t'', s) ← s.next
      some (⟨some name, some (← s.expand? handle suffix)⟩, t.start, t'', s)
    | _ => some (⟨some name, none⟩, t.start, t', s)
  | .tag handle suffix =>
    let (t', s) ← s.next
    match t'.kind with
    | .anchor name =>
      let (t'', s) ← s.next
      some (⟨some name, some (← s.expand? handle suffix)⟩, t.start, t'', s)
    | _ => some (⟨none, some (← s.expand? handle suffix)⟩, t.start, t', s)
  | _ => some ({}, t.start, t, s)

/-- A node. `block` admits block collections, and `loose` a sequence that is not indented. -/
def node (s : EventStream) (block loose : Bool) : Step := do
  let (first, s) ← s.peek?
  match first.kind with
  | .reference name => some (.reference name, first.start, s.closing.advance)
  | _ =>
    let (p, start, t, s) ← s.properties?
    match t.kind with
    | .scalar text style => some (.scalar p text style, start, s.closing.advance)
    | .flowSequenceStart =>
      some (.sequenceStart p, start, (s.expecting (.flowSequenceEntry true)).advance)
    | .flowMappingStart =>
      some (.mappingStart p, start, (s.expecting (.flowMappingKey true)).advance)
    | kind =>
      if loose && kind == .blockEntry then
        some (.sequenceStart p, start, s.expecting .looseSequenceEntry)
      else if block && kind == .blockSequenceStart then
        some (.sequenceStart p, start, (s.expecting .blockSequenceEntry).advance)
      else if block && kind == .blockMappingStart then
        some (.mappingStart p, start, (s.expecting .blockMappingKey).advance)
      else if p.anchor.isSome || p.tag.isSome then
        some (.scalar p "" .plain, start, s.closing)
      else none

/-! ## Documents -/

/-- The directives in front of a document: one version at most, which is 1.1 or 1.2, and one
meaning for each short form. `steps` bounds their number. -/
def directives? : (steps : Nat) → (version : Bool) → EventStream → Option EventStream
  | 0, _, _ => none
  | steps + 1, version, s => do
    let (t, s) ← s.peek?
    match t.kind with
    | .version major minor =>
      if version || major ≠ 1 || (minor ≠ 1 && minor ≠ 2) then none
      else directives? steps true s.advance
    | .shorthand handle expansion =>
      if s.shorthands.any fun entry => entry.1 == handle then none
      else
        let s := { s with shorthands := s.shorthands ++ [(handle, expansion)] }
        directives? steps version s.advance
    | _ => some { s with shorthands := s.shorthands ++ defaultShorthands }

/-- The stream behind the marks that end documents. -/
def skipDocumentEnds : (steps : Nat) → EventStream → Option EventStream
  | 0, _ => none
  | steps + 1, s => do
    let (t, s) ← s.peek?
    if t.kind == .documentEnd then skipDocumentEnds steps s.advance else some s

/-- A token that can stand in front of a document or behind all of them, and in no document. -/
def isOutside : TokenKind → Bool
  | .version _ _ | .shorthand _ _ | .documentStart | .streamEnd => true
  | _ => false

/-- The start of a document, or the end of all documents. -/
def document (s : EventStream) (first : Bool) : Step := do
  let steps := s.tokens.cursor.rest.length + s.tokens.queue.length + 2
  let s ← if first then some s else skipDocumentEnds steps s
  let (t, s) ← s.peek?
  if first && !isOutside t.kind then
    let s := { s with shorthands := defaultShorthands }
    some (.documentStart, t.start, (s.after .documentEnd).expecting .blockNode)
  else if t.kind == .streamEnd then
    some (.streamEnd, t.start, (s.expecting .nothing).advance)
  else
    let s ← directives? steps false { s with shorthands := [] }
    let (mark, s) ← s.peek?
    if mark.kind == .documentStart then
      some (.documentStart, t.start,
        ((s.after .documentEnd).expecting .documentContent).advance)
    else none

/-- The content of a document that has begun with a mark; there may be none. -/
def documentContent (s : EventStream) : Step := do
  let (t, s) ← s.peek?
  if isOutside t.kind || t.kind == .documentEnd then s.closing.absent t.start
  else s.node true false

/-- The end of a document, with or without a mark. -/
def documentEnd (s : EventStream) : Step := do
  let (t, s) ← s.peek?
  let s := { s with shorthands := [], expected := .document false }
  some (.documentEnd, t.start, if t.kind == .documentEnd then s.advance else s)

/-! ## Collections -/

/-- A node behind an indicator, unless one of the tokens in `ends` follows, which say that it is
not there. -/
def nodeOr (s : EventStream) (block loose : Bool) (ends : List TokenKind) (next : Expected)
    (absentAt : Token → Mark) : Step := do
  let (t, s) ← s.peek?
  if ends.contains t.kind then (s.expecting next).absent (absentAt t)
  else (s.after next).node block loose

/-- An entry of a block sequence, or its end. -/
def blockSequenceEntry (s : EventStream) : Step := do
  let (t, s) ← s.peek?
  match t.kind with
  | .blockEntry =>
    s.advance.nodeOr true false [.blockEntry, .blockEnd] .blockSequenceEntry fun _ => t.stop
  | .blockEnd => some (.sequenceEnd, t.start, s.closing.advance)
  | _ => none

/-- An entry of a sequence that is not indented, or its end. -/
def looseSequenceEntry (s : EventStream) : Step := do
  let (t, s) ← s.peek?
  match t.kind with
  | .blockEntry =>
    s.advance.nodeOr true false [.blockEntry, .key, .value, .blockEnd] .looseSequenceEntry
      fun _ => t.stop
  | _ => some (.sequenceEnd, t.start, s.closing)

/-- A key of a block mapping, or the end of the mapping. -/
def blockMappingKey (s : EventStream) : Step := do
  let (t, s) ← s.peek?
  match t.kind with
  | .key =>
    s.advance.nodeOr true true [.key, .value, .blockEnd] .blockMappingValue fun _ => t.stop
  | .blockEnd => some (.mappingEnd, t.start, s.closing.advance)
  | _ => none

/-- The value behind a key of a block mapping. -/
def blockMappingValue (s : EventStream) : Step := do
  let (t, s) ← s.peek?
  match t.kind with
  | .value =>
    s.advance.nodeOr true true [.key, .value, .blockEnd] .blockMappingKey fun _ => t.stop
  | _ => (s.expecting .blockMappingKey).absent t.start

/-- The token behind the comma that stands between two entries in brackets. -/
def comma? (s : EventStream) (first : Bool) (t : Token) : Option (Token × EventStream) :=
  if first then some (t, s) else if t.kind == .flowEntry then s.next else none

/-- An entry of a sequence in brackets, or the end of the sequence. -/
def flowSequenceEntry (s : EventStream) (first : Bool) : Step := do
  let (t, s) ← s.peek?
  if t.kind == .flowSequenceEnd then some (.sequenceEnd, t.start, s.closing.advance)
  else
    let (t, s) ← s.comma? first t
    match t.kind with
    | .key => some (.mappingStart {}, t.start, (s.expecting .pairKey).advance)
    | .flowSequenceEnd => some (.sequenceEnd, t.start, s.closing.advance)
    | _ => (s.after (.flowSequenceEntry false)).node false false

/-- The key of a mapping of one entry. When it is not there, the token behind it is passed
over. -/
def pairKey (s : EventStream) : Step := do
  let (t, s) ← s.peek?
  match t.kind with
  | .value | .flowEntry | .flowSequenceEnd => (s.advance.expecting .pairValue).absent t.stop
  | _ => (s.after .pairValue).node false false

/-- The value of a mapping of one entry. -/
def pairValue (s : EventStream) : Step := do
  let (t, s) ← s.peek?
  match t.kind with
  | .value =>
    s.advance.nodeOr false false [.flowEntry, .flowSequenceEnd] .pairEnd fun t => t.start
  | _ => (s.expecting .pairEnd).absent t.start

/-- The end of a mapping of one entry. -/
def pairEnd (s : EventStream) : Step := do
  let (t, s) ← s.peek?
  some (.mappingEnd, t.start, s.expecting (.flowSequenceEntry false))

/-- A key of a mapping in brackets, or the end of the mapping. -/
def flowMappingKey (s : EventStream) (first : Bool) : Step := do
  let (t, s) ← s.peek?
  if t.kind == .flowMappingEnd then some (.mappingEnd, t.start, s.closing.advance)
  else
    let (t, s) ← s.comma? first t
    match t.kind with
    | .key =>
      s.advance.nodeOr false false [.value, .flowEntry, .flowMappingEnd] .flowMappingValue
        fun t => t.start
    | .flowMappingEnd => some (.mappingEnd, t.start, s.closing.advance)
    | _ => (s.after .flowMappingNoValue).node false false

/-- The value behind a key of a mapping in brackets. -/
def flowMappingValue (s : EventStream) : Step := do
  let (t, s) ← s.peek?
  match t.kind with
  | .value =>
    s.advance.nodeOr false false [.flowEntry, .flowMappingEnd] (.flowMappingKey false)
      fun t => t.start
  | _ => (s.expecting (.flowMappingKey false)).absent t.start

/-- The value that a key without a colon has. -/
def flowMappingNoValue (s : EventStream) : Step := do
  let (t, s) ← s.peek?
  (s.expecting (.flowMappingKey false)).absent t.start

/-- The next event. -/
def next? (s : EventStream) : Step :=
  match s.expected with
  | .document first => s.document first
  | .documentContent => s.documentContent
  | .documentEnd => s.documentEnd
  | .blockNode => s.node true false
  | .blockSequenceEntry => s.blockSequenceEntry
  | .looseSequenceEntry => s.looseSequenceEntry
  | .blockMappingKey => s.blockMappingKey
  | .blockMappingValue => s.blockMappingValue
  | .flowSequenceEntry first => s.flowSequenceEntry first
  | .pairKey => s.pairKey
  | .pairValue => s.pairValue
  | .pairEnd => s.pairEnd
  | .flowMappingKey first => s.flowMappingKey first
  | .flowMappingValue => s.flowMappingValue
  | .flowMappingNoValue => s.flowMappingNoValue
  | .nothing => none

end EventStream

end Launcher.Yaml
