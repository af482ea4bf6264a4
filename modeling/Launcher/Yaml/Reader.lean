import Launcher.Yaml.Document
import Launcher.Yaml.Scalar
/-!
# Reading values out of a document

A reader looks at a node and answers with a value or a fault. It follows aliases, and counts how
often it does. A complaint about a node is given the place of the node, unless something inside of
the node has given it one.

## Main definitions

* `Launcher.Yaml.Place` — where in a document a value is read.
* `Launcher.Yaml.Reader` — a reader.
* `Launcher.Yaml.Place.bool`, `int32`, `text`, `null`, `optional` — readers of simple values.
* `Launcher.Yaml.Place.record`, `variant` — readers of records with named fields, and of one of
  several named variants.
* `Launcher.Yaml.Document.read` — the value of a whole document.
-/

namespace Launcher.Yaml

/-- Where in a document a value is read. -/
structure Place where
  /-- The document. -/
  document : Document
  /-- The way from the root. -/
  path : Path := .root
  /-- How many more collections may be open inside of each other. -/
  depth : Nat := 128
  /-- The tag of the node has named a variant, and says nothing of the value. -/
  inVariant : Bool := false

/-- What reads a value. It knows how many aliases have been followed. -/
abbrev Reader (α : Type) := StateT Nat (Except Fault) α

/-- A name in a complaint. -/
def ticked (name : String) : String :=
  "\x60" ++ name ++ "\x60"

/-- The names that a complaint offers. -/
def offered : List String → String
  | [name] => ticked name
  | [first, second] => ticked first ++ " or " ++ ticked second
  | names => "one of " ++ ", ".intercalate (names.map ticked)

namespace Node

/-- Where a node begins. -/
def mark : Node → Mark
  | scalar mark _ _ _ | sequence mark _ _ | mapping mark _ _ | reference mark _ | absent mark => mark
  | cut => {}

/-- A node is not what was expected. -/
def unexpected (n : Node) (expected : String) : Fault :=
  let wrong (found : String) : Fault :=
    .complaint ("invalid type: " ++ found ++ ", expected " ++ expected) none
  match n with
  | scalar _ tag text style =>
    match ScalarValue.read tag text style with
    | .ok value => wrong value.found
    | .error complaint => .complaint complaint none
  | sequence _ _ _ => wrong "sequence"
  | mapping _ _ _ => wrong "map"
  | absent _ | reference _ _ | cut => .endOfText

end Node

namespace Reader

/-- A reader that complains. -/
def complain {α : Type} (text : String) : Reader α :=
  throw (.complaint text none)

end Reader

namespace Place

open Reader

variable {α σ : Type}

/-- What is wrong with a document where it is cut off. -/
def cutFault (p : Place) : Fault :=
  p.document.fault.getD .endOfText

/-- A reader whose complaints have a place. -/
def located (p : Place) (mark : Mark) (read : Reader α) : Reader α :=
  fun followed =>
    match read followed with
    | .ok result => .ok result
    | .error fault => .error (fault.locate mark p.path)

/-- The node of an anchor, and the place for reading it. Aliases may be followed a hundred times
for each piece of the document. -/
def follow (p : Place) (anchor : Nat) : Reader (Place × Node) := do
  let followed ← get
  set (followed + 1)
  if p.document.pieces.length * 100 < followed + 1 then throw .tooManyAliases
  else pure ({ p with path := .target p.path, inVariant := false }, p.document.target anchor)

/-- Reads a node that is no alias. -/
def visit (p : Place) (n : Node) (read : Place → Node → Reader α) : Reader α :=
  match n with
  | .cut => throw p.cutFault
  | n => p.located n.mark (read p n)

/-- Reads a node, or the node that it refers to. -/
def enter (p : Place) (n : Node) (read : Place → Node → Reader α) : Reader α :=
  match n with
  | .reference mark anchor => p.located mark do
    let (p, n) ← p.follow anchor
    p.visit n read
  | n => p.visit n read

/-- The place of what a collection holds, if one more may be open. -/
def inside (p : Place) (mark : Mark) : Reader Place :=
  match p.depth with
  | 0 => throw (.tooDeep mark)
  | depth + 1 => pure { p with depth, inVariant := false }

/-- The place of the value behind a key. -/
def child (p : Place) (key : Node) : Place :=
  match key with
  | .scalar _ _ text _ => { p with path := .field p.path text }
  | _ => { p with path := .unnamed p.path }

/-- The place of an item of a sequence. -/
def item (p : Place) (index : Nat) : Place :=
  { p with path := .item p.path index }

/-- Passes over a node. A node that is cut off inside is followed by a cut. -/
def skip (p : Place) (n : Node) : Reader Unit :=
  match n with
  | .cut => throw p.cutFault
  | _ => pure ()

/-! ## Simple values -/

/-- A scalar may be read as a truth value or a number: a plain one, or a literal one whose tag says
so. -/
def mayBe (p : Place) (expected : Tag) (tag : Option Tag) (style : ScalarStyle) : Bool :=
  style == .plain || (style == .literal && tag == some expected && !p.inVariant)

/-- A truth value. -/
def bool (p : Place) (n : Node) : Reader Bool :=
  p.enter n fun p n =>
    match n with
    | .scalar _ tag text style =>
      match if p.mayBe .bool tag style then bool? text else none with
      | some value => pure value
      | none => throw (n.unexpected "a boolean")
    | n => throw (n.unexpected "a boolean")

/-- A whole number of 32 bits. -/
def int32 (p : Place) (n : Node) : Reader Int :=
  p.enter n fun p n =>
    match n with
    | .scalar _ tag text style =>
      match if p.mayBe .int tag style then int? text else none with
      | some value =>
        if -0x80000000 ≤ value && value < 0x80000000 then pure value
        else complain ("invalid value: integer " ++ ticked (toString value) ++ ", expected i32")
      | none => throw (n.unexpected "i32")
    | n => throw (n.unexpected "i32")

/-- The text of a scalar of any kind. -/
def text (expected : String) (p : Place) (n : Node) : Reader String :=
  p.enter n fun _ n =>
    match n with
    | .scalar _ _ text _ => pure text
    | n => throw (n.unexpected expected)

/-- Null, or nothing at all. -/
def null (p : Place) (n : Node) : Reader Unit :=
  p.enter n fun p n =>
    match n with
    | .scalar _ tag text style =>
      let isNull :=
        match tag with
        | some tag =>
          if p.inVariant then text.isEmpty || isNullWord text
          else tag == Tag.null && isNullWord text
        | none => text.isEmpty || isNullWord text
      if style == .plain && isNull then pure ()
      else complain (ScalarValue.mistagged text "null")
    | .absent _ => pure ()
    | n => throw (n.unexpected "unit")

/-- A value that may be missing. It is, if there is null in its place. -/
def optional (read : Place → Node → Reader α) (p : Place) (n : Node) : Reader (Option α) :=
  match n with
  | .reference _ anchor => do
    let (p, n) ← p.follow anchor
    present p n
  | n => present p n
where
  /-- The value of a node that is no alias. -/
  present (p : Place) (n : Node) : Reader (Option α) :=
    match n with
    | .cut => throw p.cutFault
    | .absent _ => pure none
    | .scalar _ tag text style =>
      if style != .plain then some <$> read p n
      else
        match tag with
        | some tag =>
          if tag != Tag.null then some <$> read p n
          else if isNullWord text then pure none
          else complain (ScalarValue.mistagged text "null")
        | none =>
          if text.isEmpty || isNullWord text then pure none else some <$> read p n
    | n => some <$> read p n

/-! ## Records -/

/-- A field of a record: its name, and what reads its value and puts it into the record. -/
structure Field (σ : Type) where
  /-- The name of the field. -/
  name : String
  /-- What reads the value. -/
  read : Place → Node → Reader (σ → σ)

/-- Reads the entries of a mapping in order. An entry of an unknown name is passed over, and a
known name may stand there once. -/
def fields (known : List (Field σ)) (p : Place) :
    List (Node × Node) → (seen : List String) → σ → Reader σ
  | [], _, record => pure record
  | (key, value) :: rest, seen, record => do
    let name ← text "field identifier" p key
    match known.find? fun field => field.name == name with
    | none =>
      p.skip value
      fields known p rest seen record
    | some field =>
      if seen.contains name then complain ("duplicate field " ++ ticked name)
      else
        let put ← field.read (p.child key) value
        fields known p rest (name :: seen) (put record)

/-- A record with named fields: its fields are put into `start` as they come, and `finish` makes
the value of it, or complains about a missing field. Nothing at all is a record without fields. -/
def record (expected : String) (known : List (Field σ)) (start : σ)
    (finish : σ → Except String α) (p : Place) (n : Node) : Reader α :=
  let finished (record : σ) : Reader α :=
    match finish record with
    | .ok value => pure value
    | .error complaint => complain complaint
  p.enter n fun p n =>
    match n with
    | .mapping mark _ entries => do
      let p ← p.inside mark
      finished (← fields known p entries [] start)
    | .absent _ => finished start
    | .scalar _ _ text style =>
      if text.isEmpty && style == .plain then finished start
      else throw (n.unexpected expected)
    | n => throw (n.unexpected expected)

/-- The complaint about a field that must be there. -/
def missing (name : String) : String :=
  "missing field " ++ ticked name

/-! ## Variants -/

/-- Complains about a name that is not among those of the variants. -/
def known (names : List String) (name : String) : Reader Unit :=
  if names.contains name then pure ()
  else complain ("unknown variant " ++ ticked name ++ ", expected " ++ offered names)

/-- One of several variants. It is named by a tag, and then the node is its content; or by a
scalar, and then it has no content. -/
def variant (names : List String) (take : String → Option (Place × Node) → Reader α) (p : Place)
    (n : Node) : Reader α :=
  match n with
  | .reference mark anchor => p.located mark do
    let (p, n) ← p.follow anchor
    choose p n
  | n => choose p n
where
  /-- The variant that a tag names. -/
  tagged (p : Place) (n : Node) (name : String) : Reader α := do
    known names name
    take name (some ({ p with inVariant := true }, n))
  /-- The variant of a node that is no alias. -/
  choose (p : Place) (n : Node) : Reader α :=
    match n with
    | .cut => throw p.cutFault
    | .scalar mark tag text _ =>
      match tag.bind Tag.variant? with
      | some name => tagged p n name
      | none => p.located mark do
        known names text
        take text none
    | .sequence mark tag _ | .mapping mark tag _ =>
      match tag.bind Tag.variant? with
      | some name => tagged p n name
      | none => p.located mark (throw (n.unexpected "a YAML tag starting with '!'"))
    | .absent _ | .reference _ _ => throw .endOfText

/-- A variant without content. -/
def bare (value : α) (content : Option (Place × Node)) : Reader α := do
  match content with
  | some (p, n) => p.null n
  | none => pure ()
  pure value

/-- A variant with content. -/
def full (read : Place → Node → Reader α) (content : Option (Place × Node)) : Reader α :=
  match content with
  | some (p, n) => read p n
  | none => complain "invalid type: unit variant, expected newtype variant"

end Place

/-- The value of a document. What is wrong with the document itself counts only when the value
could be read. -/
def Document.read {α : Type} (d : Document) (read : Place → Node → Reader α) : Except Fault α := do
  let (value, _) ← (read { document := d } d.root).run 0
  match d.fault with
  | some fault => .error fault
  | none => if d.more then .error .manyDocuments else .ok value

end Launcher.Yaml
