import Launcher.Yaml.Cursor
/-!
# Why a document cannot be read

## Main definitions

* `Launcher.Yaml.Path` — the way from the root of a document to a node.
* `Launcher.Yaml.Fault` — why a document cannot be read.
* `Launcher.Yaml.Fault.message` — the text shown for it.
-/

namespace Launcher.Yaml

/-- The way from the root of a document to a node. -/
inductive Path where
  | root
  /-- An item of a sequence. -/
  | item (parent : Path) (index : Nat)
  /-- The value of a key. -/
  | field (parent : Path) (key : String)
  /-- The value of a key that is no scalar. -/
  | unnamed (parent : Path)
  /-- The node that an alias refers to. -/
  | target (parent : Path)
  deriving Repr, DecidableEq

namespace Path

/-- The text shown for a path. -/
def text : Path → String
  | root => "."
  | item parent index => parent.text ++ "[" ++ toString index ++ "]"
  | field root key => key
  | field parent key => parent.text ++ "." ++ key
  | unnamed root => "?"
  | unnamed parent => parent.text ++ ".?"
  | target parent => parent.text

end Path

/-- Why a document cannot be read. -/
inductive Fault where
  /-- A node is not what was expected. The place is that of the innermost node which knows its
  own, with the path to it. -/
  | complaint (text : String) (place : Option (Mark × Path))
  /-- There is nothing where a value was expected. -/
  | endOfText
  /-- The text breaks the rules of the notation. -/
  | malformed
  /-- An alias has no anchor before it. -/
  | unknownAnchor (mark : Mark)
  /-- Collections are nested too deeply. -/
  | tooDeep (mark : Mark)
  /-- Aliases have been followed too often. -/
  | tooManyAliases
  /-- There is a second document. -/
  | manyDocuments
  deriving Repr, DecidableEq

namespace Fault

/-- What is shown of a place: nothing for the very start of a text. -/
def placeText (mark : Mark) : String :=
  if mark.isStart then "" else " at " ++ mark.text

/-- The text shown for a fault. -/
def message : Fault → String
  | complaint text none => text
  | complaint text (some (mark, path)) =>
    (if path.text == "." then "" else path.text ++ ": ") ++ text ++ placeText mark
  | endOfText => "EOF while parsing a value"
  | malformed => "<syntax>"
  | unknownAnchor mark => "unknown anchor" ++ placeText mark
  | tooDeep mark => "recursion limit exceeded" ++ placeText mark
  | tooManyAliases => "repetition limit exceeded"
  | manyDocuments =>
    "deserializing from YAML containing more than one document is not supported"

/-- A complaint without a place gets one; any other fault keeps what it says. -/
def locate (mark : Mark) (path : Path) : Fault → Fault
  | complaint text none => complaint text (some (mark, path))
  | fault => fault

end Fault

end Launcher.Yaml
