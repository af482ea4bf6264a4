import Launcher.Yaml.Reader
/-!
# The content of a node of any kind

A value that can have several shapes is read in two steps: the node is taken in as it is, and then
one shape after the other is tried.

## Main definitions

* `Launcher.Yaml.Content` — what a node holds, without places and styles.
* `Launcher.Yaml.Place.content` — the content of a node.
-/

namespace Launcher.Yaml

/-- What a node holds. -/
inductive Content where
  | scalar (value : ScalarValue)
  | sequence (items : List Content)
  | mapping (entries : List (Content × Content))
  deriving Repr, Inhabited

namespace Place

open Reader

/-- The complaint about a tag that would name a variant. -/
def taggedContent : String :=
  "untagged and internally tagged enums do not support enum input"

/-- The items of a sequence. -/
def contentItems (read : Place → Node → Reader Content) (p : Place) :
    List Node → (index : Nat) → Reader (List Content)
  | [], _ => pure []
  | n :: rest, index => do
    let content ← read (p.item index) n
    let others ← contentItems read p rest (index + 1)
    pure (content :: others)

/-- The entries of a mapping. -/
def contentEntries (read : Place → Node → Reader Content) (p : Place) :
    List (Node × Node) → Reader (List (Content × Content))
  | [] => pure []
  | (key, value) :: rest => do
    let name ← read p key
    let content ← read (p.child key) value
    let others ← contentEntries read p rest
    pure ((name, content) :: others)

/-- The content of a node, by what reads the nodes inside of it. -/
def contentBy (inner : Option (Place → Node → Reader Content)) (p : Place) (n : Node) :
    Reader Content :=
  p.enter n fun p n =>
    let refuseTag (tag : Option Tag) : Reader Unit :=
      if (tag.bind Tag.variant?).isSome && !p.inVariant then complain taggedContent else pure ()
    match n with
    | .scalar _ tag text style => do
      refuseTag tag
      match ScalarValue.read tag text style with
      | .ok (.wide _ _) => throw (n.unexpected "any value")
      | .ok value => pure (.scalar value)
      | .error complaint => complain complaint
    | .sequence mark tag items => do
      refuseTag tag
      match inner with
      | none => throw (.tooDeep mark)
      | some read => .sequence <$> contentItems read { p with inVariant := false } items 0
    | .mapping mark tag entries => do
      refuseTag tag
      match inner with
      | none => throw (.tooDeep mark)
      | some read => .mapping <$> contentEntries read { p with inVariant := false } entries
    | _ => pure (.scalar .null)

/-- The content of a node in which so many collections may be open inside of each other. -/
def contentTo : (depth : Nat) → Place → Node → Reader Content
  | 0 => contentBy none
  | depth + 1 => contentBy (some (contentTo depth))

/-- The content of a node. -/
def content (p : Place) (n : Node) : Reader Content :=
  contentTo p.depth p n

end Place

end Launcher.Yaml
