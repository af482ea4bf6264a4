import Launcher.Yaml.Event
import Launcher.Yaml.Fault
/-!
# Documents as trees

A document is read as far as it goes. If it turns out to be malformed, what stands before the
malformed place is still there, as a tree that is cut off: whoever looks at the tree in order
finds what is wrong with it first.

## Main definitions

* `Launcher.Yaml.Node` — a node of a document.
* `Launcher.Yaml.Document` — what has been read of the first document of a text.
* `Launcher.Yaml.Document.ofText` — the document of a text.
* `Launcher.Yaml.Document.root`, `target` — its root, and the node that an alias refers to.
-/

namespace Launcher.Yaml

/-- A node of a document. -/
inductive Node where
  | scalar (mark : Mark) (tag : Option Tag) (text : String) (style : ScalarStyle)
  | sequence (mark : Mark) (tag : Option Tag) (items : List Node)
  | mapping (mark : Mark) (tag : Option Tag) (entries : List (Node × Node))
  /-- A node that stands elsewhere, by the number of its anchor. -/
  | reference (mark : Mark) (anchor : Nat)
  /-- The content of a text without documents. -/
  | absent (mark : Mark)
  /-- The document cannot be read from here on. -/
  | cut
  deriving Repr, Inhabited

/-- A piece of a tree, in the order in which the pieces stand in the text. -/
inductive Piece where
  | leaf (node : Node)
  | sequenceStart (mark : Mark) (tag : Option Tag)
  | mappingStart (mark : Mark) (tag : Option Tag)
  | collectionEnd

/-- Nodes by twos, as the entries of a mapping. -/
def Node.entries : List Node → List (Node × Node)
  | key :: value :: rest => (key, value) :: Node.entries rest
  | [key] => [(key, .cut)]
  | [] => []

/-- The nodes of the innermost open collection, and those of the collections around it, from some
piece of a document to its end. -/
structure Levels where
  nodes : List Node
  outer : List (List Node) := []

namespace Levels

/-- The levels at the end of the pieces. A document that ends too early ends in a cut. -/
def finish (whole : Bool) : Levels :=
  { nodes := if whole then [] else [.cut] }

/-- The levels with the innermost collection made a node. What follows a collection that was cut
off is cut off too. -/
def wrap (l : Levels) (collection : List Node → Node) : Levels :=
  match l.outer with
  | nodes :: outer => ⟨collection l.nodes :: nodes, outer⟩
  | [] => ⟨[collection l.nodes, .cut], []⟩

/-- The levels from one piece further ahead. -/
def add (p : Piece) (l : Levels) : Levels :=
  match p with
  | .leaf node => { l with nodes := node :: l.nodes }
  | .sequenceStart mark tag => l.wrap (.sequence mark tag)
  | .mappingStart mark tag => l.wrap fun nodes => .mapping mark tag (Node.entries nodes)
  | .collectionEnd => ⟨[], l.nodes :: l.outer⟩

end Levels

/-- What has been read of the first document of a text. -/
structure Document where
  /-- Its pieces, in order. -/
  pieces : List Piece
  /-- For the number of an anchor, how many pieces stand before the anchored node. -/
  anchors : List (Nat × Nat) := []
  /-- Why it cannot be read to its end. -/
  fault : Option Fault := none
  /-- Something follows it that is not the end of the text. -/
  more : Bool := false

namespace Document

/-- The node that begins with a piece. -/
def nodeAt (d : Document) (index : Nat) : Node :=
  let levels := (d.pieces.drop index).foldr Levels.add (Levels.finish d.fault.isNone)
  levels.nodes.headD .cut

/-- The root. -/
def root (d : Document) : Node :=
  d.nodeAt 0

/-- The node of an anchor. -/
def target (d : Document) (anchor : Nat) : Node :=
  match d.anchors.find? fun entry => entry.1 == anchor with
  | some (_, index) => d.nodeAt index
  | none => .cut

end Document

/-- What is known while a document is read. -/
structure DocumentDraft where
  /-- The pieces, backwards. -/
  pieces : List Piece := []
  /-- How many pieces there are. -/
  count : Nat := 0
  /-- The number of each anchor by its name, the latest first. -/
  names : List (String × Nat) := []
  /-- For the number of an anchor, how many pieces stand before its node, the latest first. -/
  anchors : List (Nat × Nat) := []

namespace DocumentDraft

/-- The draft with one more piece. -/
def push (d : DocumentDraft) (p : Piece) : DocumentDraft :=
  { d with pieces := p :: d.pieces, count := d.count + 1 }

/-- The draft with an anchor at the next piece. Its number is that of the names so far; a name
that is used again keeps its place among them. -/
def anchor (d : DocumentDraft) (name : Option String) : DocumentDraft :=
  match name with
  | none => d
  | some name =>
    let number := d.names.length
    { d with
      names := (name, number) :: d.names.filter fun entry => entry.1 != name
      anchors := (number, d.count) :: d.anchors }

/-- The document of a draft. -/
def document (d : DocumentDraft) (fault : Option Fault) (more : Bool) : Document :=
  { pieces := d.pieces.reverse, anchors := d.anchors, fault, more }

/-- Reads a document to its end. `steps` bounds the number of events. -/
def read : (steps : Nat) → EventStream → DocumentDraft → Document
  | 0, _, d => d.document (some .malformed) false
  | steps + 1, s, d =>
    match s.next? with
    | none => d.document (some .malformed) false
    | some (event, mark, s) =>
      match event with
      | .streamEnd => (d.push (.leaf (.absent mark))).document none false
      | .documentStart => read steps s d
      | .documentEnd =>
        let ends := match s.next? with
          | some (.streamEnd, _, _) => true
          | _ => false
        d.document none !ends
      | .reference name =>
        match d.names.find? fun entry => entry.1 == name with
        | some (_, number) => read steps s (d.push (.leaf (.reference mark number)))
        | none => d.document (some (.unknownAnchor mark)) false
      | .scalar p text style =>
        read steps s ((d.anchor p.anchor).push (.leaf (.scalar mark p.tag text style)))
      | .sequenceStart p => read steps s ((d.anchor p.anchor).push (.sequenceStart mark p.tag))
      | .mappingStart p => read steps s ((d.anchor p.anchor).push (.mappingStart mark p.tag))
      | .sequenceEnd | .mappingEnd => read steps s (d.push .collectionEnd)

end DocumentDraft

namespace Document

/-- The document of a text. -/
def ofText (text : String) : Document :=
  -- every character makes at most a few tokens, and every token at most a few events
  DocumentDraft.read (10 * text.length + 100) { tokens := .ofText text.toList } {}

end Document

end Launcher.Yaml
