import Launcher.Text.Utf8
/-!
# Tags

A tag says what a node is. It is a string of bytes without a zero byte: escapes in a document can
make any other byte, so a tag need not be a text.

## Main definitions

* `Launcher.Yaml.Tag` — a tag.
* `Launcher.Yaml.Tag.cut` — the tag of some bytes, which ends in front of a zero byte.
* `Launcher.Yaml.Tag.null`, `bool`, `int`, `float` — the tags of the simple kinds of scalars.
* `Launcher.Yaml.Tag.variant?` — the name in a tag that names a variant.

## Main results

* `Launcher.Yaml.Tag.isLocal_of_variant?` — only a tag that begins with `!` names a variant.
-/

namespace Launcher.Yaml

/-- What a node is said to be. -/
structure Tag where
  bytes : List UInt8
  deriving Repr, DecidableEq, Inhabited

namespace Tag

/-- The tag of a text. -/
def ofText (text : String) : Tag :=
  ⟨Text.Utf8.encode text⟩

/-- The tag of some bytes. It ends in front of the first zero byte. -/
def cut (bytes : List UInt8) : Tag :=
  ⟨bytes.takeWhile (· != 0)⟩

/-- One tag behind another one, as one tag. -/
def append (t t' : Tag) : Tag :=
  ⟨t.bytes ++ t'.bytes⟩

/-- The tag has no bytes. -/
def isEmpty (t : Tag) : Bool :=
  t.bytes.isEmpty

/-- What the tags of the simple kinds begin with. -/
def core : Tag := ofText "tag:yaml.org,2002:"

/-- The tag of truth values. -/
def bool : Tag := core.append (ofText "bool")

/-- The tag of whole numbers. -/
def int : Tag := core.append (ofText "int")

/-- The tag of numbers. -/
def float : Tag := core.append (ofText "float")

/-- The tag of null. -/
def null : Tag := core.append (ofText "null")

/-- The byte of `!`. -/
def mark : UInt8 := 0x21

/-- The tag begins with `!`. -/
def isLocal (t : Tag) : Bool :=
  t.bytes.head? == some mark

/-- The name in a tag that names a variant: what stands behind its `!`, or the `!` itself. Bytes
that are no text name nothing. -/
def variant? (t : Tag) : Option String :=
  match t.bytes with
  | b :: name =>
    if b = mark then if name.isEmpty then some "!" else Text.Utf8.decode? name else none
  | [] => none

/-- A tag that names a variant begins with the mark of local tags. -/
theorem isLocal_of_variant? {t : Tag} {name : String} (h : t.variant? = some name) :
    t.isLocal = true := by
  unfold variant? at h
  split at h
  · next b rest hb =>
    split at h
    · next hm => simp [isLocal, hb, hm]
    · simp at h
  · simp at h

end Tag

end Launcher.Yaml
