import Launcher.Host.Call
import Launcher.Path
import Launcher.Text.Utf8
/-!
# Files

The files of the host form a tree of directories. A path is looked up name by name; the way may
run only through directories.

## Main definitions

* `Launcher.Host.Node` — what a name in a directory stands for.
* `Launcher.Host.Volume` — the tree, and the bytes of its files.
* `Launcher.Host.Volume.find` — what a path leads to.
* `Launcher.Host.Volume.openFile` — a file opened for reading or writing.
-/

namespace Launcher.Host

/-- The programs that the host has. -/
inductive Program where
  | shell
  | cat
  | sleep
  | succeed
  | fail
  | printf
  | echo
  deriving Repr, DecidableEq

/-- What a name in a directory stands for. -/
inductive Node where
  | directory
  /-- A file, by the number of its bytes. -/
  | file (number : Nat)
  /-- A file that is always empty, whatever is written to it. -/
  | null
  /-- A file that has no space for anything. -/
  | full
  /-- A program of the host. -/
  | program (program : Program)
  deriving Repr, DecidableEq

/-- A place in the tree: the names on the way to it from the root. -/
abbrev Location := List String

/-- A name in the tree. -/
structure Binding where
  location : Location
  node : Node
  /-- Who may do what with it. -/
  mode : Nat
  deriving Repr, DecidableEq

/-- The tree of files, and the bytes of each file by its number. -/
structure Volume where
  bindings : List Binding := []
  contents : List (Nat × List UInt8) := []
  /-- The number of the next file. -/
  next : Nat := 0

/-- What a path leads to. -/
inductive Found where
  /-- Something that is there. -/
  | present (binding : Binding)
  /-- A name that is not there, in a directory that is. -/
  | free (location : Location)

/-- What an open file leads to. -/
inductive Channel where
  | file (number : Nat)
  | null
  | full
  /-- A directory, which can be opened and not read. -/
  | directory
  /-- What is written to it waits there, under this number, until it is read. -/
  | pipe (number : Nat)
  /-- A text that was made when the file was opened. -/
  | text (bytes : List UInt8)
  deriving Repr, DecidableEq

namespace Volume

/-- What stands at a place. The root is always there. -/
def at? (v : Volume) (l : Location) : Option Binding :=
  if l.isEmpty then some ⟨[], .directory, 0o755⟩ else v.bindings.find? fun b => b.location == l

/-- The bytes of a file. -/
def bytes (v : Volume) (number : Nat) : List UInt8 :=
  match v.contents.find? fun entry => entry.1 == number with
  | some (_, bytes) => bytes
  | none => []

/-- The volume with other bytes in a file. -/
def setBytes (v : Volume) (number : Nat) (bytes : List UInt8) : Volume :=
  { v with contents := (number, bytes) :: v.contents.filter fun entry => entry.1 != number }

/-- The volume with something at a place, in addition to all else. -/
def bind (v : Volume) (l : Location) (node : Node) (mode : Nat) : Volume :=
  { v with bindings := v.bindings.filter (fun b => b.location != l) ++ [⟨l, node, mode⟩] }

/-- The volume with nothing at a place. -/
def unbind (v : Volume) (l : Location) : Volume :=
  { v with bindings := v.bindings.filter fun b => b.location != l }

/-- The volume with a new file at a place. -/
def create (v : Volume) (l : Location) (mode : Nat) (bytes : List UInt8) : Volume :=
  let v := (v.bind l (.file v.next) mode).setBytes v.next bytes
  { v with next := v.next + 1 }

/-- The volume with a number for bytes that belong to no name. -/
def reserve (v : Volume) : Nat × Volume :=
  (v.next, { v with next := v.next + 1 })

/-! ## Paths -/

/-- The names of a path, without the empty ones. -/
def names (path : String) : List String :=
  ((Path.pieces path.toList).map String.ofList).filter fun name => !name.isEmpty

/-- A path that begins at the root. -/
def isAbsolute (path : String) : Bool :=
  path.toList.head? == some '/'

/-- A name may have so many bytes. -/
def nameLimit : Nat := 255

/-- A path may have so many bytes. -/
def pathLimit : Nat := 4095

/-- Walks from a directory along some names. -/
def walk (v : Volume) : (here : Location) → List String → Except Errno Found
  | here, [] =>
    match v.at? here with
    | some b => .ok (.present b)
    | none => .error .noEntry
  | here, name :: rest =>
    match v.at? here with
    | none => .error .noEntry
    | some b =>
      if b.node ≠ .directory then .error .notDirectory
      else if name == "." then walk v here rest
      else if name == ".." then walk v here.dropLast rest
      else if nameLimit < name.utf8ByteSize then .error .nameTooLong
      else if rest.isEmpty && (v.at? (here ++ [name])).isNone then .ok (.free (here ++ [name]))
      else walk v (here ++ [name]) rest

/-- Where a path begins, and the names on it. -/
def steps? (here : Location) (path : String) : Except Errno (Location × List String) :=
  if path.isEmpty then .error .noEntry
  else if pathLimit < path.utf8ByteSize then .error .nameTooLong
  else .ok (if isAbsolute path then [] else here, names path)

/-- A path that ends in a slash, which only directories have. -/
def endsInSlash (path : String) : Bool :=
  path.toList.getLast? == some '/'

/-- What a path leads to from a directory. A path that ends in a slash leads to a directory or to
nothing. -/
def find (v : Volume) (here : Location) (path : String) : Except Errno Found := do
  let (start, names) ← steps? here path
  match ← v.walk start names with
  | .present b =>
    if endsInSlash path && b.node ≠ .directory then .error .notDirectory else .ok (.present b)
  | .free l => if endsInSlash path then .error .noEntry else .ok (.free l)

/-- The directory that the last name of a path is looked up in. -/
def findParent (v : Volume) (here : Location) (path : String) : Except Errno Location := do
  let (start, names) ← steps? here path
  match ← v.walk start names.dropLast with
  | .present b => if b.node = .directory then .ok b.location else .error .notDirectory
  | .free _ => .error .noEntry

/-- There is a directory at a path. -/
def isDirectory (v : Volume) (here : Location) (path : String) : Bool :=
  match v.find here path with
  | .ok (.present b) => b.node == .directory && !path.toList.contains '\x00'
  | _ => false

/-! ## Opening -/

/-- The bytes at the beginning of a program, which are no text. -/
def programBytes : List UInt8 := [0x7F, 0x45, 0x4C, 0x46, 0x02, 0x01, 0x01, 0x00, 0xFF]

/-- Opens what a path leads to. A program that is emptied becomes an empty file. -/
def openFound (v : Volume) (found : Found) (mode : OpenMode) : Except Errno (Channel × Volume) :=
  let writes := mode ≠ .read
  match found with
  | .free l => if writes then .ok (.file v.next, v.create l 0o644 []) else .error .noEntry
  | .present b =>
    match b.node with
    | .directory => if writes then .error .isDirectory else .ok (.directory, v)
    | .null => .ok (.null, v)
    | .full => .ok (.full, v)
    | .program _ =>
      if mode = .create then .ok (.file v.next, v.create b.location b.mode [])
      else .ok (.text programBytes, v)
    | .file number => .ok (.file number, if mode = .create then v.setBytes number [] else v)

/-- Opens a file, as a mode says. A new file gets the usual mode. Behind a slash there is nothing to
be written, whatever the last name stands for. -/
def openFile (v : Volume) (here : Location) (path : String) (mode : OpenMode) :
    Except Errno (Channel × Volume) := do
  if mode ≠ .read && endsInSlash path then
    let _ ← v.findParent here path
    .error .isDirectory
  else v.openFound (← v.find here path) mode

/-- Reads a whole file. -/
def read (v : Volume) (here : Location) (path : String) : Except Errno (List UInt8) :=
  match v.find here path with
  | .error e => .error e
  | .ok (.free _) => .error .noEntry
  | .ok (.present b) =>
    match b.node with
    | .directory => .error .isDirectory
    | .file number => .ok (v.bytes number)
    | .program _ => .ok programBytes
    | .null | .full => .ok []

/-! ## Making and listing -/

/-- Makes a directory, with those that it is in. -/
def makeDirectories (v : Volume) (l : Location) : Volume :=
  (List.range (l.length + 1)).foldl
    (fun v n => if (v.at? (l.take n)).isNone then v.bind (l.take n) .directory 0o755 else v) v

/-- The place that a path names from a directory, as far as names tell. -/
def locate (here : Location) (path : String) : Location :=
  (names path).foldl
    (fun l name => if name == "." then l else if name == ".." then l.dropLast else l ++ [name])
    (if isAbsolute path then [] else here)

/-- Everything below a directory: the path from it, and the bytes of a file. -/
def listing (v : Volume) (here : Location) : List (String × Option (List UInt8)) :=
  v.bindings.filterMap fun b =>
    if here.isPrefixOf b.location && b.location ≠ here then
      let path := "/".intercalate (b.location.drop here.length)
      match b.node with
      | .directory => some (path ++ "/", none)
      | .file number => some (path, some (v.bytes number))
      | .null | .full | .program _ => some (path, some [])
    else none

end Volume

end Launcher.Host
