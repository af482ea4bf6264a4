import Launcher.Host.Volume
/-!
# Open files

A file is opened once and may then be held under several descriptors, by the same process or by
others. They share the place up to which it has been read or written.

## Main definitions

* `Launcher.Host.OpenFile` — a file that has been opened.
* `Launcher.Host.Files` — the tree of files, and the open files by their numbers.
* `Launcher.Host.Files.write`, `read` — bytes to and from an open file.
-/

namespace Launcher.Host

/-- A file that has been opened. -/
structure OpenFile where
  channel : Channel
  mode : OpenMode
  /-- Up to where it has been read or written. -/
  offset : Nat := 0
  deriving Repr, DecidableEq

/-- The tree of files, and the open files. The number of an open file is its place in the list. -/
structure Files where
  volume : Volume := {}
  opened : List OpenFile := []

namespace Files

/-- The files with one more open file, and its number. -/
def hold (f : Files) (o : OpenFile) : Nat × Files :=
  (f.opened.length, { f with opened := f.opened ++ [o] })

/-- The files with another place in an open file. -/
def seek (f : Files) (number offset : Nat) : Files :=
  { f with opened := f.opened.modify number fun o => { o with offset } }

/-- Opens a file by its path from a directory. -/
def openAt (f : Files) (here : Location) (path : String) (mode : OpenMode) :
    Except Errno (Nat × Files) := do
  let (channel, volume) ← f.volume.openFile here path mode
  pure ({ f with volume }.hold { channel, mode })

/-- Opens a file that is always empty. -/
def openNull (f : Files) : Nat × Files :=
  f.hold { channel := .null, mode := .append }

/-- A pipe: an open file for reading, and one for writing what is read there. -/
def openPipe (f : Files) : Nat × Nat × Files :=
  let (number, volume) := f.volume.reserve
  let (reading, f) := { f with volume }.hold { channel := .pipe number, mode := .read }
  let (writing, f) := f.hold { channel := .pipe number, mode := .append }
  (reading, writing, f)

/-- The pipe that an open file is an end of. -/
def pipe? (f : Files) (number : Nat) : Option Nat :=
  match f.opened[number]? with
  | some o =>
    match o.channel with
    | .pipe pipe => some pipe
    | _ => none
  | none => none

/-- An open file is the end of a pipe at which it is written. -/
def isSource (f : Files) (pipe number : Nat) : Bool :=
  f.pipe? number == some pipe && (f.opened[number]?).any fun o => o.mode ≠ .read

/-- An open file is the end of a pipe at which it is read. -/
def isSink (f : Files) (pipe number : Nat) : Bool :=
  f.pipe? number == some pipe && (f.opened[number]?).any fun o => o.mode = .read

/-! ## Writing -/

/-- Some bytes with others put over them from a place on. A gap before that place is filled with
zeros. -/
def overlay (old : List UInt8) (offset : Nat) (new : List UInt8) : List UInt8 :=
  let front := old.take offset
  front ++ List.replicate (offset - front.length) 0 ++ new ++ old.drop (offset + new.length)

/-- Writes bytes to an open file. -/
def write (f : Files) (number : Nat) (bytes : List UInt8) : Except Errno Files :=
  match f.opened[number]? with
  | none => .error .badDescriptor
  | some o =>
    match o.mode, o.channel with
    | .read, _ => .error .badDescriptor
    | _, .full => if bytes.isEmpty then .ok f else .error .noSpace
    | .create, .file file =>
      let volume := f.volume.setBytes file (overlay (f.volume.bytes file) o.offset bytes)
      .ok ({ f with volume }.seek number (o.offset + bytes.length))
    | _, .pipe pipe => .ok { f with volume := f.volume.setBytes pipe (f.volume.bytes pipe ++ bytes) }
    | .append, .file file =>
      let written := f.volume.bytes file ++ bytes
      .ok ({ f with volume := f.volume.setBytes file written }.seek number written.length)
    | _, _ => .ok f

/-! ## Reading -/

/-- The bytes that are left to be read of an open file. -/
def rest (f : Files) (number : Nat) : Except Errno (List UInt8) :=
  match f.opened[number]? with
  | none => .error .badDescriptor
  | some o =>
    match o.channel, o.mode with
    | .null, _ | .full, .read => .ok []
    | _, .create | _, .append => .error .badDescriptor
    | .directory, _ => .error .isDirectory
    | .file file, _ => .ok ((f.volume.bytes file).drop o.offset)
    | .pipe pipe, _ => .ok (f.volume.bytes pipe)
    | .text bytes, _ => .ok (bytes.drop o.offset)

/-- Passes over some bytes of an open file. They leave a pipe. -/
def skip (f : Files) (number count : Nat) : Files :=
  match f.opened[number]? with
  | some o =>
    match o.channel with
    | .pipe pipe =>
      { f with volume := f.volume.setBytes pipe ((f.volume.bytes pipe).drop count) }
    | _ => f.seek number (o.offset + count)
  | none => f

/-- Reads all that is left of an open file. -/
def readAll (f : Files) (number : Nat) : Except Errno (List UInt8 × Files) := do
  let bytes ← f.rest number
  pure (bytes, f.skip number bytes.length)

/-- Reads a line, and tells whether it has an end. -/
def readLine (f : Files) (number : Nat) : Except Errno (List UInt8 × Bool × Files) := do
  let bytes ← f.rest number
  let line := bytes.takeWhile (· != 10)
  let ended := line.length < bytes.length
  pure (line, ended, f.skip number (line.length + if ended then 1 else 0))

end Files

end Launcher.Host
