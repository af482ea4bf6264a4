import Launcher.Host.Volume
/-!
# From the name of a program to what runs

A program is named by a path, or by a name that is looked for in some directories. A file whose
first line begins with `#!` is run by the interpreter that this line names.

## Main definitions

* `Launcher.Host.Image` — what runs: a program of the host with its arguments.
* `Launcher.Host.Volume.image` — the image of a path.
* `Launcher.Host.Volume.lookUp` — the image of a path or a name.
-/

namespace Launcher.Host

/-- What runs: a program of the host, under the name by which it was called, with its arguments. -/
structure Image where
  program : Program
  name : String
  arguments : List String
  deriving Repr, DecidableEq

namespace Volume

/-- The directories in which a program is looked for. -/
def searchPath : List String :=
  ["/usr/local/sbin", "/usr/local/bin", "/usr/sbin", "/usr/bin", "/sbin", "/bin"]

/-- So many interpreters may be named one after the other. -/
def interpreterLimit : Nat := 5

/-- An argument may have so many bytes. -/
def argumentLimit : Nat := 131071

/-- All arguments together may have so many bytes. -/
def argumentsLimit : Nat := 2000000

/-- The host takes some arguments. -/
def acceptsArguments (arguments : List String) : Bool :=
  arguments.all (fun a => a.utf8ByteSize ≤ argumentLimit) &&
    (arguments.map fun a => a.utf8ByteSize + 9).foldl (· + ·) 0 ≤ argumentsLimit

/-- A blank or a tab. -/
def isGap (b : UInt8) : Bool :=
  b == 32 || b == 9

/-- The interpreter and its argument in the first line of a file. -/
def interpreter? (bytes : List UInt8) : Option (String × List String) :=
  match bytes with
  | 35 :: 33 :: rest =>
    let line := (rest.takeWhile (· != 10)).dropWhile isGap
    let trimmed := (line.reverse.dropWhile isGap).reverse
    let name := trimmed.takeWhile fun b => !isGap b
    let argument := (trimmed.drop name.length).dropWhile isGap
    if name.isEmpty then none
    else some (Text.Utf8.decodeLossy name,
      if argument.isEmpty then [] else [Text.Utf8.decodeLossy argument])
  | _ => none

/-- The image of a path from a directory. -/
def image (v : Volume) (here : Location) (path : String) (arguments : List String) :
    (limit : Nat) → Except Errno Image
  | 0 => .error .tooManyLinks
  | limit + 1 =>
    match v.find here path with
    | .error e => .error e
    | .ok (.free _) => .error .noEntry
    | .ok (.present b) =>
      if b.mode &&& 0o111 = 0 then .error .accessDenied
      else
        match b.node with
        | .directory | .null | .full => .error .accessDenied
        | .program program =>
          if acceptsArguments (path :: arguments) then .ok ⟨program, path, arguments⟩
          else .error .tooManyArguments
        | .file number =>
          match interpreter? (v.bytes number) with
          | some (name, options) => v.image here name (options ++ path :: arguments) limit
          | none => .error .notExecutable

/-- The image of a name that is looked for in some directories. One that may not be run is passed
over; it is told when there is no other. -/
def search (v : Volume) (here : Location) (name : String) (arguments : List String) :
    (directories : List String) → (fault : Errno) → Except Errno Image
  | [], fault => .error fault
  | directory :: rest, fault =>
    match v.image here (directory ++ "/" ++ name) arguments interpreterLimit with
    | .ok image => .ok { image with name := if image.arguments == arguments then name else image.name }
    | .error e =>
      if e = .noEntry || e = .notDirectory then v.search here name arguments rest fault
      else if e = .accessDenied then v.search here name arguments rest e
      else .error e

/-- The image of a path, or of a name without a slash. -/
def lookUp (v : Volume) (here : Location) (program : String) (arguments : List String) :
    Except Errno Image :=
  if program.toList.contains '/' then v.image here program arguments interpreterLimit
  else if program.isEmpty then .error .noEntry
  else if nameLimit < program.utf8ByteSize then .error .nameTooLong
  else v.search here program arguments searchPath .noEntry

end Volume

end Launcher.Host
