import Launcher.Host.Machine.Basic
/-!
# A new machine

## Main definitions

* `Launcher.Host.Machine.base` — a machine on which nothing has happened yet.
* `Launcher.Host.Machine.withDirectory`, `withFile` — a machine with more in its tree of files.
* `Launcher.Host.Machine.withOutput` — a machine that keeps what the launcher prints.
-/

namespace Launcher.Host.Machine

/-! ## The tree of files -/

/-- The directories of a new machine, apart from those of programs. -/
def baseDirectories : List Location :=
  [["boot"], ["dev"], ["dev", "shm"], ["etc"], ["home"], ["lib"], ["media"], ["mnt"], ["opt"],
    ["proc"], ["root"], ["run"], ["srv"], ["sys"], ["tmp"], ["usr", "lib"], ["usr", "share"], ["var"],
    ["var", "lib"], ["var", "log"], ["var", "tmp"]]

/-- The directories of programs. -/
def programDirectories : List Location :=
  [["usr", "local", "sbin"], ["usr", "local", "bin"], ["usr", "sbin"], ["usr", "bin"], ["sbin"],
    ["bin"]]

/-- The programs of a new machine, by their names. -/
def programs : List (String × Program) :=
  [("sh", .shell), ("dash", .shell), ("cat", .cat), ("sleep", .sleep), ("true", .succeed),
    ("false", .fail), ("printf", .printf), ("echo", .echo)]

/-- The files of a new machine. -/
def baseVolume (here : Location) : Volume :=
  let v := (baseDirectories ++ programDirectories ++ [here]).foldl Volume.makeDirectories {}
  let v := (v.bind ["dev", "null"] .null 0o666).bind ["dev", "full"] .full 0o666
  let v := [["usr", "bin"], ["bin"]].foldl
    (fun v directory =>
      programs.foldl
        (fun v (name, program) => v.bind (directory ++ [name]) (.program program) 0o755) v) v
  v.create ["etc", "passwd"] 0o644 (Text.Utf8.encode "root:x:0:0:root:/root:/bin/sh\n")

/-- Where the launcher is on a new machine. -/
def basePlace : Location := ["tmp", "work"]

/-- The process of the launcher on a new machine. -/
def basePid : Pid := 1000

/-- A machine on which nothing has happened yet. The launcher has standard streams that lead to
nowhere. -/
def base : Machine :=
  let files : Files := { volume := baseVolume basePlace }
  let (number, files) := files.openNull
  { files
    own := basePid
    here := basePlace
    descriptors := [(0, number), (1, number), (2, number)]
    table :=
      { entries := [{ pid := basePid, parent := 0, group := basePid }], next := basePid + 1 } }

/-! ## What is put there first -/

/-- A machine with a directory at a path, and those that it is in. -/
def withDirectory (m : Machine) (path : String) (mode : Nat) : Machine :=
  let l := Volume.locate m.here path
  let v := m.files.volume.makeDirectories l
  { m with files := { m.files with volume := v.bind l .directory mode } }

/-- A machine with a file at a path. -/
def withFile (m : Machine) (path : String) (bytes : List UInt8) (mode : Nat) : Machine :=
  let l := Volume.locate m.here path
  let v := m.files.volume.makeDirectories l.dropLast
  { m with files := { m.files with volume := v.create l mode bytes } }

/-! ## What the launcher prints -/

/-- A machine on which standard output and standard error of the launcher lead to two files that
have no name, and the numbers of these files. -/
def withOutput (m : Machine) : Nat × Nat × Machine :=
  let out := m.files.volume.next
  let volume := { m.files.volume with next := out + 2 }
  let (stdout, files) := { m.files with volume }.hold { channel := .file out, mode := .create }
  let (stderr, files) := files.hold { channel := .file (out + 1), mode := .create }
  let descriptors := m.descriptors.map fun (d, number) =>
    (d, if d = 1 then stdout else if d = 2 then stderr else number)
  (out, out + 1, { m with files, descriptors })

end Launcher.Host.Machine
