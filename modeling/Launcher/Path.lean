/-!
# Paths

A path is a string. Two paths are the same when they have the same components: repeated and
trailing slashes do not count, nor does a `.` behind the first component; a leading `.` does.

## Main definitions

* `Launcher.Path.components` — the components of a path.
* `Launcher.Path.same` — equality of paths.
-/

namespace Launcher.Path

/-- The pieces of a text between slashes. -/
def pieces : List Char → List (List Char)
  | [] => [[]]
  | '/' :: rest => [] :: pieces rest
  | c :: rest =>
    match pieces rest with
    | [] => [[c]]
    | piece :: others => (c :: piece) :: others

/-- The components of a path: the root as `/` when there is one, a leading `.`, and the names.
Empty pieces and every other `.` are left out. -/
def components (path : String) : List String :=
  let names := ((pieces path.toList).map String.ofList).filter fun n => n != "" && n != "."
  match pieces path.toList with
  | [] :: _ :: _ => "/" :: names
  | ['.'] :: _ => "." :: names
  | _ => names

/-- Two paths have the same components. -/
def same (p q : String) : Bool :=
  components p == components q

/-- Two paths, where there may be none, are the same. -/
def sameOption : Option String → Option String → Bool
  | none, none => true
  | some p, some q => same p q
  | _, _ => false

end Launcher.Path
