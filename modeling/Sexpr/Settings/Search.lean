import Sexpr.Breakdown
import Sexpr.Files.Resolution

/-!
Where settings files are looked for. The project's file is the nearest one on the way from a
directory up to the root; the way ends early at a directory that is the root of a project.
-/

namespace Sexpr.Search

/-- The names of a project's settings file, the preferred one first. -/
def fileNames : List String :=
  [".lispish.toml", "lispish.toml"]

def projectMark : String := ".git"

/-- A place and those above it, up to the root; the names of the place are given last first. -/
def upward : (reversed : List String) → List Location
  | [] => [[]]
  | name :: above => (name :: above).reverse :: upward above

def directories (start : Location) : List Location :=
  upward start.reverse

def firstFile (files : FileTree) : List Path → Except Breakdown (Option Path)
  | [] => .ok none
  | path :: paths =>
    match files.isFile [] path with
    | .ok true => .ok (some path)
    | .ok false => firstFile files paths
    | .error fault => .error (.files fault path)

def inDirectory (files : FileTree) (directory : Location) : Except Breakdown (Option Path) :=
  firstFile files (fileNames.map fun name => Path.ofLocation (directory ++ [name]))

def isProjectRoot (files : FileTree) (directory : Location) : Except Breakdown Bool :=
  let mark := Path.ofLocation (directory ++ [projectMark])
  (files.isThere [] mark).mapError (.files · mark)

/-- The first settings file in the directories. None behind the root of a project counts. -/
def firstIn (files : FileTree) : List Location → Except Breakdown (Option Path)
  | [] => .ok none
  | directory :: above =>
    match inDirectory files directory with
    | .error cause => .error cause
    | .ok (some path) => .ok (some path)
    | .ok none =>
      match isProjectRoot files directory with
      | .error cause => .error cause
      | .ok true => .ok none
      | .ok false => firstIn files above

def project (files : FileTree) (current : Location) (start : Path) :
    Except Breakdown (Option Path) :=
  if start.parts.any (·.contains '\x00') then .error (.nullInPath start)
  else match files.resolve current start with
    | .error _ => .error (.linkLoop start)
    | .ok place => firstIn files (directories place)

end Sexpr.Search
