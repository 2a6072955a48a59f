import Sexpr.Files.Fault

/-!
File trees: directories, files and symbolic links at their places, and what is denied there. Paths
are followed the way an operating system does it: name by name, through links, and back to the
parent at double dots. An operation does all that it is to do, or nothing: one that is cut short in
the middle of its work, with a file half written, is not considered.
-/

namespace Sexpr

/-- A place in a file tree: the names that lead to it from the root. -/
abbrev Location : Type := List String

/-- What stands at a place. A link holds a text that is read as a path whenever it is followed. -/
inductive Node where
  | file (content : List UInt8)
  | directory
  | link (target : String)
  deriving DecidableEq

/-- What a node is used for: a directory to look a name up in it or to make an entry there, and a
file to read or to write it. -/
inductive Access where
  | search | read | write
  deriving DecidableEq

/-- The nodes of a file tree below its root, which is a directory, and the uses that are denied. -/
structure FileTree where
  nodes : List (Location × Node)
  denials : List ((Location × Access) × Denial)
  deriving DecidableEq

inductive Place where
  | file (location : Location) (content : List UInt8)
  | directory (location : Location)
  | free (location : Location)

/-- What a path is followed for: to look at what is there, or to open a file for writing, which is
made where it is missing. -/
inductive Aim where
  | look | write
  deriving DecidableEq

namespace FileTree

def empty : FileTree :=
  ⟨[], []⟩

/-- What stands at a place itself, be it a link. -/
def node? (tree : FileTree) (location : Location) : Option Node :=
  if location = [] then some .directory else tree.nodes.lookup location

def denial? (tree : FileTree) (location : Location) (access : Access) : Option Denial :=
  if (tree.node? location).isSome then tree.denials.lookup (location, access) else none

/-- Puts a node at a place, over the one that is there. Nothing is denied of a new one. -/
def put (tree : FileTree) (location : Location) (node : Node) : FileTree :=
  if (tree.node? location).isSome then
    { tree with
      nodes := tree.nodes.map fun (other, old) => (other, if other = location then node else old) }
  else ⟨tree.nodes ++ [(location, node)], tree.denials.filter (·.1.1 ≠ location)⟩

def startOf (current : Location) (path : Path) : Location :=
  if path.anchor = .none then current else []

def linkLimit : Nat := 40

/-- The longest name that a directory holds, in bytes. -/
def nameLimit : Nat := 255

/-- The longest path that can be followed, in bytes. -/
def pathLimit : Nat := 4095

/-- Whether nothing but slashes follows a name, which then has to be that of a directory. -/
def closesWithSlash (rest : List String) : Bool :=
  !rest.isEmpty && rest.all (· == "")

/-- Follows names from a directory. Empty names say nothing; for all others the directory must be
open to search. Single dots stay where they are. No file can be made under a name with a slash
behind it, whatever is there. -/
def walk (tree : FileTree) (aim : Aim) (links : Nat) (location : Location) (names : List String) :
    Except OsFault Place :=
  match names with
  | [] => .ok (.directory location)
  | name :: rest =>
    if name = "" then tree.walk aim links location rest
    else match tree.denial? location .search with
      | some denial => .error (.denied denial)
      | none =>
        if name = "." then tree.walk aim links location rest
        else if name = ".." then tree.walk aim links location.dropLast rest
        else if aim = .write ∧ closesWithSlash rest then .error .isDirectory
        else if nameLimit < name.utf8ByteSize then .error .nameTooLong
        else match tree.node? (location ++ [name]) with
          | none => if rest.isEmpty then .ok (.free (location ++ [name])) else .error .notFound
          | some .directory => tree.walk aim links (location ++ [name]) rest
          | some (.file content) =>
            if rest.isEmpty then .ok (.file (location ++ [name]) content)
            else .error .notDirectory
          | some (.link target) =>
            match links with
            | 0 => .error .tooManyLinks
            | links + 1 =>
              tree.walk aim links (startOf location (.ofText target)) (Path.names target ++ rest)
termination_by (links, names.length)

def locate (tree : FileTree) (aim : Aim) (current : Location) (path : Path) :
    Except OsFault Place :=
  if pathLimit < path.render.utf8ByteSize then .error .nameTooLong
  else tree.walk aim linkLimit (startOf current path) path.parts

/-- Whether a path leads to a place of a kind. A path that leads nowhere does not. -/
def leadsTo (tree : FileTree) (current : Location) (path : Path) (kind : Place → Bool) :
    Except OsFault Bool :=
  match tree.locate .look current path with
  | .ok place => .ok (kind place)
  | .error fault => if fault.isAbsence then .ok false else .error fault

def isFile (tree : FileTree) (current : Location) (path : Path) : Except OsFault Bool :=
  tree.leadsTo current path fun
    | .file _ _ => true
    | _ => false

def isDirectory (tree : FileTree) (current : Location) (path : Path) : Except OsFault Bool :=
  tree.leadsTo current path fun
    | .directory _ => true
    | _ => false

def isThere (tree : FileTree) (current : Location) (path : Path) : Except OsFault Bool :=
  tree.leadsTo current path fun
    | .free _ => false
    | _ => true

def unlessDenied {α : Type} (tree : FileTree) (location : Location) (access : Access)
    (result : Except OsFault α) : Except OsFault α :=
  match tree.denial? location access with
  | some denial => .error (.denied denial)
  | none => result

/-- The bytes of a file. A directory is opened as a file is, and only then turned down. -/
def read (tree : FileTree) (current : Location) (path : Path) : Except OsFault (List UInt8) :=
  match tree.locate .look current path with
  | .ok (.file location content) => tree.unlessDenied location .read (.ok content)
  | .ok (.directory location) => tree.unlessDenied location .read (.error .isDirectory)
  | .ok (.free _) => .error .notFound
  | .error fault => .error fault

def write (tree : FileTree) (current : Location) (path : Path) (content : List UInt8) :
    Except OsFault FileTree :=
  match tree.locate .write current path with
  | .ok (.file location _) =>
    tree.unlessDenied location .write (.ok (tree.put location (.file content)))
  | .ok (.free location) =>
    tree.unlessDenied location.dropLast .write (.ok (tree.put location (.file content)))
  | .ok (.directory _) => .error .isDirectory
  | .error fault => .error fault

/-- Makes one directory, in one that is there. Its place must be free even of links; where dots or
no name at all lead, there is a directory already. -/
def makeDirectory (tree : FileTree) (current : Location) (path : Path) :
    Except OsFault FileTree :=
  if pathLimit < path.render.utf8ByteSize then .error .nameTooLong
  else match tree.locate .look current path.parent with
    | .ok (.directory location) =>
      if path.name = "" then .error .exists
      else tree.unlessDenied location .search <|
        if path.name = "." ∨ path.name = ".." then .error .exists
        else if nameLimit < path.name.utf8ByteSize then .error .nameTooLong
        else match tree.node? (location ++ [path.name]) with
          | none =>
            tree.unlessDenied location .write (.ok (tree.put (location ++ [path.name]) .directory))
          | some _ => .error .exists
    | .ok (.file _ _) => .error .notDirectory
    | .ok (.free _) => .error .notFound
    | .error fault => .error fault

/-- Why directories cannot all be made: the failure, the path that failed, and the files with those
directories that were made before. -/
structure Standstill where
  fault : OsFault
  path : Path
  files : FileTree

/-- What comes of a directory that could not be made: one that is there is as good. -/
def settle (tree : FileTree) (current : Location) (path : Path) (fault : OsFault) :
    Except Standstill FileTree :=
  match tree.isDirectory current path with
  | .ok true => .ok tree
  | .ok false => .error ⟨fault, path, tree⟩
  | .error worse => .error ⟨worse, path, tree⟩

/-- Makes the directory of the first `depth` components of a path and those above it that are
missing. -/
def makeDirectories (tree : FileTree) (current : Location) (path : Path) :
    (depth : Nat) → Except Standstill FileTree
  | 0 => .ok tree
  | depth + 1 =>
    let target := path.upTo (depth + 1)
    match tree.makeDirectory current target with
    | .ok made => .ok made
    | .error .notFound =>
      match tree.makeDirectories current path depth with
      | .error stop => .error stop
      | .ok grown =>
        match grown.makeDirectory current target with
        | .ok made => .ok made
        | .error fault => grown.settle current target fault
    | .error fault => tree.settle current target fault

end FileTree

end Sexpr
