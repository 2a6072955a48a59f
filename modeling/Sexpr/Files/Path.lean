/-!
Paths: names of places in a file tree as they are written. Reading a path drops what says nothing:
repeated slashes, single dots and a slash at the end. Double dots stay, for where they lead depends
on the files.
-/

namespace Sexpr

/-- What a path starts with. Two slashes, no more and no less, are kept apart from one. -/
inductive Anchor where
  | none
  | slash
  | doubleSlash
  deriving DecidableEq

structure Path where
  anchor : Anchor
  parts : List String
  deriving DecidableEq

namespace Path

def pieces : List Char → List (List Char)
  | [] => [[]]
  | c :: rest =>
    if c = '/' then [] :: pieces rest
    else match pieces rest with
      | piece :: more => (c :: piece) :: more
      | [] => [[c]]

/-- The names between the slashes of a text as they stand, the empty ones and single dots among
them. -/
def names (text : String) : List String :=
  (pieces text.toList).map String.ofList

def components (text : String) : List String :=
  (names text).filter fun name => name ≠ "" ∧ name ≠ "."

def anchorOf : List Char → Anchor
  | '/' :: '/' :: '/' :: _ => .slash
  | '/' :: '/' :: _ => .doubleSlash
  | '/' :: _ => .slash
  | _ => .none

def ofText (text : String) : Path :=
  ⟨anchorOf text.toList, components text⟩

def ofLocation (names : List String) : Path :=
  ⟨.slash, names⟩

/-- The path as it is shown. The empty path is a dot. -/
def render (path : Path) : String :=
  let joined := "/".intercalate path.parts
  match path.anchor with
  | .none => if path.parts.isEmpty then "." else joined
  | .slash => "/" ++ joined
  | .doubleSlash => "//" ++ joined

/-- The last component; a path without components has the empty name. -/
def name (path : Path) : String :=
  path.parts.getLast?.getD ""

def parent (path : Path) : Path :=
  { path with parts := path.parts.dropLast }

def upTo (path : Path) (depth : Nat) : Path :=
  { path with parts := path.parts.take depth }

end Path

end Sexpr
