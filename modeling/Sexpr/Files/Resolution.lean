import Sexpr.Files.Tree

/-!
Resolution: the place that a path names once the links on it are replaced by what they say. However
many links there are, all are followed, and names that lead nowhere are kept, as are links that
cannot be looked at. Only a link that leads back to itself stays: from there on the path is taken as
it is written.
-/

namespace Sexpr.FileTree

/-- Names as they are written behind a place and a slash. With a slash of their own at the front
they start at the root. -/
def spelled (location : Location) : (names : List String) → List String
  | "" :: name :: names => name :: names
  | names => location ++ names

/-- The place that names lead to when double dots undo the name before them. -/
def tidy (names : List String) : Location :=
  names.foldl (fun location name =>
    if name = "" ∨ name = "." then location
    else if name = ".." then location.dropLast
    else location ++ [name]) []

def linkPlaces (tree : FileTree) : List Location :=
  tree.nodes.filterMap fun
    | (location, .link _) => some location
    | _ => none

/-- What the link at a place says, if there is one and it can be looked at. -/
def target? (tree : FileTree) (place : Location) : Option String :=
  match tree.node? place with
  | some (.link target) =>
    if (Path.ofLocation place).render.utf8ByteSize ≤ pathLimit ∧
        ∀ depth < place.length, tree.denial? (place.take depth) .search = none then some target
    else none
  | _ => none

/-- Follows names from a place with the links that are not being followed already. A link that is
comes back as an error, with all the names from the root on. -/
def follow (tree : FileTree) (links : List Location) (location : Location) (names : List String) :
    Except (List String) Location :=
  match names with
  | [] => .ok location
  | name :: rest =>
    if name = "" ∨ name = "." then tree.follow links location rest
    else if name = ".." then tree.follow links location.dropLast rest
    else match tree.target? (location ++ [name]) with
      | some target =>
        if _h : location ++ [name] ∈ links then
          match tree.follow (links.erase (location ++ [name]))
              (startOf location (.ofText target)) (Path.names target) with
          | .ok found => tree.follow links found rest
          | .error written => .error (spelled written rest)
        else .error (spelled (location ++ [name]) rest)
      | none => tree.follow links (location ++ [name]) rest
termination_by (links.length, names.length)
decreasing_by
  all_goals simp_wf
  all_goals first
    | have := List.length_erase_of_mem _h
      have := List.length_pos_of_mem _h
      omega
    | exact Prod.Lex.right _ (by omega)

/-- The place that a path names. It fails where no way through the links can be found. -/
def resolve (tree : FileTree) (current : Location) (path : Path) : Except OsFault Location :=
  match tree.follow tree.linkPlaces (startOf current path) path.parts with
  | .ok location => .ok location
  | .error written =>
    match tree.locate .look [] (.ofLocation (tidy written)) with
    | .error .tooManyLinks => .error .tooManyLinks
    | _ => .ok (tidy written)

end Sexpr.FileTree
