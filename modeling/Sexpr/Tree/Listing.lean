import Sexpr.Breakdown
import Sexpr.Tree.Walk

/-!
Listings: a tree as indented lines, one node a line, each before its children.
-/

namespace Sexpr.Tree

/-- The line of a node: a margin, the name of its symbol filled up so that the words of all nodes
stand in one column, and the word. Names that reach beyond the column push their word aside. -/
def line (margin : String) (column : Int) (node : Tree) : String :=
  margin ++ Text.padRight (column - margin.length).toNat node.symbol.name ++ " " ++ node.text

theorem sizeAll_map_snd_children (margin : String) (trees : List Tree) :
    sizeAll ((trees.map (margin, ·)).map (·.2)) = sizeAll trees := by
  simp [Function.comp_def]

/-- The lines of the pending trees, each before those of its children. Every pending tree has the
margin of its first line with it; those of its children are two spaces wider. -/
def listingLines (column : Int) : (pending : List (String × Tree)) → List String
  | [] => []
  | (margin, tree) :: pending =>
    tree.line margin column ::
      listingLines column (tree.children.map (margin ++ "  ", ·) ++ pending)
termination_by pending => sizeAll (pending.map (·.2))
decreasing_by
  have := sizeAll_children_lt tree
  rw [List.map_append, sizeAll_append, sizeAll_map_snd_children]
  simp only [List.map_cons, sizeAll]
  omega

def listing (tree : Tree) (margin : String) (column : Int) : String :=
  "\n".intercalate (listingLines column [(margin, tree)])

/-- What writing a listing breaks down at, if at anything. The first line has the widest column. -/
def listingObstacle? (limits : Limits) (margin : String) (column : Int) : Option Breakdown :=
  Breakdown.ofWidth? limits (column - margin.length)

def writeListing (limits : Limits) (tree : Tree) (margin : String) (column : Int) :
    Except Breakdown String :=
  match listingObstacle? limits margin column with
  | some cause => .error cause
  | none => .ok (tree.listing margin column)

end Sexpr.Tree
