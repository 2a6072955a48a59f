import Sexpr.Position
import Sexpr.Token

/-!
Trees of derivations. A leaf is a word of a token class, a branch is one use of a grammar rule; the
two kinds of symbols cannot be mixed up inside a tree.
-/

namespace Sexpr

/-- A leaf holds a word, a branch its parts in the order of the text. -/
inductive Tree where
  | leaf (cls : TokenClass) (text : String)
  | branch (rule : Rule) (children : List Tree)

/-- Why a part of a tree cannot be had: a leaf has none, or the index leads to none. -/
inductive AccessFault where
  | leafHasNoParts
  | index (fault : IndexFault)
  deriving DecidableEq

namespace Tree

def symbol : Tree → Symbol
  | .leaf cls _ => .lexical cls
  | .branch rule _ => .grammar rule

/-- The word of a leaf; a branch has none of its own. -/
def text : Tree → String
  | .leaf _ text => text
  | .branch _ _ => ""

def children : Tree → List Tree
  | .leaf _ _ => []
  | .branch _ children => children

def isLeaf : Tree → Bool
  | .leaf _ _ => true
  | .branch _ _ => false

/-- A leaf of the given kind, which has to be a token class. -/
def makeLeaf (kind : Symbol) (text : String) : Except KindFault Tree :=
  match kind with
  | .lexical cls => .ok (.leaf cls text)
  | .grammar rule => .error (.leafOfRule rule)

def makeBranch (kind : Symbol) (children : List Tree) : Except KindFault Tree :=
  match kind with
  | .lexical cls => .error (.branchOfClass cls)
  | .grammar rule => .ok (.branch rule children)

/-- The leaf of a token. Its offset does not enter the tree. -/
def ofToken (token : Token) : Except KindFault Tree :=
  makeLeaf token.kind token.text

mutual
def same : Tree → Tree → Bool
  | .leaf cls text, .leaf cls' text' => cls == cls' && text == text'
  | .branch rule children, .branch rule' children' => rule == rule' && sameAll children children'
  | _, _ => false

def sameAll : List Tree → List Tree → Bool
  | [], [] => true
  | tree :: trees, tree' :: trees' => same tree tree' && sameAll trees trees'
  | _, _ => false
end

instance : BEq Tree := ⟨same⟩

def child (tree : Tree) (index : Int) : Except AccessFault Tree :=
  match tree with
  | .leaf _ _ => .error .leafHasNoParts
  | .branch _ children =>
    match Index.place children.length index with
    | .error fault => .error (.index fault)
    | .ok place => match children[place]? with
      | some found => .ok found
      | none => .error (.index .outOfRange)

/-- One node in a message: a leaf with its word, a branch with the count of its parts. -/
def summary : Tree → String
  | .leaf cls text => "Leaf(" ++ cls.name ++ ", " ++ Text.quoted text ++ ")"
  | .branch rule children =>
    "Branch(" ++ rule.name ++ ", [" ++ toString children.length ++ " children])"

end Tree

end Sexpr
