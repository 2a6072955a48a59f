import Sexpr.Text.Quoted

/-!
Symbols name the nodes of a derivation: token classes stand at its leaves, grammar rules inside.
-/

namespace Sexpr

/-- The classes into which the words of a text fall. `invalid` is no word's class: it marks the
place behind the last token. -/
inductive TokenClass where
  | literal | real | int | string | id | invalid
  deriving DecidableEq

inductive Rule where
  | program | sexpr | list | seq | atom
  deriving DecidableEq

inductive Symbol where
  | lexical (cls : TokenClass)
  | grammar (rule : Rule)
  deriving DecidableEq

inductive KindFault where
  | unknown (name : String)
  | leafOfRule (rule : Rule)
  | branchOfClass (cls : TokenClass)
  deriving DecidableEq

def TokenClass.name : TokenClass → String
  | .literal => "LITERAL"
  | .real => "REAL"
  | .int => "INT"
  | .string => "STRING"
  | .id => "ID"
  | .invalid => "INVALID"

def Rule.name : Rule → String
  | .program => "Program"
  | .sexpr => "SExpr"
  | .list => "List"
  | .seq => "Seq"
  | .atom => "Atom"

/-- The classes a strict grammar takes as atoms. -/
def TokenClass.isAtomic : TokenClass → Bool
  | .id | .int | .real | .string => true
  | .literal | .invalid => false

namespace Symbol

def name : Symbol → String
  | .lexical cls => cls.name
  | .grammar rule => rule.name

def isLexical : Symbol → Bool
  | .lexical _ => true
  | .grammar _ => false

def isAtomic : Symbol → Bool
  | .lexical cls => cls.isAtomic
  | .grammar _ => false

/-- All symbols, token classes first. -/
def all : List Symbol :=
  [.lexical .literal, .lexical .real, .lexical .int, .lexical .string, .lexical .id,
   .lexical .invalid, .grammar .program, .grammar .sexpr, .grammar .list, .grammar .seq,
   .grammar .atom]

def ofName (name : String) : Except KindFault Symbol :=
  match all.find? (·.name == name) with
  | some symbol => .ok symbol
  | none => .error (.unknown name)

theorem ofName_name (symbol : Symbol) : ofName symbol.name = .ok symbol := by
  match symbol with
  | .lexical cls => cases cls <;> rfl
  | .grammar rule => cases rule <;> rfl

end Symbol

def KindFault.message : KindFault → String
  | .unknown name => Text.quoted name ++ " is not a valid Symbol"
  | .leafOfRule rule => "Leaf kind must be lexical, got " ++ rule.name
  | .branchOfClass cls => "Branch kind must be a grammar rule, got " ++ cls.name

end Sexpr
