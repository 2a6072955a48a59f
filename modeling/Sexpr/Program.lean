import Sexpr.Grammar.Rules
import Sexpr.Journal
import Sexpr.Token.Scan

/-!
Reading programs: from a text to the tree of its derivation. `read` answers with the tree alone;
`attempt` keeps the tokens too and tells a failure by its stage. Both say in the journal what they
did.
-/

namespace Sexpr

/-- Why a text is no program: a place that is no token, or tokens that are no derivation. -/
inductive ReadFault where
  | lexing (cause : LexFault)
  | parsing (cause : ParseFault)
  deriving DecidableEq

/-- A text that was read: its tokens and the tree of its derivation. -/
structure Program where
  tokens : List Token
  tree : Tree

namespace Program

def note (template : String) (arguments : List Argument) : Record :=
  ⟨"lispish.reader", .debug, template, arguments⟩

def ofText (strict : Bool) (text : String) : Except ReadFault Program :=
  match tokenize text with
  | .error cause => .error (.lexing cause)
  | .ok tokens =>
    match Grammar.parse strict tokens with
    | .error cause => .error (.parsing cause)
    | .ok tree => .ok ⟨tokens, tree⟩

/-- The tree of a text. Each stage that succeeds is recorded with its counts. -/
def read (strict : Bool) (text : String) : List Record × Except ReadFault Tree :=
  match tokenize text with
  | .error cause => ([], .error (.lexing cause))
  | .ok tokens =>
    let tokenized := note "Tokenized %d characters into %d tokens"
      [.number text.length, .number tokens.length]
    match Grammar.parse strict tokens with
    | .error cause => ([tokenized], .error (.parsing cause))
    | .ok tree =>
      ([tokenized, note "Parsed %d top-level expressions" [.number tree.children.length]], .ok tree)

/-- The program of a text. Only a failure is recorded. -/
def attempt (strict : Bool) (text : String) : List Record × Except ReadFault Program :=
  match ofText strict text with
  | .ok program => ([], .ok program)
  | .error (.lexing cause) =>
    ([note "Lexing failed at offset %d" [.number cause.offset]], .error (.lexing cause))
  | .error (.parsing (.rejected cause)) =>
    ([note "Parsing failed: %s" [.text cause.message]], .error (.parsing (.rejected cause)))
  | .error (.parsing (.misplaced cause)) => ([], .error (.parsing (.misplaced cause)))

end Program

end Sexpr
