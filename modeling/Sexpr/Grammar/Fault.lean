import Sexpr.Report
import Sexpr.Token

/-!
Why a token list is no derivation, and how that is reported.
-/

namespace Sexpr

/-- The causes for which the grammar rejects a token list. An offset is that of the token at fault,
or the end of the list when tokens are missing. -/
inductive SyntaxFault where
  /-- A token was asked for behind the last one. -/
  | noToken
  /-- The list ends where an atom has to stand. -/
  | noAtom (offset : Int)
  /-- The word cannot be an atom. -/
  | notAtom (word : String) (offset : Int)
  /-- Another word than the literal was found, or the end of the list. -/
  | notLiteral (literal : String) (found : Option String) (offset : Int)
  /-- A list opens deeper than lists may nest. -/
  | tooDeep (offset : Int)
  deriving DecidableEq

/-- A token list fails by the grammar, or because a token has no place in a tree. -/
inductive ParseFault where
  | rejected (cause : SyntaxFault)
  | misplaced (cause : KindFault)
  deriving DecidableEq

namespace SyntaxFault

def expected? : SyntaxFault → Option String
  | .notLiteral literal _ _ => some literal
  | _ => none

def found? : SyntaxFault → Option String
  | .noToken | .noAtom _ | .notLiteral _ none _ => some "end of input"
  | .notAtom word _ | .notLiteral _ (some word) _ => some (Text.quoted word)
  | .tooDeep _ => none

def offset? : SyntaxFault → Option Int
  | .noToken => none
  | .noAtom offset | .notAtom _ offset | .notLiteral _ _ offset | .tooDeep offset => some offset

def message : SyntaxFault → String
  | .noToken => "Unexpected end of input"
  | .noAtom _ => "Unexpected end of input, expected an atom"
  | .notAtom word _ => "Unexpected " ++ Text.quoted word ++ ", expected an atom"
  | .notLiteral literal none _ =>
    "Expected " ++ Text.quoted literal ++ ", found end of input"
  | .notLiteral literal (some word) _ =>
    "Expected " ++ Text.quoted literal ++ ", found " ++ Text.quoted word
  | .tooDeep _ => "Lists nested too deeply to parse"

def suggestions : SyntaxFault → List String
  | .noAtom _ => ["Check for a missing closing parenthesis"]
  | .notAtom _ _ => ["Check for an unbalanced ')'"]
  | .tooDeep _ => ["Reduce the nesting depth of the program"]
  | .noToken | .notLiteral _ _ _ => []

def report (fault : SyntaxFault) : Report :=
  Report.ofMismatch ⟨fault.message, [], fault.suggestions⟩ fault.expected? fault.found?
    fault.offset?

end SyntaxFault

def ParseFault.message : ParseFault → String
  | .rejected cause => cause.message
  | .misplaced cause => cause.message

end Sexpr
