import Sexpr.Proofs.Grammar.Reading
import Sexpr.Proofs.Token.Seams
import Sexpr.Proofs.Tree.Walk

/-!
Places of tokens. Parsing looks at the kinds and the words of tokens; their offsets are only passed
on to reports. So tokens that are moved are parsed as they were where they stood, with the places of
faults moved along, and token lists that say the same are parsed alike.
-/

namespace Sexpr

def Token.unplaced (token : Token) : Token :=
  { token with offset := 0 }

def SyntaxFault.unplaced : SyntaxFault → SyntaxFault
  | .noToken => .noToken
  | .noAtom _ => .noAtom 0
  | .notAtom word _ => .notAtom word 0
  | .notLiteral literal found _ => .notLiteral literal found 0
  | .tooDeep _ => .tooDeep 0

def SyntaxFault.moved (move : Int → Int) : SyntaxFault → SyntaxFault
  | .noToken => .noToken
  | .noAtom offset => .noAtom (move offset)
  | .notAtom word offset => .notAtom word (move offset)
  | .notLiteral literal found offset => .notLiteral literal found (move offset)
  | .tooDeep offset => .tooDeep (move offset)

/-- Nothing that a report says depends on the place, but for the offset that it gives. -/
theorem SyntaxFault.report_moved (fault : SyntaxFault) (move : Int → Int) :
    (fault.moved move).expected? = fault.expected? ∧
      (fault.moved move).found? = fault.found? ∧
      (fault.moved move).message = fault.message ∧
      (fault.moved move).suggestions = fault.suggestions ∧
      (fault.moved move).offset? = fault.offset?.map move := by
  cases fault with
  | notLiteral literal found offset => cases found <;> exact ⟨rfl, rfl, rfl, rfl, rfl⟩
  | noToken | noAtom | notAtom | tooDeep => exact ⟨rfl, rfl, rfl, rfl, rfl⟩

def ParseFault.unplaced : ParseFault → ParseFault
  | .rejected cause => .rejected cause.unplaced
  | .misplaced cause => .misplaced cause

def ParseFault.moved (move : Int → Int) : ParseFault → ParseFault
  | .rejected cause => .rejected (cause.moved move)
  | .misplaced cause => .misplaced cause

def Outcome.unplaced {α : Type} : Outcome α → Outcome α
  | .ok value rest => .ok value (rest.map Token.unplaced)
  | .fault cause rest => .fault cause.unplaced (rest.map Token.unplaced)

def Outcome.moved {α : Type} (move : Int → Int) : Outcome α → Outcome α
  | .ok value rest => .ok value (rest.map (Token.moved move))
  | .fault cause rest => .fault (cause.moved move) (rest.map (Token.moved move))

theorem Outcome.moved_map {α β : Type} (move : Int → Int) (f : α → β) (outcome : Outcome α) :
    (outcome.map f).moved move = (outcome.moved move).map f := by
  cases outcome <;> rfl

/-- To forget all places is to move all tokens to one place. -/
theorem Outcome.unplaced_eq_moved {α : Type} (outcome : Outcome α) :
    outcome.unplaced = outcome.moved fun _ => 0 := by
  cases outcome with
  | ok value rest => rfl
  | fault cause rest =>
      cases cause with
      | rejected cause => cases cause <;> rfl
      | misplaced cause => rfl

theorem Outcome.unplaced_map {α β : Type} (f : α → β) (outcome : Outcome α) :
    (outcome.map f).unplaced = outcome.unplaced.map f := by
  cases outcome <;> rfl

def Outcome.result {α : Type} : Outcome α → Except ParseFault α
  | .ok value _ => .ok value
  | .fault cause _ => .error cause

theorem Outcome.result_unplaced {α : Type} (outcome : Outcome α) :
    outcome.unplaced.result = outcome.result.mapError ParseFault.unplaced := by
  cases outcome <;> rfl

theorem Token.unplaced_eq_of_contents {tokens tokens' : List Token}
    (h : tokens.map Token.content = tokens'.map Token.content) :
    tokens.map Token.unplaced = tokens'.map Token.unplaced := by
  have hplace (tokens : List Token) : tokens.map Token.unplaced =
      (tokens.map Token.content).map fun (kind, text) => ⟨kind, text, 0⟩ := by
    rw [List.map_map]
    rfl
  rw [hplace, hplace, h]

namespace Grammar

theorem closes_unplaced (tokens : List Token) :
    closes (tokens.map Token.unplaced) = closes tokens := by
  cases tokens <;> rfl

theorem isEmpty_unplaced (tokens : List Token) :
    (tokens.map Token.unplaced).isEmpty = tokens.isEmpty := by
  cases tokens <;> rfl

/-- Whether a goal is reached does not depend on places. -/
def Goal.Unplaced : Goal → Prop
  | .expression => True
  | .expressions stop => ∀ tokens, stop (tokens.map Token.unplaced) = stop tokens

theorem Goal.Unplaced.stop_moved {stop : List Token → Bool} (h : Goal.Unplaced (.expressions stop))
    (move : Int → Int) (tokens : List Token) :
    stop (tokens.map (Token.moved move)) = stop tokens := by
  have hmoved := h (tokens.map (Token.moved move))
  rw [List.map_map] at hmoved
  exact hmoved.symm.trans (h tokens)

/-- Tokens that are moved are read as they are where they stand. -/
theorem Reading.moved {mode : Mode} {levels : Nat} {goal : Goal} {tokens : List Token}
    {outcome : Outcome (List Tree)} (reading : Reading mode levels goal tokens outcome)
    (hgoal : goal.Unplaced) (move : Int → Int) :
    Reading ⟨mode.strict, move mode.stop⟩ levels goal (tokens.map (Token.moved move))
      (outcome.moved move) := by
  induction reading with
  | noAtom => exact .noAtom
  | notAtom hword hkind => exact .notAtom hword hkind
  | noLeaf hword hkind hleaf => exact .noLeaf hword hkind hleaf
  | atom hword hkind hleaf => exact .atom hword hkind hleaf
  | tooDeep hword => exact .tooDeep hword
  | noOpening hword hleaf => exact .noOpening hword hleaf
  | inside hword hleaf hitems ih => exact .inside hword hleaf (ih closes_unplaced)
  | unclosed hword hleaf hitems ih => exact .unclosed hword hleaf (ih closes_unplaced)
  | noClosing hword hleaf hitems hlast hclosing ih =>
      exact .noClosing hword hleaf (ih closes_unplaced) hlast hclosing
  | list hword hleaf hitems hlast hclosing ih =>
      exact .list hword hleaf (ih closes_unplaced) hlast hclosing
  | done hstop => exact .done ((hgoal.stop_moved move _).trans hstop)
  | failed hstop hfirst ih => exact .failed ((hgoal.stop_moved move _).trans hstop) (ih trivial)
  | more hstop hfirst hothers ihfirst ihothers =>
      rw [Outcome.moved_map]
      exact .more ((hgoal.stop_moved move _).trans hstop) (ihfirst trivial) (ihothers hgoal)

/-- Tokens without their places are read as they are with them. -/
theorem Reading.unplaced {mode : Mode} {levels : Nat} {goal : Goal} {tokens : List Token}
    {outcome : Outcome (List Tree)} (reading : Reading mode levels goal tokens outcome)
    (hgoal : goal.Unplaced) :
    Reading ⟨mode.strict, 0⟩ levels goal (tokens.map Token.unplaced) outcome.unplaced := by
  rw [Outcome.unplaced_eq_moved]
  exact reading.moved hgoal fun _ => 0

theorem parseWithin_eq_result (levels : Nat) (strict : Bool) (tokens : List Token) :
    parseWithin levels strict tokens =
      (program levels ⟨strict, Token.endOf tokens⟩ tokens).result := by
  rw [parseWithin]
  cases program levels ⟨strict, Token.endOf tokens⟩ tokens <;> rfl

/-- A parse is the reading of a program up to the end of its tokens. -/
theorem Reading.parseWithin_eq {levels : Nat} {strict : Bool} {tokens : List Token}
    {outcome : Outcome (List Tree)}
    (reading : Reading ⟨strict, Token.endOf tokens⟩ levels (.expressions List.isEmpty) tokens
      outcome) :
    parseWithin levels strict tokens = (outcome.map (Tree.branch .program)).result := by
  rw [parseWithin_eq_result, program_eq, reading.parse_eq]

/-- Token lists that say the same are parsed to the same tree, or fail alike but for the place. -/
theorem parseWithin_unplaced {tokens tokens' : List Token}
    (h : tokens.map Token.content = tokens'.map Token.content) (levels : Nat) (strict : Bool) :
    (parseWithin levels strict tokens).mapError ParseFault.unplaced =
      (parseWithin levels strict tokens').mapError ParseFault.unplaced := by
  -- Both parses are compared with the one of the tokens without places, which they have in common.
  have hparse (tokens : List Token) :
      (parseWithin levels strict tokens).mapError ParseFault.unplaced =
        (program levels ⟨strict, 0⟩ (tokens.map Token.unplaced)).result := by
    obtain ⟨outcome, reading⟩ := exists_reading ⟨strict, Token.endOf tokens⟩ levels
      (.expressions List.isEmpty) tokens
    rw [reading.parseWithin_eq, ← Outcome.result_unplaced, Outcome.unplaced_map, program_eq,
      (reading.unplaced isEmpty_unplaced).parse_eq]
  rw [hparse, hparse, Token.unplaced_eq_of_contents h]

/-- Parsing succeeds alike on token lists that say the same. -/
theorem parseWithin_ok_of_contents {tokens tokens' : List Token}
    (h : tokens.map Token.content = tokens'.map Token.content) {levels : Nat} {strict : Bool}
    {tree : Tree} (hok : parseWithin levels strict tokens = .ok tree) :
    parseWithin levels strict tokens' = .ok tree := by
  have halike := parseWithin_unplaced h levels strict
  rw [hok] at halike
  cases hparse : parseWithin levels strict tokens' with
  | ok tree' =>
      rw [hparse] at halike
      cases halike
      rfl
  | error cause =>
      rw [hparse] at halike
      cases halike

end Grammar

end Sexpr
