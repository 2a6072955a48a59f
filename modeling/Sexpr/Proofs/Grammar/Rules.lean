import Sexpr.Grammar.Rules
import Sexpr.Proofs.Grammar.Outcome

/-!
One equation for each rule of the grammar. They say what a rule does in terms of the rules that it
calls, and what becomes of the loop of a list: it never takes a second sequence, so that a list
reads its expressions one after the other.
-/

namespace Sexpr.Grammar

@[simp] theorem chain_nil (first : Tree) : chain first [] = .branch .seq [first] := rfl

/-- Put together from its end, a sequence holds its first expression and the sequence behind it. -/
@[simp] theorem chain_cons (first second : Tree) (others : List Tree) :
    chain first (second :: others) = .branch .seq [first, chain second others] := by
  rw [chain, chain, List.reverse_cons]
  cases others.reverse with
  | nil => rfl
  | cons last before =>
      rw [List.cons_append]
      dsimp only
      rw [List.foldl_append]
      rfl

def sequence : List Tree → List Tree
  | [] => []
  | first :: others => [chain first others]

theorem seqOf_eq (expression : Procedure) (mode : Mode) (tokens : List Token) :
    seqOf expression mode tokens = match expression.run mode tokens with
      | .ok first rest => (expression.untilStop closes mode rest).map (chain first)
      | .fault cause rest => .fault cause rest := by
  rw [seqOf]
  cases h : expression.run mode tokens with
  | ok first rest =>
      rw [Parse.bind_of_ok h]
      exact Parse.bind_return (chain first) mode rest
  | fault cause rest => exact Parse.bind_of_fault h

/-- The loop of a list never takes a second sequence: the first one ends only where the list
does. So the list reads the expressions one after the other. -/
theorem untilStop_seqOf (expression : Procedure) (mode : Mode) (tokens : List Token) :
    (Procedure.mk (seqOf expression) (progresses_seqOf expression)).untilStop closes mode tokens =
      (expression.untilStop closes mode tokens).map sequence := by
  cases hstop : closes tokens with
  | true =>
      rw [Procedure.untilStop_of_stop hstop, Procedure.untilStop_of_stop hstop]
      rfl
  | false =>
      have hseq := seqOf_eq expression mode tokens
      cases hfirst : expression.run mode tokens with
      | fault cause rest =>
          simp only [hfirst] at hseq
          rw [Procedure.untilStop_of_fault hstop hseq, Procedure.untilStop_of_fault hstop hfirst]
          rfl
      | ok first rest =>
          simp only [hfirst] at hseq
          rw [Procedure.untilStop_of_ok hstop hfirst]
          cases hothers : expression.untilStop closes mode rest with
          | fault cause last =>
              simp only [hothers] at hseq
              rw [Procedure.untilStop_of_fault hstop hseq]
              rfl
          | ok others last =>
              simp only [hothers] at hseq
              rw [Procedure.untilStop_of_ok hstop hseq,
                Procedure.untilStop_of_stop (Procedure.stop_of_untilStop_ok hothers)]
              rfl

def listTree (opening : Tree) (items : List Tree) (closing : Tree) : Tree :=
  .branch .list (opening :: sequence items ++ [closing])

/-- A list is its parentheses and the expressions between them. -/
theorem listOf_eq (expression : Procedure) (mode : Mode) (tokens : List Token) :
    listOf ⟨seqOf expression, progresses_seqOf expression⟩ mode tokens =
      match literal "(" mode tokens with
      | .fault cause rest => .fault cause rest
      | .ok opening inner => match expression.untilStop closes mode inner with
        | .fault cause rest => .fault cause rest
        | .ok items last => (literal ")" mode last).map (listTree opening items) := by
  rw [listOf]
  cases hopening : literal "(" mode tokens with
  | fault cause rest => exact Parse.bind_of_fault hopening
  | ok opening inner =>
      rw [Parse.bind_of_ok hopening]
      dsimp only
      have hparts := untilStop_seqOf expression mode inner
      cases hitems : expression.untilStop closes mode inner with
      | fault cause rest =>
          simp only [hitems] at hparts
          exact Parse.bind_of_fault hparts
      | ok items last =>
          simp only [hitems] at hparts
          rw [Parse.bind_of_ok hparts]
          exact Parse.bind_return (listTree opening items) mode last

theorem literal_of_eq {word : String} {token : Token} (h : token.text = word) (mode : Mode)
    (rest : List Token) : literal word mode (token :: rest) = advance mode (token :: rest) := by
  simp [literal, h]

theorem advance_of_ok {token : Token} {leaf : Tree} (h : Tree.ofToken token = .ok leaf)
    (mode : Mode) (rest : List Token) : advance mode (token :: rest) = .ok leaf rest := by
  simp [advance, h]

theorem advance_of_error {token : Token} {cause : KindFault} (h : Tree.ofToken token = .error cause)
    (mode : Mode) (rest : List Token) :
    advance mode (token :: rest) = .fault (.misplaced cause) rest := by
  simp [advance, h]

/-- What follows the expressions of a list is its closing parenthesis or the end. -/
theorem closes_cases {tokens : List Token} (h : closes tokens = true) :
    tokens = [] ∨ ∃ token rest, tokens = token :: rest ∧ token.text = ")" := by
  cases tokens with
  | nil => exact Or.inl rfl
  | cons token rest =>
      refine Or.inr ⟨token, rest, rfl, ?_⟩
      simpa [closes, nextIs] using h

theorem sexprOf_of_open {token : Token} (h : token.text = "(") (nested : Parse Tree) (mode : Mode)
    (rest : List Token) :
    sexprOf nested mode (token :: rest) =
      (nested mode (token :: rest)).map fun tree => .branch .sexpr [tree] := by
  have hnext : nextIs "(" (token :: rest) = true := by simpa [nextIs] using h
  simp only [sexprOf, hnext, if_true]
  exact Parse.bind_return (fun tree => Tree.branch .sexpr [tree]) mode (token :: rest)

theorem sexprOf_of_not_open {tokens : List Token} (h : nextIs "(" tokens = false)
    (nested : Parse Tree) (mode : Mode) :
    sexprOf nested mode tokens = (atom mode tokens).map fun tree => .branch .sexpr [tree] := by
  simp only [sexprOf, h, if_false, Bool.false_eq_true]
  exact Parse.bind_return (fun tree => Tree.branch .sexpr [tree]) mode tokens

def admits (mode : Mode) (token : Token) : Bool :=
  !mode.strict || token.kind.isAtomic

theorem atom_of_not_admits {mode : Mode} {token : Token} (h : admits mode token = false)
    (rest : List Token) :
    atom mode (token :: rest) =
      .fault (.rejected (.notAtom token.text token.offset)) (token :: rest) := by
  simp only [admits, Bool.or_eq_false_iff, Bool.not_eq_false'] at h
  simp [atom, h, Parse.reject]

theorem atom_of_admits {mode : Mode} {token : Token} (h : admits mode token = true)
    (rest : List Token) :
    atom mode (token :: rest) =
      (advance mode (token :: rest)).map fun leaf => .branch .atom [leaf] := by
  have hkind : (mode.strict && !token.kind.isAtomic) = false := by
    rw [Bool.and_eq_false_iff, Bool.not_eq_false']
    simpa [admits] using h
  rw [atom, if_neg (by simp [hkind])]
  exact Parse.bind_return (fun leaf => Tree.branch .atom [leaf]) mode (token :: rest)

end Sexpr.Grammar
