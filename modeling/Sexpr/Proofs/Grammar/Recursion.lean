import Sexpr.Grammar.Cursor
import Sexpr.Proofs.Grammar.Rules

/-!
The grammar by recursion. A sequence is read in a loop, which first collects its expressions and
then puts their trees together from the last one on, and a list runs a loop around its sequence.
Here both rules are written as the grammar has them: a sequence calls itself for what is behind its
first expression, and a list holds one sequence or none. These are the same procedures, also where
they fail.
-/

namespace Sexpr

namespace Grammar

/-- A sequence by its rule: an expression and, unless nothing more belongs to the list, the sequence
of those behind it. -/
def seqBy (expression : Procedure) : Parse Tree := fun mode tokens =>
  match h : expression.run mode tokens with
  | .fault cause rest => .fault cause rest
  | .ok first rest =>
    if closes rest then .ok (.branch .seq [first]) rest
    else
      have := expression.progresses _ _ _ _ h
      (seqBy expression mode rest).map fun behind => .branch .seq [first, behind]
termination_by _ tokens => tokens.length

/-- A list by its rule: its parentheses, with one sequence between them if the second does not
follow at once. Where the tokens end behind the first, the second is missed and no expression. -/
def listBy (sequence : Parse Tree) : Parse Tree := fun mode tokens =>
  match literal "(" mode tokens with
  | .fault cause rest => .fault cause rest
  | .ok opening inner =>
    if closes inner then
      (literal ")" mode inner).map fun closing => .branch .list [opening, closing]
    else match sequence mode inner with
      | .fault cause rest => .fault cause rest
      | .ok behind rest =>
        (literal ")" mode rest).map fun closing => .branch .list [opening, behind, closing]

section Sequence

variable {expression : Procedure} {mode : Mode} {tokens rest : List Token}

theorem seqBy_of_fault {cause : ParseFault} (h : expression.run mode tokens = .fault cause rest) :
    seqBy expression mode tokens = .fault cause rest := by
  rw [seqBy]
  split
  · rename_i hrun
    rw [h] at hrun
    cases hrun
    rfl
  · rename_i hrun
    rw [h] at hrun
    cases hrun

theorem seqBy_of_ok {first : Tree} (h : expression.run mode tokens = .ok first rest) :
    seqBy expression mode tokens =
      if closes rest then .ok (.branch .seq [first]) rest
      else (seqBy expression mode rest).map fun behind => .branch .seq [first, behind] := by
  rw [seqBy]
  split
  · rename_i hrun
    rw [h] at hrun
    cases hrun
  · rename_i hrun
    rw [h] at hrun
    cases hrun
    rfl

end Sequence

/-- Where the loop goes on behind an expression, it reads another sequence, and one more expression
in front of those collected is one branch more above their tree. -/
theorem map_chain_untilStop {expression : Procedure} {mode : Mode} {tokens : List Token}
    (hstop : closes tokens = false) (first : Tree) :
    (expression.untilStop closes mode tokens).map (chain first) =
      (seqOf expression mode tokens).map fun behind => .branch .seq [first, behind] := by
  rw [seqOf_eq]
  cases hsecond : expression.run mode tokens with
  | fault cause rest =>
      rw [Procedure.untilStop_of_fault hstop hsecond]
      rfl
  | ok second rest =>
      rw [Procedure.untilStop_of_ok hstop hsecond]
      simp only [Outcome.map_map, chain_cons]

/-- The loop and the recursion read the same sequence. -/
theorem seqBy_eq (expression : Procedure) (mode : Mode) (tokens : List Token) :
    seqBy expression mode tokens = seqOf expression mode tokens := by
  rw [seqOf_eq]
  cases hfirst : expression.run mode tokens with
  | fault cause rest => exact seqBy_of_fault hfirst
  | ok first rest =>
      have hless := expression.progresses _ _ _ _ hfirst
      rw [seqBy_of_ok hfirst]
      dsimp only
      split
      · rename_i hstop
        rw [Procedure.untilStop_of_stop hstop]
        rfl
      · rename_i hstop
        rw [map_chain_untilStop (by simpa using hstop), seqBy_eq expression mode rest]
termination_by tokens.length

/-- The loop of a list runs its sequence at most once: only where the list does not end at once, and
then the sequence ends where the list does. -/
theorem untilStop_seq (expression : Procedure) (mode : Mode) (tokens : List Token) :
    (Procedure.mk (seqOf expression) (progresses_seqOf expression)).untilStop closes mode tokens =
      if closes tokens then .ok [] tokens
      else (seqOf expression mode tokens).map fun behind => [behind] := by
  rw [untilStop_seqOf]
  split
  · rename_i hstop
    rw [Procedure.untilStop_of_stop hstop]
    rfl
  · rename_i hstop
    have hstop' : closes tokens = false := by simpa using hstop
    rw [seqOf_eq]
    cases hfirst : expression.run mode tokens with
    | fault cause rest =>
        rw [Procedure.untilStop_of_fault hstop' hfirst]
        rfl
    | ok first rest =>
        rw [Procedure.untilStop_of_ok hstop' hfirst]
        simp only [Outcome.map_map]
        rfl

/-- The loop and the rule read the same list. -/
theorem listBy_eq (expression : Procedure) (mode : Mode) (tokens : List Token) :
    listBy (seqBy expression) mode tokens =
      listOf ⟨seqOf expression, progresses_seqOf expression⟩ mode tokens := by
  rw [listBy, listOf]
  cases hopening : literal "(" mode tokens with
  | fault cause rest => exact (Parse.bind_of_fault hopening).symm
  | ok opening inner =>
      have hparts := untilStop_seq expression mode inner
      rw [Parse.bind_of_ok hopening]
      dsimp only
      split
      · rename_i hstop
        rw [if_pos hstop] at hparts
        rw [Parse.bind_of_ok hparts]
        exact (Parse.bind_return (fun closing => Tree.branch .list [opening, closing])
          mode inner).symm
      · rename_i hstop
        rw [if_neg hstop] at hparts
        rw [seqBy_eq]
        cases hbehind : seqOf expression mode inner with
        | fault cause rest =>
            rw [hbehind] at hparts
            exact (Parse.bind_of_fault hparts).symm
        | ok behind rest =>
            rw [hbehind] at hparts
            rw [Parse.bind_of_ok hparts]
            exact (Parse.bind_return (fun closing => Tree.branch .list [opening, behind, closing])
              mode rest).symm

theorem progresses_listBy (expression : Procedure) :
    Parse.Progresses (listBy (seqBy expression)) := by
  intro mode tokens tree rest h
  rw [listBy_eq] at h
  exact progresses_listOf _ mode tokens tree rest h

def nestedBy (expression : Procedure) : Procedure :=
  ⟨sexprOf (listBy (seqBy expression)), progresses_sexprOf (progresses_listBy expression)⟩

theorem progresses_sexprOf_tooDeep : Parse.Progresses (sexprOf tooDeep) :=
  progresses_sexprOf (Parse.progresses_reject _)

/-- An expression in which lists nest at most `levels` deep, by the rules throughout. -/
def sexprBy : (levels : Nat) → Procedure
  | 0 => ⟨sexprOf tooDeep, progresses_sexprOf_tooDeep⟩
  | levels + 1 => nestedBy (sexprBy levels)

theorem sexprBy_eq (levels : Nat) : sexprBy levels = sexpr levels := by
  induction levels with
  | zero => rfl
  | succ levels ih =>
      have hlist : listBy (seqBy (sexpr levels)) =
          listOf ⟨seqOf (sexpr levels), progresses_seqOf (sexpr levels)⟩ := by
        funext mode tokens
        exact listBy_eq (sexpr levels) mode tokens
      rw [sexprBy, sexpr, ih, nestedBy, Procedure.mk.injEq, hlist]

def listWithin : (levels : Nat) → Parse Tree
  | 0 => tooDeep
  | levels + 1 => listBy (seqBy (sexprBy levels))

end Grammar

open Grammar

/-- Sequences and lists are read as the recursive rules have them, from every place of a cursor and
with the same tree or fault and the same place behind. The loop of a list comes down to one
sequence or none. -/
theorem Cursor.run_by_rules (levels : Nat) (cursor : Cursor) :
    cursor.run (seq levels).run = cursor.run (seqBy (sexprBy levels)) ∧
    cursor.run (list levels) = cursor.run (listWithin levels) ∧
    ∀ mode tokens, (seq levels).untilStop closes mode tokens =
      if closes tokens then .ok [] tokens
      else ((seq levels).run mode tokens).map fun sequence => [sequence] := by
  refine ⟨?_, ?_, untilStop_seq (sexpr levels)⟩
  · have hseq : (seq levels).run = seqBy (sexprBy levels) := by
      funext mode tokens
      rw [sexprBy_eq, seqBy_eq]
      rfl
    rw [hseq]
  · have hlist : list levels = listWithin levels := by
      cases levels with
      | zero => rfl
      | succ levels =>
          funext mode tokens
          rw [listWithin, sexprBy_eq, listBy_eq]
          rfl
    rw [hlist]

end Sexpr
