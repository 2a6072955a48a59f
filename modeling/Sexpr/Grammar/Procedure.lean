import Sexpr.Grammar.Fault
import Sexpr.Tree.Basic

/-!
Parsing procedures. A procedure reads from the front of a token list and hands back what it left,
both when it succeeds and when it fails, so that a failure also tells how far reading came. A
procedure that takes a token whenever it succeeds can be repeated without further ado.
-/

namespace Sexpr

/-- What holds for a whole parse: whether only words of the atomic classes are atoms, and the offset
behind the last token, at which missing tokens are reported. -/
structure Mode where
  strict : Bool
  stop : Int

/-- A value or a fault, with the tokens not read. -/
inductive Outcome (α : Type) where
  | ok (value : α) (rest : List Token)
  | fault (cause : ParseFault) (rest : List Token)

def Parse (α : Type) : Type :=
  Mode → List Token → Outcome α

namespace Parse

variable {α β : Type}

def pure (value : α) : Parse α :=
  fun _ tokens => .ok value tokens

def bind (first : Parse α) (next : α → Parse β) : Parse β :=
  fun mode tokens => match first mode tokens with
    | .ok value rest => next value mode rest
    | .fault cause rest => .fault cause rest

instance : Monad Parse where
  pure := pure
  bind := bind

def reject (cause : Mode → List Token → SyntaxFault) : Parse α :=
  fun mode tokens => .fault (.rejected (cause mode tokens)) tokens

def Progresses (parse : Parse α) : Prop :=
  ∀ mode tokens value rest, parse mode tokens = .ok value rest → rest.length < tokens.length

def Recedes (parse : Parse α) : Prop :=
  ∀ mode tokens value rest, parse mode tokens = .ok value rest → rest.length ≤ tokens.length

theorem Progresses.recedes {parse : Parse α} (h : parse.Progresses) : parse.Recedes :=
  fun mode tokens value rest run => Nat.le_of_lt (h mode tokens value rest run)

theorem recedes_pure (value : α) : (Pure.pure value : Parse α).Recedes := by
  intro mode tokens found rest h
  cases h
  exact Nat.le_refl _

theorem progresses_reject (cause : Mode → List Token → SyntaxFault) :
    (reject cause : Parse α).Progresses := by
  intro mode tokens found rest h
  cases h

theorem Progresses.bind {first : Parse α} {next : α → Parse β} (h : first.Progresses)
    (hnext : ∀ value, (next value).Recedes) : (first >>= next).Progresses := by
  intro mode tokens found rest run
  change (match first mode tokens with
    | .ok value rest => next value mode rest
    | .fault cause rest => .fault cause rest) = .ok found rest at run
  split at run
  · rename_i value mid hfirst
    exact Nat.lt_of_le_of_lt (hnext value _ _ _ _ run) (h _ _ _ _ hfirst)
  · cases run

theorem Recedes.bind {first : Parse α} {next : α → Parse β} (h : first.Recedes)
    (hnext : ∀ value, (next value).Recedes) : (first >>= next).Recedes := by
  intro mode tokens found rest run
  change (match first mode tokens with
    | .ok value rest => next value mode rest
    | .fault cause rest => .fault cause rest) = .ok found rest at run
  split at run
  · rename_i value mid hfirst
    exact Nat.le_trans (hnext value _ _ _ _ run) (h _ _ _ _ hfirst)
  · cases run

end Parse

/-- A parsing procedure for a tree that takes at least one token when it succeeds. -/
structure Procedure where
  run : Parse Tree
  progresses : run.Progresses

namespace Procedure

def untilStop (step : Procedure) (stop : List Token → Bool) (mode : Mode) (tokens : List Token) :
    Outcome (List Tree) :=
  if stop tokens then .ok [] tokens
  else match h : step.run mode tokens with
    | .fault cause rest => .fault cause rest
    | .ok tree rest =>
      have := step.progresses _ _ _ _ h
      match step.untilStop stop mode rest with
      | .ok trees last => .ok (tree :: trees) last
      | .fault cause last => .fault cause last
termination_by tokens.length

theorem recedes_untilStop (step : Procedure) (stop : List Token → Bool) :
    Parse.Recedes (step.untilStop stop) := by
  intro mode tokens
  fun_induction untilStop step stop mode tokens with
  | case1 tokens h => intro value rest run; cases run; exact Nat.le_refl _
  | case2 => intro value rest run; cases run
  | case3 tokens h tree mid hstep hless trees last hrest ih =>
    intro value rest run
    cases run
    exact Nat.le_trans (ih _ _ hrest) (Nat.le_of_lt hless)
  | case4 => intro value rest run; cases run

end Procedure

end Sexpr
