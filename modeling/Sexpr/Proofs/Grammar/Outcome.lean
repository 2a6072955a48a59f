import Sexpr.Grammar.Procedure

/-!
Outcomes of procedures that are put together. A sequence of procedures goes on only from a success,
and a repeated one has the outcome of its first step and of its others; these equations take the
place of the definitions from here on.
-/

namespace Sexpr

namespace Outcome

variable {α β γ : Type}

def map (f : α → β) : Outcome α → Outcome β
  | .ok value rest => .ok (f value) rest
  | .fault cause rest => .fault cause rest

@[simp] theorem map_ok (f : α → β) (value : α) (rest : List Token) :
    (Outcome.ok value rest).map f = .ok (f value) rest := rfl

@[simp] theorem map_fault (f : α → β) (cause : ParseFault) (rest : List Token) :
    (Outcome.fault cause rest).map f = .fault cause rest := rfl

@[simp] theorem map_map (f : α → β) (g : β → γ) (outcome : Outcome α) :
    (outcome.map f).map g = outcome.map fun value => g (f value) := by
  cases outcome <;> rfl

theorem map_eq_ok {f : α → β} {outcome : Outcome α} {value : β} {rest : List Token}
    (h : outcome.map f = .ok value rest) : ∃ inner, outcome = .ok inner rest ∧ f inner = value := by
  cases outcome with
  | ok inner last =>
      cases h
      exact ⟨inner, rfl, rfl⟩
  | fault cause last => cases h

theorem map_eq_fault {f : α → β} {outcome : Outcome α} {cause : ParseFault} {rest : List Token}
    (h : outcome.map f = .fault cause rest) : outcome = .fault cause rest := by
  cases outcome with
  | ok inner last => cases h
  | fault cause' last =>
      cases h
      rfl

def rest : Outcome α → List Token
  | .ok _ rest => rest
  | .fault _ rest => rest

@[simp] theorem rest_map (f : α → β) (outcome : Outcome α) :
    (outcome.map f).rest = outcome.rest := by
  cases outcome <;> rfl

end Outcome

namespace Parse

variable {α β : Type} {first : Parse α} {next : α → Parse β} {mode : Mode}
  {tokens rest : List Token}

theorem bind_of_ok {value : α} (h : first mode tokens = .ok value rest) :
    (first >>= next) mode tokens = next value mode rest := by
  change (match first mode tokens with
    | .ok value rest => next value mode rest
    | .fault cause rest => .fault cause rest) = _
  rw [h]

theorem bind_of_fault {cause : ParseFault} (h : first mode tokens = .fault cause rest) :
    (first >>= next) mode tokens = .fault cause rest := by
  change (match first mode tokens with
    | .ok value rest => next value mode rest
    | .fault cause rest => .fault cause rest) = _
  rw [h]

/-- A procedure whose value is only worked on has the outcome of that procedure, worked on. -/
theorem bind_return (f : α → β) (mode : Mode) (tokens : List Token) :
    (do return f (← first) : Parse β) mode tokens = (first mode tokens).map f := by
  cases h : first mode tokens with
  | ok value rest => exact bind_of_ok h
  | fault cause rest => exact bind_of_fault h

end Parse

namespace Procedure

variable {step : Procedure} {stop : List Token → Bool} {mode : Mode} {tokens rest : List Token}

theorem untilStop_of_stop (h : stop tokens = true) :
    step.untilStop stop mode tokens = .ok [] tokens := by
  rw [untilStop, if_pos h]

theorem untilStop_of_fault {cause : ParseFault} (hstop : stop tokens = false)
    (h : step.run mode tokens = .fault cause rest) :
    step.untilStop stop mode tokens = .fault cause rest := by
  rw [untilStop, if_neg (by simp [hstop])]
  split
  · rename_i hrun
    rw [h] at hrun
    cases hrun
    rfl
  · rename_i hrun
    rw [h] at hrun
    cases hrun

theorem untilStop_of_ok {tree : Tree} (hstop : stop tokens = false)
    (h : step.run mode tokens = .ok tree rest) :
    step.untilStop stop mode tokens = (step.untilStop stop mode rest).map (tree :: ·) := by
  rw [untilStop, if_neg (by simp [hstop])]
  split
  · rename_i hrun
    rw [h] at hrun
    cases hrun
  · rename_i hrun
    rw [h] at hrun
    cases hrun
    cases step.untilStop stop mode rest <;> rfl

/-- Repetition succeeds only where it is told to stop. -/
theorem stop_of_untilStop_ok {trees : List Tree}
    (h : step.untilStop stop mode tokens = .ok trees rest) : stop rest = true := by
  fun_induction untilStop step stop mode tokens generalizing trees with
  | case1 tokens hstop =>
      cases h
      exact hstop
  | case2 => cases h
  | case3 tokens hstop tree mid hrun hless others last hrest ih =>
      cases h
      exact ih hrest
  | case4 => cases h

end Procedure

end Sexpr
