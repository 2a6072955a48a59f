import Sexpr.Grammar.Procedure

/-!
The grammar. A program is any number of expressions; an expression is an atom or a list; a list is
a pair of parentheses with a sequence or nothing between them; a sequence is an expression followed
by a sequence or nothing; an atom is one word. One token decides how to go on and nothing is read
twice.
-/

namespace Sexpr.Grammar

def nextIs (word : String) : List Token → Bool
  | token :: _ => token.text == word
  | [] => false

/-- Nothing more belongs to the list that is open: the tokens end or a parenthesis closes it. -/
def closes (tokens : List Token) : Bool :=
  tokens.isEmpty || nextIs ")" tokens

def advance : Parse Tree := fun _ tokens =>
  match tokens with
  | [] => .fault (.rejected .noToken) []
  | token :: rest =>
    match Tree.ofToken token with
    | .ok leaf => .ok leaf rest
    | .error cause => .fault (.misplaced cause) rest

def literal (word : String) : Parse Tree := fun mode tokens =>
  match tokens with
  | [] => Parse.reject (fun mode _ => .notLiteral word none mode.stop) mode []
  | token :: rest =>
    if token.text == word then advance mode (token :: rest)
    else Parse.reject (fun _ _ => .notLiteral word (some token.text) token.offset) mode
      (token :: rest)

/-- Takes one word. In strict mode it has to be of a class for atoms. -/
def atom : Parse Tree := fun mode tokens =>
  match tokens with
  | [] => Parse.reject (fun mode _ => .noAtom mode.stop) mode []
  | token :: rest =>
    if mode.strict && !token.kind.isAtomic then
      Parse.reject (fun _ _ => .notAtom token.text token.offset) mode (token :: rest)
    else (do return Tree.branch .atom [← advance] : Parse Tree) mode (token :: rest)

/-- The trees of a sequence, nested to the right: each holds one expression and the sequence of
those behind it. They are put together from the last expression on, so that a long sequence needs no
deep calls. -/
def chain (first : Tree) (others : List Tree) : Tree :=
  match others.reverse with
  | [] => .branch .seq [first]
  | last :: before =>
    (before ++ [first]).foldl (fun behind expression => .branch .seq [expression, behind])
      (.branch .seq [last])

/-- At least one expression, and on until nothing more belongs to the list. -/
def seqOf (expression : Procedure) : Parse Tree := do
  let first ← expression.run
  let others ← (expression.untilStop closes : Parse (List Tree))
  return chain first others

/-- A parenthesis, sequences until nothing more belongs to the list, and the closing parenthesis. A
sequence only ends where the list does, so there is never a second one. -/
def listOf (sequence : Procedure) : Parse Tree := do
  let opening ← literal "("
  let parts ← (sequence.untilStop closes : Parse (List Tree))
  let closing ← literal ")"
  return .branch .list (opening :: parts ++ [closing])

def sexprOf (nested : Parse Tree) : Parse Tree := fun mode tokens =>
  (do return .branch .sexpr [← if nextIs "(" tokens then nested else atom] : Parse Tree) mode tokens

theorem progresses_advance : advance.Progresses := by
  intro mode tokens tree rest h
  unfold advance at h
  split at h
  · cases h
  · split at h <;> cases h
    exact Nat.lt_succ_self _

theorem progresses_literal (word : String) : (literal word).Progresses := by
  intro mode tokens tree rest h
  unfold literal at h
  split at h
  · cases h
  · split at h
    · exact progresses_advance _ _ _ _ h
    · cases h

theorem progresses_atom : atom.Progresses := by
  intro mode tokens tree rest h
  unfold atom at h
  split at h
  · cases h
  · split at h
    · cases h
    · exact progresses_advance.bind (fun _ => Parse.recedes_pure _) _ _ _ _ h

theorem progresses_seqOf (expression : Procedure) : (seqOf expression).Progresses :=
  expression.progresses.bind fun _ =>
    (expression.recedes_untilStop closes).bind fun _ => Parse.recedes_pure _

theorem progresses_listOf (sequence : Procedure) : (listOf sequence).Progresses :=
  (progresses_literal _).bind fun _ =>
    (sequence.recedes_untilStop closes).bind fun _ =>
      (progresses_literal _).recedes.bind fun _ => Parse.recedes_pure _

theorem progresses_sexprOf {nested : Parse Tree} (h : nested.Progresses) :
    (sexprOf nested).Progresses := by
  intro mode tokens tree rest run
  unfold sexprOf at run
  split at run
  · exact h.bind (fun _ => Parse.recedes_pure _) _ _ _ _ run
  · exact progresses_atom.bind (fun _ => Parse.recedes_pure _) _ _ _ _ run

def tooDeep : Parse Tree :=
  Parse.reject fun mode tokens => .tooDeep ((tokens.head?.map Token.offset).getD mode.stop)

/-- An expression in which lists nest at most `levels` deep. -/
def sexpr : (levels : Nat) → Procedure
  | 0 => ⟨sexprOf tooDeep, progresses_sexprOf (Parse.progresses_reject _)⟩
  | levels + 1 =>
    ⟨sexprOf (listOf ⟨seqOf (sexpr levels), progresses_seqOf _⟩),
      progresses_sexprOf (progresses_listOf _)⟩

def seq (levels : Nat) : Procedure :=
  ⟨seqOf (sexpr levels), progresses_seqOf _⟩

def list : (levels : Nat) → Parse Tree
  | 0 => tooDeep
  | levels + 1 => listOf (seq levels)

def program (levels : Nat) : Parse Tree := do
  return .branch .program (← ((sexpr levels).untilStop List.isEmpty : Parse (List Tree)))

def procedure (levels : Nat) : Rule → Parse Tree
  | .program => program levels
  | .sexpr => (sexpr levels).run
  | .list => list levels
  | .seq => (seq levels).run
  | .atom => atom

def nestingLimit : Nat := 300

/-- The derivation of a program in which lists nest at most `levels` deep, or why there is none. -/
def parseWithin (levels : Nat) (strict : Bool) (tokens : List Token) : Except ParseFault Tree :=
  match program levels ⟨strict, Token.endOf tokens⟩ tokens with
  | .ok tree _ => .ok tree
  | .fault cause _ => .error cause

def parse (strict : Bool) (tokens : List Token) : Except ParseFault Tree :=
  parseWithin nestingLimit strict tokens

end Sexpr.Grammar
