import Sexpr.Json
import Sexpr.Tree.Walk

/-!
The documents of trees. A tree's document is drafted from a list of what is still to fill in, so
that deep trees need no deep calls: every branch has an entry, which is put into the entry of the
branch above while it is still empty and is filled in there later.
-/

namespace Sexpr

namespace Draft

/-- A part of an entry: a finished document, or another entry by its number. -/
inductive Part where
  | finished (document : Json)
  | entry (number : Nat)

structure Entry where
  rule : Rule
  parts : Array Part

def Entry.add (entry : Entry) (part : Part) : Entry :=
  { entry with parts := entry.parts.push part }

end Draft

/-- Entries by their numbers. The first one is that of the whole tree. An entry that is a part of
another one was opened after it, so that no entry leads back to itself. -/
structure Draft where
  entries : Array Draft.Entry
  nonempty : 0 < entries.size
  ordered : ∀ (number : Nat) (entry : Draft.Entry), entries[number]? = some entry →
    ∀ later, .entry later ∈ entry.parts.toList → number < later ∧ later < entries.size

namespace Draft

def start (rule : Rule) : Draft where
  entries := #[⟨rule, #[]⟩]
  nonempty := Nat.one_pos
  ordered := by
    intro number entry h later member
    obtain ⟨hless, rfl⟩ := Array.getElem?_eq_some_iff.mp h
    obtain rfl : number = 0 := by simpa using hless
    cases member

def add (draft : Draft) (number : Nat) (document : Json) : Draft where
  entries := draft.entries.modify number (·.add (.finished document))
  nonempty := by simpa using draft.nonempty
  ordered := by
    intro other entry h later member
    rw [Array.size_modify]
    rw [Array.getElem?_modify] at h
    split at h
    · obtain ⟨before, hbefore, rfl⟩ := Option.map_eq_some_iff.mp h
      exact draft.ordered other before hbefore later (by simpa [Entry.add] using member)
    · exact draft.ordered other entry h later member

def addEntry (draft : Draft) (number : Nat) (rule : Rule) : Draft where
  entries := (draft.entries.modify number (·.add (.entry draft.entries.size))).push ⟨rule, #[]⟩
  nonempty := by simp
  ordered := by
    intro other entry h later member
    rw [Array.size_push, Array.size_modify]
    rw [Array.getElem?_push, Array.size_modify] at h
    split at h
    · cases h
      cases member
    · rw [Array.getElem?_modify] at h
      split at h
      · obtain ⟨before, hbefore, rfl⟩ := Option.map_eq_some_iff.mp h
        obtain ⟨hless, -⟩ := Array.getElem?_eq_some_iff.mp hbefore
        rw [Entry.add, Array.toList_push, List.mem_append, List.mem_singleton,
          Part.entry.injEq] at member
        rcases member with member | rfl
        · have := draft.ordered other before hbefore later member
          omega
        · omega
      · have := draft.ordered other entry h later member
        omega

/-- What is still to fill in: the numbers of entries with the trees whose documents belong into
them. -/
abbrev Pending : Type :=
  List (Nat × List Tree)

def ofLeaf (cls : TokenClass) (text : String) : Json :=
  .object [("kind", .text cls.name), ("text", .text text)]

/-- Puts the documents of trees into an entry. Those of branches are left to be filled in, the last
one first. -/
def hang (number : Nat) : List Tree → Draft × Pending → Draft × Pending
  | [], state => state
  | .leaf cls text :: trees, (draft, pending) =>
    hang number trees (draft.add number (ofLeaf cls text), pending)
  | .branch rule children :: trees, (draft, pending) =>
    hang number trees (draft.addEntry number rule, (draft.entries.size, children) :: pending)

def weight : Pending → Nat
  | [] => 0
  | (_, trees) :: pending => 1 + Tree.sizeAll trees + weight pending

theorem weight_hang (number : Nat) (trees : List Tree) (draft : Draft) (pending : Pending) :
    weight (hang number trees (draft, pending)).2 ≤ Tree.sizeAll trees + weight pending := by
  induction trees generalizing draft pending with
  | nil => simp [hang, Tree.sizeAll]
  | cons tree trees ih =>
    cases tree with
    | leaf cls text =>
      have := ih (draft.add number (ofLeaf cls text)) pending
      simp only [hang, Tree.sizeAll]
      omega
    | branch rule children =>
      have := ih (draft.addEntry number rule) ((draft.entries.size, children) :: pending)
      simp only [hang, Tree.sizeAll, Tree.size, weight] at this ⊢
      omega

def fill (draft : Draft) : (pending : Pending) → Draft
  | [] => draft
  | (number, trees) :: pending =>
    let state := hang number trees (draft, pending)
    state.1.fill state.2
termination_by pending => weight pending
decreasing_by
  have := weight_hang number trees draft pending
  simp only [weight]
  omega

def document (draft : Draft) (number : Nat) (h : number < draft.entries.size) : Json :=
  let entry := draft.entries[number]
  let parts := entry.parts.toList.attach.map fun
    | ⟨.finished document, _⟩ => document
    | ⟨.entry later, member⟩ =>
      have hlater := draft.ordered number entry (Array.getElem?_eq_getElem h) later member
      draft.document later hlater.2
  .object [("kind", .text entry.rule.name), ("children", .array parts)]
termination_by draft.entries.size - number

end Draft

/-- A leaf is an object with its kind and word, a branch one with its kind and children. -/
def Tree.document : Tree → Json
  | .leaf cls text => Draft.ofLeaf cls text
  | .branch rule children =>
    let draft := (Draft.start rule).fill [(0, children)]
    draft.document 0 draft.nonempty

end Sexpr
