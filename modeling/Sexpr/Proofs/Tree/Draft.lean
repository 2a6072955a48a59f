import Sexpr.Tree.Draft

/-!
What a draft becomes. While a document is drafted, its entries are filled out of order, and an entry
shows in the one above before there is anything in it. `Denotes` says which document an entry stands
for if what is still owed to it and to the entries inside it is counted in. No step of filling
changes that; so the first entry stands for the whole tree's document from the start to the end,
when nothing is owed any more.
-/

namespace Sexpr

namespace Tree

mutual
/-- The document of a tree: a leaf is an object with its kind and word, a branch one with its kind
and the documents of its children. -/
def toJson : Tree → Json
  | .leaf cls text => .object [("kind", .text cls.name), ("text", .text text)]
  | .branch rule children =>
    .object [("kind", .text rule.name), ("children", .array (toJsons children))]

def toJsons : List Tree → List Json
  | [] => []
  | tree :: trees => toJson tree :: toJsons trees
end

end Tree

namespace Draft

/-- The trees whose documents are still to be put into an entry. -/
def owed (pending : Pending) (number : Nat) : List Tree :=
  pending.flatMap fun (other, trees) => if other = number then trees else []

theorem owed_cons (number : Nat) (trees : List Tree) (pending : Pending) (other : Nat) :
    owed ((number, trees) :: pending) other =
      (if number = other then trees else []) ++ owed pending other :=
  List.flatMap_cons

theorem owed_done (number : Nat) (pending : Pending) :
    owed ((number, []) :: pending) = owed pending := by
  funext other
  rw [owed_cons, ite_self, List.nil_append]

mutual
/-- What an entry stands for when so many trees are owed to each entry. -/
inductive Denotes (entries : Array Entry) (owed : Nat → List Tree) : Nat → Json → Prop
  | entry {number entry documents} (hentry : entries[number]? = some entry)
      (hparts : DenotesAll entries owed entry.parts.toList documents) :
    Denotes entries owed number (.object [("kind", .text entry.rule.name),
      ("children", .array (documents ++ Tree.toJsons (owed number)))])

inductive DenotesAll (entries : Array Entry) (owed : Nat → List Tree) :
    List Part → List Json → Prop
  | nil : DenotesAll entries owed [] []
  | finished {document parts documents} (hparts : DenotesAll entries owed parts documents) :
    DenotesAll entries owed (.finished document :: parts) (document :: documents)
  | entry {number document parts documents} (hentry : Denotes entries owed number document)
      (hparts : DenotesAll entries owed parts documents) :
    DenotesAll entries owed (.entry number :: parts) (document :: documents)
end

theorem DenotesAll.append {entries : Array Entry} {owed : Nat → List Tree} {parts more : List Part}
    {documents others : List Json} (hparts : DenotesAll entries owed parts documents)
    (hmore : DenotesAll entries owed more others) :
    DenotesAll entries owed (parts ++ more) (documents ++ others) := by
  match hparts with
  | .nil => exact hmore
  | .finished hparts => exact .finished (hparts.append hmore)
  | .entry hentry hparts => exact .entry hentry (hparts.append hmore)

/-- From some entries to others, with nothing lost: each entry is still there, and what was owed to
it and no more is has become parts of it. -/
def Advances (entries : Array Entry) (owed : Nat → List Tree) (entries' : Array Entry)
    (owed' : Nat → List Tree) : Prop :=
  ∀ number entry, entries[number]? = some entry → ∃ entry' more documents,
    entries'[number]? = some entry' ∧ entry'.rule = entry.rule ∧
      entry'.parts.toList = entry.parts.toList ++ more ∧
      DenotesAll entries' owed' more documents ∧
      Tree.toJsons (owed number) = documents ++ Tree.toJsons (owed' number)

mutual
/-- What an entry stands for does not change when the entries advance. -/
theorem Denotes.advance {entries entries' : Array Entry} {owed owed' : Nat → List Tree}
    (hadvances : Advances entries owed entries' owed') {number : Nat} {document : Json}
    (h : Denotes entries owed number document) : Denotes entries' owed' number document := by
  match h with
  | @Denotes.entry _ _ _ entry documents hentry hparts =>
    obtain ⟨entry', more, others, hentry', hrule, hmost, hmore, howed⟩ :=
      hadvances number entry hentry
    have hparts' := (DenotesAll.advance hadvances hparts).append hmore
    rw [← hmost] at hparts'
    rw [howed, ← List.append_assoc, ← hrule]
    exact .entry hentry' hparts'

theorem DenotesAll.advance {entries entries' : Array Entry} {owed owed' : Nat → List Tree}
    (hadvances : Advances entries owed entries' owed') {parts : List Part} {documents : List Json}
    (h : DenotesAll entries owed parts documents) : DenotesAll entries' owed' parts documents := by
  match h with
  | .nil => exact .nil
  | .finished hparts => exact .finished (DenotesAll.advance hadvances hparts)
  | .entry hentry hparts =>
    exact .entry (Denotes.advance hadvances hentry) (DenotesAll.advance hadvances hparts)
end

/-- An entry that gets a finished document is owed one tree less. -/
theorem advances_add (draft : Draft) (number : Nat) (cls : TokenClass) (text : String)
    (trees : List Tree) (pending : Pending) :
    Advances draft.entries (owed ((number, .leaf cls text :: trees) :: pending))
      (draft.add number (ofLeaf cls text)).entries (owed ((number, trees) :: pending)) := by
  intro other entry hentry
  rw [owed_cons, owed_cons]
  by_cases h : number = other
  · refine ⟨entry.add (.finished (ofLeaf cls text)), [.finished (ofLeaf cls text)],
      [ofLeaf cls text], ?_, rfl, Array.toList_push, .finished .nil, ?_⟩
    · simp [add, Array.getElem?_modify, h, hentry]
    · simp [h, Tree.toJsons, Tree.toJson, ofLeaf]
  · refine ⟨entry, [], [], ?_, rfl, (List.append_nil _).symm, .nil, ?_⟩
    · simp [add, Array.getElem?_modify, h, hentry]
    · simp [h]

/-- All that is pending belongs into entries that there are. -/
def Placed (draft : Draft) (pending : Pending) : Prop :=
  ∀ item ∈ pending, item.1 < draft.entries.size

/-- Nothing is owed yet to an entry that is not there. -/
theorem owed_fresh {draft : Draft} {pending : Pending} (h : draft.Placed pending) :
    owed pending draft.entries.size = [] := by
  rw [owed, List.flatMap_eq_nil_iff]
  intro item member
  exact if_neg (Nat.ne_of_lt (h item member))

/-- The new entry has nothing in it yet, and is owed the children of its branch. -/
theorem denotes_addEntry (draft : Draft) {number : Nat} (rule : Rule) (children trees : List Tree)
    {pending : Pending} (hnumber : number < draft.entries.size) (hpending : draft.Placed pending) :
    Denotes (draft.addEntry number rule).entries
      (owed ((number, trees) :: (draft.entries.size, children) :: pending)) draft.entries.size
      (Tree.toJson (.branch rule children)) := by
  have hentry : (draft.addEntry number rule).entries[draft.entries.size]? = some ⟨rule, #[]⟩ := by
    simp only [addEntry, Array.getElem?_push, Array.size_modify, if_true]
  have howed : owed ((number, trees) :: (draft.entries.size, children) :: pending)
      draft.entries.size = children := by
    rw [owed_cons, owed_cons, owed_fresh hpending, if_neg (Nat.ne_of_lt hnumber), if_pos rfl,
      List.nil_append, List.append_nil]
  have hdenotes := @Denotes.entry _ (owed ((number, trees) :: (draft.entries.size, children) ::
    pending)) _ _ _ hentry .nil
  rw [howed, List.nil_append] at hdenotes
  rw [Tree.toJson]
  exact hdenotes

/-- An entry in which another one is opened is owed one tree less. -/
theorem advances_addEntry (draft : Draft) (number : Nat) (rule : Rule) (children trees : List Tree)
    {pending : Pending} (hpending : draft.Placed pending) :
    Advances draft.entries (owed ((number, .branch rule children :: trees) :: pending))
      (draft.addEntry number rule).entries
      (owed ((number, trees) :: (draft.entries.size, children) :: pending)) := by
  intro other entry hentry
  obtain ⟨hless, -⟩ := Array.getElem?_eq_some_iff.mp hentry
  rw [owed_cons, owed_cons, owed_cons, if_neg (Nat.ne_of_gt hless), List.nil_append]
  by_cases h : number = other
  · subst h
    have hopened := denotes_addEntry draft rule children trees hless hpending
    refine ⟨entry.add (.entry draft.entries.size), [.entry draft.entries.size],
      [Tree.toJson (.branch rule children)], ?_, rfl, Array.toList_push, .entry hopened .nil, ?_⟩
    · simp [addEntry, Array.getElem?_push, Array.getElem?_modify, Nat.ne_of_lt hless, hentry]
    · simp [Tree.toJsons]
  · refine ⟨entry, [], [], ?_, rfl, (List.append_nil _).symm, .nil, ?_⟩
    · simp [addEntry, Array.getElem?_push, Array.getElem?_modify, h, Nat.ne_of_lt hless, hentry]
    · simp [h]

/-- Putting all trees that are owed to an entry into it changes nothing of what is denoted. -/
theorem hang_denotes {number : Nat} {trees : List Tree} {draft : Draft} {pending : Pending}
    (hplaced : Placed draft ((number, trees) :: pending)) {root : Nat} {document : Json}
    (hdenotes : Denotes draft.entries (owed ((number, trees) :: pending)) root document) :
    Placed (hang number trees (draft, pending)).1 (hang number trees (draft, pending)).2 ∧
      Denotes (hang number trees (draft, pending)).1.entries
        (owed (hang number trees (draft, pending)).2) root document := by
  obtain ⟨hnumber, hpending⟩ := List.forall_mem_cons.mp hplaced
  induction trees generalizing draft pending with
  | nil =>
    rw [owed_done] at hdenotes
    exact ⟨hpending, hdenotes⟩
  | cons tree trees ih =>
    cases tree with
    | leaf cls text =>
      rw [hang]
      have hsize : (draft.add number (ofLeaf cls text)).entries.size = draft.entries.size := by
        simp [add]
      have hpending' : Placed (draft.add number (ofLeaf cls text)) pending := by
        rw [Placed, hsize]
        exact hpending
      rw [← hsize] at hnumber
      exact ih (List.forall_mem_cons.mpr ⟨hnumber, hpending'⟩)
        (hdenotes.advance (advances_add draft number cls text trees pending)) hnumber hpending'
    | branch rule children =>
      rw [hang]
      have hsize : (draft.addEntry number rule).entries.size = draft.entries.size + 1 := by
        simp [addEntry]
      have hpending' : Placed (draft.addEntry number rule)
          ((draft.entries.size, children) :: pending) := by
        rw [Placed, hsize, List.forall_mem_cons]
        exact ⟨Nat.lt_succ_self _, fun item member => Nat.lt_succ_of_lt (hpending item member)⟩
      have hnumber' : number < (draft.addEntry number rule).entries.size := by omega
      exact ih (List.forall_mem_cons.mpr ⟨hnumber', hpending'⟩)
        (hdenotes.advance (advances_addEntry draft number rule children trees hpending))
        hnumber' hpending'

/-- Filling in all that is pending changes nothing of what is denoted, and then nothing is owed. -/
theorem fill_denotes {draft : Draft} {pending : Pending} (hplaced : Placed draft pending)
    {root : Nat} {document : Json} (hdenotes : Denotes draft.entries (owed pending) root document) :
    Denotes (draft.fill pending).entries (owed []) root document := by
  fun_induction fill draft pending with
  | case1 => exact hdenotes
  | case2 draft number trees pending state ih =>
    obtain ⟨hplaced', hdenotes'⟩ := hang_denotes hplaced hdenotes
    exact ih hplaced' hdenotes'

def partDocument (draft : Draft) : Part → Json
  | .finished document => document
  | .entry number =>
    if h : number < draft.entries.size then draft.document number h else .array []

theorem document_eq (draft : Draft) {number : Nat} {entry : Entry}
    (hentry : draft.entries[number]? = some entry) (h : number < draft.entries.size) :
    draft.document number h = .object [("kind", .text entry.rule.name),
      ("children", .array (entry.parts.toList.map draft.partDocument))] := by
  obtain ⟨-, rfl⟩ := Array.getElem?_eq_some_iff.mp hentry
  have hparts (parts : List Part) (f : { part // part ∈ parts } → Json)
      (hf : ∀ part, f part = draft.partDocument part.1) :
      parts.attach.map f = parts.map draft.partDocument := by
    rw [funext hf, List.attach_map_val]
  rw [document, hparts]
  rintro ⟨part, member⟩
  cases part with
  | finished document => rfl
  | entry later =>
    have hlater := draft.ordered number _ (Array.getElem?_eq_getElem h) later member
    exact (dif_pos hlater.2).symm

mutual
/-- When nothing is owed, the document of an entry is the one that it stands for. -/
theorem Denotes.document_eq {draft : Draft} {number : Nat} {document : Json}
    (hdenotes : Denotes draft.entries (owed []) number document)
    (h : number < draft.entries.size) : draft.document number h = document := by
  match hdenotes with
  | .entry hentry hparts =>
    rw [Draft.document_eq draft hentry h, DenotesAll.map_partDocument hparts]
    simp [owed, Tree.toJsons]

theorem DenotesAll.map_partDocument {draft : Draft} {parts : List Part} {documents : List Json}
    (hdenotes : DenotesAll draft.entries (owed []) parts documents) :
    parts.map draft.partDocument = documents := by
  match hdenotes with
  | .nil => rfl
  | .finished hparts => rw [List.map_cons, DenotesAll.map_partDocument hparts, partDocument]
  | @DenotesAll.entry _ _ number _ _ _ hentry hparts =>
    have hless : number < draft.entries.size := by
      cases hentry with
      | entry hentry _ => exact (Array.getElem?_eq_some_iff.mp hentry).1
    rw [List.map_cons, DenotesAll.map_partDocument hparts, partDocument, dif_pos hless,
      Denotes.document_eq hentry hless]
end

end Draft

namespace Tree

/-- The document that is drafted of a tree is the one that recursion gives. -/
theorem document_eq_toJson (tree : Tree) : tree.document = tree.toJson := by
  match tree with
  | .leaf cls text => rw [document, Draft.ofLeaf, toJson]
  | .branch rule children =>
    have hplaced : (Draft.start rule).Placed [(0, children)] := by
      simp [Draft.Placed, Draft.start]
    have hdenotes : Draft.Denotes (Draft.start rule).entries (Draft.owed [(0, children)]) 0
        (toJson (.branch rule children)) := by
      have hroot : (Draft.start rule).entries[0]? = some ⟨rule, #[]⟩ := rfl
      have howed : Draft.owed [(0, children)] 0 = children := by simp [Draft.owed]
      have hentry := @Draft.Denotes.entry _ (Draft.owed [(0, children)]) _ _ _ hroot .nil
      rw [howed, List.nil_append] at hentry
      rw [toJson]
      exact hentry
    exact (Draft.fill_denotes hplaced hdenotes).document_eq _

end Tree

end Sexpr
