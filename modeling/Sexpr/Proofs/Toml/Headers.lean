import Sexpr.Toml.Document

/-!
Documents in which no key is given a value. Their lines are empty, comments, or headers that open a
table; the table of such a document has an empty table for each header, and nothing else.
-/

namespace Sexpr.Toml

/-- A line that gives no key a value, and the name of the table that it opens if it opens one. -/
inductive Opens : (line : List Char) → Option String → Prop
  | empty : Opens [] none
  | comment {text : List Char} (h : text.all (!isControl ·) = true) : Opens ('#' :: text) none
  | header {c : Char} {name : List Char} (h : (c :: name).all isBareKeyChar = true) :
      Opens ('[' :: c :: name ++ [']']) (some (String.ofList (c :: name)))

def opened? : (line : List Char) → Option (Option String)
  | [] => some none
  | '#' :: text => if text.all (!isControl ·) then some none else none
  | '[' :: rest =>
    let name := rest.dropLast
    if !name.isEmpty && name.all isBareKeyChar && rest == name ++ [']'] then
      some (some (String.ofList name))
    else none
  | _ => none

theorem opens_of_opened? {line : List Char} {opened : Option String}
    (h : opened? line = some opened) : Opens line opened := by
  unfold opened? at h
  split at h
  · cases h
    exact .empty
  next text =>
    split at h
    next hplain =>
      cases h
      exact .comment hplain
    · cases h
  next rest =>
    simp only at h
    split at h
    next hheader =>
      cases h
      generalize rest.dropLast = name at hheader ⊢
      simp only [Bool.and_eq_true, beq_iff_eq] at hheader
      obtain ⟨⟨hempty, hbare⟩, rfl⟩ := hheader
      cases name with
      | nil => cases hempty
      | cons c name => exact .header hbare
    · cases h
  · cases h

/-- The names of the tables that lines open, if none of the lines gives a key a value. -/
def headers? : (lines : List (List Char)) → Option (List String)
  | [] => some []
  | line :: lines =>
    match opened? line, headers? lines with
    | some opened, some names => some (opened.toList ++ names)
    | _, _ => none

def joined (lines : List (List Char)) : List Char :=
  lines.flatMap (· ++ ['\n'])

section Characters

variable {c : Char}

theorem ne_of_isBareKeyChar {mark : Char} (h : isBareKeyChar c = true)
    (hmark : isBareKeyChar mark = false) : c ≠ mark := by
  rintro rfl
  rw [h] at hmark
  cases hmark

theorem not_isBlank_of_isBareKeyChar (h : isBareKeyChar c = true) : isBlank c = false := by
  have hspace : c ≠ ' ' := ne_of_isBareKeyChar h (by decide)
  have htab : c ≠ '\t' := ne_of_isBareKeyChar h (by decide)
  simp [isBlank, hspace, htab]

theorem skipBlanks_of_not_isBlank (h : isBlank c = false) (rest : List Char) :
    skipBlanks (c :: rest) = c :: rest := by
  simp [skipBlanks, h]

end Characters

/-- No line of such a document holds a return. -/
theorem Opens.return_not_mem {line : List Char} {opened : Option String} (h : Opens line opened) :
    '\r' ∉ line := by
  cases h with
  | empty => exact List.not_mem_nil
  | comment hplain =>
      rintro (_ | ⟨_, hmem⟩)
      exact absurd (List.all_eq_true.mp hplain _ hmem) (by decide)
  | header hbare =>
      intro hmem
      obtain hmark | hname := List.mem_append.mp hmem
      · obtain _ | ⟨_, hname⟩ := hmark
        exact absurd (List.all_eq_true.mp hbare _ hname) (by decide)
      · exact absurd (List.mem_singleton.mp hname) (by decide)

theorem unifyLineEnds_of_not_mem {text : List Char} (h : '\r' ∉ text) :
    unifyLineEnds text = text := by
  fun_induction unifyLineEnds text with
  | case1 => simp at h
  | case2 c rest _ ih => rw [ih (mt (List.mem_cons_of_mem c) h)]
  | case3 => rfl

section Steps

variable {limits : Limits} {draft : Draft} {line rest : List Char} {opened : Option String}
  {name : String}
  {names : List String}

/-- A draft in which tables can be opened that are not there yet: no table was widened since the
last header, and none is finished. -/
structure Draft.IsOpen (draft : Draft) (names : List String) : Prop where
  pending : draft.pending = []
  finished : draft.finished = []
  absent : ∀ name ∈ names, draft.table.lookup name = none
  unopened : ∀ name ∈ names, [name] ∉ draft.opened

def Draft.behind (draft : Draft) : (opened : Option String) → Draft
  | none => draft
  | some name => ⟨draft.table ++ [(name, .table [])], [name], [name] :: draft.opened, [], []⟩

theorem Draft.IsOpen.openTable_eq (h : draft.IsOpen (name :: names)) (unread : List Char) :
    draft.openTable [name] unread = .ok (draft.behind (some name)) := by
  have habsent := h.absent name List.mem_cons_self
  have hunopened := h.unopened name List.mem_cons_self
  simp [openTable, h.pending, h.finished, hunopened, isWithin, Table.changeAt, habsent, behind]

theorem Draft.IsOpen.behind (hnodup : (opened.toList ++ names).Nodup)
    (h : draft.IsOpen (opened.toList ++ names)) : (draft.behind opened).IsOpen names := by
  cases opened with
  | none => exact h
  | some name =>
      have hother (other : String) (hmem : other ∈ names) : other ≠ name := by
        rintro rfl
        exact (List.nodup_cons.mp hnodup).1 hmem
      refine ⟨rfl, rfl, ?_, ?_⟩
      · intro other hmem
        have habsent := h.absent other (List.mem_append_right _ hmem)
        have hne : (other == name) = false := beq_false_of_ne (hother other hmem)
        rw [Draft.behind, List.lookup_append, habsent, List.lookup_cons, hne]
        rfl
      · intro other hmem
        have hunopened := h.unopened other (List.mem_append_right _ hmem)
        simp [Draft.behind, hother other hmem, hunopened]

theorem keyName_of_bare {c : Char} {text : List Char} (h : (c :: text).all isBareKeyChar = true) :
    keyName (c :: text ++ ']' :: rest) = .ok (String.ofList (c :: text), ']' :: rest) := by
  have hbare := List.all_eq_true.mp h
  have hend : isBareKeyChar ']' = false := by decide
  have htake : (c :: text ++ ']' :: rest).takeWhile isBareKeyChar = c :: text := by
    rw [List.takeWhile_append_of_pos hbare, List.takeWhile_cons_of_neg (by simp [hend]),
      List.append_nil]
  have hdrop : (c :: text ++ ']' :: rest).dropWhile isBareKeyChar = ']' :: rest := by
    rw [List.dropWhile_append_of_pos hbare, List.dropWhile_cons_of_neg (by simp [hend])]
  unfold keyName
  split
  next heq =>
    cases heq
    exact absurd (hbare _ List.mem_cons_self) (by decide)
  next heq =>
    cases heq
    exact absurd (hbare _ List.mem_cons_self) (by decide)
  · rw [htake, hdrop]

theorem key_of_bare {c : Char} {text : List Char} (h : (c :: text).all isBareKeyChar = true)
    (rest : List Char) :
    key (c :: text ++ ']' :: rest) = .ok ((String.ofList (c :: text), []), ']' :: rest) := by
  have hend := skipBlanks_of_not_isBlank (c := ']') rfl rest
  have hnames : keyNames (']' :: rest).length (']' :: rest) = .ok ([], ']' :: rest) := by
    rw [List.length_cons, keyNames, hend]
    rfl
  simp only [key, keyName_of_bare h, bind, Except.bind, hnames, hend]
  rfl

theorem skipComment_of_plain {text : List Char} (h : text.all (!isControl ·) = true) :
    skipComment ('#' :: text ++ '\n' :: rest) = .ok ('\n' :: rest) := by
  have hplain := List.all_eq_true.mp h
  have hfeed : ∀ c ∈ text, decide (c ≠ '\n') = true := by
    intro c hmem
    apply decide_eq_true
    rintro rfl
    exact absurd (hplain _ hmem) (by decide)
  have htake : (text ++ '\n' :: rest).takeWhile (· ≠ '\n') = text := by
    rw [List.takeWhile_append_of_pos hfeed, List.takeWhile_cons_of_neg (by simp), List.append_nil]
  have hdrop : (text ++ '\n' :: rest).dropWhile (· ≠ '\n') = '\n' :: rest := by
    rw [List.dropWhile_append_of_pos hfeed, List.dropWhile_cons_of_neg (by simp)]
  have hfind : text.find? isControl = none := by
    rw [List.find?_eq_none]
    intro c hmem hcontrol
    have hcharacter := hplain c hmem
    rw [hcontrol] at hcharacter
    cases hcharacter
  rw [List.cons_append, skipComment]
  simp only [htake, hfind, hdrop]

/-- A line with a statement on it, and nothing behind this but a comment. -/
theorem lines_of_statement {c : Char} {text unread : List Char} {after : Draft}
    (hblank : isBlank c = false) (hfeed : c ≠ '\n')
    (hstatement : statement limits draft (c :: text) = .ok (after, unread))
    (hcomment : skipComment (skipBlanks unread) = .ok ('\n' :: rest)) (steps : Nat) :
    lines limits (steps + 1) draft (c :: text) = lines limits steps after rest := by
  rw [lines, skipBlanks_of_not_isBlank hblank]
  split
  next heq => cases heq
  next heq =>
    cases heq
    exact absurd rfl hfeed
  · simp only [bind, Except.bind, hstatement, hcomment]

theorem statement_of_header {c : Char} {text : List Char}
    (hbare : (c :: text).all isBareKeyChar = true)
    (hopen : draft.IsOpen (String.ofList (c :: text) :: names)) :
    statement limits draft ('[' :: (c :: text ++ ']' :: rest)) =
      .ok (draft.behind (some (String.ofList (c :: text))), rest) := by
  have hc : isBareKeyChar c = true := List.all_eq_true.mp hbare c List.mem_cons_self
  have hsecond : c ≠ '[' := ne_of_isBareKeyChar hc (by decide)
  have hname : skipBlanks (c :: text ++ ']' :: rest) = c :: text ++ ']' :: rest :=
    skipBlanks_of_not_isBlank (not_isBlank_of_isBareKeyChar hc) _
  have hkey := key_of_bare hbare rest
  unfold statement
  split
  next heq =>
    cases heq
    exact absurd rfl hsecond
  next heq =>
    cases heq
    simp only [hname, hkey, bind, Except.bind, hopen.openTable_eq]
    rfl
  next hmark heq =>
    cases heq
    exact absurd rfl hmark
  next heq => cases heq

/-- One line of such a document: a table is opened, or nothing happens. -/
theorem lines_of_opens (h : Opens line opened) (hopen : draft.IsOpen (opened.toList ++ names))
    (steps : Nat) :
    lines limits (steps + 1) draft (line ++ '\n' :: rest) =
      lines limits steps (draft.behind opened) rest := by
  have hfeed := skipBlanks_of_not_isBlank (c := '\n') rfl rest
  cases h with
  | empty =>
      rw [List.nil_append, lines, hfeed]
      rfl
  | comment hplain =>
      have hmark := skipBlanks_of_not_isBlank (c := '#') rfl
      refine lines_of_statement rfl (by decide) rfl ?_ steps
      rw [hmark]
      exact skipComment_of_plain hplain
  | header hbare =>
      rw [List.append_assoc, List.cons_append]
      refine lines_of_statement rfl (by decide) (statement_of_header hbare hopen) ?_ steps
      exact congrArg skipComment hfeed

theorem lines_joined {written : List (List Char)} (h : headers? written = some names)
    (hnodup : names.Nodup) (hopen : draft.IsOpen names) {steps : Nat}
    (hsteps : written.length ≤ steps) :
    (lines limits steps draft (joined written)).map Draft.table =
      .ok (draft.table ++ names.map fun name => (name, .table [])) := by
  induction written generalizing draft names steps with
  | nil =>
      cases h
      cases steps <;> simp [lines, joined, skipBlanks, Except.map]
  | cons line written ih =>
      have hpositive := Nat.lt_of_lt_of_le (Nat.zero_lt_succ _) hsteps
      obtain ⟨steps, rfl⟩ := Nat.exists_eq_add_one_of_ne_zero (Nat.ne_of_gt hpositive)
      unfold headers? at h
      split at h
      next opened others hline hothers =>
        cases h
        have hrest := ih hothers (List.nodup_append.mp hnodup).2.1 (hopen.behind hnodup)
          (Nat.le_of_succ_le_succ hsteps)
        rw [joined, List.flatMap_cons, List.append_assoc, List.singleton_append,
          lines_of_opens (opens_of_opened? hline) hopen]
        refine hrest.trans ?_
        cases opened <;> simp [Draft.behind]
      · cases h

theorem length_le_joined (written : List (List Char)) :
    written.length ≤ (joined written).length := by
  induction written with
  | nil => exact Nat.le_refl 0
  | cons line written ih =>
      rw [joined] at ih ⊢
      simp only [List.flatMap_cons, List.length_append, List.length_cons, List.length_nil]
      omega

theorem return_not_mem_joined {written : List (List Char)} (h : headers? written = some names) :
    '\r' ∉ joined written := by
  induction written generalizing names with
  | nil => exact List.not_mem_nil
  | cons line written ih =>
      unfold headers? at h
      split at h
      next opened others hline hothers =>
        intro hmem
        rw [joined, List.flatMap_cons] at hmem
        obtain hfirst | hrest := List.mem_append.mp hmem
        · obtain hline' | hfeed := List.mem_append.mp hfirst
          · exact (opens_of_opened? hline).return_not_mem hline'
          · exact absurd (List.mem_singleton.mp hfeed) (by decide)
        · exact ih hothers hrest
      · cases h

/-- The table of a document in which no key is given a value. -/
theorem parse_joined (limits : Limits) {written : List (List Char)}
    (h : headers? written = some names) (hnodup : names.Nodup) :
    parse limits (joined written) = .ok (names.map fun name => (name, .table [])) := by
  have hreturn := return_not_mem_joined h
  have hopen : Draft.empty.IsOpen names :=
    ⟨rfl, rfl, fun _ _ => rfl, fun _ _ => List.not_mem_nil⟩
  have hsteps : written.length ≤ (joined written).length + 1 :=
    Nat.le_succ_of_le (length_le_joined written)
  rw [parse, unifyLineEnds_of_not_mem hreturn]
  exact lines_joined h hnodup hopen hsteps

end Steps

end Sexpr.Toml
