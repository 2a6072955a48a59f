import Sexpr.Breakdown
import Sexpr.Proofs.Token.Layout
import Sexpr.Token.Scanner

/-!
The order of the classes. Where words of several classes start, the first class in the order
decides, with the longest word that it has there. A token is therefore never followed by what would
have made it longer, nor by what would have made it a word of an earlier class.
-/

namespace Sexpr

open Text (isBlank)

namespace Lexeme

structure IsLongest (cls : TokenClass) (text word : List Char) : Prop where
  isWord : IsWord cls word
  starts : word <+: text
  longest : ∀ other, IsWord cls other → other <+: text → other.length ≤ word.length

/-- What is found at the front of a text by classes that are asked one after the other. -/
inductive Chosen (text : List Char) : List TokenClass → Option Lexeme → Prop
  | nothing : Chosen text [] none
  | found {cls classes word} (hword : IsLongest cls text word) :
    Chosen text (cls :: classes) (some ⟨cls, word⟩)
  | passed {cls classes found} (hnone : ∀ word, word <+: text → ¬IsWord cls word)
      (hlater : Chosen text classes found) :
    Chosen text (cls :: classes) found

def MayFollow : TokenClass → List Char → Prop
  | .int, rest => (∀ c, [c] <+: rest → c.isDigit = false) ∧
      ∀ c, ['.', c] <+: rest → c.isDigit = false
  | .real, rest => ∀ c, [c] <+: rest → c.isDigit = false
  | .id, rest => ∀ c, [c] <+: rest → isBlank c = true ∨ c = '"' ∨ isParenthesis c = true
  | .literal, _ | .string, _ | .invalid, _ => True

theorem isLongest_iff {cls : TokenClass} {text word : List Char} :
    IsLongest cls text word ↔ reader cls text = some word := by
  rw [reader_eq_some_iff]
  constructor
  · rintro ⟨hword, hstarts, hlongest⟩
    exact ⟨hword, hstarts, hlongest⟩
  · rintro ⟨hword, hstarts, hlongest⟩
    exact ⟨hword, hstarts, hlongest⟩

/-- Asking the classes in an order is asking their readers in that order. -/
theorem chosen_iff {text : List Char} {classes : List TokenClass} {found : Option Lexeme} :
    Chosen text classes found ↔
      classes.findSome? (fun cls => (reader cls text).map (⟨cls, ·⟩)) = found := by
  induction classes with
  | nil =>
      constructor
      · rintro ⟨⟩
        rfl
      · rintro rfl
        exact .nothing
  | cons cls classes ih =>
      rw [List.findSome?_cons]
      cases hread : reader cls text with
      | none =>
          have hnone := reader_eq_none_iff.mp hread
          constructor
          · intro h
            cases h with
            | found hword => exact absurd hword.isWord (hnone _ hword.starts)
            | passed _ hlater => exact ih.mp hlater
          · intro h
            exact .passed hnone (ih.mpr h)
      | some word =>
          have hword := isLongest_iff.mpr hread
          constructor
          · intro h
            cases h with
            | found hother =>
                rw [isLongest_iff.mp hother] at hread
                cases hread
                rfl
            | passed hnone _ => exact absurd hword.isWord (hnone word hword.starts)
          · rintro rfl
            exact .found hword

theorem first?_eq_iff {text : List Char} {found : Option Lexeme} :
    first? text = found ↔ Chosen text [.literal, .real, .int, .string, .id] found := by
  have hreaders : first? text = [.literal, .real, .int, .string, .id].findSome?
      fun cls => (reader cls text).map (⟨cls, ·⟩) := by
    simp only [first?, Option.orElse_eq_orElse, Option.orElse_eq_or, List.findSome?_cons,
      List.findSome?_nil, reader]
    cases literal? text with
    | some => rfl
    | none =>
    cases real? text with
    | some => rfl
    | none =>
    cases int? text with
    | some => rfl
    | none =>
    cases string? text with
    | some => rfl
    | none => cases id? text <;> rfl
  rw [chosen_iff, hreaders]

/-- At most one string starts in a place. -/
theorem IsWord.string_unique {text word other : List Char} (hword : IsWord .string word)
    (hstarts : word <+: text) (hother : IsWord .string other) (hfront : other <+: text) :
    other = word := by
  obtain ⟨rest, rfl⟩ := hstarts
  obtain ⟨after, hafter⟩ := hfront
  have hread := reader_closed hother (.inr rfl) after
  rw [hafter, reader_closed hword (.inr rfl) rest] at hread
  exact (Option.some.inj hread).symm

section Longer

variable {word : List Char} {c : Char}

theorem IsWord.real_digit (h : IsWord .real word) (hc : c.isDigit = true) :
    IsWord .real (word ++ [c]) := by
  cases h with
  | @real sign digits fraction hsign hdigits hfraction hne =>
      have hmore : ∀ d ∈ fraction ++ [c], d.isDigit = true := by
        rw [List.forall_mem_append, List.forall_mem_singleton]
        exact ⟨hfraction, hc⟩
      have hlonger := IsWord.real hsign hdigits hmore (by simp)
      rw [List.append_assoc, List.append_assoc, List.cons_append]
      exact hlonger

theorem IsWord.int_digit (h : IsWord .int word) (hc : c.isDigit = true) :
    IsWord .int (word ++ [c]) := by
  cases h with
  | @int sign digits hsign hdigits hne =>
      have hmore : ∀ d ∈ digits ++ [c], d.isDigit = true := by
        rw [List.forall_mem_append, List.forall_mem_singleton]
        exact ⟨hdigits, hc⟩
      rw [List.append_assoc]
      exact .int hsign hmore (by simp)

/-- A point and a digit make an integer a real. -/
theorem IsWord.int_point (h : IsWord .int word) (hc : c.isDigit = true) :
    IsWord .real (word ++ ['.', c]) := by
  cases h with
  | @int sign digits hsign hdigits hne =>
      rw [List.append_assoc]
      refine .real hsign hdigits ?_ (by simp)
      rw [List.forall_mem_singleton]
      exact hc

theorem IsWord.id_char (h : IsWord .id word) (hc : isIdChar c = true) :
    IsWord .id (word ++ [c]) := by
  cases h with
  | id hword hne =>
      refine .id ?_ (by simp)
      rw [List.forall_mem_append, List.forall_mem_singleton]
      exact ⟨hword, hc⟩

end Longer

section Behind

variable {cls : TokenClass} {word rest more : List Char}

/-- No word of the class goes on behind a lexeme, and none of an earlier class. -/
theorem not_isWord_longer (h : first? (word ++ rest) = some ⟨cls, word⟩) (hmore : more <+: rest)
    (hne : more ≠ []) {other : TokenClass} (hother : rank other ≤ rank cls) :
    ¬IsWord other (word ++ more) := by
  intro hlonger
  obtain ⟨hread, hearlier⟩ := first?_eq_some_iff.mp h
  have hfront : word ++ more <+: word ++ rest := (List.prefix_append_right_inj word).mpr hmore
  rcases Nat.lt_or_eq_of_le hother with hless | heq
  · exact reader_eq_none_iff.mp (hearlier other hless) _ hfront hlonger
  · have hcls : other = cls := by
      cases other <;> cases cls <;> first | rfl | cases heq
    subst hcls
    have hlength := (reader_eq_some_iff.mp hread).2.2 _ hlonger hfront
    have hpos := List.length_pos_iff.mpr hne
    rw [List.length_append] at hlength
    omega

theorem mayFollow_of_first? (h : first? (word ++ rest) = some ⟨cls, word⟩) :
    MayFollow cls rest := by
  obtain ⟨hword, -⟩ := isWord_of_first? h
  -- What is ruled out would each time be a word that goes on behind the lexeme.
  cases cls with
  | literal => trivial
  | string => trivial
  | invalid => trivial
  | real =>
      intro c hc
      rw [← Bool.not_eq_true]
      intro hdigit
      exact not_isWord_longer h hc (by simp) (Nat.le_refl _) (hword.real_digit hdigit)
  | int =>
      constructor
      · intro c hc
        rw [← Bool.not_eq_true]
        intro hdigit
        exact not_isWord_longer h hc (by simp) (Nat.le_refl _) (hword.int_digit hdigit)
      · intro c hc
        rw [← Bool.not_eq_true]
        intro hdigit
        exact not_isWord_longer h hc (by simp) (by decide) (hword.int_point hdigit)
  | id =>
      intro c hc
      have hchar : isIdChar c = false := by
        rw [← Bool.not_eq_true]
        intro hchar
        exact not_isWord_longer h hc (by simp) (Nat.le_refl _) (hword.id_char hchar)
      rw [isIdChar, Bool.not_eq_false', Bool.or_eq_true, Bool.or_eq_true, beq_iff_eq] at hchar
      exact or_assoc.mp hchar

end Behind

end Lexeme

/-- Each token is the lexeme that starts in its place. -/
theorem Lexing.first?_of_mem {offset : Nat} {text : List Char} {tokens : List Token}
    {fault : Option Nat} (lexing : Lexing offset text tokens fault) :
    ∀ token ∈ tokens, ∃ cls before after, token.kind = .lexical cls ∧
      token.offset = (offset + before.length : Nat) ∧
      text = before ++ (token.text.toList ++ after) ∧
      Lexeme.first? (token.text.toList ++ after) = some ⟨cls, token.text.toList⟩ := by
  induction lexing with
  | finished => simp
  | stuck => simp
  | @blank offset c text tokens fault hblank hrest ih =>
      intro token member
      obtain ⟨cls, before, after, hkind, hoffset, rfl, hfirst⟩ := ih token member
      refine ⟨cls, c :: before, after, hkind, ?_, rfl, hfirst⟩
      rw [hoffset, List.length_cons]
      omega
  | @token offset cls word text tokens fault hlexeme hrest ih =>
      intro token member
      rcases List.mem_cons.mp member with rfl | member
      · refine ⟨cls, [], text, rfl, rfl, ?_, ?_⟩
        · rw [String.toList_ofList, List.nil_append]
        · rw [String.toList_ofList]
          exact hlexeme
      · obtain ⟨other, before, after, hkind, hoffset, rfl, hfirst⟩ := ih token member
        refine ⟨other, word ++ before, after, hkind, ?_, ?_, hfirst⟩
        · rw [hoffset, List.length_append, Nat.add_assoc]
        · rw [List.append_assoc]

/-- At each place of a text the classes are asked in a fixed order for the longest word that starts
there, and the first that has one gives the token. Strings have one length only. What stands behind
a token in the text neither makes it longer nor makes a real out of an integer. -/
theorem Scanner.peek_chosen (text : String) :
    (∀ place : Nat, place ≤ Breakdown.textLimit →
      ∃ found, ((ofText text).seek place).peek = .ok (found.map fun lexeme : Lexeme =>
          ⟨.lexical lexeme.cls, String.ofList lexeme.word, place⟩) ∧
        ∀ other, Lexeme.Chosen (text.toList.drop place) [.literal, .real, .int, .string, .id]
          other ↔ other = found) ∧
    (∀ place word other, Lexeme.IsWord .string word → word <+: text.toList.drop place →
      Lexeme.IsWord .string other → other <+: text.toList.drop place → other = word) ∧
    ∀ tokens, tokenize text = .ok tokens → ∀ token ∈ tokens, ∃ cls, token.kind = .lexical cls ∧
      Lexeme.MayFollow cls (text.toList.drop token.endOffset.toNat) := by
  refine ⟨?_, ?_, ?_⟩
  · intro place hplace
    have hindex : Index.isIndex place = true := by
      rw [Breakdown.textLimit] at hplace
      simp only [Index.isIndex, Bool.and_eq_true, decide_eq_true_eq]
      omega
    have hunread : ((ofText text).seek place).unread = text.toList.drop place := rfl
    refine ⟨Lexeme.first? (text.toList.drop place), ?_, ?_⟩
    · rw [peek, hunread, seek, if_pos hindex]
    · intro other
      rw [← Lexeme.first?_eq_iff, eq_comm]
  · intro place word other hword hstarts hother hfront
    exact hword.string_unique hstarts hother hfront
  · intro tokens h token member
    obtain ⟨cls, before, after, hkind, hoffset, htext, hfirst⟩ :=
      (tokenize_eq_ok_iff.mp h).first?_of_mem token member
    refine ⟨cls, hkind, ?_⟩
    have hend : token.endOffset.toNat = (before ++ token.text.toList).length := by
      rw [Token.endOffset, hoffset, List.length_append, String.length_toList]
      omega
    rw [htext, hend, ← List.append_assoc, List.drop_left]
    exact Lexeme.mayFollow_of_first? hfirst

/-- A point without a digit behind it leaves the integer before it whole; with one it starts a real,
which ends before a letter. -/
theorem Scanner.peek_chosen_points :
    let text := "5. +.5a"
    let tokens : List Token := [⟨.lexical .int, "5", 0⟩, ⟨.lexical .id, ".", 1⟩,
      ⟨.lexical .real, "+.5", 3⟩, ⟨.lexical .id, "a", 6⟩]
    3 ≤ Breakdown.textLimit ∧ tokenize text = .ok tokens ∧
      (∃ found, ((ofText text).seek 3).peek = .ok (found.map fun lexeme : Lexeme =>
          ⟨.lexical lexeme.cls, String.ofList lexeme.word, 3⟩) ∧
        ∀ other, Lexeme.Chosen (text.toList.drop 3) [.literal, .real, .int, .string, .id] other ↔
          other = found) ∧
      ∀ token ∈ tokens, ∃ cls, token.kind = .lexical cls ∧
        Lexeme.MayFollow cls (text.toList.drop token.endOffset.toNat) := by
  intro text tokens
  have htext : text.toList = ['5', '.', ' ', '+', '.', '5', 'a'] := by simp [text]
  have hplace : 3 ≤ Breakdown.textLimit := by decide
  have h : tokenize text = .ok tokens := by
    rw [tokenize_eq_ok_iff, htext]
    refine @Lexing.cut _ _ ⟨.int, ['5']⟩ _ _ rfl ?_
    refine @Lexing.cut _ _ ⟨.id, ['.']⟩ _ _ rfl ?_
    refine .blank rfl ?_
    refine @Lexing.cut _ _ ⟨.real, ['+', '.', '5']⟩ _ _ rfl ?_
    refine @Lexing.cut _ _ ⟨.id, ['a']⟩ _ _ rfl ?_
    exact .finished
  obtain ⟨hpeek, -, hfollow⟩ := peek_chosen text
  exact ⟨hplace, h, hpeek 3 hplace, hfollow tokens h⟩

end Sexpr
