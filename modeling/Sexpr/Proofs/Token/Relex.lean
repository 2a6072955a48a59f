import Sexpr.Proofs.Token.Munch

/-!
Lexemes away from the text they were cut out of. A lexeme alone is again that lexeme, and it stays
one in front of any text that cannot make it longer: parentheses and strings in front of
everything, other words in front of what is no character of theirs.
-/

namespace Sexpr.Lexeme

def rank : TokenClass → Nat
  | .literal => 0
  | .real => 1
  | .int => 2
  | .string => 3
  | .id => 4
  | .invalid => 5

/-- The lexeme at the front of a text is what the first of the readers finds that finds a word. -/
theorem first?_eq_some_iff {text word : List Char} {cls : TokenClass} :
    first? text = some ⟨cls, word⟩ ↔
      reader cls text = some word ∧ ∀ earlier, rank earlier < rank cls →
        reader earlier text = none := by
  simp only [first?, Option.orElse_eq_orElse, Option.orElse_eq_or, Option.or_eq_some_iff,
    Option.map_eq_some_iff, Option.map_eq_none_iff, Lexeme.mk.injEq]
  constructor
  · rintro (⟨_, hw, rfl, rfl⟩ | ⟨hliteral, h⟩)
    · exact ⟨hw, fun earlier hless => absurd hless (by simp [rank])⟩
    rcases h with ⟨_, hw, rfl, rfl⟩ | ⟨hreal, h⟩
    · exact ⟨hw, fun earlier hless => by cases earlier <;> simp_all [rank, reader]⟩
    rcases h with ⟨_, hw, rfl, rfl⟩ | ⟨hint, h⟩
    · exact ⟨hw, fun earlier hless => by cases earlier <;> simp_all [rank, reader]⟩
    rcases h with ⟨_, hw, rfl, rfl⟩ | ⟨hstring, _, hw, rfl, rfl⟩
    · exact ⟨hw, fun earlier hless => by cases earlier <;> simp_all [rank, reader]⟩
    · exact ⟨hw, fun earlier hless => by cases earlier <;> simp_all [rank, reader]⟩
  · rintro ⟨hword, hearlier⟩
    have hnone (other : TokenClass) (hless : rank other < rank cls) := hearlier other hless
    cases cls with
    | literal => exact .inl ⟨word, hword, rfl, rfl⟩
    | real => exact .inr ⟨hnone .literal (by decide), .inl ⟨word, hword, rfl, rfl⟩⟩
    | int =>
        exact .inr ⟨hnone .literal (by decide), .inr ⟨hnone .real (by decide),
          .inl ⟨word, hword, rfl, rfl⟩⟩⟩
    | string =>
        exact .inr ⟨hnone .literal (by decide), .inr ⟨hnone .real (by decide),
          .inr ⟨hnone .int (by decide), .inl ⟨word, hword, rfl, rfl⟩⟩⟩⟩
    | id =>
        exact .inr ⟨hnone .literal (by decide), .inr ⟨hnone .real (by decide),
          .inr ⟨hnone .int (by decide), .inr ⟨hnone .string (by decide), word, hword, rfl, rfl⟩⟩⟩⟩
    | invalid => cases hword

theorem isWord_of_first? {text word : List Char} {cls : TokenClass}
    (h : first? text = some ⟨cls, word⟩) : IsWord cls word ∧ word <+: text :=
  reader_sound (first?_eq_some_iff.mp h).1

/-- The lexeme at the front of a text is also that of another text that starts with it, if the words
at the front of the other text are all at the front of this one. -/
theorem first?_of_fronts {text text' word : List Char} {cls : TokenClass}
    (h : first? text = some ⟨cls, word⟩) (hstarts : word <+: text')
    (hfronts : ∀ cls' other, IsWord cls' other → other <+: text' → other <+: text) :
    first? text' = some ⟨cls, word⟩ := by
  obtain ⟨hread, hearlier⟩ := first?_eq_some_iff.mp h
  obtain ⟨hword, -, hlongest⟩ := reader_eq_some_iff.mp hread
  refine first?_eq_some_iff.mpr ⟨?_, fun earlier hless => ?_⟩
  · refine reader_eq_some_iff.mpr ⟨hword, hstarts, fun other hother hfront => ?_⟩
    exact hlongest other hother (hfronts cls other hother hfront)
  · have hnone := reader_eq_none_iff.mp (hearlier earlier hless)
    refine reader_eq_none_iff.mpr fun other hfront hother => ?_
    exact hnone other (hfronts earlier other hother hfront) hother

/-- A lexeme is found again in every shorter front of its text that still holds it. -/
theorem first?_shortened {text front word : List Char} {cls : TokenClass}
    (h : first? text = some ⟨cls, word⟩) (hword : word <+: front) (hfront : front <+: text) :
    first? front = some ⟨cls, word⟩ :=
  first?_of_fronts h hword fun _ _ _ hother => hother.trans hfront

/-- A lexeme that was cut out of a text is the lexeme at the front of its own word. -/
theorem first?_word {text word : List Char} {cls : TokenClass}
    (h : first? text = some ⟨cls, word⟩) : first? word = some ⟨cls, word⟩ :=
  first?_shortened h List.prefix_rfl (isWord_of_first? h).2

theorem isIdChar_of_isDigit {c : Char} (h : c.isDigit = true) : isIdChar c = true := by
  have hrange : 48 ≤ c.toNat ∧ c.toNat ≤ 57 := by
    simpa [Char.isDigit, UInt32.le_iff_toNat_le] using h
  have hblank : Text.isBlank c = false := by
    simp [Text.isBlank, Text.inRanges, Text.blankRanges]
    omega
  have hne (other : Char) (hother : other.toNat < 48) : c ≠ other := by
    rintro rfl
    omega
  simp [isIdChar, isParenthesis, hblank, hne '"' (by decide), hne '(' (by decide),
    hne ')' (by decide)]

theorem isIdChar_of_mem_sign {sign : List Char} (hsign : IsSign sign) :
    ∀ c ∈ sign, isIdChar c = true := by
  rcases hsign with rfl | rfl | rfl
  · simp
  · exact List.forall_mem_singleton.mpr (by decide)
  · exact List.forall_mem_singleton.mpr (by decide)

/-- Only strings and parentheses hold characters that no identifier holds. -/
theorem IsWord.isIdChar_iff {cls : TokenClass} {word : List Char} (h : IsWord cls word) :
    (∀ c ∈ word, isIdChar c = true) ↔ cls ≠ .literal ∧ cls ≠ .string := by
  cases h with
  | literal hc => simp [isIdChar, hc]
  | string hrest => simp [isIdChar]
  | id hword hne => simpa using hword
  | int hsign hdigits hne =>
      refine iff_of_true (fun c hc => ?_) (by simp)
      rcases List.mem_append.mp hc with hc | hc
      · exact isIdChar_of_mem_sign hsign c hc
      · exact isIdChar_of_isDigit (hdigits c hc)
  | real hsign hdigits hfraction hne =>
      refine iff_of_true (fun c hc => ?_) (by simp)
      rcases List.mem_append.mp hc with hc | hc
      · exact isIdChar_of_mem_sign hsign c hc
      rcases List.mem_append.mp hc with hc | hc
      · exact isIdChar_of_isDigit (hdigits c hc)
      rcases List.mem_cons.mp hc with rfl | hc
      · decide
      · exact isIdChar_of_isDigit (hfraction c hc)

theorem IsWord.ne_nil {cls : TokenClass} {word : List Char} (h : IsWord cls word) : word ≠ [] := by
  cases h <;> simp_all

/-- No identifier goes on into such a text. -/
def Breaks (rest : List Char) : Prop :=
  ∀ c ∈ rest.head?, isIdChar c = false

/-- The first character of a word tells whether it is a parenthesis or a string. -/
theorem IsWord.isIdChar_head_iff {cls : TokenClass} {c : Char} {tail : List Char}
    (h : IsWord cls (c :: tail)) : isIdChar c = true ↔ cls ≠ .literal ∧ cls ≠ .string := by
  constructor
  · intro hc
    refine ⟨?_, ?_⟩ <;> rintro rfl
    · cases h with
      | literal hparenthesis => simp [isIdChar, hparenthesis] at hc
    · cases h
      exact absurd hc (by decide)
  · intro hcls
    exact h.isIdChar_iff.mpr hcls c List.mem_cons_self

theorem IsWord.class_eq_of_head {own cls : TokenClass} {c : Char} {tail tail' : List Char}
    (hword : IsWord own (c :: tail)) (hother : IsWord cls (c :: tail'))
    (hown : own = .literal ∨ own = .string) : cls = own := by
  have hclosed : ¬(cls ≠ .literal ∧ cls ≠ .string) := by
    rw [← hother.isIdChar_head_iff, hword.isIdChar_head_iff]
    rcases hown with rfl | rfl <;> simp
  have hcls : cls = .literal ∨ cls = .string := by
    by_cases hliteral : cls = .literal
    · exact .inl hliteral
    · by_cases hstring : cls = .string
      · exact .inr hstring
      · exact absurd ⟨hliteral, hstring⟩ hclosed
  rcases hown with rfl | rfl <;> rcases hcls with rfl | rfl
  · rfl
  · cases hother
    cases hword with
    | literal hc => cases hc
  · cases hword
    cases hother with
    | literal hc => cases hc
  · rfl

/-- A parenthesis or a string is found whatever follows it. -/
theorem reader_closed {own : TokenClass} {word : List Char} (hword : IsWord own word)
    (hown : own = .literal ∨ own = .string) (rest : List Char) :
    reader own (word ++ rest) = some word := by
  rcases hown with rfl | rfl
  · cases hword with
    | literal hc => simp [reader, literal?, hc]
  · cases hword with
    | string hrest => simp [reader, string?, stringRest?_complete hrest]

/-- In the place of a parenthesis or a string no other word starts. -/
theorem IsWord.prefix_of_closed {own cls : TokenClass} {word other rest : List Char}
    (hword : IsWord own word) (hother : IsWord cls other) (hown : own = .literal ∨ own = .string)
    (hfront : other <+: word ++ rest) : other <+: word := by
  obtain ⟨after, hafter⟩ := hfront
  obtain ⟨c, tail, rfl⟩ := List.exists_cons_of_ne_nil hword.ne_nil
  obtain ⟨d, tail', rfl⟩ := List.exists_cons_of_ne_nil hother.ne_nil
  have hhead : d = c := (List.cons.inj hafter).1
  subst hhead
  have hcls := hword.class_eq_of_head hother hown
  subst hcls
  have hfound := reader_closed hother hown after
  rw [hafter, reader_closed hword hown rest] at hfound
  cases Option.some.inj hfound
  exact List.prefix_rfl

/-- No word leads from a text that starts with a word into what no identifier goes on into. -/
theorem IsWord.prefix_of_breaks {own cls : TokenClass} {word other text rest : List Char}
    (hword : IsWord own word) (hother : IsWord cls other) (hstarts : word <+: text)
    (hbreaks : Breaks rest) (hfront : other <+: text ++ rest) : other <+: text := by
  obtain ⟨back, rfl⟩ := hstarts
  by_cases hown : own = .literal ∨ own = .string
  · rw [List.append_assoc] at hfront
    exact (hword.prefix_of_closed hother hown hfront).trans (List.prefix_append word back)
  rcases List.prefix_or_prefix_of_prefix hfront (List.prefix_append (word ++ back) rest) with h | h
  · exact h
  obtain ⟨more, rfl⟩ := h
  have hmore : more <+: rest := (List.prefix_append_right_inj (word ++ back)).mp hfront
  cases more with
  | nil => simp
  | cons c more =>
      exfalso
      -- All characters are those of identifiers, also the one behind the shorter text.
      obtain ⟨first, tail, rfl⟩ := List.exists_cons_of_ne_nil hword.ne_nil
      have hfirst := hword.isIdChar_head_iff.mpr (not_or.mp hown)
      have hcls := (IsWord.isIdChar_head_iff hother).mp hfirst
      have hchars := hother.isIdChar_iff.mpr hcls
      have hc := hchars c (List.mem_append_right _ List.mem_cons_self)
      obtain ⟨after, rfl⟩ := hmore
      rw [hbreaks c rfl] at hc
      cases hc

/-- A word that starts in the place of another one ends no later, unless identifier characters
follow the other one. -/
theorem IsWord.prefix_of_append {own cls : TokenClass} {word other rest : List Char}
    (hword : IsWord own word) (hother : IsWord cls other)
    (hbound : own = .literal ∨ own = .string ∨ Breaks rest) (hfront : other <+: word ++ rest) :
    other <+: word := by
  rcases or_assoc.mpr hbound with hown | hbreaks
  · exact hword.prefix_of_closed hother hown hfront
  · exact hword.prefix_of_breaks hother List.prefix_rfl hbreaks hfront

/-- A lexeme stays one in front of what cannot make it longer. -/
theorem first?_append {cls : TokenClass} {word rest : List Char}
    (h : first? word = some ⟨cls, word⟩) (hbound : cls = .literal ∨ cls = .string ∨ Breaks rest) :
    first? (word ++ rest) = some ⟨cls, word⟩ :=
  first?_of_fronts h (List.prefix_append word rest) fun _ _ hother hfront =>
    (isWord_of_first? h).1.prefix_of_append hother hbound hfront

/-- The lexeme at the front of a text stays when something is put behind the text into which no
identifier goes on. -/
theorem first?_append_breaks {text word rest : List Char} {cls : TokenClass}
    (h : first? text = some ⟨cls, word⟩) (hbreaks : Breaks rest) :
    first? (text ++ rest) = some ⟨cls, word⟩ := by
  obtain ⟨hword, hstarts⟩ := isWord_of_first? h
  refine first?_of_fronts h (hstarts.trans (List.prefix_append text rest)) ?_
  intro _ other hother hfront
  exact hword.prefix_of_breaks hother hstarts hbreaks hfront

end Sexpr.Lexeme
