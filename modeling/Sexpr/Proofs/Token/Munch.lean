import Sexpr.Token.Lexeme

/-!
Longest words. Each class of tokens has a language, said here without a reader, and the reader of
the class takes the longest word of its language at the front of a text. All that tokens owe to
their surroundings follows from that: a word read once is read again wherever nothing behind it
makes it longer.
-/

namespace Sexpr.Lexeme

def IsSign (sign : List Char) : Prop :=
  sign = [] ∨ sign = ['+'] ∨ sign = ['-']

/-- The end of a string from behind its opening quote: plain characters and escaped ones, and the
closing quote. -/
inductive IsStringRest : List Char → Prop
  | close : IsStringRest ['"']
  | plain {c rest} (hquote : c ≠ '"') (hslash : c ≠ '\\') (hrest : IsStringRest rest) :
    IsStringRest (c :: rest)
  | escaped {c rest} (hline : c ≠ '\n') (hrest : IsStringRest rest) :
    IsStringRest ('\\' :: c :: rest)

inductive IsWord : TokenClass → List Char → Prop
  | literal {c} (hc : isParenthesis c = true) : IsWord .literal [c]
  | real {sign digits fraction} (hsign : IsSign sign) (hdigits : ∀ c ∈ digits, c.isDigit = true)
      (hfraction : ∀ c ∈ fraction, c.isDigit = true) (hne : fraction ≠ []) :
    IsWord .real (sign ++ (digits ++ '.' :: fraction))
  | int {sign digits} (hsign : IsSign sign) (hdigits : ∀ c ∈ digits, c.isDigit = true)
      (hne : digits ≠ []) :
    IsWord .int (sign ++ digits)
  | string {rest} (hrest : IsStringRest rest) : IsWord .string ('"' :: rest)
  | id {word} (hword : ∀ c ∈ word, isIdChar c = true) (hne : word ≠ []) : IsWord .id word

def reader : TokenClass → List Char → Option (List Char)
  | .literal => literal?
  | .real => real?
  | .int => int?
  | .string => string?
  | .id => id?
  | .invalid => fun _ => none

theorem splitSign_append (text : List Char) : (splitSign text).1 ++ (splitSign text).2 = text := by
  unfold splitSign
  split <;> rfl

theorem isSign_splitSign (text : List Char) : IsSign (splitSign text).1 := by
  unfold splitSign
  split
  · exact .inr (.inl rfl)
  · exact .inr (.inr rfl)
  · exact .inl rfl

/-- A sign is split off what does not start with one itself. -/
theorem splitSign_of_isSign {sign unsigned : List Char} (hsign : IsSign sign)
    (hhead : ∀ c ∈ unsigned.head?, c ≠ '+' ∧ c ≠ '-') :
    splitSign (sign ++ unsigned) = (sign, unsigned) := by
  rcases hsign with rfl | rfl | rfl
  · cases unsigned with
    | nil => rfl
    | cons c rest =>
        obtain ⟨hplus, hminus⟩ := hhead c rfl
        rw [List.nil_append]
        unfold splitSign
        split
        · rename_i heq
          cases heq
          exact absurd rfl hplus
        · rename_i heq
          cases heq
          exact absurd rfl hminus
        · rfl
  · rfl
  · rfl

theorem digit_ne_sign {c : Char} (h : c.isDigit = true) : c ≠ '+' ∧ c ≠ '-' := by
  constructor <;> rintro rfl <;> exact absurd h (by decide)

theorem real?_eq (text : List Char) :
    real? text = match (splitSign text).2.dropWhile Char.isDigit with
      | '.' :: rest => match rest.takeWhile Char.isDigit with
        | [] => none
        | fraction => some ((splitSign text).1 ++ (splitSign text).2.takeWhile Char.isDigit ++
            '.' :: fraction)
      | _ => none := rfl

theorem int?_eq (text : List Char) :
    int? text = match (splitSign text).2.takeWhile Char.isDigit with
      | [] => none
      | digits => some ((splitSign text).1 ++ digits) := rfl

private theorem mem_takeWhile {p : Char → Bool} {text : List Char} :
    ∀ c ∈ text.takeWhile p, p c = true :=
  List.all_eq_true.mp List.all_takeWhile

theorem real?_sound {text word : List Char} (h : real? text = some word) :
    IsWord .real word ∧ word <+: text := by
  rw [real?_eq] at h
  split at h
  case h_1 rest hpoint =>
    split at h
    case h_1 => cases h
    case h_2 hne =>
      cases h
      have hunsigned : (splitSign text).2 = (splitSign text).2.takeWhile Char.isDigit ++
          '.' :: rest := by
        rw [← hpoint, List.takeWhile_append_dropWhile]
      rw [List.append_assoc]
      refine ⟨.real (isSign_splitSign text) mem_takeWhile mem_takeWhile hne, ?_⟩
      refine ⟨rest.dropWhile Char.isDigit, ?_⟩
      calc
        (splitSign text).1 ++ ((splitSign text).2.takeWhile Char.isDigit ++
              '.' :: rest.takeWhile Char.isDigit) ++ rest.dropWhile Char.isDigit
          = (splitSign text).1 ++ ((splitSign text).2.takeWhile Char.isDigit ++ '.' :: rest) := by
            simp [List.takeWhile_append_dropWhile]
        _ = text := by rw [← hunsigned, splitSign_append]
  case h_2 => cases h

theorem int?_sound {text word : List Char} (h : int? text = some word) :
    IsWord .int word ∧ word <+: text := by
  rw [int?_eq] at h
  split at h
  case h_1 => cases h
  case h_2 hne =>
    cases h
    refine ⟨.int (isSign_splitSign text) mem_takeWhile hne, ?_⟩
    refine ⟨(splitSign text).2.dropWhile Char.isDigit, ?_⟩
    rw [List.append_assoc, List.takeWhile_append_dropWhile, splitSign_append]

theorem stringRest?_sound {text word : List Char} (h : stringRest? text = some word) :
    IsStringRest word ∧ word <+: text := by
  fun_induction stringRest? text generalizing word with
  | case1 => cases h
  | case2 rest =>
      cases h
      exact ⟨.close, rest, rfl⟩
  | case3 => cases h
  | case4 c rest hline ih =>
      obtain ⟨inner, hinner, rfl⟩ := Option.map_eq_some_iff.mp h
      obtain ⟨hrest, after, rfl⟩ := ih hinner
      exact ⟨.escaped hline hrest, after, rfl⟩
  | case5 => cases h
  | case6 c rest hquote _ hslash ih =>
      obtain ⟨inner, hinner, rfl⟩ := Option.map_eq_some_iff.mp h
      obtain ⟨hrest, after, rfl⟩ := ih hinner
      exact ⟨.plain hquote hslash hrest, after, rfl⟩

/-- A reader gives a word of its class, from the front of the text. -/
theorem reader_sound {cls : TokenClass} {text word : List Char} (h : reader cls text = some word) :
    IsWord cls word ∧ word <+: text := by
  cases cls with
  | literal =>
      cases text with
      | nil => cases h
      | cons c rest =>
          obtain ⟨hc, hword⟩ := Option.ite_none_right_eq_some.mp h
          cases hword
          exact ⟨.literal hc, rest, rfl⟩
  | real => exact real?_sound h
  | int => exact int?_sound h
  | string =>
      rw [reader] at h
      unfold string? at h
      split at h
      case h_1 rest =>
        obtain ⟨inner, hinner, rfl⟩ := Option.map_eq_some_iff.mp h
        obtain ⟨hrest, after, rfl⟩ := stringRest?_sound hinner
        exact ⟨.string hrest, after, rfl⟩
      case h_2 => cases h
  | id =>
      rw [reader] at h
      unfold id? at h
      split at h
      case h_1 => cases h
      case h_2 hne =>
        cases h
        exact ⟨.id mem_takeWhile hne, List.takeWhile_prefix isIdChar⟩
  | invalid => cases h

theorem stringRest?_complete {word : List Char} (h : IsStringRest word) (rest : List Char) :
    stringRest? (word ++ rest) = some word := by
  induction h with
  | close => rfl
  | @plain c inner hquote hslash hinner ih =>
      have hpair : ∀ d tail, c = '\\' → inner ++ rest = d :: tail → False :=
        fun _ _ hc => absurd hc hslash
      rw [List.cons_append, stringRest?.eq_4 c _ hquote hpair, if_neg hslash, ih]
      rfl
  | @escaped c inner hline hinner ih =>
      rw [List.cons_append, List.cons_append, stringRest?, if_neg hline, ih]
      rfl

theorem real?_extends {sign digits fraction : List Char} (hsign : IsSign sign)
    (hdigits : ∀ c ∈ digits, c.isDigit = true) (hfraction : ∀ c ∈ fraction, c.isDigit = true)
    (hne : fraction ≠ []) (rest : List Char) :
    real? (sign ++ (digits ++ '.' :: fraction) ++ rest) =
      some (sign ++ (digits ++ '.' :: fraction) ++ rest.takeWhile Char.isDigit) := by
  have hhead : ∀ c ∈ (digits ++ '.' :: (fraction ++ rest)).head?, c ≠ '+' ∧ c ≠ '-' := by
    cases digits with
    | nil =>
        rintro c hc
        cases hc
        decide
    | cons d digits =>
        rintro c hc
        cases hc
        exact digit_ne_sign (hdigits d List.mem_cons_self)
  have hsplit := splitSign_of_isSign hsign hhead
  have hpoint : ('.' : Char).isDigit = false := by decide
  have hmore : fraction ++ rest.takeWhile Char.isDigit ≠ [] := by simp [hne]
  rw [List.append_assoc, List.append_assoc, List.cons_append, real?_eq, hsplit]
  simp only [List.dropWhile_append_of_pos hdigits, List.takeWhile_append_of_pos hdigits,
    List.takeWhile_append_of_pos hfraction, List.dropWhile_cons, List.takeWhile_cons, hpoint,
    Bool.false_eq_true, if_false, List.append_nil]
  simp

theorem int?_extends {sign digits : List Char} (hsign : IsSign sign)
    (hdigits : ∀ c ∈ digits, c.isDigit = true) (hne : digits ≠ []) (rest : List Char) :
    int? (sign ++ digits ++ rest) = some (sign ++ digits ++ rest.takeWhile Char.isDigit) := by
  have hhead : ∀ c ∈ (digits ++ rest).head?, c ≠ '+' ∧ c ≠ '-' := by
    cases digits with
    | nil => exact absurd rfl hne
    | cons d digits =>
        rintro c hc
        cases hc
        exact digit_ne_sign (hdigits d List.mem_cons_self)
  have hmore : digits ++ rest.takeWhile Char.isDigit ≠ [] := by simp [hne]
  rw [List.append_assoc, int?_eq, splitSign_of_isSign hsign hhead]
  simp only [List.takeWhile_append_of_pos hdigits]
  rw [List.append_assoc]

/-- In front of a text that starts with a word of its class, a reader takes this word or a longer
one that starts with it. -/
theorem reader_extends {cls : TokenClass} {word : List Char} (h : IsWord cls word)
    (rest : List Char) : ∃ more, reader cls (word ++ rest) = some (word ++ more) := by
  cases h with
  | literal hc => exact ⟨[], by simp [reader, literal?, hc]⟩
  | real hsign hdigits hfraction hne =>
      exact ⟨_, real?_extends hsign hdigits hfraction hne rest⟩
  | int hsign hdigits hne => exact ⟨_, int?_extends hsign hdigits hne rest⟩
  | string hrest => exact ⟨[], by simp [reader, string?, stringRest?_complete hrest]⟩
  | id hword hne =>
      refine ⟨rest.takeWhile isIdChar, ?_⟩
      have hmore : word ++ rest.takeWhile isIdChar ≠ [] := by simp [hne]
      simp only [reader, id?, List.takeWhile_append_of_pos hword]

/-- A reader takes the longest word of its class. -/
theorem reader_eq_some_iff {cls : TokenClass} {text word : List Char} :
    reader cls text = some word ↔ IsWord cls word ∧ word <+: text ∧
      ∀ other, IsWord cls other → other <+: text → other.length ≤ word.length := by
  constructor
  · intro h
    obtain ⟨hword, hfront⟩ := reader_sound h
    refine ⟨hword, hfront, ?_⟩
    rintro other hother ⟨rest, rfl⟩
    obtain ⟨more, hmore⟩ := reader_extends hother rest
    rw [h] at hmore
    cases hmore
    rw [List.length_append]
    omega
  · rintro ⟨hword, ⟨rest, rfl⟩, hlongest⟩
    obtain ⟨more, hmore⟩ := reader_extends hword rest
    obtain ⟨hfound, hfront⟩ := reader_sound hmore
    have hlength := hlongest _ hfound hfront
    rw [List.length_append] at hlength
    have hnil : more = [] := List.eq_nil_of_length_eq_zero (by omega)
    rw [hmore, hnil, List.append_nil]

/-- A reader finds nothing only where no word of its class starts. -/
theorem reader_eq_none_iff {cls : TokenClass} {text : List Char} :
    reader cls text = none ↔ ∀ word, word <+: text → ¬IsWord cls word := by
  constructor
  · rintro h word ⟨rest, rfl⟩ hword
    obtain ⟨more, hmore⟩ := reader_extends hword rest
    rw [h] at hmore
    cases hmore
  · intro h
    cases hfound : reader cls text with
    | none => rfl
    | some word =>
        obtain ⟨hword, hfront⟩ := reader_sound hfound
        exact absurd hword (h word hfront)

end Sexpr.Lexeme
