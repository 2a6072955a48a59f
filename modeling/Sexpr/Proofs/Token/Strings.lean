import Sexpr.Proofs.Token.Readers

/-!
Strings as a walk along the text. Whether a text can be scanned is told by its quotes and
backslashes alone: how the rest is cut into lexemes never moves the end of a string, and nothing but
a string that has no end stops a scan.
-/

namespace Sexpr

open Text (isBlank)

/-- Where a walk stands: outside of strings, in a string that opened at an offset, or behind a
backslash in one. -/
inductive Quoting where
  | outside
  | inside (opening : Nat)
  | escaped (opening : Nat)
  deriving DecidableEq

namespace Quoting

/-- One character on. A line feed behind a backslash is bad, and the string that it stands in. -/
def step (offset : Nat) (c : Char) : Quoting → Except Nat Quoting
  | .outside => .ok (if c = '"' then .inside offset else .outside)
  | .inside opening =>
      .ok (if c = '"' then .outside else if c = '\\' then .escaped opening else .inside opening)
  | .escaped opening => if c = '\n' then .error opening else .ok (.inside opening)

def walk (offset : Nat) (quoting : Quoting) : List Char → Except Nat Quoting
  | [] => .ok quoting
  | c :: text =>
      match quoting.step offset c with
      | .ok next => next.walk (offset + 1) text
      | .error opening => .error opening

/-- The opening quote of the string that a walk did not come out of. -/
def unended : Except Nat Quoting → Option Nat
  | .ok .outside => none
  | .ok (.inside opening) | .ok (.escaped opening) | .error opening => some opening

theorem unended_eq_none_iff {last : Except Nat Quoting} :
    unended last = none ↔ last = .ok .outside := by
  cases last with
  | error opening => simp [unended]
  | ok quoting => cases quoting <;> simp [unended]

theorem walk_outside {c : Char} (h : c ≠ '"') (offset : Nat) (text : List Char) :
    outside.walk offset (c :: text) = outside.walk (offset + 1) text := by
  rw [walk, step, if_neg h]

theorem walk_plain {word : List Char} (h : ∀ c ∈ word, c ≠ '"') (offset : Nat)
    (text : List Char) :
    outside.walk offset (word ++ text) = outside.walk (offset + word.length) text := by
  induction word generalizing offset with
  | nil => rfl
  | cons c word ih =>
      rw [List.forall_mem_cons] at h
      rw [List.cons_append, walk_outside h.1, ih h.2, List.length_cons, Nat.add_assoc,
        Nat.add_comm 1]

/-- The walk comes out of a string right behind its closing quote. -/
theorem walk_string {rest : List Char} (h : Lexeme.IsStringRest rest) (opening offset : Nat)
    (text : List Char) :
    (inside opening).walk offset (rest ++ text) = outside.walk (offset + rest.length) text := by
  induction h generalizing offset with
  | close => rfl
  | @plain c rest hquote hslash hrest ih =>
      have hnext : (inside opening).walk offset (c :: (rest ++ text)) =
          (inside opening).walk (offset + 1) (rest ++ text) := by
        simp [walk, step, hquote, hslash]
      rw [List.cons_append, hnext, ih, List.length_cons, Nat.add_assoc, Nat.add_comm 1]
  | @escaped c rest hline hrest ih =>
      have hshift : offset + 1 + 1 + rest.length = offset + (rest.length + 1 + 1) := by omega
      have hback : (inside opening).walk offset ('\\' :: c :: (rest ++ text)) =
          (inside opening).walk (offset + 1 + 1) (rest ++ text) := by
        simp [walk, step, hline]
      rw [List.cons_append, List.cons_append, hback, ih, hshift]
      rfl

/-- A lexeme starts and ends outside of strings. -/
theorem walk_word {cls : TokenClass} {word : List Char} (h : Lexeme.IsWord cls word)
    (offset : Nat) (text : List Char) :
    outside.walk offset (word ++ text) = outside.walk (offset + word.length) text := by
  by_cases hstring : cls = .string
  · subst hstring
    cases h with
    | @string rest hrest =>
        have hopen : outside.walk offset ('"' :: (rest ++ text)) =
            (inside offset).walk (offset + 1) (rest ++ text) := rfl
        rw [List.cons_append, hopen, walk_string hrest, List.length_cons, Nat.add_assoc,
          Nat.add_comm 1]
  · exact walk_plain (fun c hc => (h.plain hstring c hc).2.1) offset text

/-- Where no end of a string is found, the walk does not come out of it. -/
theorem unended_walk {text : List Char} (h : Lexeme.stringRest? text = none)
    (opening offset : Nat) : unended ((inside opening).walk offset text) = some opening := by
  fun_induction Lexeme.stringRest? text generalizing offset with
  | case1 => rfl
  | case2 => cases h
  | case3 rest => rfl
  | case4 c rest hline ih =>
      rw [Option.map_eq_none_iff] at h
      have hback : (inside opening).walk offset ('\\' :: c :: rest) =
          (inside opening).walk (offset + 1 + 1) rest := by
        simp [walk, step, hline]
      rw [hback, ih h]
  | case5 rest hquote hpair =>
      -- The backslash is the last character: it would escape any character behind it.
      cases rest with
      | nil => rfl
      | cons c rest => exact absurd rfl (hpair c rest rfl)
  | case6 c rest hquote hpair hslash ih =>
      rw [Option.map_eq_none_iff] at h
      have hnext : (inside opening).walk offset (c :: rest) =
          (inside opening).walk (offset + 1) rest := by
        simp [walk, step, hslash, show c ≠ '"' from hquote]
      rw [hnext, ih h]

end Quoting

/-- Where no lexeme starts, a string starts that has no end. -/
theorem Lexeme.eq_quote_of_first? {c : Char} {text : List Char} (hblank : isBlank c = false)
    (h : first? (c :: text) = none) : c = '"' ∧ stringRest? text = none := by
  simp only [first?, Option.orElse_eq_orElse, Option.orElse_eq_or, Option.or_eq_none_iff,
    Option.map_eq_none_iff] at h
  obtain ⟨hliteral, -, -, hstring, hid⟩ := h
  have hparenthesis : isParenthesis c = false := by
    cases hc : isParenthesis c with
    | false => rfl
    | true => simp [literal?, hc] at hliteral
  by_cases hquote : c = '"'
  · subst hquote
    exact ⟨rfl, by simpa [string?] using hstring⟩
  · have hchar : isIdChar c = true := by simp [isIdChar, hblank, hquote, hparenthesis]
    simp [id?, hchar] at hid

namespace Lexing

/-- A scan stops at the string that a walk does not come out of. -/
theorem unended_walk {offset : Nat} {text : List Char} {tokens : List Token} {fault : Option Nat}
    (lexing : Lexing offset text tokens fault) :
    Quoting.unended (Quoting.outside.walk offset text) = fault := by
  induction lexing with
  | finished => rfl
  | @blank offset c text tokens fault hblank hrest ih =>
      have hquote : c ≠ '"' := by
        rintro rfl
        exact absurd hblank (by decide)
      rw [Quoting.walk_outside hquote, ih]
  | @token offset cls word text tokens fault hlexeme hrest ih =>
      rw [Quoting.walk_word (Lexeme.isWord_of_first? hlexeme).1, ih]
  | @stuck offset c text hblank hlexeme =>
      obtain ⟨rfl, hstring⟩ := Lexeme.eq_quote_of_first? hblank hlexeme
      exact Quoting.unended_walk hstring offset (offset + 1)

/-- What precedes a fault is a text without one, and has the tokens that were found. -/
theorem before_fault {offset : Nat} {text : List Char} {tokens : List Token} {fault : Option Nat}
    (lexing : Lexing offset text tokens fault) {stop : Nat} (hfault : fault = some stop) :
    ∃ front rest, text = front ++ '"' :: rest ∧ stop = offset + front.length ∧
      Lexing offset front tokens none := by
  induction lexing with
  | finished => cases hfault
  | @blank offset c text tokens fault hblank hrest ih =>
      obtain ⟨front, rest, rfl, hstop, hfront⟩ := ih hfault
      refine ⟨c :: front, rest, rfl, ?_, .blank hblank hfront⟩
      rw [hstop, List.length_cons]
      omega
  | @token offset cls word text tokens fault hlexeme hrest ih =>
      obtain ⟨front, rest, rfl, hstop, hfront⟩ := ih hfault
      have hshort : Lexeme.first? (word ++ front) = some ⟨cls, word⟩ :=
        Lexeme.first?_shortened hlexeme (List.prefix_append word front)
          ((List.prefix_append_right_inj word).mpr (List.prefix_append front _))
      refine ⟨word ++ front, rest, by rw [List.append_assoc], ?_, .token hshort hfront⟩
      rw [hstop, List.length_append]
      omega
  | @stuck offset c text hblank hlexeme =>
      cases hfault
      obtain ⟨rfl, -⟩ := Lexeme.eq_quote_of_first? hblank hlexeme
      exact ⟨[], text, rfl, rfl, .finished⟩

end Lexing

/-- Where a scan stops is where a reader stops, with the same tokens behind it. -/
theorem tokenize_eq_error {text : String} {tokens : List Token} {stop : Nat}
    (lexing : Lexing 0 text.toList tokens (some stop)) (reader : Int) :
    tokenize text = .error (.ofOffset text.toList stop) ∧
      (Scanner.ofText text).pulls reader (tokens.length + 1) =
        tokens.map .token ++ [.fault ((Scanner.ofText text).faultAt stop)] := by
  have hscan := lexing.scan_eq
  have hpulls := @Scanner.pulls_scan (.ofText text) reader 0 rfl rfl
  have hunread : (Scanner.ofText text).unread = text.toList := List.drop_zero
  rw [hunread, hscan] at hpulls
  refine ⟨?_, hpulls⟩
  rw [tokenize, hscan]

/-- A text has tokens just where a walk along it meets no bad line feed and ends outside of strings.
Otherwise the fault is at the opening quote of the string that the walk did not come out of, and all
before it is a text of its own, with the tokens that a reader gets before the fault. -/
theorem tokenize_strings (text : String) (reader : Int) :
    ((∃ tokens, tokenize text = .ok tokens) ↔
      Quoting.outside.walk 0 text.toList = .ok .outside) ∧
    match Quoting.unended (Quoting.outside.walk 0 text.toList) with
    | none => ∃ tokens, tokenize text = .ok tokens
    | some opening => ∃ fault tokens, tokenize text = .error fault ∧ fault.offset = opening ∧
        text.toList[opening]? = some '"' ∧
        fault.remaining = String.ofList (text.toList.drop opening) ∧
        fault.suggestions = ["Check for an unterminated string literal"] ∧
        tokenize (String.ofList (text.toList.take opening)) = .ok tokens ∧
        (Scanner.ofText text).pulls reader (tokens.length + 1) =
          tokens.map .token ++ [.fault ((Scanner.ofText text).faultAt opening)] := by
  obtain ⟨tokens, fault, lexing⟩ := exists_lexing 0 text.toList
  have hwalk := lexing.unended_walk
  cases fault with
  | none =>
      have htokens : tokenize text = .ok tokens := tokenize_eq_ok_iff.mpr lexing
      rw [hwalk]
      exact ⟨iff_of_true ⟨tokens, htokens⟩ (Quoting.unended_eq_none_iff.mp hwalk), tokens, htokens⟩
  | some opening =>
      obtain ⟨hfault, hpulls⟩ := tokenize_eq_error lexing reader
      obtain ⟨front, rest, htext, hopening, hfront⟩ := lexing.before_fault rfl
      rw [Nat.zero_add] at hopening
      have hbefore : text.toList.take opening = front := by
        rw [htext, hopening, List.take_left]
      have hbehind : text.toList.drop opening = '"' :: rest := by
        rw [htext, hopening, List.drop_left]
      have hquote : text.toList[opening]? = some '"' := by
        rw [← List.head?_drop, hbehind]
        rfl
      rw [hwalk]
      refine ⟨iff_of_false (by simp [hfault]) ?_, _, tokens, hfault, rfl, hquote, rfl, ?_, ?_,
        hpulls⟩
      · intro houtside
        rw [houtside] at hwalk
        cases hwalk
      · simp [LexFault.suggestions, LexFault.ofOffset, hbehind]
      · rw [hbefore, tokenize_eq_ok_iff, String.toList_ofList]
        exact hfront

end Sexpr
