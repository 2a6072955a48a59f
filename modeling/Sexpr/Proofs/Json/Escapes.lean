import Sexpr.Json

/-!
Reading JSON strings. A string stands for a run of 16-bit units: an escape with four hexadecimal
digits is one unit, and a character beyond 16 bits is two, high half first. Reading undoes writing
for every text, since the units of the characters can be told apart.
-/

namespace Sexpr

namespace Text

theorem hexValue?_digitChar {digit : Nat} (h : digit < 16) :
    hexValue? (Nat.digitChar digit) = some digit := by
  have hall : ∀ digit < 16, hexValue? (Nat.digitChar digit) = some digit := by decide
  exact hall digit h

def hexUnit? (first second third fourth : Char) : Option Nat := do
  return 0x1000 * (← hexValue? first) + 0x100 * (← hexValue? second) + 0x10 * (← hexValue? third) +
    (← hexValue? fourth)

/-- The digits of a unit, and the unit that they stand for. -/
theorem exists_hexDigits {unit : Nat} (h : unit < 0x10000) :
    ∃ first second third fourth, hexDigits 4 unit = [first, second, third, fourth] ∧
      hexUnit? first second third fourth = some unit := by
  refine ⟨_, _, _, _, rfl, ?_⟩
  simp only [hexUnit?, hexValue?_digitChar (Nat.mod_lt _ (by decide : 0 < 16)), Option.pure_def,
    Option.bind_eq_bind, Option.bind_some, Option.some.injEq]
  omega

def units (c : Char) : List Nat :=
  if c.toNat < 0x10000 then [c.toNat]
  else [0xd800 + (c.toNat - 0x10000) / 0x400, 0xdc00 + (c.toNat - 0x10000) % 0x400]

/-- The characters of some units. Half a character is none. -/
def ofUnits? : List Nat → Option (List Char)
  | [] => some []
  | unit :: rest =>
    if unit < 0xd800 ∨ 0xe000 ≤ unit then (ofUnits? rest).map (Char.ofNat unit :: ·)
    else match rest with
      | [] => none
      | low :: rest =>
        if unit < 0xdc00 ∧ 0xdc00 ≤ low ∧ low < 0xe000 then
          (ofUnits? rest).map
            (Char.ofNat (0x10000 + 0x400 * (unit - 0xd800) + (low - 0xdc00)) :: ·)
        else none

theorem toNat_ranges (c : Char) : c.toNat < 0xd800 ∨ 0xe000 ≤ c.toNat ∧ c.toNat < 0x110000 := by
  rcases c.valid with h | h
  · exact .inl h
  · exact .inr ⟨h.1, h.2⟩

theorem ofUnits?_units (c : Char) (rest : List Nat) :
    ofUnits? (units c ++ rest) = (ofUnits? rest).map (c :: ·) := by
  have hranges := toNat_ranges c
  by_cases hsmall : c.toNat < 0x10000
  · rw [units, if_pos hsmall, List.singleton_append, ofUnits?.eq_def]
    simp only
    rw [if_pos (by omega), Char.ofNat_toNat]
  · have hvalue : 0x10000 + 0x400 * (0xd800 + (c.toNat - 0x10000) / 0x400 - 0xd800) +
        (0xdc00 + (c.toNat - 0x10000) % 0x400 - 0xdc00) = c.toNat := by omega
    rw [units, if_neg hsmall, List.cons_append, List.singleton_append, ofUnits?.eq_def]
    simp only
    rw [if_neg (by omega), if_pos (by omega), hvalue, Char.ofNat_toNat]

theorem ofUnits?_flatMap (text : List Char) : ofUnits? (text.flatMap units) = some text := by
  induction text with
  | nil => rfl
  | cons c text ih =>
      rw [List.flatMap_cons, ofUnits?_units, ih]
      rfl

end Text

namespace Json

open Text (units)

def shortEscape? : Char → Option Char
  | '"' => some '"'
  | '\\' => some '\\'
  | '/' => some '/'
  | 'n' => some '\n'
  | 'r' => some '\r'
  | 't' => some '\t'
  | 'b' => some '\x08'
  | 'f' => some '\x0c'
  | _ => none

/-- The units of a string behind its opening quote, and what follows the closing one. -/
def readUnits? : List Char → Option (List Nat × List Char)
  | [] => none
  | '"' :: rest => some ([], rest)
  | '\\' :: 'u' :: first :: second :: third :: fourth :: rest =>
    (Text.hexUnit? first second third fourth).bind fun unit =>
      (readUnits? rest).map (Prod.map ([unit] ++ ·) id)
  | '\\' :: letter :: rest =>
    (shortEscape? letter).bind fun c => (readUnits? rest).map (Prod.map (units c ++ ·) id)
  | c :: rest =>
    if c = '\\' then none else (readUnits? rest).map (Prod.map (units c ++ ·) id)

theorem readUnits?_plain {c : Char} (hquote : c ≠ '"') (hbackslash : c ≠ '\\') (rest : List Char) :
    readUnits? (c :: rest) = (readUnits? rest).map (Prod.map (units c ++ ·) id) := by
  simp [readUnits?, hbackslash]

theorem readUnits?_unitEscape {unit : Nat} (h : unit < 0x10000) (rest : List Char) :
    readUnits? (unitEscape unit ++ rest) =
      (readUnits? rest).map (Prod.map ([unit] ++ ·) id) := by
  obtain ⟨first, second, third, fourth, hdigits, hunit⟩ := Text.exists_hexDigits h
  have hread : readUnits? ('\\' :: 'u' :: first :: second :: third :: fourth :: rest) =
      (Text.hexUnit? first second third fourth).bind fun unit =>
        (readUnits? rest).map (Prod.map ([unit] ++ ·) id) := by
    simp [readUnits?]
  rw [unitEscape, hdigits]
  rw [hunit] at hread
  exact hread

/-- Each character is read back from its escape as its units. -/
theorem readUnits?_escapeChar (c : Char) (rest : List Char) :
    readUnits? (escapeChar c ++ rest) = (readUnits? rest).map (Prod.map (units c ++ ·) id) := by
  unfold escapeChar
  split
  · rename_i h
    rcases h with rfl | rfl <;> rfl
  rename_i hspecial
  split
  · subst_vars; rfl
  split
  · subst_vars; rfl
  split
  · subst_vars; rfl
  split
  · subst_vars; rfl
  split
  · subst_vars; rfl
  rw [not_or] at hspecial
  have hranges := Text.toNat_ranges c
  split
  · exact readUnits?_plain hspecial.1 hspecial.2 rest
  split
  · rename_i hsmall
    rw [readUnits?_unitEscape hsmall, units, if_pos hsmall]
  · rename_i hsmall
    rw [List.append_assoc, readUnits?_unitEscape (by omega), readUnits?_unitEscape (by omega),
      Option.map_map, units, if_neg hsmall]
    rfl

theorem readUnits?_flatMap (text rest : List Char) :
    readUnits? (text.flatMap escapeChar ++ '"' :: rest) = some (text.flatMap units, rest) := by
  induction text with
  | nil => simp [readUnits?]
  | cons c text ih =>
      rw [List.flatMap_cons, List.append_assoc, readUnits?_escapeChar, ih]
      rfl

theorem readUnits?_shortens {text : List Char} {found : List Nat} {rest : List Char}
    (h : readUnits? text = some (found, rest)) : rest.length < text.length := by
  fun_induction readUnits? text generalizing found with
  | case1 => cases h
  | case2 tail =>
      cases h
      exact Nat.lt_succ_self _
  | case3 first second third fourth tail ih =>
      obtain ⟨unit, -, h⟩ := Option.bind_eq_some_iff.mp h
      obtain ⟨⟨back, left⟩, hback, heq⟩ := Option.map_eq_some_iff.mp h
      cases heq
      exact Nat.lt_add_right 6 (ih hback)
  | case4 letter tail _ ih =>
      obtain ⟨c, -, h⟩ := Option.bind_eq_some_iff.mp h
      obtain ⟨⟨back, left⟩, hback, heq⟩ := Option.map_eq_some_iff.mp h
      cases heq
      exact Nat.lt_add_right 2 (ih hback)
  | case5 => cases h
  | case6 c tail _ _ _ _ ih =>
      obtain ⟨⟨back, left⟩, hback, heq⟩ := Option.map_eq_some_iff.mp h
      cases heq
      exact Nat.lt_add_right 1 (ih hback)

def readText? (text : List Char) : Option (String × List Char) :=
  (readUnits? text).bind fun (units, rest) =>
    (Text.ofUnits? units).map fun chars => (String.ofList chars, rest)

theorem readText?_shortens {text rest : List Char} {found : String}
    (h : readText? text = some (found, rest)) : rest.length < text.length := by
  obtain ⟨⟨units, left⟩, hunits, h⟩ := Option.bind_eq_some_iff.mp h
  obtain ⟨chars, -, heq⟩ := Option.map_eq_some_iff.mp h
  cases heq
  exact readUnits?_shortens hunits

/-- A string is read back from its quoted form. -/
theorem readText?_quote (text : String) (rest : List Char) :
    ∃ body, (quote text).toList = '"' :: body ∧ readText? (body ++ rest) = some (text, rest) := by
  refine ⟨text.toList.flatMap escapeChar ++ ['"'], by simp [quote], ?_⟩
  rw [readText?, List.append_assoc, List.singleton_append, readUnits?_flatMap, Option.bind_some]
  simp only [Text.ofUnits?_flatMap, Option.map_some, String.ofList_toList]

end Json

end Sexpr
