import Sexpr.Proofs.Json.Escapes

/-!
Reading JSON documents. A text is cut into marks, which are its strings, its numbers and its
punctuation; blanks between them mean nothing. A document is built from the marks with a stack of
the arrays and objects that are open. The main statement is that the indented text of a document is
read back, whatever the indentation.
-/

namespace Sexpr.Json

/-- What a text consists of, apart from blanks. -/
inductive Mark where
  | text (value : String)
  | number (value : Int)
  | openArray | closeArray | openObject | closeObject | colon | comma

def mark? : Char → Option Mark
  | '[' => some .openArray
  | ']' => some .closeArray
  | '\x7b' => some .openObject
  | '\x7d' => some .closeObject
  | ':' => some .colon
  | ',' => some .comma
  | _ => none

def isSpace (c : Char) : Bool :=
  c == ' ' || c == '\n' || c == '\r' || c == '\t'

def isNumeral (c : Char) : Bool :=
  c.isDigit || c == '-'

/-- The number that some digits stand for, of which there has to be one. -/
def natural? (digits : List Char) : Option Nat :=
  if digits.isEmpty || !digits.all Char.isDigit then none else some (Nat.ofDigitChars 10 digits 0)

def integer? : List Char → Option Int
  | '-' :: digits => (natural? digits).map fun value => -(value : Int)
  | digits => (natural? digits).map fun value => (value : Int)

def marks? : List Char → Option (List Mark)
  | [] => some []
  | c :: rest =>
    if isSpace c then marks? rest
    else match mark? c with
      | some mark => (marks? rest).map (mark :: ·)
      | none =>
        if c = '"' then match h : readText? rest with
          | none => none
          | some (found, after) =>
            have := readText?_shortens h
            (marks? after).map (.text found :: ·)
        else match integer? (c :: rest.takeWhile isNumeral) with
          | none => none
          | some value =>
            have : (rest.dropWhile isNumeral).length ≤ rest.length :=
              (List.dropWhile_suffix _).length_le
            (marks? (rest.dropWhile isNumeral)).map (.number value :: ·)
termination_by source => source.length

/-- An array or an object that is open: what it holds so far, last first, and of an object the key
whose value comes next. -/
inductive Frame where
  | array (items : List Json)
  | object (members : List (String × Json)) (key : String)

mutual
/-- Builds the document of some marks, of which the next ones are those of a value. -/
def build? (frames : List Frame) : List Mark → Option Json
  | .text value :: marks => finish? (.text value) frames marks
  | .number value :: marks => finish? (.number value) frames marks
  | .openArray :: .closeArray :: marks => finish? (.array []) frames marks
  | .openArray :: marks => build? (.array [] :: frames) marks
  | .openObject :: .closeObject :: marks => finish? (.object []) frames marks
  | .openObject :: .text key :: .colon :: marks => build? (.object [] key :: frames) marks
  | _ => none

def finish? (value : Json) : List Frame → List Mark → Option Json
  | [], [] => some value
  | .array items :: frames, .comma :: marks => build? (.array (value :: items) :: frames) marks
  | .array items :: frames, .closeArray :: marks =>
    finish? (.array (value :: items).reverse) frames marks
  | .object members key :: frames, .comma :: .text next :: .colon :: marks =>
    build? (.object ((key, value) :: members) next :: frames) marks
  | .object members key :: frames, .closeObject :: marks =>
    finish? (.object ((key, value) :: members).reverse) frames marks
  | _, _ => none
end

def ofText? (source : String) : Option Json :=
  (marks? source.toList).bind (build? [])

section Marks

variable {rest : List Char} {tail : List Mark}

theorem marks?_space {c : Char} (hspace : isSpace c = true) (h : marks? rest = some tail) :
    marks? (c :: rest) = some tail := by
  rw [marks?, if_pos hspace, h]

theorem marks?_mark {c : Char} {mark : Mark} (hspace : isSpace c = false)
    (hmark : mark? c = some mark) (h : marks? rest = some tail) :
    marks? (c :: rest) = some (mark :: tail) := by
  rw [marks?, if_neg (by simp [hspace])]
  simp only [hmark, h, Option.map_some]

theorem marks?_text {c : Char} {found : String} {after : List Char} (hspace : isSpace c = false)
    (hmark : mark? c = none) (hquote : c = '"') (hread : readText? rest = some (found, after))
    (h : marks? after = some tail) : marks? (c :: rest) = some (.text found :: tail) := by
  rw [marks?, if_neg (by simp [hspace])]
  simp only [hmark, if_pos hquote]
  split
  · rename_i hnone
    rw [hread] at hnone
    cases hnone
  · rename_i hsome
    rw [hread] at hsome
    cases hsome
    rw [h, Option.map_some]

theorem marks?_quote (value : String) (h : marks? rest = some tail) :
    marks? ((quote value).toList ++ rest) = some (.text value :: tail) := by
  obtain ⟨body, hbody, hread⟩ := readText?_quote value rest
  rw [hbody, List.cons_append]
  exact marks?_text rfl rfl rfl hread h

theorem marks?_spaces (count : Nat) (h : marks? rest = some tail) :
    marks? ((Text.spaces count).toList ++ rest) = some tail := by
  rw [Text.spaces, String.toList_ofList]
  induction count with
  | zero => exact h
  | succ count ih => exact marks?_space rfl ih

theorem marks?_lineBreak (indent depth : Nat) (h : marks? rest = some tail) :
    marks? ((lineBreak indent depth).toList ++ rest) = some tail := by
  rw [lineBreak, String.toList_append, List.append_assoc]
  exact marks?_space rfl (marks?_spaces (indent * depth) h)

end Marks

theorem isDigit_of_mem_toDigits {value : Nat} {c : Char} (h : c ∈ Nat.toDigits 10 value) :
    c.isDigit = true :=
  Nat.isDigit_of_mem_toDigits (by decide) (by decide) h

theorem natural?_toDigits (value : Nat) : natural? (Nat.toDigits 10 value) = some value := by
  have hdigits : (Nat.toDigits 10 value).all Char.isDigit = true :=
    List.all_eq_true.mpr fun _ => isDigit_of_mem_toDigits
  have hempty : (Nat.toDigits 10 value).isEmpty = false :=
    List.isEmpty_eq_false_iff.mpr Nat.toDigits_ne_nil
  rw [natural?, hdigits, hempty, Nat.ofDigitChars_ten_toDigits]
  rfl

theorem integer?_toString (value : Int) :
    integer? (toString value).toList = some value ∧
      ∀ c ∈ (toString value).toList, isNumeral c = true := by
  cases value with
  | ofNat value =>
      have hdigits : (toString (Int.ofNat value)).toList = Nat.toDigits 10 value := Nat.toList_repr
      rw [hdigits]
      refine ⟨?_, fun c hc => by simp [isNumeral, isDigit_of_mem_toDigits hc]⟩
      rw [integer?.eq_def]
      split
      · rename_i heq
        have hsign : '-' ∈ Nat.toDigits 10 value := by simp [heq]
        exact absurd (isDigit_of_mem_toDigits hsign) (by decide)
      · rw [natural?_toDigits]
        rfl
  | negSucc value =>
      have hdigits : (toString (Int.negSucc value)).toList =
          '-' :: Nat.toDigits 10 (value + 1) := by
        change ("-" ++ (value + 1).repr).toList = _
        rw [String.toList_append, Nat.toList_repr]
        rfl
      rw [hdigits, List.forall_mem_cons]
      refine ⟨?_, rfl, fun c hc => by simp [isNumeral, isDigit_of_mem_toDigits hc]⟩
      rw [integer?, natural?_toDigits]
      rfl

/-- A number is neither blank nor punctuation, and no string. -/
theorem plain_of_isNumeral {c : Char} (h : isNumeral c = true) :
    isSpace c = false ∧ mark? c = none ∧ c ≠ '"' := by
  refine ⟨?_, ?_, ?_⟩
  · cases hspace : isSpace c with
    | false => rfl
    | true =>
        simp only [isSpace, Bool.or_eq_true, beq_iff_eq] at hspace
        rcases hspace with ((rfl | rfl) | rfl) | rfl <;> cases h
  · unfold mark?
    split <;> first | rfl | cases h
  · rintro rfl
    cases h

/-- No number goes on into such a text. -/
def EndsNumber (rest : List Char) : Prop :=
  ∀ c ∈ rest.head?, isNumeral c = false

theorem marks?_number (value : Int) {rest : List Char} {tail : List Mark}
    (hends : EndsNumber rest) (h : marks? rest = some tail) :
    marks? ((toString value).toList ++ rest) = some (.number value :: tail) := by
  obtain ⟨hvalue, hchars⟩ := integer?_toString value
  generalize (toString value).toList = word at hvalue hchars
  cases word with
  | nil => cases hvalue
  | cons c word =>
      rw [List.forall_mem_cons] at hchars
      obtain ⟨hspace, hmark, hquote⟩ := plain_of_isNumeral hchars.1
      have hcut : rest.takeWhile isNumeral = [] ∧ rest.dropWhile isNumeral = rest := by
        cases rest with
        | nil => exact ⟨rfl, rfl⟩
        | cons d rest => simp [hends d rfl]
      rw [List.cons_append, marks?, if_neg (by simp [hspace])]
      simp only [hmark, if_neg hquote, List.takeWhile_append_of_pos hchars.2,
        List.dropWhile_append_of_pos hchars.2, hcut, List.append_nil, hvalue, h, Option.map_some]

mutual
def marksOf : Json → List Mark
  | .text value => [.text value]
  | .number value => [.number value]
  | .array [] => [.openArray, .closeArray]
  | .array (item :: items) => .openArray :: (marksOf item ++ (marksOfItems items ++ [.closeArray]))
  | .object [] => [.openObject, .closeObject]
  | .object ((key, value) :: members) =>
    .openObject :: .text key :: .colon ::
      (marksOf value ++ (marksOfMembers members ++ [.closeObject]))

def marksOfItems : List Json → List Mark
  | [] => []
  | item :: items => .comma :: (marksOf item ++ marksOfItems items)

def marksOfMembers : List (String × Json) → List Mark
  | [] => []
  | (key, value) :: members =>
    .comma :: .text key :: .colon :: (marksOf value ++ marksOfMembers members)
end

theorem endsNumber_cons {c : Char} (h : isNumeral c = false) (rest : List Char) :
    EndsNumber (c :: rest) := by
  rintro d hd
  cases hd
  exact h

theorem endsNumber_lineBreak (indent depth : Nat) (rest : List Char) :
    EndsNumber ((lineBreak indent depth).toList ++ rest) := by
  rw [lineBreak, String.toList_append, List.append_assoc]
  exact endsNumber_cons rfl _

theorem endsNumber_renderItems (indent depth : Nat) (items : List Json) {rest : List Char}
    (hrest : EndsNumber rest) : EndsNumber ((renderItems indent depth items).toList ++ rest) := by
  cases items with
  | nil => exact hrest
  | cons item items =>
      simp only [renderItems, String.toList_append, List.append_assoc]
      exact endsNumber_cons rfl _

theorem endsNumber_renderMembers (indent depth : Nat) (members : List (String × Json))
    {rest : List Char} (hrest : EndsNumber rest) :
    EndsNumber ((renderMembers indent depth members).toList ++ rest) := by
  cases members with
  | nil => exact hrest
  | cons member members =>
      simp only [renderMembers, String.toList_append, List.append_assoc]
      exact endsNumber_cons rfl _

mutual
/-- The text of a document is cut into its marks. -/
theorem marks?_render (indent depth : Nat) (doc : Json) {rest : List Char} {tail : List Mark}
    (hends : EndsNumber rest) (h : marks? rest = some tail) :
    marks? ((render indent depth doc).toList ++ rest) = some (marksOf doc ++ tail) := by
  match doc with
  | .text value => simpa [render, marksOf] using marks?_quote value h
  | .number value => simpa [render, marksOf] using marks?_number value hends h
  | .array [] =>
      have hclose := marks?_mark (c := ']') rfl rfl h
      have hopen := marks?_mark (c := '[') rfl rfl hclose
      simpa [render, marksOf] using hopen
  | .array (item :: items) =>
      have hclose := marks?_lineBreak indent depth (marks?_mark (c := ']') rfl rfl h)
      have hitems := marks?_renderItems indent depth items (endsNumber_lineBreak _ _ _) hclose
      have hitem := marks?_render indent (depth + 1) item
        (endsNumber_renderItems indent depth items (endsNumber_lineBreak _ _ _)) hitems
      have hopen := marks?_mark (c := '[') rfl rfl (marks?_lineBreak indent (depth + 1) hitem)
      simpa [render, marksOf] using hopen
  | .object [] =>
      have hclose := marks?_mark (c := '\x7d') rfl rfl h
      have hopen := marks?_mark (c := '\x7b') rfl rfl hclose
      simpa [render, marksOf] using hopen
  | .object ((key, value) :: members) =>
      have hclose := marks?_lineBreak indent depth (marks?_mark (c := '\x7d') rfl rfl h)
      have hmembers := marks?_renderMembers indent depth members (endsNumber_lineBreak _ _ _) hclose
      have hvalue := marks?_render indent (depth + 1) value
        (endsNumber_renderMembers indent depth members (endsNumber_lineBreak _ _ _)) hmembers
      have hcolon := marks?_mark (c := ':') rfl rfl (marks?_space (c := ' ') rfl hvalue)
      have hkey := marks?_quote key hcolon
      have hopen := marks?_mark (c := '\x7b') rfl rfl (marks?_lineBreak indent (depth + 1) hkey)
      simpa [render, marksOf] using hopen

theorem marks?_renderItems (indent depth : Nat) (items : List Json) {rest : List Char}
    {tail : List Mark} (hends : EndsNumber rest) (h : marks? rest = some tail) :
    marks? ((renderItems indent depth items).toList ++ rest) =
      some (marksOfItems items ++ tail) := by
  match items with
  | [] => simpa [renderItems, marksOfItems] using h
  | item :: items =>
      have hitems := marks?_renderItems indent depth items hends h
      have hitem := marks?_render indent (depth + 1) item
        (endsNumber_renderItems indent depth items hends) hitems
      have hcomma := marks?_mark (c := ',') rfl rfl (marks?_lineBreak indent (depth + 1) hitem)
      simpa [renderItems, marksOfItems] using hcomma

theorem marks?_renderMembers (indent depth : Nat) (members : List (String × Json))
    {rest : List Char} {tail : List Mark} (hends : EndsNumber rest) (h : marks? rest = some tail) :
    marks? ((renderMembers indent depth members).toList ++ rest) =
      some (marksOfMembers members ++ tail) := by
  match members with
  | [] => simpa [renderMembers, marksOfMembers] using h
  | (key, value) :: members =>
      have hmembers := marks?_renderMembers indent depth members hends h
      have hvalue := marks?_render indent (depth + 1) value
        (endsNumber_renderMembers indent depth members hends) hmembers
      have hcolon := marks?_mark (c := ':') rfl rfl (marks?_space (c := ' ') rfl hvalue)
      have hkey := marks?_quote key hcolon
      have hcomma := marks?_mark (c := ',') rfl rfl (marks?_lineBreak indent (depth + 1) hkey)
      simpa [renderMembers, marksOfMembers] using hcomma
end

/-- No document starts where an array ends. -/
theorem marksOf_ne_closeArray (doc : Json) (marks rest : List Mark) :
    marksOf doc ++ marks ≠ .closeArray :: rest := by
  match doc with
  | .text _ | .number _ | .array [] | .object [] | .array (_ :: _) | .object ((_, _) :: _) =>
      simp [marksOf]

theorem build?_openArray {marks : List Mark} (h : ∀ rest, marks ≠ .closeArray :: rest)
    (frames : List Frame) :
    build? frames (.openArray :: marks) = build? (.array [] :: frames) marks := by
  cases marks with
  | nil => simp [build?]
  | cons mark marks =>
      cases mark with
      | closeArray => exact absurd rfl (h marks)
      | _ => simp [build?]

mutual
/-- Behind its marks a document is complete, whatever is open around it. -/
theorem build?_marksOf (frames : List Frame) (doc : Json) (marks : List Mark) :
    build? frames (marksOf doc ++ marks) = finish? doc frames marks := by
  match doc with
  | .text value => rfl
  | .number value => rfl
  | .array [] => rfl
  | .object [] => rfl
  | .array (item :: items) =>
      have hopen := build?_openArray
        (marksOf_ne_closeArray item (marksOfItems items ++ .closeArray :: marks)) frames
      rw [build?_marksOf, finish?_marksOfItems] at hopen
      simpa [marksOf] using hopen
  | .object ((key, value) :: members) =>
      have hvalue := build?_marksOf (.object [] key :: frames) value
        (marksOfMembers members ++ .closeObject :: marks)
      rw [finish?_marksOfMembers] at hvalue
      simpa [marksOf, build?] using hvalue

theorem finish?_marksOfItems (value : Json) (before : List Json) (frames : List Frame)
    (items : List Json) (marks : List Mark) :
    finish? value (.array before :: frames) (marksOfItems items ++ .closeArray :: marks) =
      finish? (.array (before.reverse ++ value :: items)) frames marks := by
  match items with
  | [] => simp [marksOfItems, finish?]
  | item :: items =>
      have hitem := build?_marksOf (.array (value :: before) :: frames) item
        (marksOfItems items ++ .closeArray :: marks)
      rw [finish?_marksOfItems] at hitem
      simpa [marksOfItems, finish?] using hitem

theorem finish?_marksOfMembers (value : Json) (before : List (String × Json)) (key : String)
    (frames : List Frame) (members : List (String × Json)) (marks : List Mark) :
    finish? value (.object before key :: frames)
        (marksOfMembers members ++ .closeObject :: marks) =
      finish? (.object (before.reverse ++ (key, value) :: members)) frames marks := by
  match members with
  | [] => simp [marksOfMembers, finish?]
  | (next, item) :: members =>
      have hitem := build?_marksOf (.object ((key, value) :: before) next :: frames) item
        (marksOfMembers members ++ .closeObject :: marks)
      rw [finish?_marksOfMembers] at hitem
      simpa [marksOfMembers, finish?] using hitem
end

/-- A document is read back from its indented text. -/
theorem ofText?_render (indent depth : Nat) (doc : Json) :
    ofText? (doc.render indent depth) = some doc := by
  have hend : marks? [] = some [] := by rw [marks?]
  have hmarks := marks?_render indent depth doc (by simp [EndsNumber]) hend
  rw [List.append_nil] at hmarks
  have hdoc := build?_marksOf [] doc []
  rw [ofText?, hmarks, Option.bind_some, hdoc]
  rfl

end Sexpr.Json
