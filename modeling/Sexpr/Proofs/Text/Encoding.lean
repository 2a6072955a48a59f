import Sexpr.Text.Utf8

/-!
Bytes of a text. The decoder takes the sequences of the characters apart again, each at its lead
byte, and refuses none of them: what is written as the encoding of a text is read as that text. It
takes no other sequences, so all other bytes are refused.
-/

namespace Sexpr.Text.Utf8

section Sequences

variable {lead second third fourth : UInt8}

theorem decodeFrom_single (h : lead < 0x80) (offset : Nat) (rest : List UInt8) :
    decodeFrom offset (lead :: rest) =
      (decodeFrom (offset + 1) rest).map (join lead.toNat [] :: ·) := by
  rw [decodeFrom.eq_def]
  exact if_pos h

theorem decodeFrom_pair (h : isPair lead second = true) (offset : Nat) (rest : List UInt8) :
    decodeFrom offset (lead :: second :: rest) =
      (decodeFrom (offset + 2) rest).map (join (lead.toNat % 32) [second] :: ·) := by
  have hlead : ¬lead < 0x80 := by grind [isPair]
  rw [decodeFrom.eq_def]
  simp only [hlead, if_false, h, if_true]

theorem decodeFrom_triple (h : (startsTriple lead second && isTail third) = true) (offset : Nat)
    (rest : List UInt8) :
    decodeFrom offset (lead :: second :: third :: rest) =
      (decodeFrom (offset + 3) rest).map (join (lead.toNat % 16) [second, third] :: ·) := by
  have hlead : ¬lead < 0x80 := by grind [startsTriple]
  have hpair : isPair lead second = false := by grind [startsTriple, isPair]
  rw [decodeFrom.eq_def]
  simp only [hlead, hpair, Bool.false_eq_true, if_false, h, if_true]

theorem decodeFrom_quad
    (h : (startsQuad lead second && isTail third && isTail fourth) = true) (offset : Nat)
    (rest : List UInt8) :
    decodeFrom offset (lead :: second :: third :: fourth :: rest) =
      (decodeFrom (offset + 4) rest).map
        (join (lead.toNat % 8) [second, third, fourth] :: ·) := by
  have hlead : ¬lead < 0x80 := by grind [startsQuad]
  have hpair : isPair lead second = false := by grind [startsQuad, isPair]
  have htriple : (startsTriple lead second && isTail third) = false := by
    grind [startsQuad, startsTriple]
  rw [decodeFrom.eq_def]
  simp only [hlead, hpair, htriple, Bool.false_eq_true, if_false, h, if_true]

end Sequences

/-- The bits of a sequence put together again give the character they were taken from. -/
theorem join_eq {c : Char} {lead : Nat} {tails : List UInt8}
    (h : tails.foldl (fun value b => value * 64 + b.toNat % 64) lead = c.toNat) :
    join lead tails = c := by
  rw [join, h, Char.ofNat_toNat]

/-- The sequence of a character is read as that character, whatever stands behind it. -/
theorem decodeFrom_encodeChar (offset : Nat) (c : Char) (rest : List UInt8) :
    decodeFrom offset (String.utf8EncodeChar c ++ rest) =
      (decodeFrom (offset + (String.utf8EncodeChar c).length) rest).map (c :: ·) := by
  have hvalid : c.toNat < 0xd800 ∨ 0xdfff < c.toNat ∧ c.toNat < 0x110000 := c.valid
  have hval : c.val.toNat = c.toNat := rfl
  rw [String.utf8EncodeChar]
  simp only [hval]
  -- One case for each length; in each the sequence is read, its bits make up the character, and
  -- the bytes are those that the decoder takes, where surrogates and larger numbers are excluded.
  split
  · rw [List.singleton_append, decodeFrom_single, join_eq (c := c)]
    · rfl
    · simp
      omega
    · simp [UInt8.lt_iff_toNat_lt]
      omega
  split
  · rw [List.cons_append, List.singleton_append, decodeFrom_pair, join_eq (c := c)]
    · rfl
    · simp
      omega
    · simp [isPair, isTail, UInt8.le_iff_toNat_le]
      omega
  split
  · rw [List.cons_append, List.cons_append, List.singleton_append, decodeFrom_triple,
      join_eq (c := c)]
    · rfl
    · simp
      omega
    · simp [startsTriple, isTail, UInt8.le_iff_toNat_le, UInt8.lt_iff_toNat_lt, ← UInt8.toNat_inj]
      omega
  · rw [List.cons_append, List.cons_append, List.cons_append, List.singleton_append,
      decodeFrom_quad, join_eq (c := c)]
    · rfl
    · simp
      omega
    · simp [startsQuad, isTail, UInt8.le_iff_toNat_le, UInt8.lt_iff_toNat_lt, ← UInt8.toNat_inj]
      omega

/-- The bytes of a text are read as that text, wherever they start. -/
theorem decodeFrom_encoding (offset : Nat) (text : List Char) :
    decodeFrom offset (text.flatMap String.utf8EncodeChar) = .ok text := by
  induction text generalizing offset with
  | nil => rfl
  | cons c text ih =>
      rw [List.flatMap_cons, decodeFrom_encodeChar, ih]
      rfl

/-- No two texts have the same bytes. -/
theorem encoding_injective {text other : List Char}
    (h : text.flatMap String.utf8EncodeChar = other.flatMap String.utf8EncodeChar) :
    text = other := by
  have hdecode := decodeFrom_encoding 0 text
  rw [h, decodeFrom_encoding] at hdecode
  exact (Except.ok.inj hdecode).symm

section Characters

variable {lead second third fourth : UInt8}

/-- The number of a character that a sequence stands for. -/
theorem toNat_join {lead value : Nat} {tails : List UInt8}
    (hvalue : tails.foldl (fun value b => value * 64 + b.toNat % 64) lead = value)
    (hvalid : value < 0xd800 ∨ 0xdfff < value ∧ value < 0x110000) :
    (join lead tails).val.toNat = value := by
  have hchar : value.isValidChar := hvalid
  rw [join, hvalue, Char.ofNat, dif_pos hchar]
  rfl

theorem encode_single (h : lead < 0x80) :
    String.utf8EncodeChar (join lead.toNat []) = [lead] := by
  have hlead : lead.toNat < 128 := by simpa [UInt8.lt_iff_toNat_lt] using h
  have hvalue : (join lead.toNat []).val.toNat = lead.toNat := toNat_join rfl (by omega)
  rw [String.utf8EncodeChar]
  simp only [hvalue]
  rw [if_pos (by omega), UInt8.ofNat_toNat]

theorem encode_pair (h : isPair lead second = true) :
    String.utf8EncodeChar (join (lead.toNat % 32) [second]) = [lead, second] := by
  simp [isPair, isTail, UInt8.le_iff_toNat_le] at h
  have hvalue : (join (lead.toNat % 32) [second]).val.toNat =
      lead.toNat % 32 * 64 + second.toNat % 64 := toNat_join rfl (by omega)
  rw [String.utf8EncodeChar]
  simp only [hvalue]
  rw [if_neg (by omega), if_pos (by omega)]
  simp [← UInt8.toNat_inj]
  omega

theorem encode_triple (h : (startsTriple lead second && isTail third) = true) :
    String.utf8EncodeChar (join (lead.toNat % 16) [second, third]) = [lead, second, third] := by
  simp [startsTriple, isTail, UInt8.le_iff_toNat_le, UInt8.lt_iff_toNat_lt, ← UInt8.toNat_inj] at h
  have hvalue : (join (lead.toNat % 16) [second, third]).val.toNat =
      (lead.toNat % 16 * 64 + second.toNat % 64) * 64 + third.toNat % 64 :=
    toNat_join rfl (by omega)
  rw [String.utf8EncodeChar]
  simp only [hvalue]
  rw [if_neg (by omega), if_neg (by omega), if_pos (by omega)]
  simp [← UInt8.toNat_inj]
  omega

theorem encode_quad (h : (startsQuad lead second && isTail third && isTail fourth) = true) :
    String.utf8EncodeChar (join (lead.toNat % 8) [second, third, fourth]) =
      [lead, second, third, fourth] := by
  simp [startsQuad, isTail, UInt8.le_iff_toNat_le, UInt8.lt_iff_toNat_lt, ← UInt8.toNat_inj] at h
  have hvalue : (join (lead.toNat % 8) [second, third, fourth]).val.toNat =
      ((lead.toNat % 8 * 64 + second.toNat % 64) * 64 + third.toNat % 64) * 64 +
        fourth.toNat % 64 := toNat_join rfl (by omega)
  rw [String.utf8EncodeChar]
  simp only [hvalue]
  rw [if_neg (by omega), if_neg (by omega), if_neg (by omega)]
  simp [← UInt8.toNat_inj]
  omega

end Characters

theorem encoding_of_map {bytes front : List UInt8} {c : Char} {text : List Char}
    {decoded : Except Nat (List Char)} (hfront : String.utf8EncodeChar c = front)
    (h : decoded.map (c :: ·) = .ok text)
    (ih : ∀ others, decoded = .ok others → bytes = others.flatMap String.utf8EncodeChar) :
    front ++ bytes = text.flatMap String.utf8EncodeChar := by
  cases hdecoded : decoded with
  | error offset =>
      rw [hdecoded] at h
      cases h
  | ok others =>
      rw [hdecoded] at h
      cases h
      rw [List.flatMap_cons, hfront, ih others hdecoded]

theorem encoding_of_decodeFrom {offset : Nat} {bytes : List UInt8} {text : List Char}
    (h : decodeFrom offset bytes = .ok text) : bytes = text.flatMap String.utf8EncodeChar := by
  fun_induction decodeFrom offset bytes generalizing text with
  | case1 =>
      cases h
      rfl
  | case2 offset lead rest hlead ih =>
      exact encoding_of_map (encode_single hlead) h fun _ => ih
  | case3 offset lead _ second rest hpair ih =>
      exact encoding_of_map (encode_pair hpair) h fun _ => ih
  | case4 offset lead _ second _ third rest htriple ih =>
      exact encoding_of_map (encode_triple htriple) h fun _ => ih
  | case5 offset lead _ second _ third _ fourth rest hquad ih =>
      exact encoding_of_map (encode_quad hquad) h fun _ => ih
  | case6 => cases h
  | case7 => cases h
  | case8 => cases h
  | case9 => cases h

/-- Bytes are read as a text just if they are the encoding of that text. -/
theorem decode_eq_ok_iff {bytes : List UInt8} {text : List Char} :
    decode bytes = .ok text ↔ bytes = text.flatMap String.utf8EncodeChar := by
  constructor
  · exact encoding_of_decodeFrom
  · rintro rfl
    exact decodeFrom_encoding 0 text

theorem toList_loop_eq (bytes : ByteArray) (start : Nat) (before : List UInt8) :
    ByteArray.toList.loop bytes start before = before.reverse ++ bytes.data.toList.drop start := by
  fun_induction ByteArray.toList.loop bytes start before with
  | case1 start before hstart ih =>
      have hlength : start < bytes.data.toList.length := hstart
      rw [ih, List.drop_eq_getElem_cons hlength]
      simp [ByteArray.get!, hstart]
  | case2 start before hstart =>
      rw [List.drop_eq_nil_of_le (Nat.le_of_not_lt hstart), List.append_nil]

theorem toList_toUTF8 (text : String) :
    text.toUTF8.toList = text.toList.flatMap String.utf8EncodeChar := by
  rw [ByteArray.toList, toList_loop_eq, List.reverse_nil, List.nil_append, List.drop_zero,
    String.toUTF8_eq_toByteArray, ← String.utf8Encode_toList, List.utf8Encode,
    List.toList_data_toByteArray]

/-- Decoding undoes encoding. -/
theorem decode_toUTF8 (text : String) : decode text.toUTF8.toList = .ok text.toList := by
  rw [toList_toUTF8, decode, decodeFrom_encoding]

end Sexpr.Text.Utf8
