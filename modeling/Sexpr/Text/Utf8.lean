/-!
UTF-8: characters as sequences of one to four bytes. Only the shortest sequence of a character
counts, and surrogates have none.
-/

namespace Sexpr.Text.Utf8

def isTail (b : UInt8) : Bool :=
  0x80 ≤ b && b ≤ 0xbf

/-- The first two bytes of a sequence of two, three or four bytes. After some lead bytes not every
tail is allowed: the others would encode a shorter sequence again, a surrogate, or no character. -/
def isPair (lead second : UInt8) : Bool :=
  0xc2 ≤ lead && lead ≤ 0xdf && isTail second

def startsTriple (lead second : UInt8) : Bool :=
  0xe0 ≤ lead && lead ≤ 0xef && isTail second &&
    !(lead == 0xe0 && second < 0xa0) && !(lead == 0xed && 0x9f < second)

def startsQuad (lead second : UInt8) : Bool :=
  0xf0 ≤ lead && lead ≤ 0xf4 && isTail second &&
    !(lead == 0xf0 && second < 0x90) && !(lead == 0xf4 && 0x8f < second)

/-- The character of a sequence: the low bits of the lead byte, then six bits from each other. -/
def join (lead : Nat) (tails : List UInt8) : Char :=
  Char.ofNat (tails.foldl (fun value b => value * 64 + b.toNat % 64) lead)

/-- The characters of bytes that start at an offset, or the offset of the first byte of a sequence
that is none. -/
def decodeFrom (offset : Nat) : List UInt8 → Except Nat (List Char)
  | [] => .ok []
  | lead :: rest =>
    if lead < 0x80 then
      (decodeFrom (offset + 1) rest).map (join lead.toNat [] :: ·)
    else match rest with
      | second :: rest =>
        if isPair lead second then
          (decodeFrom (offset + 2) rest).map (join (lead.toNat % 32) [second] :: ·)
        else match rest with
          | third :: rest =>
            if startsTriple lead second && isTail third then
              (decodeFrom (offset + 3) rest).map (join (lead.toNat % 16) [second, third] :: ·)
            else match rest with
              | fourth :: rest =>
                if startsQuad lead second && isTail third && isTail fourth then
                  (decodeFrom (offset + 4) rest).map
                    (join (lead.toNat % 8) [second, third, fourth] :: ·)
                else .error offset
              | [] => .error offset
          | [] => .error offset
      | [] => .error offset

def decode (bytes : List UInt8) : Except Nat (List Char) :=
  decodeFrom 0 bytes

end Sexpr.Text.Utf8
