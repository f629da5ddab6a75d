/-!
# UTF-8

`decodeUtf8` reads bytes as UTF-8 by the syntax of RFC 3629, section 4:
every character takes one to four bytes, the ranges of the lead byte fixing
which second bytes are allowed, so that no character has two encodings and no
surrogate or code point past `U+10FFFF` is encoded.  Bytes outside the syntax
make the whole text unreadable.
-/

namespace Drafting.Text

/-- Whether `b` is a continuation byte, `80` to `BF`. -/
def isTail (b : UInt8) : Bool := 0x80 ≤ b && b ≤ 0xBF

/-- The low six bits of a continuation byte. -/
def tailBits (b : UInt8) : Nat := b.toNat % 64

/-- Reads bytes as UTF-8 characters, or `none` when they are not UTF-8. -/
def decodeUtf8 : List UInt8 → Option (List Char)
  | [] => some []
  | a :: rest =>
    if a ≤ 0x7F then (decodeUtf8 rest).map (Char.ofNat a.toNat :: ·)
    else match rest with
      | b :: rest2 =>
        if 0xC2 ≤ a && a ≤ 0xDF && isTail b then
          (decodeUtf8 rest2).map (Char.ofNat ((a.toNat % 32) * 64 + tailBits b) :: ·)
        else match rest2 with
          | c :: rest3 =>
            let second :=
              if a == 0xE0 then 0xA0 ≤ b && b ≤ 0xBF
              else if a == 0xED then 0x80 ≤ b && b ≤ 0x9F
              else (0xE1 ≤ a && a ≤ 0xEF) && isTail b
            if second && isTail c then
              (decodeUtf8 rest3).map
                (Char.ofNat ((a.toNat % 16) * 4096 + tailBits b * 64 + tailBits c) :: ·)
            else match rest3 with
              | d :: rest4 =>
                let second4 :=
                  if a == 0xF0 then 0x90 ≤ b && b ≤ 0xBF
                  else if a == 0xF4 then 0x80 ≤ b && b ≤ 0x8F
                  else (0xF1 ≤ a && a ≤ 0xF3) && isTail b
                if second4 && isTail c && isTail d then
                  (decodeUtf8 rest4).map (Char.ofNat ((a.toNat % 8) * 262144 + tailBits b * 4096 +
                    tailBits c * 64 + tailBits d) :: ·)
                else none
              | [] => none
          | [] => none
      | [] => none

end Drafting.Text
