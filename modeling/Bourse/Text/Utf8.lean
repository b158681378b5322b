/-!
# UTF-8

A character takes one to four bytes in UTF-8. A lead byte says how many bytes follow; each of
those is a continuation byte `10xxxxxx`. Overlong forms, surrogate halves and code points above
U+10FFFF are not well-formed, so the second byte's range depends on the lead byte.
-/

namespace Bourse

/-- Whether a byte continues a UTF-8 character. -/
def isContinuation (b : UInt8) : Bool := 0x80 ≤ b && b ≤ 0xBF

/-- The character a well-formed UTF-8 sequence at the head of the bytes encodes, with the
number of bytes it takes. -/
def utf8Head? : List UInt8 → Option (Char × Nat)
  | [] => none
  | b0 :: rest =>
    let n0 := b0.toNat
    if n0 < 0x80 then some (Char.ofNat n0, 1)
    else if 0xC2 ≤ n0 && n0 ≤ 0xDF then
      match rest with
      | b1 :: _ =>
        if isContinuation b1 then some (Char.ofNat ((n0 % 32) * 64 + b1.toNat % 64), 2) else none
      | _ => none
    else if 0xE0 ≤ n0 && n0 ≤ 0xEF then
      match rest with
      | b1 :: b2 :: _ =>
        let low : UInt8 := if n0 == 0xE0 then 0xA0 else 0x80
        let high : UInt8 := if n0 == 0xED then 0x9F else 0xBF
        if low ≤ b1 && b1 ≤ high && isContinuation b2 then
          some (Char.ofNat ((n0 % 16) * 4096 + (b1.toNat % 64) * 64 + b2.toNat % 64), 3)
        else none
      | _ => none
    else if 0xF0 ≤ n0 && n0 ≤ 0xF4 then
      match rest with
      | b1 :: b2 :: b3 :: _ =>
        let low : UInt8 := if n0 == 0xF0 then 0x90 else 0x80
        let high : UInt8 := if n0 == 0xF4 then 0x8F else 0xBF
        if low ≤ b1 && b1 ≤ high && isContinuation b2 && isContinuation b3 then
          some (Char.ofNat ((n0 % 8) * 262144 + (b1.toNat % 64) * 4096 + (b2.toNat % 64) * 64 +
            b3.toNat % 64), 4)
        else none
      | _ => none
    else none

end Bourse
