import Bourse.Text.Utf8

/-!
# Base64 and raw bytes

Standard base64 writes three bytes as four digits of six bits each, from `A`–`Z`, `a`–`z`,
`0`–`9`, `+` and `/`. A last group of one or two bytes is padded with `=` to four characters.
Line breaks may stand anywhere and are ignored; anything else that is not a digit, a group cut
short, or text after the padding makes the text malformed.

Bytes that are not valid UTF-8 are shown as text by keeping every well-formed character and
putting a replacement character for each byte that does not start one.
-/

namespace Bourse

/-- The value of a base64 digit. -/
def base64Digit? (c : Char) : Option Nat :=
  if 'A' ≤ c && c ≤ 'Z' then some (c.toNat - 'A'.toNat)
  else if 'a' ≤ c && c ≤ 'z' then some (c.toNat - 'a'.toNat + 26)
  else if '0' ≤ c && c ≤ '9' then some (c.toNat - '0'.toNat + 52)
  else if c == '+' then some 62
  else if c == '/' then some 63
  else none

/-- The bytes of one group of four characters: three for four digits, two for three digits
and one `=`, one for two digits and two `=`; `last` tells whether padding may stand here. -/
def base64Group (last : Bool) : List Char → Option (List UInt8)
  | [a, b, c, d] =>
    match base64Digit? a, base64Digit? b with
    | some a, some b =>
      match base64Digit? c, base64Digit? d with
      | some c, some d =>
        let v := a * Nat.pow 2 18 + b * Nat.pow 2 12 + c * Nat.pow 2 6 + d
        some [(v / Nat.pow 2 16).toUInt8, (v / Nat.pow 2 8 % 256).toUInt8, (v % 256).toUInt8]
      | some c, none =>
        if last && d == '=' then
          let v := a * Nat.pow 2 18 + b * Nat.pow 2 12 + c * Nat.pow 2 6
          some [(v / Nat.pow 2 16).toUInt8, (v / Nat.pow 2 8 % 256).toUInt8]
        else none
      | none, _ =>
        if last && c == '=' && d == '=' then some [((a * Nat.pow 2 18 + b * Nat.pow 2 12) / Nat.pow 2 16).toUInt8]
        else none
    | _, _ => none
  | _ => none

/-- Decodes groups of four characters in order. -/
def base64Groups : List Char → Option (List UInt8)
  | [] => some []
  | a :: b :: c :: d :: rest => do
    let group ← base64Group rest.isEmpty [a, b, c, d]
    let tail ← base64Groups rest
    return group ++ tail
  | _ => none

/-- The bytes of a standard base64 text, `none` when it is malformed. -/
def decodeBase64 (text : String) : Option (List UInt8) :=
  base64Groups (text.toList.filter fun c => c != '\n' && c != '\r')

/-- Bytes shown as text: each well-formed UTF-8 character as itself, each other byte as the
replacement character. -/
def lossyText (bytes : List UInt8) : String :=
  let rec go : Nat → List UInt8 → List Char → List Char
    | 0, _, acc => acc.reverse
    | _ + 1, [], acc => acc.reverse
    | fuel + 1, b :: rest, acc =>
      match utf8Head? (b :: rest) with
      | some (c, width) => go fuel ((b :: rest).drop width) (c :: acc)
      | none => go fuel rest (Char.ofNat 0xFFFD :: acc)
  String.ofList (go bytes.length bytes [])

/-- The first `count` bytes of a text shown as text: a character cut short by the end leaves a
replacement character for each of its bytes that is kept. -/
def takeBytes (count : Nat) (text : String) : String :=
  let rec go : Nat → List Char → List Char → List Char
    | _, [], acc => acc.reverse
    | room, c :: rest, acc =>
      if c.utf8Size ≤ room then go (room - c.utf8Size) rest (c :: acc)
      else acc.reverse ++ List.replicate room (Char.ofNat 0xFFFD)
  String.ofList (go count text.toList [])

end Bourse
