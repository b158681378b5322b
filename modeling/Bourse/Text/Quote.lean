import Bourse.Text.Printable
import Bourse.Text.Utf8

/-!
# Quoting text for messages

Messages quote the text they are about: a single byte as a character literal in single quotes,
a piece of text in double quotes. Printable characters stand for themselves; the quote in use
and the backslash are escaped with a backslash; control characters get their short escapes
(`\n`, `\t`, …) or a hexadecimal one.
-/

namespace Bourse

/-- The two lower-case hexadecimal digits of a number below 256. -/
def hex2 (value : Nat) : String :=
  let digit (d : Nat) : Char := "0123456789abcdef".toList.getD d '0'
  String.ofList [digit (value / 16 % 16), digit (value % 16)]

/-- The four lower-case hexadecimal digits of a number below 65536. -/
def hex4Digits (value : Nat) : String := hex2 (value / 256) ++ hex2 (value % 256)

/-- The short escape of a control character, if it has one. -/
def shortEscape (code : Nat) : Option String :=
  match code with
  | 7 => some "\\a"
  | 8 => some "\\b"
  | 12 => some "\\f"
  | 10 => some "\\n"
  | 13 => some "\\r"
  | 9 => some "\\t"
  | 11 => some "\\v"
  | _ => none

/-- A character escaped for a quoted text whose quote is `quote`. -/
def escapeChar (quote : Char) (c : Char) : String :=
  let n := c.toNat
  if c == quote || c == '\\' then String.ofList ['\\', c]
  else if isPrintable c then String.singleton c
  else match shortEscape n with
    | some e => e
    | none =>
      if n < 32 || n == 127 then "\\x" ++ hex2 n
      else if n < 0x10000 then "\\u" ++ hex4Digits n
      else "\\U" ++ hex4Digits (n / 0x10000) ++ hex4Digits (n % 0x10000)

/-- A byte as a character literal: the character of that code in single quotes, escaped as
needed. -/
def quoteByte (code : UInt8) : String :=
  "'" ++ escapeChar '\'' (Char.ofNat code.toNat) ++ "'"

/-- A text in double quotes, escaped as needed. -/
def quoteText (text : String) : String :=
  "\"" ++ String.join (text.toList.map (escapeChar '"')) ++ "\""

/-- Bytes escaped for double quotes: each well-formed UTF-8 character as `escapeChar` shows
it, each other byte as a hexadecimal escape. Every step takes at least one byte, so the
length of the bytes is enough fuel. -/
def escapeBytes : Nat → List UInt8 → String
  | 0, _ => ""
  | _ + 1, [] => ""
  | fuel + 1, b :: rest =>
    match utf8Head? (b :: rest) with
    | some (c, width) => escapeChar '"' c ++ escapeBytes fuel ((b :: rest).drop (max width 1))
    | none => "\\x" ++ hex2 b.toNat ++ escapeBytes fuel rest

/-- Bytes in double quotes, escaped as needed. -/
def quoteBytes (bytes : List UInt8) : String :=
  "\"" ++ escapeBytes bytes.length bytes ++ "\""

/-- The first byte of a character's UTF-8 encoding. -/
def leadByte (c : Char) : UInt8 :=
  let n := c.toNat
  if n < 0x80 then n.toUInt8
  else if n < 0x800 then (0xc0 + n / 64).toUInt8
  else if n < 0x10000 then (0xe0 + n / 4096).toUInt8
  else (0xf0 + n / 262144).toUInt8

end Bourse
