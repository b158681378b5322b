/-!
# White space

The white space of text fields is Unicode's: the ASCII blanks (space, tab, line feed, vertical
tab, form feed, carriage return), the next line and no-break space controls of Latin-1, and the
space separators, line separator and paragraph separator above them. Trimming a field removes
white space from both of its ends and nothing else.
-/

namespace Bourse

/-- Whether a character is white space in Unicode's sense. -/
def isBlank (c : Char) : Bool :=
  let n := c.toNat
  (9 ≤ n && n ≤ 13) || n == 32 || n == 0x85 || n == 0xa0 || n == 0x1680 ||
    (0x2000 ≤ n && n ≤ 0x200a) || n == 0x2028 || n == 0x2029 || n == 0x202f || n == 0x205f ||
    n == 0x3000

/-- The characters with the white space at both ends removed. -/
def trimBlankChars (chars : List Char) : List Char :=
  ((chars.dropWhile isBlank).reverse.dropWhile isBlank).reverse

/-- A text with the white space at both ends removed. -/
def trimBlank (text : String) : String := String.ofList (trimBlankChars text.toList)

/-- Whether two texts are equal when ASCII letters are compared without case. -/
def sameIgnoringAsciiCase (a b : String) : Bool :=
  let lower (c : Char) : Char := if 'A' ≤ c && c ≤ 'Z' then Char.ofNat (c.toNat + 32) else c
  a.toList.map lower == b.toList.map lower

end Bourse
