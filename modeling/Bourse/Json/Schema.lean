import Bourse.Json.Value
import Bourse.Decimal.Text
import Bourse.Time.Layout
import Bourse.Text.Quote

/-!
# JSON schemas

The part of JSON Schema (draft 7) that describes flat messages: the types a value may have, a
constant, a list of allowed values, the `date-time` format, bounds on a string's length, the
properties an object must have, schemas for its properties, schemas that must all hold, and a
schema that must hold when another one does.

`Schema.check` gives the first way a value fails its schema, or nothing when it passes. The
checks run in a fixed order: the type first (a value of the wrong type is reported alone), then
the constant, the allowed values and the format, then the properties an object lacks, then each
property present, then a string's length, then the schemas that must all hold, and last the
conditional schema. Within an object a property's failure is reported at the property's
location, a JSON pointer such as `/Price`.

Deciding whether a number is whole reads it as an exact fraction, which only works for numbers
of moderate size: a nonzero number whose power of ten lies more than a million away from zero,
or whose exponent does not fit in 64 bits, cannot be read, and the check breaks down when it
reaches such a number under the `integer` type (`Schema.breaksOn`). Every property and every
subschema is checked, not only up to the first failure, so a breakdown anywhere counts.
-/

namespace Bourse

namespace Json

/-- The name of a value's type, as schemas name it. -/
def Value.schemaType : Value → String
  | .null => "null"
  | .bool _ => "boolean"
  | .number _ => "number"
  | .string _ => "string"
  | .array _ => "array"
  | .object _ => "object"

/-- The digits, point position and exponent of a number's spelling, as a decimal. -/
def numberValue? (literal : String) : Option Decimal :=
  match Decimal.ofText? literal with
  | .ok d => some d
  | .error _ => none

/-- Whether a number's spelling names a whole number: the trailing zeros of its digits cover
the places its point and exponent leave after the units. -/
def isWholeNumber (literal : String) : Bool :=
  let chars := literal.toList.filter (· != '-')
  let (mantissa, exponentPart) := chars.span fun c => c != 'e' && c != 'E'
  let exponent : Int :=
    match exponentPart with
    | _ :: rest =>
      match rest with
      | '-' :: digits => -((String.ofList digits).toNat! : Int)
      | '+' :: digits => (String.ofList digits).toNat!
      | digits => (String.ofList digits).toNat!
    | [] => 0
  let (whole, fraction) := mantissa.span (· != '.')
  let fraction := fraction.drop 1
  let digits := whole ++ fraction
  let trailingZeros := (digits.reverse.takeWhile (· == '0')).length
  digits.all (· == '0') || (fraction.length : Int) - exponent ≤ trailingZeros

/-- Whether a number's spelling can be read as an exact fraction: its exponent must fit in 64
bits, and unless its digits are all zero, its power of ten (the exponent less the digits after
the point) must lie within a million of zero. -/
def isReadableFraction (literal : String) : Bool :=
  let chars := literal.toList.filter (· != '-')
  let (mantissa, exponentPart) := chars.span fun c => c != 'e' && c != 'E'
  let exponent : Int :=
    match exponentPart with
    | _ :: rest =>
      match rest with
      | '-' :: digits => -((String.ofList digits).toNat! : Int)
      | '+' :: digits => (String.ofList digits).toNat!
      | digits => (String.ofList digits).toNat!
    | [] => 0
  let fraction := (mantissa.dropWhile (· != '.')).drop 1
  let limit : Int := Int.ofNat (Nat.pow 2 63)
  if exponent < -limit || exponent ≥ limit then false
  else mantissa.all (fun c => c == '0' || c == '.') || (exponent - fraction.length).natAbs ≤ 1000000

/-- The types a schema can ask for. -/
inductive ValueType where
  | null
  | boolean
  | number
  /-- A number that is whole, however it is written. -/
  | integer
  | string
  | array
  | object
  deriving DecidableEq, Repr

namespace ValueType

/-- The type's name. -/
def name : ValueType → String
  | .null => "null"
  | .boolean => "boolean"
  | .number => "number"
  | .integer => "integer"
  | .string => "string"
  | .array => "array"
  | .object => "object"

/-- Whether a value has the type. -/
def admits (type : ValueType) (value : Value) : Bool :=
  match type, value with
  | .integer, .number literal => isWholeNumber literal
  | _, _ => type.name == value.schemaType

end ValueType

/-- Whether two values are equal as JSON: numbers by their value, objects member by member. -/
def Value.sameAs : Value → Value → Bool
  | .null, .null => true
  | .bool a, .bool b => a == b
  | .number a, .number b =>
    match numberValue? a, numberValue? b with
    | some x, some y => x.equals y
    | _, _ => a == b
  | .string a, .string b => a == b
  | a, b => render false a == render false b

/-- A value written the way the schema's messages quote allowed values: strings in double
quotes, anything else as its JSON text. -/
def Value.quoted : Value → String
  | .string s => quoteText s
  | other => render false other

/-- Text in single quotes, the way the schema's messages quote names and strings. -/
def singleQuoted (text : String) : String :=
  "'" ++ String.join (text.toList.map fun c =>
    if c == '\'' then "\\'" else if c == '"' then "\"" else escapeChar '"' c) ++ "'"

/-- A JSON pointer segment for a property name. -/
def pointerSegment (name : String) : String :=
  String.join (name.toList.map fun c =>
    if c == '~' then "~0" else if c == '/' then "~1" else String.singleton c)

/-- The formats a string can be asked to have. -/
inductive StringFormat where
  /-- An RFC 3339 date and time. -/
  | dateTime
  deriving DecidableEq, Repr

/-- The name of a format. -/
def StringFormat.name : StringFormat → String
  | .dateTime => "date-time"

/-- A two-character number, with an optional sign. -/
def smallNumber? (chars : List Char) : Option Int :=
  let digits (cs : List Char) : Option Nat :=
    if !cs.isEmpty && cs.all (fun c => '0' ≤ c && c ≤ '9') then some (String.ofList cs).toNat!
    else none
  match chars with
  | '+' :: rest => (digits rest).map Int.ofNat
  | '-' :: rest => (digits rest).map fun n => -(n : Int)
  | _ => (digits chars).map Int.ofNat

/-- A two-character number within bounds. -/
def numberIn? (chars : List Char) (least greatest : Int) : Option Int :=
  match smallNumber? chars with
  | some n => if least ≤ n && n ≤ greatest then some n else none
  | none => none

/-- Whether text is an RFC 3339 time of day with its offset: hours, minutes and seconds (the
second may be the leap second 60 only at 23:59 UTC), an optional fraction, and `Z` or a numeric
offset. -/
def isTimeOfDay (chars : List Char) : Bool :=
  if chars.length < 9 then false
  else if chars.getD 2 ' ' != ':' || chars.getD 5 ' ' != ':' then false
  else
    match numberIn? (chars.take 2) 0 23, numberIn? ((chars.drop 3).take 2) 0 59,
        numberIn? ((chars.drop 6).take 2) 0 60 with
    | some h, some m, some s =>
      let rest := chars.drop 8
      let rest? : Option (List Char) := match rest with
        | '.' :: more =>
          let digits := more.takeWhile fun c => '0' ≤ c && c ≤ '9'
          if digits.isEmpty then none else some (more.drop digits.length)
        | _ => some rest
      match rest? with
      | none => false
      | some [] => false
      | some (z :: zone) =>
        let utc? : Option (Int × Int) :=
          if z == 'z' || z == 'Z' then (if zone.isEmpty then some (h, m) else none)
          else if (z :: zone).length != 6 || zone.getD 2 ' ' != ':' then none
          else
            let sign : Option Int := if z == '+' then some (-1) else if z == '-' then some 1 else none
            match sign, numberIn? (zone.take 2) 0 23, numberIn? ((zone.drop 3).take 2) 0 59 with
            | some sign, some zh, some zm =>
              let minutes := h * 60 + m + sign * (zh * 60 + zm)
              let minutes := if minutes < 0 then minutes + 24 * 60 else minutes
              some (minutes / 60, minutes % 60)
            | _, _, _ => none
        match utc? with
        | none => false
        | some (uh, um) => s != 60 || (uh == 23 && um == 59)
    | _, _, _ => false

/-- Whether text is an RFC 3339 date and time. -/
def isDateTime (text : String) : Bool :=
  let chars := text.toList
  if text.utf8ByteSize < 20 then false
  else if chars.getD 10 ' ' != 'T' && chars.getD 10 ' ' != 't' then false
  else
    (match Instant.parse "2006-01-02" (String.ofList (chars.take 10)) with
      | .ok _ => true
      | .error _ => false) && isTimeOfDay (chars.drop 11)

/-- Whether a value has a format; values other than strings have every format. -/
def StringFormat.admits (format : StringFormat) : Value → Bool
  | .string s =>
    match format with
    | .dateTime => isDateTime s
  | _ => true

/-- A schema. Absent parts ask nothing. -/
inductive Schema where
  | mk (types : List ValueType) (constant : Option Value) (choices : List Value)
      (format : Option StringFormat) (minLength maxLength : Option Nat) (required : List String)
      (properties : List (String × Schema)) (allOf : List Schema)
      (condition : Option (Schema × Schema))
  deriving Repr, Inhabited

namespace Schema

/-- The schema every value passes. -/
def any : Schema := .mk [] none [] none none none [] [] [] none

/-- Values of the given types. -/
def ofTypes (types : List ValueType) : Schema := .mk types none [] none none none [] [] [] none

/-- Strings whose length lies within bounds. -/
def text (minLength maxLength : Option Nat) : Schema :=
  .mk [.string] none [] none minLength maxLength [] [] [] none

/-- Strings in a format. -/
def formatted (format : StringFormat) : Schema :=
  .mk [.string] none [] (some format) none none [] [] [] none

/-- One of the given values. -/
def oneOf (choices : List Value) : Schema := .mk [] none choices none none none [] [] [] none

/-- Exactly the given value. -/
def exactly (value : Value) : Schema := .mk [] (some value) [] none none none [] [] [] none

/-- Objects that have the given properties. -/
def requiring (names : List String) : Schema := .mk [] none [] none none none names [] [] none

/-- Objects whose present properties pass their schemas. -/
def withProperties (properties : List (String × Schema)) : Schema :=
  .mk [] none [] none none none [] properties [] none

/-- Values for which `consequence` holds whenever `premise` does. -/
def implies (premise consequence : Schema) : Schema :=
  .mk [] none [] none none none [] [] [] (some (premise, consequence))

end Schema

/-- How a value fails a schema: the JSON pointer of the failing part and what is wrong. -/
structure SchemaFailure where
  /-- Where in the value: empty for the whole value, else a pointer like `/Side`. -/
  location : String
  /-- What is wrong. -/
  message : String
  deriving Repr, DecidableEq

/-- The failure as one line: the message, after its location when there is one. -/
def SchemaFailure.describe (failure : SchemaFailure) : String :=
  if failure.location.isEmpty then failure.message
  else failure.location ++ ": " ++ failure.message

/-- The message for a value outside a list of allowed values. -/
def choicesMessage (choices : List Value) : String :=
  match choices with
  | [single] => "value must be " ++ single.quoted
  | _ => "value must be one of " ++ ", ".intercalate (choices.map Value.quoted)

/-- The first of a list of checks that fails. -/
def firstFailure : List (Unit → Option SchemaFailure) → Option SchemaFailure
  | [] => none
  | check :: rest =>
    match check () with
    | some failure => some failure
    | none => firstFailure rest

namespace Schema

mutual

/-- The first way a value at `location` fails the schema. -/
def check : Schema → Value → String → Option SchemaFailure
  | .mk types constant choices format minLength maxLength required properties allOf condition,
      value, location =>
    let fail (message : String) : Option SchemaFailure := some ⟨location, message⟩
    if !types.isEmpty && !types.any (·.admits value) then
      fail ("expected " ++ " or ".intercalate (types.map ValueType.name) ++ ", but got " ++
        value.schemaType)
    else
      firstFailure [
        fun _ => match constant with
          | some c => if value.sameAs c then none else fail ("value must be " ++ c.quoted)
          | none => none,
        fun _ => if choices.isEmpty || choices.any value.sameAs then none
          else fail (choicesMessage choices),
        fun _ => match format, value with
          | some f, .string s =>
            if f.admits value then none
            else fail (singleQuoted s ++ " is not valid " ++ singleQuoted f.name)
          | _, _ => none,
        fun _ => match value with
          | .object members =>
            let missing := required.filter fun name => !members.any (·.1 == name)
            if missing.isEmpty then none
            else fail ("missing properties: " ++ ", ".intercalate (missing.map singleQuoted))
          | _ => none,
        fun _ => match value with
          | .object _ => checkProperties properties value location
          | _ => none,
        fun _ => match value with
          | .string s =>
            let length := s.length
            match minLength, maxLength with
            | some least, _ =>
              if length < least then
                fail ("length must be >= " ++ toString least ++ ", but got " ++ toString length)
              else match maxLength with
                | some most =>
                  if length > most then
                    fail ("length must be <= " ++ toString most ++ ", but got " ++ toString length)
                  else none
                | none => none
            | none, some most =>
              if length > most then
                fail ("length must be <= " ++ toString most ++ ", but got " ++ toString length)
              else none
            | none, none => none
          | _ => none,
        fun _ => checkAll allOf value location,
        fun _ => match condition with
          | some (premise, consequence) =>
            match check premise value location with
            | none => check consequence value location
            | some _ => none
          | none => none]

/-- The first failure among the properties present in an object; a repeated key counts with
its last value. -/
def checkProperties : List (String × Schema) → Value → String → Option SchemaFailure
  | [], _, _ => none
  | (name, schema) :: rest, value, location =>
    match value.field? name with
    | some item =>
      match check schema item (location ++ "/" ++ pointerSegment name) with
      | some failure => some failure
      | none => checkProperties rest value location
    | none => checkProperties rest value location

/-- The first failure among schemas that must all hold. -/
def checkAll : List Schema → Value → String → Option SchemaFailure
  | [], _, _ => none
  | schema :: rest, value, location =>
    match check schema value location with
    | some failure => some failure
    | none => checkAll rest value location

end

/-- Whether checking the types reaches a number that cannot be read as a fraction: the types
are tried in order until one names the value's own type, and `integer` reads a number. -/
def typesBreakOn : List ValueType → Value → Bool
  | [], _ => false
  | type :: rest, value =>
    if type.name == value.schemaType then false
    else match type, value with
      | .integer, .number literal =>
        if !isReadableFraction literal then true
        else if isWholeNumber literal then false
        else typesBreakOn rest value
      | _, _ => typesBreakOn rest value

mutual

/-- Whether checking a value against the schema breaks down on a number that cannot be read:
in the types, or, when the types admit the value, in any property present, any schema that must
all hold, the condition's premise, or its consequence when the premise holds. -/
def breaksOn : Schema → Value → Bool
  | .mk types _ _ _ _ _ _ properties allOf condition, value =>
    if typesBreakOn types value then true
    else if !types.isEmpty && !types.any (·.admits value) then false
    else
      (match value with
        | .object _ => propertiesBreakOn properties value
        | _ => false) ||
      allBreakOn allOf value ||
      (match condition with
        | some (premise, consequence) =>
          breaksOn premise value || ((check premise value "").isNone && breaksOn consequence value)
        | none => false)

/-- Whether checking the properties present in an object breaks down. -/
def propertiesBreakOn : List (String × Schema) → Value → Bool
  | [], _ => false
  | (name, schema) :: rest, value =>
    (match value.field? name with
      | some item => breaksOn schema item
      | none => false) || propertiesBreakOn rest value

/-- Whether checking any of a list of schemas breaks down. -/
def allBreakOn : List Schema → Value → Bool
  | [], _ => false
  | schema :: rest, value => breaksOn schema value || allBreakOn rest value

end

end Schema

end Json

end Bourse
