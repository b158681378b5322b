/-!
# JSON values

A JSON document as a tree. Numbers keep the literal they were written with, so that a reader can
decide later whether `10`, `10.0` and `1e1` are integers, and so that they are written back as
they came. Object members keep their order; when a key appears twice, the last one counts, as
`Value.field?` makes precise.
-/

namespace Bourse

namespace Json

/-- A JSON value. -/
inductive Value where
  | null
  | bool (value : Bool)
  /-- A number, as its literal text. -/
  | number (literal : String)
  | string (value : String)
  | array (items : List Value)
  /-- An object, its members in the order they were written. -/
  | object (members : List (String × Value))
  deriving Repr, Inhabited

namespace Value

/-- An integer as a JSON number. -/
def ofInt (value : Int) : Value := .number (toString value)

/-- A 64-bit integer as a JSON number. -/
def ofInt64 (value : Int64) : Value := .number (toString value.toInt)

/-- A natural number as a JSON number. -/
def ofNat (value : Nat) : Value := .number (toString value)

/-- An optional value, `null` when absent. -/
def ofOption {α : Type} (encode : α → Value) : Option α → Value
  | some value => encode value
  | none => .null

/-- The value of the last member named `key`, if the value is an object that has one. -/
def field? (value : Value) (key : String) : Option Value :=
  match value with
  | .object members => (members.reverse.find? (·.1 == key)).map (·.2)
  | _ => none

/-- The text of a string value. -/
def asString? : Value → Option String
  | .string text => some text
  | _ => none

/-- The items of an array value. -/
def asArray? : Value → Option (List Value)
  | .array items => some items
  | _ => none

/-- The members of an object value. -/
def asObject? : Value → Option (List (String × Value))
  | .object members => some members
  | _ => none

/-- The name JSON schema uses for the type of a value. -/
def typeName : Value → String
  | .null => "null"
  | .bool _ => "boolean"
  | .number _ => "number"
  | .string _ => "string"
  | .array _ => "array"
  | .object _ => "object"

/-- Whether the value is `null`. -/
def isNull : Value → Bool
  | .null => true
  | _ => false

end Value

/-- The four hexadecimal digits of a code below 65536, lower case. -/
def hex4 (code : Nat) : String :=
  let digit (n : Nat) : Char := "0123456789abcdef".toList.getD n '0'
  String.ofList [digit (code / 4096 % 16), digit (code / 256 % 16), digit (code / 16 % 16),
    digit (code % 16)]

/-- A string quoted as a JSON string. Quote, backslash, newline, carriage return and tab get
their short escapes, other control characters `\u00XX`; with `escapeHtml`, `<`, `>` and `&` are
written `<`, `>` and `&` as well; the line and paragraph separators U+2028 and
U+2029 are always escaped. -/
def quote (escapeHtml : Bool) (text : String) : String :=
  let escape (c : Char) : String :=
    match c with
    | '"' => "\\\""
    | '\\' => "\\\\"
    | '\n' => "\\n"
    | '\r' => "\\r"
    | '\t' => "\\t"
    | _ =>
      if c.toNat < 32 || c.toNat == 0x2028 || c.toNat == 0x2029 then "\\u" ++ hex4 c.toNat
      else if escapeHtml && (c == '<' || c == '>' || c == '&') then "\\u" ++ hex4 c.toNat
      else String.singleton c
  "\"" ++ String.join (text.toList.map escape) ++ "\""

mutual

/-- The compact text of a value: no spaces, members in order. -/
def render (escapeHtml : Bool) : Value → String
  | .null => "null"
  | .bool true => "true"
  | .bool false => "false"
  | .number literal => literal
  | .string text => quote escapeHtml text
  | .array items => "[" ++ ",".intercalate (renderItems escapeHtml items) ++ "]"
  | .object members => "\x7b" ++ ",".intercalate (renderMembers escapeHtml members) ++ "\x7d"

/-- The texts of array items. -/
def renderItems (escapeHtml : Bool) : List Value → List String
  | [] => []
  | item :: rest => render escapeHtml item :: renderItems escapeHtml rest

/-- The texts `"key":value` of object members. -/
def renderMembers (escapeHtml : Bool) : List (String × Value) → List String
  | [] => []
  | (key, item) :: rest =>
    (quote escapeHtml key ++ ":" ++ render escapeHtml item) :: renderMembers escapeHtml rest

end

end Json

end Bourse
