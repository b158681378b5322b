import Bourse.Json.Parse
import Bourse.Decimal.Text
import Bourse.Time.Layout

/-!
# Decoding objects into records

A record is decoded from a JSON object member by member, in the order written. A member names
a field when its key equals the field's name ignoring the case of letters (`ſ` counts as `s`
and the Kelvin sign as `k`); members that name no field are skipped, and a later member for a
field overwrites an earlier one. `null` leaves a field as it was.

Each field has a decoder. When a member's value has the wrong type for its field, or has the
right type but does not read (a decimal's text, a time's string), the problem is remembered and
decoding goes on; the first problem is reported at the end. A mismatch names the field by the
member's key as written; a value that does not read gives just the reason.
-/

namespace Bourse

namespace Json

/-- What a field's decoder made of a member. -/
inductive FieldResult (α : Type) where
  /-- The record with the field set. -/
  | set (update : α → α)
  /-- The value has the wrong type; `found` says what it is (`number`, `string`, …). -/
  | mismatch (found : String)
  /-- The value has the right type but does not read, for the reason given. -/
  | fail (message : String)

/-- A field of a record: its name, the name of its type for messages, and its decoder, which
sees the member's text and its value. -/
structure FieldSpec (α : Type) where
  /-- The field's name. -/
  name : String
  /-- The name of the field's type. -/
  typeName : String
  /-- Decodes a member. -/
  decode : String → Node → FieldResult α

/-- What a value is called when it has the wrong type. -/
def Node.kindName : Node → String
  | .null _ => "null"
  | .bool .. => "bool"
  | .number .. => "number"
  | .string .. => "string"
  | .array .. => "array"
  | .object .. => "object"

/-- A character as keys are compared: letters in upper case. -/
def foldChar (c : Char) : Char :=
  if 'a' ≤ c && c ≤ 'z' then Char.ofNat (c.toNat - 32)
  else if c.toNat == 0x17f then 'S'
  else if c.toNat == 0x212a then 'K'
  else c

/-- Whether a key names a field, ignoring case. -/
def keyNames (key name : String) : Bool :=
  key.toList.map foldChar == name.toList.map foldChar

/-- The message of a value of the wrong type for a field. -/
def mismatchMessage (found record field typeName : String) : String :=
  "json: cannot unmarshal " ++ found ++ " into Go struct field " ++ record ++ "." ++ field ++
    " of type " ++ typeName

/-- A text field. -/
def textField {α : Type} (name typeName : String) (store : α → String → α) : FieldSpec α :=
  ⟨name, typeName, fun _ node =>
    match node with
    | .string s _ => .set (store · s)
    | .null _ => .set id
    | other => .mismatch other.kindName⟩

/-- The value of a decimal integer spelling, if it has one: an optional sign and digits. -/
def integerValue? (literal : String) : Option Int :=
  let digits (cs : List Char) : Option Nat :=
    if !cs.isEmpty && cs.all (fun c => '0' ≤ c && c ≤ '9') then some (String.ofList cs).toNat!
    else none
  match literal.toList with
  | '-' :: rest => (digits rest).map fun n => -(n : Int)
  | '+' :: rest => (digits rest).map Int.ofNat
  | cs => (digits cs).map Int.ofNat

/-- A 64-bit integer field: a number that is a whole number in range. -/
def int64Field {α : Type} (name : String) (store : α → Int64 → α) : FieldSpec α :=
  ⟨name, "int64", fun _ node =>
    match node with
    | .number literal _ =>
      match integerValue? literal with
      | some n =>
        if -(Int.pow 2 63) ≤ n && n < Int.pow 2 63 then .set (store · (Int64.ofInt n))
        else .mismatch ("number " ++ literal)
      | none => .mismatch ("number " ++ literal)
    | .null _ => .set id
    | other => .mismatch other.kindName⟩

/-- Reads a decimal from a member's text: the text itself, or what stands between its quotes
when it is quoted; escapes are not resolved. -/
def decimalOfMember (raw : String) : Except String Decimal :=
  let chars := raw.toList
  let inner := if chars.length > 2 && chars.head? == some '"' && chars.getLast? == some '"' then
      String.ofList ((chars.drop 1).take (chars.length - 2))
    else raw
  match Decimal.ofText? inner with
  | .ok d => .ok d
  | .error e => .error ("error decoding string '" ++ inner ++ "': " ++ e.message)

/-- A decimal field; `null` leaves it as it was. -/
def decimalField {α : Type} (name : String) (store : α → Decimal → α) : FieldSpec α :=
  ⟨name, "decimal.Decimal", fun raw _ =>
    if raw == "null" then .set id
    else match decimalOfMember raw with
      | .ok d => .set (store · d)
      | .error message => .fail message⟩

/-- A time field: a string, its escapes resolved, read as an RFC 3339 time; `null` leaves it
as it was. A string that is no such time stops decoding with the reason it does not read. -/
def timeField {α : Type} (name : String) (store : α → ZonedTime → α) : FieldSpec α :=
  ⟨name, "time.Time", fun _ node =>
    match node with
    | .string text _ =>
      match Instant.parseZoned rfc3339 text with
      | .ok t => .set (store · t)
      | .error e => .fail e.message
    | .null _ => .set id
    | other => .mismatch other.kindName⟩

/-- Decodes the members of an object into a record, starting from `initial`; `first` is the
first problem met so far. -/
def decodeMembers {α : Type} (record : String) (fields : List (FieldSpec α)) (source : List Char) :
    List (String × Node) → α → Option String → Except String α
  | [], value, first =>
    match first with
    | some message => .error message
    | none => .ok value
  | (key, node) :: rest, value, first =>
    match fields.find? (fun f => key == f.name) <|> fields.find? (fun f => keyNames key f.name) with
    | none => decodeMembers record fields source rest value first
    | some field =>
      match field.decode (node.raw source) node with
      | .set update => decodeMembers record fields source rest (update value) first
      | .mismatch found =>
        let first := first <|> some (mismatchMessage found record key field.typeName)
        decodeMembers record fields source rest value first
      | .fail message => decodeMembers record fields source rest value (first <|> some message)

/-- Decodes a value into a record named `record` (its full type name is `typeName`): an object
member by member, `null` as `initial` itself; any other value does not fit. -/
def decodeRecord {α : Type} (record typeName : String) (fields : List (FieldSpec α))
    (source : List Char) (node : Node) (initial : α) : Except String α :=
  match node with
  | .object members _ => decodeMembers record fields source members initial none
  | .null _ => .ok initial
  | other => .error ("json: cannot unmarshal " ++ other.kindName ++ " into Go value of type " ++ typeName)

/-- Decodes a whole text into a record: the text must hold exactly one JSON value. -/
def unmarshal {α : Type} (record typeName : String) (fields : List (FieldSpec α)) (text : String)
    (initial : α) : Except String α :=
  let source := text.toList
  match parse source with
  | .error e => .error e.message
  | .ok node => decodeRecord record typeName fields source node initial

end Json

end Bourse
