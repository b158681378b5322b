import Bourse.Text.Integer
import Bourse.Double.Read
import Bourse.Time.Layout

/-!
# What YAML scalars mean

A plain scalar's meaning comes from its text. Fixed words stand for truth values (`true`,
`False`, …), null (`~`, `null`, the empty text, …), not-a-number and the infinities (`.nan`,
`-.inf`, …). Text that starts with a sign or a digit may be a time stamp
(four digits and `-` first), an integer (underscores ignored; `0x`, `0o`, `0b` and a leading
`0` choose the base; up to 64 bits signed, or unsigned above), or a decimal float. Failing
those, `0b` and `0o` (after an optional `-`) may also be followed by a signed number, so that
`0b-1` is -1. Text that starts with `.` may be a float. Everything else is text.

A tag chosen in the text (`!!int`, `!!str`, …) decides instead; a value that does not fit its
tag cannot be decoded. The short form of a standard tag is `!!` and its name.
-/

namespace Bourse

namespace Yaml

/-- The meaning of a scalar. -/
inductive ScalarValue where
  | null
  | bool (value : Bool)
  /-- An integer of 64 bits: signed, or unsigned above the signed range. -/
  | int (value : Int)
  | float (value : Float)
  | timestamp
  | text (value : String)
  | merge
  deriving Repr, Inhabited

/-- The standard tags, in short form. -/
def strTag : String := "!!str"
/-- The tag of truth values. -/
def boolTag : String := "!!bool"
/-- The tag of integers. -/
def intTag : String := "!!int"
/-- The tag of floats. -/
def floatTag : String := "!!float"
/-- The tag of null. -/
def nullTag : String := "!!null"
/-- The tag of time stamps. -/
def timestampTag : String := "!!timestamp"
/-- The tag of binary data. -/
def binaryTag : String := "!!binary"
/-- The tag of the merge key. -/
def mergeTag : String := "!!merge"
/-- The tag of sequences. -/
def seqTag : String := "!!seq"
/-- The tag of mappings. -/
def mapTag : String := "!!map"

/-- The long form of the standard tags starts with this. -/
def standardTagPrefix : String := "tag:yaml.org,2002:"

/-- The short form of a tag. -/
def shortTag (tag : String) : String :=
  if tag.startsWith standardTagPrefix then
    "!!" ++ String.ofList (tag.toList.drop standardTagPrefix.length)
  else tag

/-- The meanings of the fixed words. -/
def wordValue? (text : String) : Option (String × ScalarValue) :=
  let inf : Float := 1.0 / 0.0
  if ["true", "True", "TRUE"].contains text then some (boolTag, .bool true)
  else if ["false", "False", "FALSE"].contains text then some (boolTag, .bool false)
  else if ["", "~", "null", "Null", "NULL"].contains text then some (nullTag, .null)
  else if [".nan", ".NaN", ".NAN"].contains text then some (floatTag, .float (0.0 / 0.0))
  else if [".inf", ".Inf", ".INF", "+.inf", "+.Inf", "+.INF"].contains text then
    some (floatTag, .float inf)
  else if ["-.inf", "-.Inf", "-.INF"].contains text then some (floatTag, .float (-inf))
  else none

/-- How the first character of a plain scalar hints at its meaning. -/
inductive Hint where
  /-- A sign. -/
  | sign
  /-- A digit. -/
  | digit
  /-- The start of a fixed word. -/
  | word
  /-- A point. -/
  | point
  /-- Nothing but text. -/
  | none
  deriving DecidableEq

/-- The hint of a scalar's first character; the empty text hints at a fixed word. -/
def hintOf (text : String) : Hint :=
  match text.toList with
  | [] => .word
  | c :: _ =>
    if c == '+' || c == '-' then .sign
    else if c.isDigit then .digit
    else if "yYnNtTfFoO~".toList.contains c then .word
    else if c == '.' then .point
    else .none

/-- Whether a text is a float in YAML's decimal form: a sign, digits with an optional point (or
a point and digits) and an optional exponent. -/
def isYamlFloat (text : String) : Bool :=
  let chars := text.toList
  let chars := match chars with
    | '+' :: rest | '-' :: rest => rest
    | other => other
  let digits (cs : List Char) : List Char × List Char := (cs.takeWhile Char.isDigit, cs.dropWhile Char.isDigit)
  let afterMantissa : Option (List Char) :=
    match chars with
    | '.' :: rest =>
      let (ds, after) := digits rest
      if ds.isEmpty then none else some after
    | _ =>
      let (ds, after) := digits chars
      if ds.isEmpty then none
      else match after with
        | '.' :: rest => some (digits rest).2
        | _ => some after
  match afterMantissa with
  | none => false
  | some [] => true
  | some (e :: rest) =>
    if e == 'e' || e == 'E' then
      let rest := match rest with
        | '+' :: r | '-' :: r => r
        | r => r
      let (ds, after) := digits rest
      !ds.isEmpty && after.isEmpty
    else false

/-- A binary or octal integer whose prefix `0b` or `0o` (after an optional `-`) is followed by
a sign: the sign after the prefix is read with the digits, and a `-` before the prefix is
kept, so `0b-1` is -1 while `-0b-1` is no number. -/
def signedAfterPrefix (plain : String) : Option Int :=
  match plain.toList with
  | '0' :: 'b' :: rest => readSignedIn 2 rest
  | '0' :: 'o' :: rest => readSignedIn 8 rest
  | '-' :: '0' :: 'b' :: rest => readSignedIn 2 ('-' :: rest)
  | '-' :: '0' :: 'o' :: rest => readSignedIn 8 ('-' :: rest)
  | _ => none

/-- The layouts a time stamp may have. -/
def timestampLayouts : List String :=
  ["2006-1-2T15:4:5.999999999Z07:00", "2006-1-2t15:4:5.999999999Z07:00",
    "2006-1-2 15:4:5.999999999", "2006-1-2"]

/-- Whether a text is a time stamp: four digits and `-`, then one of the time stamp layouts. -/
def isTimestamp (text : String) : Bool :=
  let chars := text.toList
  let year := chars.takeWhile Char.isDigit
  year.length == 4 && (chars.drop 4).head? == some '-' &&
    timestampLayouts.any fun layout => (Instant.parse layout text).toOption.isSome

/-- The meaning of a plain scalar's text under a tag that leaves room for reading it (empty, or
a standard scalar tag). -/
def readPlain (tag : String) (text : String) : String × ScalarValue :=
  let hint := hintOf text
  if hint == .none || tag == strTag || tag == binaryTag then (strTag, .text text)
  else match wordValue? text with
    | some found => found
    | none =>
      match hint with
      | .point =>
        match readFloat text with
        | .ok f => (floatTag, .float f)
        | .error _ => (strTag, .text text)
      | .sign | .digit =>
        if (tag.isEmpty || tag == timestampTag) && isTimestamp text then (timestampTag, .timestamp)
        else
          let plain := String.ofList (text.toList.filter (· != '_'))
          match readSigned true 64 plain with
          | .ok n => (intTag, .int n)
          | .error _ =>
            match readUnsigned true 64 plain with
            | some n => (intTag, .int n)
            | none =>
              match (if isYamlFloat plain then (readFloat plain).toOption else none) with
              | some f => (floatTag, .float f)
              | none =>
                match signedAfterPrefix plain with
                | some n => (intTag, .int n)
                | none => (strTag, .text text)
      | _ => (strTag, .text text)

/-- The tags under which a scalar is read for its meaning. -/
def isResolvable (tag : String) : Bool :=
  [strTag, boolTag, intTag, floatTag, timestampTag, nullTag].contains tag || tag.isEmpty

/-- The tag and meaning of a scalar's text under a tag (empty for none). A standard tag the
meaning does not fit fails, except that a signed 64-bit integer fits `!!float` as a float; any
other tag keeps the text. -/
def resolve (tag : String) (text : String) : Except String (String × ScalarValue) :=
  let tag := shortTag tag
  if !isResolvable tag then .ok (tag, .text text)
  else
    let (found, value) := readPlain tag text
    if tag.isEmpty || tag == found || tag == strTag || tag == binaryTag then .ok (found, value)
    else if tag == floatTag && found == intTag then
      match value with
      | .int n =>
        if n < Int.pow 2 63 then
          .ok (floatTag, .float (if n < 0 then -Float.ofNat n.natAbs else Float.ofNat n.natAbs))
        else .error ("cannot decode " ++ found ++ " `" ++ text ++ "` as a " ++ tag)
      | _ => .error ("cannot decode " ++ found ++ " `" ++ text ++ "` as a " ++ tag)
    else .error ("cannot decode " ++ found ++ " `" ++ text ++ "` as a " ++ tag)

/-- The tag a plain scalar's text resolves to. -/
def plainTag (text : String) : String :=
  match resolve "" text with
  | .ok (tag, _) => tag
  | .error _ => strTag

end Yaml

end Bourse
