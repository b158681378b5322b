import Bourse.Json.Value
import Bourse.Text.Quote
import Bourse.Text.Base64

/-!
# Reading JSON text

JSON text is read into a `Json.Node`: the value of each part together with the span of text it
came from, so that a reader that wants a part's own spelling (a number or a string exactly as
written) can have it. White space is the space, the tab, the line feed and the carriage return.
Containers may nest at most `maxDepth` deep.

A text that is not JSON is refused with the first character that cannot continue it and what
was expected there, or with the fact that the text ended too early. A string's escape that is
not one of JSON's is refused as a whole: a backslash and its letter, or `\u` and the next four
bytes (fewer when the text ends first and they cannot begin a `\u` escape). Two readers share the
grammar and differ at the ends:

* `decodeFirst` reads the first value of a stream; whatever follows it is left for the next
  read. Text with nothing but white space is an empty stream.
* `parse` reads a whole text, which must hold exactly one value.

Strings keep their escapes' meaning: `\uXXXX` names a UTF-16 unit, and a high surrogate
followed by an escaped low surrogate names one character; a surrogate without its partner
stands for the replacement character `U+FFFD`.
-/

namespace Bourse

namespace Json

/-- A stretch of text: the position of its first character and the position after its last. -/
structure Span where
  /-- Where it starts. -/
  start : Nat
  /-- Where it stops. -/
  stop : Nat
  deriving Repr, Inhabited, DecidableEq

/-- A JSON value as read, each part with its span. -/
inductive Node where
  | null (span : Span)
  | bool (value : Bool) (span : Span)
  /-- A number, as written. -/
  | number (literal : String) (span : Span)
  /-- A string, its escapes resolved. -/
  | string (value : String) (span : Span)
  | array (items : List Node) (span : Span)
  /-- An object, its members in the order written, repeated keys included. -/
  | object (members : List (String × Node)) (span : Span)
  deriving Repr, Inhabited

namespace Node

/-- The span of text the node came from. -/
def span : Node → Span
  | .null s | .bool _ s | .number _ s | .string _ s | .array _ s | .object _ s => s

/-- The node's text as written in `source`. -/
def raw (node : Node) (source : List Char) : String :=
  String.ofList ((source.drop node.span.start).take (node.span.stop - node.span.start))

mutual

/-- The value the node stands for. -/
def value : Node → Value
  | .null _ => .null
  | .bool b _ => .bool b
  | .number literal _ => .number literal
  | .string s _ => .string s
  | .array items _ => .array (itemValues items)
  | .object members _ => .object (memberValues members)

/-- The values of array items. -/
def itemValues : List Node → List Value
  | [] => []
  | item :: rest => value item :: itemValues rest

/-- The values of object members. -/
def memberValues : List (String × Node) → List (String × Value)
  | [] => []
  | (key, item) :: rest => (key, value item) :: memberValues rest

end

end Node

/-- Why a text is not JSON. -/
inductive SyntaxError where
  /-- There is nothing but white space. -/
  | empty
  /-- The text ends inside a value. -/
  | truncated
  /-- The character cannot stand here; `context` says what was being read. -/
  | invalid (c : Char) (context : String)
  /-- A string holds an escape that is not one of JSON's, with these bytes. -/
  | badEscape (bytes : List UInt8)
  /-- Containers nest deeper than `maxDepth`. -/
  | tooDeep
  deriving Repr, DecidableEq

namespace SyntaxError

/-- How an invalid character is reported: the character, quoted, and what was being read. -/
def invalidText (c : Char) (context : String) : String :=
  "invalid character '" ++ escapeChar '\'' c ++ "' " ++ context

/-- How a bad escape is reported: in backquotes as it is, unless it holds a backquote, a space,
a character that is not printable or bytes that are not UTF-8, when it is quoted instead. -/
def badEscapeText (bytes : List UInt8) : String :=
  let text := lossyText bytes
  let plain := text.toList.all fun c =>
    c != '`' && c != ' ' && c != Char.ofNat 0xfffd && isPrintable c
  "invalid escape sequence " ++ (if plain then "`" ++ text ++ "`" else quoteBytes bytes) ++
    " in string"

/-- The message of a stream reader: an empty stream is at its end, a value cut short ended
unexpectedly. -/
def streamMessage : SyntaxError → String
  | .empty => "EOF"
  | .truncated => "unexpected EOF"
  | .invalid c context => invalidText c context
  | .badEscape bytes => badEscapeText bytes
  | .tooDeep => "exceeded max depth"

/-- The message of a whole-text reader. -/
def message : SyntaxError → String
  | .empty | .truncated => "unexpected end of JSON input"
  | .invalid c context => invalidText c context
  | .badEscape bytes => badEscapeText bytes
  | .tooDeep => "exceeded max depth"

end SyntaxError

/-- How deep containers may nest. -/
def maxDepth : Nat := 10000

/-- Whether a character is JSON white space. -/
def isSpace (c : Char) : Bool := c == ' ' || c == '\t' || c == '\n' || c == '\r'

/-- Whether a character is a decimal digit. -/
def isDigit (c : Char) : Bool := '0' ≤ c && c ≤ '9'

/-- Skips white space; gives the text after it and its position. -/
def skipSpace : List Char → Nat → List Char × Nat
  | c :: rest, pos => if isSpace c then skipSpace rest (pos + 1) else (c :: rest, pos)
  | [], pos => ([], pos)

/-- Splits off the leading decimal digits. -/
def spanDigits : List Char → List Char × List Char
  | c :: rest =>
    if isDigit c then
      let (digits, after) := spanDigits rest
      (c :: digits, after)
    else ([], c :: rest)
  | [] => ([], [])

/-- Reads one or more digits, as a part of a number requires. -/
def someDigits (text : List Char) : Except SyntaxError (List Char × List Char) :=
  match text with
  | [] => .error .truncated
  | c :: _ => if isDigit c then .ok (spanDigits text) else .error (.invalid c "in numeric literal")

/-- Reads a number: an optional minus, an integer part without leading zeros, an optional
fraction and an optional exponent. Gives its spelling and the text after it. -/
def readNumber (text : List Char) : Except SyntaxError (List Char × List Char) := do
  let (sign, text) := match text with
    | '-' :: rest => (['-'], rest)
    | _ => ([], text)
  let (whole, text) ← match text with
    | '0' :: rest => pure (['0'], rest)
    | _ => someDigits text
  let (fraction, text) ← match text with
    | '.' :: rest => do
      let (digits, after) ← someDigits rest
      pure ('.' :: digits, after)
    | _ => pure ([], text)
  let (exponent, text) ← match text with
    | e :: rest =>
      if e == 'e' || e == 'E' then do
        let (sign, rest) := match rest with
          | '+' :: r => (['+'], r)
          | '-' :: r => (['-'], r)
          | _ => ([], rest)
        let (digits, after) ← someDigits rest
        pure (e :: sign ++ digits, after)
      else pure ([], text)
    | [] => pure ([], [])
  return (sign ++ whole ++ fraction ++ exponent, text)

/-- The value of a hexadecimal digit. -/
def hexValue? (c : Char) : Option Nat :=
  if isDigit c then some (c.toNat - '0'.toNat)
  else if 'a' ≤ c && c ≤ 'f' then some (c.toNat - 'a'.toNat + 10)
  else if 'A' ≤ c && c ≤ 'F' then some (c.toNat - 'A'.toNat + 10)
  else none

/-- The character a short escape stands for. -/
def escapeValue? (c : Char) : Option Char :=
  match c with
  | '"' => some '"'
  | '\\' => some '\\'
  | '/' => some '/'
  | 'b' => some (Char.ofNat 8)
  | 'f' => some (Char.ofNat 12)
  | 'n' => some '\n'
  | 'r' => some '\r'
  | 't' => some '\t'
  | _ => none

/-- The replacement character. -/
def replacement : Char := Char.ofNat 0xfffd

/-- The UTF-16 unit four hexadecimal digits spell, if they are all hexadecimal digits. -/
def hexUnit? (a b c d : Char) : Option Nat :=
  [a, b, c, d].foldlM (fun acc x => (hexValue? x).map (acc * 16 + ·)) 0

/-- The bytes of the text from a backslash on, as many as a bad escape shows. -/
def escapeBytes (text : List Char) (count : Nat) : List UInt8 :=
  ((String.ofList text).toUTF8.toList).take count

/-- The failure for a `\u` escape (with `text` the text from its backslash) whose next four
characters are not all hexadecimal digits: the text ends inside a well-begun escape, or the
escape is bad. -/
def unicodeEscapeFailure (text : List Char) : SyntaxError :=
  let bytes := escapeBytes text 6
  if bytes.length < 6 && ((String.ofList (text.drop 2)).toList.all fun c => (hexValue? c).isSome) then
    .truncated
  else .badEscape bytes

/-- The character a UTF-16 unit stands for on its own: a surrogate alone stands for the
replacement character. -/
def unitChar (unit : Nat) : Char :=
  if 0xd800 ≤ unit && unit < 0xe000 then replacement else Char.ofNat unit

/-- The character a surrogate pair spells, when `high` and `low` make one. -/
def pairChar? (high low : Nat) : Option Char :=
  if 0xd800 ≤ high && high < 0xdc00 && 0xdc00 ≤ low && low < 0xe000 then
    some (Char.ofNat (0x10000 + (high - 0xd800) * 0x400 + (low - 0xdc00)))
  else none

/-- Reads the rest of a string after its opening quote: gives its characters (gathered reversed
in `acc`), the text after the closing quote and how many characters were read (`count` so
far). -/
def readString : List Char → List Char → Nat → Except SyntaxError (String × List Char × Nat)
  | [], _, _ => .error .truncated
  | '"' :: rest, acc, count => .ok (String.ofList acc.reverse, rest, count + 1)
  | '\\' :: 'u' :: a :: b :: c :: d :: '\\' :: 'u' :: e :: f :: g :: h :: after, acc, count =>
    match hexUnit? a b c d with
    | none => .error (unicodeEscapeFailure ['\\', 'u', a, b, c, d])
    | some unit =>
      match (hexUnit? e f g h).bind (pairChar? unit) with
      | some pair => readString after (pair :: acc) (count + 12)
      | none => readString ('\\' :: 'u' :: e :: f :: g :: h :: after) (unitChar unit :: acc) (count + 6)
  | '\\' :: 'u' :: a :: b :: c :: d :: after, acc, count =>
    match hexUnit? a b c d with
    | none => .error (unicodeEscapeFailure ('\\' :: 'u' :: a :: b :: c :: d :: after))
    | some unit => readString after (unitChar unit :: acc) (count + 6)
  | '\\' :: 'u' :: digits, _, _ => .error (unicodeEscapeFailure ('\\' :: 'u' :: digits))
  | '\\' :: e :: after, acc, count =>
    match escapeValue? e with
    | some c => readString after (c :: acc) (count + 2)
    | none => .error (.badEscape (escapeBytes ['\\', e] 2))
  | '\\' :: [], _, _ => .error .truncated
  | c :: rest, acc, count =>
    if c.toNat < 32 then .error (.invalid c "in string")
    else readString rest (c :: acc) (count + 1)
termination_by text _ _ => text.length
decreasing_by all_goals (simp only [List.length_cons]; omega)

/-- Reads a literal after its first letter: the rest of its letters must follow. -/
def readLiteral (word : String) (letters : List Char) (text : List Char) :
    Except SyntaxError (List Char) :=
  match letters, text with
  | [], rest => .ok rest
  | l :: ls, c :: rest =>
    if c == l then readLiteral word ls rest
    else .error (.invalid c ("in literal " ++ word ++ " (expecting '" ++ escapeChar '\'' l ++ "')"))
  | _ :: _, [] => .error .truncated

/-- Reads one value after white space, `depth` containers deep, at position `pos`; gives the
node, the text after it and its position. `fuel` bounds the work: twice the length of the text
and two more is enough. -/
def readValue : Nat → Nat → List Char → Nat → Except SyntaxError (Node × List Char × Nat)
  | 0, _, _, _ => .error .truncated
  | fuel + 1, depth, text, pos =>
    let (text, pos) := skipSpace text pos
    match text with
    | [] => .error .truncated
    | '{' :: rest =>
      if depth + 1 > maxDepth then .error .tooDeep
      else
        let (rest, inner) := skipSpace rest (pos + 1)
        match rest with
        | [] => .error .truncated
        | '}' :: after => .ok (.object [] ⟨pos, inner + 1⟩, after, inner + 1)
        | '"' :: after => readMembers fuel (depth + 1) pos after (inner + 1) []
        | c :: _ => .error (.invalid c "looking for beginning of object key string")
    | '[' :: rest =>
      if depth + 1 > maxDepth then .error .tooDeep
      else
        let (rest, inner) := skipSpace rest (pos + 1)
        match rest with
        | [] => .error .truncated
        | ']' :: after => .ok (.array [] ⟨pos, inner + 1⟩, after, inner + 1)
        | _ => readItems fuel (depth + 1) pos rest inner []
    | '"' :: rest =>
      match readString rest [] 1 with
      | .ok (value, after, count) => .ok (.string value ⟨pos, pos + count⟩, after, pos + count)
      | .error e => .error e
    | 't' :: rest => literal "true" ['r', 'u', 'e'] (.bool true) rest pos
    | 'f' :: rest => literal "false" ['a', 'l', 's', 'e'] (.bool false) rest pos
    | 'n' :: rest => literal "null" ['u', 'l', 'l'] .null rest pos
    | c :: rest =>
      if c == '-' || isDigit c then
        match readNumber (c :: rest) with
        | .ok (spelling, after) =>
          let stop := pos + spelling.length
          .ok (.number (String.ofList spelling) ⟨pos, stop⟩, after, stop)
        | .error e => .error e
      else .error (.invalid c "looking for beginning of value")
where
  /-- A literal whose first letter was read at `pos`. -/
  literal (word : String) (letters : List Char) (make : Span → Node) (rest : List Char)
      (pos : Nat) : Except SyntaxError (Node × List Char × Nat) :=
    match readLiteral word letters rest with
    | .ok after =>
      let stop := pos + 1 + letters.length
      .ok (make ⟨pos, stop⟩, after, stop)
    | .error e => .error e
  /-- Reads the members of an object opened at `start`, from the first character of a key. -/
  readMembers : Nat → Nat → Nat → List Char → Nat → List (String × Node) →
      Except SyntaxError (Node × List Char × Nat)
    | 0, _, _, _, _, _ => .error .truncated
    | fuel + 1, depth, start, text, pos, acc =>
      match readString text [] 0 with
      | .error e => .error e
      | .ok (key, after, count) =>
        let (after, pos) := skipSpace after (pos + count)
        match after with
        | [] => .error .truncated
        | ':' :: rest =>
          match readValue fuel depth rest (pos + 1) with
          | .error e => .error e
          | .ok (item, rest, pos) =>
            let acc := acc ++ [(key, item)]
            let (rest, pos) := skipSpace rest pos
            match rest with
            | [] => .error .truncated
            | ',' :: more =>
              let (more, pos) := skipSpace more (pos + 1)
              match more with
              | [] => .error .truncated
              | '"' :: key => readMembers fuel depth start key (pos + 1) acc
              | c :: _ => .error (.invalid c "looking for beginning of object key string")
            | '}' :: more => .ok (.object acc ⟨start, pos + 1⟩, more, pos + 1)
            | c :: _ => .error (.invalid c "after object key:value pair")
        | c :: _ => .error (.invalid c "after object key")
  /-- Reads the items of an array opened at `start`, from the first item. -/
  readItems : Nat → Nat → Nat → List Char → Nat → List Node →
      Except SyntaxError (Node × List Char × Nat)
    | 0, _, _, _, _, _ => .error .truncated
    | fuel + 1, depth, start, text, pos, acc =>
      match readValue fuel depth text pos with
      | .error e => .error e
      | .ok (item, rest, pos) =>
        let acc := acc ++ [item]
        let (rest, pos) := skipSpace rest pos
        match rest with
        | [] => .error .truncated
        | ',' :: more => readItems fuel depth start more (pos + 1) acc
        | ']' :: more => .ok (.array acc ⟨start, pos + 1⟩, more, pos + 1)
        | c :: _ => .error (.invalid c "after array element")

/-- Whether a node is an object or an array. -/
def Node.isContainer : Node → Bool
  | .array .. | .object .. => true
  | _ => false

/-- The error for text after a complete value, if it holds more than white space. -/
def trailing (rest : List Char) : Option SyntaxError :=
  match (skipSpace rest 0).1 with
  | [] => none
  | c :: _ => some (.invalid c "after top-level value")

/-- Reads the first value of a stream; gives it with the text after it, which is left as it is. -/
def decodeFirst (text : List Char) : Except SyntaxError (Node × List Char) :=
  let (start, pos) := skipSpace text 0
  if start.isEmpty then .error .empty
  else
    match readValue (2 * text.length + 2) 0 start pos with
    | .error e => .error e
    | .ok (node, rest, _) => .ok (node, rest)

/-- Reads a whole text holding exactly one value. -/
def parse (text : List Char) : Except SyntaxError Node :=
  let (start, pos) := skipSpace text 0
  if start.isEmpty then .error .empty
  else
    match readValue (2 * text.length + 2) 0 start pos with
    | .error e => .error e
    | .ok (node, rest, _) =>
      match trailing rest with
      | some e => .error e
      | none => .ok node

/-- Why a whole text is not exactly one JSON value, as `parse` reports it; empty when it is
one. -/
def refusal (text : String) : String :=
  match parse text.toList with
  | .error e => e.message
  | .ok _ => ""

end Json

end Bourse
