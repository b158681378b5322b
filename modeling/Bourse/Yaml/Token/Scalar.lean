import Bourse.Yaml.Token

/-!
# Scanning scalars, anchors and tags

The tokens that carry text are read here, each from a cursor at its first character.

* A plain scalar runs until `: ` or, inside a flow collection, a flow indicator or `?`; it goes
  on over line breaks while the next line is indented past the enclosing block, and it stops
  before a comment or a document marker. Line breaks fold: one break becomes a space, and each further
  break stays a line feed.
* A quoted scalar runs to its closing quote, folding line breaks the same way. Single quotes
  escape a quote by doubling it; double quotes know backslash escapes, including escaped line
  breaks that join lines without a space.
* A block scalar (`|` literal, `>` folded) takes the lines indented at least as far as its
  first line, or as its indicator says, and keeps or drops the final line breaks as its
  chomping indicator says.

Each reader tells the error it finds with the position where the scalar started.
-/

namespace Bourse

namespace Yaml

/-- A scanner error about a construct that started at `start`, found at `place`. -/
def scanError (start : Mark) (problem : String) (place : Mark) : SyntaxError :=
  ⟨.scanner, problem, some start, place⟩

/-- The reader's refusal of a character YAML does not allow; it names no line. -/
def readerRefusal : SyntaxError := ⟨.reader, "control characters are not allowed", none, ⟨0, 0, 0⟩⟩

/-- Text gathered while scanning a scalar that spans lines. -/
structure Gathered where
  cursor : Cursor
  /-- The value so far. -/
  value : String
  /-- The first line break after the last content. -/
  leadingBreak : String
  /-- The line breaks after the first. -/
  trailingBreaks : String
  /-- Blanks after the last content on its line. -/
  whitespaces : String
  /-- Whether a line break came after the last content. -/
  leadingBlanks : Bool
  deriving Repr, Inhabited

namespace Gathered

/-- Starts gathering at a cursor. -/
def start (cursor : Cursor) : Gathered := ⟨cursor, "", "", "", "", false⟩

/-- Folds the line breaks or blanks since the last content into the value: a single line feed
becomes a space, further breaks stay; blanks on the same line stay. -/
def join (g : Gathered) : Gathered :=
  if g.leadingBlanks then
    let value :=
      if g.leadingBreak.startsWith "\n" then
        if g.trailingBreaks.isEmpty then g.value.push ' ' else g.value ++ g.trailingBreaks
      else g.value ++ g.leadingBreak ++ g.trailingBreaks
    { g with value, leadingBreak := "", trailingBreaks := "", leadingBlanks := false }
  else { g with value := g.value ++ g.whitespaces, whitespaces := "" }

/-- Takes a blank or a line break into the gathered whitespace. -/
def takeSpace (g : Gathered) (ch : Char) : Gathered :=
  if isBlank ch then
    if g.leadingBlanks then { g with cursor := g.cursor.skip }
    else
      let (whitespaces, cursor) := g.cursor.read g.whitespaces
      { g with whitespaces, cursor }
  else if g.leadingBlanks then
    let (trailingBreaks, cursor) := g.cursor.readLine g.trailingBreaks
    { g with trailingBreaks, cursor }
  else
    let (leadingBreak, cursor) := g.cursor.readLine ""
    { g with whitespaces := "", leadingBreak, leadingBlanks := true, cursor }

end Gathered

/-- Whether the cursor is at something that ends a plain scalar's run of characters: `:`
before a blank or the end, or inside a flow collection a flow indicator, `,` or `?`. -/
def endsPlainRun (flow : Bool) (c : Cursor) : Bool :=
  (c.looking ':' && blankOrEndAt (c.ahead 1)) ||
    (flow && (c.looking ',' || c.looking '?' || c.looking '[' || c.looking ']' ||
      c.looking '{' || c.looking '}'))

/-- Reads the characters of a plain scalar up to a blank, a break or an ending indicator;
gives the gathered text and the position after the last character. -/
def plainRun (flow : Bool) : Nat → Gathered → Mark → Gathered × Mark
  | 0, g, stop => (g, stop)
  | fuel + 1, g, stop =>
    if blankOrEndAt g.cursor.peek || endsPlainRun flow g.cursor then (g, stop)
    else
      let g := g.join
      let (value, cursor) := g.cursor.read g.value
      plainRun flow fuel { g with value, cursor } cursor.mark

/-- Reads blanks and breaks inside a plain scalar. A tab that stands in the indentation of a new
line is an error. -/
def plainSpaces (indent : Int) (start : Mark) : Nat → Gathered → Except SyntaxError Gathered
  | 0, g => .ok g
  | fuel + 1, g =>
    match g.cursor.peek with
    | some ch =>
      if isBlank ch && g.leadingBlanks && (g.cursor.mark.column : Int) < indent && ch == '\t' then
        .error (scanError start "found a tab character that violates indentation" g.cursor.mark)
      else if isBlank ch || isBreak ch then plainSpaces indent start fuel (g.takeSpace ch)
      else .ok g
    | none => .ok g

/-- Reads the lines of a plain scalar. -/
def plainLines (flow : Bool) (indent : Int) (start : Mark) :
    Nat → Gathered → Mark → Except SyntaxError (Gathered × Mark)
  | 0, g, stop => .ok (g, stop)
  | fuel + 1, g, stop =>
    if g.cursor.atDocumentMarker || g.cursor.looking '#' then .ok (g, stop)
    else
      let (g, stop) := plainRun flow (g.cursor.rest.length + 1) g stop
      if !(blankAt g.cursor.peek || breakAt g.cursor.peek) then .ok (g, stop)
      else
        match plainSpaces indent start (g.cursor.rest.length + 1) g with
        | .error e => .error e
        | .ok g =>
          if !flow && (g.cursor.mark.column : Int) < indent then .ok (g, stop)
          else plainLines flow indent start fuel g stop

/-- Scans a plain scalar inside a block indented to `blockIndent` (inside a flow collection
when `flow`); also says whether it ended after a line break. -/
def scanPlain (c : Cursor) (flow : Bool) (blockIndent : Int) :
    Except SyntaxError (Token × Cursor × Bool) :=
  match plainLines flow (blockIndent + 1) c.mark (c.rest.length + 1) (Gathered.start c) c.mark with
  | .error e => .error e
  | .ok (g, stop) => .ok (⟨.scalar g.value .plain, c.mark, stop⟩, g.cursor, g.leadingBlanks)

/-- The character a one-letter escape of a double-quoted scalar stands for. -/
def escapeChar? : Char → Option Char
  | '0' => some (Char.ofNat 0)
  | 'a' => some (Char.ofNat 7)
  | 'b' => some (Char.ofNat 8)
  | 't' => some '\t'
  | '\t' => some '\t'
  | 'n' => some '\n'
  | 'v' => some (Char.ofNat 11)
  | 'f' => some (Char.ofNat 12)
  | 'r' => some '\r'
  | 'e' => some (Char.ofNat 27)
  | ' ' => some ' '
  | '"' => some '"'
  | '\'' => some '\''
  | '\\' => some '\\'
  | 'N' => some (Char.ofNat 0x85)
  | '_' => some (Char.ofNat 0xA0)
  | 'L' => some (Char.ofNat 0x2028)
  | 'P' => some (Char.ofNat 0x2029)
  | _ => none

/-- The number of hexadecimal digits after an escape letter that takes a code. -/
def escapeWidth : Char → Nat
  | 'x' => 2
  | 'u' => 4
  | 'U' => 8
  | _ => 0

/-- The value of a hexadecimal digit. -/
def hexDigit? (c : Char) : Option Nat :=
  if '0' ≤ c && c ≤ '9' then some (c.toNat - '0'.toNat)
  else if 'a' ≤ c && c ≤ 'f' then some (c.toNat - 'a'.toNat + 10)
  else if 'A' ≤ c && c ≤ 'F' then some (c.toNat - 'A'.toNat + 10)
  else none

/-- The value of `n` hexadecimal digits at the cursor. -/
def hexValue (c : Cursor) (n : Nat) : Option Nat :=
  ((c.rest.take n).foldlM (fun acc ch => (hexDigit? ch).map (16 * acc + ·)) 0).filter
    fun _ => c.rest.length ≥ n

/-- Reads an escape of a double-quoted scalar at its backslash. -/
def readEscape (start : Mark) (c : Cursor) (value : String) : Except SyntaxError (Cursor × String) :=
  match c.ahead 1 with
  | some letter =>
    match escapeChar? letter with
    | some ch => .ok (c.skipN 2, value.push ch)
    | none =>
      let width := escapeWidth letter
      if width == 0 then .error (scanError start "found unknown escape character" c.mark)
      else
        let c := c.skipN 2
        match hexValue c width with
        | none => .error (scanError start "did not find expected hexdecimal number" c.mark)
        | some code =>
          if (0xD800 ≤ code && code ≤ 0xDFFF) || code > 0x10FFFF then
            .error (scanError start "found invalid Unicode character escape code" c.mark)
          else .ok (c.skipN width, value.push (Char.ofNat code))
  | none => .error (scanError start "found unknown escape character" c.mark)

/-- Reads the characters of a quoted scalar up to a blank, a break, the end or the closing
quote; says whether it stopped at an escaped line break. -/
def quotedRun (single : Bool) (start : Mark) :
    Nat → Cursor → String → Except SyntaxError (Cursor × String × Bool)
  | 0, c, value => .ok (c, value, false)
  | fuel + 1, c, value =>
    match c.peek with
    | none => .ok (c, value, false)
    | some ch =>
      if isBlank ch || isBreak ch then .ok (c, value, false)
      else if single && ch == '\'' && c.ahead 1 == some '\'' then
        quotedRun single start fuel (c.skipN 2) (value.push '\'')
      else if single && ch == '\'' then .ok (c, value, false)
      else if !single && ch == '"' then .ok (c, value, false)
      else if !single && ch == '\\' && breakAt (c.ahead 1) then .ok (c.skip.skipLine, value, true)
      else if !single && ch == '\\' then
        match readEscape start c value with
        | .error e => .error e
        | .ok (c, value) => quotedRun single start fuel c value
      else
        let (value, c) := c.read value
        quotedRun single start fuel c value

/-- Reads blanks and breaks inside a quoted scalar. -/
def quotedSpaces : Nat → Gathered → Gathered
  | 0, g => g
  | fuel + 1, g =>
    match g.cursor.peek with
    | some ch => if isBlank ch || isBreak ch then quotedSpaces fuel (g.takeSpace ch) else g
    | none => g

/-- Reads the pieces of a quoted scalar until its closing quote. -/
def quotedPieces (single : Bool) (start : Mark) : Nat → Gathered → Except SyntaxError Gathered
  | 0, g => .ok g
  | fuel + 1, g =>
    if g.cursor.atDocumentMarker then
      .error (scanError start "found unexpected document indicator" g.cursor.mark)
    else if g.cursor.peek.isNone then
      .error (scanError start "found unexpected end of stream" g.cursor.mark)
    else
      match quotedRun single start (g.cursor.rest.length + 1) g.cursor g.value with
      | .error e => .error e
      | .ok (cursor, value, escapedBreak) =>
        let closing := if single then '\'' else '"'
        if cursor.looking closing then .ok { g with cursor, value }
        else
          let g := quotedSpaces (cursor.rest.length + 1)
            { g with cursor, value, leadingBlanks := escapedBreak, whitespaces := "" }
          quotedPieces single start fuel g.join

/-- Scans a quoted scalar from its opening quote. -/
def scanQuoted (c : Cursor) (single : Bool) : Except SyntaxError (Token × Cursor) :=
  let start := c.mark
  match quotedPieces single start (c.rest.length + 1) (Gathered.start c.skip) with
  | .error e => .error e
  | .ok g =>
    let cursor := g.cursor.skip
    .ok (⟨.scalar g.value (if single then .singleQuoted else .doubleQuoted), start, cursor.mark⟩,
      cursor)

/-- Skips blanks. -/
def skipBlanks : Nat → Cursor → Cursor
  | 0, c => c
  | fuel + 1, c => if blankAt c.peek then skipBlanks fuel c.skip else c

/-- Skips to the next line break or the end. -/
def skipToBreak : Nat → Cursor → Cursor
  | 0, c => c
  | fuel + 1, c => if breakOrEndAt c.peek then c else skipToBreak fuel c.skip

/-- Reads the indentation and empty lines before a line of a block scalar, fixing the
indentation from the deepest of them when it is not yet known (`0`). Gives the indentation,
the line breaks and the position after the last of them. -/
def blockBreaks (blockIndent : Int) (start : Mark) :
    Nat → Nat → Nat → String → Mark → Cursor → Except SyntaxError (Nat × String × Mark × Cursor)
  | 0, indent, _, breaks, stop, c => .ok (indent, breaks, stop, c)
  | fuel + 1, indent, deepest, breaks, stop, c =>
    let rec spaces : Nat → Cursor → Cursor
      | 0, c => c
      | n + 1, c =>
        if (indent == 0 || c.mark.column < indent) && c.looking ' ' then spaces n c.skip else c
    let c := spaces (c.rest.length + 1) c
    let deepest := max deepest c.mark.column
    if (indent == 0 || c.mark.column < indent) && c.looking '\t' then
      .error (scanError start "found a tab character where an indentation space is expected"
        c.mark)
    else if !breakAt c.peek then
      let indent :=
        if indent != 0 then indent
        else (max (max (deepest : Int) (blockIndent + 1)) 1).toNat
      .ok (indent, breaks, stop, c)
    else
      let (breaks, c) := c.readLine breaks
      blockBreaks blockIndent start fuel indent deepest breaks c.mark c

/-- The state of a block scalar's content. -/
structure BlockText where
  /-- The value so far. -/
  value : String
  /-- The line break after the last line. -/
  leadingBreak : String
  /-- The empty lines after it. -/
  trailingBreaks : String
  /-- Whether the last line started with a blank. -/
  leadingBlank : Bool
  /-- Where the scalar ends so far. -/
  stop : Mark
  deriving Repr, Inhabited

/-- Reads the lines of a block scalar indented to `indent`. -/
def blockLines (literal : Bool) (blockIndent : Int) (start : Mark) (indent : Nat) :
    Nat → BlockText → Cursor → Except SyntaxError (BlockText × Cursor)
  | 0, t, c => .ok (t, c)
  | fuel + 1, t, c =>
    if c.mark.column != indent || c.peek.isNone then .ok (t, c)
    else
      let trailingBlank := blankAt c.peek
      let value :=
        if !literal && !t.leadingBlank && !trailingBlank && t.leadingBreak.startsWith "\n" then
          if t.trailingBreaks.isEmpty then t.value.push ' ' else t.value
        else t.value ++ t.leadingBreak
      let value := value ++ t.trailingBreaks
      let leadingBlank := blankAt c.peek
      let line := c.rest.takeWhile fun ch => !isBreak ch
      let c := c.skipN line.length
      let value := value ++ String.ofList line
      let (leadingBreak, c) := c.readLine ""
      match blockBreaks blockIndent start (c.rest.length + 1) indent 0 "" c.mark c with
      | .error e => .error e
      | .ok (_, trailingBreaks, stop, c) =>
        blockLines literal blockIndent start indent fuel
          ⟨value, leadingBreak, trailingBreaks, leadingBlank, stop⟩ c

/-- Reads the indicators of a block scalar: chomping (`+` keeps final breaks, `-` drops them)
and an explicit indentation from 1 to 9, in either order. -/
def blockIndicators (start : Mark) (c : Cursor) : Except SyntaxError (Int × Nat × Cursor) :=
  let chompOf (ch : Char) : Int := if ch == '+' then 1 else -1
  let isChomp (c : Cursor) : Bool := c.looking '+' || c.looking '-'
  let digit (c : Cursor) : Option Nat := c.peek.bind fun ch =>
    if ch.isDigit then some (ch.toNat - '0'.toNat) else none
  if isChomp c then
    let chomping := chompOf (c.peek.getD '-')
    let c := c.skip
    match digit c with
    | some 0 => .error (scanError start "found an indentation indicator equal to 0" c.mark)
    | some d => .ok (chomping, d, c.skip)
    | none => .ok (chomping, 0, c)
  else
    match digit c with
    | some 0 => .error (scanError start "found an indentation indicator equal to 0" c.mark)
    | some d =>
      let c := c.skip
      if isChomp c then .ok (chompOf (c.peek.getD '-'), d, c.skip) else .ok (0, d, c)
    | none => .ok (0, 0, c)

/-- Scans a block scalar from its indicator, inside a block indented to `blockIndent`. -/
def scanBlock (c : Cursor) (literal : Bool) (blockIndent : Int) :
    Except SyntaxError (Token × Cursor) :=
  let start := c.mark
  match blockIndicators start c.skip with
  | .error e => .error e
  | .ok (chomping, increment, c) =>
    let c := skipBlanks (c.rest.length + 1) c
    let c := if c.looking '#' then skipToBreak (c.rest.length + 1) c else c
    if !breakOrEndAt c.peek then
      .error (scanError start "did not find expected comment or line break" c.mark)
    else
      let c := c.skipLine
      let indent : Nat :=
        if increment == 0 then 0
        else if 0 ≤ blockIndent then (blockIndent + increment).toNat else increment
      match blockBreaks blockIndent start (c.rest.length + 1) indent 0 "" c.mark c with
      | .error e => .error e
      | .ok (indent, breaks, stop, c) =>
        match blockLines literal blockIndent start indent (c.rest.length + 1)
            ⟨"", "", breaks, false, stop⟩ c with
        | .error e => .error e
        | .ok (t, c) =>
          let value := if chomping != -1 then t.value ++ t.leadingBreak else t.value
          let value := if chomping == 1 then value ++ t.trailingBreaks else value
          .ok (⟨.scalar value (if literal then .literal else .folded), start, t.stop⟩, c)

/-- Reads a name of word characters. -/
def readWord (c : Cursor) : String × Cursor :=
  let word := c.rest.takeWhile isWordChar
  (String.ofList word, c.skipN word.length)

/-- Scans an anchor (`&name`) or an alias (`*name`) from its indicator. The name must be
followed by a blank, a break, the end or one of `?:,]}%@` and a backquote. -/
def scanAnchor (c : Cursor) (isAlias : Bool) : Except SyntaxError (Token × Cursor) :=
  let start := c.mark
  let (name, c) := readWord c.skip
  let fits := match c.peek with
    | some ch => isBlank ch || isBreak ch || "?:,]\x7d%@`".toList.contains ch
    | none => true
  if name.isEmpty || !fits then
    .error (scanError start "did not find expected alphabetic or numeric character" c.mark)
  else .ok (⟨if isAlias then .alias name else .anchor name, start, c.mark⟩, c)

/-- Whether a character may stand in a tag's URI; the flow indicators `,[]` only in a verbatim
tag or a directive. -/
def isUriChar (withFlow : Bool) (ch : Char) : Bool :=
  isWordChar ch || ";/?:@&=+$.%!~*'()".toList.contains ch ||
    (withFlow && (ch == ',' || ch == '[' || ch == ']'))

/-- The number of bytes of a UTF-8 sequence that starts with this byte; zero for a byte that
cannot start one. -/
def utf8Width (b : Nat) : Nat :=
  if b < 0x80 then 1 else if b < 0xC0 then 0 else if b < 0xE0 then 2
  else if b < 0xF0 then 3 else if b < 0xF8 then 4 else 0

/-- Reads one character written as `%XX` escapes of its UTF-8 bytes. -/
def uriEscape (start : Mark) (c : Cursor) : Except SyntaxError (Char × Cursor) :=
  let octet (c : Cursor) : Option Nat :=
    if c.looking '%' then (hexValue c.skip 2) else none
  match octet c with
  | none => .error (scanError start "did not find URI escaped octet" c.mark)
  | some first =>
    let width := utf8Width first
    if width == 0 then .error (scanError start "found an incorrect leading UTF-8 octet" c.mark)
    else
      let rec rest : Nat → Cursor → List UInt8 → Except SyntaxError (List UInt8 × Cursor)
        | 0, c, acc => .ok (acc, c)
        | n + 1, c, acc =>
          match octet c with
          | none => .error (scanError start "did not find URI escaped octet" c.mark)
          | some b =>
            if b / 64 != 2 then
              .error (scanError start "found an incorrect trailing UTF-8 octet" c.mark)
            else rest n (c.skipN 3) (acc ++ [b.toUInt8])
      match rest (width - 1) (c.skipN 3) [first.toUInt8] with
      | .error e => .error e
      | .ok (bytes, c) =>
        let text := (String.fromUTF8? (ByteArray.mk bytes.toArray)).getD "�"
        .ok (text.toList.headD (Char.ofNat 0xFFFD), c)

/-- Reads the characters of a tag's URI onto `acc`; `found` says whether the URI already has
characters. It must not stay empty. -/
def scanTagUri (withFlow : Bool) (start : Mark) :
    Nat → Cursor → String → Bool → Except SyntaxError (String × Cursor)
  | 0, c, acc, found =>
    if found then .ok (acc, c) else .error (scanError start "did not find expected tag URI" c.mark)
  | fuel + 1, c, acc, found =>
    match c.peek with
    | some ch =>
      if isUriChar withFlow ch then
        if ch == '%' then
          match uriEscape start c with
          | .error e => .error e
          | .ok (decoded, c) => scanTagUri withFlow start fuel c (acc.push decoded) true
        else scanTagUri withFlow start fuel c.skip (acc.push ch) true
      else if found then .ok (acc, c)
      else .error (scanError start "did not find expected tag URI" c.mark)
    | none =>
      if found then .ok (acc, c) else .error (scanError start "did not find expected tag URI" c.mark)

/-- Reads a tag handle: `!`, word characters, and a closing `!` if there is one. In a directive
the handle must be `!` or end with `!`. -/
def scanTagHandle (directive : Bool) (start : Mark) (c : Cursor) :
    Except SyntaxError (String × Cursor) :=
  if !c.looking '!' then .error (scanError start "did not find expected '!'" c.mark)
  else
    let (word, c) := readWord c.skip
    let handle := "!" ++ word
    if c.looking '!' then .ok (handle ++ "!", c.skip)
    else if directive && handle != "!" then .error (scanError start "did not find expected '!'" c.mark)
    else .ok (handle, c)

/-- Scans a tag from its `!`: verbatim `!<uri>`, `!handle!suffix`, `!suffix` or `!` alone. It
must be followed by a blank, a break, the end or, inside a flow collection, `,`. -/
def scanTag (c : Cursor) (flow : Bool) : Except SyntaxError (Token × Cursor) :=
  let start := c.mark
  let parts : Except SyntaxError (String × String × Cursor) :=
    if c.ahead 1 == some '<' then
      match scanTagUri true start (c.rest.length + 1) (c.skipN 2) "" false with
      | .error e => .error e
      | .ok (suffix, c) =>
        if c.looking '>' then .ok ("", suffix, c.skip)
        else .error (scanError start "did not find the expected '>'" c.mark)
    else
      match scanTagHandle false start c with
      | .error e => .error e
      | .ok (handle, c) =>
        if handle.length > 1 && handle.endsWith "!" then
          match scanTagUri false start (c.rest.length + 1) c "" false with
          | .error e => .error e
          | .ok (suffix, c) => .ok (handle, suffix, c)
        else
          match scanTagUri false start (c.rest.length + 1) c
              (String.ofList (handle.toList.drop 1)) (handle.length > 0) with
          | .error e => .error e
          | .ok (suffix, c) => if suffix.isEmpty then .ok ("", "!", c) else .ok ("!", suffix, c)
  match parts with
  | .error e => .error e
  | .ok (handle, suffix, c) =>
    if !blankOrEndAt c.peek && !(flow && c.looking ',') then
      .error (scanError start "did not find expected whitespace or line break" c.mark)
    else .ok (⟨.tag handle suffix, start, c.mark⟩, c)

/-- Reads the digits of a version number, at most two. -/
def versionNumber (start : Mark) (c : Cursor) : Except SyntaxError (Nat × Cursor) :=
  let digits := c.rest.takeWhile Char.isDigit
  if digits.length > 2 then
    .error (scanError start "found extremely long version number" (c.skipN 2).mark)
  else if digits.isEmpty then
    .error (scanError start "did not find expected version number" c.mark)
  else .ok ((String.ofList digits).toNat!, c.skipN digits.length)

/-- Scans a directive from its `%`: `%YAML major.minor` or `%TAG handle prefix`, then blanks,
an optional comment and the line break. -/
def scanDirective (c : Cursor) : Except SyntaxError (Token × Cursor) :=
  let start := c.mark
  let (name, c) := readWord c.skip
  let body : Except SyntaxError (TokenKind × Cursor) :=
    if name.isEmpty then .error (scanError start "could not find expected directive name" c.mark)
    else if !blankOrEndAt c.peek then
      .error (scanError start "found unexpected non-alphabetical character" c.mark)
    else if name == "YAML" then
      let c := skipBlanks (c.rest.length + 1) c
      match versionNumber start c with
      | .error e => .error e
      | .ok (major, c) =>
        if !c.looking '.' then
          .error (scanError start "did not find expected digit or '.' character" c.mark)
        else
          match versionNumber start c.skip with
          | .error e => .error e
          | .ok (minor, c) => .ok (.versionDirective major minor, c)
    else if name == "TAG" then
      let c := skipBlanks (c.rest.length + 1) c
      match scanTagHandle true start c with
      | .error e => .error e
      | .ok (handle, c) =>
        if !blankAt c.peek then .error (scanError start "did not find expected whitespace" c.mark)
        else
          let c := skipBlanks (c.rest.length + 1) c
          match scanTagUri true start (c.rest.length + 1) c "" false with
          | .error e => .error e
          | .ok (expansion, c) =>
            if !blankOrEndAt c.peek then
              .error (scanError start "did not find expected whitespace or line break" c.mark)
            else .ok (.tagDirective handle expansion, c)
    else .error (scanError start "found unknown directive name" c.mark)
  match body with
  | .error e => .error e
  | .ok (kind, c) =>
    let stop := c.mark
    let c := skipBlanks (c.rest.length + 1) c
    let c := if c.looking '#' then skipToBreak (c.rest.length + 1) c else c
    if !breakOrEndAt c.peek then
      .error (scanError start "did not find expected comment or line break" c.mark)
    else .ok (⟨kind, start, stop⟩, c.skipLine)

end Yaml

end Bourse
