import Bourse.Text.Quote
import Bourse.Text.Base64
import Bourse.Net.Address

/-!
# URLs

A URL is read as `scheme:` (letters first, then letters, digits, `+`, `-`, `.`), then, after
`//`, an authority up to the next `/` (user information before the last `@`, then the host with
an optional `:port` of digits), then a path, a `?query` and a `#fragment`. A URL with a scheme
whose rest does not start with `/` is opaque. Without a scheme, a first path segment holding a
colon is refused. Control characters are refused anywhere, a host may not hold characters that
must be escaped, and every `%` must start an escape of two hex digits; in a host an escape may
only stand for a byte from 0x80 up, or for `%` itself. Escapes stand for bytes, and the bytes
of an unescaped part are read as UTF-8.

A failure names the URL (without its fragment), quoted: `parse "…": problem`.
-/

namespace Bourse

namespace Net

/-- The parts of a URL. -/
structure Url where
  /-- The scheme, in lower case; empty when there is none. -/
  scheme : String
  /-- The rest of an opaque URL. -/
  opaqueRest : String
  /-- The host with its port, as written. -/
  host : String
  /-- The path, unescaped, as text. -/
  path : String
  /-- The bytes of the unescaped path. -/
  pathBytes : List UInt8
  /-- The query, as written. -/
  query : String
  deriving Repr

/-- Whether a character is a hex digit. -/
def isHexDigit (c : Char) : Bool :=
  c.isDigit || ('a' ≤ c && c ≤ 'f') || ('A' ≤ c && c ≤ 'F')

/-- The value of a hex digit. -/
def hexDigitValue (c : Char) : Nat :=
  if c.isDigit then c.toNat - '0'.toNat
  else if 'a' ≤ c && c ≤ 'f' then c.toNat - 'a'.toNat + 10
  else c.toNat - 'A'.toNat + 10

/-- Whether a host may hold an ASCII character as it is. -/
def hostChar (c : Char) : Bool :=
  c.isAlphanum || "!$&'()*+,;=:[]<>\"-_.~".contains c

/-- Whether a byte is the code of a hex digit. -/
def isHexByte (b : UInt8) : Bool := isHexDigit (Char.ofNat b.toNat)

/-- The value of a hex digit's byte. -/
def hexByteValue (b : UInt8) : Nat := hexDigitValue (Char.ofNat b.toNat)

/-- Undoes the escapes of a text's bytes. In a host, an escape must stand for a byte from 0x80
up or be `%25`, and an ASCII character that must be escaped is refused. -/
def unescapeBytes (inHost : Bool) : List UInt8 → Except String (List UInt8)
  | [] => .ok []
  | 37 :: a :: b :: rest =>
    if isHexByte a && isHexByte b then
      if inHost && hexByteValue a < 8 && !(a == 50 && b == 53) then
        .error ("invalid URL escape " ++ quoteBytes [37, a, b])
      else do
        let tail ← unescapeBytes inHost rest
        return (hexByteValue a * 16 + hexByteValue b).toUInt8 :: tail
    else .error ("invalid URL escape " ++ quoteBytes [37, a, b])
  | 37 :: rest => .error ("invalid URL escape " ++ quoteBytes (37 :: rest))
  | c :: rest =>
    if inHost && c < 0x80 && !hostChar (Char.ofNat c.toNat) then
      .error ("invalid character " ++ quoteBytes [c] ++ " in host name")
    else do
      let tail ← unescapeBytes inHost rest
      return c :: tail

/-- Undoes the escapes of a text, as `unescapeBytes` does, reading the bytes as UTF-8. -/
def unescape (inHost : Bool) (text : List Char) : Except String (List Char) :=
  (unescapeBytes inHost (String.ofList text).toUTF8.toList).map fun bytes => (lossyText bytes).toList

/-- Whether a text is empty or a colon followed by digits. -/
def validOptionalPort (port : String) : Bool :=
  match port.toList with
  | [] => true
  | ':' :: digits => digits.all Char.isDigit
  | _ => false

/-- Checks a host with its port. -/
def checkHost (host : String) : Except String String := do
  let chars := host.toList
  let portPart : Option String :=
    if chars.head? == some '[' then
      (lastIndex? chars ']').map fun i => String.ofList (chars.drop (i + 1))
    else (lastIndex? chars ':').map fun i => String.ofList (chars.drop i)
  if chars.head? == some '[' && (lastIndex? chars ']').isNone then throw "missing ']' in host"
  match portPart with
  | some port =>
    if !validOptionalPort port then throw ("invalid port " ++ quoteText port ++ " after host")
  | none => pure ()
  let plain ← unescape true chars
  return String.ofList plain

/-- Whether user information holds only the characters it may. -/
def validUserinfo (text : String) : Bool :=
  text.toList.all fun c => c.isAlphanum || "-._:~!$&'()*+,;=%@".contains c

/-- The scheme of a URL and the rest, when it has one. -/
def schemeOf (text : List Char) : Except String (String × List Char) :=
  let rec go (seen : List Char) : List Char → Except String (String × List Char)
    | [] => .ok ("", text)
    | c :: rest =>
      if c.isAlpha then go (seen ++ [c]) rest
      else if c.isDigit || c == '+' || c == '-' || c == '.' then
        if seen.isEmpty then .ok ("", text) else go (seen ++ [c]) rest
      else if c == ':' then
        if seen.isEmpty then .error "missing protocol scheme" else .ok (String.ofList seen, rest)
      else .ok ("", text)
  go [] text

/-- Reads a URL. -/
def Url.parse (raw : String) : Except String Url :=
  let withoutFragment := (raw.splitOn "#").head?.getD ""
  let fail (problem : String) : Except String Url :=
    .error ("parse " ++ quoteText withoutFragment ++ ": " ++ problem)
  let chars := withoutFragment.toList
  if chars.any fun c => c.toNat < 0x20 || c.toNat == 0x7f then
    fail "net/url: invalid control character in URL"
  else if withoutFragment == "*" then .ok ⟨"", "", "", "*", "*".toUTF8.toList, ""⟩
  else
    match schemeOf chars with
    | .error e => fail e
    | .ok (scheme, rest) =>
      let scheme := scheme.toLower
      let (rest, query) :=
        if rest.getLast? == some '?' && rest.count '?' == 1 then (rest.dropLast, [])
        else (rest.takeWhile (· != '?'), (rest.dropWhile (· != '?')).drop 1)
      let query := String.ofList query
      if rest.head? != some '/' && !scheme.isEmpty then .ok ⟨scheme, String.ofList rest, "", "", [], query⟩
      else if rest.head? != some '/' && (rest.takeWhile (· != '/')).contains ':' then
        fail "first path segment in URL cannot contain colon"
      else
        let hasAuthority := rest.take 2 == ['/', '/'] &&
          (!scheme.isEmpty || rest.take 3 != ['/', '/', '/'])
        let (authority, path) :=
          if hasAuthority then
            let after := rest.drop 2
            (after.takeWhile (· != '/'), after.dropWhile (· != '/'))
          else ([], rest)
        let host : Except String String :=
          match lastIndex? authority '@' with
          | none => checkHost (String.ofList authority)
          | some mark => do
            let host ← checkHost (String.ofList (authority.drop (mark + 1)))
            if !validUserinfo (String.ofList (authority.take mark)) then
              throw "net/url: invalid userinfo"
            return host
        match host, unescapeBytes false (String.ofList path).toUTF8.toList with
        | .error e, _ => fail e
        | _, .error e => fail e
        | .ok host, .ok path => .ok ⟨scheme, "", host, lossyText path, path, query⟩

/-- The parameters of a query in order, names and values unescaped with `+` standing for a
space: pairs are split at `&`, and an empty pair, a pair holding `;` and a pair with an escape
that does not decode are passed over. -/
def queryPairs (query : String) : List (String × String) :=
  let decode (text : String) : Option String :=
    match unescape false (text.toList.map fun c => if c == '+' then ' ' else c) with
    | .ok plain => some (String.ofList plain)
    | .error _ => none
  ((query.splitOn "&").filter (!·.isEmpty)).filterMap fun pair =>
    if pair.contains ';' then none
    else
      let (key, value) := match pair.splitOn "=" with
        | key :: rest => (key, "=".intercalate rest)
        | [] => ("", "")
      match decode key, decode value with
      | some key, some value => some (key, value)
      | _, _ => none

/-- The names of the query's parameters, in order, each once. -/
def Url.queryNames (url : Url) : List String :=
  (queryPairs url.query).foldl (fun seen (n, _) => if seen.contains n then seen else seen ++ [n]) []

/-- The first value a query gives a parameter. -/
def queryValue? (query : String) (name : String) : Option String :=
  (queryPairs query).lookup name

end Net

end Bourse
