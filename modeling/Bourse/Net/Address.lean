/-!
# Network addresses

A TCP address is `host:port`: the port follows the last colon, and a host that holds colons of
its own (an IPv6 address) is written in brackets. A port is a decimal number from 0 to 65535,
with an optional sign, or the name of a service. An empty port, or port 0, asks for any free
port.

Splitting an address fails when it has no colon, when an unbracketed host has a colon, or when
brackets are unbalanced or misplaced; the failure names the address. A port out of range fails
naming the port as written.

Listening resolves the host: no host means every local address; an IPv4 address in dotted
form, a bracketed IPv6 address and `localhost` resolve to themselves, other names to nothing.
Only loopback and unspecified addresses can be listened on here.
-/

namespace Bourse

namespace Net

/-- Why an address could not be used. -/
inductive AddressError where
  /-- The address, with what is wrong with it. -/
  | malformed (address : String) (problem : String)
  /-- A service name that names no port. -/
  | unknownService (network service : String)
  /-- A host name that names no address. -/
  | unknownHost (host : String)
  /-- A resolved address that is not this machine's. -/
  | notLocal (address : String)
  deriving Repr, DecidableEq

/-- The message of an address error. -/
def AddressError.message : AddressError → String
  | .malformed address problem =>
    if address.isEmpty then problem else "address " ++ address ++ ": " ++ problem
  | .unknownService network service => "lookup " ++ network ++ "/" ++ service ++ ": unknown port"
  | .unknownHost host => "lookup " ++ host ++ ": no such host"
  | .notLocal address => address ++ ": bind: cannot assign requested address"

/-- The position of the last occurrence of a character. -/
def lastIndex? (chars : List Char) (c : Char) : Option Nat :=
  (List.range chars.length).reverse.find? fun i => chars[i]? == some c

/-- Splits an address into host and port. -/
def splitHostPort (address : String) : Except AddressError (String × String) :=
  let chars := address.toList
  let fail (problem : String) : Except AddressError (String × String) :=
    .error (.malformed address problem)
  match lastIndex? chars ':' with
  | none => fail "missing port in address"
  | some last =>
    let port := String.ofList (chars.drop (last + 1))
    let checkBrackets (fromOpen fromClose : Nat) : Except AddressError Unit :=
      if (chars.drop fromOpen).contains '[' then .error (.malformed address "unexpected '[' in address")
      else if (chars.drop fromClose).contains ']' then
        .error (.malformed address "unexpected ']' in address")
      else .ok ()
    if chars.head? == some '[' then
      match chars.findIdx? (· == ']') with
      | none => fail "missing ']' in address"
      | some close =>
        if close + 1 == chars.length then fail "missing port in address"
        else if close + 1 != last then
          if chars[close + 1]? == some ':' then fail "too many colons in address"
          else fail "missing port in address"
        else do
          checkBrackets 1 (close + 1)
          return (String.ofList ((chars.take close).drop 1), port)
    else
      let host := chars.take last
      if host.contains ':' then fail "too many colons in address"
      else do
        checkBrackets 0 0
        return (String.ofList host, port)

/-- The number a port is written as, when it is written as a number: an optional sign and
digits, held at 2 ^ 30 - 1 above and at -2 ^ 30 below, so that every out-of-range port stays
out of range. -/
def portNumber? (port : String) : Option Int :=
  let (negative, digits) := match port.toList with
    | '+' :: rest => (false, rest)
    | '-' :: rest => (true, rest)
    | chars => (false, chars)
  if digits.all Char.isDigit then
    let n := digits.foldl (fun n d => min (n * 10 + (d.toNat - '0'.toNat)) (Nat.pow 2 32)) 0
    let n : Int := if negative then -(min n (Nat.pow 2 30) : Nat) else (min n (Nat.pow 2 30 - 1) : Nat)
    some n
  else none

/-- The port numbers of the service names known without a lookup. -/
def knownServices : List (String × Nat) :=
  [("ftp", 21), ("ftps", 990), ("gopher", 70), ("http", 80), ("https", 443), ("imap2", 143),
   ("imap3", 220), ("imaps", 993), ("pop3", 110), ("pop3s", 995), ("smtp", 25),
   ("submissions", 465), ("ssh", 22), ("telnet", 23)]

/-- The port a port text names. -/
def lookupPort (port : String) : Except AddressError Nat :=
  if port.isEmpty then .ok 0
  else match portNumber? port with
    | some n =>
      if n < 0 || n > 65535 then .error (.malformed port "invalid port") else .ok n.toNat
    | none =>
      match knownServices.lookup port.toLower with
      | some n => .ok n
      | none => .error (.unknownService "tcp" port)

/-- The parts of a dotted IPv4 address. -/
def ipv4Parts? (host : String) : Option (List Nat) :=
  let parts := host.splitOn "."
  if parts.length != 4 then none
  else parts.mapM fun part =>
    let chars := part.toList
    if chars.isEmpty || chars.length > 3 || !chars.all Char.isDigit then none
    else if chars.length > 1 && chars.head? == some '0' then none
    else
      let n := part.toNat!
      if n > 255 then none else some n

/-- An address for listening or dialing: host and port joined, the host in brackets when it
holds a colon. -/
def joinHostPort (host : String) (port : Nat) : String :=
  (if host.contains ':' then "[" ++ host ++ "]" else host) ++ ":" ++ toString port

/-- What a host resolves to for listening: the unspecified address for no host, the loopback
address for `localhost`, an address for itself; other names resolve to nothing. Gives the
address and whether this machine can listen on it. -/
def resolveHost (host : String) : Except AddressError (String × Bool) :=
  if host.isEmpty then .ok ("", true)
  else if host == "localhost" then .ok ("127.0.0.1", true)
  else match ipv4Parts? host with
    | some parts => .ok (host, parts.head? == some 127 || parts.all (· == 0))
    | none =>
      if host.contains ':' then .ok (host, host == "::1" || host == "::")
      else .error (.unknownHost host)

/-- Why listening for connections at an address fails, if it does: the address must split into
host and port, the port must be a port, and the host must resolve to an address of this
machine. -/
def listenError? (address : String) : Option String :=
  match splitHostPort address with
  | .error e => some ("listen tcp: " ++ e.message)
  | .ok (host, port) =>
    match lookupPort port with
    | .error e => some ("listen tcp: " ++ e.message)
    | .ok number =>
      match resolveHost host with
      | .error e => some ("listen tcp: " ++ e.message)
      | .ok (ip, isLocal) =>
        if isLocal then none
        else some ("listen tcp " ++ (AddressError.notLocal (joinHostPort ip number)).message)

end Net

end Bourse
