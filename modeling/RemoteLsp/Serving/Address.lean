/-!
# Listening addresses

A listening address is written `host:port`, with an IPv6 host in brackets. The port is a
decimal number from 0 to 65535, which may carry a sign, or the name of a well-known service;
an empty port is port 0. An empty host listens on every interface; otherwise the host is an
IP address or a name that resolves, of which only `localhost` is known here.

`resolve` checks an address in the order a resolver does: its shape first, then the port,
then the host.
-/

namespace RemoteLsp.Serving

/-- Why an address cannot be listened on. -/
inductive AddressError where
  /-- The address is not of the form `host:port`; the reason is given. -/
  | malformed (address why : String)
  /-- The port is a number out of range. -/
  | badPort (port : String)
  /-- The port is a name that is not a known service. -/
  | unknownService (port : String)
  /-- The host is a name that does not resolve. -/
  | unknownHost (host : String)
  deriving Repr, DecidableEq

/-- The text of an address error. -/
def AddressError.message : AddressError → String
  | .malformed a why => "address " ++ a ++ ": " ++ why
  | .badPort p => "address " ++ p ++ ": invalid port"
  | .unknownService p => "lookup tcp/" ++ p ++ ": unknown port"
  | .unknownHost h => "lookup " ++ h ++ ": no such host"

/-- The position of the last occurrence of a character. -/
def lastIndexOf? (cs : List Char) (c : Char) : Option Nat :=
  (cs.reverse.idxOf? c).map (cs.length - 1 - ·)

/-- Splits an address at its last colon into host and port, taking the brackets off an IPv6
host. -/
def splitHostPort (a : String) : Except AddressError (String × String) :=
  let cs := a.toList
  let bad (why : String) : Except AddressError (String × String) := .error (.malformed a why)
  match lastIndexOf? cs ':' with
  | none => bad "missing port in address"
  | some i =>
    let finish (host : List Char) (j k : Nat) : Except AddressError (String × String) :=
      if (cs.drop j).contains '[' then bad "unexpected '[' in address"
      else if (cs.drop k).contains ']' then bad "unexpected ']' in address"
      else .ok (String.ofList host, String.ofList (cs.drop (i + 1)))
    if cs.head? = some '[' then
      match cs.idxOf? ']' with
      | none => bad "missing ']' in address"
      | some e =>
        if e + 1 = cs.length then bad "missing port in address"
        else if e + 1 = i then finish ((cs.take e).drop 1) 1 (e + 1)
        else if cs[e + 1]? = some ':' then bad "too many colons in address"
        else bad "missing port in address"
    else
      let host := cs.take i
      if host.contains ':' then bad "too many colons in address"
      else finish host 0 0

/-- A port written as a number, with an optional sign; `none` when it is a name. The empty
port and a lone sign are port 0. -/
def portNumber? (p : String) : Option Int :=
  let (negative, digits) := match p.toList with
    | '+' :: r => (false, r)
    | '-' :: r => (true, r)
    | r => (false, r)
  if digits.all Char.isDigit then
    let n : Int := digits.foldl (fun n c => n * 10 + (c.toNat - '0'.toNat)) 0
    some (if negative then -n else n)
  else none

/-- The well-known TCP services that have names without a services database. -/
def knownServices : List (String × Nat) :=
  [("ftp", 21), ("ftps", 990), ("gopher", 70), ("http", 80), ("https", 443), ("imap2", 143),
   ("imap3", 220), ("imaps", 993), ("pop3", 110), ("pop3s", 995), ("smtp", 25),
   ("submissions", 465), ("ssh", 22), ("telnet", 23)]

/-- The number of a port, numeric or named; names are matched without regard to case. -/
def port (p : String) : Except AddressError Nat :=
  match portNumber? p with
  | some n => if 0 ≤ n ∧ n ≤ 65535 then .ok n.toNat else .error (.badPort p)
  | none =>
    match knownServices.find? (·.1 = p.toLower) with
    | some (_, n) => .ok n
    | none => .error (.unknownService p)

/-- Whether text is an IPv4 address: four decimal parts of at most 255, without leading
zeros. -/
def isIPv4 (h : String) : Bool :=
  let parts := h.splitOn "."
  parts.length = 4 && parts.all fun p =>
    !p.isEmpty && p.all Char.isDigit && p.length ≤ 3 &&
      (p.length = 1 || p.front ≠ '0') && p.toNat! ≤ 255

/-- Whether text is an IPv6 address, possibly with a zone: hexadecimal groups separated by
colons, an embedded IPv4 address at the end allowed. -/
def isIPv6 (h : String) : Bool :=
  let (addr, zoneOk) := match h.splitOn "%" with
    | [a] => (a, true)
    | [a, z] => (a, !z.isEmpty)
    | _ => ("", false)
  let groups := addr.splitOn ":"
  let hexGroup (g : String) : Bool := g.length ≤ 4 && g.all Char.isHexDigit
  zoneOk && addr.contains ':' && groups.length ≤ 9 &&
    (addr.splitOn "::").length ≤ 2 &&
    match groups.reverse with
    | last :: rest => (hexGroup last || isIPv4 last) && rest.all hexGroup
    | [] => false

/-- Whether a host resolves: it is empty, an IP address, or `localhost`. -/
def hostResolves (h : String) : Bool :=
  h.isEmpty || isIPv4 h || isIPv6 h || h = "localhost"

/-- Checks that an address can be listened on, and gives its host and port. -/
def resolve (a : String) : Except AddressError (String × Nat) := do
  let (host, p) ← splitHostPort a
  let n ← port p
  if hostResolves host then pure (host, n) else throw (.unknownHost host)

theorem resolve_noColon (a : String) (h : ':' ∉ a.toList) :
    resolve a = .error (.malformed a "missing port in address") := by
  have : lastIndexOf? a.toList ':' = none := by
    simp [lastIndexOf?, List.idxOf?_eq_none_iff, h]
  simp [resolve, splitHostPort, this, bind, Except.bind]

end RemoteLsp.Serving
