import RemoteLsp.Text.Utf8

/-!
# Percent-encoding of URI components

RFC 3986 writes a byte that may not stand in a component as `%` and two upper-case hex digits.
Which bytes may stand depends on the component: a path keeps letters, digits, `-_.~` and the
reserved `$&+,/:;=@`, and escapes the rest, `?` included. A host also keeps the sub-delimiters,
brackets, `<`, `>` and `"`, and may use `%` only for bytes above ASCII (or `%25`).

Unescaping refuses a `%` without two hex digits after it, and in a host also a plain byte that
the host form would escape.
-/

namespace RemoteLsp.Uri

/-- The component a piece of text belongs to; each has its own set of bytes kept as they are. -/
inductive Component where
  | path
  | host
  | userInfo
  | fragment
  deriving DecidableEq, Repr

/-- Letters and digits of ASCII. -/
def isAlnum (b : UInt8) : Bool :=
  let n := b.toNat
  (97 ≤ n && n ≤ 122) || (65 ≤ n && n ≤ 90) || (48 ≤ n && n ≤ 57)

/-- Whether byte `b` is written as an escape in component `m`. -/
def shouldEscape (m : Component) (b : UInt8) : Bool :=
  let c := Char.ofNat b.toNat
  if isAlnum b then false
  else if m = .host ∧ c ∈ ['!', '$', '&', '\'', '(', ')', '*', '+', ',', ';', '=', ':', '[',
      ']', '<', '>', '"'] then false
  else if c ∈ ['-', '_', '.', '~'] then false
  else if c ∈ ['$', '&', '+', ',', '/', ':', ';', '=', '?', '@'] then
    match m with
    | .path => c = '?'
    | .userInfo => c = '@' ∨ c = '/' ∨ c = '?' ∨ c = ':'
    | .fragment => false
    | .host => true
  else if m = .fragment ∧ c ∈ ['!', '(', ')', '*'] then false
  else true

/-- The upper-case hex digit of a value below sixteen. -/
def upperHex (n : Nat) : UInt8 := if n < 10 then (48 + n).toUInt8 else (55 + n).toUInt8

/-- The escaped bytes of a component. -/
def escapeBytes (m : Component) (bs : List UInt8) : List UInt8 :=
  bs.flatMap fun b =>
    if shouldEscape m b then [37, upperHex (b.toNat / 16), upperHex (b.toNat % 16)] else [b]

/-- The escaped form of a text in component `m`. -/
def escape (m : Component) (s : String) : String :=
  Text.decodeLossy (escapeBytes m (Text.utf8 s))

/-- The value of a hex digit byte. -/
def hexOf? (b : UInt8) : Option Nat :=
  let n := b.toNat
  if 48 ≤ n ∧ n ≤ 57 then some (n - 48)
  else if 65 ≤ n ∧ n ≤ 70 then some (n - 55)
  else if 97 ≤ n ∧ n ≤ 102 then some (n - 87)
  else none

/-- Why an escaped component cannot be read. -/
inductive EscapeError where
  /-- A `%` without two hex digits after it, or an ASCII escape in a host; holds the
  offending text (at most three bytes). -/
  | badEscape (text : List UInt8)
  /-- A byte that may not stand in a host. -/
  | badHostByte (b : UInt8)
  deriving Repr

/-- The message of an escaping error. -/
def EscapeError.message : EscapeError → String
  | .badEscape t => "invalid URL escape " ++ "\"" ++ Text.decodeLossy t ++ "\""
  | .badHostByte b => "invalid character " ++ "\"" ++ Text.decodeLossy [b] ++ "\"" ++ " in host name"

/-- Unescapes the bytes of component `m`. -/
def unescapeBytes (m : Component) : List UInt8 → Except EscapeError (List UInt8)
  | [] => .ok []
  | 37 :: rest =>
    match rest with
    | h :: l :: rest' =>
      match hexOf? h, hexOf? l with
      | some hv, some lv =>
        if m = .host ∧ hv < 8 ∧ ¬(h = 50 ∧ l = 53) then .error (.badEscape [37, h, l])
        else (unescapeBytes m rest').map ((hv * 16 + lv).toUInt8 :: ·)
      | _, _ => .error (.badEscape ((37 :: rest).take 3))
    | _ => .error (.badEscape (37 :: rest))
  | b :: rest =>
    if m = .host ∧ b.toNat < 0x80 ∧ shouldEscape .host b then .error (.badHostByte b)
    else (unescapeBytes m rest).map (b :: ·)

/-- The unescaped text of component `m`. -/
def unescape (m : Component) (s : String) : Except EscapeError String :=
  (unescapeBytes m (Text.utf8 s)).map Text.decodeLossy

end RemoteLsp.Uri
