import RemoteLsp.Uri.Percent
import RemoteLsp.Text.Chars

/-!
# URI references

A URI reference is read into its parts as RFC 3986 describes them: the fragment after the
first `#`, a scheme of letters, digits, `+`, `-` and `.` before the first `:` (lower-cased),
the query after a `?`, an authority after `//`, and the path, which is unescaped. A reference
with a scheme whose rest does not start with `/` is rootless. Control characters anywhere before
the fragment, an unparsable suffix after the host, a malformed escape and a colon in the first segment of a
relative reference are refused.
-/

namespace RemoteLsp.Uri

/-- The parts of a URI reference. `path` is unescaped; the other parts are as written. -/
structure Reference where
  scheme : String := ""
  rootless : String := ""
  userInfo : Option String := none
  host : String := ""
  path : String := ""
  rawQuery : String := ""
  forceQuery : Bool := false
  fragment : String := ""
  deriving Repr, Inhabited

/-- Why a text is not a URI reference. -/
inductive ParseError where
  | controlCharacter
  | missingScheme
  | colonInFirstSegment
  | badHostSuffix (suffix : String)
  | missingBracket
  | badUserInfo
  | badEscape (e : EscapeError)
  deriving Repr

/-- The message of a parse error. -/
def ParseError.message : ParseError → String
  | .controlCharacter => "net/url: invalid control character in URL"
  | .missingScheme => "missing protocol scheme"
  | .colonInFirstSegment => "first path segment in URL cannot contain colon"
  | .badHostSuffix p => "invalid port " ++ "\"" ++ p ++ "\"" ++ " after host"
  | .missingBracket => "missing ']' in host"
  | .badUserInfo => "net/url: invalid userinfo"
  | .badEscape e => e.message

/-- Whether a character is a control character that no URI may hold. -/
def isControl (c : Char) : Bool := c.toNat < 0x20 || c.toNat = 0x7F

/-- The ASCII lower-case form of a character. -/
def lowerAscii (c : Char) : Char := if 'A' ≤ c ∧ c ≤ 'Z' then Char.ofNat (c.toNat + 32) else c

/-- Splits a scheme off the front: `none` for no scheme, an error for a leading colon. -/
def splitScheme : List Char → List Char → Except ParseError (Option (List Char × List Char))
  | _, [] => .ok none
  | acc, c :: rest =>
    if ('a' ≤ c ∧ c ≤ 'z') ∨ ('A' ≤ c ∧ c ≤ 'Z') then splitScheme (c :: acc) rest
    else if ('0' ≤ c ∧ c ≤ '9') ∨ c = '+' ∨ c = '-' ∨ c = '.' then
      if acc.isEmpty then .ok none else splitScheme (c :: acc) rest
    else if c = ':' then
      if acc.isEmpty then .error .missingScheme else .ok (some (acc.reverse, rest))
    else .ok none

/-- Whether `p` is empty or a colon followed by digits. -/
def validHostSuffix (p : List Char) : Bool :=
  match p with
  | [] => true
  | ':' :: ds => ds.all Char.isDigit
  | _ => false

/-- The characters allowed in the user information of an authority. -/
def userInfoChar (c : Char) : Bool :=
  ('A' ≤ c ∧ c ≤ 'Z') || ('a' ≤ c ∧ c ≤ 'z') || ('0' ≤ c ∧ c ≤ '9') ||
    c ∈ ['-', '.', '_', ':', '~', '!', '$', '&', '\'', '(', ')', '*', '+', ',', ';', '=', '%', '@']

/-- Checks and unescapes a host, with its optional numeric suffix. -/
def parseHost (h : List Char) : Except ParseError String := do
  if h.head? = some '[' then
    let beforeClose := (h.reverse.dropWhile (· ≠ ']')).reverse
    if beforeClose.isEmpty then throw .missingBracket
    let suffix := h.drop beforeClose.length
    if !validHostSuffix suffix then throw (.badHostSuffix (String.ofList suffix))
  else if ':' ∈ h then
    let suffix := ':' :: (h.reverse.takeWhile (· ≠ ':')).reverse
    if !validHostSuffix suffix then throw (.badHostSuffix (String.ofList suffix))
  match unescape .host (String.ofList h) with
  | .ok s => pure s
  | .error e => throw (.badEscape e)

/-- Reads an authority into user information and host. -/
def parseAuthority (a : List Char) : Except ParseError (Option String × String) := do
  if '@' ∈ a then
    let hostPart := (a.reverse.takeWhile (· ≠ '@')).reverse
    let info := a.take (a.length - hostPart.length - 1)
    let host ← parseHost hostPart
    if !info.all userInfoChar then throw .badUserInfo
    for piece in Text.splitChars ':' info |>.take 2 do
      match unescape .userInfo (String.ofList piece) with
      | .ok _ => pure ()
      | .error e => throw (.badEscape e)
    pure (some (String.ofList info), host)
  else
    let host ← parseHost a
    pure (none, host)

/-- Reads a URI reference. -/
def parse (s : String) : Except ParseError Reference := do
  let all := s.toList
  let u := all.takeWhile (· ≠ '#')
  let frag := (all.dropWhile (· ≠ '#')).drop 1
  if u.any isControl then throw .controlCharacter
  let (scheme, rest) ← match ← splitScheme [] u with
    | some (sch, r) => pure (String.ofList (sch.map lowerAscii), r)
    | none => pure ("", u)
  let qs := rest.filter (· = '?')
  let (rest, rawQuery, forceQuery) :=
    if rest.getLast? = some '?' ∧ qs.length = 1 then (rest.dropLast, "", true)
    else (rest.takeWhile (· ≠ '?'), String.ofList ((rest.dropWhile (· ≠ '?')).drop 1), false)
  let base : Reference := { scheme, rawQuery, forceQuery }
  let r ← if rest.head? ≠ some '/' ∧ scheme ≠ "" then
      pure { base with rootless := String.ofList rest }
    else do
      if rest.head? ≠ some '/' then
        if ':' ∈ rest.takeWhile (· ≠ '/') then throw .colonInFirstSegment
      let (userInfo, host, rest) ←
        if (scheme ≠ "" ∨ !"///".toList.isPrefixOf rest) ∧ "//".toList.isPrefixOf rest then do
          let auth := (rest.drop 2).takeWhile (· ≠ '/')
          let after := (rest.drop 2).dropWhile (· ≠ '/')
          let (ui, h) ← parseAuthority auth
          pure (ui, h, after)
        else pure (none, "", rest)
      match unescape .path (String.ofList rest) with
      | .ok p => pure { base with userInfo, host, path := p }
      | .error e => throw (.badEscape e)
  if frag.isEmpty then pure r
  else match unescape .fragment (String.ofList frag) with
    | .ok f => pure { r with fragment := f }
    | .error e => throw (.badEscape e)

end RemoteLsp.Uri
