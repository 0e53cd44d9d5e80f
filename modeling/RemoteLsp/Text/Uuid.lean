import RemoteLsp.Text.Quoted
import RemoteLsp.Text.Utf8

/-!
# UUID text

A UUID is written as 32 hexadecimal digits, in the canonical form as groups of 8, 4, 4, 4
and 12 joined by dashes. A reader also takes the digits without dashes, either form in
braces, and either form after `urn:uuid:`. The length of the text, in bytes, picks the form;
a text of no form's length, a misplaced dash or brace, and a digit that is not hexadecimal
are each refused with their own message.

Transcripts that must not depend on generated identifiers hide every UUID in canonical form
behind a placeholder.
-/

namespace RemoteLsp.Uuid

/-- Whether a character is a hexadecimal digit of either case. -/
def isHex (c : Char) : Bool := c.isDigit || ('a' ≤ c && c ≤ 'f') || ('A' ≤ c && c ≤ 'F')

/-- The error of a character that is not a hex digit: its code point as `U+XXXX` and the
character itself. -/
def invalidByte (c : Char) : String :=
  let digits := Text.hexPadded 4 c.toNat
  "encoding/hex: invalid byte: U+" ++ String.ofList (digits.map Char.toUpper) ++ " '" ++
    String.singleton c ++ "'"

/-- Checks that every character is a hex digit, reporting the first that is not. -/
def checkHex (cs : List Char) : Except String Unit :=
  match cs.find? (!isHex ·) with
  | some c => .error (invalidByte c)
  | none => .ok ()

/-- The error of a text of the wrong length. -/
def lengthError (s : String) : String :=
  "uuid: incorrect UUID length " ++ toString (Text.utf8Length s) ++ " in string " ++ Text.quoted s

/-- The error of a text of the right length in the wrong form. -/
def formatError (s : String) : String := "uuid: incorrect UUID format in string " ++ Text.quoted s

/-- The positions of the dashes in the canonical form. -/
def dashes : List Nat := [8, 13, 18, 23]

/-- Reads the canonical form. -/
def readCanonical (s : String) : Except String Unit :=
  let cs := s.toList
  if dashes.any (fun i => cs[i]? ≠ some '-') then .error (formatError s)
  else checkHex (cs.filter (· ≠ '-'))

/-- Reads the digits of a UUID with or without dashes, as found inside braces or a URN. -/
def readPlain (s : String) : Except String Unit :=
  match Text.utf8Length s with
  | 32 => checkHex s.toList
  | 36 => readCanonical s
  | _ => .error (lengthError s)

/-- Checks that a text is a UUID in one of the forms a reader takes. -/
def check (s : String) : Except String Unit :=
  let cs := s.toList
  match Text.utf8Length s with
  | 32 => checkHex cs
  | 36 => readCanonical s
  | 34 | 38 =>
    if cs.head? = some '{' && cs.getLast? = some '}' then
      readPlain (String.ofList ((cs.drop 1).dropLast))
    else .error (formatError s)
  | 41 | 45 =>
    if (String.ofList (cs.take 9)).toLower = "urn:uuid:" then readPlain (String.ofList (cs.drop 9))
    else .error (formatError s)
  | _ => .error (lengthError s)

/-- The shape of a canonical UUID: hex digits and dashes where they belong. -/
def canonicalAt (cs : List Char) : Bool :=
  cs.length ≥ 36 && ((cs.take 36).zipIdx.all fun (c, i) =>
    if dashes.contains i then c = '-' else isHex c)

/-- The placeholder that stands for a hidden identifier. -/
def placeholder : String := "<UUID>"

/-- Replaces every canonical UUID in a text by the placeholder, scanning left to right. -/
def maskChars : Nat → List Char → List Char
  | 0, cs => cs
  | _ + 1, [] => []
  | fuel + 1, c :: cs =>
    if canonicalAt (c :: cs) then placeholder.toList ++ maskChars fuel (cs.drop 35)
    else c :: maskChars fuel cs

/-- A text with every canonical UUID hidden. -/
def mask (s : String) : String := String.ofList (maskChars (s.length + 1) s.toList)

end RemoteLsp.Uuid
