import RemoteLsp.Json.Value
import RemoteLsp.Text.Quoted

/-!
# Reading JSON text

A strict reader of RFC 8259 JSON: blanks are space, tab, line feed and carriage return; a
number has no leading zero, no leading plus and digits on both sides of a point; a string
holds no raw control character. Escapes `\uXXXX` that form a surrogate pair become one
character, and a surrogate without its partner becomes U+FFFD.

Failures say where reading stopped in the words a JSON tokenizer uses: the character that was
not expected and what was being looked for, or the end of the input.
-/

namespace RemoteLsp.Json

/-- Why a text is not JSON. -/
inductive ReadError where
  /-- The text ended inside a value. -/
  | endOfInput
  /-- The character `c` cannot stand here; `context` says what was being read. -/
  | unexpected (c : Char) (context : String)
  deriving Repr, Inhabited

/-- The character of an error, between single quotes. -/
def charShown (c : Char) : String :=
  if c = '\'' then "'\\''"
  else if c = '"' then "'\"'"
  else String.ofList ('\'' :: ((Text.quoteChar c) ++ ['\'']))

/-- The message of a reading error. -/
def ReadError.message : ReadError → String
  | .endOfInput => "unexpected end of JSON input"
  | .unexpected c ctx => "invalid character " ++ charShown c ++ " " ++ ctx

/-- The four blank characters of JSON text. -/
def isWs (c : Char) : Bool := c = ' ' || c = '\t' || c = '\n' || c = '\r'

/-- Drops leading blanks. -/
def skipWs (cs : List Char) : List Char := cs.dropWhile isWs

/-- The value of a hex digit. -/
def hexValue? (c : Char) : Option Nat :=
  if '0' ≤ c ∧ c ≤ '9' then some (c.toNat - 48)
  else if 'a' ≤ c ∧ c ≤ 'f' then some (c.toNat - 87)
  else if 'A' ≤ c ∧ c ≤ 'F' then some (c.toNat - 55)
  else none

/-- The value of four hex digits. -/
def hex4? (a b c d : Char) : Option Nat := do
  let a ← hexValue? a
  let b ← hexValue? b
  let c ← hexValue? c
  let d ← hexValue? d
  pure (((a * 16 + b) * 16 + c) * 16 + d)

/-- Whether a code unit is a UTF-16 surrogate. -/
def isSurrogate (n : Nat) : Bool := 0xD800 ≤ n && n < 0xE000

/-- The replacement character U+FFFD. -/
def replacement : Char := Char.ofNat 0xFFFD

/-- The character of a pair of UTF-16 surrogates, if they are a high and a low one. -/
def pairChar? (hi lo : Nat) : Option Char :=
  if 0xD800 ≤ hi ∧ hi < 0xDC00 ∧ 0xDC00 ≤ lo ∧ lo < 0xE000 then
    some (Char.ofNat (0x10000 + (hi - 0xD800) * 0x400 + (lo - 0xDC00)))
  else none

/-- The error for a character where a hex digit of a `\u` escape was expected. -/
def badHex (cs : List Char) : ReadError :=
  match cs.find? (fun c => (hexValue? c).isNone) with
  | some c => .unexpected c "in \\u hexadecimal character escape"
  | none => .endOfInput

/-- What was read before a surrogate whose partner did not follow: the surrogate stands for
the replacement character. -/
def heldUnit (pending : Option Nat) (acc : List Char) : List Char :=
  match pending with
  | some _ => replacement :: acc
  | none => acc

/-- Reads the rest of a string after its opening quote; `acc` holds what was read, reversed,
and `pending` a surrogate escape that the next escape may complete into a pair. -/
def readStringAux : List Char → List Char → Option Nat → Except ReadError (String × List Char)
  | [], _, _ => .error .endOfInput
  | '"' :: rest, acc, p => .ok (String.ofList (heldUnit p acc).reverse, rest)
  | '\\' :: 'u' :: a :: b :: c :: d :: rest, acc, p =>
    match hex4? a b c d with
    | none => .error (badHex [a, b, c, d])
    | some n =>
      match p.bind (pairChar? · n) with
      | some ch => readStringAux rest (ch :: acc) none
      | none =>
        -- a unit that completes no pair is read on its own
        let acc := heldUnit p acc
        if isSurrogate n then readStringAux rest acc (some n)
        else readStringAux rest (Char.ofNat n :: acc) none
  | '\\' :: 'u' :: tail, _, _ => .error (badHex tail)
  | '\\' :: c :: rest, acc, p =>
    let acc := heldUnit p acc
    match c with
    | '"' => readStringAux rest ('"' :: acc) none
    | '\\' => readStringAux rest ('\\' :: acc) none
    | '/' => readStringAux rest ('/' :: acc) none
    | 'b' => readStringAux rest (Char.ofNat 8 :: acc) none
    | 'f' => readStringAux rest (Char.ofNat 12 :: acc) none
    | 'n' => readStringAux rest ('\n' :: acc) none
    | 'r' => readStringAux rest ('\r' :: acc) none
    | 't' => readStringAux rest ('\t' :: acc) none
    | _ => .error (.unexpected c "in string escape code")
  | ['\\'], _, _ => .error .endOfInput
  | c :: rest, acc, p =>
    if c.toNat < 0x20 then .error (.unexpected c "in string literal")
    else readStringAux rest (c :: heldUnit p acc) none

/-- Reads a string after its opening quote. -/
def readString (cs : List Char) : Except ReadError (String × List Char) :=
  readStringAux cs [] none

/-- Splits off a run of decimal digits. -/
def spanDigits (cs : List Char) : List Char × List Char :=
  (cs.takeWhile Char.isDigit, cs.dropWhile Char.isDigit)

/-- The error for the character after a sign, point or exponent mark that needs a digit. -/
def needDigit : List Char → ReadError
  | [] => .endOfInput
  | c :: _ => .unexpected c "in numeric literal"

/-- Reads the fraction of a number, if there is one: a point and at least one digit. -/
def readFraction (cs : List Char) : Except ReadError (List Char × List Char) :=
  match cs with
  | '.' :: rest =>
    let (ds, r) := spanDigits rest
    if ds.isEmpty then .error (needDigit rest) else pure ('.' :: ds, r)
  | _ => pure ([], cs)

/-- Splits off the sign of an exponent, if there is one. -/
def readSign (cs : List Char) : List Char × List Char :=
  match cs with
  | '+' :: r => (['+'], r)
  | '-' :: r => (['-'], r)
  | r => ([], r)

/-- Reads the exponent of a number, if there is one: a mark, an optional sign and at least
one digit. -/
def readExponent (cs : List Char) : Except ReadError (List Char × List Char) :=
  match cs with
  | e :: rest =>
    if e = 'e' ∨ e = 'E' then
      let (sign, rest) := readSign rest
      let (ds, r) := spanDigits rest
      if ds.isEmpty then .error (needDigit rest) else pure (e :: sign ++ ds, r)
    else pure ([], cs)
  | [] => pure ([], [])

/-- Reads the fraction and exponent of a number after its integer part. -/
def readNumberTail (cs : List Char) : Except ReadError (List Char × List Char) := do
  let (frac, cs) ← readFraction cs
  let (ex, cs) ← readExponent cs
  pure (frac ++ ex, cs)

/-- Reads the integer part of a number after its sign: a zero, or digits that do not open
with a zero. -/
def readInteger (cs : List Char) : Except ReadError (List Char × List Char) :=
  match cs with
  | '0' :: r => pure (['0'], r)
  | c :: r =>
    if c.isDigit then
      let (ds, r') := spanDigits r
      pure (c :: ds, r')
    else .error (.unexpected c "in numeric literal")
  | [] => .error .endOfInput

/-- Splits off the minus sign of a number, if there is one. -/
def readMinus (cs : List Char) : List Char × List Char :=
  match cs with
  | '-' :: r => (['-'], r)
  | r => ([], r)

/-- Reads a number; the result is its literal text and the rest of the input. -/
def readNumber (cs : List Char) : Except ReadError (String × List Char) := do
  let (sign, cs) := readMinus cs
  let (int, cs) ← readInteger cs
  let (tail, cs) ← readNumberTail cs
  pure (String.ofList (sign ++ int ++ tail), cs)

/-- Reads one of the words `true`, `false` and `null`. -/
def readWord (word : List Char) (v : Json) (cs : List Char) : Except ReadError (Json × List Char) :=
  if word.isPrefixOf cs then .ok (v, cs.drop word.length)
  else
    match (cs.zip word).find? (fun p => p.1 ≠ p.2) with
    | some (c, w) => .error (.unexpected c
        ("in literal " ++ String.ofList (word.take 1) ++ "..." ++ " (expecting " ++
          charShown w ++ ")"))
    | none => .error .endOfInput

mutual

/-- Reads one value after optional blanks. `fuel` bounds the nesting and the number of items;
every two steps take at least one character, so twice the length of the input is enough. -/
def readValue : Nat → List Char → Except ReadError (Json × List Char)
  | 0, _ => .error .endOfInput
  | fuel + 1, cs =>
    match skipWs cs with
    | [] => .error .endOfInput
    | '{' :: rest =>
      match skipWs rest with
      | '}' :: r => .ok (.obj [], r)
      | r => readMembers fuel r []
    | '[' :: rest =>
      match skipWs rest with
      | ']' :: r => .ok (.arr [], r)
      | r => readItems fuel r []
    | '"' :: rest => (readString rest).map fun (s, r) => (.str s, r)
    | 't' :: rest => readWord ['r', 'u', 'e'] (.bool true) rest
    | 'f' :: rest => readWord ['a', 'l', 's', 'e'] (.bool false) rest
    | 'n' :: rest => readWord ['u', 'l', 'l'] .null rest
    | c :: rest =>
      if c = '-' ∨ c.isDigit then (readNumber (c :: rest)).map fun (s, r) => (.num s, r)
      else .error (.unexpected c "looking for beginning of value")

/-- Reads the members of an object from the first key on; `acc` holds them reversed. -/
def readMembers : Nat → List Char → List (String × Json) →
    Except ReadError (Json × List Char)
  | 0, _, _ => .error .endOfInput
  | fuel + 1, cs, acc =>
    match skipWs cs with
    | '"' :: rest => do
      let (key, r) ← readString rest
      match skipWs r with
      | ':' :: r => do
        let (v, r) ← readValue fuel r
        match skipWs r with
        | ',' :: r => readMembers fuel r ((key, v) :: acc)
        | '}' :: r => pure (.obj ((key, v) :: acc).reverse, r)
        | c :: _ => .error (.unexpected c "after object key:value pair")
        | [] => .error .endOfInput
      | c :: _ => .error (.unexpected c "after object key")
      | [] => .error .endOfInput
    | c :: _ => .error (.unexpected c "looking for beginning of object key string")
    | [] => .error .endOfInput

/-- Reads the items of an array from the first item on; `acc` holds them reversed. -/
def readItems : Nat → List Char → List Json → Except ReadError (Json × List Char)
  | 0, _, _ => .error .endOfInput
  | fuel + 1, cs, acc => do
    let (v, r) ← readValue fuel cs
    match skipWs r with
    | ',' :: r => readItems fuel r (v :: acc)
    | ']' :: r => pure (.arr (v :: acc).reverse, r)
    | c :: _ => .error (.unexpected c "after array element")
    | [] => .error .endOfInput

end

/-- Reads a whole text as one JSON value, with nothing but blanks after it. -/
def read (s : String) : Except ReadError Json := do
  let cs := s.toList
  let (v, rest) ← readValue (2 * cs.length + 2) cs
  match skipWs rest with
  | [] => pure v
  | c :: _ => .error (.unexpected c "after top-level value")

/-- Whether a text is one JSON value. -/
def isValidText (s : String) : Bool := (read s).toBool

end RemoteLsp.Json
