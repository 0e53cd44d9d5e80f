import RemoteLsp.Json.Read

/-!
# Raw JSON text

Editing a message in place means working on its text rather than on a decoded value: the
members that are not touched keep their spacing and their escapes. This module cuts valid
JSON text into the spans of its values. A string is taken up to its closing quote, a
container up to the bracket that closes it (counting brackets outside strings only), and a
number or literal up to the next blank, comma or closing bracket.

The scanners are total on any text; on text that is not JSON they still stop, but what they
return is only meaningful for valid JSON, which is all they are given.

Names are decoded leniently: a `\u` escape of a surrogate always takes the escape after it
as its partner, and a pair that does not combine stands for one replacement character.
-/

namespace RemoteLsp.Json

/-- Whether a character separates tokens: any control character or a space. -/
def isLow (c : Char) : Bool := c.toNat ≤ 32

/-- Drops blanks. -/
def dropLow (cs : List Char) : List Char := cs.dropWhile isLow

/-- The rest of a string literal after its opening quote: its text up to and including the
closing quote, and what follows it. `acc` holds what was taken, reversed. -/
def stringTail (acc : List Char) : List Char → List Char × List Char
  | [] => (acc.reverse, [])
  | '"' :: rest => (('"' :: acc).reverse, rest)
  | '\\' :: c :: rest => stringTail (c :: '\\' :: acc) rest
  | c :: rest => stringTail (c :: acc) rest

/-- A container whose opening bracket is still in the input, at nesting `depth`, inside a
string or not, after a backslash in a string or not: its text up to the bracket that closes
it, and what follows. -/
def squash (depth : Nat) (inString escaped : Bool) (acc : List Char) :
    List Char → List Char × List Char
  | [] => (acc.reverse, [])
  | c :: rest =>
    if inString then
      if escaped then squash depth true false (c :: acc) rest
      else if c = '\\' then squash depth true true (c :: acc) rest
      else squash depth (c ≠ '"') false (c :: acc) rest
    else if c = '"' then squash depth true false (c :: acc) rest
    else if c = '{' ∨ c = '[' then squash (depth + 1) false false (c :: acc) rest
    else if c = '}' ∨ c = ']' then
      if depth ≤ 1 then ((c :: acc).reverse, rest)
      else squash (depth - 1) false false (c :: acc) rest
    else squash depth false false (c :: acc) rest

/-- Whether a character ends a number or a literal. -/
def endsScalar (c : Char) : Bool := isLow c || c = ',' || c = ']' || c = '}'

/-- The text of the value that `cs` starts with, and what follows it. -/
def valueSpan : List Char → List Char × List Char
  | [] => ([], [])
  | '"' :: rest => stringTail ['"'] rest
  | c :: rest =>
    if c = '{' ∨ c = '[' then squash 0 false false [] (c :: rest)
    else ((c :: rest).takeWhile (fun d => !endsScalar d),
      (c :: rest).dropWhile (fun d => !endsScalar d))

/-- The value of four hex digits, zero when they are not hex digits. -/
def hexOrZero (a b c d : Char) : Nat := (hex4? a b c d).getD 0

/-- Decodes the text between the quotes of a string leniently; `acc` holds what was
decoded, reversed, and `pending` a surrogate whose partner is still to come. A surrogate
takes the escape after it as its partner; with none it stands for the replacement character.
Decoding stops at a control character or a malformed escape. -/
def decodeAux (acc : List Char) (pending : Option Nat) : List Char → List Char
  | [] => (heldUnit pending acc).reverse
  | '\\' :: 'u' :: a :: b :: c :: d :: rest =>
    let n := hexOrZero a b c d
    match pending with
    | some hi => decodeAux ((pairChar? hi n).getD replacement :: acc) none rest
    | none =>
      if isSurrogate n then decodeAux acc (some n) rest
      else decodeAux (Char.ofNat n :: acc) none rest
  | '\\' :: c :: rest =>
    let acc := heldUnit pending acc
    match c with
    | '"' => decodeAux ('"' :: acc) none rest
    | '\\' => decodeAux ('\\' :: acc) none rest
    | '/' => decodeAux ('/' :: acc) none rest
    | 'b' => decodeAux (Char.ofNat 8 :: acc) none rest
    | 'f' => decodeAux (Char.ofNat 12 :: acc) none rest
    | 'n' => decodeAux ('\n' :: acc) none rest
    | 'r' => decodeAux ('\r' :: acc) none rest
    | 't' => decodeAux ('\t' :: acc) none rest
    | _ => acc.reverse
  | c :: rest =>
    let acc := heldUnit pending acc
    if c.toNat < 32 then acc.reverse else decodeAux (c :: acc) none rest

/-- The text of a string literal given with its quotes. -/
def decodeLiteral (raw : List Char) : String :=
  String.ofList (decodeAux [] none ((raw.drop 1).dropLast))

/-- A member of an object or an item of an array, as text: its decoded name (empty for an
item), the offset of its value in the container's text, and the value's text. -/
structure Entry where
  name : String
  offset : Nat
  raw : List Char
  deriving Repr, Inhabited

/-- The entries of a container from `cs`, which follows its opening bracket; `total` is the
length of the container's text, so that an offset is `total` less what is left there. -/
def entriesAux (isObject : Bool) (total : Nat) : Nat → List Char → List Entry
  | 0, _ => []
  | fuel + 1, cs =>
    let cs := cs.dropWhile (fun c => isLow c || c = ',' || c = ':')
    match cs with
    | [] => []
    | c :: rest =>
      if c = '}' ∨ c = ']' then []
      else if isObject then
        if c = '"' then
          let (key, afterKey) := stringTail ['"'] rest
          let start := afterKey.dropWhile (fun c => isLow c || c = ':')
          let (v, after) := valueSpan start
          ⟨decodeLiteral key, total - start.length, v⟩ :: entriesAux isObject total fuel after
        else entriesAux isObject total fuel rest
      else
        let (v, after) := valueSpan cs
        ⟨"", total - cs.length, v⟩ :: entriesAux isObject total fuel after

/-- The entries of an object or array text; none for any other value. -/
def entries (raw : List Char) : List Entry :=
  match raw with
  | '{' :: rest => entriesAux true raw.length (rest.length + 1) rest
  | '[' :: rest => entriesAux false raw.length (rest.length + 1) rest
  | _ => []

/-- The text of the last member of an object text with a given name. -/
def member? (raw : List Char) (key : String) : Option (List Char) :=
  ((entries raw).reverse.find? (·.name = key)).map (·.raw)

/-- Whether a value's text is an object. -/
def isObjectText (raw : List Char) : Bool := raw.head? = some '{'

/-- Whether a value's text is an array. -/
def isArrayText (raw : List Char) : Bool := raw.head? = some '['

/-- Whether a value's text is a string. -/
def isStringText (raw : List Char) : Bool := raw.head? = some '"'

end RemoteLsp.Json
