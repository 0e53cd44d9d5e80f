import RemoteLsp.Json.Read

/-!
# Writing JSON text

The writer puts members and items in the order the value holds them, with no blanks in the
compact form and two spaces per level in the indented one. A string is written with a
backslash before quote and backslash, the letters `b f n r t` for those controls, `\u00XX` for
the other controls, and a `\u` escape for the line and paragraph separators U+2028 and
U+2029. Text meant to be embedded in a page also writes `<`, `>` and `&` as `\u` escapes.

`compactText` is the other way to shorten JSON: it keeps the text of every token, escapes
and number spellings included, and only drops the blanks between tokens.
-/

namespace RemoteLsp.Json

/-- Whether `<`, `>` and `&` are escaped. -/
structure Escaping where
  html : Bool
  deriving Repr, Inhabited

/-- The escaping of values sent on the wire: markup characters are escaped. -/
def Escaping.wire : Escaping := ⟨true⟩

/-- The escaping of answers printed for a reader: markup characters stay as they are. -/
def Escaping.plain : Escaping := ⟨false⟩

/-- The written form of one character inside a string. -/
def escapeChar (e : Escaping) (c : Char) : List Char :=
  if c = '"' then ['\\', '"']
  else if c = '\\' then ['\\', '\\']
  else if c = '\n' then ['\\', 'n']
  else if c = '\r' then ['\\', 'r']
  else if c = '\t' then ['\\', 't']
  else if c.toNat = 8 then ['\\', 'b']
  else if c.toNat = 12 then ['\\', 'f']
  else if c.toNat < 0x20 then '\\' :: 'u' :: Text.hexPadded 4 c.toNat
  else if c.toNat = 0x2028 ∨ c.toNat = 0x2029 then '\\' :: 'u' :: Text.hexPadded 4 c.toNat
  else if e.html ∧ (c = '<' ∨ c = '>' ∨ c = '&') then '\\' :: 'u' :: Text.hexPadded 4 c.toNat
  else [c]

/-- A string literal. -/
def writeString (e : Escaping) (s : String) : List Char :=
  '"' :: (s.toList.flatMap (escapeChar e) ++ ['"'])

/-- Joins written parts with a separator between them. -/
def joinWith (sep : List Char) : List (List Char) → List Char
  | [] => []
  | [x] => x
  | x :: xs => x ++ sep ++ joinWith sep xs

mutual

/-- The compact text of a value. -/
def write (e : Escaping) : Json → List Char
  | .null => "null".toList
  | .bool true => "true".toList
  | .bool false => "false".toList
  | .num lit => lit.toList
  | .str s => writeString e s
  | .arr xs => '[' :: (joinWith [','] (writeItems e xs) ++ [']'])
  | .obj ms => '{' :: (joinWith [','] (writeMembers e ms) ++ ['}'])

/-- The compact text of each item. -/
def writeItems (e : Escaping) : List Json → List (List Char)
  | [] => []
  | x :: xs => write e x :: writeItems e xs

/-- The compact text of each member. -/
def writeMembers (e : Escaping) : List (String × Json) → List (List Char)
  | [] => []
  | (k, v) :: ms => (writeString e k ++ ':' :: write e v) :: writeMembers e ms

end

/-- The compact text of a value as a string. -/
def render (e : Escaping) (v : Json) : String := String.ofList (write e v)

/-- A line break followed by `depth` levels of two-space indent. -/
def newline (depth : Nat) : List Char := '\n' :: List.replicate (2 * depth) ' '

mutual

/-- The indented text of a value at nesting `depth`. Empty arrays and objects stay on one line. -/
def writeIndented (e : Escaping) (depth : Nat) : Json → List Char
  | .arr [] => ['[', ']']
  | .obj [] => ['{', '}']
  | .arr xs =>
    '[' :: (newline (depth + 1) ++ joinWith (',' :: newline (depth + 1))
      (indentItems e (depth + 1) xs) ++ newline depth ++ [']'])
  | .obj ms =>
    '{' :: (newline (depth + 1) ++ joinWith (',' :: newline (depth + 1))
      (indentMembers e (depth + 1) ms) ++ newline depth ++ ['}'])
  | v => write e v

/-- The indented text of each item. -/
def indentItems (e : Escaping) (depth : Nat) : List Json → List (List Char)
  | [] => []
  | x :: xs => writeIndented e depth x :: indentItems e depth xs

/-- The indented text of each member, name and value parted by a colon and a space. -/
def indentMembers (e : Escaping) (depth : Nat) : List (String × Json) → List (List Char)
  | [] => []
  | (k, v) :: ms => (writeString e k ++ ':' :: ' ' :: writeIndented e depth v) ::
      indentMembers e depth ms

end

/-- The indented text of a value as a string. -/
def renderIndented (e : Escaping) (v : Json) : String := String.ofList (writeIndented e 0 v)

/-- Drops the blanks between the tokens of a JSON text and keeps everything else; `inStr`
says whether the scan is inside a string, `esc` whether the last character was a backslash
there. -/
def compactAux : Bool → Bool → List Char → List Char
  | _, _, [] => []
  | true, true, c :: cs => c :: compactAux true false cs
  | true, false, c :: cs =>
    if c = '\\' then c :: compactAux true true cs
    else if c = '"' then c :: compactAux false false cs
    else c :: compactAux true false cs
  | false, _, c :: cs =>
    if isWs c then compactAux false false cs
    else if c = '"' then c :: compactAux true false cs
    else c :: compactAux false false cs

/-- A JSON text without blanks between its tokens. -/
def compactText (s : String) : String := String.ofList (compactAux false false s.toList)

/-- The written form of a character of an embedded raw text: markup characters and the two
line separators, which occur only inside strings, become escapes. -/
def embedChar (c : Char) : List Char :=
  if c = '<' ∨ c = '>' ∨ c = '&' ∨ c.toNat = 0x2028 ∨ c.toNat = 0x2029 then
    '\\' :: 'u' :: Text.hexPadded 4 c.toNat
  else [c]

/-- The text an encoder writes for a raw JSON value it embeds: compact, with markup
characters escaped and every other token kept as written. -/
def embedText (s : String) : String :=
  String.ofList ((compactAux false false s.toList).flatMap embedChar)

end RemoteLsp.Json
