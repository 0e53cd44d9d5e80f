/-!
# Quoted text in messages

Error messages show a user's text between double quotes, with every character that would not
print as itself written as an escape: quote and backslash get a backslash, the common control
characters their letter (`\n`, `\t`, …), other controls below space and DEL a two-digit
`\x` escape, and other invisible characters a `\u` escape of four hex digits, or `\U` of
eight above the basic plane. Hex digits are lower case.
-/

namespace RemoteLsp.Text

/-- Characters that do not print as themselves: controls, format characters, separators
other than the ASCII space, private use, and noncharacters. -/
def isInvisible (c : Char) : Bool :=
  let n := c.toNat
  n < 0x20 || (0x7F ≤ n && n ≤ 0x9F) || n == 0xA0 || n == 0xAD ||
    (0x600 ≤ n && n ≤ 0x605) || n == 0x61C || n == 0x6DD || n == 0x70F || n == 0x890 ||
    n == 0x891 || n == 0x8E2 || n == 0x1680 || n == 0x180E ||
    (0x2000 ≤ n && n ≤ 0x200F) || (0x2028 ≤ n && n ≤ 0x202F) ||
    (0x205F ≤ n && n ≤ 0x2064) || (0x2066 ≤ n && n ≤ 0x206F) || n == 0x3000 ||
    (0xD800 ≤ n && n ≤ 0xF8FF) || (0xFDD0 ≤ n && n ≤ 0xFDEF) || n == 0xFEFF ||
    (0xFFF0 ≤ n && n ≤ 0xFFFB) || n % 0x10000 ≥ 0xFFFE || n == 0x110BD || n == 0x110CD ||
    (0x13430 ≤ n && n ≤ 0x1343F) || (0x1BCA0 ≤ n && n ≤ 0x1BCA3) ||
    (0x1D173 ≤ n && n ≤ 0x1D17A) || (0xE0000 ≤ n && n ≤ 0xE00FF) || n ≥ 0xF0000

/-- The lower-case hex digit of a value below sixteen. -/
def hexDigit (n : Nat) : Char :=
  if n < 10 then Char.ofNat (48 + n) else Char.ofNat (87 + n)

/-- `n` in lower-case hex, padded with zeros to `width` digits. -/
def hexPadded (width n : Nat) : List Char :=
  (List.range width).reverse.map fun i => hexDigit (n / Nat.pow 16 i % 16)

/-- The written form of one character inside quotes. -/
def quoteChar (c : Char) : List Char :=
  if c = '"' then ['\\', '"']
  else if c = '\\' then ['\\', '\\']
  else if !isInvisible c then [c]
  else match c.toNat with
    | 7 => ['\\', 'a']
    | 8 => ['\\', 'b']
    | 12 => ['\\', 'f']
    | 10 => ['\\', 'n']
    | 13 => ['\\', 'r']
    | 9 => ['\\', 't']
    | 11 => ['\\', 'v']
    | n =>
      if n < 0x20 || n == 0x7F then '\\' :: 'x' :: hexPadded 2 n
      else if n < 0x10000 then '\\' :: 'u' :: hexPadded 4 n
      else '\\' :: 'U' :: hexPadded 8 n

/-- The text between double quotes, each character written by `quoteChar`. -/
def quoted (s : String) : String :=
  String.ofList ('"' :: (s.toList.flatMap quoteChar ++ ['"']))

end RemoteLsp.Text
