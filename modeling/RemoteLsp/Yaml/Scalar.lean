import RemoteLsp.Json.Value

/-!
# What a plain YAML scalar stands for

A scalar written without quotes is typed by its text: a few words are null or booleans, text
that reads as an integer in one of the usual bases is an integer, text in the decimal float
style is a float, and everything else is a string. Integers are kept as their decimal value,
so that a value written `0x10` shows as `16` wherever it is written out again; floats keep the
text they were written with.

Quoted scalars are always strings, whatever their text.
-/

namespace RemoteLsp.Yaml

/-- The words that stand for null. -/
def nullWords : List String := ["", "~", "null", "Null", "NULL"]

/-- The words that stand for true. -/
def trueWords : List String := ["y", "Y", "yes", "Yes", "YES", "on", "On", "ON", "true", "True", "TRUE"]

/-- The words that stand for false. -/
def falseWords : List String :=
  ["n", "N", "no", "No", "NO", "off", "Off", "OFF", "false", "False", "FALSE"]

/-- The words that stand for the special floats. -/
def specialFloats : List String :=
  [".nan", ".NaN", ".NAN", ".inf", ".Inf", ".INF", "+.inf", "+.Inf", "+.INF", "-.inf", "-.Inf",
   "-.INF"]

/-- The value of a digit in a base, if it is one. -/
def digitIn (base : Nat) (c : Char) : Option Nat :=
  let v := if c.isDigit then some (c.toNat - '0'.toNat)
    else if 'a' ≤ c && c ≤ 'f' then some (c.toNat - 'a'.toNat + 10)
    else if 'A' ≤ c && c ≤ 'F' then some (c.toNat - 'A'.toNat + 10)
    else none
  v.bind fun d => if d < base then some d else none

/-- The value of a non-empty run of digits in a base. -/
def digitsValue (base : Nat) (cs : List Char) : Option Nat :=
  if cs.isEmpty then none
  else cs.foldl (fun acc c => acc.bind fun n => (digitIn base c).map fun d => n * base + d) (some 0)

/-- The magnitude of an unsigned integer literal: `0x`, `0o` and `0b` prefixes, a leading zero
for octal, decimal otherwise. -/
def magnitude? : List Char → Option Nat
  | '0' :: 'x' :: ds | '0' :: 'X' :: ds => digitsValue 16 ds
  | '0' :: 'o' :: ds | '0' :: 'O' :: ds => digitsValue 8 ds
  | '0' :: 'b' :: ds | '0' :: 'B' :: ds => digitsValue 2 ds
  | ['0'] => some 0
  | '0' :: ds => digitsValue 8 ds
  | ds => digitsValue 10 ds

/-- The largest integer a value may hold, and one past the smallest. -/
def intLimit : Nat := Nat.pow 2 63

/-- The integer a literal stands for, with an optional sign; underscores are ignored. Values
beyond 64 bits are not integers, except unsigned ones below 2^64. -/
def intValue? (s : String) : Option Int :=
  let cs := s.toList.filter (· ≠ '_')
  match cs with
  | '-' :: rest => (magnitude? rest).bind fun n => if n ≤ intLimit then some (-(n : Int)) else none
  | '+' :: rest => (magnitude? rest).bind fun n => if n < intLimit then some (n : Int) else none
  | _ => (magnitude? cs).bind fun n => if n < 2 * intLimit then some (n : Int) else none

/-- Whether text is in the decimal float style: an optional sign, digits with an optional
fraction or a fraction alone, and an optional exponent. -/
def isFloatStyle (s : String) : Bool :=
  let cs := s.toList
  let cs := match cs with
    | '+' :: r | '-' :: r => r
    | r => r
  let whole := cs.takeWhile Char.isDigit
  let cs := cs.drop whole.length
  let (fracOk, cs) := match cs with
    | '.' :: r =>
      let frac := r.takeWhile Char.isDigit
      (!whole.isEmpty || !frac.isEmpty, r.drop frac.length)
    | r => (!whole.isEmpty, r)
  let expOk := match cs with
    | [] => true
    | e :: r =>
      if e = 'e' || e = 'E' then
        let r := match r with
          | '+' :: t | '-' :: t => t
          | t => t
        !r.isEmpty && r.all Char.isDigit
      else false
  fracOk && expOk

/-- Whether text starting with a point is a float: a point and digits, with an optional
exponent. -/
def isPointFloat (s : String) : Bool :=
  match s.toList with
  | '.' :: r => !r.isEmpty && (r.head?.map Char.isDigit).getD false && isFloatStyle s
  | _ => false

/-- The value of a plain scalar. -/
def resolvePlain (s : String) : Json :=
  if nullWords.contains s then .null
  else if trueWords.contains s then .bool true
  else if falseWords.contains s then .bool false
  else if specialFloats.contains s then .num s
  else
    match s.toList.head? with
    | some c =>
      if c.isDigit || c = '+' || c = '-' then
        match intValue? s with
        | some i => .num (toString i)
        | none =>
          if isFloatStyle (String.ofList (s.toList.filter (· ≠ '_'))) then .num s else .str s
      else if c = '.' then (if isPointFloat s then .num s else .str s)
      else .str s
    | none => .null

end RemoteLsp.Yaml
