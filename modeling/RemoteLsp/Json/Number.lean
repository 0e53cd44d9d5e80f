import RemoteLsp.Text.Chars

/-!
# Numbers as binary doubles

A number decoded without a declared type becomes an IEEE double: the double nearest to the
literal, ties going to the even mantissa. Written again, a double takes the fewest significant
digits that read back as the same double, in plain notation between `1e-6` and `1e21` and in
exponent notation (`1e+21`, `1.5e-7`) outside that range.

Everything here is exact arithmetic on natural numbers: a literal is a fraction `numer / den`,
a double is `m * 2^e` with `m < 2^53`, and rounding compares remainders.
-/

namespace RemoteLsp.Json.Number

/-- The digits of a literal and the power of ten they are scaled by, with the sign. -/
structure Decimal where
  negative : Bool
  digits : Nat
  exponent : Int
  deriving Repr, DecidableEq

/-- The value of a run of decimal digits. -/
def digitsValue (cs : List Char) : Nat := cs.foldl (fun n c => n * 10 + (c.toNat - 48)) 0

/-- Reads a JSON number literal as digits and a power of ten. -/
def parseDecimal (lit : String) : Decimal :=
  let cs := lit.toList
  let (negative, cs) := match cs with
    | '-' :: rest => (true, rest)
    | _ => (false, cs)
  let intPart := cs.takeWhile Char.isDigit
  let cs := cs.dropWhile Char.isDigit
  let (frac, cs) := match cs with
    | '.' :: rest => (rest.takeWhile Char.isDigit, rest.dropWhile Char.isDigit)
    | _ => ([], cs)
  let expValue : Int := match cs with
    | c :: rest =>
      if c = 'e' ∨ c = 'E' then
        match rest with
        | '-' :: ds => -(digitsValue ds : Int)
        | '+' :: ds => (digitsValue ds : Int)
        | ds => (digitsValue ds : Int)
      else 0
    | [] => 0
  ⟨negative, digitsValue (intPart ++ frac), expValue - frac.length⟩

/-- The number of binary digits of a natural number. -/
def bitLength (n : Nat) : Nat := n.log2 + 1

/-- A positive fraction as numerator and denominator of `digits * 10^exponent`. -/
def fraction (digits : Nat) (exponent : Int) : Nat × Nat :=
  if 0 ≤ exponent then (digits * Nat.pow 10 exponent.toNat, 1) else (digits, Nat.pow 10 (-exponent).toNat)

/-- The fraction `numer / (den * 2^e)`, as numerator and denominator. -/
def scaleDown (numer den : Nat) (e : Int) : Nat × Nat :=
  if 0 ≤ e then (numer, den * Nat.pow 2 e.toNat) else (numer * Nat.pow 2 (-e).toNat, den)

/-- Rounds `numer / den` to the nearest natural number, ties to even. -/
def roundHalfEven (numer den : Nat) : Nat :=
  let q := numer / den
  let r := numer % den
  if 2 * r > den then q + 1 else if 2 * r < den then q else if q % 2 = 1 then q + 1 else q

/-- The smallest binary exponent of a double. -/
def minExponent : Int := -1074

/-- The binary exponent that puts `numer / den` between `2^52` and `2^53`, not below the
smallest exponent. With `b` the difference of the bit lengths, the fraction lies in
`[2^(b-1), 2^(b+1))`, so the exponent is `b - 53` or one more. -/
def binaryExponent (numer den : Nat) : Int :=
  let guess : Int := (bitLength numer : Int) - bitLength den - 53
  let (a, b) := scaleDown numer den guess
  let e := if a / b < Nat.pow 2 53 then guess else guess + 1
  max e minExponent

/-- The double nearest to `numer / den` as mantissa and binary exponent; none when it is too
large for a double. -/
def nearestDouble (numer den : Nat) : Option (Nat × Int) :=
  if numer = 0 then some (0, 0)
  else
    let e := binaryExponent numer den
    let (a, b) := scaleDown numer den e
    let m := roundHalfEven a b
    let (m, e) := if m = Nat.pow 2 53 then (Nat.pow 2 52, e + 1) else (m, e)
    if e > 971 then none else some (m, e)

/-- The double of a literal's digits and power of ten. -/
def doubleOf (digits : Nat) (exponent : Int) : Option (Nat × Int) :=
  let (numer, den) := fraction digits exponent
  nearestDouble numer den

/-- The power of ten of the leading digit of a positive fraction. -/
def decimalExponent (numer den : Nat) : Int :=
  let guess : Int := ((bitLength numer : Int) - bitLength den) * 30103 / 100000
  let atLeast (p : Int) : Bool :=
    let (a, b) := fraction 1 p
    numer * b ≥ a * den
  let p := if atLeast guess then guess else guess - 1
  let p := if atLeast p then p else p - 1
  let p := if atLeast (p + 1) then p + 1 else p
  if atLeast (p + 1) then p + 1 else p

/-- The shortest digits, with their power of ten, that read back as the double `m * 2^e`,
trying one significant digit more each time. -/
def shortestAux (m : Nat) (e : Int) (numer den : Nat) (lead : Int) : Nat → Nat → Nat × Int
  | 0, _ => (m, 0)
  | fuel + 1, k =>
    let p := lead - k + 1
    let (a, b) := fraction 1 p
    let d := roundHalfEven (numer * b) (den * a)
    let (d, p) := if d = Nat.pow 10 k then (Nat.pow 10 (k - 1), p + 1) else (d, p)
    if doubleOf d p = some (m, e) || k ≥ 17 then (d, p)
    else shortestAux m e numer den lead fuel (k + 1)

/-- Drops trailing zero digits, raising the power of ten. -/
def stripZeros : Nat → Nat → Int → Nat × Int
  | 0, d, p => (d, p)
  | fuel + 1, d, p => if d ≠ 0 ∧ d % 10 = 0 then stripZeros fuel (d / 10) (p + 1) else (d, p)

/-- The shortest digits and power of ten of a positive double. -/
def shortest (m : Nat) (e : Int) : Nat × Int :=
  let (numer, den) := scaleDown m 1 (-e)
  let (d, p) := shortestAux m e numer den (decimalExponent numer den) 17 1
  stripZeros 20 d p

/-- Writes digits with a power of ten the way a double is shown. -/
def render (negative : Bool) (d : Nat) (p : Int) : String :=
  let sign := if negative then "-" else ""
  if d = 0 then sign ++ "0"
  else
    let ds := (toString d).toList
    let lead : Int := p + ds.length - 1
    if lead < -6 ∨ lead ≥ 21 then
      let mant := match ds with
        | [c] => [c]
        | c :: rest => c :: '.' :: rest
        | [] => []
      let expDigits := (toString lead.natAbs).toList
      let expText := if lead < 0 then
          '-' :: expDigits
        else '+' :: (if expDigits.length < 2 then '0' :: expDigits else expDigits)
      sign ++ String.ofList mant ++ "e" ++ String.ofList expText
    else if 0 ≤ p then sign ++ String.ofList ds ++ String.ofList (List.replicate p.toNat '0')
    else
      let point := (-p).toNat
      if point < ds.length then
        sign ++ String.ofList (ds.take (ds.length - point)) ++ "." ++
          String.ofList (ds.drop (ds.length - point))
      else sign ++ "0." ++ String.ofList (List.replicate (point - ds.length) '0') ++ String.ofList ds

/-- The text a number literal is written as after passing through a double; none when the
literal is too large for a double. -/
def asDouble (lit : String) : Option String :=
  let dec := parseDecimal lit
  match doubleOf dec.digits dec.exponent with
  | none => none
  | some (0, _) => some (if dec.negative then "-0" else "0")
  | some (m, e) =>
    let (d, p) := shortest m e
    some (render dec.negative d p)

end RemoteLsp.Json.Number
