import RemoteLsp.Text.Chars

/-!
# Durations as text

A duration is a whole number of nanoseconds. Its text uses the largest units that fit:
below one second a single unit (`ns`, `µs` or `ms`) with a decimal fraction, from one second
on hours, minutes and seconds, where the seconds carry the fraction (`1.5s`, `5m0s`,
`2h0m0s`). Fractions lose their trailing zeros, and their point when nothing is left; zero
is `0s`.
-/

namespace RemoteLsp.Time

/-- Nanoseconds in a microsecond, a millisecond and a second. -/
def microsecond : Nat := 1000
def millisecond : Nat := 1000000
def second : Nat := 1000000000

/-- The fraction of `v / 10 ^ prec` after the point, with the point, trailing zeros dropped;
empty when the fraction is zero. -/
def fraction (v prec : Nat) : String :=
  let digits := (Nat.toDigits 10 (v % Nat.pow 10 prec + Nat.pow 10 prec)).drop 1
  let kept := (digits.reverse.dropWhile (· = '0')).reverse
  if kept.isEmpty then "" else "." ++ String.ofList kept

/-- The text of a duration of `n` nanoseconds, not negative. -/
def formatNat (n : Nat) : String :=
  if n = 0 then "0s"
  else if n < microsecond then toString n ++ "ns"
  else if n < millisecond then toString (n / 1000) ++ fraction n 3 ++ "µs"
  else if n < second then toString (n / 1000000) ++ fraction n 6 ++ "ms"
  else
    let secs := n / second
    let s := toString (secs % 60) ++ fraction n 9 ++ "s"
    let mins := secs / 60
    if mins = 0 then s
    else
      let s := toString (mins % 60) ++ "m" ++ s
      let hours := mins / 60
      if hours = 0 then s else toString hours ++ "h" ++ s

/-- The text of a duration of `n` nanoseconds. -/
def formatNanos (n : Int) : String :=
  if n < 0 then "-" ++ formatNat n.natAbs else formatNat n.toNat

/-- The text of a duration of `ms` milliseconds. -/
def formatMillis (ms : Int) : String := formatNanos (ms * 1000000)

/-- The nanoseconds in a unit of duration text. -/
def unitNanos : String → Option Nat
  | "ns" => some 1
  | "us" | "µs" | "μs" => some microsecond
  | "ms" => some millisecond
  | "s" => some second
  | "m" => some (60 * second)
  | "h" => some (3600 * second)
  | _ => none

/-- The largest number of nanoseconds a duration holds, and one past the most negative. -/
def durationLimit : Nat := Nat.pow 2 63

/-- Reads the terms of a duration, each a decimal number with an optional fraction and a
unit, adding their nanoseconds; none when a term is malformed or the sum overflows. -/
def durationTerms : Nat → List Char → Nat → Option Nat
  | 0, _, _ => none
  | _, [], acc => some acc
  | fuel + 1, cs, acc =>
    let whole := cs.takeWhile Char.isDigit
    let cs := cs.drop whole.length
    let (frac, dotted, cs) := match cs with
      | '.' :: r =>
        let f := r.takeWhile Char.isDigit
        (f, true, r.drop f.length)
      | r => ([], false, r)
    if whole.isEmpty && frac.isEmpty then none
    else
      let unit := cs.takeWhile fun c => !(c = '.' || c.isDigit)
      let cs := cs.drop unit.length
      match unitNanos (String.ofList unit) with
      | none => none
      | some u =>
        let v := whole.foldl (fun n c => n * 10 + (c.toNat - 48)) 0
        let f := frac.foldl (fun n c => n * 10 + (c.toNat - 48)) 0
        let scale := Nat.pow 10 frac.length
        let part := v * u + (if dotted then f * u / scale else 0)
        if v > durationLimit / u || part > durationLimit || acc + part > durationLimit then none
        else durationTerms fuel cs (acc + part)

/-- The nanoseconds a duration text stands for: an optional sign, then terms such as `1h`,
`1.5s` or `300ms`; a lone `0` is zero. None when the text is not a duration. -/
def parseDuration? (s : String) : Option Int :=
  let (neg, cs) := match s.toList with
    | '-' :: r => (true, r)
    | '+' :: r => (false, r)
    | r => (false, r)
  if cs = ['0'] then some 0
  else if cs.isEmpty then none
  else
    match durationTerms (cs.length + 1) cs 0 with
    | none => none
    | some d =>
      if neg then some (-(d : Int))
      else if d ≥ durationLimit then none
      else some d

end RemoteLsp.Time
