/-!
# Instants on the UTC calendar

An instant is a number of milliseconds since 1970-01-01T00:00:00Z. It is written as an RFC
3339 timestamp in UTC: the date, `T`, the time of day to the second, then the fraction of the
second with its trailing zeros dropped (nothing when it is zero), then `Z`.

The date of a day number follows the proleptic Gregorian calendar, counting years in 400-year
eras of 146097 days that start on the first of March, so that a leap day ends its year.
-/

namespace RemoteLsp.Time

/-- Milliseconds in a second, a minute, an hour and a day. -/
def msPerSecond : Nat := 1000
def msPerMinute : Nat := 60000
def msPerHour : Nat := 3600000
def msPerDay : Nat := 86400000

/-- The year, month and day of a day number counted from 1970-01-01. -/
def civilOfDays (days : Nat) : Nat × Nat × Nat :=
  let z := days + 719468
  let era := z / 146097
  let doe := z - era * 146097
  let yoe := (doe - doe / 1460 + doe / 36524 - doe / 146096) / 365
  let doy := doe - (365 * yoe + yoe / 4 - yoe / 100)
  let mp := (5 * doy + 2) / 153
  let d := doy - (153 * mp + 2) / 5 + 1
  let m := if mp < 10 then mp + 3 else mp - 9
  let y := yoe + era * 400 + (if m ≤ 2 then 1 else 0)
  (y, m, d)

/-- A number written with at least `width` digits, zeros in front. -/
def padded (width n : Nat) : String :=
  let s := toString n
  String.ofList (List.replicate (width - s.length) '0') ++ s

/-- The fraction of a second of `ms` milliseconds, with its point, trailing zeros dropped. -/
def millisFraction (ms : Nat) : String :=
  if ms = 0 then ""
  else "." ++ String.ofList ((padded 3 ms).toList.reverse.dropWhile (· = '0')).reverse

/-- The RFC 3339 text of an instant. -/
def rfc3339 (t : Nat) : String :=
  let (y, m, d) := civilOfDays (t / msPerDay)
  let inDay := t % msPerDay
  padded 4 y ++ "-" ++ padded 2 m ++ "-" ++ padded 2 d ++ "T" ++
    padded 2 (inDay / msPerHour) ++ ":" ++ padded 2 (inDay % msPerHour / msPerMinute) ++ ":" ++
    padded 2 (inDay % msPerMinute / msPerSecond) ++ millisFraction (inDay % msPerSecond) ++ "Z"

/-- The first instant of 2024, where fake clocks start. -/
def start2024 : Nat := 1704067200000

end RemoteLsp.Time
