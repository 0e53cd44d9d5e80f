/-!
# White space and trimming

The blank characters of Unicode's `White_Space` property, and the trims that take them off
the ends of a text. Host names, environment paths and backend names typed by a user are
trimmed with these before they are compared or stored.
-/

namespace RemoteLsp.Text

/-- A character of Unicode's `White_Space` property: the ASCII blanks, next line, no-break
space, and the space separators, line and paragraph separators above Latin-1. -/
def isBlank (c : Char) : Bool :=
  let n := c.toNat
  (9 ≤ n && n ≤ 13) || n == 32 || n == 0x85 || n == 0xA0 || n == 0x1680 ||
    (0x2000 ≤ n && n ≤ 0x200A) || n == 0x2028 || n == 0x2029 || n == 0x202F ||
    n == 0x205F || n == 0x3000

/-- Drops the blanks at the front of a character list. -/
def dropBlanks (cs : List Char) : List Char := cs.dropWhile isBlank

/-- Drops the blanks at the end of a character list. -/
def dropBlanksRight (cs : List Char) : List Char := (dropBlanks cs.reverse).reverse

/-- The text without blanks at either end. -/
def trimBlanks (s : String) : String := String.ofList (dropBlanksRight (dropBlanks s.toList))

/-- Drops every trailing occurrence of the character `c`. -/
def dropRightWhileEq (c : Char) (cs : List Char) : List Char :=
  (cs.reverse.dropWhile (· == c)).reverse

/-- The text without the character `c` repeated at its end. -/
def trimRightChar (s : String) (c : Char) : String := String.ofList (dropRightWhileEq c s.toList)

theorem dropBlanks_head {cs : List Char} {c : Char} {r : List Char}
    (h : dropBlanks cs = c :: r) : isBlank c = false := by
  unfold dropBlanks at h
  induction cs with
  | nil => simp at h
  | cons d ds ih =>
    by_cases hd : isBlank d = true
    · simp [List.dropWhile, hd] at h
      exact ih h
    · simp [List.dropWhile, hd] at h
      obtain ⟨rfl, -⟩ := h
      simpa using hd

end RemoteLsp.Text
