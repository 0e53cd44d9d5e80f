/-!
# Texts as character lists

Prefix and suffix tests, cuts at a separator and replacement of a piece, all stated on the
character list of a text. Working on lists keeps these operations small to compute and easy
to reason about.
-/

namespace RemoteLsp.Text

/-- Whether `p` is a prefix of `s`. -/
def startsWith (s p : String) : Bool := p.toList.isPrefixOf s.toList

/-- Whether `p` is a suffix of `s`. -/
def endsWith (s p : String) : Bool := p.toList.reverse.isPrefixOf s.toList.reverse

/-- The rest of `s` after the prefix `p`, if `s` starts with it. -/
def dropPrefix? (s p : String) : Option String :=
  if startsWith s p then some (String.ofList (s.toList.drop p.length)) else none

/-- `s` without the suffix `p`, if `s` ends with it. -/
def dropSuffix? (s p : String) : Option String :=
  if endsWith s p then some (String.ofList (s.toList.take (s.length - p.length))) else none

/-- `s` without the prefix `p` if it has it, else `s`. -/
def trimPrefix (s p : String) : String := (dropPrefix? s p).getD s

/-- `s` without the suffix `p` if it has it, else `s`. -/
def trimSuffix (s p : String) : String := (dropSuffix? s p).getD s

/-- The pieces of a character list between occurrences of `sep`, empty ones included. -/
def splitChars (sep : Char) : List Char → List (List Char)
  | [] => [[]]
  | c :: cs =>
    if c = sep then [] :: splitChars sep cs
    else match splitChars sep cs with
      | first :: more => (c :: first) :: more
      | [] => [[c]]

/-- The pieces of a text between occurrences of `sep`. -/
def split (s : String) (sep : Char) : List String := (splitChars sep s.toList).map String.ofList

/-- The text before and after the first `sep`, or `none` when `sep` does not occur. -/
def cut? (s : String) (sep : Char) : Option (String × String) :=
  let cs := s.toList
  if sep ∈ cs then
    some (String.ofList (cs.takeWhile (· ≠ sep)), String.ofList ((cs.dropWhile (· ≠ sep)).drop 1))
  else none

/-- Replaces every occurrence of the non-empty piece `old` in a character list, left to right;
`skip` counts the characters of a replaced occurrence still to pass over. -/
def replaceChars (old new : List Char) : Nat → List Char → List Char
  | _, [] => []
  | skip + 1, _ :: cs => replaceChars old new skip cs
  | 0, c :: cs =>
    if old ≠ [] ∧ old.isPrefixOf (c :: cs) then new ++ replaceChars old new (old.length - 1) cs
    else c :: replaceChars old new 0 cs

/-- Replaces every occurrence of the non-empty piece `old` in `s` by `new`. -/
def replaceAll (s old new : String) : String :=
  String.ofList (replaceChars old.toList new.toList 0 s.toList)

/-- Joins texts with a separator between them. -/
def joinSep (sep : String) : List String → String
  | [] => ""
  | [x] => x
  | x :: xs => x ++ sep ++ joinSep sep xs

end RemoteLsp.Text
