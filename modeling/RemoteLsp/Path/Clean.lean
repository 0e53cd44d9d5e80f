import RemoteLsp.Text.Chars

/-!
# Lexical slash paths

Slash-separated paths are cleaned without looking at any file system: repeated slashes become
one, `.` segments go, and `..` removes the segment before it. A rooted path cannot climb above
the root, while a relative one keeps the `..` it cannot resolve. The empty result is `.`, or `/`
for a rooted path.
-/

namespace RemoteLsp.Path

/-- The segments of a path between its slashes, empty ones included. -/
def segments (p : String) : List String := (Text.splitChars '/' p.toList).map String.ofList

/-- Resolves segments from left to right onto `stack`, which holds the kept segments in reverse. -/
def resolve (rooted : Bool) : List String → List String → List String
  | stack, [] => stack
  | stack, seg :: rest =>
    if seg = "" ∨ seg = "." then resolve rooted stack rest
    else if seg = ".." then
      match stack with
      | top :: below => if top = ".." then resolve rooted (".." :: stack) rest
                        else resolve rooted below rest
      | [] => if rooted then resolve rooted [] rest else resolve rooted [".."] rest
    else resolve rooted (seg :: stack) rest

/-- The shortest path that names the same place as `p` by lexical rules alone. -/
def clean (p : String) : String :=
  if p = "" then "."
  else
    let rooted := p.toList.head? = some '/'
    let body := "/".intercalate (resolve rooted [] (segments p)).reverse
    if rooted then "/" ++ body
    else if body = "" then "." else body

/-- The part of a path before its last slash, cleaned. -/
def dir (p : String) : String :=
  let cs := p.toList
  let front := (cs.reverse.dropWhile (· ≠ '/')).reverse
  clean (String.ofList front)

/-- The last segment of a path, ignoring trailing slashes; `/` for a path of slashes only. -/
def base (p : String) : String :=
  if p = "" then "."
  else
    let trimmed := (p.toList.reverse.dropWhile (· = '/')).reverse
    let last := (trimmed.reverse.takeWhile (· ≠ '/')).reverse
    if trimmed.isEmpty then "/" else String.ofList last

end RemoteLsp.Path
