import RemoteLsp.Text.Space
import RemoteLsp.Text.Chars

/-!
# Environment roots

A user may name a Python environment by its root, its `bin` directory or its interpreter. All of
these are brought to the root: blanks at the ends are dropped, then trailing slashes and one of
the suffixes `/bin/python3`, `/bin/python`, `/bin` are removed, again and again until nothing
changes. A path that was nothing but such suffixes becomes `/`. A blank text names no
environment.
-/

namespace RemoteLsp.Path

/-- The suffixes that point into an environment, longest first. -/
def environmentSuffixes : List String := ["/bin/python3", "/bin/python", "/bin"]

/-- Drops trailing slashes, keeping a lone `/` for a path of slashes. -/
def trimTrailingSlashes (p : String) : String :=
  let trimmed := Text.trimRightChar p '/'
  if trimmed = "" ∧ p.toList.head? = some '/' then "/" else trimmed

/-- Drops the first of `suffixes` that `p` ends with. -/
def dropEnvironmentSuffix (p : String) : List String → String
  | [] => p
  | s :: rest => match Text.dropSuffix? p s with
    | some q => q
    | none => dropEnvironmentSuffix p rest

/-- One round of normalisation: trailing slashes, then one suffix; an empty result is `/`. -/
def normalizeStep (p : String) : String :=
  let q := dropEnvironmentSuffix (trimTrailingSlashes p) environmentSuffixes
  if q = "" then "/" else q

/-- Repeats `normalizeStep` until it changes nothing. Each round that changes the path makes it
shorter, except the one from the empty path to `/`, so the length plus two rounds suffice. -/
def normalizeLoop : Nat → String → String
  | 0, p => p
  | fuel + 1, p =>
    let q := normalizeStep p
    if q = p then p else normalizeLoop fuel q

/-- The environment root named by a user's text, or `none` for a blank text. -/
def normalizeEnvironment (raw : String) : Option String :=
  let p := Text.trimBlanks raw
  if p = "" then none else some (normalizeLoop (p.length + 2) p)

end RemoteLsp.Path
