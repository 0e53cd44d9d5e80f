import RemoteLsp.Config.Shape
import RemoteLsp.Yaml.Write

/-!
# Configuration from merged YAML sources

A configuration is read from several YAML sources in order. Each source that holds content is
merged over what came before: mappings merge key by key, a later scalar or sequence replaces
an earlier one, and an explicit null clears what was there. A source of one kind cannot be
merged over a value of another kind, such as a scalar over a mapping.

The merged value is written out again as one document, and variables in that text are then
replaced from the environment: `${NAME}` or `$NAME` by the variable's value, `${NAME:default}`
by the default when the variable is not set, and `$$` by a dollar sign. A variable that is not
set and has no default is an error. The text is read once more, so that a replaced value is
typed by what it became.

A setting is found by a dotted path of keys. Reading it writes the value at the path out as a
document of its own and reads that document strictly into the shape asked for; a path that
leads nowhere leaves the setting unset.
-/

namespace RemoteLsp.Config

/-- The kind of a value as merging names it. -/
def kindWord : Json → String
  | .obj _ => "mapping"
  | .arr _ => "sequence"
  | _ => "scalar"

/-- The error of merging a value over one of another kind. -/
def mergeError (later into : Json) : String :=
  "can't merge a " ++ kindWord later ++ " into a " ++ kindWord into

/-- The members with a key set to a value, in place when the key is there, else at the end. -/
def setMember (ms : List (String × Json)) (k : String) (v : Json) : List (String × Json) :=
  if ms.any (·.1 = k) then ms.map fun (k', w) => if k' = k then (k', v) else (k', w)
  else ms ++ [(k, v)]

mutual
/-- Merges a later value over an earlier one. -/
def merge (into : Json) : Json → Except String Json
  | .null => .ok .null
  | .obj ms =>
    match into with
    | .null => .ok (.obj ms)
    | .obj base => (mergeMembers base ms).map .obj
    | other => .error (mergeError (.obj ms) other)
  | .arr xs =>
    match into with
    | .null | .arr _ => .ok (.arr xs)
    | other => .error (mergeError (.arr xs) other)
  | v =>
    match into with
    | .obj _ | .arr _ => .error (mergeError v into)
    | _ => .ok v

/-- Merges later members over earlier ones, key by key. -/
def mergeMembers (base : List (String × Json)) :
    List (String × Json) → Except String (List (String × Json))
  | [] => .ok base
  | (k, v) :: rest => do
    let merged ← merge ((Json.lastField? base k).getD .null) v
    mergeMembers (setMember base k merged) rest
end

/-- Whether a character may follow a dollar sign as a one-character variable. -/
def isSpecialVar (c : Char) : Bool := "*#$@!?-".toList.contains c || c.isDigit

/-- Whether a character may be part of a variable's name. -/
def isNameChar (c : Char) : Bool := c.isAlphanum || c = '_'

/-- The variable named after a dollar sign, and how many characters the reference takes; an
empty name with a width is malformed and dropped, with no width the dollar sign stays. -/
def variableAfter (cs : List Char) : String × Nat :=
  match cs with
  | '{' :: rest =>
    match rest with
    | c :: '}' :: _ => if isSpecialVar c then (String.ofList [c], 3) else braced rest
    | _ => braced rest
  | c :: _ =>
    if isSpecialVar c then (String.ofList [c], 1)
    else
      let name := cs.takeWhile isNameChar
      (String.ofList name, name.length)
  | [] => ("", 0)
where
  braced (rest : List Char) : String × Nat :=
    match rest.findIdx? (· = '\x7d') with
    | some 0 => ("", 2)
    | some i => (String.ofList (rest.take i), i + 2)
    | none => ("", 1)

/-- The value a variable reference stands for: the variable's value, else the default after
its first colon, which must not be empty. -/
def resolveVariable (env : String → Option String) (name : String) : Except String String :=
  let (key, dflt) := match Text.cut? name ':' with
    | some (k, d) => (k, d)
    | none => (name, "")
  match env key with
  | some v => .ok v
  | none =>
    if dflt.isEmpty then
      .error ("default is empty for " ++ Text.quoted key ++ " (use \"\" for empty string)")
    else .ok dflt

/-- Replaces the variable references of a text. -/
def expandChars (env : String → Option String) : Nat → List Char → Except String (List Char)
  | 0, cs => .ok cs
  | fuel + 1, cs =>
    match cs with
    | [] => .ok []
    | '$' :: rest@(_ :: _) =>
      let (name, width) := variableAfter rest
      let after := rest.drop width
      if name = "$" then return '$' :: (← expandChars env fuel after)
      else if name.isEmpty && width > 0 then expandChars env fuel after
      else if name.isEmpty then return '$' :: (← expandChars env fuel after)
      else do
        let v ← resolveVariable env name
        return v.toList ++ (← expandChars env fuel after)
    | c :: rest => return c :: (← expandChars env fuel rest)

/-- Replaces the variable references of a text from an environment. -/
def expandText (env : String → Option String) (s : String) : Except String String :=
  (expandChars env (s.length + 1) s.toList).map String.ofList

/-- The names of the variables a text refers to, each once, in order of first reference. -/
def referencedVariables (s : String) : List String :=
  let rec scan : Nat → List Char → List String → List String
    | 0, _, acc => acc
    | _ + 1, [], acc => acc
    | fuel + 1, '$' :: rest, acc =>
      let (name, width) := variableAfter rest
      let key := match Text.cut? name ':' with
        | some (k, _) => k
        | none => name
      let acc := if key.isEmpty || key = "$" || acc.contains key then acc else acc ++ [key]
      scan fuel (rest.drop (max width 1)) acc
    | fuel + 1, _ :: rest, acc => scan fuel rest acc
  scan (s.length + 1) s.toList []

/-- A loaded configuration: the merged value, when a source held content. -/
structure Provider where
  contents : Option Json
  deriving Repr

/-- Merges the sources in order, skipping those without content. -/
def mergeSources (sources : List String) : Except String (Option Json) :=
  sources.foldlM (fun acc src =>
    match Yaml.readDocument src with
    | .error e => .error ("couldn't decode source: " ++ e.message)
    | .ok none => .ok acc
    | .ok (some v) => (merge (acc.getD .null) v).map some) none

/-- Loads a configuration from its sources, replacing variables from an environment. -/
def Provider.load (env : String → Option String) (sources : List String) :
    Except String Provider := do
  let merged ← match mergeSources sources with
    | .ok m => pure m
    | .error e => throw ("couldn't merge YAML sources: " ++ e)
  match merged with
  | none => pure ⟨none⟩
  | some v =>
    let text ← match expandText env (Yaml.render .config v) with
      | .ok t => pure t
      | .error e => throw ("couldn't expand environment: " ++ e)
    match Yaml.readDocument text with
    | .ok c => pure ⟨c⟩
    | .error e => throw ("couldn't decode merged YAML: " ++ e.message)

/-- The value at a dotted path of keys, if the path leads to one. -/
def Provider.get? (p : Provider) (path : String) : Option Json :=
  (Text.split path '.').foldl (fun acc k => match acc with
    | some (.obj ms) => Json.lastField? ms k
    | _ => none) p.contents

/-- Reads the setting at a path into a shape; unset when the path leads nowhere. -/
def Provider.populate (p : Provider) (path : String) (s : Shape) : Except String Setting :=
  match p.get? path with
  | none => .ok .unset
  | some v =>
    match Yaml.readTree (Yaml.render .config v) with
    | .error e => .error e.message
    | .ok doc => readInto s doc

theorem merge_null_over (into : Json) : merge into .null = .ok .null := by
  cases into <;> rfl

theorem populate_absent (p : Provider) (path : String) (s : Shape) (h : p.get? path = none) :
    p.populate path s = .ok .unset := by
  simp [Provider.populate, h]

end RemoteLsp.Config
