import RemoteLsp.Json.Raw
import RemoteLsp.Json.Write
import RemoteLsp.Backend.Kind

/-!
# Setting a value at a key path

A key path names a place in a JSON text by its steps joined with dots: a member name or an
item index. A backslash takes the next character literally, so a name can hold a dot; the
characters `.*?\|#@` of a name are always written escaped. A colon at the start of a step
marks a step that is a name even when it looks like an index, and is not part of it.

Setting a value walks the steps through the text. Where a step is found the walk goes on
inside its value, and the last step's value is replaced by the new text, leaving every other
character of the document where it was. Where a step is missing, the rest of the path is
built: a new member at the end of an object, or an item in an array (after `null` items up
to its index, or at the end for the index `-1`); a value that is neither is replaced by a
container. A name step cannot be added to an array.

Looking a step up is literal except for steps of two or more characters that open with a
selector: `!` followed by a literal or a bracket, or a bracket. Such a step yields a value
computed from the document rather than found in it, which counts as missing; an unbalanced
bracket looks up the empty name instead.
-/

namespace RemoteLsp.Json

/-- One step of a key path. -/
structure Step where
  /-- The step with its escapes taken out. -/
  name : List Char
  /-- The step as written, used to look it up. -/
  written : List Char
  /-- A leading colon made it a name. -/
  forced : Bool
  deriving Repr, DecidableEq

/-- Whether a character keeps a step literal. -/
def isPlainPathChar (c : Char) : Bool := !(c = '|' || c = '#' || c = '@' || c = '*' || c = '?')

/-- Reads one step, up to an unescaped dot: the name and the written form (reversed while
they are gathered), and the text after the dot if there is one. A step with an unescaped
selector character is not a plain step. -/
def takeStep (name written : List Char) :
    List Char → Option (List Char × List Char × Option (List Char))
  | [] => some (name.reverse, written.reverse, none)
  | '.' :: rest => some (name.reverse, written.reverse, some rest)
  | ['\\'] => some (name.reverse, ('\\' :: written).reverse, none)
  | '\\' :: c :: rest => takeStep (c :: name) (c :: '\\' :: written) rest
  | c :: rest => if isPlainPathChar c then takeStep (c :: name) (c :: written) rest else none

/-- Reads one step with its optional leading colon. -/
def readStep (cs : List Char) : Option (Step × Option (List Char)) :=
  let (forced, cs) := match cs with
    | ':' :: rest => (true, rest)
    | _ => (false, cs)
  (takeStep [] [] cs).map fun (n, w, more) => (⟨n, w, forced⟩, more)

/-- Reads all steps of a path; none when one of them is not plain. -/
def readSteps : Nat → List Char → Option (List Step)
  | 0, _ => some []
  | fuel + 1, cs => do
    let (s, more) ← readStep cs
    match more with
    | none => pure [s]
    | some rest => pure (s :: (← readSteps fuel rest))

/-- The steps of a path. -/
def steps (path : List Char) : Option (List Step) := readSteps (path.length + 1) path

/-- The index a step stands for, as a machine integer: none for a forced step or one with a
character other than a digit. The empty step is the index zero. -/
def Step.index? (s : Step) : Option Int :=
  if s.forced then none
  else if s.name.all Char.isDigit then
    let n : Nat := s.name.foldl (fun (n : Nat) c => n * 10 + (c.toNat - 48)) 0 % Nat.pow 2 64
    some (if n < Nat.pow 2 63 then (n : Int) else (n : Int) - Int.ofNat (Nat.pow 2 64))
  else none

/-- Whether a step appends to an array. -/
def Step.isAppend (s : Step) : Bool := !s.forced && s.name = ['-', '1']

/-- Whether a selector `!name` yields a value of its own: a literal, a number, a string or
a bracket, or one of the names `true`, `false`, `null`, `nan` and `inf` in any case. -/
def isStaticSelector (name : List Char) : Bool :=
  match name with
  | [] => false
  | c :: _ =>
    c ∈ ['{', '[', '"', '+', '-', '0', '1', '2', '3', '4', '5', '6', '7', '8', '9'] ||
      let word := (name.takeWhile (fun d => d ≠ '|' && d ≠ '.')).map Backend.foldChar
      word ∈ ["true".toList, "false".toList, "null".toList, "nan".toList, "inf".toList]

/-- The text after a bracketed selector list whose opening bracket has been read, at nesting
`depth`; none when the brackets do not close. A backslash hides the character after it and
brackets inside quotes do not count. -/
def selectorRest (depth : Nat) (inQuotes : Bool) : List Char → Option (List Char)
  | [] => none
  | ['\\'] => none
  | '\\' :: _ :: rest => selectorRest depth inQuotes rest
  | c :: rest =>
    if inQuotes then selectorRest depth (c ≠ '"') rest
    else if c = '"' then selectorRest depth true rest
    else if c = '[' ∨ c = '(' ∨ c = '{' then selectorRest (depth + 1) false rest
    else if c = ']' ∨ c = ')' ∨ c = '}' then
      if depth ≤ 1 then some rest else selectorRest (depth - 1) false rest
    else selectorRest depth false rest

/-- What a written step looks up: none when it is a selector yielding a value of its own,
otherwise the written name to find. -/
def lookupName (written : List Char) : Option (List Char) :=
  match written with
  | c :: d :: more =>
    if c = '!' ∧ isStaticSelector (d :: more) then none
    else if c = '[' ∨ c = '{' then
      match selectorRest 1 false (d :: more) with
      | none => some []
      | some [] => none
      | some (e :: rest) => if e = '|' ∨ e = '.' then none else some (e :: rest)
    else some written
  | _ => some written

/-- A written name with its escapes taken out; a trailing backslash is dropped. -/
def unescapeName : List Char → List Char
  | [] => []
  | '\\' :: c :: rest => c :: unescapeName rest
  | ['\\'] => []
  | c :: rest => c :: unescapeName rest

/-- The index a written step names in an array: digits only, at least one. -/
def arrayIndex? (written : List Char) : Option Nat :=
  if !written.isEmpty && written.all Char.isDigit then
    some (written.foldl (fun n c => n * 10 + (c.toNat - 48)) 0)
  else none

/-- The first value's text in a document and its offset, after blanks. -/
def rootStart (doc : List Char) : Nat × List Char :=
  let body := dropLow doc
  (doc.length - body.length, body)

/-- The offset and text of the value a written step finds in a document. -/
def find? (doc written : List Char) : Option (Nat × List Char) := do
  let name ← lookupName written
  let (start, body) := rootStart doc
  let e ← match body with
    | '{' :: _ =>
      let key := String.ofList (unescapeName name)
      (entries body).find? (·.name = key)
    | '[' :: _ => do
      let i ← arrayIndex? (name.takeWhile (fun c => c ≠ '.' && c ≠ '|'))
      (entries body)[i]?
    | _ => none
  pure (start + e.offset, e.raw)

/-- Why a value could not be set. -/
inductive SetError where
  | emptyPath
  | notPlain
  | nameInArray (name : String)
  deriving Repr, DecidableEq

/-- The written form of a new member's name: quoted as it is unless it holds a character
that needs escaping. -/
def nameText (name : List Char) : List Char :=
  if name.any (fun c => c.toNat < 32 || c.toNat > 127 || c = '"' || c = '\\') then
    writeString .wire (String.ofList name)
  else '"' :: name ++ ['"']

/-- The copies of `null,` that pad an array before an index. -/
def nullPadding (n : Int) : List Char := (List.replicate n.toNat "null,".toList).flatten

/-- The text built for the steps from the first missing one on: a member (or an item when
`inArray`) holding containers down to the new value. -/
def build (inArray : Bool) (raw : List Char) : List Step → List Char
  | [] => raw
  | s :: rest =>
    (if inArray then [] else nameText s.name ++ [':']) ++
      -- the next step decides the kind of container that holds the rest
      match rest.head? with
      | none => raw
      | some t =>
        match t.index? with
        | some n => '[' :: nullPadding n ++ build true raw rest ++ [']']
        | none =>
          if t.isAppend then '[' :: build true raw rest ++ [']']
          else '{' :: build false raw rest ++ ['}']

/-- Whether a container's text has an entry: something other than blanks before its
closing bracket. -/
def hasEntries (body : List Char) : Bool :=
  match dropLow (body.drop 1) with
  | [] => false
  | c :: _ => !(c = '}' || c = ']')

/-- The text of a container up to its last closing brace. -/
def beforeLastBrace (body : List Char) : List Char :=
  (body.reverse.dropWhile (· ≠ '}')).reverse.dropLast

/-- Drops blanks on both sides. -/
def trimLow (cs : List Char) : List Char := (dropLow cs.reverse).reverse |> dropLow

/-- Adds the missing steps `s :: rest` to a document where `s` was not found. -/
def addMissing (doc raw : List Char) (s : Step) (rest : List Step) :
    Except SetError (List Char) :=
  let numeric := s.index?.isSome
  let blank := if numeric then "[]".toList else "\x7b\x7d".toList
  let doc := if doc.all isLow then blank else doc
  let body := match dropLow doc with
    | '{' :: more => '{' :: more
    | '[' :: more => '[' :: more
    | _ => blank
  let comma := if hasEntries body then [','] else []
  match body with
  | '[' :: _ =>
    match s.index? with
    | none =>
      if s.isAppend then
        let opened := trimLow body
        let opened := if opened.getLast? = some ']' then opened.dropLast else opened
        .ok (opened ++ comma ++ build true raw (s :: rest) ++ [']'])
      else .error (.nameInArray (String.ofList s.name))
    | some n =>
      let items := (entries body).map (·.raw)
      let kept := joinWith [','] items
      let pad := if items.isEmpty then nullPadding n
        else ',' :: nullPadding (n - items.length)
      .ok ('[' :: kept ++ pad ++ build true raw (s :: rest) ++ [']'])
  | _ => .ok (beforeLastBrace body ++ comma ++ build false raw (s :: rest) ++ ['}'])

/-- Sets the value at the steps of a path in a document. -/
def setAt (raw : List Char) : List Step → List Char → Except SetError (List Char)
  | [], doc => .ok doc
  | s :: rest, doc =>
    match find? doc s.written with
    | some (place, found) =>
      let before := doc.take place
      let after := doc.drop (place + found.length)
      match rest with
      | [] => .ok (before ++ raw ++ after)
      | _ => (setAt raw rest found).map fun inner => before ++ inner ++ after
    | none => addMissing doc raw s rest

/-- Sets the value at a key path in a document to the given text. -/
def setPath (doc : List Char) (path : String) (raw : List Char) : Except SetError (List Char) :=
  if path.isEmpty then .error .emptyPath
  else match steps path.toList with
    | none => .error .notPlain
    | some ss => setAt raw ss doc

end RemoteLsp.Json
