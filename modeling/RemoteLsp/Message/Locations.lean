import RemoteLsp.Json.KeyPath
import RemoteLsp.Path.Virtual

/-!
# Document locations in messages

Messages between the editor and a remote server name documents by URI. The server names
them by `file://` URIs of its own host; the editor by virtual URIs that carry the host. A
pass over a message's text finds every place that names a document and converts it, and
leaves the rest of the text exactly as it was.

The places are the string members named `uri`, `targetUri`, `oldUri`, `newUri`, `rootUri`
and `scopeUri`; the names of the members of a `changes` or `relatedDocuments` object; the
string items of an `arguments` array; and, towards the server, a `rootPath` string, which
holds a path rather than a URI. A `data` member belongs to the server and is never looked
into. Every other object and array is searched, to any depth.

Each converted string is set at its key path in the text, one after the other. A keyed
object whose names or values change is written again in full, without the blanks between
its members. The pass counts the values it changed and the values it could not convert or
set; a value it could not convert stays as it was.
-/

namespace RemoteLsp.Message

open Json

/-- What converting one text gave. -/
inductive Converted where
  /-- The text is not of the kind converted. -/
  | unchanged
  /-- The converted text. -/
  | changed (s : String)
  /-- The text looked convertible but is malformed. -/
  | failed
  deriving Repr, DecidableEq

/-- The counts of a pass: values changed, and values left because they failed. -/
structure Tally where
  changed : Nat
  failed : Nat
  deriving Repr, DecidableEq, Inhabited

/-- A tally with one more changed value. -/
def Tally.bumpChanged (t : Tally) : Tally := { t with changed := t.changed + 1 }

/-- A tally with one more failed value. -/
def Tally.bumpFailed (t : Tally) : Tally := { t with failed := t.failed + 1 }

/-- How one direction converts texts: document URIs, and `rootPath` when it is converted. -/
structure Pass where
  convert : String → Converted
  rootPath : Option (String → Converted)

/-- A converted value to be set at a key path. -/
structure Edit where
  path : String
  raw : List Char
  deriving Repr

/-- Members whose string value names a document or a directory. -/
def documentFields : List String := ["uri", "targetUri", "oldUri", "newUri", "rootUri", "scopeUri"]

/-- Members whose object value is keyed by document URIs. -/
def keyedFields : List String := ["changes", "relatedDocuments"]

/-- Members that are handed back untouched. -/
def opaqueFields : List String := ["data"]

/-- Whether a character is written escaped in a key path step. -/
def isPathSyntax (c : Char) : Bool :=
  c = '.' || c = '*' || c = '?' || c = '\\' || c = '|' || c = '#' || c = '@'

/-- A member name as a key path step. -/
def escapeStep (key : String) : String :=
  String.ofList (key.toList.flatMap fun c => if isPathSyntax c then ['\\', c] else [c])

/-- The key path of a member or item below `path`; a step below the root path is the path. -/
def join (path key : String) : String :=
  if path.isEmpty then escapeStep key else path ++ "." ++ escapeStep key

/-- Records the conversion of the string `v` at `path`. -/
def convertAt (path v : String) (convert : String → Converted) (acc : List Edit × Tally) :
    List Edit × Tally :=
  match convert v with
  | .unchanged => acc
  | .failed => (acc.1, acc.2.bumpFailed)
  | .changed out => (acc.1 ++ [⟨path, writeString .wire out⟩], acc.2.bumpChanged)

/-- Applies edits one after the other; one that cannot be set is counted as failed. -/
def applyEdits (edits : List Edit) (doc : List Char) (t : Tally) : List Char × Tally :=
  edits.foldl (fun (doc, t) e =>
    match setPath doc e.path e.raw with
    | .ok next => (next, t)
    | .error _ => (doc, t.bumpFailed)) (doc, t)

/-- Gathers the edits for the items of an `arguments` array at `path`: a string item is a
location, any other item is walked with `walk`. -/
def collectArguments (p : Pass) (walk : List Char → String → List Edit × Tally → List Edit × Tally)
    (path : String) (raw : List Char) (acc : List Edit × Tally) : List Edit × Tally :=
  (entries raw).zipIdx.foldl (fun acc (item, i) =>
    let place := join path (toString i)
    if isStringText item.raw then convertAt place (decodeLiteral item.raw) p.convert acc
    else walk item.raw place acc) acc

/-- Gathers the edits for one member of an object at `path`: values are walked with `walk`, and
keyed objects written again with `rekey`. -/
def collectMember (p : Pass) (walk : List Char → String → List Edit × Tally → List Edit × Tally)
    (rekey : String → List Char → List Edit × Tally → List Edit × Tally) (path : String)
    (acc : List Edit × Tally) (e : Entry) : List Edit × Tally :=
  let key := e.name
  let child := join path key
  if key ∈ opaqueFields then acc
  else if isStringText e.raw && key = "rootPath" && p.rootPath.isSome then
    convertAt child (decodeLiteral e.raw) (p.rootPath.getD fun _ => .unchanged) acc
  else if isStringText e.raw && key ∈ documentFields then
    convertAt child (decodeLiteral e.raw) p.convert acc
  else if isObjectText e.raw && key ∈ keyedFields then rekey child e.raw acc
  else if isArrayText e.raw && key = "arguments" then collectArguments p walk child e.raw acc
  else walk e.raw child acc

/-- Writes one member of a keyed object again: its name converted, its value passed over with
`map`; whether anything changed so far, and the tally. -/
def keyedEntry (p : Pass) (map : List Char → Tally → List Char × Tally)
    (acc : List (List Char) × Bool × Tally) (e : Entry) : List (List Char) × Bool × Tally :=
  let (parts, changed, t) := acc
  let (key, changed, t) := match p.convert e.name with
    | .unchanged => (e.name, changed, t)
    | .failed => (e.name, changed, t.bumpFailed)
    | .changed out => (out, true, t.bumpChanged)
  let (value, t) := map e.raw t
  (parts ++ [writeString .wire key ++ [':'] ++ value], changed || value != e.raw, t)

mutual

/-- Converts the locations in a text, which is left alone when it is empty or not JSON. The
walk starts at the value, after any blanks that open the text. -/
def mapText (p : Pass) : Nat → List Char → Tally → List Char × Tally
  | 0, cs, t => (cs, t)
  | fuel + 1, cs, t =>
    if cs.isEmpty || !isValidText (String.ofList cs) then (cs, t)
    else
      let (edits, t) := collect p fuel (dropLow cs) "" ([], t)
      applyEdits edits cs t

/-- Gathers the edits for the value `raw` at `path`. -/
def collect (p : Pass) : Nat → List Char → String → List Edit × Tally → List Edit × Tally
  | 0, _, _, acc => acc
  | fuel + 1, raw, path, acc =>
    if isObjectText raw then
      (entries raw).foldl (collectMember p (collect p fuel) (keyed p fuel) path) acc
    else if isArrayText raw then
      (entries raw).zipIdx.foldl (fun acc (item, i) =>
        collect p fuel item.raw (join path (toString i)) acc) acc
    else acc

/-- Writes a keyed object again with its names converted and its values passed over, and
records it when anything in it changed. -/
def keyed (p : Pass) : Nat → String → List Char → List Edit × Tally → List Edit × Tally
  | 0, _, _, acc => acc
  | fuel + 1, path, raw, (edits, t) =>
    let (parts, changed, t) :=
      (entries raw).foldl (keyedEntry p (mapText p fuel)) (([] : List (List Char)), false, t)
    if changed then (edits ++ [⟨path, '{' :: joinWith [','] parts ++ ['}']⟩], t)
    else (edits, t)

end

/-- Converts the locations in a message's text, with the counts of the pass. -/
def mapPayload (p : Pass) (payload : String) : String × Tally :=
  let (out, t) := mapText p (payload.length + 2) payload.toList ⟨0, 0⟩
  (String.ofList out, t)

/-- Converts file URIs of the server's host into virtual URIs on `host`. -/
def toEditorPass (t : Path.Translator) (host : String) : Pass where
  convert v :=
    if Text.startsWith v "file:" then
      match t.fileUriToVirtual v host with
      | .ok out => .changed out
      | .error _ => .failed
    else .unchanged
  rootPath := none

/-- Converts virtual URIs into file URIs, and a virtual `rootPath` into its path. -/
def toServerPass (t : Path.Translator) : Pass where
  convert v :=
    if Text.startsWith v t.pfx then
      match t.virtualToFileUri v with
      | some out => .changed out
      | none => .failed
    else .unchanged
  rootPath := some fun v =>
    if Text.startsWith v t.pfx then
      match t.fromVirtual v with
      | some (_, path) => .changed path
      | none => .failed
    else .unchanged

end RemoteLsp.Message
