import RemoteLsp.Json.Raw
import RemoteLsp.Json.Write
import RemoteLsp.Json.Number

/-!
# Decoding JSON into declared types

A message parameter has a declared type: a record of named fields, a list, a string, an
integer of some width, a pointer that may be absent, a map, or a value of any shape. Decoding
fills a value of that type from JSON text and encoding writes it back:

* every field starts at its zero value; a member that names no field is skipped, and a name
  is matched exactly first and then ignoring letter case;
* `null` leaves a string, number, boolean or record as it was and clears a pointer, list,
  map or dynamic value;
* a repeated member of a record is decoded again into what the first one left, so records
  merge; a repeated member of a map replaces the earlier one;
* a value of the wrong kind is an error naming the kind found, the path of member names from
  the root and the declared type; an integer that is fractional or out of range also shows
  the literal; the first such error in the text is the one reported;
* a dynamic value keeps objects as maps, whose names are sorted when written, and numbers as
  binary doubles;
* fields are written in declaration order, and a field marked omittable is left out when it
  holds the empty value of its type.
-/

namespace RemoteLsp.Json

/-- A declared type, with the names used for it in decoding errors. -/
inductive Schema where
  /-- A string type. -/
  | text (typeName : String)
  /-- A boolean. -/
  | flag
  /-- An integer type with its bounds. -/
  | integer (typeName : String) (lo hi : Int)
  /-- A progress token: a string or a 32-bit integer. -/
  | token
  /-- A value of any shape. -/
  | dynamic
  /-- A record whose fields are kept as a dynamic object: an object or null is accepted. -/
  | loose (typeName : String)
  /-- A value kept as its text. -/
  | raw
  /-- A list of items of one type. -/
  | list (typeName : String) (item : Schema)
  /-- A record: its type, the short name shown before a field path, and its fields with
  their names, types and whether they are left out when empty. -/
  | record (typeName structName : String) (fields : List (String × Schema × Bool))
  /-- A pointer to a value, absent when null. -/
  | pointer (target : Schema)
  /-- A map from names to values of one type. -/
  | map (typeName : String) (value : Schema)
  deriving Inhabited

/-- A decoded value of a declared type. -/
inductive Val where
  | text (s : String)
  | flag (b : Bool)
  | int (i : Int)
  /-- An absent pointer, list, map or dynamic value. -/
  | nil
  | dyn (j : Json)
  | raw (text : List Char)
  | list (items : List Val)
  | record (fields : List Val)
  | map (entries : List (String × Val))
  | ptr (v : Val)
  deriving Inhabited, Repr

namespace Schema

/-- The name of a type as decoding errors show it. -/
def typeName : Schema → String
  | text t => t
  | flag => "bool"
  | integer t _ _ => t
  | token => "protocol.ProgressToken"
  | dynamic => "interface \x7b\x7d"
  | loose t => t
  | raw => "jsontext.Value"
  | list t _ => t
  | record t _ _ => t
  | pointer s => s.typeName
  | map t _ => t

/-- The short record name shown before a field path, empty for other types. -/
def rootName : Schema → String
  | record _ n _ => n
  | pointer s => s.rootName
  | _ => ""

mutual

/-- The zero value of a type. -/
def zero : Schema → Val
  | text _ => .text ""
  | flag => .flag false
  | integer _ _ _ => .int 0
  | token => .nil
  | dynamic => .nil
  | loose _ => .nil
  | raw => .nil
  | list _ _ => .nil
  | record _ _ fs => .record (zeroFields fs)
  | pointer _ => .nil
  | map _ _ => .nil

/-- The zero values of a record's fields. -/
def zeroFields : List (String × Schema × Bool) → List Val
  | [] => []
  | (_, s, _) :: rest => zero s :: zeroFields rest

end

end Schema

/-- Why a value could not be decoded. -/
structure DecodeError where
  /-- What was found: the kind of value, with the literal for a bad integer. -/
  found : String
  /-- The member names and item indices from the root to the value. -/
  path : List String
  /-- The declared type. -/
  typeName : String
  deriving Repr, DecidableEq

/-- The message of a decoding error, for a root of the given short record name. -/
def DecodeError.message (e : DecodeError) (rootName : String) : String :=
  if e.path.isEmpty then
    "json: cannot unmarshal " ++ e.found ++ " into Go value of type " ++ e.typeName
  else
    "json: cannot unmarshal " ++ e.found ++ " into Go struct field " ++ rootName ++ "." ++
      ".".intercalate e.path ++ " of type " ++ e.typeName

/-- The form of a character used to match member names ignoring case. -/
def foldNameChar (c : Char) : Char :=
  if 'A' ≤ c ∧ c ≤ 'Z' then Char.ofNat (c.toNat + 32)
  else if c.toNat = 0x212A then 'k'
  else if c.toNat = 0x17F then 's'
  else c

/-- Whether two names are equal ignoring case. -/
def sameNameFolded (a b : String) : Bool := a.toList.map foldNameChar = b.toList.map foldNameChar

/-- The index of the field a member name selects: the exact name first, then the first
name equal ignoring case. -/
def fieldIndex (fields : List (String × Schema × Bool)) (key : String) : Option Nat :=
  match fields.findIdx? (·.1 = key) with
  | some i => some i
  | none => fields.findIdx? (fun f => sameNameFolded f.1 key)

/-- Whether a literal is a plain integer: an optional minus sign and digits. -/
def isIntegerLiteral (lit : String) : Bool :=
  match lit.toList with
  | '-' :: ds => !ds.isEmpty && ds.all Char.isDigit
  | ds => !ds.isEmpty && ds.all Char.isDigit

/-- The value of a plain integer literal. -/
def integerValue (lit : String) : Int :=
  match lit.toList with
  | '-' :: ds => -(Number.digitsValue ds : Int)
  | ds => (Number.digitsValue ds : Int)

/-- Sets a member of a map, replacing an earlier one of the same name. -/
def setEntry (entries : List (String × Val)) (key : String) (v : Val) : List (String × Val) :=
  if entries.any (·.1 = key) then entries.map (fun e => if e.1 = key then (key, v) else e)
  else entries ++ [(key, v)]

/-- Inserts a member into a list sorted by name. -/
def insertSorted {α : Type} (kv : String × α) : List (String × α) → List (String × α)
  | [] => [kv]
  | x :: xs => if kv.1 < x.1 then kv :: x :: xs else x :: insertSorted kv xs

/-- Members sorted by name. -/
def sortMembers {α : Type} (ms : List (String × α)) : List (String × α) :=
  ms.foldl (fun acc kv => insertSorted kv acc) []

/-- Keeps the last member of each name. -/
def lastOfEach {α : Type} (ms : List (String × α)) : List (String × α) :=
  ms.foldl (fun acc kv => if acc.any (·.1 = kv.1)
    then acc.map (fun e => if e.1 = kv.1 then kv else e) else acc ++ [kv]) []

/-- A JSON value as a dynamic value holds it: numbers as doubles and objects as maps with
sorted names. -/
def dynamicOf (path : List String) : Nat → Json → Except DecodeError Json
  | 0, j => .ok j
  | fuel + 1, j =>
    match j with
    | .num lit =>
      match Number.asDouble lit with
      | some t => .ok (.num t)
      | none => .error ⟨"number " ++ lit, path, "float64"⟩
    | .arr items => do
      let items ← items.mapM (dynamicOf path fuel)
      pure (.arr items)
    | .obj ms => do
      let ms ← (sortMembers (lastOfEach ms)).mapM fun (k, v) => do
        pure (k, ← dynamicOf (path ++ [k]) fuel v)
      pure (.obj ms)
    | other => .ok other

/-- Decodes a value of type `s` into `cur`, from the value `j` whose text is `raw`. -/
def decodeInto (path : List String) : Nat → Schema → Val → Json → List Char →
    Except DecodeError Val
  | 0, _, cur, _, _ => .ok cur
  | fuel + 1, s, cur, j, raw =>
    let mismatch : Except DecodeError Val := .error ⟨j.kindName, path, s.typeName⟩
    match s, j with
    | .raw, _ => .ok (.raw raw)
    | .pointer _, .null => .ok .nil
    | .list _ _, .null => .ok .nil
    | .map _ _, .null => .ok .nil
    | .dynamic, .null => .ok .nil
    | .loose _, .null => .ok .nil
    | .token, .null => .ok .nil
    | _, .null => .ok cur
    | .text _, .str v => .ok (.text v)
    | .flag, .bool b => .ok (.flag b)
    | .integer t lo hi, .num lit =>
      if isIntegerLiteral lit then
        let n := integerValue lit
        if lo ≤ n ∧ n ≤ hi then .ok (.int n) else .error ⟨"number " ++ lit, path, t⟩
      else .error ⟨"number " ++ lit, path, t⟩
    | .token, .str v => .ok (.text v)
    | .token, .num lit =>
      if isIntegerLiteral lit ∧ -2147483648 ≤ integerValue lit ∧ integerValue lit ≤ 2147483647
      then .ok (.int (integerValue lit))
      else .error ⟨"number " ++ lit, path, "int32"⟩
    | .dynamic, _ => (dynamicOf path (raw.length + 1) j).map .dyn
    | .loose _, .obj _ => (dynamicOf path (raw.length + 1) j).map .dyn
    | .list _ item, .arr items => do
      let raws := (entries raw).map (·.raw)
      let vs ← (items.zip (raws ++ List.replicate (items.length - raws.length) [])).zipIdx.mapM
        fun ((v, r), i) => decodeInto (path ++ [toString i]) fuel item item.zero v r
      pure (.list vs)
    | .record _ _ fields, .obj ms => do
      let raws := (entries raw).map (·.raw)
      let start := match cur with
        | .record vs => vs
        | _ => Schema.zeroFields fields
      let vs ← (ms.zip (raws ++ List.replicate (ms.length - raws.length) [])).foldlM
        (fun vs ((k, v), r) =>
          match fieldIndex fields k with
          | none => pure vs
          | some i =>
            match fields[i]? with
            | none => pure vs
            | some (_, fs, _) => do
              let nv ← decodeInto (path ++ [k]) fuel fs (vs.getD i fs.zero) v r
              pure (vs.set i nv)) start
      pure (.record vs)
    | .pointer target, _ => do
      let inner := match cur with
        | .ptr v => v
        | _ => target.zero
      pure (.ptr (← decodeInto path fuel target inner j raw))
    | .map _ value, .obj ms => do
      let raws := (entries raw).map (·.raw)
      let start := match cur with
        | .map es => es
        | _ => []
      let es ← (ms.zip (raws ++ List.replicate (ms.length - raws.length) [])).foldlM
        (fun es ((k, v), r) => do
          let nv ← decodeInto (path ++ [k]) fuel value value.zero v r
          pure (setEntry es k nv)) start
      pure (.map es)
    | _, _ => mismatch

/-- Decodes the JSON text `raw` as a value of type `s`. -/
def decode (s : Schema) (raw : String) : Except ReadError (Except DecodeError Val) := do
  let j ← read raw
  let body := dropLow raw.toList
  let body := (body.reverse.dropWhile isLow).reverse
  pure (decodeInto [] (2 * raw.length + 2) s s.zero j body)

/-- Whether a value is the empty value of its type, which an omittable field leaves out. -/
def Val.isEmpty : Val → Bool
  | .text s => s.isEmpty
  | .flag b => !b
  | .int i => i == 0
  | .nil => true
  | .list items => items.isEmpty
  | .map entries => entries.isEmpty
  | .raw t => t.isEmpty
  | _ => false

mutual

/-- The text a value of a type is written as. -/
def encode : Schema → Val → List Char
  | _, .nil => "null".toList
  | _, .text s => writeString .wire s
  | _, .flag b => (if b then "true" else "false").toList
  | _, .int i => (toString i).toList
  | _, .dyn j => write .wire j
  | _, .raw t => t
  | .list _ item, .list items => '[' :: joinWith [','] (encodeItems item items) ++ [']']
  | .record _ _ fields, .record vs => '{' :: joinWith [','] (encodeFields fields vs) ++ ['}']
  | .pointer target, .ptr v => encode target v
  | .map _ value, .map es =>
    -- the members are sorted by name; sorting does not look at the values
    let members := (sortMembers (encodeEntries value es)).map fun (k, t) =>
      writeString .wire k ++ [':'] ++ t
    '{' :: joinWith [','] members ++ ['}']
  | _, _ => "null".toList

/-- The texts of the items of a list. -/
def encodeItems (item : Schema) : List Val → List (List Char)
  | [] => []
  | v :: rest => encode item v :: encodeItems item rest

/-- The texts of the fields of a record that are written. -/
def encodeFields : List (String × Schema × Bool) → List Val → List (List Char)
  | (name, s, omittable) :: fs, v :: vs =>
    if omittable && v.isEmpty then encodeFields fs vs
    else (writeString .wire name ++ [':'] ++ encode s v) :: encodeFields fs vs
  | _, _ => []

/-- The members of a map with their values' texts. -/
def encodeEntries (value : Schema) : List (String × Val) → List (String × List Char)
  | [] => []
  | (k, v) :: rest => (k, encode value v) :: encodeEntries value rest

end

/-- The value of a record's field by name. -/
def Val.field (s : Schema) (v : Val) (name : String) : Val :=
  match s, v with
  | .record _ _ fields, .record vs =>
    match fields.findIdx? (·.1 = name) with
    | some i => vs.getD i .nil
    | none => .nil
  | .pointer target, .ptr inner => inner.field target name
  | _, _ => .nil

end RemoteLsp.Json
