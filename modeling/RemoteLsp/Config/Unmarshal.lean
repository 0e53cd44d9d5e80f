import RemoteLsp.Json.Value

/-!
# Reading configured values into records

Configuration is YAML. A value is read into a record by writing it out again as a YAML
document of its own, in block style with sorted keys, and decoding that document; a value
that does not fit is reported with the line it stands on in that document, its tag and, for
a scalar, its text. Every mismatch of a record is collected before the read fails.

A scalar fits a text field whatever its tag, as its own text; `null` leaves a field empty.
-/

namespace RemoteLsp.Config

/-- The tag YAML gives a value. -/
def tag : Json → String
  | .null => "null"
  | .bool _ => "bool"
  | .num l => if l.all (fun c => c.isDigit || c = '-') then "int" else "float"
  | .str _ => "str"
  | .arr _ => "seq"
  | .obj _ => "map"

/-- The text of a scalar. -/
def scalarText? : Json → Option String
  | .bool b => some (if b then "true" else "false")
  | .num l => some l
  | .str s => some s
  | _ => none

/-- A scalar as an error quotes it: in backquotes, cut to seven characters and an ellipsis
when it is longer than ten. -/
def shown (text : String) : String :=
  if text.length > 10 then "`" ++ String.ofList (text.toList.take 7) ++ "...`"
  else "`" ++ text ++ "`"

/-- A value that does not fit its target, at a line of its document. -/
def mismatch (line : Nat) (v : Json) (target : String) : String :=
  "line " ++ toString line ++ ": cannot unmarshal !!" ++ tag v ++
    (match scalarText? v with
     | some t => " " ++ shown t
     | none => "") ++ " into " ++ target

/-- The error of a read with the mismatches given. -/
def unmarshalErrors (errs : List String) : String :=
  "yaml: unmarshal errors:" ++ String.join (errs.map ("\n  " ++ ·))

/-- Whether a value is written over lines of its own: a non-empty collection. -/
def isBlock : Json → Bool
  | .obj (_ :: _) | .arr (_ :: _) => true
  | _ => false

mutual
/-- The number of lines a value takes in block style: one for a scalar or an empty
collection, else the lines of its entries. -/
def height : Json → Nat
  | .obj ms => if ms.isEmpty then 1 else memberLines ms
  | .arr xs => if xs.isEmpty then 1 else itemLines xs
  | _ => 1

/-- The lines of the members of a map: a block value starts on the line after its key. -/
def memberLines : List (String × Json) → Nat
  | [] => 0
  | m :: ms => (if isBlock m.2 then 1 + height m.2 else 1) + memberLines ms

/-- The lines of the items of a sequence: a block item starts on the dash's line. -/
def itemLines : List Json → Nat
  | [] => 0
  | x :: xs => height x + itemLines xs
end

/-- Sorts members by key. -/
def sortedMembers (ms : List (String × Json)) : List (String × Json) :=
  ms.mergeSort fun a b => decide (a.1 ≤ b.1)

/-- Each member of a map written as its own document, with the line its value starts on. -/
def memberLinesFrom : Nat → List (String × Json) → List (String × Json × Nat)
  | _, [] => []
  | line, (k, v) :: ms =>
    (k, v, if isBlock v then line + 1 else line) ::
      memberLinesFrom (line + (if isBlock v then 1 + height v else 1)) ms

/-- Reads a text field: a scalar gives its text, `null` the empty text, and a collection a
mismatch at its line. -/
def textField (target : String) (line : Nat) : Json → Except String String
  | .null => .ok ""
  | .obj ms => .error (mismatch line (.obj ms) target)
  | .arr xs => .error (mismatch line (.arr xs) target)
  | v => .ok ((scalarText? v).getD "")

/-- Reads a record of text fields from a value: each field is named by its key and the type
it is read into; keys of no field are ignored. A scalar is a mismatch with the record. -/
def textRecord (record : String) (fields : List (String × String)) (v : Json) :
    Except String (List (String × String)) :=
  match v with
  | .null => .ok []
  | .obj ms =>
    let placed := memberLinesFrom 1 (sortedMembers ms)
    let read := placed.filterMap fun (k, v, line) =>
      (fields.find? (·.1 = k)).map fun (_, target) => (k, textField target line v)
    match read.filterMap (fun (_, r) => match r with | .error e => some e | .ok _ => none) with
    | [] => .ok (read.filterMap fun (k, r) => match r with | .ok t => some (k, t) | .error _ => none)
    | errs => .error (unmarshalErrors errs)
  | other => .error (unmarshalErrors [mismatch 1 other record])

theorem textRecord_null (record : String) (fields : List (String × String)) :
    textRecord record fields .null = .ok [] := rfl

end RemoteLsp.Config
