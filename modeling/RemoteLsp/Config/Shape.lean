import RemoteLsp.Yaml.Read
import RemoteLsp.Config.Unmarshal
import RemoteLsp.Time.Duration

/-!
# Reading configuration into typed settings

A configured value is read into a setting of a known shape: text, a flag, a whole number, a
duration, a list of texts, a logging level, a record of named fields, or a table or value
that is taken as it is. The reading is strict: a key that names no field of a record is an
error, and so is a value whose kind does not fit, each reported at the line of the document
it was read from. All such errors of a document are collected before the reading fails.

The rules for scalars are those of a lenient reader. A null leaves the setting at its zero
value. Any scalar fits text, as the text it was written with. Whole numbers also take floats,
cut toward zero. Durations take whole numbers of nanoseconds as well as duration text. Only
the boolean words are flags. A logging level is checked by name, and a name that is not a
level stops the reading at once with an error of its own.
-/

namespace RemoteLsp.Config

/-- What a configured value is read into. -/
inductive Shape where
  /-- Text, named by its type. -/
  | text (type : String)
  /-- A flag. -/
  | flag
  /-- A whole number of 64 bits, named by its type. -/
  | whole (type : String)
  /-- A duration in nanoseconds. -/
  | duration
  /-- A list of texts. -/
  | texts
  /-- A logging level, read from its name. -/
  | level (type : String)
  /-- A table from keys to values of any kind. -/
  | table (type : String)
  /-- A value of any kind. -/
  | anything
  /-- A record of named fields. -/
  | record (type : String) (fields : List (String × Shape))
  deriving Repr

/-- The name of the type a shape stands for, as errors show it. -/
def Shape.typeName : Shape → String
  | .text t => t
  | .flag => "bool"
  | .whole t => t
  | .duration => "time.Duration"
  | .texts => "[]string"
  | .level t => t
  | .table t => t
  | .anything => "interface \x7b\x7d"
  | .record t _ => t

/-- A setting as it was read. -/
inductive Setting where
  /-- Absent or null: the zero value of its shape. -/
  | unset
  | text (s : String)
  | flag (b : Bool)
  | whole (i : Int)
  | texts (xs : List String)
  | record (fields : List (String × Setting))
  /-- A value taken as it is, of no shape that is looked into. -/
  | given
  deriving Repr, Inhabited

/-- The largest whole number a setting holds, plus one. -/
def wholeLimit : Int := Int.ofNat (Nat.pow 2 63)

/-- The names of logging levels, as lower-case words; the empty name is the default level. -/
def levelNames : List String := ["debug", "info", "", "warn", "error", "dpanic", "panic", "fatal"]

/-- Checks the name of a logging level, in lower or upper case. -/
def checkLevel (text : String) : Except String Unit :=
  if levelNames.contains text || levelNames.contains (text.map Char.toLower) then .ok ()
  else .error ("unrecognized level: " ++ Text.quoted text)

/-- The whole part of a float literal, cut toward zero, when it fits 64 bits. -/
def floatWhole? (lit : String) : Option Int :=
  let (neg, cs) := match lit.toList with
    | '-' :: r => (true, r)
    | '+' :: r => (false, r)
    | r => (false, r)
  let cs := cs.filter (· ≠ '_')
  let mant := cs.takeWhile fun c => c ≠ 'e' && c ≠ 'E'
  let ex : Int := match cs.drop (mant.length + 1) with
    | '-' :: ds => -((String.ofList ds).toNat?.getD 0 : Nat)
    | '+' :: ds => ((String.ofList ds).toNat?.getD 0 : Nat)
    | ds => ((String.ofList ds).toNat?.getD 0 : Nat)
  let whole := mant.takeWhile (· ≠ '.')
  let frac := mant.drop (whole.length + 1)
  if !(whole ++ frac).all Char.isDigit || (whole ++ frac).isEmpty then none
  else
    let digits := whole ++ frac
    let value := digits.foldl (fun n c => n * 10 + (c.toNat - 48)) 0
    let shift : Int := ex - frac.length
    let cut : Nat := if shift ≥ 0 then value * Nat.pow 10 shift.toNat else value / Nat.pow 10 shift.natAbs
    let v : Int := if neg then -(cut : Int) else cut
    if v < wholeLimit && -wholeLimit ≤ v then some v else none

/-- The errors of a reading: type mismatches collected, or one error that stops it. -/
abbrev Reading := Except String (Setting × List String)

/-- A value that does not fit a shape, at the line of its node. -/
def misfit (line : Nat) (tag : String) (shown : Option String) (s : Shape) : String :=
  "line " ++ toString (line + 1) ++ ": cannot unmarshal !!" ++ tag ++
    (match shown with
     | some t => " " ++ Config.shown t
     | none => "") ++ " into " ++ s.typeName

/-- Reads a scalar into a shape. -/
def readScalar (sc : Yaml.Scalar) (s : Shape) : Reading :=
  let v := sc.value
  let wrong : Reading := .ok (.unset, [misfit sc.line (tag v) (some sc.text) s])
  match v with
  | .null => .ok (.unset, [])
  | _ =>
    match s with
    | .text _ => .ok (.text sc.text, [])
    | .flag => match v with
      | .bool b => .ok (.flag b, [])
      | _ => wrong
    | .whole _ => match v with
      | .num l =>
        if tag v = "int" then
          match l.toInt? with
          | some i => if i < wholeLimit && -wholeLimit ≤ i then .ok (.whole i, []) else wrong
          | none => wrong
        else match floatWhole? l with
          | some i => .ok (.whole i, [])
          | none => wrong
      | _ => wrong
    | .duration => match v with
      | .num l =>
        if tag v = "int" then
          match l.toInt? with
          | some i => if i < wholeLimit && -wholeLimit ≤ i then .ok (.whole i, []) else wrong
          | none => wrong
        else match floatWhole? l with
          | some i => .ok (.whole i, [])
          | none => wrong
      | .str t => match Time.parseDuration? t with
        | some d => .ok (.whole d, [])
        | none => wrong
      | _ => wrong
    | .level _ => match checkLevel sc.text with
      | .ok () => .ok (.text sc.text, [])
      | .error e => .error e
    | .anything => .ok (.given, [])
    | _ => wrong

/-- The name a key gives a field. -/
def keyName (k : Yaml.Scalar) : String :=
  match k.value with
  | .null => ""
  | _ => k.text

mutual
/-- Reads a node into a shape. -/
def readNode (s : Shape) : Yaml.Node → Reading
  | .scalar sc => readScalar sc s
  | .seq line items =>
    match s with
    | .texts => readItems items []
    | .anything => .ok (.given, [])
    | _ => .ok (.unset, [misfit line "seq" none s])
  | .map line entries =>
    match s with
    | .record t fields => readFields t fields entries [] []
    | .level t => readFields t [] entries [] []
    | .table _ | .anything => .ok (.given, [])
    | _ => .ok (.unset, [misfit line "map" none s])

/-- Reads the items of a sequence as texts; an item that is not a scalar is a mismatch. -/
def readItems : List Yaml.Node → List String → Reading
  | [], acc => .ok (.texts acc.reverse, [])
  | n :: ns, acc => do
    let (v, errs) ← readNode (.text "string") n
    let acc := match v with
      | .text t => t :: acc
      | _ => if errs.isEmpty then "" :: acc else acc
    let (rest, more) ← readItems ns acc
    return (rest, errs ++ more)

/-- Reads the entries of a mapping into the fields of a record. -/
def readFields (type : String) (fields : List (String × Shape)) :
    List (Yaml.Scalar × Yaml.Node) → List (String × Setting) → List String → Reading
  | [], acc, errs => .ok (.record acc.reverse, errs)
  | (k, n) :: rest, acc, errs =>
    let name := keyName k
    match fields.find? (·.1 = name) with
    | none =>
      readFields type fields rest acc
        (errs ++ ["line " ++ toString (k.line + 1) ++ ": field " ++ name ++ " not found in type " ++ type])
    | some (_, s) => do
      let (v, more) ← readNode s n
      readFields type fields rest ((name, v) :: acc) (errs ++ more)
end

/-- Reads a document into a shape: the setting, or the error that stops the reading. -/
def readInto (s : Shape) (doc : Option Yaml.Node) : Except String Setting :=
  match doc with
  | none => .ok .unset
  | some n =>
    match readNode s n with
    | .error e => .error e
    | .ok (v, []) => .ok v
    | .ok (_, errs) => .error (unmarshalErrors errs)

/-- A field of a record setting; unset when the record or the field is. -/
def Setting.field (v : Setting) (name : String) : Setting :=
  match v with
  | .record fs => ((fs.find? (·.1 = name)).map (·.2)).getD .unset
  | _ => .unset

/-- The text of a setting; empty when unset. -/
def Setting.textD : Setting → String
  | .text s => s
  | _ => ""

/-- The flag of a setting; false when unset. -/
def Setting.flagD : Setting → Bool
  | .flag b => b
  | _ => false

/-- The whole number of a setting; zero when unset. -/
def Setting.wholeD : Setting → Int
  | .whole i => i
  | _ => 0

/-- The texts of a setting, or none when unset. -/
def Setting.texts? : Setting → Option (List String)
  | .texts xs => some xs
  | _ => none

theorem keyName_null (line : Nat) : keyName ⟨"~", true, line⟩ = "" := by
  simp [keyName, Yaml.Scalar.value, Yaml.resolvePlain, Yaml.nullWords]

theorem readInto_none (s : Shape) : readInto s none = .ok .unset := rfl

end RemoteLsp.Config
