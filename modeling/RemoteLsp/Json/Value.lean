/-!
# JSON values

A JSON value as it was read: members keep their order, a repeated name stays repeated, and a
number keeps the literal it was written with. Decoding into a record, sorting the members of
a map and turning numbers into binary doubles are separate steps over this one type, so every
writer sees exactly what the reader produced.
-/

namespace RemoteLsp

/-- A JSON value whose numbers are kept as their literal text. -/
inductive Json where
  | null
  | bool (b : Bool)
  | num (literal : String)
  | str (s : String)
  | arr (items : List Json)
  | obj (members : List (String × Json))
  deriving Inhabited, Repr

namespace Json

/-- The noun for the kind of a value used in decoding errors. -/
def kindName : Json → String
  | null => "null"
  | bool _ => "bool"
  | num _ => "number"
  | str _ => "string"
  | arr _ => "array"
  | obj _ => "object"

/-- The value of the last member named `key`, which is the one a map decoder keeps. -/
def lastField? (members : List (String × Json)) (key : String) : Option Json :=
  members.foldl (fun acc kv => if kv.1 = key then some kv.2 else acc) none

/-- The value of the last member named `key` of an object. -/
def field? (v : Json) (key : String) : Option Json :=
  match v with
  | obj ms => lastField? ms key
  | _ => none

/-- The text of a string value. -/
def str? : Json → Option String
  | str s => some s
  | _ => none

/-- The value of a boolean. -/
def bool? : Json → Option Bool
  | bool b => some b
  | _ => none

/-- The items of an array. -/
def arr? : Json → Option (List Json)
  | arr xs => some xs
  | _ => none

/-- The members of an object. -/
def obj? : Json → Option (List (String × Json))
  | obj ms => some ms
  | _ => none

/-- An integer written as a JSON number. -/
def ofInt (i : Int) : Json := num (toString i)

/-- A natural number written as a JSON number. -/
def ofNat (n : Nat) : Json := num (toString n)

/-- A list of texts as an array of strings. -/
def ofStrings (xs : List String) : Json := arr (xs.map str)

theorem field?_obj_nil (key : String) : (obj []).field? key = none := rfl

end Json

end RemoteLsp
