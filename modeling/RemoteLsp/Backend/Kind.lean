import RemoteLsp.Text.Space
import RemoteLsp.Text.Quoted

/-!
# Language server backends

The remote language servers a session can run. A user names one case-insensitively and with
blanks around it allowed; everywhere else a backend is known by its exact lower-case name.
-/

namespace RemoteLsp

/-- A supported remote language server implementation. -/
inductive Backend where
  | pyright
  | ty
  | pylsp
  deriving DecidableEq, Repr, Inhabited

namespace Backend

/-- Every backend, in the order they are offered. -/
def all : List Backend := [.pyright, .ty, .pylsp]

/-- The name of a backend. -/
def name : Backend → String
  | .pyright => "pyright"
  | .ty => "ty"
  | .pylsp => "pylsp"

/-- The backend of an exact name. -/
def ofName? (s : String) : Option Backend := all.find? (·.name = s)

/-- The lower-case form of a character as far as it can turn into an ASCII letter: ASCII
capitals, the dotted capital I and the Kelvin sign. Other characters are kept, which cannot
change whether a text equals an ASCII name. -/
def foldChar (c : Char) : Char :=
  if 'A' ≤ c ∧ c ≤ 'Z' then Char.ofNat (c.toNat + 32)
  else if c.toNat = 0x130 then 'i'
  else if c.toNat = 0x212A then 'k'
  else c

/-- The names of all backends as a bracketed list, as shown in messages. -/
def namesShown : String := "[" ++ " ".intercalate (all.map name) ++ "]"

/-- Why a user's text names no backend. -/
structure UnknownName where
  given : String
  deriving Repr, DecidableEq

/-- The message for a text that names no backend. -/
def UnknownName.message (e : UnknownName) : String :=
  "unknown backend " ++ Text.quoted e.given ++ ", expected one of " ++ namesShown

/-- The backend a user named, ignoring blanks around the name and letter case. -/
def parse (s : String) : Except UnknownName Backend :=
  let folded := String.ofList ((Text.trimBlanks s).toList.map foldChar)
  match ofName? folded with
  | some b => .ok b
  | none => .error ⟨s⟩

theorem ofName?_name (b : Backend) : ofName? b.name = some b := by cases b <;> rfl

theorem parse_name (b : Backend) : parse b.name = .ok b := by cases b <;> rfl

end Backend

end RemoteLsp
