import RemoteLsp.Identity.Documents
import RemoteLsp.Json.Schema
import RemoteLsp.Path.Environment

/-!
# The identity store

The store remembers, for each host, the environments used there (most recent first) and the
one used last; and, for each validation key `backend:host`, the environments in which the
backend was found to work.

Both maps are read from their documents when the store is first used. A document that is
missing, unreadable or not of the right shape counts as empty; a document holding `null`
leaves its map absent, and adding an entry to an absent map is a fault. Entries that are
`null` are dropped when reading. Every change writes its document back, indented, with names
sorted; a save that fails changes nothing but the files.
-/

namespace RemoteLsp.Identity

open Json

/-- The environments of one host, most recent first, and the one used last. An absent list
is written as `null`. -/
structure History where
  envs : Option (List String)
  lastEnv : String
  deriving Repr, DecidableEq, Inhabited

/-- A map from names to values, one entry per name. -/
abbrev Assoc (α : Type) := List (String × α)

/-- The value of a name. -/
def Assoc.get? {α : Type} (m : Assoc α) (k : String) : Option α := (m.find? (·.1 = k)).map (·.2)

/-- Sets the value of a name. -/
def Assoc.put {α : Type} (m : Assoc α) (k : String) (v : α) : Assoc α :=
  if m.any (·.1 = k) then m.map (fun e => if e.1 = k then (k, v) else e) else m ++ [(k, v)]

/-- Removes a name. -/
def Assoc.erase {α : Type} (m : Assoc α) (k : String) : Assoc α := m.filter (·.1 ≠ k)

/-- The name of the history document. -/
def historyFile : String := "environments.json"

/-- The name of the validation document. -/
def validationFile : String := "validated.json"

/-- The message of the fault of adding to an absent map. -/
def nilMapMessage : String := "assignment to entry in nil map"

/-- The store: each map is absent when its document held `null`. -/
structure Store where
  history : Option (Assoc History)
  valid : Option (Assoc (Assoc Bool))
  documents : Documents
  deriving Repr, DecidableEq

/-- The declared type of the history document. -/
def historySchema : Schema :=
  .map "map[string]*identity.hostHistory"
    (.pointer (.record "identity.hostHistory" "hostHistory"
      [("envs", .list "[]string" (.text "string"), false),
       ("last_env", .text "string", false)]))

/-- The declared type of the validation document. -/
def validationSchema : Schema :=
  .map "map[string]map[string]bool" (.map "map[string]bool" .flag)

/-- The history of a decoded entry; none for a `null` entry. -/
def historyOfVal : Val → Option History
  | .ptr (.record [envs, last]) =>
    some ⟨match envs with
        | .list items => some (items.map fun | .text s => s | _ => "")
        | _ => none,
      match last with
        | .text s => s
        | _ => ""⟩
  | _ => none

/-- The environments of a decoded validation entry; none for a `null` entry. -/
def validOfVal : Val → Option (Assoc Bool)
  | .map es => some (es.map fun (k, v) => (k, match v with | .flag b => b | _ => false))
  | _ => none

/-- Reads a document: none when it is `null`, the empty map when it is missing, unreadable
or malformed. -/
def readDocument {α : Type} (d : Documents) (name : String) (s : Schema)
    (entry : Val → Option α) : Option (Assoc α) :=
  if name ∈ d.unreadable then some []
  else match d.find? name with
    | none => some []
    | some text =>
      match decode s text with
      | .ok (.ok .nil) => none
      | .ok (.ok (.map es)) =>
        some (es.filterMap fun (k, v) => (entry v).map fun a => (k, a))
      | _ => some []

/-- The store over a directory's documents, as first use reads it. -/
def Store.load (d : Documents) : Store :=
  ⟨readDocument d historyFile historySchema historyOfVal,
   readDocument d validationFile validationSchema validOfVal, d⟩

/-- The JSON of a history. -/
def History.toJson (h : History) : Json :=
  .obj [("envs", match h.envs with
      | some es => Json.ofStrings es
      | none => .null),
    ("last_env", .str h.lastEnv)]

/-- The text of a map document: indented, names sorted, `null` when absent. -/
def documentText {α : Type} (m : Option (Assoc α)) (f : α → Json) : String :=
  match m with
  | none => "null"
  | some es => renderIndented .wire (.obj (sortMembers (es.map fun (k, v) => (k, f v))))

/-- The validation map's JSON of one key. -/
def validJson (es : Assoc Bool) : Json := .obj (sortMembers (es.map fun (k, b) => (k, .bool b)))

namespace Store

/-- Writes the history document. -/
def saveHistory (s : Store) : Store :=
  { s with documents := s.documents.save historyFile (documentText s.history History.toJson) }

/-- Writes the validation document. -/
def saveValidation (s : Store) : Store :=
  { s with documents := s.documents.save validationFile (documentText s.valid validJson) }

/-- Writes both documents. -/
def saveAll (s : Store) : Store := s.saveHistory.saveValidation

/-- The host part of a validation key: the text after its first colon, empty without one. -/
def keyHost (key : String) : String := ((Text.cut? key ':').map (·.2)).getD ""

/-- The key that scopes validation to a backend on a host. -/
def validationKey (backend host : String) : String := backend ++ ":" ++ host

/-- Makes an environment the most recent and last used one of a host. -/
def remember (s : Store) (host env : String) : Except String Store :=
  match Path.normalizeEnvironment env with
  | none => .ok s
  | some env =>
    if host.isEmpty then .ok s
    else match s.history with
      | none => .error nilMapMessage
      | some hist =>
        let old := (hist.get? host).getD ⟨none, ""⟩
        let envs := env :: (old.envs.getD []).filter (· ≠ env)
        .ok { s with history := some (hist.put host ⟨some envs, env⟩) }.saveHistory

/-- Whether an environment was validated under a key. -/
def isValid (s : Store) (key env : String) : Bool :=
  ((s.valid.bind (·.get? key)).bind (·.get? env)).getD false

/-- Records that an environment has a working backend under a key. -/
def markValid (s : Store) (key env : String) : Except String Store :=
  match s.valid with
  | none => .error nilMapMessage
  | some valid =>
    let envs := (valid.get? key).getD []
    .ok { s with valid := some (valid.put key (envs.put env true)) }.saveValidation

/-- Forgets a host entirely: its history and its validations. -/
def forgetHost (s : Store) (host : String) : Store :=
  { s with
    history := s.history.map fun (m : Assoc History) => m.erase host
    valid := s.valid.map fun (m : Assoc (Assoc Bool)) => m.filter fun e => keyHost e.1 ≠ host
    }.saveAll

/-- Forgets one environment of a host, in its history and its validations. -/
def forgetEnvironment (s : Store) (host env : String) : Store :=
  let env := (Path.normalizeEnvironment env).getD env
  let history := s.history.map fun hist =>
    match hist.get? host with
    | none => hist
    | some h =>
      let envs := h.envs.map (·.filter (· ≠ env))
      let last := if h.lastEnv = env then ((envs.getD []).head?).getD "" else h.lastEnv
      if (envs.getD []).isEmpty then hist.erase host else hist.put host ⟨envs, last⟩
  let valid := s.valid.map fun valid =>
    valid.filterMap fun (key, envs) =>
      if keyHost key ≠ host then some (key, envs)
      else
        let envs := envs.erase env
        if envs.isEmpty then none else some (key, envs)
  { s with history := history, valid := valid }.saveAll

/-- Forgets an environment of a host, or the whole host for the empty environment. -/
def forget (s : Store) (host env : String) : Store :=
  if host.isEmpty then s
  else if env.isEmpty then s.forgetHost host
  else s.forgetEnvironment host env

/-- Forgets every validation under a key. -/
def forgetValidation (s : Store) (key : String) : Store :=
  { s with valid := s.valid.map fun (m : Assoc (Assoc Bool)) => m.erase key }.saveValidation

/-- The hosts with a history, sorted. -/
def knownHosts (s : Store) : List String :=
  (sortMembers ((s.history.getD []).map fun (h, _) => (h, ()))).map (·.1)

/-- The environments of a host, most recent first; none for an unknown host, and none as
well when its list is absent. -/
def environments (s : Store) (host : String) : Option (List String) :=
  (s.history.bind (·.get? host)).bind (·.envs)

/-- The environment a host used last, or the empty text. -/
def lastEnvironment (s : Store) (host : String) : String :=
  ((s.history.bind (·.get? host)).map (·.lastEnv)).getD ""

/-- The validated environments of each key, sorted. -/
def validated (s : Store) : List (String × List String) :=
  (s.valid.getD []).map fun (key, envs) =>
    (key, (sortMembers ((envs.filter (·.2)).map fun (e, _) => (e, ()))).map (·.1))

end Store

end RemoteLsp.Identity
