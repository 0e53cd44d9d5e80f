import RemoteLsp.Files.Tree
import RemoteLsp.Json.Write
import RemoteLsp.Json.Schema
import RemoteLsp.Text.Quoted

/-!
# The server information file

A running server tells other programs where it is through a small JSON file of named text
fields, written again whole after every update. The fields are kept in memory as well, so
they can be read back even when the file cannot be written. With no path configured the
fields live only in memory. When the server stops, the file is removed if it is there.
-/

namespace RemoteLsp.Files

/-- The information file: its path (empty for none) and its fields. -/
structure InfoFile where
  path : String
  fields : List (String × String) := []
  deriving Repr

namespace InfoFile

/-- The name of the setting that holds the path. -/
def settingName : String := "serverInfoFilePath"

/-- The error of a setting that is not text. -/
def settingError (kind : String) : String :=
  "getting config field " ++ Text.quoted settingName ++
    ": yaml: unmarshal errors:\n  line 1: cannot unmarshal !!" ++ kind ++ " into string"

/-- The information file of a configured setting: text names the path; a map or a list is
refused; other scalars are taken as their text. -/
def ofSetting : Option Json → Except String InfoFile
  | none | some .null => .ok ⟨"", []⟩
  | some (.str p) => .ok ⟨p, []⟩
  | some (.num lit) => .ok ⟨lit, []⟩
  | some (.bool b) => .ok ⟨if b then "true" else "false", []⟩
  | some (.obj _) => .error (settingError "map")
  | some (.arr _) => .error (settingError "seq")

/-- The file's text: the fields as a JSON object with sorted names. -/
def text (i : InfoFile) : String :=
  Json.render .wire (.obj (Json.sortMembers (i.fields.map fun (k, v) => (k, Json.str v))))

/-- The value of a field. -/
def field? (i : InfoFile) (key : String) : Option String :=
  (i.fields.find? (·.1 = key)).map (·.2)

/-- Sets a field and writes the file; the field is kept even when writing fails. -/
def update (i : InfoFile) (t : Tree) (key value : String) : Except String Tree × InfoFile :=
  let i := { i with fields := (i.fields.filter (·.1 ≠ key)) ++ [(key, value)] }
  if i.path.isEmpty then (.ok t, i)
  else
    match t.mkdirAll (Path.dir i.path) with
    | .error e => (.error ("creating info file directory: " ++ e), i)
    | .ok t =>
      match t.write i.path i.text with
      | .error e => (.error ("creating info file: " ++ e), i)
      | .ok t => (.ok t, i)

/-- Removes the file when the server stops, if it is a file that is there. -/
def onStop (i : InfoFile) (t : Tree) : Except String Tree :=
  if i.path.isEmpty then .ok t
  else
    match t.fileExists i.path with
    | .ok true => t.remove i.path
    | _ => .ok t

/-- Updating keeps every other field and puts the new one last, whether or not the file
could be written. -/
theorem fields_update (i : InfoFile) (t : Tree) (key value : String) :
    (i.update t key value).2.fields = (i.fields.filter (·.1 ≠ key)) ++ [(key, value)] := by
  unfold update
  dsimp only
  split
  · rfl
  · split
    · rfl
    · split <;> rfl

/-- A field just set reads back, whether or not the file could be written. -/
theorem field?_update (i : InfoFile) (t : Tree) (key value : String) :
    (i.update t key value).2.field? key = some value := by
  unfold field?
  rw [fields_update, List.find?_append]
  have h : (i.fields.filter (·.1 ≠ key)).find? (·.1 = key) = none := by
    rw [List.find?_eq_none]
    intro x hx
    simp only [List.mem_filter, decide_eq_true_eq] at hx
    simp [hx.2]
  rw [h]
  simp

end InfoFile

end RemoteLsp.Files
