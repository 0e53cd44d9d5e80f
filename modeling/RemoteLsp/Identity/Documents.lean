import RemoteLsp.Text.Chars

/-!
# Stored documents

The identity store keeps its documents as named files in one data directory. A document is
replaced by writing a temporary file next to it and renaming that over it, so a reader never
sees half a document. Any of the three steps can be made to fail for every save: creating
the directory (nothing is written), writing the temporary file (nothing changes), or
renaming it (the temporary file stays behind and the document keeps its old text).
-/

namespace RemoteLsp.Identity

/-- The step of a save that fails. -/
inductive WriteFault where
  | mkdir
  | write
  | rename
  deriving Repr, DecidableEq

/-- The files of the data directory by name, the files whose reading fails, and the step
that fails on every save. -/
structure Documents where
  files : List (String × String)
  unreadable : List String
  fault : Option WriteFault
  deriving Repr, DecidableEq

namespace Documents

/-- The text of a file, if it exists. -/
def find? (d : Documents) (name : String) : Option String :=
  (d.files.find? (·.1 = name)).map (·.2)

/-- Sets the text of a file. -/
def put (files : List (String × String)) (name text : String) : List (String × String) :=
  if files.any (·.1 = name) then files.map (fun f => if f.1 = name then (name, text) else f)
  else files ++ [(name, text)]

/-- Removes a file. -/
def remove (files : List (String × String)) (name : String) : List (String × String) :=
  files.filter (·.1 ≠ name)

/-- The name of the temporary file of a document. -/
def tempName (name : String) : String := name ++ ".tmp"

/-- Replaces a document through its temporary file. -/
def save (d : Documents) (name text : String) : Documents :=
  match d.fault with
  | some .mkdir => d
  | some .write => d
  | some .rename => { d with files := put d.files (tempName name) text }
  | none => { d with files := remove (put d.files name text) (tempName name) }

end Documents

end RemoteLsp.Identity
