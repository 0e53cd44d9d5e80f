import RemoteLsp.Uri.File
import RemoteLsp.Text.Quoted

/-!
# Virtual paths

The editor names a file on a remote host by a virtual URI `scheme://host//path` for an absolute
path and `scheme://host/path` for any other. Reading a virtual URI gives the host and an absolute
path: the text after the first slash behind the host, with a slash put in front when it has none.
A translator converts between these and the `file://` URIs the remote server uses.
-/

namespace RemoteLsp.Path

/-- The scheme of virtual paths when none is configured. -/
def defaultScheme : String := "scp"

/-- Converts between native paths and the virtual URIs of one scheme. -/
structure Translator where
  scheme : String
  deriving Repr, Inhabited, DecidableEq

/-- Why a path cannot be translated. -/
inductive TranslateError where
  /-- A native path was to be made virtual without a host. -/
  | noHost (path : String)
  /-- A URI that should have been a file URI is not one. -/
  | notFileUri (uri : String)
  deriving Repr, DecidableEq

/-- The message of an error from converting a path. -/
def TranslateError.message : TranslateError → String
  | .noHost p => "translating " ++ Text.quoted p ++ ": virtual path requires a host"
  | .notFileUri u => "translating " ++ Text.quoted u ++ ": not a file URI"

namespace Translator

/-- The translator of `scheme`, or of the default scheme when `scheme` is empty. -/
def ofScheme (scheme : String) : Translator := ⟨if scheme = "" then defaultScheme else scheme⟩

/-- The text every virtual URI of this translator starts with. -/
def pfx (t : Translator) : String := t.scheme ++ "://"

/-- The virtual URI of a native path on a host. -/
def toVirtual (t : Translator) (path host : String) : Except TranslateError String :=
  if host = "" then .error (.noHost path)
  else match Text.dropPrefix? path "/" with
    | some rest => .ok (t.pfx ++ host ++ "//" ++ rest)
    | none => .ok (t.pfx ++ host ++ "/" ++ path)

/-- The host and absolute native path of a virtual URI of this translator's scheme. -/
def fromVirtual (t : Translator) (v : String) : Option (String × String) := do
  let rest ← Text.dropPrefix? v t.pfx
  let (host, path) ← Text.cut? rest '/'
  if host = "" then none
  else if path.toList.head? = some '/' then some (host, path) else some (host, "/" ++ path)

/-- Whether a text is a virtual URI of this translator's scheme. -/
def isVirtual (t : Translator) (v : String) : Bool := (t.fromVirtual v).isSome

/-- The virtual URI, on a host, of the path of a file URI. -/
def fileUriToVirtual (t : Translator) (uri host : String) : Except TranslateError String :=
  match Uri.pathOfFileUri? uri with
  | none => .error (.notFileUri uri)
  | some p => t.toVirtual p host

/-- The file URI of the path of a virtual URI. -/
def virtualToFileUri (t : Translator) (v : String) : Option String :=
  (t.fromVirtual v).map fun (_, p) => Uri.fileUriOfPath p

end Translator

end RemoteLsp.Path
