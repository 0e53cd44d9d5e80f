import RemoteLsp.Uri.Reference
import RemoteLsp.Path.Clean

/-!
# File URIs

A file URI names an absolute path of the host it is used on. Writing one cleans the path
against the root `/` (a relative path is taken from `/`), escapes it as a URI path and puts
`file://` in front; a path that starts with a drive letter and a colon keeps its form and gets
a slash in front instead. Reading one accepts any reference of scheme `file` whose path is
absolute, whatever its authority, query or fragment, and gives the unescaped path, without the
slash in front of a drive letter.
-/

namespace RemoteLsp.Uri

/-- Whether a path starts with an ASCII letter and a colon and is at least four bytes long. -/
def isDrivePath (p : String) : Bool :=
  match p.toList with
  | c :: ':' :: _ => c.isAlpha && p.utf8ByteSize ≥ 4
  | _ => false

/-- Whether a URI path is a slash, an ASCII letter and a colon, at least four bytes long. -/
def isDriveUriPath (p : String) : Bool :=
  match p.toList with
  | '/' :: c :: ':' :: _ => c.isAlpha && p.utf8ByteSize ≥ 4
  | _ => false

/-- The absolute form of a path taken from the root. -/
def absolute (p : String) : String :=
  if p.toList.head? = some '/' then Path.clean p else Path.clean ("/" ++ p)

/-- The file URI of a path. -/
def fileUriOfPath (p : String) : String :=
  let full := if isDrivePath p then "/" ++ p else absolute p
  "file://" ++ escape .path full

/-- The path named by a file URI, if the text is one. -/
def pathOfFileUri? (s : String) : Option String :=
  match parse s with
  | .error _ => none
  | .ok r =>
    if r.scheme = "file" ∧ r.path.toList.head? = some '/' then
      some (if isDriveUriPath r.path then String.ofList (r.path.toList.drop 1) else r.path)
    else none

end RemoteLsp.Uri
