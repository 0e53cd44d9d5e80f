import RemoteLsp.Backend.Kind
import RemoteLsp.Json.Value

/-!
# Session settings

The selection that decides which server a session runs: the remote host, the Python environment
root on it, the workspace root, the backend, and two preferences (install a missing backend
without asking, tell the user when a server attaches). The backend, host and environment
together are the key under which provisioning results are remembered.
-/

namespace RemoteLsp

/-- The current selection of one editor session. -/
structure Settings where
  host : String := ""
  environment : String := ""
  workspaceRoot : String := ""
  backend : Backend := .pyright
  autoInstall : Bool := false
  notifyOnStart : Bool := false
  deriving DecidableEq, Repr, Inhabited

namespace Settings

/-- The key of a backend name, host and environment, parted by `|`. -/
def validationKeyOf (backend host environment : String) : String :=
  backend ++ "|" ++ host ++ "|" ++ environment

/-- The key of the backend, host and environment of the settings. -/
def validationKey (s : Settings) : String := validationKeyOf s.backend.name s.host s.environment

/-- The settings as a JSON object, fields in their declared order. -/
def toJson (s : Settings) : Json :=
  .obj [("host", .str s.host), ("environment", .str s.environment),
    ("workspaceRoot", .str s.workspaceRoot), ("backend", .str s.backend.name),
    ("autoInstall", .bool s.autoInstall), ("notifyOnStart", .bool s.notifyOnStart)]

end Settings

/-- The mark after a validation key whose check failed. -/
def missingSuffix : String := ":missing"

/-- What one session remembers of its last check, so that it is not repeated: the key last
checked, with `missingSuffix` when the check failed, and whether a prompt is outstanding. -/
structure ValidationCache where
  lastChecked : String := ""
  prompted : Bool := false
  deriving DecidableEq, Repr, Inhabited

/-- Forgets the last check, keeping the prompt flag. -/
def ValidationCache.reset (c : ValidationCache) : ValidationCache := { c with lastChecked := "" }

end RemoteLsp
