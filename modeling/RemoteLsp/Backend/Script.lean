import RemoteLsp.Backend.Kind
import RemoteLsp.Shell.Quote

/-!
# Detect, install and launch scripts

Each backend is a Python package with a server binary. On a remote host it may sit in the
session's environment (`<env>/bin/<binary>`), on the search path, or only as an importable
module of the interpreter. The detect script exits 0 when any of these is found, 1 when none is,
and 2 when the interpreter itself does not run; the install script upgrades the package with
pip; the launch script starts the first of these that exists, in the same order, from the
workspace root when one is set.
-/

namespace RemoteLsp

/-- What a backend is on a host: its package, binary, server arguments, module and import name. -/
structure BackendSpec where
  backend : Backend
  package : String
  binary : String
  serverArgs : List String
  module : String
  importName : String
  deriving Repr

namespace Backend

/-- The specification of a backend. -/
def spec : Backend → BackendSpec
  | .pyright => ⟨.pyright, "pyright", "pyright-langserver", ["--stdio"], "pyright.langserver",
      "pyright"⟩
  | .ty => ⟨.ty, "ty", "ty", ["server"], "ty", "ty"⟩
  | .pylsp => ⟨.pylsp, "python-lsp-server", "pylsp", [], "pylsp", "pylsp"⟩

end Backend

/-- The interpreter run when no environment is configured. -/
def defaultInterpreter : String := "python3"

/-- The interpreter of an environment root, or the default one without an environment. -/
def interpreterPath (environment : String) : String :=
  if environment = "" then defaultInterpreter
  else Text.trimSuffix environment "/" ++ "/bin/python"

/-- The probe that an interpreter can be executed: found on the search path for a bare name,
executable for a path. -/
def executableProbe (python : String) : String :=
  if '/' ∈ python.toList then "test -x " ++ Shell.quote python
  else "command -v " ++ Shell.quote python ++ " >/dev/null 2>&1"

/-- The probe that an interpreter answers to `--version`. -/
def versionProbe (python : String) : String := Shell.quote python ++ " --version"

namespace BackendSpec

/-- The backend binary inside an environment. -/
def environmentBinary (s : BackendSpec) (environment : String) : String :=
  Text.trimSuffix environment "/" ++ "/bin/" ++ s.binary

/-- A command followed by its already quoted arguments. -/
def withArgs (cmd args : String) : String := if args = "" then cmd else cmd ++ " " ++ args

/-- The script that exits 0 when the backend is present, 1 when it is not, and 2 when the
interpreter does not run. -/
def detectScript (s : BackendSpec) (python environment : String) : String :=
  "\n".intercalate <|
    ["PY=" ++ Shell.quote python,
      "\"$PY\" -c 'import sys' >/dev/null 2>&1 || exit 2"] ++
    (if environment = "" then []
     else ["[ -x " ++ Shell.quote (s.environmentBinary environment) ++ " ] && exit 0"]) ++
    ["command -v " ++ Shell.quote s.binary ++ " >/dev/null 2>&1 && exit 0",
      "\"$PY\" -c " ++ Shell.quote ("import " ++ s.importName) ++ " >/dev/null 2>&1 && exit 0",
      "exit 1"]

/-- The script that installs the backend's package with pip. -/
def installScript (s : BackendSpec) (python : String) : String :=
  "\n".intercalate
    ["PY=" ++ Shell.quote python,
      "\"$PY\" -c 'import sys' >/dev/null 2>&1 || \x7b echo \"interpreter $PY is not runnable\" >&2; exit 2; \x7d",
      "\"$PY\" -m pip install --upgrade " ++ Shell.quote s.package]

/-- The script that starts the server from the workspace root. -/
def launchScript (s : BackendSpec) (python environment workspaceRoot : String) : String :=
  let args := Shell.quoteAll s.serverArgs
  let envBin := Shell.quote (s.environmentBinary environment)
  let bin := Shell.quote s.binary
  "\n".intercalate <|
    (if workspaceRoot = "" then []
     else ["cd " ++ Shell.quote workspaceRoot ++ " 2>/dev/null || true"]) ++
    (if environment = "" then []
     else ["if [ -x " ++ envBin ++ " ]; then exec " ++ withArgs envBin args ++ "; fi"]) ++
    ["if command -v " ++ bin ++ " >/dev/null 2>&1; then exec " ++ withArgs bin args ++ "; fi",
      "exec " ++ withArgs (Shell.quote python ++ " -m " ++ Shell.quote s.module) args]

end BackendSpec

/-- Why a name is not a backend, where only exact names are accepted. -/
structure UnknownBackend where
  name : String
  deriving Repr, DecidableEq

/-- The message for a name that is not a backend. -/
def UnknownBackend.message (e : UnknownBackend) : String :=
  "unknown backend " ++ Text.quoted e.name

/-- The specification of the backend of an exact name. -/
def specOfName (name : String) : Except UnknownBackend BackendSpec :=
  match Backend.ofName? name with
  | some b => .ok b.spec
  | none => .error ⟨name⟩

end RemoteLsp
