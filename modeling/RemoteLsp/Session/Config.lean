import RemoteLsp.Session.Settings
import RemoteLsp.Session.Options
import RemoteLsp.Identity.Store
import RemoteLsp.Control.Problem
import RemoteLsp.Backend.Kind
import RemoteLsp.Path.Environment

/-!
# Session configuration

Each editor session has a configuration: its settings, whether the user may be prompted for
missing values, and a cache of the last provisioning check. It starts from the process-wide
defaults, overridden by the options the editor sent, with the host's last environment when
none is given; and it changes through the setters below, which keep the identity store up to
date (choosing an environment remembers it for the host).

A host is trimmed; an environment is normalized to its root; a workspace root must be
absolute and loses its trailing slashes (the root directory stays `/`); a backend name is
matched ignoring case and blanks. Changing the host, environment or backend forgets the
cached check.
-/

namespace RemoteLsp.Session

/-- The process-wide session defaults. -/
structure Defaults where
  host : String := ""
  environment : String := ""
  workspaceRoot : String := ""
  backend : String := ""
  autoInstall : Bool := false
  notifyOnStart : Bool := false
  allowPrompt : Bool := false
  deriving Repr, DecidableEq, Inhabited

/-- The configuration of one session. -/
structure SessionConfig where
  settings : Settings
  allowPrompt : Bool
  cache : ValidationCache
  deriving Repr, DecidableEq, Inhabited

/-- The configuration as a JSON object: settings, prompt permission, cache and the
validation key of the settings. -/
def SessionConfig.toJson (c : SessionConfig) : Json :=
  .obj [("settings", c.settings.toJson), ("allow_prompt", .bool c.allowPrompt),
    ("cache", .obj [("last_checked", .str c.cache.lastChecked), ("prompted", .bool c.cache.prompted)]),
    ("validation_key", .str c.settings.validationKey)]

/-- A session's configuration together with the identity store it keeps up to date. -/
structure ConfigState where
  config : SessionConfig
  store : Identity.Store

/-- Checks the defaults: an empty backend means pyright, and the backend must be known. -/
def Defaults.check (d : Defaults) : Except Problem Defaults :=
  let d := if d.backend.isEmpty then { d with backend := "pyright" } else d
  match Backend.parse d.backend with
  | .ok _ => .ok d
  | .error e => .error (.plain ("invalid default backend: " ++ e.message))

/-- The workspace root a user's path selects, or why it is refused. -/
def workspaceRootOf (path : String) : Except Problem String :=
  let path := Text.trimBlanks path
  if path.isEmpty then .ok ""
  else if !Text.startsWith path "/" then
    .error (.plain ("workspace root " ++ Text.quoted path ++ " is not absolute"))
  else
    let trimmed := Text.trimRightChar path '/'
    .ok (if trimmed.isEmpty then "/" else trimmed)

/-- The backend a user's name selects, or why it is refused. -/
def backendOf (name : String) : Except Problem Backend :=
  (Backend.parse name).mapError fun e => .plain e.message

/-- Lifts a check into an operation. -/
def ofExcept {σ α : Type} : Except Problem α → Op σ α
  | .ok a => pure a
  | .error p => Op.fail p

/-- A new configuration: the defaults, overridden by the given options, with the host's last
environment when no environment is given. -/
def newConfig (d : Defaults) (o : SessionOptions) (store : Identity.Store) :
    Except Problem SessionConfig := do
  let host := Text.trimBlanks (o.host.getD d.host)
  let backend ← backendOf (o.backend.getD d.backend)
  let environment := match Path.normalizeEnvironment (o.environment.getD d.environment) with
    | some env => env
    | none => if host.isEmpty then "" else store.lastEnvironment host
  let root ← workspaceRootOf (o.workspaceRoot.getD d.workspaceRoot)
  pure {
    settings := {
      host := host, environment := environment, workspaceRoot := root, backend := backend,
      autoInstall := o.autoInstall.getD d.autoInstall,
      notifyOnStart := o.notifyOnStart.getD d.notifyOnStart }
    allowPrompt := o.allowPrompt.getD d.allowPrompt
    cache := {} }

namespace ConfigState

/-- Changes the configuration. -/
def update (f : SessionConfig → SessionConfig) : Op ConfigState Unit :=
  EStateM.modifyGet fun s => ((), { s with config := f s.config })

/-- Changes the settings. -/
def updateSettings (f : Settings → Settings) : Op ConfigState Unit :=
  update fun c => { c with settings := f c.settings }

/-- Forgets the cached check. -/
def resetCache : Op ConfigState Unit := update fun c => { c with cache := c.cache.reset }

/-- The current configuration. -/
def current : Op ConfigState SessionConfig := do return (← get).config

/-- Selects a host, and the environment it used last. -/
def setHost (host : String) : Op ConfigState Unit := do
  let host := Text.trimBlanks host
  let s ← get
  if host = s.config.settings.host then return
  let env := if host.isEmpty then "" else s.store.lastEnvironment host
  updateSettings fun st => { st with host := host, environment := env }
  resetCache

/-- Selects an environment and remembers it for the current host. -/
def setEnvironment (raw : String) : Op ConfigState Unit := do
  match Path.normalizeEnvironment raw with
  | none => Op.fail (.plain "empty environment path")
  | some env =>
    updateSettings fun st => { st with environment := env }
    let s ← get
    if !s.config.settings.host.isEmpty then
      match s.store.remember s.config.settings.host env with
      | .ok store => set { s with store := store }
      | .error m => Op.fault m
    resetCache

/-- Falls back to the host's default interpreter. -/
def clearEnvironment : Op ConfigState Unit := do
  if (← current).settings.environment.isEmpty then return
  updateSettings fun st => { st with environment := "" }
  resetCache

/-- Selects the workspace root, or detection when the path is empty. -/
def setWorkspaceRoot (path : String) : Op ConfigState Unit := do
  let root ← ofExcept (workspaceRootOf path)
  updateSettings fun st => { st with workspaceRoot := root }

/-- Selects a backend by name. -/
def setBackend (name : String) : Op ConfigState Unit := do
  let b ← ofExcept (backendOf name)
  if b ≠ (← current).settings.backend then
    updateSettings fun st => { st with backend := b }
    resetCache

/-- Sets whether a missing backend is installed without asking. -/
def setAutoInstall (v : Bool) : Op ConfigState Unit :=
  updateSettings fun st => { st with autoInstall := v }

/-- Sets whether the user is told when a server attaches. -/
def setNotifyOnStart (v : Bool) : Op ConfigState Unit :=
  updateSettings fun st => { st with notifyOnStart := v }

/-- Applies every given option, in the order backend, workspace root, host, environment,
then the flags; an empty environment clears it. Reports whether the host, environment,
workspace root or backend changed, which needs a new server. -/
def apply (o : SessionOptions) : Op ConfigState Bool := do
  let before := (← current).settings
  if let some b := o.backend then setBackend b
  if let some r := o.workspaceRoot then setWorkspaceRoot r
  if let some h := o.host then setHost h
  if let some e := o.environment then
    if (Text.trimBlanks e).isEmpty then clearEnvironment else setEnvironment e
  if let some v := o.autoInstall then setAutoInstall v
  if let some v := o.notifyOnStart then setNotifyOnStart v
  if let some v := o.allowPrompt then update fun c => { c with allowPrompt := v }
  let after := (← current).settings
  return before.host ≠ after.host || before.environment ≠ after.environment ||
    before.workspaceRoot ≠ after.workspaceRoot || before.backend ≠ after.backend

end ConfigState

end RemoteLsp.Session
