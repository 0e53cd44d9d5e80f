import RemoteLsp.Daemon.Loop
import RemoteLsp.Lsp.Decode
import RemoteLsp.Session.Options

/-!
# Serving editor messages

Each message from an editor connection is routed by its method. The protocol's lifecycle,
document and workspace methods are served by the daemon; the `rlsp.*` commands act on the
session's configuration, server and identity store; cancellations are dropped; everything
else is relayed to the session's server. Parameters that do not read as their declared type
are answered with a parse error.

Sessions come and go with their connections. The daemon shuts itself down after a time with
no connection at all, when an idle timeout is configured.
-/

namespace RemoteLsp.Daemon

open Json

/-- The commands the daemon serves itself; any other command goes to the server. -/
def commands : List String :=
  ["rlsp.restart", "rlsp.stop", "rlsp.status", "rlsp.setHost", "rlsp.setEnvironment",
   "rlsp.setBackend", "rlsp.setWorkspaceRoot", "rlsp.setAutoInstall", "rlsp.listEnvironments",
   "rlsp.forgetEnvironment", "rlsp.forgetHost", "rlsp.forgetValidation"]

/-- What the daemon can serve, whichever backend is attached. -/
def serverCapabilities : Json :=
  .obj [("textDocumentSync", .obj [("openClose", .bool true), ("change", .num "1"),
      ("save", .obj [])]),
    ("completionProvider", .obj [("triggerCharacters", Json.ofStrings ["."])]),
    ("hoverProvider", .bool true),
    ("signatureHelpProvider", .obj [("triggerCharacters", Json.ofStrings ["(", ","])]),
    ("declarationProvider", .bool true), ("definitionProvider", .bool true),
    ("typeDefinitionProvider", .bool true), ("referencesProvider", .bool true),
    ("documentHighlightProvider", .bool true), ("documentSymbolProvider", .bool true),
    ("codeActionProvider", .bool true), ("workspaceSymbolProvider", .bool true),
    ("documentFormattingProvider", .bool true), ("renameProvider", .bool true),
    ("executeCommandProvider", .obj [("commands", Json.ofStrings commands)])]

/-- The answer to `initialize`. -/
def initializeResult : String :=
  Json.render .wire (.obj [("capabilities", serverCapabilities),
    ("serverInfo", .obj [("name", .str "rlsp")])])

/-- The error of a session with no host. -/
def noHostConfigured : Problem := ⟨.noHostConfigured, "no remote host configured"⟩

/-- The error of parameters that could not be read. -/
def paramsProblem (e : Lsp.ParamsError) : Problem :=
  match e with
  | .malformed _ => ⟨.jsonSyntax, e.message⟩
  | .type _ _ => ⟨.jsonType, e.message⟩

/-- The error of a command argument that could not be read. -/
def argumentProblem (e : Lsp.ArgumentError) : Problem :=
  match e with
  | .missing _ _ => .plain e.message
  | .invalid _ _ (.malformed _) => ⟨.jsonSyntax, e.message⟩
  | .invalid _ _ (.type _ _) => ⟨.jsonType, e.message⟩

/-- Lifts a reading into an operation. -/
def orFail {α ε : Type} (r : Except ε α) (f : ε → Problem) : M α :=
  match r with
  | .ok a => pure a
  | .error e => Op.fail (f e)

/-- The text of a decoded string value. -/
def textOf : Val → String
  | .text s => s
  | _ => ""

/-- The integer of a decoded integer value. -/
def intOf : Val → Int
  | .int i => i
  | _ => 0

/-- The root the editor opened: its root URI, else its first workspace folder. -/
def editorRoot (v : Val) : String :=
  let s := Lsp.initializeParams
  let root := textOf (v.field s "rootUri")
  if !root.isEmpty then root
  else match v.field s "workspaceFolders" with
    | .list (.record (uri :: _) :: _) => textOf uri
    | _ => ""

/-- The connection of a session. -/
def connectionOf (sid : Nat) : M (Option Connection) :=
  return (← get).connections.find? (·.sid = sid)

/-- Restarts the idle timer when no connection is left, and stops it otherwise; the first
call starts it. -/
def refreshIdleTimer : M Unit := do
  let d ← get
  if d.config.idleMs = 0 then return
  match d.idleTimer with
  | none =>
    let t ← afterMs d.config.idleMs .idle
    modify fun d => { d with idleTimer := some t }
  | some t =>
    stopTimer t
    if d.connections.isEmpty then
      let t ← afterMs d.config.idleMs .idle
      modify fun d => { d with idleTimer := some t }

/-- Creates the session's configuration from its options and registers it. -/
def initializeSession (sid : Nat) (v : Val) : M String := do
  let s := Lsp.initializeParams
  let some _ ← connectionOf sid | Op.fail ((← notFound sid).wrap "getting session from context")
  let opts ← orFail (Session.parseOptionsVal (v.field s "initializationOptions"))
    fun e => ⟨.jsonType, e.message⟩
  let d ← get
  let cfg ← orFail (Session.newConfig d.config.defaults opts d.store)
    fun p => p.wrap "configuring session"
  let caps := String.ofList (Json.encode Lsp.clientCapabilities (v.field s "capabilities"))
  match v.field s "clientInfo" with
  | .ptr (.record (name :: _)) =>
    modify fun d => { d with connections := d.connections.map fun c =>
      if c.sid = sid then { c with clientName := textOf name } else c }
  | _ => pure ()
  Op.context (onLoop (openSession sid cfg (editorRoot v) caps) ()) "opening session"
  pure initializeResult

/-- Replies with the outcome of an operation whose result is JSON text. -/
def replyOutcome (op : M String) : M Unit := do
  match ← Op.attempt op with
  | .ok r => replyWith (.result r)
  | .error p => replyWith (.error p)

/-- Replies `null`, or the error of an operation. -/
def replyDone (op : M Unit) : M Unit := replyOutcome (do op; pure "null")

/-- Ends a session: its server is stopped, the editor forgotten, and the idle timer checked. -/
def endSession (sid : Nat) : M Unit := do
  let _ ← Op.attempt (onLoop (closeSession sid) ())
  emit (.deregister sid)
  modify fun d => { d with connections := d.connections.filter (·.sid ≠ sid) }
  refreshIdleTimer

/-- Relays a notification to the session's server; without one it is dropped. -/
def forwardNotification (sid : Nat) (method params : String) : M Unit := do
  match ← Op.attempt (onLoop (notify sid method params) ()) with
  | .ok _ => pure ()
  | .error p => if p.kind = .notAttached then pure () else Op.fail p

/-- Relays a message the daemon does not serve to the session's server. -/
def forward (sid : Nat) (method params : String) (isCall : Bool) : M Unit :=
  if isCall then onLoop (request sid method params) ()
  else replyDone (forwardNotification sid method params)

/-- Applies the `rlsp` block of new settings, restarting the server when it changed what it
runs; then relays the notification. -/
def changeConfiguration (sid : Nat) (v : Val) : M Unit := do
  let s := Lsp.didChangeConfigurationParams
  let raw := String.ofList (Json.encode s v)
  match v.field s "settings" with
  | .dyn (.obj members) =>
    match members.find? (·.1 = "rlsp") with
    | some (_, block@(.obj _)) =>
      let opts ← orFail (Session.parseOptions (some block)) fun e => ⟨.jsonType, e.message⟩
      let applied : M Unit := do
        let inst ← lookup sid
        let restart ← withConfig inst (Session.ConfigState.apply opts) false
        if restart then settingsChanged sid
      Op.context (onLoop applied ()) "applying rlsp settings"
    | _ => pure ()
  | _ => pure ()
  forwardNotification sid "workspace/didChangeConfiguration" raw

/-- The host a command names in its first argument, or the session's host; never empty. -/
def hostArgument (call : Lsp.CommandCall) (current : String) : M String := do
  let host ← match call.arguments with
    | [] => pure current
    | raw :: _ =>
      match Json.read raw with
      | .ok .null => pure current
      | _ => orFail (call.stringArg 0) argumentProblem
  let host := Text.trimBlanks host
  if host.isEmpty then Op.fail noHostConfigured
  pure host

/-- Runs one of the daemon's commands; its result as JSON text. -/
def command (sid : Nat) (call : Lsp.CommandCall) : M String := do
  let inst ← lookup sid
  let cfg ← configOf inst
  let st := cfg.settings
  let arg : M String := orFail (call.stringArg 0) argumentProblem
  match call.command with
  | "rlsp.restart" => restartSession sid; pure "null"
  | "rlsp.stop" => stopSession sid; pure "null"
  | "rlsp.status" =>
    let some s ← getInstance inst | pure "null"
    pure (Json.render .wire (statusJson s))
  | "rlsp.setHost" =>
    let host ← arg
    withConfig inst (Session.ConfigState.setHost host) ()
    settingsChanged sid
    pure "null"
  | "rlsp.setEnvironment" =>
    let env ← arg
    if (Text.trimBlanks env).isEmpty then withConfig inst Session.ConfigState.clearEnvironment ()
    else withConfig inst (Session.ConfigState.setEnvironment env) ()
    settingsChanged sid
    pure "null"
  | "rlsp.setBackend" =>
    let name ← arg
    withConfig inst (Session.ConfigState.setBackend name) ()
    settingsChanged sid
    pure "null"
  | "rlsp.setWorkspaceRoot" =>
    let root ← arg
    withConfig inst (Session.ConfigState.setWorkspaceRoot root) ()
    settingsChanged sid
    pure "null"
  | "rlsp.setAutoInstall" =>
    let v ← orFail (call.boolArg 0) argumentProblem
    withConfig inst (Session.ConfigState.setAutoInstall v) ()
    pure "null"
  | "rlsp.listEnvironments" =>
    let host ← hostArgument call st.host
    let envs := (← get).store.environments host
    pure (Json.render .wire (.obj [("host", .str host),
      ("current", .str (if host = st.host then st.environment else "")),
      ("environments", match envs with
        | some es => Json.ofStrings es
        | none => .null)]))
  | "rlsp.forgetEnvironment" =>
    let env ← arg
    if st.host.isEmpty then Op.fail noHostConfigured
    modify fun d => { d with store := d.store.forget st.host env }
    if Path.normalizeEnvironment env = some st.environment then updateCache inst (·.reset)
    pure "null"
  | "rlsp.forgetHost" =>
    let host ← hostArgument call st.host
    modify fun d => { d with store := d.store.forget host "" }
    if host = st.host then updateCache inst (·.reset)
    pure "null"
  | "rlsp.forgetValidation" =>
    if st.host.isEmpty then Op.fail noHostConfigured
    let key := Identity.Store.validationKey st.backend.name st.host
    modify fun d => { d with store := d.store.forgetValidation key }
    updateCache inst (·.reset)
    pure "null"
  | other => Op.fail (.plain ("unknown command " ++ Text.quoted other))

/-- Serves `workspace/executeCommand`: the daemon's own commands here, others at the server. -/
def executeCommand (sid : Nat) (params : String) (isCall : Bool) : M Unit := do
  match Lsp.readCommandCall params with
  | .error e => replyWith (.error (paramsProblem e))
  | .ok call =>
    if commands.contains call.command then replyOutcome (onLoop (command sid call) "null")
    else forward sid "workspace/executeCommand" params isCall

/-- Reads parameters of a declared type, replying with the error when they do not read. -/
def withParams (s : Schema) (params : String) (k : Val → M Unit) : M Unit :=
  match Lsp.readParams s params with
  | .error e => replyWith (.error (paramsProblem e))
  | .ok v => k v

/-- Serves one message of a session's editor, replying through the world. -/
def handleMessage (sid : Nat) (method params : String) (isCall : Bool) : M Unit := do
  count ("json_rpc.requests,method=" ++ method)
  match method with
  | "initialize" =>
    withParams Lsp.initializeParams params fun v => replyOutcome (initializeSession sid v)
  | "initialized" =>
    match Lsp.readInitialized params with
    | .error e => replyWith (.error (paramsProblem e))
    | .ok _ => replyWith (.result "null")
  | "shutdown" => replyDone (onLoop (closeSession sid) ())
  | "exit" =>
    replyWith (.result "null")
    match ← connectionOf sid with
    | none =>
      let p ← notFound sid
      updateWorld fun w => { w with returned := some (p.wrap "error during session exit") }
    | some c => if c.conn then emit .connClose else endSession sid
  | "textDocument/didOpen" =>
    withParams Lsp.didOpenParams params fun v =>
      match v.field Lsp.didOpenParams "textDocument" with
      | .record [uri, lang, version, text] =>
        replyDone (onLoop (didOpen sid ⟨textOf uri, textOf lang, intOf version, textOf text⟩) ())
      | _ => replyWith (.result "null")
  | "textDocument/didChange" =>
    withParams Lsp.didChangeParams params fun v =>
      let doc := v.field Lsp.didChangeParams "textDocument"
      let texts := match v.field Lsp.didChangeParams "contentChanges" with
        | .list items => items.map fun
          | .record [_, _, t] => textOf t
          | _ => ""
        | _ => []
      match doc, Lsp.latestText texts with
      | .record [uri, version], some text =>
        replyDone (onLoop (didChange sid (textOf uri) (intOf version) text) ())
      | _, _ => replyWith (.result "null")
  | "textDocument/didClose" =>
    withParams Lsp.didCloseParams params fun v =>
      match v.field Lsp.didCloseParams "textDocument" with
      | .record [uri] => replyDone (onLoop (didClose sid (textOf uri)) ())
      | _ => replyWith (.result "null")
  | "workspace/didChangeConfiguration" =>
    withParams Lsp.didChangeConfigurationParams params fun v =>
      replyDone (changeConfiguration sid v)
  | "workspace/executeCommand" => executeCommand sid params isCall
  | "$/cancelRequest" => pure ()
  | _ => forward sid method params isCall

end RemoteLsp.Daemon
