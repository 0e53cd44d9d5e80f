import RemoteLsp.Daemon.Effects
import RemoteLsp.Path.Clean
import RemoteLsp.Uri.File
import RemoteLsp.Shell.Quote

/-!
# Starting and attaching a server

Once a session's backend is ready, its server is started in a workspace root chosen in this
order: the configured root; the editor's own root when it lies on the session's host; the
repository holding the last buffer, found by a remote run, falling back to the buffer's
directory; or no root at all when there is no buffer.

A started server is sent `initialize` with the editor's capabilities and the root; when it
answers, the session is attached, the server is told `initialized`, and every document of the
session on the server's host is opened on it. An error answer stops the server, whose exit is
then handled like a crash.
-/

namespace RemoteLsp.Daemon

/-- The parameters of `initialize` for a server: the editor's capabilities, this client's
name, and the root when there is one; names sorted. -/
def initializeParams (capabilities root : String) : String :=
  let caps : Json := match Json.read capabilities with
    | .ok j => j
    | .error _ => .obj []
  let rootMembers : List (String × Json) :=
    if root.isEmpty then [("rootPath", .null), ("rootUri", .null)]
    else [("rootPath", .str root), ("rootUri", .str (Uri.fileUriOfPath root)),
      ("workspaceFolders", workspaceFolders root)]
  Json.render .wire (.obj ([("capabilities", caps), ("clientInfo", .obj [("name", .str "rlsp")]),
    ("processId", .null)] ++ rootMembers))

/-- The parameters of `textDocument/didOpen` for a document at a server's URI. -/
def openParams (uri : String) (d : Document) : String :=
  Json.render .wire (.obj [("textDocument", .obj [("uri", .str uri),
    ("languageId", .str d.languageId), ("version", Json.ofInt d.version), ("text", .str d.text)])])

/-- Whether a document lies on a host. -/
def onHost (t : Path.Translator) (uri host : String) : Bool :=
  match t.fromVirtual uri with
  | some (h, _) => host ≠ "" && h = host
  | none => false

/-- Sends a notification to a server behind the messages already queued for it. -/
def send (n : Nat) (method params : String) : M Unit := enqueue n (.notify method params)

/-- Opens a document on a server, when it has a server URI. -/
def sendOpen (n : Nat) (d : Document) : M Unit := do
  match (← get).config.translator.virtualToFileUri d.uri with
  | some native => send n "textDocument/didOpen" (openParams native d)
  | none => pure ()

/-- Launches the server of a session instance in a workspace root and sends it `initialize`. -/
def start (inst : Nat) (root : String) : M Unit := do
  let some s ← getInstance inst | pure ()
  let st := s.cfg.settings
  setInstance inst fun s => { s with state := .starting }
  let held ← takeHold
  let env := st.environment
  let name := st.host ++ " " ++ st.backend.name
  let script := st.backend.spec.launchScript (interpreterPath env) env root
  match ← launch inst s.sid st.host name script root st held with
  | .error m =>
    report s.sid .error
      ("rlsp: starting " ++ st.backend.name ++ " on " ++ st.host ++ " failed: " ++ m)
    setInstance inst fun s => { s with state := .idle }
  | .ok n =>
    setServer n fun srv => { srv with active := true }
    setInstance inst fun s => { s with current := some n }
    count "lifecycle.started"
    enqueue n (.handshake (initializeParams s.capabilities root))

/-- The script that prints the repository holding a directory. -/
def repositoryScript (dir : String) : String :=
  "cd " ++ Shell.quote dir ++ " && git rev-parse --show-toplevel"

/-- Chooses the workspace root of a session instance and starts its server there. -/
def resolveRoot (inst gen : Nat) : M Unit := do
  let some s ← getInstance inst | pure ()
  let st := s.cfg.settings
  let t := (← get).config.translator
  let fromBuffer : M Unit :=
    match t.fromVirtual s.lastBuffer with
    | none => start inst ""
    | some (_, file) =>
      let dir := Path.dir file
      runRemote s.sid st.host (repositoryScript dir) runTimeouts.workspace (.root inst gen dir)
  if !st.workspaceRoot.isEmpty then start inst st.workspaceRoot
  else
    match t.fromVirtual s.editorRoot with
    | some (host, root) => if host = st.host then start inst root else fromBuffer
    | none => fromBuffer

/-- Starts the server in the repository the remote run printed, or in the buffer's directory. -/
def rootFound (inst gen : Nat) (dir : String) (res : Shell.RunResult) : M Unit := do
  let some s ← getInstance inst | pure ()
  if s.closed || s.gen ≠ gen then return
  let root := match res.stdout with
    | top :: _ =>
      let top := Text.trimBlanks top
      if res.success && Text.startsWith top "/" then top else dir
    | [] => dir
  start inst root

/-- Continues an enable of a session instance once its backend is ready, or not. -/
def enableDone (inst gen : Nat) (ok : Bool) : M Unit := do
  let some s ← getInstance inst | pure ()
  if s.closed || s.gen ≠ gen then return
  if !ok then
    setInstance inst fun s => { s with state := .idle }
  else resolveRoot inst gen

/-- Handles a server's answer to `initialize`. -/
def initialized (inst n : Nat) (answer : Answer) : M Unit := do
  let some s ← getInstance inst | pure ()
  let some srv ← getServer n | pure ()
  if s.closed || s.current ≠ some n then return
  let backend := srv.settings.backend.name
  let failed (e : String) : M Unit := do
    report s.sid .error ("rlsp: initializing " ++ backend ++ " on " ++ srv.host ++ " failed: " ++ e)
    serverStop n
  match answer with
  | .error e => failed e
  | .rpcError _ e => failed e
  | .result _ =>
    setInstance inst fun s => { s with state := .attached, attempted := false }
    send n "initialized" (Json.render .wire (.obj []))
    let t := (← get).config.translator
    for uri in s.order do
      if onHost t uri srv.host then
        match s.docs.find? (·.uri = uri) with
        | some d => sendOpen n d
        | none => pure ()
    if srv.settings.notifyOnStart then
      report s.sid .info ("rlsp: " ++ backend ++ " attached on " ++ srv.host)

/-- Stops the current server of a session instance on purpose; its exit is then absorbed. -/
def detach (inst : Nat) : M Unit := do
  let some s ← getInstance inst | pure ()
  match s.current with
  | none => pure ()
  | some n =>
    setInstance inst fun s => { s with current := none, suppress := s.suppress + 1 }
    setServer n fun srv => { srv with active := false, stopped := true }
    serverStop n

end RemoteLsp.Daemon
