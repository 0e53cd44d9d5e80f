import RemoteLsp.Daemon.Provision
import RemoteLsp.Time.Duration

/-!
# The life of a session's server

Each open session has at most one current server. Opening a remote buffer enables the
session: its backend is provisioned and a server started, unless one is already on its way.
A server that exits on its own is reconnected once, after a delay, while its buffer is
still open; a second crash before a server attaches again gives up until the user restarts.
Servers stopped on purpose exit quietly: a count of such stops absorbs their exits.

A restart (by the user, or because settings changed) stops the current server, forgets the
documents on other hosts and the session's cached check, and enables the session again when
its last buffer is still open. Every stop moves the session to a new generation, so the
callbacks of an earlier start see they are stale.

Editor traffic is relayed only to an attached server, with its locations rewritten for the
server; a server's own messages go to the editor with their locations rewritten back.
-/

namespace RemoteLsp.Daemon

/-- The error of a session with no attached server. -/
def notAttached : Problem := ⟨.notAttached, "no remote language server attached"⟩

/-- The server that may receive a session instance's traffic: its current one once attached. -/
def Instance.attached (s : Instance) : Option Nat :=
  if s.state = .attached then s.current else none

/-- Whether a session instance has a document open. -/
def Instance.tracks (s : Instance) (uri : String) : Bool := s.docs.any (·.uri = uri)

/-- Stops the pending reconnect of a session instance. -/
def cancelReconnect (inst : Nat) : M Unit := do
  let some s ← getInstance inst | pure ()
  match s.reconnect with
  | some t =>
    stopTimer t
    setInstance inst fun s => { s with reconnect := none }
  | none => pure ()

/-- Provisions and starts a server for a session instance unless one is already on its way. -/
def enable (inst : Nat) : M Unit := do
  let some s ← getInstance inst | pure ()
  if s.closed || s.stopped then return
  match s.state with
  | .provisioning | .starting | .attached => pure ()
  | _ =>
    cancelReconnect inst
    let gen := s.gen + 1
    setInstance inst fun s => { s with gen := gen, state := .provisioning }
    ensure inst gen false

/-- Allows one automatic reconnect of a crashed server until a server attaches again. -/
def crashed (inst n : Nat) (status : ExitStatus) : M Unit := do
  let some s ← getInstance inst | pure ()
  let some srv ← getServer n | pure ()
  if s.reconnect.isSome then return
  let backend := srv.settings.backend.name
  if s.attempted then
    setInstance inst fun s => { s with state := .givenUp }
    count "lifecycle.given_up"
    report s.sid .error ("rlsp: " ++ backend ++ " on " ++ srv.host ++ " exited again (" ++
      status.describe ++ "), run rlsp.restart to start it")
  else
    setInstance inst fun s => { s with attempted := true, state := .reconnectPending }
    count "lifecycle.reconnects_scheduled"
    let delay := (← get).config.delayMs
    report s.sid .warning ("rlsp: " ++ backend ++ " on " ++ srv.host ++ " exited (" ++
      status.describe ++ "), reconnecting in " ++ Time.formatMillis delay)
    let t ← afterMs delay (.reconnect inst s.gen s.lastBuffer)
    setInstance inst fun s => { s with reconnect := some t }

/-- Handles the exit of a server. -/
def exited (inst n : Nat) (status : ExitStatus) : M Unit := do
  let some s ← getInstance inst | pure ()
  let some srv ← getServer n | pure ()
  let current := s.current = some n
  if current then
    setInstance inst fun s => { s with current := none }
    setServer n fun srv => { srv with active := false }
  if s.closed then return
  if status.clean then
    count "lifecycle.exits_clean"
    if srv.stopped && s.suppress > 0 then
      setInstance inst fun s => { s with suppress := s.suppress - 1 }
    if current then setInstance inst fun s => { s with state := .exitedClean }
  else if s.suppress > 0 then
    setInstance inst fun s => { s with suppress := s.suppress - 1 }
    count "lifecycle.exits_suppressed"
    if current then setInstance inst fun s => { s with state := .idle }
  else
    count "lifecycle.exits_abnormal"
    if current then
      setInstance inst fun s => { s with state := .exitedAbnormal }
      crashed inst n status

/-- Reconnects when the delay after a crash has passed and its buffer is still open. -/
def reconnectFired (inst gen : Nat) (buffer : String) : M Unit := do
  let some s ← getInstance inst | pure ()
  if s.closed || s.gen ≠ gen || s.reconnect.isNone then return
  setInstance inst fun s => { s with reconnect := none }
  if s.tracks buffer then enable inst
  else setInstance inst fun s => { s with state := .idle }

/-- Kills the current server and drops any pending start or reconnect. -/
def halt (inst : Nat) : M Unit := do
  cancelReconnect inst
  detach inst
  setInstance inst fun s => { s with gen := s.gen + 1, state := .idle }

/-- Forgets the documents that are not on the configured host. -/
def forgetOtherHosts (inst : Nat) : M Unit := do
  let some s ← getInstance inst | pure ()
  let t := (← get).config.translator
  let host := s.cfg.settings.host
  let kept := s.order.filter fun uri => onHost t uri host
  let docs := s.docs.filter fun d => !(s.order.contains d.uri) || kept.contains d.uri
  let last := if docs.any (·.uri = s.lastBuffer) then s.lastBuffer else (kept.getLast?).getD ""
  setInstance inst fun s => { s with order := kept, docs := docs, lastBuffer := last }

/-- A restart by hand: the reconnect allowance and the prompt guard are reset. -/
def restart (inst : Nat) : M Unit := do
  halt inst
  setInstance inst fun s => { s with stopped := false, attempted := false }
  updateCache inst fun c => { c.reset with prompted := false }
  forgetOtherHosts inst
  let some s ← getInstance inst | pure ()
  if s.tracks s.lastBuffer then enable inst

/-- Registers a session with its configuration, the editor's root and its capabilities; a
virtual root names the host when none is configured. -/
def openSession (sid : Nat) (cfg : Session.SessionConfig) (rootUri capabilities : String) :
    M Unit := do
  if (openInstance (← get) sid).isSome then
    Op.fail (.plain ("session " ++ (← nameOf sid) ++ " is already open"))
  let inst := (← get).instances.length
  let s : Instance := ⟨sid, cfg, rootUri, capabilities, .idle, [], [], "", false, 0, false, false,
    none, 0, none⟩
  modify fun d => { d with instances := d.instances ++ [s] }
  match (← get).config.translator.fromVirtual rootUri with
  | some (host, _) =>
    if cfg.settings.host.isEmpty then withConfig inst (Session.ConfigState.setHost host) ()
  | none => pure ()

/-- Stops a session's server and forgets the session. -/
def closeSession (sid : Nat) : M Unit := do
  let inst ← lookup sid
  setInstance inst fun s => { s with closed := true }
  cancelReconnect inst
  detach inst

/-- Tracks a document the editor opened, and starts a server for it when none is attached.
A document on another host than the session's is ignored. -/
def didOpen (sid : Nat) (doc : Document) : M Unit := do
  let inst ← lookup sid
  let some (host, _) := (← get).config.translator.fromVirtual doc.uri | pure ()
  let some s ← getInstance inst | pure ()
  let current := s.cfg.settings.host
  if current.isEmpty then withConfig inst (Session.ConfigState.setHost host) ()
  else if current ≠ host then return
  let some s ← getInstance inst | pure ()
  let tracked := s.tracks doc.uri
  let docs := if tracked then s.docs.map (fun d => if d.uri = doc.uri then doc else d)
    else s.docs ++ [doc]
  let order := if tracked then s.order else s.order ++ [doc.uri]
  setInstance inst fun s => { s with docs := docs, order := order, lastBuffer := doc.uri }
  match s.state with
  | .attached =>
    match s.current with
    | some n => sendOpen n doc
    | none => pure ()
  | .idle | .exitedClean | .exitedAbnormal | .reconnectPending => enable inst
  | _ => pure ()

/-- The parameters of `textDocument/didChange` with the whole new text. -/
def changeParams (uri : String) (version : Int) (text : String) : String :=
  Json.render .wire (.obj [("contentChanges", .arr [.obj [("text", .str text)]]),
    ("textDocument", .obj [("uri", .str uri), ("version", Json.ofInt version)])])

/-- Replaces the text of a tracked document and tells the attached server. -/
def didChange (sid : Nat) (uri : String) (version : Int) (text : String) : M Unit := do
  let inst ← lookup sid
  let some s ← getInstance inst | pure ()
  if !s.tracks uri then return
  setInstance inst fun s => { s with docs := s.docs.map fun d =>
    if d.uri = uri then { d with version := version, text := text } else d }
  let some n := s.attached | pure ()
  let some native := (← get).config.translator.virtualToFileUri uri | pure ()
  send n "textDocument/didChange" (changeParams native version text)

/-- Stops tracking a document and tells the attached server. -/
def didClose (sid : Nat) (uri : String) : M Unit := do
  let inst ← lookup sid
  let some s ← getInstance inst | pure ()
  if !s.tracks uri then return
  setInstance inst fun s => { s with docs := s.docs.filter (·.uri ≠ uri), order := s.order.erase uri }
  let some n := s.attached | pure ()
  let some native := (← get).config.translator.virtualToFileUri uri | pure ()
  send n "textDocument/didClose"
    (Json.render .wire (.obj [("textDocument", .obj [("uri", .str native)])]))

/-- Relays an editor request to the attached server; the reply comes back rewritten. Without
an attached server the result is `null`. -/
def request (sid : Nat) (method params : String) : M Unit := do
  match openInstance (← get) sid with
  | none => replyWith (.error (← notFound sid))
  | some inst =>
    let some s ← getInstance inst | pure ()
    match s.attached with
    | none => replyWith (.result "null")
    | some n => enqueue n (.request method (← toServer params))

/-- Relays an editor notification to the attached server. -/
def notify (sid : Nat) (method params : String) : M Unit := do
  let inst ← lookup sid
  let some s ← getInstance inst | pure ()
  match s.attached with
  | none => Op.fail notAttached
  | some n => send n method (← toServer params)

/-- Stops a session's server and runs the enable path again. -/
def restartSession (sid : Nat) : M Unit := do restart (← lookup sid)

/-- Stops a session's server until it is restarted. -/
def stopSession (sid : Nat) : M Unit := do
  let inst ← lookup sid
  halt inst
  setInstance inst fun s => { s with stopped := true }

/-- Restarts a session's server so that it picks up new settings, unless it was stopped. -/
def settingsChanged (sid : Nat) : M Unit := do
  let inst ← lookup sid
  let some s ← getInstance inst | pure ()
  if !s.stopped then restart inst

/-- The status of a session instance. -/
def statusJson (s : Instance) : Json :=
  .obj [("state", .str s.state.name), ("settings", s.cfg.settings.toJson),
    ("reconnectAttempted", .bool s.attempted), ("suppressCount", Json.ofNat s.suppress),
    ("openDocuments", Json.ofNat s.docs.length)]

/-- Serves a message a server sent to the editor, replying through the world. -/
def serverMessage (n : Nat) (method params : String) (isCall : Bool) : M Unit := do
  if let some r ← relayFromServer n method params isCall then replyWith r

end RemoteLsp.Daemon
