import RemoteLsp.Daemon.Model
import RemoteLsp.Message.Locations
import RemoteLsp.Backend.Script
import RemoteLsp.Json.Write
import RemoteLsp.Json.Read
import RemoteLsp.Uri.File
import RemoteLsp.Path.Clean

/-!
# Effects of the daemon on its world

The single steps by which the daemon touches its state and the world: recording events,
counting, posting loop tasks, asking the runner, the editor and the launcher, queueing
messages to servers, setting timers, and changing a session instance's configuration
together with the identity store.

A remote run or a prompt answered from a script answers at once, which posts its
continuation to the event loop; otherwise it waits. A server's queue delivers each message at
once unless the server was launched held, in which case its messages wait for a release.

A daemon that serves a real editor has a live world instead: remote runs go to the scripted
hosts and answer at once, questions go to the editor's gateway, and servers are launched
through the launcher and spoken to over their streams. What a server sends back while it
serves a message is relayed to the editor as it comes, and a server whose process ended has
its exit posted to the loop.
-/

namespace RemoteLsp.Daemon

/-- The list with the element at `i` changed. -/
def updateAt {α : Type} (xs : List α) (i : Nat) (f : α → α) : List α :=
  xs.mapIdx fun j x => if j = i then f x else x

/-- Changes the world. -/
def updateWorld (f : World → World) : M Unit :=
  modify fun d => { d with world := f d.world }

/-- Records an event. -/
def emit (e : Event) : M Unit := updateWorld fun w => { w with events := w.events ++ [e] }

/-- Adds to a counter, creating it. -/
def addCount (name : String) (n : Nat) : M Unit :=
  modify fun d =>
    let now := (Identity.Assoc.get? d.counters name).getD 0
    { d with counters := Identity.Assoc.put d.counters name (now + n) }

/-- Counts one. -/
def count (name : String) : M Unit := addCount name 1

/-- Appends a task to the event loop. -/
def post (t : Task) : M Unit := updateWorld fun w => { w with queue := w.queue ++ [t] }

/-- Replies to the editor message being served, unless it has been replied to. -/
def replyWith (r : Reply) : M Unit :=
  updateWorld fun w => if w.reply.isSome then w else { w with reply := some r }

/-- The live world, if the daemon has one. -/
def live? : M (Option Live) := return (← get).world.live

/-- Replaces the live world. -/
def setLive (l : Live) : M Unit := updateWorld fun w => { w with live := some l }

/-- The name of a session in messages. -/
def nameOf (sid : Nat) : M String := return (← get).config.naming.name sid

/-- The number of a severity: info 0, warning 1, error 2. -/
def severityNumber : Severity → Int
  | .info => 0
  | .warning => 1
  | .error => 2

/-- Tells the editor of a session something. -/
def report (sid : Nat) (severity : Severity) (message : String) : M Unit := do
  emit (.report sid severity message)
  if let some l ← live? then
    setLive { l with gateway := l.gateway.report (some (← nameOf sid)) (severityNumber severity) message }

/-- The error of a session that is not open. -/
def notFound (sid : Nat) : M Problem :=
  return ⟨.uuidNotFound, "session " ++ (← nameOf sid) ++ " not found"⟩

/-- A session instance. -/
def getInstance (inst : Nat) : M (Option Instance) := return (← get).instances[inst]?

/-- Changes a session instance. -/
def setInstance (inst : Nat) (f : Instance → Instance) : M Unit :=
  modify fun d => { d with instances := updateAt d.instances inst f }

/-- The open instance of a session, if any. -/
def openInstance (d : State) (sid : Nat) : Option Nat :=
  d.instances.findIdx? fun s => s.sid = sid && !s.closed

/-- The open instance of a session, or the error that it is not open. -/
def lookup (sid : Nat) : M Nat := do
  match openInstance (← get) sid with
  | some i => pure i
  | none => Op.fail (← notFound sid)

/-- A launched server. -/
def getServer (n : Nat) : M (Option Server) := return (← get).servers[n]?

/-- Changes a launched server. -/
def setServer (n : Nat) (f : Server → Server) : M Unit :=
  modify fun d => { d with servers := updateAt d.servers n f }

/-- Runs a configuration operation on a session instance's configuration and the store. -/
def withConfig {α : Type} (inst : Nat) (op : Op Session.ConfigState α) (fallback : α) : M α := do
  let d ← get
  match d.instances[inst]? with
  | none => pure fallback
  | some s =>
    let keep (cs : Session.ConfigState) : State :=
      let instances := updateAt d.instances inst fun s => { s with cfg := cs.config }
      { d with instances := instances, store := cs.store }
    match op.run ⟨s.cfg, d.store⟩ with
    | .ok a cs =>
      set (keep cs)
      pure a
    | .error e cs =>
      set (keep cs)
      throw e

/-- Changes the validation cache of a session instance. -/
def updateCache (inst : Nat) (f : ValidationCache → ValidationCache) : M Unit :=
  setInstance inst fun s => { s with cfg := { s.cfg with cache := f s.cfg.cache } }

/-- The configuration of a session instance. -/
def configOf (inst : Nat) : M Session.SessionConfig := do
  match (← getInstance inst) with
  | some s => pure s.cfg
  | none => pure ⟨{}, false, {}⟩

/-- Makes an environment the last one of a host in the store. -/
def remember (host env : String) : M Unit := do
  match (← get).store.remember host env with
  | .ok s => modify fun d => { d with store := s }
  | .error m => Op.fault m

/-- Records in the store that an environment has a working backend under a key. -/
def markValid (key env : String) : M Unit := do
  match (← get).store.markValid key env with
  | .ok s => modify fun d => { d with store := s }
  | .error m => Op.fault m

/-- Runs a script on a host for a session; what follows the run goes to the event loop when
it finishes, at once for a scripted result. -/
def runRemote (sid : Nat) (host script : String) (timeoutMs : Int) (next : RunNext) : M Unit := do
  let w := (← get).world
  let id := w.nextRun
  updateWorld fun w => { w with nextRun := id + 1 }
  emit (.run id sid host script timeoutMs)
  if let some l := w.live then
    let (res, hosts) := l.hosts.result l.binary host script
    setLive { l with hosts := hosts }
    emit (.runDone id true)
    post (.ran next res)
    return
  match w.scriptedRuns with
  | res :: rest =>
    updateWorld fun w => { w with scriptedRuns := rest }
    emit (.runDone id true)
    post (.ran next res)
  | [] => updateWorld fun w => { w with pendingRuns := w.pendingRuns ++ [(id, next)] }

/-- A new prompt id. -/
def freshPrompt : M Nat := do
  let id := (← get).world.nextPrompt
  updateWorld fun w => { w with nextPrompt := id + 1 }
  pure id

/-- Asks the editor of a session for a value. -/
def askInput (sid : Nat) (kind text preset : String) (choices : List String) (next : InputNext) :
    M Unit := do
  let id ← freshPrompt
  emit (.input id sid kind text preset choices)
  if let some l ← live? then
    let (op, g) := l.gateway.input (some (← nameOf sid)) ⟨kind, text, preset, choices⟩
    setLive { l with gateway := g }
    if let some (some (.answered v c)) := g.outcomes[op]? then post (.answered next v c)
    return
  match (← get).world.scriptedInputs with
  | (v, c) :: rest =>
    updateWorld fun w => { w with scriptedInputs := rest }
    post (.answered next v c)
  | [] => updateWorld fun w => { w with prompts := w.prompts ++ [.input id next] }

/-- Asks the editor of a session to choose an action. -/
def askConfirm (sid : Nat) (message : String) (actions : List String) (a : Attempt) : M Unit := do
  let id ← freshPrompt
  emit (.confirm id sid message actions)
  if let some l ← live? then
    let (op, g) := l.gateway.confirm (some (← nameOf sid)) message actions
    setLive { l with gateway := g }
    if let some (some (.confirmed choice ok)) := g.outcomes[op]? then post (.confirmed a choice ok)
    return
  match (← get).world.scriptedConfirms with
  | (choice, ok) :: rest =>
    updateWorld fun w => { w with scriptedConfirms := rest }
    post (.confirmed a choice ok)
  | [] => updateWorld fun w => { w with prompts := w.prompts ++ [.confirm id a] }

/-- Writes remote output to the editor's log of a session, when the editor has one. -/
def writeLog (sid : Nat) (pfx text : String) : M Unit := do
  if (← get).world.noLogWriter then return
  emit (.log sid pfx text)
  if let some l ← live? then
    if let .ok (_, g) := l.gateway.writeLog (some (← nameOf sid)) pfx text then
      setLive { l with gateway := g }

/-- Sends a notification to the editor of a session; one that cannot be sent is dropped. -/
def editorNotify (sid : Nat) (method params : String) : M Unit := do
  emit (.editorNotify sid method params)
  if let some l ← live? then
    if let .ok g := l.gateway.notify (some (← nameOf sid)) method params then
      setLive { l with gateway := g }

/-- Calls the editor of a session. -/
def editorCall (sid : Nat) (method params : String) : M Answer := do
  emit (.editorCall sid method params)
  match ← live? with
  | some l =>
    let (r, g) := l.gateway.call (some (← nameOf sid)) method params
    setLive { l with gateway := g }
    match r with
    | .ok raw => pure (.result raw)
    | .error e => pure (.error e)
  | none => pure (← get).world.editorAnswer

/-- What a server answers `initialize` with unless told otherwise. -/
def defaultInitializeAnswer : String :=
  Json.render .wire (.obj [("capabilities", .obj []), ("serverInfo", .obj [("name", .str "fake")])])

/-- Rewrites the locations of a server payload for the editor, counting them. -/
def toEditor (host payload : String) : M String := do
  let (out, t) := Message.mapPayload (Message.toEditorPass (← get).config.translator host) payload
  addCount "rewriter.rewritten" t.changed
  addCount "rewriter.failed" t.failed
  pure out

/-- Rewrites the locations of an editor payload for a server, counting them. -/
def toServer (payload : String) : M String := do
  let (out, t) := Message.mapPayload (Message.toServerPass (← get).config.translator) payload
  addCount "rewriter.rewritten" t.changed
  addCount "rewriter.failed" t.failed
  pure out

/-- The workspace folders of a root: the root itself, named by its last element. -/
def workspaceFolders (root : String) : Json :=
  .arr [.obj [("uri", .str (Uri.fileUriOfPath root)), ("name", .str (Path.base root))]]

/-- The error a server that was detached gets for its calls. -/
def detachedError : Problem := ⟨.jsonRpc (-32603), "server is detached"⟩

/-- Serves a message a server sent to the editor: the folders of its root are answered here,
everything else goes to the editor with its locations rewritten, and call results come back
rewritten for the server. A server that was detached gets an error for its calls. Returns
the answer to a call. -/
def relayFromServer (n : Nat) (method params : String) (isCall : Bool) : M (Option Reply) := do
  let some srv ← getServer n | pure none
  if !srv.active then
    pure (if isCall then some (.error detachedError) else none)
  else if method = "workspace/workspaceFolders" then
    if srv.root.isEmpty then pure (some (.result "null"))
    else pure (some (.result (Json.render .wire (workspaceFolders srv.root))))
  else
    let params ← toEditor srv.host params
    if !isCall then
      editorNotify srv.sid method params
      pure none
    else
      match ← editorCall srv.sid method params with
      | .error e => pure (some (.error (.plain e)))
      | .rpcError c e => pure (some (.error ⟨.jsonRpc c, e⟩))
      | .result r => pure (some (.result (← toServer r)))

/-- The answer a server gets for its question, as its own reply is made from it. -/
def Reply.forServer : Reply → Except String String
  | .result r => .ok r
  | .error p => .error p.message

/-- Serves what a server does for its client while it serves a message, in order: its
notifications and questions go to the editor, and a question's answer makes its reply.
Returns the server's reply, if it gave one. -/
def serveActs (n : Nat) : List Double.ServerAct → M (Option Double.ServerReply)
  | [] => pure none
  | a :: rest => do
    let r ← match a with
      | .notify m p => do
        let _ ← relayFromServer n m p false
        pure none
      | .ask m p next => do
        let answer ← relayFromServer n m p true
        pure (some (next.finish ((answer.map Reply.forServer).getD (.ok ""))))
      | .reply x => pure (some x)
      | _ => pure none
    let later ← serveActs n rest
    pure (match later with
      | some x => some x
      | none => r)

/-- Notes the exit of a server's process once it has ended: the server is marked exited and
its exit is posted to the loop. -/
def noteExit (n : Nat) : M Unit := do
  let some l ← live? | pure ()
  let some srv ← getServer n | pure ()
  match l.launcher.exitOf n with
  | some status =>
    if !srv.exited then
      setServer n fun s => { s with exited := true }
      post (.exited srv.inst n status)
  | none => pure ()

/-- Delivers a message to a server of the live world: what it does for its client is served,
and its exit noted. Returns its reply; none when it could not be written to. -/
def deliverLive (l : Live) (n : Nat) (method params : String) :
    M (Option (Option Double.ServerReply)) := do
  let (acts, launcher) := l.launcher.deliver n method params
  setLive { l with launcher := launcher }
  match acts with
  | none =>
    noteExit n
    pure none
  | some acts =>
    let r ← serveActs n acts
    noteExit n
    pure (some r)

/-- Calls a server. -/
def serverCall (n : Nat) (method params : String) : M Answer := do
  emit (.serverCall n method params)
  if let some l ← live? then
    match ← deliverLive l n method params with
    | none => return .error Server.closedError
    | some none => return .error (Server.exitedError method)
    | some (some (.result r)) => return .result r
    | some (some (.error c m)) => return .rpcError c m
  match Identity.Assoc.get? (← get).world.serverAnswers method with
  | some a => pure a
  | none => pure (.result (if method = "initialize" then defaultInitializeAnswer else "null"))

/-- Sends a notification to a server; a failure to send is dropped. -/
def serverNotify (n : Nat) (method params : String) : M Unit := do
  emit (.serverNotify n method params)
  if let some l ← live? then
    let _ ← deliverLive l n method params

/-- Stops a server; it exits later. -/
def serverStop (n : Nat) : M Unit := do
  emit (.serverStop n)
  if let some l ← live? then
    setLive { l with launcher := l.launcher.kill n }
    noteExit n

/-- Whether the next queue is held, which only the next one is. -/
def takeHold : M Bool := do
  let held := (← get).world.holdNext
  updateWorld fun w => { w with holdNext := false }
  pure held

/-- Launches a server for a session instance: its number, or why it failed. A failure set for
the world happens once. -/
def launch (inst sid : Nat) (host name script root : String) (settings : Settings) (held : Bool) :
    M (Except String Nat) := do
  match (← get).world.launchFailure with
  | some m =>
    updateWorld fun w => { w with launchFailure := none }
    emit (.launchFailed sid host name)
    pure (.error m)
  | none =>
    if let some l ← live? then
      match l.launcher.launch host name script with
      | (.error m, launcher) =>
        setLive { l with launcher := launcher }
        emit (.launchFailed sid host name)
        return .error m
      | (.ok _, launcher) => setLive { l with launcher := launcher }
    let n := (← get).servers.length
    modify fun d => { d with servers := d.servers ++
      [⟨sid, inst, host, root, settings, false, false, false, held, []⟩] }
    emit (.launch n sid host name script)
    pure (.ok n)

/-- Delivers a message to a server now. -/
def deliver (n : Nat) (m : Outgoing) : M Unit := do
  match m with
  | .handshake params =>
    let a ← serverCall n "initialize" params
    match (← getServer n) with
    | some srv => post (.initialized srv.inst n a)
    | none => pure ()
  | .notify method params => serverNotify n method params
  | .request method params =>
    match ← serverCall n method params with
    | .error e => replyWith (.error (.plain e))
    | .rpcError c e => replyWith (.error ⟨.jsonRpc c, e⟩)
    | .result r =>
      let host := ((← getServer n).map (·.host)).getD ""
      replyWith (.result (← toEditor host r))

/-- Queues a message to a server: delivered now, or kept while the server is held. -/
def enqueue (n : Nat) (m : Outgoing) : M Unit := do
  match (← getServer n) with
  | some srv =>
    if srv.held then setServer n fun s => { s with queue := s.queue ++ [m] }
    else deliver n m
  | none => pure ()

/-- Releases a held server: its waiting messages are delivered in order. Returns how many. -/
def release (n : Nat) : M Nat := do
  match (← getServer n) with
  | some srv =>
    setServer n fun s => { s with held := false, queue := [] }
    srv.queue.forM (deliver n)
    pure srv.queue.length
  | none => pure 0

/-- Sets a timer due after `ms` milliseconds. -/
def afterMs (ms : Nat) (action : TimerAction) : M Nat := do
  let w := (← get).world
  let id := w.nextTimer
  updateWorld fun w =>
    let timers := w.timers ++ [⟨id, w.now + ms, action, true⟩]
    { w with nextTimer := id + 1, timers := timers }
  pure id

/-- Stops a timer. -/
def stopTimer (id : Nat) : M Unit :=
  updateWorld fun w => { w with timers := w.timers.map fun t =>
    if t.id = id then { t with live := false } else t }

/-- The number of live timers. -/
def pendingTimers (w : World) : Nat := (w.timers.filter (·.live)).length

end RemoteLsp.Daemon
