import RemoteLsp.Daemon.Controller

/-!
# Driving the daemon

What can happen to a daemon from outside, one step at a time: editors connect, send messages
and disconnect; remote runs finish; the user answers prompts; servers exit or send messages
of their own; the clock moves on; and the world can be told how to answer or fail next.

Each step starts with no events and no reply, and ends with the event loop drained.
-/

namespace RemoteLsp.Daemon

/-- How the daemon is set up: session defaults, the scheme of virtual paths, the delay before
a reconnect (zero for the default) and the idle timeout in minutes (zero for none). -/
structure Setup where
  defaults : Session.Defaults := {}
  scheme : String := ""
  reconnectDelayMs : Nat := 0
  idleTimeoutMinutes : Nat := 0
  deriving Repr

/-- The delay before a reconnect when none is configured. -/
def defaultReconnectMs : Nat := 20000

/-- A daemon ready to serve over the identity store's documents, naming its sessions one way
and living in a world, with its idle timer started; it cannot be built when the session
defaults are invalid. -/
def create (s : Setup) (docs : Identity.Documents) (naming : SessionNaming) (world : World) :
    Except Problem State := do
  let defaults ← s.defaults.check
  let cfg : DaemonConfig := ⟨Path.Translator.ofScheme s.scheme, defaults,
    if s.reconnectDelayMs = 0 then defaultReconnectMs else s.reconnectDelayMs,
    s.idleTimeoutMinutes * 60000, naming⟩
  let d : State := ⟨cfg, Identity.Store.load docs, [], [], [], [],
    initialCounters.map fun c => (c, 0), none, 0, world⟩
  match refreshIdleTimer.run d with
  | .ok _ d => pure d
  | .error _ d => pure d

/-- Runs one step: events and reply start empty, and the loop is drained at the end. -/
def step {α : Type} (op : M α) : M α := do
  updateWorld fun w => { w with events := [], reply := none, returned := none }
  let a ← op
  drain loopFuel
  pure a

/-- An editor connects, with a connection or without; returns its session. -/
def connect (hasConn : Bool) : M Nat := do
  let sid := (← get).nextSession
  modify fun d => { d with nextSession := sid + 1 }
  emit (.register sid hasConn)
  modify fun d => { d with connections := d.connections ++ [⟨sid, hasConn, ""⟩] }
  refreshIdleTimer
  count "json_rpc.connections"
  pure sid

/-- An editor's connection ends. -/
def disconnect (sid : Nat) : M Unit := do
  endSession sid
  count "json_rpc.disconnects"

/-- An editor sends a message, a call or a notification; the reply is left in the world. -/
def sendMessage (sid : Nat) (method params : String) (isCall : Bool) : M Unit :=
  handleMessage sid method params isCall

/-- A pending remote run finishes: the one given, or the oldest. Returns its id. -/
def completeRun (id? : Option Nat) (res : Shell.RunResult) : M (Option Nat) := do
  let pending := (← get).world.pendingRuns
  let entry := match id? with
    | some id => pending.find? (·.1 = id)
    | none => pending.head?
  match entry with
  | none => pure none
  | some (id, next) =>
    updateWorld fun w => { w with pendingRuns := w.pendingRuns.filter (·.1 ≠ id) }
    post (.ran next res)
    pure (some id)

/-- Results that later remote runs get at once, in order. -/
def scriptRuns (results : List Shell.RunResult) : M Unit :=
  updateWorld fun w => { w with scriptedRuns := w.scriptedRuns ++ results }

/-- Answers that later input prompts get at once, in order. -/
def scriptInputs (answers : List (String × Bool)) : M Unit :=
  updateWorld fun w => { w with scriptedInputs := w.scriptedInputs ++ answers }

/-- Answers that later confirmations get at once, in order. -/
def scriptConfirms (answers : List (String × Bool)) : M Unit :=
  updateWorld fun w => { w with scriptedConfirms := w.scriptedConfirms ++ answers }

/-- Whether a prompt is a pending input with the given id, or any when none is given. -/
def isInputPrompt (id? : Option Nat) : Prompt → Bool
  | .input id _ => id?.all (· = id)
  | .confirm _ _ => false

/-- Whether a prompt is a pending confirmation with the given id, or any when none is given. -/
def isConfirmPrompt (id? : Option Nat) : Prompt → Bool
  | .confirm id _ => id?.all (· = id)
  | .input _ _ => false

/-- The user answers a pending input prompt: the one given, or the oldest. Returns its id. -/
def answerInput (id? : Option Nat) (value : String) (cancelled : Bool) : M (Option Nat) := do
  match (← get).world.prompts.find? (isInputPrompt id?) with
  | some (.input id next) =>
    updateWorld fun w => { w with prompts := w.prompts.filter (·.id ≠ id) }
    post (.answered next value cancelled)
    pure (some id)
  | _ => pure none

/-- The user answers a pending confirmation: the one given, or the oldest. Returns its id. -/
def answerConfirm (id? : Option Nat) (choice : String) (ok : Bool) : M (Option Nat) := do
  match (← get).world.prompts.find? (isConfirmPrompt id?) with
  | some (.confirm id a) =>
    updateWorld fun w => { w with prompts := w.prompts.filter (·.id ≠ id) }
    post (.confirmed a choice ok)
    pure (some id)
  | _ => pure none

/-- The pending remote runs and prompts, and the number of queued tasks. -/
def pending (d : State) : List Nat × List Nat × Nat :=
  (d.world.pendingRuns.map (·.1), d.world.prompts.map (·.id), d.world.queue.length)

/-- The server a step names, or the latest one. -/
def serverNamed (d : State) (n? : Option Nat) : Option Nat :=
  match n? with
  | some n => if n < d.servers.length then some n else none
  | none => if d.servers.isEmpty then none else some (d.servers.length - 1)

/-- A server process exits; each exits once. Returns the server. -/
def serverExit (n? : Option Nat) (status : ExitStatus) : M (Except String Nat) := do
  match serverNamed (← get) n? with
  | none => pure (.error "no such server")
  | some n =>
    let some srv ← getServer n | pure (.error "no such server")
    if srv.exited then pure (.error "server already exited")
    else
      setServer n fun s => { s with exited := true }
      post (.exited srv.inst n status)
      pure (.ok n)

/-- A server sends a message to the editor; the reply is left in the world. -/
def serverSends (n? : Option Nat) (method params : String) (isCall : Bool) :
    M (Except String Nat) := do
  match serverNamed (← get) n? with
  | none => pure (.error "no such server")
  | some n =>
    serverMessage n method params isCall
    pure (.ok n)

/-- Sets what servers answer a method with. -/
def setServerAnswer (method : String) (a : Answer) : M Unit :=
  updateWorld fun w => { w with serverAnswers := Identity.Assoc.put w.serverAnswers method a }

/-- Makes notifications to servers fail. -/
def setNotifyError (message : String) : M Unit :=
  updateWorld fun w => { w with notifyError := some message }

/-- Sets what the editor answers calls with. -/
def setEditorAnswer (a : Answer) : M Unit := updateWorld fun w => { w with editorAnswer := a }

/-- Takes the editor's log away, or gives it back. -/
def setNoLogWriter (b : Bool) : M Unit := updateWorld fun w => { w with noLogWriter := b }

/-- Makes writes to the editor's log fail after they are seen. -/
def setLogWriteError (b : Bool) : M Unit := updateWorld fun w => { w with logWriteFails := b }

/-- Makes the next launch fail with a message. -/
def setLaunchFailure (message : String) : M Unit :=
  updateWorld fun w => { w with launchFailure := some message }

/-- Holds the messages of the next server launched until it is released. -/
def holdNextServer : M Unit := updateWorld fun w => { w with holdNext := true }

/-- Releases a server's held messages. Returns the server and how many were delivered. -/
def releaseServer (n? : Option Nat) : M (Except String (Nat × Nat)) := do
  match serverNamed (← get) n? with
  | none => pure (.error "no such server")
  | some n => pure (.ok (n, ← release n))

/-- Stable insertion by due time. -/
def insertByDue (t : Timer) : List Timer → List Timer
  | [] => [t]
  | u :: us => if t.due < u.due then t :: u :: us else u :: insertByDue t us

/-- What a timer does when it fires. -/
def fire : TimerAction → M Unit
  | .reconnect inst gen buffer => post (.reconnect inst gen buffer)
  | .idle => emit .shutdown

/-- The clock moves on; the timers due by then fire in due order. Returns the number of live
timers left. -/
def advance (ms : Nat) : M Nat := do
  updateWorld fun w => { w with now := w.now + ms }
  let w := (← get).world
  let isDue (t : Timer) : Bool := t.live && t.due ≤ w.now
  let due := (w.timers.filter isDue).foldl (fun acc t => insertByDue t acc) []
  let settle (t : Timer) : Timer := if isDue t then { t with live := false } else t
  updateWorld fun w => { w with timers := w.timers.map settle }
  due.forM fun t => fire t.action
  pure (pendingTimers (← get).world)

/-- What is known of the check of a session's settings, and its configuration. -/
def provisionOf (sid : Nat) : M (ProvisionState × Session.SessionConfig) := do
  let inst ← lookup sid
  let cfg ← configOf inst
  pure (provisionState (← get) cfg.settings, cfg)

/-- Makes an environment the last one of a host, directly in the store. -/
def rememberDirectly (host env : String) : M Unit := remember host env

end RemoteLsp.Daemon
