import RemoteLsp.Control.Problem
import RemoteLsp.Session.Config
import RemoteLsp.Shell.Runner
import RemoteLsp.Lifecycle.State
import RemoteLsp.Provision.State
import RemoteLsp.Editor.Severity
import RemoteLsp.Server.Exit
import RemoteLsp.Path.Virtual
import RemoteLsp.Editor.Gateway
import RemoteLsp.Server.Launcher
import RemoteLsp.Double.Host

/-!
# The daemon and its world

The daemon serves editor sessions: each session is configured, provisions a backend on its
remote host, and has a language server launched there whose messages are relayed both ways.
Everything the daemon does to the outside goes through collaborators — a runner of remote
scripts, the editor, a launcher of servers, a clock and an event loop — and here those are a
deterministic world: remote runs and prompts wait until they are answered (or answer at once
from a script of answers), servers answer calls from a table, and every effect on the world is
recorded as an event.

What Go code keeps as closures is data here: a remote run carries what to do with its
result, a prompt what to do with its answer, and the event loop holds tasks. Session
instances and servers are never forgotten, so a late callback can still find the instance it
was made for and see that it was closed.
-/

namespace RemoteLsp.Daemon

/-- The name a session has in messages and events: sessions are numbered in the order they
connect. -/
def sessionName (sid : Nat) : String := "#S" ++ toString sid

/-- The identifier of the n-th connection of a daemon that names sessions by connection. -/
def connectionUuid (n : Nat) : String :=
  "00000000-0000-4000-9000-" ++ String.ofList (Text.hexPadded 12 n)

/-- How sessions are named in messages: numbered in the order they connect, or by the
identifier of their connection. -/
inductive SessionNaming where
  | numbered
  | byConnection
  deriving Repr, DecidableEq

/-- The name of a session under a naming. -/
def SessionNaming.name : SessionNaming → Nat → String
  | .numbered, sid => sessionName sid
  | .byConnection, sid => connectionUuid (sid + 1)

/-- What a collaborator answered a call with: a result as JSON text, an error message, or an
error of the protocol with its code. -/
inductive Answer where
  | result (raw : String)
  | error (message : String)
  | rpcError (code : Int) (message : String)
  deriving Repr, DecidableEq, Inhabited

/-- A reply to an editor message: a result as JSON text, or an error. -/
inductive Reply where
  | result (raw : String)
  | error (p : Problem)
  deriving Repr, DecidableEq

/-- An effect on the world, in the order it happened. -/
inductive Event where
  | register (sid : Nat) (conn : Bool)
  | deregister (sid : Nat)
  | run (id sid : Nat) (host script : String) (timeoutMs : Int)
  | runDone (id : Nat) (scripted : Bool)
  | report (sid : Nat) (severity : Severity) (message : String)
  | input (id sid : Nat) (kind text preset : String) (choices : List String)
  | confirm (id sid : Nat) (message : String) (actions : List String)
  | log (sid : Nat) (pfx text : String)
  | launch (server sid : Nat) (host name script : String)
  | launchFailed (sid : Nat) (host name : String)
  | serverCall (server : Nat) (method params : String)
  | serverNotify (server : Nat) (method params : String)
  | serverStop (server : Nat)
  | editorNotify (sid : Nat) (method params : String)
  | editorCall (sid : Nat) (method params : String)
  | shutdown
  | connClose
  deriving Repr, DecidableEq

/-- A document the editor has open. -/
structure Document where
  uri : String
  languageId : String
  version : Int
  text : String
  deriving Repr, DecidableEq

/-- One check of a backend on a host and environment, made for the session instance that
started it; `gen` is the instance's generation when it asked. -/
structure Attempt where
  owner : Nat
  gen : Nat
  settings : Settings
  key : String
  python : String
  retried : Bool
  deriving Repr, DecidableEq

/-- A session instance waiting for a check, at the generation it asked in. -/
structure Waiter where
  owner : Nat
  key : String
  gen : Nat
  deriving Repr, DecidableEq

/-- What is known of one validation key, and who waits for its check. -/
structure KeyState where
  state : ProvisionState
  waiters : List Waiter
  deriving Repr, DecidableEq

/-- What follows a remote run. -/
inductive RunNext where
  /-- The test that the interpreter is executable. -/
  | executable (a : Attempt)
  /-- The run of the interpreter's version. -/
  | version (a : Attempt)
  /-- The detection of the backend, after an install or not. -/
  | detect (a : Attempt) (installed : Bool)
  /-- The install of the backend. -/
  | install (a : Attempt)
  /-- The search for the repository holding the last buffer's directory. -/
  | root (inst gen : Nat) (dir : String)
  deriving Repr, DecidableEq

/-- What follows an answer to an input prompt. -/
inductive InputNext where
  /-- The host of a session instance was asked for. -/
  | host (inst gen : Nat)
  /-- A replacement environment was asked for after the interpreter was not found. -/
  | environment (a : Attempt) (res : Shell.RunResult)
  deriving Repr, DecidableEq

/-- A prompt the editor has not answered yet. -/
inductive Prompt where
  | input (id : Nat) (next : InputNext)
  | confirm (id : Nat) (a : Attempt)
  deriving Repr, DecidableEq

/-- The id of a prompt. -/
def Prompt.id : Prompt → Nat
  | .input id _ => id
  | .confirm id _ => id

/-- A task on the event loop. -/
inductive Task where
  | ran (next : RunNext) (res : Shell.RunResult)
  | answered (next : InputNext) (value : String) (cancelled : Bool)
  | confirmed (a : Attempt) (choice : String) (ok : Bool)
  | initialized (inst server : Nat) (answer : Answer)
  | exited (inst server : Nat) (status : ExitStatus)
  | reconnect (inst gen : Nat) (buffer : String)
  deriving Repr, DecidableEq

/-- A message waiting in a server's queue. -/
inductive Outgoing where
  | handshake (params : String)
  | notify (method params : String)
  | request (method params : String)
  deriving Repr, DecidableEq

/-- What a timer does when it fires. -/
inductive TimerAction where
  | reconnect (inst gen : Nat) (buffer : String)
  | idle
  deriving Repr, DecidableEq

/-- A timer of the clock; a live timer has neither fired nor been stopped. -/
structure Timer where
  id : Nat
  due : Nat
  action : TimerAction
  live : Bool
  deriving Repr, DecidableEq

/-- A launched server: the session instance it serves, where it runs, the settings it was
started with, and its message queue, which holds messages while the server is held. -/
structure Server where
  sid : Nat
  inst : Nat
  host : String
  root : String
  settings : Settings
  active : Bool
  stopped : Bool
  exited : Bool
  held : Bool
  queue : List Outgoing
  deriving Repr, DecidableEq

/-- One opening of a session: its configuration, what the editor said of itself, its
documents in the order they were opened, and the state of its server. -/
structure Instance where
  sid : Nat
  cfg : Session.SessionConfig
  editorRoot : String
  capabilities : String
  state : LifecycleState
  docs : List Document
  order : List String
  lastBuffer : String
  attempted : Bool
  suppress : Nat
  stopped : Bool
  closed : Bool
  reconnect : Option Nat
  gen : Nat
  current : Option Nat
  deriving Repr

/-- A connected editor: its session, whether it has a connection, and the client's name. -/
structure Connection where
  sid : Nat
  conn : Bool
  clientName : String
  deriving Repr, DecidableEq

/-- The daemon's configuration. -/
structure DaemonConfig where
  translator : Path.Translator
  defaults : Session.Defaults
  delayMs : Nat
  idleMs : Nat
  naming : SessionNaming
  deriving Repr

/-- The world of a daemon that serves a real editor: the editor's gateway, the launcher of
servers on remote hosts, the remote hosts that scripts run on, and the remote shell binary. -/
structure Live where
  gateway : Editor.Gateway
  launcher : Server.Launcher
  hosts : Double.Host
  binary : String
  deriving Repr

/-- The world around the daemon: scripted and pending remote runs and prompts, the answers
of the editor and of servers, failures to inject, the clock, the event loop, and the
events, reply and returned error of the message served in the current step. -/
structure World where
  scriptedRuns : List Shell.RunResult := []
  pendingRuns : List (Nat × RunNext) := []
  nextRun : Nat := 0
  scriptedInputs : List (String × Bool) := []
  scriptedConfirms : List (String × Bool) := []
  prompts : List Prompt := []
  nextPrompt : Nat := 0
  editorAnswer : Answer := .result "null"
  serverAnswers : List (String × Answer) := []
  notifyError : Option String := none
  launchFailure : Option String := none
  holdNext : Bool := false
  noLogWriter : Bool := false
  logWriteFails : Bool := false
  now : Nat := 0
  timers : List Timer := []
  nextTimer : Nat := 0
  queue : List Task := []
  events : List Event := []
  reply : Option Reply := none
  returned : Option Problem := none
  live : Option Live := none
  deriving Repr

/-- The whole daemon in its world. -/
structure State where
  config : DaemonConfig
  store : Identity.Store
  connections : List Connection
  instances : List Instance
  servers : List Server
  keys : List (String × KeyState)
  counters : List (String × Nat)
  idleTimer : Option Nat
  nextSession : Nat
  world : World

/-- An operation of the daemon. -/
abbrev M (α : Type) := Op State α

/-- The timeouts the world's remote runner gives each kind of run, in milliseconds. -/
def runTimeouts : Shell.Timeouts := ⟨10000, 15000, 300000, 10000⟩

/-- The counters that exist from the start. -/
def initialCounters : List String :=
  ["lifecycle.started", "lifecycle.exits_clean", "lifecycle.exits_abnormal",
   "lifecycle.exits_suppressed", "lifecycle.reconnects_scheduled", "lifecycle.given_up",
   "rewriter.rewritten", "rewriter.failed"]

end RemoteLsp.Daemon
