import RemoteLsp.Daemon.Steps
import RemoteLsp.Program.Startup
import RemoteLsp.Double.Host
import RemoteLsp.Text.Uuid

/-!
# Serving one editor

With standard streams as its endpoint the daemon serves exactly one editor: the editor that
started it connects at once, and everything the daemon does for it happens in a world of
scripted doubles: the editor answers from its script, remote scripts answer from the hosts'
script, and launched servers are scripted servers behind the remote shell.

Time is virtual. The daemon and the editor's gateway each keep a clock with timers; waiting
moves both clocks on to the next timer that is due, until what is waited for has happened or
the time allowed has passed. Nothing else moves the clocks, so a timer fires only while
someone waits.

The editor's connection carries text: every message it is sent is recorded as the daemon
writes it, compact, with markup characters escaped.
-/

namespace RemoteLsp.Program

/-- A daemon serving one editor, and the editor's session. -/
structure Serving where
  daemon : Daemon.State
  session : Nat

/-- The name the daemon and the gateway know a session by. -/
def Serving.sessionName (s : Serving) : String := s.daemon.config.naming.name s.session

/-- Runs one step of the daemon; a fault abandons what the step was doing. -/
def Serving.run {α : Type} (s : Serving) (op : Daemon.M α) : Option α × Serving :=
  match (Daemon.step op).run s.daemon with
  | .ok a d => (some a, { s with daemon := d })
  | .error _ d => (none, { s with daemon := d })

/-- The live world of the daemon. -/
def Serving.live? (s : Serving) : Option Daemon.Live := s.daemon.world.live

/-- Changes the editor's gateway. -/
def Serving.withGateway (s : Serving) (f : Editor.Gateway → Editor.Gateway) : Serving :=
  match s.live? with
  | some l => { s with daemon := { s.daemon with world :=
      { s.daemon.world with live := some { l with gateway := f l.gateway } } } }
  | none => s

/-- Starts serving: the daemon is created over the store's documents in the live world, and
the editor connects. -/
def Serving.start (setup : Daemon.Setup) (docs : Identity.Documents) (live : Daemon.Live) :
    Except Problem Serving := do
  let d ← Daemon.create setup docs .byConnection { live := some live }
  let s : Serving := ⟨d, 0⟩
  match s.run (Daemon.connect true) with
  | (some sid, s) =>
    let s := { s with session := sid }
    pure (s.withGateway (·.register s.sessionName))
  | (none, s) => pure s

/-- What the editor was sent, each message's parameters as they were written. -/
def Serving.received (s : Serving) : List Editor.Message :=
  match s.live? with
  | some l =>
    match l.gateway.latestOf s.sessionName with
    | some conn => ((l.gateway.connections[conn]?).map (·.received)).getD []
    | none => []
  | none => []

/-- The text of parameters as they travel: compact, with markup characters escaped. -/
def wireText (params : String) : String := Json.embedText params

/-- Whether a text occurs in another. -/
def occursIn (needle : List Char) : List Char → Bool
  | [] => needle.isEmpty
  | c :: cs => needle.isPrefixOf (c :: cs) || occursIn needle cs

/-- Whether a text contains another. -/
def containsText (hay needle : String) : Bool := occursIn needle.toList hay.toList

/-- How many messages of a method the editor was sent whose parameters contain a text. -/
def Serving.countReceived (s : Serving) (method part : String) : Nat :=
  (s.received.filter fun m => m.method = method && containsText (wireText m.params) part).length

/-- The time until the next live timer of the daemon or of the gateway. -/
def Serving.nextDelay (s : Serving) : Option Nat :=
  let w := s.daemon.world
  let own := (w.timers.filter (·.live)).map fun t => t.due - w.now
  let gateway := match s.live? with
    | some l => (l.gateway.timers.filter (·.live)).map fun t => t.due - l.gateway.now
    | none => []
  (own ++ gateway).min?

/-- Moves both clocks on; the timers due by then fire. -/
def Serving.advance (s : Serving) (ms : Nat) : Serving :=
  let (_, s) := s.run (Daemon.advance ms)
  s.withGateway fun g => (g.advance ms).2

/-- The longest a wait lasts, in milliseconds. -/
def waitBudget : Nat := 10000

/-- How long settling lasts, in milliseconds. -/
def settleTime : Nat := 1000

/-- How many timers a wait lets fire at most. -/
def waitFuel : Nat := 200

/-- Waits until a condition holds, moving the clocks from timer to timer within a budget.
Says whether the condition came to hold; a wait that fails lasts the whole budget. -/
def Serving.waitFor (cond : Serving → Bool) : Nat → Nat → Serving → Bool × Serving
  | 0, _, s => (cond s, s)
  | fuel + 1, budget, s =>
    if cond s then (true, s)
    else
      match s.nextDelay with
      | some d =>
        if d ≤ budget then Serving.waitFor cond fuel (budget - d) (s.advance d)
        else (false, s.advance budget)
      | none => (false, s.advance budget)

/-- The editor sends a message; the daemon's reply to a call. -/
def Serving.send (s : Serving) (method params : String) (isCall : Bool) :
    Option Daemon.Reply × Serving :=
  let (_, s) := s.run (Daemon.sendMessage s.session method params isCall)
  (if isCall then s.daemon.world.reply else none, s)

/-- The result text of a reply as the editor reads it: compact, empty for a null result. -/
def resultText (raw : String) : String :=
  let t := wireText raw
  if t = "null" then "" else t

/-- The text a reply is matched against when a call is repeated until it says something. -/
def replyText : Option Daemon.Reply → String
  | some (.result raw) => resultText raw
  | some (.error p) => p.message
  | none => ""

/-- Calls the daemon until its reply contains a text, moving the clocks between attempts
within a budget. -/
def Serving.callUntil (method params want : String) : Nat → Nat → Serving →
    Option Daemon.Reply × Serving
  | 0, _, s => s.send method params true
  | fuel + 1, budget, s =>
    let (r, s) := s.send method params true
    if containsText (replyText r) want then (r, s)
    else
      match s.nextDelay with
      | some d => if d ≤ budget then Serving.callUntil method params want fuel (budget - d) (s.advance d)
                  else (r, s)
      | none => (r, s)

/-- The editor's connection ends. -/
def Serving.finish (s : Serving) : Serving := (s.run (Daemon.disconnect s.session)).2

/-- The launcher of the live world. -/
def Serving.launcher? (s : Serving) : Option Server.Launcher := s.live?.map (·.launcher)

/-- The identity store's documents. -/
def Serving.documents (s : Serving) : Identity.Documents := s.daemon.store.documents

theorem occursIn_nil (needle : List Char) (h : needle = []) (hay : List Char) :
    occursIn needle hay = true := by
  subst h
  cases hay <;> simp [occursIn]

end RemoteLsp.Program
