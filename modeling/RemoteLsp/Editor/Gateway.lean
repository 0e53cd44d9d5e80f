import RemoteLsp.Editor.Peer
import RemoteLsp.Json.Read
import RemoteLsp.Text.Quoted
import RemoteLsp.Text.Space
import RemoteLsp.Text.Utf8
import RemoteLsp.Time.Instant

/-!
# The gateway to editor sessions

The daemon reaches each editor session through the connection registered for it; a session
registered again gets a new connection, and the old one is left alone. Every call names its
session, and fails when it names none or one that is not registered.

Besides plain calls and notifications, the gateway shows and logs messages, reports with a
severity, writes remote output to the editor's log, and asks the user: to choose an action,
or to type a value. A choice asked with more than error severity is accompanied by a progress
notice, since the editor may hide such messages: the notice begins before the question, adds
a hint after five seconds and ends after two minutes, or as soon as the user answered. An
answer to a typed value is trimmed, and an empty, undecodable or missing one counts as
cancelled.

Questions asked on behalf of the daemon run on their own: they finish at once unless the
editor holds the request back, and then when it is released. Their outcomes are kept in the
order they were asked. The gateway's clock is a fake one that moves only when told.
-/

namespace RemoteLsp.Editor

/-- A connection of an editor session and what the editor was sent on it. -/
structure Connection where
  session : String
  received : List Message := []
  deriving Repr

/-- The progress notice of a question: its token and its two timers. -/
structure Progress where
  token : String
  hintTimer : Nat
  endTimer : Nat
  deriving Repr

/-- What a question held back by the editor continues with once answered. -/
inductive Continuation where
  /-- The progress notice was created; the choice is asked next. -/
  | progressCreated (op : Nat) (token message : String) (actions : List String)
  /-- The choice was asked, under a progress notice or not. -/
  | chosen (op : Nat) (progress : Option Progress)
  /-- A typed value was asked. -/
  | typed (op : Nat)
  deriving Repr

/-- What a timer of a progress notice does: show the hint, or end the notice. -/
inductive TimerAction where
  | hint (conn : Nat) (token : String)
  | finish (conn : Nat) (token : String)
  deriving Repr

/-- A timer of the clock; a live timer has neither fired nor been stopped. -/
structure Timer where
  id : Nat
  due : Nat
  action : TimerAction
  live : Bool
  deriving Repr

/-- How a question ended: the action chosen, or the value typed. -/
inductive Outcome where
  | confirmed (choice : String) (ok : Bool)
  | answered (value : String) (cancelled : Bool)
  deriving Repr, DecidableEq

/-- A request that the editor holds back, and what follows its answer. -/
structure Parked where
  conn : Nat
  method : String
  next : Continuation
  deriving Repr

/-- The gateway, the editor behind it, and the clock. -/
structure Gateway where
  behaviour : Behaviour
  connections : List Connection := []
  latest : List (String × Nat) := []
  registered : List String := []
  timers : List Timer := []
  now : Nat := Time.start2024
  tokens : Nat := 0
  outcomes : List (Option Outcome) := []
  parked : List Parked := []
  deriving Repr

/-- The error of a call made for no session. -/
def noSession : String := "no session found in context"

/-- The error of a call made for a session that is not registered. -/
def notFound (session : String) : String := "client with id " ++ Text.quoted session ++ " not found"

/-- The prefix of errors of calls and notifications that found no client. -/
def sendError (e : String) : String := "sending call/notification to IDE: " ++ e

/-- The list with the element at `i` changed. -/
def updateAt {α : Type} (xs : List α) (i : Nat) (f : α → α) : List α :=
  xs.mapIdx fun j x => if j = i then f x else x

namespace Gateway

/-- Registers a session with a new connection. -/
def register (g : Gateway) (session : String) : Gateway :=
  let conn := g.connections.length
  { g with connections := g.connections ++ [⟨session, []⟩],
           latest := (g.latest.filter (·.1 ≠ session)) ++ [(session, conn)],
           registered := (g.registered.filter (· ≠ session)) ++ [session] }

/-- Forgets the connection of a session. -/
def deregister (g : Gateway) (session : String) : Gateway :=
  { g with registered := g.registered.filter (· ≠ session) }

/-- The latest connection of a session. -/
def latestOf (g : Gateway) (session : String) : Option Nat :=
  (g.latest.find? (·.1 = session)).map (·.2)

/-- The connection of the session a call is made for. -/
def clientOf (g : Gateway) : Option String → Except String Nat
  | none => .error noSession
  | some s =>
    if g.registered.contains s then
      match g.latestOf s with
      | some c => .ok c
      | none => .error (notFound s)
    else .error (notFound s)

/-- Records a message sent on a connection. -/
def record (g : Gateway) (conn : Nat) (m : Message) : Gateway :=
  { g with connections := updateAt g.connections conn fun c => { c with received := c.received ++ [m] } }

/-- Sends a notification on a connection. -/
def notifyOn (g : Gateway) (conn : Nat) (method params : String) : Gateway :=
  g.record conn ⟨.notification, method, params⟩

/-- Sends a request on a connection and takes the editor's answer. -/
def requestOn (g : Gateway) (conn : Nat) (method params : String) : Reply × Gateway :=
  let g := g.record conn ⟨.request, method, params⟩
  let (r, b) := g.behaviour.answer method
  (r, { g with behaviour := b })

/-- Sets a timer due after `ms` milliseconds. -/
def setTimer (g : Gateway) (ms : Nat) (action : TimerAction) : Nat × Gateway :=
  let id := g.timers.length
  (id, { g with timers := g.timers ++ [⟨id, g.now + ms, action, true⟩] })

/-- Stops a timer; says whether it was still live. -/
def stopTimer (g : Gateway) (id : Nat) : Bool × Gateway :=
  match g.timers[id]? with
  | some t => (t.live, { g with timers := updateAt g.timers id fun t => { t with live := false } })
  | none => (false, g)

/-- The number of live timers. -/
def pendingTimers (g : Gateway) : Nat := (g.timers.filter (·.live)).length

/-- The text of a progress token: generated tokens are numbered UUIDs. -/
def tokenName (n : Nat) : String :=
  "00000000-0000-4000-8000-" ++ String.ofList (Text.hexPadded 12 n)

/-- The title of a progress notice. -/
def progressTitle : String := "User Input Needed"

/-- The first message of a progress notice. -/
def progressMessage : String := "Please make a selection from the prompt."

/-- The hint a progress notice adds after a while. -/
def progressHint : String :=
  "Waiting for a selection. Click here to expand notifications if you don't see a prompt."

/-- When the hint is added, and when the notice ends, in milliseconds. -/
def hintDelay : Nat := 5000
def endDelay : Nat := 120000

/-- The parameters of a progress message with a value. -/
def progressParams (token : String) (value : Json) : String :=
  Json.render .wire (.obj [("token", .str token), ("value", value)])

/-- The parameters that create a progress notice. -/
def createParams (token : String) : String := Json.render .wire (.obj [("token", .str token)])

/-- The begin of a progress notice. -/
def beginValue : Json :=
  .obj [("kind", .str "begin"), ("title", .str progressTitle), ("cancellable", .bool true),
    ("message", .str progressMessage)]

/-- The hint of a progress notice. -/
def hintValue : Json := .obj [("kind", .str "report"), ("message", .str progressHint)]

/-- The end of a progress notice. -/
def endValue : Json := .obj [("kind", .str "end")]

/-- The method of progress notices. -/
def progressMethod : String := "$/progress"

/-- The method that creates a progress notice. -/
def createMethod : String := "window/workDoneProgress/create"

/-- Ends a progress notice once its question is answered: the hint is called off, and the
notice ends unless it has ended already. -/
def finishProgress (g : Gateway) (conn : Nat) (p : Progress) : Gateway :=
  let (_, g) := g.stopTimer p.hintTimer
  let (wasLive, g) := g.stopTimer p.endTimer
  if wasLive then g.notifyOn conn progressMethod (progressParams p.token endValue) else g

/-- Creates a new progress token. -/
def freshToken (g : Gateway) : String × Gateway :=
  (tokenName g.tokens, { g with tokens := g.tokens + 1 })

/-- Shows a progress notice once it was created: its begin and its two timers. -/
def beginProgress (g : Gateway) (conn : Nat) (token : String) : Progress × Gateway :=
  let g := g.notifyOn conn progressMethod (progressParams token beginValue)
  let (t1, g) := g.setTimer hintDelay (.hint conn token)
  let (t2, g) := g.setTimer endDelay (.finish conn token)
  (⟨token, t1, t2⟩, g)

/-- The parameters of a question with actions to choose from, `null` actions for none. -/
def choiceParams (message : String) (type : Int) (actions : Option (List String)) : String :=
  let acts : Json := match actions with
    | some xs => .arr (xs.map fun a => .obj [("title", .str a)])
    | none => .null
  Json.render .wire (.obj [("actions", acts), ("message", .str message), ("type", Json.ofInt type)])

/-- The value of a member named without regard to case. -/
def memberFolded? (ms : List (String × Json)) (key : String) : Option Json :=
  (ms.reverse.find? (·.1.toLower = key)).map (·.2)

/-- The action chosen in an answer: none for no answer or `null`; an answer that does not
decode is an error. -/
def decodeChoice (raw : String) : Except String (Option String) :=
  if raw.isEmpty then .ok none
  else match Json.read raw with
    | .ok .null => .ok none
    | .ok (.obj ms) =>
      match memberFolded? ms "title" with
      | some (.str t) => .ok (some t)
      | some .null | none => .ok (some "")
      | some v => .error ("unmarshaling result: json: cannot unmarshal " ++ v.kindName ++
          " into Go struct field MessageActionItem.title of type string")
    | .ok v => .error ("unmarshaling result: json: cannot unmarshal " ++ v.kindName ++
        " into Go value of type protocol.MessageActionItem")
    | .error e => .error ("unmarshaling result: " ++ e.message)

/-- The outcome of a choice: the title, unless there was an error, no answer or an empty title. -/
def choiceOutcome : Reply → Outcome
  | .error _ => .confirmed "" false
  | .result raw =>
    match decodeChoice raw with
    | .ok (some t) => if t.isEmpty then .confirmed "" false else .confirmed t true
    | _ => .confirmed "" false

/-- The value and flag of a typed answer, when it decodes. -/
def decodeTyped (raw : String) : Option (String × Bool) :=
  match Json.read raw with
  | .ok (.obj ms) =>
    ms.foldl (fun acc (k, v) => acc.bind fun (value, cancelled) =>
      match k.toLower, v with
      | "value", .str s => some (s, cancelled)
      | "value", .null => some (value, cancelled)
      | "value", _ => none
      | "cancelled", .bool b => some (value, b)
      | "cancelled", .null => some (value, cancelled)
      | "cancelled", _ => none
      | _, _ => some (value, cancelled)) (some ("", false))
  | _ => none

/-- The outcome of a typed answer: trimmed, and cancelled when missing, undecodable or
empty. -/
def typedOutcome : Reply → Outcome
  | .error _ => .answered "" true
  | .result raw =>
    if raw.isEmpty || raw = "null" then .answered "" true
    else match decodeTyped raw with
      | none => .answered "" true
      | some (v, c) =>
        let v := Text.trimBlanks v
        .answered v (c || v.isEmpty)

/-- Keeps the outcome of a question. -/
def settle (g : Gateway) (op : Nat) (o : Outcome) : Gateway :=
  { g with outcomes := updateAt g.outcomes op fun _ => some o }

/-- Continues after the choice was answered. -/
def resumeChosen (g : Gateway) (conn op : Nat) (p : Option Progress) (r : Reply) : Gateway :=
  let g := match p with
    | some p => g.finishProgress conn p
    | none => g
  g.settle op (choiceOutcome r)

/-- Sends a request that continues with `k`, or holds it back when the editor does. -/
def park (g : Gateway) (conn : Nat) (method params : String) (k : Continuation) : Gateway :=
  let g := g.record conn ⟨.request, method, params⟩
  { g with parked := g.parked ++ [⟨conn, method, k⟩] }

/-- Asks the choice of a question. -/
def askChoice (g : Gateway) (conn op : Nat) (message : String) (actions : List String)
    (p : Option Progress) : Gateway :=
  let params := choiceParams message 3 (some actions)
  if g.behaviour.holds choiceMethod then g.park conn choiceMethod params (.chosen op p)
  else
    let (r, g) := g.requestOn conn choiceMethod params
    g.resumeChosen conn op p r

/-- Continues after the progress notice of a question was created, or failed to be. -/
def resumeCreated (g : Gateway) (conn op : Nat) (token message : String)
    (actions : List String) : Reply → Gateway
  | .error _ => g.settle op (.confirmed "" false)
  | .result _ =>
    let (p, g) := g.beginProgress conn token
    g.askChoice conn op message actions (some p)

/-- Continues a question held back by the editor with its answer. -/
def resume (g : Gateway) (conn : Nat) (r : Reply) : Continuation → Gateway
  | .progressCreated op token message actions => g.resumeCreated conn op token message actions r
  | .chosen op p => g.resumeChosen conn op p r
  | .typed op => g.settle op (typedOutcome r)

/-- Starts a question, with no outcome yet. -/
def startQuestion (g : Gateway) : Nat × Gateway :=
  (g.outcomes.length, { g with outcomes := g.outcomes ++ [none] })

/-- Asks the user of a session to choose one of some actions. Returns the question. -/
def confirm (g : Gateway) (session? : Option String) (message : String) (actions : List String) :
    Nat × Gateway :=
  let (op, g) := g.startQuestion
  match g.clientOf session? with
  | .error _ => (op, g.settle op (.confirmed "" false))
  | .ok conn =>
    let (token, g) := g.freshToken
    let k := Continuation.progressCreated op token message actions
    if g.behaviour.holds createMethod then (op, g.park conn createMethod (createParams token) k)
    else
      let (r, g) := g.requestOn conn createMethod (createParams token)
      (op, g.resumeCreated conn op token message actions r)

/-- What the daemon asks the user to type. -/
structure InputRequest where
  kind : String := ""
  prompt : String := ""
  preset : String := ""
  choices : List String := []
  deriving Repr

/-- The parameters of an input request; the preset and the choices only when given. -/
def InputRequest.params (q : InputRequest) : String :=
  Json.render .wire (.obj ([("kind", .str q.kind), ("prompt", .str q.prompt)] ++
    (if q.preset.isEmpty then [] else [("default", .str q.preset)]) ++
    (if q.choices.isEmpty then [] else [("choices", Json.ofStrings q.choices)])))

/-- Asks the user of a session to type a value. Returns the question. -/
def input (g : Gateway) (session? : Option String) (q : InputRequest) : Nat × Gateway :=
  let (op, g) := g.startQuestion
  match g.clientOf session? with
  | .error _ => (op, g.settle op (.answered "" true))
  | .ok conn =>
    if g.behaviour.holds inputMethod then (op, g.park conn inputMethod q.params (.typed op))
    else
      let (r, g) := g.requestOn conn inputMethod q.params
      (op, g.settle op (typedOutcome r))

/-- Answers the requests for a method that the editor of a session held back, in order.
Returns how many were answered. -/
def release (g : Gateway) (session method : String) : Nat × Gateway :=
  match g.latestOf session with
  | none => (0, g)
  | some conn =>
    let (mine, rest) := g.parked.partition fun p => p.conn = conn && p.method = method
    let g := { g with parked := rest }
    (mine.length, mine.foldl (fun g p =>
      let (r, b) := g.behaviour.answer p.method
      let g := { g with behaviour := b }
      g.resume p.conn r p.next) g)

/-- Inserts a timer into a list sorted by due time, after those due at the same time. -/
def insertByDue (t : Timer) : List Timer → List Timer
  | [] => [t]
  | u :: us => if t.due < u.due then t :: u :: us else u :: insertByDue t us

/-- What a timer does when it fires. -/
def fire (g : Gateway) : TimerAction → Gateway
  | .hint conn token => g.notifyOn conn progressMethod (progressParams token hintValue)
  | .finish conn token => g.notifyOn conn progressMethod (progressParams token endValue)

/-- Moves the clock on; the timers due by then fire in due order. Returns the live timers
left. -/
def advance (g : Gateway) (ms : Nat) : Nat × Gateway :=
  let g := { g with now := g.now + ms }
  let isDue (t : Timer) : Bool := t.live && t.due ≤ g.now
  let due := (g.timers.filter isDue).foldl (fun acc t => insertByDue t acc) []
  let g := { g with timers := g.timers.map fun t => if isDue t then { t with live := false } else t }
  let g := due.foldl (fun g t => g.fire t.action) g
  (g.pendingTimers, g)

/-- Shows a message to the user of a session. -/
def showMessage (g : Gateway) (session? : Option String) (message : String) (type : Int) :
    Except String Gateway :=
  match g.clientOf session? with
  | .error e => .error (sendError e)
  | .ok conn => .ok (g.notifyOn conn "window/showMessage"
      (Json.render .wire (.obj [("message", .str message), ("type", Json.ofInt type)])))

/-- Writes a message to the log of the editor of a session. -/
def logMessage (g : Gateway) (session? : Option String) (message : String) (type : Int) :
    Except String Gateway :=
  match g.clientOf session? with
  | .error e => .error (sendError e)
  | .ok conn => .ok (g.notifyOn conn "window/logMessage"
      (Json.render .wire (.obj [("message", .str message), ("type", Json.ofInt type)])))

/-- The message type of a severity: errors 1, warnings 2, everything else 3. -/
def severityType (severity : Int) : Int :=
  if severity = 2 then 1 else if severity = 1 then 2 else 3

/-- Reports to the user of a session; a report that cannot be delivered is dropped. -/
def report (g : Gateway) (session? : Option String) (severity : Int) (message : String) :
    Gateway :=
  match g.showMessage session? message (severityType severity) with
  | .ok g => g
  | .error _ => g

/-- Sends a notification with parameters given as JSON text, empty for none. -/
def notify (g : Gateway) (session? : Option String) (method params : String) :
    Except String Gateway :=
  match g.clientOf session? with
  | .error e => .error (sendError e)
  | .ok conn => .ok (g.notifyOn conn method params)

/-- Calls the editor of a session; returns the raw result, empty for none. -/
def call (g : Gateway) (session? : Option String) (method params : String) :
    Except String String × Gateway :=
  match g.clientOf session? with
  | .error e => (.error (sendError e), g)
  | .ok conn =>
    match g.requestOn conn method params with
    | (.result raw, g) => (.ok raw, g)
    | (.error e, g) => (.error e, g)

/-- Writes text to the log of the editor of a session under a prefix, one trailing line break
dropped. Returns the bytes written. -/
def writeLog (g : Gateway) (session? : Option String) (pfx text : String) :
    Except String (Nat × Gateway) :=
  match g.clientOf session? with
  | .error e => .error ("getting IDE log message writer: " ++ e)
  | .ok conn =>
    let line := "[" ++ pfx ++ "] " ++ ((text.dropSuffix? "\n").map (·.toString) |>.getD text)
    .ok (Text.utf8Length text, g.notifyOn conn "window/logMessage"
      (Json.render .wire (.obj [("message", .str line), ("type", Json.ofInt 4)])))

/-- Asks the user of a session to choose, waiting for the answer. A question above error
severity gets a progress notice. Returns the action chosen, if any. -/
def showMessageRequest (g : Gateway) (session? : Option String) (message : String) (type : Int)
    (actions : Option (List String)) : Except String (Option String) × Gateway :=
  match g.clientOf session? with
  | .error e => (.error (sendError e), g)
  | .ok conn =>
    let ask (g : Gateway) : Except String (Option String) × Gateway :=
      match g.requestOn conn choiceMethod (choiceParams message type actions) with
      | (.error e, g) => (.error e, g)
      | (.result raw, g) => (decodeChoice raw, g)
    if type ≤ 1 then ask g
    else
      let (token, g) := g.freshToken
      match g.requestOn conn createMethod (createParams token) with
      | (.error e, g) => (.error (sendError ("creating user input progress: " ++ e)), g)
      | (.result _, g) =>
        let (p, g) := g.beginProgress conn token
        let (r, g) := ask g
        (r, g.finishProgress conn p)

/-- Whether the editor of a session has been sent a message with a method. -/
def hasReceived (g : Gateway) (session method : String) : Bool :=
  match g.latestOf session with
  | some conn => (g.connections[conn]?.map fun c => c.received.any (·.method = method)).getD false
  | none => false

/-- What the editor of every session was last sent, sessions and messages sorted; the
parameters are shown through `shown` before they are sorted. -/
def receivedJson (g : Gateway) (shown : String → String) : Json :=
  let sessions := (g.latest.map (·.1)).mergeSort fun a b => decide (a ≤ b)
  .obj (sessions.filterMap fun s => (g.latestOf s).bind fun conn =>
    g.connections[conn]?.map fun c =>
      (s, .arr ((sortMessages (c.received.map fun m => { m with params := shown m.params })).map
        Message.toJson)))

end Gateway

theorem Gateway.clientOf_none (g : Gateway) : g.clientOf none = .error noSession := rfl

end RemoteLsp.Editor
