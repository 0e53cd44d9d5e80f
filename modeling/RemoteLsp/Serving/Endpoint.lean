import RemoteLsp.Serving.Address
import RemoteLsp.Config.Unmarshal
import RemoteLsp.Json.Write
import RemoteLsp.Text.Quoted

/-!
# The editors' endpoint

Editors reach the daemon over an endpoint: one editor over the process's standard streams, or
any number of them on a TCP address. The transport comes from the `jsonrpc` settings, where
the mode defaults to TCP, which then needs an address.

Connections are handed to one registered connection manager, which names each connection and
is told when it ends. A stream is served until it ends; the error it ends with is what serving
returns. A TCP endpoint listens once started, and publishes the address it listens on.

A scenario drives an endpoint through steps given as JSON and answers each in JSON. The
endpoint is alone in its world: no peer can dial it, and a served stream carries one request,
which the manager's router answers with the method's name, and then ends.
-/

namespace RemoteLsp.Serving

/-- How editors reach the daemon. -/
inductive Transport where
  /-- One editor over the process's standard streams. -/
  | stdio
  /-- Any number of editors on a TCP address. -/
  | tcp (address : String)
  deriving Repr, DecidableEq

/-- The name of a transport's mode. -/
def Transport.mode : Transport → String
  | .stdio => "stdio"
  | .tcp _ => "tcp"

/-- The configuration key of the serving settings. -/
def configKey : String := "jsonrpc"

/-- The fields of the serving settings and the types they are read into. -/
def settingFields : List (String × String) :=
  [("mode", "jsonrpcfx.Mode"), ("address", "string")]

/-- The transport a mode and an address choose: no mode is TCP, which needs an address. -/
def Transport.choose (mode address : String) : Except String Transport :=
  match mode with
  | "" | "tcp" =>
    if address.isEmpty then
      .error ("missing field " ++ Text.quoted (configKey ++ ".address") ++ " in config")
    else .ok (.tcp address)
  | "stdio" => .ok .stdio
  | m => .error ("unknown " ++ configKey ++ ".mode " ++ Text.quoted m ++ ", expected " ++
      Text.quoted "stdio" ++ " or " ++ Text.quoted "tcp")

/-- The transport that the serving settings choose. -/
def Transport.ofConfig (v : Json) : Except String Transport := do
  let fields ← match Config.textRecord "jsonrpcfx.settings" settingFields v with
    | .ok fs => pure fs
    | .error e => throw ("getting config field " ++ Text.quoted configKey ++ ": " ++ e)
  let get (k : String) : String := ((fields.find? (·.1 = k)).map (·.2)).getD ""
  Transport.choose (get "mode") (get "address")

/-- An endpoint: its transport, whether a connection manager is registered, whether it
listens, how many connections it has served, and what the manager was told of them. -/
structure Endpoint where
  transport : Transport
  managed : Bool := false
  listening : Bool := false
  served : Nat := 0
  events : List String := []
  deriving Repr

/-- Twelve hexadecimal digits of a number. -/
def hex12 (n : Nat) : String :=
  let ds := Nat.toDigits 16 (n % Nat.pow 16 12)
  String.ofList (List.replicate (12 - ds.length) '0' ++ ds)

/-- The identifier the manager gives the n-th connection. -/
def connectionId (n : Nat) : String := "00000000-0000-0000-0000-" ++ hex12 n

namespace Endpoint

/-- Registers the connection manager; a second one is refused. -/
def register (e : Endpoint) : Except String Endpoint :=
  if e.managed then .error "cannot register a duplicate connection manager"
  else .ok { e with managed := true }

/-- The error a stream ends with once its other side has closed it. -/
def streamEnded : String := "failed reading header line: EOF"

/-- How serving a stream went: the reply to its request, if it was served, and the error
serving returned. -/
structure Served where
  reply : Option String
  returned : String

/-- Serves a stream carrying one request for `method`: without a manager it is refused;
otherwise the manager names the connection, its router answers, the stream ends, and the
manager is told to forget the connection. -/
def serve (e : Endpoint) (method : String) : Served × Endpoint :=
  if !e.managed then (⟨none, "cannot serve connection, no connection manager set"⟩, e)
  else
    let id := connectionId (e.served + 1)
    let reply := Json.render .wire (.obj [("echo", .str method)])
    (⟨some reply, streamEnded⟩,
      { e with served := e.served + 1, events := e.events ++ ["new " ++ id, "remove " ++ id] })

/-- Starts an endpoint: on TCP it resolves its address and listens, and so publishes it. -/
def start (e : Endpoint) : Except String Endpoint :=
  match e.transport with
  | .stdio => .ok e
  | .tcp a =>
    match resolve a with
    | .ok _ => .ok { e with listening := true }
    | .error err => .error err.message

theorem register_twice (e : Endpoint) (e' : Endpoint) (h : e.register = .ok e') :
    e'.register = .error "cannot register a duplicate connection manager" := by
  unfold register at h
  split at h
  · cases h
  · cases h; rfl

end Endpoint

/-- The answer of a step that may fail with a message. -/
def errorAnswer : Except String Unit → Json
  | .ok () => .obj [("error", .null)]
  | .error m => .obj [("error", .str m)]

/-- An error of the scenario itself rather than of the endpoint. -/
def scenarioError (m : String) : Json := .obj [("error", .str "driver"), ("message", .str m)]

/-- Runs one step of a scenario. -/
def Endpoint.step (e : Endpoint) (st : Json) : Json × Endpoint :=
  let text (k : String) : Option String := (st.field? k).bind Json.str?
  match (text "do").getD "" with
  | "mode" => (.obj [("mode", .str e.transport.mode)], e)
  | "register" =>
    match e.register with
    | .ok e => (errorAnswer (.ok ()), e)
    | .error m => (errorAnswer (.error m), e)
  | "serve_stream" =>
    let (s, e) := e.serve ((text "method").getD "ping")
    (.obj ((match s.reply with
      | some r => [("result", .str r)]
      | none => []) ++ [("returned", .str s.returned)]), e)
  | "start" =>
    match e.start with
    | .ok e => (.obj [("address_published", .bool e.listening), ("error", .null)], e)
    | .error m => (.obj [("address_published", .bool e.listening), ("error", .str m)], e)
  | "connect" => (scenarioError "dial failed", e)
  | "disconnect" => (.obj [("ok", .bool true)], e)
  | "events" => (.obj [("events", Json.ofStrings e.events)], e)
  | "stop" => (errorAnswer (.ok ()), e)
  | other => (scenarioError ("unknown step " ++ other), e)

/-- Runs a scenario: the settings come from `config`, and a scenario named `no_lifecycle` or
`no_config` lacks what an endpoint is built from. -/
def scenario (j : Json) : Json :=
  let name := ((j.field? "name").bind Json.str?).getD ""
  if name = "no_lifecycle" || name = "no_config" then
    .obj [("error", .str "required parameters are missing")]
  else
    let settings := ((j.field? "config").bind fun c => c.field? configKey).getD .null
    match Transport.ofConfig settings with
    | .error m => .obj [("error", .str m)]
    | .ok t =>
      let steps := ((j.field? "steps").bind Json.arr?).getD []
      let (answers, _) := steps.foldl (fun (acc, e) st =>
        let (a, e) := e.step st
        (acc ++ [a], e)) (([] : List Json), ({ transport := t } : Endpoint))
      .obj [("steps", .arr answers)]

end RemoteLsp.Serving
