import RemoteLsp.Daemon.Model
import RemoteLsp.Json.Read
import RemoteLsp.Json.Write
import RemoteLsp.Json.Schema

/-!
# Showing what the daemon did

Events, replies and the identity store as JSON. Message texts that the daemon passes on are
shown compacted when they are JSON, as they were written otherwise, and as `null` when there
are none. A session is shown by its name.
-/

namespace RemoteLsp

/-- An error as JSON: its kind and its message. -/
def Problem.toJson (p : Problem) : Json :=
  .obj [("error", .str p.kind.label), ("message", .str p.message)]

namespace Daemon

/-- A message text as recorded: compacted when it is JSON, `null` when empty. -/
def recorded (p : String) : Json :=
  if p.isEmpty then .str "null"
  else match Json.read p with
    | .ok _ => .str (Json.compactText p)
    | .error _ => .str p

/-- A session by its name. -/
def sessionJson (sid : Nat) : Json := .str (sessionName sid)

/-- An event with its kind. -/
def eventOf (name : String) (fields : List (String × Json)) : Json :=
  .obj (("ev", .str name) :: fields)

/-- An event as JSON. -/
def Event.toJson : Event → Json
  | .register sid conn => eventOf "register" [("session", sessionJson sid), ("conn", .bool conn)]
  | .deregister sid => eventOf "deregister" [("session", sessionJson sid)]
  | .run id sid host script t => eventOf "run" [("run", Json.ofNat id),
      ("session", sessionJson sid), ("host", .str host), ("script", .str script),
      ("timeout_ms", Json.ofInt t)]
  | .runDone id scripted => eventOf "run_done" [("run", Json.ofNat id),
      ("scripted", .bool scripted)]
  | .report sid sev m => eventOf "report" [("session", sessionJson sid),
      ("severity", .str sev.name), ("message", .str m)]
  | .input id sid kind text preset choices => eventOf "input" [("prompt", Json.ofNat id),
      ("session", sessionJson sid), ("kind", .str kind), ("text", .str text),
      ("default", .str preset), ("choices", Json.ofStrings choices)]
  | .confirm id sid m actions => eventOf "confirm" [("prompt", Json.ofNat id),
      ("session", sessionJson sid), ("message", .str m), ("actions", Json.ofStrings actions)]
  | .log sid pfx text => eventOf "log" [("session", sessionJson sid), ("prefix", .str pfx),
      ("text", .str text)]
  | .launch n sid host name script => eventOf "launch" [("server", Json.ofNat n),
      ("session", sessionJson sid), ("host", .str host), ("name", .str name),
      ("script", .str script)]
  | .launchFailed sid host name => eventOf "launch_failed" [("session", sessionJson sid),
      ("host", .str host), ("name", .str name)]
  | .serverCall n m p => eventOf "server_call" [("server", Json.ofNat n), ("method", .str m),
      ("params", recorded p)]
  | .serverNotify n m p => eventOf "server_notify" [("server", Json.ofNat n),
      ("method", .str m), ("params", recorded p)]
  | .serverStop n => eventOf "server_stop" [("server", Json.ofNat n)]
  | .editorNotify sid m p => eventOf "editor_notify" [("session", sessionJson sid),
      ("method", .str m), ("params", recorded p)]
  | .editorCall sid m p => eventOf "editor_call" [("session", sessionJson sid),
      ("method", .str m), ("params", recorded p)]
  | .shutdown => eventOf "shutdown" []
  | .connClose => eventOf "conn_close" []

/-- The reply to an editor message as JSON: `none` when there was none. -/
def replyJson : Option Reply → Json
  | none => .str "none"
  | some (.result raw) => .obj [("result", recorded raw)]
  | some (.error p) => p.toJson

end Daemon

/-- The stored documents by name. -/
def Identity.Store.filesJson (s : Identity.Store) : Json :=
  .obj (Json.sortMembers (s.documents.files.map fun (n, t) => (n, Json.str t)))

/-- What the identity store knows: its hosts, its validated environments and its documents. -/
def Identity.Store.toJson (s : Identity.Store) : Json :=
  .obj [("known_hosts", Json.ofStrings s.knownHosts),
    ("validated", .obj (s.validated.map fun (k, es) => (k, Json.ofStrings es))),
    ("files", s.filesJson)]

end RemoteLsp
