import RemoteLsp.Server.Launcher
import RemoteLsp.Json.Raw

/-!
# Driving the launcher through a scenario

A scenario configures the remote world and the shell, then launches servers and speaks to
them, each step given as JSON and answered in JSON. A server may be launched with a handler
for what it sends: the handler answers every request with a fixed result and notes every
message; without one, requests are refused as unknown methods and notifications dropped.

At the end the scenario reports the information file and the log of remote output, stops the
output, and reports which files are left.
-/

namespace RemoteLsp.Server

/-- The remote world as a scenario configures it. -/
def Remote.ofJson (j : Json) : Remote :=
  let srv := (j.field? "server").getD .null
  let text (v : Json) (k : String) : Option String := (v.field? k).bind Json.str?
  let code : Int := match srv.field? "exit_code" with
    | some (.num l) => (l.toInt?).getD 0
    | _ => 0
  { script := { initError := text srv "init_error", stderr := (text srv "stderr").getD "", exitCode := code }
    unreachable := (((j.field? "unreachable").bind Json.arr?).getD []).filterMap Json.str? }

/-- The JSON of an exit status. -/
def ExitStatus.toJson (e : ExitStatus) : Json :=
  .obj [("clean", .bool e.clean), ("code", Json.ofInt e.code), ("signal", .str e.signal),
    ("status", .str e.describe)]

/-- The launcher and the handler of each launched server, with what each handler noted. -/
structure Bench where
  launcher : Launcher
  handlers : List (Bool × List String) := []

/-- An error of the scenario itself rather than of the launcher. -/
def benchError (m : String) : Json := .obj [("error", .str "driver"), ("message", .str m)]

/-- What a handler answers every request with. -/
def handlerResult : String := "\x7b\"from\":\"handler\"\x7d"

/-- The error of a request that no handler serves. -/
def noHandlerError : String := "JSON-RPC method not found"

/-- Serves what a server sent its client; returns the server's reply, if it gave one. -/
def Bench.serve (b : Bench) (i : Nat) (acts : List Double.ServerAct) :
    Option Double.ServerReply × Bench :=
  let handles := ((b.handlers[i]?).map (·.1)).getD false
  let note (b : Bench) (m : String) : Bench :=
    { b with handlers := updateAt b.handlers i fun (h, ms) => (h, ms ++ [m]) }
  acts.foldl (fun (r, b) a =>
    match a with
    | .notify method params => (r, if handles then note b (method ++ " " ++ params) else b)
    | .ask method params next =>
      if handles then (some (next.finish (.ok handlerResult)), note b (method ++ " " ++ params))
      else (some (next.finish (.error noHandlerError)), b)
    | .reply x => (some x, b)
    | _ => (r, b)) (none, b)

/-- Runs one step of a scenario; `raw` is the step's text. -/
def Bench.step (b : Bench) (st : Json) (raw : List Char) : Json × Bench :=
  let text (k : String) : String := ((st.field? k).bind Json.str?).getD ""
  let params := ((Json.member? raw "params").map fun r => Json.embedText (String.ofList r)).getD "null"
  let client : Option Nat := match st.field? "client" with
    | some (.num l) => l.toNat?
    | _ => if b.handlers.isEmpty then none else some (b.handlers.length - 1)
  let withClient (f : Nat → Json × Bench) : Json × Bench :=
    match client with
    | some i => if i < b.handlers.length then f i else (benchError "no such client", b)
    | none => (benchError "no such client", b)
  match text "do" with
  | "launch" =>
    let script := ((st.field? "script").bind Json.str?).getD "fakels"
    match b.launcher.launch (text "host") (text "name") script with
    | (.ok i, l) =>
      let handles := ((st.field? "handler").bind Json.bool?).getD false
      (.obj [("client", Json.ofNat i)], { b with launcher := l, handlers := b.handlers ++ [(handles, [])] })
    | (.error e, l) => (.obj [("error", .str e)], { b with launcher := l })
  | "pid" => withClient fun _ => (.obj [("positive", .bool true)], b)
  | "call" => withClient fun i =>
    let method := text "method"
    match b.launcher.deliver i method params with
    | (none, l) => (.obj [("error", .str closedError), ("exited", .bool false)], { b with launcher := l })
    | (some acts, l) =>
      match (({ b with launcher := l } : Bench).serve i acts) with
      | (some (.result r), b) => (.obj [("result", .str (if r = "null" then "" else r))], b)
      | (some (.error _ m), b) => (.obj [("error", .str m), ("exited", .bool false)], b)
      | (none, b) => (.obj [("error", .str (exitedError method)), ("exited", .bool true)], b)
  | "notify" => withClient fun i =>
    match b.launcher.deliver i (text "method") params with
    | (none, l) => (.obj [("error", .str closedError)], { b with launcher := l })
    | (some acts, l) => (.obj [("error", .null)], (({ b with launcher := l } : Bench).serve i acts).2)
  | "handled" => withClient fun i =>
    let notes := ((b.handlers[i]?).map (·.2)).getD []
    (.obj [("handled", Json.ofStrings (notes.mergeSort fun a c => decide (a ≤ c)))], b)
  | "stop" => withClient fun i => (.obj [("ok", .bool true)], { b with launcher := b.launcher.kill i })
  | "wait_exit" => withClient fun i =>
    let l := b.launcher.run i
    match l.exitOf i with
    | some e => (ExitStatus.toJson e, { b with launcher := l })
    | none => (benchError "timed out waiting for exit", { b with launcher := l })
  | other => (benchError ("unknown step " ++ other), b)

/-- The path of the information file in scenarios. -/
def infoPath : String := "<TMP>/info/server.json"

/-- Whether a file is there. -/
def fileThere (t : Files.Tree) (path : String) : Bool := (t.fileExists path).toOption.getD false

/-- Runs a scenario given as a JSON line. -/
def scenario (line : String) (j : Json) : Json :=
  let raw := Json.dropLow line.toList
  let faults := (((j.field? "faults").bind Json.obj?).getD []).map fun (k, v) => (k, (v.str?).getD "")
  let shell := (j.field? "shell").getD .null
  let l : Launcher := {
    remote := Remote.ofJson ((j.field? "remote").getD .null)
    binary := ((shell.field? "binary").bind Json.str?).getD "ssh"
    log := ⟨Files.Tree.withFaults faults, ⟨infoPath, []⟩, none, false⟩
    tmp := "<TMP>/tmp" }
  let stepsRaw := match Json.member? raw "steps" with
    | some r => (Json.entries r).map (·.raw)
    | none => []
  let steps := (((j.field? "steps").bind Json.arr?).getD []).zip stepsRaw
  let (answers, b) := steps.foldl (fun (acc, b) (st, r) =>
    let (a, b) := b.step st r
    (acc ++ [a], b)) (([] : List Json), ({ launcher := l } : Bench))
  let log := b.launcher.log
  let info : Json := match log.tree.contents infoPath with
    | .ok c => .str (Files.shown c)
    | .error _ => .null
  let logPath := (log.writer.map (·.path)).getD ""
  let logThere := !logPath.isEmpty && fileThere log.tree logPath
  let lines := match log.tree.contents logPath with
    | .ok c => ((c.splitOn "\n").filter (!·.isEmpty)).mergeSort fun a c => decide (a ≤ c)
    | .error _ => []
  let (errs, log) := log.stop
  .obj ([("info_file", info), ("info_file_after_stop", .bool (fileThere log.tree infoPath)),
    ("log_file", .bool logThere)] ++
    (if logThere then [("log_file_after_stop", .bool (fileThere log.tree logPath)),
      ("server_log", Json.ofStrings lines)] else []) ++
    [("steps", .arr answers), ("stop", .arr (errs.map fun e => match e with
      | some m => .str m
      | none => .null))])

end RemoteLsp.Server
