import RemoteLsp.Json.Read
import RemoteLsp.Json.Write
import RemoteLsp.Json.Schema
import RemoteLsp.Text.Quoted

/-!
# A scripted language server

A small language server that stands in for a real one on a remote host. It announces itself
on standard error when it starts, numbered in the order servers start, and once initialized
it tells the client its root and the number of lines of the script that launched it. It
answers hovers and definitions, publishes a diagnostic for every document opened or changed
and clears them when one is closed, and exits when told to or when a document's text asks it
to crash. A few commands make it ask the client something and report the answer.

It is configured with an error to answer `initialize` with, text to write to standard error
when it starts, and the code it exits with when told to exit.
-/

namespace RemoteLsp.Double

/-- How scripted servers are configured. -/
structure ServerScript where
  initError : Option String := none
  stderr : String := ""
  exitCode : Int := 0
  deriving Repr

/-- What a scripted server knows: its number, the lines of its launch script, its root, and
the document it was last told about. -/
structure ScriptedServer where
  number : Nat
  scriptLines : Nat
  root : String := ""
  lastDocument : String := ""
  deriving Repr

/-- An answer to a request: a result as JSON text, or an error with its code. -/
inductive ServerReply where
  | result (raw : String)
  | error (code : Int) (message : String)
  deriving Repr, DecidableEq

/-- What follows the client's answer to a question of the server. -/
inductive AskNext where
  /-- The answer is the server's own answer. -/
  | relay
  /-- The answer is reported together with the method that was asked. -/
  | report (method : String)
  deriving Repr, DecidableEq

/-- One thing a scripted server does. -/
inductive ServerAct where
  /-- Answers the request being served. -/
  | reply (r : ServerReply)
  /-- Sends the client a notification. -/
  | notify (method params : String)
  /-- Asks the client something; the answer continues as `next` says. -/
  | ask (method params : String) (next : AskNext)
  /-- Writes to standard error. -/
  | write (text : String)
  /-- Exits with a code. -/
  | exit (code : Int)
  deriving Repr, DecidableEq

/-- The code of an error for a method a server does not have. -/
def methodNotFound : Int := -32601

/-- The file every diagnostic points to as related. -/
def relatedUri : String := "file:///srv/lib/util.py"

/-- A position at the start of a line. -/
def lineStart (line : Nat) : Json := .obj [("character", Json.ofNat 0), ("line", Json.ofNat line)]

/-- An empty range at the start of a line. -/
def emptyRange (line : Nat) : Json := .obj [("end", lineStart line), ("start", lineStart line)]

/-- The diagnostic published for a document: what the server was told and the text. -/
def diagnostic (method text : String) : Json :=
  .obj [("message", .str (method ++ " " ++ Text.quoted text)), ("range", emptyRange 0),
    ("relatedInformation", .arr [.obj [
      ("location", .obj [("range", emptyRange 1), ("uri", .str relatedUri)]),
      ("message", .str "related")]])]

/-- The parameters of a publication of diagnostics. -/
def publishParams (uri : String) (diagnostics : List Json) (version : Option Json) : String :=
  Json.render .wire (.obj ([("diagnostics", .arr diagnostics), ("uri", .str uri)] ++
    (match version with
     | some v => [("version", v)]
     | none => [])))

/-- The method by which diagnostics are published. -/
def publishMethod : String := "textDocument/publishDiagnostics"

/-- A member of a member of a value, as text. -/
def textAt (j : Json) (path : List String) : String :=
  ((path.foldl (fun v k => v.bind (·.field? k)) (some j)).bind Json.str?).getD ""

/-- A member of a member of a value. -/
def valueAt (j : Json) (path : List String) : Option Json :=
  path.foldl (fun v k => v.bind (·.field? k)) (some j)

/-- The code a text asks to crash with: `CRASH` and a number. -/
def crashCode? (text : String) : Option Int :=
  match text.splitOn " " with
  | ["CRASH", n] => n.toInt?
  | _ => none

/-- The answer of `initialize`. -/
def initializeResult : String :=
  Json.render .wire (.obj [("capabilities", .obj [("hoverProvider", .bool true)]),
    ("serverInfo", .obj [("name", .str "fakels")])])

/-- What a scripted server writes when it starts. -/
def ScriptedServer.startText (s : ServerScript) (srv : ScriptedServer) : String :=
  "fakels starting #" ++ toString srv.number ++ "\n" ++ s.stderr

/-- The text of a JSON value as a dynamic value holds it. -/
def dynamicText (j : Json) : String :=
  match Json.dynamicOf [] 64 j with
  | .ok v => Json.render .wire v
  | .error _ => Json.render .wire j

namespace ScriptedServer

/-- Serves a command of `workspace/executeCommand`. -/
def command (srv : ScriptedServer) (params : Json) : List ServerAct :=
  let report (method params : String) : List ServerAct := [.ask method params (.report method)]
  match textAt params ["command"] with
  | "fake.ask" =>
    report "workspace/configuration" (Json.render .wire (.obj [("items", .arr [.obj
      [("scopeUri", .str srv.root), ("section", .str "python")]])]))
  | "fake.apply" =>
    report "workspace/applyEdit" (Json.render .wire (.obj [("edit", .obj [("changes",
      .obj [(srv.lastDocument, .arr [])])])]))
  | "fake.folders" => report "workspace/workspaceFolders" ""
  | "fake.show" =>
    report "window/showDocument" (Json.render .wire (.obj [("uri", .str (srv.root ++ "/other.py"))]))
  | _ => [.reply (.result ("\x7b\"echo\":" ++ dynamicText params ++ "\x7d"))]

/-- Serves a message from the client: what the server now knows and what it does. -/
def handle (s : ServerScript) (srv : ScriptedServer) (method paramsText : String) :
    ScriptedServer × List ServerAct :=
  let params := match Json.read paramsText with
    | .ok j => j
    | .error _ => .null
  let uri := textAt params ["textDocument", "uri"]
  match method with
  | "initialize" =>
    match s.initError with
    | some e => (srv, [.reply (.error 0 e)])
    | none =>
      let root := textAt params ["rootUri"]
      let srv := { srv with root := root }
      (srv, [.notify "window/logMessage" (Json.render .wire (.obj [("message", .str
        ("fakels ready #" ++ toString srv.number ++ " root=" ++ root ++ " script=" ++
          toString srv.scriptLines ++ "-lines")), ("type", Json.ofNat 3)])),
        .reply (.result initializeResult)])
  | "initialized" | "textDocument/didSave" => (srv, [])
  | "shutdown" => (srv, [.reply (.result "null")])
  | "exit" => (srv, [.exit s.exitCode])
  | "fake/stderr" => (srv, [.write (textAt params ["text"]), .reply (.result "\"written\"")])
  | "fake/die" =>
    let code := match params.field? "code" with
      | some (.num l) => (l.toInt?).getD 0
      | _ => 0
    (srv, [.exit code])
  | "fake/ask" => (srv, [.ask "client/question" paramsText .relay])
  | "textDocument/hover" =>
    (srv, [.reply (.result (Json.render .wire (.obj [("contents", .obj
      [("kind", .str "plaintext"), ("value", .str ("hover " ++ uri))])])))])
  | "textDocument/definition" =>
    (srv, [.reply (.result (Json.render .wire (.arr [
      .obj [("range", emptyRange 2), ("uri", .str relatedUri)],
      .obj [("range", emptyRange 3), ("uri", .str uri)]])))])
  | "textDocument/didOpen" =>
    let srv := { srv with lastDocument := uri }
    (srv, [.notify publishMethod (publishParams uri
      [diagnostic method (textAt params ["textDocument", "text"])]
      (some ((valueAt params ["textDocument", "version"]).getD (Json.ofNat 0))))])
  | "textDocument/didChange" =>
    let text := match (params.field? "contentChanges").bind Json.arr? with
      | some changes => (changes.getLast?.map fun c => textAt c ["text"]).getD ""
      | none => ""
    match crashCode? text with
    | some code => (srv, [.exit code])
    | none =>
      (srv, [.notify publishMethod (publishParams uri [diagnostic method text]
        (some ((valueAt params ["textDocument", "version"]).getD (Json.ofNat 0))))])
  | "textDocument/didClose" => (srv, [.notify publishMethod (publishParams uri [] none)])
  | "workspace/executeCommand" => (srv, srv.command params)
  | _ => (srv, [.reply (.error methodNotFound ("fakels: no method " ++ method))])

end ScriptedServer

/-- The server's answer once the client answered its question: a result as JSON text, or an
error message. -/
def AskNext.finish (next : AskNext) (answer : Except String String) : ServerReply :=
  match next, answer with
  | .relay, .ok raw => .result raw
  | .relay, .error e => .error 0 e
  | .report m, .ok raw =>
    .result ("\x7b\"answer\":" ++ (if raw.isEmpty then "null" else raw) ++ ",\"asked\":" ++
      Json.render .wire (.str m) ++ "\x7d")
  | .report m, .error e =>
    .result (Json.render .wire (.obj [("asked", .str m), ("error", .str e)]))

theorem handle_unknown (s : ServerScript) (srv : ScriptedServer) :
    (srv.handle s "nope" "").2 = [.reply (.error methodNotFound "fakels: no method nope")] := by
  simp [ScriptedServer.handle]

end RemoteLsp.Double
