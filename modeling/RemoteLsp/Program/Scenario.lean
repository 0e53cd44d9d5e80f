import RemoteLsp.Program.Cli
import RemoteLsp.Program.Environments
import RemoteLsp.Program.Serve
import RemoteLsp.Editor.Scenario
import RemoteLsp.Server.Scenario

/-!
# Running the program through a scenario

A scenario runs the program once with a command line, in a process environment of its own:
the home directory, the data home, the temporary directory and the path of the information
file all lie under `<TMP>`. The configuration directory is the built-in one with files
replaced or removed, and the identity store's documents start in the default data
directory. The remote hosts, the servers behind them and the editor are scripted.

The program runs one of three ways. A command runs to its end and its output is reported. A
served session runs its steps against the daemon, each step answered in JSON, and ends when
the editor's stream ends. A process run writes messages to the program's input at once and
reports the lines the program wrote.

Every run reports the documents of the default data directory. Generated identifiers are
hidden in every answer.
-/

namespace RemoteLsp.Program

/-- The process environment every run starts with. -/
def baseEnvironment : Environment :=
  ⟨[("HOME", "<TMP>/home"), ("XDG_DATA_HOME", "<TMP>/data"), ("TMPDIR", "<TMP>/tmp"),
    ("RLSP_SERVER_INFO_FILE", Server.infoPath)]⟩

/-- The default data directory, where the documents of a run are placed. -/
def defaultDataDir : String := "<TMP>/data/rlsp"

/-- The value that removes a file of the configuration directory. -/
def absentMarker : String := "<absent>"

/-- The files of the configuration directory: the built-in ones, then the scenario's,
replacing or removing files by name. -/
def configFiles (changes : List (String × String)) : List (String × String) :=
  changes.foldl (fun files (name, text) =>
    let rest := files.filter (·.1 ≠ name)
    if text = absentMarker then rest else rest ++ [(name, text)]) builtinFiles

/-- The file tree of a run: the directories under `<TMP>`, and the kernel's process
directory, in which nothing can be created. -/
def startTree : Files.Tree :=
  { Files.Tree.withDirs ["<TMP>", "<TMP>/home", "<TMP>/data", "<TMP>/tmp", "/proc"] with
    sealed := ["/proc"] }

/-- What a run needs to know: its command line, environment, configuration directory, the
documents of the default data directory, and the scripts of the world. -/
structure Run where
  args : List String
  env : Environment
  files : List (String × String)
  documents : List (String × String)
  editor : Editor.Behaviour
  hosts : Double.Host
  remote : Server.Remote

/-- The documents of a data directory: those of the run in the default directory, none
elsewhere. -/
def Run.documentsIn (r : Run) (dir : String) : Identity.Documents :=
  ⟨if dir = defaultDataDir then r.documents else [], [], none⟩

/-- The documents of the default data directory after a run, given those of the directory
the run used. -/
def Run.dataFiles (r : Run) (dir : String) (docs : Identity.Documents) : Json :=
  .obj ((if dir = defaultDataDir then docs.files else r.documents).map fun (k, v) => (k, .str v))

/-- The documents of the default data directory as the run found them. -/
def Run.untouched (r : Run) : Json := .obj (r.documents.map fun (k, v) => (k, .str v))

/-- The error of a command as a run reports it. -/
def commandError (m : String) : Json := .obj [("error", .str "error"), ("message", .str m)]

/-- The result of a command: its output, or its error; and the documents afterwards. -/
structure CommandResult where
  output : Except String String
  dataFiles : Json

/-- Runs a command that looks at remembered environments. -/
def Run.envCommand (r : Run) (inv : Invocation) : CommandResult :=
  match storeDir r.files r.env with
  | .error e => ⟨.error e, r.untouched⟩
  | .ok dir =>
    let (out, store) := runEnvCommand (Identity.Store.load (r.documentsIn dir)) inv
    ⟨.ok out, r.dataFiles dir store.documents⟩

/-- The error code of a problem on the wire: its own for a protocol error, else zero. -/
def wireCode (p : Problem) : Int :=
  match p.kind with
  | .jsonRpc c => c
  | _ => 0

/-- What a call's caller is told when no reply came. -/
def noReply : String := "context deadline exceeded"

/-- The answer of a call step. -/
def replyAnswer : Option Daemon.Reply → Json
  | some (.result raw) => .obj [("result", .str (resultText raw))]
  | some (.error p) =>
    .obj [("error", .obj [("code", Json.ofInt (wireCode p)), ("message", .str p.message)])]
  | none => .obj [("error", .obj [("code", Json.ofInt 0), ("message", .str noReply)])]

/-- The information file as a step shows it. -/
def infoFileJson (s : Serving) : Json :=
  match s.launcher? with
  | some l =>
    match l.log.tree.contents Server.infoPath with
    | .ok c => .str (Files.shownPids (Files.shown c))
    | .error _ => .null
  | none => .null

/-- The log of servers' output as a step shows it: its lines, sorted. -/
def serverLogJson (s : Serving) : Json :=
  match s.launcher? with
  | some l =>
    match l.log.writer with
    | some w =>
      match l.log.tree.contents w.path with
      | .ok c => Json.ofStrings (((c.splitOn "\n").filter (!·.isEmpty)).mergeSort fun a b => decide (a ≤ b))
      | .error _ => .null
    | none => .null
  | none => .null

/-- A field of a step as text. -/
def textField (st : Json) (k : String) : String := ((st.field? k).bind Json.str?).getD ""

/-- A field of a step as a flag. -/
def flagField (st : Json) (k : String) : Bool := ((st.field? k).bind Json.bool?).getD false

/-- A field of a step as a count, one when it is missing. -/
def countField (st : Json) (k : String) : Nat :=
  match st.field? k with
  | some (.num l) => l.toNat?.getD 1
  | _ => 1

/-- Runs one step of a served session; `raw` is the step's text. -/
def stepServing (r : Run) (dir : String) (s : Serving) (st : Json) (raw : List Char) :
    Json × Serving :=
  let params := ((Json.member? raw "params").map fun p => wireText (String.ofList p)).getD "null"
  match st.field? "send" with
  | some (.str method) =>
    if flagField st "call" then
      let (reply, s) := match st.field? "until" with
        | some (.str want) => Serving.callUntil method params want waitFuel waitBudget s
        | _ => s.send method params true
      (replyAnswer reply, s)
    else
      let (_, s) := s.send method params false
      (.obj [("sent", .bool true)], s)
  | _ =>
    match st.field? "wait" with
    | some (.str method) =>
      let part := textField st "contains"
      let count := countField st "count"
      let (ok, s) := Serving.waitFor (fun s => s.countReceived method part ≥ count) waitFuel
        waitBudget s
      (.obj [("waited", .bool ok)], s)
    | _ =>
      if flagField st "settle" then (.obj [("settled", .bool true)], s.advance settleTime)
      else if flagField st "info_file" then (.obj [("info_file", infoFileJson s)], s)
      else if flagField st "server_log" then (.obj [("server_log", serverLogJson s)], s)
      else if flagField st "data_files" then (.obj [("data_files", r.dataFiles dir s.documents)], s)
      else (Editor.scenarioError "unknown step", s)

/-- What the editor was sent, as a session reports it: sorted, parameters as written. -/
def receivedJson (s : Serving) : Json :=
  .arr ((Editor.sortMessages (s.received.map fun m => { m with params := wireText m.params })).map
    Editor.Message.toJson)

/-- How a served session ends: its standard streams were closed when it stopped. -/
def closedStreams : Json :=
  .obj [("code", Json.ofNat 1),
    ("error", .str "close /dev/stdin: file already closed; close /dev/stdout: file already closed")]

/-- The live world of a daemon that has started: the editor, the hosts and the servers
behind them follow their scripts, over the files the start left. -/
def liveWorld (editor : Editor.Behaviour) (hosts : Double.Host) (remote : Server.Remote)
    (st : Startup) (tmp : String) : Daemon.Live :=
  { gateway := { behaviour := editor }
    launcher := { remote := remote, binary := st.shellBinary,
                  log := ⟨st.tree, st.info, none, false⟩, tmp := tmp }
    hosts := hosts
    binary := st.shellBinary }

/-- The live world of a run's daemon. -/
def Run.live (r : Run) (st : Startup) : Daemon.Live :=
  liveWorld r.editor r.hosts r.remote st (r.env.getD "TMPDIR")

/-- Starts the daemon for a run with the variables of its serving flags: the startup, or
the error that stopped it. -/
def Run.startup (r : Run) (vars : List (String × String)) : Except String (Run × Startup) :=
  let r := { r with env := vars.foldl (fun e (k, v) => e.set k v) r.env }
  (start r.files r.env startTree).map fun st => (r, st)

/-- Runs a served session through its steps. -/
def Run.serveSteps (r : Run) (vars : List (String × String)) (steps : List (Json × List Char)) :
    Json :=
  match r.startup vars with
  | .error e => .obj [("data_files", r.untouched), ("exit", .obj [("code", Json.ofNat 1), ("error", .str e)])]
  | .ok (r, st) =>
    match st.transport with
    | .tcp _ =>
      .obj [("data_files", r.untouched), ("error", .str "driver"), ("exit", .obj [("code", Json.ofNat 0)]),
        ("message", .str "no tcp listener"), ("mode", .str "tcp")]
    | .stdio =>
      match Serving.start st.setup (r.documentsIn st.dataDir) (r.live st) with
      | .error p => .obj [("data_files", r.untouched),
          ("exit", .obj [("code", Json.ofNat 1), ("error", .str p.message)])]
      | .ok s =>
        let (answers, s) := steps.foldl (fun (acc, s) (st', raw) =>
          let (a, s) := stepServing r st.dataDir s st' raw
          (acc ++ [a], s)) (([] : List Json), s)
        let received := receivedJson s
        let s := s.finish
        .obj [("data_files", r.dataFiles st.dataDir s.documents), ("exit", closedStreams),
          ("mode", .str "stdio"), ("received", received), ("steps", .arr answers)]

/-- A message of a process run: its id when it is a call, its method and its parameters as
written, empty when it has none. -/
structure Incoming where
  id : Option Json
  method : String
  params : String

/-- The line the program writes for a message it sends. -/
def sentLine (m : Editor.Message) (id : Option Nat) : String :=
  "\x7b\"jsonrpc\":\"2.0\",\"method\":" ++ Json.render .wire (.str m.method) ++
    (if m.params.isEmpty then "" else ",\"params\":" ++ wireText m.params) ++
    (match id with
     | some n => ",\"id\":" ++ toString n
     | none => "") ++ "\x7d"

/-- The line the program writes for its reply to a call. -/
def replyLine (id : Json) : Option Daemon.Reply → String
  | some (.result raw) =>
    "\x7b\"jsonrpc\":\"2.0\",\"result\":" ++ (if raw.isEmpty then "null" else wireText raw) ++
      ",\"id\":" ++ Json.render .wire id ++ "\x7d"
  | some (.error p) =>
    "\x7b\"jsonrpc\":\"2.0\",\"error\":" ++
      Json.render .wire (.obj [("code", Json.ofInt (wireCode p)), ("message", .str p.message)]) ++
      ",\"id\":" ++ Json.render .wire id ++ "\x7d"
  | none => ""

/-- Serves one message of an editor's stream: the lines the program writes for it, the
number of calls it has made to the editor so far, and the daemon afterwards. -/
def serveIncoming (s : Serving) (calls : Nat) (m : Incoming) : List String × Nat × Serving :=
  let before := s.received.length
  let (reply, s) := s.send m.method m.params m.id.isSome
  let sent := s.received.drop before
  let (sentLines, calls) := sent.foldl (fun (out, n) msg =>
    match msg.kind with
    | .request => (out ++ [sentLine msg (some (n + 1))], n + 1)
    | .notification => (out ++ [sentLine msg none], n)) (([] : List String), calls)
  let replyLines := match m.id with
    | some id => [replyLine id reply].filter (!·.isEmpty)
    | none => []
  (sentLines ++ replyLines, calls, s)

/-- Serves the messages of a process run in order: the lines the program writes. -/
def processLines (s : Serving) (msgs : List Incoming) : List String × Serving :=
  let (lines, _, s) := msgs.foldl (fun (lines, calls, s) m =>
    let (out, calls, s) := serveIncoming s calls m
    (lines ++ out, calls, s)) (([] : List String), 0, s)
  (lines, s)

/-- The output of a process run: the lines it wrote when messages were given, else its
standard output. -/
def processOutput (messages? : Option (List Incoming)) (stdout : String) : List (String × Json) :=
  match messages? with
  | some _ => [("messages", Json.ofStrings ((stdout.splitOn "\n").filter (!·.isEmpty)))]
  | none => [("stdout", .str stdout)]

/-- Runs the program as a process. -/
def Run.asProcess (r : Run) (messages? : Option (List Incoming)) : Json :=
  let failed := .obj ([("data_files", r.untouched), ("exit_code", Json.ofNat 1)] ++
    processOutput messages? "")
  match invocation r.args with
  | .error _ => failed
  | .ok (.print text) =>
    .obj ([("data_files", r.untouched), ("exit_code", Json.ofNat 0)] ++ processOutput messages? text)
  | .ok (.serve vars) =>
    match r.startup vars with
    | .error _ => failed
    | .ok (r, st) =>
      match st.transport with
      | .tcp _ => failed
      | .stdio =>
        match Serving.start st.setup (r.documentsIn st.dataDir) (r.live st) with
        | .error _ => failed
        | .ok s =>
          let (lines, s) := processLines s (messages?.getD [])
          let s := s.finish
          .obj ([("data_files", r.dataFiles st.dataDir s.documents), ("exit_code", Json.ofNat 1)] ++
            processOutput messages? (String.join (lines.map (· ++ "\n"))))
  | .ok inv =>
    let res := r.envCommand inv
    match res.output with
    | .ok out => .obj ([("data_files", res.dataFiles), ("exit_code", Json.ofNat 0)] ++ processOutput messages? out)
    | .error _ => .obj ([("data_files", res.dataFiles), ("exit_code", Json.ofNat 1)] ++ processOutput messages? "")

/-- Runs a command to its end and reports its output. -/
def Run.asCommand (r : Run) : Json :=
  match invocation r.args with
  | .error e => .obj [("data_files", r.untouched), ("error", commandError e), ("stdout", .str "")]
  | .ok (.print text) => .obj [("data_files", r.untouched), ("stdout", .str text)]
  | .ok (.serve vars) => r.serveSteps vars []
  | .ok inv =>
    let res := r.envCommand inv
    match res.output with
    | .ok out => .obj [("data_files", res.dataFiles), ("stdout", .str out)]
    | .error e => .obj [("data_files", res.dataFiles), ("error", commandError e), ("stdout", .str "")]

/-- Runs a served session: the command line must ask for serving. -/
def Run.asServed (r : Run) (steps : List (Json × List Char)) : Json :=
  match invocation r.args with
  | .error e => .obj [("data_files", r.untouched), ("exit", commandError e)]
  | .ok (.serve vars) => r.serveSteps vars steps
  | .ok _ => r.asCommand

/-- The texts of the members of an object, by name. -/
def textMembers (j : Option Json) : List (String × String) :=
  ((j.bind Json.obj?).getD []).map fun (k, v) => (k, (v.str?).getD "")

/-- The message of a process run given as JSON, with its raw text. -/
def Incoming.ofJson (j : Json) (raw : List Char) : Incoming :=
  { id := j.field? "id"
    method := textField j "method"
    params := ((Json.member? raw "params").map fun p => wireText (String.ofList p)).getD "" }

/-- The items of an array member with their raw texts. -/
def itemsWithRaw (j : Json) (raw : List Char) (key : String) : List (Json × List Char) :=
  let raws := match Json.member? raw key with
    | some r => (Json.entries r).map (·.raw)
    | none => []
  (((j.field? key).bind Json.arr?).getD []).zip raws

/-- Runs the program as a scenario given as a JSON line. -/
def scenario (line : String) (j : Json) : Json :=
  let raw := Json.dropLow line.toList
  let editorRaw := (Json.member? raw "editor").getD []
  let remote := (j.field? "remote").getD .null
  let r : Run :=
    { args := (((j.field? "args").bind Json.arr?).getD []).map fun v => (v.str?).getD ""
      env := (textMembers (j.field? "env")).foldl (fun e (k, v) => e.set k v) baseEnvironment
      files := configFiles (textMembers (j.field? "config"))
      documents := textMembers (j.field? "data")
      editor := Editor.Behaviour.ofScript editorRaw ((j.field? "editor").getD .null)
      hosts := Double.Host.ofJson remote
      remote := Server.Remote.ofJson remote }
  let answer :=
    if flagField j "subprocess" then
      let messages? := match j.field? "messages" with
        | some (.arr _) => some ((itemsWithRaw j raw "messages").map fun (m, mr) => Incoming.ofJson m mr)
        | _ => none
      r.asProcess messages?
    else if flagField j "serve" then r.asServed (itemsWithRaw j raw "steps")
    else r.asCommand
  Editor.maskValues answer

end RemoteLsp.Program
