import RemoteLsp.Program.Scenario
import RemoteLsp.Program.Framing

/-!
# The `rlsp` command

The thin outer layer of the program: it reads the command line, the environment, the
configuration directory and the identity store's documents, runs the command, and writes
what it prints and the documents it changed.

`rlsp serve --stdio` serves one editor over the standard streams, with messages framed by
their length. The remote side is the scripted world of the daemon's model: scripts on remote
hosts answer as a reachable host with the backend installed would, servers behind the remote
shell are scripted servers, and the editor's questions are answered by an editor that
chooses nothing. Listening on TCP needs sockets, which this layer does not open.
-/

namespace RemoteLsp.Program.Command

/-- Reads a file; none when it cannot be read. -/
def readFile? (path : String) : IO (Option String) := do
  try pure (some (← IO.FS.readFile path)) catch _ => pure none

/-- The variables the program reads whatever its configuration says. -/
def fixedVariables : List String :=
  ["HOME", "XDG_DATA_HOME", "TMPDIR", "RLSP_CONFIG_DIR", "RLSP_SERVER_INFO_FILE"]

/-- The process environment, as far as the program reads it: the fixed variables and those
the configuration texts refer to. -/
def environmentOf (texts : List String) : IO Environment := do
  let names := (fixedVariables ++ texts.flatMap Config.referencedVariables).eraseDups
  let mut vars : List (String × String) := []
  for n in names do
    if let some v ← IO.getEnv n then vars := vars ++ [(n, v)]
  pure ⟨vars⟩

/-- The files of the configuration directory: those of the directory the environment names,
else the built-in ones. -/
def configFiles : IO (List (String × String)) := do
  match ← IO.getEnv "RLSP_CONFIG_DIR" with
  | some dir =>
    if dir.isEmpty then return builtinFiles
    let some metaSource ← readFile? (dir ++ "/" ++ metaName) | return []
    let env ← environmentOf [metaSource]
    let mut files : List (String × String) := [(metaName, metaSource)]
    for n in listedFiles metaSource env do
      if let some t ← readFile? (dir ++ "/" ++ n) then files := files ++ [(n, t)]
    pure files
  | none => pure builtinFiles

/-- The identity store's documents in a directory. -/
def documentsAt (dir : String) : IO Identity.Documents := do
  let mut files : List (String × String) := []
  for n in [Identity.historyFile, Identity.validationFile] do
    if let some t ← readFile? (dir ++ "/" ++ n) then files := files ++ [(n, t)]
  pure ⟨files, [], none⟩

/-- Writes the documents that changed; a document that cannot be written keeps its old text. -/
def saveDocuments (dir : String) (before after : Identity.Documents) : IO Unit := do
  for (n, t) in after.files do
    if before.find? n != some t then
      try
        IO.FS.createDirAll dir
        IO.FS.writeFile (dir ++ "/" ++ n) t
      catch _ => pure ()

/-- Reports an error and fails. -/
def fail (message : String) : IO UInt32 := do
  (← IO.getStderr).putStrLn message
  pure 1

/-- Runs a command on remembered environments. -/
def runEnvironments (inv : Invocation) : IO UInt32 := do
  let files ← configFiles
  let env ← environmentOf (files.map (·.2))
  match storeDir files env with
  | .error e => fail e
  | .ok dir =>
    let docs ← documentsAt dir
    let (out, store) := runEnvCommand (Identity.Store.load docs) inv
    saveDocuments dir docs store.documents
    IO.print out
    pure 0

/-- Reads as many bytes as a message has, or fewer at the end of the stream. -/
partial def readBytes (stdin : IO.FS.Stream) (n : Nat) (acc : ByteArray) : IO ByteArray := do
  if acc.size ≥ n then return acc
  let chunk ← stdin.read (n - acc.size).toUSize
  if chunk.isEmpty then return acc
  readBytes stdin n (acc ++ chunk)

/-- Reads the headers of a message: its length, or none at the end of the stream. -/
partial def readHeaders (stdin : IO.FS.Stream) (len : Option Nat) : IO (Option (Option Nat)) := do
  let line ← stdin.getLine
  if line.isEmpty then return none
  match readHeader line with
  | .blank => pure (some len)
  | .length n => readHeaders stdin (some n)
  | .other => readHeaders stdin len

/-- Reads the next message of the stream; none at its end. -/
partial def readMessage (stdin : IO.FS.Stream) : IO (Option String) := do
  match ← readHeaders stdin none with
  | none => pure none
  | some none => readMessage stdin
  | some (some n) =>
    let bytes ← readBytes stdin n ByteArray.empty
    if bytes.size < n then return none
    match String.fromUTF8? bytes with
    | some body => pure (some body)
    | none => readMessage stdin

/-- Serves the editor's stream until it ends. -/
partial def serveStream (stdin stdout : IO.FS.Stream) (dir : String) (saved : Identity.Documents)
    (s : Serving) (calls : Nat) : IO Serving := do
  match ← readMessage stdin with
  | none => pure s
  | some body =>
    match Json.read body with
    | .error _ => serveStream stdin stdout dir saved s calls
    | .ok j =>
      let (lines, calls, s) := serveIncoming s calls (Incoming.ofJson j (Json.dropLow body.toList))
      for l in lines do
        stdout.putStr (frame l)
      stdout.flush
      saveDocuments dir saved s.documents
      serveStream stdin stdout dir s.documents s calls

/-- What the program reports when its editor's stream has ended. -/
def closedText : String :=
  "close /dev/stdin: file already closed; close /dev/stdout: file already closed"

/-- Serves editors. -/
def runServe (vars : List (String × String)) : IO UInt32 := do
  let files ← configFiles
  let env ← environmentOf (files.map (·.2))
  let env := vars.foldl (fun e (k, v) => e.set k v) env
  match start files env startTree with
  | .error e => fail e
  | .ok st =>
    match st.transport with
    | .tcp address => fail ("listen tcp " ++ address ++ ": serving on TCP is not available; use --stdio")
    | .stdio =>
      let docs ← documentsAt st.dataDir
      match Serving.start st.setup docs (liveWorld {} {} {} st (env.getD "TMPDIR")) with
      | .error p => fail p.message
      | .ok s =>
        let s ← serveStream (← IO.getStdin) (← IO.getStdout) st.dataDir docs s 0
        saveDocuments st.dataDir docs s.finish.documents
        fail closedText

end RemoteLsp.Program.Command

open RemoteLsp.Program in
/-- Runs the command line. -/
def main (args : List String) : IO UInt32 := do
  match invocation args with
  | .error e => Command.fail e
  | .ok (.print text) =>
    IO.print text
    pure 0
  | .ok (.serve vars) => Command.runServe vars
  | .ok inv => Command.runEnvironments inv
