import RemoteLsp.Config.Provider
import RemoteLsp.Files.InfoFile
import RemoteLsp.Serving.Endpoint
import RemoteLsp.Daemon.Steps
import RemoteLsp.Program.Builtin

/-!
# Starting the program

The configuration is read from a directory of files: `meta.yaml` first, on its own, for the
list of files to merge; then those of the listed files that exist, merged in order, with
variables replaced from the environment. Each part of the program then reads the settings
it needs, and the first that cannot be read stops the start with its error. The order is the
order in which the parts are built:

1. the configuration itself;
2. the log's output directories, which are created (`logging`, read as the logger's own
   record, whose unknown keys are errors);
3. the logger (`logging` again, as the program's smaller record), its level and its outputs;
4. the path of the information file (`serverInfoFilePath`);
5. the editors' endpoint (`jsonrpc`);
6. the process id and the endpoint's mode, written to the information file;
7. the remote shell (`remoteShell`);
8. the identity store's directory (`identity.dataDir`, else the user's data directory);
9. the scheme of virtual paths (`virtualPath.scheme`);
10. the delay before a reconnect (`reconnect`);
11. the session defaults (`session`), whose backend must be known;
12. the idle timeout (`idleTimeoutMinutes`).

The commands that only look at remembered environments read steps 1 and 8 alone.
-/

namespace RemoteLsp.Program

open Config

/-- The environment of the process: variables by name; a later setting of a name wins. -/
structure Environment where
  vars : List (String × String) := []
  deriving Repr

namespace Environment

/-- The value of a variable, if it is set. -/
def get? (e : Environment) (name : String) : Option String :=
  (e.vars.reverse.find? (·.1 = name)).map (·.2)

/-- The value of a variable; empty when it is not set. -/
def getD (e : Environment) (name : String) : String := (e.get? name).getD ""

/-- Sets a variable. -/
def set (e : Environment) (name value : String) : Environment :=
  ⟨(e.vars.filter (·.1 ≠ name)) ++ [(name, value)]⟩

end Environment

/-- A list of texts as an error shows it: between brackets, separated by spaces. -/
def listText (xs : List String) : String := "[" ++ " ".intercalate xs ++ "]"

/-- The text of a file of the configuration directory, if it is there. -/
def fileOf (files : List (String × String)) (name : String) : Option String :=
  (files.find? (·.1 = name)).map (·.2)

/-- Loads the configuration from a directory of files. -/
def loadConfig (files : List (String × String)) (env : Environment) : Except String Provider := do
  let some metaSource := fileOf files metaName
    | throw ("failed to load meta configuration: open " ++ metaName ++ ": no such file or directory")
  let metaConfig ← match Provider.load env.get? [metaSource] with
    | .ok p => pure p
    | .error e => throw ("failed to load meta configuration: " ++ e)
  let listed ← match metaConfig.populate "files" .texts with
    | .ok s => pure (s.texts?.getD [])
    | .error e => throw ("failed to read files list from " ++ metaName ++ ": " ++ e)
  let sources := listed.filterMap (fileOf files)
  if sources.isEmpty then throw ("no configuration files found, listed " ++ listText listed)
  match Provider.load env.get? sources with
  | .ok p => pure p
  | .error e => throw ("failed to load configuration: " ++ e)

/-- The files a list of configuration files names, as far as it can be read. -/
def listedFiles (metaSource : String) (env : Environment) : List String :=
  match Provider.load env.get? [metaSource] >>= fun p => p.populate "files" .texts with
  | .ok s => s.texts?.getD []
  | .error _ => []

/-- Reads the setting at a path into a shape; the error names the path. -/
def setting (p : Provider) (path : String) (s : Shape) : Except String Setting :=
  match p.populate path s with
  | .ok v => .ok v
  | .error e => .error ("getting config field " ++ Text.quoted path ++ ": " ++ e)

/-- The logger's own record of its configuration. -/
def loggerShape : Shape :=
  .record "zap.Config" [
    ("level", .level "zap.AtomicLevel"),
    ("development", .flag),
    ("disableCaller", .flag),
    ("disableStacktrace", .flag),
    ("sampling", .record "zap.SamplingConfig" [("initial", .whole "int"), ("thereafter", .whole "int")]),
    ("encoding", .text "string"),
    ("encoderConfig", .record "zapcore.EncoderConfig" [
      ("messageKey", .text "string"), ("levelKey", .text "string"), ("timeKey", .text "string"),
      ("nameKey", .text "string"), ("callerKey", .text "string"),
      ("functionKey", .text "string"), ("stacktraceKey", .text "string"),
      ("skipLineEnding", .flag), ("lineEnding", .text "string"),
      ("levelEncoder", .text "zapcore.LevelEncoder"), ("timeEncoder", .anything),
      ("durationEncoder", .text "zapcore.DurationEncoder"),
      ("callerEncoder", .text "zapcore.CallerEncoder"),
      ("nameEncoder", .text "zapcore.NameEncoder"), ("consoleSeparator", .text "string")]),
    ("outputPaths", .texts),
    ("errorOutputPaths", .texts),
    ("initialFields", .table "map[string]interface \x7b\x7d")]

/-- The program's own record of the logging configuration. -/
def loggingShape : Shape :=
  .record "core.LoggingConfig" [("level", .text "string"), ("development", .flag),
    ("encoding", .text "string"), ("outputPaths", .texts)]

/-- Whether an output of the log is one of the process's standard streams. -/
def isStandardStream (path : String) : Bool := path = "stdout" || path = "stderr"

/-- Creates the directory of every output of the log that is a file. -/
def ensureLogFolders (t : Files.Tree) (outputs : List String) : Except String Files.Tree :=
  outputs.foldlM (fun t out =>
    if isStandardStream out then .ok t
    else match t.mkdirAll (Path.dir out) with
      | .ok t => .ok t
      | .error e => .error ("creating logging directory: " ++ e)) t

/-- Whether a character may start the scheme of a URL. -/
def isSchemeLetter (c : Char) : Bool := ('a' ≤ c && c ≤ 'z') || ('A' ≤ c && c ≤ 'Z')

/-- The scheme of a URL: none when it has none, an error when it starts with a colon. -/
def schemeOf (url : String) : Except String (Option String) :=
  let rec go : List Char → List Char → Except String (Option String)
    | [], _ => .ok none
    | c :: rest, seen =>
      if isSchemeLetter c then go rest (c :: seen)
      else if c.isDigit || c = '+' || c = '-' || c = '.' then
        if seen.isEmpty then .ok none else go rest (c :: seen)
      else if c = ':' then
        if seen.isEmpty then .error "missing protocol scheme"
        else .ok (some (String.ofList seen.reverse))
      else .ok none
  go url.toList []

/-- Whether a path is absolute. -/
def isAbsolute (path : String) : Bool := path.startsWith "/"

/-- Why an output of the log cannot be opened, if it cannot: only files are outputs, named
by a path or by a URL of the file scheme. -/
def outputProblem (path : String) : Option String :=
  if isStandardStream path || isAbsolute path then none
  else
    match schemeOf path with
    | .error e =>
      some ("can't parse " ++ Text.quoted path ++ " as a URL: parse " ++ Text.quoted path ++ ": " ++ e)
    | .ok none => none
    | .ok (some scheme) =>
      let scheme := scheme.map Char.toLower
      if scheme = "file" then none
      else some ("no sink found for scheme " ++ Text.quoted scheme)

/-- Opens the outputs of the log; the errors of all outputs that cannot be opened are
joined. -/
def openOutputs (outputs : List String) : Except String Unit :=
  let outputs := if outputs.isEmpty then ["stderr"] else outputs
  let problems := outputs.filterMap fun out =>
    (outputProblem out).map fun e => "open sink " ++ Text.quoted out ++ ": " ++ e
  if problems.isEmpty then .ok () else .error ("opening log outputs: " ++ "; ".intercalate problems)

/-- Builds the logger: its record, its level and its outputs. -/
def buildLogger (p : Provider) : Except String Unit := do
  let cfg ← setting p "logging" loggingShape
  checkLevel (cfg.field "level").textD
  let outputs := ((cfg.field "outputPaths").texts?).getD []
  openOutputs outputs

/-- Reads the serving settings and chooses the editors' endpoint. -/
def transportOf (p : Provider) : Except String Serving.Transport := do
  let s ← setting p "jsonrpc" (.record "jsonrpcfx.settings"
    [("mode", .text "jsonrpcfx.Mode"), ("address", .text "string")])
  Serving.Transport.choose (s.field "mode").textD (s.field "address").textD

/-- The data directory of the identity store: the configured one, else the user's. -/
def dataDirOf (p : Provider) (env : Environment) : Except String String := do
  let dir := (← setting p "identity.dataDir" (.text "string")).textD
  if !dir.isEmpty then return dir
  match Files.userDataDir (env.getD "XDG_DATA_HOME") (env.getD "HOME") with
  | .ok d => pure d
  | .error e => throw ("resolving data directory: " ++ e)

/-- The shape of the remote shell's settings. -/
def remoteShellShape : Shape :=
  .record "remoteshell.settings" [("binary", .text "string"), ("options", .texts),
    ("probeTimeout", .duration), ("detectTimeout", .duration), ("installTimeout", .duration),
    ("workspaceTimeout", .duration)]

/-- The shape of the session defaults. -/
def sessionShape : Shape :=
  .record "sessionconfig.Defaults" [("host", .text "string"), ("environment", .text "string"),
    ("workspaceRoot", .text "string"), ("backend", .text "string"), ("autoInstall", .flag),
    ("notifyOnStart", .flag), ("allowPrompt", .flag)]

/-- The session defaults of a setting. -/
def defaultsOf (s : Setting) : Session.Defaults :=
  { host := (s.field "host").textD
    environment := (s.field "environment").textD
    workspaceRoot := (s.field "workspaceRoot").textD
    backend := (s.field "backend").textD
    autoInstall := (s.field "autoInstall").flagD
    notifyOnStart := (s.field "notifyOnStart").flagD
    allowPrompt := (s.field "allowPrompt").flagD }

/-- Milliseconds of a duration in nanoseconds: none for a duration that is not positive, at
least one for one that is. -/
def millisOf (nanos : Int) : Nat :=
  if nanos ≤ 0 then 0 else max 1 (nanos / 1000000).toNat

/-- The process id the program writes to its information file. -/
def processId : Nat := 4242

/-- What the daemon starts with: its endpoint, the files, the information file, the shell
binary, the data directory and the daemon's own settings. -/
structure Startup where
  transport : Serving.Transport
  tree : Files.Tree
  info : Files.InfoFile
  shellBinary : String
  dataDir : String
  setup : Daemon.Setup

/-- Starts the daemon's parts in order over a file tree, or gives the first error. -/
def start (files : List (String × String)) (env : Environment) (t : Files.Tree) :
    Except String Startup := do
  let p ← loadConfig files env
  let logger ← match p.populate "logging" loggerShape with
    | .ok s => pure s
    | .error e => throw ("ensuring log folder: loading logging config: " ++ e)
  let t ← match ensureLogFolders t ((logger.field "outputPaths").texts?.getD []) with
    | .ok t => pure t
    | .error e => throw ("ensuring log folder: " ++ e)
  buildLogger p
  let infoPath := (← setting p Files.InfoFile.settingName (.text "string")).textD
  let transport ← transportOf p
  let fields := [("pid", toString processId), ("jsonrpc-mode", transport.mode)]
  let (t, info) ← fields.foldlM (fun (t, info) (k, v) =>
    match info.update t k v with
    | (.ok t, info) => .ok (t, info)
    | (.error e, _) => .error ("outputting " ++ Text.quoted k ++ " to info file: " ++ e))
    (t, (⟨infoPath, []⟩ : Files.InfoFile))
  let shell ← setting p "remoteShell" remoteShellShape
  let dataDir ← dataDirOf p env
  let scheme := (← setting p "virtualPath.scheme" (.text "string")).textD
  let reconnect ← setting p "reconnect" (.record "lifecycle.settings" [("delay", .duration)])
  let session ← setting p "session" sessionShape
  let defaults ← match (defaultsOf session).check with
    | .ok d => pure d
    | .error e => throw e.message
  let idle := (← setting p "idleTimeoutMinutes" (.whole "int64")).wholeD
  let binary := (shell.field "binary").textD
  pure { transport, tree := t, info,
         shellBinary := if binary.isEmpty then "ssh" else binary
         dataDir
         setup := ⟨defaults, scheme, millisOf (reconnect.field "delay").wholeD,
           if idle ≤ 0 then 0 else idle.toNat⟩ }

/-- Finds the data directory of the identity store without starting the daemon. -/
def storeDir (files : List (String × String)) (env : Environment) : Except String String :=
  match loadConfig files env >>= fun p => dataDirOf p env with
  | .ok d => .ok d
  | .error e => .error ("loading identity store: " ++ e)

theorem millisOf_nonpositive (n : Int) (h : n ≤ 0) : millisOf n = 0 := by
  simp [millisOf, h]

end RemoteLsp.Program
