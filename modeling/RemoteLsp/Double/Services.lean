import RemoteLsp.Double.Expect
import RemoteLsp.Json.Schema

/-!
# The services and what their methods give back

Every service of the program can be replaced by a double. A double's method gives back a
fixed list of results, each an error or a value of a declared type. What it is scripted to
give back is read per result as JSON: an error from its message (`null` for none), a value
by decoding into its type. A result that was not scripted is the zero value of its type.

A value is shown as its JSON text, except that an absent pointer, list, map or dynamic value
is shown as no value at all; a raw value scripted as `null` keeps the text `null`.

A call that no expectation accepts is reported with its arguments. The arguments of a local
process run are absent commands, which cannot be shown: such a call faults instead.
-/

namespace RemoteLsp.Double

open Json

/-- One result of a method: an error, or a value of a declared type. -/
inductive Result where
  | error
  | value (s : Schema)
  deriving Inhabited

/-- A result given back: none (an absent value or no error), an error with its message, or a
value as its JSON text. -/
inductive Returned where
  | nothing
  | failure (message : String)
  | value (text : String)
  deriving Repr, DecidableEq

/-- A method of a service, its results, and whether its arguments can be shown. -/
structure Method where
  name : String
  results : List Result
  showable : Bool := true
  deriving Inhabited

/-- A service: its methods. -/
abbrev Service := List Method

/-- The method of a service by name. -/
def Service.method? (s : Service) (name : String) : Option Method := s.find? (·.name = name)

/-- How a decoded value is given back. -/
def shownValue (s : Schema) : Val → Returned
  | .nil => .nothing
  | v => .value (String.ofList (encode s v))

/-- The zero result of a type. -/
def Result.zero : Result → Returned
  | .error => .nothing
  | .value s => shownValue s s.zero

/-- A result scripted as JSON text: an error from a string, a value decoded into its type.
Text of the wrong shape gives the zero result. -/
def Result.scripted (r : Result) (raw : String) : Returned :=
  match r with
  | .error =>
    match Json.read raw with
    | .ok (.str m) => .failure m
    | _ => .nothing
  | .value s =>
    match Json.decode s raw with
    | .ok (.ok v) => shownValue s v
    | _ => r.zero

/-- What a method gives back when scripted with some JSON texts, one per result in order;
results beyond the script are zero and texts beyond the results are ignored. -/
def Method.answer (m : Method) (script : Option (List String)) : List Returned :=
  match script with
  | none => m.results.map Result.zero
  | some texts =>
    (m.results.zipIdx).map fun (r, i) =>
      match texts[i]? with
      | some t => r.scripted t
      | none => r.zero

/-- What a call to a double comes to: what it gives back, a failure when no expectation
accepts it, or a fault when it cannot even be reported. -/
inductive Outcome where
  | answered (results : List Returned)
  | unexpected
  | fault (message : String)
  deriving Repr, DecidableEq

/-- The fault of showing an absent command. -/
def absentCommand : String := "runtime error: invalid memory address or nil pointer dereference"

/-- Calls a method of a double; a call that faults leaves the double as it was. -/
def Method.call (m : Method) (s : Script (List Returned)) (args : List String) :
    Outcome × Script (List Returned) :=
  match s.call m.name args with
  | (some rs, s') => (.answered rs, s')
  | (none, s') => if m.showable then (.unexpected, s') else (.fault absentCommand, s)

/-! ## Declared types of results -/

/-- The bounds of a 64-bit integer. -/
def int64Lo : Int := -9223372036854775808

/-- The upper bound of a 64-bit integer. -/
def int64Hi : Int := 9223372036854775807

/-- A string. -/
def stringType : Schema := .text "string"

/-- A 64-bit integer. -/
def intType : Schema := .integer "int" int64Lo int64Hi

/-- A list of strings, absent when empty. -/
def stringsType : Schema := .list "[]string" stringType

/-- Bytes, written as base64 text; absent when empty. -/
def bytesType : Schema := .pointer (.text "[]uint8")

/-- A record with no written fields behind a pointer. -/
def opaqueType (name : String) : Schema := .pointer (.record name name [])

/-- The settings of a session. -/
def settingsType : Schema :=
  .record "Settings" "Settings"
    [("host", stringType, false), ("environment", stringType, false),
     ("workspaceRoot", stringType, false), ("backend", .text "Backend", false),
     ("autoInstall", .flag, false), ("notifyOnStart", .flag, false)]

/-- The status of a session's server. -/
def statusType : Schema :=
  .record "Status" "Status"
    [("state", stringType, false), ("settings", settingsType, false),
     ("reconnectAttempted", .flag, false), ("suppressCount", intType, false),
     ("openDocuments", intType, false)]

/-- The per-kind timeouts of remote runs, in nanoseconds. -/
def timeoutsType : Schema :=
  let d : Schema := .integer "Duration" int64Lo int64Hi
  .record "Timeouts" "Timeouts" [("Probe", d, false), ("Detect", d, false),
    ("Install", d, false), ("Workspace", d, false)]

/-- A button the user chose, behind a pointer. -/
def actionType : Schema :=
  .pointer (.record "MessageActionItem" "MessageActionItem" [("title", stringType, false)])

/-- A method whose results are given as declared types and errors. -/
def method (name : String) (results : List Result) : Method := ⟨name, results, true⟩

/-- A result that is only an error. -/
def erring : List Result := [.error]

/-- A value then an error. -/
def valueOrError (s : Schema) : List Result := [.value s, .error]

/-! ## The services -/

/-- Stopping the whole program. -/
def shutdowner : Service := [method "Shutdown" erring]

/-- A connection speaking JSON-RPC. -/
def rpcConnection : Service :=
  [method "Call" (valueOrError (.integer "ID" int64Lo int64Hi)), method "Close" erring,
   method "Done" [.value .dynamic], method "Err" erring, method "Go" [],
   method "Notify" erring]

/-- The manager of the sessions' servers. -/
def serverManager : Service :=
  [method "Close" erring, method "Config" (valueOrError (opaqueType "Config")),
   method "DidChange" erring, method "DidClose" erring, method "DidOpen" erring,
   method "Notify" erring, method "Open" erring, method "Request" [],
   method "Restart" erring, method "SettingsChanged" erring,
   method "Status" (valueOrError statusType), method "Stop" erring]

/-- The checker of backends on hosts. -/
def provisioner : Service :=
  [method "EnsureReady" [], method "State" [.value (.integer "ProvisionState" int64Lo int64Hi)]]

/-- The controller that serves editor messages. -/
def controller : Service :=
  [method "DidChange" erring, method "DidChangeConfiguration" erring, method "DidClose" erring,
   method "DidOpen" erring, method "EndSession" erring,
   method "ExecuteCommand" (valueOrError .dynamic), method "Exit" erring, method "Forward" [],
   method "ForwardNotification" erring, method "InitSession" (valueOrError (.text "UUID")),
   method "Initialize" (valueOrError (opaqueType "InitializeResult")),
   method "Initialized" erring, method "Shutdown" erring]

/-- The editor's side of the connection. -/
def editorGateway : Service :=
  [method "Call" (valueOrError .raw), method "Confirm" [], method "DeregisterClient" erring,
   method "GetLogMessageWriter" (valueOrError .dynamic), method "Input" [],
   method "LogMessage" erring, method "Notify" erring, method "RegisterClient" erring,
   method "Report" [], method "ShowMessage" erring,
   method "ShowMessageRequest" (valueOrError actionType)]

/-- The starter of remote language servers. -/
def serverLauncher : Service := [method "Launch" (valueOrError .dynamic)]

/-- A running remote language server. -/
def serverClient : Service :=
  [method "Call" (valueOrError .raw), method "Notify" erring, method "PID" [.value intType],
   method "Stop" []]

/-- The runner of remote scripts. -/
def remoteRunner : Service :=
  [method "Argv" [.value stringsType], method "Run" [], method "RunArgv" [],
   method "Timeouts" [.value timeoutsType]]

/-- The runner of local processes. -/
def processRunner : Service :=
  [⟨"Run", [.value stringType, .value stringType, .value intType, .error], false⟩,
   ⟨"Start", erring, false⟩]

/-- The file system. -/
def fileSystem : Service :=
  [method "FileExists" [.value .flag, .error], method "MkdirAll" erring,
   method "ReadFile" (valueOrError bytesType), method "Remove" erring, method "Rename" erring,
   method "TempFile" (valueOrError (opaqueType "File")),
   method "UserDataDir" (valueOrError stringType), method "WriteFile" erring]

/-- The JSON-RPC serving module. -/
def rpcModule : Service :=
  [method "Mode" [.value (.text "Mode")], method "OnStart" erring, method "OnStop" erring,
   method "RegisterConnectionManager" erring, method "ServeStream" erring]

/-- The router of one editor connection. -/
def router : Service := [method "HandleReq" erring, method "UUID" [.value (.text "UUID")]]

/-- The keeper of editor connections. -/
def connectionManager : Service :=
  [method "NewConnection" (valueOrError .dynamic), method "RemoveConnection" []]

/-- The file that tells where the running server is. -/
def serverInfoFile : Service :=
  [method "Field" [.value stringType, .value .flag], method "UpdateField" erring]

/-- The identity store. -/
def identityStore : Service :=
  [method "Environments" [.value stringsType], method "Forget" [], method "ForgetValidation" [],
   method "IsValid" [.value .flag], method "KnownHosts" [.value stringsType],
   method "LastEnvironment" [.value stringType], method "MarkValid" [], method "Remember" [],
   method "Validated" [.value (.map "map[string][]string" stringsType)]]

/-- The repository of editor sessions. -/
def sessionRepository : Service :=
  [method "Delete" erring, method "Get" (valueOrError (opaqueType "Session")),
   method "GetFromContext" (valueOrError (opaqueType "Session")),
   method "SessionCount" (valueOrError intType), method "Set" erring]

end RemoteLsp.Double
