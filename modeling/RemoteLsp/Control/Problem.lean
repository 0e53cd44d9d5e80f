/-!
# Errors and faults

An operation ends in one of three ways: with a result, with an error that its caller sees
and handles, or with a fault that abandons what is running (a broken invariant, such as
adding to a map that was never created). The event loop recovers a fault: it ends only the
task that raised it. Errors carry a kind, which answers name, and a
message; faults carry only a message. Changes made before an error or a fault stay made.
-/

namespace RemoteLsp

/-- The kind of an error, as answers name it. -/
inductive ErrorKind where
  | noHostConfigured
  | notAttached
  | noHost
  | notFileUri
  | uuidNotFound
  | noSessionFound
  | corruptedStore
  | unknownBackend
  | jsonType
  | jsonSyntax
  | jsonRpc (code : Int)
  | plain
  deriving Repr, DecidableEq, Inhabited

/-- The name of an error kind in answers. -/
def ErrorKind.label : ErrorKind → String
  | .noHostConfigured => "NoHostConfigured"
  | .notAttached => "NotAttached"
  | .noHost => "ErrNoHost"
  | .notFileUri => "ErrNotFileURI"
  | .uuidNotFound => "UUIDNotFound"
  | .noSessionFound => "NoSessionFound"
  | .corruptedStore => "CorruptedStore"
  | .unknownBackend => "UnknownBackend"
  | .jsonType => "JSONType"
  | .jsonSyntax => "JSONSyntax"
  | .jsonRpc _ => "JSONRPC"
  | .plain => "error"

/-- An error: its kind and its message. -/
structure Problem where
  kind : ErrorKind
  message : String
  deriving Repr, DecidableEq, Inhabited

/-- An error of no particular kind. -/
def Problem.plain (message : String) : Problem := ⟨.plain, message⟩

/-- The same error with context put in front of its message. -/
def Problem.wrap (p : Problem) (context : String) : Problem :=
  { p with message := context ++ ": " ++ p.message }

/-- Why an operation stopped early. -/
inductive Stop where
  /-- An error the caller sees. -/
  | failed (p : Problem)
  /-- A fault that abandons the request. -/
  | fault (message : String)
  deriving Repr, DecidableEq, Inhabited

/-- An operation on a state that may stop early, keeping the changes made so far. -/
abbrev Op (σ α : Type) := EStateM Stop σ α

/-- Stops with an error. -/
def Op.fail {σ α : Type} (p : Problem) : Op σ α := throw (.failed p)

/-- Stops with a fault. -/
def Op.fault {σ α : Type} (message : String) : Op σ α := throw (.fault message)

/-- Runs an operation, turning its errors into values while faults still stop it. -/
def Op.attempt {σ α : Type} (op : Op σ α) : Op σ (Except Problem α) :=
  tryCatch (op.map .ok) fun
    | .failed p => pure (.error p)
    | .fault m => throw (.fault m)

/-- Runs an operation as the event loop runs a task: a fault ends the operation where it stood,
its changes kept, and the caller goes on with `recovered`; errors still stop it. -/
def Op.recover {σ α : Type} (op : Op σ α) (recovered : α) : Op σ α :=
  tryCatch op fun
    | .failed p => throw (.failed p)
    | .fault _ => pure recovered

/-- Puts context in front of the message of an error of an operation. -/
def Op.context {σ α : Type} (op : Op σ α) (context : String) : Op σ α :=
  tryCatch op fun
    | .failed p => throw (.failed (p.wrap context))
    | .fault m => throw (.fault m)

end RemoteLsp
