import RemoteLsp.Lsp.Params
import RemoteLsp.Text.Quoted

/-!
# Reading message parameters

The parameters of a message arrive as raw text. Reading them into a declared type fails
with a syntax error when the text is not JSON (an absent parameter text is empty, which is
not JSON) and with a type error when a value has the wrong kind; either way the message
carries the protocol's parse error prefix.

`initialized` is the one message whose parameters may be absent. The arguments of
`workspace/executeCommand` are kept as their texts and each command reads the ones it
needs, by position.
-/

namespace RemoteLsp.Lsp

open Json

/-- Why the parameters of a message could not be read. -/
inductive ParamsError where
  /-- The text is not JSON. -/
  | malformed (e : ReadError)
  /-- A value has the wrong kind for its declared type. -/
  | type (e : DecodeError) (rootName : String)
  deriving Repr

/-- The message of a parameter error. -/
def ParamsError.message : ParamsError → String
  | .malformed e => "JSON-RPC parse error: " ++ e.message
  | .type e root => "JSON-RPC parse error: " ++ e.message root

/-- Reads parameter text as a value of a declared type. -/
def readParams (s : Schema) (text : String) : Except ParamsError Val :=
  match decode s text with
  | .error e => .error (.malformed e)
  | .ok (.error e) => .error (.type e s.rootName)
  | .ok (.ok v) => .ok v

/-- Reads the parameters of `initialized`, which may be absent. -/
def readInitialized (text : String) : Except ParamsError Val :=
  if text.isEmpty then .ok initializedParams.zero else readParams initializedParams text

/-- The command of `workspace/executeCommand` and the texts of its arguments. -/
structure CommandCall where
  command : String
  arguments : List String
  deriving Repr, DecidableEq

/-- Reads the parameters of `workspace/executeCommand`. -/
def readCommandCall (text : String) : Except ParamsError CommandCall := do
  let v ← readParams executeCommandParams text
  let command := match v.field executeCommandParams "command" with
    | .text c => c
    | _ => ""
  let arguments := match v.field executeCommandParams "arguments" with
    | .list items => items.map fun
      | .raw t => String.ofList t
      | _ => "null"
    | _ => []
  pure ⟨command, arguments⟩

/-- Why a command argument could not be read. -/
inductive ArgumentError where
  /-- The command has fewer arguments. -/
  | missing (command : String) (index : Nat)
  /-- The argument does not read as the declared type. -/
  | invalid (command : String) (index : Nat) (e : ParamsError)
  deriving Repr

/-- The message of an argument error. -/
def ArgumentError.message : ArgumentError → String
  | .missing c i => "command " ++ Text.quoted c ++ ": missing argument " ++ toString i
  | .invalid c i e => "command " ++ Text.quoted c ++ ": argument " ++ toString i ++ ": " ++ e.message

/-- Reads the argument at `index` as a value of a declared type. -/
def CommandCall.argument (call : CommandCall) (index : Nat) (s : Schema) :
    Except ArgumentError Val :=
  match call.arguments[index]? with
  | none => .error (.missing call.command index)
  | some text =>
    match readParams s text with
    | .ok v => .ok v
    | .error e => .error (.invalid call.command index e)

/-- Reads a string argument; `null` reads as the empty string. -/
def CommandCall.stringArg (call : CommandCall) (index : Nat) : Except ArgumentError String :=
  (call.argument index str).map fun
    | .text s => s
    | _ => ""

/-- Reads a boolean argument; `null` reads as false. -/
def CommandCall.boolArg (call : CommandCall) (index : Nat) : Except ArgumentError Bool :=
  (call.argument index .flag).map fun
    | .flag b => b
    | _ => false

/-- Reads a 64-bit integer argument; `null` reads as zero. -/
def CommandCall.intArg (call : CommandCall) (index : Nat) : Except ArgumentError Int :=
  (call.argument index (.integer "int64" (-9223372036854775808) 9223372036854775807)).map fun
    | .int i => i
    | _ => 0

/-- The text of an argument as it was sent. -/
def CommandCall.rawArg (call : CommandCall) (index : Nat) : Except ArgumentError String :=
  match call.arguments[index]? with
  | none => .error (.missing call.command index)
  | some text => .ok text

/-- The text of a document after its content changes, each of which replaces the whole text:
the last one, if there is any. -/
def latestText (changes : List String) : Option String := changes.getLast?

end RemoteLsp.Lsp
