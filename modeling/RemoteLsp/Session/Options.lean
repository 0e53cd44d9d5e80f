import RemoteLsp.Lsp.Params

/-!
# Session options from the editor

An editor may send per-session options in `initializationOptions`. They arrive as a value
of any shape, are written out again (names sorted, numbers as doubles) and read as the
declared options record; a member of the wrong kind fails the whole set. Each option is
either given or absent, and only given ones override the defaults.
-/

namespace RemoteLsp.Session

open Json

/-- The options an editor may set for its session; `none` leaves the default. -/
structure SessionOptions where
  host : Option String := none
  environment : Option String := none
  workspaceRoot : Option String := none
  backend : Option String := none
  autoInstall : Option Bool := none
  notifyOnStart : Option Bool := none
  allowPrompt : Option Bool := none
  deriving Repr, DecidableEq, Inhabited

/-- The text held by a given string option. -/
def textOption : Val → Option String
  | .ptr (.text s) => some s
  | _ => none

/-- The flag held by a given boolean option. -/
def flagOption : Val → Option Bool
  | .ptr (.flag b) => some b
  | _ => none

/-- The options of a decoded options record. -/
def SessionOptions.ofVal (v : Val) : SessionOptions :=
  let s := Lsp.initializationOptions
  { host := textOption (v.field s "host")
    environment := textOption (v.field s "environment")
    workspaceRoot := textOption (v.field s "workspaceRoot")
    backend := textOption (v.field s "backend")
    autoInstall := flagOption (v.field s "autoInstall")
    notifyOnStart := flagOption (v.field s "notifyOnStart")
    allowPrompt := flagOption (v.field s "allowPrompt") }

/-- The given options as JSON members, in declaration order. -/
def SessionOptions.toJson (o : SessionOptions) : Json :=
  .obj <|
    (o.host.map (fun v => [("host", Json.str v)])).getD [] ++
    (o.environment.map (fun v => [("environment", Json.str v)])).getD [] ++
    (o.workspaceRoot.map (fun v => [("workspaceRoot", Json.str v)])).getD [] ++
    (o.backend.map (fun v => [("backend", Json.str v)])).getD [] ++
    (o.autoInstall.map (fun v => [("autoInstall", Json.bool v)])).getD [] ++
    (o.notifyOnStart.map (fun v => [("notifyOnStart", Json.bool v)])).getD [] ++
    (o.allowPrompt.map (fun v => [("allowPrompt", Json.bool v)])).getD []

/-- Why options could not be read. -/
structure OptionsError where
  error : DecodeError
  deriving Repr, DecidableEq

/-- The message of an options error. -/
def OptionsError.message (e : OptionsError) : String :=
  "decoding initialization options: " ++ e.error.message "InitializationOptions"

/-- Reads the options of a dynamic value; an absent value gives no options. -/
def parseOptions : Option Json → Except OptionsError SessionOptions
  | none => .ok {}
  | some .null => .ok {}
  | some j =>
    match dynamicOf [] (2 * (render .wire j).length + 2) j with
    | .error e => .error ⟨e⟩
    | .ok norm =>
      let text := render .wire norm
      match decode Lsp.initializationOptions text with
      | .ok (.ok v) => .ok (SessionOptions.ofVal v)
      | .ok (.error e) => .error ⟨e⟩
      | .error _ => .ok {}

/-- Reads the options of a decoded dynamic member. -/
def parseOptionsVal : Val → Except OptionsError SessionOptions
  | .dyn j => parseOptions (some j)
  | _ => .ok {}

end RemoteLsp.Session
