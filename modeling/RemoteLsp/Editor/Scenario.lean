import RemoteLsp.Editor.Gateway
import RemoteLsp.Json.Raw
import RemoteLsp.Json.Write
import RemoteLsp.Text.Uuid

/-!
# Driving the gateway through a scenario

A scenario scripts an editor and then drives the gateway through steps, each given as JSON
and answered in JSON. Raw values in the script (results and typed answers) and parameters of
steps are taken as written, made compact. Questions are answered asynchronously: a step that
asks gets the question's number, and a later step collects every outcome so far.

The answer of a scenario lists what the editor of each session was sent and how many timers
are still pending. Every UUID in its values is hidden, since progress tokens are generated.
-/

namespace RemoteLsp.Editor

/-- The compact text of a raw value. -/
def rawText (raw : List Char) : String := Json.embedText (String.ofList raw)

/-- The entries of a member of an object text that is itself a container. -/
def rawEntries (raw : List Char) (key : String) : List Json.Entry :=
  match Json.member? raw key with
  | some r => Json.entries r
  | none => []

/-- The editor's behaviour as a scenario scripts it. -/
def Behaviour.ofScript (raw : List Char) (j : Json) : Behaviour :=
  let text (v : Json) : String := (v.str?).getD ""
  { replies := (rawEntries raw "replies").map fun e => (e.name, rawText e.raw),
    errors := (((j.field? "errors").bind Json.obj?).getD []).map fun (k, v) => (k, text v),
    choices := (((j.field? "confirm").bind Json.arr?).getD []).map Json.str?,
    inputs := (rawEntries raw "input").map fun e => rawText e.raw,
    hold := (((j.field? "hold").bind Json.arr?).getD []).map text }

/-- The JSON of an outcome. -/
def Outcome.toJson : Outcome → Json
  | .confirmed c ok => .obj [("choice", .str c), ("ok", .bool ok)]
  | .answered v c => .obj [("cancelled", .bool c), ("value", .str v)]

/-- An error of the scenario itself rather than of the gateway. -/
def scenarioError (m : String) : Json := .obj [("error", .str "driver"), ("message", .str m)]

/-- The answer of a step that may fail with a message. -/
def errorOr (r : Except String Gateway) (g : Gateway) : Json × Gateway :=
  match r with
  | .ok g => (.obj [("error", .null)], g)
  | .error e => (.obj [("error", .str e)], g)

mutual
/-- Hides every UUID in the values of a JSON answer; names are kept. -/
def maskValues : Json → Json
  | .str s => .str (Uuid.mask s)
  | .arr xs => .arr (maskItems xs)
  | .obj ms => .obj (maskMembers ms)
  | v => v

/-- Hides every UUID in the items of an array. -/
def maskItems : List Json → List Json
  | [] => []
  | x :: xs => maskValues x :: maskItems xs

/-- Hides every UUID in the values of members. -/
def maskMembers : List (String × Json) → List (String × Json)
  | [] => []
  | (k, v) :: ms => (k, maskValues v) :: maskMembers ms
end

/-- Runs one step of a scenario; `raw` is the step's text. -/
def Gateway.step (g : Gateway) (st : Json) (raw : List Char) : Json × Gateway :=
  let text (k : String) : String := ((st.field? k).bind Json.str?).getD ""
  let int (k : String) : Int := match st.field? k with
    | some (.num l) => (l.toInt?).getD 0
    | _ => 0
  let session := text "session"
  let who : Option String := if session.isEmpty then none else some session
  let params := ((Json.member? raw "params").map rawText).getD ""
  match text "do" with
  | "register" =>
    match Uuid.check session with
    | .ok () => (.obj [("ok", .bool true)], g.register session)
    | .error e => (scenarioError e, g)
  | "deregister" => (.obj [("error", .null)], g.deregister session)
  | "show_message" => errorOr (g.showMessage who (text "message") (int "type")) g
  | "log_message" => errorOr (g.logMessage who (text "message") (int "type")) g
  | "report" => (.obj [("ok", .bool true)], g.report who (int "severity") (text "message"))
  | "notify" => errorOr (g.notify who (text "method") params) g
  | "call" =>
    match g.call who (text "method") params with
    | (.ok r, g) => (.obj [("result", .str r)], g)
    | (.error e, g) => (.obj [("error", .str e)], g)
  | "log_writer" =>
    match g.writeLog who (text "prefix") (text "text") with
    | .ok (n, g) => (.obj [("error", .null), ("written", Json.ofNat n)], g)
    | .error e => (.obj [("error", .str e)], g)
  | "show_message_request" =>
    let actions := match (st.field? "actions").bind Json.arr? with
      | some (a :: as) => some ((a :: as).map fun v => (v.str?).getD "")
      | _ => none
    match g.showMessageRequest who (text "message") (int "type") actions with
    | (.ok t, g) => (.obj [("item", match t with | some t => .str t | none => .null)], g)
    | (.error e, g) => (.obj [("error", .str e)], g)
  | "confirm" =>
    let actions := (((st.field? "actions").bind Json.arr?).getD []).map fun v => (v.str?).getD ""
    let (op, g) := g.confirm who (text "message") actions
    (.obj [("async", Json.ofNat op)], g)
  | "input" =>
    let q := (st.field? "request").getD .null
    let qt (k : String) : String := ((q.field? k).bind Json.str?).getD ""
    let req : InputRequest := ⟨qt "kind", qt "prompt", qt "default",
      (((q.field? "choices").bind Json.arr?).getD []).map fun v => (v.str?).getD ""⟩
    let (op, g) := g.input who req
    (.obj [("async", Json.ofNat op)], g)
  | "await" =>
    (.obj [("results", .arr (g.outcomes.map fun o => (o.map Outcome.toJson).getD .null))], g)
  | "wait" => (.obj [("waited", .bool (g.hasReceived session (text "method")))], g)
  | "sync" => (.obj [("synced", .bool (g.registered.contains session))], g)
  | "advance" =>
    let (n, g) := g.advance (int "ms").toNat
    (.obj [("timers", Json.ofNat n)], g)
  | "release" =>
    let (n, g) := g.release session (text "method")
    (.obj [("released", Json.ofNat n)], g)
  | "now" => (.obj [("fake", .str (Time.rfc3339 g.now)), ("real_after_2020", .bool true)], g)
  | other => (scenarioError ("unknown step " ++ other), g)

/-- Runs a scenario given as a JSON line. -/
def scenario (line : String) (j : Json) : Json :=
  let raw := Json.dropLow line.toList
  let editorRaw := (Json.member? raw "editor").getD []
  let g : Gateway := { behaviour := Behaviour.ofScript editorRaw ((j.field? "editor").getD .null) }
  let steps := (((j.field? "steps").bind Json.arr?).getD []).zip
    ((rawEntries raw "steps").map (·.raw))
  let (answers, g) := steps.foldl (fun (acc, g) (st, r) =>
    let (a, g) := g.step st r
    (acc ++ [a], g)) (([] : List Json), g)
  .obj [("received", maskValues (g.receivedJson Uuid.mask)), ("steps", maskValues (.arr answers)),
    ("timers", Json.ofNat g.pendingTimers)]

end RemoteLsp.Editor
