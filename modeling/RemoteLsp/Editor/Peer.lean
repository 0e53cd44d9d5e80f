import RemoteLsp.Json.Write

/-!
# The editor at the other end

An editor connection carries requests, which the editor answers, and notifications. The
editor here follows a script: it answers a request for a choice from a queue of choices and a
request for typed input from a queue of answers, each answer used once, and `null` when its
queue is empty; any other request gets the error or the result set for its method, and an
empty result when none is set. Requests for some methods may be held back: they are seen but
answered only when released.

What an editor was sent is kept as messages: kind, method and the parameters' JSON text,
empty when there were none.
-/

namespace RemoteLsp.Editor

/-- Whether a message expects an answer. -/
inductive Kind where
  | request
  | notification
  deriving Repr, DecidableEq

/-- The name of a kind of message. -/
def Kind.name : Kind → String
  | .request => "request"
  | .notification => "notification"

/-- A message an editor was sent. -/
structure Message where
  kind : Kind
  method : String
  params : String
  deriving Repr, DecidableEq

/-- A message as a JSON record. -/
def Message.toJson (m : Message) : Json :=
  .obj [("kind", .str m.kind.name), ("method", .str m.method), ("params", .str m.params)]

/-- Whether one message sorts before another: by method, then parameters, then kind. -/
def Message.before (a b : Message) : Bool :=
  if a.method ≠ b.method then decide (a.method < b.method)
  else if a.params ≠ b.params then decide (a.params < b.params)
  else decide (a.kind.name ≤ b.kind.name)

/-- Messages in sorted order. -/
def sortMessages (ms : List Message) : List Message := ms.mergeSort Message.before

/-- An answer to a request: a result as JSON text, empty for none, or an error message. -/
inductive Reply where
  | result (raw : String)
  | error (message : String)
  deriving Repr, DecidableEq

/-- The method by which a server asks the user to choose an action. -/
def choiceMethod : String := "window/showMessageRequest"

/-- The method by which the daemon asks the user to type a value. -/
def inputMethod : String := "rlsp/input"

/-- How a scripted editor answers. -/
structure Behaviour where
  /-- Results per method, as JSON text. -/
  replies : List (String × String) := []
  /-- Errors per method. -/
  errors : List (String × String) := []
  /-- The titles chosen for choice requests, in order; `none` dismisses. -/
  choices : List (Option String) := []
  /-- The answers to input requests, in order, as JSON text. -/
  inputs : List String := []
  /-- Methods whose requests are held until released. -/
  hold : List String := []
  deriving Repr

/-- The result text of a chosen action. -/
def choiceResult : Option String → String
  | some title => Json.render .wire (.obj [("title", .str title)])
  | none => "null"

/-- The editor answers a request, using up a queued answer where it takes one. -/
def Behaviour.answer (b : Behaviour) (method : String) : Reply × Behaviour :=
  if method = choiceMethod then
    match b.choices with
    | c :: rest => (.result (choiceResult c), { b with choices := rest })
    | [] => (.result "null", b)
  else if method = inputMethod then
    match b.inputs with
    | i :: rest => (.result i, { b with inputs := rest })
    | [] => (.result "null", b)
  else
    match b.errors.find? (·.1 = method) with
    | some (_, e) => (.error e, b)
    | none =>
      match b.replies.find? (·.1 = method) with
      | some (_, r) => (.result r, b)
      | none => (.result "", b)

/-- Whether the editor holds back requests for a method. -/
def Behaviour.holds (b : Behaviour) (method : String) : Bool := b.hold.contains method

theorem answer_other_result (b : Behaviour) (method : String) (h1 : method ≠ choiceMethod)
    (h2 : method ≠ inputMethod) (h3 : b.errors.find? (·.1 = method) = none)
    (h4 : b.replies.find? (·.1 = method) = none) :
    b.answer method = (.result "", b) := by
  simp [Behaviour.answer, h1, h2, h3, h4]

end RemoteLsp.Editor
