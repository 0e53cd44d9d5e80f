/-!
# Checking expected calls

A service double stands in for a service in tests: it is told which calls to expect, and
answers each call from the first expectation that accepts it. An expectation names its
method, optionally the exact arguments, and how many calls it needs and allows; it answers
with what it was scripted to give back. A call that no expectation accepts is a failure,
and so, when the double is finished, is every expectation made fewer times than it needs.

Arguments are compared by their JSON text, so two calls match the same expectation exactly
when their arguments are written the same way.
-/

namespace RemoteLsp.Double

/-- How many calls an expectation needs and allows: exactly some number, or any number. -/
inductive Times where
  | exactly (n : Nat)
  | any
  deriving Repr, DecidableEq

/-- The fewest calls an expectation needs. -/
def Times.needs : Times → Nat
  | .exactly n => n
  | .any => 0

/-- Whether one more call is allowed after `made` calls. -/
def Times.allows : Times → Nat → Bool
  | .exactly n, made => made < n
  | .any, _ => true

/-- An expected call: its method, the argument texts it must be made with (any when none
are given), how many times, what it answers, and how often it has been made. -/
structure Expectation (α : Type) where
  method : String
  args : Option (List String)
  times : Times
  answer : α
  made : Nat := 0
  deriving Repr

/-- Whether an expectation accepts a call: the same method, the same arguments when they are
given, and not used up. -/
def Expectation.accepts {α : Type} (e : Expectation α) (method : String) (args : List String) :
    Bool :=
  e.method == method && e.args.all (· == args) && e.times.allows e.made

/-- Why a double failed. -/
inductive Failure where
  /-- A call that no expectation accepted. -/
  | unexpected (method : String)
  /-- An expectation made fewer times than it needs. -/
  | missing (method : String)
  /-- The run stopped because calls were missing. -/
  | aborted
  deriving Repr, DecidableEq

/-- A double: its expectations in the order they were set, and the failures of its calls. -/
structure Script (α : Type) where
  expected : List (Expectation α) := []
  failures : List Failure := []
  deriving Repr

namespace Script

variable {α : Type}

/-- Adds an expectation after the others. -/
def expect (s : Script α) (e : Expectation α) : Script α :=
  { s with expected := s.expected ++ [e] }

/-- Makes a call: the first expectation that accepts it answers and counts it; a call none
accepts answers nothing and is a failure. -/
def call (s : Script α) (method : String) (args : List String) : Option α × Script α :=
  match s.expected.findIdx? (·.accepts method args) with
  | some i =>
    match s.expected[i]? with
    | some e => (some e.answer, { s with expected := s.expected.set i { e with made := e.made + 1 } })
    | none => (none, s)
  | none => (none, { s with failures := s.failures ++ [.unexpected method] })

/-- The methods of the expectations made fewer times than they need, in the order set. -/
def missing (s : Script α) : List String :=
  (s.expected.filter fun e => e.made < e.times.needs).map (·.method)

/-- What finishing the double reports: each missing call, then that the run stops, or
nothing when every expectation is met. -/
def finish (s : Script α) : List Failure :=
  match s.missing with
  | [] => []
  | ms => ms.map .missing ++ [.aborted]

/-- A call that no expectation accepts answers nothing and adds exactly its failure. -/
theorem call_unexpected (s : Script α) (method : String) (args : List String)
    (h : ∀ e ∈ s.expected, e.accepts method args = false) :
    s.call method args = (none, { s with failures := s.failures ++ [.unexpected method] }) := by
  have hn : s.expected.findIdx? (·.accepts method args) = none := by
    rw [List.findIdx?_eq_none_iff]
    intro e he
    simp [h e he]
  simp [call, hn]

/-- A double with every expectation met reports nothing when finished. -/
theorem finish_of_met (s : Script α) (h : ∀ e ∈ s.expected, e.times.needs ≤ e.made) :
    s.finish = [] := by
  have hm : s.missing = [] := by
    unfold missing
    rw [List.map_eq_nil_iff, List.filter_eq_nil_iff]
    intro e he
    have := h e he
    simp only [decide_eq_true_eq]
    omega
  simp [finish, hm]

end Script

end RemoteLsp.Double
