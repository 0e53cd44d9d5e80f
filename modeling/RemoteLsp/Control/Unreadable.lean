import RemoteLsp.Control.Problem
import RemoteLsp.Text.Quoted

/-!
# Unreadable persisted documents

A persisted document that cannot be read or parsed is reported with its path and the cause;
callers treat it as an empty document. The error may be wrapped in context, and unwrapping
it once gives either the cause (when nothing is wrapped around it) or the error itself.
-/

namespace RemoteLsp

/-- A persisted document that could not be read or parsed: where it is and why. -/
structure Unreadable where
  path : String
  cause : String
  deriving Repr, DecidableEq

/-- The message of an unreadable document, with its path quoted. -/
def Unreadable.message (u : Unreadable) : String :=
  "persisted state " ++ Text.quoted u.path ++ " is unreadable: " ++ u.cause

/-- The error of an unreadable document, with a context in front unless it is empty. -/
def Unreadable.problem (u : Unreadable) (context : String) : Problem :=
  let p : Problem := ⟨.corruptedStore, u.message⟩
  if context.isEmpty then p else p.wrap context

/-- The message one level inside the error: the cause, or the unreadable document's own
message when a context is wrapped around it. -/
def Unreadable.inner (u : Unreadable) (context : String) : String :=
  if context.isEmpty then u.cause else u.message

/-- Whether an error reports an unreadable document. -/
def Problem.isUnreadable (p : Problem) : Bool := p.kind = .corruptedStore

theorem Unreadable.problem_isUnreadable (u : Unreadable) (context : String) :
    (u.problem context).isUnreadable = true := by
  unfold Unreadable.problem Problem.isUnreadable
  split <;> simp [Problem.wrap]

end RemoteLsp
