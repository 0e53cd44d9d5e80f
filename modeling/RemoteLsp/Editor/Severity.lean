/-!
# Report severities

How loud a message shown to the user is.
-/

namespace RemoteLsp

/-- The severity of a message shown to the user. -/
inductive Severity where
  | info
  | warning
  | error
  deriving DecidableEq, Repr, Inhabited

namespace Severity

/-- Every severity, in the order of their numbers. -/
def all : List Severity := [.info, .warning, .error]

/-- The name of a severity. -/
def name : Severity → String
  | .info => "info"
  | .warning => "warning"
  | .error => "error"

end Severity

end RemoteLsp
