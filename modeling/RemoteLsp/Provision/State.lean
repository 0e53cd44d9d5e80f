/-!
# Provisioning states

What is known about a backend on a host in an environment: not yet checked, being checked,
present and runnable, or missing.
-/

namespace RemoteLsp

/-- The state of one backend, host and environment. -/
inductive ProvisionState where
  | unchecked
  | checking
  | valid
  | missing
  deriving DecidableEq, Repr, Inhabited

namespace ProvisionState

/-- Every state, in the order of their numbers. -/
def all : List ProvisionState := [.unchecked, .checking, .valid, .missing]

/-- The name of a state. -/
def name : ProvisionState → String
  | .unchecked => "unchecked"
  | .checking => "checking"
  | .valid => "valid"
  | .missing => "missing"

end ProvisionState

end RemoteLsp
