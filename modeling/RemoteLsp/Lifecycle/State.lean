/-!
# Lifecycle states

Where a session's remote server is in its life: nothing running, being provisioned, started and
waiting for its `initialize` answer, attached, exited cleanly or not, waiting to reconnect, or
given up after a second crash.
-/

namespace RemoteLsp

/-- The state of a session's remote server. -/
inductive LifecycleState where
  | idle
  | provisioning
  | starting
  | attached
  | exitedClean
  | exitedAbnormal
  | reconnectPending
  | givenUp
  deriving DecidableEq, Repr, Inhabited

namespace LifecycleState

/-- Every state, in the order of their numbers. -/
def all : List LifecycleState :=
  [.idle, .provisioning, .starting, .attached, .exitedClean, .exitedAbnormal, .reconnectPending,
    .givenUp]

/-- The name of a state as status reports show it. -/
def name : LifecycleState → String
  | .idle => "idle"
  | .provisioning => "provisioning"
  | .starting => "starting"
  | .attached => "attached"
  | .exitedClean => "exited_clean"
  | .exitedAbnormal => "exited_abnormal"
  | .reconnectPending => "reconnect_pending"
  | .givenUp => "given_up"

end LifecycleState

/-- The name of the state numbered `i`, or `unknown` past the last one. -/
def nameAt {α : Type} (all : List α) (name : α → String) (i : Int) : String :=
  if i < 0 then "unknown" else ((all[i.toNat]?).map name).getD "unknown"

end RemoteLsp
