/-!
# Exit status of a server process

A process ends with an exit code, or is killed by a signal. It ended cleanly when the code is
zero and no signal is named.
-/

namespace RemoteLsp

/-- How a server process ended: its exit code and the name of the signal that killed it, if any. -/
structure ExitStatus where
  code : Int
  signal : String
  deriving DecidableEq, Repr, Inhabited

namespace ExitStatus

/-- Whether the process ended with code zero and no signal. -/
def clean (e : ExitStatus) : Bool := e.code == 0 && e.signal == ""

/-- The status as messages show it: the signal when there is one, else the exit code. -/
def describe (e : ExitStatus) : String :=
  if e.signal ≠ "" then "signal " ++ e.signal else "exit code " ++ toString e.code

theorem clean_iff (e : ExitStatus) : e.clean = true ↔ e.code = 0 ∧ e.signal = "" := by
  simp [clean]

end ExitStatus

end RemoteLsp
