import RemoteLsp.Shell.Runner
import RemoteLsp.Json.Value
import RemoteLsp.Text.Chars

/-!
# A scripted remote host

A remote host that answers the scripts the daemon runs on it, as seen through the remote
shell. Each script is recognised by what it does: probing the interpreter, asking its version,
detecting the backend, installing it, or finding the repository of a directory. Every kind
answers with a configured exit code and output; by default it succeeds with no output, except
the repository search, which fails as it does outside a repository.

An install that succeeds leaves a marker on its host (unless the host is told not to), and a
detection on a host with the marker succeeds whatever it was told, so that an install is seen
by the detection after it. A host that cannot be reached answers every script the way the
remote shell does: a refused connection on standard error and exit code 255.
-/

namespace RemoteLsp.Double

/-- The kinds of script the daemon runs on a host. -/
inductive ScriptKind where
  | probe
  | version
  | detect
  | install
  | workspace
  | other
  deriving Repr, DecidableEq

/-- The name a configuration gives a kind of script. -/
def ScriptKind.name : ScriptKind → String
  | .probe => "probe"
  | .version => "version"
  | .detect => "detect"
  | .install => "install"
  | .workspace => "workspace"
  | .other => "other"

/-- Whether a text occurs in another. -/
def occursIn (needle hay : String) : Bool := (hay.splitOn needle).length > 1

/-- The kind of a script, by what it runs. An install checks the interpreter as a detection
does, so it is recognised first. -/
def ScriptKind.of (script : String) : ScriptKind :=
  if Text.startsWith script "command -v " || Text.startsWith script "test -x " then .probe
  else if Text.endsWith script " --version" then .version
  else if occursIn "pip install" script then .install
  else if occursIn "-c 'import sys'" script then .detect
  else if occursIn "git rev-parse" script then .workspace
  else .other

/-- What a script answers: its exit code and its output. -/
structure Answer where
  code : Int := 0
  stdout : String := ""
  stderr : String := ""
  deriving Repr, DecidableEq

/-- What a repository search answers outside a repository. -/
def notRepository : Answer :=
  ⟨128, "", "fatal: not a git repository (or any of the parent directories): .git\n"⟩

/-- A scripted host: the answer of each kind of script, the hosts that cannot be reached,
whether installs leave no marker, and the hosts an install left its marker on. -/
structure Host where
  answers : List (String × Answer) := []
  unreachable : List String := []
  noMarker : Bool := false
  markers : List String := []
  deriving Repr

/-- The exit code the remote shell gives its own failures. -/
def shellFailure : Int := 255

/-- What the remote shell writes when a host refuses the connection. -/
def refused (host : String) : String :=
  "ssh: connect to host " ++ host ++ " port 22: Connection refused\n"

/-- The outcome of a local process that ended with an exit code. -/
def outcomeOf (a : Answer) : Shell.Local.Outcome :=
  ⟨a.stdout, a.stderr,
    if a.code < 0 then .signaled a.code.natAbs else .exited a.code.toNat, false⟩

namespace Host

/-- The answer a kind of script is configured with. -/
def answerFor (h : Host) (kind : ScriptKind) : Answer :=
  match (h.answers.find? (·.1 = kind.name)).map (·.2) with
  | some a => a
  | none => if kind = .workspace then notRepository else {}

/-- Runs a script on a host: its answer, and the host with any marker the script left. -/
def run (h : Host) (host script : String) : Answer × Host :=
  if h.unreachable.contains host then (⟨shellFailure, "", refused host⟩, h)
  else
    let kind := ScriptKind.of script
    let a := h.answerFor kind
    match kind with
    | .detect => if h.markers.contains host then ({}, h) else (a, h)
    | .install =>
      if a.code = 0 && !h.noMarker && !h.markers.contains host then
        (a, { h with markers := h.markers ++ [host] })
      else (a, h)
    | _ => (a, h)

/-- The result the daemon gets for a script run through a shell binary: a binary other than
the remote shell cannot be started. -/
def result (h : Host) (binary host script : String) : Shell.RunResult × Host :=
  if binary ≠ "ssh" then
    (Shell.RunResult.ofOutcome binary
      ⟨"", "", .notStarted ("exec: " ++ Text.quoted binary ++ ": executable file not found in $PATH"),
        false⟩, h)
  else
    let (a, h) := h.run host script
    (Shell.RunResult.ofOutcome binary (outcomeOf a), h)

end Host

/-- An answer as a configuration gives it. -/
def Answer.ofJson (j : Json) : Answer :=
  let text (k : String) : String := ((j.field? k).bind Json.str?).getD ""
  { code := match j.field? "code" with
      | some (.num l) => l.toInt?.getD 0
      | _ => 0
    stdout := text "stdout"
    stderr := text "stderr" }

/-- A host as a configuration gives it. -/
def Host.ofJson (j : Json) : Host :=
  { answers := (((j.field? "results").bind Json.obj?).getD []).map fun (k, v) => (k, Answer.ofJson v)
    unreachable := (((j.field? "unreachable").bind Json.arr?).getD []).filterMap Json.str?
    noMarker := ((j.field? "no_marker").bind Json.bool?).getD false }

theorem run_unreachable (h : Host) (host script : String) (hu : h.unreachable.contains host = true) :
    (h.run host script).1.code = shellFailure := by
  unfold Host.run
  rw [if_pos hu]

end RemoteLsp.Double
