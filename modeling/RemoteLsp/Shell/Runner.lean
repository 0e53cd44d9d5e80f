import RemoteLsp.Shell.Quote
import RemoteLsp.Shell.Local
import RemoteLsp.Time.Duration
import RemoteLsp.Text.Space

/-!
# Running scripts on remote hosts

A script runs on a host through an ssh-compatible binary: the command line is the binary, its
options, the host, and `sh -c` with the script quoted. Without configuration the binary is
`ssh` with options that keep it from prompting and notice dead connections.

Each kind of remote operation has its own default timeout (probe 10s, detect 15s, install
300s, workspace 10s); a configured timeout that is not positive takes the default, and a run
given no positive timeout takes the install timeout.

A run is delivered once: when its timer fires first, the result says it timed out, with exit
code -1 and the timeout in its error lines; otherwise the command's own result. Output is kept
as lines, trailing newlines dropped. A command that could not start has exit code 1 and the
launcher's reason as its last error line; one killed by a signal names it.
-/

namespace RemoteLsp.Shell

/-- The default timeouts in milliseconds. -/
def defaultProbeMs : Int := 10000
def defaultDetectMs : Int := 15000
def defaultInstallMs : Int := 300000
def defaultWorkspaceMs : Int := 10000

/-- The options that keep ssh from prompting and detect dead connections. -/
def defaultOptions : List String :=
  ["-o", "BatchMode=yes", "-o", "ConnectTimeout=10", "-o", "ServerAliveInterval=10",
   "-o", "ServerAliveCountMax=3"]

/-- The timeout of each kind of remote operation, in milliseconds. -/
structure Timeouts where
  probe : Int
  detect : Int
  install : Int
  workspace : Int
  deriving Repr, DecidableEq, Inhabited

/-- The remote shell's configuration as given: the binary, its options, and the timeouts in
milliseconds; absent values take the defaults. -/
structure RunnerConfig where
  binary : String := ""
  options : Option (List String) := none
  probeMs : Int := 0
  detectMs : Int := 0
  installMs : Int := 0
  workspaceMs : Int := 0
  deriving Repr, DecidableEq, Inhabited

/-- A runner: the binary and options it runs through, and its timeouts. -/
structure Runner where
  binary : String
  options : List String
  timeouts : Timeouts
  deriving Repr, DecidableEq, Inhabited

/-- A positive duration, or the default. -/
def orDefault (ms default : Int) : Int := if ms ≤ 0 then default else ms

/-- The runner a configuration describes. -/
def Runner.ofConfig (c : RunnerConfig) : Runner :=
  { binary := if c.binary.isEmpty then "ssh" else c.binary
    options := c.options.getD defaultOptions
    timeouts := ⟨orDefault c.probeMs defaultProbeMs, orDefault c.detectMs defaultDetectMs,
      orDefault c.installMs defaultInstallMs, orDefault c.workspaceMs defaultWorkspaceMs⟩ }

/-- The local command line that runs a script on a host. -/
def Runner.argv (r : Runner) (host script : String) : List String :=
  r.binary :: r.options ++ [host, "sh -c " ++ quote script]

/-- The outcome of one command. -/
structure RunResult where
  success : Bool
  stdout : List String
  stderr : List String
  exitCode : Int
  /-- The signal that ended the process, empty otherwise. -/
  signal : String
  timedOut : Bool
  spawnFailed : Bool
  deriving Repr, DecidableEq, Inhabited

/-- Standard output and error together, one line each, for display. -/
def RunResult.output (r : RunResult) : String := "\n".intercalate (r.stdout ++ r.stderr)

/-- The lines of a text, trailing newlines dropped; none for an empty text. -/
def splitLines (s : String) : List String :=
  let t := Text.trimRightChar s '\n'
  if t.isEmpty then [] else Text.split t '\n'

/-- The name of a signal. -/
def signalName (n : Nat) : String :=
  let names := ["hangup", "interrupt", "quit", "illegal instruction", "trace/breakpoint trap",
    "aborted", "bus error", "floating point exception", "killed", "user defined signal 1",
    "segmentation fault", "user defined signal 2", "broken pipe", "alarm clock", "terminated",
    "stack fault", "child exited", "continued", "stopped (signal)", "stopped",
    "stopped (tty input)", "stopped (tty output)", "urgent I/O condition",
    "CPU time limit exceeded", "file size limit exceeded", "virtual timer expired",
    "profiling timer expired", "window changed", "I/O possible", "power failure",
    "bad system call"]
  if n = 0 then "signal 0" else (names[n - 1]?).getD ("signal " ++ toString n)

/-- The result of a command that ran, or failed to start, as the first program argument
names it. -/
def RunResult.ofOutcome (program : String) (o : Local.Outcome) : RunResult :=
  let base : RunResult := ⟨false, splitLines o.stdout, splitLines o.stderr, 0, "", false, false⟩
  match o.ending with
  | .exited 0 => { base with success := true }
  | .exited c => { base with exitCode := c }
  | .signaled s => { base with exitCode := -1, signal := signalName s }
  | .notStarted reason =>
    { base with
      exitCode := 1
      spawnFailed := true
      stderr := base.stderr ++ ["failed to run " ++ program ++ ": " ++ reason] }

/-- The result of a command whose timer fired first. -/
def RunResult.timeout (ms : Int) : RunResult :=
  ⟨false, [], ["command timed out after " ++ Time.formatMillis ms], -1, "", true, false⟩

/-- The message of running an empty command line, which is a fault. -/
def emptyArgvMessage : String := "remoteshell: empty argv"

/-- The result delivered for a local command line run with a timeout, when the clock is
moved on by `elapsedMs` right after it starts: the timer fires first when it is due by then,
otherwise the command's own result. A timeout that is not positive is the install timeout. -/
def Runner.runArgv (r : Runner) (argv : List String) (timeoutMs elapsedMs : Int) :
    Except String RunResult :=
  match argv with
  | [] => .error emptyArgvMessage
  | program :: _ =>
    let timeout := if timeoutMs ≤ 0 then r.timeouts.install else timeoutMs
    if 0 < elapsedMs && timeout ≤ elapsedMs then .ok (RunResult.timeout timeout)
    else .ok (RunResult.ofOutcome program (Local.run argv))

/-- Runs a script on a host, through the runner's command line. -/
def Runner.run (r : Runner) (host script : String) (timeoutMs elapsedMs : Int) :
    Except String RunResult :=
  r.runArgv (r.argv host script) timeoutMs elapsedMs

theorem argv_length (r : Runner) (host script : String) :
    (r.argv host script).length = r.options.length + 3 := by
  simp [Runner.argv]

end RemoteLsp.Shell
