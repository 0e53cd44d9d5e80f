import RemoteLsp.Shell.Runner
import RemoteLsp.Json.Value

/-!
# Running local commands with a log

The executor runs a local command and logs it first: its program, working directory, its
arguments when it has any, and, for a run that waits, the standard input it is given. Reading
that input can fail, which ends the run before anything is logged.

A run collects both outputs and the exit code. The exit code is that of the process, or -1
when it did not exit normally (it was never started, or a signal ended it). The error names
why the command did not succeed: a working directory that does not exist, a program that
cannot be started, a non-zero exit status, or the signal that ended it.

How commands are started can be replaced: by a function that fails with a message, or by
nothing at all, in which case the command is skipped with a warning.
-/

namespace RemoteLsp.Shell.Executor

/-- A local command: its program, its arguments after the program, its working directory
(empty for the current one) and its standard input, if it is given one; reading the input
may fail with a message. -/
structure Command where
  path : String
  args : List String
  dir : String
  stdin : Option (Except String String)
  deriving Repr

/-- How the executor starts commands. -/
inductive Starter where
  /-- Runs the command on the local machine. -/
  | local
  /-- Fails with a message without running anything. -/
  | failing (message : String)
  /-- There is no way to start commands: they are skipped. -/
  | missing
  deriving Repr, DecidableEq

/-- A line of the executor's log: its level, its message and its fields. -/
structure LogLine where
  level : String
  message : String
  fields : List (String × Json)
  deriving Repr

/-- What a run reports. -/
structure Report where
  stdout : String
  stderr : String
  exitCode : Int
  error : Option String
  logged : List LogLine
  deriving Repr

/-- The log line of a command; the input is shown when the run waits for the command. -/
def logLine (c : Command) (input : Option String) : LogLine :=
  let base := [("Path", Json.str c.path), ("Dir", Json.str c.dir)]
  let args := if c.args.isEmpty then [] else [("Args", Json.ofStrings c.args)]
  let stdin := match input with
    | some t => [("Stdin", Json.str t)]
    | none => []
  ⟨"info", "Exec", base ++ args ++ stdin⟩

/-- The warning of a command that was skipped. -/
def skipped (what : String) : LogLine := ⟨"warn", "missing " ++ what ++ " - skipped execution", []⟩

/-- The error of a working directory that does not exist. -/
def chdirError (dir : String) : String := "chdir " ++ dir ++ ": no such file or directory"

/-- Runs a command on the local machine: its outputs, its exit code and its error. -/
def runLocally (c : Command) (input : String) : String × String × Int × Option String :=
  if !Local.directoryExists c.dir then ("", "", -1, some (chdirError c.dir))
  else
    let o := Local.runIn (c.path :: c.args) input c.dir
    match o.ending with
    | .exited 0 => (o.stdout, o.stderr, 0, none)
    | .exited n => (o.stdout, o.stderr, n, some ("exit status " ++ toString n))
    | .signaled sig => (o.stdout, o.stderr, -1, some ("signal: " ++ signalName sig))
    | .notStarted reason => ("", "", -1, some reason)

/-- Runs a command and waits for it. -/
def run (s : Starter) (c : Command) : Report :=
  match c.stdin with
  | some (.error m) => ⟨"", "", -1, some m, []⟩
  | stdin =>
    let input := match stdin with
      | some (.ok t) => some t
      | _ => none
    let line := logLine c input
    match s with
    | .missing => ⟨"", "", 0, none, [line, skipped "ExecFunc"]⟩
    | .failing m => ⟨"", "", -1, some m, [line]⟩
    | .local =>
      let (out, err, code, e) := runLocally c (input.getD "")
      ⟨out, err, code, e, [line]⟩

/-- What starting a command reports: whether it was started, and, when it was, how it ran
once waited for (its output and exit code), or why it could not start. -/
structure Started where
  started : Bool
  error : Option String
  stdout : String
  exitCode : Int
  logged : List LogLine
  deriving Repr

/-- Starts a command without logging its input, then waits for it. -/
def start (s : Starter) (c : Command) : Started :=
  let line := logLine c none
  match s with
  | .missing => ⟨false, none, "", 0, [line, skipped "StartFunc"]⟩
  | .failing m => ⟨false, some m, "", -1, [line]⟩
  | .local =>
    let input := match c.stdin with
      | some (.ok t) => t
      | _ => ""
    if !Local.directoryExists c.dir then ⟨false, some (chdirError c.dir), "", -1, [line]⟩
    else
      let o := Local.runIn (c.path :: c.args) input c.dir
      match o.ending with
      | .notStarted reason => ⟨false, some reason, "", -1, [line]⟩
      | .exited n => ⟨true, none, o.stdout, n, [line]⟩
      | .signaled _ => ⟨true, none, o.stdout, -1, [line]⟩

/-- A run whose input cannot be read logs nothing. -/
theorem run_unreadable (s : Starter) (c : Command) (m : String) (h : c.stdin = some (.error m)) :
    (run s c).logged = [] ∧ (run s c).error = some m := by
  simp [run, h]

end RemoteLsp.Shell.Executor
