import RemoteLsp.Double.LanguageServer
import RemoteLsp.Files.LogFile
import RemoteLsp.Server.Exit

/-!
# Launching servers on remote hosts

A server is launched by running its script on a host through the remote shell, and is then
spoken to over the shell's standard streams. What a server writes to standard error goes to
a log of remote output, one stream per server, named by the server; the log is set up when the
first server is launched, and output is dropped when it cannot be.

Behind the shell runs a scripted server, or nothing when the host cannot be reached, in which
case the shell reports so on standard error and exits with code 255. A process starts to run
when it is first spoken to or waited for; one killed before that never wrote anything. Once a
process has exited, writing to it fails, and a request it left unanswered fails as well.
-/

namespace RemoteLsp.Server

/-- The remote world: how scripted servers behave, and the hosts that cannot be reached. -/
structure Remote where
  script : Double.ServerScript := {}
  unreachable : List String := []
  deriving Repr

/-- A launched process: where it runs, its name, the lines of its script, whether it has
started to run, the scripted server behind it once it runs, and how it ended. -/
structure Process where
  host : String
  name : String
  scriptLines : Nat
  running : Bool := false
  server : Option Double.ScriptedServer := none
  exit : Option ExitStatus := none
  deriving Repr

/-- The launcher: the remote world, the shell binary, the log of remote output, whether the
log was set up, the processes launched and how many scripted servers have started. -/
structure Launcher where
  remote : Remote
  binary : String := "ssh"
  log : Files.LogSession
  tmp : String
  outputTried : Bool := false
  processes : List Process := []
  started : Nat := 0
  deriving Repr

/-- The error of writing to a process that has exited. -/
def closedError : String := "write to stream: write data to conn: write |1: file already closed"

/-- The error of a request left unanswered by a process that exited. -/
def exitedError (method : String) : String := method ++ ": remote language server exited"

/-- What the shell writes when a host cannot be reached. -/
def refusedText (host : String) : String :=
  "ssh: connect to host " ++ host ++ " port 22: Connection refused\n"

/-- The name of the output log of servers. -/
def outputName : String := "remote-server"

/-- The number of lines of a script. -/
def scriptLines (script : String) : Nat := (script.splitOn "\n").length

/-- The list with the element at `i` changed. -/
def updateAt {α : Type} (xs : List α) (i : Nat) (f : α → α) : List α :=
  xs.mapIdx fun j x => if j = i then f x else x

namespace Launcher

/-- Sets up the log of remote output once; output is dropped when it cannot be set up. -/
def ensureOutput (l : Launcher) : Launcher :=
  if l.outputTried then l
  else
    let l := { l with outputTried := true }
    match Files.LogWriter.setup l.log.tree l.log.info l.tmp outputName with
    | (.ok w, t, info) => { l with log := { l.log with tree := t, info := info, writer := some w } }
    | (.error _, t, info) => { l with log := { l.log with tree := t, info := info } }

/-- Writes a process's standard error to its stream of the log. -/
def writeErr (l : Launcher) (i : Nat) (text : String) : Launcher :=
  match l.log.writer, l.processes[i]? with
  | some w, some p =>
    let (w, t, _) := w.stream l.log.tree p.name text
    { l with log := { l.log with tree := t, writer := some w } }
  | _, _ => l

/-- Ends a process: its stream is closed, and what it left unwritten becomes a last line. -/
def finish (l : Launcher) (i : Nat) (status : ExitStatus) : Launcher :=
  let l := { l with processes := updateAt l.processes i fun p => { p with exit := some status } }
  match l.log.writer, l.processes[i]? with
  | some w, some p =>
    if w.hasStream p.name then
      let (w, t) := w.closeStream l.log.tree p.name
      { l with log := { l.log with tree := t, writer := some w } }
    else l
  | _, _ => l

/-- Whether the shell binary can be started. -/
def binaryFound (binary : String) : Bool := binary = "ssh"

/-- Launches a script on a host under a name. Returns the process. -/
def launch (l : Launcher) (host name script : String) : Except String Nat × Launcher :=
  let l := l.ensureOutput
  if !binaryFound l.binary then
    (.error ("starting remote server on " ++ host ++ ": fork/exec " ++ l.binary ++
      ": no such file or directory"), l)
  else
    (.ok l.processes.length,
      { l with processes := l.processes ++ [⟨host, name, scriptLines script, false, none, none⟩] })

/-- Lets a process start to run, if it has not: a scripted server is numbered and announces
itself; an unreachable host is reported and the shell exits. -/
def run (l : Launcher) (i : Nat) : Launcher :=
  match l.processes[i]? with
  | none => l
  | some p =>
    if p.running || p.exit.isSome then l
    else
      let l := { l with processes := updateAt l.processes i fun p => { p with running := true } }
      if l.remote.unreachable.contains p.host then
        (l.writeErr i (refusedText p.host)).finish i ⟨255, ""⟩
      else
        let srv : Double.ScriptedServer := ⟨l.started + 1, p.scriptLines, "", ""⟩
        let l := { l with
          started := l.started + 1
          processes := updateAt l.processes i fun p => { p with server := some srv } }
        l.writeErr i (srv.startText l.remote.script)

/-- Carries out what a server did: standard error and exits here, the rest is returned for
the client, in order. -/
def perform (l : Launcher) (i : Nat) (acts : List Double.ServerAct) :
    List Double.ServerAct × Launcher :=
  acts.foldl (fun (out, l) a =>
    match a with
    | .write text => (out, l.writeErr i text)
    | .exit code => (out, l.finish i ⟨code, ""⟩)
    | other => (out ++ [other], l)) ([], l)

/-- Delivers a message to a process. Returns what the server does for the client, or none
when the process has exited. -/
def deliver (l : Launcher) (i : Nat) (method params : String) :
    Option (List Double.ServerAct) × Launcher :=
  match l.processes[i]? with
  | none => (none, l)
  | some p =>
    if p.exit.isSome then (none, l)
    else
      let l := l.run i
      match l.processes[i]? with
      | some { server := some srv, exit := none, .. } =>
        let (srv, acts) := srv.handle l.remote.script method params
        let l := { l with processes := updateAt l.processes i fun p => { p with server := some srv } }
        let (out, l) := l.perform i acts
        (some out, l)
      | _ => (some [], l)

/-- Kills a process that has not exited. -/
def kill (l : Launcher) (i : Nat) : Launcher :=
  match l.processes[i]? with
  | some p => if p.exit.isSome then l else l.finish i ⟨-1, "killed"⟩
  | none => l

/-- How a process ended, once it has. -/
def exitOf (l : Launcher) (i : Nat) : Option ExitStatus :=
  (l.processes[i]?).bind (·.exit)

end Launcher

theorem Launcher.kill_exited (l : Launcher) (i : Nat) (p : Process) (h : l.processes[i]? = some p)
    (hx : p.exit.isSome = true) : l.kill i = l := by
  simp [Launcher.kill, h, hx]

end RemoteLsp.Server
