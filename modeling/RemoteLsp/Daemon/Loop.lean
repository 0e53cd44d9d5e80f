import RemoteLsp.Daemon.Lifecycle

/-!
# The event loop

All of the daemon's state is touched from one event loop. Callbacks from the world post tasks
to it; running an operation on the loop first runs what is queued, then the operation, then
what it queued, so that the world sees effects in the order a single thread would make them.
The loop survives a task that faults: the task's changes so far stay, and the loop goes on.
-/

namespace RemoteLsp.Daemon

/-- Runs one task of the loop. -/
def runTask : Task → M Unit
  | .ran next res =>
    match next with
    | .executable a => afterExecutable a res
    | .version a => afterVersion a res
    | .detect a installed => afterDetect a installed res
    | .install a => afterInstall a res
    | .root inst gen dir => rootFound inst gen dir res
  | .answered next value cancelled =>
    match next with
    | .host inst gen => afterHost inst gen value cancelled
    | .environment a res => afterEnvironment a res value cancelled
  | .confirmed a choice ok => afterConfirm a choice ok
  | .initialized inst n answer => initialized inst n answer
  | .exited inst n status => exited inst n status
  | .reconnect inst gen buffer => reconnectFired inst gen buffer

/-- Runs queued tasks, oldest first, including those they queue, for at most `fuel` tasks. A
task answers no one: an error it stops with is dropped, a fault ends it there, and the loop goes
on with the next. -/
def drain : Nat → M Unit
  | 0 => pure ()
  | fuel + 1 => do
    match (← get).world.queue with
    | [] => pure ()
    | t :: rest =>
      updateWorld fun w => { w with queue := rest }
      let _ ← Op.attempt (Op.recover (runTask t) ())
      drain fuel

/-- How many tasks one drain runs at most. -/
def loopFuel : Nat := 100000

/-- Runs an operation on the loop: the queue is drained before and after it, also when the
operation fails. An operation that faults is a task that faults: it ends where it stood, and
its caller goes on with `recovered`, what it held before the operation ran; errors reach the
caller. -/
def onLoop {α : Type} (op : M α) (recovered : α) : M α := do
  drain loopFuel
  let r ← Op.attempt (Op.recover op recovered)
  drain loopFuel
  match r with
  | .ok a => pure a
  | .error p => Op.fail p

end RemoteLsp.Daemon
