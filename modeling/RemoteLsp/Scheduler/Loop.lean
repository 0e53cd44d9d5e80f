/-!
# A single-threaded task loop

Tasks are queued and run one at a time, in the order they were queued, once the loop is
started. A task may fault, which is logged and does not stop the loop, or block until it is
released, which holds up every task behind it. Closing the loop refuses new tasks (posted ones
are dropped with a log line, awaited ones fail), but the tasks already queued still run; the
loop ends once it is closed and its queue is empty.

Waiting for a task ends when it has run, when the loop ends, or when the caller gives up: a
caller whose wait was cancelled beforehand gives up at once, and one with a deadline gives up
when the loop cannot get to the task. A task whose caller gave up still runs later.

This is the loop as seen from outside, with every task run as soon as the loop can run it.
-/

namespace RemoteLsp.Scheduler

/-- A task: the label it records when it runs (none for a task that only marks a point in
the queue), whether it then faults, and whether it then blocks until released. -/
structure Task where
  id : Nat
  label : Option String
  faults : Bool
  blocks : Bool
  deriving Repr, DecidableEq

/-- Why waiting for a task did not end with the task run. -/
inductive WaitError where
  /-- The loop was closed. -/
  | closed
  /-- The caller's wait had been cancelled. -/
  | cancelled
  /-- The caller's deadline passed. -/
  | deadline
  deriving Repr, DecidableEq

/-- The message of a wait error. -/
def WaitError.message : WaitError → String
  | .closed => "event loop closed"
  | .cancelled => "context canceled"
  | .deadline => "context deadline exceeded"

/-- How a caller waits: until done, with its wait already cancelled, or with a deadline. -/
inductive Wait where
  | untilDone
  | cancelled
  | deadline
  deriving Repr, DecidableEq

/-- The state of a loop. -/
structure Loop where
  queue : List Task := []
  started : Bool := false
  closed : Bool := false
  /-- The task that is running and blocked, if any. -/
  blocked : Option Task := none
  /-- Whether the loop has ended. -/
  ended : Bool := false
  /-- The ids of the tasks that have run to their end. -/
  finished : List Nat := []
  nextId : Nat := 0
  /-- The labels of the tasks run, in order. -/
  trace : List String := []
  /-- What the loop logged. -/
  logged : List String := []
  deriving Repr

namespace Loop

/-- The log line of a task that faulted. -/
def faultLine (t : Task) : String :=
  "eventloop: task panicked (task " ++ t.label.getD "" ++ ")"

/-- The log line of a task posted after the loop closed. -/
def droppedLine : String := "eventloop: dropping task posted after close"

/-- Runs a task: it records its label, then blocks or ends, faulting or not. -/
def runOne (l : Loop) (t : Task) : Loop :=
  let l := { l with trace := l.trace ++ t.label.toList }
  if t.blocks then { l with blocked := some t }
  else
    let l := if t.faults then { l with logged := l.logged ++ [faultLine t] } else l
    { l with finished := l.finished ++ [t.id] }

/-- Runs queued tasks while the loop is started and not blocked, at most `fuel` of them; the
loop ends when it is closed with nothing left to run. -/
def settleAux : Nat → Loop → Loop
  | 0, l => l
  | fuel + 1, l =>
    if !l.started || l.blocked.isSome || l.ended then l
    else
      match l.queue with
      | [] => if l.closed then { l with ended := true } else l
      | t :: rest => settleAux fuel (runOne { l with queue := rest } t)

/-- Runs every task the loop can run now. -/
def settle (l : Loop) : Loop := settleAux (l.queue.length + 1) l

/-- Queues a new task. -/
def enqueue (l : Loop) (label : Option String) (faults blocks : Bool) : Task × Loop :=
  let t : Task := ⟨l.nextId, label, faults, blocks⟩
  (t, { l with queue := l.queue ++ [t], nextId := l.nextId + 1 })

/-- Posts a task without waiting for it; after closing it is dropped with a log line. -/
def post (l : Loop) (label : String) (faults blocks : Bool) : Loop :=
  if l.closed then { l with logged := l.logged ++ [droppedLine] }
  else (l.enqueue (some label) faults blocks).2.settle

/-- Queues a task and waits for it. -/
def run (l : Loop) (label : Option String) (faults : Bool) (w : Wait) :
    Option WaitError × Loop :=
  if l.closed then (some .closed, l)
  else
    let (t, l) := l.enqueue label faults false
    let l := l.settle
    match w with
    | .cancelled => (some .cancelled, l)
    | _ =>
      if l.finished.contains t.id then (none, l)
      else if l.ended then (some .closed, l)
      else if w = .deadline then (some .deadline, l)
      else (none, l)

/-- Starts the loop; starting again does nothing. -/
def start (l : Loop) : Loop := { l with started := true }.settle

/-- Closes the loop and waits for it to end. A loop never started ends at once. -/
def stop (l : Loop) (w : Wait) : Option WaitError × Loop :=
  let l := { l with closed := true }.settle
  if !l.started then (none, l)
  else if l.ended then (none, l)
  else if w = .cancelled then (some .cancelled, l)
  else (none, l)

/-- Releases the blocked task, which ends, and lets the loop go on. -/
def release (l : Loop) : Loop :=
  match l.blocked with
  | none => l
  | some t =>
    let l := { l with blocked := none, finished := l.finished ++ [t.id] }
    let l := if t.faults then { l with logged := l.logged ++ [faultLine t] } else l
    l.settle

/-- Waits until every task queued so far has run. -/
def drain (l : Loop) : Option WaitError × Loop := l.run none false .untilDone

/-- Runs a task at once on the caller's side, whatever the caller's wait, as a scheduler
without a loop does. -/
def runNow (l : Loop) (label : String) (faults : Bool) : Loop :=
  let (t, l) := l.enqueue (some label) faults false
  runOne { l with queue := l.queue.erase t } t

/-- A loop that was never started runs nothing. -/
theorem settle_not_started (l : Loop) (h : l.started = false) : l.settle = l := by
  unfold settle
  cases hq : l.queue.length + 1 with
  | zero => simp [settleAux]
  | succ n => simp [settleAux, h]

/-- Posting to a closed loop only logs that the task was dropped. -/
theorem post_closed (l : Loop) (label : String) (faults blocks : Bool) (h : l.closed = true) :
    l.post label faults blocks = { l with logged := l.logged ++ [droppedLine] } := by
  simp [post, h]

end Loop

end RemoteLsp.Scheduler
