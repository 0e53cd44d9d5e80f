import RemoteLsp.Proofs.StayingDown

/-!
# The loop, one turn at a time

The daemon's loop does one thing at a time: it handles an input (a call of the session API, or
what the world does), or it runs the task at the head of its queue. Each of these is a *turn*,
and so is the start of a step, which clears what the last step recorded. A step of the daemon
is a run of turns: its start, the tasks queued before its input, the input's handling and the
tasks queued after it. What happens inside a step, such as a server attaching and then
crashing, is seen in its turns.

Every turn keeps the lifecycle invariant and keeps sessions apart; a turn that does not wake a
session at rest keeps it at rest and launches nothing for it.
-/

namespace RemoteLsp.Daemon

variable {d : State} {r : Rest} {k : Nat} {extra : List (Nat × Nat)} {held : List Attempt}

/-- One turn of the loop: the start of a step, the handling of an input, or a task. -/
inductive Turn where
  | begin
  | input (x : Input)
  | task (t : Task)

/-- What a turn does. A task runs when it is at the head of the queue, and is taken off it. -/
def Turn.op : Turn → M Unit
  | .begin => updateWorld fun w => { w with events := [], reply := none, returned := none }
  | .input x => x.handle
  | .task t => do
    match (← get).world.queue with
    | t' :: rest =>
      if t' = t then
        updateWorld fun w => { w with queue := rest }
        runTask t
    | [] => pure ()

/-- The state a run of turns reaches, one turn after another. -/
def turnsAfter (d : State) (ts : List Turn) : State := ts.foldl (fun d t => after t.op d) d

theorem turnsAfter_append (d : State) (ts us : List Turn) :
    turnsAfter d (ts ++ us) = turnsAfter (turnsAfter d ts) us :=
  List.foldl_append ..

theorem turnsAfter_cons (d : State) (t : Turn) (ts : List Turn) :
    turnsAfter d (t :: ts) = turnsAfter (after t.op d) ts := rfl

theorem turnsAfter_concat (d : State) (ts : List Turn) (t : Turn) :
    turnsAfter d (ts ++ [t]) = after t.op (turnsAfter d ts) :=
  turnsAfter_append d ts [t]

theorem after_begin (d : State) : after Turn.begin.op d = cleared d := rfl

/-- The task at the head of the queue, as a turn, runs it on the rest of the queue. -/
theorem after_task {t : Task} {rest : List Task} (hq : d.world.queue = t :: rest) :
    after (Turn.task t).op d = after (runTask t) { d with world := { d.world with queue := rest } } := by
  simp only [Turn.op, after_get_bind, hq, if_pos, after_updateWorld_bind]

/-! ## A step is a run of turns -/

/-- An operation ends where some run of turns ends. -/
def Traced {α : Type} (op : M α) (d : State) : Prop := ∃ ts, after op d = turnsAfter d ts

namespace Traced

variable {α β : Type}

theorem pure (a : α) (d : State) : Traced (Pure.pure a : M α) d := ⟨[], rfl⟩

theorem fail (p : Problem) (d : State) : Traced (Op.fail p : M α) d := ⟨[], rfl⟩

theorem bind {x : M α} {f : α → M β} (hx : Traced x d)
    (hf : ∀ a s, x.run d = .ok a s → Traced (f a) s) : Traced (x >>= f) d := by
  obtain ⟨ts, hts⟩ := hx
  cases hr : x.run d with
  | ok a s =>
    obtain ⟨us, hus⟩ := hf a s hr
    refine ⟨ts ++ us, ?_⟩
    rw [after_of_run_ok hr, hus, turnsAfter_append, ← hts, after_eq_of_run_ok hr]
  | error e s =>
    refine ⟨ts, ?_⟩
    rw [after_of_run_error hr, ← hts]
    simp [after, hr]

theorem attempt {op : M α} (h : Traced op d) : Traced (Op.attempt op) d := by
  rw [Traced, after_attempt]
  exact h

theorem recover {op : M α} (h : Traced op d) (x : α) : Traced (Op.recover op x) d := by
  rw [Traced, after_recover]
  exact h

end Traced

/-- Draining the queue runs the tasks at its head, one turn each. -/
theorem drain_traced (fuel : Nat) (d : State) : Traced (drain fuel) d := by
  induction fuel generalizing d with
  | zero => exact Traced.pure () d
  | succ fuel ih =>
    cases hq : d.world.queue with
    | nil => exact ⟨[], by simp [drain, hq, turnsAfter]⟩
    | cons t rest =>
      let d₀ : State := { d with world := { d.world with queue := rest } }
      have hd : after (drain (fuel + 1)) d =
          after (Op.attempt (Op.recover (runTask t) ()) >>= fun _ => drain fuel) d₀ := by
        simp only [drain, after_get_bind, hq, after_updateWorld_bind, d₀]
      -- the task returns whatever it meets, and the drain goes on from where it left
      obtain ⟨_, hr⟩ := run_attempt_recover (runTask t) () d₀
      obtain ⟨ts, hts⟩ := ih (after (runTask t) d₀)
      refine ⟨.task t :: ts, ?_⟩
      rw [hd, after_of_run_ok hr, hts, turnsAfter_cons, after_task hq]

theorem handle_traced (x : Input) (d : State) : Traced x.handle d := ⟨[.input x], rfl⟩

theorem op_traced (x : Input) (d : State) : Traced x.op d := by
  rw [x.op_eq]
  split
  · unfold RemoteLsp.Daemon.onLoop
    refine (drain_traced _ d).bind fun _ s _ =>
      ((handle_traced x s).recover ()).attempt.bind fun res s' _ =>
        (drain_traced _ s').bind fun _ s'' _ => ?_
    cases res
    · exact Traced.fail _ s''
    · exact Traced.pure _ s''
  · exact handle_traced x d

/-- A step of the daemon is a run of turns that starts the step. -/
theorem Input.run_turns (x : Input) (d : State) :
    ∃ ts, after x.run d = turnsAfter d (.begin :: ts) := by
  obtain ⟨ts, hts⟩ := (op_traced x (cleared d)).bind fun _ s _ =>
    (drain_traced _ s).bind fun _ s' _ => Traced.pure _ s'
  exact ⟨ts, by rw [after_run, hts]; rfl⟩

/-- A run of steps is a run of turns. -/
theorem runs_turns (d : State) (xs : List Input) : ∃ ts, runs d xs = turnsAfter d ts := by
  induction xs generalizing d with
  | nil => exact ⟨[], rfl⟩
  | cons x xs ih =>
    obtain ⟨ts, hts⟩ := x.run_turns d
    obtain ⟨us, hus⟩ := ih (after x.run d)
    exact ⟨(.begin :: ts) ++ us, by rw [runs_cons, hus, hts, turnsAfter_append]⟩

/-! ## Every turn keeps the invariant and sessions apart -/

/-- Running the task at the head of the queue consumes the work it put in hand. -/
theorem Inv.run_head {t : Task} {rest : List Task} (h : Inv extra held d)
    (hq : d.world.queue = t :: rest) :
    Inv extra held (after (runTask t) { d with world := { d.world with queue := rest } }) := by
  refine runTask_keeps (h.pop hq) fun n hn => ?_
  cases t <;> simp only [Task.exit?, reduceCtorEq, Option.some.injEq] at hn
  subst hn
  exact h.pop_exit hq

theorem turn_calm (t : Turn) : Calm t.op := by
  cases t with
  | begin => exact fun extra held d h => h.cleared
  | input x => exact handle_calm x
  | task t =>
    intro extra held d h
    cases hq : d.world.queue with
    | nil => simpa [Turn.op, hq] using h
    | cons t' rest =>
      by_cases ht : t' = t
      · subst ht
        rw [after_task hq]
        exact h.run_head hq
      · simpa [Turn.op, hq, ht] using h

/-- A task taken off the queue keeps every session that rested at rest, and launches nothing
for it. -/
theorem task_stays (t : Task) : Stays r k (Turn.task t).op := by
  intro extra held d h ha
  cases hq : d.world.queue with
  | nil => simpa [Turn.op, hq] using Lulled.refl (r := r) (k := k) ha
  | cons t' rest =>
    by_cases he : t' = t
    · subst he
      rw [after_task hq]
      exact Lulled.then_after (Lulled.frame ha rfl rfl rfl) fun ha₀ => runTask_lulled (h.pop hq) ha₀
    · simpa [Turn.op, hq, he] using Lulled.refl (r := r) (k := k) ha

theorem turn_apart (h : Inv [] [] d) (ha : Apart d) (t : Turn) : Apart (after t.op d) := by
  cases t with
  | begin => exact ha.congr rfl
  | input x =>
    obtain ⟨k, hk⟩ := x.exists_unwoken
    exact (handle_stays x hk [] [] d h ha).apart
  | task t => exact (task_stays (r := .closed) (k := 0) t [] [] d h ha).apart

theorem turnsAfter_inv (h : Inv extra held d) (ts : List Turn) : Inv extra held (turnsAfter d ts) := by
  induction ts generalizing d with
  | nil => exact h
  | cons t ts ih => exact ih (turn_calm t extra held d h)

theorem turnsAfter_apart (h : Inv [] [] d) (ha : Apart d) (ts : List Turn) :
    Apart (turnsAfter d ts) := by
  induction ts generalizing d with
  | nil => exact ha
  | cons t ts ih => exact ih (turn_calm t [] [] d h) (turn_apart h ha t)

end RemoteLsp.Daemon
