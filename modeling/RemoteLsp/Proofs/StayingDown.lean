import RemoteLsp.Proofs.RestingLifecycle

/-!
# Stopped and closed sessions stay down

A step of the daemon runs one input and then drains the loop. Every step keeps the sessions
apart and every closed instance as it was. A step whose input does not wake session `k` keeps it
at the rest it had and launches no server for it. Only three inputs wake a session: opening it
again, a restart by the user of a session that is not closed, and changed settings of one that
gave up.

So once a session is stopped, no server is launched for it until it is restarted, whatever
documents are opened, settings changed, answers given, probes finished or timers fired; once it
is closed, none is launched for it until it is opened again, and the instances it had keep their
state for good.
-/

namespace RemoteLsp.Daemon

variable {r : Rest} {k : Nat} {d : State}

/-! ## What the world does -/

section World

theorem lulls_completeRun (id? : Option Nat) (res : Shell.RunResult) :
    Lulls r k (completeRun id? res) := by
  unfold completeRun
  refine lulls_get.bind fun _ => ?_
  -- whichever run the entry names, its continuation is queued
  split <;> dsimp only <;> split
  all_goals first
    | exact Lulls.pure _
    | exact (lulls_updateWorld _ (fun _ => by rfl) fun _ => by rfl).bind fun _ =>
        (lulls_post _).bind fun _ => Lulls.pure _

theorem lulls_answerInput (id? : Option Nat) (value : String) (cancelled : Bool) :
    Lulls r k (answerInput id? value cancelled) := by
  unfold answerInput
  refine lulls_get.bind fun _ => ?_
  split
  · exact (lulls_updateWorld _ (fun _ => by rfl) fun _ => by rfl).bind fun _ =>
      (lulls_post _).bind fun _ => Lulls.pure _
  · exact Lulls.pure _

theorem lulls_answerConfirm (id? : Option Nat) (choice : String) (ok : Bool) :
    Lulls r k (answerConfirm id? choice ok) := by
  unfold answerConfirm
  refine lulls_get.bind fun _ => ?_
  split
  · exact (lulls_updateWorld _ (fun _ => by rfl) fun _ => by rfl).bind fun _ =>
      (lulls_post _).bind fun _ => Lulls.pure _
  · exact Lulls.pure _

theorem lulls_serverExit (n? : Option Nat) (status : ExitStatus) :
    Lulls r k (serverExit n? status) := by
  unfold serverExit
  refine lulls_get.bind fun _ => ?_
  split
  · exact Lulls.pure _
  · refine (lulls_getServer _).bind fun o => ?_
    rcases o with _ | srv
    · exact Lulls.pure _
    dsimp only
    split
    · exact Lulls.pure _
    · exact (lulls_setServer _ _).bind fun _ => (lulls_post _).bind fun _ => Lulls.pure _

theorem lulls_serverSends (n? : Option Nat) (method params : String) (isCall : Bool) :
    Lulls r k (serverSends n? method params isCall) := by
  unfold serverSends serverMessage
  refine lulls_get.bind fun _ => ?_
  split
  · exact Lulls.pure _
  · refine Lulls.bind ((lulls_relayFromServer _ _ _ _).bind fun o => ?_) fun _ => Lulls.pure _
    rcases o with _ | reply
    · exact Lulls.pure _
    · exact lulls_replyWith reply

theorem lulls_releaseServer (n? : Option Nat) : Lulls r k (releaseServer n?) := by
  unfold releaseServer
  refine lulls_get.bind fun _ => ?_
  split
  · exact Lulls.pure _
  · exact (lulls_release _).bind fun _ => Lulls.pure _

theorem lulls_fire (a : TimerAction) : Lulls r k (fire a) := by
  cases a with
  | reconnect i g buffer => exact lulls_post _
  | idle => exact lulls_emit _ rfl

/-- Moving the clock settles the due timers and fires them, which only queues reconnects. -/
theorem lulls_advance (ms : Nat) : Lulls r k (advance ms) := by
  unfold advance
  exact (lulls_updateWorld _ (fun _ => by rfl) fun _ => by rfl).bind fun _ => lulls_get.bind fun _ =>
    (lulls_updateWorld _ (fun _ => by rfl) fun _ => by rfl).bind fun _ =>
      (Lulls.forM fun (t : Timer) => lulls_fire t.action).bind fun _ => lulls_get.bind fun _ =>
        Lulls.pure _

end World

/-! ## The loop -/

/-- A task taken off the queue, run on the work it put in hand. -/
theorem runTask_lulled {extra : List (Nat × Nat)} {held : List Attempt} {t : Task}
    (h : Inv (t.enable?.toList ++ extra) (t.check?.toList ++ held) d) (ha : Apart d) :
    Lulled r k d (after (runTask t) d) := by
  cases t with
  | ran next res =>
    cases next with
    | executable a => exact afterExecutable_lulled h ha res
    | version a => exact afterVersion_lulled h ha res
    | detect a installed => exact afterDetect_lulled h ha installed res
    | install a => exact afterInstall_lulled h ha res
    | root i g dir => exact rootFound_lulled h ha dir res
  | answered next value cancelled =>
    cases next with
    | host i g => exact afterHost_lulled h ha value cancelled
    | environment a res => exact afterEnvironment_lulled h ha res value cancelled
  | confirmed a choice ok => exact afterConfirm_lulled h ha choice ok
  | initialized i n answer => exact initialized_lulled h ha n answer
  | exited i n status => exact exited_lulled h ha i n status
  | reconnect i g buffer => exact reconnectFired_lulled h ha i g buffer

/-- Draining the queue: each task taken off is run on the work it put in hand. -/
theorem drain_stays (fuel : Nat) : Stays r k (drain fuel) := by
  induction fuel with
  | zero => exact (Lulls.pure _).stays
  | succ fuel ih =>
    intro extra held d h ha
    simp only [drain, after_get_bind]
    cases hq : d.world.queue with
    | nil => exact Lulled.refl ha
    | cons t rest =>
      simp only [after_updateWorld_bind]
      have hx : ∀ n, t.exit? = some n →
          Handled { d with world := { d.world with queue := rest } } n := by
        intro n hn
        cases t <;> simp only [Task.exit?, reduceCtorEq, Option.some.injEq] at hn
        subst hn
        exact h.pop_exit hq
      refine Lulled.then_after (Lulled.frame ha rfl rfl rfl) fun ha₀ =>
        Lulled.bind (P := Inv extra held)
          (by rw [after_attempt, after_recover]; exact runTask_keeps (h.pop hq) hx)
          (by rw [after_attempt, after_recover]; exact runTask_lulled (h.pop hq) ha₀)
          fun _ _ hs has => ih extra held _ hs has

theorem Stays.attempt {α : Type} {op : M α} (h : Stays r k op) : Stays r k (Op.attempt op) :=
  fun extra held d hd ha => by
    rw [after_attempt]
    exact h extra held d hd ha

theorem Stays.recover {α : Type} {op : M α} (h : Stays r k op) (x : α) :
    Stays r k (Op.recover op x) :=
  fun extra held d hd ha => by
    rw [after_recover]
    exact h extra held d hd ha

/-- Running an operation on the loop: what is queued runs before it and after it. -/
theorem Stays.onLoop {α : Type} {op : M α} (h : Stays r k op) (hc : Calm op) (x : α) :
    Stays r k (onLoop op x) := by
  unfold RemoteLsp.Daemon.onLoop
  refine (drain_stays _).bind (calm_drain _) fun _ =>
    (h.recover x).attempt.bind (hc.recover x).attempt fun res =>
      (drain_stays _).bind (calm_drain _) fun _ => ?_
  cases res
  · exact (lulls_fail _).stays
  · exact (Lulls.pure _).stays

/-! ## Inputs that wake a session -/

/-- The inputs that may wake session `k` at rest `r`: opening it again, a restart by the user
unless it is closed, and changed settings once it has given up. -/
def Input.Wakes (r : Rest) (k : Nat) : Input → Prop
  | .sessionOpen sid _ _ _ => sid = k
  | .userRestart sid => r ≠ .closed ∧ sid = k
  | .settingsChange sid => r = .givenUp ∧ sid = k
  | _ => False

instance Input.decWakes (r : Rest) (k : Nat) : (x : Input) → Decidable (x.Wakes r k)
  | .sessionOpen sid _ _ _ => inferInstanceAs (Decidable (sid = k))
  | .userRestart sid => inferInstanceAs (Decidable (r ≠ .closed ∧ sid = k))
  | .settingsChange sid => inferInstanceAs (Decidable (r = .givenUp ∧ sid = k))
  | .sessionClose _ | .docOpen _ _ | .docChange _ _ _ _ | .docClose _ _ | .call _ _ _
  | .notification _ _ _ | .userStop _ | .configChange _ _ | .runResult _ _ | .inputAnswer _ _ _
  | .confirmAnswer _ _ _ | .exit _ _ | .serverSays _ _ _ _ | .unhold _ | .tick _ | .runScript _
  | .inputScript _ | .confirmScript _ | .serverAnswer _ _ | .notifyFailure _ | .editorAnswer _
  | .launchFailure _ | .holdNext | .knownEnvironment _ _ => isFalse id

/-- Every input leaves some session unwoken: a session other than the one it opens. -/
theorem Input.exists_unwoken (x : Input) : ∃ k, ¬ x.Wakes .closed k := by
  cases x with
  | sessionOpen sid _ _ _ => exact ⟨sid + 1, by simp [Input.Wakes]⟩
  | _ => exact ⟨0, by simp [Input.Wakes]⟩

/-! ## Handling an input -/

/-- What an input asks of the daemon, without the loop around it: a call of the session API on
its own, or what the world does. -/
def Input.handle : Input → M Unit
  | .sessionOpen sid cfg rootUri capabilities => openSession sid cfg rootUri capabilities
  | .sessionClose sid => closeSession sid
  | .docOpen sid doc => didOpen sid doc
  | .docChange sid uri version text => didChange sid uri version text
  | .docClose sid uri => didClose sid uri
  | .call sid method params => request sid method params
  | .notification sid method params => notify sid method params
  | .userRestart sid => restartSession sid
  | .userStop sid => stopSession sid
  | .configChange sid change => do withConfig (← lookup sid) change ()
  | .settingsChange sid => settingsChanged sid
  | x => x.op

/-- Whether an input is a call of the session API, which runs on the loop. -/
def Input.api : Input → Bool
  | .sessionOpen .. | .sessionClose _ | .docOpen _ _ | .docChange .. | .docClose _ _ | .call ..
  | .notification .. | .userRestart _ | .userStop _ | .configChange _ _ | .settingsChange _ => true
  | _ => false

theorem Input.op_eq (x : Input) : x.op = if x.api then onLoop x.handle () else x.handle := by
  cases x <;> rfl

theorem handle_calm (x : Input) : Calm x.handle := by
  cases x with
  | sessionOpen sid cfg rootUri capabilities => exact calm_openSession _ _ _ _
  | sessionClose sid => exact calm_closeSession _
  | docOpen sid doc => exact calm_didOpen _ _
  | docChange sid uri version text => exact calm_didChange _ _ _ _
  | docClose sid uri => exact calm_didClose _ _
  | call sid method params => exact calm_request _ _ _
  | notification sid method params => exact calm_notify _ _ _
  | userRestart sid => exact calm_restartSession _
  | userStop sid => exact calm_stopSession _
  | configChange sid change => exact (calm_lookup sid).bind fun _ => calm_withConfig _ _ _
  | settingsChange sid => exact calm_settingsChanged _
  -- the world's inputs are handled by their own operations
  | _ =>
    unfold Input.handle
    exact calm_op _

/-- Handling an input that does not wake session `k` lulls it. -/
theorem handle_stays (x : Input) (hx : ¬ x.Wakes r k) : Stays r k x.handle := by
  cases x with
  | sessionOpen sid cfg rootUri capabilities =>
    exact fun _ _ _ h ha => openSession_lulled ha h.live sid cfg rootUri capabilities hx
  | sessionClose sid => exact fun _ _ _ h ha => (closeSession_lulled h ha sid).1
  | docOpen sid doc => exact fun _ _ _ h ha => didOpen_lulled h ha sid doc
  | docChange sid uri version text => exact (lulls_didChange _ _ _ _).stays
  | docClose sid uri => exact (lulls_didClose _ _).stays
  | call sid method params => exact (lulls_request _ _ _).stays
  | notification sid method params => exact (lulls_notify _ _ _).stays
  | userRestart sid =>
    exact fun _ _ _ h ha => restartSession_lulled h ha sid fun hr hk => hx ⟨hr, hk⟩
  | userStop sid => exact fun _ _ _ h ha => (stopSession_lulled h ha sid).1
  | configChange sid change =>
    exact ((lulls_lookup sid).bind fun _ => lulls_withConfig _ _ _).stays
  | settingsChange sid =>
    exact fun _ _ _ h ha => settingsChanged_lulled h ha sid fun hr hk => hx ⟨hr, hk⟩
  | runResult id? res => exact ((lulls_completeRun _ _).bind fun _ => Lulls.pure _).stays
  | inputAnswer id? value cancelled =>
    exact ((lulls_answerInput _ _ _).bind fun _ => Lulls.pure _).stays
  | confirmAnswer id? choice ok => exact ((lulls_answerConfirm _ _ _).bind fun _ => Lulls.pure _).stays
  | exit n? status => exact ((lulls_serverExit _ _).bind fun _ => Lulls.pure _).stays
  | serverSays n? method params isCall =>
    exact ((lulls_serverSends _ _ _ _).bind fun _ => Lulls.pure _).stays
  | unhold n? => exact ((lulls_releaseServer _).bind fun _ => Lulls.pure _).stays
  | tick ms => exact ((lulls_advance _).bind fun _ => Lulls.pure _).stays
  | knownEnvironment host env => exact (lulls_remember _ _).stays
  -- the world's settings and scripts touch no instance and record no event
  | _ =>
    simp only [Input.handle, Input.op, scriptRuns, scriptInputs, scriptConfirms, setServerAnswer,
      setNotifyError, setEditorAnswer, setLaunchFailure, holdNextServer]
    exact (lulls_updateWorld _ (fun _ => by rfl) fun _ => by rfl).stays

/-- An input that does not wake session `k` lulls it. -/
theorem op_stays (x : Input) (hx : ¬ x.Wakes r k) : Stays r k x.op := by
  rw [x.op_eq]
  split
  · exact (handle_stays x hx).onLoop (handle_calm x) ()
  · exact handle_stays x hx

/-! ## Steps and runs -/

/-- The state a step starts from: the last step's events, reply and error are cleared. -/
def cleared (d : State) : State :=
  { d with world := { d.world with events := [], reply := none, returned := none } }

theorem after_step {α : Type} (op : M α) (d : State) :
    after (step op) d = after (op >>= fun a => drain loopFuel >>= fun _ => pure a) (cleared d) :=
  after_updateWorld_bind _ _ d

theorem after_run (x : Input) (d : State) :
    after x.run d = after (x.op >>= fun a => drain loopFuel >>= fun _ => pure a) (cleared d) :=
  after_step x.op d

theorem Inv.cleared (h : Inv extra held d) : Inv extra held (cleared d) :=
  calm_updateWorld (fun w => { w with events := [], reply := none, returned := none })
    (fun _ => rfl) (fun _ => rfl) (fun _ => rfl) (fun _ => rfl) extra held d h

/-- A step on an input that does not wake session `k` lulls it from the step's start: the events
of the step launch nothing for it. -/
theorem Input.run_lulled {x : Input} (h : Inv [] [] d) (ha : Apart d) (hx : ¬ x.Wakes r k) :
    Lulled r k (cleared d) (after x.run d) := by
  rw [after_run]
  exact ((op_stays x hx).bind (calm_op x) fun _ =>
    (drain_stays _).bind (calm_drain _) fun _ => (Lulls.pure _).stays) [] [] _ h.cleared
    (ha.congr rfl)

theorem lulls_refreshIdleTimer : Lulls r k refreshIdleTimer := by
  unfold refreshIdleTimer
  have hidle : ∀ t, Lulls r k (modify fun d : State => { d with idleTimer := t } : M Unit) :=
    fun _ => Lulls.of_run fun _ _ => ⟨(), _, rfl, Aside.of_eq rfl rfl rfl⟩
  refine lulls_get.bind fun _ => ?_
  split
  · exact Lulls.pure _
  · split
    · exact (lulls_afterMs _ _).bind fun _ => hidle _
    · refine (lulls_stopTimer _).bind fun _ => ?_
      split
      · exact (lulls_afterMs _ _).bind fun _ => hidle _
      · exact Lulls.pure _

/-- A created daemon has no instance, so its sessions are apart. -/
theorem create_apart {setup : Setup} {docs : Identity.Documents} {naming : SessionNaming}
    {w : World} {d : State} (hl : w.live = none) (hc : create setup docs naming w = .ok d) :
    Apart d := by
  unfold create at hc
  cases hdef : setup.defaults.check with
  | error e => simp [hdef, bind, Except.bind] at hc
  | ok defaults =>
    simp only [hdef, bind, Except.bind] at hc
    generalize hd₀ : (⟨_, Identity.Store.load docs, [], [], [], [], _, none, 0, w⟩ : State) = d₀ at hc
    have h₀ : Apart d₀ := by
      subst hd₀
      exact ⟨fun _ _ _ _ hs => by simp at hs, fun _ _ hs => by simp at hs⟩
    -- the idle timer's start touches no instance
    have hafter := (lulls_refreshIdleTimer (r := .closed) (k := 0)) d₀ (by subst hd₀; exact hl) h₀
    unfold after at hafter
    generalize EStateM.run refreshIdleTimer d₀ = res at hc hafter
    cases res <;> simp only [pure, Except.pure, Except.ok.injEq] at hc <;> subst hc <;>
      exact hafter.apart

/-- In every reachable state the sessions are apart. -/
theorem Reaches.apart (h : Reaches d) : Apart d := by
  induction h with
  | init hl _ _ _ hc => exact create_apart hl hc
  | @step d x hd ih =>
    obtain ⟨k, hk⟩ := x.exists_unwoken
    exact (Input.run_lulled hd.inv ih hk).apart

/-- The state a run of inputs reaches, one step after another. -/
def runs (d : State) (xs : List Input) : State := xs.foldl (fun d x => after x.run d) d

theorem runs_cons (d : State) (x : Input) (xs : List Input) :
    runs d (x :: xs) = runs (after x.run d) xs := rfl

theorem Reaches.after_runs (h : Reaches d) (xs : List Input) : Reaches (runs d xs) := by
  induction xs generalizing d with
  | nil => exact h
  | cons x xs ih => exact ih (h.step x)

/-- A step keeps every closed instance as it was, whatever its input. -/
theorem Reaches.keepsClosed_step (h : Reaches d) (x : Input) : KeepsClosed d (after x.run d) := by
  obtain ⟨k, hk⟩ := x.exists_unwoken
  exact (KeepsClosed.of_eq rfl).trans (Input.run_lulled h.inv h.apart hk).kept

/-- A closed instance keeps its state through every run. -/
theorem Reaches.keepsClosed_runs (h : Reaches d) (xs : List Input) : KeepsClosed d (runs d xs) := by
  induction xs generalizing d with
  | nil => exact .refl d
  | cons x xs ih => exact (h.keepsClosed_step x).trans (ih (h.step x))

/-- A step that does not wake session `k` keeps it at rest, and launches nothing for it. -/
theorem Reaches.rests_step (h : Reaches d) (hr : Rests r k d) {x : Input} (hx : ¬ x.Wakes r k) :
    Rests r k (after x.run d) ∧ Unlaunched k (after x.run d).world.events := by
  obtain ⟨hr', new, he, hu⟩ := (Input.run_lulled h.inv h.apart hx).quiet (hr.congr rfl)
  refine ⟨hr', ?_⟩
  rw [he]
  simpa [cleared] using hu

/-- Over a run of inputs that do not wake session `k`, it stays at rest. -/
theorem Reaches.rests_runs (h : Reaches d) (hr : Rests r k d) (xs : List Input)
    (hx : ∀ x ∈ xs, ¬ x.Wakes r k) : Rests r k (runs d xs) := by
  induction xs generalizing d with
  | nil => exact hr
  | cons x xs ih =>
    exact ih (h.step x) (h.rests_step hr (hx x (List.mem_cons_self ..))).1
      fun y hy => hx y (List.mem_cons_of_mem x hy)

/-! ## Stop and Close -/

theorem Stays.rests {op : M α} (h : Stays r k op) (hd : Inv extra held d) (ha : Apart d)
    (hr : Rests r k d) : Rests r k (after op d) :=
  ((h extra held d hd ha).quiet hr).1

/-- A step on an input run on the loop leaves session `k` at rest when its operation does: the
tasks queued before it run to the end whatever they meet, and once the operation has run, the
drains after it keep the session at rest. -/
theorem Reaches.rests_onLoop {op : M α} {x : α} (h : Reaches d) (hc : Calm op)
    (hop : ∀ D, Inv [] [] D → Apart D → Apart (after op D) ∧ Rests r k (after op D)) :
    Rests r k (after (Daemon.step (onLoop op x)) d) := by
  obtain ⟨D, hD⟩ := run_drain loopFuel (cleared d)
  have hinv₀ : Inv [] [] (cleared d) := h.inv.cleared
  have hinv : Inv [] [] D := after_eq_of_run_ok hD ▸ calm_drain _ [] [] _ hinv₀
  have hap : Apart D :=
    after_eq_of_run_ok hD ▸ (drain_stays (r := r) (k := k) _ [] [] _ hinv₀ (h.apart.congr rfl)).apart
  rw [after_step]
  unfold onLoop
  simp only [bind_assoc]
  rw [after_of_run_ok hD]
  -- from the operation on, the rest of the step is drains, which keep the session at rest
  refine after_bind_of (Q := fun D' => Inv [] [] D' ∧ Apart D' ∧ Rests r k D') ?_
    (fun res D' hQ => ?_) fun _ hQ => hQ.2.2
  · rw [after_attempt, after_recover]
    exact ⟨hc [] [] D hinv, hop D hinv hap⟩
  · refine Stays.rests ?_ hQ.1 hQ.2.1 hQ.2.2
    refine (drain_stays _).bind (calm_drain _) fun _ => ?_
    refine Stays.bind ?_ ?_ fun _ => (drain_stays _).bind (calm_drain _) fun _ => (Lulls.pure _).stays
    · split
      · exact (Lulls.pure _).stays
      · exact (lulls_fail _).stays
    · split
      · exact Calm.pure _
      · exact calm_fail _

/-- Stop and Close are sticky. Take the step that stops session `k`, or the one that closes it,
from any reachable state: the tasks queued before it run first, whatever they meet, and then the
stop or the close. After a stop, no step launches a server for the session (nor tries to) until it is
restarted or opened again; after a close, none does until it is opened again, and every instance
the close left behind keeps its state, whatever the later steps. -/
theorem stop_and_close_keep_sessions_down (hd : Reaches d) (k : Nat) :
    (∀ (xs : List Input) (x : Input), (∀ y ∈ x :: xs, ¬ y.Wakes .stopped k) →
      Unlaunched k (after x.run (runs (after (Input.userStop k).run d) xs)).world.events) ∧
    (∀ (xs : List Input) (x : Input), (∀ y ∈ x :: xs, ¬ y.Wakes .closed k) →
      Unlaunched k (after x.run (runs (after (Input.sessionClose k).run d) xs)).world.events) ∧
    (∀ (xs : List Input) (i : Nat) (s : Instance),
      (after (Input.sessionClose k).run d).instances[i]? = some s → s.sid = k →
      ∃ s', (runs (after (Input.sessionClose k).run d) xs).instances[i]? = some s' ∧
        s'.life = s.life) := by
  have hstop : Rests .stopped k (after (Input.userStop k).run d) :=
    hd.rests_onLoop (calm_stopSession k) fun D hD ha =>
      ⟨(stopSession_lulled (r := .stopped) (k := k) hD ha k).1.apart,
        (stopSession_lulled (r := .stopped) (k := k) hD ha k).2⟩
  have hclose : Rests .closed k (after (Input.sessionClose k).run d) :=
    hd.rests_onLoop (calm_closeSession k) fun D hD ha =>
      ⟨(closeSession_lulled (r := .closed) (k := k) hD ha k).1.apart,
        (closeSession_lulled (r := .closed) (k := k) hD ha k).2⟩
  -- from either rest, the run up to the last step keeps it, and the last step launches nothing
  have hlast : ∀ {r : Rest} {x₀ : Input}, Rests r k (after x₀.run d) →
      ∀ (xs : List Input) (x : Input), (∀ y ∈ x :: xs, ¬ y.Wakes r k) →
        Unlaunched k (after x.run (runs (after x₀.run d) xs)).world.events := by
    intro r x₀ hr xs x hx
    have hrun := (hd.step x₀).rests_runs hr xs fun y hy => hx y (List.mem_cons_of_mem x hy)
    exact (((hd.step x₀).after_runs xs).rests_step hrun (hx x List.mem_cons_self)).2
  refine ⟨hlast hstop, hlast hclose, fun xs i s hs hk => ?_⟩
  exact ((hd.step _).keepsClosed_runs xs) i s hs (hclose i s hs hk)

/-- On a new daemon with one session open, nothing is queued, so stopping or closing the session
keeps it down. -/
theorem stop_and_close_keep_sessions_down_opened :
    ∃ d, Reaches d ∧
      (∀ (xs : List Input) (x : Input), (∀ y ∈ x :: xs, ¬ y.Wakes .stopped 0) →
        Unlaunched 0 (after x.run (runs (after (Input.userStop 0).run d) xs)).world.events) ∧
      (∀ (xs : List Input) (x : Input), (∀ y ∈ x :: xs, ¬ y.Wakes .closed 0) →
        Unlaunched 0 (after x.run (runs (after (Input.sessionClose 0).run d) xs)).world.events) ∧
      (∀ (xs : List Input) (i : Nat) (s : Instance),
        (after (Input.sessionClose 0).run d).instances[i]? = some s → s.sid = 0 →
        ∃ s', (runs (after (Input.sessionClose 0).run d) xs).instances[i]? = some s' ∧
          s'.life = s.life) := by
  have hd := Reaches.step (.sessionOpen 0 default "" "")
    (@Reaches.init {} ⟨[], [], none⟩ .numbered {} _ rfl rfl rfl rfl rfl)
  exact ⟨_, hd, stop_and_close_keep_sessions_down hd 0⟩

/-- A close does not silence the checks already under way. A session opens a buffer on `h1`,
whose probe goes out, and is closed; when the probe comes back unreachable, its failure is still
reported to the closed session. -/
theorem closed_session_hears_late_check :
    ∃ d, Reaches d ∧ (d.instances[0]?.map (·.closed)) = some true ∧
      (after (Input.runResult none { (default : Shell.RunResult) with exitCode := 255 }).run
        d).world.events = [.report 0 .error "rlsp: cannot reach h1 (exit code 255)"] := by
  have hd := Reaches.step (.sessionClose 0)
    (Reaches.step (.docOpen 0 ⟨"scp://h1//srv/a.py", "python", 1, "x = 1\n"⟩)
      (Reaches.step (.sessionOpen 0 default "" "")
        (@Reaches.init {} ⟨[], [], none⟩ .numbered {} _ rfl rfl rfl rfl rfl)))
  exact ⟨_, hd, by decide +kernel, by decide +kernel⟩

end RemoteLsp.Daemon
