import RemoteLsp.Proofs.Invariant

/-!
# Operations that leave the lifecycle alone

Most of what the daemon does to its world touches nothing the lifecycle invariant reads:
recording events, counting, asking the editor, relaying messages, queueing them to a server or
delivering them, setting and stopping timers. Such an operation is *calm*: it keeps the
invariant whatever is held in hand. Calm operations are closed under the binds of the `do`
notation and under loops over a list, so a long relay is calm as soon as its steps are.
-/

namespace RemoteLsp.Daemon

/-- The operation keeps the lifecycle invariant, whatever is held in hand. -/
def Calm {α : Type} (op : M α) : Prop := ∀ extra held, Keeps (Inv extra held) op

namespace Calm

variable {α β : Type}

theorem pure (a : α) : Calm (Pure.pure a : M α) := fun _ _ => Keeps.pure a

theorem bind {x : M α} {f : α → M β} (hx : Calm x) (hf : ∀ a, Calm (f a)) : Calm (x >>= f) :=
  fun extra held => (hx extra held).bind fun a => hf a extra held

theorem forM {xs : List α} {f : α → M PUnit} (h : ∀ x, Calm (f x)) : Calm (xs.forM f) :=
  forM_of_bind pure bind h

theorem forIn {xs : List α} {b : β} {f : α → β → M (ForInStep β)} (h : ∀ x b, Calm (f x b)) :
    Calm (forIn xs b f) :=
  forIn_of_bind pure bind h

/-- An operation that, in a world that is not live, returns having changed nothing the
invariant reads. -/
theorem of_run {op : M α} (h : ∀ d, d.world.live = none → ∃ a d', op.run d = .ok a d' ∧ Same d d') :
    Calm op := by
  intro extra held d hd
  obtain ⟨a, d', hr, hs⟩ := h d hd.live
  rw [after_eq_of_run_ok hr]
  exact hd.congr hs

theorem attempt {op : M α} (h : Calm op) : Calm (Op.attempt op) := fun extra held d hd => by
  rw [after_attempt]
  exact h extra held d hd

theorem recover {op : M α} (h : Calm op) (x : α) : Calm (Op.recover op x) :=
  fun extra held d hd => by
    rw [after_recover]
    exact h extra held d hd

theorem context {op : M α} (h : Calm op) (c : String) : Calm (Op.context op c) :=
  fun extra held d hd => by
    rw [after_context]
    exact h extra held d hd

/-- A read of the state. -/
theorem of_read {op : M α} (h : ∀ d, ∃ a, op.run d = .ok a d) : Calm op :=
  of_run fun d _ => (h d).elim fun a hr => ⟨a, d, hr, Same.refl d⟩

end Calm

/-! ## Reads and effects on the world -/

section Effects

theorem calm_get : Calm (get : M State) := Calm.of_read fun d => ⟨d, rfl⟩

theorem calm_getServer (n : Nat) : Calm (getServer n) := Calm.of_read fun d => ⟨_, run_getServer n d⟩

theorem calm_getInstance (i : Nat) : Calm (getInstance i) :=
  Calm.of_read fun d => ⟨_, run_getInstance i d⟩

theorem calm_nameOf (sid : Nat) : Calm (nameOf sid) := Calm.of_read fun d => ⟨_, run_nameOf sid d⟩

theorem calm_emit (e : Event) : Calm (emit e) :=
  Calm.of_run fun d _ => ⟨_, _, run_emit e d, Same.world rfl rfl rfl rfl⟩

theorem calm_addCount (name : String) (n : Nat) : Calm (addCount name n) :=
  Calm.of_run fun d _ => ⟨_, _, run_addCount name n d, ⟨rfl, rfl, rfl, rfl, rfl, rfl, rfl⟩⟩

theorem calm_count (name : String) : Calm (count name) := calm_addCount name 1

theorem calm_replyWith (r : Reply) : Calm (replyWith r) := by
  refine Calm.of_run fun d _ => ⟨_, _, run_replyWith r d, ?_⟩
  split
  · exact Same.refl _
  · exact Same.world rfl rfl rfl rfl

theorem calm_report (sid : Nat) (severity : Severity) (m : String) : Calm (report sid severity m) :=
  Calm.of_run fun _ hl => ⟨_, _, run_report hl sid severity m, Same.world rfl rfl rfl rfl⟩

theorem calm_writeLog (sid : Nat) (pfx text : String) : Calm (writeLog sid pfx text) := by
  refine Calm.of_run fun d hl => ⟨_, _, run_writeLog hl sid pfx text, ?_⟩
  split
  · exact Same.refl _
  · exact Same.world rfl rfl rfl rfl

theorem calm_editorNotify (sid : Nat) (method params : String) :
    Calm (editorNotify sid method params) :=
  Calm.of_run fun _ hl => ⟨_, _, run_editorNotify hl sid method params, Same.world rfl rfl rfl rfl⟩

theorem calm_editorCall (sid : Nat) (method params : String) : Calm (editorCall sid method params) :=
  Calm.of_run fun _ hl => ⟨_, _, run_editorCall hl sid method params, Same.world rfl rfl rfl rfl⟩

theorem calm_serverCall (n : Nat) (method params : String) : Calm (serverCall n method params) :=
  Calm.of_run fun _ hl => ⟨_, _, run_serverCall hl n method params, Same.world rfl rfl rfl rfl⟩

theorem calm_serverNotify (n : Nat) (method params : String) : Calm (serverNotify n method params) :=
  Calm.of_run fun _ hl => ⟨_, _, run_serverNotify hl n method params, Same.world rfl rfl rfl rfl⟩

theorem calm_serverStop (n : Nat) : Calm (serverStop n) :=
  Calm.of_run fun _ hl => ⟨_, _, run_serverStop hl n, Same.world rfl rfl rfl rfl⟩

theorem calm_stopTimer (id : Nat) : Calm (stopTimer id) :=
  Calm.of_run fun d _ => ⟨_, _, run_stopTimer id d, Same.world rfl rfl rfl rfl⟩

theorem calm_afterMs (ms : Nat) (action : TimerAction) : Calm (afterMs ms action) :=
  Calm.of_run fun d _ => ⟨_, _, run_afterMs ms action d, Same.world rfl rfl rfl rfl⟩

theorem calm_toEditor (host payload : String) : Calm (toEditor host payload) :=
  calm_get.bind fun _ => (calm_addCount _ _).bind fun _ => (calm_addCount _ _).bind fun _ =>
    Calm.pure _

theorem calm_toServer (payload : String) : Calm (toServer payload) :=
  calm_get.bind fun _ => (calm_addCount _ _).bind fun _ => (calm_addCount _ _).bind fun _ =>
    Calm.pure _

theorem calm_fault {α : Type} (m : String) : Calm (Op.fault m : M α) := fun _ _ _ h => h

theorem calm_fail {α : Type} (p : Problem) : Calm (Op.fail p : M α) := fun _ _ _ h => h

/-- Looking up an open session reads the state, or stops where it is. -/
theorem calm_lookup (sid : Nat) : Calm (lookup sid) := by
  intro extra held d h
  cases hs : openInstance d sid with
  | some i => rwa [after_eq_of_run_ok (run_lookup_some hs)]
  | none =>
    obtain ⟨e, he⟩ := run_lookup_none hs
    simpa [after, he] using h

theorem calm_markValid (key env : String) : Calm (markValid key env) := by
  refine calm_get.bind fun d => ?_
  split
  · exact Calm.of_run fun d' _ => ⟨(), _, rfl, ⟨rfl, rfl, rfl, rfl, rfl, rfl, rfl⟩⟩
  · exact calm_fault _

theorem calm_remember (host env : String) : Calm (remember host env) := by
  refine calm_get.bind fun d => ?_
  split
  · exact Calm.of_run fun d' _ => ⟨(), _, rfl, ⟨rfl, rfl, rfl, rfl, rfl, rfl, rfl⟩⟩
  · exact calm_fault _

end Effects

/-! ## Tasks, configurations and server queues -/

section Queues

/-- Posting a task that continues no enable, no check and no exit. -/
theorem calm_post (t : Task) (he : t.enable? = none) (hc : t.check? = none) (hx : t.exit? = none) :
    Calm (post t) := by
  intro extra held d hd
  rw [after_eq_of_run_ok (run_post t d)]
  apply Inv.post _ hx
  rw [he, hc]
  exact hd

theorem SessionOk.withCfg {d : State} {extra : List (Nat × Nat)} {i : Nat} {s : Instance}
    (h : SessionOk d extra i s) (c : Session.SessionConfig) : SessionOk d extra i { s with cfg := c } :=
  ⟨h.current_iff, h.reconnect_iff, h.order_nodup, h.order_perm, h.stopped_idle, h.current_newest,
    h.retired, h.enables_le, h.enables_current⟩

/-- Changing the configuration of an instance. -/
theorem Inv.setCfg {d : State} {extra : List (Nat × Nat)} {held : List Attempt}
    (h : Inv extra held d) (i : Nat) (f : Instance → Session.SessionConfig) :
    Inv extra held { d with instances := updateAt d.instances i fun s => { s with cfg := f s } } :=
  h.setInstance i _ fun s hs hcl => (h.sessions i s hs hcl).withCfg (f s)

theorem calm_updateCache (i : Nat) (f : ValidationCache → ValidationCache) :
    Calm (updateCache i f) := by
  intro extra held d hd
  rw [after_eq_of_run_ok (run_updateCache i f d)]
  exact hd.setCfg i _

theorem calm_withConfig {α : Type} (i : Nat) (op : Op Session.ConfigState α) (fallback : α) :
    Calm (withConfig i op fallback) := by
  intro extra held d hd
  have keep : ∀ cs : Session.ConfigState, Inv extra held
      { d with instances := updateAt d.instances i fun s => { s with cfg := cs.config },
               store := cs.store } := fun cs =>
    (hd.setCfg i fun _ => cs.config).congr ⟨rfl, rfl, rfl, rfl, rfl, rfl, rfl⟩
  simp only [withConfig, after, EStateM.run_bind, EStateM.run_get]
  cases hs : d.instances[i]? with
  | none => simpa using hd
  | some s =>
    cases hr : op.run ⟨s.cfg, d.store⟩ with
    | ok a cs => simpa [hr] using keep cs
    | error e cs =>
      simp only [hr]
      exact keep cs

theorem calm_setServer (n : Nat) (f : Server → Server) (hi : ∀ srv, (f srv).inst = srv.inst)
    (hx : ∀ srv, (f srv).exited = srv.exited)
    (hs : ∀ srv, srv.stopped = true → (f srv).stopped = true) : Calm (setServer n f) := by
  intro extra held d hd
  rw [after_eq_of_run_ok (run_setServer n f d)]
  exact hd.setServer n f hi hx hs

theorem calm_deliver (n : Nat) (m : Outgoing) : Calm (deliver n m) := by
  cases m with
  | handshake params =>
    refine (calm_serverCall n _ params).bind fun a => (calm_getServer n).bind fun o => ?_
    cases o with
    | none => exact Calm.pure ()
    | some srv => exact calm_post _ rfl rfl rfl
  | notify method params => exact calm_serverNotify n method params
  | request method params =>
    refine (calm_serverCall n method params).bind fun a => ?_
    cases a with
    | error e => exact calm_replyWith _
    | rpcError c e => exact calm_replyWith _
    | result r =>
      exact (calm_getServer n).bind fun _ => (calm_toEditor _ r).bind fun _ => calm_replyWith _

theorem calm_enqueue (n : Nat) (m : Outgoing) : Calm (enqueue n m) := by
  refine (calm_getServer n).bind fun o => ?_
  cases o with
  | none => exact Calm.pure ()
  | some srv =>
    dsimp only
    split
    · exact calm_setServer n _ (fun _ => rfl) (fun _ => rfl) fun _ h => h
    · exact calm_deliver n m

theorem calm_send (n : Nat) (method params : String) : Calm (send n method params) :=
  calm_enqueue n _

theorem calm_sendOpen (n : Nat) (doc : Document) : Calm (sendOpen n doc) := by
  refine calm_get.bind fun d => ?_
  split
  · exact calm_send n _ _
  · exact Calm.pure ()

theorem calm_release (n : Nat) : Calm (release n) := by
  refine (calm_getServer n).bind fun o => ?_
  cases o with
  | none => exact Calm.pure 0
  | some srv =>
    dsimp only
    exact (calm_setServer n (fun s => { s with held := false, queue := [] }) (fun _ => rfl)
      (fun _ => rfl) fun _ h => h).bind fun _ =>
      (Calm.forM fun m => calm_deliver n m).bind fun _ => Calm.pure _

theorem calm_relayFromServer (n : Nat) (method params : String) (isCall : Bool) :
    Calm (relayFromServer n method params isCall) := by
  refine (calm_getServer n).bind fun o => ?_
  cases o with
  | none => exact Calm.pure none
  | some srv =>
    dsimp only
    split
    · exact Calm.pure _
    · split
      · split <;> exact Calm.pure _
      · refine (calm_toEditor _ _).bind fun p => ?_
        split
        · exact (calm_editorNotify _ _ _).bind fun _ => Calm.pure none
        · refine (calm_editorCall _ _ _).bind fun a => ?_
          cases a with
          | result r => exact (calm_toServer r).bind fun _ => Calm.pure _
          | error e => exact Calm.pure _
          | rpcError c e => exact Calm.pure _

end Queues

/-! ## Handing work to the world

A remote run or a prompt takes what follows it out of the hand: it waits in the world, or,
answered at once from a script, waits on the loop's queue.
-/

section Handing

variable {d : State} {extra : List (Nat × Nat)} {held : List Attempt}

theorem runRemote_keeps {next : RunNext} (sid : Nat) (host script : String) (timeoutMs : Int)
    (h : Inv (next.enable?.toList ++ extra) (next.check?.toList ++ held) d) :
    Inv extra held (after (runRemote sid host script timeoutMs next) d) := by
  have hl := h.live
  cases hr : d.world.scriptedRuns with
  | nil =>
    rw [after_runRemote_pending hl hr]
    exact (Inv.pend (e := (d.world.nextRun, next)) h).congr
      ⟨rfl, rfl, rfl, rfl, rfl, rfl, by simp [hl]⟩
  | cons res rest =>
    rw [after_runRemote_scripted hl hr]
    exact (Inv.post (t := .ran next res) h rfl).congr ⟨rfl, rfl, rfl, rfl, rfl, rfl, by simp [hl]⟩

theorem askInput_keeps {k : InputNext} (sid : Nat) (kind text preset : String)
    (choices : List String)
    (h : Inv (k.enable?.toList ++ extra) (k.check?.toList ++ held) d) :
    Inv extra held (after (askInput sid kind text preset choices k) d) := by
  have hl := h.live
  cases hi : d.world.scriptedInputs with
  | nil =>
    rw [after_askInput_pending hl hi]
    exact (Inv.ask (p := .input d.world.nextPrompt k) h).congr
      ⟨rfl, rfl, rfl, rfl, rfl, rfl, by simp [hl]⟩
  | cons answer rest =>
    rw [after_askInput_scripted hl hi]
    exact (Inv.post (t := .answered k answer.1 answer.2) h rfl).congr
      ⟨rfl, rfl, rfl, rfl, rfl, rfl, by simp [hl]⟩

theorem askConfirm_keeps {a : Attempt} (sid : Nat) (message : String) (actions : List String)
    (h : Inv extra (a :: held) d) : Inv extra held (after (askConfirm sid message actions a) d) := by
  have hl := h.live
  cases hc : d.world.scriptedConfirms with
  | nil =>
    rw [after_askConfirm_pending hl hc]
    exact (Inv.ask (p := .confirm d.world.nextPrompt a) h).congr
      ⟨rfl, rfl, rfl, rfl, rfl, rfl, by simp [hl]⟩
  | cons answer rest =>
    rw [after_askConfirm_scripted hl hc]
    exact (Inv.post (t := .confirmed a answer.1 answer.2) h rfl).congr
      ⟨rfl, rfl, rfl, rfl, rfl, rfl, by simp [hl]⟩

end Handing

end RemoteLsp.Daemon
