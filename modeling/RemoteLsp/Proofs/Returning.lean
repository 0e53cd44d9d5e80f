import RemoteLsp.Proofs.Reachable

/-!
# Operations that return

The daemon stops an operation early in two ways: with an error its caller sees (a session that
is not open, a server that is not attached, a setting that does not parse), or with a fault of
the identity store, whose documents may have been read as `null` and then cannot be written.
Neither can happen in the work that follows a remote run, a prompt or a queued task: that work
reads sessions by instance and settings that were already checked. So in a world that is not
live, with a store whose documents hold their maps, every continuation returns: it is *total*.

This matters to what the daemon owes its sessions. Work taken off a key or off the queue is
held by the operation until it is handed on; an operation that stopped half-way would drop it.
`Total` rules that out once for each operation, and `after_bind_total` lets a proof go on past
a total operation without a branch for its failure.
-/

namespace RemoteLsp

namespace Identity.Store

/-- The store's documents hold their maps, so recording in them cannot fault. -/
def Ready (s : Store) : Prop := s.valid.isSome ∧ s.history.isSome

/-- Recording a valid environment in a ready store succeeds and keeps it ready. -/
theorem markValid_ready {s : Store} (h : s.Ready) (key env : String) :
    ∃ s', s.markValid key env = .ok s' ∧ s'.Ready := by
  obtain ⟨hv, hh⟩ := h
  obtain ⟨valid, hvs⟩ := Option.isSome_iff_exists.mp hv
  refine ⟨{ s with valid := some (valid.put key (((valid.get? key).getD []).put env true)) }.saveValidation,
    by simp [markValid, hvs], ?_⟩
  simp [Ready, saveValidation, hh]

/-- Remembering an environment of a host in a ready store succeeds and keeps it ready. -/
theorem remember_ready {s : Store} (h : s.Ready) (host env : String) :
    ∃ s', s.remember host env = .ok s' ∧ s'.Ready := by
  obtain ⟨hv, hh⟩ := h
  obtain ⟨hist, hhs⟩ := Option.isSome_iff_exists.mp hh
  unfold remember
  split
  · exact ⟨s, rfl, hv, hh⟩
  · split
    · exact ⟨s, rfl, hv, hh⟩
    · simp only [hhs]
      exact ⟨_, rfl, by simp [Ready, saveHistory, hv]⟩

end Identity.Store

section Attempt

variable {σ α : Type} {op : Op σ α} {s s' : σ}

theorem Op.attempt_run_ok {a : α} (h : op.run s = .ok a s') :
    (Op.attempt op).run s = .ok (.ok a) s' := by
  simp only [Op.attempt, EStateM.run, tryCatch, tryCatchThe, MonadExceptOf.tryCatch,
    EStateM.tryCatch, EStateM.map]
  simp only [EStateM.run] at h
  rw [h]

theorem Op.attempt_run_failed {p : Problem} (h : op.run s = .error (.failed p) s') :
    (Op.attempt op).run s = .ok (.error p) s' := by
  simp only [Op.attempt, EStateM.run, tryCatch, tryCatchThe, MonadExceptOf.tryCatch,
    EStateM.tryCatch, EStateM.map]
  simp only [EStateM.run] at h
  rw [h]
  rfl

theorem Op.attempt_run_fault {m : String} (h : op.run s = .error (.fault m) s') :
    (Op.attempt op).run s = .error (.fault m) s' := by
  simp only [Op.attempt, EStateM.run, tryCatch, tryCatchThe, MonadExceptOf.tryCatch,
    EStateM.tryCatch, EStateM.map]
  simp only [EStateM.run] at h
  rw [h]
  rfl

end Attempt

namespace Session.ConfigState

theorem run_update (f : SessionConfig → SessionConfig) (cs : ConfigState) :
    (update f).run cs = .ok () { cs with config := f cs.config } := rfl

theorem setHost_returns (host : String) (cs : ConfigState) :
    ∃ cs', (setHost host).run cs = .ok () cs' ∧ cs'.store = cs.store := by
  unfold setHost
  by_cases h : Text.trimBlanks host = cs.config.settings.host <;>
    simp [h, updateSettings, resetCache, run_update]

/-- With a ready store, choosing an environment either returns, keeping the store ready, or
refuses an empty path before changing anything; it never faults. -/
theorem setEnvironment_run (raw : String) {cs : ConfigState} (h : cs.store.Ready) :
    (∃ cs', (setEnvironment raw).run cs = .ok () cs' ∧ cs'.store.Ready) ∨
      ∃ p, (setEnvironment raw).run cs = .error (.failed p) cs := by
  cases hn : Path.normalizeEnvironment raw with
  | none => exact .inr ⟨_, by simp [setEnvironment, hn, Op.fail]; rfl⟩
  | some env =>
    left
    by_cases hh : cs.config.settings.host = ""
    · simp [setEnvironment, hn, hh, updateSettings, run_update, resetCache, h]
    · obtain ⟨st, hst, hready⟩ := Identity.Store.remember_ready h cs.config.settings.host env
      simp [setEnvironment, hn, hh, updateSettings, run_update, resetCache, hst, hready]

/-- With a ready store, an attempt to choose an environment returns and keeps the store
ready. -/
theorem setEnvironment_ready (raw : String) {cs : ConfigState} (h : cs.store.Ready) :
    ∃ r cs', (Op.attempt (setEnvironment raw)).run cs = .ok r cs' ∧ cs'.store.Ready := by
  rcases setEnvironment_run raw h with ⟨cs', hr, hready⟩ | ⟨p, hr⟩
  · exact ⟨_, cs', Op.attempt_run_ok hr, hready⟩
  · exact ⟨_, cs, Op.attempt_run_failed hr, h⟩

end Session.ConfigState

namespace Daemon

/-- A daemon in a world that is not live, with a ready store. -/
structure Sound (d : State) : Prop where
  live : d.world.live = none
  ready : d.store.Ready

/-- Soundness reads only whether the world is live and the store. -/
theorem Sound.of_eq {d d' : State} (h : Sound d) (hl : d'.world.live = d.world.live)
    (hs : d'.store = d.store) : Sound d' :=
  ⟨hl ▸ h.live, hs ▸ h.ready⟩

/-- The operation returns from every sound state, and leaves a sound state. -/
def Total {α : Type} (op : M α) : Prop := ∀ d, Sound d → ∃ a s, op.run d = .ok a s ∧ Sound s

namespace Total

variable {α β : Type}

theorem pure (a : α) : Total (Pure.pure a : M α) := fun d h => ⟨a, d, rfl, h⟩

theorem bind {x : M α} {f : α → M β} (hx : Total x) (hf : ∀ a, Total (f a)) : Total (x >>= f) := by
  intro d hd
  obtain ⟨a, s, hr, hs⟩ := hx d hd
  obtain ⟨b, t, hr', ht⟩ := hf a s hs
  exact ⟨b, t, by rw [EStateM.run_bind, hr]; exact hr', ht⟩

theorem forM {xs : List α} {f : α → M PUnit} (h : ∀ x, Total (f x)) : Total (xs.forM f) :=
  forM_of_bind pure bind h

theorem forIn {xs : List α} {b : β} {f : α → β → M (ForInStep β)} (h : ∀ x b, Total (f x b)) :
    Total (forIn xs b f) :=
  forIn_of_bind pure bind h

/-- An operation whose run is known, changing neither the world's liveness nor the store. -/
theorem of_run {op : M α}
    (h : ∀ d, d.world.live = none → ∃ a s, op.run d = .ok a s ∧ s.world.live = d.world.live ∧
      s.store = d.store) : Total op := by
  intro d hd
  obtain ⟨a, s, hr, hl, hs⟩ := h d hd.live
  exact ⟨a, s, hr, hd.of_eq hl hs⟩

/-- A read of the state. -/
theorem of_read {op : M α} (h : ∀ d, ∃ a, op.run d = .ok a d) : Total op :=
  of_run fun d _ => (h d).elim fun a hr => ⟨a, d, hr, rfl, rfl⟩

theorem attempt {op : M α} (h : Total op) : Total (Op.attempt op) := by
  intro d hd
  obtain ⟨a, s, hr, hs⟩ := h d hd
  exact ⟨.ok a, s, by rw [run_attempt, hr], hs⟩

theorem recover {op : M α} (h : Total op) (x : α) : Total (Op.recover op x) := by
  intro d hd
  obtain ⟨a, s, hr, hs⟩ := h d hd
  exact ⟨a, s, by rw [run_recover, hr], hs⟩

end Total

/-- Past an operation that returns, a proof goes on in the state it leaves. -/
theorem after_bind_total {α β : Type} {x : M α} {f : α → M β} {d : State} {Q R : State → Prop}
    (hx : Total x) (hd : Sound d) (hq : Q (after x d)) (hf : ∀ a s, Q s → R (after (f a) s)) :
    R (after (x >>= f) d) := by
  obtain ⟨a, s, hr, -⟩ := hx d hd
  rw [after_eq_of_run_ok hr] at hq
  rw [after_of_run_ok hr]
  exact hf a s hq

/-- What a total operation leaves is sound. -/
theorem Total.sound_after {α : Type} {op : M α} (h : Total op) {d : State} (hd : Sound d) :
    Sound (after op d) := by
  obtain ⟨a, s, hr, hs⟩ := h d hd
  rw [after_eq_of_run_ok hr]
  exact hs

/-! ## Reads and effects -/

section Effects

theorem total_get : Total (get : M State) := Total.of_read fun d => ⟨d, rfl⟩

theorem total_getInstance (i : Nat) : Total (getInstance i) :=
  Total.of_read fun d => ⟨_, run_getInstance i d⟩

theorem total_getServer (n : Nat) : Total (getServer n) :=
  Total.of_read fun d => ⟨_, run_getServer n d⟩

theorem total_getKey (key : String) : Total (getKey key) :=
  Total.of_read fun d => ⟨_, run_getKey key d⟩

theorem total_sidOf (i : Nat) : Total (sidOf i) := Total.of_read fun d => ⟨_, run_sidOf i d⟩

theorem total_configOf (i : Nat) : Total (configOf i) :=
  Total.of_read fun d => ⟨_, run_configOf i d⟩

theorem total_nameOf (sid : Nat) : Total (nameOf sid) :=
  Total.of_read fun d => ⟨_, run_nameOf sid d⟩

theorem total_updateWorld (f : World → World) (hl : ∀ w, (f w).live = w.live) :
    Total (updateWorld f) :=
  Total.of_run fun _ _ => ⟨(), _, rfl, hl _, rfl⟩

theorem total_emit (e : Event) : Total (emit e) :=
  Total.of_run fun d _ => ⟨(), _, run_emit e d, rfl, rfl⟩

theorem total_addCount (name : String) (n : Nat) : Total (addCount name n) :=
  Total.of_run fun d _ => ⟨(), _, run_addCount name n d, rfl, rfl⟩

theorem total_count (name : String) : Total (count name) := total_addCount name 1

theorem total_post (t : Task) : Total (post t) :=
  Total.of_run fun d _ => ⟨(), _, run_post t d, rfl, rfl⟩

theorem total_replyWith (r : Reply) : Total (replyWith r) := by
  refine Total.of_run fun d _ => ⟨(), _, run_replyWith r d, ?_, rfl⟩
  split <;> rfl

theorem total_setInstance (i : Nat) (f : Instance → Instance) : Total (setInstance i f) :=
  Total.of_run fun d _ => ⟨(), _, run_setInstance i f d, rfl, rfl⟩

theorem total_setServer (n : Nat) (f : Server → Server) : Total (setServer n f) :=
  Total.of_run fun d _ => ⟨(), _, run_setServer n f d, rfl, rfl⟩

theorem total_updateCache (i : Nat) (f : ValidationCache → ValidationCache) :
    Total (updateCache i f) :=
  Total.of_run fun d _ => ⟨(), _, run_updateCache i f d, rfl, rfl⟩

theorem total_setKey (key : String) (ks : KeyState) : Total (setKey key ks) :=
  Total.of_run fun d _ => ⟨(), _, run_setKey key ks d, rfl, rfl⟩

theorem total_stopTimer (id : Nat) : Total (stopTimer id) :=
  Total.of_run fun d _ => ⟨(), _, run_stopTimer id d, rfl, rfl⟩

theorem total_afterMs (ms : Nat) (action : TimerAction) : Total (afterMs ms action) :=
  Total.of_run fun d _ => ⟨_, _, run_afterMs ms action d, rfl, rfl⟩

theorem total_report (sid : Nat) (severity : Severity) (m : String) :
    Total (report sid severity m) :=
  Total.of_run fun _ hl => ⟨(), _, run_report hl sid severity m, rfl, rfl⟩

theorem total_writeLog (sid : Nat) (pfx text : String) : Total (writeLog sid pfx text) := by
  refine Total.of_run fun d hl => ⟨(), _, run_writeLog hl sid pfx text, ?_, ?_⟩ <;> split <;> rfl

theorem total_editorNotify (sid : Nat) (method params : String) :
    Total (editorNotify sid method params) :=
  Total.of_run fun _ hl => ⟨(), _, run_editorNotify hl sid method params, rfl, rfl⟩

theorem total_editorCall (sid : Nat) (method params : String) :
    Total (editorCall sid method params) :=
  Total.of_run fun _ hl => ⟨_, _, run_editorCall hl sid method params, rfl, rfl⟩

theorem total_serverCall (n : Nat) (method params : String) : Total (serverCall n method params) :=
  Total.of_run fun _ hl => ⟨_, _, run_serverCall hl n method params, rfl, rfl⟩

theorem total_serverNotify (n : Nat) (method params : String) :
    Total (serverNotify n method params) :=
  Total.of_run fun _ hl => ⟨(), _, run_serverNotify hl n method params, rfl, rfl⟩

theorem total_serverStop (n : Nat) : Total (serverStop n) :=
  Total.of_run fun _ hl => ⟨(), _, run_serverStop hl n, rfl, rfl⟩

theorem total_launch (inst sid : Nat) (host name script root : String) (settings : Settings)
    (held : Bool) : Total (launch inst sid host name script root settings held) := by
  refine Total.of_run fun d hl => ?_
  rw [run_launch hl]
  cases d.world.launchFailure <;> exact ⟨_, _, rfl, rfl, rfl⟩

theorem total_takeHold : Total takeHold := Total.of_run fun d _ => ⟨_, _, run_takeHold d, rfl, rfl⟩

theorem total_toEditor (host payload : String) : Total (toEditor host payload) :=
  total_get.bind fun _ => (total_addCount _ _).bind fun _ => (total_addCount _ _).bind fun _ =>
    Total.pure _

theorem total_toServer (payload : String) : Total (toServer payload) :=
  total_get.bind fun _ => (total_addCount _ _).bind fun _ => (total_addCount _ _).bind fun _ =>
    Total.pure _

/-- Recording a valid environment returns in a sound state. -/
theorem total_markValid (key env : String) : Total (markValid key env) := by
  intro d hd
  obtain ⟨s', hs', hready⟩ := Identity.Store.markValid_ready hd.ready key env
  exact ⟨(), { d with store := s' }, by simp [markValid, hs'], hd.live, hready⟩

/-- Remembering an environment returns in a sound state. -/
theorem total_remember (host env : String) : Total (remember host env) := by
  intro d hd
  obtain ⟨s', hs', hready⟩ := Identity.Store.remember_ready hd.ready host env
  exact ⟨(), { d with store := s' }, by simp [remember, hs'], hd.live, hready⟩

end Effects

/-! ## Queues and hand-offs to the world -/

theorem total_deliver (n : Nat) (m : Outgoing) : Total (deliver n m) := by
  cases m with
  | handshake params =>
    refine (total_serverCall n _ params).bind fun a => (total_getServer n).bind fun o => ?_
    cases o with
    | none => exact Total.pure ()
    | some srv => exact total_post _
  | notify method params => exact total_serverNotify n method params
  | request method params =>
    refine (total_serverCall n method params).bind fun a => ?_
    cases a with
    | error e => exact total_replyWith _
    | rpcError c e => exact total_replyWith _
    | result r =>
      exact (total_getServer n).bind fun _ => (total_toEditor _ r).bind fun _ => total_replyWith _

theorem total_enqueue (n : Nat) (m : Outgoing) : Total (enqueue n m) := by
  refine (total_getServer n).bind fun o => ?_
  cases o with
  | none => exact Total.pure ()
  | some srv =>
    dsimp only
    split
    · exact total_setServer n _
    · exact total_deliver n m

theorem total_sendOpen (n : Nat) (doc : Document) : Total (sendOpen n doc) := by
  refine total_get.bind fun d => ?_
  split
  · exact total_enqueue n _
  · exact Total.pure ()

theorem total_runRemote (sid : Nat) (host script : String) (timeoutMs : Int) (next : RunNext) :
    Total (runRemote sid host script timeoutMs next) := by
  refine Total.of_run fun d hl => ?_
  cases hr : d.world.scriptedRuns <;> simp [runRemote, hl, hr]

theorem total_askInput (sid : Nat) (kind text preset : String) (choices : List String)
    (next : InputNext) : Total (askInput sid kind text preset choices next) := by
  refine Total.of_run fun d hl => ?_
  cases hr : d.world.scriptedInputs <;> simp [askInput, hl, hr, freshPrompt]

theorem total_askConfirm (sid : Nat) (message : String) (actions : List String) (a : Attempt) :
    Total (askConfirm sid message actions a) := by
  refine Total.of_run fun d hl => ?_
  cases hr : d.world.scriptedConfirms <;> simp [askConfirm, hl, hr, freshPrompt]

/-! ## Configurations

An enable re-reads settings that a prompt's answer changed: choosing a host never stops, and
choosing an environment in a ready store returns, whether the path is taken or refused.
-/

theorem total_withConfig {α : Type} (i : Nat) (op : Op Session.ConfigState α) (fallback : α)
    (h : ∀ cs : Session.ConfigState, cs.store.Ready →
      ∃ a cs', op.run cs = .ok a cs' ∧ cs'.store.Ready) :
    Total (withConfig i op fallback) := by
  intro d hd
  cases hs : d.instances[i]? with
  | none => exact ⟨fallback, d, by simp [withConfig, hs], hd⟩
  | some s =>
    obtain ⟨a, cs', hr, hready⟩ := h ⟨s.cfg, d.store⟩ hd.ready
    refine ⟨a, _, by simp [withConfig, hs, hr]; rfl, ?_⟩
    exact ⟨hd.live, hready⟩

theorem total_setHost (i : Nat) (host : String) :
    Total (withConfig i (Session.ConfigState.setHost host) ()) :=
  total_withConfig i _ () fun cs hc => by
    obtain ⟨cs', hr, hs⟩ := Session.ConfigState.setHost_returns host cs
    exact ⟨(), cs', hr, hs ▸ hc⟩

theorem total_setEnvironment (i : Nat) (raw : String) :
    Total (withConfig i (Op.attempt (Session.ConfigState.setEnvironment raw)) (.ok ())) :=
  total_withConfig i _ _ fun _ hc => Session.ConfigState.setEnvironment_ready raw hc

/-! ## Starting a server -/

theorem total_start (i : Nat) (root : String) : Total (start i root) := by
  refine (total_getInstance i).bind fun o => ?_
  cases o with
  | none => exact Total.pure ()
  | some s =>
    refine (total_setInstance i _).bind fun _ => total_takeHold.bind fun held =>
      (total_launch _ _ _ _ _ _ _ _).bind fun r => ?_
    cases r with
    | error m => exact (total_report _ _ _).bind fun _ => total_setInstance i _
    | ok n => exact (total_setServer n _).bind fun _ => (total_setInstance i _).bind fun _ =>
        (total_count _).bind fun _ => total_enqueue n _

theorem total_resolveRoot (i g : Nat) : Total (resolveRoot i g) := by
  refine (total_getInstance i).bind fun o => ?_
  cases o with
  | none => exact Total.pure ()
  | some s =>
    refine total_get.bind fun d => ?_
    dsimp only
    split
    · exact total_start i _
    · split
      · split
        · exact total_start i _
        · split
          · exact total_start i _
          · exact total_runRemote _ _ _ _ _
      · split
        · exact total_start i _
        · exact total_runRemote _ _ _ _ _

theorem total_rootFound (i g : Nat) (dir : String) (res : Shell.RunResult) :
    Total (rootFound i g dir res) := by
  refine (total_getInstance i).bind fun o => ?_
  cases o with
  | none => exact Total.pure ()
  | some s =>
    dsimp only
    split
    · exact Total.pure ()
    · exact total_start i _

theorem total_enableDone (i g : Nat) (ok : Bool) : Total (enableDone i g ok) := by
  refine (total_getInstance i).bind fun o => ?_
  cases o with
  | none => exact Total.pure ()
  | some s =>
    dsimp only
    split
    · exact Total.pure ()
    · split
      · exact total_setInstance i _
      · exact total_resolveRoot i g

/-! ## Checks of a validation key -/

theorem total_wake (w : Waiter) (ok : Bool) : Total (wake w ok) :=
  (total_updateCache _ _).bind fun _ => total_enableDone _ _ ok

theorem total_resolve (a : Attempt) (ok : Bool) : Total (resolve a ok) := by
  have settle : ∀ ks : KeyState, Total (do
      setKey a.key ⟨if ok then .valid else .missing, []⟩
      ks.waiters.forM fun w => wake w ok) := fun _ =>
    (total_setKey _ _).bind fun _ => Total.forM fun w => total_wake w ok
  refine (total_getKey a.key).bind fun o => ?_
  dsimp only
  split
  · exact (total_count _).bind fun _ => settle _
  · exact settle _

theorem total_fail (a : Attempt) (severity : Severity) (message : String) (res : Shell.RunResult) :
    Total (fail a severity message res) := by
  refine (total_sidOf a.owner).bind fun sid => (total_report _ _ _).bind fun _ => ?_
  dsimp only
  split
  · exact (total_writeLog _ _ _).bind fun _ => total_resolve a false
  · exact total_resolve a false

theorem total_succeed (a : Attempt) : Total (succeed a) :=
  (total_count _).bind fun _ => (total_markValid _ _).bind fun _ =>
    (total_remember _ _).bind fun _ => total_resolve a true

theorem total_handOff (a : Attempt) : Total (handOff a) :=
  (total_getKey a.key).bind fun _ => (total_setKey _ _).bind fun _ =>
    Total.forM fun w => total_wake w false

theorem total_runFor (a : Attempt) (script : String) (timeoutMs : Int) (next : RunNext) :
    Total (runFor a script timeoutMs next) :=
  (total_sidOf _).bind fun _ => total_runRemote _ _ _ _ _

theorem total_install (a : Attempt) : Total (install a) :=
  (total_sidOf _).bind fun _ => (total_report _ _ _).bind fun _ => total_runFor _ _ _ _

theorem total_interpreterMissing (a : Attempt) (res : Shell.RunResult) :
    Total (interpreterMissing a res) := by
  refine (total_configOf a.owner).bind fun cfg => ?_
  dsimp only
  split
  · exact (total_updateCache _ _).bind fun _ => total_get.bind fun _ =>
      (total_sidOf _).bind fun _ => total_askInput _ _ _ _ _ _
  · exact total_fail a _ _ res

theorem total_promptHost (i g : Nat) : Total (promptHost i g) :=
  (total_updateCache _ _).bind fun _ => (total_sidOf _).bind fun _ => total_get.bind fun _ =>
    total_askInput _ _ _ _ _ _

theorem total_ensure (i g : Nat) (retried : Bool) : Total (ensure i g retried) := by
  refine (total_getInstance i).bind fun o => ?_
  cases o with
  | none => exact Total.pure ()
  | some s =>
    dsimp only
    split
    · exact total_enableDone i g true
    split
    · exact total_enableDone i g false
    split
    · split
      · exact total_promptHost i g
      · exact (total_updateCache _ _).bind fun _ => (total_report _ _ _).bind fun _ =>
          total_enableDone i g false
    refine total_get.bind fun d => ?_
    split
    · exact (total_count _).bind fun _ => (total_updateCache _ _).bind fun _ =>
        total_enableDone i g true
    refine (total_getKey _).bind fun o => ?_
    cases o with
    | none => exact (total_setKey _ _).bind fun _ => total_runFor _ _ _ _
    | some ks =>
      dsimp only
      split
      · exact total_setKey _ _
      · exact (total_setKey _ _).bind fun _ => total_runFor _ _ _ _

section Continue

variable (a : Attempt) (res : Shell.RunResult)

theorem total_afterExecutable : Total (afterExecutable a res) := by
  unfold afterExecutable
  split
  · exact total_runFor _ _ _ _
  split
  · exact total_fail _ _ _ _
  · exact total_runFor _ _ _ _

theorem total_afterVersion : Total (afterVersion a res) := by
  unfold afterVersion
  split
  · exact total_runFor _ _ _ _
  · exact total_interpreterMissing a res

theorem total_afterDetect (installed : Bool) : Total (afterDetect a installed res) := by
  unfold afterDetect
  split
  · exact total_succeed a
  split
  · exact total_fail _ _ _ _
  split
  · exact total_fail _ _ _ _
  split
  · exact (total_count _).bind fun _ => total_fail _ _ _ _
  split
  · exact total_install a
  · exact (total_sidOf _).bind fun _ => total_askConfirm _ _ _ _

theorem total_afterInstall : Total (afterInstall a res) := by
  unfold afterInstall
  split
  · exact (total_count _).bind fun _ => total_fail _ _ _ _
  · exact (total_count _).bind fun _ => total_runFor _ _ _ _

theorem total_afterConfirm (choice : String) (ok : Bool) : Total (afterConfirm a choice ok) := by
  unfold afterConfirm
  split
  · exact (total_sidOf _).bind fun _ => (total_report _ _ _).bind fun _ => total_resolve a false
  · exact total_install a

theorem total_afterEnvironment (value : String) (cancelled : Bool) :
    Total (afterEnvironment a res value cancelled) := by
  unfold afterEnvironment
  refine (total_updateCache _ _).bind fun _ => ?_
  split
  · exact total_fail _ _ _ _
  refine (total_setEnvironment _ _).bind fun r => ?_
  cases r with
  | error e => exact total_fail _ _ _ _
  | ok u => exact (total_handOff a).bind fun _ => total_ensure _ _ _

end Continue

theorem total_afterHost (i g : Nat) (value : String) (cancelled : Bool) :
    Total (afterHost i g value cancelled) := by
  unfold afterHost
  refine (total_updateCache _ _).bind fun _ => ?_
  split
  · exact (total_configOf i).bind fun _ => (total_updateCache _ _).bind fun _ =>
      total_enableDone i g false
  · exact (total_setHost i value).bind fun _ => total_ensure i g false

/-! ## The lifecycle and the loop -/

theorem total_initialized (i n : Nat) (answer : Answer) : Total (initialized i n answer) := by
  refine (total_getInstance i).bind fun o => ?_
  cases o with
  | none => exact Total.pure ()
  | some s =>
    refine (total_getServer n).bind fun o => ?_
    cases o with
    | none => exact Total.pure ()
    | some srv =>
      dsimp only
      split
      · exact Total.pure ()
      split
      · exact (total_report _ _ _).bind fun _ => total_serverStop n
      · exact (total_report _ _ _).bind fun _ => total_serverStop n
      · refine (total_setInstance i _).bind fun _ => (total_enqueue n _).bind fun _ =>
          total_get.bind fun _ => (Total.forIn fun uri _ => ?_).bind fun _ => ?_
        · split
          · split
            · exact (total_sendOpen n _).bind fun _ => Total.pure _
            · exact Total.pure _
          · exact Total.pure _
        · split
          · exact total_report _ _ _
          · exact Total.pure _

theorem total_crashed (i n : Nat) (status : ExitStatus) : Total (crashed i n status) := by
  refine (total_getInstance i).bind fun o => ?_
  cases o with
  | none => exact Total.pure ()
  | some s =>
    refine (total_getServer n).bind fun o => ?_
    cases o with
    | none => exact Total.pure ()
    | some srv =>
      dsimp only
      split
      · exact Total.pure ()
      split
      · exact (total_setInstance i _).bind fun _ => (total_count _).bind fun _ =>
          total_report _ _ _
      · exact (total_setInstance i _).bind fun _ => (total_count _).bind fun _ =>
          total_get.bind fun _ => (total_report _ _ _).bind fun _ =>
            (total_afterMs _ _).bind fun _ => total_setInstance i _

theorem total_exited (i n : Nat) (status : ExitStatus) : Total (exited i n status) := by
  refine (total_getInstance i).bind fun o => ?_
  cases o with
  | none => exact Total.pure ()
  | some s =>
    refine (total_getServer n).bind fun o => ?_
    cases o with
    | none => exact Total.pure ()
    | some srv =>
      dsimp only
      -- each branch is a straight run of changes to the instance and the server, counts, and
      -- possibly the crash handling
      repeat
        first
        | exact Total.pure _
        | exact total_setInstance i _
        | exact total_crashed i n status
        | refine (total_setInstance i _).bind fun _ => ?_
        | refine (total_setServer n _).bind fun _ => ?_
        | refine (total_count _).bind fun _ => ?_
        | split

theorem total_cancelReconnect (i : Nat) : Total (cancelReconnect i) := by
  refine (total_getInstance i).bind fun o => ?_
  cases o with
  | none => exact Total.pure ()
  | some s =>
    dsimp only
    split
    · exact (total_stopTimer _).bind fun _ => total_setInstance i _
    · exact Total.pure ()

theorem total_enable (i : Nat) : Total (enable i) := by
  refine (total_getInstance i).bind fun o => ?_
  cases o with
  | none => exact Total.pure ()
  | some s =>
    dsimp only
    split
    · exact Total.pure ()
    split
    case h_4 => exact (total_cancelReconnect i).bind fun _ => (total_setInstance i _).bind fun _ =>
      total_ensure i _ false
    all_goals exact Total.pure ()

theorem total_reconnectFired (i g : Nat) (buffer : String) : Total (reconnectFired i g buffer) := by
  refine (total_getInstance i).bind fun o => ?_
  cases o with
  | none => exact Total.pure ()
  | some s =>
    dsimp only
    split
    · exact Total.pure ()
    refine (total_setInstance i _).bind fun _ => ?_
    split
    · exact total_enable i
    · exact total_setInstance i _

theorem total_runTask (t : Task) : Total (runTask t) := by
  cases t with
  | ran next res =>
    cases next with
    | executable a => exact total_afterExecutable a res
    | version a => exact total_afterVersion a res
    | detect a installed => exact total_afterDetect a res installed
    | install a => exact total_afterInstall a res
    | root i g dir => exact total_rootFound i g dir res
  | answered next value cancelled =>
    cases next with
    | host i g => exact total_afterHost i g value cancelled
    | environment a res => exact total_afterEnvironment a res value cancelled
  | confirmed a choice ok => exact total_afterConfirm a choice ok
  | initialized i n answer => exact total_initialized i n answer
  | exited i n status => exact total_exited i n status
  | reconnect i g buffer => exact total_reconnectFired i g buffer
end Daemon

end RemoteLsp
