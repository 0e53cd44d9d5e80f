import RemoteLsp.Proofs.Turns

/-!
# One reconnect between resets

A session instance may reconnect its server once after a crash, until a server attaches again
or the user restarts it. The allowance is the instance's `attempted` flag: a crash schedules a
reconnect timer only while the flag is clear and sets it, a second crash before a reset gives
up, and only a reset (an attach through `initialized`, or a restart) clears it.

The clock keeps every timer it was given, so the reconnect timers ever set for an instance can
be counted. The law of every turn of the loop that is not a reset of the instance is that this
count does not fall and the count plus what is left of the allowance does not grow: a turn
schedules a reconnect for the instance only by spending its allowance. Over a run of such turns
the instance gets at most one reconnect timer, and none once it has used its allowance.
-/

namespace RemoteLsp.Daemon

/-- The instance a timer reconnects, for a reconnect timer. -/
def TimerAction.reconnectOf : TimerAction → Option Nat
  | .reconnect inst _ _ => some inst
  | .idle => none

/-- How many reconnect timers were ever set for instance `i`; the clock keeps every timer it was
given, live, fired or stopped. -/
def reconnects (i : Nat) (d : State) : Nat :=
  d.world.timers.countP fun t => t.action.reconnectOf == some i

/-- What is left of instance `i`'s reconnect allowance: one reconnect until it is used. -/
def allowance (i : Nat) (d : State) : Nat :=
  match d.instances[i]? with
  | some s => if s.attempted then 0 else 1
  | none => 1

theorem allowance_le_one (i : Nat) (d : State) : allowance i d ≤ 1 := by
  unfold allowance
  split
  · split <;> omega
  · omega

theorem allowance_of_instance {i : Nat} {d : State} {s : Instance} (hs : d.instances[i]? = some s) :
    allowance i d = if s.attempted then 0 else 1 := by
  simp only [allowance, hs]

/-- Instance `i` is an instance of session `k`. -/
def Owned (i k : Nat) (d : State) : Prop := ∃ s, d.instances[i]? = some s ∧ s.sid = k

/-- From `d` to `d'`: the world stays as live, instance `i` stays one of session `k`, its
reconnect timers stay set, and the reconnects it had or may still have do not grow. -/
structure Spent (i k : Nat) (d d' : State) : Prop where
  live : d'.world.live = d.world.live
  owned : Owned i k d'
  kept : reconnects i d ≤ reconnects i d'
  spent : reconnects i d' + allowance i d' ≤ reconnects i d + allowance i d

/-- `d'` has the instances, the timers and the liveness of `d`. -/
structure Still (d d' : State) : Prop where
  instances : d'.instances = d.instances
  timers : d'.world.timers = d.world.timers
  live : d'.world.live = d.world.live

variable {i k : Nat} {d d₁ d₂ d₃ : State}

namespace Spent

theorem refl (ho : Owned i k d) : Spent i k d d := ⟨rfl, ho, le_rfl, le_rfl⟩

theorem trans (h₁ : Spent i k d₁ d₂) (h₂ : Spent i k d₂ d₃) : Spent i k d₁ d₃ :=
  ⟨h₂.live.trans h₁.live, h₂.owned, h₁.kept.trans h₂.kept, h₂.spent.trans h₁.spent⟩

/-- A step that keeps instance `i` as it was, and the timers and the liveness of the world. -/
theorem of_frame (ho : Owned i k d₁) (hi : d₂.instances[i]? = d₁.instances[i]?)
    (ht : d₂.world.timers = d₁.world.timers) (hl : d₂.world.live = d₁.world.live) :
    Spent i k d₁ d₂ := by
  have hr : reconnects i d₂ = reconnects i d₁ := by simp only [reconnects, ht]
  have ha : allowance i d₂ = allowance i d₁ := by simp only [allowance, hi]
  refine ⟨hl, ?_, hr.ge, by rw [hr, ha]⟩
  obtain ⟨s, hs, hk⟩ := ho
  exact ⟨s, hi.trans hs, hk⟩

theorem of_still (ho : Owned i k d₁) (h : Still d₁ d₂) : Spent i k d₁ d₂ :=
  of_frame ho (by rw [h.instances]) h.timers h.live

/-- Once a reconnect timer was set for instance `i`, its allowance is used. -/
theorem used (h : Spent i k d₁ d₂) (hlt : reconnects i d₁ < reconnects i d₂) : allowance i d₂ = 0 := by
  have := h.spent
  have := allowance_le_one i d₁
  omega

end Spent

/-- The operation spends instance `i`'s allowance: from every state of a world that is not
live where `i` is an instance of session `k`, it leaves one where it still is, and any reconnect
it schedules for `i` uses up what is left of the allowance. -/
def Spends {α : Type} (i k : Nat) (op : M α) : Prop :=
  ∀ d, d.world.live = none → Owned i k d → Spent i k d (after op d)

namespace Spends

variable {α β : Type}

theorem pure (a : α) : Spends i k (Pure.pure a : M α) := fun _ _ ho => Spent.refl ho

theorem bind {x : M α} {f : α → M β} (hx : Spends i k x) (hf : ∀ a, Spends i k (f a)) :
    Spends i k (x >>= f) := fun d hl ho =>
  after_bind_of (Q := Spent i k d) (hx d hl ho)
    (fun a s hs => hs.trans (hf a s (hs.live.trans hl) hs.owned)) fun _ hs => hs

theorem forM {xs : List α} {f : α → M PUnit} (h : ∀ x, Spends i k (f x)) :
    Spends i k (xs.forM f) :=
  forM_of_bind (P := fun op => Spends i k op) pure bind h

theorem forIn {xs : List α} {b : β} {f : α → β → M (ForInStep β)} (h : ∀ x b, Spends i k (f x b)) :
    Spends i k (forIn xs b f) :=
  forIn_of_bind (P := fun op => Spends i k op) pure bind h

/-- An operation that, in a world that is not live, returns having left the instances, the
timers and the liveness of the world as they were. -/
theorem of_run {op : M α}
    (h : ∀ d, d.world.live = none → ∃ a d', op.run d = .ok a d' ∧ Still d d') : Spends i k op := by
  intro d hl ho
  obtain ⟨a, d', hr, hs⟩ := h d hl
  rw [after_eq_of_run_ok hr]
  exact Spent.of_still ho hs

/-- A read of the state. -/
theorem of_read {op : M α} (h : ∀ d, ∃ a, op.run d = .ok a d) : Spends i k op :=
  of_run fun d _ => (h d).elim fun a hr => ⟨a, d, hr, rfl, rfl, rfl⟩

/-- A change of the world elsewhere than in its timers and liveness. -/
theorem of_world {op : M α} (h : ∀ d, d.world.live = none → ∃ a w, op.run d = .ok a { d with world := w } ∧
    w.timers = d.world.timers ∧ w.live = d.world.live) : Spends i k op :=
  of_run fun d hl => (h d hl).elim fun a ⟨_, hr, ht, hlw⟩ => ⟨a, _, hr, rfl, ht, hlw⟩

theorem attempt {op : M α} (h : Spends i k op) : Spends i k (Op.attempt op) := fun d hl ho => by
  rw [after_attempt]
  exact h d hl ho

theorem fail (p : Problem) : Spends i k (Op.fail p : M α) := fun _ _ ho => Spent.refl ho

theorem fault (m : String) : Spends i k (Op.fault m : M α) := fun _ _ ho => Spent.refl ho

end Spends

/-! ## Reads and effects on the world -/

section Effects

theorem spends_get : Spends i k (get : M State) := Spends.of_read fun d => ⟨d, rfl⟩

theorem spends_getServer (n : Nat) : Spends i k (getServer n) :=
  Spends.of_read fun d => ⟨_, run_getServer n d⟩

theorem spends_getInstance (j : Nat) : Spends i k (getInstance j) :=
  Spends.of_read fun d => ⟨_, run_getInstance j d⟩

theorem spends_nameOf (sid : Nat) : Spends i k (nameOf sid) :=
  Spends.of_read fun d => ⟨_, run_nameOf sid d⟩

theorem spends_sidOf (j : Nat) : Spends i k (sidOf j) := Spends.of_read fun d => ⟨_, run_sidOf j d⟩

theorem spends_configOf (j : Nat) : Spends i k (configOf j) :=
  Spends.of_read fun d => ⟨_, run_configOf j d⟩

theorem spends_getKey (key : String) : Spends i k (getKey key) :=
  Spends.of_read fun d => ⟨_, run_getKey key d⟩

theorem spends_setKey (key : String) (ks : KeyState) : Spends i k (setKey key ks) :=
  Spends.of_run fun d _ => ⟨(), _, run_setKey key ks d, rfl, rfl, rfl⟩

theorem spends_updateWorld (f : World → World) (ht : ∀ w, (f w).timers = w.timers)
    (hl : ∀ w, (f w).live = w.live) : Spends i k (updateWorld f) :=
  Spends.of_world fun d _ => ⟨(), _, run_updateWorld f d, ht _, hl _⟩

theorem spends_emit (e : Event) : Spends i k (emit e) :=
  spends_updateWorld _ (fun _ => rfl) fun _ => rfl

theorem spends_post (t : Task) : Spends i k (post t) :=
  spends_updateWorld _ (fun _ => rfl) fun _ => rfl

theorem spends_addCount (name : String) (n : Nat) : Spends i k (addCount name n) :=
  Spends.of_run fun d _ => ⟨(), _, run_addCount name n d, rfl, rfl, rfl⟩

theorem spends_count (name : String) : Spends i k (count name) := spends_addCount name 1

theorem spends_replyWith (r : Reply) : Spends i k (replyWith r) := by
  refine Spends.of_world fun d _ => ⟨(), _, run_replyWith r d, ?_, ?_⟩ <;> split <;> rfl

theorem spends_report (sid : Nat) (severity : Severity) (m : String) :
    Spends i k (report sid severity m) :=
  Spends.of_world fun _ hl => ⟨(), _, run_report hl sid severity m, rfl, rfl⟩

theorem spends_writeLog (sid : Nat) (pfx text : String) : Spends i k (writeLog sid pfx text) := by
  refine Spends.of_run fun d hl => ⟨(), _, run_writeLog hl sid pfx text, ?_, ?_, ?_⟩ <;> split <;> rfl

theorem spends_editorNotify (sid : Nat) (method params : String) :
    Spends i k (editorNotify sid method params) :=
  Spends.of_world fun _ hl => ⟨_, _, run_editorNotify hl sid method params, rfl, rfl⟩

theorem spends_editorCall (sid : Nat) (method params : String) :
    Spends i k (editorCall sid method params) :=
  Spends.of_world fun _ hl => ⟨_, _, run_editorCall hl sid method params, rfl, rfl⟩

theorem spends_serverCall (n : Nat) (method params : String) :
    Spends i k (serverCall n method params) :=
  Spends.of_world fun _ hl => ⟨_, _, run_serverCall hl n method params, rfl, rfl⟩

theorem spends_serverNotify (n : Nat) (method params : String) :
    Spends i k (serverNotify n method params) :=
  Spends.of_world fun _ hl => ⟨_, _, run_serverNotify hl n method params, rfl, rfl⟩

theorem spends_serverStop (n : Nat) : Spends i k (serverStop n) :=
  Spends.of_world fun _ hl => ⟨_, _, run_serverStop hl n, rfl, rfl⟩

theorem spends_toEditor (host payload : String) : Spends i k (toEditor host payload) :=
  spends_get.bind fun _ => (spends_addCount _ _).bind fun _ =>
    (spends_addCount _ _).bind fun _ => Spends.pure _

theorem spends_toServer (payload : String) : Spends i k (toServer payload) :=
  spends_get.bind fun _ => (spends_addCount _ _).bind fun _ =>
    (spends_addCount _ _).bind fun _ => Spends.pure _

theorem spends_lookup (sid : Nat) : Spends i k (lookup sid) := by
  intro d _ ho
  cases hs : openInstance d sid with
  | some j => rw [after_eq_of_run_ok (run_lookup_some hs)]; exact Spent.refl ho
  | none =>
    obtain ⟨e, he⟩ := run_lookup_none hs
    simpa [after, he] using Spent.refl ho

theorem spends_markValid (key env : String) : Spends i k (markValid key env) := by
  refine spends_get.bind fun d => ?_
  split
  · exact Spends.of_run fun d' _ => ⟨(), _, rfl, rfl, rfl, rfl⟩
  · exact Spends.fault _

theorem spends_remember (host env : String) : Spends i k (remember host env) := by
  refine spends_get.bind fun d => ?_
  split
  · exact Spends.of_run fun d' _ => ⟨(), _, rfl, rfl, rfl, rfl⟩
  · exact Spends.fault _

theorem spends_setServer (n : Nat) (f : Server → Server) : Spends i k (setServer n f) :=
  Spends.of_run fun d _ => ⟨(), _, run_setServer n f d, rfl, rfl, rfl⟩

theorem spends_takeHold : Spends i k takeHold :=
  Spends.of_world fun d _ => ⟨_, _, run_takeHold d, rfl, rfl⟩

theorem spends_launch (j sid : Nat) (host name script root : String) (st : Settings) (held : Bool) :
    Spends i k (launch j sid host name script root st held) := by
  refine Spends.of_run fun d hl => ?_
  rw [run_launch hl]
  split
  · exact ⟨_, _, rfl, rfl, rfl, rfl⟩
  · exact ⟨_, _, rfl, rfl, rfl, rfl⟩

theorem spends_runRemote (sid : Nat) (host script : String) (timeoutMs : Int) (next : RunNext) :
    Spends i k (runRemote sid host script timeoutMs next) := by
  refine Spends.of_run fun d hl => ?_
  cases hr : d.world.scriptedRuns with
  | nil =>
    simp only [runRemote, EStateM.run_bind, EStateM.run_get, run_updateWorld, run_emit, hl, hr]
    exact ⟨_, _, rfl, rfl, rfl, by simp [hl]⟩
  | cons res rest =>
    simp only [runRemote, EStateM.run_bind, EStateM.run_get, run_updateWorld, run_emit, hl, hr,
      run_post]
    exact ⟨_, _, rfl, rfl, rfl, by simp [hl]⟩

theorem spends_askInput (sid : Nat) (kind text preset : String) (choices : List String)
    (next : InputNext) : Spends i k (askInput sid kind text preset choices next) := by
  refine Spends.of_run fun d hl => ?_
  cases hi : d.world.scriptedInputs with
  | nil =>
    simp only [askInput, EStateM.run_bind, run_freshPrompt, run_emit, run_live, hl, EStateM.run_get,
      hi, run_updateWorld]
    exact ⟨_, _, rfl, rfl, rfl, by simp [hl]⟩
  | cons answer rest =>
    simp only [askInput, EStateM.run_bind, run_freshPrompt, run_emit, run_live, hl, EStateM.run_get,
      hi, run_updateWorld, run_post]
    exact ⟨_, _, rfl, rfl, rfl, by simp [hl]⟩

theorem spends_askConfirm (sid : Nat) (message : String) (actions : List String) (a : Attempt) :
    Spends i k (askConfirm sid message actions a) := by
  refine Spends.of_run fun d hl => ?_
  cases hc : d.world.scriptedConfirms with
  | nil =>
    simp only [askConfirm, EStateM.run_bind, run_freshPrompt, run_emit, run_live, hl,
      EStateM.run_get, hc, run_updateWorld]
    exact ⟨_, _, rfl, rfl, rfl, by simp [hl]⟩
  | cons answer rest =>
    simp only [askConfirm, EStateM.run_bind, run_freshPrompt, run_emit, run_live, hl,
      EStateM.run_get, hc, run_updateWorld, run_post]
    exact ⟨_, _, rfl, rfl, rfl, by simp [hl]⟩

end Effects

/-! ## Instances and timers -/

section Instances

/-- An instance whose reconnect allowance was used keeps it used. -/
theorem allowance_le_of_attempted {d' : State} {s s' : Instance} (hs : d.instances[i]? = some s)
    (hs' : d'.instances[i]? = some s') (ha : s.attempted = true → s'.attempted = true) :
    allowance i d' ≤ allowance i d := by
  simp only [allowance, hs, hs']
  cases h : s.attempted <;> cases h' : s'.attempted <;> simp_all

/-- Changing an instance in place elsewhere than in its session, without clearing its reconnect
allowance. -/
theorem spends_setInstance (j : Nat) (f : Instance → Instance) (hsid : ∀ s, (f s).sid = s.sid)
    (hatt : ∀ s, s.attempted = true → (f s).attempted = true) : Spends i k (setInstance j f) := by
  intro d _ ⟨s, hs, hk⟩
  rw [after_setInstance]
  have hget : (updateAt d.instances j f)[i]? = some (if i = j then f s else s) := by
    rw [getElem?_updateAt, hs]
    rfl
  refine ⟨rfl, ⟨_, hget, by split <;> simp [hsid, hk]⟩, le_rfl, ?_⟩
  have hle : allowance i { d with instances := updateAt d.instances j f } ≤ allowance i d :=
    allowance_le_of_attempted hs hget fun h => by split <;> simp [hatt, h]
  simp only [reconnects] at hle ⊢
  omega

/-- Changing another instance than `i`. -/
theorem spends_setInstance_other (j : Nat) (hj : j ≠ i) (f : Instance → Instance) :
    Spends i k (setInstance j f) := by
  intro d _ ⟨s, hs, hk⟩
  rw [after_setInstance]
  have hget : (updateAt d.instances j f)[i]? = d.instances[i]? := by
    rw [getElem?_updateAt, hs]
    simp [Ne.symm hj]
  refine ⟨rfl, ⟨s, hget.trans hs, hk⟩, le_rfl, ?_⟩
  simp only [reconnects, allowance, hget, le_refl]

theorem spends_updateCache (j : Nat) (f : ValidationCache → ValidationCache) :
    Spends i k (updateCache j f) :=
  spends_setInstance j _ (fun _ => by rfl) fun _ h => by exact h

theorem spends_withConfig {α : Type} (j : Nat) (op : Op Session.ConfigState α) (fallback : α) :
    Spends i k (withConfig j op fallback) := by
  intro d hl ho
  -- the configuration and the store are all that change
  have keep : ∀ cs : Session.ConfigState, Spent i k d
      { d with instances := updateAt d.instances j fun s => { s with cfg := cs.config },
               store := cs.store } := fun cs =>
    (spends_setInstance j (fun s => { s with cfg := cs.config }) (fun _ => rfl) (fun _ h => h)
      d hl ho).trans (Spent.of_still (spends_setInstance j (fun s => { s with cfg := cs.config })
        (fun _ => rfl) (fun _ h => h) d hl ho).owned ⟨rfl, rfl, rfl⟩)
  simp only [withConfig, after, EStateM.run_bind, EStateM.run_get]
  cases hs : d.instances[j]? with
  | none => simpa using Spent.refl ho
  | some s =>
    cases hr : op.run ⟨s.cfg, d.store⟩ with
    | ok a cs => simpa [hr] using keep cs
    | error e cs =>
      simp only [hr]
      exact keep cs

/-- The timers after a change of each one that keeps what it does. -/
theorem reconnects_map {d' : State} (f : Timer → Timer) (hf : ∀ t, (f t).action = t.action)
    (ht : d'.world.timers = d.world.timers.map f) : reconnects i d' = reconnects i d := by
  simp only [reconnects, ht, List.countP_map, Function.comp_def, hf]

/-- Changing each timer in a way that keeps what it does: stopping one, or settling those due. -/
theorem spends_mapTimers (g : Timer → Timer) (hg : ∀ t, (g t).action = t.action) :
    Spends i k (updateWorld fun w => { w with timers := w.timers.map g }) := by
  intro d _ ho
  rw [after_updateWorld]
  have hr : reconnects i { d with world := { d.world with timers := d.world.timers.map g } } =
      reconnects i d := reconnects_map g hg rfl
  obtain ⟨s, hs, hk⟩ := ho
  exact ⟨rfl, ⟨s, hs, hk⟩, hr.ge, by rw [hr]; rfl⟩

/-- Stopping a timer keeps it among the timers set. -/
theorem spends_stopTimer (id : Nat) : Spends i k (stopTimer id) :=
  spends_mapTimers _ fun t => by split <;> rfl

/-- The timers after one more is set. -/
theorem reconnects_append {d' : State} (t : Timer) (ht : d'.world.timers = d.world.timers ++ [t]) :
    reconnects i d' = reconnects i d + if t.action.reconnectOf = some i then 1 else 0 := by
  simp only [reconnects, ht, List.countP_append, List.countP_singleton, beq_iff_eq]

/-- Setting a timer that reconnects another instance than `i`, or none. -/
theorem spends_afterMs (ms : Nat) (action : TimerAction) (ha : action.reconnectOf ≠ some i) :
    Spends i k (afterMs ms action) := by
  intro d _ ho
  have hr : reconnects i (after (afterMs ms action) d) = reconnects i d := by
    rw [after_eq_of_run_ok (run_afterMs ms action d)]
    exact Eq.trans (reconnects_append _ rfl) (by simp [ha])
  obtain ⟨s, hs, hk⟩ := ho
  refine ⟨rfl, ⟨s, hs, hk⟩, hr.ge, ?_⟩
  rw [hr, after_eq_of_run_ok (run_afterMs ms action d)]
  rfl

end Instances

/-! ## Servers' queues and documents -/

section Queues

theorem spends_deliver (n : Nat) (m : Outgoing) : Spends i k (deliver n m) := by
  cases m with
  | handshake params =>
    refine (spends_serverCall n _ params).bind fun a => (spends_getServer n).bind fun o => ?_
    cases o with
    | none => exact Spends.pure ()
    | some srv => exact spends_post _
  | notify method params => exact spends_serverNotify n method params
  | request method params =>
    refine (spends_serverCall n method params).bind fun a => ?_
    cases a with
    | error e => exact spends_replyWith _
    | rpcError c e => exact spends_replyWith _
    | result raw =>
      exact (spends_getServer n).bind fun _ => (spends_toEditor _ raw).bind fun _ => spends_replyWith _

theorem spends_enqueue (n : Nat) (m : Outgoing) : Spends i k (enqueue n m) := by
  refine (spends_getServer n).bind fun o => ?_
  cases o with
  | none => exact Spends.pure ()
  | some srv =>
    dsimp only
    split
    · exact spends_setServer n _
    · exact spends_deliver n m

theorem spends_send (n : Nat) (method params : String) : Spends i k (send n method params) :=
  spends_enqueue n _

theorem spends_sendOpen (n : Nat) (doc : Document) : Spends i k (sendOpen n doc) := by
  refine spends_get.bind fun d => ?_
  split
  · exact spends_send n _ _
  · exact Spends.pure ()

theorem spends_release (n : Nat) : Spends i k (release n) := by
  refine (spends_getServer n).bind fun o => ?_
  cases o with
  | none => exact Spends.pure 0
  | some srv =>
    dsimp only
    exact (spends_setServer n _).bind fun _ => (Spends.forM (spends_deliver n)).bind fun _ =>
      Spends.pure _

theorem spends_relayFromServer (n : Nat) (method params : String) (isCall : Bool) :
    Spends i k (relayFromServer n method params isCall) := by
  refine (spends_getServer n).bind fun o => ?_
  cases o with
  | none => exact Spends.pure none
  | some srv =>
    dsimp only
    split
    · exact Spends.pure _
    · split
      · split <;> exact Spends.pure _
      · refine (spends_toEditor _ _).bind fun p => ?_
        split
        · exact (spends_editorNotify _ _ _).bind fun _ => Spends.pure none
        · refine (spends_editorCall _ _ _).bind fun a => ?_
          cases a with
          | result raw => exact (spends_toServer raw).bind fun _ => Spends.pure _
          | error e => exact Spends.pure _
          | rpcError c e => exact Spends.pure _

theorem spends_forgetOtherHosts (j : Nat) : Spends i k (forgetOtherHosts j) := by
  unfold forgetOtherHosts
  refine (spends_getInstance j).bind fun o => ?_
  rcases o with _ | s
  · exact Spends.pure _
  · exact spends_get.bind fun _ => spends_setInstance j _ (fun _ => by rfl) fun _ h => by exact h

theorem spends_didChange (sid : Nat) (uri : String) (version : Int) (text : String) :
    Spends i k (didChange sid uri version text) := by
  unfold didChange
  refine (spends_lookup sid).bind fun j => (spends_getInstance j).bind fun o => ?_
  rcases o with _ | s
  · exact Spends.pure _
  dsimp only
  split
  · exact Spends.pure _
  refine (spends_setInstance j _ (fun _ => by rfl) fun _ h => by exact h).bind fun _ => ?_
  split
  · refine spends_get.bind fun _ => ?_
    split
    · exact spends_send _ _ _
    · exact Spends.pure _
  · exact Spends.pure _

theorem spends_didClose (sid : Nat) (uri : String) : Spends i k (didClose sid uri) := by
  unfold didClose
  refine (spends_lookup sid).bind fun j => (spends_getInstance j).bind fun o => ?_
  rcases o with _ | s
  · exact Spends.pure _
  dsimp only
  split
  · exact Spends.pure _
  refine (spends_setInstance j _ (fun _ => by rfl) fun _ h => by exact h).bind fun _ => ?_
  split
  · refine spends_get.bind fun _ => ?_
    split
    · exact spends_send _ _ _
    · exact Spends.pure _
  · exact Spends.pure _

theorem spends_request (sid : Nat) (method params : String) :
    Spends i k (request sid method params) := by
  unfold request
  refine spends_get.bind fun _ => ?_
  split
  · exact (Spends.of_read fun _ => ⟨_, rfl⟩).bind fun _ => spends_replyWith _
  · refine (spends_getInstance _).bind fun o => ?_
    rcases o with _ | s
    · exact Spends.pure _
    dsimp only
    split
    · exact spends_replyWith _
    · exact (spends_toServer _).bind fun _ => spends_enqueue _ _

theorem spends_notify (sid : Nat) (method params : String) : Spends i k (notify sid method params) := by
  unfold notify
  refine (spends_lookup sid).bind fun j => (spends_getInstance j).bind fun o => ?_
  rcases o with _ | s
  · exact Spends.pure _
  dsimp only
  split
  · exact Spends.fail _
  · exact (spends_toServer _).bind fun _ => spends_send _ _ _

end Queues

/-! ## Starting servers and checking backends

Nothing on the way from an enable to a server's launch touches a reconnect allowance or sets a
reconnect timer.
-/

section Start

theorem spends_start (j : Nat) (root : String) : Spends i k (start j root) := by
  unfold start
  refine (spends_getInstance j).bind fun o => ?_
  rcases o with _ | s
  · exact Spends.pure _
  refine (spends_setInstance j _ (fun _ => by rfl) fun _ h => by exact h).bind fun _ =>
    spends_takeHold.bind fun _ => (spends_launch _ _ _ _ _ _ _ _).bind fun res => ?_
  cases res with
  | error m =>
    exact (spends_report _ _ _).bind fun _ => spends_setInstance j _ (fun _ => by rfl) fun _ h => by exact h
  | ok n =>
    exact (spends_setServer n _).bind fun _ =>
      (spends_setInstance j _ (fun _ => by rfl) fun _ h => by exact h).bind fun _ =>
        (spends_count _).bind fun _ => spends_enqueue n _

theorem spends_resolveRoot (j g : Nat) : Spends i k (resolveRoot j g) := by
  unfold resolveRoot
  refine (spends_getInstance j).bind fun o => ?_
  rcases o with _ | s
  · exact Spends.pure _
  refine spends_get.bind fun _ => ?_
  dsimp only
  split
  · exact spends_start j _
  all_goals repeat' split
  all_goals first | exact spends_start j _ | exact spends_runRemote _ _ _ _ _

theorem spends_rootFound (j g : Nat) (dir : String) (res : Shell.RunResult) :
    Spends i k (rootFound j g dir res) := by
  unfold rootFound
  refine (spends_getInstance j).bind fun o => ?_
  rcases o with _ | s
  · exact Spends.pure _
  dsimp only
  split
  · exact Spends.pure _
  · exact spends_start j _

theorem spends_enableDone (j g : Nat) (ok : Bool) : Spends i k (enableDone j g ok) := by
  unfold enableDone
  refine (spends_getInstance j).bind fun o => ?_
  rcases o with _ | s
  · exact Spends.pure _
  dsimp only
  split
  · exact Spends.pure _
  split
  · exact spends_setInstance j _ (fun _ => by rfl) fun _ h => by exact h
  · exact spends_resolveRoot j g

theorem spends_wake (w : Waiter) (ok : Bool) : Spends i k (wake w ok) :=
  (spends_updateCache _ _).bind fun _ => spends_enableDone _ _ _

theorem spends_resolve (a : Attempt) (ok : Bool) : Spends i k (resolve a ok) := by
  unfold resolve
  refine (spends_getKey _).bind fun _ => ?_
  dsimp only
  split
  · exact (spends_count _).bind fun _ => (spends_setKey _ _).bind fun _ =>
      Spends.forM fun w => spends_wake w ok
  · exact (spends_setKey _ _).bind fun _ => Spends.forM fun w => spends_wake w ok

theorem spends_fail (a : Attempt) (severity : Severity) (message : String) (res : Shell.RunResult) :
    Spends i k (fail a severity message res) := by
  unfold fail
  refine (spends_sidOf _).bind fun _ => (spends_report _ _ _).bind fun _ => ?_
  dsimp only
  split
  · exact (spends_writeLog _ _ _).bind fun _ => spends_resolve a false
  · exact spends_resolve a false

theorem spends_succeed (a : Attempt) : Spends i k (succeed a) :=
  (spends_count _).bind fun _ => (spends_markValid _ _).bind fun _ =>
    (spends_remember _ _).bind fun _ => spends_resolve a true

theorem spends_handOff (a : Attempt) : Spends i k (handOff a) :=
  (spends_getKey _).bind fun _ => (spends_setKey _ _).bind fun _ =>
    Spends.forM fun w => spends_wake w false

theorem spends_runFor (a : Attempt) (script : String) (timeoutMs : Int) (next : RunNext) :
    Spends i k (runFor a script timeoutMs next) :=
  (spends_sidOf _).bind fun _ => spends_runRemote _ _ _ _ _

theorem spends_install (a : Attempt) : Spends i k (install a) :=
  (spends_sidOf _).bind fun _ => (spends_report _ _ _).bind fun _ => spends_runFor _ _ _ _

theorem spends_confirmInstall (a : Attempt) : Spends i k (confirmInstall a) :=
  (spends_sidOf _).bind fun _ => spends_askConfirm _ _ _ _

theorem spends_interpreterMissing (a : Attempt) (res : Shell.RunResult) :
    Spends i k (interpreterMissing a res) := by
  unfold interpreterMissing
  refine (spends_configOf _).bind fun _ => ?_
  dsimp only
  split
  · exact (spends_updateCache _ _).bind fun _ => spends_get.bind fun _ =>
      (spends_sidOf _).bind fun _ => spends_askInput _ _ _ _ _ _
  · exact spends_fail _ _ _ _

theorem spends_promptHost (j g : Nat) : Spends i k (promptHost j g) :=
  (spends_updateCache _ _).bind fun _ => (spends_sidOf _).bind fun _ => spends_get.bind fun _ =>
    spends_askInput _ _ _ _ _ _

theorem spends_ensure (j g : Nat) (retried : Bool) : Spends i k (ensure j g retried) := by
  unfold ensure
  refine (spends_getInstance j).bind fun o => ?_
  rcases o with _ | s
  · exact Spends.pure _
  dsimp only
  split
  · exact spends_enableDone _ _ _
  split
  · exact spends_enableDone _ _ _
  split
  · split
    · exact spends_promptHost _ _
    · exact (spends_updateCache _ _).bind fun _ => (spends_report _ _ _).bind fun _ =>
        spends_enableDone _ _ _
  refine spends_get.bind fun _ => ?_
  split
  · exact (spends_count _).bind fun _ => (spends_updateCache _ _).bind fun _ =>
      spends_enableDone _ _ _
  refine (spends_getKey _).bind fun o => ?_
  rcases o with _ | ks
  · exact (spends_setKey _ _).bind fun _ => spends_runFor _ _ _ _
  dsimp only
  split
  · exact spends_setKey _ _
  · exact (spends_setKey _ _).bind fun _ => spends_runFor _ _ _ _

theorem spends_afterExecutable (a : Attempt) (res : Shell.RunResult) :
    Spends i k (afterExecutable a res) := by
  unfold afterExecutable
  split
  · exact spends_runFor _ _ _ _
  split
  · exact spends_fail _ _ _ _
  · exact spends_runFor _ _ _ _

theorem spends_afterVersion (a : Attempt) (res : Shell.RunResult) :
    Spends i k (afterVersion a res) := by
  unfold afterVersion
  split
  · exact spends_runFor _ _ _ _
  · exact spends_interpreterMissing _ _

theorem spends_afterDetect (a : Attempt) (installed : Bool) (res : Shell.RunResult) :
    Spends i k (afterDetect a installed res) := by
  unfold afterDetect
  split
  · exact spends_succeed a
  split
  · exact spends_fail _ _ _ _
  split
  · exact spends_fail _ _ _ _
  split
  · exact (spends_count _).bind fun _ => spends_fail _ _ _ _
  split
  · exact spends_install a
  · exact spends_confirmInstall a

theorem spends_afterInstall (a : Attempt) (res : Shell.RunResult) :
    Spends i k (afterInstall a res) := by
  unfold afterInstall
  split
  · exact (spends_count _).bind fun _ => spends_fail _ _ _ _
  · exact (spends_count _).bind fun _ => spends_runFor _ _ _ _

theorem spends_afterConfirm (a : Attempt) (choice : String) (ok : Bool) :
    Spends i k (afterConfirm a choice ok) := by
  unfold afterConfirm
  split
  · exact (spends_sidOf _).bind fun _ => (spends_report _ _ _).bind fun _ => spends_resolve a false
  · exact spends_install a

theorem spends_afterHost (j g : Nat) (value : String) (cancelled : Bool) :
    Spends i k (afterHost j g value cancelled) := by
  unfold afterHost
  refine (spends_updateCache _ _).bind fun _ => ?_
  split
  · exact (spends_configOf _).bind fun _ => (spends_updateCache _ _).bind fun _ =>
      spends_enableDone _ _ _
  · exact (spends_withConfig _ _ _).bind fun _ => spends_ensure _ _ _

theorem spends_afterEnvironment (a : Attempt) (res : Shell.RunResult) (value : String)
    (cancelled : Bool) : Spends i k (afterEnvironment a res value cancelled) := by
  unfold afterEnvironment
  refine (spends_updateCache _ _).bind fun _ => ?_
  dsimp only
  split
  · exact spends_fail _ _ _ _
  refine (spends_withConfig _ _ _).bind fun o => ?_
  split
  · exact spends_fail _ _ _ _
  · exact (spends_handOff a).bind fun _ => spends_ensure _ _ _

end Start

/-! ## The lifecycle

The crash of a server is where a reconnect is scheduled, and only with the allowance left; the
restart of another instance than `i` clears that instance's allowance, not `i`'s.
-/

section Lifecycle

theorem spends_cancelReconnect (j : Nat) : Spends i k (cancelReconnect j) := by
  unfold cancelReconnect
  refine (spends_getInstance j).bind fun o => ?_
  rcases o with _ | s
  · exact Spends.pure _
  dsimp only
  split
  · exact (spends_stopTimer _).bind fun _ => spends_setInstance j _ (fun _ => by rfl) fun _ h => by exact h
  · exact Spends.pure _

theorem spends_enable (j : Nat) : Spends i k (enable j) := by
  unfold enable
  refine (spends_getInstance j).bind fun o => ?_
  rcases o with _ | s
  · exact Spends.pure _
  dsimp only
  split
  · exact Spends.pure _
  split
  all_goals first
    | exact Spends.pure _
    | exact (spends_cancelReconnect j).bind fun _ =>
        (spends_setInstance j _ (fun _ => by rfl) fun _ h => by exact h).bind fun _ => spends_ensure _ _ _

theorem spends_detach (j : Nat) : Spends i k (detach j) := by
  unfold detach
  refine (spends_getInstance j).bind fun o => ?_
  rcases o with _ | s
  · exact Spends.pure _
  dsimp only
  split
  · exact Spends.pure _
  · exact (spends_setInstance j _ (fun _ => by rfl) fun _ h => by exact h).bind fun _ =>
      (spends_setServer _ _).bind fun _ => spends_serverStop _

theorem spends_halt (j : Nat) : Spends i k (halt j) :=
  (spends_cancelReconnect j).bind fun _ => (spends_detach j).bind fun _ =>
    spends_setInstance j _ (fun _ => by rfl) fun _ h => by exact h

/-- A step that sets instance `i`'s allowance used, records one more reconnect timer for it and
keeps it session `k`'s spends what was left of the allowance. -/
theorem Spent.of_schedule {d' : State} {s s' : Instance} (hs : d.instances[i]? = some s)
    (hk : s.sid = k) (hatt : s.attempted = false) (hl : d'.world.live = d.world.live)
    (hs' : d'.instances[i]? = some s') (hsid : s'.sid = s.sid) (hatt' : s'.attempted = true)
    (hr : reconnects i d' = reconnects i d + 1) : Spent i k d d' := by
  refine ⟨hl, ⟨s', hs', hsid.trans hk⟩, by omega, ?_⟩
  simp only [allowance, hs, hs', hatt, hatt', if_true, Bool.false_eq_true, if_false]
  omega

/-- A crash schedules a reconnect only for an instance whose allowance was left, and uses it. -/
theorem spends_crashed (j n : Nat) (status : ExitStatus) : Spends i k (crashed j n status) := by
  by_cases hj : j = i
  · subst hj
    intro d hl ⟨s, hs, hk⟩
    cases hsrv : d.servers[n]? with
    | none => simpa [crashed, hs, hsrv] using Spent.refl ⟨s, hs, hk⟩
    | some srv =>
    cases hr : s.reconnect with
    | some t => simpa [crashed, hs, hsrv, hr] using Spent.refl ⟨s, hs, hk⟩
    | none =>
    cases hat : s.attempted
    · -- the allowance was left: it is used, and one reconnect timer is set
      simp only [crashed, after_getInstance_bind, hs, after_getServer_bind, hsrv, hr,
        Option.isSome_none, Bool.false_eq_true, if_false, hat, after_setInstance_bind,
        after_count_bind, after_get_bind, after_report_bind, hl, after_afterMs_bind,
        after_setInstance, updateAt_updateAt_self]
      rw [updateAt_eq_const hs]
      refine Spent.of_schedule hs hk hat hl.symm (getElem?_updateAt_self hs _) rfl rfl ?_
      exact Eq.trans (reconnects_append _ rfl) (by simp [TimerAction.reconnectOf])
    · -- the allowance was used: the instance gives up, and no timer is set
      simp only [crashed, after_getInstance_bind, hs, after_getServer_bind, hsrv, hr,
        Option.isSome_none, Bool.false_eq_true, if_false, hat, if_true]
      exact ((spends_setInstance j _ (fun _ => by rfl) fun _ h => by exact h).bind fun _ =>
        (spends_count _).bind fun _ => spends_report _ _ _) d hl ⟨s, hs, hk⟩
  · exact (spends_getInstance j).bind fun o => by
      rcases o with _ | s
      · exact Spends.pure _
      refine (spends_getServer n).bind fun o' => ?_
      rcases o' with _ | srv
      · exact Spends.pure _
      dsimp only
      split
      · exact Spends.pure _
      split
      · exact (spends_setInstance_other j hj _).bind fun _ => (spends_count _).bind fun _ =>
          spends_report _ _ _
      · exact (spends_setInstance_other j hj _).bind fun _ => (spends_count _).bind fun _ =>
          spends_get.bind fun _ => (spends_report _ _ _).bind fun _ =>
            (spends_afterMs _ _ (by simp [TimerAction.reconnectOf, hj])).bind fun _ =>
              spends_setInstance_other j hj _

theorem spends_exited (j n : Nat) (status : ExitStatus) : Spends i k (exited j n status) := by
  unfold exited
  refine (spends_getInstance j).bind fun o => ?_
  rcases o with _ | s
  · exact Spends.pure _
  refine (spends_getServer n).bind fun o' => ?_
  rcases o' with _ | srv
  · exact Spends.pure _
  dsimp only
  -- every branch changes the instance without clearing its allowance, marks the server, counts
  -- the exit, and at the end of an abnormal exit of the current server crashes the instance
  repeat' first
    | exact Spends.pure _
    | exact spends_crashed j n status
    | exact spends_setInstance j _ (fun _ => by rfl) fun _ h => by exact h
    | refine (spends_setInstance j _ (fun _ => by rfl) fun _ h => by exact h).bind fun _ => ?_
    | refine (spends_setServer n _).bind fun _ => ?_
    | refine (spends_count _).bind fun _ => ?_
    | split

theorem spends_reconnectFired (j g : Nat) (buffer : String) :
    Spends i k (reconnectFired j g buffer) := by
  unfold reconnectFired
  refine (spends_getInstance j).bind fun o => ?_
  rcases o with _ | s
  · exact Spends.pure _
  dsimp only
  split
  · exact Spends.pure _
  refine (spends_setInstance j _ (fun _ => by rfl) fun _ h => by exact h).bind fun _ => ?_
  split
  · exact spends_enable j
  · exact spends_setInstance j _ (fun _ => by rfl) fun _ h => by exact h

/-- A restart of another instance than `i`; a restart clears the allowance of the one it restarts. -/
theorem spends_restart (j : Nat) (hj : j ≠ i) : Spends i k (restart j) := by
  unfold restart
  refine (spends_halt j).bind fun _ => (spends_setInstance_other j hj _).bind fun _ =>
    (spends_updateCache j _).bind fun _ => (spends_forgetOtherHosts j).bind fun _ =>
      (spends_getInstance j).bind fun o => ?_
  rcases o with _ | s
  · exact Spends.pure _
  dsimp only
  split
  · exact spends_enable j
  · exact Spends.pure _

/-- The open instance of another session than `k` is not `i`. -/
theorem spends_lookup_bind {β : Type} {sid : Nat} (hsid : sid ≠ k) {f : Nat → M β}
    (hf : ∀ j, j ≠ i → Spends i k (f j)) : Spends i k (lookup sid >>= f) := by
  intro d hl ho
  rw [after_lookup_bind]
  split
  · next j hj =>
    refine hf j ?_ d hl ho
    rintro rfl
    obtain ⟨s, hs, hk⟩ := ho
    obtain ⟨s', hs', hsid', -⟩ := openInstance_eq_some hj
    obtain rfl : s' = s := Option.some.inj (hs'.symm.trans hs)
    exact hsid (hsid'.symm.trans hk)
  · exact Spent.refl ho

theorem spends_restartSession (sid : Nat) (hsid : sid ≠ k) : Spends i k (restartSession sid) :=
  spends_lookup_bind hsid fun j hj => spends_restart j hj

theorem spends_settingsChanged (sid : Nat) (hsid : sid ≠ k) : Spends i k (settingsChanged sid) := by
  unfold settingsChanged
  refine spends_lookup_bind hsid fun j hj => (spends_getInstance j).bind fun o => ?_
  rcases o with _ | s
  · exact Spends.pure _
  dsimp only
  split
  · exact spends_restart j hj
  · exact Spends.pure _

theorem spends_stopSession (sid : Nat) : Spends i k (stopSession sid) :=
  (spends_lookup sid).bind fun j => (spends_halt j).bind fun _ =>
    spends_setInstance j _ (fun _ => by rfl) fun _ h => by exact h

theorem spends_closeSession (sid : Nat) : Spends i k (closeSession sid) :=
  (spends_lookup sid).bind fun j =>
    (spends_setInstance j _ (fun _ => by rfl) fun _ h => by exact h).bind fun _ =>
      (spends_cancelReconnect j).bind fun _ => spends_detach j

/-- A new instance comes after every one there was. -/
theorem spends_addInstance (s : Instance) :
    Spends i k (modify fun d : State => { d with instances := d.instances ++ [s] }) := by
  intro d _ ho
  obtain ⟨s₀, hs₀, hk⟩ := ho
  refine Spent.of_frame ⟨s₀, hs₀, hk⟩ ?_ rfl rfl
  exact List.getElem?_append_left (List.getElem?_eq_some_iff.mp hs₀).1

theorem spends_openSession (sid : Nat) (cfg : Session.SessionConfig) (rootUri capabilities : String) :
    Spends i k (openSession sid cfg rootUri capabilities) := by
  unfold openSession
  refine spends_get.bind fun _ => ?_
  dsimp only
  split
  case' isTrue => refine (spends_nameOf sid).bind fun _ => (Spends.fail _).bind fun _ => ?_
  -- a session already open stops the operation; otherwise its instance is added
  all_goals
    refine spends_get.bind fun _ => (spends_addInstance _).bind fun _ => spends_get.bind fun _ => ?_
    split
    · split
      · exact spends_withConfig _ _ _
      · exact Spends.pure _
    · exact Spends.pure _

theorem spends_didOpen (sid : Nat) (doc : Document) : Spends i k (didOpen sid doc) := by
  unfold didOpen
  refine (spends_lookup sid).bind fun j => spends_get.bind fun _ => ?_
  split
  · refine (spends_getInstance j).bind fun o => ?_
    rcases o with _ | s
    · exact Spends.pure _
    dsimp only
    split
    case' isTrue => refine (spends_withConfig j _ _).bind fun _ => ?_
    case' isFalse => split; exact Spends.pure _
    -- the document is recorded on the instance as it is now, and the instance enabled
    all_goals
      refine (spends_getInstance j).bind fun o => ?_
      rcases o with _ | s
      · exact Spends.pure _
      refine (spends_setInstance j _ (fun _ => by rfl) fun _ h => by exact h).bind fun _ => ?_
      split
      · split
        · exact spends_sendOpen _ _
        · exact Spends.pure _
      all_goals first
        | exact spends_enable j
        | exact Spends.pure _
  · exact Spends.pure _

/-- The answer to a server's handshake, unless it attaches instance `i`: an error stops the
server, and the attach of another instance clears that instance's allowance only. -/
theorem spends_initialized (j n : Nat) (answer : Answer) (h : j ≠ i ∨ ∀ v, answer ≠ .result v) :
    Spends i k (initialized j n answer) := by
  unfold initialized
  refine (spends_getInstance j).bind fun o => ?_
  rcases o with _ | s
  · exact Spends.pure _
  refine (spends_getServer n).bind fun o' => ?_
  rcases o' with _ | srv
  · exact Spends.pure _
  dsimp only
  split
  · exact Spends.pure _
  cases answer with
  | error e => exact (spends_report _ _ _).bind fun _ => spends_serverStop n
  | rpcError c e => exact (spends_report _ _ _).bind fun _ => spends_serverStop n
  | result v =>
    have hj : j ≠ i := h.resolve_right fun h' => h' v rfl
    refine (spends_setInstance_other j hj _).bind fun _ => (spends_send _ _ _).bind fun _ =>
      spends_get.bind fun _ => (Spends.forIn fun uri _ => ?_).bind fun _ => ?_
    · split
      · split
        · exact (spends_sendOpen _ _).bind fun _ => Spends.pure _
        · exact Spends.pure _
      · exact Spends.pure _
    · split
      · exact spends_report _ _ _
      · exact Spends.pure _

/-- A handshake answered for a server other than the current one of open instance `j` comes too
late: the instance has moved on, and the answer changes nothing. -/
theorem after_initialized_stale {j n : Nat} (answer : Answer)
    (h : (d.instances[j]?.any fun s => !s.closed && s.current == some n) = false) :
    after (initialized j n answer) d = d := by
  cases hs : d.instances[j]? with
  | none => simp only [initialized, after_getInstance_bind, hs, after_pure]
  | some s =>
    have hst : (s.closed || decide (s.current ≠ some n)) = true := by
      cases hc : s.closed <;> simp_all
    cases hsrv : d.servers[n]? <;>
      simp only [initialized, after_getInstance_bind, hs, after_getServer_bind, hsrv, hst,
        if_true, after_pure]

end Lifecycle

/-! ## What the world does -/

section World

theorem spends_completeRun (id? : Option Nat) (res : Shell.RunResult) :
    Spends i k (completeRun id? res) := by
  unfold completeRun
  refine spends_get.bind fun _ => ?_
  split <;> dsimp only <;> split
  all_goals first
    | exact Spends.pure _
    | exact (spends_updateWorld _ (fun _ => by rfl) fun _ => by rfl).bind fun _ =>
        (spends_post _).bind fun _ => Spends.pure _

theorem spends_answerInput (id? : Option Nat) (value : String) (cancelled : Bool) :
    Spends i k (answerInput id? value cancelled) := by
  unfold answerInput
  refine spends_get.bind fun _ => ?_
  split
  · exact (spends_updateWorld _ (fun _ => by rfl) fun _ => by rfl).bind fun _ =>
      (spends_post _).bind fun _ => Spends.pure _
  · exact Spends.pure _

theorem spends_answerConfirm (id? : Option Nat) (choice : String) (ok : Bool) :
    Spends i k (answerConfirm id? choice ok) := by
  unfold answerConfirm
  refine spends_get.bind fun _ => ?_
  split
  · exact (spends_updateWorld _ (fun _ => by rfl) fun _ => by rfl).bind fun _ =>
      (spends_post _).bind fun _ => Spends.pure _
  · exact Spends.pure _

theorem spends_serverExit (n? : Option Nat) (status : ExitStatus) :
    Spends i k (serverExit n? status) := by
  unfold serverExit
  refine spends_get.bind fun _ => ?_
  split
  · exact Spends.pure _
  · refine (spends_getServer _).bind fun o => ?_
    rcases o with _ | srv
    · exact Spends.pure _
    dsimp only
    split
    · exact Spends.pure _
    · exact (spends_setServer _ _).bind fun _ => (spends_post _).bind fun _ => Spends.pure _

theorem spends_serverSends (n? : Option Nat) (method params : String) (isCall : Bool) :
    Spends i k (serverSends n? method params isCall) := by
  unfold serverSends serverMessage
  refine spends_get.bind fun _ => ?_
  split
  · exact Spends.pure _
  · refine Spends.bind ((spends_relayFromServer _ _ _ _).bind fun o => ?_) fun _ => Spends.pure _
    rcases o with _ | reply
    · exact Spends.pure _
    · exact spends_replyWith reply

theorem spends_releaseServer (n? : Option Nat) : Spends i k (releaseServer n?) := by
  unfold releaseServer
  refine spends_get.bind fun _ => ?_
  split
  · exact Spends.pure _
  · exact (spends_release _).bind fun _ => Spends.pure _

theorem spends_fire (a : TimerAction) : Spends i k (fire a) := by
  cases a with
  | reconnect j g buffer => exact spends_post _
  | idle => exact spends_emit _

/-- Moving the clock settles the due timers, which keeps them set, and fires them, which only
queues reconnects. -/
theorem spends_advance (ms : Nat) : Spends i k (advance ms) := by
  unfold advance
  exact (spends_updateWorld _ (fun _ => by rfl) fun _ => by rfl).bind fun _ => spends_get.bind fun _ =>
    (spends_mapTimers _ fun t => by dsimp only; split <;> rfl).bind fun _ =>
      (Spends.forM fun (t : Timer) => spends_fire t.action).bind fun _ => spends_get.bind fun _ =>
        Spends.pure _

end World

/-! ## Resets, and the turns between them -/

section Turns

/-- The inputs that restart session `k`: a restart by the user, and changed settings. -/
def Input.restarts (k : Nat) : Input → Bool
  | .userRestart sid | .settingsChange sid => sid == k
  | _ => false

/-- The tasks that attach a server to instance `i` when run on `d`: the handshake of the
instance's current server answered with a result while the instance is open. The answer for a
server the instance has since replaced, or after it closed, attaches nothing. -/
def Task.attaches (i : Nat) (d : State) : Task → Bool
  | .initialized j n (.result _) =>
    j == i && d.instances[i]?.any fun s => !s.closed && s.current == some n
  | _ => false

/-- The turns that reset instance `i` of session `k` when taken from `d`: a restart of the
session, and a task at the head of the queue that attaches a server to the instance. -/
def Turn.resets (i k : Nat) (d : State) : Turn → Bool
  | .begin => false
  | .input x => x.restarts k
  | .task t => decide (d.world.queue.head? = some t) && t.attaches i d

/-- Whether some turn of a run from `d` resets instance `i` of session `k`, each turn judged in
the state it is taken from. -/
def Turn.resetsIn (i k : Nat) : State → List Turn → Bool
  | _, [] => false
  | d, t :: ts => t.resets i k d || resetsIn i k (after t.op d) ts

/-- Handling an input that does not restart session `k`. -/
theorem handle_spends (x : Input) (hx : x.restarts k = false) : Spends i k x.handle := by
  cases x with
  | sessionOpen sid cfg rootUri capabilities => exact spends_openSession _ _ _ _
  | sessionClose sid => exact spends_closeSession _
  | docOpen sid doc => exact spends_didOpen _ _
  | docChange sid uri version text => exact spends_didChange _ _ _ _
  | docClose sid uri => exact spends_didClose _ _
  | call sid method params => exact spends_request _ _ _
  | notification sid method params => exact spends_notify _ _ _
  | userRestart sid => exact spends_restartSession sid (by simpa [Input.restarts] using hx)
  | userStop sid => exact spends_stopSession _
  | configChange sid change => exact (spends_lookup sid).bind fun _ => spends_withConfig _ _ _
  | settingsChange sid => exact spends_settingsChanged sid (by simpa [Input.restarts] using hx)
  | runResult id? res => exact (spends_completeRun _ _).bind fun _ => Spends.pure _
  | inputAnswer id? value cancelled => exact (spends_answerInput _ _ _).bind fun _ => Spends.pure _
  | confirmAnswer id? choice ok => exact (spends_answerConfirm _ _ _).bind fun _ => Spends.pure _
  | exit n? status => exact (spends_serverExit _ _).bind fun _ => Spends.pure _
  | serverSays n? method params isCall =>
    exact (spends_serverSends _ _ _ _).bind fun _ => Spends.pure _
  | unhold n? => exact (spends_releaseServer _).bind fun _ => Spends.pure _
  | tick ms => exact (spends_advance _).bind fun _ => Spends.pure _
  | knownEnvironment host env => exact spends_remember _ _
  -- the world's settings and scripts touch no instance and no timer
  | _ =>
    simp only [Input.handle, Input.op, scriptRuns, scriptInputs, scriptConfirms, setServerAnswer,
      setNotifyError, setEditorAnswer, setLaunchFailure, holdNextServer]
    exact spends_updateWorld _ (fun _ => by rfl) fun _ => by rfl

/-- Running a task other than the answer to a handshake of instance `i`. -/
theorem runTask_spends (t : Task) (ht : ∀ n v, t ≠ .initialized i n (.result v)) :
    Spends i k (runTask t) := by
  cases t with
  | ran next res =>
    cases next with
    | executable a => exact spends_afterExecutable a res
    | version a => exact spends_afterVersion a res
    | detect a installed => exact spends_afterDetect a installed res
    | install a => exact spends_afterInstall a res
    | root j g dir => exact spends_rootFound j g dir res
  | answered next value cancelled =>
    cases next with
    | host j g => exact spends_afterHost j g value cancelled
    | environment a res => exact spends_afterEnvironment a res value cancelled
  | confirmed a choice ok => exact spends_afterConfirm a choice ok
  | initialized j n answer =>
    refine spends_initialized j n answer ?_
    cases answer with
    | result v => exact .inl fun hj => ht n v (by rw [hj])
    | error e => exact .inr fun v => by simp
    | rpcError c e => exact .inr fun v => by simp
  | exited j n status => exact spends_exited j n status
  | reconnect j g buffer => exact spends_reconnectFired j g buffer

/-- Running a task that does not attach a server to instance `i` from `d`. -/
theorem runTask_spent (t : Task) (hl : d.world.live = none) (ho : Owned i k d)
    (ht : t.attaches i d = false) : Spent i k d (after (runTask t) d) := by
  by_cases hh : ∃ n v, t = .initialized i n (.result v)
  · -- the answer for a server the instance has moved on from comes too late
    obtain ⟨n, v, rfl⟩ := hh
    rw [runTask, after_initialized_stale _ (by simpa [Task.attaches] using ht)]
    exact Spent.refl ho
  · simp only [not_exists] at hh
    exact runTask_spends t hh d hl ho

/-- A turn that does not reset instance `i` from `d` spends its allowance to schedule a reconnect. -/
theorem turn_spent (t : Turn) (hl : d.world.live = none) (ho : Owned i k d)
    (ht : t.resets i k d = false) : Spent i k d (after t.op d) := by
  cases t with
  | begin =>
    unfold Turn.op
    exact spends_updateWorld _ (fun _ => by rfl) (fun _ => by rfl) d hl ho
  | input x => exact handle_spends x ht d hl ho
  | task t =>
    cases hq : d.world.queue with
    | nil => simpa [Turn.op, hq] using Spent.refl ho
    | cons t' rest =>
      by_cases htt : t' = t
      · subst htt
        rw [after_task hq]
        -- taking the task off the queue touches no instance and no timer
        have hpop := spends_updateWorld (fun w => { w with queue := rest }) (fun _ => by rfl)
          (fun _ => by rfl) d hl ho
        rw [after_updateWorld] at hpop
        have hat : t'.attaches i d = false := by simpa [Turn.resets, hq] using ht
        exact hpop.trans (runTask_spent t' (hpop.live.trans hl) hpop.owned hat)
      · simpa [Turn.op, hq, htt] using Spent.refl ho

/-- Over a run of turns none of which resets instance `i`, the reconnect timers set for it only
spend its allowance. -/
theorem turnsAfter_spent (hl : d.world.live = none) (ho : Owned i k d) (ts : List Turn)
    (hts : Turn.resetsIn i k d ts = false) : Spent i k d (turnsAfter d ts) := by
  induction ts generalizing d with
  | nil => exact Spent.refl ho
  | cons t ts ih =>
    simp only [Turn.resetsIn, Bool.or_eq_false_iff] at hts
    have h₁ := turn_spent t hl ho hts.1
    exact h₁.trans (ih (h₁.live.trans hl) h₁.owned hts.2)

end Turns

/-! ## Giving up -/

section GivingUp

variable {extra : List (Nat × Nat)} {held : List Attempt}

/-- The crash of an instance that has used its reconnect allowance, with no reconnect pending, gives
it up and sets no timer. -/
theorem crashed_gives_up (hl : d.world.live = none) {s : Instance} (hs : d.instances[i]? = some s)
    (hatt : s.attempted = true) (hr : s.reconnect = none) {n : Nat} {srv : Server}
    (hsrv : d.servers[n]? = some srv) (status : ExitStatus) :
    ∃ s', (after (crashed i n status) d).instances[i]? = some s' ∧ s'.state = .givenUp ∧
      s'.reconnect = none ∧ (after (crashed i n status) d).world.timers = d.world.timers := by
  simp only [crashed, after_getInstance_bind, hs, after_getServer_bind, hsrv, hr,
    Option.isSome_none, Bool.false_eq_true, if_false, hatt, if_true, after_setInstance_bind,
    after_count_bind, after_report, hl]
  exact ⟨_, getElem?_updateAt_self hs _, rfl, hr, trivial⟩

/-- An abnormal exit of the current server of an instance that has used its reconnect allowance
gives the instance up: it is left with no reconnect pending, and no timer is set. -/
theorem exited_gives_up (h : Inv extra held d) (ha : Apart d) {s : Instance}
    (hs : d.instances[i]? = some s) (hatt : s.attempted = true) {n : Nat} (hc : s.current = some n)
    {status : ExitStatus} (hclean : status.clean = false) :
    ∃ s', (after (exited i n status) d).instances[i]? = some s' ∧ s'.state = .givenUp ∧
      s'.reconnect = none ∧ (after (exited i n status) d).world.timers = d.world.timers := by
  have hcoh := ha.coherent i s hs
  have hcl : s.closed = false := by
    cases h' : s.closed
    · rfl
    · simp [(hcoh.sealed h').1] at hc
  have hok := h.sessions i s hs hcl
  -- the current server's instance is neither stopped nor waiting for a reconnect, so it has no
  -- stop to absorb once its allowance is used
  obtain ⟨-, hr, hstop, -⟩ := hok.live_of_current hc
  have hsup : s.suppress = 0 := hcoh.spent hatt hcl hstop
  obtain ⟨srv, hsrv, -⟩ := hok.current_newest n hc
  simp only [exited, after_getInstance_bind, hs, after_getServer_bind, hsrv, hc, if_true,
    after_setInstance_bind, after_setServer_bind, hcl, hclean, hsup, after_count_bind,
    Bool.false_eq_true, if_false, updateAt_updateAt_self, lt_self_iff_false]
  exact crashed_gives_up (by exact h.live) (getElem?_updateAt_self hs _) (by exact hatt)
    (by exact hr) (getElem?_updateAt_self hsrv _) status

/-- An open instance that has given up puts its whole session at rest: every other instance of
the session is closed. -/
theorem Apart.rests_givenUp (ha : Apart d) {s : Instance} (hs : d.instances[i]? = some s)
    (hcl : s.closed = false) (hg : s.state = .givenUp) : Rests .givenUp s.sid d := by
  intro j t ht hk
  cases htc : t.closed
  · obtain rfl : i = j := ha.single i j s t hs ht hk.symm hcl htc
    obtain rfl : s = t := Option.some.inj (hs.symm.trans ht)
    exact .inr (.inr hg)
  · exact .inl htc

/-- From a session at rest, a run of steps none of which wakes it launches no server for it in
its last step. -/
theorem Reaches.unlaunched_runs (h : Reaches d) {r : Rest} {k : Nat} (hr : Rests r k d)
    (xs : List Input) (x : Input) (hx : ∀ y ∈ x :: xs, ¬ y.Wakes r k) :
    Unlaunched k (after x.run (runs d xs)).world.events := by
  have hrun := h.rests_runs hr xs fun y hy => hx y (List.mem_cons_of_mem x hy)
  exact ((h.after_runs xs).rests_step hrun (hx x List.mem_cons_self)).2

/-- Bounded reconnect. Take an instance of a reachable daemon, and any run of turns of the loop
after it that resets neither the instance, by attaching its current server to it, nor its session,
by a restart of the user or for changed settings; each turn is judged in the state it is taken
from, so a handshake answered for a server the instance has since replaced is no reset. The run sets at most one reconnect timer for the
instance, and none once it has used its allowance. Once the run has set one, an abnormal exit of
the instance's current server gives the instance up, with no reconnect pending and no timer set.
And while an open instance is given up, no step launches a server for its session, whatever
documents are opened, timers fire or checks are answered, until the session is restarted by the
user or for changed settings (or opened again). -/
theorem reconnect_once_between_resets (hd : Reaches d) {s : Instance}
    (hs : d.instances[i]? = some s) :
    (∀ ts : List Turn, Turn.resetsIn i s.sid d ts = false →
      reconnects i (turnsAfter d ts) ≤ reconnects i d + if s.attempted then 0 else 1) ∧
    (∀ ts : List Turn, Turn.resetsIn i s.sid d ts = false →
      reconnects i d < reconnects i (turnsAfter d ts) →
      ∀ (n : Nat) (status : ExitStatus) (s₁ : Instance),
        (turnsAfter d ts).instances[i]? = some s₁ → s₁.current = some n → status.clean = false →
        ∃ s₂, (after (exited i n status) (turnsAfter d ts)).instances[i]? = some s₂ ∧
          s₂.state = .givenUp ∧ s₂.reconnect = none ∧
          (after (exited i n status) (turnsAfter d ts)).world.timers = (turnsAfter d ts).world.timers) ∧
    (s.closed = false → s.state = .givenUp →
      ∀ (xs : List Input) (x : Input), (∀ y ∈ x :: xs, ¬ y.Wakes .givenUp s.sid) →
        Unlaunched s.sid (after x.run (runs d xs)).world.events) := by
  have hl : d.world.live = none := hd.inv.live
  have ho : Owned i s.sid d := ⟨s, hs, rfl⟩
  refine ⟨fun ts hts => ?_, fun ts hts hlt n status s₁ hs₁ hc hclean => ?_,
    fun hcl hg => hd.unlaunched_runs (hd.apart.rests_givenUp hs hcl hg)⟩
  · -- the count and the allowance together do not grow
    have hsp := (turnsAfter_spent hl ho ts hts).spent
    rw [allowance_of_instance hs] at hsp
    omega
  · -- the timer set used the allowance, so the crash finds it used
    have hu := (turnsAfter_spent hl ho ts hts).used hlt
    have hatt : s₁.attempted = true := by
      rw [allowance_of_instance hs₁] at hu
      cases h : s₁.attempted <;> simp_all
    exact exited_gives_up (turnsAfter_inv hd.inv ts) (turnsAfter_apart hd.inv hd.apart ts) hs₁ hatt
      hc hclean

/-- The instance of a session just opened on a new daemon is bounded in its reconnects. -/
theorem reconnect_once_between_resets_opened :
    ∃ (d : State) (s : Instance), Reaches d ∧ d.instances[0]? = some s ∧
    (∀ ts : List Turn, Turn.resetsIn 0 s.sid d ts = false →
      reconnects 0 (turnsAfter d ts) ≤ reconnects 0 d + if s.attempted then 0 else 1) ∧
    (∀ ts : List Turn, Turn.resetsIn 0 s.sid d ts = false →
      reconnects 0 d < reconnects 0 (turnsAfter d ts) →
      ∀ (n : Nat) (status : ExitStatus) (s₁ : Instance),
        (turnsAfter d ts).instances[0]? = some s₁ → s₁.current = some n → status.clean = false →
        ∃ s₂, (after (exited 0 n status) (turnsAfter d ts)).instances[0]? = some s₂ ∧
          s₂.state = .givenUp ∧ s₂.reconnect = none ∧
          (after (exited 0 n status) (turnsAfter d ts)).world.timers = (turnsAfter d ts).world.timers) ∧
    (s.closed = false → s.state = .givenUp →
      ∀ (xs : List Input) (x : Input), (∀ y ∈ x :: xs, ¬ y.Wakes .givenUp s.sid) →
        Unlaunched s.sid (after x.run (runs d xs)).world.events) := by
  have hd := Reaches.step (.sessionOpen 0 default "" "")
    (@Reaches.init {} ⟨[], [], none⟩ .numbered {} _ rfl rfl rfl rfl rfl)
  exact ⟨_, _, hd, rfl, reconnect_once_between_resets hd rfl⟩

end GivingUp

end RemoteLsp.Daemon
