import RemoteLsp.Proofs.Accounting

/-!
# Operations that settle

Recording events, counting, asking the editor, relaying messages to servers and back, setting
timers, stopping servers and changing sessions in any way but starting an enable leave the
work in flight of the daemon as it was. They *settle*: the keys, the pending runs and prompts
and what the queue continues stay the same, no instance starts provisioning, and the store
stays ready. With the lifecycle invariant, this is all the accounting asks of them.
-/

namespace RemoteLsp

namespace Session.ConfigState

/-- Every state the operation can end in, whether it returns or stops, has a ready store when
the state it started from had one. -/
def KeepsReady {α : Type} (op : Op ConfigState α) : Prop :=
  ∀ cs : ConfigState, cs.store.Ready →
    (∀ a cs', op.run cs = .ok a cs' → cs'.store.Ready) ∧
      ∀ e cs', op.run cs = .error e cs' → cs'.store.Ready

namespace KeepsReady

variable {α β : Type}

theorem pure (a : α) : KeepsReady (Pure.pure a : Op ConfigState α) := fun _ h =>
  ⟨fun _ _ hr => (by cases hr; exact h), fun _ _ hr => (by cases hr)⟩

theorem bind {x : Op ConfigState α} {f : α → Op ConfigState β} (hx : KeepsReady x)
    (hf : ∀ a, KeepsReady (f a)) : KeepsReady (x >>= f) := by
  intro cs h
  obtain ⟨hok, herr⟩ := hx cs h
  rw [EStateM.run_bind]
  cases hr : x.run cs with
  | ok a cs' => exact hf a cs' (hok a cs' hr)
  | error e cs' =>
    refine ⟨fun _ _ hr' => (by cases hr'), fun _ _ hr' => ?_⟩
    cases hr'
    exact herr e cs' hr

/-- An operation that changes only the configuration. -/
theorem of_run {op : Op ConfigState α}
    (h : ∀ cs, (∃ a cs', op.run cs = .ok a cs' ∧ cs'.store = cs.store) ∨
      ∃ e, op.run cs = .error e cs) : KeepsReady op := by
  intro cs hr
  rcases h cs with ⟨a, cs', hrun, hs⟩ | ⟨e, hrun⟩
  · rw [hrun]
    refine ⟨fun _ _ h' => ?_, fun _ _ h' => (by cases h')⟩
    cases h'
    rw [hs]
    exact hr
  · rw [hrun]
    refine ⟨fun _ _ h' => (by cases h'), fun _ _ h' => ?_⟩
    cases h'
    exact hr

/-- Catching the errors of an operation leaves the states it ends in as they were. -/
theorem attempt {op : Op ConfigState α} (h : KeepsReady op) : KeepsReady (Op.attempt op) := by
  intro cs hr
  obtain ⟨hok, herr⟩ := h cs hr
  cases hrun : op.run cs with
  | ok a cs' =>
    rw [Op.attempt_run_ok hrun]
    exact ⟨fun _ _ h' => by cases h'; exact hok a cs' hrun, fun _ _ h' => (by cases h')⟩
  | error e cs' =>
    cases e with
    | failed p =>
      rw [Op.attempt_run_failed hrun]
      exact ⟨fun _ _ h' => by cases h'; exact herr _ cs' hrun, fun _ _ h' => (by cases h')⟩
    | fault m =>
      rw [Op.attempt_run_fault hrun]
      exact ⟨fun _ _ h' => (by cases h'), fun _ _ h' => by cases h'; exact herr _ cs' hrun⟩

end KeepsReady

theorem keepsReady_update (f : SessionConfig → SessionConfig) : KeepsReady (update f) :=
  KeepsReady.of_run fun cs => .inl ⟨(), _, run_update f cs, rfl⟩

theorem keepsReady_updateSettings (f : Settings → Settings) : KeepsReady (updateSettings f) :=
  keepsReady_update _

theorem keepsReady_resetCache : KeepsReady resetCache := keepsReady_update _

theorem keepsReady_current : KeepsReady current :=
  KeepsReady.of_run fun cs => .inl ⟨_, cs, rfl, rfl⟩

theorem keepsReady_ofExcept {α : Type} (r : Except Problem α) : KeepsReady (ofExcept r) := by
  cases r with
  | ok a => exact KeepsReady.pure a
  | error p => exact KeepsReady.of_run fun cs => .inr ⟨_, rfl⟩

theorem keepsReady_setHost (host : String) : KeepsReady (setHost host) :=
  KeepsReady.of_run fun cs => .inl (by
    obtain ⟨cs', hr, hs⟩ := setHost_returns host cs
    exact ⟨(), cs', hr, hs⟩)

theorem keepsReady_setEnvironment (raw : String) : KeepsReady (setEnvironment raw) := by
  intro cs h
  rcases setEnvironment_run raw h with ⟨cs', hr, hready⟩ | ⟨p, hr⟩
  · rw [hr]
    refine ⟨fun _ _ h' => ?_, fun _ _ h' => (by cases h')⟩
    cases h'
    exact hready
  · rw [hr]
    refine ⟨fun _ _ h' => (by cases h'), fun _ _ h' => ?_⟩
    cases h'
    exact h

theorem keepsReady_clearEnvironment : KeepsReady clearEnvironment := by
  refine keepsReady_current.bind fun c => ?_
  split
  · exact KeepsReady.pure _
  · exact (keepsReady_updateSettings _).bind fun _ => keepsReady_resetCache

theorem keepsReady_setWorkspaceRoot (path : String) : KeepsReady (setWorkspaceRoot path) :=
  (keepsReady_ofExcept _).bind fun _ => keepsReady_updateSettings _

theorem keepsReady_setBackend (name : String) : KeepsReady (setBackend name) := by
  unfold setBackend
  refine KeepsReady.bind ?_ ?_
  · exact keepsReady_ofExcept _
  · intro b
    refine KeepsReady.bind keepsReady_current fun c => ?_
    split
    · exact (keepsReady_updateSettings _).bind fun _ => keepsReady_resetCache
    · exact KeepsReady.pure _

theorem keepsReady_setAutoInstall (v : Bool) : KeepsReady (setAutoInstall v) :=
  keepsReady_updateSettings _

theorem keepsReady_setNotifyOnStart (v : Bool) : KeepsReady (setNotifyOnStart v) :=
  keepsReady_updateSettings _

theorem keepsReady_apply (o : SessionOptions) : KeepsReady (apply o) := by
  unfold apply
  refine keepsReady_current.bind fun before => ?_
  -- each option continues with the join point of the next one; the last reads the result
  extract_lets _ last allowPrompt notify autoInstall environment host root
  have hlast : ∀ u, KeepsReady (last u) := fun _ => keepsReady_current.bind fun _ => KeepsReady.pure _
  have hallow : ∀ u, KeepsReady (allowPrompt u) := by
    intro u
    simp only [allowPrompt]
    split
    · exact (keepsReady_update _).bind hlast
    · exact hlast ()
  have hnotify : ∀ u, KeepsReady (notify u) := by
    intro u
    simp only [notify]
    split
    · exact (keepsReady_setNotifyOnStart _).bind hallow
    · exact hallow ()
  have hauto : ∀ u, KeepsReady (autoInstall u) := by
    intro u
    simp only [autoInstall]
    split
    · exact (keepsReady_setAutoInstall _).bind hnotify
    · exact hnotify ()
  have henv : ∀ u, KeepsReady (environment u) := by
    intro u
    simp only [environment]
    split
    · split
      · exact keepsReady_clearEnvironment.bind hauto
      · exact (keepsReady_setEnvironment _).bind hauto
    · exact hauto ()
  have hhost : ∀ u, KeepsReady (host u) := by
    intro u
    simp only [host]
    split
    · exact (keepsReady_setHost _).bind henv
    · exact henv ()
  have hroot : ∀ u, KeepsReady (root u) := by
    intro u
    simp only [root]
    split
    · exact (keepsReady_setWorkspaceRoot _).bind hhost
    · exact hhost ()
  split
  · exact (keepsReady_setBackend _).bind hroot
  · exact hroot ()
end Session.ConfigState

namespace Daemon

/-- A change of an instance that neither starts an enable nor reopens it: if it leaves the
instance open and provisioning, the instance was so already, in the same generation. -/
def StartsNoEnable (f : Instance → Instance) : Prop :=
  ∀ s, (f s).closed = false → (f s).state = .provisioning →
    s.closed = false ∧ s.state = .provisioning ∧ (f s).gen = s.gen

/-- A change that keeps whether the instance is closed, its state and its generation. -/
theorem StartsNoEnable.of_eq {f : Instance → Instance} (hc : ∀ s, (f s).closed = s.closed)
    (hs : ∀ s, (f s).state = s.state) (hg : ∀ s, (f s).gen = s.gen) : StartsNoEnable f :=
  fun s hcl hp => ⟨hc s ▸ hcl, hs s ▸ hp, hg s⟩

/-- A change that leaves the instance in a state other than provisioning. -/
theorem StartsNoEnable.of_state {f : Instance → Instance} (hs : ∀ s, (f s).state ≠ .provisioning) :
    StartsNoEnable f :=
  fun s _ hp => absurd hp (hs s)

theorem Settles.setInstance (d : State) (i : Nat) {f : Instance → Instance}
    (hf : StartsNoEnable f) : Settles d { d with instances := updateAt d.instances i f } := by
  refine ⟨rfl, rfl, rfl, rfl, ⟨[], by simp, by simp⟩, rfl, Nat.le_refl _, Nat.le_refl _, id,
    fun j s' hs' hcl hp => ?_⟩
  simp only [getElem?_updateAt, Option.map_eq_some_iff] at hs'
  obtain ⟨s, hs, rfl⟩ := hs'
  by_cases hj : j = i
  · simp only [hj, if_true] at hcl hp ⊢
    obtain ⟨hcl₀, hp₀, hg⟩ := hf s hcl hp
    exact ⟨s, hj ▸ hs, hcl₀, hp₀, hg.symm⟩
  · simp only [hj, if_false] at hcl hp ⊢
    exact ⟨s, hs, hcl, hp, rfl⟩

/-! ## Reads and effects -/

section Effects

theorem settled_get : Settled (get : M State) := Settled.of_read fun d => ⟨d, rfl⟩

theorem settled_getInstance (i : Nat) : Settled (getInstance i) :=
  Settled.of_read fun d => ⟨_, run_getInstance i d⟩

theorem settled_getServer (n : Nat) : Settled (getServer n) :=
  Settled.of_read fun d => ⟨_, run_getServer n d⟩

theorem settled_nameOf (sid : Nat) : Settled (nameOf sid) :=
  Settled.of_read fun d => ⟨_, run_nameOf sid d⟩

theorem settled_emit (e : Event) : Settled (emit e) :=
  Settled.of_run fun d _ => ⟨_, _, run_emit e d, Settles.world rfl rfl rfl rfl rfl rfl⟩

theorem settled_addCount (name : String) (n : Nat) : Settled (addCount name n) :=
  Settled.of_run fun d _ =>
    ⟨_, _, run_addCount name n d, Settles.of_frame rfl rfl rfl rfl rfl rfl rfl rfl rfl⟩

theorem settled_count (name : String) : Settled (count name) := settled_addCount name 1

theorem settled_replyWith (r : Reply) : Settled (replyWith r) := by
  refine Settled.of_run fun d _ => ⟨_, _, run_replyWith r d, ?_⟩
  split
  · exact Settles.refl _
  · exact Settles.world rfl rfl rfl rfl rfl rfl

theorem settled_report (sid : Nat) (severity : Severity) (m : String) :
    Settled (report sid severity m) :=
  Settled.of_run fun _ hl =>
    ⟨_, _, run_report hl sid severity m, Settles.world rfl rfl rfl rfl rfl rfl⟩

theorem settled_writeLog (sid : Nat) (pfx text : String) : Settled (writeLog sid pfx text) := by
  refine Settled.of_run fun d hl => ⟨_, _, run_writeLog hl sid pfx text, ?_⟩
  split
  · exact Settles.refl _
  · exact Settles.world rfl rfl rfl rfl rfl rfl

theorem settled_editorNotify (sid : Nat) (method params : String) :
    Settled (editorNotify sid method params) :=
  Settled.of_run fun _ hl =>
    ⟨_, _, run_editorNotify hl sid method params, Settles.world rfl rfl rfl rfl rfl rfl⟩

theorem settled_editorCall (sid : Nat) (method params : String) :
    Settled (editorCall sid method params) :=
  Settled.of_run fun _ hl =>
    ⟨_, _, run_editorCall hl sid method params, Settles.world rfl rfl rfl rfl rfl rfl⟩

theorem settled_serverCall (n : Nat) (method params : String) :
    Settled (serverCall n method params) :=
  Settled.of_run fun _ hl =>
    ⟨_, _, run_serverCall hl n method params, Settles.world rfl rfl rfl rfl rfl rfl⟩

theorem settled_serverNotify (n : Nat) (method params : String) :
    Settled (serverNotify n method params) :=
  Settled.of_run fun _ hl =>
    ⟨_, _, run_serverNotify hl n method params, Settles.world rfl rfl rfl rfl rfl rfl⟩

theorem settled_serverStop (n : Nat) : Settled (serverStop n) :=
  Settled.of_run fun _ hl => ⟨_, _, run_serverStop hl n, Settles.world rfl rfl rfl rfl rfl rfl⟩

theorem settled_stopTimer (id : Nat) : Settled (stopTimer id) :=
  Settled.of_run fun d _ => ⟨_, _, run_stopTimer id d, Settles.world rfl rfl rfl rfl rfl rfl⟩

theorem settled_afterMs (ms : Nat) (action : TimerAction) : Settled (afterMs ms action) :=
  Settled.of_run fun d _ => ⟨_, _, run_afterMs ms action d, Settles.world rfl rfl rfl rfl rfl rfl⟩

theorem settled_toEditor (host payload : String) : Settled (toEditor host payload) :=
  settled_get.bind fun _ => (settled_addCount _ _).bind fun _ => (settled_addCount _ _).bind fun _ =>
    Settled.pure _

theorem settled_toServer (payload : String) : Settled (toServer payload) :=
  settled_get.bind fun _ => (settled_addCount _ _).bind fun _ => (settled_addCount _ _).bind fun _ =>
    Settled.pure _

/-- Looking up an open session reads the state, or stops where it is. -/
theorem settled_lookup (sid : Nat) : Settled (lookup sid) := by
  intro d _
  cases hs : openInstance d sid with
  | some i => rw [after_eq_of_run_ok (run_lookup_some hs)]; exact Settles.refl d
  | none =>
    obtain ⟨e, he⟩ := run_lookup_none hs
    simpa [after, he] using Settles.refl d

theorem settled_notFound (sid : Nat) : Settled (notFound sid) := Settled.of_read fun _ => ⟨_, rfl⟩

theorem settled_setInstance (i : Nat) {f : Instance → Instance} (hf : StartsNoEnable f) :
    Settled (setInstance i f) :=
  Settled.of_run fun d _ => ⟨_, _, run_setInstance i f d, Settles.setInstance d i hf⟩

theorem settled_updateCache (i : Nat) (f : ValidationCache → ValidationCache) :
    Settled (updateCache i f) :=
  settled_setInstance i (StartsNoEnable.of_eq (fun _ => rfl) (fun _ => rfl) fun _ => rfl)

theorem settled_setServer (n : Nat) (f : Server → Server) : Settled (setServer n f) :=
  Settled.of_run fun d _ =>
    ⟨_, _, run_setServer n f d, Settles.of_frame rfl rfl rfl rfl rfl rfl rfl rfl rfl⟩

theorem settled_takeHold : Settled takeHold :=
  Settled.of_run fun d _ => ⟨_, _, run_takeHold d, Settles.world rfl rfl rfl rfl rfl rfl⟩

theorem settled_launch (inst sid : Nat) (host name script root : String) (settings : Settings)
    (held : Bool) : Settled (launch inst sid host name script root settings held) := by
  refine Settled.of_run fun d hl => ?_
  rw [run_launch hl]
  cases d.world.launchFailure with
  | some m => exact ⟨_, _, rfl, Settles.world rfl rfl rfl rfl rfl rfl⟩
  | none => exact ⟨_, _, rfl, Settles.of_frame rfl rfl rfl rfl rfl rfl rfl rfl rfl⟩

/-- A change of the store alone that keeps it ready. -/
theorem Settles.store (d : State) {st : Identity.Store} (h : d.store.Ready → st.Ready) :
    Settles d { d with store := st } :=
  ⟨rfl, rfl, rfl, rfl, ⟨[], by simp, by simp⟩, rfl, Nat.le_refl _, Nat.le_refl _, h,
    fun _ s' hs hcl hp => ⟨s', hs, hcl, hp, rfl⟩⟩

/-- Recording a valid environment keeps a ready store ready; a fault leaves it as it was. -/
theorem settled_markValid (key env : String) : Settled (markValid key env) := by
  intro d _
  cases hm : d.store.markValid key env with
  | ok st =>
    have ha : after (markValid key env) d = { d with store := st } := by
      simp [after, markValid, hm]
    rw [ha]
    refine Settles.store d fun hr => ?_
    obtain ⟨st', hst', hready⟩ := Identity.Store.markValid_ready hr key env
    rw [hm, Except.ok.injEq] at hst'
    exact hst' ▸ hready
  | error m =>
    have ha : after (markValid key env) d = d := by simp [after, markValid, hm, Op.fault]
    rw [ha]
    exact Settles.refl d

/-- Remembering an environment keeps a ready store ready; a fault leaves it as it was. -/
theorem settled_remember (host env : String) : Settled (remember host env) := by
  intro d _
  cases hm : d.store.remember host env with
  | ok st =>
    have ha : after (remember host env) d = { d with store := st } := by
      simp [after, remember, hm]
    rw [ha]
    refine Settles.store d fun hr => ?_
    obtain ⟨st', hst', hready⟩ := Identity.Store.remember_ready hr host env
    rw [hm, Except.ok.injEq] at hst'
    exact hst' ▸ hready
  | error m =>
    have ha : after (remember host env) d = d := by simp [after, remember, hm, Op.fault]
    rw [ha]
    exact Settles.refl d

end Effects

/-! ## Configurations, tasks and server queues -/

section Queues

/-- A configuration operation that keeps a ready store ready, on the configuration of an
instance, settles whether it returns or stops. -/
theorem settled_withConfig {α : Type} (i : Nat) {op : Op Session.ConfigState α} (fallback : α)
    (h : Session.ConfigState.KeepsReady op) : Settled (withConfig i op fallback) := by
  intro d _
  -- only the instance's configuration and the store change
  have keep : ∀ cs : Session.ConfigState, (d.store.Ready → cs.store.Ready) → Settles d
      { d with instances := updateAt d.instances i fun s => { s with cfg := cs.config },
               store := cs.store } := fun cs hr =>
    (Settles.setInstance d i (f := fun s => { s with cfg := cs.config })
      (StartsNoEnable.of_eq (fun _ => rfl) (fun _ => rfl) fun _ => rfl)).trans (Settles.store _ hr)
  simp only [withConfig, after, EStateM.run_bind, EStateM.run_get]
  cases hs : d.instances[i]? with
  | none => simpa using Settles.refl d
  | some s =>
    cases hr : op.run ⟨s.cfg, d.store⟩ with
    | ok a cs => simpa [hr] using keep cs fun hready => (h _ hready).1 a cs hr
    | error e cs =>
      simp only [hr]
      exact keep cs fun hready => (h _ hready).2 e cs hr

/-- Queueing a task that continues no enable and no check. -/
theorem Settles.post (d : State) {t : Task} (he : t.enable? = none) (hc : t.check? = none) :
    Settles d { d with world := { d.world with queue := d.world.queue ++ [t] } } :=
  ⟨rfl, rfl, rfl, by simp [he], ⟨[t], rfl, by simp [hc]⟩, rfl, Nat.le_refl _, Nat.le_refl _, id,
    fun _ s' hs hcl hp => ⟨s', hs, hcl, hp, rfl⟩⟩

theorem settled_post {t : Task} (he : t.enable? = none) (hc : t.check? = none) : Settled (post t) :=
  Settled.of_run fun d _ => ⟨(), _, run_post t d, Settles.post d he hc⟩

/-- A change of the world elsewhere than in its work in flight and its ids. -/
theorem settled_updateWorld (f : World → World) (hq : ∀ w, (f w).queue = w.queue)
    (hr : ∀ w, (f w).pendingRuns = w.pendingRuns) (hp : ∀ w, (f w).prompts = w.prompts)
    (hl : ∀ w, (f w).live = w.live) (hn : ∀ w, (f w).nextRun = w.nextRun)
    (hm : ∀ w, (f w).nextPrompt = w.nextPrompt) : Settled (updateWorld f) :=
  Settled.of_run fun _ _ =>
    ⟨(), _, rfl, Settles.world (hq _) (hr _) (hp _) (hl _) (hn _) (hm _)⟩

theorem settled_deliver (n : Nat) (m : Outgoing) : Settled (deliver n m) := by
  cases m with
  | handshake params =>
    refine (settled_serverCall n _ params).bind fun a => (settled_getServer n).bind fun o => ?_
    cases o with
    | none => exact Settled.pure ()
    | some srv => exact settled_post rfl rfl
  | notify method params => exact settled_serverNotify n method params
  | request method params =>
    refine (settled_serverCall n method params).bind fun a => ?_
    cases a with
    | error e => exact settled_replyWith _
    | rpcError c e => exact settled_replyWith _
    | result r =>
      exact (settled_getServer n).bind fun _ => (settled_toEditor _ r).bind fun _ =>
        settled_replyWith _

theorem settled_enqueue (n : Nat) (m : Outgoing) : Settled (enqueue n m) := by
  refine (settled_getServer n).bind fun o => ?_
  cases o with
  | none => exact Settled.pure ()
  | some srv =>
    dsimp only
    split
    · exact settled_setServer n _
    · exact settled_deliver n m

theorem settled_send (n : Nat) (method params : String) : Settled (send n method params) :=
  settled_enqueue n _

theorem settled_sendOpen (n : Nat) (doc : Document) : Settled (sendOpen n doc) := by
  refine settled_get.bind fun d => ?_
  split
  · exact settled_send n _ _
  · exact Settled.pure ()

theorem settled_release (n : Nat) : Settled (release n) := by
  refine (settled_getServer n).bind fun o => ?_
  cases o with
  | none => exact Settled.pure 0
  | some srv =>
    dsimp only
    exact (settled_setServer n _).bind fun _ =>
      (Settled.forM fun m => settled_deliver n m).bind fun _ => Settled.pure _

theorem settled_relayFromServer (n : Nat) (method params : String) (isCall : Bool) :
    Settled (relayFromServer n method params isCall) := by
  refine (settled_getServer n).bind fun o => ?_
  cases o with
  | none => exact Settled.pure none
  | some srv =>
    dsimp only
    split
    · exact Settled.pure _
    · split
      · split <;> exact Settled.pure _
      · refine (settled_toEditor _ _).bind fun p => ?_
        split
        · exact (settled_editorNotify _ _ _).bind fun _ => Settled.pure none
        · refine (settled_editorCall _ _ _).bind fun a => ?_
          cases a with
          | result r => exact (settled_toServer r).bind fun _ => Settled.pure _
          | error e => exact Settled.pure _
          | rpcError c e => exact Settled.pure _

end Queues

end Daemon

end RemoteLsp
