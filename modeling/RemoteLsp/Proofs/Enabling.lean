import RemoteLsp.Proofs.Continuing

/-!
# Sessions keep the accounting

Opening and closing sessions, tracking documents, relaying traffic, stopping, detaching, and
the handling of a server's answer, crash and exit change instances but start no enable: an
instance they leave provisioning was provisioning before, in the same generation. So they
settle, and keep the accounting as soon as they keep the lifecycle invariant.

The operations that enable an instance move it to a new generation and take the enable of that
generation in hand. No enable of the new generation is under way anywhere, so the enable is
new, and the provisioner then continues it exactly once.
-/

namespace RemoteLsp.Daemon

open Identity

variable {d : State} {extra : List (Nat × Nat)} {held : List Attempt}

/-! ## Changes of instances that settle -/

/-- A new instance that is not provisioning. -/
theorem Settles.addInstance (d : State) {s : Instance} (hs : s.state ≠ .provisioning) :
    Settles d { d with instances := d.instances ++ [s] } := by
  refine ⟨rfl, rfl, rfl, rfl, ⟨[], by simp, by simp⟩, rfl, Nat.le_refl _, Nat.le_refl _, id,
    fun j s' hj hcl hp => ?_⟩
  rcases getElem?_append_singleton_eq_some.mp hj with hj | ⟨-, rfl⟩
  · exact ⟨s', hj, hcl, hp, rfl⟩
  · exact absurd hp hs

theorem settled_cancelReconnect (i : Nat) : Settled (cancelReconnect i) := by
  unfold cancelReconnect
  refine (settled_getInstance i).bind fun o => ?_
  rcases o with _ | s
  · exact Settled.pure ()
  dsimp only
  split
  · exact (settled_stopTimer _).bind fun _ =>
      settled_setInstance i (StartsNoEnable.of_eq (fun _ => rfl) (fun _ => rfl) fun _ => rfl)
  · exact Settled.pure ()

theorem settled_detach (i : Nat) : Settled (detach i) := by
  unfold detach
  refine (settled_getInstance i).bind fun o => ?_
  rcases o with _ | s
  · exact Settled.pure ()
  dsimp only
  split
  · exact Settled.pure ()
  · refine Settled.bind ?_ fun _ => (settled_setServer _ _).bind fun _ => settled_serverStop _
    exact settled_setInstance i (StartsNoEnable.of_eq (fun _ => rfl) (fun _ => rfl) fun _ => rfl)

/-- Halting leaves the instance idle in a new generation. -/
theorem settled_halt (i : Nat) : Settled (halt i) :=
  (settled_cancelReconnect i).bind fun _ => (settled_detach i).bind fun _ =>
    settled_setInstance i (StartsNoEnable.of_state fun _ => by simp)

theorem settled_forgetOtherHosts (i : Nat) : Settled (forgetOtherHosts i) := by
  unfold forgetOtherHosts
  refine (settled_getInstance i).bind fun o => ?_
  rcases o with _ | s
  · exact Settled.pure ()
  exact settled_get.bind fun _ =>
    settled_setInstance i (StartsNoEnable.of_eq (fun _ => rfl) (fun _ => rfl) fun _ => rfl)

theorem settled_didChange (sid : Nat) (uri : String) (version : Int) (text : String) :
    Settled (didChange sid uri version text) := by
  unfold didChange
  refine (settled_lookup sid).bind fun i => (settled_getInstance i).bind fun o => ?_
  rcases o with _ | s
  · exact Settled.pure ()
  dsimp only
  split
  · exact Settled.pure ()
  refine Settled.bind ?_ fun _ => ?_
  · exact settled_setInstance i (StartsNoEnable.of_eq (fun _ => rfl) (fun _ => rfl) fun _ => rfl)
  split
  · refine settled_get.bind fun _ => ?_
    split
    · exact settled_send _ _ _
    · exact Settled.pure ()
  · exact Settled.pure ()

theorem settled_didClose (sid : Nat) (uri : String) : Settled (didClose sid uri) := by
  unfold didClose
  refine (settled_lookup sid).bind fun i => (settled_getInstance i).bind fun o => ?_
  rcases o with _ | s
  · exact Settled.pure ()
  dsimp only
  split
  · exact Settled.pure ()
  refine Settled.bind ?_ fun _ => ?_
  · exact settled_setInstance i (StartsNoEnable.of_eq (fun _ => rfl) (fun _ => rfl) fun _ => rfl)
  split
  · refine settled_get.bind fun _ => ?_
    split
    · exact settled_send _ _ _
    · exact Settled.pure ()
  · exact Settled.pure ()

theorem settled_request (sid : Nat) (method params : String) :
    Settled (request sid method params) := by
  unfold request
  refine settled_get.bind fun _ => ?_
  split
  · exact (settled_notFound sid).bind fun _ => settled_replyWith _
  · refine (settled_getInstance _).bind fun o => ?_
    rcases o with _ | s
    · exact Settled.pure ()
    dsimp only
    split
    · exact settled_replyWith _
    · exact (settled_toServer _).bind fun _ => settled_enqueue _ _

theorem settled_notify (sid : Nat) (method params : String) : Settled (notify sid method params) := by
  unfold notify
  refine (settled_lookup sid).bind fun i => (settled_getInstance i).bind fun o => ?_
  rcases o with _ | s
  · exact Settled.pure ()
  dsimp only
  split
  · exact Settled.fail _
  · exact (settled_toServer _).bind fun _ => settled_send _ _ _

theorem settled_stopSession (sid : Nat) : Settled (stopSession sid) := by
  unfold stopSession
  refine (settled_lookup sid).bind fun i => (settled_halt i).bind fun _ => ?_
  exact settled_setInstance i (StartsNoEnable.of_eq (fun _ => rfl) (fun _ => rfl) fun _ => rfl)

/-- Closing a session closes its instance first, which then waits for nothing. -/
theorem settled_closeSession (sid : Nat) : Settled (closeSession sid) := by
  unfold closeSession
  refine (settled_lookup sid).bind fun i => Settled.bind ?_ fun _ =>
    (settled_cancelReconnect i).bind fun _ => settled_detach i
  exact settled_setInstance i fun _ hcl _ => absurd hcl (by simp)

/-- Opening a session adds an idle instance, and may choose its host in the store. -/
theorem settled_openSession (sid : Nat) (cfg : Session.SessionConfig) (rootUri capabilities : String) :
    Settled (openSession sid cfg rootUri capabilities) := by
  unfold openSession
  refine settled_get.bind fun _ => ?_
  dsimp only
  split
  case' isTrue => refine (settled_nameOf sid).bind fun _ => (Settled.fail _).bind fun _ => ?_
  -- a session already open stops the operation; otherwise its instance is added
  all_goals
    refine settled_get.bind fun _ =>
      Settled.bind (Settled.of_run fun d _ => ⟨(), _, rfl, Settles.addInstance d (by simp)⟩)
        fun _ => ?_
    refine settled_get.bind fun _ => ?_
    split
    · split
      · exact settled_withConfig _ _ (Session.ConfigState.keepsReady_setHost _)
      · exact Settled.pure ()
    · exact Settled.pure ()

/-! ## A server's answer, crash and exit -/

theorem settled_initialized (i n : Nat) (answer : Answer) : Settled (initialized i n answer) := by
  refine (settled_getInstance i).bind fun o => ?_
  cases o with
  | none => exact Settled.pure ()
  | some s =>
    refine (settled_getServer n).bind fun o => ?_
    cases o with
    | none => exact Settled.pure ()
    | some srv =>
      dsimp only
      split
      · exact Settled.pure ()
      split
      · exact (settled_report _ _ _).bind fun _ => settled_serverStop n
      · exact (settled_report _ _ _).bind fun _ => settled_serverStop n
      · refine Settled.bind ?_ fun _ => (settled_enqueue n _).bind fun _ =>
          settled_get.bind fun _ => (Settled.forIn fun uri _ => ?_).bind fun _ => ?_
        · exact settled_setInstance i (StartsNoEnable.of_state fun _ => by simp)
        · split
          · split
            · exact (settled_sendOpen n _).bind fun _ => Settled.pure _
            · exact Settled.pure _
          · exact Settled.pure _
        · split
          · exact settled_report _ _ _
          · exact Settled.pure _

/-- A change of an instance by the crash and exit handling: it leaves the instance's state
alone or moves it out of provisioning. -/
theorem StartsNoEnable.of_crash {f : Instance → Instance} (hc : ∀ s, (f s).closed = s.closed)
    (hg : ∀ s, (f s).gen = s.gen) (hs : ∀ s, (f s).state = s.state ∨ (f s).state ≠ .provisioning) :
    StartsNoEnable f := by
  intro s hcl hp
  rcases hs s with hs | hs
  · exact ⟨hc s ▸ hcl, hs ▸ hp, hg s⟩
  · exact absurd hp hs

theorem settled_crashed (i n : Nat) (status : ExitStatus) : Settled (crashed i n status) := by
  refine (settled_getInstance i).bind fun o => ?_
  cases o with
  | none => exact Settled.pure ()
  | some s =>
    refine (settled_getServer n).bind fun o => ?_
    cases o with
    | none => exact Settled.pure ()
    | some srv =>
      dsimp only
      split
      · exact Settled.pure ()
      split
      · refine Settled.bind ?_ fun _ => (settled_count _).bind fun _ => settled_report _ _ _
        exact settled_setInstance i (StartsNoEnable.of_state fun _ => by simp)
      · refine Settled.bind ?_ fun _ => (settled_count _).bind fun _ => settled_get.bind fun _ =>
          (settled_report _ _ _).bind fun _ => (settled_afterMs _ _).bind fun _ => ?_
        · exact settled_setInstance i (StartsNoEnable.of_state fun _ => by simp)
        · exact settled_setInstance i (StartsNoEnable.of_eq (fun _ => rfl) (fun _ => rfl) fun _ => rfl)

theorem settled_exited (i n : Nat) (status : ExitStatus) : Settled (exited i n status) := by
  refine (settled_getInstance i).bind fun o => ?_
  cases o with
  | none => exact Settled.pure ()
  | some s =>
    refine (settled_getServer n).bind fun o => ?_
    cases o with
    | none => exact Settled.pure ()
    | some srv =>
      dsimp only
      -- each branch is a straight run of changes to the instance and the server, counts, and
      -- possibly the crash handling; no change moves the instance into provisioning
      repeat
        first
        | exact Settled.pure _
        | exact settled_crashed i n status
        | exact settled_setInstance i (StartsNoEnable.of_crash (fun _ => rfl) (fun _ => rfl)
            fun _ => by simp)
        | refine Settled.bind (settled_setInstance i (StartsNoEnable.of_crash (fun _ => rfl)
            (fun _ => rfl) fun _ => by simp)) fun _ => ?_
        | refine (settled_setServer n _).bind fun _ => ?_
        | refine (settled_count _).bind fun _ => ?_
        | split

/-! ## Steady operations of sessions -/

theorem steady_lookup (sid : Nat) : Steady (lookup sid) :=
  Steady.of (calm_lookup sid) (settled_lookup sid)

theorem steady_getInstance (i : Nat) : Steady (getInstance i) :=
  Steady.of (calm_getInstance i) (settled_getInstance i)

theorem steady_get : Steady (get : M State) := Steady.of calm_get settled_get

theorem steady_halt (i : Nat) : Steady (halt i) := Steady.of (calm_halt i) (settled_halt i)

theorem steady_forgetOtherHosts (i : Nat) : Steady (forgetOtherHosts i) :=
  Steady.of (calm_forgetOtherHosts i) (settled_forgetOtherHosts i)

theorem steady_updateCache (i : Nat) (f : ValidationCache → ValidationCache) :
    Steady (updateCache i f) :=
  Steady.of (calm_updateCache i f) (settled_updateCache i f)

theorem steady_sendOpen (n : Nat) (doc : Document) : Steady (sendOpen n doc) :=
  Steady.of (calm_sendOpen n doc) (settled_sendOpen n doc)

/-- An operation that reads an instance first need only keep the accounting on states holding
what it read. -/
theorem steady_getInstance_bind {β : Type} {i : Nat} {f : Option Instance → M β}
    (h : ∀ extra held d, Accounted extra held d → Accounted extra held (after (f d.instances[i]?) d)) :
    Steady (getInstance i >>= f) := by
  intro extra held d hd
  rw [after_getInstance_bind]
  exact h extra held d hd

/-! ## Enabling an instance -/

/-- An enable begins: the instance, neither provisioning, starting nor attached, moves to a
new generation and is provisioning, and the enable of that generation is taken in hand. No
enable of a generation past the instance's is under way, so this one is new. -/
theorem Accounted.begin {i : Nat} {s : Instance} (h : Accounted extra held d)
    (hs : d.instances[i]? = some s) (hcl : s.closed = false) (hst : s.stopped = false)
    (hq : s.state ≠ .provisioning ∧ s.state ≠ .starting ∧ s.state ≠ .attached) (s' : Instance)
    (hcur : s'.current = s.current) (hrec : s'.reconnect = none) (hstate : s'.state = .provisioning)
    (hgen : s'.gen = s.gen + 1) (hord : s'.order = s.order) (hdocs : s'.docs = s.docs)
    (hstop : s'.stopped = s.stopped) (w : World) (hw : Same d { d with world := w })
    (hws : Settles d { d with world := w }) :
    Accounted ((i, s.gen + 1) :: extra) held
      { d with instances := updateAt d.instances i fun _ => s', world := w } := by
  have h₁ := h.settle (h.inv.congr hw) hws
  have hfresh : (i, s.gen + 1) ∉ enables { d with world := w } ++ extra := by
    rw [hws.enables_eq]
    exact fun hm => Nat.not_succ_le_self s.gen ((h.inv.sessions i s hs hcl).enables_le _ hm)
  refine ⟨h.inv.begin hs hcl hst hq s' hcur hrec hstate hgen hord hdocs hstop w hw, h₁.ready, ?_,
    h₁.waiting, h₁.checked, ?_, h₁.runs_nodup, h₁.runs_below, h₁.prompts_nodup, h₁.prompts_below⟩
  · exact List.nodup_middle.mpr (List.nodup_cons.mpr ⟨hfresh, h₁.enables_nodup⟩)
  · intro j sj hj hclj hpj
    simp only [getElem?_updateAt, Option.map_eq_some_iff] at hj
    obtain ⟨s₀, hs₀, rfl⟩ := hj
    by_cases hji : j = i
    · subst hji
      simp only [if_true, hgen] at hclj hpj ⊢
      exact List.mem_append_right _ List.mem_cons_self
    · simp only [hji, if_false] at hclj hpj ⊢
      have hm := h₁.provisioning j s₀ hs₀ hclj hpj
      simp only [List.mem_append, List.mem_cons] at hm ⊢
      tauto

theorem steady_enable (i : Nat) : Steady (enable i) := by
  intro extra held d h
  cases hs : d.instances[i]? with
  | none => simpa [enable, hs] using h
  | some s =>
    simp only [enable, after_getInstance_bind, hs]
    by_cases hc : s.closed = true ∨ s.stopped = true
    · simpa [hc] using h
    · have hcl : s.closed = false := by simpa using (not_or.mp hc).1
      have hst : s.stopped = false := by simpa using (not_or.mp hc).2
      simp only [hcl, hst, Bool.or_self, Bool.false_eq_true, if_false]
      cases hq : s.state
      case provisioning | starting | attached => exact h
      -- the enable of the new generation is taken in hand and handed to the provisioner
      all_goals
        cases hr : s.reconnect <;>
          simp only [after_cancelReconnect_bind, hs, Option.bind_some, hr, after_setInstance_bind,
            updateAt_updateAt_self] <;>
          rw [updateAt_eq_const hs] <;>
          refine ensure_accounts ?_ false <;>
          exact h.begin hs hcl hst (by simp [hq]) _ (by rfl) (by simp [hr]) (by rfl) (by rfl)
            (by rfl) (by rfl) (by rfl) _ (Same.world rfl rfl rfl rfl)
            (Settles.world rfl rfl rfl rfl rfl rfl)

theorem steady_didOpen (sid : Nat) (doc : Document) : Steady (didOpen sid doc) := by
  unfold didOpen
  refine (steady_lookup sid).bind fun i => ?_
  refine steady_get.bind fun d => ?_
  split
  · refine (steady_getInstance i).bind fun o => ?_
    rcases o with _ | s
    · exact Steady.pure _
    dsimp only
    split
    case' isTrue =>
      refine (steady_withConfig i _ (Session.ConfigState.keepsReady_setHost _)).bind fun _ => ?_
    case' isFalse => split; exact Steady.pure _
    -- the document is recorded on the instance as it is now, and the instance enabled
    all_goals
      refine steady_getInstance_bind fun extra held d h => ?_
      cases hs : d.instances[i]? with
      | none => exact h
      | some s =>
        refine after_bind_of (Q := Accounted extra held) ?_ (fun _ d' h' => ?_) fun _ h => h
        · rw [after_setInstance]
          refine h.settle (h.inv.setInstance i _ fun s₀ hs₀ hcl => ?_)
            (Settles.setInstance d i (StartsNoEnable.of_eq (fun _ => rfl) (fun _ => rfl) fun _ => rfl))
          rw [hs] at hs₀
          cases hs₀
          have hok := h.inv.sessions i s hs hcl
          cases ht : s.tracks doc.uri
          · exact hok.track doc ht
          · exact hok.touch _ (fun x => by split <;> simp_all) doc.uri
        · split
          · split
            · exact steady_sendOpen _ _ extra held d' h'
            · exact h'
          all_goals first | exact steady_enable i extra held d' h' | exact h'
  · exact Steady.pure _

theorem steady_restart (i : Nat) : Steady (restart i) := by
  unfold restart
  refine (steady_halt i).bind fun _ => ?_
  -- a restart by hand clears the stop and the reconnect allowance
  refine Steady.bind (Steady.of (calm_setInstance i _ (fun _ => rfl) fun _ _ _ h =>
    ⟨h.1, h.2, h.3, h.4, by simp, h.6, h.7, h.8, h.9⟩)
    (settled_setInstance i (StartsNoEnable.of_eq (fun _ => rfl) (fun _ => rfl) fun _ => rfl)))
    fun _ => ?_
  refine (steady_updateCache i _).bind fun _ => (steady_forgetOtherHosts i).bind fun _ => ?_
  refine (steady_getInstance i).bind fun o => ?_
  rcases o with _ | s
  · exact Steady.pure _
  dsimp only
  split
  · exact steady_enable i
  · exact Steady.pure _

theorem steady_restartSession (sid : Nat) : Steady (restartSession sid) :=
  (steady_lookup sid).bind steady_restart

theorem steady_settingsChanged (sid : Nat) : Steady (settingsChanged sid) := by
  unfold settingsChanged
  refine (steady_lookup sid).bind fun i => (steady_getInstance i).bind fun o => ?_
  rcases o with _ | s
  · exact Steady.pure _
  dsimp only
  split
  · exact steady_restart i
  · exact Steady.pure _

/-- The reconnect timer of a crashed server fired: a live reconnect of the instance's
generation enables it again when its buffer is still open, and leaves it idle otherwise. -/
theorem steady_reconnectFired (i g : Nat) (buffer : String) : Steady (reconnectFired i g buffer) := by
  intro extra held d h
  cases hs : d.instances[i]? with
  | none => simpa [reconnectFired, hs] using h
  | some s =>
  by_cases hskip : s.closed = true ∨ s.gen ≠ g ∨ s.reconnect = none
  · have : (s.closed || decide (s.gen ≠ g) || s.reconnect.isNone) = true := by
      rcases hskip with h' | h' | h' <;> simp [h']
    simp only [reconnectFired, after_getInstance_bind, hs, this, if_true, after_pure]
    exact h
  · simp only [not_or, Ne, Decidable.not_not] at hskip
    obtain ⟨hcl, rfl, hr⟩ := hskip
    have hcl : s.closed = false := by simpa using hcl
    have hok := h.inv.sessions i s hs hcl
    have hpend : s.state = .reconnectPending := hok.reconnect_iff.mp (Option.isSome_iff_ne_none.mpr hr)
    have hnone : s.current = none := by simpa [hpend] using hok.current_iff
    have hst : s.stopped = false := by
      cases h' : s.stopped
      · rfl
      · simp [hok.stopped_idle h'] at hpend
    have hgo : (s.closed || decide (s.gen ≠ s.gen) || s.reconnect.isNone) = false := by
      simp [hcl, Option.isSome_iff_ne_none, hr]
    simp only [reconnectFired, after_getInstance_bind, hs, hgo, Bool.false_eq_true, if_false,
      after_setInstance_bind]
    cases ht : s.tracks buffer
    · -- the buffer was closed meanwhile: the instance rests
      simp only [Bool.false_eq_true, if_false, after_setInstance, updateAt_updateAt_self]
      rw [updateAt_eq_const hs]
      exact h.settle (h.inv.rest hs (by simp [hpend]) (by simp [hnone]) _ (by simp [hnone]) (by simp)
        (by simp) (by rfl) (by rfl) (by rfl) (by rfl) (by rfl) _ _ (Same.world rfl rfl rfl rfl))
        (Settles.setInstance d i (StartsNoEnable.of_state fun _ => by simp))
    · -- the enable runs on the instance whose timer was just cleared
      simp only [if_true, enable, after_getInstance_bind, getElem?_updateAt, hs, Option.map_some,
        if_true, hcl, hst, Bool.or_self, Bool.false_eq_true, if_false, hpend,
        after_cancelReconnect_bind, Option.bind_some, after_setInstance_bind,
        updateAt_updateAt_self]
      rw [updateAt_eq_const hs]
      refine ensure_accounts ?_ false
      exact h.begin hs hcl hst (by simp [hpend]) _ (by rfl) (by rfl) (by rfl) (by rfl) (by rfl)
        (by rfl) (by rfl) _ (Same.world rfl rfl rfl rfl) (Settles.world rfl rfl rfl rfl rfl rfl)

end RemoteLsp.Daemon
