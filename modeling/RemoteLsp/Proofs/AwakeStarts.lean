import RemoteLsp.Proofs.Resting

/-!
# Servers start only for awake sessions

The start path is reached by an enable of the current generation of an open instance, and the
lifecycle invariant says such an instance is provisioning: open, not stopped and not given up.
So the server the start path launches is for a session that does not rest, and what it changes
of the instance matters to no session at rest. An enable that reaches a resting instance is
stale and changes nothing.

The provisioner's steps change the instances only in their configuration, and continue the
enables they hold through the start path. Each lemma takes the enable or the check it
continues in hand, as the lifecycle invariant counts it, and shows that the step lulls every
session at rest.
-/

namespace RemoteLsp.Daemon

variable {r : Rest} {k : Nat} {d : State} {extra : List (Nat × Nat)} {held : List Attempt}
  {i g : Nat} {s : Instance}

/-- Sequencing: the first operation leaves a state with `P` and lulls, and every continuation
lulls from a state with `P` whose sessions are apart. -/
theorem Lulled.bind {α β : Type} {x : M α} {f : α → M β} {P : State → Prop}
    (hx : P (after x d)) (hxl : Lulled r k d (after x d))
    (hf : ∀ a s, P s → Apart s → Lulled r k s (after (f a) s)) :
    Lulled r k d (after (x >>= f) d) :=
  after_bind_of (Q := fun s => P s ∧ Lulled r k d s) ⟨hx, hxl⟩
    (fun a s hs => hs.2.trans (hf a s hs.1 hs.2.apart)) fun _ hs => hs.2

/-! ## Awake instances -/

/-- A provisioning instance is awake. -/
theorem SessionOk.awake_of_provisioning (h : SessionOk d extra i s) (hcl : s.closed = false)
    (hp : s.state = .provisioning) : s.Awake :=
  ⟨hcl, (h.quiet_of_provisioning hp).2.2, by simp [hp]⟩

/-- An instance with a current server is awake. -/
theorem SessionOk.awake_of_current {n : Nat} (h : SessionOk d extra i s) (hcl : s.closed = false)
    (hc : s.current = some n) : s.Awake := by
  obtain ⟨hst, -, hstop, -⟩ := h.live_of_current hc
  exact ⟨hcl, hstop, by rcases hst with hst | hst <;> simp [hst]⟩

/-- The enable of the current generation in hand finds its instance awake. -/
theorem Inv.awake_of_enable (h : Inv ((i, g) :: extra) held d) (hs : d.instances[i]? = some s)
    (hcl : s.closed = false) (hg : s.gen = g) : s.Awake :=
  (h.sessions i s hs hcl).awake_of_provisioning hcl (h.enable_current hs hcl hg).1

/-! ## The start path -/

/-- Starting the server of an awake instance launches it for the instance's own session, and
leaves the instance starting, or idle when the launch fails. -/
theorem start_lulled (hl : d.world.live = none) (ha : Apart d) (hs : d.instances[i]? = some s)
    (hw : s.Awake) (root : String) : Lulled r k d (after (start i root) d) := by
  cases hf : d.world.launchFailure with
  | some m =>
    simp only [start, after_bind, run_getInstance, hs, run_setInstance, run_takeHold, run_launch,
      hl, hf, run_report, after_setInstance, updateAt_updateAt_self]
    exact Lulled.update_awake ha hs hw _ rfl (by simp [hl]) (fun _ => rfl)
      ((ha.coherent i s hs).keep_open hw.1 hw.1 rfl rfl rfl) _ (List.append_assoc _ _ _)
      (by simp [Event.launchOf])
  | none =>
    simp only [start, after_bind, run_getInstance, hs, run_setInstance, run_takeHold, run_launch,
      hl, hf, run_setServer, run_count, updateAt_updateAt_self, updateAt_append_length]
    refine Lulled.then_at ?_ fun ha₁ => lulls_enqueue _ _ _ (by simp) ha₁
    exact Lulled.update_awake ha hs hw _ rfl (by simp [hl]) (fun _ => rfl)
      ((ha.coherent i s hs).keep_open hw.1 hw.1 rfl rfl rfl) _ rfl (by simp [Event.launchOf])

theorem resolveRoot_lulled (hl : d.world.live = none) (ha : Apart d)
    (hs : d.instances[i]? = some s) (hw : s.Awake) (g : Nat) :
    Lulled r k d (after (resolveRoot i g) d) := by
  simp only [resolveRoot, after_bind, run_getInstance, hs, EStateM.run_get]
  -- the fallback searches from the last buffer when it names a remote file, else starts
  cases hv : d.config.translator.fromVirtual s.lastBuffer with
  | none =>
    split
    · exact start_lulled hl ha hs hw _
    · split
      · split <;> exact start_lulled hl ha hs hw _
      · exact start_lulled hl ha hs hw _
  | some p =>
    split
    · exact start_lulled hl ha hs hw _
    · split
      · split
        · exact start_lulled hl ha hs hw _
        · exact lulls_runRemote _ _ _ _ _ _ hl ha
      · exact lulls_runRemote _ _ _ _ _ _ hl ha

/-- The search for the workspace root answered: the server starts for the awake instance the
enable in hand finds, unless the enable is stale. -/
theorem rootFound_lulled (h : Inv ((i, g) :: extra) held d) (ha : Apart d) (dir : String)
    (res : Shell.RunResult) : Lulled r k d (after (rootFound i g dir res) d) := by
  cases hs : d.instances[i]? with
  | none => simpa [rootFound, after_bind, hs] using Lulled.refl (r := r) (k := k) ha
  | some s =>
    simp only [rootFound, after_bind, run_getInstance, hs]
    by_cases hc : s.closed = true ∨ s.gen ≠ g
    · simpa [hc] using Lulled.refl (r := r) (k := k) ha
    · simp only [not_or, Bool.not_eq_true, ne_eq, Decidable.not_not] at hc
      simpa [hc] using start_lulled h.live ha hs (h.awake_of_enable hs hc.1 hc.2) _

/-- An enable continued once its backend is ready or not: a stale enable changes nothing, and a
current one finds its instance awake. -/
theorem enableDone_lulled (h : Inv ((i, g) :: extra) held d) (ha : Apart d) (ok : Bool) :
    Lulled r k d (after (enableDone i g ok) d) := by
  cases hs : d.instances[i]? with
  | none => simpa [enableDone, after_bind, hs] using Lulled.refl (r := r) (k := k) ha
  | some s =>
    simp only [enableDone, after_bind, run_getInstance, hs]
    by_cases hc : s.closed = true ∨ s.gen ≠ g
    · simpa [hc] using Lulled.refl (r := r) (k := k) ha
    · simp only [not_or, Bool.not_eq_true, ne_eq, Decidable.not_not] at hc
      have hw := h.awake_of_enable hs hc.1 hc.2
      cases ok
      · simp only [hc, ne_eq, not_true_eq_false, decide_false, Bool.or_false, Bool.false_eq_true,
          if_false, Bool.not_false, if_true, after_setInstance]
        exact Lulled.setInstance_awake ha hs hw _ (fun _ => rfl)
          ((ha.coherent i s hs).keep_open hw.1 hw.1 rfl rfl rfl)
      · simpa [hc] using resolveRoot_lulled (r := r) (k := k) h.live ha hs hw g

/-- The answer of a server to `initialize`: only the current server of an open instance, which
is awake, attaches it. -/
theorem initialized_lulled (h : Inv extra held d) (ha : Apart d) (n : Nat) (answer : Answer) :
    Lulled r k d (after (initialized i n answer) d) := by
  have hl := h.live
  cases hs : d.instances[i]? with
  | none => simpa [initialized, after_bind, hs] using Lulled.refl (r := r) (k := k) ha
  | some s =>
    cases hsrv : d.servers[n]? with
    | none => simpa [initialized, after_bind, hs, hsrv] using Lulled.refl (r := r) (k := k) ha
    | some srv =>
      by_cases hc : s.closed = true ∨ s.current ≠ some n
      · simpa [initialized, after_bind, hs, hsrv, hc] using Lulled.refl (r := r) (k := k) ha
      · simp only [not_or, Bool.not_eq_true, ne_eq, Decidable.not_not] at hc
        have failed : ∀ e, Lulls r k (do
            report s.sid .error ("rlsp: initializing " ++ srv.settings.backend.name ++ " on " ++
              srv.host ++ " failed: " ++ e)
            serverStop n) := fun e => (lulls_report _ _ _).bind fun _ => lulls_serverStop n
        cases answer with
        | error e => simpa [initialized, after_bind, hs, hsrv, hc] using failed e d hl ha
        | rpcError c e => simpa [initialized, after_bind, hs, hsrv, hc] using failed e d hl ha
        | result raw =>
          simp only [initialized, after_getInstance_bind, hs, after_getServer_bind, hsrv, hc,
            Bool.false_or, ne_eq, not_true_eq_false, decide_false, Bool.false_eq_true, if_false,
            after_setInstance_bind]
          have hw := (h.sessions i s hs hc.1).awake_of_current hc.1 hc.2
          -- attaching clears the reconnect allowance; what follows only relays
          refine (Lulled.setInstance_awake ha hs hw
            (fun s => { s with state := .attached, attempted := false }) (fun _ => rfl)
            (.of_open hw.1 fun h => by simp at h)).then_at fun ha₁ => ?_
          refine ((lulls_send n _ _).bind fun _ => lulls_get.bind fun _ =>
            (Lulls.forIn fun _ _ => ?_).bind fun _ => ?_) _ (by simp [hl]) ha₁
          · split
            · split
              · exact (lulls_sendOpen n _).bind fun _ => Lulls.pure _
              · exact Lulls.pure _
            · exact Lulls.pure _
          · split
            · exact lulls_report _ _ _
            · exact Lulls.pure _

/-! ## Answering the waiters -/

theorem wake_lulled {w : Waiter} (h : Inv ((w.owner, w.gen) :: extra) held d) (ha : Apart d)
    (ok : Bool) : Lulled r k d (after (wake w ok) d) := by
  simp only [wake, after_updateCache_bind]
  exact (Lulled.setCfg ha _ _).then_at fun ha₁ => enableDone_lulled (h.setCfg _ _) ha₁ ok

/-- Waking a list of waiters, each with its enable in hand. -/
theorem forM_wake_lulled (ok : Bool) :
    ∀ (ws : List Waiter) {extra : List (Nat × Nat)} {d : State},
      Inv (ws.map (fun w => (w.owner, w.gen)) ++ extra) held d → Apart d →
        Lulled r k d (after (ws.forM fun w => wake w ok) d)
  | [], _, _, _, ha => Lulled.refl ha
  | w :: ws, _, _, h, ha =>
    Lulled.bind (x := wake w ok) (f := fun _ => ws.forM fun w => wake w ok) (wake_keeps h ok)
      (wake_lulled h ha ok) fun _ _ hs has => forM_wake_lulled ok ws hs has

/-- The check in hand settles its key and wakes every waiter with the outcome. -/
theorem resolve_lulled {a : Attempt} (h : Inv extra (a :: held) d) (ha : Apart d) (ok : Bool) :
    Lulled r k d (after (resolve a ok) d) := by
  obtain ⟨ks, hks, -, h'⟩ := h.settle (if ok then .valid else .missing)
  simp only [resolve, after_getKey_bind, hks, Option.getD_some]
  cases ok
  · simp only [Bool.not_false, if_true, after_count_bind, after_setKey_bind]
    exact Lulled.of_frame_then ha
      (fun ha₁ => forM_wake_lulled false _ (h'.congr ⟨rfl, rfl, rfl, rfl, rfl, rfl, rfl⟩) ha₁)
      rfl rfl rfl
  · simp only [Bool.not_true, Bool.false_eq_true, if_false, after_setKey_bind]
    exact Lulled.of_frame_then ha (fun ha₁ => forM_wake_lulled true _ h' ha₁) rfl rfl rfl

/-- The check in hand gives its key up for every waiter but its own enable. -/
theorem handOff_lulled {a : Attempt} (h : Inv extra (a :: held) d) (ha : Apart d) :
    Lulled r k d (after (handOff a) d) := by
  obtain ⟨ks, hks, hhead, h'⟩ := h.settle .missing
  obtain ⟨rest, hw⟩ : ∃ rest, ks.waiters = ⟨a.owner, a.key, a.gen⟩ :: rest := by
    cases hws : ks.waiters with
    | nil => simp [hws] at hhead
    | cons w rest =>
      simp only [hws, List.head?_cons, Option.some.injEq] at hhead
      exact ⟨rest, by rw [hhead]⟩
  simp only [handOff, after_getKey_bind, hks, Option.getD_some, after_setKey_bind, hw,
    List.drop_one, List.tail_cons]
  -- the check's own enable stays in hand for its retry
  have h₁ : Inv (rest.map (fun w => (w.owner, w.gen)) ++ (a.owner, a.gen) :: extra) held _ :=
    h'.perm_hand (by simp [KeyState.enables, hw])
  exact Lulled.of_frame_then ha (fun ha₁ => forM_wake_lulled false rest h₁ ha₁) rfl rfl rfl

/-- A failed check: the message and the run's output go to the editor, and the key is settled
as missing. -/
theorem fail_lulled {a : Attempt} (h : Inv extra (a :: held) d) (ha : Apart d)
    (severity : Severity) (message : String) (res : Shell.RunResult) :
    Lulled r k d (after (fail a severity message res) d) := by
  simp only [fail, after_sidOf_bind]
  refine Lulled.bind (calm_report _ _ _ _ _ d h) (lulls_report _ _ _ d h.live ha)
    fun _ s hs has => ?_
  split
  · exact Lulled.bind (calm_writeLog _ _ _ _ _ s hs) (lulls_writeLog _ _ _ s hs.live has)
      fun _ _ hs' has' => resolve_lulled hs' has' false
  · exact resolve_lulled hs has false

/-- A successful check is recorded in the store and settles its key as valid. -/
theorem succeed_lulled {a : Attempt} (h : Inv extra (a :: held) d) (ha : Apart d) :
    Lulled r k d (after (succeed a) d) := by
  simp only [succeed, after_count_bind]
  refine Lulled.of_frame_then ha (fun ha₁ => ?_) rfl rfl rfl
  refine Lulled.bind (calm_markValid _ _ extra (a :: held) _ (h.counters _))
    (lulls_markValid _ _ _ h.live ha₁) fun _ s hs has => ?_
  exact Lulled.bind (calm_remember _ _ _ _ s hs) (lulls_remember _ _ s hs.live has)
    fun _ _ hs' has' => resolve_lulled hs' has' true

/-! ## The runs and questions of a check -/

theorem lulls_sidOf (i : Nat) : Lulls r k (sidOf i) := Lulls.of_read fun d => ⟨_, run_sidOf i d⟩

theorem lulls_runFor (a : Attempt) (script : String) (timeoutMs : Int) (next : RunNext) :
    Lulls r k (runFor a script timeoutMs next) :=
  (lulls_sidOf _).bind fun _ => lulls_runRemote _ _ _ _ _

theorem lulls_detect (a : Attempt) (installed : Bool) : Lulls r k (detect a installed) :=
  lulls_runFor _ _ _ _

theorem lulls_install (a : Attempt) : Lulls r k (install a) :=
  (lulls_sidOf _).bind fun _ => (lulls_report _ _ _).bind fun _ => lulls_runFor _ _ _ _

theorem lulls_confirmInstall (a : Attempt) : Lulls r k (confirmInstall a) :=
  (lulls_sidOf _).bind fun _ => lulls_askConfirm _ _ _ _

theorem lulls_promptHost (i g : Nat) : Lulls r k (promptHost i g) :=
  (lulls_updateCache _ _).bind fun _ => (lulls_sidOf _).bind fun _ =>
    lulls_get.bind fun _ => lulls_askInput _ _ _ _ _ _

theorem interpreterMissing_lulled {a : Attempt} (h : Inv extra (a :: held) d) (ha : Apart d)
    (res : Shell.RunResult) : Lulled r k d (after (interpreterMissing a res) d) := by
  simp only [interpreterMissing, after_configOf_bind]
  split
  · exact ((lulls_updateCache _ _).bind fun _ => lulls_get.bind fun _ =>
      (lulls_sidOf _).bind fun _ => lulls_askInput _ _ _ _ _ _) d h.live ha
  · exact fail_lulled h ha _ _ res

/-! ## Making sure of a backend -/

/-- The enable in hand is continued at once, waits on a key or on the host prompt, or starts a
check of its key. -/
theorem ensure_lulled (h : Inv ((i, g) :: extra) held d) (ha : Apart d) (retried : Bool) :
    Lulled r k d (after (ensure i g retried) d) := by
  have hl := h.live
  cases hs : d.instances[i]? with
  | none => simpa [ensure, hs] using Lulled.refl (r := r) (k := k) ha
  | some s =>
    simp only [ensure, after_getInstance_bind, hs]
    split
    · exact enableDone_lulled h ha true
    split
    · exact enableDone_lulled h ha false
    split
    · split
      · exact lulls_promptHost i g d hl ha
      · simp only [after_updateCache_bind]
        refine Lulled.setCfg_then ha _ _ fun ha₁ => ?_
        exact Lulled.bind (calm_report _ _ _ _ _ _ (h.setCfg _ _))
          (lulls_report _ _ _ _ (by simp [hl]) ha₁) fun _ _ hs' has => enableDone_lulled hs' has false
    simp only [after_get_bind]
    split
    · simp only [after_count_bind, after_updateCache_bind]
      exact Lulled.life_then ha i _ (fun _ => by rfl) rfl rfl rfl fun ha₁ => enableDone_lulled
        (by exact (h.setCfg _ _).congr ⟨rfl, rfl, rfl, rfl, rfl, rfl, rfl⟩) ha₁ true
    simp only [after_getKey_bind]
    -- waiting on a key, or a new check whose probe is a remote run
    cases hk : Identity.Assoc.get? d.keys s.cfg.settings.validationKey with
    | some ks =>
      simp only
      split
      · exact Lulled.frame ha rfl rfl rfl
      · simp only [after_setKey_bind]
        exact Lulled.of_frame_then ha (fun ha₁ => lulls_runFor _ _ _ _ _ (by simp [hl]) ha₁)
          rfl rfl rfl
    | none =>
      simp only [after_setKey_bind]
      exact Lulled.of_frame_then ha (fun ha₁ => lulls_runFor _ _ _ _ _ (by simp [hl]) ha₁)
        rfl rfl rfl

/-! ## Continuing a check -/

section Continue

variable {a : Attempt}

theorem afterExecutable_lulled (h : Inv extra (a :: held) d) (ha : Apart d)
    (res : Shell.RunResult) : Lulled r k d (after (afterExecutable a res) d) := by
  unfold afterExecutable
  split
  · exact lulls_detect a false d h.live ha
  split
  · exact fail_lulled h ha _ _ res
  · exact lulls_runFor _ _ _ _ d h.live ha

theorem afterVersion_lulled (h : Inv extra (a :: held) d) (ha : Apart d) (res : Shell.RunResult) :
    Lulled r k d (after (afterVersion a res) d) := by
  unfold afterVersion
  split
  · exact lulls_detect a false d h.live ha
  · exact interpreterMissing_lulled h ha res

theorem afterDetect_lulled (h : Inv extra (a :: held) d) (ha : Apart d) (installed : Bool)
    (res : Shell.RunResult) : Lulled r k d (after (afterDetect a installed res) d) := by
  simp only [afterDetect]
  split
  · exact succeed_lulled h ha
  split
  · exact fail_lulled h ha _ _ res
  split
  · exact fail_lulled h ha _ _ res
  split
  · simp only [after_count_bind]
    exact Lulled.of_frame_then ha (fun ha₁ => fail_lulled (h.counters _) ha₁ _ _ res) rfl rfl rfl
  split
  · exact lulls_install a d h.live ha
  · exact lulls_confirmInstall a d h.live ha

theorem afterInstall_lulled (h : Inv extra (a :: held) d) (ha : Apart d) (res : Shell.RunResult) :
    Lulled r k d (after (afterInstall a res) d) := by
  simp only [afterInstall]
  split
  · simp only [after_count_bind]
    exact Lulled.of_frame_then ha (fun ha₁ => fail_lulled (h.counters _) ha₁ _ _ res) rfl rfl rfl
  · simp only [after_count_bind]
    exact Lulled.of_frame_then ha (fun ha₁ => lulls_detect a true _ (by simp [h.live]) ha₁)
      rfl rfl rfl

theorem afterConfirm_lulled (h : Inv extra (a :: held) d) (ha : Apart d) (choice : String)
    (ok : Bool) : Lulled r k d (after (afterConfirm a choice ok) d) := by
  simp only [afterConfirm]
  split
  · simp only [after_sidOf_bind]
    exact Lulled.bind (calm_report _ _ _ _ _ _ h) (lulls_report _ _ _ _ h.live ha)
      fun _ _ hs has => resolve_lulled hs has false
  · exact lulls_install a d h.live ha

/-- The answer to the prompt for a replacement environment: the check fails, or gives its key
up for the other waiters and starts again with the new environment. -/
theorem afterEnvironment_lulled (h : Inv extra (a :: held) d) (ha : Apart d)
    (res : Shell.RunResult) (value : String) (cancelled : Bool) :
    Lulled r k d (after (afterEnvironment a res value cancelled) d) := by
  simp only [afterEnvironment, after_updateCache_bind]
  refine Lulled.setCfg_then ha _ _ fun ha₁ => ?_
  split
  · exact fail_lulled (h.setCfg _ _) ha₁ _ _ res
  refine Lulled.bind (calm_withConfig _ _ _ _ _ _ (h.setCfg _ _))
    (lulls_withConfig _ _ _ _ (by simp [h.live]) ha₁) fun o s hs has => ?_
  split
  · exact fail_lulled hs has _ _ res
  · exact Lulled.bind (handOff_keeps hs) (handOff_lulled hs has) fun _ _ hs' has' =>
      ensure_lulled hs' has' true

end Continue

/-- The answer to the host prompt: the enable goes on with the host given, or is given up. -/
theorem afterHost_lulled (h : Inv ((i, g) :: extra) held d) (ha : Apart d) (value : String)
    (cancelled : Bool) : Lulled r k d (after (afterHost i g value cancelled) d) := by
  simp only [afterHost, after_updateCache_bind]
  refine Lulled.setCfg_then ha _ _ fun ha₁ => ?_
  split
  · simp only [after_configOf_bind, after_updateCache_bind]
    exact Lulled.setCfg_then ha₁ _ _ fun ha₂ =>
      enableDone_lulled ((h.setCfg _ _).setCfg _ _) ha₂ false
  · exact Lulled.bind (calm_withConfig _ _ _ _ _ _ (h.setCfg _ _))
      (lulls_withConfig _ _ _ _ (by simp [h.live]) ha₁) fun _ _ hs has => ensure_lulled hs has false

end RemoteLsp.Daemon
