import RemoteLsp.Proofs.Provisioning

/-!
# The life of a session's server keeps the invariant

Enabling a session, halting it, and the loop's events about its servers — exits, crashes and
reconnects — each keep the lifecycle invariant. All of them pass through states that break it,
such as a session whose current server was just detached but which is not idle yet, or one
that waits for a reconnect without a timer; their lemmas state what the whole operation leaves.

Enabling, halting and a fired reconnect are calm: they keep the invariant whatever is held in
hand. The exit of a server keeps it once that exit has left the queue.
-/

namespace RemoteLsp.Daemon

variable {d : State} {extra : List (Nat × Nat)} {held : List Attempt} {i : Nat} {s : Instance}

theorem updateAt_eq_const {β : Type} {xs : List β} {j : Nat} {x : β} (hx : xs[j]? = some x)
    (f : β → β) : updateAt xs j f = updateAt xs j fun _ => f x := by
  apply List.ext_getElem?
  intro k
  simp only [getElem?_updateAt]
  by_cases hk : k = j
  · subst hk
    simp [hx]
  · simp [hk]

/-! ## Cancelling a reconnect and detaching a server -/

theorem run_cancelReconnect (i : Nat) (d : State) :
    (cancelReconnect i).run d = .ok ()
      (match d.instances[i]?.bind (·.reconnect) with
       | some t => { d with
           instances := updateAt d.instances i fun s => { s with reconnect := none }
           world := { d.world with timers := d.world.timers.map fun x =>
             if x.id = t then { x with live := false } else x } }
       | none => d) := by
  cases hs : d.instances[i]? with
  | none => simp [cancelReconnect, hs]
  | some s => cases hr : s.reconnect <;> simp [cancelReconnect, hs, hr]

theorem run_detach (hl : d.world.live = none) (i : Nat) :
    (detach i).run d = .ok ()
      (match d.instances[i]?.bind (·.current) with
       | some n => { d with
           instances := updateAt d.instances i fun s => { s with current := none, suppress := s.suppress + 1 }
           servers := updateAt d.servers n fun srv => { srv with active := false, stopped := true }
           world := { d.world with events := d.world.events ++ [.serverStop n] } }
       | none => d) := by
  cases hs : d.instances[i]? with
  | none => simp [detach, hs]
  | some s => cases hc : s.current <;> simp [detach, hs, hc, run_serverStop, hl]

theorem after_cancelReconnect_bind {β : Type} (i : Nat) (f : Unit → M β) (d : State) :
    after (cancelReconnect i >>= f) d = after (f ())
      (match d.instances[i]?.bind (·.reconnect) with
       | some t => { d with
           instances := updateAt d.instances i fun s => { s with reconnect := none }
           world := { d.world with timers := d.world.timers.map fun x =>
             if x.id = t then { x with live := false } else x } }
       | none => d) :=
  after_of_run_ok (run_cancelReconnect i d)

theorem after_detach (hl : d.world.live = none) (i : Nat) :
    after (detach i) d =
      match d.instances[i]?.bind (·.current) with
      | some n => { d with
          instances := updateAt d.instances i fun s => { s with current := none, suppress := s.suppress + 1 }
          servers := updateAt d.servers n fun srv => { srv with active := false, stopped := true }
          world := { d.world with events := d.world.events ++ [.serverStop n] } }
      | none => d :=
  after_eq_of_run_ok (run_detach hl i)

theorem after_detach_bind {β : Type} (hl : d.world.live = none) (i : Nat) (f : Unit → M β) :
    after (detach i >>= f) d = after (f ())
      (match d.instances[i]?.bind (·.current) with
       | some n => { d with
           instances := updateAt d.instances i fun s => { s with current := none, suppress := s.suppress + 1 }
           servers := updateAt d.servers n fun srv => { srv with active := false, stopped := true }
           world := { d.world with events := d.world.events ++ [.serverStop n] } }
       | none => d) :=
  after_of_run_ok (run_detach hl i)

/-! ## Instances without a current server -/

/-- No enable of a generation after the instance's own is under way. -/
theorem SessionOk.count_later (h : SessionOk d extra i s) {g : Nat} (hg : s.gen < g) :
    (enables d ++ extra).count (i, g) = 0 :=
  List.count_eq_zero.mpr fun hm => absurd (h.enables_le g hm) (by omega)

/-- An instance that is not provisioning has no enable of its generation under way. -/
theorem SessionOk.count_current (h : SessionOk d extra i s) (hp : s.state ≠ .provisioning) :
    (enables d ++ extra).count (i, s.gen) = 0 := by
  have := h.enables_current
  rw [if_neg hp] at this
  omega

/-- What an open instance must satisfy holds of one left without a current server, neither
starting nor attached, with no enable of its generation under way, when the server that was
current, if any, was stopped or has had its exit handled. -/
theorem SessionOk.quiet (h : SessionOk d extra i s) {s' : Instance} (hcur : s'.current = none)
    (hstate : s'.state ≠ .starting ∧ s'.state ≠ .attached)
    (hrec : s'.reconnect.isSome ↔ s'.state = .reconnectPending)
    (hstop : s'.stopped = true → s'.state = .idle)
    (hord : s'.order = s.order) (hdocs : s'.docs = s.docs) (hgen : s.gen ≤ s'.gen)
    (hcount : (enables d ++ extra).count (i, s'.gen) = 0)
    (hold : ∀ n srv, s.current = some n → d.servers[n]? = some srv →
      srv.stopped = true ∨ Handled d n) :
    SessionOk d extra i s' := by
  refine ⟨by simp [hcur, hstate.1, hstate.2], hrec, hord ▸ h.order_nodup,
    by rw [hord, hdocs]; exact h.order_perm, hstop, fun n hn => by simp [hcur] at hn, ?_, ?_, ?_⟩
  · intro m srv hm hi _
    by_cases hm' : s.current = some m
    · exact hold m srv hm' hm
    · exact h.retired m srv hm hi hm'
  · intro g hg
    exact Nat.le_trans (h.enables_le g hg) hgen
  · rw [hcount]
    exact Nat.zero_le _

/-- Stopping the current server of an instance on purpose. -/
theorem Inv.stopServer (h : Inv extra held d) (n : Nat) :
    Inv extra held { d with servers := updateAt d.servers n fun srv =>
      { srv with active := false, stopped := true } } :=
  h.setServer n _ (fun _ => rfl) (fun _ => rfl) fun _ _ => rfl

/-- How many stops a session still has to absorb does not matter to the invariant. -/
theorem SessionOk.with_suppress (h : SessionOk d extra i s) (k : Nat) :
    SessionOk d extra i { s with suppress := k } :=
  ⟨h.1, h.2, h.3, h.4, h.5, h.6, h.7, h.8, h.9⟩

/-- A handled exit stays handled when a server changes in ways other than exiting. -/
theorem Handled.setServer {n : Nat} (h : Handled d n) (m : Nat) (f : Server → Server)
    (hx : ∀ srv, (f srv).exited = srv.exited) :
    Handled { d with servers := updateAt d.servers m f } n := by
  obtain ⟨⟨srv, hsrv, hex⟩, hnot⟩ := h
  refine ⟨⟨if n = m then f srv else srv, by simp [getElem?_updateAt, hsrv], ?_⟩, hnot⟩
  split <;> simp [hx, hex]

/-- A halted instance: no reconnect, no current server, idle in a new generation, and the server
that was current stopped. -/
theorem Inv.halted (h : Inv extra held d) (hs : d.instances[i]? = some s) (s' : Instance)
    (hcur : s'.current = none) (hrec : s'.reconnect = none) (hstate : s'.state = .idle)
    (hgen : s'.gen = s.gen + 1) (hord : s'.order = s.order) (hdocs : s'.docs = s.docs)
    (hcl : s'.closed = s.closed) (servers : List Server)
    (hservers : servers = match s.current with
      | some n => updateAt d.servers n fun srv => { srv with active := false, stopped := true }
      | none => d.servers)
    (w : World) (hw : Same d { d with world := w }) :
    Inv extra held
      { d with instances := updateAt d.instances i fun _ => s', servers := servers, world := w } := by
  -- the former current server is stopped first, which keeps the invariant by itself
  have base : Inv extra held { d with servers := servers } := by
    cases hc : s.current with
    | none =>
      rw [hc] at hservers
      subst hservers
      exact h
    | some n =>
      rw [hc] at hservers
      subst hservers
      exact h.stopServer n
  refine (base.setInstance i (fun _ => s') fun s₀ hs₀ hcl' => ?_).congr
    ⟨rfl, rfl, rfl, hw.queue, hw.pendingRuns, hw.prompts, hw.live⟩
  rw [show ({ d with servers := servers } : State).instances = d.instances from rfl, hs] at hs₀
  cases hs₀
  have hopen : s.closed = false := hcl ▸ hcl'
  have hok := base.sessions i s hs hopen
  refine hok.quiet hcur (by simp [hstate]) (by simp [hrec, hstate]) (fun _ => hstate) hord hdocs
    (by omega) (by rw [hgen]; exact hok.count_later (by omega)) fun n srv hn hsrv => .inl ?_
  obtain ⟨srv₀, hsrv₀, -⟩ := (h.sessions i s hs hopen).current_newest n hn
  rw [hn] at hservers
  subst hservers
  simp only [getElem?_updateAt, hsrv₀, Option.map_some, if_true, Option.some.injEq] at hsrv
  rw [← hsrv]

/-- A halt leaves the instance idle, with no reconnect and no current server, the server that
was current stopped. -/
theorem halt_keeps (h : Inv extra held d) (i : Nat) :
    Inv extra held (after (halt i) d) ∧
      ∀ s, (after (halt i) d).instances[i]? = some s → s.state = .idle := by
  have hl := h.live
  cases hs : d.instances[i]? with
  | none =>
    simp only [halt, after_cancelReconnect_bind, hs, Option.bind_none, after_detach_bind, hl,
      after_setInstance]
    refine ⟨h.setInstance i _ fun s₀ hs₀ => by simp [hs] at hs₀, fun s₀ hs₀ => ?_⟩
    simp [hs] at hs₀
  | some s =>
    cases hr : s.reconnect <;> cases hc : s.current <;>
      simp only [halt, after_cancelReconnect_bind, hs, Option.bind_some, hr, after_detach_bind, hl,
        hc, after_setInstance, updateAt_updateAt_self, getElem?_updateAt, Option.map_some, if_true,
        Option.bind_some] <;>
      refine ⟨?_, by simp⟩ <;>
      rw [updateAt_eq_const hs]
    -- whatever the instance was doing, it ends halted
    all_goals
      exact h.halted hs _ (by simp [hc]) (by simp [hr]) (by rfl) (by rfl) (by rfl) (by rfl) (by rfl)
        _ (by simp [hc]) _ (Same.world rfl rfl rfl (by simp [hl]))

theorem calm_halt (i : Nat) : Calm (halt i) := fun _ _ _ h => (halt_keeps h i).1

/-! ## Enabling a session -/

/-- An enable taken in hand for another instance changes nothing this one must satisfy. -/
theorem SessionOk.enable_other {j g : Nat} (h : SessionOk d extra j s) (hij : i ≠ j) :
    SessionOk d ((i, g) :: extra) j s := by
  refine ⟨h.current_iff, h.reconnect_iff, h.order_nodup, h.order_perm, h.stopped_idle,
    h.current_newest, h.retired, fun g' hg' => ?_, ?_⟩
  · simp only [List.mem_append, List.mem_cons, Prod.mk.injEq] at hg'
    rcases hg' with hg' | ⟨rfl, -⟩ | hg'
    · exact h.enables_le g' (List.mem_append_left _ hg')
    · exact absurd rfl hij
    · exact h.enables_le g' (List.mem_append_right _ hg')
  · have := h.enables_current
    have hne : (i, g) ≠ (j, s.gen) := fun he => hij (Prod.mk.inj he).1
    simp only [List.count_append, List.count_cons, beq_iff_eq, hne, if_false] at this ⊢
    omega

/-- An enable begins: the instance, neither provisioning, starting nor attached, moves to a
new generation and is provisioning, with the enable of that generation in hand. -/
theorem Inv.begin (h : Inv extra held d) (hs : d.instances[i]? = some s) (hcl : s.closed = false)
    (hst : s.stopped = false)
    (hq : s.state ≠ .provisioning ∧ s.state ≠ .starting ∧ s.state ≠ .attached) (s' : Instance)
    (hcur : s'.current = s.current) (hrec : s'.reconnect = none) (hstate : s'.state = .provisioning)
    (hgen : s'.gen = s.gen + 1) (hord : s'.order = s.order) (hdocs : s'.docs = s.docs)
    (hstop : s'.stopped = s.stopped) (w : World) (hw : Same d { d with world := w }) :
    Inv ((i, s.gen + 1) :: extra) held
      { d with instances := updateAt d.instances i fun _ => s', world := w } := by
  have hok := h.sessions i s hs hcl
  have hnone : s.current = none := by
    have := hok.current_iff
    simp only [hq.2.1, hq.2.2, or_self, iff_false, Option.not_isSome_iff_eq_none] at this
    exact this
  -- the generation is new, so the enable taken in hand is its only one
  have hzero : (enables d ++ extra).count (i, s.gen + 1) = 0 := hok.count_later (Nat.lt_succ_self _)
  have hlt : i < d.instances.length := (List.getElem?_eq_some_iff.mp hs).1
  refine Inv.congr (d := { d with instances := updateAt d.instances i fun _ => s' })
    ⟨h.live, h.keys_nodup, h.leads, h.checks_nodup, h.exit_tasks, h.exits_nodup, ?_,
      by simpa using h.servers_exist, ?_⟩
    ⟨rfl, rfl, rfl, hw.queue, hw.pendingRuns, hw.prompts, hw.live⟩
  · intro p hp
    simp only [List.mem_append, List.mem_cons] at hp
    rcases hp with hp | rfl | hp
    · simpa using h.enables_exist p (List.mem_append_left _ hp)
    · simpa using hlt
    · simpa using h.enables_exist p (List.mem_append_right _ hp)
  · intro j sj hj hclj
    simp only [getElem?_updateAt, Option.map_eq_some_iff] at hj
    obtain ⟨s₀, hs₀, rfl⟩ := hj
    by_cases hji : j = i
    · subst hji
      rw [hs] at hs₀
      cases hs₀
      simp only [if_true]
      refine SessionOk.congr (d := d) ⟨by simp [hcur, hnone, hstate], by simp [hrec, hstate], hord ▸ hok.order_nodup,
        by rw [hord, hdocs]; exact hok.order_perm, by simp [hstop, hst],
        by simp [hcur, hnone], fun m srv hm hi _ => hok.retired m srv hm hi (by simp [hnone]),
        fun g hg => ?_, ?_⟩ rfl rfl rfl
      · simp only [List.mem_append, List.mem_cons, Prod.mk.injEq, true_and] at hg
        rcases hg with hg | rfl | hg
        · exact hgen ▸ Nat.le_succ_of_le (hok.enables_le g (List.mem_append_left _ hg))
        · exact Nat.le_of_eq hgen.symm
        · exact hgen ▸ Nat.le_succ_of_le (hok.enables_le g (List.mem_append_right _ hg))
      · simp only [List.count_append, List.count_cons, hgen, hstate, beq_self_eq_true,
          if_true] at hzero ⊢
        omega
    · simp only [hji, if_false] at hclj ⊢
      exact ((h.sessions j s₀ hs₀ hclj).enable_other (Ne.symm hji)).congr rfl rfl rfl

theorem calm_enable (i : Nat) : Calm (enable i) := by
  intro extra held d h
  cases hs : d.instances[i]? with
  | none => simpa [enable, hs] using h
  | some s =>
    simp only [enable, after_getInstance_bind, hs]
    by_cases hc : s.closed = true ∨ s.stopped = true
    · simpa [hc] using h
    · have hcl : s.closed = false := by simpa using (not_or.mp hc).1
      have hst : s.stopped = false := by simpa using (not_or.mp hc).2
      simp only [hcl, hst, Bool.or_self, Bool.false_eq_true, if_false]
      cases hq : s.state
      case provisioning | starting | attached => exact h
      all_goals
        cases hr : s.reconnect <;>
          simp only [after_cancelReconnect_bind, hs, Option.bind_some, hr, after_setInstance_bind,
            updateAt_updateAt_self] <;>
          rw [updateAt_eq_const hs] <;>
          refine ensure_keeps ?_ false <;>
          exact h.begin hs hcl hst (by simp [hq]) _ (by rfl) (by simp [hr]) (by rfl) (by rfl) (by rfl)
            (by rfl) (by rfl) _ (Same.world rfl rfl rfl rfl)

/-! ## Exits, crashes and reconnects -/

/-- An instance settles without a current server in its generation: the server that was
current, if any, has had its exit handled. -/
theorem Inv.rest (h : Inv extra held d) (hs : d.instances[i]? = some s)
    (hbusy : s.state ≠ .idle ∧ s.state ≠ .provisioning)
    (hold : ∀ n, s.current = some n → Handled d n) (s' : Instance) (hcur : s'.current = none)
    (hstate : s'.state ≠ .starting ∧ s'.state ≠ .attached)
    (hrec : s'.reconnect.isSome ↔ s'.state = .reconnectPending) (hgen : s'.gen = s.gen)
    (hord : s'.order = s.order) (hdocs : s'.docs = s.docs) (hstop : s'.stopped = s.stopped)
    (hcl : s'.closed = s.closed) (c : List (String × Nat)) (w : World)
    (hw : Same d { d with world := w }) :
    Inv extra held
      { d with instances := updateAt d.instances i fun _ => s', counters := c, world := w } := by
  refine (h.setInstance i (fun _ => s') fun s₀ hs₀ hcl' => ?_).congr
    ⟨rfl, rfl, rfl, hw.queue, hw.pendingRuns, hw.prompts, hw.live⟩
  rw [hs] at hs₀
  cases hs₀
  have hok := h.sessions i s hs (hcl ▸ hcl')
  -- a busy instance was not stopped by the user
  have hrun : s.stopped = false := by
    cases hst : s.stopped
    · rfl
    · exact absurd (hok.stopped_idle hst) hbusy.1
  exact hok.quiet hcur hstate hrec (by simp [hstop, hrun]) hord hdocs (Nat.le_of_eq hgen.symm)
    (hgen ▸ hok.count_current hbusy.2) fun n _ hn _ => .inr (hold n hn)

/-- After an abnormal exit of its current server, an instance schedules its one reconnect or
gives up. -/
theorem crashed_keeps (h : Inv extra held d) (hs : d.instances[i]? = some s)
    (hcl : s.closed = false) (hst : s.state = .exitedAbnormal) (n : Nat) (status : ExitStatus) :
    Inv extra held (after (crashed i n status) d) := by
  have hl := h.live
  have hok := h.sessions i s hs hcl
  have hnone : s.current = none := by simpa [hst] using hok.current_iff
  have hrn : s.reconnect = none := by simpa [hst] using hok.reconnect_iff
  cases hsrv : d.servers[n]? with
  | none => simpa [crashed, hs, hsrv] using h
  | some srv =>
    cases ha : s.attempted <;>
      simp only [crashed, after_getInstance_bind, hs, after_getServer_bind, hsrv, hrn,
        Option.isSome_none, Bool.false_eq_true, if_false, if_true, ha, after_setInstance_bind,
        after_count_bind, after_get_bind, after_report_bind, after_report, hl,
        after_afterMs_bind, after_setInstance, updateAt_updateAt_self] <;>
      rw [updateAt_eq_const hs] <;>
      exact h.rest hs (by simp [hst]) (by simp [hnone]) _ (by simp [hnone]) (by simp)
        (by simp [hrn]) (by rfl) (by rfl) (by rfl) (by rfl) (by rfl) _ _
        (Same.world rfl rfl rfl (by simp [hl]))

/-- The exit of a server, once no longer queued, is handled: the exit of an instance's current
server leaves it without one, in a state that says how the server ended, and may schedule its
reconnect; the exit of any other server only counts against the stops still to absorb. -/
theorem exited_keeps (h : Inv extra held d) {n : Nat} (hdone : Handled d n) (i : Nat)
    (status : ExitStatus) : Inv extra held (after (exited i n status) d) := by
  cases hs : d.instances[i]? with
  | none => simpa [exited, hs] using h
  | some s =>
  cases hsrv : d.servers[n]? with
  | none => simpa [exited, hs, hsrv] using h
  | some srv =>
  by_cases hc : s.current = some n
  · have h₁ : Inv extra held
        { d with servers := updateAt d.servers n fun srv => { srv with active := false } } :=
      h.setServer n _ (fun _ => rfl) (fun _ => rfl) fun _ h => h
    by_cases hcl : s.closed = true
    · simp only [exited, after_getInstance_bind, hs, after_getServer_bind, hsrv, hc, if_true,
        after_setInstance_bind, after_setServer_bind, hcl, after_pure]
      refine h₁.setInstance i _ fun s₀ hs₀ hcl' => ?_
      simp only [hs, Option.some.injEq] at hs₀
      subst hs₀
      simp [hcl] at hcl'
    · have hok := h.sessions i s hs (by simpa using hcl)
      -- with a current server the instance was starting or attached
      have hlive := hok.current_iff.mp (by simp [hc])
      have hbusy : s.state ≠ .idle ∧ s.state ≠ .provisioning := by
        rcases hlive with h' | h' <;> simp [h']
      have hrn : s.reconnect = none := by
        have := hok.reconnect_iff
        rcases hlive with h' | h' <;> simpa [h'] using this
      have hold : ∀ m, s.current = some m →
          Handled { d with servers := updateAt d.servers n fun srv => { srv with active := false } } m := by
        intro m hm
        rw [hc] at hm
        cases hm
        exact hdone.setServer n _ fun _ => rfl
      by_cases hclean : status.clean = true <;> by_cases hsup : s.suppress > 0 <;>
        by_cases hstop : srv.stopped = true <;>
        simp only [exited, after_getInstance_bind, hs, after_getServer_bind, hsrv, hc, if_true,
          after_setInstance_bind, after_setServer_bind, hcl, hclean, hsup, hstop, after_count_bind,
          after_setInstance, Bool.false_eq_true, if_false, updateAt_updateAt_self, Bool.and_true,
          Bool.and_false, decide_true, decide_false] <;>
        rw [updateAt_eq_const hs]
      -- a clean or absorbed exit leaves the instance resting without a server; an abnormal one
      -- goes on to the crash handling
      all_goals first
        | exact h₁.rest hs hbusy hold _ (by rfl) (by simp) (by simp [hrn]) (by rfl) (by rfl)
            (by rfl) (by rfl) (by rfl) _ _ (Same.world rfl rfl rfl rfl)
        | exact crashed_keeps (s := { s with current := none, state := .exitedAbnormal })
            (h₁.rest hs hbusy hold _ (by rfl) (by simp) (by simp [hrn]) (by rfl) (by rfl) (by rfl)
              (by rfl) (by rfl) _ _ (Same.world rfl rfl rfl rfl))
            (by simp [getElem?_updateAt, hs]) (by simpa using hcl) rfl n status
  · -- another server's exit changes nothing but the count of stops to absorb
    have hsupp : ∀ c, Inv extra held { d with
        instances := updateAt d.instances i fun s => { s with suppress := s.suppress - 1 },
        counters := c } := fun c =>
      (h.setInstance i (fun s => { s with suppress := s.suppress - 1 }) fun s₀ hs₀ hcl =>
        (h.sessions i s₀ hs₀ hcl).with_suppress _).congr
        ⟨rfl, rfl, rfl, rfl, rfl, rfl, rfl⟩
    by_cases hcl : s.closed = true <;> by_cases hclean : status.clean = true <;>
      by_cases hsup : s.suppress > 0 <;> by_cases hstop : srv.stopped = true <;>
      simp only [exited, after_getInstance_bind, hs, after_getServer_bind, hsrv, hc, if_false,
        if_true, after_setInstance_bind, hcl, hclean, hsup, hstop, after_count_bind,
        Bool.false_eq_true, Bool.and_true, Bool.and_false, decide_true, decide_false,
        after_pure] <;>
      first | exact h | exact h.counters _ | exact hsupp _

/-- The reconnect timer of a crashed server fired: a live reconnect of the instance's
generation enables it again when its buffer is still open, and leaves it idle otherwise. -/
theorem calm_reconnectFired (i g : Nat) (buffer : String) : Calm (reconnectFired i g buffer) := by
  intro extra held d h
  cases hs : d.instances[i]? with
  | none => simpa [reconnectFired, hs] using h
  | some s =>
  by_cases hskip : s.closed = true ∨ s.gen ≠ g ∨ s.reconnect = none
  · have : (s.closed || decide (s.gen ≠ g) || s.reconnect.isNone) = true := by
      rcases hskip with h' | h' | h' <;> simp [h']
    simp only [reconnectFired, after_getInstance_bind, hs, this, if_true, after_pure]
    exact h
  · simp only [not_or, Ne, Decidable.not_not] at hskip
    obtain ⟨hcl, rfl, hr⟩ := hskip
    have hcl : s.closed = false := by simpa using hcl
    have hok := h.sessions i s hs hcl
    have hpend : s.state = .reconnectPending := hok.reconnect_iff.mp (Option.isSome_iff_ne_none.mpr hr)
    have hnone : s.current = none := by simpa [hpend] using hok.current_iff
    have hst : s.stopped = false := by
      cases h' : s.stopped
      · rfl
      · simp [hok.stopped_idle h'] at hpend
    have hgo : (s.closed || decide (s.gen ≠ s.gen) || s.reconnect.isNone) = false := by
      simp [hcl, Option.isSome_iff_ne_none, hr]
    simp only [reconnectFired, after_getInstance_bind, hs, hgo, Bool.false_eq_true, if_false,
      after_setInstance_bind]
    cases ht : s.tracks buffer
    · -- the buffer was closed meanwhile: the instance rests
      simp only [Bool.false_eq_true, if_false, after_setInstance, updateAt_updateAt_self]
      rw [updateAt_eq_const hs]
      exact h.rest hs (by simp [hpend]) (by simp [hnone]) _ (by simp [hnone]) (by simp) (by simp)
        (by rfl) (by rfl) (by rfl) (by rfl) (by rfl) _ _ (Same.world rfl rfl rfl rfl)
    · -- the enable runs on the instance whose timer was just cleared
      simp only [if_true, enable, after_getInstance_bind, getElem?_updateAt, hs, Option.map_some,
        if_true, hcl, hst, Bool.or_self, Bool.false_eq_true, if_false, hpend,
        after_cancelReconnect_bind, Option.bind_some, after_setInstance_bind,
        updateAt_updateAt_self]
      rw [updateAt_eq_const hs]
      refine ensure_keeps ?_ false
      exact h.begin hs hcl hst (by simp [hpend]) _ (by rfl) (by rfl) (by rfl) (by rfl) (by rfl)
        (by rfl) (by rfl) _ (Same.world rfl rfl rfl rfl)

end RemoteLsp.Daemon
