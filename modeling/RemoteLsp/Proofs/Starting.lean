import RemoteLsp.Proofs.Calm

/-!
# Starting a server

An enable that reaches the current generation of an open session instance finds it
provisioning, with no current server, no pending reconnect and not stopped by the user: the
invariant allows one such enable at a time. So a server is launched only for an instance
without a current server, and the server launched becomes its newest and current one.

Each lemma here takes the enable it continues in hand and consumes it: the start path either
launches a server, leaves the instance idle, or hands the enable on to the search for the
workspace root.
-/

namespace RemoteLsp.Daemon

variable {d : State} {extra : List (Nat × Nat)} {held : List Attempt} {i g : Nat} {s : Instance}

/-! ## What an enable of the current generation finds -/

/-- An enable of the current generation in hand is the only one under way, and the instance
is provisioning. -/
theorem Inv.enable_current (h : Inv ((i, g) :: extra) held d) (hs : d.instances[i]? = some s)
    (hcl : s.closed = false) (hg : s.gen = g) :
    s.state = .provisioning ∧ (enables d ++ extra).count (i, g) = 0 := by
  have hc := (h.sessions i s hs hcl).enables_current
  rw [hg, List.count_append, List.count_cons_self] at hc
  by_cases hp : s.state = .provisioning
  · rw [if_pos hp] at hc
    exact ⟨hp, by rw [List.count_append]; omega⟩
  · rw [if_neg hp] at hc
    omega

/-- A provisioning instance has no current server, no pending reconnect, and was not stopped. -/
theorem SessionOk.quiet_of_provisioning (h : SessionOk d extra i s)
    (hp : s.state = .provisioning) :
    s.current = none ∧ s.reconnect = none ∧ s.stopped = false := by
  have hc := h.current_iff
  have hr := h.reconnect_iff
  simp only [hp, reduceCtorEq, or_self, iff_false, Option.not_isSome_iff_eq_none] at hc hr
  refine ⟨hc, hr, ?_⟩
  cases hst : s.stopped
  · rfl
  · exact absurd (h.stopped_idle hst) (by simp [hp])

/-- An instance with a current server is starting or attached, has no pending reconnect, was not
stopped, and no enable of its generation is under way. -/
theorem SessionOk.live_of_current {n : Nat} (h : SessionOk d extra i s) (hc : s.current = some n) :
    (s.state = .starting ∨ s.state = .attached) ∧ s.reconnect = none ∧ s.stopped = false ∧
      (enables d ++ extra).count (i, s.gen) = 0 := by
  have hst : s.state = .starting ∨ s.state = .attached := h.current_iff.mp (by simp [hc])
  have hnp : s.state ≠ .provisioning := by rcases hst with hst | hst <;> simp [hst]
  have hr := h.reconnect_iff
  have h0 := h.enables_current
  rw [if_neg hnp] at h0
  refine ⟨hst, ?_, ?_, by omega⟩
  · rcases hst with hst | hst <;> simpa [hst] using hr
  · cases hs : s.stopped
    · rfl
    · rcases hst with hst | hst <;> simp [h.stopped_idle hs] at hst

/-! ## Giving up and launching -/

/-- Giving up the enable of the current generation leaves the instance idle. -/
theorem Inv.give_up (h : Inv ((i, g) :: extra) held d) (hs : d.instances[i]? = some s)
    (hcl : s.closed = false) (hg : s.gen = g) :
    Inv extra held { d with instances := updateAt d.instances i fun s => { s with state := .idle } } := by
  obtain ⟨hp, h0⟩ := h.enable_current hs hcl hg
  have hok := h.sessions i s hs hcl
  obtain ⟨hcur, hrec, -⟩ := hok.quiet_of_provisioning hp
  refine h.drop_head.setInstance i _ fun s' hs' _ => ?_
  rw [hs] at hs'
  cases hs'
  have hrest := hok.drop_head
  refine ⟨by simp [hcur], by simp [hrec], hok.order_nodup, hok.order_perm, fun _ => rfl,
    hok.current_newest, hok.retired, hrest.enables_le, ?_⟩
  simpa [hg] using h0

/-- A launched server that belongs to another instance changes nothing it must satisfy. -/
theorem SessionOk.launch_other {j : Nat} (h : SessionOk d extra j s) (srv : Server)
    (hj : srv.inst ≠ j) : SessionOk { d with servers := d.servers ++ [srv] } extra j s := by
  refine ⟨h.current_iff, h.reconnect_iff, h.order_nodup, h.order_perm, h.stopped_idle, ?_, ?_,
    h.enables_le, h.enables_current⟩
  · intro n hn
    obtain ⟨srv₀, hsrv₀, hinst, hnew⟩ := h.current_newest n hn
    refine ⟨srv₀, (getElem?_append_singleton_eq_some).mpr (.inl hsrv₀), hinst, ?_⟩
    intro m srv' hm hi
    rcases (getElem?_append_singleton_eq_some).mp hm with hm | ⟨-, rfl⟩
    · exact hnew m srv' hm hi
    · exact absurd hi hj
  · intro m srv' hm hi hc
    rcases (getElem?_append_singleton_eq_some).mp hm with hm | ⟨-, rfl⟩
    · rcases h.retired m srv' hm hi hc with hst | ⟨⟨srv₁, hsrv₁, hex⟩, hnot⟩
      · exact .inl hst
      · exact .inr ⟨⟨srv₁, (getElem?_append_singleton_eq_some).mpr (.inl hsrv₁), hex⟩, hnot⟩
    · exact absurd hi hj

/-- Launching a server for the instance of the enable in hand makes it the instance's current
server, and the instance starting. -/
theorem Inv.launch (h : Inv ((i, g) :: extra) held d) (hs : d.instances[i]? = some s)
    (hcl : s.closed = false) (hg : s.gen = g) (srv : Server) (hi : srv.inst = i) :
    Inv extra held { d with
      instances := updateAt d.instances i fun s =>
        { s with state := .starting, current := some d.servers.length }
      servers := d.servers ++ [srv] } := by
  obtain ⟨hp, h0⟩ := h.enable_current hs hcl hg
  have hok := h.sessions i s hs hcl
  obtain ⟨hcur, hrec, hst⟩ := hok.quiet_of_provisioning hp
  have hlt : i < d.instances.length := (List.getElem?_eq_some_iff.mp hs).1
  have h' := h.drop_head
  refine ⟨h.live, h.keys_nodup, h'.leads, h'.checks_nodup, ?_, h.exits_nodup, ?_, ?_, ?_⟩
  · intro t ht j n st rfl
    obtain ⟨srv₀, hsrv₀, hrest⟩ := h.exit_tasks _ ht j n st rfl
    exact ⟨srv₀, (getElem?_append_singleton_eq_some).mpr (.inl hsrv₀), hrest⟩
  · intro p hp
    simpa using h'.enables_exist p hp
  · intro srv' hmem
    rcases List.mem_append.mp hmem with hmem | hmem
    · simpa using h.servers_exist srv' hmem
    · rw [List.mem_singleton.mp hmem, hi]
      simpa using hlt
  · intro j sj hj hclj
    simp only [getElem?_updateAt, Option.map_eq_some_iff] at hj
    obtain ⟨s₀, hs₀, rfl⟩ := hj
    by_cases hji : j = i
    · subst hji
      rw [hs] at hs₀
      cases hs₀
      simp only [if_true]
      refine ⟨by simp, by simp [hrec], hok.order_nodup, hok.order_perm, by simp [hst], ?_, ?_,
        hok.drop_head.enables_le, ?_⟩
      · intro n hn
        cases hn
        refine ⟨srv, by simp, hi, fun m srv' hm _ => ?_⟩
        have := (List.getElem?_eq_some_iff.mp hm).1
        simp only [List.length_append, List.length_singleton] at this
        omega
      · intro m srv' hm hi' hc
        rcases (getElem?_append_singleton_eq_some).mp hm with hm | ⟨rfl, -⟩
        · rcases hok.retired m srv' hm hi' (by simp [hcur]) with hst' | ⟨⟨srv₁, hsrv₁, hex⟩, hnot⟩
          · exact .inl hst'
          · exact .inr ⟨⟨srv₁, (getElem?_append_singleton_eq_some).mpr (.inl hsrv₁), hex⟩, hnot⟩
        · exact absurd rfl hc
      · show (enables d ++ extra).count (j, s.gen) ≤ _
        rw [hg, h0]
        exact Nat.zero_le _
    · simp only [hji, if_false] at hclj ⊢
      exact ((h.sessions j s₀ hs₀ hclj).drop_head.launch_other srv (by rw [hi]; exact Ne.symm hji)).congr
        rfl rfl rfl

/-! ## The start path -/

/-- Starting the server of the enable in hand: a server is launched and becomes current, or the
launch fails and the instance is idle. -/
theorem start_keeps (h : Inv ((i, g) :: extra) held d) (hs : d.instances[i]? = some s)
    (hcl : s.closed = false) (hg : s.gen = g) (root : String) :
    Inv extra held (after (start i root) d) := by
  have hl := h.live
  cases hf : d.world.launchFailure with
  | some m =>
    simp only [start, after_bind, run_getInstance, hs, run_setInstance, run_takeHold, run_launch,
      hl, hf, run_report, after_setInstance, updateAt_updateAt_self]
    exact (h.give_up hs hcl hg).congr ⟨rfl, rfl, rfl, rfl, rfl, rfl, by simp [hl]⟩
  | none =>
    simp only [start, after_bind, run_getInstance, hs, run_setInstance, run_takeHold, run_launch,
      hl, hf, run_setServer, run_count, updateAt_updateAt_self, updateAt_append_length]
    exact calm_enqueue _ _ extra held _
      ((h.launch hs hcl hg _ rfl).congr ⟨rfl, rfl, rfl, rfl, rfl, rfl, by simp [hl]⟩)

theorem resolveRoot_keeps (h : Inv ((i, g) :: extra) held d) (hs : d.instances[i]? = some s)
    (hcl : s.closed = false) (hg : s.gen = g) :
    Inv extra held (after (resolveRoot i g) d) := by
  simp only [resolveRoot, after_bind, run_getInstance, hs, EStateM.run_get]
  -- the fallback searches from the last buffer when it names a remote file, else starts
  cases hv : d.config.translator.fromVirtual s.lastBuffer with
  | none =>
    split
    · exact start_keeps h hs hcl hg _
    · split
      · split <;> exact start_keeps h hs hcl hg _
      · exact start_keeps h hs hcl hg _
  | some p =>
    split
    · exact start_keeps h hs hcl hg _
    · split
      · split
        · exact start_keeps h hs hcl hg _
        · exact runRemote_keeps _ _ _ _ h
      · exact runRemote_keeps _ _ _ _ h

/-- The search for the workspace root answered: the server starts, unless the enable is
stale. -/
theorem rootFound_keeps (h : Inv ((i, g) :: extra) held d) (dir : String) (res : Shell.RunResult) :
    Inv extra held (after (rootFound i g dir res) d) := by
  cases hs : d.instances[i]? with
  | none =>
    simpa [rootFound, after_bind, hs] using h.drop_head
  | some s =>
    simp only [rootFound, after_bind, run_getInstance, hs]
    by_cases hc : s.closed = true ∨ s.gen ≠ g
    · simpa [hc] using h.drop_head
    · simp only [not_or, Bool.not_eq_true, ne_eq, Decidable.not_not] at hc
      simpa [hc] using start_keeps h hs hc.1 hc.2 _

/-- An enable continued once its backend is ready or not: the root is resolved, or the
instance is left idle, unless the enable is stale. -/
theorem enableDone_keeps (h : Inv ((i, g) :: extra) held d) (ok : Bool) :
    Inv extra held (after (enableDone i g ok) d) := by
  cases hs : d.instances[i]? with
  | none =>
    simpa [enableDone, after_bind, hs] using h.drop_head
  | some s =>
    simp only [enableDone, after_bind, run_getInstance, hs]
    by_cases hc : s.closed = true ∨ s.gen ≠ g
    · simpa [hc] using h.drop_head
    · simp only [not_or, Bool.not_eq_true, ne_eq, Decidable.not_not] at hc
      cases ok
      · simpa [hc] using h.give_up hs hc.1 hc.2
      · simpa [hc] using resolveRoot_keeps h hs hc.1 hc.2

/-- The answer of a server to `initialize`: its instance is attached when it is still current,
and everything else is relayed. -/
theorem initialized_keeps (h : Inv extra held d) (n : Nat) (answer : Answer) :
    Inv extra held (after (initialized i n answer) d) := by
  cases hs : d.instances[i]? with
  | none => simpa [initialized, after_bind, hs] using h
  | some s =>
    cases hsrv : d.servers[n]? with
    | none => simpa [initialized, after_bind, hs, hsrv] using h
    | some srv =>
      by_cases hc : s.closed = true ∨ s.current ≠ some n
      · simpa [initialized, after_bind, hs, hsrv, hc] using h
      · simp only [not_or, Bool.not_eq_true, ne_eq, Decidable.not_not] at hc
        have failed : ∀ e, Calm (do
            report s.sid .error ("rlsp: initializing " ++ srv.settings.backend.name ++ " on " ++
              srv.host ++ " failed: " ++ e)
            serverStop n) := fun e => (calm_report _ _ _).bind fun _ => calm_serverStop n
        cases answer with
        | error e => simpa [initialized, after_bind, hs, hsrv, hc] using failed e extra held d h
        | rpcError c e => simpa [initialized, after_bind, hs, hsrv, hc] using failed e extra held d h
        | result r =>
          simp only [initialized, after_getInstance_bind, hs, after_getServer_bind, hsrv, hc,
            Bool.false_or, ne_eq, not_true_eq_false, decide_false, Bool.false_eq_true, if_false,
            after_setInstance_bind]
          -- the instance is attached; what follows only relays to the server and the editor
          refine ((calm_send n _ _).bind fun _ => calm_get.bind fun _ =>
            (Calm.forIn fun _ _ => ?_).bind fun _ => ?_) extra held _ ?_
          · split
            · split
              · exact (calm_sendOpen n _).bind fun _ => Calm.pure _
              · exact Calm.pure _
            · exact Calm.pure _
          · split
            · exact calm_report _ _ _
            · exact Calm.pure _
          · refine h.setInstance i _ fun s' hs' hcl => ?_
            rw [hs] at hs'
            cases hs'
            have hok := h.sessions i s hs hcl
            obtain ⟨-, hrec, hst, h0⟩ := hok.live_of_current hc.2
            exact ⟨by simp [hc.2], by simp [hrec], hok.order_nodup, hok.order_perm,
              by simp [hst], hok.current_newest, hok.retired, hok.enables_le, by simpa using h0⟩

end RemoteLsp.Daemon
