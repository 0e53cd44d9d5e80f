import RemoteLsp.Proofs.AwakeStarts

/-!
# Sessions at rest through their lifecycle

Stopping a session halts its open instance and marks it stopped; closing a session closes its
instance and stops its server. Either leaves the session at rest, and keeps every other session
as it rested. Enabling an instance that is not given up, restarting an instance of a session
that does not rest, the exit of a server, a crash and a fired reconnect keep every session at
rest and launch nothing for one: the instances they wake are awake already, or belong to a
session that does not rest.
-/

namespace RemoteLsp.Daemon

variable {r : Rest} {k : Nat} {d : State} {extra : List (Nat × Nat)} {held : List Attempt}
  {i : Nat} {s : Instance}

/-! ## The open instance of a session -/

theorem getElem?_updateAt_self {β : Type} {xs : List β} {j : Nat} {x : β} (hx : xs[j]? = some x)
    (f : β → β) : (updateAt xs j f)[j]? = some (f x) := by
  simp [hx]

theorem Instance.atRest_of_closed (h : s.closed = true) : {r : Rest} → s.AtRest r
  | .closed => h
  | .stopped => .inl h
  | .givenUp => .inl h

theorem Instance.state_of_life {s s' : Instance} (h : s'.life = s.life) : s'.state = s.state := by
  simp only [Instance.life, Prod.mk.injEq] at h
  exact h.2.2.2.1

theorem openInstance_eq_some {sid j : Nat} (h : openInstance d sid = some j) :
    ∃ s, d.instances[j]? = some s ∧ s.sid = sid ∧ s.closed = false := by
  obtain ⟨hj, hp, -⟩ := List.findIdx?_eq_some_iff_getElem.mp h
  refine ⟨d.instances[j], List.getElem?_eq_getElem hj, ?_⟩
  simpa using hp

theorem closed_of_openInstance_eq_none {sid j : Nat} (h : openInstance d sid = none)
    (hs : d.instances[j]? = some s) (hk : s.sid = sid) : s.closed = true := by
  have := List.findIdx?_eq_none_iff.mp h s (List.mem_of_getElem? hs)
  simpa [hk] using this

/-- A session with no open instance rests at every level. -/
theorem Rests.of_openInstance_eq_none {sid : Nat} (h : openInstance d sid = none) :
    Rests r sid d := fun _ _ hs hk =>
  Instance.atRest_of_closed (closed_of_openInstance_eq_none h hs hk)

/-- A failure stops the operation where it is. -/
theorem after_fail_bind {α β : Type} (p : Problem) (f : α → M β) (d : State) :
    after (Op.fail p >>= f) d = d := rfl

theorem after_lookup_bind {β : Type} (sid : Nat) (f : Nat → M β) (d : State) :
    after (lookup sid >>= f) d = match openInstance d sid with
      | some j => after (f j) d
      | none => d := by
  cases h : openInstance d sid with
  | some j => exact after_of_run_ok (run_lookup_some h)
  | none =>
    obtain ⟨e, he⟩ := run_lookup_none h
    exact after_of_run_error he

/-! ## Halting an instance -/

/-- The instance a halt leaves: no reconnect and no current server, idle in a new generation,
with one more stop to absorb when a server was current. -/
def Instance.halted (s : Instance) : Instance :=
  { s with reconnect := none, current := none, gen := s.gen + 1, state := .idle,
           suppress := if s.current.isSome then s.suppress + 1 else s.suppress }

/-- A halt turns the instance into its halted form; besides, it stops the instance's timer and
its current server, which launches nothing. -/
theorem run_halt (hl : d.world.live = none) (hs : d.instances[i]? = some s) :
    ∃ d₁, (halt i).run d = .ok () d₁ ∧
      d₁.instances = updateAt d.instances i (fun _ => s.halted) ∧
      d₁.world.live = d.world.live ∧ ∃ new, d₁.world.events = d.world.events ++ new ∧
        ∀ e ∈ new, e.launchOf = none := by
  cases hr : s.reconnect <;> cases hc : s.current <;>
    simp only [halt, EStateM.run_bind, run_cancelReconnect, hs, Option.bind_some, hr,
      run_detach, hl, getElem?_updateAt, Option.map_some, if_true, hc, run_setInstance,
      updateAt_updateAt_self] <;>
    rw [updateAt_eq_const hs] <;>
    -- the changes made one after the other are the halted form
    refine ⟨_, rfl, congrArg (updateAt d.instances i)
      (funext fun _ => by simp [Instance.halted, hc, hr]), by simp [hl], ?_⟩
  -- the only event is the stop of the current server
  all_goals first
    | exact ⟨_, rfl, fun e he => by rw [List.mem_singleton.mp he]; rfl⟩
    | exact ⟨[], by simp, by simp⟩

/-- Changing the open instance of a session into one at rest puts the whole session at rest:
its other instances are closed. -/
theorem Rests.update_single {d' : State} {j : Nat} (ha : Apart d) (hs : d.instances[j]? = some s)
    (hopen : s.closed = false) (s' : Instance) (hr : s'.AtRest r)
    (hi : d'.instances = updateAt d.instances j fun _ => s') : Rests r s.sid d' := by
  intro m t ht hk
  rw [hi, getElem?_updateAt] at ht
  obtain ⟨t₀, ht₀, rfl⟩ := Option.map_eq_some_iff.mp ht
  by_cases hm : m = j
  · simpa [hm] using hr
  · simp only [hm, if_false] at hk ⊢
    cases hcl : t₀.closed
    · exact absurd (ha.single m j t₀ s ht₀ hs hk hcl hopen) hm
    · exact Instance.atRest_of_closed hcl

/-! ## Stopping and closing a session -/

/-- A stop by the user halts the open instance of the session and marks it stopped. Every
session keeps resting as it did, and the session stopped rests at the second level. -/
theorem stopSession_lulled (h : Inv extra held d) (ha : Apart d) (sid : Nat) :
    Lulled r k d (after (stopSession sid) d) ∧ Rests .stopped sid (after (stopSession sid) d) := by
  unfold stopSession
  rw [after_lookup_bind]
  cases ho : openInstance d sid with
  | none => exact ⟨.refl ha, .of_openInstance_eq_none ho⟩
  | some j =>
    obtain ⟨s, hs, rfl, hopen⟩ := openInstance_eq_some ho
    obtain ⟨d₁, hrun, hi, hl, new, hev, hn⟩ := run_halt h.live hs
    dsimp only
    rw [after_of_run_ok hrun, after_setInstance, hi, updateAt_updateAt_self]
    -- the halted instance, stopped, rests wherever its session may rest but among the closed
    have hstop : ∀ {r : Rest}, r ≠ .closed → { s.halted with stopped := true }.AtRest r :=
      fun hr => Instance.atRest_of_stopped rfl hr
    refine ⟨Lulled.update_at ha hs _ rfl hl rfl (fun _ => hopen) (fun hc => by simp [hopen] at hc)
      ⟨fun hc => by simp [Instance.halted, hopen] at hc, fun _ _ hst => by simp at hst⟩
      fun hr => ⟨fun hk => ?_, new, hev, Unlaunched.of_none hn⟩,
      Rests.update_single ha hs hopen _ (hstop (by simp)) rfl⟩
    cases r with
    | closed => simpa [Instance.AtRest, hopen] using hr j s hs hk
    | stopped => exact hstop (by simp)
    | givenUp => exact hstop (by simp)

/-- Closing a session closes its open instance, then cancels its reconnect and stops its
server. Every session keeps resting as it did, and the session closed rests at the first
level. -/
theorem closeSession_lulled (h : Inv extra held d) (ha : Apart d) (sid : Nat) :
    Lulled r k d (after (closeSession sid) d) ∧ Rests .closed sid (after (closeSession sid) d) := by
  have hl := h.live
  unfold closeSession
  rw [after_lookup_bind]
  cases ho : openInstance d sid with
  | none => exact ⟨.refl ha, .of_openInstance_eq_none ho⟩
  | some j =>
    obtain ⟨s, hs, rfl, hopen⟩ := openInstance_eq_some ho
    dsimp only
    cases hr : s.reconnect <;> cases hc : s.current <;>
      simp only [after_setInstance_bind, after_cancelReconnect_bind, getElem?_updateAt, hs,
        Option.map_some, if_true, Option.bind_some, hr, hc, after_detach, hl,
        updateAt_updateAt_self] <;>
      rw [updateAt_eq_const hs] <;>
      refine ⟨Lulled.update_at ha hs _ rfl (by simp [hl]) rfl (fun _ => hopen)
        (fun hc => by simp [hopen] at hc) ⟨fun _ => by simp [hr, hc], fun _ hcl => by simp at hcl⟩
        fun _ => ⟨fun _ => Instance.atRest_of_closed rfl, ?_⟩,
        Rests.update_single ha hs hopen _ (by exact Instance.atRest_of_closed rfl) rfl⟩
    -- the only event is the stop of the current server
    all_goals first
      | exact ⟨_, rfl, fun e he hk => by rw [List.mem_singleton.mp he] at hk; cases hk⟩
      | exact ⟨[], by simp, fun e he => by simp at he⟩

/-! ## Enabling an instance -/

/-- Enabling an instance that is not given up. One that goes on to provision is open and not
stopped, so it is awake; nothing is launched but for its own session. -/
theorem enable_lulled (h : Inv extra held d) (ha : Apart d) (hs : d.instances[i]? = some s)
    (hg : s.state ≠ .givenUp) : Lulled r k d (after (enable i) d) := by
  simp only [enable, after_getInstance_bind, hs]
  by_cases hc : s.closed = true ∨ s.stopped = true
  · simpa [hc] using Lulled.refl (r := r) (k := k) ha
  have hcl : s.closed = false := by simpa using (not_or.mp hc).1
  have hst : s.stopped = false := by simpa using (not_or.mp hc).2
  have hw : s.Awake := ⟨hcl, hst, hg⟩
  simp only [hcl, hst, Bool.or_self, Bool.false_eq_true, if_false]
  cases hq : s.state
  case provisioning | starting | attached => exact Lulled.refl ha
  -- the instance moves to a new generation and provisions, with that enable in hand
  all_goals
    cases hr : s.reconnect <;>
      simp only [after_cancelReconnect_bind, hs, Option.bind_some, hr, after_setInstance_bind,
        updateAt_updateAt_self] <;>
      rw [updateAt_eq_const hs] <;>
      refine Lulled.then_at ?_ fun ha₁ => ensure_lulled (by
        exact h.begin hs hcl hst (by simp [hq]) _ (by rfl) (by simp [hr]) (by rfl) (by rfl) (by rfl)
          (by rfl) (by rfl) _ (Same.world rfl rfl rfl rfl)) ha₁ false <;>
      exact Lulled.update_other ha hs hcl (fun hr => hr.sid_ne hs hw) _ rfl rfl rfl
        ((ha.coherent i s hs).keep_open hcl hcl rfl rfl rfl) [] (by simp) (by simp)

/-! ## Restarting an instance -/

/-- Forgetting the documents on other hosts changes an instance only in its documents. -/
theorem forgetOtherHosts_life (i : Nat) (d : State) {t : Instance}
    (ht : (after (forgetOtherHosts i) d).instances[i]? = some t) :
    ∃ t₀, d.instances[i]? = some t₀ ∧ t.life = t₀.life := by
  cases hs : d.instances[i]? with
  | none => simp [forgetOtherHosts, hs] at ht
  | some s₀ =>
    simp only [forgetOtherHosts, after_getInstance_bind, hs, after_get_bind, after_setInstance,
      getElem?_updateAt, Option.map_some, if_true, Option.some.injEq] at ht
    exact ⟨s₀, rfl, by rw [← ht]; rfl⟩

/-- A restart of an open instance of a session that does not rest: the instance, halted and no
longer stopped, belongs to no session at rest, and is enabled again from idle. -/
theorem restart_lulled (h : Inv extra held d) (ha : Apart d) (hs : d.instances[i]? = some s)
    (hopen : s.closed = false) (hk : Rests r k d → s.sid ≠ k) :
    Lulled r k d (after (restart i) d) := by
  obtain ⟨d₁, hrun, hi, hl, new, hev, hn⟩ := run_halt h.live hs
  have h₁ : Inv extra held d₁ := after_eq_of_run_ok hrun ▸ calm_halt i extra held d h
  -- a restart by hand clears the stop and the reconnect allowance, and resets the cache
  have h₂ := (Calm.bind (calm_setInstance i (fun s => { s with stopped := false, attempted := false })
    (fun _ => rfl) fun _ _ _ h => ⟨h.1, h.2, h.3, h.4, by simp, h.6, h.7, h.8, h.9⟩) fun _ =>
      calm_updateCache i fun c => { c.reset with prompted := false }) extra held d₁ h₁
  unfold restart
  simp only [after_of_run_ok hrun, after_setInstance_bind, after_updateCache_bind, after_updateCache,
    hi, updateAt_updateAt_self] at h₂ ⊢
  refine Lulled.then_after (Lulled.update_at ha hs _ rfl hl rfl (fun _ => hopen)
    (fun hc => by simp [hopen] at hc) (.of_open (by simpa [Instance.halted] using hopen)
      fun h => by simp at h) fun hr => ⟨fun hsk => absurd hsk (hk hr), new, hev,
        Unlaunched.of_none hn⟩) fun ha₂ => ?_
  -- the instance stays idle while its documents are sorted, so its enable goes ahead
  refine Lulled.bind (P := fun D => Inv extra held D ∧ ∀ t, D.instances[i]? = some t → t.state = .idle)
    ⟨calm_forgetOtherHosts i extra held _ h₂, fun t ht => ?_⟩
    (lulls_forgetOtherHosts i _ (hl.trans h.live) ha₂) fun _ D hP haD => ?_
  · obtain ⟨t₀, ht₀, hlife⟩ := forgetOtherHosts_life i _ ht
    simp only [getElem?_updateAt, hs, Option.map_some, if_true, Option.some.injEq] at ht₀
    rw [Instance.state_of_life hlife, ← ht₀]
    rfl
  · rw [after_getInstance_bind]
    cases ht : D.instances[i]? with
    | none => exact Lulled.refl haD
    | some t =>
      dsimp only
      split
      · exact enable_lulled hP.1 haD ht (by simp [hP.2 t ht])
      · exact Lulled.refl haD

/-! ## Exits, crashes and reconnects -/

/-- After an abnormal exit of its current server, an awake instance with no stop left to absorb
schedules its one reconnect or gives up; either way it reports, and launches nothing. -/
theorem crashed_lulled (ha : Apart d) (hl : d.world.live = none) (hs : d.instances[i]? = some s)
    (hw : s.Awake) (hsup : s.suppress = 0) (n : Nat) (status : ExitStatus) :
    Lulled r k d (after (crashed i n status) d) := by
  cases hsrv : d.servers[n]? with
  | none => simpa [crashed, hs, hsrv] using Lulled.refl (r := r) (k := k) ha
  | some srv =>
  cases hr : s.reconnect with
  | some t => simpa [crashed, hs, hsrv, hr] using Lulled.refl (r := r) (k := k) ha
  | none =>
    cases hat : s.attempted <;>
      simp only [crashed, after_getInstance_bind, hs, after_getServer_bind, hsrv, hr,
        Option.isSome_none, Bool.false_eq_true, if_false, if_true, hat, after_setInstance_bind,
        after_count_bind, after_get_bind, after_report_bind, after_report, hl,
        after_afterMs_bind, after_setInstance, updateAt_updateAt_self] <;>
      rw [updateAt_eq_const hs] <;>
      exact Lulled.update_other ha hs hw.1 (fun hr => hr.sid_ne hs hw) _ rfl (by simp [hl]) rfl
        (.of_open hw.1 fun _ _ => hsup) _ rfl (by simp [Event.launchOf])

/-- The exit of a server. The exit of an instance's current server finds it awake, and at most
crashes it; the exit of any other server only absorbs a stop. -/
theorem exited_lulled (h : Inv extra held d) (ha : Apart d) (i n : Nat) (status : ExitStatus) :
    Lulled r k d (after (exited i n status) d) := by
  have hl := h.live
  cases hs : d.instances[i]? with
  | none => simpa [exited, hs] using Lulled.refl (r := r) (k := k) ha
  | some s =>
  cases hsrv : d.servers[n]? with
  | none => simpa [exited, hs, hsrv] using Lulled.refl (r := r) (k := k) ha
  | some srv =>
  have hcoh := ha.coherent i s hs
  by_cases hc : s.current = some n
  · -- the current server exited: its instance is open, and awake
    have hcl : s.closed = false := by
      cases h' : s.closed
      · rfl
      · simp [(hcoh.sealed h').1] at hc
    have hw := (h.sessions i s hs hcl).awake_of_current hcl hc
    have hk : Rests r k d → s.sid ≠ k := fun hr => hr.sid_ne hs hw
    by_cases hclean : status.clean = true <;> by_cases hsup : s.suppress > 0 <;>
      by_cases hstop : srv.stopped = true <;>
      simp only [exited, after_getInstance_bind, hs, after_getServer_bind, hsrv, hc, if_true,
        after_setInstance_bind, after_setServer_bind, hcl, hclean, hsup, hstop, after_count_bind,
        after_setInstance, Bool.false_eq_true, if_false, updateAt_updateAt_self, Bool.and_true,
        Bool.and_false, decide_true, decide_false] <;>
      rw [updateAt_eq_const hs]
    -- a clean or absorbed exit leaves it without a server; an abnormal one goes on to crash it
    all_goals first
      | exact Lulled.update_other ha hs hcl hk _ rfl rfl rfl
          (.of_open hcl fun ha' hst => by have := hcoh.spent ha' hcl hst; dsimp only at *; omega)
          [] (by simp) (by simp)
      | exact Lulled.then_after (Lulled.update_other ha hs hcl hk _ rfl rfl rfl
          (.of_open hcl fun _ _ => by dsimp only; omega) [] (by simp) (by simp)) fun ha₁ =>
            crashed_lulled ha₁ hl (getElem?_updateAt_self hs _)
              ⟨hcl, hw.2.1, by simp⟩ (by dsimp only; omega) n status
  · -- another server's exit at most absorbs a stop of an open instance
    by_cases hcl : s.closed = true <;> by_cases hclean : status.clean = true <;>
      by_cases hsup : s.suppress > 0 <;> by_cases hstop : srv.stopped = true <;>
      simp only [exited, after_getInstance_bind, hs, after_getServer_bind, hsrv, hc, if_false,
        if_true, after_setInstance_bind, hcl, hclean, hsup, hstop, after_count_bind,
        Bool.false_eq_true, Bool.and_true, Bool.and_false, decide_true, decide_false,
        after_pure] <;>
      first
        | exact Lulled.refl ha
        | exact Lulled.frame ha rfl rfl rfl
        | (rw [updateAt_eq_const hs]
           exact Lulled.update_at ha hs _ rfl rfl rfl id (fun hc' => by simp [hcl] at hc')
             (.of_open (by simpa using hcl) fun ha' hst => by
               have := hcoh.spent ha' (by simpa using hcl) hst; dsimp only at *; omega)
             fun hr => ⟨fun hk => (hr i s hs hk).congr rfl rfl rfl, [], by simp,
               fun e he => by simp at he⟩)

/-- The reconnect timer of a crashed server fired. A live reconnect of the instance's generation
finds it awake, waiting for the reconnect; it enables it again, or leaves it idle. -/
theorem reconnectFired_lulled (h : Inv extra held d) (ha : Apart d) (i g : Nat) (buffer : String) :
    Lulled r k d (after (reconnectFired i g buffer) d) := by
  cases hs : d.instances[i]? with
  | none => simpa [reconnectFired, hs] using Lulled.refl (r := r) (k := k) ha
  | some s =>
  by_cases hskip : s.closed = true ∨ s.gen ≠ g ∨ s.reconnect = none
  · have : (s.closed || decide (s.gen ≠ g) || s.reconnect.isNone) = true := by
      rcases hskip with h' | h' | h' <;> simp [h']
    simp only [reconnectFired, after_getInstance_bind, hs, this, if_true, after_pure]
    exact Lulled.refl ha
  simp only [not_or, Ne, Decidable.not_not] at hskip
  obtain ⟨hcl, rfl, hr⟩ := hskip
  have hcl : s.closed = false := by simpa using hcl
  have hok := h.sessions i s hs hcl
  have hpend : s.state = .reconnectPending :=
    hok.reconnect_iff.mp (Option.isSome_iff_ne_none.mpr hr)
  have hst : s.stopped = false := by
    cases h' : s.stopped
    · rfl
    · simp [hok.stopped_idle h'] at hpend
  have hw : s.Awake := ⟨hcl, hst, by simp [hpend]⟩
  have hk : Rests r k d → s.sid ≠ k := fun hr => hr.sid_ne hs hw
  have hgo : (s.closed || decide (s.gen ≠ s.gen) || s.reconnect.isNone) = false := by
    simp [hcl, Option.isSome_iff_ne_none, hr]
  simp only [reconnectFired, after_getInstance_bind, hs, hgo, Bool.false_eq_true, if_false,
    after_setInstance_bind]
  cases ht : s.tracks buffer
  · -- the buffer was closed meanwhile: the instance rests idle
    simp only [Bool.false_eq_true, if_false, after_setInstance, updateAt_updateAt_self]
    rw [updateAt_eq_const hs]
    exact Lulled.update_other ha hs hcl hk _ rfl rfl rfl
      ((ha.coherent i s hs).keep_open hcl hcl rfl rfl rfl) [] (by simp) (by simp)
  · -- the enable runs on the instance whose timer was just cleared
    simp only [if_true, enable, after_getInstance_bind, getElem?_updateAt, hs, Option.map_some,
      if_true, hcl, hst, Bool.or_self, Bool.false_eq_true, if_false, hpend,
      after_cancelReconnect_bind, Option.bind_some, after_setInstance_bind,
      updateAt_updateAt_self]
    rw [updateAt_eq_const hs]
    exact Lulled.then_after (Lulled.update_other ha hs hcl hk _ rfl rfl rfl
      ((ha.coherent i s hs).keep_open hcl hcl rfl rfl rfl) [] (by simp) (by simp)) fun ha₁ =>
        ensure_lulled (by
          exact h.begin hs hcl hst (by simp [hpend]) _ (by rfl) (by rfl) (by rfl) (by rfl)
            (by rfl) (by rfl) (by rfl) _ (Same.world rfl rfl rfl rfl)) ha₁ false

/-! ## Operations on a session, from invariant states -/

/-- The operation lulls session `k` at rest `r` from every invariant state whose sessions are
apart, whatever work is in hand. -/
def Stays {α : Type} (r : Rest) (k : Nat) (op : M α) : Prop :=
  ∀ extra held d, Inv extra held d → Apart d → Lulled r k d (after op d)

theorem Lulls.stays {α : Type} {op : M α} (h : Lulls r k op) : Stays r k op :=
  fun _ _ d hd ha => h d hd.live ha

/-- A calm first operation hands an invariant state to the rest. -/
theorem Stays.bind {α β : Type} {x : M α} {f : α → M β} (hx : Stays r k x) (hc : Calm x)
    (hf : ∀ a, Stays r k (f a)) : Stays r k (x >>= f) := fun extra held d hd ha =>
  Lulled.bind (P := Inv extra held) (hc extra held d hd) (hx extra held d hd ha)
    fun a _ hs has => hf a extra held _ hs has

/-- A restart by the user, of a session that rests at most among the closed. -/
theorem restartSession_lulled (h : Inv extra held d) (ha : Apart d) (sid : Nat)
    (hw : r ≠ .closed → sid ≠ k) : Lulled r k d (after (restartSession sid) d) := by
  unfold restartSession
  rw [after_lookup_bind]
  cases ho : openInstance d sid with
  | none => exact .refl ha
  | some j =>
    obtain ⟨s, hs, rfl, hopen⟩ := openInstance_eq_some ho
    refine restart_lulled h ha hs hopen fun hr hk => ?_
    -- a session resting among the closed has no open instance to restart
    cases r with
    | closed => simpa [Instance.AtRest, hopen] using hr j s hs hk
    | stopped => exact hw (by simp) hk
    | givenUp => exact hw (by simp) hk

/-- Changed settings restart a session's open instance unless it was stopped; an instance that
rests, open and not stopped, has given up. -/
theorem settingsChanged_lulled (h : Inv extra held d) (ha : Apart d) (sid : Nat)
    (hw : r = .givenUp → sid ≠ k) : Lulled r k d (after (settingsChanged sid) d) := by
  unfold settingsChanged
  rw [after_lookup_bind]
  cases ho : openInstance d sid with
  | none => exact .refl ha
  | some j =>
    obtain ⟨s, hs, rfl, hopen⟩ := openInstance_eq_some ho
    simp only [after_getInstance_bind, hs]
    split
    · next hst =>
      refine restart_lulled h ha hs hopen fun hr hk => ?_
      have hrest := hr j s hs hk
      cases r with
      | closed => simp [Instance.AtRest, hopen] at hrest
      | stopped => simp_all [Instance.AtRest]
      | givenUp => exact hw rfl hk
    · exact .refl ha

/-- Adding an instance of a session with no open instance. -/
theorem Lulled.append (ha : Apart d) (s : Instance) (hnone : openInstance d s.sid = none)
    (hcoh : s.Coherent) (hk : Rests r k d → s.sid = k → s.AtRest r) :
    Lulled r k d { d with instances := d.instances ++ [s] } := by
  refine ⟨⟨fun j j' t t' hj hj' hsame hc hc' => ?_, fun j t hj => ?_⟩, rfl,
    fun j t hj _ => ⟨t, getElem?_append_singleton_eq_some.mpr (.inl hj), rfl⟩,
    fun hr => ⟨fun j t hj hkt => ?_, [], by simp, fun e he => by simp at he⟩⟩
  · -- an old open instance of the new instance's session would have been found
    rcases getElem?_append_singleton_eq_some.mp hj with hj | ⟨rfl, rfl⟩ <;>
      rcases getElem?_append_singleton_eq_some.mp hj' with hj' | ⟨rfl, rfl⟩
    · exact ha.single j j' t t' hj hj' hsame hc hc'
    · simp [closed_of_openInstance_eq_none hnone hj hsame] at hc
    · simp [closed_of_openInstance_eq_none hnone hj' hsame.symm] at hc'
    · rfl
  · rcases getElem?_append_singleton_eq_some.mp hj with hj | ⟨rfl, rfl⟩
    · exact ha.coherent j t hj
    · exact hcoh
  · rcases getElem?_append_singleton_eq_some.mp hj with hj | ⟨rfl, rfl⟩
    · exact hr j t hj hkt
    · exact hk hr hkt

/-- Opening a session that does not rest: a session already open stops the operation, and a new
instance is idle, open and coherent. -/
theorem openSession_lulled (ha : Apart d) (hl : d.world.live = none) (sid : Nat)
    (cfg : Session.SessionConfig) (rootUri capabilities : String) (hk : sid ≠ k) :
    Lulled r k d (after (openSession sid cfg rootUri capabilities) d) := by
  simp only [openSession, after_get_bind]
  split
  · exact (lulls_nameOf sid).bind (fun _ _ _ ha' => by
      rw [after_fail_bind]
      exact Lulled.refl ha') d hl ha
  · next hnone =>
    rw [after_get_bind]
    refine Lulled.bind (P := fun D => D.world.live = none) hl
      (Lulled.append ha _ (by simpa using hnone) (.of_open rfl fun h => by simp at h)
        fun _ hks => absurd hks hk) fun _ D hlD haD => ?_
    refine (lulls_get.bind fun _ => ?_) D hlD haD
    split
    · split
      · exact lulls_withConfig _ _ _
      · exact Lulls.pure _
    · exact Lulls.pure _

/-- Recording a document the editor opened on an instance keeps the invariant. -/
theorem Inv.record (h : Inv extra held d) (hs : d.instances[i]? = some s) (doc : Document) :
    Inv extra held { d with instances := updateAt d.instances i fun t =>
      { t with docs := if s.tracks doc.uri then s.docs.map (fun x => if x.uri = doc.uri then doc else x)
                       else s.docs ++ [doc],
               order := if s.tracks doc.uri then s.order else s.order ++ [doc.uri],
               lastBuffer := doc.uri } } := by
  refine h.setInstance i _ fun s₀ hs₀ hcl => ?_
  rw [hs] at hs₀
  cases hs₀
  have hok := h.sessions i s hs hcl
  cases ht : s.tracks doc.uri
  · exact hok.track doc ht
  · exact hok.touch _ (fun x => by split <;> simp_all) doc.uri

/-- A document the editor opened enables its instance only from a state that is not given up. -/
theorem didOpen_lulled (h : Inv extra held d) (ha : Apart d) (sid : Nat) (doc : Document) :
    Lulled r k d (after (didOpen sid doc) d) := by
  refine (show Stays r k (didOpen sid doc) from ?_) extra held d h ha
  unfold didOpen
  refine (lulls_lookup sid).stays.bind (calm_lookup sid) fun i => ?_
  refine lulls_get.stays.bind calm_get fun _ => ?_
  split
  · refine (lulls_getInstance i).stays.bind (calm_getInstance i) fun o => ?_
    rcases o with _ | s
    · exact (Lulls.pure _).stays
    dsimp only
    split
    case' isTrue =>
      refine (lulls_withConfig i _ _).stays.bind (calm_withConfig i _ _) fun _ => ?_
    case' isFalse => split; exact (Lulls.pure _).stays
    -- the document is recorded on the instance as it is now; its state decides the enable
    all_goals
      intro extra held d h ha
      rw [after_getInstance_bind]
      cases hs : d.instances[i]? with
      | none => exact Lulled.refl ha
      | some s =>
        dsimp only
        rw [after_setInstance_bind]
        refine Lulled.then_after (Lulled.life ha i _ (fun _ => by rfl) rfl rfl rfl) fun ha₁ => ?_
        cases hq : s.state
        case attached =>
          cases hc : s.current
          · exact Lulled.refl ha₁
          · exact lulls_sendOpen _ _ _ (by exact h.live) ha₁
        all_goals first
          | exact enable_lulled (h.record hs doc) ha₁ (getElem?_updateAt_self hs _) (by simp [hq])
          | exact Lulled.refl ha₁
  · exact (Lulls.pure _).stays

end RemoteLsp.Daemon
