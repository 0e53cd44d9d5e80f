import RemoteLsp.Proofs.Reachable

/-!
# Sessions at rest

A server is launched only for a session instance that is open, not stopped by the user and not
given up after crashing again. A session rests at one of three levels, each admitting the ones
before it: all of its instances are closed; each is closed or stopped; each is closed, stopped
or given up. A session at rest stays at rest, and no server is launched for it, until the user
restarts it, its settings change after it gave up, or it is opened again.

Between operations the sessions are also *apart*: a session has at most one open instance, a
closed instance has neither a current server nor a reconnect pending, and an open instance that
was not stopped has no stop of a server left to absorb once a reconnect was scheduled for it.

`Lulled r k d d'` says that going from `d` to `d'` keeps the sessions apart and, when session `k`
rested at level `r` in `d`, it still does in `d'` and the events appended since launch nothing
for it. An operation *lulls* when it does so from every invariant state whose sessions are
apart. Most operations touch no instance's rest and launch nothing; this module shows it of
them, and of the changes of one instance from which the lifecycle's operations are built.
-/

namespace RemoteLsp.Daemon

/-! ## Rest and coherence of an instance -/

/-- How deeply a session rests; each level admits the ones before it. -/
inductive Rest where
  /-- Closed. -/
  | closed
  /-- Closed, or stopped by the user. -/
  | stopped
  /-- Closed, stopped, or given up after a second crash. -/
  | givenUp
  deriving DecidableEq, Repr

namespace Instance

/-- The instance rests at level `r`. -/
def AtRest (s : Instance) : Rest → Prop
  | .closed => s.closed = true
  | .stopped => s.closed = true ∨ s.stopped = true
  | .givenUp => s.closed = true ∨ s.stopped = true ∨ s.state = .givenUp

instance decAtRest (s : Instance) : (r : Rest) → Decidable (s.AtRest r)
  | .closed => inferInstanceAs (Decidable (s.closed = true))
  | .stopped => inferInstanceAs (Decidable (s.closed = true ∨ s.stopped = true))
  | .givenUp =>
    inferInstanceAs (Decidable (s.closed = true ∨ s.stopped = true ∨ s.state = .givenUp))

/-- An instance that may have a server launched: open, not stopped and not given up. -/
def Awake (s : Instance) : Prop := s.closed = false ∧ s.stopped = false ∧ s.state ≠ .givenUp

/-- What the rest and the coherence of an instance read: its session, whether it is closed or
stopped, its state, current server and reconnect, its reconnect allowance and its stops left to
absorb. -/
def life (s : Instance) :
    Nat × Bool × Bool × LifecycleState × Option Nat × Option Nat × Bool × Nat :=
  (s.sid, s.closed, s.stopped, s.state, s.current, s.reconnect, s.attempted, s.suppress)

/-- What holds of every instance between operations: a closed instance has no current server
and no reconnect pending, and an open instance that was not stopped has no stop of a server
left to absorb once a reconnect was scheduled for it. -/
structure Coherent (s : Instance) : Prop where
  sealed : s.closed = true → s.current = none ∧ s.reconnect = none
  spent : s.attempted = true → s.closed = false → s.stopped = false → s.suppress = 0

theorem AtRest.givenUp {s : Instance} : {r : Rest} → s.AtRest r → s.AtRest .givenUp
  | .closed, h => .inl h
  | .stopped, h => h.elim .inl fun h => .inr (.inl h)
  | .givenUp, h => h

theorem Awake.not_atRest {s : Instance} (hw : s.Awake) {r : Rest} : ¬ s.AtRest r := by
  intro h
  rcases h.givenUp with h | h | h
  · simp [hw.1] at h
  · simp [hw.2.1] at h
  · exact hw.2.2 h

/-- A stopped instance rests at every level but the first. -/
theorem atRest_of_stopped {s : Instance} (h : s.stopped = true) {r : Rest} (hr : r ≠ .closed) :
    s.AtRest r := by
  cases r with
  | closed => exact absurd rfl hr
  | stopped => exact .inr h
  | givenUp => exact .inr (.inl h)

/-- The rest of an instance reads only whether it is closed or stopped, and its state. -/
theorem AtRest.congr {s s' : Instance} (hc : s'.closed = s.closed) (hs : s'.stopped = s.stopped)
    (hst : s'.state = s.state) {r : Rest} (hr : s.AtRest r) : s'.AtRest r := by
  cases r <;> simpa only [AtRest, hc, hs, hst] using hr

theorem AtRest.of_life {s s' : Instance} (h : s'.life = s.life) {r : Rest} (hr : s.AtRest r) :
    s'.AtRest r := by
  simp only [life, Prod.mk.injEq] at h
  obtain ⟨-, hc, hs, hst, -⟩ := h
  exact hr.congr hc hs hst

theorem closed_of_life {s s' : Instance} (h : s'.life = s.life) : s'.closed = s.closed := by
  simp only [life, Prod.mk.injEq] at h
  exact h.2.1

theorem Coherent.of_life {s s' : Instance} (h : s'.life = s.life) (hc : s.Coherent) :
    s'.Coherent := by
  simp only [life, Prod.mk.injEq] at h
  obtain ⟨-, hcl, hst, -, hcur, hrec, hatt, hsup⟩ := h
  exact ⟨by simpa only [hcl, hcur, hrec] using hc.sealed,
    by simpa only [hcl, hst, hatt, hsup] using hc.spent⟩

/-- An open instance is coherent as soon as a scheduled reconnect leaves no stop to absorb. -/
theorem Coherent.of_open {s : Instance} (hcl : s.closed = false)
    (hsup : s.attempted = true → s.stopped = false → s.suppress = 0) : s.Coherent :=
  ⟨fun h => by simp [hcl] at h, fun ha _ hst => hsup ha hst⟩

/-- An open instance changed elsewhere than in its reconnect allowance, its stop and its stops
to absorb stays coherent. -/
theorem Coherent.keep_open {s s' : Instance} (h : s.Coherent) (hs : s.closed = false)
    (hcl : s'.closed = false) (hatt : s'.attempted = s.attempted) (hst : s'.stopped = s.stopped)
    (hsup : s'.suppress = s.suppress) : s'.Coherent :=
  .of_open hcl fun ha hst' => by
    rw [hsup]
    exact h.spent (hatt ▸ ha) hs (hst ▸ hst')

end Instance

/-! ## Sessions apart, and sessions at rest -/

/-- Between operations a session has at most one open instance, and every instance is
coherent. -/
structure Apart (d : State) : Prop where
  single : ∀ (i j : Nat) (s t : Instance), d.instances[i]? = some s → d.instances[j]? = some t →
    s.sid = t.sid → s.closed = false → t.closed = false → i = j
  coherent : ∀ (i : Nat) (s : Instance), d.instances[i]? = some s → s.Coherent

/-- Every instance of session `k` rests at level `r`. -/
def Rests (r : Rest) (k : Nat) (d : State) : Prop :=
  ∀ (i : Nat) (s : Instance), d.instances[i]? = some s → s.sid = k → s.AtRest r

/-- The session an event launches a server for, or fails to. -/
def Event.launchOf : Event → Option Nat
  | .launch _ sid _ _ _ => some sid
  | .launchFailed sid _ _ => some sid
  | _ => none

/-- No event of the list launches a server for session `k`. -/
def Unlaunched (k : Nat) (es : List Event) : Prop := ∀ e ∈ es, e.launchOf ≠ some k

/-- Every instance closed in `d` is still there in `d'`, with what its rest and coherence read
unchanged. -/
def KeepsClosed (d d' : State) : Prop :=
  ∀ (i : Nat) (s : Instance), d.instances[i]? = some s → s.closed = true →
    ∃ s', d'.instances[i]? = some s' ∧ s'.life = s.life

theorem KeepsClosed.refl (d : State) : KeepsClosed d d := fun _ s hs _ => ⟨s, hs, rfl⟩

theorem KeepsClosed.trans {d₁ d₂ d₃ : State} (h₁ : KeepsClosed d₁ d₂) (h₂ : KeepsClosed d₂ d₃) :
    KeepsClosed d₁ d₃ := by
  intro i s hs hc
  obtain ⟨s₂, hs₂, hl₂⟩ := h₁ i s hs hc
  obtain ⟨s₃, hs₃, hl₃⟩ := h₂ i s₂ hs₂ ((Instance.closed_of_life hl₂).trans hc)
  exact ⟨s₃, hs₃, hl₃.trans hl₂⟩

theorem KeepsClosed.of_eq {d d' : State} (hi : d'.instances = d.instances) : KeepsClosed d d' :=
  fun _ s hs _ => ⟨s, by rw [hi]; exact hs, rfl⟩

variable {r : Rest} {k : Nat}

theorem Apart.congr {d d' : State} (h : Apart d) (hi : d'.instances = d.instances) : Apart d' :=
  ⟨by rw [hi]; exact h.single, by rw [hi]; exact h.coherent⟩

theorem Rests.congr {d d' : State} (h : Rests r k d) (hi : d'.instances = d.instances) :
    Rests r k d' := by
  rw [Rests, hi]
  exact h

/-- An awake instance is not one of a session at rest. -/
theorem Rests.sid_ne {d : State} (h : Rests r k d) {i : Nat} {s : Instance}
    (hs : d.instances[i]? = some s) (hw : s.Awake) : s.sid ≠ k :=
  fun hk => hw.not_atRest (h i s hs hk)

theorem Unlaunched.append {es es' : List Event} (h : Unlaunched k es) (h' : Unlaunched k es') :
    Unlaunched k (es ++ es') := fun e he =>
  (List.mem_append.mp he).elim (h e) (h' e)

theorem Unlaunched.of_none {es : List Event} (h : ∀ e ∈ es, e.launchOf = none) :
    Unlaunched k es := fun e he hk => by simp [h e he] at hk

/-! ## Keeping sessions at rest -/

/-- From `d` to `d'` the sessions stay apart, the world stays as live as it was, every closed
instance keeps its rest and coherence, and, when session `k` rested at level `r`, it still does,
and the events appended launch nothing for it. -/
structure Lulled (r : Rest) (k : Nat) (d d' : State) : Prop where
  apart : Apart d'
  live : d'.world.live = d.world.live
  kept : KeepsClosed d d'
  quiet : Rests r k d → Rests r k d' ∧
    ∃ new, d'.world.events = d.world.events ++ new ∧ Unlaunched k new

/-- `d'` has the instances of `d` and its world is as live, and its events are those of `d`
followed by some that launch nothing. -/
structure Aside (d d' : State) : Prop where
  instances : d'.instances = d.instances
  live : d'.world.live = d.world.live
  events : ∃ new, d'.world.events = d.world.events ++ new ∧ ∀ e ∈ new, e.launchOf = none

namespace Aside

theorem refl (d : State) : Aside d d := ⟨rfl, rfl, [], by simp, fun e he => by simp at he⟩

/-- A change that keeps the instances, the liveness of the world and the events. -/
theorem of_eq {d d' : State} (hi : d'.instances = d.instances)
    (hl : d'.world.live = d.world.live) (he : d'.world.events = d.world.events) : Aside d d' :=
  ⟨hi, hl, [], by simp [he], fun e he => by simp at he⟩

/-- A change that keeps the instances and the liveness of the world, and records events that
launch nothing. -/
theorem emits {d d' : State} (hi : d'.instances = d.instances) (hl : d'.world.live = d.world.live)
    (new : List Event) (he : d'.world.events = d.world.events ++ new)
    (hn : ∀ e ∈ new, e.launchOf = none) : Aside d d' :=
  ⟨hi, hl, new, he, hn⟩

end Aside

namespace Lulled

variable {d₁ d₂ d₃ : State}

theorem refl (h : Apart d₁) : Lulled r k d₁ d₁ :=
  ⟨h, rfl, .refl d₁, fun hr => ⟨hr, [], by simp, fun e he => by simp at he⟩⟩

theorem trans (h₁ : Lulled r k d₁ d₂) (h₂ : Lulled r k d₂ d₃) : Lulled r k d₁ d₃ := by
  refine ⟨h₂.apart, h₂.live.trans h₁.live, h₁.kept.trans h₂.kept, fun hr => ?_⟩
  obtain ⟨hr₂, n₁, he₁, hu₁⟩ := h₁.quiet hr
  obtain ⟨hr₃, n₂, he₂, hu₂⟩ := h₂.quiet hr₂
  exact ⟨hr₃, n₁ ++ n₂, by rw [he₂, he₁, List.append_assoc], hu₁.append hu₂⟩

theorem of_aside (h : Apart d₁) (hs : Aside d₁ d₂) : Lulled r k d₁ d₂ := by
  obtain ⟨hi, hl, new, he, hn⟩ := hs
  exact ⟨h.congr hi, hl, .of_eq hi, fun hr => ⟨hr.congr hi, new, he, Unlaunched.of_none hn⟩⟩

/-- A change of the keys, the counters, the store or the world's work, which leaves the
instances, the liveness of the world and its events as they were. -/
theorem frame (h : Apart d₁) (hi : d₂.instances = d₁.instances)
    (hl : d₂.world.live = d₁.world.live) (he : d₂.world.events = d₁.world.events) :
    Lulled r k d₁ d₂ :=
  of_aside h (Aside.of_eq hi hl he)

/-- Going on from a state reached, whose sessions are apart. -/
theorem then_at (h₁ : Lulled r k d₁ d₂) (h₂ : Apart d₂ → Lulled r k d₂ d₃) : Lulled r k d₁ d₃ :=
  h₁.trans (h₂ h₁.apart)

/-- A first change, then an operation from the state it leaves. -/
theorem then_after {α : Type} {op : M α} (h₁ : Lulled r k d₁ d₂)
    (h₂ : Apart d₂ → Lulled r k d₂ (after op d₂)) : Lulled r k d₁ (after op d₂) :=
  h₁.then_at h₂

/-- A first step that changes no instance, no liveness and no event, then an operation. -/
theorem of_frame_then {α : Type} {op : M α} (h : Apart d₁)
    (h₂ : Apart d₂ → Lulled r k d₂ (after op d₂)) (hi : d₂.instances = d₁.instances)
    (hl : d₂.world.live = d₁.world.live) (he : d₂.world.events = d₁.world.events) :
    Lulled r k d₁ (after op d₂) :=
  (frame h hi hl he).then_at h₂

end Lulled

/-! ## Changing one instance -/

section Update

variable {d d' : State}

/-- Changing instance `i` by `f`, which keeps its session, reopens nothing and leaves a closed
instance's rest as it was, into a coherent instance that still rests when its session `k`
rested; the events appended launch nothing for `k` then. -/
theorem Lulled.update (ha : Apart d) (i : Nat) (f : Instance → Instance)
    (hi : d'.instances = updateAt d.instances i f) (hl : d'.world.live = d.world.live)
    (hsid : ∀ s, d.instances[i]? = some s → (f s).sid = s.sid)
    (hcl : ∀ s, d.instances[i]? = some s → (f s).closed = false → s.closed = false)
    (hkeep : ∀ s, d.instances[i]? = some s → s.closed = true → (f s).life = s.life)
    (hcoh : ∀ s, d.instances[i]? = some s → (f s).Coherent)
    (hq : Rests r k d → (∀ s, d.instances[i]? = some s → s.sid = k → (f s).AtRest r) ∧
      ∃ new, d'.world.events = d.world.events ++ new ∧ Unlaunched k new) :
    Lulled r k d d' := by
  -- an instance after the change is the one before, changed by `f` when it is instance `i`
  have get : ∀ j t, d'.instances[j]? = some t →
      ∃ s, d.instances[j]? = some s ∧ (if j = i then f s else s) = t := by
    intro j t hj
    rwa [hi, getElem?_updateAt, Option.map_eq_some_iff] at hj
  have hsid' : ∀ j s, d.instances[j]? = some s → (if j = i then f s else s).sid = s.sid := by
    intro j s hs
    split
    · next hji => exact hsid s (hji ▸ hs)
    · rfl
  have hcl' : ∀ j s, d.instances[j]? = some s →
      (if j = i then f s else s).closed = false → s.closed = false := by
    intro j s hs
    split
    · next hji => exact hcl s (hji ▸ hs)
    · exact id
  refine ⟨⟨fun j j' t t' hj hj' hsame hc hc' => ?_, fun j t hj => ?_⟩, hl, fun j s hs hc => ?_,
    fun hr => ?_⟩
  · obtain ⟨s, hs, rfl⟩ := get j t hj
    obtain ⟨s', hs', rfl⟩ := get j' t' hj'
    rw [hsid' j s hs, hsid' j' s' hs'] at hsame
    exact ha.single j j' s s' hs hs' hsame (hcl' j s hs hc) (hcl' j' s' hs' hc')
  · obtain ⟨s, hs, rfl⟩ := get j t hj
    by_cases hji : j = i
    · subst hji
      rw [if_pos rfl]
      exact hcoh s hs
    · rw [if_neg hji]
      exact ha.coherent j s hs
  · refine ⟨if j = i then f s else s, by rw [hi, getElem?_updateAt, hs]; rfl, ?_⟩
    split
    · next hji => exact hkeep s (hji ▸ hs) hc
    · rfl
  · obtain ⟨hrest, he⟩ := hq hr
    refine ⟨fun j t hj hk => ?_, he⟩
    obtain ⟨s, hs, rfl⟩ := get j t hj
    rw [hsid' j s hs] at hk
    by_cases hji : j = i
    · subst hji
      rw [if_pos rfl]
      exact hrest s hs hk
    · rw [if_neg hji]
      exact hr j s hs hk

/-- Changing an instance elsewhere than in what its rest and coherence read. -/
theorem Lulled.life (ha : Apart d) (i : Nat) (f : Instance → Instance)
    (hf : ∀ s, (f s).life = s.life) (hi : d'.instances = updateAt d.instances i f)
    (hl : d'.world.live = d.world.live) (he : d'.world.events = d.world.events) :
    Lulled r k d d' := by
  have hlife : ∀ s, (f s).sid = s.sid ∧ (f s).closed = s.closed := fun s => by
    have := hf s
    simp only [Instance.life, Prod.mk.injEq] at this
    exact ⟨this.1, this.2.1⟩
  refine Lulled.update ha i f hi hl (fun s _ => (hlife s).1) (fun s _ h => (hlife s).2 ▸ h)
    (fun s _ _ => hf s) (fun s hs => (ha.coherent i s hs).of_life (hf s)) fun hr =>
      ⟨fun s hs hk => (hr i s hs hk).of_life (hf s), [], by simp [he], fun e he => by simp at he⟩

/-- Changing an instance elsewhere than in what its rest and coherence read, then an
operation. -/
theorem Lulled.life_then {α : Type} {op : M α} (ha : Apart d) (i : Nat) (f : Instance → Instance)
    (hf : ∀ s, (f s).life = s.life) (hi : d'.instances = updateAt d.instances i f)
    (hl : d'.world.live = d.world.live) (he : d'.world.events = d.world.events)
    (h : Apart d' → Lulled r k d' (after op d')) : Lulled r k d (after op d') :=
  (Lulled.life ha i f hf hi hl he).then_at h

/-- Changing the configuration of an instance. -/
theorem Lulled.setCfg (ha : Apart d) (i : Nat) (f : Instance → Session.SessionConfig) :
    Lulled r k d { d with instances := updateAt d.instances i fun s => { s with cfg := f s } } :=
  Lulled.life ha i (fun s => { s with cfg := f s }) (fun _ => rfl) rfl rfl rfl

/-- Changing the configuration of an instance, then an operation. -/
theorem Lulled.setCfg_then {α : Type} {op : M α} (ha : Apart d) (i : Nat)
    (f : Instance → Session.SessionConfig)
    (h : Apart { d with instances := updateAt d.instances i fun s => { s with cfg := f s } } →
      Lulled r k { d with instances := updateAt d.instances i fun s => { s with cfg := f s } }
        (after op { d with instances := updateAt d.instances i fun s => { s with cfg := f s } })) :
    Lulled r k d
      (after op { d with instances := updateAt d.instances i fun s => { s with cfg := f s } }) :=
  (Lulled.setCfg ha i f).then_at h

/-- Changing instance `i`, found as `s`, into `s'`. -/
theorem Lulled.update_at (ha : Apart d) {i : Nat} {s : Instance} (hs : d.instances[i]? = some s)
    (s' : Instance) (hi : d'.instances = updateAt d.instances i fun _ => s')
    (hl : d'.world.live = d.world.live) (hsid : s'.sid = s.sid)
    (hcl : s'.closed = false → s.closed = false) (hkeep : s.closed = true → s'.life = s.life)
    (hcoh : s'.Coherent)
    (hq : Rests r k d → (s.sid = k → s'.AtRest r) ∧
      ∃ new, d'.world.events = d.world.events ++ new ∧ Unlaunched k new) :
    Lulled r k d d' := by
  have found : ∀ s₀, d.instances[i]? = some s₀ → s₀ = s := fun s₀ h₀ =>
    Option.some.inj (h₀.symm.trans hs)
  refine Lulled.update ha i (fun _ => s') hi hl (fun s₀ h₀ => found s₀ h₀ ▸ hsid)
    (fun s₀ h₀ => found s₀ h₀ ▸ hcl) (fun s₀ h₀ => found s₀ h₀ ▸ hkeep) (fun _ _ => hcoh)
    fun hr => ⟨fun s₀ h₀ hk => (hq hr).1 (found s₀ h₀ ▸ hk), (hq hr).2⟩

/-- Changing an open instance of a session other than the one at rest: neither what it becomes
nor the launches recorded for its session matter to the session at rest. -/
theorem Lulled.update_other (ha : Apart d) {i : Nat} {s : Instance}
    (hs : d.instances[i]? = some s) (hopen : s.closed = false) (hk : Rests r k d → s.sid ≠ k)
    (f : Instance → Instance) (hi : d'.instances = updateAt d.instances i f)
    (hl : d'.world.live = d.world.live) (hsid : (f s).sid = s.sid) (hcoh : (f s).Coherent)
    (new : List Event) (he : d'.world.events = d.world.events ++ new)
    (hn : ∀ e ∈ new, e.launchOf = none ∨ e.launchOf = some s.sid) : Lulled r k d d' := by
  rw [updateAt_eq_const hs] at hi
  refine Lulled.update_at ha hs (f s) hi hl hsid (fun _ => hopen) (fun hc => by simp [hopen] at hc)
    hcoh fun hr => ⟨fun hsk => absurd hsk (hk hr), new, he, fun e hm hke => ?_⟩
  rcases hn e hm with h | h <;> rw [h] at hke
  · simp at hke
  · exact hk hr (Option.some.inj hke)

/-- Changing an awake instance: it belongs to no session at rest. -/
theorem Lulled.update_awake (ha : Apart d) {i : Nat} {s : Instance}
    (hs : d.instances[i]? = some s) (hw : s.Awake) (f : Instance → Instance)
    (hi : d'.instances = updateAt d.instances i f) (hl : d'.world.live = d.world.live)
    (hsid : ∀ s, (f s).sid = s.sid) (hcoh : (f s).Coherent)
    (new : List Event) (he : d'.world.events = d.world.events ++ new)
    (hn : ∀ e ∈ new, e.launchOf = none ∨ e.launchOf = some s.sid) : Lulled r k d d' :=
  Lulled.update_other ha hs hw.1 (fun hr => hr.sid_ne hs hw) f hi hl (hsid s) hcoh new he hn

/-- Changing an awake instance in place. -/
theorem Lulled.setInstance_awake (ha : Apart d) {i : Nat} {s : Instance}
    (hs : d.instances[i]? = some s) (hw : s.Awake) (f : Instance → Instance)
    (hsid : ∀ s, (f s).sid = s.sid)
    (hcoh : (f s).Coherent) : Lulled r k d { d with instances := updateAt d.instances i f } :=
  Lulled.update_awake ha hs hw f rfl rfl hsid hcoh [] (by simp) (by simp)

end Update

/-- The operation lulls session `k` at rest `r`: from every state of a world that is not live
and whose sessions are apart, it leaves them apart and the world not live, and it keeps `k` at
rest launching nothing for it. -/
def Lulls {α : Type} (r : Rest) (k : Nat) (op : M α) : Prop :=
  ∀ d, d.world.live = none → Apart d → Lulled r k d (after op d)

namespace Lulls

variable {α β : Type}

theorem pure (a : α) : Lulls r k (Pure.pure a : M α) := fun _ _ ha => Lulled.refl ha

theorem bind {x : M α} {f : α → M β} (hx : Lulls r k x) (hf : ∀ a, Lulls r k (f a)) :
    Lulls r k (x >>= f) := fun d hl ha =>
  after_bind_of (Q := Lulled r k d) (hx d hl ha)
    (fun a s hs => hs.trans (hf a s (hs.live.trans hl) hs.apart)) fun _ hs => hs

theorem forM {xs : List α} {f : α → M PUnit} (h : ∀ x, Lulls r k (f x)) :
    Lulls r k (xs.forM f) :=
  forM_of_bind (P := fun op => Lulls r k op) pure bind h

theorem forIn {xs : List α} {b : β} {f : α → β → M (ForInStep β)} (h : ∀ x b, Lulls r k (f x b)) :
    Lulls r k (forIn xs b f) :=
  forIn_of_bind (P := fun op => Lulls r k op) pure bind h

/-- An operation that, in a world that is not live, returns having left the instances as they
were and launched nothing. -/
theorem of_run {op : M α}
    (h : ∀ d, d.world.live = none → ∃ a d', op.run d = .ok a d' ∧ Aside d d') : Lulls r k op := by
  intro d hl ha
  obtain ⟨a, d', hr, hs⟩ := h d hl
  rw [after_eq_of_run_ok hr]
  exact Lulled.of_aside ha hs

/-- A read of the state. -/
theorem of_read {op : M α} (h : ∀ d, ∃ a, op.run d = .ok a d) : Lulls r k op :=
  of_run fun d _ => (h d).elim fun a hr => ⟨a, d, hr, Aside.refl d⟩

theorem attempt {op : M α} (h : Lulls r k op) : Lulls r k (Op.attempt op) := fun d hl ha => by
  rw [after_attempt]
  exact h d hl ha

theorem context {op : M α} (h : Lulls r k op) (c : String) : Lulls r k (Op.context op c) :=
  fun d hl ha => by
    rw [after_context]
    exact h d hl ha

end Lulls

/-! ## Reads and effects on the world -/

section Effects

theorem lulls_get : Lulls r k (get : M State) := Lulls.of_read fun d => ⟨d, rfl⟩

theorem lulls_getServer (n : Nat) : Lulls r k (getServer n) :=
  Lulls.of_read fun d => ⟨_, run_getServer n d⟩

theorem lulls_getInstance (i : Nat) : Lulls r k (getInstance i) :=
  Lulls.of_read fun d => ⟨_, run_getInstance i d⟩

theorem lulls_nameOf (sid : Nat) : Lulls r k (nameOf sid) :=
  Lulls.of_read fun d => ⟨_, run_nameOf sid d⟩

theorem lulls_emit (e : Event) (he : e.launchOf = none) : Lulls r k (emit e) :=
  Lulls.of_run fun d _ => ⟨_, _, run_emit e d, Aside.emits rfl rfl [e] rfl (by simpa using he)⟩

theorem lulls_addCount (name : String) (n : Nat) : Lulls r k (addCount name n) :=
  Lulls.of_run fun d _ => ⟨_, _, run_addCount name n d, Aside.of_eq rfl rfl rfl⟩

theorem lulls_count (name : String) : Lulls r k (count name) := lulls_addCount name 1

theorem lulls_replyWith (reply : Reply) : Lulls r k (replyWith reply) := by
  refine Lulls.of_run fun d _ => ⟨_, _, run_replyWith reply d, ?_⟩
  split
  · exact Aside.refl _
  · exact Aside.of_eq rfl rfl rfl

theorem lulls_report (sid : Nat) (severity : Severity) (m : String) :
    Lulls r k (report sid severity m) :=
  Lulls.of_run fun _ hl => ⟨_, _, run_report hl sid severity m, Aside.emits rfl rfl _ rfl (by simp [Event.launchOf])⟩

theorem lulls_writeLog (sid : Nat) (pfx text : String) : Lulls r k (writeLog sid pfx text) := by
  refine Lulls.of_run fun d hl => ⟨_, _, run_writeLog hl sid pfx text, ?_⟩
  split
  · exact Aside.refl _
  · exact Aside.emits rfl rfl _ rfl (by simp [Event.launchOf])

theorem lulls_editorNotify (sid : Nat) (method params : String) :
    Lulls r k (editorNotify sid method params) :=
  Lulls.of_run fun _ hl =>
    ⟨_, _, run_editorNotify hl sid method params, Aside.emits rfl rfl _ rfl (by simp [Event.launchOf])⟩

theorem lulls_editorCall (sid : Nat) (method params : String) :
    Lulls r k (editorCall sid method params) :=
  Lulls.of_run fun _ hl =>
    ⟨_, _, run_editorCall hl sid method params, Aside.emits rfl rfl _ rfl (by simp [Event.launchOf])⟩

theorem lulls_serverCall (n : Nat) (method params : String) :
    Lulls r k (serverCall n method params) :=
  Lulls.of_run fun _ hl =>
    ⟨_, _, run_serverCall hl n method params, Aside.emits rfl rfl _ rfl (by simp [Event.launchOf])⟩

theorem lulls_serverNotify (n : Nat) (method params : String) :
    Lulls r k (serverNotify n method params) :=
  Lulls.of_run fun _ hl =>
    ⟨_, _, run_serverNotify hl n method params, Aside.emits rfl rfl _ rfl (by simp [Event.launchOf])⟩

theorem lulls_serverStop (n : Nat) : Lulls r k (serverStop n) :=
  Lulls.of_run fun _ hl =>
    ⟨_, _, run_serverStop hl n, Aside.emits rfl rfl _ rfl (by simp [Event.launchOf])⟩

theorem lulls_stopTimer (id : Nat) : Lulls r k (stopTimer id) :=
  Lulls.of_run fun d _ => ⟨_, _, run_stopTimer id d, Aside.of_eq rfl rfl rfl⟩

theorem lulls_afterMs (ms : Nat) (action : TimerAction) : Lulls r k (afterMs ms action) :=
  Lulls.of_run fun d _ => ⟨_, _, run_afterMs ms action d, Aside.of_eq rfl rfl rfl⟩

theorem lulls_updateWorld (f : World → World) (hl : ∀ w, (f w).live = w.live)
    (he : ∀ w, (f w).events = w.events) : Lulls r k (updateWorld f) :=
  Lulls.of_run fun d _ => ⟨_, _, run_updateWorld f d, Aside.of_eq rfl (hl _) (he _)⟩

theorem lulls_post (t : Task) : Lulls r k (post t) :=
  lulls_updateWorld _ (fun _ => rfl) fun _ => rfl

theorem lulls_toEditor (host payload : String) : Lulls r k (toEditor host payload) :=
  lulls_get.bind fun _ => (lulls_addCount _ _).bind fun _ =>
    (lulls_addCount _ _).bind fun _ => Lulls.pure _

theorem lulls_toServer (payload : String) : Lulls r k (toServer payload) :=
  lulls_get.bind fun _ => (lulls_addCount _ _).bind fun _ =>
    (lulls_addCount _ _).bind fun _ => Lulls.pure _

theorem lulls_fault {α : Type} (m : String) : Lulls r k (Op.fault m : M α) :=
  fun _ _ ha => Lulled.refl ha

theorem lulls_fail {α : Type} (p : Problem) : Lulls r k (Op.fail p : M α) :=
  fun _ _ ha => Lulled.refl ha

theorem lulls_lookup (sid : Nat) : Lulls r k (lookup sid) := by
  intro d _ ha
  cases hs : openInstance d sid with
  | some i => rw [after_eq_of_run_ok (run_lookup_some hs)]; exact Lulled.refl ha
  | none =>
    obtain ⟨e, he⟩ := run_lookup_none hs
    simpa [after, he] using Lulled.refl (r := r) (k := k) ha

theorem lulls_markValid (key env : String) : Lulls r k (markValid key env) := by
  refine lulls_get.bind fun d => ?_
  split
  · exact Lulls.of_run fun d' _ => ⟨(), _, rfl, Aside.of_eq rfl rfl rfl⟩
  · exact lulls_fault _

theorem lulls_remember (host env : String) : Lulls r k (remember host env) := by
  refine lulls_get.bind fun d => ?_
  split
  · exact Lulls.of_run fun d' _ => ⟨(), _, rfl, Aside.of_eq rfl rfl rfl⟩
  · exact lulls_fault _

end Effects

/-! ## Configurations, server queues and the world's runs and prompts -/

section Queues

/-- Changing an instance elsewhere than in what its rest and coherence read. -/
theorem lulls_setInstance (i : Nat) (f : Instance → Instance) (hf : ∀ s, (f s).life = s.life) :
    Lulls r k (setInstance i f) := fun d _ ha => by
  rw [after_setInstance]
  exact Lulled.life ha i f hf rfl rfl rfl

theorem lulls_updateCache (i : Nat) (f : ValidationCache → ValidationCache) :
    Lulls r k (updateCache i f) :=
  lulls_setInstance i _ fun _ => rfl

theorem lulls_withConfig {α : Type} (i : Nat) (op : Op Session.ConfigState α) (fallback : α) :
    Lulls r k (withConfig i op fallback) := by
  intro d _ ha
  have keep : ∀ cs : Session.ConfigState, Lulled r k d
      { d with instances := updateAt d.instances i fun s => { s with cfg := cs.config },
               store := cs.store } := fun cs =>
    Lulled.life ha i (fun s => { s with cfg := cs.config }) (fun _ => rfl) rfl rfl rfl
  simp only [withConfig, after, EStateM.run_bind, EStateM.run_get]
  cases hs : d.instances[i]? with
  | none => simpa using Lulled.refl (r := r) (k := k) ha
  | some s =>
    cases hr : op.run ⟨s.cfg, d.store⟩ with
    | ok a cs => simpa [hr] using keep cs
    | error e cs =>
      simp only [hr]
      exact keep cs

theorem lulls_setServer (n : Nat) (f : Server → Server) : Lulls r k (setServer n f) :=
  Lulls.of_run fun d _ => ⟨_, _, run_setServer n f d, Aside.of_eq rfl rfl rfl⟩

theorem lulls_deliver (n : Nat) (m : Outgoing) : Lulls r k (deliver n m) := by
  cases m with
  | handshake params =>
    refine (lulls_serverCall n _ params).bind fun a =>
      (lulls_getServer n).bind fun o => ?_
    cases o with
    | none => exact Lulls.pure ()
    | some srv => exact lulls_post _
  | notify method params => exact lulls_serverNotify n method params
  | request method params =>
    refine (lulls_serverCall n method params).bind fun a => ?_
    cases a with
    | error e => exact lulls_replyWith _
    | rpcError c e => exact lulls_replyWith _
    | result raw =>
      exact (lulls_getServer n).bind fun _ =>
        (lulls_toEditor _ raw).bind fun _ => lulls_replyWith _

theorem lulls_enqueue (n : Nat) (m : Outgoing) : Lulls r k (enqueue n m) := by
  refine (lulls_getServer n).bind fun o => ?_
  cases o with
  | none => exact Lulls.pure ()
  | some srv =>
    dsimp only
    split
    · exact lulls_setServer n _
    · exact lulls_deliver n m

theorem lulls_send (n : Nat) (method params : String) : Lulls r k (send n method params) :=
  lulls_enqueue n _

theorem lulls_sendOpen (n : Nat) (doc : Document) : Lulls r k (sendOpen n doc) := by
  refine lulls_get.bind fun d => ?_
  split
  · exact lulls_send n _ _
  · exact Lulls.pure ()

theorem lulls_release (n : Nat) : Lulls r k (release n) := by
  refine (lulls_getServer n).bind fun o => ?_
  cases o with
  | none => exact Lulls.pure 0
  | some srv =>
    dsimp only
    exact (lulls_setServer n _).bind fun _ =>
      (Lulls.forM (lulls_deliver n)).bind fun _ =>
        Lulls.pure _

theorem lulls_relayFromServer (n : Nat) (method params : String) (isCall : Bool) :
    Lulls r k (relayFromServer n method params isCall) := by
  refine (lulls_getServer n).bind fun o => ?_
  cases o with
  | none => exact Lulls.pure none
  | some srv =>
    dsimp only
    split
    · exact Lulls.pure _
    · split
      · split <;> exact Lulls.pure _
      · refine (lulls_toEditor _ _).bind fun p => ?_
        split
        · exact (lulls_editorNotify _ _ _).bind fun _ => Lulls.pure none
        · refine (lulls_editorCall _ _ _).bind fun a => ?_
          cases a with
          | result raw => exact (lulls_toServer raw).bind fun _ => Lulls.pure _
          | error e => exact Lulls.pure _
          | rpcError c e => exact Lulls.pure _

theorem lulls_runRemote (sid : Nat) (host script : String) (timeoutMs : Int) (next : RunNext) :
    Lulls r k (runRemote sid host script timeoutMs next) := by
  intro d hl ha
  refine Lulled.of_aside ha ?_
  cases hr : d.world.scriptedRuns with
  | nil =>
    rw [after_runRemote_pending hl hr]
    exact Aside.emits rfl (by simp [hl]) _ rfl (by simp [Event.launchOf])
  | cons res rest =>
    rw [after_runRemote_scripted hl hr]
    exact Aside.emits rfl (by simp [hl]) _ (List.append_assoc _ _ _) (by simp [Event.launchOf])

theorem lulls_askInput (sid : Nat) (kind text preset : String) (choices : List String)
    (next : InputNext) : Lulls r k (askInput sid kind text preset choices next) := by
  intro d hl ha
  refine Lulled.of_aside ha ?_
  cases hi : d.world.scriptedInputs with
  | nil =>
    rw [after_askInput_pending hl hi]
    exact Aside.emits rfl (by simp [hl]) _ rfl (by simp [Event.launchOf])
  | cons answer rest =>
    rw [after_askInput_scripted hl hi]
    exact Aside.emits rfl (by simp [hl]) _ rfl (by simp [Event.launchOf])

theorem lulls_askConfirm (sid : Nat) (message : String) (actions : List String) (a : Attempt) :
    Lulls r k (askConfirm sid message actions a) := by
  intro d hl ha
  refine Lulled.of_aside ha ?_
  cases hc : d.world.scriptedConfirms with
  | nil =>
    rw [after_askConfirm_pending hl hc]
    exact Aside.emits rfl (by simp [hl]) _ rfl (by simp [Event.launchOf])
  | cons answer rest =>
    rw [after_askConfirm_scripted hl hc]
    exact Aside.emits rfl (by simp [hl]) _ rfl (by simp [Event.launchOf])

end Queues

/-! ## Documents and traffic of an open session -/

section Documents

theorem lulls_forgetOtherHosts (i : Nat) : Lulls r k (forgetOtherHosts i) := by
  unfold forgetOtherHosts
  refine (lulls_getInstance i).bind fun o => ?_
  rcases o with _ | s
  · exact Lulls.pure _
  · exact lulls_get.bind fun _ => lulls_setInstance i _ fun _ => rfl

theorem lulls_didChange (sid : Nat) (uri : String) (version : Int) (text : String) :
    Lulls r k (didChange sid uri version text) := by
  unfold didChange
  refine (lulls_lookup sid).bind fun i => ?_
  refine (lulls_getInstance i).bind fun o => ?_
  rcases o with _ | s
  · exact Lulls.pure _
  dsimp only
  split
  · exact Lulls.pure _
  refine (lulls_setInstance i _ fun _ => by rfl).bind
    fun _ => ?_
  split
  · refine lulls_get.bind fun _ => ?_
    split
    · exact lulls_send _ _ _
    · exact Lulls.pure _
  · exact Lulls.pure _

theorem lulls_didClose (sid : Nat) (uri : String) : Lulls r k (didClose sid uri) := by
  unfold didClose
  refine (lulls_lookup sid).bind fun i => ?_
  refine (lulls_getInstance i).bind fun o => ?_
  rcases o with _ | s
  · exact Lulls.pure _
  dsimp only
  split
  · exact Lulls.pure _
  refine (lulls_setInstance i _ fun _ => by rfl).bind fun _ => ?_
  split
  · refine lulls_get.bind fun _ => ?_
    split
    · exact lulls_send _ _ _
    · exact Lulls.pure _
  · exact Lulls.pure _

theorem lulls_request (sid : Nat) (method params : String) :
    Lulls r k (request sid method params) := by
  unfold request
  refine lulls_get.bind fun _ => ?_
  split
  · exact (Lulls.of_read fun _ => ⟨_, rfl⟩).bind fun _ => lulls_replyWith _
  · refine (lulls_getInstance _).bind fun o => ?_
    rcases o with _ | s
    · exact Lulls.pure _
    dsimp only
    split
    · exact lulls_replyWith _
    · exact (lulls_toServer _).bind fun _ => lulls_enqueue _ _

theorem lulls_notify (sid : Nat) (method params : String) : Lulls r k (notify sid method params) := by
  unfold notify
  refine (lulls_lookup sid).bind fun i =>
    (lulls_getInstance i).bind fun o => ?_
  rcases o with _ | s
  · exact Lulls.pure _
  dsimp only
  split
  · exact lulls_fail _
  · exact (lulls_toServer _).bind fun _ => lulls_send _ _ _

end Documents

end RemoteLsp.Daemon
