import RemoteLsp.Proofs.Returning

/-!
# Accounting for the work in flight

The lifecycle invariant bounds the enables under way from above: an instance has at most one
enable of its generation, and none that it is not waiting for. It allows work to be lost. The
daemon owes more to the sessions that wait on it: every enable handed to the provisioner is
continued exactly once. In the state this reads:

* no enable is under way twice, so none is continued twice;
* an open instance that is provisioning has the enable of its generation under way, so the
  enable it waits for was not lost;
* a key has waiters only while it is being checked, and a key being checked has its check
  under way, so a key cannot be left checking with nobody to settle it;
* remote runs and prompts under way have distinct ids below the next ones given out, so the
  answer to one of them continues exactly that one.

`Accounted extra held` states these beside the lifecycle invariant, with `extra` enables and
`held` checks in hand as there. Most operations touch none of it: they *settle*, changing no
work in flight and starting no enable, and so keep the accounting as soon as they keep the
lifecycle invariant.
-/

namespace RemoteLsp.Daemon

open Identity

/-- Instance `i` is open and provisioning in generation `g`: it waits for the enable `(i, g)`. -/
def Awaits (d : State) (i g : Nat) : Prop :=
  ∃ s, d.instances[i]? = some s ∧ s.closed = false ∧ s.state = .provisioning ∧ s.gen = g

/-- The open instances provisioning in `d'` were provisioning in `d`, in the same generation. -/
def NoNewEnable (d d' : State) : Prop :=
  ∀ (i : Nat) (s' : Instance), d'.instances[i]? = some s' → s'.closed = false →
    s'.state = .provisioning →
    ∃ s, d.instances[i]? = some s ∧ s.closed = false ∧ s.state = .provisioning ∧ s.gen = s'.gen

/-- `d'` has the work in flight of `d`, its queue grown only by tasks that continue no check, no
instance provisioning anew, a store that is ready when that of `d` was, and ids for runs and
prompts given out no earlier. -/
structure Settles (d d' : State) : Prop where
  keys : d'.keys = d.keys
  pendingRuns : d'.world.pendingRuns = d.world.pendingRuns
  prompts : d'.world.prompts = d.world.prompts
  queue_enables : d'.world.queue.filterMap Task.enable? = d.world.queue.filterMap Task.enable?
  queue_grows : ∃ ts, d'.world.queue = d.world.queue ++ ts ∧ ∀ t ∈ ts, t.check? = none
  live : d'.world.live = d.world.live
  nextRun : d.world.nextRun ≤ d'.world.nextRun
  nextPrompt : d.world.nextPrompt ≤ d'.world.nextPrompt
  ready : d.store.Ready → d'.store.Ready
  instances : NoNewEnable d d'

namespace Settles

variable {d₁ d₂ d₃ : State}

theorem refl (d : State) : Settles d d :=
  ⟨rfl, rfl, rfl, rfl, ⟨[], by simp, by simp⟩, rfl, Nat.le_refl _, Nat.le_refl _, id,
    fun _ s' hs hcl hp => ⟨s', hs, hcl, hp, rfl⟩⟩

theorem trans (h₁ : Settles d₁ d₂) (h₂ : Settles d₂ d₃) : Settles d₁ d₃ where
  keys := h₂.keys.trans h₁.keys
  pendingRuns := h₂.pendingRuns.trans h₁.pendingRuns
  prompts := h₂.prompts.trans h₁.prompts
  queue_enables := h₂.queue_enables.trans h₁.queue_enables
  queue_grows := by
    obtain ⟨ts₁, hq₁, hc₁⟩ := h₁.queue_grows
    obtain ⟨ts₂, hq₂, hc₂⟩ := h₂.queue_grows
    exact ⟨ts₁ ++ ts₂, by rw [hq₂, hq₁, List.append_assoc],
      fun t ht => (List.mem_append.mp ht).elim (hc₁ t) (hc₂ t)⟩
  live := h₂.live.trans h₁.live
  nextRun := Nat.le_trans h₁.nextRun h₂.nextRun
  nextPrompt := Nat.le_trans h₁.nextPrompt h₂.nextPrompt
  ready := h₂.ready ∘ h₁.ready
  instances i s₃ hs₃ hcl hp := by
    obtain ⟨s₂, hs₂, hcl₂, hp₂, hg₂⟩ := h₂.instances i s₃ hs₃ hcl hp
    obtain ⟨s₁, hs₁, hcl₁, hp₁, hg₁⟩ := h₁.instances i s₂ hs₂ hcl₂ hp₂
    exact ⟨s₁, hs₁, hcl₁, hp₁, hg₁.trans hg₂⟩

theorem enables_eq (h : Settles d₁ d₂) : enables d₂ = enables d₁ := by
  simp only [enables, h.keys, h.pendingRuns, h.prompts, h.queue_enables]

theorem checks_eq (h : Settles d₁ d₂) : checks d₂ = checks d₁ := by
  obtain ⟨ts, hq, hc⟩ := h.queue_grows
  have hts : ts.filterMap Task.check? = [] := List.filterMap_eq_nil_iff.mpr hc
  simp only [checks, h.pendingRuns, h.prompts, hq, List.filterMap_append, hts, List.append_nil]

/-- A change that keeps the instances, keys and store, the work in flight of the world and its
ids. -/
theorem of_frame (hi : d₂.instances = d₁.instances) (hk : d₂.keys = d₁.keys)
    (hs : d₂.store = d₁.store) (hq : d₂.world.queue = d₁.world.queue)
    (hr : d₂.world.pendingRuns = d₁.world.pendingRuns) (hp : d₂.world.prompts = d₁.world.prompts)
    (hl : d₂.world.live = d₁.world.live) (hn : d₂.world.nextRun = d₁.world.nextRun)
    (hm : d₂.world.nextPrompt = d₁.world.nextPrompt) : Settles d₁ d₂ :=
  ⟨hk, hr, hp, by rw [hq], ⟨[], by simp [hq], by simp⟩, hl, Nat.le_of_eq hn.symm,
    Nat.le_of_eq hm.symm, fun h => hs ▸ h, fun i s' hs' hcl hp' => ⟨s', by rwa [hi] at hs', hcl, hp', rfl⟩⟩

/-- A change of the world that keeps its work in flight and its ids. -/
theorem world {d : State} {w : World} (hq : w.queue = d.world.queue)
    (hr : w.pendingRuns = d.world.pendingRuns) (hp : w.prompts = d.world.prompts)
    (hl : w.live = d.world.live) (hn : w.nextRun = d.world.nextRun)
    (hm : w.nextPrompt = d.world.nextPrompt) : Settles d { d with world := w } :=
  of_frame rfl rfl rfl hq hr hp hl hn hm

/-- An instance that waits for an enable after a settling change waited for it before. -/
theorem awaits (h : Settles d₁ d₂) {i g : Nat} (hw : Awaits d₂ i g) : Awaits d₁ i g := by
  obtain ⟨s', hs', hcl, hp, rfl⟩ := hw
  obtain ⟨s, hs, hcl₀, hp₀, hg⟩ := h.instances i s' hs' hcl hp
  exact ⟨s, hs, hcl₀, hp₀, hg⟩

end Settles

/-- The operation, run in a world that is not live, settles. -/
def Settled {α : Type} (op : M α) : Prop := ∀ d, d.world.live = none → Settles d (after op d)

namespace Settled

variable {α β : Type}

theorem pure (a : α) : Settled (Pure.pure a : M α) := fun d _ => Settles.refl d

theorem bind {x : M α} {f : α → M β} (hx : Settled x) (hf : ∀ a, Settled (f a)) :
    Settled (x >>= f) := fun d hl =>
  after_bind_of (Q := Settles d) (hx d hl) (fun a s hs => hs.trans (hf a s (hs.live.trans hl)))
    fun _ hs => hs

theorem forM {xs : List α} {f : α → M PUnit} (h : ∀ x, Settled (f x)) : Settled (xs.forM f) :=
  forM_of_bind pure bind h

theorem forIn {xs : List α} {b : β} {f : α → β → M (ForInStep β)} (h : ∀ x b, Settled (f x b)) :
    Settled (forIn xs b f) :=
  forIn_of_bind pure bind h

theorem of_run {op : M α} (h : ∀ d, d.world.live = none → ∃ a d', op.run d = .ok a d' ∧ Settles d d') :
    Settled op := by
  intro d hl
  obtain ⟨a, d', hr, hs⟩ := h d hl
  rw [after_eq_of_run_ok hr]
  exact hs

/-- A read of the state. -/
theorem of_read {op : M α} (h : ∀ d, ∃ a, op.run d = .ok a d) : Settled op :=
  of_run fun d _ => (h d).elim fun a hr => ⟨a, d, hr, Settles.refl d⟩

theorem attempt {op : M α} (h : Settled op) : Settled (Op.attempt op) := fun d hl => by
  rw [after_attempt]
  exact h d hl

theorem fail (p : Problem) : Settled (Op.fail p : M α) := fun d _ => Settles.refl d

end Settled

/-- Every enable and check under way is accounted for, with `extra` enables and `held` checks
in hand. -/
structure Accounted (extra : List (Nat × Nat)) (held : List Attempt) (d : State) : Prop where
  inv : Inv extra held d
  ready : d.store.Ready
  enables_nodup : (enables d ++ extra).Nodup
  waiting : ∀ key ks, Assoc.get? d.keys key = some ks → ks.waiters ≠ [] → ks.state = .checking
  checked : ∀ key ks, Assoc.get? d.keys key = some ks → ks.state = .checking →
    ∃ a ∈ checks d ++ held, a.key = key
  provisioning : ∀ i s, d.instances[i]? = some s → s.closed = false → s.state = .provisioning →
    (i, s.gen) ∈ enables d ++ extra
  runs_nodup : (d.world.pendingRuns.map (·.1)).Nodup
  runs_below : ∀ e ∈ d.world.pendingRuns, e.1 < d.world.nextRun
  prompts_nodup : (d.world.prompts.map Prompt.id).Nodup
  prompts_below : ∀ p ∈ d.world.prompts, p.id < d.world.nextPrompt

/-- The operation keeps the accounting, whatever is held in hand. -/
def Steady {α : Type} (op : M α) : Prop := ∀ extra held, Keeps (Accounted extra held) op

namespace Steady

variable {α β : Type}

theorem pure (a : α) : Steady (Pure.pure a : M α) := fun _ _ => Keeps.pure a

theorem bind {x : M α} {f : α → M β} (hx : Steady x) (hf : ∀ a, Steady (f a)) :
    Steady (x >>= f) :=
  fun extra held => (hx extra held).bind fun a => hf a extra held

theorem attempt {op : M α} (h : Steady op) : Steady (Op.attempt op) := fun extra held d hd => by
  rw [after_attempt]
  exact h extra held d hd

theorem recover {op : M α} (h : Steady op) (x : α) : Steady (Op.recover op x) :=
  fun extra held d hd => by
    rw [after_recover]
    exact h extra held d hd

theorem fail (p : Problem) : Steady (Op.fail p : M α) := fun _ _ _ h => h

end Steady

section Transfer

variable {d d' : State} {extra extra' : List (Nat × Nat)} {held held' : List Attempt}

theorem Accounted.sound (h : Accounted extra held d) : Sound d := ⟨h.inv.live, h.ready⟩

/-- The accounting moves along a change that settles, once the lifecycle invariant does. -/
theorem Accounted.settle (h : Accounted extra held d) (hi : Inv extra held d') (hs : Settles d d') :
    Accounted extra held d' where
  inv := hi
  ready := hs.ready h.ready
  enables_nodup := by rw [hs.enables_eq]; exact h.enables_nodup
  waiting := by rw [hs.keys]; exact h.waiting
  checked := by rw [hs.keys, hs.checks_eq]; exact h.checked
  provisioning i s' hs' hcl hp := by
    obtain ⟨s, hs₀, hcl₀, hp₀, hg⟩ := hs.instances i s' hs' hcl hp
    rw [hs.enables_eq, ← hg]
    exact h.provisioning i s hs₀ hcl₀ hp₀
  runs_nodup := by rw [hs.pendingRuns]; exact h.runs_nodup
  runs_below e he := Nat.lt_of_lt_of_le (h.runs_below e (hs.pendingRuns ▸ he)) hs.nextRun
  prompts_nodup := by rw [hs.prompts]; exact h.prompts_nodup
  prompts_below p hp := Nat.lt_of_lt_of_le (h.prompts_below p (hs.prompts ▸ hp)) hs.nextPrompt

/-- A calm operation that settles keeps the accounting. -/
theorem Steady.of {α : Type} {op : M α} (hc : Calm op) (hs : Settled op) : Steady op :=
  fun extra held d h => h.settle (hc extra held d h.inv) (hs d h.inv.live)

/-- An enable in hand is used up once its instance no longer waits for it. -/
theorem Accounted.consume {i g : Nat} (h : Accounted ((i, g) :: extra) held d)
    (hi : Inv extra held d') (hs : Settles d d') (hleft : ¬ Awaits d' i g) :
    Accounted extra held d' where
  inv := hi
  ready := hs.ready h.ready
  enables_nodup := by
    rw [hs.enables_eq]
    exact h.enables_nodup.sublist ((List.sublist_cons_self _ _).append_left _)
  waiting := by rw [hs.keys]; exact h.waiting
  checked := by rw [hs.keys, hs.checks_eq]; exact h.checked
  provisioning j s' hs' hcl hp := by
    obtain ⟨s, hs₀, hcl₀, hp₀, hg⟩ := hs.instances j s' hs' hcl hp
    have hm := h.provisioning j s hs₀ hcl₀ hp₀
    rw [hs.enables_eq, ← hg]
    simp only [List.mem_append, List.mem_cons, Prod.mk.injEq] at hm ⊢
    rcases hm with hm | ⟨rfl, hgen⟩ | hm
    · exact .inl hm
    · exact absurd ⟨s', hs', hcl, hp, hg ▸ hgen⟩ hleft
    · exact .inr hm
  runs_nodup := by rw [hs.pendingRuns]; exact h.runs_nodup
  runs_below e he := Nat.lt_of_lt_of_le (h.runs_below e (hs.pendingRuns ▸ he)) hs.nextRun
  prompts_nodup := by rw [hs.prompts]; exact h.prompts_nodup
  prompts_below p hp := Nat.lt_of_lt_of_le (h.prompts_below p (hs.prompts ▸ hp)) hs.nextPrompt

/-- The accounting moves to a state with the same instances and store whose work in flight,
together with what is in hand, is the same up to order, once the lifecycle invariant, the keys
and the ids there are as they must be. -/
theorem Accounted.transfer (h : Accounted extra held d) (hi : Inv extra' held' d')
    (hins : d'.instances = d.instances) (hst : d'.store = d.store)
    (he : (enables d' ++ extra').Perm (enables d ++ extra))
    (hw : ∀ key ks, Assoc.get? d'.keys key = some ks → ks.waiters ≠ [] → ks.state = .checking)
    (hc : ∀ key ks, Assoc.get? d'.keys key = some ks → ks.state = .checking →
      ∃ a ∈ checks d' ++ held', a.key = key)
    (hrn : (d'.world.pendingRuns.map (·.1)).Nodup)
    (hrb : ∀ e ∈ d'.world.pendingRuns, e.1 < d'.world.nextRun)
    (hpn : (d'.world.prompts.map Prompt.id).Nodup)
    (hpb : ∀ p ∈ d'.world.prompts, p.id < d'.world.nextPrompt) :
    Accounted extra' held' d' where
  inv := hi
  ready := hst ▸ h.ready
  enables_nodup := he.nodup_iff.mpr h.enables_nodup
  waiting := hw
  checked := hc
  provisioning i s hs hcl hp := he.mem_iff.mpr (h.provisioning i s (hins ▸ hs) hcl hp)
  runs_nodup := hrn
  runs_below := hrb
  prompts_nodup := hpn
  prompts_below := hpb

/-- Keys left as they were keep their waiters and their checks, when every check under way is
still under way or in hand. -/
theorem Accounted.checked_of (h : Accounted extra held d) (hk : d'.keys = d.keys)
    (hc : ∀ a ∈ checks d ++ held, a ∈ checks d' ++ held') :
    ∀ key ks, Assoc.get? d'.keys key = some ks → ks.state = .checking →
      ∃ a ∈ checks d' ++ held', a.key = key := by
  intro key ks hks hst
  obtain ⟨a, ha, hak⟩ := h.checked key ks (hk ▸ hks) hst
  exact ⟨a, hc a ha, hak⟩

end Transfer

/-! ## Moving work between the world and the hand -/

section Moves

variable {d : State} {extra : List (Nat × Nat)} {held : List Attempt}

/-- Work put from the hand into the state is still under way. -/
theorem mem_of_moved {α : Type} {xs xs' ys zs : List α} (h : xs'.Perm (xs ++ ys)) {a : α}
    (ha : a ∈ xs ++ (ys ++ zs)) : a ∈ xs' ++ zs := by
  rw [← List.append_assoc] at ha
  rcases List.mem_append.mp ha with ha | ha
  · exact List.mem_append_left _ (h.mem_iff.mpr ha)
  · exact List.mem_append_right _ ha

/-- An id given out next keeps the ids under way distinct and below the next one. -/
theorem fresh_append {α : Type} (f : α → Nat) {l : List α} {n : Nat} (hn : (l.map f).Nodup)
    (hb : ∀ x ∈ l, f x < n) {x : α} (hx : f x = n) :
    ((l ++ [x]).map f).Nodup ∧ ∀ y ∈ l ++ [x], f y < n + 1 := by
  refine ⟨?_, fun y hy => ?_⟩
  · rw [List.map_append, List.nodup_append]
    refine ⟨hn, by simp, fun a ha b hb' => ?_⟩
    simp only [List.map_cons, List.map_nil, List.mem_singleton] at hb'
    obtain ⟨z, hz, rfl⟩ := List.mem_map.mp ha
    exact hb'.trans hx ▸ Nat.ne_of_lt (hb z hz)
  · rcases List.mem_append.mp hy with hy | hy
    · exact Nat.lt_succ_of_lt (hb y hy)
    · rw [List.mem_singleton.mp hy, hx]
      exact Nat.lt_succ_self n

/-- A task is queued with the work it continues, taken from the hand. -/
theorem Accounted.post {t : Task} (h : Accounted (t.enable?.toList ++ extra) (t.check?.toList ++ held) d)
    (ht : t.exit? = none) :
    Accounted extra held { d with world := { d.world with queue := d.world.queue ++ [t] } } := by
  refine h.transfer (h.inv.post ht) rfl rfl ?_ h.waiting
    (h.checked_of rfl fun a ha => mem_of_moved (by rw [checks_post]) ha) h.runs_nodup h.runs_below
    h.prompts_nodup h.prompts_below
  rw [enables_post, List.append_assoc]

/-- A remote run is left pending under a new id, with the work it continues, taken from the
hand. -/
theorem Accounted.pend {next : RunNext}
    (h : Accounted (next.enable?.toList ++ extra) (next.check?.toList ++ held) d) :
    Accounted extra held { d with world := { d.world with
      pendingRuns := d.world.pendingRuns ++ [(d.world.nextRun, next)],
      nextRun := d.world.nextRun + 1 } } := by
  have hi : Inv extra held { d with world := { d.world with
      pendingRuns := d.world.pendingRuns ++ [(d.world.nextRun, next)],
      nextRun := d.world.nextRun + 1 } } :=
    (h.inv.pend (e := (d.world.nextRun, next))).congr (Same.world rfl rfl rfl rfl)
  refine h.transfer hi rfl rfl ?_ h.waiting
    (h.checked_of rfl fun a ha => mem_of_moved (checks_pend d (d.world.nextRun, next)) ha) ?_ ?_
    h.prompts_nodup h.prompts_below
  · rw [← List.append_assoc]
    exact (enables_pend d (d.world.nextRun, next)).append_right extra
  · exact (fresh_append (fun e : Nat × RunNext => e.1) h.runs_nodup h.runs_below rfl).1
  · exact (fresh_append (fun e : Nat × RunNext => e.1) h.runs_nodup h.runs_below rfl).2

/-- A prompt is left pending under a new id, with the work it continues, taken from the hand. -/
theorem Accounted.ask {p : Prompt} (hp : p.id = d.world.nextPrompt)
    (h : Accounted (p.enable?.toList ++ extra) (p.check?.toList ++ held) d) :
    Accounted extra held { d with world := { d.world with
      prompts := d.world.prompts ++ [p], nextPrompt := d.world.nextPrompt + 1 } } := by
  have hi : Inv extra held { d with world := { d.world with
      prompts := d.world.prompts ++ [p], nextPrompt := d.world.nextPrompt + 1 } } :=
    (h.inv.ask (p := p)).congr (Same.world rfl rfl rfl rfl)
  refine h.transfer hi rfl rfl ?_ h.waiting
    (h.checked_of rfl fun a ha => mem_of_moved (checks_ask d p) ha) h.runs_nodup h.runs_below
    (fresh_append Prompt.id h.prompts_nodup h.prompts_below hp).1
    (fresh_append Prompt.id h.prompts_nodup h.prompts_below hp).2
  rw [← List.append_assoc]
  exact (enables_ask d p).append_right extra

/-- Taking the oldest task off the queue puts the work it continues in hand. -/
theorem Accounted.pop {t : Task} {rest : List Task} (h : Accounted extra held d)
    (hq : d.world.queue = t :: rest) :
    Accounted (t.enable?.toList ++ extra) (t.check?.toList ++ held)
      { d with world := { d.world with queue := rest } } := by
  refine h.transfer (h.inv.pop hq) rfl rfl ?_ h.waiting (h.checked_of rfl fun a ha => ?_)
    h.runs_nodup h.runs_below h.prompts_nodup h.prompts_below
  · refine List.perm_iff_count.mpr fun x => ?_
    simp only [enables, hq, List.filterMap_cons]
    cases t.enable? <;> simp [List.count_append, List.count_cons]; omega
  · simp only [checks, hq, List.filterMap_cons, List.mem_append] at ha ⊢
    cases hc : t.check? <;> simp only [hc, Option.toList_none, Option.toList_some, List.mem_cons,
      List.not_mem_nil] at ha ⊢ <;> tauto

/-- In a list whose entries have distinct keys, an entry and those with another key are the
whole list. -/
theorem perm_cons_filter_key {α κ : Type} [DecidableEq κ] (f : α → κ) :
    ∀ {l : List α} {e : α}, (l.map f).Nodup → e ∈ l → l.Perm (e :: l.filter fun x => f x ≠ f e)
  | x :: l, e, hn, he => by
    rw [List.map_cons, List.nodup_cons] at hn
    by_cases hx : x = e
    · subst hx
      have hkeep : l.filter (fun y => f y ≠ f x) = l :=
        List.filter_eq_self.mpr fun y hy => decide_eq_true fun hyx =>
          hn.1 (hyx ▸ List.mem_map_of_mem (f := f) hy : f x ∈ l.map f)
      rw [List.filter_cons_of_neg (by simp), hkeep]
    · have he' : e ∈ l := (List.mem_cons.mp he).resolve_left (Ne.symm hx)
      have hfx : f x ≠ f e := fun hxe => hn.1 (hxe ▸ List.mem_map_of_mem he')
      simp only [List.filter_cons, hfx, ne_eq, not_false_eq_true, decide_true, if_true]
      exact ((perm_cons_filter_key f hn.2 he').cons x).trans (List.Perm.swap e x _)

/-- What the entries of such a list continue: that of one entry, and that of the others. -/
theorem filterMap_perm_remove {α β κ : Type} [DecidableEq κ] (f : α → κ) (g : α → Option β)
    {l : List α} {e : α} (hn : (l.map f).Nodup) (he : e ∈ l) :
    (l.filterMap g).Perm ((g e).toList ++ (l.filter fun x => f x ≠ f e).filterMap g) :=
  ((perm_cons_filter_key f hn he).filterMap g).trans (by cases hg : g e <;> simp [hg])

/-- A finished remote run moves the work it continues from the pending runs to the queue. -/
theorem Accounted.runDone (h : Accounted extra held d) {e : Nat × RunNext}
    (hm : e ∈ d.world.pendingRuns) (t : Task) (he : t.enable? = e.2.enable?)
    (hc : t.check? = e.2.check?) (hx : t.exit? = none) :
    Accounted extra held { d with world := { d.world with
      pendingRuns := d.world.pendingRuns.filter (·.1 ≠ e.1), queue := d.world.queue ++ [t] } } := by
  have pe := (filterMap_perm_remove (fun e : Nat × RunNext => e.1) (·.2.enable?) h.runs_nodup hm).count_eq
  have pc := (filterMap_perm_remove (fun e : Nat × RunNext => e.1) (·.2.check?) h.runs_nodup hm).count_eq
  have hsub : (d.world.pendingRuns.filter (·.1 ≠ e.1)).Sublist d.world.pendingRuns := List.filter_sublist
  -- with distinct ids, exactly the finished run leaves the pending ones
  have hen : (enables { d with world := { d.world with
      pendingRuns := d.world.pendingRuns.filter (·.1 ≠ e.1), queue := d.world.queue ++ [t] } }).Perm
      (enables d) := by
    refine List.perm_iff_count.mpr fun x => ?_
    have := pe x
    simp only [enables, List.filterMap_append, List.filterMap_cons, List.filterMap_nil, he,
      List.count_append] at this ⊢
    cases ho : e.2.enable? <;> simp [ho, List.count_cons] at this ⊢ <;> omega
  have hch : (checks { d with world := { d.world with
      pendingRuns := d.world.pendingRuns.filter (·.1 ≠ e.1), queue := d.world.queue ++ [t] } }).Perm
      (checks d) := by
    refine List.perm_iff_count.mpr fun a => ?_
    have := pc a
    simp only [checks, List.filterMap_append, List.filterMap_cons, List.filterMap_nil, hc,
      List.count_append] at this ⊢
    cases ho : e.2.check? <;> simp [ho, List.count_cons] at this ⊢ <;> omega
  exact h.transfer (h.inv.runDone hm t he hc hx) rfl rfl (hen.append_right extra) h.waiting
    (h.checked_of rfl fun a ha => (hch.append_right held).mem_iff.mpr ha)
    ((hsub.map _).nodup h.runs_nodup) (fun e' he' => h.runs_below e' (hsub.subset he'))
    h.prompts_nodup h.prompts_below

/-- An answered prompt moves the work it continues from the pending prompts to the queue. -/
theorem Accounted.promptDone (h : Accounted extra held d) {p : Prompt} (hm : p ∈ d.world.prompts)
    (t : Task) (he : t.enable? = p.enable?) (hc : t.check? = p.check?) (hx : t.exit? = none) :
    Accounted extra held { d with world := { d.world with
      prompts := d.world.prompts.filter (·.id ≠ p.id), queue := d.world.queue ++ [t] } } := by
  have pe := (filterMap_perm_remove Prompt.id Prompt.enable? h.prompts_nodup hm).count_eq
  have pc := (filterMap_perm_remove Prompt.id Prompt.check? h.prompts_nodup hm).count_eq
  have hsub : (d.world.prompts.filter (·.id ≠ p.id)).Sublist d.world.prompts := List.filter_sublist
  -- with distinct ids, exactly the answered prompt leaves the pending ones
  have hen : (enables { d with world := { d.world with
      prompts := d.world.prompts.filter (·.id ≠ p.id), queue := d.world.queue ++ [t] } }).Perm
      (enables d) := by
    refine List.perm_iff_count.mpr fun x => ?_
    have := pe x
    simp only [enables, List.filterMap_append, List.filterMap_cons, List.filterMap_nil, he,
      List.count_append] at this ⊢
    cases ho : p.enable? <;> simp [ho, List.count_cons] at this ⊢ <;> omega
  have hch : (checks { d with world := { d.world with
      prompts := d.world.prompts.filter (·.id ≠ p.id), queue := d.world.queue ++ [t] } }).Perm
      (checks d) := by
    refine List.perm_iff_count.mpr fun a => ?_
    have := pc a
    simp only [checks, List.filterMap_append, List.filterMap_cons, List.filterMap_nil, hc,
      List.count_append] at this ⊢
    cases ho : p.check? <;> simp [ho, List.count_cons] at this ⊢ <;> omega
  exact h.transfer (h.inv.promptDone hm t he hc hx) rfl rfl (hen.append_right extra) h.waiting
    (h.checked_of rfl fun a ha => (hch.append_right held).mem_iff.mpr ha) h.runs_nodup h.runs_below
    ((hsub.map _).nodup h.prompts_nodup) (fun p' hp' => h.prompts_below p' (hsub.subset hp'))

end Moves

/-! ## Moves on the keys -/

section Keys

variable {d : State} {extra : List (Nat × Nat)} {held : List Attempt}

/-- What a key reads after one key is set. -/
theorem get?_put_cases {key key' : String} {ks ks' : KeyState}
    (h : Assoc.get? (Assoc.put d.keys key ks) key' = some ks') :
    (key' = key ∧ ks' = ks) ∨ (key' ≠ key ∧ Assoc.get? d.keys key' = some ks') := by
  rw [Assoc.get?_put] at h
  by_cases hk : key' = key
  · simp only [hk, if_true, Option.some.injEq] at h
    exact .inl ⟨hk, h.symm⟩
  · simp only [hk, if_false] at h
    exact .inr ⟨hk, h⟩

/-- The check in hand settles its key: the key keeps no waiter and is no longer checked, and
the enables that waited on it are taken in hand, the check's own first. -/
theorem Accounted.settleKey {a : Attempt} (h : Accounted extra (a :: held) d) {st : ProvisionState}
    (hst : st ≠ .checking) :
    ∃ ks, Assoc.get? d.keys a.key = some ks ∧ ks.waiters.head? = some ⟨a.owner, a.key, a.gen⟩ ∧
      Accounted (ks.enables ++ extra) held { d with keys := Assoc.put d.keys a.key ⟨st, []⟩ } := by
  obtain ⟨ks, hks, hhead, hi⟩ := h.inv.settle st
  refine ⟨ks, hks, hhead, h.transfer hi rfl rfl ?_ ?_ ?_ h.runs_nodup h.runs_below
    h.prompts_nodup h.prompts_below⟩
  · refine List.perm_iff_count.mpr fun x => ?_
    have := count_enables_put h.inv.keys_nodup a.key ⟨st, []⟩ x
    simp only [hks, Option.map_some, Option.getD_some, KeyState.enables, List.map_nil,
      List.count_nil, List.count_append] at this ⊢
    omega
  · intro key ks' hks' hw
    rcases get?_put_cases hks' with ⟨-, rfl⟩ | ⟨-, hks'⟩
    · exact absurd rfl hw
    · exact h.waiting key ks' hks' hw
  · intro key ks' hks' hc
    rcases get?_put_cases hks' with ⟨-, rfl⟩ | ⟨hk, hks'⟩
    · exact absurd hc hst
    · -- a check of another key is not the one settled
      obtain ⟨b, hb, hbk⟩ := h.checked key ks' hks' hc
      refine ⟨b, ?_, hbk⟩
      simp only [List.mem_append, List.mem_cons] at hb
      rcases hb with hb | rfl | hb
      · exact List.mem_append_left _ hb
      · exact absurd hbk.symm hk
      · exact List.mem_append_right _ hb

/-- An enable joins a key being checked, as its last waiter. -/
theorem Accounted.wait {w : Waiter} {key : String} {ks : KeyState}
    (h : Accounted ((w.owner, w.gen) :: extra) held d) (hks : Assoc.get? d.keys key = some ks)
    (hc : ks.state = .checking) :
    Accounted extra held
      { d with keys := Assoc.put d.keys key { ks with waiters := ks.waiters ++ [w] } } := by
  refine h.transfer (h.inv.wait hks) rfl rfl ?_ ?_ ?_ h.runs_nodup h.runs_below h.prompts_nodup
    h.prompts_below
  · refine List.perm_iff_count.mpr fun x => ?_
    have := count_enables_put h.inv.keys_nodup key { ks with waiters := ks.waiters ++ [w] } x
    simp only [hks, Option.map_some, Option.getD_some, KeyState.enables, List.map_append,
      List.map_cons, List.map_nil, List.count_append, List.count_cons, List.count_nil] at this ⊢
    omega
  · intro key' ks' hks' _
    rcases get?_put_cases hks' with ⟨-, rfl⟩ | ⟨-, hks'⟩
    · exact hc
    · exact h.waiting key' ks' hks' ‹_›
  · intro key' ks' hks' hc'
    rcases get?_put_cases hks' with ⟨rfl, rfl⟩ | ⟨-, hks'⟩
    · exact h.checked key' ks hks hc
    · exact h.checked key' ks' hks' hc'

/-- A check starts on a key that is not being checked, with its own enable as the only
waiter. -/
theorem Accounted.check {a : Attempt} (h : Accounted ((a.owner, a.gen) :: extra) held d)
    (hks : ∀ ks, Assoc.get? d.keys a.key = some ks → ks.state ≠ .checking) :
    Accounted extra (a :: held)
      { d with keys := Assoc.put d.keys a.key ⟨.checking, [⟨a.owner, a.key, a.gen⟩]⟩ } := by
  -- a key that is not being checked has no waiters to lose
  have hold : ((Assoc.get? d.keys a.key).map KeyState.enables).getD [] = [] := by
    cases hk : Assoc.get? d.keys a.key with
    | none => rfl
    | some ks =>
      by_cases hw : ks.waiters = []
      · simp [KeyState.enables, hw]
      · exact absurd (h.waiting a.key ks hk hw) (hks ks hk)
  refine h.transfer (h.inv.check hks) rfl rfl ?_ ?_ ?_ h.runs_nodup h.runs_below h.prompts_nodup
    h.prompts_below
  · refine List.perm_iff_count.mpr fun x => ?_
    have := count_enables_put h.inv.keys_nodup a.key ⟨.checking, [⟨a.owner, a.key, a.gen⟩]⟩ x
    simp only [hold, KeyState.enables, List.map_cons, List.map_nil, List.count_append,
      List.count_cons, List.count_nil] at this ⊢
    omega
  · intro key ks' hks' hw
    rcases get?_put_cases hks' with ⟨-, rfl⟩ | ⟨-, hks'⟩
    · rfl
    · exact h.waiting key ks' hks' hw
  · intro key ks' hks' hc
    rcases get?_put_cases hks' with ⟨rfl, rfl⟩ | ⟨-, hks'⟩
    · exact ⟨a, by simp, rfl⟩
    · obtain ⟨b, hb, hbk⟩ := h.checked key ks' hks' hc
      refine ⟨b, ?_, hbk⟩
      simp only [List.mem_append, List.mem_cons] at hb ⊢
      tauto

end Keys

end RemoteLsp.Daemon
