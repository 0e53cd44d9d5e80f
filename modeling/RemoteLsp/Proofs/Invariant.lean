import RemoteLsp.Proofs.Pending

/-!
# The lifecycle invariant

What holds of every open session instance in every reachable state of a daemon whose world is
not live:

* it has a current server exactly while it is starting or attached, and a reconnect timer
  exactly while a reconnect is pending;
* its documents are opened in an order that names each of them once;
* it is idle while stopped by the user;
* its current server is the newest one launched for it, and every other server launched for it
  was stopped on purpose or has had its exit handled;
* at most one enable of its current generation is under way, and only while it is
  provisioning; no enable is under way for a later generation.

Around these stand the facts that make them inductive: each check under way leads its key, at
most one check per key, each server's exit is queued at most once and only after it exited.

An operation may hold enables and checks in hand, taken off the queue or off a key and not yet
put back or answered: `Inv extra held` counts them as under way.
-/

namespace RemoteLsp.Daemon

/-- A server's exit has been handled: it exited, and its exit is no longer queued. -/
def Handled (d : State) (n : Nat) : Prop :=
  (∃ srv, d.servers[n]? = some srv ∧ srv.exited = true) ∧ n ∉ exits d

/-- An attempt leads its key: the key is being checked, and the attempt's owner waits first. -/
def Leads (d : State) (a : Attempt) : Prop :=
  ∃ ks, Identity.Assoc.get? d.keys a.key = some ks ∧ ks.state = .checking ∧
    ks.waiters.head? = some ⟨a.owner, a.key, a.gen⟩

/-- What holds of an open session instance `i`, with `s` its record, when `extra` enables are
held in hand. -/
structure SessionOk (d : State) (extra : List (Nat × Nat)) (i : Nat) (s : Instance) : Prop where
  current_iff : s.current.isSome ↔ s.state = .starting ∨ s.state = .attached
  reconnect_iff : s.reconnect.isSome ↔ s.state = .reconnectPending
  order_nodup : s.order.Nodup
  order_perm : s.order.Perm (s.docs.map (·.uri))
  stopped_idle : s.stopped = true → s.state = .idle
  current_newest : ∀ n, s.current = some n → ∃ srv, d.servers[n]? = some srv ∧ srv.inst = i ∧
    ∀ m srv', d.servers[m]? = some srv' → srv'.inst = i → m ≤ n
  retired : ∀ m srv, d.servers[m]? = some srv → srv.inst = i → s.current ≠ some m →
    srv.stopped = true ∨ Handled d m
  enables_le : ∀ g, (i, g) ∈ enables d ++ extra → g ≤ s.gen
  enables_current : (enables d ++ extra).count (i, s.gen) ≤ if s.state = .provisioning then 1 else 0

/-- The lifecycle invariant, with `extra` enables and `held` checks in hand. -/
structure Inv (extra : List (Nat × Nat)) (held : List Attempt) (d : State) : Prop where
  live : d.world.live = none
  keys_nodup : (d.keys.map (·.1)).Nodup
  leads : ∀ a ∈ checks d ++ held, Leads d a
  checks_nodup : ((checks d ++ held).map (·.key)).Nodup
  exit_tasks : ∀ t ∈ d.world.queue, ∀ i n st, t = .exited i n st →
    ∃ srv, d.servers[n]? = some srv ∧ srv.inst = i ∧ srv.exited = true
  exits_nodup : (exits d).Nodup
  enables_exist : ∀ p ∈ enables d ++ extra, p.1 < d.instances.length
  servers_exist : ∀ srv ∈ d.servers, srv.inst < d.instances.length
  sessions : ∀ i s, d.instances[i]? = some s → s.closed = false → SessionOk d extra i s

/-! ## The invariant reads only the work in flight, the servers and the instances -/

/-- Two states agree on everything the lifecycle invariant reads. -/
structure Same (d d' : State) : Prop where
  instances : d'.instances = d.instances
  servers : d'.servers = d.servers
  keys : d'.keys = d.keys
  queue : d'.world.queue = d.world.queue
  pendingRuns : d'.world.pendingRuns = d.world.pendingRuns
  prompts : d'.world.prompts = d.world.prompts
  live : d'.world.live = d.world.live

theorem Same.refl (d : State) : Same d d := ⟨rfl, rfl, rfl, rfl, rfl, rfl, rfl⟩

theorem Same.trans {d₁ d₂ d₃ : State} (h₁ : Same d₁ d₂) (h₂ : Same d₂ d₃) : Same d₁ d₃ :=
  ⟨h₂.1.trans h₁.1, h₂.2.trans h₁.2, h₂.3.trans h₁.3, h₂.4.trans h₁.4, h₂.5.trans h₁.5,
    h₂.6.trans h₁.6, h₂.7.trans h₁.7⟩

/-- A change of the world that keeps its queue, pending runs and prompts, and stays not live. -/
theorem Same.world {d : State} {w : World} (hq : w.queue = d.world.queue)
    (hr : w.pendingRuns = d.world.pendingRuns) (hp : w.prompts = d.world.prompts)
    (hl : w.live = d.world.live) : Same d { d with world := w } :=
  ⟨rfl, rfl, rfl, hq, hr, hp, hl⟩

theorem Same.enables_eq {d d' : State} (h : Same d d') : enables d' = enables d := by
  simp [enables, h.keys, h.queue, h.pendingRuns, h.prompts]

theorem Same.checks_eq {d d' : State} (h : Same d d') : checks d' = checks d := by
  simp [checks, h.queue, h.pendingRuns, h.prompts]

theorem Same.exits_eq {d d' : State} (h : Same d d') : exits d' = exits d := by
  simp [exits, h.queue]

theorem SessionOk.congr {d d' : State} {extra : List (Nat × Nat)} {i : Nat} {s : Instance}
    (h : SessionOk d extra i s) (hs : d'.servers = d.servers) (hx : exits d' = exits d)
    (he : enables d' = enables d) : SessionOk d' extra i s := by
  refine ⟨h.current_iff, h.reconnect_iff, h.order_nodup, h.order_perm, h.stopped_idle, ?_, ?_,
    ?_, ?_⟩
  · simpa [hs] using h.current_newest
  · simpa [hs, Handled, hx] using h.retired
  · simpa [he] using h.enables_le
  · simpa [he] using h.enables_current

/-- A state that agrees with an invariant one on what the invariant reads is invariant too. -/
theorem Inv.congr {d d' : State} {extra : List (Nat × Nat)} {held : List Attempt}
    (h : Inv extra held d) (hd : Same d d') : Inv extra held d' := by
  refine ⟨by rw [hd.live]; exact h.live, by rw [hd.keys]; exact h.keys_nodup, ?_, ?_, ?_, ?_,
    ?_, ?_, ?_⟩
  · intro a ha
    simpa [Leads, hd.keys] using h.leads a (by rwa [hd.checks_eq] at ha)
  · rw [hd.checks_eq]; exact h.checks_nodup
  · simpa [hd.queue, hd.servers] using h.exit_tasks
  · rw [hd.exits_eq]; exact h.exits_nodup
  · simpa [hd.enables_eq, hd.instances] using h.enables_exist
  · simpa [hd.servers, hd.instances] using h.servers_exist
  · intro i s his hc
    exact (h.sessions i s (by rwa [hd.instances] at his) hc).congr hd.servers hd.exits_eq hd.enables_eq

/-- Counting keeps the invariant. -/
theorem Inv.counters {d : State} {extra : List (Nat × Nat)} {held : List Attempt}
    (h : Inv extra held d) (c : List (String × Nat)) : Inv extra held { d with counters := c } :=
  h.congr ⟨rfl, rfl, rfl, rfl, rfl, rfl, rfl⟩

/-! ## Moving work between the state and the hand -/

section Transfer

variable {d d' : State} {extra extra' : List (Nat × Nat)} {held held' : List Attempt}

/-- What is in a list is in any list with at least as many copies of each element. -/
theorem mem_of_count_le {α : Type} [BEq α] [LawfulBEq α] {l l' : List α}
    (h : ∀ x, l'.count x ≤ l.count x) {x : α} (hx : x ∈ l') : x ∈ l :=
  List.count_pos_iff.mp (Nat.lt_of_lt_of_le (List.count_pos_iff.mpr hx) (h x))

/-- Keys of a list that has no more copies of anything than a list with distinct keys are
distinct. -/
theorem nodup_map_of_count_le {α β : Type} [BEq α] [LawfulBEq α] {f : α → β} :
    ∀ {l l' : List α}, (l.map f).Nodup → (∀ x, l'.count x ≤ l.count x) → (l'.map f).Nodup
  | _, [], _, _ => List.nodup_nil
  | l, x :: l', h, hc => by
    have hx : x ∈ l := List.count_pos_iff.mp (Nat.lt_of_lt_of_le (by simp) (hc x))
    have hp := List.perm_cons_erase hx
    have hn : (f x :: (l.erase x).map f).Nodup := by
      simpa using (hp.map f).nodup_iff.mp h
    have hc' : ∀ y, l'.count y ≤ (l.erase x).count y := by
      intro y
      have := hc y
      rw [List.count_erase]
      simp only [List.count_cons] at this
      split at this
      · simp_all; omega
      · simp_all
    rw [List.map_cons, List.nodup_cons]
    refine ⟨fun hm => ?_, nodup_map_of_count_le (List.nodup_cons.mp hn).2 hc'⟩
    obtain ⟨y, hy, hyx⟩ := List.mem_map.mp hm
    have : y ∈ l.erase x := List.count_pos_iff.mp (Nat.lt_of_lt_of_le (List.count_pos_iff.mpr hy) (hc' y))
    exact (List.nodup_cons.mp hn).1 (hyx ▸ List.mem_map_of_mem this)

theorem SessionOk.transfer {i : Nat} {s : Instance} (h : SessionOk d extra i s)
    (hs : d'.servers = d.servers) (hx : (exits d').Sublist (exits d))
    (he : ∀ x, (enables d' ++ extra').count x ≤ (enables d ++ extra).count x) :
    SessionOk d' extra' i s := by
  refine ⟨h.current_iff, h.reconnect_iff, h.order_nodup, h.order_perm, h.stopped_idle, ?_, ?_,
    ?_, ?_⟩
  · simpa [hs] using h.current_newest
  · intro m srv hm hi hc
    rcases h.retired m srv (by rwa [hs] at hm) hi hc with hst | ⟨hex, hnot⟩
    · exact .inl hst
    · exact .inr ⟨by simpa [hs] using hex, fun hmem => hnot (hx.subset hmem)⟩
  · intro g hg
    exact h.enables_le g (mem_of_count_le he hg)
  · exact Nat.le_trans (he _) h.enables_current

/-- The invariant moves to a state with the same instances, servers and keys whose work in
flight, together with what is held in hand, is no more than before, and where no exit is
queued anew. -/
theorem Inv.transfer (h : Inv extra held d) (hi : d'.instances = d.instances)
    (hs : d'.servers = d.servers) (hk : d'.keys = d.keys) (hl : d'.world.live = d.world.live)
    (hq : ∀ t ∈ d'.world.queue, t.exit? ≠ none → t ∈ d.world.queue)
    (hx : (exits d').Sublist (exits d))
    (he : ∀ x, (enables d' ++ extra').count x ≤ (enables d ++ extra).count x)
    (hc : ∀ a, (checks d' ++ held').count a ≤ (checks d ++ held).count a) :
    Inv extra' held' d' := by
  refine ⟨by rw [hl]; exact h.live, by rw [hk]; exact h.keys_nodup, ?_, ?_, ?_,
    h.exits_nodup.sublist hx, ?_, ?_, ?_⟩
  · intro a ha
    simpa [Leads, hk] using h.leads a (mem_of_count_le hc ha)
  · exact nodup_map_of_count_le h.checks_nodup hc
  · intro t ht i n st rfl
    simpa [hs] using h.exit_tasks _ (hq _ ht (by simp [Task.exit?])) i n st rfl
  · intro p hp
    simpa [hi] using h.enables_exist p (mem_of_count_le he hp)
  · simpa [hs, hi] using h.servers_exist
  · intro i s his hcl
    exact (h.sessions i s (by rwa [hi] at his) hcl).transfer hs hx he

/-- Enables dropped from the hand keep what an open instance must satisfy. -/
theorem SessionOk.drop {i : Nat} {s : Instance} (h : SessionOk d extra i s)
    (he : ∀ x, extra'.count x ≤ extra.count x) : SessionOk d extra' i s :=
  h.transfer rfl (List.Sublist.refl _) fun x => by
    simp only [List.count_append]
    exact Nat.add_le_add_left (he x) _

/-- Enables and checks dropped from the hand keep the invariant. -/
theorem Inv.drop (h : Inv extra held d) (he : ∀ x, extra'.count x ≤ extra.count x)
    (hh : held'.Sublist held) : Inv extra' held' d := by
  have hs : (checks d ++ held').Sublist (checks d ++ held) := hh.append_left _
  have he' : ∀ x, (enables d ++ extra').count x ≤ (enables d ++ extra).count x := fun x => by
    simp only [List.count_append]
    exact Nat.add_le_add_left (he x) _
  exact ⟨h.live, h.keys_nodup, fun a ha => h.leads a (hs.subset ha),
    h.checks_nodup.sublist (hs.map _), h.exit_tasks, h.exits_nodup,
    fun p hp => h.enables_exist p (mem_of_count_le he' hp), h.servers_exist,
    fun i s his hcl => (h.sessions i s his hcl).drop he⟩

/-- Dropping the enable at the front of the hand. -/
theorem SessionOk.drop_head {i : Nat} {s : Instance} {p : Nat × Nat}
    (h : SessionOk d (p :: extra) i s) : SessionOk d extra i s :=
  h.drop fun x => by simp only [List.count_cons]; omega

theorem Inv.drop_head {p : Nat × Nat} (h : Inv (p :: extra) held d) : Inv extra held d :=
  h.drop (fun x => by simp only [List.count_cons]; omega) (List.Sublist.refl _)

theorem Inv.drop_prefix {xs : List (Nat × Nat)} (h : Inv (xs ++ extra) held d) :
    Inv extra held d :=
  h.drop (fun x => by simp only [List.count_append]; omega) (List.Sublist.refl _)

/-- Only how many of each enable are in hand matters, not their order. -/
theorem Inv.perm_hand (h : Inv extra held d) (he : extra'.Perm extra) : Inv extra' held d :=
  h.drop (fun x => Nat.le_of_eq (he.count_eq x)) (List.Sublist.refl _)

/-- Answering the check at the front of the hand. -/
theorem Inv.drop_check {a : Attempt} (h : Inv extra (a :: held) d) : Inv extra held d :=
  h.drop (fun _ => Nat.le_refl _) (List.sublist_cons_self a held)

theorem Inv.post {t : Task} (h : Inv (t.enable?.toList ++ extra) (t.check?.toList ++ held) d)
    (ht : t.exit? = none) :
    Inv extra held { d with world := { d.world with queue := d.world.queue ++ [t] } } := by
  refine h.transfer rfl rfl rfl rfl ?_ ?_ ?_ ?_
  · intro t' ht' hx
    simp only [List.mem_append, List.mem_singleton] at ht'
    rcases ht' with ht' | rfl
    · exact ht'
    · exact absurd ht hx
  · simp [exits_post, ht]
  · intro x
    simp [enables_post, List.count_append]
  · intro x
    simp [checks_post, List.count_append]

theorem Inv.pend {e : Nat × RunNext}
    (h : Inv (e.2.enable?.toList ++ extra) (e.2.check?.toList ++ held) d) :
    Inv extra held
      { d with world := { d.world with pendingRuns := d.world.pendingRuns ++ [e] } } := by
  refine h.transfer rfl rfl rfl rfl (fun _ ht _ => ht) (List.Sublist.refl (exits d)) ?_ ?_
  · intro x
    have := (enables_pend d e).count_eq x
    simp only [List.count_append] at this ⊢
    omega
  · intro x
    have := (checks_pend d e).count_eq x
    simp only [List.count_append] at this ⊢
    omega

theorem Inv.ask {p : Prompt} (h : Inv (p.enable?.toList ++ extra) (p.check?.toList ++ held) d) :
    Inv extra held { d with world := { d.world with prompts := d.world.prompts ++ [p] } } := by
  refine h.transfer rfl rfl rfl rfl (fun _ ht _ => ht) (List.Sublist.refl (exits d)) ?_ ?_
  · intro x
    have := (enables_ask d p).count_eq x
    simp only [List.count_append] at this ⊢
    omega
  · intro x
    have := (checks_ask d p).count_eq x
    simp only [List.count_append] at this ⊢
    omega

/-- Taking the oldest task off the queue puts what it continues in hand. -/
theorem Inv.pop {t : Task} {rest : List Task} (h : Inv extra held d)
    (hq : d.world.queue = t :: rest) :
    Inv (t.enable?.toList ++ extra) (t.check?.toList ++ held)
      { d with world := { d.world with queue := rest } } := by
  refine h.transfer rfl rfl rfl rfl ?_ ?_ ?_ ?_
  · intro t' ht' _
    rw [hq]
    exact List.mem_cons_of_mem _ ht'
  · simp only [exits, hq, List.filterMap_cons]
    split <;> simp
  · intro x
    simp only [enables, hq, List.filterMap_cons]
    cases t.enable? with
    | none => simp [List.count_append]
    | some g => simp [List.count_append, List.count_cons]; omega
  · intro x
    simp only [checks, hq, List.filterMap_cons]
    cases t.check? with
    | none => simp [List.count_append]
    | some a => simp [List.count_append, List.count_cons]; omega

end Transfer

/-! ## Changing an instance or a server -/

section Update

variable {d : State} {extra : List (Nat × Nat)} {held : List Attempt}

/-- Changing one instance keeps the invariant when the changed instance, if open, satisfies
what an open instance must. -/
theorem Inv.setInstance (h : Inv extra held d) (i : Nat) (f : Instance → Instance)
    (hf : ∀ s, d.instances[i]? = some s → (f s).closed = false → SessionOk d extra i (f s)) :
    Inv extra held { d with instances := updateAt d.instances i f } := by
  refine ⟨h.live, h.keys_nodup, h.leads, h.checks_nodup, h.exit_tasks, h.exits_nodup, ?_, ?_, ?_⟩
  · intro p hp
    simpa using h.enables_exist p hp
  · simpa using h.servers_exist
  · intro j s hs hcl
    simp only [getElem?_updateAt, Option.map_eq_some_iff] at hs
    obtain ⟨s₀, hs₀, rfl⟩ := hs
    by_cases hj : j = i
    · subst hj
      simp only [if_true] at hcl ⊢
      exact (hf s₀ hs₀ hcl).congr rfl rfl rfl
    · simp only [hj, if_false] at hcl ⊢
      exact (h.sessions j s₀ hs₀ hcl).congr rfl rfl rfl

/-- Changing a server keeps the invariant when its owner and exit are kept and a stop is not
undone. -/
theorem Inv.setServer (h : Inv extra held d) (n : Nat) (f : Server → Server)
    (hi : ∀ srv, (f srv).inst = srv.inst) (hx : ∀ srv, (f srv).exited = srv.exited)
    (hs : ∀ srv, srv.stopped = true → (f srv).stopped = true) :
    Inv extra held { d with servers := updateAt d.servers n f } := by
  have get : ∀ (m : Nat) (srv' : Server), (updateAt d.servers n f)[m]? = some srv' →
      ∃ srv : Server, d.servers[m]? = some srv ∧ srv'.inst = srv.inst ∧ srv'.exited = srv.exited ∧
        (srv.stopped = true → srv'.stopped = true) := by
    intro m srv' hm
    simp only [getElem?_updateAt, Option.map_eq_some_iff] at hm
    obtain ⟨srv, hsrv, rfl⟩ := hm
    refine ⟨srv, hsrv, ?_⟩
    split <;> simp_all
  have back : ∀ (m : Nat) (srv : Server), d.servers[m]? = some srv →
      ∃ srv' : Server, (updateAt d.servers n f)[m]? = some srv' ∧ srv'.inst = srv.inst ∧
        srv'.exited = srv.exited ∧ (srv.stopped = true → srv'.stopped = true) := by
    intro m srv hm
    refine ⟨if m = n then f srv else srv, by simp [hm], ?_⟩
    split <;> simp_all
  refine ⟨h.live, h.keys_nodup, h.leads, h.checks_nodup, ?_, h.exits_nodup, h.enables_exist,
    ?_, ?_⟩
  · intro t ht i m st rfl
    obtain ⟨srv, hsrv, hinst, hex⟩ := h.exit_tasks _ ht i m st rfl
    obtain ⟨srv', hsrv', hinst', hex', -⟩ := back m srv hsrv
    exact ⟨srv', hsrv', hinst'.trans hinst, hex'.trans hex⟩
  · intro srv' hmem
    obtain ⟨m, hm, hget⟩ := List.getElem_of_mem hmem
    obtain ⟨srv, hsrv, hinst, -⟩ := get m srv' (by rw [List.getElem?_eq_getElem hm, hget])
    simpa [hinst] using h.servers_exist srv (List.mem_of_getElem? hsrv)
  · intro i s his hcl
    have hs := h.sessions i s his hcl
    refine ⟨hs.current_iff, hs.reconnect_iff, hs.order_nodup, hs.order_perm, hs.stopped_idle,
      ?_, ?_, hs.enables_le, hs.enables_current⟩
    · intro c hc
      obtain ⟨srv, hsrv, hinst, hnew⟩ := hs.current_newest c hc
      obtain ⟨srv', hsrv', hinst', -⟩ := back c srv hsrv
      refine ⟨srv', hsrv', hinst'.trans hinst, fun m srv'' hm hi' => ?_⟩
      obtain ⟨srv₀, hsrv₀, hinst₀, -⟩ := get m srv'' hm
      exact hnew m srv₀ hsrv₀ (hinst₀ ▸ hi')
    · intro m srv' hm hi' hc
      obtain ⟨srv, hsrv, hinst, hex, hst⟩ := get m srv' hm
      rcases hs.retired m srv hsrv (hinst ▸ hi') hc with hstop | ⟨⟨srv₁, hsrv₁, hex₁⟩, hnot⟩
      · exact .inl (hst hstop)
      · refine .inr ⟨⟨srv', hm, ?_⟩, hnot⟩
        rw [hsrv] at hsrv₁
        cases hsrv₁
        exact hex.trans hex₁

end Update

end RemoteLsp.Daemon
