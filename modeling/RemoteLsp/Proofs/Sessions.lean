import RemoteLsp.Proofs.Lifecycle

/-!
# The session API keeps the lifecycle

Opening and closing sessions, tracking their documents, relaying their traffic, and restarting
and stopping their servers are calm: each keeps the lifecycle invariant whatever is held in
hand.

The documents of a session matter to the invariant only through its order, which names each
tracked document once. Opening a document appends it unless it is tracked, closing one erases
it, a change keeps every name, and forgetting the documents on other hosts filters the order
and the documents alike.
-/

namespace RemoteLsp.Daemon

variable {d : State} {extra : List (Nat × Nat)} {held : List Attempt} {i : Nat} {s : Instance}

/-! ## Documents -/

/-- The documents of an instance matter to the invariant only through its order. -/
theorem SessionOk.with_docs (h : SessionOk d extra i s) {docs : List Document}
    {order : List String} (last : String) (hn : order.Nodup) (hp : order.Perm (docs.map (·.uri))) :
    SessionOk d extra i { s with docs := docs, order := order, lastBuffer := last } :=
  ⟨h.1, h.2, hn, hp, h.5, h.6, h.7, h.8, h.9⟩

/-- The order names exactly the tracked documents. -/
theorem SessionOk.mem_order (h : SessionOk d extra i s) (uri : String) :
    uri ∈ s.order ↔ s.tracks uri = true := by
  rw [h.order_perm.mem_iff]
  simp [Instance.tracks]

/-- Changing documents without renaming any keeps the order. -/
theorem SessionOk.touch (h : SessionOk d extra i s) (f : Document → Document)
    (hf : ∀ x, (f x).uri = x.uri) (last : String) :
    SessionOk d extra i { s with docs := s.docs.map f, lastBuffer := last } := by
  have hmap : (s.docs.map f).map (·.uri) = s.docs.map (·.uri) := by
    rw [List.map_map]
    exact List.map_congr_left fun x _ => hf x
  exact h.with_docs last h.order_nodup (hmap ▸ h.order_perm)

/-- A document not yet tracked is appended to the documents and to the order. -/
theorem SessionOk.track (h : SessionOk d extra i s) (doc : Document)
    (ht : s.tracks doc.uri = false) :
    SessionOk d extra i
      { s with docs := s.docs ++ [doc], order := s.order ++ [doc.uri], lastBuffer := doc.uri } := by
  have hnew : doc.uri ∉ s.order := fun hm => by simp [(h.mem_order doc.uri).mp hm] at ht
  refine h.with_docs doc.uri ?_ ?_
  · exact List.nodup_append.mpr ⟨h.order_nodup, by simp,
      fun a ha b hb => by simp only [List.mem_singleton] at hb; exact hb ▸ fun he => hnew (he ▸ ha)⟩
  · rw [List.map_append]
    exact h.order_perm.append_right _

/-- A closed document leaves the documents and the order. -/
theorem SessionOk.untrack (h : SessionOk d extra i s) (uri : String) :
    SessionOk d extra i { s with docs := s.docs.filter (·.uri ≠ uri), order := s.order.erase uri } := by
  refine h.with_docs s.lastBuffer (h.order_nodup.erase uri) ?_
  rw [h.order_nodup.erase_eq_filter]
  refine (h.order_perm.filter _).trans (List.Perm.of_eq ?_)
  rw [List.filter_map]
  congr 1
  exact List.filter_congr fun x _ => by by_cases hx : x.uri = uri <;> simp [hx]

/-- Keeping the documents whose names pass a test filters the order alike. -/
theorem SessionOk.forget (h : SessionOk d extra i s) (p : String → Bool) (last : String) :
    SessionOk d extra i
      { s with
        order := s.order.filter p
        docs := s.docs.filter fun x => !(s.order.contains x.uri) || (s.order.filter p).contains x.uri
        lastBuffer := last } := by
  -- every document is named in the order, so the kept ones are those whose name passes
  have hkept : (s.docs.filter fun x => !(s.order.contains x.uri) || (s.order.filter p).contains x.uri) =
      s.docs.filter fun x => p x.uri := by
    refine List.filter_congr fun x hx => ?_
    have hin : x.uri ∈ s.order := h.order_perm.mem_iff.mpr (List.mem_map_of_mem hx)
    simp [hin]
  rw [hkept]
  refine h.with_docs last (h.order_nodup.filter p) ?_
  refine (h.order_perm.filter p).trans ?_
  rw [List.filter_map]
  rfl

/-! ## Reading and changing an instance -/

/-- An operation that reads an instance first need only keep the invariant on states holding
what it read. -/
theorem calm_getInstance_bind {β : Type} {f : Option Instance → M β}
    (h : ∀ extra held d, Inv extra held d → Inv extra held (after (f d.instances[i]?) d)) :
    Calm (getInstance i >>= f) := by
  intro extra held d hd
  rw [after_getInstance_bind]
  exact h extra held d hd

/-- Changing an instance is calm when it keeps what an open instance must satisfy. -/
theorem calm_setInstance (i : Nat) (f : Instance → Instance) (hcl : ∀ s, (f s).closed = s.closed)
    (hf : ∀ d extra s, SessionOk d extra i s → SessionOk d extra i (f s)) :
    Calm (setInstance i f) := by
  intro extra held d h
  rw [after_setInstance]
  exact h.setInstance i f fun s hs hc => hf d extra s (h.sessions i s hs (hcl s ▸ hc))

/-! ## Tracking documents -/

theorem calm_didChange (sid : Nat) (uri : String) (version : Int) (text : String) :
    Calm (didChange sid uri version text) := by
  unfold didChange
  refine (calm_lookup sid).bind fun i => ?_
  refine (calm_getInstance i).bind fun o => ?_
  rcases o with _ | s
  · exact Calm.pure _
  dsimp only
  split
  · exact Calm.pure _
  refine Calm.bind (calm_setInstance i _ (fun _ => rfl) ?_) fun _ => ?_
  · -- the new text keeps the document's name
    exact fun _ _ s h => h.touch _ (fun x => by split <;> rfl) _
  split
  · refine calm_get.bind fun _ => ?_
    split
    · exact calm_send _ _ _
    · exact Calm.pure _
  · exact Calm.pure _

theorem calm_didClose (sid : Nat) (uri : String) : Calm (didClose sid uri) := by
  unfold didClose
  refine (calm_lookup sid).bind fun i => ?_
  refine (calm_getInstance i).bind fun o => ?_
  rcases o with _ | s
  · exact Calm.pure _
  dsimp only
  split
  · exact Calm.pure _
  refine Calm.bind (calm_setInstance i _ (fun _ => rfl) fun _ _ s h => h.untrack uri) fun _ => ?_
  split
  · refine calm_get.bind fun _ => ?_
    split
    · exact calm_send _ _ _
    · exact Calm.pure _
  · exact Calm.pure _

theorem calm_didOpen (sid : Nat) (doc : Document) : Calm (didOpen sid doc) := by
  unfold didOpen
  refine (calm_lookup sid).bind fun i => ?_
  refine calm_get.bind fun d => ?_
  split
  · refine (calm_getInstance i).bind fun o => ?_
    rcases o with _ | s
    · exact Calm.pure _
    dsimp only
    split
    case' isTrue => refine (calm_withConfig i _ _).bind fun _ => ?_
    case' isFalse => split; exact Calm.pure _
    -- the document is recorded on the instance as it is now, and the instance enabled
    all_goals
      refine calm_getInstance_bind fun extra held d h => ?_
      cases hs : d.instances[i]? with
      | none => exact h
      | some s =>
        refine after_bind_of (Q := Inv extra held) ?_ (fun _ d' h' => ?_) fun _ h => h
        · rw [after_setInstance]
          refine h.setInstance i _ fun s₀ hs₀ hcl => ?_
          rw [hs] at hs₀
          cases hs₀
          have hok := h.sessions i s hs hcl
          cases ht : s.tracks doc.uri
          · exact hok.track doc ht
          · exact hok.touch _ (fun x => by split <;> simp_all) doc.uri
        · split
          · split
            · exact calm_sendOpen _ _ extra held d' h'
            · exact h'
          all_goals first | exact calm_enable i extra held d' h' | exact h'
  · exact Calm.pure _

/-! ## Relaying traffic -/

theorem calm_notFound (sid : Nat) : Calm (notFound sid) := Calm.of_read fun _ => ⟨_, rfl⟩

theorem calm_request (sid : Nat) (method params : String) : Calm (request sid method params) := by
  unfold request
  refine calm_get.bind fun _ => ?_
  split
  · exact (calm_notFound sid).bind fun _ => calm_replyWith _
  · refine (calm_getInstance _).bind fun o => ?_
    rcases o with _ | s
    · exact Calm.pure _
    dsimp only
    split
    · exact calm_replyWith _
    · exact (calm_toServer _).bind fun _ => calm_enqueue _ _

theorem calm_notify (sid : Nat) (method params : String) : Calm (notify sid method params) := by
  unfold notify
  refine (calm_lookup sid).bind fun i => (calm_getInstance i).bind fun o => ?_
  rcases o with _ | s
  · exact Calm.pure _
  dsimp only
  split
  · exact calm_fail _
  · exact (calm_toServer _).bind fun _ => calm_send _ _ _

/-! ## Restarting and stopping -/

theorem calm_forgetOtherHosts (i : Nat) : Calm (forgetOtherHosts i) := by
  unfold forgetOtherHosts
  refine calm_getInstance_bind fun extra held d h => ?_
  cases hs : d.instances[i]? with
  | none => exact h
  | some s =>
    simp only [after_get_bind, after_setInstance]
    refine h.setInstance i _ fun s₀ hs₀ hcl => ?_
    rw [hs] at hs₀
    cases hs₀
    exact (h.sessions i s hs hcl).forget _ _

theorem calm_restart (i : Nat) : Calm (restart i) := by
  unfold restart
  refine (calm_halt i).bind fun _ => ?_
  -- a restart by hand clears the stop and the reconnect allowance
  refine Calm.bind (calm_setInstance i _ (fun _ => rfl) fun _ _ _ h =>
    ⟨h.1, h.2, h.3, h.4, by simp, h.6, h.7, h.8, h.9⟩) fun _ => ?_
  refine (calm_updateCache i _).bind fun _ => (calm_forgetOtherHosts i).bind fun _ => ?_
  refine (calm_getInstance i).bind fun o => ?_
  rcases o with _ | s
  · exact Calm.pure _
  dsimp only
  split
  · exact calm_enable i
  · exact Calm.pure _

theorem calm_restartSession (sid : Nat) : Calm (restartSession sid) :=
  (calm_lookup sid).bind calm_restart

theorem calm_settingsChanged (sid : Nat) : Calm (settingsChanged sid) := by
  unfold settingsChanged
  refine (calm_lookup sid).bind fun i => (calm_getInstance i).bind fun o => ?_
  rcases o with _ | s
  · exact Calm.pure _
  dsimp only
  split
  · exact calm_restart i
  · exact Calm.pure _

/-- A stop by the user halts the instance and marks it stopped, which an idle instance may be. -/
theorem calm_stopSession (sid : Nat) : Calm (stopSession sid) := by
  unfold stopSession
  refine (calm_lookup sid).bind fun i => ?_
  intro extra held d h
  refine after_bind_of (Q := fun d => Inv extra held d ∧
    ∀ s, d.instances[i]? = some s → s.state = .idle) (halt_keeps h i) (fun _ d' h' => ?_)
    fun _ h => h.1
  rw [after_setInstance]
  refine h'.1.setInstance i _ fun s hs hcl => ?_
  have hok := h'.1.sessions i s hs hcl
  exact ⟨hok.1, hok.2, hok.3, hok.4, fun _ => h'.2 s hs, hok.6, hok.7, hok.8, hok.9⟩

/-! ## Opening and closing sessions -/

/-- A new instance, idle with no documents, no server and no timer, keeps the invariant:
nothing under way refers to it yet. -/
theorem Inv.addInstance (h : Inv extra held d) (s : Instance) (hcur : s.current = none)
    (hrec : s.reconnect = none) (hstate : s.state = .idle) (hord : s.order = [])
    (hdocs : s.docs = []) : Inv extra held { d with instances := d.instances ++ [s] } := by
  have hnone : ∀ g, (d.instances.length, g) ∉ enables d ++ extra := fun g hg =>
    absurd (h.enables_exist _ hg) (Nat.lt_irrefl _)
  refine ⟨h.live, h.keys_nodup, h.leads, h.checks_nodup, h.exit_tasks, h.exits_nodup, ?_, ?_, ?_⟩
  · intro p hp
    have := h.enables_exist p hp
    simp only [List.length_append, List.length_singleton]
    omega
  · intro srv hsrv
    have := h.servers_exist srv hsrv
    simp only [List.length_append, List.length_singleton]
    omega
  · intro j sj hj hcl
    rcases getElem?_append_singleton_eq_some.mp hj with hj | ⟨rfl, rfl⟩
    · exact (h.sessions j sj hj hcl).congr rfl rfl rfl
    · refine SessionOk.congr (d := d) ⟨by simp [hcur, hstate], by simp [hrec, hstate],
        by simp [hord], by simp [hord, hdocs], fun _ => hstate, by simp [hcur], ?_, ?_, ?_⟩
        rfl rfl rfl
      · intro m srv hm _ _
        have := h.servers_exist srv (List.mem_of_getElem? hm)
        omega
      · intro g hg
        exact absurd hg (hnone g)
      · rw [List.count_eq_zero.mpr (hnone _)]
        exact Nat.zero_le _

theorem calm_openSession (sid : Nat) (cfg : Session.SessionConfig) (rootUri capabilities : String) :
    Calm (openSession sid cfg rootUri capabilities) := by
  unfold openSession
  refine calm_get.bind fun _ => ?_
  dsimp only
  split
  case' isTrue => refine (calm_nameOf sid).bind fun _ => (calm_fail _).bind fun _ => ?_
  -- a session already open stops the operation; otherwise its instance is added
  all_goals
    refine calm_get.bind fun _ =>
      Calm.bind (fun extra held d h => h.addInstance _ rfl rfl rfl rfl rfl) fun _ => ?_
    refine calm_get.bind fun _ => ?_
    split
    · split
      · exact calm_withConfig _ _ _
      · exact Calm.pure _
    · exact Calm.pure _

/-- Closing a session closes its instance first, so cancelling its reconnect and stopping its
server touch nothing the invariant asks of open instances. -/
theorem calm_closeSession (sid : Nat) : Calm (closeSession sid) := by
  unfold closeSession
  refine (calm_lookup sid).bind fun i => ?_
  intro extra held d h
  have hl := h.live
  -- the instance is closed by the first write, and stays closed
  have hclosed : ∀ (f : Instance → Instance), (∀ s, (f s).closed = true) →
      Inv extra held { d with instances := updateAt d.instances i f } := fun f hf =>
    h.setInstance i f fun s₀ _ hcl => absurd hcl (by simp [hf])
  cases hs : d.instances[i]? with
  | none =>
    simp only [after_setInstance_bind, after_cancelReconnect_bind, getElem?_updateAt, hs,
      Option.map_none, Option.bind_none, after_detach, hl]
    exact hclosed _ fun _ => rfl
  | some s =>
    cases hr : s.reconnect <;> cases hc : s.current <;>
      simp only [after_setInstance_bind, after_cancelReconnect_bind, getElem?_updateAt, hs,
        Option.map_some, if_true, Option.bind_some, hr, hc, after_detach, hl,
        updateAt_updateAt_self] <;>
      first
        | exact hclosed _ fun _ => rfl
        | exact (hclosed _ fun _ => rfl).congr (Same.world rfl rfl rfl (by simp [hl]))
        | exact ((hclosed _ fun _ => rfl).stopServer _).congr (Same.world rfl rfl rfl (by simp [hl]))

end RemoteLsp.Daemon
