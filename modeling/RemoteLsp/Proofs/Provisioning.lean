import RemoteLsp.Proofs.Starting

/-!
# Provisioning keeps the lifecycle

A check of a validation key is shared by every session waiting on the key. The attempt that
makes the check leads the key: the key is being checked and the attempt's own enable waits
first. Three moves change the keys:

* a new enable joins a key being checked, as its last waiter;
* a new check starts on a key that is not being checked, with the enable as its only waiter;
* the check in hand settles its key, and every enable that waited on it is taken in hand, to
  be continued at once.

With these, each step of a check keeps the invariant, consuming the attempt or the enable it
holds and handing on what follows.
-/

namespace RemoteLsp.Daemon

open Identity

variable {d : State} {extra : List (Nat × Nat)} {held : List Attempt}

/-! ## Moves on the keys -/

theorem count_enables_put (hk : (d.keys.map (·.1)).Nodup) (key : String) (ks : KeyState)
    (x : Nat × Nat) :
    (enables { d with keys := Assoc.put d.keys key ks }).count x +
        (((Assoc.get? d.keys key).map KeyState.enables).getD []).count x =
      (enables d).count x + ks.enables.count x := by
  have := Assoc.count_flatMap_put KeyState.enables hk key ks x
  simp only [enables, List.count_append] at this ⊢
  omega

/-- Two different checks in flight are for different keys. -/
theorem key_ne_of_nodup {xs ys : List Attempt} {a : Attempt}
    (h : ((xs ++ a :: ys).map (·.key)).Nodup) : ∀ b ∈ xs ++ ys, b.key ≠ a.key := by
  rw [List.map_append, List.map_cons, List.perm_middle.nodup_iff, List.nodup_cons,
    ← List.map_append] at h
  intro b hb hba
  exact h.1 (hba ▸ List.mem_map_of_mem hb)

/-- A change of the keys alone keeps the invariant when they stay one per name, every check in
flight still leads its key, and no enable is added. -/
theorem Inv.rekey {extra' : List (Nat × Nat)} {held' : List Attempt} (h : Inv extra held d)
    (keys : List (String × KeyState)) (hk : (keys.map (·.1)).Nodup)
    (hl : ∀ a ∈ checks d ++ held', Leads { d with keys := keys } a)
    (hc : ((checks d ++ held').map (·.key)).Nodup)
    (he : ∀ x, (enables { d with keys := keys } ++ extra').count x ≤ (enables d ++ extra).count x) :
    Inv extra' held' { d with keys := keys } where
  live := h.live
  keys_nodup := hk
  leads := hl
  checks_nodup := hc
  exit_tasks := h.exit_tasks
  exits_nodup := h.exits_nodup
  enables_exist p hp := h.enables_exist p (mem_of_count_le he hp)
  servers_exist := h.servers_exist
  sessions i s hs hcl := (h.sessions i s hs hcl).transfer rfl (List.Sublist.refl _) he

/-- A key other than the one set is read as before. -/
theorem Leads.put {a : Attempt} {key : String} {ks : KeyState} (h : Leads d a) (hk : a.key ≠ key) :
    Leads { d with keys := Assoc.put d.keys key ks } a := by
  obtain ⟨ks', hks', hst, hhead⟩ := h
  exact ⟨ks', by rw [Assoc.get?_put, if_neg hk]; exact hks', hst, hhead⟩

/-- The check in hand settles its key: the key keeps no waiter, and the enables that waited on
it are taken in hand, the check's own first. -/
theorem Inv.settle {a : Attempt} (h : Inv extra (a :: held) d) (st : ProvisionState) :
    ∃ ks, Assoc.get? d.keys a.key = some ks ∧ ks.waiters.head? = some ⟨a.owner, a.key, a.gen⟩ ∧
      Inv (ks.enables ++ extra) held { d with keys := Assoc.put d.keys a.key ⟨st, []⟩ } := by
  obtain ⟨ks, hks, -, hhead⟩ := h.leads a (by simp)
  have hne := key_ne_of_nodup h.checks_nodup
  refine ⟨ks, hks, hhead, h.rekey _ (Assoc.nodup_put h.keys_nodup _ _) ?_ ?_ ?_⟩
  · intro b hb
    have hb' : b ∈ checks d ++ a :: held := by
      simp only [List.mem_append, List.mem_cons] at hb ⊢
      rcases hb with hb | hb
      · exact .inl hb
      · exact .inr (.inr hb)
    exact (h.leads b hb').put (hne b hb)
  · exact h.checks_nodup.sublist ((List.sublist_cons_self a held).append_left _ |>.map _)
  · intro x
    have := count_enables_put h.keys_nodup a.key ⟨st, []⟩ x
    simp only [hks, Option.map_some, Option.getD_some, KeyState.enables, List.map_nil,
      List.count_nil] at this
    simp only [List.count_append, KeyState.enables] at this ⊢
    omega

/-- An enable joins a key as its last waiter. -/
theorem Inv.wait {w : Waiter} {key : String} {ks : KeyState}
    (h : Inv ((w.owner, w.gen) :: extra) held d) (hks : Assoc.get? d.keys key = some ks) :
    Inv extra held { d with keys := Assoc.put d.keys key { ks with waiters := ks.waiters ++ [w] } } := by
  refine h.rekey _ (Assoc.nodup_put h.keys_nodup _ _) (fun b hb => ?_) h.checks_nodup ?_
  · obtain ⟨ks', hks', hst, hhead⟩ := h.leads b hb
    by_cases hbk : b.key = key
    · rw [hbk, hks] at hks'
      cases hks'
      refine ⟨{ ks with waiters := ks.waiters ++ [w] }, ?_, hst, ?_⟩
      · rw [hbk, Assoc.get?_put, if_pos rfl]
      · simp [List.head?_append, hhead]
    · exact (show Leads d b from ⟨ks', hks', hst, hhead⟩).put hbk
  · intro x
    have := count_enables_put h.keys_nodup key { ks with waiters := ks.waiters ++ [w] } x
    simp only [hks, Option.map_some, Option.getD_some, KeyState.enables, List.map_append,
      List.map_cons, List.map_nil, List.count_append] at this
    simp only [List.count_append, List.count_cons, List.count_nil] at this ⊢
    omega

/-- A check starts on a key that is not being checked, with its own enable as the only
waiter. -/
theorem Inv.check {a : Attempt} (h : Inv ((a.owner, a.gen) :: extra) held d)
    (hks : ∀ ks, Assoc.get? d.keys a.key = some ks → ks.state ≠ .checking) :
    Inv extra (a :: held)
      { d with keys := Assoc.put d.keys a.key ⟨.checking, [⟨a.owner, a.key, a.gen⟩]⟩ } := by
  have hne : ∀ b ∈ checks d ++ held, b.key ≠ a.key := by
    intro b hb hbk
    obtain ⟨ks, hk, hst, -⟩ := h.leads b hb
    exact hks ks (hbk ▸ hk) hst
  refine h.rekey _ (Assoc.nodup_put h.keys_nodup _ _) (fun b hb => ?_) ?_ ?_
  · simp only [List.mem_append, List.mem_cons] at hb
    rcases hb with hb | rfl | hb
    · exact (h.leads b (List.mem_append_left _ hb)).put (hne b (List.mem_append_left _ hb))
    · exact ⟨_, by rw [Assoc.get?_put, if_pos rfl], rfl, rfl⟩
    · exact (h.leads b (List.mem_append_right _ hb)).put (hne b (List.mem_append_right _ hb))
  · rw [List.map_append, List.map_cons, List.perm_middle.nodup_iff, List.nodup_cons,
      ← List.map_append]
    exact ⟨fun hm => by
      obtain ⟨b, hb, hbk⟩ := List.mem_map.mp hm
      exact hne b hb hbk, h.checks_nodup⟩
  · intro x
    have := count_enables_put h.keys_nodup a.key ⟨.checking, [⟨a.owner, a.key, a.gen⟩]⟩ x
    simp only [KeyState.enables, List.map_cons, List.map_nil, List.count_append,
      List.count_cons, List.count_nil] at this ⊢
    omega

/-! ## Answering the waiters -/

theorem wake_keeps {w : Waiter} (h : Inv ((w.owner, w.gen) :: extra) held d) (ok : Bool) :
    Inv extra held (after (wake w ok) d) := by
  simp only [wake, after_updateCache_bind]
  exact enableDone_keeps (h.setCfg _ _) ok

/-- Waking a list of waiters continues each of their enables once. -/
theorem forM_wake_keeps (ok : Bool) :
    ∀ (ws : List Waiter) {extra : List (Nat × Nat)} {d : State},
      Inv (ws.map (fun w => (w.owner, w.gen)) ++ extra) held d →
        Inv extra held (after (ws.forM fun w => wake w ok) d)
  | [], _, _, h => h
  | w :: ws, _, _, h =>
    after_bind_of (x := wake w ok) (f := fun _ => ws.forM fun w => wake w ok) (wake_keeps h ok)
      (fun _ _ hs => forM_wake_keeps ok ws hs) fun _ hs => hs.drop_prefix

/-- The check in hand settles its key and wakes every waiter with the outcome. -/
theorem resolve_keeps {a : Attempt} (h : Inv extra (a :: held) d) (ok : Bool) :
    Inv extra held (after (resolve a ok) d) := by
  obtain ⟨ks, hks, -, h'⟩ := h.settle (if ok then .valid else .missing)
  simp only [resolve, after_getKey_bind, hks, Option.getD_some]
  cases ok
  · simp only [Bool.not_false, if_true, after_count_bind, after_setKey_bind]
    exact forM_wake_keeps false _ (h'.congr ⟨rfl, rfl, rfl, rfl, rfl, rfl, rfl⟩)
  · simp only [Bool.not_true, Bool.false_eq_true, if_false, after_setKey_bind]
    exact forM_wake_keeps true _ h'

/-- The check in hand gives its key up for every waiter but the first, whose enable, the
check's own, stays in hand. -/
theorem handOff_keeps {a : Attempt} (h : Inv extra (a :: held) d) :
    Inv ((a.owner, a.gen) :: extra) held (after (handOff a) d) := by
  obtain ⟨ks, hks, hhead, h'⟩ := h.settle .missing
  obtain ⟨rest, hw⟩ : ∃ rest, ks.waiters = ⟨a.owner, a.key, a.gen⟩ :: rest := by
    cases hws : ks.waiters with
    | nil => simp [hws] at hhead
    | cons w rest =>
      simp only [hws, List.head?_cons, Option.some.injEq] at hhead
      exact ⟨rest, by rw [hhead]⟩
  simp only [handOff, after_getKey_bind, hks, Option.getD_some, after_setKey_bind, hw,
    List.drop_one, List.tail_cons]
  refine forM_wake_keeps false rest (h'.perm_hand ?_)
  simp [KeyState.enables, hw]

/-- A failed check: the message and the run's output go to the editor, and the key is settled
as missing. -/
theorem fail_keeps {a : Attempt} (h : Inv extra (a :: held) d) (severity : Severity)
    (message : String) (res : Shell.RunResult) :
    Inv extra held (after (fail a severity message res) d) := by
  simp only [fail, after_sidOf_bind]
  refine after_bind_of (calm_report _ _ _ _ _ d h) (fun _ s hs => ?_) fun _ hs => hs.drop_check
  split
  · exact after_bind_of (calm_writeLog _ _ _ _ _ s hs) (fun _ _ hs => resolve_keeps hs false)
      fun _ hs => hs.drop_check
  · exact resolve_keeps hs false

/-- A successful check is recorded in the store and settles its key as valid; a fault of the
store leaves the key as it was. -/
theorem succeed_keeps {a : Attempt} (h : Inv extra (a :: held) d) :
    Inv extra held (after (succeed a) d) := by
  simp only [succeed, after_count_bind]
  refine after_bind_of (calm_markValid _ _ extra (a :: held) _
    (h.counters _)) (fun _ s hs => ?_) fun _ hs => hs.drop_check
  exact after_bind_of (calm_remember _ _ _ _ s hs) (fun _ _ hs => resolve_keeps hs true)
    fun _ hs => hs.drop_check

/-! ## The runs of a check -/

theorem runFor_keeps {a : Attempt} {k : RunNext} (script : String) (timeoutMs : Int)
    (h : Inv (k.enable?.toList ++ extra) (k.check?.toList ++ held) d) :
    Inv extra held (after (runFor a script timeoutMs k) d) := by
  simp only [runFor, after_sidOf_bind]
  exact runRemote_keeps _ _ _ _ h

theorem probe_keeps {a : Attempt} (h : Inv extra (a :: held) d) :
    Inv extra held (after (probe a) d) :=
  runFor_keeps (k := .executable a) _ _ h

theorem detect_keeps {a : Attempt} (h : Inv extra (a :: held) d) (installed : Bool) :
    Inv extra held (after (detect a installed) d) :=
  runFor_keeps (k := .detect a installed) _ _ h

theorem install_keeps {a : Attempt} (h : Inv extra (a :: held) d) :
    Inv extra held (after (install a) d) := by
  simp only [install, after_sidOf_bind]
  exact after_bind_of (calm_report _ _ _ _ _ d h)
    (fun _ _ hs => runFor_keeps (k := .install a) _ _ hs) fun _ hs => hs.drop_check

theorem confirmInstall_keeps {a : Attempt} (h : Inv extra (a :: held) d) :
    Inv extra held (after (confirmInstall a) d) := by
  simp only [confirmInstall, after_sidOf_bind]
  exact askConfirm_keeps _ _ _ h

theorem interpreterMissing_keeps {a : Attempt} (h : Inv extra (a :: held) d)
    (res : Shell.RunResult) : Inv extra held (after (interpreterMissing a res) d) := by
  simp only [interpreterMissing, after_configOf_bind]
  split
  · simp only [after_updateCache_bind, after_get_bind, after_sidOf_bind]
    exact askInput_keeps (k := .environment a res) _ _ _ _ _ (h.setCfg _ _)
  · exact fail_keeps h _ _ res

/-! ## Making sure of a backend -/

theorem promptHost_keeps {i g : Nat} (h : Inv ((i, g) :: extra) held d) :
    Inv extra held (after (promptHost i g) d) := by
  simp only [promptHost, after_updateCache_bind, after_sidOf_bind, after_get_bind]
  exact askInput_keeps (k := .host i g) _ _ _ _ _ (h.setCfg _ _)

/-- The enable in hand is continued at once from what the session or the store already knows,
waits on a key being checked, waits on the host prompt, or starts a check of its key. -/
theorem ensure_keeps {i g : Nat} (h : Inv ((i, g) :: extra) held d) (retried : Bool) :
    Inv extra held (after (ensure i g retried) d) := by
  cases hs : d.instances[i]? with
  | none => simpa [ensure, hs] using h.drop_head
  | some s =>
    simp only [ensure, after_getInstance_bind, hs]
    split
    · exact enableDone_keeps h true
    split
    · exact enableDone_keeps h false
    split
    · split
      · exact promptHost_keeps h
      · simp only [after_updateCache_bind]
        exact after_bind_of (calm_report _ _ _ _ _ _ (h.setCfg _ _))
          (fun _ _ hs => enableDone_keeps hs false) fun _ hs => hs.drop_head
    simp only [after_get_bind]
    split
    · simp only [after_count_bind, after_updateCache_bind]
      refine enableDone_keeps ?_ true
      exact (h.setCfg _ _).congr ⟨rfl, rfl, rfl, rfl, rfl, rfl, rfl⟩
    simp only [after_getKey_bind]
    -- a new check, unless the key is being checked already
    let a : Attempt := ⟨i, g, s.cfg.settings, s.cfg.settings.validationKey,
      interpreterPath s.cfg.settings.environment, retried⟩
    cases hk : Assoc.get? d.keys s.cfg.settings.validationKey with
    | some ks =>
      simp only
      split
      · exact h.wait hk
      · rename_i hc
        simp only [after_setKey_bind]
        refine probe_keeps (Inv.check (a := a) h fun ks' hks' => ?_)
        rw [hk] at hks'
        cases hks'
        exact hc
    | none =>
      simp only [after_setKey_bind]
      refine probe_keeps (Inv.check (a := a) h fun ks' hks' => ?_)
      rw [hk] at hks'
      cases hks'

/-! ## Continuing a check -/

section Continue

variable {a : Attempt}

theorem afterExecutable_keeps (h : Inv extra (a :: held) d) (res : Shell.RunResult) :
    Inv extra held (after (afterExecutable a res) d) := by
  unfold afterExecutable
  split
  · exact detect_keeps h false
  split
  · exact fail_keeps h _ _ res
  · exact runFor_keeps (k := .version a) _ _ h

theorem afterVersion_keeps (h : Inv extra (a :: held) d) (res : Shell.RunResult) :
    Inv extra held (after (afterVersion a res) d) := by
  unfold afterVersion
  split
  · exact detect_keeps h false
  · exact interpreterMissing_keeps h res

theorem afterDetect_keeps (h : Inv extra (a :: held) d) (installed : Bool) (res : Shell.RunResult) :
    Inv extra held (after (afterDetect a installed res) d) := by
  simp only [afterDetect]
  split
  · exact succeed_keeps h
  split
  · exact fail_keeps h _ _ res
  split
  · exact fail_keeps h _ _ res
  split
  · simp only [after_count_bind]
    exact fail_keeps (h.counters _) _ _ res
  split
  · exact install_keeps h
  · exact confirmInstall_keeps h

theorem afterInstall_keeps (h : Inv extra (a :: held) d) (res : Shell.RunResult) :
    Inv extra held (after (afterInstall a res) d) := by
  simp only [afterInstall]
  split
  · simp only [after_count_bind]
    exact fail_keeps (h.counters _) _ _ res
  · simp only [after_count_bind]
    exact detect_keeps (h.counters _) true

theorem afterConfirm_keeps (h : Inv extra (a :: held) d) (choice : String) (ok : Bool) :
    Inv extra held (after (afterConfirm a choice ok) d) := by
  simp only [afterConfirm]
  split
  · simp only [after_sidOf_bind]
    exact after_bind_of (calm_report _ _ _ _ _ _ h) (fun _ _ hs => resolve_keeps hs false)
      fun _ hs => hs.drop_check
  · exact install_keeps h

/-- The answer to the prompt for a replacement environment: the check fails, or gives its key
up for the other waiters and starts again with the new environment. -/
theorem afterEnvironment_keeps (h : Inv extra (a :: held) d) (res : Shell.RunResult)
    (value : String) (cancelled : Bool) :
    Inv extra held (after (afterEnvironment a res value cancelled) d) := by
  simp only [afterEnvironment, after_updateCache_bind]
  split
  · exact fail_keeps (h.setCfg _ _) _ _ res
  refine after_bind_of (calm_withConfig _ _ _ _ _ _ (h.setCfg _ _)) (fun r _ hs => ?_)
    fun _ hs => hs.drop_check
  split
  · exact fail_keeps hs _ _ res
  · exact after_bind_of (handOff_keeps hs) (fun _ _ hs => ensure_keeps hs true)
      fun _ hs => hs.drop_head

end Continue

/-- The answer to the host prompt: the enable goes on with the host given, or is given up. -/
theorem afterHost_keeps {i g : Nat} (h : Inv ((i, g) :: extra) held d) (value : String)
    (cancelled : Bool) : Inv extra held (after (afterHost i g value cancelled) d) := by
  simp only [afterHost, after_updateCache_bind]
  split
  · simp only [after_configOf_bind, after_updateCache_bind]
    exact enableDone_keeps ((h.setCfg _ _).setCfg _ _) false
  · exact after_bind_of (calm_withConfig _ _ _ _ _ _ (h.setCfg _ _))
      (fun _ _ hs => ensure_keeps hs false) fun _ hs => hs.drop_head

end RemoteLsp.Daemon
