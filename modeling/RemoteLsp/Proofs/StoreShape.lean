import RemoteLsp.Proofs.Callbacks

/-!
# The shape of the identity store

A store that starts from no documents keeps a tidy shape through any sequence of changes:
remembering an environment, marking one valid, forgetting a host or one of its environments,
forgetting a key's validations. In every store so reached

* every host has a non-empty list of distinct environments, each a normalized environment
  root, and the environment it used last is the first of them;
* every validation key has at least one environment, each once, and all of them validated;
* each map names every host or key once.

Remembering an environment moves it to the front of its host's list and makes it the host's
last one, and leaves every other host as it was.

Main statement: `changes_keep_store_wellformed`. Each change keeps the shape
(`Store.Wf.change`), so a run of changes does (`Store.Wf.changes`).
-/

namespace RemoteLsp.Identity

/-! ## Association lists -/

namespace Assoc

variable {β : Type}

theorem mem_put {m : Assoc β} {k : String} {v : β} {e : String × β} (h : e ∈ m.put k v) :
    (e ∈ m ∧ e.1 ≠ k) ∨ e = (k, v) := by
  unfold put at h
  split at h
  · obtain ⟨e', he', rfl⟩ := List.mem_map.mp h
    by_cases hk : e'.1 = k
    · simp [hk]
    · simp [hk, he']
  · rename_i hm
    rcases List.mem_append.mp h with h | h
    · exact .inl ⟨h, fun hk => hm (List.any_eq_true.mpr ⟨e, h, by simp [hk]⟩)⟩
    · exact .inr (List.mem_singleton.mp h)

theorem put_ne_nil (m : Assoc β) (k : String) (v : β) : m.put k v ≠ [] := by
  unfold put
  split
  · rename_i hm
    intro h
    rw [List.map_eq_nil_iff] at h
    simp [h] at hm
  · simp

theorem mem_erase {m : Assoc β} {k : String} {e : String × β} :
    e ∈ m.erase k ↔ e ∈ m ∧ e.1 ≠ k := by
  simp [erase]

theorem erase_sublist (m : Assoc β) (k : String) : (m.erase k).Sublist m := List.filter_sublist

theorem mem_of_get? {m : Assoc β} {k : String} {v : β} (h : m.get? k = some v) : (k, v) ∈ m := by
  unfold get? at h
  obtain ⟨e, he, rfl⟩ := Option.map_eq_some_iff.mp h
  have hk : e.1 = k := by simpa using List.find?_some he
  obtain ⟨k', v'⟩ := e
  simp only at hk
  subst hk
  exact List.mem_of_find?_eq_some he

/-- A map whose entries keep their names when changed or dropped names each key once. -/
theorem nodup_filterMap {γ : Type} {m : Assoc β} (hm : (m.map (·.1)).Nodup)
    (f : String × β → Option (String × γ)) (hf : ∀ p q, f p = some q → q.1 = p.1) :
    ((m.filterMap f).map (·.1)).Nodup := by
  induction m with
  | nil => simp
  | cons p m ih =>
    simp only [List.map_cons, List.nodup_cons] at hm
    have hkeys : ∀ q ∈ m.filterMap f, q.1 ∈ m.map (·.1) := by
      intro q hq
      obtain ⟨p', hp', hfq⟩ := List.mem_filterMap.mp hq
      exact hf p' q hfq ▸ List.mem_map_of_mem hp'
    rw [List.filterMap_cons]
    cases hfp : f p with
    | none => exact ih hm.2
    | some q =>
      rw [List.map_cons, List.nodup_cons]
      refine ⟨fun hq => ?_, ih hm.2⟩
      obtain ⟨q', hq', hkey⟩ := List.mem_map.mp hq
      exact hm.1 (hf p q hfp ▸ hkey ▸ hkeys q' hq')

end Assoc

/-! ## The shape -/

/-- An environment root: the normalized form of what some user typed. -/
def Normalized (e : String) : Prop := ∃ raw, Path.normalizeEnvironment raw = some e

/-- A host's record is tidy: at least one environment, each a distinct environment root, the
first being the one used last. -/
def History.Wf (h : History) : Prop :=
  ∃ es, h.envs = some es ∧ es.head? = some h.lastEnv ∧ es.Nodup ∧ ∀ e ∈ es, Normalized e

/-- The history map names each host once, with a tidy record. -/
structure HistoryWf (hist : Assoc History) : Prop where
  hosts_nodup : (hist.map (·.1)).Nodup
  entries : ∀ p ∈ hist, p.2.Wf

/-- The validation map names each key once, with a non-empty set of distinct environments, all
of them validated. -/
structure ValidWf (valid : Assoc (Assoc Bool)) : Prop where
  keys_nodup : (valid.map (·.1)).Nodup
  nonempty : ∀ p ∈ valid, p.2 ≠ []
  envs_nodup : ∀ p ∈ valid, (p.2.map (·.1)).Nodup
  validated : ∀ p ∈ valid, ∀ e ∈ p.2, e.2 = true

/-- Both maps of the store are present and tidy. -/
structure Store.Wf (s : Store) : Prop where
  history : ∃ hist, s.history = some hist ∧ HistoryWf hist
  valid : ∃ v, s.valid = some v ∧ ValidWf v

/-- Remembering an environment of a host moves its root to the front of the host's list and
makes it the host's last one, and leaves every other host as it was. -/
def Store.RemembersToFront (s : Store) : Prop :=
  ∀ host env n, host ≠ "" → Path.normalizeEnvironment env = some n →
    ∃ s', s.remember host env = .ok s' ∧
      s'.environments host = some (n :: ((s.environments host).getD []).filter (· ≠ n)) ∧
      s'.lastEnvironment host = n ∧
      ∀ h', h' ≠ host →
        s'.environments h' = s.environments h' ∧ s'.lastEnvironment h' = s.lastEnvironment h'

/-- A change the store can be asked for. -/
inductive Change where
  | remember (host env : String)
  | markValid (key env : String)
  | forget (host env : String)
  | forgetValidation (key : String)
  deriving Repr, DecidableEq

namespace Store

/-- Applies a change; recording in an absent map faults. -/
def change (s : Store) : Change → Except String Store
  | .remember host env => s.remember host env
  | .markValid key env => s.markValid key env
  | .forget host env => .ok (s.forget host env)
  | .forgetValidation key => .ok (s.forgetValidation key)

/-- Applies changes in order, stopping at the first fault. -/
def changes (s : Store) (cs : List Change) : Except String Store := cs.foldlM change s

theorem changes_cons (s : Store) (c : Change) (cs : List Change) :
    s.changes (c :: cs) = s.change c >>= fun s' => s'.changes cs := rfl

@[simp] theorem saveHistory_history (s : Store) : s.saveHistory.history = s.history := rfl
@[simp] theorem saveHistory_valid (s : Store) : s.saveHistory.valid = s.valid := rfl
@[simp] theorem saveValidation_history (s : Store) : s.saveValidation.history = s.history := rfl
@[simp] theorem saveValidation_valid (s : Store) : s.saveValidation.valid = s.valid := rfl
@[simp] theorem saveAll_history (s : Store) : s.saveAll.history = s.history := rfl
@[simp] theorem saveAll_valid (s : Store) : s.saveAll.valid = s.valid := rfl

end Store

/-! ## Each change keeps the shape -/

section Histories

variable {hist : Assoc History}

/-- What a tidy map holds for a host: its environments, none for an unknown host. -/
theorem HistoryWf.envs_get (hw : HistoryWf hist) (host : String) :
    ((((hist.get? host).getD ⟨none, ""⟩).envs.getD []).Nodup) ∧
      ∀ e ∈ ((hist.get? host).getD ⟨none, ""⟩).envs.getD [], Normalized e := by
  cases hg : hist.get? host with
  | none => simp
  | some h =>
    have hwh : h.Wf := hw.entries _ (Assoc.mem_of_get? hg)
    obtain ⟨es, hes, -, hnd, hnorm⟩ := hwh
    simpa [hes] using ⟨hnd, hnorm⟩

theorem HistoryWf.sublist {hist' : Assoc History} (hw : HistoryWf hist) (hs : hist'.Sublist hist) :
    HistoryWf hist' :=
  ⟨hw.hosts_nodup.sublist (hs.map _), fun p hp => hw.entries p (hs.subset hp)⟩

theorem HistoryWf.put (hw : HistoryWf hist) (host : String) {h : History} (hh : h.Wf) :
    HistoryWf (hist.put host h) := by
  refine ⟨Assoc.nodup_put hw.hosts_nodup host h, fun p hp => ?_⟩
  rcases Assoc.mem_put hp with ⟨hp, -⟩ | rfl
  · exact hw.entries p hp
  · exact hh

/-- The record `remember` writes: the root first, then the host's other environments. -/
theorem HistoryWf.remembered (hw : HistoryWf hist) (host : String) {n : String}
    (hn : Normalized n) :
    History.Wf ⟨some (n :: (((hist.get? host).getD ⟨none, ""⟩).envs.getD []).filter (· ≠ n)), n⟩ := by
  obtain ⟨hnd, hnorm⟩ := hw.envs_get host
  refine ⟨_, rfl, rfl, ?_, ?_⟩
  · refine List.nodup_cons.mpr ⟨fun hm => ?_, hnd.filter _⟩
    simp at hm
  · intro e he
    rcases List.mem_cons.mp he with rfl | he
    · exact hn
    · exact hnorm e (List.mem_of_mem_filter he)

/-- Dropping an environment from a tidy record keeps it tidy while some environment stays; the
last one moves to the next when it was the one dropped. -/
theorem History.Wf.drop {h : History} (hw : h.Wf) (env : String)
    (hne : ((h.envs.map (·.filter (· ≠ env))).getD []).isEmpty = false) :
    History.Wf ⟨h.envs.map (·.filter (· ≠ env)),
      if h.lastEnv = env then (((h.envs.map (·.filter (· ≠ env))).getD []).head?).getD ""
      else h.lastEnv⟩ := by
  obtain ⟨envs, last⟩ := h
  obtain ⟨es, hes, hhead, hnd, hnorm⟩ := hw
  simp only at hes hhead ⊢
  subst hes
  obtain ⟨e₀, rest, rfl⟩ : ∃ e₀ rest, es = e₀ :: rest := by
    cases es with
    | nil => simp at hhead
    | cons e₀ rest => exact ⟨e₀, rest, rfl⟩
  simp only [List.head?_cons, Option.some.injEq] at hhead
  subst hhead
  refine ⟨_, rfl, ?_, hnd.filter _, fun e he => hnorm e (List.mem_of_mem_filter he)⟩
  by_cases h₀ : e₀ = env
  · -- the last environment is dropped: the next one that stays takes its place
    subst h₀
    have hdrop : (e₀ :: rest).filter (· ≠ e₀) = rest.filter (· ≠ e₀) := by simp
    simp only [Option.map_some, Option.getD_some, if_true, hdrop] at hne ⊢
    cases hf : rest.filter (· ≠ e₀) with
    | nil =>
      rw [hf] at hne
      simp at hne
    | cons x xs => simp
  · simp [h₀]

end Histories

section Validations

variable {valid : Assoc (Assoc Bool)}

theorem ValidWf.sublist {valid' : Assoc (Assoc Bool)} (hw : ValidWf valid)
    (hs : valid'.Sublist valid) : ValidWf valid' :=
  ⟨hw.keys_nodup.sublist (hs.map _), fun p hp => hw.nonempty p (hs.subset hp),
    fun p hp => hw.envs_nodup p (hs.subset hp), fun p hp => hw.validated p (hs.subset hp)⟩

theorem ValidWf.markValid (hw : ValidWf valid) (key env : String) :
    ValidWf (valid.put key (((valid.get? key).getD []).put env true)) := by
  -- the environments the key had: none, or those of its entry
  have hold : (((valid.get? key).getD []).map (·.1)).Nodup ∧
      ∀ e ∈ (valid.get? key).getD [], e.2 = true := by
    cases hg : valid.get? key with
    | none => simp
    | some envs =>
      have hm := Assoc.mem_of_get? hg
      exact ⟨hw.envs_nodup _ hm, hw.validated _ hm⟩
  refine ⟨Assoc.nodup_put hw.keys_nodup _ _, fun p hp => ?_, fun p hp => ?_, fun p hp => ?_⟩
  · rcases Assoc.mem_put hp with ⟨hp, -⟩ | rfl
    · exact hw.nonempty p hp
    · exact Assoc.put_ne_nil _ _ _
  · rcases Assoc.mem_put hp with ⟨hp, -⟩ | rfl
    · exact hw.envs_nodup p hp
    · exact Assoc.nodup_put hold.1 _ _
  · rcases Assoc.mem_put hp with ⟨hp, -⟩ | rfl
    · exact hw.validated p hp
    · intro e he
      rcases Assoc.mem_put he with ⟨he, -⟩ | rfl
      · exact hold.2 e he
      · rfl

/-- What forgetting an environment keeps of one key's entry: the entry itself when the key is
of another host, else the entry without the environment, unless that leaves it empty. -/
theorem forgotten_entry {host env key : String} {envs : Assoc Bool} {q : String × Assoc Bool}
    (h : (if Store.keyHost key ≠ host then some (key, envs)
      else if (envs.erase env).isEmpty then none else some (key, envs.erase env)) = some q) :
    q.1 = key ∧ (q.2 = envs ∨ q.2 = envs.erase env ∧ q.2 ≠ []) := by
  by_cases hk : Store.keyHost key = host
  · rw [if_neg (not_not.mpr hk)] at h
    by_cases he : (envs.erase env).isEmpty = true
    · rw [if_pos he] at h
      cases h
    · rw [if_neg he] at h
      cases h
      exact ⟨rfl, .inr ⟨rfl, fun h₀ => he (by rw [show envs.erase env = [] from h₀]; rfl)⟩⟩
  · rw [if_pos hk] at h
    cases h
    exact ⟨rfl, .inl rfl⟩

/-- Forgetting an environment under the keys of a host keeps the map tidy: a key left with no
environment is dropped. -/
theorem ValidWf.forgetEnvironment (hw : ValidWf valid) (host env : String) :
    ValidWf (valid.filterMap fun (key, envs) =>
      if Store.keyHost key ≠ host then some (key, envs)
      else if (envs.erase env).isEmpty then none else some (key, envs.erase env)) := by
  have hentry : ∀ q ∈ valid.filterMap (fun (key, envs) =>
      if Store.keyHost key ≠ host then some (key, envs)
      else if (envs.erase env).isEmpty then none else some (key, envs.erase env)),
      ∃ p ∈ valid, q.2 = p.2 ∨ q.2 = p.2.erase env ∧ q.2 ≠ [] := by
    intro q hq
    obtain ⟨⟨key, envs⟩, hp, hpq⟩ := List.mem_filterMap.mp hq
    exact ⟨_, hp, (forgotten_entry hpq).2⟩
  refine ⟨Assoc.nodup_filterMap hw.keys_nodup _ fun p q hq => (forgotten_entry hq).1, ?_, ?_, ?_⟩
  · intro q hq
    obtain ⟨p, hp, hq₂ | ⟨-, hne⟩⟩ := hentry q hq
    · exact hq₂ ▸ hw.nonempty p hp
    · exact hne
  · intro q hq
    obtain ⟨p, hp, hq₂ | ⟨hq₂, -⟩⟩ := hentry q hq <;> rw [hq₂]
    · exact hw.envs_nodup p hp
    · exact (hw.envs_nodup p hp).sublist ((Assoc.erase_sublist _ _).map _)
  · intro q hq
    obtain ⟨p, hp, hq₂ | ⟨hq₂, -⟩⟩ := hentry q hq <;> rw [hq₂]
    · exact hw.validated p hp
    · exact fun e he => hw.validated p hp e ((Assoc.erase_sublist _ _).subset he)

end Validations

namespace Store.Wf

variable {s : Store}

theorem remember (h : s.Wf) (host env : String) : ∃ s', s.remember host env = .ok s' ∧ s'.Wf := by
  obtain ⟨⟨hist, hh, hw⟩, hv⟩ := h
  unfold Store.remember
  split
  · exact ⟨s, rfl, ⟨hist, hh, hw⟩, hv⟩
  · rename_i n hn
    split
    · exact ⟨s, rfl, ⟨hist, hh, hw⟩, hv⟩
    · simp only [hh]
      exact ⟨_, rfl, ⟨_, rfl, hw.put host (hw.remembered host ⟨env, hn⟩)⟩, by simpa using hv⟩

theorem markValid (h : s.Wf) (key env : String) : ∃ s', s.markValid key env = .ok s' ∧ s'.Wf := by
  obtain ⟨hh, ⟨valid, hv, hw⟩⟩ := h
  refine ⟨{ s with valid := some (valid.put key (((valid.get? key).getD []).put env true)) }.saveValidation,
    by simp [Store.markValid, hv], by simpa using hh, _, rfl, hw.markValid key env⟩

theorem forgetHost (h : s.Wf) (host : String) : (s.forgetHost host).Wf := by
  obtain ⟨⟨hist, hh, hwh⟩, ⟨valid, hv, hwv⟩⟩ := h
  exact ⟨⟨hist.erase host, by simp [Store.forgetHost, hh], hwh.sublist (Assoc.erase_sublist _ _)⟩,
    ⟨valid.filter fun e => Store.keyHost e.1 ≠ host, by simp [Store.forgetHost, hv],
      hwv.sublist List.filter_sublist⟩⟩

theorem forgetEnvironment (h : s.Wf) (host env : String) : (s.forgetEnvironment host env).Wf := by
  obtain ⟨⟨hist, hh, hwh⟩, ⟨valid, hv, hwv⟩⟩ := h
  obtain ⟨history, valid', docs⟩ := s
  simp only at hh hv
  subst hh hv
  refine ⟨⟨_, rfl, ?_⟩, ⟨_, rfl, hwv.forgetEnvironment host _⟩⟩
  -- the host's record loses the environment, or the host goes when none is left
  dsimp only
  split
  · exact hwh
  · rename_i hr hg
    have hw : hr.Wf := hwh.entries _ (Assoc.mem_of_get? hg)
    split
    · exact hwh.sublist (Assoc.erase_sublist _ _)
    · rename_i hne
      exact hwh.put host (hw.drop _ (by simpa using hne))

theorem forget (h : s.Wf) (host env : String) : (s.forget host env).Wf := by
  unfold Store.forget
  split
  · exact h
  · split
    · exact h.forgetHost host
    · exact h.forgetEnvironment host env

theorem forgetValidation (h : s.Wf) (key : String) : (s.forgetValidation key).Wf := by
  obtain ⟨hh, ⟨valid, hv, hwv⟩⟩ := h
  exact ⟨by simpa [Store.forgetValidation] using hh,
    ⟨valid.erase key, by simp [Store.forgetValidation, hv], hwv.sublist (Assoc.erase_sublist _ _)⟩⟩

/-- Every change of a tidy store succeeds and keeps it tidy. -/
theorem change (h : s.Wf) (c : Change) : ∃ s', s.change c = .ok s' ∧ s'.Wf := by
  cases c with
  | remember host env => exact h.remember host env
  | markValid key env => exact h.markValid key env
  | forget host env => exact ⟨_, rfl, h.forget host env⟩
  | forgetValidation key => exact ⟨_, rfl, h.forgetValidation key⟩

/-- Every run of changes of a tidy store succeeds and keeps it tidy. -/
theorem changes (h : s.Wf) (cs : List Change) : ∃ s', s.changes cs = .ok s' ∧ s'.Wf := by
  induction cs generalizing s with
  | nil => exact ⟨s, rfl, h⟩
  | cons c cs ih =>
    obtain ⟨s₁, h₁, hw₁⟩ := h.change c
    obtain ⟨s₂, h₂, hw₂⟩ := ih hw₁
    exact ⟨s₂, by rw [Store.changes_cons, h₁]; exact h₂, hw₂⟩

end Store.Wf

/-- A store over a directory without its two documents is tidy: both maps are empty. -/
theorem Store.load_wf {d : Documents} (hh : d.find? historyFile = none)
    (hv : d.find? validationFile = none) : (Store.load d).Wf := by
  have empty : ∀ {α : Type} (name : String) (sc : Json.Schema) (entry : Json.Val → Option α),
      d.find? name = none → readDocument d name sc entry = some [] := by
    intro α name sc entry hn
    unfold readDocument
    split
    · rfl
    · simp [hn]
  exact ⟨⟨[], empty _ _ _ hh, ⟨by simp, by simp⟩⟩,
    ⟨[], empty _ _ _ hv, ⟨by simp, by simp, by simp, by simp⟩⟩⟩

/-! ## Remembering moves to the front -/

/-- In a store whose history is present, remembering an environment of a host moves its root to
the front of the host's list, makes it the last one, and leaves every other host alone. -/
theorem Store.remembersToFront {s : Store} {hist : Assoc History} (hs : s.history = some hist) :
    s.RemembersToFront := by
  intro host env n hh hn
  have hne : host.isEmpty = false := by simpa [String.isEmpty_iff] using hh
  -- the environments the host had, as `remember` reads them
  have hold : ((hist.get? host).getD ⟨none, ""⟩).envs.getD [] =
      (((hist.get? host).bind (·.envs)).getD []) := by
    cases hist.get? host <;> rfl
  refine ⟨_, by simp only [Store.remember, hn, hne, hs]; rfl, ?_, ?_, ?_⟩
  · simp [Store.environments, Assoc.get?_put, hs, hold]
  · simp [Store.lastEnvironment, Assoc.get?_put]
  · intro h' hh'
    simp [Store.environments, Store.lastEnvironment, Assoc.get?_put, hh', hs]

/-- Every store reached from no documents by any changes is tidy, and remembering in it moves an
environment to the front of its host's list. -/
theorem changes_keep_store_wellformed (d : Documents) (hh : d.find? historyFile = none)
    (hv : d.find? validationFile = none) (cs : List Change) :
    ∃ s, (Store.load d).changes cs = .ok s ∧ s.Wf ∧ s.RemembersToFront := by
  obtain ⟨s, hs, hw⟩ := (Store.load_wf hh hv).changes cs
  obtain ⟨hist, hhist, -⟩ := hw.history
  exact ⟨s, hs, hw, Store.remembersToFront hhist⟩

/-- A fresh directory, one remembered interpreter and one validation: the store stays tidy. -/
theorem changes_keep_store_wellformed_fresh :
    (⟨[], [], none⟩ : Documents).find? historyFile = none ∧
      (⟨[], [], none⟩ : Documents).find? validationFile = none ∧
      ∃ s, (Store.load ⟨[], [], none⟩).changes
          [.remember "h1" "/srv/venv/bin/python", .markValid "pyright:h1" "/srv/venv",
            .forget "h1" "/srv/other"] = .ok s ∧ s.Wf ∧ s.RemembersToFront :=
  ⟨rfl, rfl, changes_keep_store_wellformed _ rfl rfl _⟩

end RemoteLsp.Identity
