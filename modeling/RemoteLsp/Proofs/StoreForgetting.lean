import RemoteLsp.Proofs.SettingsShape
import RemoteLsp.Proofs.StorePersistence
import RemoteLsp.Proofs.VirtualPaths

/-!
# Forgetting in the identity store

Forgetting an environment of a host drops the environment's root from the host's list and from
every validation key of the host, promotes the host's next environment to last one, and drops
the host when none is left. Forgetting a host drops its list and every key of it. Both leave every
other host and every key of another host as they were: a key `backend:host` names its host as
the text after its first colon, and no backend name has a colon.

Forgetting names the environment by its root, the normal form of what it is given. A root is its
own normal form when it has no blank at its ends, so such a root listed for a host is forgotten
completely. A root can end with a blank, though: `/srv/venv /` normalises to `/srv/venv ` (blanks
are trimmed only before the suffixes are), and forgetting that root forgets `/srv/venv` instead
and leaves it listed (`forget_keeps_blank_ended_root`).

Main statement: `forget_is_complete_and_local`.
-/

namespace RemoteLsp

/-! ## Roots that are their own normal form -/

namespace Text

/-- A text with no blank at its ends is its own trim. -/
theorem trimBlanks_of_trimmed {s : String} (h : Trimmed s) : trimBlanks s = s := by
  have hfront : dropBlanks s.toList = s.toList := by
    cases hs : s.toList with
    | nil => rfl
    | cons c r =>
      have hc : isBlank c = false := h.1 c (by simp [hs])
      simp [dropBlanks, hc]
  have hback : s.toList.rdropWhile isBlank = s.toList := by
    rw [List.rdropWhile_eq_self_iff]
    intro hne hlast
    have := h.2 _ (List.getLast?_eq_some_getLast hne)
    simp_all
  rw [trimBlanks_eq_rdropWhile, hfront, hback, String.ofList_toList]

end Text

namespace Path

theorem normalizeStep_ne_empty (p : String) : normalizeStep p ≠ "" := by
  rw [normalizeStep_eq]
  split
  · decide
  · assumption

theorem normalizeLoop_ne_empty :
    ∀ (fuel : Nat) {p : String}, p ≠ "" → normalizeLoop fuel p ≠ ""
  | 0, _, hp => hp
  | fuel + 1, p, hp => by
    simp only [normalizeLoop]
    split
    · exact hp
    · exact normalizeLoop_ne_empty fuel (normalizeStep_ne_empty p)

/-- An environment root is never empty. -/
theorem normalizeEnvironment_ne_empty {raw e : String} (h : normalizeEnvironment raw = some e) :
    e ≠ "" := by
  rw [normalizeEnvironment_eq] at h
  split at h
  · cases h
  · rw [← Option.some.inj h]
    exact normalizeLoop_ne_empty _ ‹_›

theorem dropEnvironmentSuffix_of_none (p : String) :
    ∀ {ss : List String}, (∀ s ∈ ss, Text.endsWith p s = false) →
      dropEnvironmentSuffix p ss = p
  | [], _ => rfl
  | s :: rest, h => by
    have hs : Text.dropSuffix? p s = none := by simp [Text.dropSuffix?, h s List.mem_cons_self]
    rw [dropEnvironmentSuffix, hs]
    exact dropEnvironmentSuffix_of_none p fun s' hs' => h s' (List.mem_cons_of_mem s hs')

/-- A round of normalisation leaves a non-empty bare path alone. -/
theorem normalizeStep_of_bare {p : String} (hb : Bare p) (hp : p ≠ "") : normalizeStep p = p := by
  rcases hb with rfl | ⟨hs, hsuf⟩
  · exact normalizeStep_root
  · rw [normalizeStep_eq, trimTrailingSlashes_of_not_endsWith hs,
      dropEnvironmentSuffix_of_none p hsuf, if_neg hp]

/-- A root with no blank at its ends is its own normal form. -/
theorem normalizeEnvironment_root {e : String} (hn : Identity.Normalized e) (ht : Text.Trimmed e) :
    normalizeEnvironment e = some e := by
  obtain ⟨raw, hraw⟩ := hn
  have hne := normalizeEnvironment_ne_empty hraw
  have hstep := normalizeStep_of_bare (bare_of_normalizeEnvironment hraw) hne
  rw [normalizeEnvironment_eq, Text.trimBlanks_of_trimmed ht, if_neg hne]
  simp [normalizeLoop, hstep]

end Path

namespace Identity

/-! ## Lookups that a change of other names leaves alone -/

namespace Assoc

variable {β γ : Type}

/-- Changing or dropping entries, each keeping its name, and keeping those of one name as they
are, leaves that name's value. -/
theorem get?_filterMap_of_keeps {m : Assoc β} {f : String × β → Option (String × β)}
    {k : String}
    (hname : ∀ p q, f p = some q → q.1 = p.1) (hkeep : ∀ p ∈ m, p.1 = k → f p = some p) :
    Assoc.get? (m.filterMap f) k = m.get? k := by
  induction m with
  | nil => rfl
  | cons p m ih =>
    have ih := ih fun p' hp' => hkeep p' (List.mem_cons_of_mem p hp')
    obtain ⟨k₀, v₀⟩ := p
    rw [List.filterMap_cons, get?_cons]
    by_cases hk : k₀ = k
    · rw [hkeep _ List.mem_cons_self hk, get?_cons, if_pos hk, if_pos hk]
    · rw [if_neg hk]
      cases hf : f (k₀, v₀) with
      | none => exact ih
      | some q =>
        obtain ⟨k₁, v₁⟩ := q
        have hk₁ : k₁ = k₀ := hname _ _ hf
        subst hk₁
        rw [get?_cons, if_neg hk, ih]

/-- Dropping entries, keeping those of one name, leaves that name's value. -/
theorem get?_filter_of_keeps {m : Assoc β} {P : String × β → Bool} {k : String}
    (hkeep : ∀ p ∈ m, p.1 = k → P p = true) : Assoc.get? (m.filter P) k = m.get? k := by
  rw [← List.filterMap_eq_filter]
  refine get?_filterMap_of_keeps (fun p q h => ?_) fun p hp hk => by simp [hkeep p hp hk]
  simp only [Option.guard] at h
  split at h <;> cases h
  rfl

end Assoc

/-! ## Validation keys -/

namespace Store

/-- A validation key names its host back, whatever the host holds: no backend name has a
colon, so the first colon is the one that joins them. -/
theorem keyHost_validationKey (b : Backend) (host : String) :
    keyHost (validationKey b.name host) = host := by
  have hb : ':' ∉ b.name.toList := by cases b <;> decide
  have hkey : validationKey b.name host = b.name ++ String.singleton ':' ++ host := rfl
  rw [keyHost, hkey, Text.cut?_append hb]
  rfl

/-- A validation that holds names a key of the map and an environment of that key. -/
theorem mem_of_isValid {s : Store} {k e : String} (h : s.isValid k e = true) :
    ∃ v envs, s.valid = some v ∧ (k, envs) ∈ v ∧ (e, true) ∈ envs := by
  unfold isValid at h
  cases hv : s.valid with
  | none => simp [hv] at h
  | some v =>
    cases hk : v.get? k with
    | none => simp [hv, hk] at h
    | some envs =>
      cases he : envs.get? e with
      | none => simp [hv, hk, he] at h
      | some b =>
        have hb : b = true := by simpa [hv, hk, he] using h
        subst hb
        exact ⟨v, envs, rfl, Assoc.mem_of_get? hk, Assoc.mem_of_get? he⟩

/-! ## What forgetting a host changes -/

theorem forget_host (s : Store) {host : String} (hh : host ≠ "") :
    s.forget host "" = s.forgetHost host := by
  have : host.isEmpty = false := by simpa [String.isEmpty_iff] using hh
  simp [forget, this]

theorem forget_environment (s : Store) {host env : String} (hh : host ≠ "") (he : env ≠ "") :
    s.forget host env = s.forgetEnvironment host env := by
  have hh' : host.isEmpty = false := by simpa [String.isEmpty_iff] using hh
  have he' : env.isEmpty = false := by simpa [String.isEmpty_iff] using he
  simp [forget, hh', he']

/-- The record of another host after forgetting a host. -/
theorem forgetHost_record (s : Store) {host h' : String} (hh : h' ≠ host) :
    (s.forgetHost host).history.bind (·.get? h') = s.history.bind (·.get? h') := by
  cases hs : s.history with
  | none => simp [forgetHost, hs]
  | some hist => simp [forgetHost, hs, Assoc.get?_erase, hh]

/-- A key of another host keeps its validations when a host is forgotten. -/
theorem forgetHost_isValid (s : Store) {host k : String} (hk : keyHost k ≠ host) (e : String) :
    (s.forgetHost host).isValid k e = s.isValid k e := by
  cases hs : s.valid with
  | none => simp [forgetHost, isValid, hs]
  | some v =>
    simp only [forgetHost, isValid, saveAll_valid, hs, Option.map_some, Option.bind_some]
    rw [Assoc.get?_filter_of_keeps fun p _ hp => by simp [hp, hk]]

/-! ## What forgetting an environment changes -/

/-- The record of another host after forgetting an environment. -/
theorem forgetEnvironment_record (s : Store) {host h' : String} (env : String) (hh : h' ≠ host) :
    (s.forgetEnvironment host env).history.bind (·.get? h') = s.history.bind (·.get? h') := by
  cases hs : s.history with
  | none => simp [forgetEnvironment, hs]
  | some hist =>
    simp only [forgetEnvironment, hs, saveAll_history, Option.map_some, Option.bind_some]
    -- the host's record is kept, dropped, or replaced; another host's entry is untouched
    split
    · rfl
    · split
      · rw [Assoc.get?_erase, if_neg hh]
      · rw [Assoc.get?_put, if_neg hh]

/-- A key of another host keeps its validations when an environment is forgotten. -/
theorem forgetEnvironment_isValid (s : Store) {host k : String} (env : String)
    (hk : keyHost k ≠ host) (e : String) :
    (s.forgetEnvironment host env).isValid k e = s.isValid k e := by
  cases hs : s.valid with
  | none => simp [forgetEnvironment, isValid, hs]
  | some v =>
    rw [isValid, isValid, hs]
    simp only [forgetEnvironment, saveAll_valid, hs, Option.map_some, Option.bind_some]
    rw [Assoc.get?_filterMap_of_keeps]
    · intro p q h
      split at h
      · cases h
        rfl
      · split at h <;> cases h
        rfl
    · intro p _ hp
      obtain ⟨k', envs⟩ := p
      cases hp
      simp [hk]

/-- The root forgotten is gone from the host's list. -/
theorem forgetEnvironment_not_listed (s : Store) (host env : String) :
    (Path.normalizeEnvironment env).getD env ∉
      ((s.forgetEnvironment host env).environments host).getD [] := by
  generalize hn : (Path.normalizeEnvironment env).getD env = n
  cases hs : s.history with
  | none => simp [forgetEnvironment, environments, hs]
  | some hist =>
    simp only [environments, forgetEnvironment, hn, hs, saveAll_history, Option.map_some,
      Option.bind_some]
    split
    · rename_i hg
      simp [hg]
    · rename_i r _
      split
      · simp [Assoc.get?_erase]
      · -- the host keeps the environments other than the root
        cases r.envs <;> simp [Assoc.get?_put]

/-- No key of the host validates the root forgotten. -/
theorem forgetEnvironment_invalid (s : Store) {host k : String} (env : String)
    (hk : keyHost k = host) :
    (s.forgetEnvironment host env).isValid k ((Path.normalizeEnvironment env).getD env) =
      false := by
  generalize hn : (Path.normalizeEnvironment env).getD env = n
  rw [Bool.eq_false_iff]
  intro hvalid
  obtain ⟨v', envs, hv', hmem, henv⟩ := mem_of_isValid hvalid
  cases hs : s.valid with
  | none => simp [forgetEnvironment, hs] at hv'
  | some v =>
    simp only [forgetEnvironment, hn, saveAll_valid, hs, Option.map_some, Option.some.injEq] at hv'
    subst hv'
    obtain ⟨⟨key, envs₀⟩, -, hf⟩ := List.mem_filterMap.mp hmem
    -- the entry of a key of the host holds its environments without the root
    simp only at hf
    split at hf
    · cases hf
      exact absurd hk ‹_›
    · split at hf <;> cases hf
      exact (Assoc.mem_erase.mp henv).2 rfl

end Store

/-! ## Tidy stores answer through their records -/

namespace Store.Wf

variable {s : Store}

/-- A tidy store's last environment of a host is the first of its list, or empty. -/
theorem lastEnvironment_head (h : s.Wf) (host : String) :
    s.lastEnvironment host = (((s.environments host).getD []).head?).getD "" := by
  obtain ⟨hist, hh, hw⟩ := h.history
  cases hg : hist.get? host with
  | none => simp [lastEnvironment, environments, hh, hg]
  | some r =>
    obtain ⟨es, hes, hhead, -, -⟩ := hw.entries _ (Assoc.mem_of_get? hg)
    simp only at hes hhead
    simp [lastEnvironment, environments, hh, hg, hes, hhead]

/-- A tidy store lists an environment for every host it knows. -/
theorem environments_ne_nil (h : s.Wf) {host : String} (hk : host ∈ s.knownHosts) :
    (s.environments host).getD [] ≠ [] := by
  obtain ⟨hist, hh, hw⟩ := h.history
  -- the known hosts are the names of the history map, sorted
  have hname : host ∈ hist.map (·.1) := by
    simp only [knownHosts, hh, Option.getD_some] at hk
    obtain ⟨⟨k, u⟩, hm, rfl⟩ := List.mem_map.mp hk
    obtain ⟨⟨k', r⟩, hr, hk'⟩ := List.mem_map.mp ((Json.sortMembers_perm _).subset hm)
    cases hk'
    exact List.mem_map_of_mem hr
  obtain ⟨⟨k, r⟩, hr, rfl⟩ := List.mem_map.mp hname
  have hg : hist.get? k = some r := (Assoc.get?_eq_some_iff hw.hosts_nodup).mpr hr
  obtain ⟨es, hes, hhead, -, -⟩ := hw.entries _ hr
  simp only at hes hhead
  intro hnil
  simp [environments, hh, hg, hes] at hnil
  simp [hnil] at hhead

/-- Every environment a tidy store lists is a root. -/
theorem normalized_of_listed (h : s.Wf) {host e : String}
    (he : e ∈ (s.environments host).getD []) : Normalized e := by
  obtain ⟨hist, hh, hw⟩ := h.history
  cases hg : hist.get? host with
  | none => simp [environments, hh, hg] at he
  | some r =>
    obtain ⟨es, hes, -, -, hnorm⟩ := hw.entries _ (Assoc.mem_of_get? hg)
    simp only at hes
    exact hnorm e (by simpa [environments, hh, hg, hes] using he)

end Store.Wf

/-! ## Forgetting is complete and local -/

/-- What forgetting an environment of a host leaves: the environment is no longer listed and no
key of the host validates it; the host's last environment is the first one left, and the host is
no longer known when none is left. -/
structure Store.Forgets (s' : Store) (host env : String) : Prop where
  gone : env ∉ (s'.environments host).getD []
  invalid : ∀ k, Store.keyHost k = host → s'.isValid k env = false
  last : s'.lastEnvironment host = (((s'.environments host).getD []).head?).getD ""
  dropped : (s'.environments host).getD [] = [] → host ∉ s'.knownHosts

/-- A change on one host leaves every other host's environments and last environment, and the
validations of every key of another host, as they were: in particular those of every validation
key of another host. -/
structure Store.KeepsOthers (s s' : Store) (host : String) : Prop where
  environments : ∀ h', h' ≠ host → s'.environments h' = s.environments h'
  lastEnvironment : ∀ h', h' ≠ host → s'.lastEnvironment h' = s.lastEnvironment h'
  otherKeys : ∀ k e, Store.keyHost k ≠ host → s'.isValid k e = s.isValid k e
  validationKeys : ∀ (b : Backend) h' e, h' ≠ host →
    s'.isValid (Store.validationKey b.name h') e = s.isValid (Store.validationKey b.name h') e

namespace Store

/-- A change that keeps the record of every other host and the validations of every key of
another host keeps them all. -/
theorem KeepsOthers.of_records {s s' : Store} {host : String}
    (hrec : ∀ h', h' ≠ host → s'.history.bind (·.get? h') = s.history.bind (·.get? h'))
    (hkeys : ∀ k e, keyHost k ≠ host → s'.isValid k e = s.isValid k e) :
    s.KeepsOthers s' host where
  environments h' hh := by simp only [Store.environments, hrec h' hh]
  lastEnvironment h' hh := by simp only [Store.lastEnvironment, hrec h' hh]
  otherKeys := hkeys
  validationKeys b h' e hh := hkeys _ e (by rw [keyHost_validationKey]; exact hh)

theorem keepsOthers_forgetHost (s : Store) (host : String) :
    s.KeepsOthers (s.forgetHost host) host :=
  .of_records (fun _ hh => s.forgetHost_record hh) fun _ e hk => s.forgetHost_isValid hk e

theorem keepsOthers_forgetEnvironment (s : Store) (host env : String) :
    s.KeepsOthers (s.forgetEnvironment host env) host :=
  .of_records (fun _ hh => s.forgetEnvironment_record env hh)
    fun _ e hk => s.forgetEnvironment_isValid env hk e

end Store

/-- In every store reached from no documents by any changes, forgetting an environment that a
host lists, and that has no blank at its ends, drops it from the host and from every key of the
host, promotes the next environment or drops the host; and forgetting an environment or the
whole host leaves every other host and every key of another host as they were. -/
theorem forget_is_complete_and_local (d : Documents) (hh : d.find? historyFile = none)
    (hv : d.find? validationFile = none) (cs : List Change) {s : Store}
    (hs : (Store.load d).changes cs = .ok s) {host env : String} (hhost : host ≠ "")
    (henv : env ∈ (s.environments host).getD []) (htrim : Text.Trimmed env) :
    (s.forget host env).Forgets host env ∧ s.KeepsOthers (s.forget host env) host ∧
      s.KeepsOthers (s.forget host "") host := by
  have hw : s.Wf := by
    obtain ⟨s₁, hs₁, hw₁⟩ := (Store.load_wf hh hv).changes cs
    rw [hs] at hs₁
    cases hs₁
    exact hw₁
  -- a listed environment is a root, and without blanks at its ends it is its own root
  have hroot := hw.normalized_of_listed henv
  have hn : (Path.normalizeEnvironment env).getD env = env := by
    rw [Path.normalizeEnvironment_root hroot htrim]
    rfl
  have hne : env ≠ "" := by
    obtain ⟨raw, hraw⟩ := hroot
    exact Path.normalizeEnvironment_ne_empty hraw
  have hw' : (s.forget host env).Wf := hw.forget host env
  rw [s.forget_host hhost, s.forget_environment hhost hne] at *
  refine ⟨⟨?_, fun k hk => ?_, hw'.lastEnvironment_head host, fun hnil hk => ?_⟩,
    s.keepsOthers_forgetEnvironment host env, s.keepsOthers_forgetHost host⟩
  · simpa [hn] using s.forgetEnvironment_not_listed host env
  · simpa [hn] using s.forgetEnvironment_invalid env hk
  · exact hw'.environments_ne_nil hk hnil

/-- A store that remembered `/srv/venv/bin/python` on `h1` and validated it forgets it
completely. -/
theorem forget_is_complete_and_local_venv :
    ∃ s, (Store.load ⟨[], [], none⟩).changes
        [.remember "h1" "/srv/venv/bin/python", .markValid "pyright:h1" "/srv/venv"] = .ok s ∧
      "h1" ≠ "" ∧ "/srv/venv" ∈ (s.environments "h1").getD [] ∧ Text.Trimmed "/srv/venv" ∧
      (s.forget "h1" "/srv/venv").Forgets "h1" "/srv/venv" ∧
      s.KeepsOthers (s.forget "h1" "/srv/venv") "h1" ∧ s.KeepsOthers (s.forget "h1" "") "h1" := by
  have htrim : Text.Trimmed "/srv/venv" := by
    have h := Text.trimBlanks_trimmed "/srv/venv"
    rwa [show Text.trimBlanks "/srv/venv" = "/srv/venv" by decide +kernel] at h
  have hlisted : ∀ s, (Store.load ⟨[], [], none⟩).changes
      [.remember "h1" "/srv/venv/bin/python", .markValid "pyright:h1" "/srv/venv"] = .ok s →
      "/srv/venv" ∈ (s.environments "h1").getD [] := by
    intro s hs
    have hrun : ((Store.load ⟨[], [], none⟩).changes [.remember "h1" "/srv/venv/bin/python",
        .markValid "pyright:h1" "/srv/venv"]).map (fun s => (s.environments "h1").getD []) =
        .ok ["/srv/venv"] := by decide +kernel
    rw [hs] at hrun
    have hl : (s.environments "h1").getD [] = ["/srv/venv"] := Except.ok.inj hrun
    simp [hl]
  obtain ⟨s, hs, -⟩ := (Store.load_wf (d := ⟨[], [], none⟩) rfl rfl).changes
    [.remember "h1" "/srv/venv/bin/python", .markValid "pyright:h1" "/srv/venv"]
  exact ⟨s, hs, by decide, hlisted s hs, htrim,
    forget_is_complete_and_local ⟨[], [], none⟩ rfl rfl _ hs (by decide) (hlisted s hs) htrim⟩

/-- The root of `/srv/venv /` is `/srv/venv `, with its blank: forgetting that root listed on `h1`
forgets `/srv/venv` instead, and leaves it listed and validated. -/
theorem forget_keeps_blank_ended_root :
    ∃ s, (Store.load ⟨[], [], none⟩).changes
        [.remember "h1" "/srv/venv /", .markValid "pyright:h1" "/srv/venv "] = .ok s ∧
      "/srv/venv " ∈ (s.environments "h1").getD [] ∧
      "/srv/venv " ∈ ((s.forget "h1" "/srv/venv ").environments "h1").getD [] ∧
      (s.forget "h1" "/srv/venv ").isValid "pyright:h1" "/srv/venv " = true := by
  obtain ⟨s, hs, -⟩ := (Store.load_wf (d := ⟨[], [], none⟩) rfl rfl).changes
    [.remember "h1" "/srv/venv /", .markValid "pyright:h1" "/srv/venv "]
  have hrun : ((Store.load ⟨[], [], none⟩).changes [.remember "h1" "/srv/venv /",
      .markValid "pyright:h1" "/srv/venv "]).map (fun s =>
        ((s.environments "h1").getD [], ((s.forget "h1" "/srv/venv ").environments "h1").getD [],
          (s.forget "h1" "/srv/venv ").isValid "pyright:h1" "/srv/venv ")) =
      .ok (["/srv/venv "], ["/srv/venv "], true) := by decide +kernel
  rw [hs] at hrun
  have hl := Except.ok.inj hrun
  simp only [Prod.mk.injEq] at hl
  obtain ⟨h₁, h₂, h₃⟩ := hl
  exact ⟨s, hs, by simp [h₁], by simp [h₂], h₃⟩

end Identity

end RemoteLsp
