import RemoteLsp.Proofs.StoreShape

/-!
# The shape of a session's settings

A session's settings keep one shape through every call of the session API: the host has no
blank at either end; the environment is empty or an environment root, which ends in none of the
pieces normalisation strips (a slash, `/bin`, `/bin/python`, `/bin/python3`) unless it is `/`
itself; the workspace root is empty or absolute, without a trailing slash unless it is `/`; and
the backend is one of the three. A call that changes the host, the environment or the backend,
and returns or fails with an error, leaves no check cached.

Normalisation repeats its round until nothing changes, and a round that changes a path makes
it shorter or gives `/`; so the path it settles on is one that a round leaves alone, which is
what ending in none of those pieces means.

An environment also comes from the identity store, as the last one of a host. The store hands
on what its document says, so the shape holds for a store whose last environments are roots, as
in every store the daemon writes (`Store.Wf.lastRooted`); a document that holds
`/opt/venv/bin/python3` gives a session that environment unchanged
(`newConfig_keeps_stored_interpreter`).

Main statement: `settings_keep_shape`.
-/

namespace RemoteLsp

/-! ## Texts without blanks at their ends -/

namespace Text

/-- A text with no blank at either end. -/
def Trimmed (s : String) : Prop :=
  (∀ c ∈ s.toList.head?, isBlank c = false) ∧ ∀ c ∈ s.toList.getLast?, isBlank c = false

theorem dropRightWhileEq_eq_rdropWhile (c : Char) (cs : List Char) :
    dropRightWhileEq c cs = cs.rdropWhile (· == c) := rfl

theorem trimBlanks_eq_rdropWhile (s : String) :
    trimBlanks s = String.ofList ((dropBlanks s.toList).rdropWhile isBlank) := rfl

theorem endsWith_iff {s p : String} : endsWith s p = true ↔ p.toList <:+ s.toList := by
  rw [endsWith, List.isPrefixOf_iff_prefix, List.reverse_prefix]

theorem startsWith_iff {s p : String} : startsWith s p = true ↔ p.toList <+: s.toList := by
  rw [startsWith, List.isPrefixOf_iff_prefix]

/-- A prefix is the whole list or shorter. -/
theorem prefix_eq_or_length_lt {l l' : List Char} (h : l <+: l') :
    l = l' ∨ l.length < l'.length := by
  obtain ⟨t, rfl⟩ := h
  cases t with
  | nil => simp
  | cons c r => right; simp

/-- A non-empty prefix of a list starts where the list does. -/
theorem prefix_head?_eq {l l' : List Char} (h : l <+: l') (hl : l ≠ []) : l.head? = l'.head? := by
  obtain ⟨t, rfl⟩ := h
  obtain ⟨c, r, rfl⟩ := List.ne_nil_iff_exists_cons.mp hl
  rfl

/-- The last element of a list with trailing elements dropped is not one of them. -/
theorem getLast?_rdropWhile (p : Char → Bool) (cs : List Char) :
    ∀ c ∈ (cs.rdropWhile p).getLast?, p c = false := by
  intro c hc
  have hne : cs.rdropWhile p ≠ [] := by
    rintro h
    simp [h] at hc
  rw [List.getLast?_eq_some_getLast hne, Option.mem_some_iff] at hc
  subst hc
  simpa using List.rdropWhile_last_not p cs hne

/-- Trimming leaves no blank at either end. -/
theorem trimBlanks_trimmed (s : String) : Trimmed (trimBlanks s) := by
  rw [trimBlanks_eq_rdropWhile, Trimmed, String.toList_ofList]
  refine ⟨fun c hc => ?_, getLast?_rdropWhile _ _⟩
  -- the right trim keeps a prefix of what the left trim left, which starts with no blank
  have hne : (dropBlanks s.toList).rdropWhile isBlank ≠ [] := by
    rintro h
    simp [h] at hc
  rw [prefix_head?_eq (List.rdropWhile_prefix _ _) hne] at hc
  obtain ⟨r, hr⟩ := List.head?_eq_some_iff.mp hc
  exact dropBlanks_head hr

/-- A text that starts with a slash, with its trailing slashes dropped, starts with a slash and
does not end with one, unless nothing is left. -/
theorem trimRightChar_slash {s : String} (hs : startsWith s "/" = true)
    (hne : (trimRightChar s '/').isEmpty = false) :
    startsWith (trimRightChar s '/') "/" = true ∧ endsWith (trimRightChar s '/') "/" = false := by
  have hl : s.toList.rdropWhile (· == '/') ≠ [] := by
    simpa [trimRightChar, dropRightWhileEq_eq_rdropWhile, String.isEmpty_iff] using hne
  rw [trimRightChar, dropRightWhileEq_eq_rdropWhile]
  refine ⟨?_, ?_⟩
  · -- what is left is a non-empty prefix of the text, so it starts with its slash
    rw [startsWith_iff, String.toList_ofList]
    have hs' : s.toList.head? = some '/' := by
      obtain ⟨t, ht⟩ := startsWith_iff.mp hs
      rw [← ht]
      rfl
    rw [← prefix_head?_eq (List.rdropWhile_prefix (· == '/') s.toList) hl] at hs'
    obtain ⟨r, hr⟩ := List.head?_eq_some_iff.mp hs'
    rw [hr]
    exact ⟨r, by simp⟩
  · rw [Bool.eq_false_iff]
    intro he
    obtain ⟨t, ht⟩ := endsWith_iff.mp he
    simp only [String.toList_ofList] at ht
    have hlast := getLast?_rdropWhile (· == '/') s.toList '/'
    rw [← ht] at hlast
    simp at hlast

end Text

/-! ## Environment roots -/

namespace Path

/-- A path that ends in none of the pieces normalisation strips: a slash, `/bin`,
`/bin/python` or `/bin/python3`; the root directory `/` apart. -/
def Bare (p : String) : Prop :=
  p = "/" ∨ (Text.endsWith p "/" = false ∧ ∀ s ∈ environmentSuffixes, Text.endsWith p s = false)

instance : DecidablePred Bare := fun p =>
  inferInstanceAs (Decidable (p = "/" ∨
    (Text.endsWith p "/" = false ∧ ∀ s ∈ environmentSuffixes, Text.endsWith p s = false)))

theorem bare_empty : Bare "" := by decide

theorem bare_root : Bare "/" := .inl rfl

/-- Dropping a suffix takes its length off. -/
theorem length_of_dropSuffix? {s p q : String} (h : Text.dropSuffix? s p = some q) :
    q.length + p.length = s.length := by
  unfold Text.dropSuffix? at h
  split at h
  · rename_i he
    cases h
    have hle := (Text.endsWith_iff.mp he).length_le
    rw [← String.length_toList, ← String.length_toList, ← String.length_toList,
      String.toList_ofList, List.length_take, String.length_toList, String.length_toList]
    rw [String.length_toList, String.length_toList] at hle
    omega
  · cases h

/-- Dropping the first of some non-empty suffixes that a path ends with leaves the path, or a
shorter one; a shorter one when the path ends with one of them. -/
theorem dropEnvironmentSuffix_shorter (p : String) :
    ∀ {ss : List String}, (∀ s ∈ ss, s ≠ "") →
      (dropEnvironmentSuffix p ss = p ∨ (dropEnvironmentSuffix p ss).length < p.length) ∧
      ((∃ s ∈ ss, Text.endsWith p s = true) → (dropEnvironmentSuffix p ss).length < p.length)
  | [], _ => ⟨.inl rfl, by simp⟩
  | s :: rest, hss => by
    have hs : 0 < s.length := by
      have := hss s List.mem_cons_self
      rw [← String.length_toList]
      exact List.length_pos_iff.mpr (by simpa [String.toList_eq_nil_iff] using this)
    have ih := dropEnvironmentSuffix_shorter p fun s' hs' => hss s' (List.mem_cons_of_mem s hs')
    rw [dropEnvironmentSuffix]
    cases hd : Text.dropSuffix? p s with
    | some q =>
      have := length_of_dropSuffix? hd
      exact ⟨.inr (by dsimp only; omega), fun _ => by dsimp only; omega⟩
    | none =>
      refine ⟨ih.1, fun ⟨s', hs', he⟩ => ih.2 ⟨s', ?_, he⟩⟩
      rcases List.mem_cons.mp hs' with rfl | hs'
      · simp [Text.dropSuffix?, he] at hd
      · exact hs'

theorem environmentSuffixes_nonempty : ∀ s ∈ environmentSuffixes, s ≠ "" := by decide

theorem trimTrailingSlashes_eq (p : String) :
    trimTrailingSlashes p = if Text.trimRightChar p '/' = "" ∧ p.toList.head? = some '/' then "/"
      else Text.trimRightChar p '/' := rfl

theorem trimRightChar_slash_eq (p : String) :
    Text.trimRightChar p '/' = String.ofList (p.toList.rdropWhile (· == '/')) := rfl

theorem normalizeStep_eq (p : String) :
    normalizeStep p =
      if dropEnvironmentSuffix (trimTrailingSlashes p) environmentSuffixes = "" then "/"
      else dropEnvironmentSuffix (trimTrailingSlashes p) environmentSuffixes := rfl

/-- Dropping trailing slashes leaves the path, a shorter one, or `/`. -/
theorem trimTrailingSlashes_shorter (p : String) :
    trimTrailingSlashes p = p ∨ (trimTrailingSlashes p).length < p.length ∨
      trimTrailingSlashes p = "/" := by
  rw [trimTrailingSlashes_eq]
  split
  · exact .inr (.inr rfl)
  · rw [trimRightChar_slash_eq]
    rcases Text.prefix_eq_or_length_lt (List.rdropWhile_prefix (· == '/') p.toList) with he | hlt
    · left
      rw [he, String.ofList_toList]
    · right; left
      rwa [String.length_ofList, ← String.length_toList]

/-- A path that ends with a slash, other than `/`, loses it. -/
theorem trimTrailingSlashes_lt {p : String} (he : Text.endsWith p "/" = true) (hp : p ≠ "/") :
    (trimTrailingSlashes p).length < p.length := by
  obtain ⟨l, hl⟩ := Text.endsWith_iff.mp he
  rw [show ("/" : String).toList = ['/'] from rfl] at hl
  -- the path is `l` and a slash, with `l` not empty
  have hlen : p.length = l.length + 1 := by
    rw [← String.length_toList, ← hl]
    simp
  have hl0 : l ≠ [] := by
    rintro rfl
    exact hp (String.toList_inj.mp (by rw [← hl]; rfl))
  rw [trimTrailingSlashes_eq]
  split
  · have := List.length_pos_iff.mpr hl0
    rw [show ("/" : String).length = 1 from rfl]
    omega
  · rw [trimRightChar_slash_eq, String.length_ofList, ← hl,
      List.rdropWhile_concat_pos _ _ _ (by simp)]
    have := (List.rdropWhile_prefix (· == '/') l).length_le
    omega

/-- A path that does not end with a slash keeps its trailing characters. -/
theorem trimTrailingSlashes_of_not_endsWith {p : String} (he : Text.endsWith p "/" = false) :
    trimTrailingSlashes p = p := by
  have hkeep : p.toList.rdropWhile (· == '/') = p.toList := by
    rw [List.rdropWhile_eq_self_iff]
    intro hne hlast
    have hsuf : ("/" : String).toList <:+ p.toList := by
      refine ⟨p.toList.dropLast, ?_⟩
      rw [← List.dropLast_append_getLast hne]
      simp_all
    rw [← Bool.not_eq_true, Text.endsWith_iff] at he
    exact he hsuf
  rw [trimTrailingSlashes_eq, trimRightChar_slash_eq, hkeep, String.ofList_toList]
  split
  · rename_i h
    obtain ⟨rfl, hh⟩ := h
    simp at hh
  · rfl

/-- One round leaves the path alone, shortens it, or gives `/`. -/
theorem normalizeStep_shorter (p : String) :
    normalizeStep p = p ∨ (normalizeStep p).length < p.length ∨ normalizeStep p = "/" := by
  have hd := (dropEnvironmentSuffix_shorter (trimTrailingSlashes p)
    environmentSuffixes_nonempty).1
  have ht := trimTrailingSlashes_shorter p
  rw [normalizeStep_eq]
  generalize trimTrailingSlashes p = t at hd ht
  generalize dropEnvironmentSuffix t environmentSuffixes = q at hd ⊢
  split
  · exact .inr (.inr rfl)
  rename_i hq
  rcases ht with rfl | ht | rfl <;> rcases hd with rfl | hd
  · exact .inl rfl
  · exact .inr (.inl hd)
  · exact .inr (.inl ht)
  · exact .inr (.inl (Nat.lt_trans hd ht))
  · exact .inr (.inr rfl)
  · -- nothing shorter than `/` is left but the empty path
    rw [show ("/" : String).length = 1 from rfl] at hd
    exact absurd (String.length_eq_zero_iff.mp (by omega)) hq

/-- A path that one round leaves alone is bare. -/
theorem bare_of_normalizeStep_eq {p : String} (h : normalizeStep p = p) : Bare p := by
  by_contra hb
  simp only [Bare, not_or, not_and, not_forall, Bool.not_eq_false] at hb
  obtain ⟨hroot, hpiece⟩ := hb
  -- a path ending in a stripped piece comes out of the round shorter, or as `/`
  have hlt : (dropEnvironmentSuffix (trimTrailingSlashes p) environmentSuffixes).length <
      p.length := by
    have hd := dropEnvironmentSuffix_shorter (trimTrailingSlashes p) environmentSuffixes_nonempty
    cases hs : Text.endsWith p "/" with
    | true =>
      have ht := trimTrailingSlashes_lt hs hroot
      rcases hd.1 with hd | hd
      · rwa [hd]
      · exact Nat.lt_trans hd ht
    | false =>
      obtain ⟨s, hs', he⟩ := hpiece hs
      rw [trimTrailingSlashes_of_not_endsWith hs] at hd ⊢
      exact hd.2 ⟨s, hs', he⟩
  rw [normalizeStep_eq] at h
  split at h
  · exact hroot h.symm
  · rw [h] at hlt
    exact Nat.lt_irrefl _ hlt

theorem normalizeStep_root : normalizeStep "/" = "/" := by decide

theorem normalizeLoop_root (fuel : Nat) : normalizeLoop fuel "/" = "/" := by
  cases fuel with
  | zero => rfl
  | succ fuel => simp [normalizeLoop, normalizeStep_root]

/-- With a round for every character, the loop settles on a bare path. -/
theorem bare_normalizeLoop : ∀ (fuel : Nat) (p : String), p.length ≤ fuel →
    Bare (normalizeLoop fuel p)
  | 0, p, hp => by
    rw [String.length_eq_zero_iff.mp (Nat.le_zero.mp hp)]
    exact bare_empty
  | fuel + 1, p, hp => by
    simp only [normalizeLoop]
    split
    · exact bare_of_normalizeStep_eq ‹_›
    · rcases normalizeStep_shorter p with h | h | h
      · contradiction
      · exact bare_normalizeLoop fuel _ (by omega)
      · rw [h, normalizeLoop_root]
        exact bare_root

theorem normalizeEnvironment_eq (raw : String) :
    normalizeEnvironment raw = if Text.trimBlanks raw = "" then none
      else some (normalizeLoop ((Text.trimBlanks raw).length + 2) (Text.trimBlanks raw)) := rfl

/-- An environment root is bare. -/
theorem bare_of_normalizeEnvironment {raw p : String} (h : normalizeEnvironment raw = some p) :
    Bare p := by
  rw [normalizeEnvironment_eq] at h
  split at h
  · cases h
  · rw [← Option.some.inj h]
    exact bare_normalizeLoop _ _ (by omega)

end Path

/-! ## Workspace roots, backends and the store -/

/-- Every backend is one of the three by name. -/
theorem Backend.name_mem (b : Backend) : b.name ∈ ["pyright", "ty", "pylsp"] := by
  cases b <;> simp [Backend.name]

namespace Session

/-- A workspace root as a session keeps it: empty, for detection, or absolute and without a
trailing slash, the root directory apart. -/
def RootShaped (r : String) : Prop :=
  r = "" ∨ (Text.startsWith r "/" = true ∧ (r = "/" ∨ Text.endsWith r "/" = false))

/-- The workspace root a user's path selects is shaped. -/
theorem workspaceRootOf_shaped {path r : String} (h : workspaceRootOf path = .ok r) :
    RootShaped r := by
  simp only [workspaceRootOf] at h
  split at h
  · rw [← Except.ok.inj h]
    exact .inl rfl
  split at h
  · cases h
  rename_i habs
  rw [← Except.ok.inj h]
  split
  · exact .inr ⟨by decide, .inl rfl⟩
  · rename_i hne
    have hs : Text.startsWith (Text.trimBlanks path) "/" = true := by simpa using habs
    have := Text.trimRightChar_slash hs (by simpa using hne)
    exact .inr ⟨this.1, .inr this.2⟩

end Session

namespace Identity

/-- Every host's last environment is empty or an environment root. -/
def Store.LastRooted (s : Store) : Prop :=
  ∀ host, s.lastEnvironment host = "" ∨ Normalized (s.lastEnvironment host)

/-- A tidy store's last environments are roots. -/
theorem Store.Wf.lastRooted {s : Store} (h : s.Wf) : s.LastRooted := by
  intro host
  obtain ⟨hist, hh, hw⟩ := h.history
  cases hg : hist.get? host with
  | none => simp [Store.lastEnvironment, hh, hg]
  | some r =>
    obtain ⟨es, -, hhead, -, hnorm⟩ := hw.entries _ (Assoc.mem_of_get? hg)
    refine .inr ?_
    simpa [Store.lastEnvironment, hh, hg] using hnorm r.lastEnv (List.mem_of_mem_head? hhead)

/-- Remembering an environment keeps the last environments roots. -/
theorem Store.LastRooted.remember {s s' : Store} (h : s.LastRooted) {host env : String}
    (hr : s.remember host env = .ok s') : s'.LastRooted := by
  unfold Store.remember at hr
  split at hr
  · cases hr
    exact h
  rename_i n hn
  split at hr
  · cases hr
    exact h
  split at hr
  · cases hr
  rename_i hist hh
  cases hr
  intro h'
  by_cases hk : h' = host
  · subst hk
    exact .inr (by simpa [Store.lastEnvironment, Assoc.get?_put] using ⟨env, hn⟩)
  · simpa [Store.lastEnvironment, Assoc.get?_put, hk, hh] using h h'

end Identity

/-! ## The shape of the settings -/

/-- The shape a session's settings keep: a host without blanks at its ends, an environment that
is empty or a root, and a shaped workspace root. -/
structure Settings.Shaped (st : Settings) : Prop where
  host : Text.Trimmed st.host
  environment : st.environment = "" ∨ Identity.Normalized st.environment
  workspaceRoot : Session.RootShaped st.workspaceRoot

/-- The environment of shaped settings ends in no stripped piece. -/
theorem Settings.Shaped.bare {st : Settings} (h : st.Shaped) : Path.Bare st.environment := by
  rcases h.environment with he | ⟨raw, hraw⟩
  · rw [he]
    exact Path.bare_empty
  · exact Path.bare_of_normalizeEnvironment hraw

/-! ## Running operations on a configuration -/

namespace Session.ConfigState

section Running

variable {α β : Type}

/-- The state an operation on a configuration leaves, whether it returned or stopped. -/
def after (op : Op ConfigState α) (s : ConfigState) : ConfigState :=
  match op.run s with
  | .ok _ s' => s'
  | .error _ s' => s'

/-- The operation returned, or stopped with an error, leaving `s'`; a fault is neither. -/
def Ends (op : Op ConfigState α) (s s' : ConfigState) : Prop :=
  (∃ a, op.run s = .ok a s') ∨ ∃ p, op.run s = .error (.failed p) s'

/-- The operation keeps `P`, however it ends. -/
def Keeps (P : ConfigState → Prop) (op : Op ConfigState α) : Prop := ∀ s, P s → P (after op s)

/-- Where the operation returns or stops with an error, its start and end are related by `R`. -/
def Steps (R : ConfigState → ConfigState → Prop) (op : Op ConfigState α) : Prop :=
  ∀ s s', Ends op s s' → R s s'

theorem after_bind (x : Op ConfigState α) (f : α → Op ConfigState β) (s : ConfigState) :
    after (x >>= f) s = match x.run s with
      | .ok a s' => after (f a) s'
      | .error _ s' => s' := by
  simp only [after, EStateM.run_bind]
  cases x.run s <;> rfl

theorem ends_bind {x : Op ConfigState α} {f : α → Op ConfigState β} {s s₂ : ConfigState}
    (h : Ends (x >>= f) s s₂) :
    (∃ a s₁, x.run s = .ok a s₁ ∧ Ends (f a) s₁ s₂) ∨ Ends x s s₂ := by
  simp only [Ends, EStateM.run_bind] at h
  cases hx : x.run s with
  | ok a s₁ =>
    rw [hx] at h
    exact .inl ⟨a, s₁, rfl, h⟩
  | error e s₁ =>
    rw [hx] at h
    dsimp only at h
    rcases h with ⟨b, hb⟩ | ⟨p, hp⟩
    · cases hb
    · cases hp
      exact .inr (.inr ⟨p, hx⟩)

theorem Keeps.bind {P : ConfigState → Prop} {x : Op ConfigState α} {f : α → Op ConfigState β}
    (hx : Keeps P x) (hf : ∀ a, Keeps P (f a)) : Keeps P (x >>= f) := by
  intro s hs
  have h := hx s hs
  rw [after_bind]
  cases hr : x.run s with
  | ok a s' =>
    simp only [after, hr] at h
    exact hf a s' h
  | error e s' => simpa only [after, hr] using h

theorem Steps.bind {R : ConfigState → ConfigState → Prop}
    (htrans : ∀ {s₁ s₂ s₃}, R s₁ s₂ → R s₂ s₃ → R s₁ s₃) {x : Op ConfigState α}
    {f : α → Op ConfigState β} (hx : Steps R x) (hf : ∀ a, Steps R (f a)) : Steps R (x >>= f) := by
  intro s s₂ h
  rcases ends_bind h with ⟨a, s₁, hr, hf'⟩ | hx'
  · exact htrans (hx s s₁ (.inl ⟨a, hr⟩)) (hf a s₁ s₂ hf')
  · exact hx s s₂ hx'

theorem Keeps.pure {P : ConfigState → Prop} (a : α) : Keeps P (Pure.pure a : Op ConfigState α) :=
  fun _ h => h

theorem Steps.pure {R : ConfigState → ConfigState → Prop} (hrefl : ∀ s, R s s) (a : α) :
    Steps R (Pure.pure a : Op ConfigState α) := by
  rintro s s' (⟨b, hb⟩ | ⟨p, hp⟩)
  · cases hb
    exact hrefl s
  · cases hp

/-- An operation that always returns, leaving `f s`. -/
theorem Keeps.of_ok {P : ConfigState → Prop} {op : Op ConfigState α}
    {f : ConfigState → ConfigState} (hrun : ∀ s, ∃ a, op.run s = .ok a (f s))
    (hf : ∀ s, P s → P (f s)) : Keeps P op := fun s hs => by
  obtain ⟨a, ha⟩ := hrun s
  simpa only [after, ha] using hf s hs

theorem Steps.of_ok {R : ConfigState → ConfigState → Prop} {op : Op ConfigState α}
    {f : ConfigState → ConfigState} (hrun : ∀ s, ∃ a, op.run s = .ok a (f s))
    (hf : ∀ s, R s (f s)) : Steps R op := by
  intro s
  obtain ⟨a, ha⟩ := hrun s
  rintro s' (⟨b, hb⟩ | ⟨p, hp⟩)
  · rw [ha] at hb
    obtain ⟨-, rfl⟩ := EStateM.Result.ok.inj hb
    exact hf s
  · rw [ha] at hp
    cases hp

end Running

/-! ## What each call does -/

section Calls

@[simp] theorem run_fail {α : Type} (p : Problem) (s : ConfigState) :
    (Op.fail p : Op ConfigState α).run s = .error (.failed p) s := rfl

@[simp] theorem run_fault {α : Type} (m : String) (s : ConfigState) :
    (Op.fault m : Op ConfigState α).run s = .error (.fault m) s := rfl

@[simp] theorem run_current (s : ConfigState) : current.run s = .ok s.config s := rfl

theorem run_setHost (s : ConfigState) (host : String) :
    (setHost host).run s = .ok ()
      (if Text.trimBlanks host = s.config.settings.host then s
       else { s with config := { s.config with
          settings := { s.config.settings with
            host := Text.trimBlanks host
            environment := if Text.trimBlanks host = "" then ""
              else s.store.lastEnvironment (Text.trimBlanks host) }
          cache := s.config.cache.reset } }) := by
  by_cases h : Text.trimBlanks host = s.config.settings.host <;>
    simp [setHost, updateSettings, run_update, resetCache, h]

/-- An environment that normalises is set, and remembered for the host; a store that cannot
remember it stops the call after the environment is set and before the cache is reset. -/
theorem run_setEnvironment (s : ConfigState) (raw : String) :
    (setEnvironment raw).run s = match Path.normalizeEnvironment raw with
      | none => .error (.failed (.plain "empty environment path")) s
      | some env =>
        if s.config.settings.host = "" then
          .ok () { s with config := { s.config with
            settings := { s.config.settings with environment := env }
            cache := s.config.cache.reset } }
        else match s.store.remember s.config.settings.host env with
          | .ok store => .ok () {
              config := { s.config with
                settings := { s.config.settings with environment := env }
                cache := s.config.cache.reset }
              store := store }
          | .error m => .error (.fault m) { s with config := { s.config with
              settings := { s.config.settings with environment := env } } } := by
  cases h : Path.normalizeEnvironment raw with
  | none => simp [setEnvironment, h]
  | some env =>
    by_cases hh : s.config.settings.host = ""
    · simp [setEnvironment, h, hh, updateSettings, run_update, resetCache]
    · cases hr : s.store.remember s.config.settings.host env <;>
        simp [setEnvironment, h, hh, hr, updateSettings, run_update, resetCache]

theorem run_clearEnvironment (s : ConfigState) :
    clearEnvironment.run s = .ok ()
      (if s.config.settings.environment = "" then s
       else { s with config := { s.config with
          settings := { s.config.settings with environment := "" },
          cache := s.config.cache.reset } }) := by
  by_cases h : s.config.settings.environment = "" <;>
    simp [clearEnvironment, updateSettings, run_update, resetCache, h]

theorem run_setWorkspaceRoot (s : ConfigState) (path : String) :
    (setWorkspaceRoot path).run s = match workspaceRootOf path with
      | .ok root => .ok () { s with config := { s.config with
          settings := { s.config.settings with workspaceRoot := root } } }
      | .error p => .error (.failed p) s := by
  cases h : workspaceRootOf path <;>
    simp [setWorkspaceRoot, Session.ofExcept, updateSettings, run_update, h]

theorem run_setBackend (s : ConfigState) (name : String) :
    (setBackend name).run s = match backendOf name with
      | .ok b => .ok () (if b = s.config.settings.backend then s
          else { s with config := { s.config with
            settings := { s.config.settings with backend := b },
            cache := s.config.cache.reset } })
      | .error p => .error (.failed p) s := by
  cases h : backendOf name with
  | error p => simp [setBackend, Session.ofExcept, h]
  | ok b =>
    by_cases hb : b = s.config.settings.backend <;>
      simp [setBackend, Session.ofExcept, updateSettings, run_update, resetCache, h, hb]

theorem run_setFlag (f : Settings → Settings) (s : ConfigState) :
    (updateSettings f).run s = .ok () { s with config := { s.config with
      settings := f s.config.settings } } := rfl

end Calls

/-! ## Every call keeps the shape -/

section Keeping

/-- Settings in shape, over a store whose last environments are environment roots. -/
def Good (s : ConfigState) : Prop := s.config.settings.Shaped ∧ s.store.LastRooted

/-- The host, environment and backend stay as they were with the cached check, or no check is
cached. -/
def Tidy (s s' : ConfigState) : Prop :=
  s'.config.cache.lastChecked = "" ∨
    (s'.config.settings.host = s.config.settings.host ∧
      s'.config.settings.environment = s.config.settings.environment ∧
      s'.config.settings.backend = s.config.settings.backend ∧
      s'.config.cache.lastChecked = s.config.cache.lastChecked)

theorem Tidy.refl (s : ConfigState) : Tidy s s := .inr ⟨rfl, rfl, rfl, rfl⟩

theorem Tidy.trans {s₁ s₂ s₃ : ConfigState} (h₁ : Tidy s₁ s₂) (h₂ : Tidy s₂ s₃) :
    Tidy s₁ s₃ := by
  rcases h₂ with h₂ | ⟨hh₂, he₂, hb₂, hc₂⟩
  · exact .inl h₂
  rcases h₁ with h₁ | ⟨hh₁, he₁, hb₁, hc₁⟩
  · exact .inl (hc₂.trans h₁)
  · exact .inr ⟨hh₂.trans hh₁, he₂.trans he₁, hb₂.trans hb₁, hc₂.trans hc₁⟩

theorem keeps_setHost (host : String) : Keeps Good (setHost host) := by
  rintro s ⟨hsh, hst⟩
  simp only [after, run_setHost]
  split_ifs with hs he
  · exact ⟨hsh, hst⟩
  · exact ⟨⟨Text.trimBlanks_trimmed host, .inl rfl, hsh.workspaceRoot⟩, hst⟩
  · exact ⟨⟨Text.trimBlanks_trimmed host, hst _, hsh.workspaceRoot⟩, hst⟩

theorem steps_setHost (host : String) : Steps Tidy (setHost host) :=
  Steps.of_ok (fun s => ⟨(), run_setHost s host⟩) fun s => by
    by_cases h : Text.trimBlanks host = s.config.settings.host
    · rw [if_pos h]
      exact Tidy.refl s
    · rw [if_neg h]
      exact .inl rfl

theorem keeps_setEnvironment (raw : String) : Keeps Good (setEnvironment raw) := by
  rintro s ⟨hsh, hst⟩
  simp only [after, run_setEnvironment]
  cases h : Path.normalizeEnvironment raw with
  | none => exact ⟨hsh, hst⟩
  | some env =>
    -- the new environment is a root, whether or not the store remembers it
    have he : ({ s.config.settings with environment := env } : Settings).Shaped :=
      ⟨hsh.host, .inr ⟨raw, h⟩, hsh.workspaceRoot⟩
    dsimp only
    split_ifs
    · exact ⟨he, hst⟩
    · cases hr : s.store.remember s.config.settings.host env with
      | ok store => exact ⟨he, hst.remember hr⟩
      | error m => exact ⟨he, hst⟩

theorem steps_setEnvironment (raw : String) : Steps Tidy (setEnvironment raw) := by
  intro s s' hs
  cases h : Path.normalizeEnvironment raw with
  | none =>
    simp [Ends, run_setEnvironment, h] at hs
    rw [← hs]
    exact Tidy.refl s
  | some env =>
    by_cases hh : s.config.settings.host = ""
    · simp [Ends, run_setEnvironment, h, hh] at hs
      rw [← hs]
      exact .inl rfl
    · cases hr : s.store.remember s.config.settings.host env <;>
        simp [Ends, run_setEnvironment, h, hh, hr] at hs
      rw [← hs]
      exact .inl rfl

theorem keeps_clearEnvironment : Keeps Good clearEnvironment :=
  Keeps.of_ok (fun s => ⟨(), run_clearEnvironment s⟩) fun s ⟨hsh, hst⟩ => by
    split_ifs
    · exact ⟨hsh, hst⟩
    · exact ⟨⟨hsh.host, .inl rfl, hsh.workspaceRoot⟩, hst⟩

theorem steps_clearEnvironment : Steps Tidy clearEnvironment :=
  Steps.of_ok (fun s => ⟨(), run_clearEnvironment s⟩) fun s => by
    split_ifs
    · exact Tidy.refl s
    · exact .inl rfl

theorem keeps_setWorkspaceRoot (path : String) : Keeps Good (setWorkspaceRoot path) := by
  rintro s ⟨hsh, hst⟩
  simp only [after, run_setWorkspaceRoot]
  cases h : workspaceRootOf path with
  | error p => exact ⟨hsh, hst⟩
  | ok root => exact ⟨⟨hsh.host, hsh.environment, workspaceRootOf_shaped h⟩, hst⟩

theorem steps_setWorkspaceRoot (path : String) : Steps Tidy (setWorkspaceRoot path) := by
  intro s s' hs
  cases h : workspaceRootOf path with
  | error p =>
    simp [Ends, run_setWorkspaceRoot, h] at hs
    rw [← hs]
    exact Tidy.refl s
  | ok root =>
    simp [Ends, run_setWorkspaceRoot, h] at hs
    rw [← hs]
    exact .inr ⟨rfl, rfl, rfl, rfl⟩

theorem keeps_setBackend (name : String) : Keeps Good (setBackend name) := by
  rintro s ⟨hsh, hst⟩
  simp only [after, run_setBackend]
  cases backendOf name with
  | error p => exact ⟨hsh, hst⟩
  | ok b =>
    dsimp only
    split_ifs
    · exact ⟨hsh, hst⟩
    · exact ⟨⟨hsh.host, hsh.environment, hsh.workspaceRoot⟩, hst⟩

theorem steps_setBackend (name : String) : Steps Tidy (setBackend name) := by
  intro s s' hs
  cases h : backendOf name with
  | error p =>
    simp [Ends, run_setBackend, h] at hs
    rw [← hs]
    exact Tidy.refl s
  | ok b =>
    by_cases hb : b = s.config.settings.backend
    · simp [Ends, run_setBackend, h, hb] at hs
      rw [← hs]
      exact Tidy.refl s
    · simp [Ends, run_setBackend, h, hb] at hs
      rw [← hs]
      exact .inl rfl

theorem keeps_setAutoInstall (v : Bool) : Keeps Good (setAutoInstall v) :=
  Keeps.of_ok (fun s => ⟨(), run_setFlag _ s⟩) fun _ ⟨hsh, hst⟩ =>
    ⟨⟨hsh.host, hsh.environment, hsh.workspaceRoot⟩, hst⟩

theorem steps_setAutoInstall (v : Bool) : Steps Tidy (setAutoInstall v) :=
  Steps.of_ok (fun s => ⟨(), run_setFlag _ s⟩) fun _ => .inr ⟨rfl, rfl, rfl, rfl⟩

theorem keeps_setNotifyOnStart (v : Bool) : Keeps Good (setNotifyOnStart v) :=
  Keeps.of_ok (fun s => ⟨(), run_setFlag _ s⟩) fun _ ⟨hsh, hst⟩ =>
    ⟨⟨hsh.host, hsh.environment, hsh.workspaceRoot⟩, hst⟩

theorem steps_setNotifyOnStart (v : Bool) : Steps Tidy (setNotifyOnStart v) :=
  Steps.of_ok (fun s => ⟨(), run_setFlag _ s⟩) fun _ => .inr ⟨rfl, rfl, rfl, rfl⟩

/-- The operation keeps the settings in shape however it ends, and leaves the cache tidy where
it returns or fails with an error. -/
structure Orderly {α : Type} (op : Op ConfigState α) : Prop where
  keeps : Keeps Good op
  steps : Steps Tidy op

theorem Orderly.bind {α β : Type} {x : Op ConfigState α} {f : α → Op ConfigState β}
    (hx : Orderly x) (hf : ∀ a, Orderly (f a)) : Orderly (x >>= f) :=
  ⟨hx.keeps.bind fun a => (hf a).keeps,
    Steps.bind (R := Tidy) Tidy.trans hx.steps fun a => (hf a).steps⟩

theorem Orderly.pure {α : Type} (a : α) : Orderly (Pure.pure a : Op ConfigState α) :=
  ⟨Keeps.pure a, Steps.pure Tidy.refl a⟩

theorem orderly_current : Orderly current :=
  ⟨Keeps.of_ok (fun s => ⟨_, run_current s⟩) fun _ h => h,
    Steps.of_ok (fun s => ⟨_, run_current s⟩) Tidy.refl⟩

/-- Allowing prompts touches neither the settings nor the cache. -/
theorem orderly_allowPrompt (v : Bool) :
    Orderly (update fun c => { c with allowPrompt := v }) :=
  ⟨Keeps.of_ok (fun s => ⟨(), run_update _ s⟩) fun _ h => h,
    Steps.of_ok (fun s => ⟨(), run_update _ s⟩) fun _ => .inr ⟨rfl, rfl, rfl, rfl⟩⟩

/-- Applying options is each setter in turn, skipped where the option is absent. -/
theorem orderly_apply (o : SessionOptions) : Orderly (apply o) := by
  unfold apply
  refine orderly_current.bind fun c => ?_
  extract_lets before jDone jPrompt jNotify jAuto jEnv jHost jRoot
  -- the continuations, from the last step back to the first
  have hDone : ∀ r, Orderly (jDone r) := fun _ => orderly_current.bind fun _ => Orderly.pure _
  have hPrompt : ∀ r, Orderly (jPrompt r) := fun _ => by
    dsimp only [jPrompt]
    split
    · exact (orderly_allowPrompt _).bind hDone
    · exact hDone ()
  have hNotify : ∀ r, Orderly (jNotify r) := fun _ => by
    dsimp only [jNotify]
    split
    · exact Orderly.bind ⟨keeps_setNotifyOnStart _, steps_setNotifyOnStart _⟩ hPrompt
    · exact hPrompt ()
  have hAuto : ∀ r, Orderly (jAuto r) := fun _ => by
    dsimp only [jAuto]
    split
    · exact Orderly.bind ⟨keeps_setAutoInstall _, steps_setAutoInstall _⟩ hNotify
    · exact hNotify ()
  have hEnv : ∀ r, Orderly (jEnv r) := fun _ => by
    dsimp only [jEnv]
    split
    · split
      · exact Orderly.bind ⟨keeps_clearEnvironment, steps_clearEnvironment⟩ hAuto
      · exact Orderly.bind ⟨keeps_setEnvironment _, steps_setEnvironment _⟩ hAuto
    · exact hAuto ()
  have hHost : ∀ r, Orderly (jHost r) := fun _ => by
    dsimp only [jHost]
    split
    · exact Orderly.bind ⟨keeps_setHost _, steps_setHost _⟩ hEnv
    · exact hEnv ()
  have hRoot : ∀ r, Orderly (jRoot r) := fun _ => by
    dsimp only [jRoot]
    split
    · exact Orderly.bind ⟨keeps_setWorkspaceRoot _, steps_setWorkspaceRoot _⟩ hHost
    · exact hHost ()
  split
  · exact Orderly.bind ⟨keeps_setBackend _, steps_setBackend _⟩ hRoot
  · exact hRoot ()

/-- A new configuration is in shape over a store whose last environments are roots: the host is
trimmed, the environment is normalised or else the host's last one, and the root is checked. -/
theorem newConfig_good {d : Defaults} {o : SessionOptions} {store : Identity.Store}
    (hs : store.LastRooted) {c : SessionConfig} (hc : newConfig d o store = .ok c) :
    Good ⟨c, store⟩ := by
  simp only [newConfig] at hc
  cases hb : backendOf (o.backend.getD d.backend) with
  | error p =>
    rw [hb] at hc
    cases hc
  | ok b =>
    cases hr : workspaceRootOf (o.workspaceRoot.getD d.workspaceRoot) with
    | error p =>
      rw [hb, hr] at hc
      cases hc
    | ok root =>
      rw [hb, hr] at hc
      cases hc
      refine ⟨⟨Text.trimBlanks_trimmed _, ?_, workspaceRootOf_shaped hr⟩, hs⟩
      dsimp only
      split
      · exact .inr ⟨_, ‹_›⟩
      · split
        · exact .inl rfl
        · exact hs _

end Keeping

/-! ## Runs of calls -/

/-- A call of the session API on a configuration. -/
inductive Call where
  | setHost (host : String)
  | setEnvironment (raw : String)
  | clearEnvironment
  | setWorkspaceRoot (path : String)
  | setBackend (name : String)
  | setAutoInstall (v : Bool)
  | setNotifyOnStart (v : Bool)
  | apply (o : SessionOptions)

/-- What a call does; whether `apply` asks for a restart does not matter here. -/
def Call.op : Call → Op ConfigState Unit
  | .setHost host => ConfigState.setHost host
  | .setEnvironment raw => ConfigState.setEnvironment raw
  | .clearEnvironment => ConfigState.clearEnvironment
  | .setWorkspaceRoot path => ConfigState.setWorkspaceRoot path
  | .setBackend name => ConfigState.setBackend name
  | .setAutoInstall v => ConfigState.setAutoInstall v
  | .setNotifyOnStart v => ConfigState.setNotifyOnStart v
  | .apply o => do let _ ← ConfigState.apply o

/-- The configuration after each call in turn, whether it returned or stopped. -/
def runCalls (s : ConfigState) (calls : List Call) : ConfigState :=
  calls.foldl (fun s call => after call.op s) s

theorem orderly_op : ∀ call : Call, Orderly call.op
  | .setHost host => ⟨keeps_setHost host, steps_setHost host⟩
  | .setEnvironment raw => ⟨keeps_setEnvironment raw, steps_setEnvironment raw⟩
  | .clearEnvironment => ⟨keeps_clearEnvironment, steps_clearEnvironment⟩
  | .setWorkspaceRoot path => ⟨keeps_setWorkspaceRoot path, steps_setWorkspaceRoot path⟩
  | .setBackend name => ⟨keeps_setBackend name, steps_setBackend name⟩
  | .setAutoInstall v => ⟨keeps_setAutoInstall v, steps_setAutoInstall v⟩
  | .setNotifyOnStart v => ⟨keeps_setNotifyOnStart v, steps_setNotifyOnStart v⟩
  | .apply o => (orderly_apply o).bind fun _ => Orderly.pure ()

/-- Every run of calls keeps the settings in shape, one call at a time. -/
theorem good_runCalls : ∀ (calls : List Call) {s : ConfigState}, Good s → Good (runCalls s calls)
  | [], _, h => h
  | call :: calls, _, h => good_runCalls calls ((orderly_op call).keeps _ h)

/-- A call that moves the host, the environment or the backend, and returns or fails with an
error, forgets the cached check. -/
theorem lastChecked_of_moved (call : Call) {s s' : ConfigState} (h : Ends call.op s s')
    (hm : s'.config.settings.host ≠ s.config.settings.host ∨
      s'.config.settings.environment ≠ s.config.settings.environment ∨
      s'.config.settings.backend ≠ s.config.settings.backend) :
    s'.config.cache.lastChecked = "" := by
  rcases (orderly_op call).steps s s' h with hc | ⟨hh, he, hb, -⟩
  · exact hc
  · rcases hm with hm | hm | hm <;> contradiction

/-- Settings made from any defaults and options, over a store whose last environments are
roots, keep their shape through every sequence of calls, however each call ends: the host is
trimmed, the environment is empty or a normalised root that ends in none of the pieces
normalisation strips, the workspace root is empty or absolute with no trailing slash unless it
is `/`, and the backend is one of the three. A call that changes the host, the environment or
the backend, and returns or fails with an error, leaves no check cached. -/
theorem settings_keep_shape (d : Defaults) (o : SessionOptions) {store : Identity.Store}
    (hs : store.LastRooted) {c : SessionConfig} (hc : newConfig d o store = .ok c)
    (calls : List Call) :
    ((runCalls ⟨c, store⟩ calls).config.settings.Shaped ∧
      Path.Bare (runCalls ⟨c, store⟩ calls).config.settings.environment ∧
      (runCalls ⟨c, store⟩ calls).config.settings.backend.name ∈ ["pyright", "ty", "pylsp"]) ∧
    ∀ (call : Call) (s s' : ConfigState), Ends call.op s s' →
      (s'.config.settings.host ≠ s.config.settings.host ∨
        s'.config.settings.environment ≠ s.config.settings.environment ∨
        s'.config.settings.backend ≠ s.config.settings.backend) →
      s'.config.cache.lastChecked = "" := by
  have hg := good_runCalls calls (newConfig_good hs hc)
  exact ⟨⟨hg.1, hg.1.bare, Backend.name_mem _⟩, fun call _ _ h hm => lastChecked_of_moved call h hm⟩

/-- A host given with blanks and an interpreter path, then calls that pick another host, set an
environment with trailing slashes, and apply a backend and a root with a trailing slash. -/
theorem settings_keep_shape_sample :
    let store := Identity.Store.load ⟨[], [], none⟩
    let c : SessionConfig :=
      { settings := { host := "h1", environment := "/srv/venv" }, allowPrompt := false, cache := {} }
    let st := (runCalls ⟨c, store⟩ [.setHost "h2", .setEnvironment "/opt/env/bin/python3//",
      .apply { backend := some "ty", workspaceRoot := some "/srv/proj/" }]).config.settings
    store.LastRooted ∧
      newConfig { backend := "pyright" }
        { host := some " h1 ", environment := some "/srv/venv/bin/python" } store = .ok c ∧
      (st.Shaped ∧ Path.Bare st.environment ∧ st.backend.name ∈ ["pyright", "ty", "pylsp"]) ∧
      ∀ (call : Call) (s s' : ConfigState), Ends call.op s s' →
        (s'.config.settings.host ≠ s.config.settings.host ∨
          s'.config.settings.environment ≠ s.config.settings.environment ∨
          s'.config.settings.backend ≠ s.config.settings.backend) →
        s'.config.cache.lastChecked = "" := by
  intro store c st
  have hs : store.LastRooted := (Identity.Store.load_wf rfl rfl).lastRooted
  have hc : newConfig { backend := "pyright" }
      { host := some " h1 ", environment := some "/srv/venv/bin/python" } store = .ok c := by
    decide +kernel
  exact ⟨hs, hc, settings_keep_shape _ _ hs hc _⟩

/-- A store whose document gives an interpreter as a host's last environment hands it to a new
session as it is: the session's environment then ends in `/bin/python3`. -/
theorem newConfig_keeps_stored_interpreter :
    newConfig { backend := "pyright" } { host := some "h1" }
        (Identity.Store.load ⟨[(Identity.historyFile, "\x7b\"h1\": \x7b\"envs\": " ++
          "[\"/opt/venv/bin/python3\"], \"last_env\": \"/opt/venv/bin/python3\"\x7d\x7d")], [], none⟩) =
      .ok { settings := { host := "h1", environment := "/opt/venv/bin/python3" },
            allowPrompt := false, cache := {} } ∧
    ¬ Path.Bare "/opt/venv/bin/python3" := by
  constructor
  · decide +kernel
  · decide +kernel

end Session.ConfigState

end RemoteLsp
