import RemoteLsp.Proofs.SharedChecks
import RemoteLsp.Proofs.SettingsShape
import RemoteLsp.Proofs.Turns

/-!
# Vouched validations

A backend is known to run on a host and an environment in two ways: the identity store holds the
environment valid for the backend on the host, or a check of that backend, host and environment
detected it. A session remembers in its cache the key it last found runnable; while that key is
its settings' own, the session *passes* them, and an enable answers true at once. Every true
answer of an enable leaves or reads a pass: the enable the store answered leaves one, so does
the waiter a successful check wakes, and a later enable answers from it.

Each turn of the loop is seen from the state `d₀` it starts in (`Vouched`): the store holds
valid only what `d₀`'s held or the turn vouches for (`V`), and every pass was a pass of the same
backend, host and environment in `d₀`, is of settings `d₀`'s store held valid, or is one the turn
vouches for by validation (`V`) or by key (`K`). A turn vouches for something only when it runs
the successful detection at the head of the queue: for the validation of the checked settings,
and for passes of their key.

Two spellings make a pass worth less than that. A key joins the backend, host and environment
with `|`, so a host holding a `|` can give two settings one key, and the check of one passes the
other. And a failed key is remembered with `:missing` after it, which is itself the key of an
environment whose path ends so: the failure of one environment reads as the pass of the other
(`Settings.looksMissing`).

Main statement: `validations_vouched`.
-/

namespace RemoteLsp

/-! ## Settings, passes and validations -/

/-- The backend, host and environment of settings: what a check of them checks. -/
def Settings.checked (st : Settings) : Backend × String × String :=
  (st.backend, st.host, st.environment)

theorem Settings.validationKey_congr {st st' : Settings} (h : st.checked = st'.checked) :
    st.validationKey = st'.validationKey := by
  simp only [Settings.checked, Prod.mk.injEq] at h
  simp only [Settings.validationKey, h.1, h.2.1, h.2.2]

theorem Settings.validationKey_ne_empty (st : Settings) : st.validationKey ≠ "" := by
  intro h
  have hl := congrArg String.toList h
  rw [Settings.toList_validationKey] at hl
  simp at hl

/-- Settings whose key ends like a failure mark, so that the failure of another key reads as
their pass. -/
def Settings.looksMissing (st : Settings) : Bool := Text.endsWith st.validationKey missingSuffix

theorem Settings.looksMissing_of_eq {st : Settings} {k : String}
    (h : st.validationKey = k ++ missingSuffix) : st.looksMissing = true := by
  rw [Settings.looksMissing, h, Text.endsWith, List.isPrefixOf_iff_prefix, String.toList_append,
    List.reverse_append]
  exact List.prefix_append _ _

theorem Backend.colon_not_mem_name (b : Backend) : ':' ∉ b.name.toList := by
  cases b <;> decide

/-- The store's key names its backend and host: a backend's name holds no colon. -/
theorem Identity.Store.validationKey_inj {b b' : Backend} {h h' : String}
    (hk : Identity.Store.validationKey b.name h = Identity.Store.validationKey b'.name h') :
    b = b' ∧ h = h' := by
  have hl := congrArg String.toList hk
  simp only [Identity.Store.validationKey, String.toList_append] at hl
  obtain ⟨hb, hh⟩ := eq_of_append_separator (Backend.colon_not_mem_name b)
    (Backend.colon_not_mem_name b') (by simpa using hl)
  exact ⟨Backend.name_injective (String.toList_inj.mp hb), String.toList_inj.mp hh⟩

namespace Session

/-- The configuration's cache passes its own settings: the key it last found runnable is
theirs. -/
def SessionConfig.Passes (c : SessionConfig) : Prop := c.cache.lastChecked = c.settings.validationKey

/-- A cache that remembers no key passes nothing. -/
theorem SessionConfig.not_passes_of_empty {c : SessionConfig} (h : c.cache.lastChecked = "") :
    ¬ c.Passes := fun hp => c.settings.validationKey_ne_empty (hp.symm.trans h)

end Session

namespace Identity.Store

/-- The store holds the environment of the settings valid for their backend on their host. -/
def holds (s : Store) (st : Settings) : Bool :=
  s.isValid (validationKey st.backend.name st.host) st.environment

/-- Remembering an environment leaves the validations, and whether a history is read. -/
theorem remember_keeps {s s' : Store} {host env : String} (h : s.remember host env = .ok s') :
    s'.valid = s.valid ∧ s'.history.isSome = s.history.isSome := by
  unfold remember at h
  split at h
  · cases h
    exact ⟨rfl, rfl⟩
  · split at h
    · cases h
      exact ⟨rfl, rfl⟩
    · split at h
      · cases h
      · next hist hh =>
        cases h
        simp [saveHistory, hh]

/-- With a history read, remembering an environment never fails. -/
theorem remember_ok {s : Store} (hh : s.history.isSome = true) (host env : String) :
    ∃ s', s.remember host env = .ok s' := by
  obtain ⟨hist, hs⟩ := Option.isSome_iff_exists.mp hh
  unfold remember
  split
  · exact ⟨s, rfl⟩
  · split
    · exact ⟨s, rfl⟩
    · rw [hs]
      exact ⟨_, rfl⟩

/-- Marking an environment valid under a key adds that validation and no other. -/
theorem isValid_of_markValid {s s' : Store} {key env : String} (h : s.markValid key env = .ok s')
    {k e : String} (hv : s'.isValid k e = true) : (k = key ∧ e = env) ∨ s.isValid k e = true := by
  unfold markValid at h
  split at h
  · cases h
  · next valid hs =>
    cases h
    by_cases hk : k = key
    · subst hk
      by_cases he : e = env
      · exact .inl ⟨rfl, he⟩
      · right
        cases hm : valid.get? k with
        | none =>
          simp only [isValid, saveValidation, Assoc.get?_put, if_pos, hm, Option.getD_none,
            Option.bind_some, he, if_false] at hv
          simp [Assoc.get?] at hv
        | some m => simpa [isValid, saveValidation, Assoc.get?_put, he, hm, hs] using hv
    · right
      simpa [isValid, saveValidation, hs, Assoc.get?_put, hk] using hv

theorem markValid_history {s s' : Store} {key env : String} (h : s.markValid key env = .ok s') :
    s'.history = s.history := by
  unfold markValid at h
  split at h
  · cases h
  · cases h
    rfl

end Identity.Store

/-! ## Configuration calls vouch for nothing -/

namespace Session.ConfigState

variable {α β : Type} {cs₁ cs₂ cs₃ : ConfigState}

/-- A tidy change passes only what it passed: a cache that keeps its key keeps the backend, host
and environment. -/
theorem Tidy.passes (h : Tidy cs₁ cs₂) (hp : cs₂.config.Passes) :
    cs₁.config.Passes ∧ cs₁.config.settings.checked = cs₂.config.settings.checked := by
  rcases h with h | ⟨hh, he, hb, hc⟩
  · exact absurd hp (SessionConfig.not_passes_of_empty h)
  · have hk : cs₁.config.settings.checked = cs₂.config.settings.checked := by
      simp only [Settings.checked, hh, he, hb]
    refine ⟨?_, hk⟩
    unfold SessionConfig.Passes at hp ⊢
    rw [← hc, hp]
    exact (Settings.validationKey_congr hk).symm

/-- From `cs` to `cs'`: a history is still read, the store holds valid nothing it did not, and
the cache is tidy. -/
structure Unvouched (cs cs' : ConfigState) : Prop where
  history : cs'.store.history.isSome = true
  store : ∀ key env, cs'.store.isValid key env = true → cs.store.isValid key env = true
  tidy : Tidy cs cs'

theorem Unvouched.refl (h : cs₁.store.history.isSome = true) : Unvouched cs₁ cs₁ :=
  ⟨h, fun _ _ hv => hv, Tidy.refl cs₁⟩

theorem Unvouched.trans (h₁ : Unvouched cs₁ cs₂) (h₂ : Unvouched cs₂ cs₃) : Unvouched cs₁ cs₃ :=
  ⟨h₂.history, fun key env hv => h₁.store key env (h₂.store key env hv), h₁.tidy.trans h₂.tidy⟩

/-- Every state the operation ends in, whether it returns or stops, is unvouched from the one it
started in, when a history was read there. -/
def Unvouching (op : Op ConfigState α) : Prop :=
  ∀ cs : ConfigState, cs.store.history.isSome = true →
    (∀ a cs', op.run cs = .ok a cs' → Unvouched cs cs') ∧
      ∀ e cs', op.run cs = .error e cs' → Unvouched cs cs'

theorem run_attempt (op : Op ConfigState α) (cs : ConfigState) :
    (Op.attempt op).run cs = match op.run cs with
      | .ok a s => .ok (.ok a) s
      | .error (.failed p) s => .ok (.error p) s
      | .error (.fault m) s => .error (.fault m) s := by
  simp only [Op.attempt, EStateM.run, tryCatch, tryCatchThe, MonadExceptOf.tryCatch,
    EStateM.tryCatch, EStateM.map]
  cases op cs with
  | ok a s => rfl
  | error e s => cases e <;> rfl

namespace Unvouching

theorem pure (a : α) : Unvouching (Pure.pure a : Op ConfigState α) := fun _ h =>
  ⟨(fun _ _ hr => by cases hr; exact Unvouched.refl h), (fun _ _ hr => by cases hr)⟩

theorem bind {x : Op ConfigState α} {f : α → Op ConfigState β} (hx : Unvouching x)
    (hf : ∀ a, Unvouching (f a)) : Unvouching (x >>= f) := by
  intro cs h
  obtain ⟨hok, herr⟩ := hx cs h
  rw [EStateM.run_bind]
  cases hr : x.run cs with
  | ok a cs' =>
    have h₁ := hok a cs' hr
    obtain ⟨hok', herr'⟩ := hf a cs' h₁.history
    exact ⟨fun b cs'' hr' => h₁.trans (hok' b cs'' hr'),
      fun e cs'' hr' => h₁.trans (herr' e cs'' hr')⟩
  | error e cs' =>
    refine ⟨(fun _ _ hr' => by cases hr'), fun _ _ hr' => ?_⟩
    cases hr'
    exact herr e cs' hr

/-- An operation that returns having changed only the configuration, with a tidy cache, or
stops with an error where it started. -/
theorem of_config {op : Op ConfigState α} (hs : Steps Tidy op)
    (h : ∀ cs, (∃ a c, op.run cs = .ok a { cs with config := c }) ∨
      ∃ p, op.run cs = .error (.failed p) cs) : Unvouching op := by
  intro cs hh
  rcases h cs with ⟨a, c, hr⟩ | ⟨p, hr⟩
  · rw [hr]
    refine ⟨fun _ _ h' => ?_, (fun _ _ h' => by cases h')⟩
    cases h'
    exact ⟨hh, fun _ _ hv => hv, hs cs _ (.inl ⟨a, hr⟩)⟩
  · rw [hr]
    refine ⟨(fun _ _ h' => by cases h'), fun _ _ h' => ?_⟩
    cases h'
    exact Unvouched.refl hh

/-- Catching the errors of an operation leaves the states it ends in as they were. -/
theorem attempt {op : Op ConfigState α} (h : Unvouching op) : Unvouching (Op.attempt op) := by
  intro cs hh
  obtain ⟨hok, herr⟩ := h cs hh
  rw [run_attempt]
  cases hr : op.run cs with
  | ok a s =>
    dsimp only
    exact ⟨(fun _ _ h' => by cases h'; exact hok a s hr), (fun _ _ h' => by cases h')⟩
  | error e s =>
    cases e with
    | failed p =>
      dsimp only
      exact ⟨(fun _ _ h' => by cases h'; exact herr _ s hr), (fun _ _ h' => by cases h')⟩
    | fault m =>
      dsimp only
      exact ⟨(fun _ _ h' => by cases h'), (fun _ _ h' => by cases h'; exact herr _ s hr)⟩

end Unvouching

theorem unvouching_current : Unvouching current :=
  Unvouching.of_config orderly_current.steps fun cs => .inl ⟨_, cs.config, run_current cs⟩

theorem unvouching_allowPrompt (v : Bool) :
    Unvouching (update fun c => { c with allowPrompt := v }) :=
  Unvouching.of_config (orderly_allowPrompt v).steps fun cs => .inl ⟨(), _, run_update _ cs⟩

theorem unvouching_setHost (host : String) : Unvouching (setHost host) := by
  refine Unvouching.of_config (steps_setHost host) fun cs => .inl ?_
  by_cases hh : Text.trimBlanks host = cs.config.settings.host
  · exact ⟨(), cs.config, by rw [run_setHost, if_pos hh]⟩
  · exact ⟨(), _, by rw [run_setHost, if_neg hh]⟩

theorem unvouching_clearEnvironment : Unvouching clearEnvironment := by
  refine Unvouching.of_config steps_clearEnvironment fun cs => .inl ?_
  by_cases he : cs.config.settings.environment = ""
  · exact ⟨(), cs.config, by rw [run_clearEnvironment, if_pos he]⟩
  · exact ⟨(), _, by rw [run_clearEnvironment, if_neg he]⟩

theorem unvouching_setWorkspaceRoot (path : String) : Unvouching (setWorkspaceRoot path) := by
  refine Unvouching.of_config (steps_setWorkspaceRoot path) fun cs => ?_
  cases h : workspaceRootOf path with
  | ok root => exact .inl ⟨(), _, by rw [run_setWorkspaceRoot, h]⟩
  | error p => exact .inr ⟨p, by rw [run_setWorkspaceRoot, h]⟩

theorem unvouching_setBackend (name : String) : Unvouching (setBackend name) := by
  refine Unvouching.of_config (steps_setBackend name) fun cs => ?_
  cases h : backendOf name with
  | ok b =>
    by_cases hb : b = cs.config.settings.backend
    · exact .inl ⟨(), cs.config, by rw [run_setBackend, h]; simp only [if_pos hb]⟩
    · exact .inl ⟨(), _, by rw [run_setBackend, h]; simp only [if_neg hb]; rfl⟩
  | error p => exact .inr ⟨p, by rw [run_setBackend, h]⟩

theorem unvouching_setAutoInstall (v : Bool) : Unvouching (setAutoInstall v) :=
  Unvouching.of_config (steps_setAutoInstall v) fun cs => .inl ⟨(), _, run_setFlag _ cs⟩

theorem unvouching_setNotifyOnStart (v : Bool) : Unvouching (setNotifyOnStart v) :=
  Unvouching.of_config (steps_setNotifyOnStart v) fun cs => .inl ⟨(), _, run_setFlag _ cs⟩

/-- Choosing an environment remembers it, which a read history allows, and forgets the cached
check; an empty path is refused before anything changes. -/
theorem unvouching_setEnvironment (raw : String) : Unvouching (setEnvironment raw) := by
  intro cs hh
  rw [run_setEnvironment]
  cases hn : Path.normalizeEnvironment raw with
  | none =>
    dsimp only
    exact ⟨(fun _ _ h' => by cases h'), (fun _ _ h' => by cases h'; exact Unvouched.refl hh)⟩
  | some env =>
    -- the new settings are kept with the store's history, and the cache forgets its key
    have reset : ∀ st : Identity.Store, st.valid = cs.store.valid → st.history.isSome = true →
        Unvouched cs { config := { cs.config with
          settings := { cs.config.settings with environment := env },
          cache := cs.config.cache.reset }, store := st } := fun st hv hs =>
      ⟨hs, fun k e h => by simpa [Identity.Store.isValid, hv] using h, .inl rfl⟩
    dsimp only
    split
    · exact ⟨(fun _ _ h' => by cases h'; exact reset cs.store rfl hh), (fun _ _ h' => by cases h')⟩
    · obtain ⟨st, hst⟩ := Identity.Store.remember_ok hh cs.config.settings.host env
      obtain ⟨hv, hs⟩ := Identity.Store.remember_keeps hst
      rw [hst]
      dsimp only
      exact ⟨(fun _ _ h' => by cases h'; exact reset st hv (hs.trans hh)),
        (fun _ _ h' => by cases h')⟩

/-- Applying options is each call in turn, skipped where the option is absent. -/
theorem unvouching_apply (o : SessionOptions) : Unvouching (apply o) := by
  unfold apply
  refine unvouching_current.bind fun c => ?_
  extract_lets before jDone jPrompt jNotify jAuto jEnv jHost jRoot
  -- the continuations, from the last step back to the first
  have hDone : ∀ r, Unvouching (jDone r) := fun _ =>
    unvouching_current.bind fun _ => Unvouching.pure _
  have hPrompt : ∀ r, Unvouching (jPrompt r) := fun _ => by
    dsimp only [jPrompt]
    split
    · exact (unvouching_allowPrompt _).bind hDone
    · exact hDone ()
  have hNotify : ∀ r, Unvouching (jNotify r) := fun _ => by
    dsimp only [jNotify]
    split
    · exact (unvouching_setNotifyOnStart _).bind hPrompt
    · exact hPrompt ()
  have hAuto : ∀ r, Unvouching (jAuto r) := fun _ => by
    dsimp only [jAuto]
    split
    · exact (unvouching_setAutoInstall _).bind hNotify
    · exact hNotify ()
  have hEnv : ∀ r, Unvouching (jEnv r) := fun _ => by
    dsimp only [jEnv]
    split
    · split
      · exact unvouching_clearEnvironment.bind hAuto
      · exact (unvouching_setEnvironment _).bind hAuto
    · exact hAuto ()
  have hHost : ∀ r, Unvouching (jHost r) := fun _ => by
    dsimp only [jHost]
    split
    · exact (unvouching_setHost _).bind hEnv
    · exact hEnv ()
  have hRoot : ∀ r, Unvouching (jRoot r) := fun _ => by
    dsimp only [jRoot]
    split
    · exact (unvouching_setWorkspaceRoot _).bind hHost
    · exact hHost ()
  split
  · exact (unvouching_setBackend _).bind hRoot
  · exact hRoot ()

/-- No call of the session API on a configuration vouches for anything. -/
theorem unvouching_call : ∀ call : Call, Unvouching call.op
  | .setHost host => unvouching_setHost host
  | .setEnvironment raw => unvouching_setEnvironment raw
  | .clearEnvironment => unvouching_clearEnvironment
  | .setWorkspaceRoot path => unvouching_setWorkspaceRoot path
  | .setBackend name => unvouching_setBackend name
  | .setAutoInstall v => unvouching_setAutoInstall v
  | .setNotifyOnStart v => unvouching_setNotifyOnStart v
  | .apply o => (unvouching_apply o).bind fun _ => Unvouching.pure ()

end Session.ConfigState

/-! ## Passes backed from the state a turn starts in -/

namespace Daemon

open Identity

variable {V : String → String → Prop} {K : String → Prop} {d₀ d : State} {i j : Nat} {α β : Type}

/-- A pass of settings `st` at instance `i`, seen from `d₀`: the instance passed the same
backend, host and environment there, `d₀`'s store held them valid, their validation is vouched
for (`V`) or their key is (`K`), or their key reads as a failure mark. -/
def Backed (V : String → String → Prop) (K : String → Prop) (d₀ : State) (i : Nat)
    (st : Settings) : Prop :=
  (∃ s₀ : Instance, d₀.instances[i]? = some s₀ ∧ s₀.cfg.Passes ∧
      s₀.cfg.settings.checked = st.checked) ∨
    d₀.store.holds st = true ∨ V (Store.validationKey st.backend.name st.host) st.environment ∨
    K st.validationKey ∨ st.looksMissing = true

/-- Whether a pass is backed depends only on the backend, host and environment passed. -/
theorem Backed.congr {st st' : Settings} (h : Backed V K d₀ i st) (hc : st.checked = st'.checked) :
    Backed V K d₀ i st' := by
  have hk := Settings.validationKey_congr hc
  have hc' := hc
  simp only [Settings.checked, Prod.mk.injEq] at hc'
  obtain ⟨hb, hh, he⟩ := hc'
  rcases h with ⟨s₀, hs₀, hp, hc₀⟩ | h | h | h | h
  · exact .inl ⟨s₀, hs₀, hp, hc₀.trans hc⟩
  · exact .inr (.inl (by simpa only [Store.holds, hb, hh, he] using h))
  · exact .inr (.inr (.inl (by simpa only [hb, hh, he] using h)))
  · exact .inr (.inr (.inr (.inl (hk ▸ h))))
  · exact .inr (.inr (.inr (.inr (by simpa only [Settings.looksMissing, hk] using h))))

/-- From `d₀` to `d`: the world stays not live, a history is still read, the store holds valid
only what `d₀`'s held or `V` vouches for, and every pass is backed from `d₀`. -/
structure Vouched (V : String → String → Prop) (K : String → Prop) (d₀ d : State) : Prop where
  live : d.world.live = none
  history : d.store.history.isSome = true
  store : ∀ key env, d.store.isValid key env = true → d₀.store.isValid key env = true ∨ V key env
  passes : ∀ i s, d.instances[i]? = some s → s.cfg.Passes → Backed V K d₀ i s.cfg.settings

namespace Vouched

theorem refl (hl : d.world.live = none) (hh : d.store.history.isSome = true) : Vouched V K d d :=
  ⟨hl, hh, fun _ _ hv => .inl hv, fun _ s hs hp => .inl ⟨s, hs, hp, rfl⟩⟩

/-- A change elsewhere than in the store, the instances and the world's liveness. -/
theorem frame {d' : State} (h : Vouched V K d₀ d) (hl : d'.world.live = d.world.live)
    (hs : d'.store = d.store) (hi : d'.instances = d.instances) : Vouched V K d₀ d' where
  live := hl.trans h.live
  history := by rw [hs]; exact h.history
  store := by rw [hs]; exact h.store
  passes := by rw [hi]; exact h.passes

/-- Changing instance `j` so that it passes only what it passed, or what is backed. -/
theorem setInstance (h : Vouched V K d₀ d) {f : Instance → Instance}
    (hf : ∀ s, d.instances[j]? = some s → (f s).cfg.Passes →
      (s.cfg.Passes ∧ s.cfg.settings.checked = (f s).cfg.settings.checked) ∨
        Backed V K d₀ j (f s).cfg.settings) :
    Vouched V K d₀ { d with instances := updateAt d.instances j f } where
  live := h.live
  history := h.history
  store := h.store
  passes i s' hs' hp := by
    rw [getElem?_updateAt] at hs'
    cases hs : d.instances[i]? with
    | none => simp [hs] at hs'
    | some s =>
      simp only [hs, Option.map_some, Option.some.injEq] at hs'
      split at hs'
      · next hij =>
        subst hij hs'
        rcases hf s hs hp with ⟨hp₀, hc⟩ | hb
        · exact (h.passes i s hs hp₀).congr hc
        · exact hb
      · subst hs'
        exact h.passes i s hs hp

/-- Changing the store to one that validates nothing new but what `V` vouches for. -/
theorem setStore (h : Vouched V K d₀ d) {st : Store} (hh : st.history.isSome = true)
    (hs : ∀ key env, st.isValid key env = true → d.store.isValid key env = true ∨ V key env) :
    Vouched V K d₀ { d with store := st } where
  live := h.live
  history := hh
  store key env hv := (hs key env hv).elim (h.store key env) .inr
  passes := h.passes

/-- A new instance that passes nothing. -/
theorem addInstance (h : Vouched V K d₀ d) {s : Instance} (hs : ¬ s.cfg.Passes) :
    Vouched V K d₀ { d with instances := d.instances ++ [s] } where
  live := h.live
  history := h.history
  store := h.store
  passes i s' hs' hp := by
    rcases getElem?_append_singleton_eq_some.mp hs' with hs' | ⟨-, rfl⟩
    · exact h.passes i s' hs' hp
    · exact absurd hp hs

end Vouched

/-- The operation vouches for no more than `V` and `K`: from every state vouched for from `d₀`,
it leaves one vouched for from `d₀`. -/
def Vouching (V : String → String → Prop) (K : String → Prop) (op : M α) : Prop :=
  ∀ d₀, Keeps (Vouched V K d₀) op

theorem Keeps.and {P Q : State → Prop} {op : M α} (hp : Keeps P op) (hq : Keeps Q op) :
    Keeps (fun d => P d ∧ Q d) op := fun d h => ⟨hp d h.1, hq d h.2⟩

namespace Vouching

theorem pure (a : α) : Vouching V K (Pure.pure a : M α) := fun _ => Keeps.pure a

theorem bind {x : M α} {f : α → M β} (hx : Vouching V K x) (hf : ∀ a, Vouching V K (f a)) :
    Vouching V K (x >>= f) := fun d₀ => (hx d₀).bind fun a => hf a d₀

theorem forM {xs : List α} {f : α → M PUnit} (h : ∀ x, Vouching V K (f x)) :
    Vouching V K (xs.forM f) :=
  forM_of_bind (P := fun op => Vouching V K op) pure bind h

/-- A loop whose body vouches for no more on each element it runs on. -/
theorem forM_mem {xs : List α} {f : α → M PUnit} (h : ∀ x ∈ xs, Vouching V K (f x)) :
    Vouching V K (xs.forM f) := by
  induction xs with
  | nil => exact pure PUnit.unit
  | cons x xs ih =>
    exact (h x List.mem_cons_self).bind fun _ => ih fun y hy => h y (List.mem_cons_of_mem _ hy)

theorem forIn {xs : List α} {b : β} {f : α → β → M (ForInStep β)}
    (h : ∀ x b, Vouching V K (f x b)) : Vouching V K (forIn xs b f) :=
  forIn_of_bind (P := fun op => Vouching V K op) pure bind h

/-- An operation that, in a world that is not live, returns having left the store, the instances
and the liveness of the world as they were. -/
theorem of_run {op : M α}
    (h : ∀ d, d.world.live = none → ∃ a d', op.run d = .ok a d' ∧
      d'.world.live = d.world.live ∧ d'.store = d.store ∧ d'.instances = d.instances) :
    Vouching V K op := by
  intro d₀ d hd
  obtain ⟨a, d', hr, hl, hs, hi⟩ := h d hd.live
  rw [after_eq_of_run_ok hr]
  exact hd.frame hl hs hi

/-- A read of the state. -/
theorem of_read {op : M α} (h : ∀ d, ∃ a, op.run d = .ok a d) : Vouching V K op :=
  of_run fun d _ => (h d).elim fun a hr => ⟨a, d, hr, rfl, rfl, rfl⟩

/-- A change of the world elsewhere than in its liveness. -/
theorem of_world {op : M α} (h : ∀ d, d.world.live = none → ∃ a w,
    op.run d = .ok a { d with world := w } ∧ w.live = d.world.live) : Vouching V K op :=
  of_run fun d hl => (h d hl).elim fun a ⟨_, hr, hlw⟩ => ⟨a, _, hr, hlw, rfl, rfl⟩

theorem attempt {op : M α} (h : Vouching V K op) : Vouching V K (Op.attempt op) := fun d₀ =>
  (h d₀).attempt

theorem fail (p : Problem) : Vouching V K (Op.fail p : M α) := fun _ _ hd => hd

theorem fault (m : String) : Vouching V K (Op.fault m : M α) := fun _ _ hd => hd

end Vouching

/-! ## Reads and effects on the world and the store -/

section Effects

theorem vouch_get : Vouching V K (get : M State) := Vouching.of_read fun d => ⟨d, rfl⟩

theorem vouch_getServer (n : Nat) : Vouching V K (getServer n) :=
  Vouching.of_read fun d => ⟨_, run_getServer n d⟩

theorem vouch_getInstance (j : Nat) : Vouching V K (getInstance j) :=
  Vouching.of_read fun d => ⟨_, run_getInstance j d⟩

theorem vouch_nameOf (sid : Nat) : Vouching V K (nameOf sid) :=
  Vouching.of_read fun d => ⟨_, run_nameOf sid d⟩

theorem vouch_sidOf (j : Nat) : Vouching V K (sidOf j) :=
  Vouching.of_read fun d => ⟨_, run_sidOf j d⟩

theorem vouch_configOf (j : Nat) : Vouching V K (configOf j) :=
  Vouching.of_read fun d => ⟨_, run_configOf j d⟩

theorem vouch_getKey (key : String) : Vouching V K (getKey key) :=
  Vouching.of_read fun d => ⟨_, run_getKey key d⟩

theorem vouch_setKey (key : String) (ks : KeyState) : Vouching V K (setKey key ks) :=
  Vouching.of_run fun d _ => ⟨(), _, run_setKey key ks d, rfl, rfl, rfl⟩

theorem vouch_updateWorld (f : World → World) (hl : ∀ w, (f w).live = w.live) :
    Vouching V K (updateWorld f) :=
  Vouching.of_world fun d _ => ⟨(), _, run_updateWorld f d, hl _⟩

theorem vouch_emit (e : Event) : Vouching V K (emit e) := vouch_updateWorld _ fun _ => by rfl

theorem vouch_post (t : Task) : Vouching V K (post t) := vouch_updateWorld _ fun _ => by rfl

theorem vouch_addCount (name : String) (n : Nat) : Vouching V K (addCount name n) :=
  Vouching.of_run fun d _ => ⟨(), _, run_addCount name n d, rfl, rfl, rfl⟩

theorem vouch_count (name : String) : Vouching V K (count name) := vouch_addCount name 1

theorem vouch_replyWith (r : Reply) : Vouching V K (replyWith r) := by
  refine Vouching.of_world fun d _ => ⟨(), _, run_replyWith r d, ?_⟩
  split <;> rfl

theorem vouch_report (sid : Nat) (severity : Severity) (m : String) :
    Vouching V K (report sid severity m) :=
  Vouching.of_world fun _ hl => ⟨(), _, run_report hl sid severity m, rfl⟩

theorem vouch_writeLog (sid : Nat) (pfx text : String) : Vouching V K (writeLog sid pfx text) := by
  refine Vouching.of_run fun d hl => ⟨(), _, run_writeLog hl sid pfx text, ?_, ?_, ?_⟩ <;>
    split <;> rfl

theorem vouch_editorNotify (sid : Nat) (method params : String) :
    Vouching V K (editorNotify sid method params) :=
  Vouching.of_world fun _ hl => ⟨_, _, run_editorNotify hl sid method params, rfl⟩

theorem vouch_editorCall (sid : Nat) (method params : String) :
    Vouching V K (editorCall sid method params) :=
  Vouching.of_world fun _ hl => ⟨_, _, run_editorCall hl sid method params, rfl⟩

theorem vouch_serverCall (n : Nat) (method params : String) :
    Vouching V K (serverCall n method params) :=
  Vouching.of_world fun _ hl => ⟨_, _, run_serverCall hl n method params, rfl⟩

theorem vouch_serverNotify (n : Nat) (method params : String) :
    Vouching V K (serverNotify n method params) :=
  Vouching.of_world fun _ hl => ⟨_, _, run_serverNotify hl n method params, rfl⟩

theorem vouch_serverStop (n : Nat) : Vouching V K (serverStop n) :=
  Vouching.of_world fun _ hl => ⟨_, _, run_serverStop hl n, rfl⟩

theorem vouch_toEditor (host payload : String) : Vouching V K (toEditor host payload) :=
  vouch_get.bind fun _ => (vouch_addCount _ _).bind fun _ =>
    (vouch_addCount _ _).bind fun _ => Vouching.pure _

theorem vouch_toServer (payload : String) : Vouching V K (toServer payload) :=
  vouch_get.bind fun _ => (vouch_addCount _ _).bind fun _ =>
    (vouch_addCount _ _).bind fun _ => Vouching.pure _

theorem vouch_lookup (sid : Nat) : Vouching V K (lookup sid) := by
  intro d₀ d hd
  cases hs : openInstance d sid with
  | some j =>
    rw [after_eq_of_run_ok (run_lookup_some hs)]
    exact hd
  | none =>
    obtain ⟨e, he⟩ := run_lookup_none hs
    simpa [after, he] using hd

/-- Marking an environment valid under a key, for a validation `V` vouches for. -/
theorem vouch_markValid {key env : String} (hv : V key env) : Vouching V K (markValid key env) := by
  intro d₀ d hd
  simp only [markValid, after_get_bind]
  cases hm : d.store.markValid key env with
  | ok s =>
    show Vouched V K d₀ { d with store := s }
    refine hd.setStore (by rw [Store.markValid_history hm]; exact hd.history) fun k e hve => ?_
    rcases Store.isValid_of_markValid hm hve with ⟨rfl, rfl⟩ | h
    · exact .inr hv
    · exact .inl h
  | error m => exact hd

/-- Remembering an environment validates nothing and keeps the history read. -/
theorem vouch_remember (host env : String) : Vouching V K (remember host env) := by
  intro d₀ d hd
  simp only [remember, after_get_bind]
  cases hr : d.store.remember host env with
  | ok s =>
    show Vouched V K d₀ { d with store := s }
    obtain ⟨hv, hs⟩ := Store.remember_keeps hr
    exact hd.setStore (hs.trans hd.history) fun key env h =>
      .inl (by simpa only [Store.isValid, hv] using h)
  | error m => exact hd

theorem vouch_setServer (n : Nat) (f : Server → Server) : Vouching V K (setServer n f) :=
  Vouching.of_run fun d _ => ⟨(), _, run_setServer n f d, rfl, rfl, rfl⟩

theorem vouch_takeHold : Vouching V K takeHold :=
  Vouching.of_world fun d _ => ⟨_, _, run_takeHold d, rfl⟩

theorem vouch_launch (j sid : Nat) (host name script root : String) (st : Settings)
    (held : Bool) : Vouching V K (launch j sid host name script root st held) := by
  refine Vouching.of_run fun d hl => ?_
  rw [run_launch hl]
  split
  · exact ⟨_, _, rfl, rfl, rfl, rfl⟩
  · exact ⟨_, _, rfl, rfl, rfl, rfl⟩

theorem vouch_runRemote (sid : Nat) (host script : String) (timeoutMs : Int) (next : RunNext) :
    Vouching V K (runRemote sid host script timeoutMs next) := by
  refine Vouching.of_run fun d hl => ?_
  cases hr : d.world.scriptedRuns with
  | nil =>
    simp only [runRemote, EStateM.run_bind, EStateM.run_get, run_updateWorld, run_emit, hl, hr]
    exact ⟨_, _, rfl, by simp, rfl, rfl⟩
  | cons res rest =>
    simp only [runRemote, EStateM.run_bind, EStateM.run_get, run_updateWorld, run_emit, hl, hr,
      run_post]
    exact ⟨_, _, rfl, by simp, rfl, rfl⟩

theorem vouch_askInput (sid : Nat) (kind text preset : String) (choices : List String)
    (next : InputNext) : Vouching V K (askInput sid kind text preset choices next) := by
  refine Vouching.of_run fun d hl => ?_
  cases hi : d.world.scriptedInputs with
  | nil =>
    simp only [askInput, EStateM.run_bind, run_freshPrompt, run_emit, run_live, hl,
      EStateM.run_get, hi, run_updateWorld]
    exact ⟨_, _, rfl, by simp, rfl, rfl⟩
  | cons answer rest =>
    simp only [askInput, EStateM.run_bind, run_freshPrompt, run_emit, run_live, hl,
      EStateM.run_get, hi, run_updateWorld, run_post]
    exact ⟨_, _, rfl, by simp, rfl, rfl⟩

theorem vouch_askConfirm (sid : Nat) (message : String) (actions : List String) (a : Attempt) :
    Vouching V K (askConfirm sid message actions a) := by
  refine Vouching.of_run fun d hl => ?_
  cases hc : d.world.scriptedConfirms with
  | nil =>
    simp only [askConfirm, EStateM.run_bind, run_freshPrompt, run_emit, run_live, hl,
      EStateM.run_get, hc, run_updateWorld]
    exact ⟨_, _, rfl, by simp, rfl, rfl⟩
  | cons answer rest =>
    simp only [askConfirm, EStateM.run_bind, run_freshPrompt, run_emit, run_live, hl,
      EStateM.run_get, hc, run_updateWorld, run_post]
    exact ⟨_, _, rfl, by simp, rfl, rfl⟩

end Effects

/-! ## Instances, caches and timers -/

section Instances

/-- Changing an instance elsewhere than in its configuration. -/
theorem vouch_setInstance (j : Nat) (f : Instance → Instance) (hf : ∀ s, (f s).cfg = s.cfg) :
    Vouching V K (setInstance j f) := fun _ d hd => by
  rw [after_setInstance]
  exact hd.setInstance fun s _ hp => .inl ⟨hf s ▸ hp, by rw [hf]⟩

/-- Changing an instance's cache so that it passes a key only where it passed it, where `K`
vouches for the key, or where the key reads as a failure mark. -/
theorem vouch_updateCache (j : Nat) (f : ValidationCache → ValidationCache)
    (hf : ∀ (st : Settings) c, (f c).lastChecked = st.validationKey →
      c.lastChecked = st.validationKey ∨ K st.validationKey ∨ st.looksMissing = true) :
    Vouching V K (updateCache j f) := fun _ d hd => by
  rw [after_updateCache]
  refine hd.setInstance fun s _ hp => ?_
  rcases hf s.cfg.settings s.cfg.cache hp with h | h | h
  · exact .inl ⟨h, rfl⟩
  · exact .inr (.inr (.inr (.inr (.inl h))))
  · exact .inr (.inr (.inr (.inr (.inr h))))

/-- Setting whether an instance has asked the user keeps its pass. -/
theorem vouch_prompted (j : Nat) (b : Bool) :
    Vouching V K (updateCache j fun c => { c with prompted := b }) :=
  vouch_updateCache j _ fun _ _ h => .inl h

/-- Marking a key as failed passes only settings whose key reads as that mark. -/
theorem vouch_markMissing (j : Nat) (k : String) :
    Vouching V K (updateCache j fun c => { c with lastChecked := k ++ missingSuffix }) :=
  vouch_updateCache j _ fun _ _ h => .inr (.inr (Settings.looksMissing_of_eq h.symm))

/-- A configuration operation that vouches for nothing changes only the instance's
configuration and the store. -/
theorem vouch_withConfig (j : Nat) {op : Op Session.ConfigState α}
    (hop : Session.ConfigState.Unvouching op) (fallback : α) :
    Vouching V K (withConfig j op fallback) := by
  intro d₀ d hd
  -- however the operation ends, its configuration and store are kept
  have keep : ∀ s cs, d.instances[j]? = some s → Session.ConfigState.Unvouched ⟨s.cfg, d.store⟩ cs →
      Vouched V K d₀ { d with
        instances := updateAt d.instances j (fun s => { s with cfg := cs.config })
        store := cs.store } := by
    intro s cs hs hu
    refine (hd.setInstance fun s' hs' hp => ?_).setStore hu.history fun key env hv =>
      .inl (hu.store key env hv)
    obtain rfl : s' = s := Option.some.inj (hs'.symm.trans hs)
    exact .inl (hu.tidy.passes hp)
  simp only [withConfig, after, EStateM.run_bind, EStateM.run_get]
  cases hs : d.instances[j]? with
  | none => simpa using hd
  | some s =>
    obtain ⟨hok, herr⟩ := hop ⟨s.cfg, d.store⟩ hd.history
    cases hr : op.run ⟨s.cfg, d.store⟩ with
    | ok a cs => simpa [hr] using keep s cs hs (hok a cs hr)
    | error e cs =>
      simp only [hr]
      exact keep s cs hs (herr e cs hr)

theorem vouch_stopTimer (id : Nat) : Vouching V K (stopTimer id) :=
  Vouching.of_run fun d _ => ⟨(), _, run_stopTimer id d, rfl, rfl, rfl⟩

theorem vouch_afterMs (ms : Nat) (action : TimerAction) : Vouching V K (afterMs ms action) :=
  Vouching.of_run fun d _ => ⟨_, _, run_afterMs ms action d, rfl, rfl, rfl⟩

end Instances

/-! ## Servers' queues and documents -/

section Queues

theorem vouch_deliver (n : Nat) (m : Outgoing) : Vouching V K (deliver n m) := by
  cases m with
  | handshake params =>
    refine (vouch_serverCall n _ params).bind fun a => (vouch_getServer n).bind fun o => ?_
    cases o with
    | none => exact Vouching.pure ()
    | some srv => exact vouch_post _
  | notify method params => exact vouch_serverNotify n method params
  | request method params =>
    refine (vouch_serverCall n method params).bind fun a => ?_
    cases a with
    | error e => exact vouch_replyWith _
    | rpcError c e => exact vouch_replyWith _
    | result raw =>
      exact (vouch_getServer n).bind fun _ => (vouch_toEditor _ raw).bind fun _ =>
        vouch_replyWith _

theorem vouch_enqueue (n : Nat) (m : Outgoing) : Vouching V K (enqueue n m) := by
  refine (vouch_getServer n).bind fun o => ?_
  cases o with
  | none => exact Vouching.pure ()
  | some srv =>
    dsimp only
    split
    · exact vouch_setServer n _
    · exact vouch_deliver n m

theorem vouch_send (n : Nat) (method params : String) : Vouching V K (send n method params) :=
  vouch_enqueue n _

theorem vouch_sendOpen (n : Nat) (doc : Document) : Vouching V K (sendOpen n doc) := by
  refine vouch_get.bind fun d => ?_
  split
  · exact vouch_send n _ _
  · exact Vouching.pure ()

theorem vouch_release (n : Nat) : Vouching V K (release n) := by
  refine (vouch_getServer n).bind fun o => ?_
  cases o with
  | none => exact Vouching.pure 0
  | some srv =>
    dsimp only
    exact (vouch_setServer n _).bind fun _ => (Vouching.forM (vouch_deliver n)).bind fun _ =>
      Vouching.pure _

theorem vouch_relayFromServer (n : Nat) (method params : String) (isCall : Bool) :
    Vouching V K (relayFromServer n method params isCall) := by
  refine (vouch_getServer n).bind fun o => ?_
  cases o with
  | none => exact Vouching.pure none
  | some srv =>
    dsimp only
    split
    · exact Vouching.pure _
    · split
      · split <;> exact Vouching.pure _
      · refine (vouch_toEditor _ _).bind fun p => ?_
        split
        · exact (vouch_editorNotify _ _ _).bind fun _ => Vouching.pure none
        · refine (vouch_editorCall _ _ _).bind fun a => ?_
          cases a with
          | result raw => exact (vouch_toServer raw).bind fun _ => Vouching.pure _
          | error e => exact Vouching.pure _
          | rpcError c e => exact Vouching.pure _

theorem vouch_forgetOtherHosts (j : Nat) : Vouching V K (forgetOtherHosts j) := by
  unfold forgetOtherHosts
  refine (vouch_getInstance j).bind fun o => ?_
  rcases o with _ | s
  · exact Vouching.pure _
  · exact vouch_get.bind fun _ => vouch_setInstance j _ fun _ => by rfl

theorem vouch_didChange (sid : Nat) (uri : String) (version : Int) (text : String) :
    Vouching V K (didChange sid uri version text) := by
  unfold didChange
  refine (vouch_lookup sid).bind fun j => (vouch_getInstance j).bind fun o => ?_
  rcases o with _ | s
  · exact Vouching.pure _
  dsimp only
  split
  · exact Vouching.pure _
  refine (vouch_setInstance j _ fun _ => by rfl).bind fun _ => ?_
  split
  · refine vouch_get.bind fun _ => ?_
    split
    · exact vouch_send _ _ _
    · exact Vouching.pure _
  · exact Vouching.pure _

theorem vouch_didClose (sid : Nat) (uri : String) : Vouching V K (didClose sid uri) := by
  unfold didClose
  refine (vouch_lookup sid).bind fun j => (vouch_getInstance j).bind fun o => ?_
  rcases o with _ | s
  · exact Vouching.pure _
  dsimp only
  split
  · exact Vouching.pure _
  refine (vouch_setInstance j _ fun _ => by rfl).bind fun _ => ?_
  split
  · refine vouch_get.bind fun _ => ?_
    split
    · exact vouch_send _ _ _
    · exact Vouching.pure _
  · exact Vouching.pure _

theorem vouch_request (sid : Nat) (method params : String) :
    Vouching V K (request sid method params) := by
  unfold request
  refine vouch_get.bind fun _ => ?_
  split
  · exact (Vouching.of_read fun _ => ⟨_, rfl⟩).bind fun _ => vouch_replyWith _
  · refine (vouch_getInstance _).bind fun o => ?_
    rcases o with _ | s
    · exact Vouching.pure _
    dsimp only
    split
    · exact vouch_replyWith _
    · exact (vouch_toServer _).bind fun _ => vouch_enqueue _ _

theorem vouch_notify (sid : Nat) (method params : String) :
    Vouching V K (notify sid method params) := by
  unfold notify
  refine (vouch_lookup sid).bind fun j => (vouch_getInstance j).bind fun o => ?_
  rcases o with _ | s
  · exact Vouching.pure _
  dsimp only
  split
  · exact Vouching.fail _
  · exact (vouch_toServer _).bind fun _ => vouch_send _ _ _

end Queues

/-! ## Starting servers and checking backends

A check vouches for something only where it succeeds (`vouched_succeed`); its failures mark the
key as failed, and an enable the store answers passes settings the store holds valid.
-/

section Start

theorem vouch_start (j : Nat) (root : String) : Vouching V K (start j root) := by
  unfold start
  refine (vouch_getInstance j).bind fun o => ?_
  rcases o with _ | s
  · exact Vouching.pure _
  refine (vouch_setInstance j _ fun _ => by rfl).bind fun _ =>
    vouch_takeHold.bind fun _ => (vouch_launch _ _ _ _ _ _ _ _).bind fun res => ?_
  cases res with
  | error m =>
    exact (vouch_report _ _ _).bind fun _ => vouch_setInstance j _ fun _ => by rfl
  | ok n =>
    exact (vouch_setServer n _).bind fun _ => (vouch_setInstance j _ fun _ => by rfl).bind fun _ =>
      (vouch_count _).bind fun _ => vouch_enqueue n _

theorem vouch_resolveRoot (j g : Nat) : Vouching V K (resolveRoot j g) := by
  unfold resolveRoot
  refine (vouch_getInstance j).bind fun o => ?_
  rcases o with _ | s
  · exact Vouching.pure _
  refine vouch_get.bind fun _ => ?_
  dsimp only
  split
  · exact vouch_start j _
  all_goals repeat' split
  all_goals first | exact vouch_start j _ | exact vouch_runRemote _ _ _ _ _

theorem vouch_rootFound (j g : Nat) (dir : String) (res : Shell.RunResult) :
    Vouching V K (rootFound j g dir res) := by
  unfold rootFound
  refine (vouch_getInstance j).bind fun o => ?_
  rcases o with _ | s
  · exact Vouching.pure _
  dsimp only
  split
  · exact Vouching.pure _
  · exact vouch_start j _

theorem vouch_enableDone (j g : Nat) (ok : Bool) : Vouching V K (enableDone j g ok) := by
  unfold enableDone
  refine (vouch_getInstance j).bind fun o => ?_
  rcases o with _ | s
  · exact Vouching.pure _
  dsimp only
  split
  · exact Vouching.pure _
  split
  · exact vouch_setInstance j _ fun _ => by rfl
  · exact vouch_resolveRoot j g

/-- Waking a waiter passes its key only where the outcome failed, which marks the key, or where
`K` vouches for it. -/
theorem vouch_wake (w : Waiter) (ok : Bool) (hk : ok = true → K w.key) :
    Vouching V K (wake w ok) := by
  refine (vouch_updateCache _ _ fun st _ h => ?_).bind fun _ => vouch_enableDone _ _ _
  cases ok
  · have h' : w.key ++ missingSuffix = st.validationKey := by simpa using h
    exact .inr (.inr (Settings.looksMissing_of_eq h'.symm))
  · have h' : w.key = st.validationKey := by simpa using h
    exact .inr (.inl (h' ▸ hk rfl))

/-- A check that failed tells its waiters so. -/
theorem vouch_resolve_false (a : Attempt) : Vouching V K (resolve a false) := by
  unfold resolve
  refine (vouch_getKey _).bind fun _ => ?_
  dsimp only
  split
  · exact (vouch_count _).bind fun _ => (vouch_setKey _ _).bind fun _ =>
      Vouching.forM fun w => vouch_wake w false (by simp)
  · exact (vouch_setKey _ _).bind fun _ => Vouching.forM fun w => vouch_wake w false (by simp)

/-- Settling a check's key wakes its waiters, each of which asked with that key: the outcome
passes the key only where `K` vouches for it. -/
theorem vouched_resolve (a : Attempt) (ok : Bool) (hk : ok = true → K a.key)
    (hd : Vouched V K d₀ d) (hm : KeysMatch d) : Vouched V K d₀ (after (resolve a ok) d) := by
  have hw : ∀ w ∈ ((Assoc.get? d.keys a.key).getD ⟨.unchecked, []⟩).waiters,
      ok = true → K w.key := by
    intro w hw hok
    cases hks : Assoc.get? d.keys a.key with
    | none => simp [hks] at hw
    | some ks =>
      rw [hks, Option.getD_some] at hw
      rw [hm.waiters _ (Assoc.mem_of_get? hks) w hw]
      exact hk hok
  have hrest : Vouching V K (setKey a.key ⟨if ok then .valid else .missing, []⟩ >>= fun _ =>
      ((Assoc.get? d.keys a.key).getD ⟨.unchecked, []⟩).waiters.forM fun w => wake w ok) :=
    (vouch_setKey _ _).bind fun _ => Vouching.forM_mem fun w hw' => vouch_wake w ok (hw w hw')
  simp only [resolve, after_getKey_bind]
  cases ok
  · simp only [Bool.not_false, if_true, after_count_bind]
    exact hrest d₀ _ (hd.frame rfl rfl rfl)
  · simp only [Bool.not_true, Bool.false_eq_true, if_false]
    exact hrest d₀ d hd

theorem vouch_fail (a : Attempt) (severity : Severity) (message : String) (res : Shell.RunResult) :
    Vouching V K (fail a severity message res) := by
  unfold fail
  refine (vouch_sidOf _).bind fun _ => (vouch_report _ _ _).bind fun _ => ?_
  dsimp only
  split
  · exact (vouch_writeLog _ _ _).bind fun _ => vouch_resolve_false a
  · exact vouch_resolve_false a

/-- A check that succeeds validates its settings and passes its key, for everyone waiting under
it: where `V` vouches for the one and `K` for the other, the state stays vouched for. -/
theorem vouched_succeed (a : Attempt)
    (hv : V (Store.validationKey a.settings.backend.name a.settings.host) a.settings.environment)
    (hk : K a.key) : Keeps (fun d => Vouched V K d₀ d ∧ KeysMatch d) (succeed a) := by
  -- counting, validating and remembering keep the keys, so the waiters are those of the start
  unfold succeed
  exact ((vouch_count _ d₀).and (matched_of_settled (settled_count _))).bind fun _ =>
    ((vouch_markValid hv d₀).and (matched_of_settled (settled_markValid _ _))).bind fun _ =>
      ((vouch_remember _ _ d₀).and (matched_of_settled (settled_remember _ _))).bind fun _ =>
        fun d h => ⟨vouched_resolve a true (fun _ => hk) h.1 h.2, matched_resolve a true d h.2⟩

theorem vouch_handOff (a : Attempt) : Vouching V K (handOff a) :=
  (vouch_getKey _).bind fun _ => (vouch_setKey _ _).bind fun _ =>
    Vouching.forM fun w => vouch_wake w false (by simp)

theorem vouch_runFor (a : Attempt) (script : String) (timeoutMs : Int) (next : RunNext) :
    Vouching V K (runFor a script timeoutMs next) :=
  (vouch_sidOf _).bind fun _ => vouch_runRemote _ _ _ _ _

theorem vouch_install (a : Attempt) : Vouching V K (install a) :=
  (vouch_sidOf _).bind fun _ => (vouch_report _ _ _).bind fun _ => vouch_runFor _ _ _ _

theorem vouch_confirmInstall (a : Attempt) : Vouching V K (confirmInstall a) :=
  (vouch_sidOf _).bind fun _ => vouch_askConfirm _ _ _ _

theorem vouch_interpreterMissing (a : Attempt) (res : Shell.RunResult) :
    Vouching V K (interpreterMissing a res) := by
  unfold interpreterMissing
  refine (vouch_configOf _).bind fun _ => ?_
  dsimp only
  split
  · exact (vouch_prompted _ _).bind fun _ => vouch_get.bind fun _ =>
      (vouch_sidOf _).bind fun _ => vouch_askInput _ _ _ _ _ _
  · exact vouch_fail _ _ _ _

theorem vouch_promptHost (j g : Nat) : Vouching V K (promptHost j g) :=
  (vouch_prompted _ _).bind fun _ => (vouch_sidOf _).bind fun _ => vouch_get.bind fun _ =>
    vouch_askInput _ _ _ _ _ _

/-- An enable passes settings only where the store holds them valid; otherwise it answers from
the pass it has, marks the key as failed, or waits for a check. -/
theorem vouch_ensure (j g : Nat) (retried : Bool) : Vouching V K (ensure j g retried) := by
  intro d₀ d hd
  cases hs : d.instances[j]? with
  | none => simpa [ensure, hs] using hd
  | some s =>
    simp only [ensure, after_getInstance_bind, hs]
    split
    · exact vouch_enableDone j g true d₀ d hd
    split
    · exact vouch_enableDone j g false d₀ d hd
    split
    · split
      · exact vouch_promptHost j g d₀ d hd
      · exact ((vouch_markMissing j _).bind fun _ => (vouch_report _ _ _).bind fun _ =>
          vouch_enableDone j g false) d₀ d hd
    simp only [after_get_bind]
    split
    · next hv =>
      -- the store holds the settings valid, from the start of the turn or by `V`
      simp only [after_count_bind, after_updateCache_bind]
      refine vouch_enableDone j g true d₀ _ ((hd.setInstance fun s' hs' _ => ?_).frame rfl rfl rfl)
      obtain rfl : s' = s := Option.some.inj (hs'.symm.trans hs)
      rcases hd.store _ _ hv with h | h
      · exact .inr (.inr (.inl h))
      · exact .inr (.inr (.inr (.inl h)))
    simp only [after_getKey_bind]
    cases hk : Assoc.get? d.keys s.cfg.settings.validationKey with
    | some ks =>
      dsimp only
      split
      · exact vouch_setKey _ _ d₀ d hd
      · exact ((vouch_setKey _ _).bind fun _ => vouch_runFor _ _ _ _) d₀ d hd
    | none => exact ((vouch_setKey _ _).bind fun _ => vouch_runFor _ _ _ _) d₀ d hd

theorem vouch_afterExecutable (a : Attempt) (res : Shell.RunResult) :
    Vouching V K (afterExecutable a res) := by
  unfold afterExecutable
  split
  · exact vouch_runFor _ _ _ _
  split
  · exact vouch_fail _ _ _ _
  · exact vouch_runFor _ _ _ _

theorem vouch_afterVersion (a : Attempt) (res : Shell.RunResult) :
    Vouching V K (afterVersion a res) := by
  unfold afterVersion
  split
  · exact vouch_runFor _ _ _ _
  · exact vouch_interpreterMissing _ _

/-- A detection that did not find the backend fails the check, installs or asks to. -/
theorem vouch_afterDetect (a : Attempt) (installed : Bool) {res : Shell.RunResult}
    (hr : res.success = false) : Vouching V K (afterDetect a installed res) := by
  unfold afterDetect
  split
  · next h => exact absurd h (by simp [hr])
  split
  · exact vouch_fail _ _ _ _
  split
  · exact vouch_fail _ _ _ _
  split
  · exact (vouch_count _).bind fun _ => vouch_fail _ _ _ _
  split
  · exact vouch_install a
  · exact vouch_confirmInstall a

theorem vouch_afterInstall (a : Attempt) (res : Shell.RunResult) :
    Vouching V K (afterInstall a res) := by
  unfold afterInstall
  split
  · exact (vouch_count _).bind fun _ => vouch_fail _ _ _ _
  · exact (vouch_count _).bind fun _ => vouch_runFor _ _ _ _

theorem vouch_afterConfirm (a : Attempt) (choice : String) (ok : Bool) :
    Vouching V K (afterConfirm a choice ok) := by
  unfold afterConfirm
  split
  · exact (vouch_sidOf _).bind fun _ => (vouch_report _ _ _).bind fun _ => vouch_resolve_false a
  · exact vouch_install a

theorem vouch_afterHost (j g : Nat) (value : String) (cancelled : Bool) :
    Vouching V K (afterHost j g value cancelled) := by
  unfold afterHost
  refine (vouch_prompted _ _).bind fun _ => ?_
  split
  · exact (vouch_configOf _).bind fun _ => (vouch_markMissing _ _).bind fun _ =>
      vouch_enableDone _ _ _
  · exact (vouch_withConfig _ (Session.ConfigState.unvouching_setHost _) _).bind fun _ =>
      vouch_ensure _ _ _

theorem vouch_afterEnvironment (a : Attempt) (res : Shell.RunResult) (value : String)
    (cancelled : Bool) : Vouching V K (afterEnvironment a res value cancelled) := by
  unfold afterEnvironment
  refine (vouch_prompted _ _).bind fun _ => ?_
  dsimp only
  split
  · exact vouch_fail _ _ _ _
  refine (vouch_withConfig _ (Session.ConfigState.unvouching_setEnvironment _).attempt _).bind
    fun o => ?_
  split
  · exact vouch_fail _ _ _ _
  · exact (vouch_handOff a).bind fun _ => vouch_ensure _ _ _

end Start

/-! ## The lifecycle -/

section Lifecycle

theorem vouch_cancelReconnect (j : Nat) : Vouching V K (cancelReconnect j) := by
  unfold cancelReconnect
  refine (vouch_getInstance j).bind fun o => ?_
  rcases o with _ | s
  · exact Vouching.pure _
  dsimp only
  split
  · exact (vouch_stopTimer _).bind fun _ => vouch_setInstance j _ fun _ => by rfl
  · exact Vouching.pure _

theorem vouch_enable (j : Nat) : Vouching V K (enable j) := by
  unfold enable
  refine (vouch_getInstance j).bind fun o => ?_
  rcases o with _ | s
  · exact Vouching.pure _
  dsimp only
  split
  · exact Vouching.pure _
  split
  all_goals first
    | exact Vouching.pure _
    | exact (vouch_cancelReconnect j).bind fun _ =>
        (vouch_setInstance j _ fun _ => by rfl).bind fun _ => vouch_ensure _ _ _

theorem vouch_detach (j : Nat) : Vouching V K (detach j) := by
  unfold detach
  refine (vouch_getInstance j).bind fun o => ?_
  rcases o with _ | s
  · exact Vouching.pure _
  dsimp only
  split
  · exact Vouching.pure _
  · exact (vouch_setInstance j _ fun _ => by rfl).bind fun _ =>
      (vouch_setServer _ _).bind fun _ => vouch_serverStop _

theorem vouch_halt (j : Nat) : Vouching V K (halt j) :=
  (vouch_cancelReconnect j).bind fun _ => (vouch_detach j).bind fun _ =>
    vouch_setInstance j _ fun _ => by rfl

theorem vouch_crashed (j n : Nat) (status : ExitStatus) : Vouching V K (crashed j n status) := by
  unfold crashed
  refine (vouch_getInstance j).bind fun o => ?_
  rcases o with _ | s
  · exact Vouching.pure _
  refine (vouch_getServer n).bind fun o' => ?_
  rcases o' with _ | srv
  · exact Vouching.pure _
  dsimp only
  split
  · exact Vouching.pure _
  split
  · exact (vouch_setInstance j _ fun _ => by rfl).bind fun _ => (vouch_count _).bind fun _ =>
      vouch_report _ _ _
  · exact (vouch_setInstance j _ fun _ => by rfl).bind fun _ => (vouch_count _).bind fun _ =>
      vouch_get.bind fun _ => (vouch_report _ _ _).bind fun _ =>
        (vouch_afterMs _ _).bind fun _ => vouch_setInstance j _ fun _ => by rfl

theorem vouch_exited (j n : Nat) (status : ExitStatus) : Vouching V K (exited j n status) := by
  unfold exited
  refine (vouch_getInstance j).bind fun o => ?_
  rcases o with _ | s
  · exact Vouching.pure _
  refine (vouch_getServer n).bind fun o' => ?_
  rcases o' with _ | srv
  · exact Vouching.pure _
  dsimp only
  -- every branch changes the instance elsewhere than in its configuration, marks the server,
  -- counts the exit, and at the end of an abnormal exit of the current server crashes it
  repeat' first
    | exact Vouching.pure _
    | exact vouch_crashed j n status
    | exact vouch_setInstance j _ fun _ => by rfl
    | refine (vouch_setInstance j _ fun _ => by rfl).bind fun _ => ?_
    | refine (vouch_setServer n _).bind fun _ => ?_
    | refine (vouch_count _).bind fun _ => ?_
    | split

theorem vouch_reconnectFired (j g : Nat) (buffer : String) :
    Vouching V K (reconnectFired j g buffer) := by
  unfold reconnectFired
  refine (vouch_getInstance j).bind fun o => ?_
  rcases o with _ | s
  · exact Vouching.pure _
  dsimp only
  split
  · exact Vouching.pure _
  refine (vouch_setInstance j _ fun _ => by rfl).bind fun _ => ?_
  split
  · exact vouch_enable j
  · exact vouch_setInstance j _ fun _ => by rfl

/-- A restart forgets the instance's pass. -/
theorem vouch_restart (j : Nat) : Vouching V K (restart j) := by
  unfold restart
  refine (vouch_halt j).bind fun _ => (vouch_setInstance j _ fun _ => by rfl).bind fun _ =>
    (vouch_updateCache j _ (by exact fun st _ h => absurd h.symm st.validationKey_ne_empty)).bind fun _ =>
      (vouch_forgetOtherHosts j).bind fun _ => (vouch_getInstance j).bind fun o => ?_
  rcases o with _ | s
  · exact Vouching.pure _
  dsimp only
  split
  · exact vouch_enable j
  · exact Vouching.pure _

theorem vouch_restartSession (sid : Nat) : Vouching V K (restartSession sid) :=
  (vouch_lookup sid).bind fun j => vouch_restart j

theorem vouch_settingsChanged (sid : Nat) : Vouching V K (settingsChanged sid) := by
  unfold settingsChanged
  refine (vouch_lookup sid).bind fun j => (vouch_getInstance j).bind fun o => ?_
  rcases o with _ | s
  · exact Vouching.pure _
  dsimp only
  split
  · exact vouch_restart j
  · exact Vouching.pure _

theorem vouch_stopSession (sid : Nat) : Vouching V K (stopSession sid) :=
  (vouch_lookup sid).bind fun j => (vouch_halt j).bind fun _ =>
    vouch_setInstance j _ fun _ => by rfl

theorem vouch_closeSession (sid : Nat) : Vouching V K (closeSession sid) :=
  (vouch_lookup sid).bind fun j => (vouch_setInstance j _ fun _ => by rfl).bind fun _ =>
    (vouch_cancelReconnect j).bind fun _ => vouch_detach j

/-- A session opens with a configuration that passes nothing yet. -/
theorem vouch_openSession (sid : Nat) {cfg : Session.SessionConfig} (hc : ¬ cfg.Passes)
    (rootUri capabilities : String) : Vouching V K (openSession sid cfg rootUri capabilities) := by
  unfold openSession
  refine vouch_get.bind fun _ => ?_
  dsimp only
  have hadd : ∀ s : Instance, s.cfg = cfg →
      Vouching V K (modify fun d : State => { d with instances := d.instances ++ [s] }) :=
    fun s hs _ d hd => (hd.addInstance (hs ▸ hc : ¬ s.cfg.Passes))
  split
  case' isTrue => refine (vouch_nameOf sid).bind fun _ => (Vouching.fail _).bind fun _ => ?_
  -- a session already open stops the operation; otherwise its instance is added
  all_goals
    refine vouch_get.bind fun _ => (hadd _ rfl).bind fun _ => vouch_get.bind fun _ => ?_
    split
    · split
      · exact vouch_withConfig _ (Session.ConfigState.unvouching_setHost _) _
      · exact Vouching.pure _
    · exact Vouching.pure _

theorem vouch_didOpen (sid : Nat) (doc : Document) : Vouching V K (didOpen sid doc) := by
  unfold didOpen
  refine (vouch_lookup sid).bind fun j => vouch_get.bind fun _ => ?_
  split
  · refine (vouch_getInstance j).bind fun o => ?_
    rcases o with _ | s
    · exact Vouching.pure _
    dsimp only
    split
    case' isTrue =>
      refine (vouch_withConfig j (Session.ConfigState.unvouching_setHost _) _).bind fun _ => ?_
    case' isFalse => split; exact Vouching.pure _
    -- the document is recorded on the instance as it is now, and the instance enabled
    all_goals
      refine (vouch_getInstance j).bind fun o => ?_
      rcases o with _ | s
      · exact Vouching.pure _
      refine (vouch_setInstance j _ fun _ => by rfl).bind fun _ => ?_
      split
      · split
        · exact vouch_sendOpen _ _
        · exact Vouching.pure _
      all_goals first
        | exact vouch_enable j
        | exact Vouching.pure _
  · exact Vouching.pure _

theorem vouch_initialized (j n : Nat) (answer : Answer) :
    Vouching V K (initialized j n answer) := by
  unfold initialized
  refine (vouch_getInstance j).bind fun o => ?_
  rcases o with _ | s
  · exact Vouching.pure _
  refine (vouch_getServer n).bind fun o' => ?_
  rcases o' with _ | srv
  · exact Vouching.pure _
  dsimp only
  split
  · exact Vouching.pure _
  cases answer with
  | error e => exact (vouch_report _ _ _).bind fun _ => vouch_serverStop n
  | rpcError c e => exact (vouch_report _ _ _).bind fun _ => vouch_serverStop n
  | result v =>
    refine (vouch_setInstance j _ fun _ => by rfl).bind fun _ => (vouch_send _ _ _).bind fun _ =>
      vouch_get.bind fun _ => (Vouching.forIn fun uri _ => ?_).bind fun _ => ?_
    · split
      · split
        · exact (vouch_sendOpen _ _).bind fun _ => Vouching.pure _
        · exact Vouching.pure _
      · exact Vouching.pure _
    · split
      · exact vouch_report _ _ _
      · exact Vouching.pure _

end Lifecycle

/-! ## What the world does -/

section World

theorem vouch_completeRun (id? : Option Nat) (res : Shell.RunResult) :
    Vouching V K (completeRun id? res) := by
  unfold completeRun
  refine vouch_get.bind fun _ => ?_
  split <;> dsimp only <;> split
  all_goals first
    | exact Vouching.pure _
    | exact (vouch_updateWorld _ fun _ => by rfl).bind fun _ => (vouch_post _).bind fun _ =>
        Vouching.pure _

theorem vouch_answerInput (id? : Option Nat) (value : String) (cancelled : Bool) :
    Vouching V K (answerInput id? value cancelled) := by
  unfold answerInput
  refine vouch_get.bind fun _ => ?_
  split
  · exact (vouch_updateWorld _ fun _ => by rfl).bind fun _ => (vouch_post _).bind fun _ =>
      Vouching.pure _
  · exact Vouching.pure _

theorem vouch_answerConfirm (id? : Option Nat) (choice : String) (ok : Bool) :
    Vouching V K (answerConfirm id? choice ok) := by
  unfold answerConfirm
  refine vouch_get.bind fun _ => ?_
  split
  · exact (vouch_updateWorld _ fun _ => by rfl).bind fun _ => (vouch_post _).bind fun _ =>
      Vouching.pure _
  · exact Vouching.pure _

theorem vouch_serverExit (n? : Option Nat) (status : ExitStatus) :
    Vouching V K (serverExit n? status) := by
  unfold serverExit
  refine vouch_get.bind fun _ => ?_
  split
  · exact Vouching.pure _
  · refine (vouch_getServer _).bind fun o => ?_
    rcases o with _ | srv
    · exact Vouching.pure _
    dsimp only
    split
    · exact Vouching.pure _
    · exact (vouch_setServer _ _).bind fun _ => (vouch_post _).bind fun _ => Vouching.pure _

theorem vouch_serverSends (n? : Option Nat) (method params : String) (isCall : Bool) :
    Vouching V K (serverSends n? method params isCall) := by
  unfold serverSends serverMessage
  refine vouch_get.bind fun _ => ?_
  split
  · exact Vouching.pure _
  · refine Vouching.bind ((vouch_relayFromServer _ _ _ _).bind fun o => ?_) fun _ =>
      Vouching.pure _
    rcases o with _ | reply
    · exact Vouching.pure _
    · exact vouch_replyWith reply

theorem vouch_releaseServer (n? : Option Nat) : Vouching V K (releaseServer n?) := by
  unfold releaseServer
  refine vouch_get.bind fun _ => ?_
  split
  · exact Vouching.pure _
  · exact (vouch_release _).bind fun _ => Vouching.pure _

theorem vouch_fire (a : TimerAction) : Vouching V K (fire a) := by
  cases a with
  | reconnect j g buffer => exact vouch_post _
  | idle => exact vouch_emit _

theorem vouch_advance (ms : Nat) : Vouching V K (advance ms) := by
  unfold advance
  exact (vouch_updateWorld _ fun _ => by rfl).bind fun _ => vouch_get.bind fun _ =>
    (vouch_updateWorld _ fun _ => by rfl).bind fun _ =>
      (Vouching.forM fun (t : Timer) => vouch_fire t.action).bind fun _ => vouch_get.bind fun _ =>
        Vouching.pure _

end World

/-! ## Turns that vouch -/

section Turns

/-- The turns the session API takes: a session opens with a configuration that passes nothing
yet, and a configuration changes only by a call of the API. -/
def Turn.Honest : Turn → Prop
  | .input (.sessionOpen _ cfg _ _) => ¬ cfg.Passes
  | .input (.configChange _ change) => ∃ call : Session.ConfigState.Call, change = call.op
  | _ => True

/-- The check whose detection found the backend, run by a turn from `d`: the detection at the
head of the queue, when it succeeded. -/
def Turn.detected (d : State) : Turn → Option Attempt
  | .task (.ran (.detect a installed) res) =>
    if d.world.queue.head? = some (.ran (.detect a installed) res) ∧ res.success = true then some a
    else none
  | _ => none

theorem Turn.detected_eq_some {t : Turn} {a : Attempt} :
    t.detected d = some a ↔ ∃ installed res rest, t = .task (.ran (.detect a installed) res) ∧
      d.world.queue = .ran (.detect a installed) res :: rest ∧ res.success = true := by
  constructor
  · intro h
    unfold Turn.detected at h
    split at h
    · next a' installed res =>
      split at h
      · next hc =>
        cases h
        obtain ⟨hq, hs⟩ := hc
        -- the detection is the head of the queue
        cases hq' : d.world.queue with
        | nil => simp [hq'] at hq
        | cons t rest =>
          simp only [hq', List.head?_cons, Option.some.injEq] at hq
          exact ⟨installed, res, rest, rfl, hq ▸ rfl, hs⟩
      · cases h
    · cases h
  · rintro ⟨installed, res, rest, rfl, hq, hs⟩
    simp [Turn.detected, hq, hs]

/-- The validation a turn from `d` vouches for: that of the settings of the check whose
detection found the backend. -/
def Turn.Validates (d : State) (t : Turn) (key env : String) : Prop :=
  ∃ a, t.detected d = some a ∧ key = Store.validationKey a.settings.backend.name a.settings.host ∧
    env = a.settings.environment

/-- The key a turn from `d` vouches passes of: that of the check whose detection found the
backend. -/
def Turn.PassesKey (d : State) (t : Turn) (key : String) : Prop :=
  ∃ a, t.detected d = some a ∧ key = a.key

/-- Handling an input of the session API, as the API takes it, or of the world vouches for
nothing. -/
theorem handle_vouching (x : Input) (hx : (Turn.input x).Honest) : Vouching V K x.handle := by
  cases x with
  | sessionOpen sid cfg rootUri capabilities => exact vouch_openSession sid hx rootUri capabilities
  | sessionClose sid => exact vouch_closeSession _
  | docOpen sid doc => exact vouch_didOpen _ _
  | docChange sid uri version text => exact vouch_didChange _ _ _ _
  | docClose sid uri => exact vouch_didClose _ _
  | call sid method params => exact vouch_request _ _ _
  | notification sid method params => exact vouch_notify _ _ _
  | userRestart sid => exact vouch_restartSession _
  | userStop sid => exact vouch_stopSession _
  | configChange sid change =>
    obtain ⟨call, rfl⟩ := hx
    exact (vouch_lookup sid).bind fun _ =>
      vouch_withConfig _ (Session.ConfigState.unvouching_call call) _
  | settingsChange sid => exact vouch_settingsChanged _
  | runResult id? res => exact (vouch_completeRun _ _).bind fun _ => Vouching.pure _
  | inputAnswer id? value cancelled => exact (vouch_answerInput _ _ _).bind fun _ => Vouching.pure _
  | confirmAnswer id? choice ok => exact (vouch_answerConfirm _ _ _).bind fun _ => Vouching.pure _
  | exit n? status => exact (vouch_serverExit _ _).bind fun _ => Vouching.pure _
  | serverSays n? method params isCall =>
    exact (vouch_serverSends _ _ _ _).bind fun _ => Vouching.pure _
  | unhold n? => exact (vouch_releaseServer _).bind fun _ => Vouching.pure _
  | tick ms => exact (vouch_advance _).bind fun _ => Vouching.pure _
  | knownEnvironment host env => exact vouch_remember _ _
  -- the world's settings and scripts touch neither the store nor an instance
  | _ =>
    simp only [Input.handle, Input.op, scriptRuns, scriptInputs, scriptConfirms, setServerAnswer,
      setNotifyError, setEditorAnswer, setLaunchFailure, holdNextServer]
    exact vouch_updateWorld _ fun _ => by rfl

/-- Running a task other than a detection that found the backend vouches for nothing. -/
theorem runTask_vouching (t : Task)
    (ht : ∀ a installed res, t = .ran (.detect a installed) res → res.success = false) :
    Vouching V K (runTask t) := by
  cases t with
  | ran next res =>
    cases next with
    | executable a => exact vouch_afterExecutable a res
    | version a => exact vouch_afterVersion a res
    | detect a installed => exact vouch_afterDetect a installed (ht a installed res rfl)
    | install a => exact vouch_afterInstall a res
    | root j g dir => exact vouch_rootFound j g dir res
  | answered next value cancelled =>
    cases next with
    | host j g => exact vouch_afterHost j g value cancelled
    | environment a res => exact vouch_afterEnvironment a res value cancelled
  | confirmed a choice ok => exact vouch_afterConfirm a choice ok
  | initialized j n answer => exact vouch_initialized j n answer
  | exited j n status => exact vouch_exited j n status
  | reconnect j g buffer => exact vouch_reconnectFired j g buffer

theorem matched_handle (x : Input) : Keeps KeysMatch x.handle := by
  cases x with
  | sessionOpen sid cfg rootUri capabilities =>
    exact matched_of_settled (settled_openSession _ _ _ _)
  | sessionClose sid => exact matched_of_settled (settled_closeSession _)
  | docOpen sid doc => exact matched_didOpen _ _
  | docChange sid uri version text => exact matched_of_settled (settled_didChange _ _ _ _)
  | docClose sid uri => exact matched_of_settled (settled_didClose _ _)
  | call sid method params => exact matched_of_settled (settled_request _ _ _)
  | notification sid method params => exact matched_of_settled (settled_notify _ _ _)
  | userRestart sid => exact (matched_of_settled (settled_lookup sid)).bind fun i => matched_restart i
  | userStop sid => exact matched_of_settled (settled_stopSession _)
  | configChange sid change =>
    exact (matched_of_settled (settled_lookup sid)).bind fun _ => matched_withConfig _ _ _
  | settingsChange sid => exact matched_settingsChanged _
  -- the world's inputs are handled by their own operations
  | _ =>
    unfold Input.handle
    exact matched_op _

theorem matched_turn (t : Turn) : Keeps KeysMatch t.op := by
  cases t with
  | begin =>
    unfold Turn.op
    refine matched_of_settled (settled_updateWorld _ ?_ ?_ ?_ ?_ ?_ ?_) <;> intro _ <;> rfl
  | input x => exact matched_handle x
  | task t =>
    intro d h
    cases hq : d.world.queue with
    | nil => simpa [Turn.op, hq] using h
    | cons t' rest =>
      by_cases he : t' = t
      · subst he
        rw [after_task hq]
        obtain ⟨hpop, ht⟩ := h.pop hq
        exact matched_runTask ht _ hpop
      · simpa [Turn.op, hq, he] using h

theorem KeysMatch.turnsAfter (h : KeysMatch d) (ts : List Turn) : KeysMatch (turnsAfter d ts) := by
  induction ts generalizing d with
  | nil => exact h
  | cons t ts ih => exact ih (matched_turn t d h)

/-- A turn the session API takes, from a state whose keys match and whose store reads a
history, vouches for no more than the validation and the key of the check whose detection it
finds the backend with. -/
theorem turn_vouched (t : Turn) (ht : t.Honest) (hm : KeysMatch d)
    (hh : d.store.history.isSome = true) :
    Vouched (t.Validates d) (t.PassesKey d) d (after t.op d) := by
  have h₀ : Vouched (t.Validates d) (t.PassesKey d) d d := Vouched.refl hm.live hh
  cases t with
  | begin =>
    unfold Turn.op
    exact vouch_updateWorld _ (fun _ => by rfl) d d h₀
  | input x => exact handle_vouching x ht d d h₀
  | task t =>
    cases hq : d.world.queue with
    | nil => simpa [Turn.op, hq] using h₀
    | cons t' rest =>
      by_cases he : t' = t
      · subst he
        rw [after_task hq]
        have hpop : Vouched ((Turn.task t').Validates d) ((Turn.task t').PassesKey d) d
            { d with world := { d.world with queue := rest } } := h₀.frame rfl rfl rfl
        by_cases hs : ∃ a installed res, t' = .ran (.detect a installed) res ∧ res.success = true
        · -- the detection at the head of the queue found the backend: it vouches for its check
          obtain ⟨a, installed, res, rfl, hs⟩ := hs
          have hdet : (Turn.task (.ran (.detect a installed) res)).detected d = some a :=
            Turn.detected_eq_some.mpr ⟨installed, res, rest, rfl, hq, hs⟩
          have hrun : runTask (.ran (.detect a installed) res) = succeed a := by
            simp only [runTask, afterDetect, hs, ↓reduceIte]
          rw [hrun]
          exact (vouched_succeed a ⟨a, hdet, rfl, rfl⟩ ⟨a, hdet, rfl⟩ _ ⟨hpop, (hm.pop hq).1⟩).1
        · refine runTask_vouching t' (fun a installed res he' => ?_) d _ hpop
          cases hr : res.success
          · rfl
          · exact absurd ⟨a, installed, res, he', hr⟩ hs
      · simpa [Turn.op, hq, he] using h₀

end Turns

/-! ## Validations and passes over every run -/

/-- In every run, a turn taken as the session API takes it, from a state whose store reads a
history, validates an environment in the store only by running the task at the head of the queue
that answers a check's detection which found the backend: the validation is of the backend, host
and environment the check was started for, whose interpreter the detection ran. A session passes
settings after a turn, where it did not pass the same backend, host and environment before, only
where the store held them valid before the turn, where their key reads as the failure mark of
another key, or where the turn is such a detection, of a check with the same key: of the same
backend, host and environment unless a host holds a `|`. And a session waiting on a check under
way asked for the backend, host and environment the check checks, unless a host holds a `|`. -/
theorem validations_vouched (hd : Reaches d) (ts : List Turn) (t : Turn) (ht : t.Honest)
    (hh : (turnsAfter d ts).store.history.isSome = true) :
    (∀ key env, (turnsAfter d ts).store.isValid key env = false →
      (turnsAfter d (ts ++ [t])).store.isValid key env = true →
      ∃ a installed res rest, t = .task (.ran (.detect a installed) res) ∧
        (turnsAfter d ts).world.queue = .ran (.detect a installed) res :: rest ∧
        res.success = true ∧ key = Store.validationKey a.settings.backend.name a.settings.host ∧
        env = a.settings.environment ∧ a.python = interpreterPath a.settings.environment) ∧
    (∀ (i : Nat) (s : Instance), (turnsAfter d (ts ++ [t])).instances[i]? = some s →
      s.cfg.Passes →
      (∀ s₀ : Instance, (turnsAfter d ts).instances[i]? = some s₀ → s₀.cfg.Passes →
        s₀.cfg.settings.checked ≠ s.cfg.settings.checked) →
      (turnsAfter d ts).store.holds s.cfg.settings = true ∨ s.cfg.settings.looksMissing = true ∨
      ∃ a installed res rest, t = .task (.ran (.detect a installed) res) ∧
        (turnsAfter d ts).world.queue = .ran (.detect a installed) res :: rest ∧
        res.success = true ∧ a.settings.validationKey = s.cfg.settings.validationKey ∧
        ('|' ∉ s.cfg.settings.host.toList → '|' ∉ a.settings.host.toList →
          a.settings.checked = s.cfg.settings.checked)) ∧
    (∀ a ∈ checks (turnsAfter d ts), ∀ ks, Assoc.get? (turnsAfter d ts).keys a.key = some ks →
      ∀ w ∈ ks.waiters, ∀ st : Settings, w.key = st.validationKey → '|' ∉ st.host.toList →
        '|' ∉ a.settings.host.toList → st.checked = a.settings.checked) := by
  have hm : KeysMatch (turnsAfter d ts) := hd.keysMatch.turnsAfter ts
  have hv := turn_vouched t ht hm hh
  rw [turnsAfter_concat]
  refine ⟨fun key env hf htr => ?_, fun i s hs hp hne => ?_,
    fun a ha ks hks w hw st hst hh₁ hh₂ => ?_⟩
  · -- a validation the store did not hold is the one the turn's detection vouches for
    rcases hv.store key env htr with h | ⟨a, hdet, rfl, rfl⟩
    · rw [hf] at h
      cases h
    · obtain ⟨installed, res, rest, rfl, hq, hs⟩ := Turn.detected_eq_some.mp hdet
      exact ⟨a, installed, res, rest, rfl, hq, hs, rfl, rfl, ((hm.pop hq).2 a rfl).2⟩
  · -- a new pass is backed by the store, reads as a failure mark, or is the detection's
    rcases hv.passes i s hs hp with ⟨s₀, hs₀, hp₀, hc⟩ | h | ⟨a, hdet, hk, he⟩ | ⟨a, hdet, hk⟩ | h
    · exact absurd hc (hne s₀ hs₀ hp₀)
    · exact .inl h
    · -- the store's key names the backend and the host
      obtain ⟨installed, res, rest, rfl, hq, hsuc⟩ := Turn.detected_eq_some.mp hdet
      obtain ⟨hb, hhost⟩ := Store.validationKey_inj hk
      have hc : a.settings.checked = s.cfg.settings.checked := by
        simp only [Settings.checked, hb, hhost, he]
      exact .inr (.inr ⟨a, installed, res, rest, rfl, hq, hsuc, Settings.validationKey_congr hc,
        fun _ _ => hc⟩)
    · -- the check at the head of the queue checks the settings of its key
      obtain ⟨installed, res, rest, rfl, hq, hsuc⟩ := Turn.detected_eq_some.mp hdet
      have hkey : a.settings.validationKey = s.cfg.settings.validationKey :=
        ((hm.pop hq).2 a rfl).1.symm.trans hk.symm
      refine .inr (.inr ⟨a, installed, res, rest, rfl, hq, hsuc, hkey, fun h₁ h₂ => ?_⟩)
      obtain ⟨hb, hhost, henv⟩ := Settings.eq_of_validationKey_eq h₂ h₁ hkey
      simp only [Settings.checked, hb, hhost, henv]
    · exact .inr (.inl h)
  · obtain ⟨hb, hhost, henv⟩ := shared_check_same_settings hm ha hks hw hst hh₁ hh₂
    simp only [Settings.checked, hb, hhost, henv]

/-- A session on `h1` opens a buffer; the probe of its interpreter passes, and the detection
finds the backend. The turn that runs that answer validates the default environment for the
backend on `h1`, as the detection of those very settings. -/
theorem validations_vouched_detected :
    ∃ d, Reaches d ∧ ∃ (ts : List Turn) (t : Turn) (key env : String),
      (turnsAfter d ts).store.isValid key env = false ∧
      (turnsAfter d (ts ++ [t])).store.isValid key env = true ∧
      ∃ a installed res rest, t = .task (.ran (.detect a installed) res) ∧
        (turnsAfter d ts).world.queue = .ran (.detect a installed) res :: rest ∧
        res.success = true ∧ key = Store.validationKey a.settings.backend.name a.settings.host ∧
        env = a.settings.environment ∧ a.python = interpreterPath a.settings.environment := by
  let found : Shell.RunResult := ⟨true, [], [], 0, "", false, false⟩
  have hd := Reaches.step (.runResult none found)
    (Reaches.step (.docOpen 0 ⟨"scp://h1//srv/a.py", "python", 1, "x"⟩)
      (Reaches.step (.sessionOpen 0 ⟨{ host := "h1" }, false, {}⟩ "" "")
        (@Reaches.init {} ⟨[], [], none⟩ .numbered {} _ rfl rfl rfl rfl rfl)))
  let a : Attempt := ⟨0, 1, { host := "h1" }, "pyright|h1|", "python3", false⟩
  let ts : List Turn := [.begin, .input (.runResult none found)]
  let t : Turn := .task (.ran (.detect a false) found)
  -- the store before and after the turn is computed; where the validation came from is the
  -- theorem's
  refine ⟨_, hd, ts, t, "pyright:h1", "", ?before, ?after,
    (validations_vouched hd ts t trivial ?history).1 "pyright:h1" "" ?before ?after⟩
  case before => decide +kernel
  case after => decide +kernel
  case history => decide +kernel

end Daemon

end RemoteLsp
