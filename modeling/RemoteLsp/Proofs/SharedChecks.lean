import RemoteLsp.Proofs.StoreShape
import RemoteLsp.Proofs.CheckSequence

/-!
# Shared checks

Sessions whose settings have the same validation key share one check: the first to ask starts
the check of its settings, the others wait on the key, and the check's outcome answers all of
them. The key joins the backend's name, the host and the environment with `|`.

In every reachable state each waiter waits under the key it asked with, and each check under
way checks the settings its key was computed from, with the interpreter of their environment
(`KeysMatch`). Keys are written only where a
check settles them, which empties their waiters, and where an enable asks for its settings'
key, which puts the enable's waiter under that key and starts the check of those very settings.
Every other operation leaves the keys and the checks alone, or moves a check between the world
and the loop.

So, in every reachable state (`Reaches.keysMatch`), a session waiting on a check asked with the
key of the checked settings (`waiter_key_of_check`). No backend's name holds a `|`; where neither
host does, the key names its backend, host and environment, and a session answered by a check
asked for exactly the backend, host and environment that were checked
(`shared_check_same_settings`). A host holding a `|` can give two settings one key, and then the
check of one answers the other.
-/

namespace RemoteLsp

/-! ## Keys name their settings -/

/-- Two texts that each run up to a first separator split there alike. -/
theorem eq_of_append_separator {c : Char} {x x' y y' : List Char} (hx : c ∉ x) (hx' : c ∉ x')
    (h : x ++ c :: y = x' ++ c :: y') : x = x' ∧ y = y' := by
  induction x generalizing x' with
  | nil =>
    cases x' with
    | nil => simpa using h
    | cons b x' =>
      simp only [List.nil_append, List.cons_append, List.cons.injEq] at h
      exact absurd (h.1 ▸ List.mem_cons_self) hx'
  | cons b x ih =>
    cases x' with
    | nil =>
      simp only [List.nil_append, List.cons_append, List.cons.injEq] at h
      exact absurd (h.1 ▸ List.mem_cons_self) hx
    | cons b' x' =>
      simp only [List.cons_append, List.cons.injEq] at h
      obtain ⟨rfl, h⟩ := h
      obtain ⟨rfl, rfl⟩ := ih (fun hm => hx (List.mem_cons_of_mem _ hm))
        (fun hm => hx' (List.mem_cons_of_mem _ hm)) h
      exact ⟨rfl, rfl⟩

theorem Backend.bar_not_mem_name (b : Backend) : '|' ∉ b.name.toList := by
  cases b <;> decide

theorem Backend.name_injective : Function.Injective Backend.name := by
  intro b b'
  cases b <;> cases b' <;> decide

theorem Settings.toList_validationKey (s : Settings) :
    s.validationKey.toList =
      s.backend.name.toList ++ '|' :: (s.host.toList ++ '|' :: s.environment.toList) := by
  simp [Settings.validationKey, Settings.validationKeyOf]

/-- Settings whose hosts hold no `|` have one key only when they have one backend, host and
environment: the backend's name ends at the first `|`, the host at the second. -/
theorem Settings.eq_of_validationKey_eq {s s' : Settings} (hh : '|' ∉ s.host.toList)
    (hh' : '|' ∉ s'.host.toList) (h : s.validationKey = s'.validationKey) :
    s.backend = s'.backend ∧ s.host = s'.host ∧ s.environment = s'.environment := by
  have hl := congrArg String.toList h
  rw [Settings.toList_validationKey, Settings.toList_validationKey] at hl
  obtain ⟨hb, hrest⟩ := eq_of_append_separator (Backend.bar_not_mem_name _)
    (Backend.bar_not_mem_name _) hl
  obtain ⟨hhost, henv⟩ := eq_of_append_separator hh hh' hrest
  exact ⟨Backend.name_injective (String.toList_inj.mp hb), String.toList_inj.mp hhost,
    String.toList_inj.mp henv⟩

namespace Daemon

open Identity

/-- An attempt checks the settings its key was computed from, with the interpreter of their
environment. -/
def Attempt.Matches (a : Attempt) : Prop :=
  a.key = a.settings.validationKey ∧ a.python = interpreterPath a.settings.environment

/-- A continuation that carries a matching check carries only that check. -/
theorem Attempt.Matches.of_some {a b : Attempt} (ha : a.Matches) (h : some a = some b) :
    b.Matches :=
  Option.some.inj h ▸ ha

/-- Every waiter waits under the key it asked with, and every check under way checks the
settings of its key. -/
structure KeysMatch (d : State) : Prop where
  live : d.world.live = none
  waiters : ∀ e ∈ d.keys, ∀ w ∈ e.2.waiters, w.key = e.1
  attempts : ∀ a ∈ checks d, a.Matches

variable {d : State} {α : Type}

/-- Taking the task at the head of the queue off it takes its check out of the checks under
way. -/
theorem checks_pop {t : Task} {rest : List Task} (hq : d.world.queue = t :: rest) :
    (checks d).Perm (checks { d with world := { d.world with queue := rest } } ++ t.check?.toList) := by
  cases hc : t.check? with
  | none => simp [checks, hq, hc]
  | some a =>
    simp only [checks, hq, List.filterMap_cons, hc, Option.toList_some, List.append_assoc]
    exact List.Perm.append_left _ (List.Perm.append_left _ (List.perm_append_singleton a _).symm)

namespace KeysMatch

/-- A change that keeps the keys and adds only checks that match. -/
theorem grow (h : KeysMatch d) {d' : State} (hl : d'.world.live = d.world.live)
    (hk : d'.keys = d.keys) (extra : List Attempt) (hc : checks d' ⊆ checks d ++ extra)
    (hx : ∀ a ∈ extra, a.Matches) : KeysMatch d' where
  live := hl.trans h.live
  waiters := hk ▸ h.waiters
  attempts a ha := (List.mem_append.mp (hc ha)).elim (h.attempts a) (hx a)

theorem settle (h : KeysMatch d) {d' : State} (hs : Settles d d') : KeysMatch d' :=
  h.grow hs.live hs.keys [] (fun a ha => List.mem_append_left _ (hs.checks_eq ▸ ha))
    (by simp)

/-- The task at the head of the queue taken off: the rest stays matched, and the task's own
check matches. -/
theorem pop (h : KeysMatch d) {t : Task} {rest : List Task} (hq : d.world.queue = t :: rest) :
    KeysMatch { d with world := { d.world with queue := rest } } ∧
      ∀ a, t.check? = some a → a.Matches := by
  have hp := checks_pop hq
  refine ⟨h.grow rfl rfl [] (fun a ha => ?_) (by simp), fun a ha => h.attempts a ?_⟩
  · exact List.mem_append_left _ (hp.mem_iff.mpr (List.mem_append_left _ ha))
  · exact hp.mem_iff.mpr (List.mem_append_right _ (by simp [ha]))

/-- A task queued whose check, if any, matches. -/
theorem post (h : KeysMatch d) {t : Task} (ht : ∀ a, t.check? = some a → a.Matches) :
    KeysMatch { d with world := { d.world with queue := d.world.queue ++ [t] } } :=
  h.grow rfl rfl t.check?.toList (fun a ha => by rwa [checks_post] at ha)
    fun a ha => ht a (by simpa using ha)

/-- A change elsewhere than in the keys and the world. -/
theorem frame (h : KeysMatch d) {d' : State} (hw : d'.world = d.world) (hk : d'.keys = d.keys) :
    KeysMatch d' where
  live := hw ▸ h.live
  waiters := hk ▸ h.waiters
  attempts a ha := h.attempts a (by simpa [Daemon.checks, hw] using ha)

end KeysMatch

/-! ## Operations that keep the keys matched -/

theorem matched_of_settled {op : M α} (h : Settled op) : Keeps KeysMatch op :=
  fun d hd => hd.settle (h d hd.live)

/-- A change of the instances alone. -/
theorem matched_setInstance (i : Nat) (f : Instance → Instance) :
    Keeps KeysMatch (setInstance i f) := fun d h => by
  rw [after_setInstance]
  exact h.grow rfl rfl [] (fun a ha => List.mem_append_left _ ha) (by simp)

/-- A configuration operation changes only the instance's configuration and the store, whether
it returns or stops. -/
theorem matched_withConfig (i : Nat) (op : Op Session.ConfigState α) (fallback : α) :
    Keeps KeysMatch (withConfig i op fallback) := by
  intro d h
  have keep : ∀ cs : Session.ConfigState, KeysMatch
      { d with instances := updateAt d.instances i fun s => { s with cfg := cs.config },
               store := cs.store } := fun cs =>
    h.grow rfl rfl [] (fun a ha => List.mem_append_left _ ha) (by simp)
  simp only [withConfig, after, EStateM.run_bind, EStateM.run_get]
  cases hs : d.instances[i]? with
  | none => simpa using h
  | some s =>
    cases hr : op.run ⟨s.cfg, d.store⟩ with
    | ok a cs => simpa [hr] using keep cs
    | error e cs =>
      simp only [hr]
      exact keep cs

/-- Setting a key whose waiters all asked with it. -/
theorem matched_setKey {key : String} {ks : KeyState} (hw : ∀ w ∈ ks.waiters, w.key = key) :
    Keeps KeysMatch (setKey key ks) := fun d h => by
  rw [after_setKey]
  refine ⟨h.live, fun e he w hw' => ?_, h.attempts⟩
  rcases Assoc.mem_put he with ⟨he, -⟩ | rfl
  · exact h.waiters e he w hw'
  · exact hw w hw'

/-- A remote run whose continuation, if it continues a check, continues one that matches. -/
theorem matched_runRemote {next : RunNext} (hn : ∀ a, next.check? = some a → a.Matches)
    (sid : Nat) (host script : String) (timeoutMs : Int) :
    Keeps KeysMatch (runRemote sid host script timeoutMs next) := by
  intro d h
  cases hr : d.world.scriptedRuns with
  | nil =>
    rw [after_runRemote_pending h.live hr]
    exact h.grow rfl rfl _ (checks_pend (d := d) (d.world.nextRun, next)).subset
      fun a ha => hn a (by simpa using ha)
  | cons res rest =>
    rw [after_runRemote_scripted h.live hr]
    have hc : checks { d with world := { d.world with queue := d.world.queue ++ [.ran next res] } } =
        checks d ++ next.check?.toList := checks_post (d := d) _
    exact h.grow rfl rfl _ (fun a ha => hc ▸ ha) fun a ha => hn a (by simpa using ha)

theorem matched_askInput {next : InputNext} (hn : ∀ a, next.check? = some a → a.Matches)
    (sid : Nat) (kind text preset : String) (choices : List String) :
    Keeps KeysMatch (askInput sid kind text preset choices next) := by
  intro d h
  cases hs : d.world.scriptedInputs with
  | nil =>
    rw [after_askInput_pending h.live hs]
    exact h.grow rfl rfl _ (checks_ask (d := d) (.input d.world.nextPrompt next)).subset
      fun a ha => hn a (by simpa [Prompt.check?] using ha)
  | cons answer rest =>
    rw [after_askInput_scripted h.live hs]
    have hc : checks { d with world := { d.world with
        queue := d.world.queue ++ [.answered next answer.1 answer.2] } } =
        checks d ++ next.check?.toList := checks_post (d := d) _
    exact h.grow rfl rfl _ (fun a ha => hc ▸ ha) fun a ha => hn a (by simpa using ha)

theorem matched_askConfirm {a : Attempt} (ha : a.Matches) (sid : Nat) (message : String)
    (actions : List String) : Keeps KeysMatch (askConfirm sid message actions a) := by
  intro d h
  cases hc : d.world.scriptedConfirms with
  | nil =>
    rw [after_askConfirm_pending h.live hc]
    exact h.grow rfl rfl _ (checks_ask (d := d) (.confirm d.world.nextPrompt a)).subset
      fun b hb => by
        simp only [Prompt.check?, Option.toList_some, List.mem_singleton] at hb
        exact hb ▸ ha
  | cons answer rest =>
    rw [after_askConfirm_scripted h.live hc]
    have hc' : checks { d with world := { d.world with
        queue := d.world.queue ++ [.confirmed a answer.1 answer.2] } } = checks d ++ [a] :=
      checks_post (d := d) _
    exact h.grow rfl rfl _ (fun b hb => hc' ▸ hb) fun b hb => by
      rw [List.mem_singleton.mp hb]
      exact ha

/-! ## Starting a server -/

theorem matched_resolveRoot (i g : Nat) : Keeps KeysMatch (resolveRoot i g) := by
  intro d h
  cases hs : d.instances[i]? with
  | none => simpa [resolveRoot, hs] using h
  | some s =>
    simp only [resolveRoot, after_getInstance_bind, hs, after_get_bind]
    -- the root is started in at once, unless it is searched for by a remote run, which
    -- continues no check
    have hstart : ∀ root, KeysMatch (after (start i root) d) := fun root =>
      matched_of_settled (settled_start i root) d h
    have hsearch : ∀ sid host dir, KeysMatch (after (runRemote sid host (repositoryScript dir)
        runTimeouts.workspace (.root i g dir)) d) := fun _ _ _ =>
      matched_runRemote (fun a ha => by simp [RunNext.check?] at ha) _ _ _ _ d h
    split
    · exact hstart _
    split
    · split
      · exact hstart _
      · split
        · exact hstart _
        · exact hsearch _ _ _
    · split
      · exact hstart _
      · exact hsearch _ _ _

theorem matched_enableDone (i g : Nat) (ok : Bool) : Keeps KeysMatch (enableDone i g ok) := by
  intro d h
  cases hs : d.instances[i]? with
  | none => simpa [enableDone, hs] using h
  | some s =>
    simp only [enableDone, after_getInstance_bind, hs]
    split
    · exact h
    split
    · exact matched_setInstance i _ d h
    · exact matched_resolveRoot i g d h

theorem matched_rootFound (i g : Nat) (dir : String) (res : Shell.RunResult) :
    Keeps KeysMatch (rootFound i g dir res) := by
  intro d h
  cases hs : d.instances[i]? with
  | none => simpa [rootFound, hs] using h
  | some s =>
    simp only [rootFound, after_getInstance_bind, hs]
    split
    · exact h
    · exact matched_of_settled (settled_start i _) d h

/-! ## Checks -/

section Checks

variable {a : Attempt}

theorem matched_wake (w : Waiter) (ok : Bool) : Keeps KeysMatch (wake w ok) := by
  unfold wake
  exact (matched_of_settled (settled_updateCache _ _)).bind fun _ => matched_enableDone _ _ _

/-- A check settles its key with no waiter left, and tells each waiter the outcome. -/
theorem matched_resolve (a : Attempt) (ok : Bool) : Keeps KeysMatch (resolve a ok) := by
  intro d h
  have hset : Keeps KeysMatch (setKey a.key ⟨if ok then .valid else .missing, []⟩ >>= fun _ =>
      (Assoc.get? d.keys a.key |>.getD ⟨.unchecked, []⟩).waiters.forM fun w => wake w ok) :=
    (matched_setKey (by simp)).bind fun _ => Keeps.forM fun w => matched_wake w ok
  simp only [resolve, after_getKey_bind]
  cases ok
  · simp only [Bool.not_false, if_true, after_count_bind]
    exact hset _ (h.frame rfl rfl)
  · simp only [Bool.not_true, Bool.false_eq_true, if_false]
    exact hset d h

/-- A check gives its key up, with no waiter left, and tells every waiter but the first. -/
theorem matched_handOff (a : Attempt) : Keeps KeysMatch (handOff a) := by
  intro d h
  simp only [handOff, after_getKey_bind, after_setKey_bind]
  refine Keeps.forM (fun w => matched_wake w false) _ ?_
  simpa using @matched_setKey a.key ⟨.missing, []⟩ (by simp) d h

theorem matched_fail (a : Attempt) (severity : Severity) (message : String) (res : Shell.RunResult) :
    Keeps KeysMatch (fail a severity message res) := by
  intro d h
  simp only [fail, after_sidOf_bind]
  refine ((matched_of_settled (settled_report _ _ _)).bind fun _ => ?_) d h
  split
  · exact (matched_of_settled (settled_writeLog _ _ _)).bind fun _ => matched_resolve a false
  · exact matched_resolve a false

theorem matched_succeed (a : Attempt) : Keeps KeysMatch (succeed a) := by
  unfold succeed
  exact (matched_of_settled (settled_count _)).bind fun _ =>
    (matched_of_settled (settled_markValid _ _)).bind fun _ =>
      (matched_of_settled (settled_remember _ _)).bind fun _ => matched_resolve a true

theorem matched_runFor (script : String) (timeoutMs : Int) {next : RunNext}
    (hn : ∀ b, next.check? = some b → b.Matches) :
    Keeps KeysMatch (runFor a script timeoutMs next) := by
  intro d h
  simp only [runFor, after_sidOf_bind]
  exact matched_runRemote hn _ _ _ _ d h

theorem matched_detect (ha : a.Matches) (installed : Bool) : Keeps KeysMatch (detect a installed) :=
  matched_runFor _ _ fun _ hb => ha.of_some (by exact hb)

theorem matched_install (ha : a.Matches) : Keeps KeysMatch (install a) := by
  intro d h
  simp only [install, after_sidOf_bind]
  exact ((matched_of_settled (settled_report _ _ _)).bind fun _ =>
    matched_runFor _ _ fun _ hb => ha.of_some (by exact hb)) d h

theorem matched_confirmInstall (ha : a.Matches) : Keeps KeysMatch (confirmInstall a) := by
  intro d h
  simp only [confirmInstall, after_sidOf_bind]
  exact matched_askConfirm ha _ _ _ d h

theorem matched_interpreterMissing (ha : a.Matches) (res : Shell.RunResult) :
    Keeps KeysMatch (interpreterMissing a res) := by
  intro d h
  simp only [interpreterMissing, after_configOf_bind]
  split
  · simp only [after_updateCache_bind, after_get_bind, after_sidOf_bind]
    exact matched_askInput (fun _ hb => ha.of_some (by exact hb)) _ _ _ _ _ _ (h.frame rfl rfl)
  · exact matched_fail a _ _ res d h

theorem matched_promptHost (i g : Nat) : Keeps KeysMatch (promptHost i g) := by
  intro d h
  simp only [promptHost, after_updateCache_bind, after_sidOf_bind, after_get_bind]
  exact matched_askInput (fun b hb => by simp [InputNext.check?] at hb) _ _ _ _ _ _ (h.frame rfl rfl)

/-- An enable asks for its settings' key: it is answered at once, or waits under that key,
whose check, if it starts one, checks those very settings. -/
theorem matched_ensure (i g : Nat) (retried : Bool) : Keeps KeysMatch (ensure i g retried) := by
  intro d h
  cases hs : d.instances[i]? with
  | none => simpa [ensure, hs] using h
  | some s =>
    simp only [ensure, after_getInstance_bind, hs]
    split
    · exact matched_enableDone i g true d h
    split
    · exact matched_enableDone i g false d h
    split
    · split
      · exact matched_promptHost i g d h
      · simp only [after_updateCache_bind]
        exact ((matched_of_settled (settled_report _ _ _)).bind fun _ => matched_enableDone i g false)
          _ (h.frame rfl rfl)
    simp only [after_get_bind]
    split
    · simp only [after_count_bind, after_updateCache_bind]
      exact matched_enableDone i g true _ (h.frame rfl rfl)
    simp only [after_getKey_bind]
    -- the check it starts is of the settings whose key it waits under
    have hprobe : Keeps KeysMatch (probe ⟨i, g, s.cfg.settings, s.cfg.settings.validationKey,
        interpreterPath s.cfg.settings.environment, retried⟩) :=
      matched_runFor _ _ fun b hb => by
        simp only [RunNext.check?, Option.some.injEq] at hb
        exact hb ▸ ⟨rfl, rfl⟩
    have hfirst : ∀ w ∈ [(⟨i, s.cfg.settings.validationKey, g⟩ : Waiter)],
        w.key = s.cfg.settings.validationKey := by simp
    cases hk : Assoc.get? d.keys s.cfg.settings.validationKey with
    | some ks =>
      simp only
      -- the waiters already under the key asked with it
      have hks : ∀ w ∈ ks.waiters, w.key = s.cfg.settings.validationKey :=
        h.waiters _ (Assoc.mem_of_get? hk)
      split
      · exact matched_setKey (fun w hw => by
          rcases List.mem_append.mp hw with hw | hw
          · exact hks w hw
          · simp only [List.mem_singleton] at hw
            exact hw ▸ rfl) d h
      · exact ((matched_setKey hfirst).bind fun _ => hprobe) d h
    | none =>
      exact ((matched_setKey hfirst).bind fun _ => hprobe) d h

section Continue

variable {a : Attempt}

theorem matched_afterExecutable (ha : a.Matches) (res : Shell.RunResult) :
    Keeps KeysMatch (afterExecutable a res) := by
  unfold afterExecutable
  split
  · exact matched_detect ha false
  split
  · exact matched_fail a _ _ res
  · exact matched_runFor _ _ fun _ hb => ha.of_some (by exact hb)

theorem matched_afterVersion (ha : a.Matches) (res : Shell.RunResult) :
    Keeps KeysMatch (afterVersion a res) := by
  unfold afterVersion
  split
  · exact matched_detect ha false
  · exact matched_interpreterMissing ha res

theorem matched_afterDetect (ha : a.Matches) (installed : Bool) (res : Shell.RunResult) :
    Keeps KeysMatch (afterDetect a installed res) := by
  intro d h
  simp only [afterDetect]
  split
  · exact matched_succeed a d h
  split
  · exact matched_fail a _ _ res d h
  split
  · exact matched_fail a _ _ res d h
  split
  · simp only [after_count_bind]
    exact matched_fail a _ _ res _ (h.frame rfl rfl)
  split
  · exact matched_install ha d h
  · exact matched_confirmInstall ha d h

theorem matched_afterInstall (ha : a.Matches) (res : Shell.RunResult) :
    Keeps KeysMatch (afterInstall a res) := by
  intro d h
  simp only [afterInstall]
  split
  · simp only [after_count_bind]
    exact matched_fail a _ _ res _ (h.frame rfl rfl)
  · simp only [after_count_bind]
    exact matched_detect ha true _ (h.frame rfl rfl)

theorem matched_afterConfirm (ha : a.Matches) (choice : String) (ok : Bool) :
    Keeps KeysMatch (afterConfirm a choice ok) := by
  intro d h
  simp only [afterConfirm]
  split
  · simp only [after_sidOf_bind]
    exact ((matched_of_settled (settled_report _ _ _)).bind fun _ => matched_resolve a false) d h
  · exact matched_install ha d h

/-- The answer to the prompt for a replacement environment fails the check, or gives its key up
and asks again for the settings with the new environment. -/
theorem matched_afterEnvironment (a : Attempt) (res : Shell.RunResult) (value : String)
    (cancelled : Bool) : Keeps KeysMatch (afterEnvironment a res value cancelled) := by
  intro d h
  simp only [afterEnvironment, after_updateCache_bind]
  split
  · exact matched_fail a _ _ res _ (h.frame rfl rfl)
  refine ((matched_withConfig _ _ _).bind fun r => ?_) _ (h.frame rfl rfl)
  split
  · exact matched_fail a _ _ res
  · exact (matched_handOff a).bind fun _ => matched_ensure _ _ true

end Continue

theorem matched_afterHost (i g : Nat) (value : String) (cancelled : Bool) :
    Keeps KeysMatch (afterHost i g value cancelled) := by
  intro d h
  simp only [afterHost, after_updateCache_bind]
  split
  · simp only [after_configOf_bind, after_updateCache_bind]
    exact matched_enableDone i g false _ (h.frame rfl rfl)
  · exact ((matched_withConfig _ _ _).bind fun _ => matched_ensure i g false) _ (h.frame rfl rfl)

end Checks

/-! ## Enables, the loop and the world's answers -/

theorem matched_enable (i : Nat) : Keeps KeysMatch (enable i) := by
  intro d h
  cases hs : d.instances[i]? with
  | none => simpa [enable, hs] using h
  | some s =>
    simp only [enable, after_getInstance_bind, hs]
    split
    · exact h
    -- an instance already provisioning, starting or attached is left as it is
    split
    case h_4 =>
      exact ((matched_of_settled (settled_cancelReconnect i)).bind fun _ =>
        (matched_setInstance i _).bind fun _ => matched_ensure i _ false) d h
    all_goals exact h

theorem matched_reconnectFired (i g : Nat) (buffer : String) :
    Keeps KeysMatch (reconnectFired i g buffer) := by
  intro d h
  cases hs : d.instances[i]? with
  | none => simpa [reconnectFired, hs] using h
  | some s =>
    simp only [reconnectFired, after_getInstance_bind, hs]
    split
    · exact h
    refine ((matched_setInstance i _).bind fun _ => ?_) d h
    split
    · exact matched_enable i
    · exact matched_setInstance i _

/-- Running a task whose check, if any, matches. -/
theorem matched_runTask {t : Task} (ht : ∀ a, t.check? = some a → a.Matches) :
    Keeps KeysMatch (runTask t) := by
  cases t with
  | ran next res =>
    cases next with
    | executable a => exact matched_afterExecutable (ht a rfl) res
    | version a => exact matched_afterVersion (ht a rfl) res
    | detect a installed => exact matched_afterDetect (ht a rfl) installed res
    | install a => exact matched_afterInstall (ht a rfl) res
    | root i g dir => exact matched_rootFound i g dir res
  | answered next value cancelled =>
    cases next with
    | host i g => exact matched_afterHost i g value cancelled
    | environment a res => exact matched_afterEnvironment a res value cancelled
  | confirmed a choice ok => exact matched_afterConfirm (ht a rfl) choice ok
  | initialized i n answer => exact matched_of_settled (settled_initialized i n answer)
  | exited i n status => exact matched_of_settled (settled_exited i n status)
  | reconnect i g buffer => exact matched_reconnectFired i g buffer

/-- Draining the queue: each task taken off brings its check with it, which matches. -/
theorem matched_drain (fuel : Nat) : Keeps KeysMatch (drain fuel) := by
  induction fuel with
  | zero => exact Keeps.pure _
  | succ fuel ih =>
    intro d h
    simp only [drain, after_get_bind]
    cases hq : d.world.queue with
    | nil => exact h
    | cons t rest =>
      simp only [after_updateWorld_bind]
      obtain ⟨hpop, ht⟩ := h.pop hq
      exact ((((matched_runTask ht).recover ()).attempt).bind fun _ => ih) _ hpop

theorem matched_onLoop {op : M α} (h : Keeps KeysMatch op) (x : α) :
    Keeps KeysMatch (onLoop op x) := by
  unfold RemoteLsp.Daemon.onLoop
  refine (matched_drain _).bind fun _ => ?_
  refine Keeps.bind (h.recover x).attempt fun r => ?_
  refine (matched_drain _).bind fun _ => ?_
  cases r
  · exact fun _ hd => hd
  · exact Keeps.pure _

theorem matched_didOpen (sid : Nat) (doc : Document) : Keeps KeysMatch (didOpen sid doc) := by
  unfold didOpen
  refine (matched_of_settled (settled_lookup sid)).bind fun i => ?_
  refine (matched_of_settled settled_get).bind fun d => ?_
  split
  · refine (matched_of_settled (settled_getInstance i)).bind fun o => ?_
    rcases o with _ | s
    · exact Keeps.pure _
    dsimp only
    split
    case' isTrue => refine (matched_withConfig i _ _).bind fun _ => ?_
    case' isFalse => split; exact Keeps.pure _
    -- the document is recorded on the instance, and the instance enabled or its server told
    all_goals
      refine (matched_of_settled (settled_getInstance i)).bind fun o => ?_
      rcases o with _ | s
      · exact Keeps.pure _
      refine (matched_setInstance i _).bind fun _ => ?_
      split
      case h_1 =>
        split
        · exact matched_of_settled (settled_sendOpen _ _)
        · exact Keeps.pure _
      case h_6 => exact Keeps.pure _
      all_goals exact matched_enable i
  · exact Keeps.pure _

theorem matched_restart (i : Nat) : Keeps KeysMatch (restart i) := by
  unfold restart
  refine (matched_of_settled (settled_halt i)).bind fun _ => (matched_setInstance i _).bind fun _ =>
    (matched_of_settled (settled_updateCache i _)).bind fun _ =>
      (matched_of_settled (settled_forgetOtherHosts i)).bind fun _ =>
        (matched_of_settled (settled_getInstance i)).bind fun o => ?_
  rcases o with _ | s
  · exact Keeps.pure _
  dsimp only
  split
  · exact matched_enable i
  · exact Keeps.pure _

theorem matched_settingsChanged (sid : Nat) : Keeps KeysMatch (settingsChanged sid) := by
  unfold settingsChanged
  refine (matched_of_settled (settled_lookup sid)).bind fun i =>
    (matched_of_settled (settled_getInstance i)).bind fun o => ?_
  rcases o with _ | s
  · exact Keeps.pure _
  dsimp only
  split
  · exact matched_restart i
  · exact Keeps.pure _

/-- A check is under way where it sits in a remote run, a prompt or a queued task. -/
theorem mem_checks {a : Attempt} :
    a ∈ checks d ↔ (∃ e ∈ d.world.pendingRuns, e.2.check? = some a) ∨
      (∃ p ∈ d.world.prompts, p.check? = some a) ∨ ∃ t ∈ d.world.queue, t.check? = some a := by
  simp [checks, List.mem_filterMap]

/-- A finished remote run moves the check it continues from the world to the queue. -/
theorem matched_completeRun (id? : Option Nat) (res : Shell.RunResult) :
    Keeps KeysMatch (completeRun id? res) := by
  intro d h
  simp only [completeRun, after_get_bind]
  split
  · exact h
  · rename_i id next hentry
    simp only [after_updateWorld_bind, after_post_bind, after_pure]
    have hm : (id, next) ∈ d.world.pendingRuns := by
      cases id? with
      | some k => exact List.mem_of_find?_eq_some hentry
      | none => exact List.mem_of_mem_head? hentry
    refine h.grow rfl rfl [] (fun a ha => List.mem_append_left _ ?_) (by simp)
    rw [mem_checks] at ha ⊢
    rcases ha with ⟨e, he, hea⟩ | hp | ⟨t, ht, hta⟩
    · exact .inl ⟨e, (List.mem_filter.mp he).1, hea⟩
    · exact .inr (.inl hp)
    · rcases List.mem_append.mp ht with ht | ht
      · exact .inr (.inr ⟨t, ht, hta⟩)
      · rw [List.mem_singleton] at ht
        subst ht
        exact .inl ⟨_, hm, hta⟩

/-- An answered prompt moves the check it continues from the world to the queue. -/
theorem KeysMatch.promptDone (h : KeysMatch d) {p : Prompt} (hm : p ∈ d.world.prompts) {t : Task}
    (hc : t.check? = p.check?) : KeysMatch { d with world := { d.world with
      prompts := d.world.prompts.filter (·.id ≠ p.id), queue := d.world.queue ++ [t] } } := by
  refine h.grow rfl rfl [] (fun a ha => List.mem_append_left _ ?_) (by simp)
  rw [mem_checks] at ha ⊢
  rcases ha with hr | ⟨q, hq, hqa⟩ | ⟨t', ht, hta⟩
  · exact .inl hr
  · exact .inr (.inl ⟨q, (List.mem_filter.mp hq).1, hqa⟩)
  · rcases List.mem_append.mp ht with ht | ht
    · exact .inr (.inr ⟨t', ht, hta⟩)
    · rw [List.mem_singleton] at ht
      subst ht
      exact .inr (.inl ⟨p, hm, hc ▸ hta⟩)

theorem matched_answerInput (id? : Option Nat) (value : String) (cancelled : Bool) :
    Keeps KeysMatch (answerInput id? value cancelled) := by
  intro d h
  simp only [answerInput, after_get_bind]
  split
  · rename_i id next hfind
    simp only [after_updateWorld_bind, after_post_bind, after_pure]
    exact h.promptDone (List.mem_of_find?_eq_some hfind) rfl
  · exact h

theorem matched_answerConfirm (id? : Option Nat) (choice : String) (ok : Bool) :
    Keeps KeysMatch (answerConfirm id? choice ok) := by
  intro d h
  simp only [answerConfirm, after_get_bind]
  split
  · rename_i id a hfind
    simp only [after_updateWorld_bind, after_post_bind, after_pure]
    exact h.promptDone (List.mem_of_find?_eq_some hfind) rfl
  · exact h

theorem matched_step {op : M α} (h : Keeps KeysMatch op) : Keeps KeysMatch (step op) := by
  unfold RemoteLsp.Daemon.step
  refine Keeps.bind (matched_of_settled (settled_updateWorld _ ?_ ?_ ?_ ?_ ?_ ?_))
    fun _ => h.bind fun _ => (matched_drain _).bind fun _ => Keeps.pure _
  all_goals intro _; rfl

theorem matched_op (x : Input) : Keeps KeysMatch x.op := by
  cases x with
  | sessionOpen sid cfg rootUri capabilities =>
    exact matched_onLoop (matched_of_settled (settled_openSession _ _ _ _)) ()
  | sessionClose sid => exact matched_onLoop (matched_of_settled (settled_closeSession _)) ()
  | docOpen sid doc => exact matched_onLoop (matched_didOpen _ _) ()
  | docChange sid uri version text =>
    exact matched_onLoop (matched_of_settled (settled_didChange _ _ _ _)) ()
  | docClose sid uri => exact matched_onLoop (matched_of_settled (settled_didClose _ _)) ()
  | call sid method params => exact matched_onLoop (matched_of_settled (settled_request _ _ _)) ()
  | notification sid method params =>
    exact matched_onLoop (matched_of_settled (settled_notify _ _ _)) ()
  | userRestart sid =>
    exact matched_onLoop
      ((matched_of_settled (settled_lookup sid)).bind fun i => matched_restart i) ()
  | userStop sid => exact matched_onLoop (matched_of_settled (settled_stopSession _)) ()
  | configChange sid change =>
    exact matched_onLoop
      ((matched_of_settled (settled_lookup sid)).bind fun _ => matched_withConfig _ _ _) ()
  | settingsChange sid => exact matched_onLoop (matched_settingsChanged _) ()
  | runResult id? res => exact (matched_completeRun _ _).bind fun _ => Keeps.pure _
  | inputAnswer id? value cancelled => exact (matched_answerInput _ _ _).bind fun _ => Keeps.pure _
  | confirmAnswer id? choice ok => exact (matched_answerConfirm _ _ _).bind fun _ => Keeps.pure _
  | exit n? status =>
    exact (matched_of_settled (settled_serverExit _ _)).bind fun _ => Keeps.pure _
  | serverSays n? method params isCall =>
    exact (matched_of_settled (settled_serverSends _ _ _ _)).bind fun _ => Keeps.pure _
  | unhold n? => exact (matched_of_settled (settled_releaseServer _)).bind fun _ => Keeps.pure _
  | tick ms => exact (matched_of_settled (settled_advance _)).bind fun _ => Keeps.pure _
  | knownEnvironment host env => exact matched_of_settled (settled_remember _ _)
  -- the world's settings and scripts are no work in flight
  | _ =>
    simp only [Input.op, scriptRuns, scriptInputs, scriptConfirms, setServerAnswer, setNotifyError,
      setEditorAnswer, setLaunchFailure, holdNextServer]
    refine matched_of_settled (settled_updateWorld _ ?_ ?_ ?_ ?_ ?_ ?_) <;> intro _ <;> rfl

/-- A daemon created in a world with no work in flight has no keys and no checks. -/
theorem create_keysMatch {setup : Setup} {docs : Identity.Documents} {naming : SessionNaming}
    {w : World} (hl : w.live = none) (hq : w.queue = []) (hr : w.pendingRuns = [])
    (hp : w.prompts = []) (hc : create setup docs naming w = .ok d) : KeysMatch d := by
  unfold create at hc
  cases hdef : setup.defaults.check with
  | error e => simp [hdef, bind, Except.bind] at hc
  | ok defaults =>
    simp only [hdef, bind, Except.bind] at hc
    -- the daemon created is the state the idle timer's start leaves
    generalize hd₀ : (⟨_, Store.load docs, [], [], [], [], _, none, 0, w⟩ : State) = d₀ at hc
    have h₀ : KeysMatch d₀ := by
      subst hd₀
      exact ⟨hl, by simp, by simp [checks, hq, hr, hp]⟩
    have hafter := matched_of_settled settled_refreshIdleTimer d₀ h₀
    unfold after at hafter
    generalize EStateM.run refreshIdleTimer d₀ = r at hc hafter
    cases r <;> simp only [pure, Except.pure, Except.ok.injEq] at hc <;> subst hc <;> exact hafter

/-- In every reachable state the keys match. -/
theorem Reaches.keysMatch (h : Reaches d) : KeysMatch d := by
  induction h with
  | init hl hq hr hp hc => exact create_keysMatch hl hq hr hp hc
  | step x _ ih => exact matched_step (matched_op x) _ ih

/-! ## What a shared check answers -/

/-- A waiter on the key of a check under way asked with the key of the checked settings. -/
theorem waiter_key_of_check (h : KeysMatch d) {a : Attempt} (ha : a ∈ checks d) {ks : KeyState}
    (hks : Assoc.get? d.keys a.key = some ks) {w : Waiter} (hw : w ∈ ks.waiters) :
    w.key = a.settings.validationKey :=
  calc w.key = a.key := h.waiters _ (Assoc.mem_of_get? hks) w hw
    _ = a.settings.validationKey := (h.attempts a ha).1

/-- In every state whose keys match, a session waiting on the key of a check under way, which
asked with the key of its settings, asked for the backend, host and environment that the check
checks, unless a host holds a `|`. -/
theorem shared_check_same_settings (h : KeysMatch d) {a : Attempt} (ha : a ∈ checks d)
    {ks : KeyState} (hks : Assoc.get? d.keys a.key = some ks) {w : Waiter} (hw : w ∈ ks.waiters)
    {s : Settings} (hs : w.key = s.validationKey) (hh : '|' ∉ s.host.toList)
    (hh' : '|' ∉ a.settings.host.toList) :
    s.backend = a.settings.backend ∧ s.host = a.settings.host ∧
      s.environment = a.settings.environment :=
  Settings.eq_of_validationKey_eq hh hh' (hs.symm.trans (waiter_key_of_check h ha hks hw))

end Daemon

end RemoteLsp
