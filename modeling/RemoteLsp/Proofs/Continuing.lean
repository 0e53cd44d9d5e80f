import RemoteLsp.Proofs.Settling

/-!
# Continuing the work in hand

The lifecycle proofs take the enable or the check an operation continues in hand and show that
the operation consumes it. Here the same operations keep the accounting: what they hold is put
back into the world (as a pending run, a prompt, a waiter of a key or a queued task), or
continued at once, never dropped and never doubled.

Two things are new. An enable is used up only when its instance no longer waits for it: a
server starts, the instance is left idle, or the enable was stale. And nothing may stop an
operation between taking work in hand and consuming it, or the work would be lost; every such
step is total from a sound state, so a proof goes on past it with `after_bind_total`.
-/

namespace RemoteLsp.Daemon

open Identity

variable {d : State} {extra : List (Nat × Nat)} {held : List Attempt}

/-! ## Changes that keep the accounting -/

theorem Accounted.setCfg (h : Accounted extra held d) (i : Nat)
    (f : Instance → Session.SessionConfig) :
    Accounted extra held { d with instances := updateAt d.instances i fun s => { s with cfg := f s } } :=
  h.settle (h.inv.setCfg i f)
    (Settles.setInstance d i (StartsNoEnable.of_eq (fun _ => rfl) (fun _ => rfl) fun _ => rfl))

theorem Accounted.counters (h : Accounted extra held d) (c : List (String × Nat)) :
    Accounted extra held { d with counters := c } :=
  h.settle (h.inv.counters c) (Settles.of_frame rfl rfl rfl rfl rfl rfl rfl rfl rfl)

theorem Accounted.perm_hand {extra' : List (Nat × Nat)} (h : Accounted extra held d)
    (he : extra'.Perm extra) : Accounted extra' held d where
  inv := h.inv.perm_hand he
  ready := h.ready
  enables_nodup := ((he.append_left _).nodup_iff).mpr h.enables_nodup
  waiting := h.waiting
  checked := h.checked
  provisioning i s hs hcl hp := (he.append_left _).mem_iff.mpr (h.provisioning i s hs hcl hp)
  runs_nodup := h.runs_nodup
  runs_below := h.runs_below
  prompts_nodup := h.prompts_nodup
  prompts_below := h.prompts_below

theorem not_awaits_of_stale {i g : Nat} {s : Instance} (hs : d.instances[i]? = some s)
    (hst : s.closed = true ∨ s.gen ≠ g) : ¬ Awaits d i g := by
  rintro ⟨s', hs', hcl, -, hg⟩
  rw [hs] at hs'
  cases hs'
  rcases hst with hst | hst
  · simp [hst] at hcl
  · exact hst hg

theorem not_awaits_of_none {i g : Nat} (hs : d.instances[i]? = none) : ¬ Awaits d i g := by
  rintro ⟨s', hs', -⟩
  simp [hs] at hs'

/-- An enable in hand whose instance does not wait for it is dropped. -/
theorem Accounted.drop_stale {i g : Nat} (h : Accounted ((i, g) :: extra) held d)
    (hn : ¬ Awaits d i g) : Accounted extra held d :=
  h.consume h.inv.drop_head (Settles.refl d) hn

/-! ## Steady effects

The effects a provisioner's step makes before it consumes what it holds. -/

theorem steady_report (sid : Nat) (severity : Severity) (m : String) :
    Steady (report sid severity m) :=
  Steady.of (calm_report sid severity m) (settled_report sid severity m)

theorem steady_writeLog (sid : Nat) (pfx text : String) : Steady (writeLog sid pfx text) :=
  Steady.of (calm_writeLog sid pfx text) (settled_writeLog sid pfx text)

theorem steady_markValid (key env : String) : Steady (markValid key env) :=
  Steady.of (calm_markValid key env) (settled_markValid key env)

theorem steady_remember (host env : String) : Steady (remember host env) :=
  Steady.of (calm_remember host env) (settled_remember host env)

theorem steady_withConfig {α : Type} (i : Nat) {op : Op Session.ConfigState α} (fallback : α)
    (h : Session.ConfigState.KeepsReady op) : Steady (withConfig i op fallback) :=
  Steady.of (calm_withConfig i op fallback) (settled_withConfig i fallback h)

/-! ## Operations that release an instance -/

/-- The operation settles and leaves instance `i` waiting for no enable. -/
def Releases {α : Type} (i : Nat) (op : M α) : Prop :=
  ∀ d, d.world.live = none → Settles d (after op d) ∧ ∀ g, ¬ Awaits (after op d) i g

namespace Releases

variable {α β : Type} {i : Nat}

theorem settled {op : M α} (h : Releases i op) : Settled op := fun d hl => (h d hl).1

/-- An operation that releases the instance, followed by any that settle. -/
theorem bind {x : M α} {f : α → M β} (hx : Releases i x) (hf : ∀ a, Settled (f a)) :
    Releases i (x >>= f) := by
  intro d hl
  refine after_bind_of (Q := fun s => Settles d s ∧ ∀ g, ¬ Awaits s i g) (hx d hl)
    (fun a s hs => ?_) fun _ hs => hs
  have hs' := hf a s (hs.1.live.trans hl)
  exact ⟨hs.1.trans hs', fun g hw => hs.2 g (hs'.awaits hw)⟩

/-- Leaving the instance in a state other than provisioning. -/
theorem setInstance {f : Instance → Instance} (hf : ∀ s, (f s).state ≠ .provisioning) :
    Releases i (setInstance i f) := by
  intro d _
  rw [after_setInstance]
  refine ⟨Settles.setInstance d i (StartsNoEnable.of_state hf), fun g => ?_⟩
  rintro ⟨s', hs', -, hp, -⟩
  simp only [getElem?_updateAt, Option.map_eq_some_iff, if_true] at hs'
  obtain ⟨s, -, rfl⟩ := hs'
  exact hf s hp

/-- Reading the instance first: an absent instance waits for nothing. -/
theorem getInstance_bind {f : Option Instance → M β} (hnone : Settled (f none))
    (hsome : ∀ s, Releases i (f (some s))) : Releases i (getInstance i >>= f) := by
  intro d hl
  rw [after_getInstance_bind]
  cases hs : d.instances[i]? with
  | none =>
    have h := hnone d hl
    exact ⟨h, fun g hw => not_awaits_of_none hs (h.awaits hw)⟩
  | some s => exact hsome s d hl

end Releases

/-- Starting the server of an instance leaves it starting, or idle when the launch fails. -/
theorem releases_start (i : Nat) (root : String) : Releases i (start i root) := by
  unfold start
  refine Releases.getInstance_bind (Settled.pure ()) fun s => ?_
  refine (Releases.setInstance fun _ => by simp).bind fun _ => ?_
  refine settled_takeHold.bind fun _ => (settled_launch _ _ _ _ _ _ _ _).bind fun r => ?_
  cases r with
  | error m =>
    exact (settled_report _ _ _).bind fun _ =>
      settled_setInstance i (StartsNoEnable.of_state fun _ => by simp)
  | ok n =>
    refine (settled_setServer n _).bind fun _ =>
      Settled.bind ?_ fun _ => (settled_count _).bind fun _ => settled_enqueue n _
    exact settled_setInstance i (StartsNoEnable.of_eq (fun _ => rfl) (fun _ => rfl) fun _ => rfl)

theorem settled_start (i : Nat) (root : String) : Settled (start i root) :=
  (releases_start i root).settled

/-! ## Handing work to the world -/

theorem runRemote_accounts {next : RunNext} (sid : Nat) (host script : String) (timeoutMs : Int)
    (h : Accounted (next.enable?.toList ++ extra) (next.check?.toList ++ held) d) :
    Accounted extra held (after (runRemote sid host script timeoutMs next) d) := by
  have hl := h.inv.live
  have hi := runRemote_keeps sid host script timeoutMs h.inv
  cases hr : d.world.scriptedRuns with
  | nil =>
    rw [after_runRemote_pending hl hr] at hi ⊢
    exact h.pend.settle hi (Settles.world rfl rfl rfl (by simp [hl]) rfl rfl)
  | cons res rest =>
    rw [after_runRemote_scripted hl hr] at hi ⊢
    exact (h.post (t := .ran next res) rfl).settle hi
      ⟨rfl, rfl, rfl, rfl, ⟨[], by simp, by simp⟩, by simp [hl], Nat.le_succ _, Nat.le_refl _,
        id, fun _ s' hs hcl hp => ⟨s', hs, hcl, hp, rfl⟩⟩

theorem askInput_accounts {k : InputNext} (sid : Nat) (kind text preset : String)
    (choices : List String)
    (h : Accounted (k.enable?.toList ++ extra) (k.check?.toList ++ held) d) :
    Accounted extra held (after (askInput sid kind text preset choices k) d) := by
  have hl := h.inv.live
  have hi := askInput_keeps sid kind text preset choices h.inv
  cases hs : d.world.scriptedInputs with
  | nil =>
    rw [after_askInput_pending hl hs] at hi ⊢
    exact (h.ask (p := .input d.world.nextPrompt k) rfl).settle hi
      (Settles.world rfl rfl rfl (by simp [hl]) rfl rfl)
  | cons answer rest =>
    rw [after_askInput_scripted hl hs] at hi ⊢
    exact (h.post (t := .answered k answer.1 answer.2) rfl).settle hi
      ⟨rfl, rfl, rfl, rfl, ⟨[], by simp, by simp⟩, by simp [hl], Nat.le_refl _, Nat.le_succ _,
        id, fun _ s' hs hcl hp => ⟨s', hs, hcl, hp, rfl⟩⟩

theorem askConfirm_accounts {a : Attempt} (sid : Nat) (message : String) (actions : List String)
    (h : Accounted extra (a :: held) d) :
    Accounted extra held (after (askConfirm sid message actions a) d) := by
  have hl := h.inv.live
  have hi := askConfirm_keeps sid message actions h.inv
  cases hc : d.world.scriptedConfirms with
  | nil =>
    rw [after_askConfirm_pending hl hc] at hi ⊢
    exact (h.ask (p := .confirm d.world.nextPrompt a) rfl).settle hi
      (Settles.world rfl rfl rfl (by simp [hl]) rfl rfl)
  | cons answer rest =>
    rw [after_askConfirm_scripted hl hc] at hi ⊢
    exact (h.post (t := .confirmed a answer.1 answer.2) rfl).settle hi
      ⟨rfl, rfl, rfl, rfl, ⟨[], by simp, by simp⟩, by simp [hl], Nat.le_refl _, Nat.le_succ _,
        id, fun _ s' hs hcl hp => ⟨s', hs, hcl, hp, rfl⟩⟩

/-! ## The start path -/

section Start

variable {i g : Nat} {s : Instance}

/-- Starting the server of the enable in hand uses the enable up. -/
theorem start_accounts (h : Accounted ((i, g) :: extra) held d) (hs : d.instances[i]? = some s)
    (hcl : s.closed = false) (hg : s.gen = g) (root : String) :
    Accounted extra held (after (start i root) d) :=
  have hr := releases_start i root d h.inv.live
  h.consume (start_keeps h.inv hs hcl hg root) hr.1 (hr.2 g)

theorem resolveRoot_accounts (h : Accounted ((i, g) :: extra) held d)
    (hs : d.instances[i]? = some s) (hcl : s.closed = false) (hg : s.gen = g) :
    Accounted extra held (after (resolveRoot i g) d) := by
  simp only [resolveRoot, after_bind, run_getInstance, hs, EStateM.run_get]
  -- the fallback searches from the last buffer when it names a remote file, else starts
  cases hv : d.config.translator.fromVirtual s.lastBuffer with
  | none =>
    split
    · exact start_accounts h hs hcl hg _
    · split
      · split <;> exact start_accounts h hs hcl hg _
      · exact start_accounts h hs hcl hg _
  | some p =>
    split
    · exact start_accounts h hs hcl hg _
    · split
      · split
        · exact start_accounts h hs hcl hg _
        · exact runRemote_accounts _ _ _ _ h
      · exact runRemote_accounts _ _ _ _ h

/-- The search for the workspace root answered: the server starts, or the stale enable is
dropped. -/
theorem rootFound_accounts (h : Accounted ((i, g) :: extra) held d) (dir : String)
    (res : Shell.RunResult) : Accounted extra held (after (rootFound i g dir res) d) := by
  cases hs : d.instances[i]? with
  | none => simpa [rootFound, after_bind, hs] using h.drop_stale (not_awaits_of_none hs)
  | some s =>
    simp only [rootFound, after_bind, run_getInstance, hs]
    by_cases hc : s.closed = true ∨ s.gen ≠ g
    · simpa [hc] using h.drop_stale (not_awaits_of_stale hs hc)
    · simp only [not_or, Bool.not_eq_true, ne_eq, Decidable.not_not] at hc
      simpa [hc] using start_accounts h hs hc.1 hc.2 _

/-- An enable continued once its backend is ready or not: the root is resolved, or the
instance is left idle, or the stale enable is dropped. -/
theorem enableDone_accounts (h : Accounted ((i, g) :: extra) held d) (ok : Bool) :
    Accounted extra held (after (enableDone i g ok) d) := by
  cases hs : d.instances[i]? with
  | none => simpa [enableDone, after_bind, hs] using h.drop_stale (not_awaits_of_none hs)
  | some s =>
    simp only [enableDone, after_bind, run_getInstance, hs]
    by_cases hc : s.closed = true ∨ s.gen ≠ g
    · simpa [hc] using h.drop_stale (not_awaits_of_stale hs hc)
    · simp only [not_or, Bool.not_eq_true, ne_eq, Decidable.not_not] at hc
      cases ok
      · have hr := (Releases.setInstance (i := i) (f := fun s => { s with state := .idle })
          fun _ => by simp) d h.inv.live
        simpa [hc] using h.consume (h.inv.give_up hs hc.1 hc.2) hr.1 (hr.2 g)
      · simpa [hc] using resolveRoot_accounts h hs hc.1 hc.2

end Start

/-! ## Answering the waiters -/

section Provisioning

theorem wake_accounts {w : Waiter} (h : Accounted ((w.owner, w.gen) :: extra) held d) (ok : Bool) :
    Accounted extra held (after (wake w ok) d) := by
  simp only [wake, after_updateCache_bind]
  exact enableDone_accounts (h.setCfg _ _) ok

/-- Waking a list of waiters continues each of their enables once; none is skipped, since
waking one never stops. -/
theorem forM_wake_accounts (ok : Bool) :
    ∀ (ws : List Waiter) {extra : List (Nat × Nat)} {d : State},
      Accounted (ws.map (fun w => (w.owner, w.gen)) ++ extra) held d →
        Accounted extra held (after (ws.forM fun w => wake w ok) d)
  | [], _, _, h => h
  | w :: ws, _, _, h =>
    after_bind_total (x := wake w ok) (f := fun _ => ws.forM fun w => wake w ok) (total_wake w ok)
      h.sound (wake_accounts h ok) fun _ _ hs => forM_wake_accounts ok ws hs

/-- The check in hand settles its key and wakes every waiter with the outcome. -/
theorem resolve_accounts {a : Attempt} (h : Accounted extra (a :: held) d) (ok : Bool) :
    Accounted extra held (after (resolve a ok) d) := by
  have hst : (if ok then ProvisionState.valid else .missing) ≠ .checking := by cases ok <;> simp
  obtain ⟨ks, hks, -, h'⟩ := h.settleKey hst
  simp only [resolve, after_getKey_bind, hks, Option.getD_some]
  cases ok
  · simp only [Bool.not_false, if_true, after_count_bind, after_setKey_bind]
    exact forM_wake_accounts false _ (h'.counters _)
  · simp only [Bool.not_true, Bool.false_eq_true, if_false, after_setKey_bind]
    exact forM_wake_accounts true _ h'

/-- The check in hand gives its key up for every waiter but the first, whose enable, the
check's own, is taken back in hand. -/
theorem handOff_accounts {a : Attempt} (h : Accounted extra (a :: held) d) :
    Accounted ((a.owner, a.gen) :: extra) held (after (handOff a) d) := by
  obtain ⟨ks, hks, hhead, h'⟩ := h.settleKey (show ProvisionState.missing ≠ .checking by simp)
  obtain ⟨rest, hw⟩ : ∃ rest, ks.waiters = ⟨a.owner, a.key, a.gen⟩ :: rest := by
    cases hws : ks.waiters with
    | nil => simp [hws] at hhead
    | cons w rest =>
      simp only [hws, List.head?_cons, Option.some.injEq] at hhead
      exact ⟨rest, by rw [hhead]⟩
  simp only [handOff, after_getKey_bind, hks, Option.getD_some, after_setKey_bind, hw,
    List.drop_one, List.tail_cons]
  refine forM_wake_accounts false rest (h'.perm_hand ?_)
  simp [KeyState.enables, hw]

/-- A failed check reports, and settles its key as missing. -/
theorem fail_accounts {a : Attempt} (h : Accounted extra (a :: held) d) (severity : Severity)
    (message : String) (res : Shell.RunResult) :
    Accounted extra held (after (fail a severity message res) d) := by
  simp only [fail, after_sidOf_bind]
  refine after_bind_total (total_report _ _ _) h.sound (steady_report _ _ _ _ _ d h)
    fun _ s hs => ?_
  split
  · exact after_bind_total (total_writeLog _ _ _) hs.sound (steady_writeLog _ _ _ _ _ s hs)
      fun _ _ hs => resolve_accounts hs false
  · exact resolve_accounts hs false

/-- A successful check is recorded in the ready store, which cannot fault, and settles its key
as valid. -/
theorem succeed_accounts {a : Attempt} (h : Accounted extra (a :: held) d) :
    Accounted extra held (after (succeed a) d) := by
  simp only [succeed, after_count_bind]
  refine after_bind_total (total_markValid _ _) (h.counters _).sound
    (steady_markValid _ _ _ _ _ (h.counters _)) fun _ s hs => ?_
  exact after_bind_total (total_remember _ _) hs.sound (steady_remember _ _ _ _ _ hs)
    fun _ _ hs => resolve_accounts hs true

/-! ## The runs of a check -/

theorem runFor_accounts {a : Attempt} {k : RunNext} (script : String) (timeoutMs : Int)
    (h : Accounted (k.enable?.toList ++ extra) (k.check?.toList ++ held) d) :
    Accounted extra held (after (runFor a script timeoutMs k) d) := by
  simp only [runFor, after_sidOf_bind]
  exact runRemote_accounts _ _ _ _ h

theorem probe_accounts {a : Attempt} (h : Accounted extra (a :: held) d) :
    Accounted extra held (after (probe a) d) :=
  runFor_accounts (k := .executable a) _ _ h

theorem detect_accounts {a : Attempt} (h : Accounted extra (a :: held) d) (installed : Bool) :
    Accounted extra held (after (detect a installed) d) :=
  runFor_accounts (k := .detect a installed) _ _ h

theorem install_accounts {a : Attempt} (h : Accounted extra (a :: held) d) :
    Accounted extra held (after (install a) d) := by
  simp only [install, after_sidOf_bind]
  exact after_bind_total (total_report _ _ _) h.sound (steady_report _ _ _ _ _ d h)
    fun _ _ hs => runFor_accounts (k := .install a) _ _ hs

theorem confirmInstall_accounts {a : Attempt} (h : Accounted extra (a :: held) d) :
    Accounted extra held (after (confirmInstall a) d) := by
  simp only [confirmInstall, after_sidOf_bind]
  exact askConfirm_accounts _ _ _ h

theorem interpreterMissing_accounts {a : Attempt} (h : Accounted extra (a :: held) d)
    (res : Shell.RunResult) : Accounted extra held (after (interpreterMissing a res) d) := by
  simp only [interpreterMissing, after_configOf_bind]
  split
  · simp only [after_updateCache_bind, after_get_bind, after_sidOf_bind]
    exact askInput_accounts (k := .environment a res) _ _ _ _ _ (h.setCfg _ _)
  · exact fail_accounts h _ _ res

/-! ## Making sure of a backend -/

theorem promptHost_accounts {i g : Nat} (h : Accounted ((i, g) :: extra) held d) :
    Accounted extra held (after (promptHost i g) d) := by
  simp only [promptHost, after_updateCache_bind, after_sidOf_bind, after_get_bind]
  exact askInput_accounts (k := .host i g) _ _ _ _ _ (h.setCfg _ _)

/-- The enable in hand is continued at once from what the session or the store already knows,
waits on a key being checked, waits on the host prompt, or starts a check of its key. -/
theorem ensure_accounts {i g : Nat} (h : Accounted ((i, g) :: extra) held d) (retried : Bool) :
    Accounted extra held (after (ensure i g retried) d) := by
  cases hs : d.instances[i]? with
  | none => simpa [ensure, hs] using h.drop_stale (not_awaits_of_none hs)
  | some s =>
    simp only [ensure, after_getInstance_bind, hs]
    split
    · exact enableDone_accounts h true
    split
    · exact enableDone_accounts h false
    split
    · split
      · exact promptHost_accounts h
      · simp only [after_updateCache_bind]
        exact after_bind_total (total_report _ _ _) (h.setCfg _ _).sound
          (steady_report _ _ _ _ _ _ (h.setCfg _ _)) fun _ _ hs => enableDone_accounts hs false
    simp only [after_get_bind]
    split
    · simp only [after_count_bind, after_updateCache_bind]
      exact enableDone_accounts ((h.setCfg i _).counters _) true
    simp only [after_getKey_bind]
    -- a new check, unless the key is being checked already
    let a : Attempt := ⟨i, g, s.cfg.settings, s.cfg.settings.validationKey,
      interpreterPath s.cfg.settings.environment, retried⟩
    cases hk : Assoc.get? d.keys s.cfg.settings.validationKey with
    | some ks =>
      simp only
      split
      · exact h.wait hk ‹_›
      · rename_i hc
        simp only [after_setKey_bind]
        refine probe_accounts (Accounted.check (a := a) h fun ks' hks' => ?_)
        rw [hk] at hks'
        cases hks'
        exact hc
    | none =>
      simp only [after_setKey_bind]
      refine probe_accounts (Accounted.check (a := a) h fun ks' hks' => ?_)
      rw [hk] at hks'
      cases hks'

/-! ## Continuing a check -/

section Continue

variable {a : Attempt}

theorem afterExecutable_accounts (h : Accounted extra (a :: held) d) (res : Shell.RunResult) :
    Accounted extra held (after (afterExecutable a res) d) := by
  unfold afterExecutable
  split
  · exact detect_accounts h false
  split
  · exact fail_accounts h _ _ res
  · exact runFor_accounts (k := .version a) _ _ h

theorem afterVersion_accounts (h : Accounted extra (a :: held) d) (res : Shell.RunResult) :
    Accounted extra held (after (afterVersion a res) d) := by
  unfold afterVersion
  split
  · exact detect_accounts h false
  · exact interpreterMissing_accounts h res

theorem afterDetect_accounts (h : Accounted extra (a :: held) d) (installed : Bool)
    (res : Shell.RunResult) : Accounted extra held (after (afterDetect a installed res) d) := by
  simp only [afterDetect]
  split
  · exact succeed_accounts h
  split
  · exact fail_accounts h _ _ res
  split
  · exact fail_accounts h _ _ res
  split
  · simp only [after_count_bind]
    exact fail_accounts (h.counters _) _ _ res
  split
  · exact install_accounts h
  · exact confirmInstall_accounts h

theorem afterInstall_accounts (h : Accounted extra (a :: held) d) (res : Shell.RunResult) :
    Accounted extra held (after (afterInstall a res) d) := by
  simp only [afterInstall]
  split
  · simp only [after_count_bind]
    exact fail_accounts (h.counters _) _ _ res
  · simp only [after_count_bind]
    exact detect_accounts (h.counters _) true

theorem afterConfirm_accounts (h : Accounted extra (a :: held) d) (choice : String) (ok : Bool) :
    Accounted extra held (after (afterConfirm a choice ok) d) := by
  simp only [afterConfirm]
  split
  · simp only [after_sidOf_bind]
    exact after_bind_total (total_report _ _ _) h.sound (steady_report _ _ _ _ _ _ h)
      fun _ _ hs => resolve_accounts hs false
  · exact install_accounts h

/-- The answer to the prompt for a replacement environment: the check fails, or gives its key
up for the other waiters and starts again with the new environment. Choosing the environment
returns in a ready store, so the check is not lost on the way. -/
theorem afterEnvironment_accounts (h : Accounted extra (a :: held) d) (res : Shell.RunResult)
    (value : String) (cancelled : Bool) :
    Accounted extra held (after (afterEnvironment a res value cancelled) d) := by
  simp only [afterEnvironment, after_updateCache_bind]
  split
  · exact fail_accounts (h.setCfg _ _) _ _ res
  refine after_bind_total (total_setEnvironment _ _) (h.setCfg _ _).sound
    (steady_withConfig _ _ (Session.ConfigState.keepsReady_setEnvironment value).attempt _ _ _
      (h.setCfg _ _)) fun r _ hs => ?_
  split
  · exact fail_accounts hs _ _ res
  · exact after_bind_total (total_handOff a) hs.sound (handOff_accounts hs)
      fun _ _ hs => ensure_accounts hs true

end Continue

/-- The answer to the host prompt: the enable goes on with the host given, or is given up. -/
theorem afterHost_accounts {i g : Nat} (h : Accounted ((i, g) :: extra) held d) (value : String)
    (cancelled : Bool) : Accounted extra held (after (afterHost i g value cancelled) d) := by
  simp only [afterHost, after_updateCache_bind]
  split
  · simp only [after_configOf_bind, after_updateCache_bind]
    exact enableDone_accounts ((h.setCfg _ _).setCfg _ _) false
  · exact after_bind_total (total_setHost _ _) (h.setCfg _ _).sound
      (steady_withConfig _ _ (Session.ConfigState.keepsReady_setHost value) _ _ _ (h.setCfg _ _))
      fun _ _ hs => ensure_accounts hs false

end Provisioning

end RemoteLsp.Daemon
