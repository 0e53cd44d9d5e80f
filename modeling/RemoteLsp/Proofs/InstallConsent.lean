import RemoteLsp.Proofs.CheckSequence
import RemoteLsp.Proofs.Callbacks
import RemoteLsp.Proofs.Turns

/-!
# Consent to install

A check installs its backend only with the user's consent: the session installs without
asking, or the user answered the question whether to install with "Install". The question
itself, and the install without asking, follow only a first detection of the backend that ran
the interpreter and found the backend missing: the run succeeded in reaching the host, the
interpreter ran, and the backend was not there.

The statements follow each piece of work of a check from the turn that puts it in flight.
`Issues A op` says that every piece of work in flight after `op` was in flight before, or is
allowed by `A`. Almost every operation of the daemon puts no work of a check in flight, or only
the probe of a check it begins; the continuation of a check's step puts in flight only what that
step leads to. Main statements:

* a turn puts the install of a check in flight only by running the task that answers the
  check's first detection, with the backend missing and the session installing without asking,
  or the task that answers the question whether to install with "Install";
* a turn asks whether to install only by running the task that answers the check's first
  detection, with the backend missing and the session not installing without asking;
* after an install the check only detects the backend once more, and that detection puts no work
  in flight: no check installs twice.

`installs_need_consent` gathers them over every run.
-/

namespace RemoteLsp.Daemon

/-! ## Growing the work in flight -/

/-- Every piece of work in flight in `d'` was in flight in `d` or is allowed by `A`, and the
world of `d'` is not live. -/
def Grows (A : Attempt × Stage → Prop) (d d' : State) : Prop :=
  d'.world.live = none ∧ ∀ p ∈ work d', p ∈ work d ∨ A p

/-- The operation, run in a world that is not live, puts in flight only work allowed by `A`. -/
def Issues {α : Type} (A : Attempt × Stage → Prop) (op : M α) : Prop :=
  ∀ d, d.world.live = none → Grows A d (after op d)

section Grows

variable {A B : Attempt × Stage → Prop} {d₁ d₂ d₃ : State}

theorem Grows.refl (hl : d₁.world.live = none) : Grows A d₁ d₁ := ⟨hl, fun _ hp => .inl hp⟩

theorem Grows.trans (h₁ : Grows A d₁ d₂) (h₂ : Grows A d₂ d₃) : Grows A d₁ d₃ :=
  ⟨h₂.1, fun p hp => (h₂.2 p hp).elim (h₁.2 p) .inr⟩

theorem Grows.mono (h : Grows A d₁ d₂) (hA : ∀ p, A p → B p) : Grows B d₁ d₂ :=
  ⟨h.1, fun p hp => (h.2 p hp).imp_right (hA p)⟩

/-- A change that keeps the pending runs, the prompts, the queue and the world not live. -/
theorem Grows.of_frame (hl : d₂.world.live = none)
    (hr : d₂.world.pendingRuns = d₁.world.pendingRuns) (hp : d₂.world.prompts = d₁.world.prompts)
    (hq : d₂.world.queue = d₁.world.queue) : Grows A d₁ d₂ :=
  ⟨hl, fun p h => .inl (by simpa only [work, hr, hp, hq] using h)⟩

end Grows

/-- A settling change keeps the work in flight: it queues only tasks that continue no check. -/
theorem Settles.work_eq {d d' : State} (h : Settles d d') : work d' = work d := by
  obtain ⟨ts, hq, hc⟩ := h.queue_grows
  have hts : ts.filterMap Task.stage? = [] := List.filterMap_eq_nil_iff.mpr fun t ht => by
    have hm := Task.map_fst_stage? t
    rw [hc t ht, Option.map_eq_none_iff] at hm
    exact hm
  simp only [work, h.pendingRuns, h.prompts, hq, List.filterMap_append, hts, List.append_nil]

namespace Issues

variable {α β : Type} {A B : Attempt × Stage → Prop}

theorem pure (a : α) : Issues A (Pure.pure a : M α) := fun _ hl => Grows.refl hl

theorem bind {x : M α} {f : α → M β} (hx : Issues A x) (hf : ∀ a, Issues A (f a)) :
    Issues A (x >>= f) := fun d hl =>
  after_bind_of (Q := Grows A d) (hx d hl) (fun a s hs => hs.trans (hf a s hs.1)) fun _ hs => hs

theorem mono {op : M α} (h : Issues A op) (hA : ∀ p, A p → B p) : Issues B op :=
  fun d hl => (h d hl).mono hA

theorem of_settled {op : M α} (h : Settled op) : Issues A op := fun d hl =>
  have hs := h d hl
  ⟨hs.live.trans hl, fun _ hp => .inl (hs.work_eq ▸ hp)⟩

theorem forM {xs : List α} {f : α → M PUnit} (h : ∀ x, Issues A (f x)) : Issues A (xs.forM f) :=
  forM_of_bind (P := fun op => Issues A op) pure bind h

theorem attempt {op : M α} (h : Issues A op) : Issues A (Op.attempt op) := fun d hl => by
  rw [after_attempt]
  exact h d hl

theorem fail (p : Problem) : Issues A (Op.fail p : M α) := fun _ hl => Grows.refl hl

end Issues

/-! ## Handing work to the world -/

section Primitives

variable {A : Attempt × Stage → Prop}

/-- What a world gains in flight, beside what it had: pending runs, prompts and queued tasks. -/
theorem mem_work_of_gain {d d' : State} {rs : List (Nat × RunNext)} {ps : List Prompt}
    {ts : List Task} (hr : ∀ x ∈ d'.world.pendingRuns, x ∈ d.world.pendingRuns ∨ x ∈ rs)
    (hp : ∀ x ∈ d'.world.prompts, x ∈ d.world.prompts ∨ x ∈ ps)
    (hq : ∀ x ∈ d'.world.queue, x ∈ d.world.queue ∨ x ∈ ts) {p : Attempt × Stage}
    (h : p ∈ work d') :
    p ∈ work d ∨ (∃ x ∈ rs, x.2.stage? = some p) ∨ (∃ x ∈ ps, x.stage? = some p) ∨
      ∃ x ∈ ts, x.stage? = some p := by
  simp only [work, List.mem_append, List.mem_filterMap] at h ⊢
  rcases h with (⟨x, hx, hs⟩ | ⟨x, hx, hs⟩) | ⟨x, hx, hs⟩
  · exact (hr x hx).elim (fun h => .inl (.inl (.inl ⟨x, h, hs⟩))) fun h => .inr (.inl ⟨x, h, hs⟩)
  · exact (hp x hx).elim (fun h => .inl (.inl (.inr ⟨x, h, hs⟩))) fun h => .inr (.inr (.inl ⟨x, h, hs⟩))
  · exact (hq x hx).elim (fun h => .inl (.inr ⟨x, h, hs⟩)) fun h => .inr (.inr (.inr ⟨x, h, hs⟩))

/-- A change that adds pending runs, prompts and tasks, and may drop some, grows the work in
flight by their steps. -/
theorem Grows.of_gain {d d' : State} (rs : List (Nat × RunNext)) (ps : List Prompt)
    (ts : List Task) (hl : d'.world.live = none)
    (hr : ∀ x ∈ d'.world.pendingRuns, x ∈ d.world.pendingRuns ∨ x ∈ rs)
    (hp : ∀ x ∈ d'.world.prompts, x ∈ d.world.prompts ∨ x ∈ ps)
    (hq : ∀ x ∈ d'.world.queue, x ∈ d.world.queue ∨ x ∈ ts)
    (hA : ∀ p, ((∃ x ∈ rs, x.2.stage? = some p) ∨ (∃ x ∈ ps, x.stage? = some p) ∨
      ∃ x ∈ ts, x.stage? = some p) → p ∈ work d ∨ A p) : Grows A d d' :=
  ⟨hl, fun p h => (mem_work_of_gain hr hp hq h).elim .inl (hA p)⟩

theorem issues_of_read {α : Type} {op : M α} (h : ∀ d, ∃ a, op.run d = .ok a d) : Issues A op :=
  Issues.of_settled (Settled.of_read h)

theorem issues_setKey (key : String) (ks : KeyState) : Issues A (setKey key ks) := fun _ hl =>
  Grows.of_frame hl rfl rfl rfl

theorem issues_setInstance (i : Nat) (f : Instance → Instance) : Issues A (setInstance i f) :=
  fun _ hl => Grows.of_frame hl rfl rfl rfl

theorem issues_updateCache (i : Nat) (f : ValidationCache → ValidationCache) :
    Issues A (updateCache i f) :=
  issues_setInstance i _

/-- Changing an instance's configuration and the store touches no work in flight. -/
theorem issues_withConfig {α : Type} (i : Nat) (op : Op Session.ConfigState α) (fallback : α) :
    Issues A (withConfig i op fallback) := by
  intro d hl
  simp only [withConfig, after, EStateM.run_bind, EStateM.run_get]
  cases hs : d.instances[i]? with
  | none => exact Grows.refl hl
  | some s =>
    cases hr : op.run ⟨s.cfg, d.store⟩ <;> simp only [hr] <;> exact Grows.of_frame hl rfl rfl rfl

/-- A remote run puts in flight the work its continuation names. -/
theorem issues_runRemote {next : RunNext} (hn : ∀ p, next.stage? = some p → A p) (sid : Nat)
    (host script : String) (timeoutMs : Int) : Issues A (runRemote sid host script timeoutMs next) := by
  intro d hl
  cases hr : d.world.scriptedRuns with
  | nil =>
    rw [after_runRemote_pending hl hr]
    refine Grows.of_gain [(d.world.nextRun, next)] [] [] hl (by simp)
      (by simp) (by simp) fun p hp => ?_
    exact .inr (hn p (by simpa using hp))
  | cons res rest =>
    rw [after_runRemote_scripted hl hr]
    refine Grows.of_gain [] [] [.ran next res] hl (by simp) (by simp)
      (by simp) fun p hp => ?_
    exact .inr (hn p (by simpa [Task.stage?] using hp))

/-- A question for a value puts in flight the work its continuation names. -/
theorem issues_askInput {next : InputNext} (hn : ∀ p, next.stage? = some p → A p) (sid : Nat)
    (kind text preset : String) (choices : List String) :
    Issues A (askInput sid kind text preset choices next) := by
  intro d hl
  cases hi : d.world.scriptedInputs with
  | nil =>
    rw [after_askInput_pending hl hi]
    refine Grows.of_gain [] [.input d.world.nextPrompt next] [] hl (by simp) (by simp) (by simp)
      fun p hp => .inr (hn p (by simpa [Prompt.stage?] using hp))
  | cons answer rest =>
    rw [after_askInput_scripted hl hi]
    refine Grows.of_gain [] [] [.answered next answer.1 answer.2] hl (by simp) (by simp) (by simp)
      fun p hp => .inr (hn p (by simpa [Task.stage?] using hp))

/-- The question whether to install puts in flight the question of its check. -/
theorem issues_askConfirm {a : Attempt} (ha : A (a, .confirm)) (sid : Nat) (message : String)
    (actions : List String) : Issues A (askConfirm sid message actions a) := by
  intro d hl
  cases hc : d.world.scriptedConfirms with
  | nil =>
    rw [after_askConfirm_pending hl hc]
    refine Grows.of_gain [] [.confirm d.world.nextPrompt a] [] hl (by simp) (by simp) (by simp)
      fun p hp => ?_
    obtain rfl : p = (a, .confirm) := by simpa [Prompt.stage?, eq_comm] using hp
    exact .inr ha
  | cons answer rest =>
    rw [after_askConfirm_scripted hl hc]
    refine Grows.of_gain [] [] [.confirmed a answer.1 answer.2] hl (by simp) (by simp) (by simp)
      fun p hp => ?_
    obtain rfl : p = (a, .confirm) := by simpa [Task.stage?, eq_comm] using hp
    exact .inr ha

theorem issues_runFor {a : Attempt} {next : RunNext} (hn : ∀ p, next.stage? = some p → A p)
    (script : String) (timeoutMs : Int) : Issues A (runFor a script timeoutMs next) :=
  (issues_of_read fun d => ⟨_, run_sidOf a.owner d⟩).bind fun _ => issues_runRemote hn _ _ _ _

end Primitives

/-! ## Operations that put no work of a check in flight -/

section Quiet

variable {A : Attempt × Stage → Prop}

theorem issues_get : Issues A (get : M State) := Issues.of_settled settled_get

theorem issues_getInstance (i : Nat) : Issues A (getInstance i) :=
  Issues.of_settled (settled_getInstance i)

theorem issues_sidOf (i : Nat) : Issues A (sidOf i) := issues_of_read fun d => ⟨_, run_sidOf i d⟩

theorem issues_getKey (key : String) : Issues A (getKey key) :=
  issues_of_read fun d => ⟨_, run_getKey key d⟩

theorem issues_start (i : Nat) (root : String) : Issues A (start i root) :=
  Issues.of_settled (settled_start i root)

/-- Looking for the workspace root starts a server or runs the search on the host, which
continues no check. -/
theorem issues_resolveRoot (i g : Nat) : Issues A (resolveRoot i g) := by
  unfold resolveRoot
  refine (issues_getInstance i).bind fun o => ?_
  rcases o with _ | s
  · exact Issues.pure _
  refine issues_get.bind fun d => ?_
  dsimp only
  repeat' split
  all_goals first
    | exact issues_start _ _
    | exact issues_runRemote (fun _ h => by cases h) _ _ _ _

theorem issues_rootFound (i g : Nat) (dir : String) (res : Shell.RunResult) :
    Issues A (rootFound i g dir res) := by
  unfold rootFound
  refine (issues_getInstance i).bind fun o => ?_
  rcases o with _ | s
  · exact Issues.pure _
  dsimp only
  split
  · exact Issues.pure _
  · exact issues_start _ _

theorem issues_enableDone (i g : Nat) (ok : Bool) : Issues A (enableDone i g ok) := by
  unfold enableDone
  refine (issues_getInstance i).bind fun o => ?_
  rcases o with _ | s
  · exact Issues.pure _
  dsimp only
  split
  · exact Issues.pure _
  split
  · exact issues_setInstance _ _
  · exact issues_resolveRoot _ _

theorem issues_wake (w : Waiter) (ok : Bool) : Issues A (wake w ok) :=
  (issues_updateCache _ _).bind fun _ => issues_enableDone _ _ _

theorem issues_resolve (a : Attempt) (ok : Bool) : Issues A (resolve a ok) := by
  have hwake : ∀ ws : List Waiter, Issues A (ws.forM fun w => wake w ok) := fun _ =>
    Issues.forM fun w => issues_wake w ok
  unfold resolve
  refine (issues_getKey _).bind fun _ => ?_
  dsimp only
  split
  · exact (Issues.of_settled (settled_count _)).bind fun _ =>
      (issues_setKey _ _).bind fun _ => hwake _
  · exact (issues_setKey _ _).bind fun _ => hwake _

theorem issues_handOff (a : Attempt) : Issues A (handOff a) :=
  (issues_getKey _).bind fun _ => (issues_setKey _ _).bind fun _ =>
    Issues.forM fun w => issues_wake w false

theorem issues_fail (a : Attempt) (severity : Severity) (message : String) (res : Shell.RunResult) :
    Issues A (fail a severity message res) := by
  unfold fail
  refine (issues_sidOf _).bind fun sid => (Issues.of_settled (settled_report _ _ _)).bind fun _ => ?_
  dsimp only
  split
  · exact (Issues.of_settled (settled_writeLog _ _ _)).bind fun _ => issues_resolve a false
  · exact issues_resolve a false

theorem issues_succeed (a : Attempt) : Issues A (succeed a) :=
  (Issues.of_settled (settled_count _)).bind fun _ => (Issues.of_settled (settled_markValid _ _)).bind
    fun _ => (Issues.of_settled (settled_remember _ _)).bind fun _ => issues_resolve a true

theorem issues_promptHost (i g : Nat) : Issues A (promptHost i g) :=
  (issues_updateCache _ _).bind fun _ => (issues_sidOf _).bind fun _ => issues_get.bind fun _ =>
    issues_askInput (fun _ h => by cases h) _ _ _ _ _

end Quiet

/-! ## What the steps of a check put in flight -/

/-- The run of a detection reached the host and ran the interpreter, which did not find the
backend: it failed, neither by a timeout nor for want of starting `ssh`, and its exit code is
neither the one of a broken interpreter nor `ssh`'s own. -/
def Missing (res : Shell.RunResult) : Prop :=
  res.success = false ∧ res.timedOut = false ∧ res.spawnFailed = false ∧
    res.exitCode ≠ interpreterBroken ∧ res.exitCode ≠ transportFailure

/-- The task lets check `a` install: it answers `a`'s first detection, which found the backend
missing, and the session installs without asking; or it answers `a`'s question whether to
install with "Install". -/
def Consents (a : Attempt) : Task → Prop
  | .ran (.detect b installed) res =>
    b = a ∧ installed = false ∧ Missing res ∧ a.settings.autoInstall = true
  | .confirmed b choice ok => b = a ∧ choice = "Install" ∧ ok = true
  | _ => False

/-- The task lets check `a` ask whether to install: it answers `a`'s first detection, which
found the backend missing, and the session does not install without asking. -/
def Asks (a : Attempt) : Task → Prop
  | .ran (.detect b installed) res =>
    b = a ∧ installed = false ∧ Missing res ∧ a.settings.autoInstall = false
  | _ => False

/-- What running a task may put in flight: an install only where the task consents to it, and
the question whether to install only where the task asks it. -/
def Task.warrants (t : Task) (p : Attempt × Stage) : Prop :=
  (p.2 = .install → Consents p.1 t) ∧ (p.2 = .confirm → Asks p.1 t)

/-- Work of a check other than an install or the question whether to install. -/
def Plain (p : Attempt × Stage) : Prop := p.2 ≠ .install ∧ p.2 ≠ .confirm

theorem Plain.warrants {p : Attempt × Stage} (h : Plain p) (t : Task) : t.warrants p :=
  ⟨fun hi => absurd hi h.1, fun hc => absurd hc h.2⟩

theorem plain_of_probe {p : Attempt × Stage} (h : p.2 = .probe) : Plain p := by
  simp [Plain, h]

/-- The two tasks that consent to an install. -/
theorem Consents.cases {a : Attempt} {t : Task} (h : Consents a t) :
    (∃ res, t = .ran (.detect a false) res ∧ Missing res ∧ a.settings.autoInstall = true) ∨
      t = .confirmed a "Install" true := by
  cases t with
  | ran next res =>
    cases next with
    | detect b installed =>
      obtain ⟨rfl, rfl, hm, ha⟩ := h
      exact .inl ⟨res, rfl, hm, ha⟩
    | _ => exact h.elim
  | confirmed b choice ok =>
    obtain ⟨rfl, rfl, rfl⟩ := h
    exact .inr rfl
  | _ => exact h.elim

/-- The one task that asks whether to install. -/
theorem Asks.cases {a : Attempt} {t : Task} (h : Asks a t) :
    ∃ res, t = .ran (.detect a false) res ∧ Missing res ∧ a.settings.autoInstall = false := by
  cases t with
  | ran next res =>
    cases next with
    | detect b installed =>
      obtain ⟨rfl, rfl, hm, ha⟩ := h
      exact ⟨res, rfl, hm, ha⟩
    | _ => exact h.elim
  | _ => exact h.elim

section Steps

theorem issues_probe (a : Attempt) : Issues (fun p => p.2 = .probe) (probe a) :=
  issues_runFor (fun _ h => by cases h; rfl) _ _

/-- `ensure` puts in flight at most the probe of the check it begins. -/
theorem issues_ensure (i g : Nat) (retried : Bool) :
    Issues (fun p => p.2 = .probe) (ensure i g retried) := by
  unfold ensure
  refine (issues_getInstance i).bind fun o => ?_
  rcases o with _ | s
  · exact Issues.pure _
  dsimp only
  split
  · exact issues_enableDone _ _ _
  split
  · exact issues_enableDone _ _ _
  split
  · split
    · exact issues_promptHost _ _
    · exact (issues_updateCache _ _).bind fun _ =>
        (Issues.of_settled (settled_report _ _ _)).bind fun _ => issues_enableDone _ _ _
  refine issues_get.bind fun d => ?_
  split
  · exact (Issues.of_settled (settled_count _)).bind fun _ =>
      (issues_updateCache _ _).bind fun _ => issues_enableDone _ _ _
  refine (issues_getKey _).bind fun o => ?_
  rcases o with _ | ks
  · exact (issues_setKey _ _).bind fun _ => issues_probe _
  · dsimp only
    split
    · exact issues_setKey _ _
    · exact (issues_setKey _ _).bind fun _ => issues_probe _

variable {a : Attempt} (res : Shell.RunResult)

theorem issues_detect (installed : Bool) : Issues Plain (detect a installed) :=
  issues_runFor (fun _ h => by cases h; cases installed <;> simp [Plain]) _ _

theorem issues_install {A : Attempt × Stage → Prop} (ha : A (a, .install)) :
    Issues A (install a) :=
  (issues_sidOf _).bind fun _ => (Issues.of_settled (settled_report _ _ _)).bind fun _ =>
    issues_runFor (fun _ h => by cases h; exact ha) _ _

theorem issues_confirmInstall {A : Attempt × Stage → Prop} (ha : A (a, .confirm)) :
    Issues A (confirmInstall a) :=
  (issues_sidOf _).bind fun _ => issues_askConfirm ha _ _ _

theorem issues_interpreterMissing : Issues Plain (interpreterMissing a res) := by
  unfold interpreterMissing
  refine (issues_of_read fun d => ⟨_, run_configOf a.owner d⟩).bind fun cfg => ?_
  dsimp only
  split
  · exact (issues_updateCache _ _).bind fun _ => issues_get.bind fun _ => (issues_sidOf _).bind
      fun _ => issues_askInput (fun _ h => by cases h; simp [Plain]) _ _ _ _ _
  · exact issues_fail _ _ _ _

theorem issues_afterExecutable : Issues Plain (afterExecutable a res) := by
  unfold afterExecutable
  split
  · exact issues_detect false
  split
  · exact issues_fail _ _ _ _
  · exact issues_runFor (fun _ h => by cases h; simp [Plain]) _ _

theorem issues_afterVersion : Issues Plain (afterVersion a res) := by
  unfold afterVersion
  split
  · exact issues_detect false
  · exact issues_interpreterMissing res

/-- The answer to a detection installs, or asks whether to, only as the task warrants. -/
theorem issues_afterDetect (installed : Bool) :
    Issues (Task.ran (.detect a installed) res).warrants (afterDetect a installed res) := by
  unfold afterDetect
  split
  · exact issues_succeed a
  rename_i hs
  split
  · exact issues_fail _ _ _ _
  rename_i hu
  split
  · exact issues_fail _ _ _ _
  rename_i hb
  split
  · exact (Issues.of_settled (settled_count _)).bind fun _ => issues_fail _ _ _ _
  rename_i hi
  have hm : Missing res := by
    simp only [unreachable, Bool.or_eq_true, decide_eq_true_eq, not_or, Bool.not_eq_true] at hs hu
    exact ⟨hs, hu.1.1, hu.1.2, hb, hu.2⟩
  have hi : installed = false := by simpa using hi
  split
  · rename_i ha
    exact issues_install (by simp [Task.warrants, Consents, hi, hm, ha])
  · rename_i ha
    exact issues_confirmInstall (by simpa [Task.warrants, Asks, hi, hm] using ha)

/-- The detection after an install answers the check: it succeeds or fails, and puts no work in
flight. -/
theorem issues_afterDetect_installed : Issues (fun _ => False) (afterDetect a true res) := by
  unfold afterDetect
  split
  · exact issues_succeed a
  split
  · exact issues_fail _ _ _ _
  split
  · exact issues_fail _ _ _ _
  split
  · exact (Issues.of_settled (settled_count _)).bind fun _ => issues_fail _ _ _ _
  · exact absurd rfl ‹¬true = true›

/-- After the install, the check only detects the backend once more. -/
theorem issues_afterInstall : Issues (fun p => p = (a, .redetect)) (afterInstall a res) := by
  unfold afterInstall
  split
  · exact (Issues.of_settled (settled_count _)).bind fun _ => issues_fail _ _ _ _
  · exact (Issues.of_settled (settled_count _)).bind fun _ =>
      issues_runFor (fun _ h => by cases h; rfl) _ _

/-- The answer to the question whether to install installs only when it is "Install". -/
theorem issues_afterConfirm (choice : String) (ok : Bool) :
    Issues (Task.confirmed a choice ok).warrants (afterConfirm a choice ok) := by
  unfold afterConfirm
  split
  · exact (issues_sidOf _).bind fun _ => (Issues.of_settled (settled_report _ _ _)).bind fun _ =>
      issues_resolve a false
  · rename_i h
    simp only [Bool.or_eq_true, Bool.not_eq_true', decide_eq_true_eq, not_or, Decidable.not_not] at h
    exact issues_install (by simp [Task.warrants, Consents, h.1, h.2])

/-- Another environment chosen: the check gives its key up and the owner's enable starts over,
which begins at most a probe. -/
theorem issues_afterEnvironment (value : String) (cancelled : Bool) :
    Issues (fun p => p.2 = .probe) (afterEnvironment a res value cancelled) := by
  unfold afterEnvironment
  refine (issues_updateCache _ _).bind fun _ => ?_
  dsimp only
  split
  · exact issues_fail _ _ _ _
  refine (issues_withConfig _ _ _).bind fun r => ?_
  rcases r with _ | _
  · exact issues_fail _ _ _ _
  · exact (issues_handOff a).bind fun _ => issues_ensure _ _ _

theorem issues_afterHost (i g : Nat) (value : String) (cancelled : Bool) :
    Issues (fun p => p.2 = .probe) (afterHost i g value cancelled) := by
  unfold afterHost
  refine (issues_updateCache _ _).bind fun _ => ?_
  split
  · exact (issues_of_read fun d => ⟨_, run_configOf i d⟩).bind fun _ =>
      (issues_updateCache _ _).bind fun _ => issues_enableDone _ _ _
  · exact (issues_withConfig _ _ _).bind fun _ => issues_ensure _ _ _

end Steps

/-! ## What the loop's tasks and the session API put in flight -/

section Loop

/-- An enable begins at most the probe of a check. -/
theorem issues_enable (i : Nat) : Issues (fun p => p.2 = .probe) (enable i) := by
  unfold enable
  refine (issues_getInstance i).bind fun o => ?_
  rcases o with _ | s
  · exact Issues.pure _
  dsimp only
  split
  · exact Issues.pure _
  -- an instance neither provisioning, starting nor attached moves to a new generation
  split
  all_goals first
    | exact Issues.pure _
    | exact (Issues.of_settled (settled_cancelReconnect i)).bind fun _ =>
        (issues_setInstance _ _).bind fun _ => issues_ensure _ _ _

theorem issues_reconnectFired (i g : Nat) (buffer : String) :
    Issues (fun p => p.2 = .probe) (reconnectFired i g buffer) := by
  unfold reconnectFired
  refine (issues_getInstance i).bind fun o => ?_
  rcases o with _ | s
  · exact Issues.pure _
  dsimp only
  split
  · exact Issues.pure _
  refine (issues_setInstance _ _).bind fun _ => ?_
  split
  · exact issues_enable i
  · exact issues_setInstance _ _

/-- Running a task puts in flight only what it warrants: an install where it consents, the
question whether to install where it asks. -/
theorem issues_runTask (t : Task) : Issues t.warrants (runTask t) := by
  have plain : ∀ {op : M Unit}, Issues (fun p => p.2 = .probe) op → Issues t.warrants op :=
    fun h => h.mono fun _ hp => (plain_of_probe hp).warrants t
  cases t with
  | ran next res =>
    cases next with
    | executable a => exact (issues_afterExecutable res).mono fun _ hp => hp.warrants _
    | version a => exact (issues_afterVersion res).mono fun _ hp => hp.warrants _
    | detect a installed => exact issues_afterDetect res installed
    | install a =>
      refine (issues_afterInstall res).mono fun p hp => ?_
      subst hp
      exact Plain.warrants (by simp [Plain]) _
    | root inst gen dir => exact issues_rootFound _ _ _ _
  | answered next value cancelled =>
    cases next with
    | host inst gen => exact plain (issues_afterHost _ _ _ _)
    | environment a res => exact plain (issues_afterEnvironment res _ _)
  | confirmed a choice ok => exact issues_afterConfirm choice ok
  | initialized inst n answer => exact Issues.of_settled (settled_initialized _ _ _)
  | exited inst n status => exact Issues.of_settled (settled_exited _ _ _)
  | reconnect inst gen buffer => exact plain (issues_reconnectFired _ _ _)

end Loop

/-! ## The world's answers and the session API -/

section Inputs

variable {A : Attempt × Stage → Prop}

/-- A finished remote run moves the work it continues to the queue. -/
theorem issues_completeRun (id? : Option Nat) (res : Shell.RunResult) :
    Issues A (completeRun id? res) := by
  intro d hl
  simp only [completeRun, after_get_bind]
  split
  · exact Grows.refl hl
  · rename_i id next hentry
    have hm : (id, next) ∈ d.world.pendingRuns := by
      cases id? with
      | some k => exact List.mem_of_find?_eq_some hentry
      | none => exact List.mem_of_mem_head? hentry
    simp only [after_updateWorld_bind, after_post_bind, after_pure]
    refine Grows.of_gain [] [] [.ran next res] hl (fun x hx => .inl (List.mem_of_mem_filter hx))
      (by simp) (by simp) fun p hp => .inl ?_
    have hs : next.stage? = some p := by simpa [Task.stage?] using hp
    simp only [work, List.mem_append, List.mem_filterMap]
    exact .inl (.inl ⟨(id, next), hm, hs⟩)

/-- An answer to a question moves the work it continues to the queue. -/
theorem issues_answerInput (id? : Option Nat) (value : String) (cancelled : Bool) :
    Issues A (answerInput id? value cancelled) := by
  intro d hl
  simp only [answerInput, after_get_bind]
  split
  · rename_i id next hfind
    simp only [after_updateWorld_bind, after_post_bind, after_pure]
    refine Grows.of_gain [] [] [.answered next value cancelled] hl (by simp)
      (fun x hx => .inl (List.mem_of_mem_filter hx)) (by simp) fun p hp => .inl ?_
    have hs : (Prompt.input id next).stage? = some p := by simpa [Task.stage?, Prompt.stage?] using hp
    simp only [work, List.mem_append, List.mem_filterMap]
    exact .inl (.inr ⟨_, List.mem_of_find?_eq_some hfind, hs⟩)
  · exact Grows.refl hl

theorem issues_answerConfirm (id? : Option Nat) (choice : String) (ok : Bool) :
    Issues A (answerConfirm id? choice ok) := by
  intro d hl
  simp only [answerConfirm, after_get_bind]
  split
  · rename_i id a hfind
    simp only [after_updateWorld_bind, after_post_bind, after_pure]
    refine Grows.of_gain [] [] [.confirmed a choice ok] hl (by simp)
      (fun x hx => .inl (List.mem_of_mem_filter hx)) (by simp) fun p hp => .inl ?_
    have hs : (Prompt.confirm id a).stage? = some p := by simpa [Task.stage?, Prompt.stage?] using hp
    simp only [work, List.mem_append, List.mem_filterMap]
    exact .inl (.inr ⟨_, List.mem_of_find?_eq_some hfind, hs⟩)
  · exact Grows.refl hl

theorem issues_didOpen (sid : Nat) (doc : Document) :
    Issues (fun p => p.2 = .probe) (didOpen sid doc) := by
  unfold didOpen
  refine (Issues.of_settled (settled_lookup sid)).bind fun i => issues_get.bind fun d => ?_
  split
  · refine (issues_getInstance i).bind fun o => ?_
    rcases o with _ | s
    · exact Issues.pure _
    dsimp only
    split
    case' isTrue => refine (issues_withConfig _ _ _).bind fun _ => ?_
    case' isFalse => split; exact Issues.pure _
    -- the document is recorded on the instance as it is now, and the instance enabled
    all_goals
      refine (issues_getInstance i).bind fun o => ?_
      rcases o with _ | s
      · exact Issues.pure _
      refine (issues_setInstance _ _).bind fun _ => ?_
      split
      · split
        · exact Issues.of_settled (settled_sendOpen _ _)
        · exact Issues.pure _
      all_goals first | exact issues_enable i | exact Issues.pure _
  · exact Issues.pure _

theorem issues_restart (i : Nat) : Issues (fun p => p.2 = .probe) (restart i) := by
  unfold restart
  refine (Issues.of_settled (settled_halt i)).bind fun _ => (issues_setInstance _ _).bind fun _ =>
    (issues_updateCache _ _).bind fun _ =>
      (Issues.of_settled (settled_forgetOtherHosts i)).bind fun _ =>
        (issues_getInstance i).bind fun o => ?_
  rcases o with _ | s
  · exact Issues.pure _
  dsimp only
  split
  · exact issues_enable i
  · exact Issues.pure _

theorem issues_settingsChanged (sid : Nat) :
    Issues (fun p => p.2 = .probe) (settingsChanged sid) := by
  unfold settingsChanged
  refine (Issues.of_settled (settled_lookup sid)).bind fun i => (issues_getInstance i).bind
    fun o => ?_
  rcases o with _ | s
  · exact Issues.pure _
  dsimp only
  split
  · exact issues_restart i
  · exact Issues.pure _

/-- Handling an input begins at most the probes of checks: every other piece of work it puts in
flight was in flight already. -/
theorem issues_handle (x : Input) : Issues (fun p => p.2 = .probe) x.handle := by
  cases x with
  | sessionOpen sid cfg rootUri capabilities => exact Issues.of_settled (settled_openSession _ _ _ _)
  | sessionClose sid => exact Issues.of_settled (settled_closeSession _)
  | docOpen sid doc => exact issues_didOpen _ _
  | docChange sid uri version text => exact Issues.of_settled (settled_didChange _ _ _ _)
  | docClose sid uri => exact Issues.of_settled (settled_didClose _ _)
  | call sid method params => exact Issues.of_settled (settled_request _ _ _)
  | notification sid method params => exact Issues.of_settled (settled_notify _ _ _)
  | userRestart sid => exact (Issues.of_settled (settled_lookup sid)).bind fun _ => issues_restart _
  | userStop sid => exact Issues.of_settled (settled_stopSession _)
  | configChange sid change =>
    exact (Issues.of_settled (settled_lookup sid)).bind fun _ => issues_withConfig _ _ _
  | settingsChange sid => exact issues_settingsChanged _
  | runResult id? res => exact (issues_completeRun _ _).bind fun _ => Issues.pure _
  | inputAnswer id? value cancelled => exact (issues_answerInput _ _ _).bind fun _ => Issues.pure _
  | confirmAnswer id? choice ok => exact (issues_answerConfirm _ _ _).bind fun _ => Issues.pure _
  | exit n? status => exact (Issues.of_settled (settled_serverExit _ _)).bind fun _ => Issues.pure _
  | serverSays n? method params isCall =>
    exact (Issues.of_settled (settled_serverSends _ _ _ _)).bind fun _ => Issues.pure _
  | unhold n? => exact (Issues.of_settled (settled_releaseServer _)).bind fun _ => Issues.pure _
  | tick ms => exact (Issues.of_settled (settled_advance _)).bind fun _ => Issues.pure _
  | knownEnvironment host env => exact Issues.of_settled (settled_remember _ _)
  -- the world's settings and scripts are no work in flight
  | _ =>
    simp only [Input.handle, Input.op, scriptRuns, scriptInputs, scriptConfirms, setServerAnswer,
      setNotifyError, setEditorAnswer, setLaunchFailure, holdNextServer]
    exact fun _ hl => Grows.of_frame hl rfl rfl rfl

end Inputs

/-! ## Every turn -/

/-- Taking the task at the head of the queue off it puts nothing in flight. -/
theorem mem_work_of_pop {d : State} {t : Task} {rest : List Task} (hq : d.world.queue = t :: rest)
    {p : Attempt × Stage} (h : p ∈ work { d with world := { d.world with queue := rest } }) :
    p ∈ work d := by
  simp only [work, List.mem_append] at h ⊢
  exact h.imp_right fun h => hq ▸ ((List.sublist_cons_self t rest).filterMap _).subset h

/-- A turn puts in flight plain work only, or, when it runs the task at the head of the queue,
what that task warrants. -/
theorem turn_issues (t : Turn) {d : State} (hl : d.world.live = none) {p : Attempt × Stage}
    (hp : p ∈ work (after t.op d)) :
    p ∈ work d ∨ Plain p ∨ ∃ t' rest, t = .task t' ∧ d.world.queue = t' :: rest ∧ t'.warrants p := by
  cases t with
  | begin => exact .inl hp
  | input x => exact ((issues_handle x d hl).2 p hp).imp_right fun h => .inl (plain_of_probe h)
  | task t =>
    cases hq : d.world.queue with
    | nil => exact .inl (by simpa [Turn.op, hq] using hp)
    | cons t' rest =>
      by_cases he : t' = t
      · subst he
        rw [after_task hq] at hp
        -- the task taken off the queue was in flight; what it puts in flight it warrants
        rcases (issues_runTask t' { d with world := { d.world with queue := rest } } hl).2 p hp
          with hw | hw
        · exact .inl (mem_work_of_pop hq hw)
        · exact .inr (.inr ⟨t', rest, rfl, rfl, hw⟩)
      · exact .inl (by simpa [Turn.op, hq, he] using hp)

/-! ## Consent over every run -/

/-- In every run, a turn puts the install of a check in flight only by running the task at the
head of the queue that answers the check's first detection, which found the interpreter running
and the backend missing, while the session installs without asking, or the task that answers the
check's question whether to install with "Install". A turn asks that question only by running
the task that answers the check's first detection, which found the backend missing, while the
session does not install without asking. After an install the check only detects the backend
once more, and that detection puts no work in flight, so no check installs twice. -/
theorem installs_need_consent :
    (∀ d, Reaches d → ∀ (ts : List Turn) (t : Turn) (a : Attempt),
      (a, Stage.install) ∉ work (turnsAfter d ts) →
      (a, Stage.install) ∈ work (turnsAfter d (ts ++ [t])) →
      ∃ t' rest, t = .task t' ∧ (turnsAfter d ts).world.queue = t' :: rest ∧
        ((∃ res, t' = .ran (.detect a false) res ∧ res.success = false ∧ res.timedOut = false ∧
            res.spawnFailed = false ∧ res.exitCode ≠ 2 ∧ res.exitCode ≠ 255 ∧
            a.settings.autoInstall = true) ∨
          t' = .confirmed a "Install" true)) ∧
    (∀ d, Reaches d → ∀ (ts : List Turn) (t : Turn) (a : Attempt),
      (a, Stage.confirm) ∉ work (turnsAfter d ts) →
      (a, Stage.confirm) ∈ work (turnsAfter d (ts ++ [t])) →
      ∃ res rest, t = .task (.ran (.detect a false) res) ∧
        (turnsAfter d ts).world.queue = .ran (.detect a false) res :: rest ∧
        res.success = false ∧ res.timedOut = false ∧ res.spawnFailed = false ∧
        res.exitCode ≠ 2 ∧ res.exitCode ≠ 255 ∧ a.settings.autoInstall = false) ∧
    (∀ (a : Attempt) (res : Shell.RunResult) (d : State), d.world.live = none →
      ∀ p ∈ work (after (runTask (.ran (.install a) res)) d), p ∈ work d ∨ p = (a, .redetect)) ∧
    (∀ (a : Attempt) (res : Shell.RunResult) (d : State), d.world.live = none →
      ∀ p ∈ work (after (runTask (.ran (.detect a true) res)) d), p ∈ work d) := by
  -- every state of a run is in a world that is not live, and its next turn is read off it
  have live : ∀ d, Reaches d → ∀ ts, (turnsAfter d ts).world.live = none :=
    fun d hd ts => (turnsAfter_inv hd.inv ts).live
  have next : ∀ d ts (t : Turn), turnsAfter d (ts ++ [t]) = after t.op (turnsAfter d ts) :=
    fun d ts t => turnsAfter_append d ts [t]
  refine ⟨fun d hd ts t a hn hi => ?_, fun d hd ts t a hn hc => ?_, fun a res d hl p hp => ?_,
    fun a res d hl p hp => ?_⟩
  · rw [next] at hi
    rcases turn_issues t (live d hd ts) hi with h | h | ⟨t', rest, rfl, hq, hw⟩
    · exact absurd h hn
    · exact absurd rfl h.1
    · refine ⟨t', rest, rfl, hq, ?_⟩
      rcases (hw.1 rfl).cases with ⟨res, rfl, hm, ha⟩ | rfl
      · exact .inl ⟨res, rfl, hm.1, hm.2.1, hm.2.2.1, hm.2.2.2.1, hm.2.2.2.2, ha⟩
      · exact .inr rfl
  · rw [next] at hc
    rcases turn_issues t (live d hd ts) hc with h | h | ⟨t', rest, rfl, hq, hw⟩
    · exact absurd h hn
    · exact absurd rfl h.2
    · obtain ⟨res, rfl, hm, ha⟩ := (hw.2 rfl).cases
      exact ⟨res, rest, rfl, hq, hm.1, hm.2.1, hm.2.2.1, hm.2.2.2.1, hm.2.2.2.2, ha⟩
  · exact (issues_afterInstall res d hl).2 p hp
  · exact ((issues_afterDetect_installed res d hl).2 p hp).resolve_right id

/-- A session that installs without asking opens a document on its host; the probe passes, and
the first detection runs the interpreter and does not find the backend. The next turn runs the
answer to that detection and puts the install in flight, as the session allows. -/
theorem installs_need_consent_auto :
    ∃ d, Reaches d ∧ ∃ (ts : List Turn) (t : Turn) (a : Attempt),
      (a, Stage.install) ∉ work (turnsAfter d ts) ∧
      (a, Stage.install) ∈ work (turnsAfter d (ts ++ [t])) ∧
      ∃ t' rest, t = .task t' ∧ (turnsAfter d ts).world.queue = t' :: rest ∧
        ((∃ res, t' = .ran (.detect a false) res ∧ res.success = false ∧ res.timedOut = false ∧
            res.spawnFailed = false ∧ res.exitCode ≠ 2 ∧ res.exitCode ≠ 255 ∧
            a.settings.autoInstall = true) ∨
          t' = .confirmed a "Install" true) := by
  have hd := Reaches.step (.runResult none ⟨true, [], [], 0, "", false, false⟩)
    (Reaches.step (.docOpen 0 ⟨"scp://h1//srv/a.py", "python", 1, "x"⟩)
      (Reaches.step (.sessionOpen 0 ⟨{ host := "h1", autoInstall := true }, false, {}⟩ "" "")
        (@Reaches.init {} ⟨[], [], none⟩ .numbered {} _ rfl rfl rfl rfl rfl)))
  let a : Attempt := ⟨0, 1, { host := "h1", autoInstall := true }, "pyright|h1|", "python3", false⟩
  let missing : Shell.RunResult := ⟨false, [], [], 1, "", false, false⟩
  let ts : List Turn := [.begin, .input (.runResult none missing)]
  let t : Turn := .task (.ran (.detect a false) missing)
  -- the work before and after the turn is computed; who put the install in flight comes from
  -- the theorem
  refine ⟨_, hd, ts, t, a, ?before, ?after, installs_need_consent.1 _ hd ts t a ?before ?after⟩
  case before => decide +kernel
  case after => decide +kernel

end RemoteLsp.Daemon
