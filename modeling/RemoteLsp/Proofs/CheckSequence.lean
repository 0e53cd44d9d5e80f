import RemoteLsp.Proofs.Continuing

/-!
# The steps of a check

A check of a validation key goes through fixed steps. The interpreter is probed, and its
version is asked for when the probe fails for another reason than the host. Then the backend is
detected. A missing backend is installed, after the user confirms unless the session installs
without asking, and detected once more. A missing interpreter may be replaced, once, by an
environment the user types: the check then gives its key up, and the owner's enable starts over
with the key of the new environment.

`work d` lists the work in flight of every check with the step it is at: a remote run, a
question to the user, or a queued task that continues one of them. Main statements:

* in every reachable state the work in flight names each key at most once, so a key has at most
  one remote command outstanding, and the check of each item leads its key: the key is being
  checked with the check's owner waiting first, so its state is not replaced while the check is
  unresolved;
* continuing a step of a check leaves on its key nothing, or the same check at a step that may
  follow, or, once another environment was chosen, the probe of the owner's retry
  (`runTask_continues`);
* a check that `ensure` starts begins with its probe (`ensure_begins`);
* the steps that may follow one another are strictly ordered, so no step, and in particular no
  install, is taken twice by one check.

`checks_exclusive_and_sequential` gathers the four.
-/

namespace RemoteLsp.Daemon

open Identity

/-! ## The steps of a check -/

/-- A step of a check: a command run on the host, or a question to the user. -/
inductive Stage where
  /-- The test that the interpreter is executable. -/
  | probe
  /-- The run of the interpreter's version. -/
  | version
  /-- The first detection of the backend. -/
  | detect
  /-- The question whether to install the backend. -/
  | confirm
  /-- The install of the backend. -/
  | install
  /-- The detection of the backend after its install. -/
  | redetect
  /-- The question for another environment. -/
  | environment
  deriving DecidableEq, Repr

namespace Stage

/-- The steps that may follow a step of the same check. -/
def next : Stage → List Stage
  | probe => [version, detect]
  | version => [detect, environment]
  | detect => [install, confirm]
  | confirm => [install]
  | install => [redetect]
  | redetect => []
  | environment => []

/-- The position of a step within a check. -/
def rank : Stage → Nat
  | probe => 0
  | version => 1
  | detect => 2
  | confirm => 3
  | environment => 3
  | install => 4
  | redetect => 5

theorem rank_lt_of_mem_next {σ σ' : Stage} (h : σ' ∈ σ.next) : σ.rank < σ'.rank := by
  cases σ <;> cases σ' <;> simp_all [next, rank]

/-- Steps each of which may follow the one before are all different: a check takes no step
twice, so it installs at most once. -/
theorem nodup_of_isChain {l : List Stage} (h : l.IsChain fun σ σ' => σ' ∈ σ.next) : l.Nodup := by
  have hr : (l.map rank).IsChain (· < ·) :=
    List.isChain_map_of_isChain rank (fun _ _ => rank_lt_of_mem_next) h
  exact List.Nodup.of_map rank (hr.pairwise.imp Nat.ne_of_lt)

end Stage

/-! ## The step each piece of work is at -/

/-- The check a run belongs to, with its step. -/
def RunNext.stage? : RunNext → Option (Attempt × Stage)
  | .executable a => some (a, .probe)
  | .version a => some (a, .version)
  | .detect a installed => some (a, if installed then .redetect else .detect)
  | .install a => some (a, .install)
  | .root .. => none

/-- The check an answer continues, with its step. -/
def InputNext.stage? : InputNext → Option (Attempt × Stage)
  | .environment a _ => some (a, .environment)
  | .host .. => none

/-- The check a pending prompt belongs to, with its step. -/
def Prompt.stage? : Prompt → Option (Attempt × Stage)
  | .input _ next => next.stage?
  | .confirm _ a => some (a, .confirm)

/-- The check a queued task continues, with the step it answers. -/
def Task.stage? : Task → Option (Attempt × Stage)
  | .ran next _ => next.stage?
  | .answered next _ _ => next.stage?
  | .confirmed a _ _ => some (a, .confirm)
  | _ => none

@[simp] theorem RunNext.map_fst_stage? (next : RunNext) : next.stage?.map Prod.fst = next.check? := by
  cases next <;> rfl

@[simp] theorem InputNext.map_fst_stage? (next : InputNext) :
    next.stage?.map Prod.fst = next.check? := by
  cases next <;> rfl

@[simp] theorem Prompt.map_fst_stage? (p : Prompt) : p.stage?.map Prod.fst = p.check? := by
  cases p <;> simp [Prompt.stage?, Prompt.check?]

@[simp] theorem Task.map_fst_stage? (t : Task) : t.stage?.map Prod.fst = t.check? := by
  cases t <;> simp [Task.stage?, Task.check?]

/-- A run with a step belongs to a check and continues no enable. -/
theorem RunNext.views_of_stage? {next : RunNext} {a : Attempt} {σ : Stage}
    (h : next.stage? = some (a, σ)) : next.check? = some a ∧ next.enable? = none := by
  cases next <;> simp_all [RunNext.stage?, RunNext.check?, RunNext.enable?]

/-- The work in flight of every check, with the step it is at. -/
def work (d : State) : List (Attempt × Stage) :=
  d.world.pendingRuns.filterMap (·.2.stage?) ++ d.world.prompts.filterMap Prompt.stage? ++
    d.world.queue.filterMap Task.stage?

/-- The work in flight of the checks of one key. -/
def workOn (d : State) (k : String) : List (Attempt × Stage) := (work d).filter (·.1.key = k)

theorem map_fst_work (d : State) : (work d).map Prod.fst = checks d := by
  simp [work, checks, List.map_filterMap]

theorem mem_checks_of_mem_work {d : State} {p : Attempt × Stage} (h : p ∈ work d) :
    p.1 ∈ checks d := by
  rw [← map_fst_work]
  exact List.mem_map_of_mem h

/-- The one element of a list whose keys are distinct that has a given element's key. -/
theorem filter_key_eq_singleton {α β : Type} [DecidableEq β] {f : α → β} :
    ∀ {l : List α}, (l.map f).Nodup → ∀ {x : α}, x ∈ l → l.filter (fun y => f y = f x) = [x]
  | y :: l, hl, x, hx => by
    simp only [List.map_cons, List.nodup_cons, List.mem_map] at hl
    rcases List.mem_cons.mp hx with rfl | hx
    · -- no later element has the key of the first
      have hrest : l.filter (fun y => f y = f x) = [] :=
        List.filter_eq_nil_iff.mpr fun z hz hzx => hl.1 ⟨z, hz, of_decide_eq_true hzx⟩
      simp [hrest]
    · have hne : ¬ f y = f x := fun h => hl.1 ⟨x, hx, h.symm⟩
      simp [hne, filter_key_eq_singleton hl.2 hx]

/-! ## What the lifecycle invariant says of the work of checks -/

section Invariant

variable {extra : List (Nat × Nat)} {held : List Attempt} {d : State}

/-- The work in flight names each key at most once. -/
theorem Inv.nodup_work (h : Inv extra held d) : ((work d).map (·.1.key)).Nodup := by
  have hc : ((checks d).map (·.key)).Nodup := (List.nodup_append.mp
    (by simpa only [List.map_append] using h.checks_nodup)).1
  rw [← map_fst_work, List.map_map] at hc
  exact hc

/-- The check of each piece of work leads its key. -/
theorem Inv.leads_of_mem_work (h : Inv extra held d) {p : Attempt × Stage} (hp : p ∈ work d) :
    Leads d p.1 :=
  h.leads p.1 (List.mem_append_left _ (mem_checks_of_mem_work hp))

/-- A piece of work is the only one on its key. -/
theorem Inv.workOn_of_mem (h : Inv extra held d) {p : Attempt × Stage} (hp : p ∈ work d) :
    workOn d p.1.key = [p] :=
  filter_key_eq_singleton (f := fun q : Attempt × Stage => q.1.key) h.nodup_work hp

/-- A check in hand has no work in flight on its key. -/
theorem Inv.workOn_held {a : Attempt} (h : Inv extra (a :: held) d) : workOn d a.key = [] := by
  refine List.filter_eq_nil_iff.mpr fun p hp hk => ?_
  have hnd := h.checks_nodup
  rw [List.map_append, List.nodup_append] at hnd
  exact hnd.2.2 _ (List.mem_map_of_mem (mem_checks_of_mem_work hp)) _ List.mem_cons_self
    (of_decide_eq_true hk)

end Invariant

/-! ## Keys that are not being checked -/

/-- Key `k` is not being checked, in a world that is not live. -/
def Quiet (k : String) (d : State) : Prop :=
  d.world.live = none ∧ ∀ ks, Assoc.get? d.keys k = some ks → ks.state ≠ .checking

/-- A key that is not being checked has no work in flight. -/
theorem Inv.workOn_quiet {extra : List (Nat × Nat)} {held : List Attempt} {d : State}
    {k : String} (h : Inv extra held d) (hq : Quiet k d) : workOn d k = [] := by
  refine List.filter_eq_nil_iff.mpr fun p hp hk => ?_
  obtain ⟨ks, hks, hst, -⟩ := h.leads_of_mem_work hp
  rw [of_decide_eq_true hk] at hks
  exact hq.2 ks hks hst

section Quiet

variable {k : String} {d d' : State}

/-- Setting a key keeps another key quiet, and the key itself when set to a state other than
being checked. -/
theorem Quiet.setKey (hq : Quiet k d) {key : String} {ks : KeyState}
    (hks : k = key → ks.state ≠ .checking) :
    Quiet k { d with keys := Assoc.put d.keys key ks } := by
  refine ⟨hq.1, fun ks' h' => ?_⟩
  rw [Assoc.get?_put] at h'
  split at h'
  · cases h'
    exact hks ‹_›
  · exact hq.2 ks' h'

/-- A key set to a state other than being checked is quiet. -/
theorem quiet_put_self (hl : d.world.live = none) {key : String} {ks : KeyState}
    (hks : ks.state ≠ .checking) : Quiet key { d with keys := Assoc.put d.keys key ks } :=
  ⟨hl, fun ks' h' => by
    rw [Assoc.get?_put, if_pos rfl] at h'
    cases h'
    exact hks⟩

theorem Settles.quiet (h : Settles d d') (hq : Quiet k d) : Quiet k d' :=
  ⟨h.live.trans hq.1, by rw [h.keys]; exact hq.2⟩

/-- An operation that settles keeps every key quiet. -/
theorem Settled.quiet {α : Type} {op : M α} (h : Settled op) : Keeps (Quiet k) op :=
  fun d hq => (h d hq.1).quiet hq

theorem Keeps.forM {P : State → Prop} {α : Type} {xs : List α} {f : α → M PUnit}
    (h : ∀ x, Keeps P (f x)) : Keeps P (xs.forM f) :=
  forM_of_bind (P := fun op => Keeps P op) Keeps.pure Keeps.bind h

theorem quiet_runRemote (sid : Nat) (host script : String) (timeoutMs : Int) (next : RunNext) :
    Keeps (Quiet k) (runRemote sid host script timeoutMs next) := by
  intro d hq
  have hl := hq.1
  cases hr : d.world.scriptedRuns with
  | nil =>
    rw [after_runRemote_pending hl hr]
    exact ⟨hl, hq.2⟩
  | cons res rest =>
    rw [after_runRemote_scripted hl hr]
    exact ⟨hl, hq.2⟩

theorem quiet_runFor (a : Attempt) (script : String) (timeoutMs : Int) (next : RunNext) :
    Keeps (Quiet k) (runFor a script timeoutMs next) := by
  intro d hq
  simp only [runFor, after_sidOf_bind]
  exact quiet_runRemote _ _ _ _ _ d hq

theorem quiet_askInput (sid : Nat) (kind text preset : String) (choices : List String)
    (next : InputNext) : Keeps (Quiet k) (askInput sid kind text preset choices next) := by
  intro d hq
  have hl := hq.1
  cases hi : d.world.scriptedInputs with
  | nil =>
    rw [after_askInput_pending hl hi]
    exact ⟨hl, hq.2⟩
  | cons answer rest =>
    rw [after_askInput_scripted hl hi]
    exact ⟨hl, hq.2⟩

/-- Looking for the workspace root starts a server or runs the search on the host; neither
touches a key. -/
theorem quiet_resolveRoot (i g : Nat) : Keeps (Quiet k) (resolveRoot i g) := by
  intro d hq
  have hstart : ∀ root, Quiet k (after (start i root) d) := fun root =>
    (settled_start i root).quiet d hq
  have hrun := fun sid host script timeoutMs next =>
    quiet_runRemote (k := k) sid host script timeoutMs next d hq
  cases hs : d.instances[i]? with
  | none =>
    simp only [resolveRoot, after_getInstance_bind, hs, after_pure]
    exact hq
  | some s =>
    simp only [resolveRoot, after_getInstance_bind, hs, after_get_bind]
    -- every way of finding the root ends in a start or in the search on the host
    cases hv : d.config.translator.fromVirtual s.lastBuffer with
    | none =>
      split
      · exact hstart _
      · split
        · split <;> exact hstart _
        · exact hstart _
    | some p =>
      split
      · exact hstart _
      · split
        · split
          · exact hstart _
          · exact hrun _ _ _ _ _
        · exact hrun _ _ _ _ _

theorem quiet_enableDone (i g : Nat) (ok : Bool) : Keeps (Quiet k) (enableDone i g ok) := by
  intro d hq
  cases hs : d.instances[i]? with
  | none =>
    simp only [enableDone, after_getInstance_bind, hs, after_pure]
    exact hq
  | some s =>
    simp only [enableDone, after_getInstance_bind, hs]
    split
    · exact hq
    split
    · exact (settled_setInstance i (StartsNoEnable.of_state fun _ => by simp)).quiet d hq
    · exact quiet_resolveRoot i g d hq

theorem quiet_wake (w : Waiter) (ok : Bool) : Keeps (Quiet k) (wake w ok) :=
  Keeps.bind (settled_updateCache _ _).quiet fun _ => quiet_enableDone _ _ ok

theorem quiet_promptHost (i g : Nat) : Keeps (Quiet k) (promptHost i g) := by
  intro d hq
  simp only [promptHost, after_updateCache_bind, after_sidOf_bind, after_get_bind]
  exact quiet_askInput _ _ _ _ _ _ _ hq

/-- A check that settles its key leaves it quiet: the waiters woken touch no key. -/
theorem quiet_resolve (hl : d.world.live = none) (a : Attempt) (ok : Bool) :
    Quiet a.key (after (resolve a ok) d) := by
  simp only [resolve, after_getKey_bind]
  cases ok
  · simp only [Bool.not_false, if_true, after_count_bind, after_setKey_bind]
    exact Keeps.forM (fun w => quiet_wake w false) _ (quiet_put_self hl (by simp))
  · simp only [Bool.not_true, Bool.false_eq_true, if_false, after_setKey_bind]
    exact Keeps.forM (fun w => quiet_wake w true) _ (quiet_put_self hl (by simp))

/-- A check that gives its key up leaves it quiet. -/
theorem quiet_handOff (hl : d.world.live = none) (a : Attempt) :
    Quiet a.key (after (handOff a) d) := by
  simp only [handOff, after_getKey_bind, after_setKey_bind]
  exact Keeps.forM (fun w => quiet_wake w false) _ (quiet_put_self hl (by simp))

end Quiet

/-! ## Handing the next step to the world -/

section Handing

variable {d : State}

theorem mem_work_runRemote (hl : d.world.live = none) {next : RunNext} {p : Attempt × Stage}
    (hp : next.stage? = some p) (sid : Nat) (host script : String) (timeoutMs : Int) :
    p ∈ work (after (runRemote sid host script timeoutMs next) d) := by
  cases hr : d.world.scriptedRuns with
  | nil =>
    rw [after_runRemote_pending hl hr]
    simp [work, hp]
  | cons res rest =>
    rw [after_runRemote_scripted hl hr]
    simp [work, Task.stage?, hp]

theorem mem_work_askInput (hl : d.world.live = none) {next : InputNext} {p : Attempt × Stage}
    (hp : next.stage? = some p) (sid : Nat) (kind text preset : String) (choices : List String) :
    p ∈ work (after (askInput sid kind text preset choices next) d) := by
  cases hi : d.world.scriptedInputs with
  | nil =>
    rw [after_askInput_pending hl hi]
    simp [work, Prompt.stage?, hp]
  | cons answer rest =>
    rw [after_askInput_scripted hl hi]
    simp [work, Task.stage?, hp]

theorem mem_work_askConfirm (hl : d.world.live = none) (sid : Nat) (message : String)
    (actions : List String) (a : Attempt) :
    (a, .confirm) ∈ work (after (askConfirm sid message actions a) d) := by
  cases hc : d.world.scriptedConfirms with
  | nil =>
    rw [after_askConfirm_pending hl hc]
    simp [work, Prompt.stage?]
  | cons answer rest =>
    rw [after_askConfirm_scripted hl hc]
    simp [work, Task.stage?]

end Handing

/-! ## Continuing a check -/

/-- What step `σ` of check `a` may leave on the check's key once it is continued. -/
inductive Continues (a : Attempt) (σ : Stage) : List (Attempt × Stage) → Prop where
  /-- The check ended: it settled its key, or gave it up. -/
  | ended : Continues a σ []
  /-- The check went on to a step that may follow; only a first check asks for another
  environment. -/
  | step {σ' : Stage} (hn : σ' ∈ σ.next) (he : σ' = .environment → a.retried = false) :
      Continues a σ [(a, σ')]
  /-- Another environment was chosen, and the owner's retry, under the same key, probes it
  anew. -/
  | retry {a' : Attempt} (hσ : σ = .environment) (ho : a'.owner = a.owner) (hg : a'.gen = a.gen)
      (hr : a'.retried = true) : Continues a σ [(a', .probe)]

/-- The operation, run with step `σ` of check `a` in hand from any state of the lifecycle
invariant, continues the check as `Continues` allows. -/
def ContinuesAt {α : Type} (a : Attempt) (σ : Stage) (op : M α) : Prop :=
  ∀ extra held d, Inv extra (a :: held) d → Continues a σ (workOn (after op d) a.key)

section Continue

variable {α β : Type} {a : Attempt} {σ : Stage} {extra : List (Nat × Nat)} {held : List Attempt}
  {d : State}

/-- Past a calm operation the check is still in hand; where it stops early, the check has no
work left on its key. -/
theorem continues_calm_bind {x : M α} {f : α → M β} (hx : Calm x) (h : Inv extra (a :: held) d)
    (hf : ∀ r s, Inv extra (a :: held) s → Continues a σ (workOn (after (f r) s) a.key)) :
    Continues a σ (workOn (after (x >>= f) d) a.key) :=
  after_bind_of (Q := Inv extra (a :: held)) (R := fun s => Continues a σ (workOn s a.key))
    (hx extra (a :: held) d h) hf fun s hs => by
      rw [hs.workOn_held]
      exact .ended

theorem ContinuesAt.calm_bind {x : M α} {f : α → M β} (hx : Calm x)
    (hf : ∀ r, ContinuesAt a σ (f r)) : ContinuesAt a σ (x >>= f) :=
  fun _ _ _ h => continues_calm_bind hx h fun r s hs => hf r _ _ s hs

/-- The check settles its key and ends. -/
theorem continuesAt_resolve (ok : Bool) : ContinuesAt a σ (resolve a ok) := fun _ _ _ h => by
  rw [(resolve_keeps h ok).workOn_quiet (quiet_resolve h.live a ok)]
  exact .ended

theorem continuesAt_fail (severity : Severity) (message : String) (res : Shell.RunResult) :
    ContinuesAt a σ (fail a severity message res) := by
  intro extra held d h
  simp only [fail, after_sidOf_bind]
  refine continues_calm_bind (calm_report _ _ _) h fun _ s hs => ?_
  split
  · exact continues_calm_bind (calm_writeLog _ _ _) hs fun _ s hs =>
      continuesAt_resolve false _ _ s hs
  · exact continuesAt_resolve false _ _ s hs

theorem continuesAt_succeed : ContinuesAt a σ (succeed a) := by
  intro extra held d h
  simp only [succeed, after_count_bind]
  refine continues_calm_bind (calm_markValid _ _) (h.counters _) fun _ s hs => ?_
  exact continues_calm_bind (calm_remember _ _) hs fun _ s hs => continuesAt_resolve true _ _ s hs

/-- A run of the check's next step on the host is the only work left on its key. -/
theorem continuesAt_runFor {next : RunNext} {σ' : Stage} (hn : next.stage? = some (a, σ'))
    (hσ : σ' ∈ σ.next) (he : σ' = .environment → a.retried = false) (script : String)
    (timeoutMs : Int) : ContinuesAt a σ (runFor a script timeoutMs next) := by
  intro extra held d h
  obtain ⟨hc, hen⟩ := RunNext.views_of_stage? hn
  have hk : Inv extra held (after (runFor a script timeoutMs next) d) :=
    runFor_keeps script timeoutMs (by simpa [hc, hen] using h)
  have hm : (a, σ') ∈ work (after (runFor a script timeoutMs next) d) := by
    simp only [runFor, after_sidOf_bind]
    exact mem_work_runRemote h.live hn _ _ _ _
  rw [hk.workOn_of_mem hm]
  exact .step hσ he

theorem continuesAt_detect (installed : Bool) (hσ : (if installed then .redetect else .detect) ∈ σ.next) :
    ContinuesAt a σ (detect a installed) :=
  continuesAt_runFor rfl hσ (by cases installed <;> simp) _ _

theorem continuesAt_install (hσ : .install ∈ σ.next) : ContinuesAt a σ (install a) := by
  intro extra held d h
  simp only [install, after_sidOf_bind]
  exact continues_calm_bind (calm_report _ _ _) h fun _ s hs =>
    continuesAt_runFor rfl hσ (by simp) _ _ _ _ s hs

theorem continuesAt_confirmInstall (hσ : .confirm ∈ σ.next) :
    ContinuesAt a σ (confirmInstall a) := by
  intro extra held d h
  simp only [confirmInstall, after_sidOf_bind]
  rw [(askConfirm_keeps _ _ _ h).workOn_of_mem (mem_work_askConfirm h.live _ _ _ a)]
  exact .step hσ (by simp)

/-- The question for another environment is the only work left on the check's key. -/
theorem continuesAt_askEnvironment (hσ : .environment ∈ σ.next) (hr : a.retried = false)
    (sid : Nat) (kind text preset : String) (choices : List String) (res : Shell.RunResult) :
    ContinuesAt a σ (askInput sid kind text preset choices (.environment a res)) := by
  intro extra held d h
  rw [(askInput_keeps (k := .environment a res) _ _ _ _ _ h).workOn_of_mem
    (mem_work_askInput h.live rfl _ _ _ _ _)]
  exact .step hσ fun _ => hr

/-- A missing interpreter: a first check asks for another environment, at most once per session
prompt, and a retried one fails. -/
theorem continuesAt_interpreterMissing (hσ : .environment ∈ σ.next) (res : Shell.RunResult) :
    ContinuesAt a σ (interpreterMissing a res) := by
  intro extra held d h
  simp only [interpreterMissing, after_configOf_bind]
  split
  · rename_i hask
    simp only [Bool.and_eq_true, Bool.not_eq_eq_eq_not, Bool.not_true] at hask
    simp only [after_updateCache_bind, after_get_bind, after_sidOf_bind]
    exact continuesAt_askEnvironment hσ hask.1.1 _ _ _ _ _ _ _ _ _ (h.setCfg _ _)
  · exact continuesAt_fail _ _ res _ _ d h

end Continue

/-! ## Starting a check -/

section Begin

variable {extra : List (Nat × Nat)} {held : List Attempt} {d : State} {k : String}

/-- A check that sets its key to being checked probes it; every other key stays quiet. -/
theorem begins_of_probe (hq : Quiet k d) (a : Attempt) (ws : List Waiter) :
    Quiet k (after (probe a) { d with keys := Assoc.put d.keys a.key ⟨.checking, ws⟩ }) ∨
      ∃ a' : Attempt, a'.owner = a.owner ∧ a'.gen = a.gen ∧ a'.retried = a.retried ∧ a'.key = k ∧
        (a', Stage.probe) ∈
          work (after (probe a) { d with keys := Assoc.put d.keys a.key ⟨.checking, ws⟩ }) := by
  by_cases hk : a.key = k
  · refine .inr ⟨a, rfl, rfl, rfl, hk, ?_⟩
    simp only [probe, runFor, after_sidOf_bind]
    refine mem_work_runRemote ?_ ?_ _ _ _ _
    · exact hq.1
    · rfl
  · have hq' : Quiet k { d with keys := Assoc.put d.keys a.key ⟨.checking, ws⟩ } :=
      hq.setKey fun h => absurd h.symm hk
    exact .inl (quiet_runFor a _ _ _ _ hq')

/-- What `ensure` leaves on a key that was not being checked: nothing, or the probe of a check
it started for the enable in hand, the owner's and of its generation. -/
theorem ensure_begins {i g : Nat} (h : Inv ((i, g) :: extra) held d) (hq : Quiet k d)
    (retried : Bool) :
    workOn (after (ensure i g retried) d) k = [] ∨
      ∃ a, a.owner = i ∧ a.gen = g ∧ a.retried = retried ∧
        workOn (after (ensure i g retried) d) k = [(a, .probe)] := by
  have hinv := ensure_keeps h retried
  suffices key : Quiet k (after (ensure i g retried) d) ∨
      ∃ a : Attempt, a.owner = i ∧ a.gen = g ∧ a.retried = retried ∧ a.key = k ∧
        (a, Stage.probe) ∈ work (after (ensure i g retried) d) by
    rcases key with hq' | ⟨a, ho, hg, hr, rfl, hm⟩
    · exact .inl (hinv.workOn_quiet hq')
    · exact .inr ⟨a, ho, hg, hr, hinv.workOn_of_mem hm⟩
  cases hs : d.instances[i]? with
  | none =>
    simp only [ensure, after_getInstance_bind, hs, after_pure]
    exact .inl hq
  | some s =>
    simp only [ensure, after_getInstance_bind, hs]
    split
    · exact .inl (quiet_enableDone _ _ _ d hq)
    split
    · exact .inl (quiet_enableDone _ _ _ d hq)
    split
    · split
      · exact .inl (quiet_promptHost _ _ d hq)
      · simp only [after_updateCache_bind]
        exact .inl (Keeps.bind (settled_report _ _ _).quiet (fun _ => quiet_enableDone _ _ _) _ hq)
    simp only [after_get_bind]
    split
    · simp only [after_count_bind, after_updateCache_bind]
      exact .inl (quiet_enableDone _ _ _ _ hq)
    simp only [after_getKey_bind]
    -- a new check starts unless the key is being checked, and then `k` is another key
    let a : Attempt := ⟨i, g, s.cfg.settings, s.cfg.settings.validationKey,
      interpreterPath s.cfg.settings.environment, retried⟩
    cases hkey : Assoc.get? d.keys s.cfg.settings.validationKey with
    | some ks =>
      simp only
      split
      · rename_i hc
        simp only [after_setKey]
        refine .inl (hq.setKey fun hke => ?_)
        subst hke
        exact absurd hc (hq.2 ks hkey)
      · simp only [after_setKey_bind]
        exact begins_of_probe hq a _
    | none =>
      simp only [after_setKey_bind]
      exact begins_of_probe hq a _

end Begin

/-! ## The continuation of each step -/

section Steps

variable {a : Attempt} (res : Shell.RunResult)

/-- After the probe: the detection, the version probe, or the end of an unreachable host. -/
theorem continuesAt_afterExecutable : ContinuesAt a .probe (afterExecutable a res) := by
  unfold afterExecutable
  split
  · exact continuesAt_detect false (by decide)
  split
  · exact continuesAt_fail _ _ res
  · exact continuesAt_runFor rfl (by decide) (by simp) _ _

/-- After the version probe: the detection, or the interpreter is missing. -/
theorem continuesAt_afterVersion : ContinuesAt a .version (afterVersion a res) := by
  unfold afterVersion
  split
  · exact continuesAt_detect false (by decide)
  · exact continuesAt_interpreterMissing (by decide) res

/-- After a detection: the check succeeds or fails, or a first detection goes on to the
install, directly or through the question. The detection after an install ends the check. -/
theorem continuesAt_afterDetect (installed : Bool) :
    ContinuesAt a (if installed then .redetect else .detect) (afterDetect a installed res) := by
  cases installed with
  | true =>
    -- the detection after an install succeeds or fails, and takes no further step
    simp only [afterDetect, if_true]
    split
    · exact continuesAt_succeed
    split
    · exact continuesAt_fail _ _ res
    split
    · exact continuesAt_fail _ _ res
    · exact ContinuesAt.calm_bind (calm_count _) fun _ => continuesAt_fail _ _ res
  | false =>
    simp only [afterDetect, Bool.false_eq_true, if_false]
    split
    · exact continuesAt_succeed
    split
    · exact continuesAt_fail _ _ res
    split
    · exact continuesAt_fail _ _ res
    split
    · exact continuesAt_install (by decide)
    · exact continuesAt_confirmInstall (by decide)

/-- After the install: its failure ends the check, else the backend is detected once more. -/
theorem continuesAt_afterInstall : ContinuesAt a .install (afterInstall a res) := by
  simp only [afterInstall]
  split
  · exact ContinuesAt.calm_bind (calm_count _) fun _ => continuesAt_fail _ _ res
  · exact ContinuesAt.calm_bind (calm_count _) fun _ => continuesAt_detect true (by decide)

/-- After the question whether to install: a refusal ends the check, else the install. -/
theorem continuesAt_afterConfirm (choice : String) (ok : Bool) :
    ContinuesAt a .confirm (afterConfirm a choice ok) := by
  simp only [afterConfirm]
  split
  · intro extra held d h
    simp only [after_sidOf_bind]
    exact continues_calm_bind (calm_report _ _ _) h fun _ s hs => continuesAt_resolve false _ _ s hs
  · exact continuesAt_install (by decide)

/-- After the question for another environment: the check fails, or it gives its key up and the
owner's enable starts over, which under the same key is the probe of a retry. -/
theorem continuesAt_afterEnvironment (value : String) (cancelled : Bool) :
    ContinuesAt a .environment (afterEnvironment a res value cancelled) := by
  intro extra held d h
  simp only [afterEnvironment, after_updateCache_bind]
  split
  · exact continuesAt_fail _ _ res _ _ _ (h.setCfg _ _)
  refine continues_calm_bind (calm_withConfig _ _ _) (h.setCfg _ _) fun r s hs => ?_
  split
  · exact continuesAt_fail _ _ res _ _ s hs
  refine after_bind_of (Q := fun s => Inv ((a.owner, a.gen) :: extra) held s ∧ Quiet a.key s)
    (R := fun s => Continues a .environment (workOn s a.key))
    ⟨handOff_keeps hs, quiet_handOff hs.live a⟩ (fun _ s' hs' => ?_) fun s' hs' => ?_
  · rcases ensure_begins hs'.1 hs'.2 true with hnil | ⟨a', ho, hg, hr, heq⟩
    · rw [hnil]
      exact .ended
    · rw [heq]
      exact .retry rfl ho hg hr
  · rw [hs'.1.workOn_quiet hs'.2]
    exact .ended

end Steps

/-- Running the task that continues a step of a check continues the check as `Continues`
allows. -/
theorem runTask_continues {t : Task} {a : Attempt} {σ : Stage} (ht : t.stage? = some (a, σ)) :
    ContinuesAt a σ (runTask t) := by
  cases t with
  | ran next res =>
    cases next with
    | executable a' =>
      obtain ⟨rfl, rfl⟩ := Prod.mk.inj (Option.some.inj ht).symm
      exact continuesAt_afterExecutable res
    | version a' =>
      obtain ⟨rfl, rfl⟩ := Prod.mk.inj (Option.some.inj ht).symm
      exact continuesAt_afterVersion res
    | detect a' installed =>
      obtain ⟨rfl, rfl⟩ := Prod.mk.inj (Option.some.inj ht).symm
      exact continuesAt_afterDetect res installed
    | install a' =>
      obtain ⟨rfl, rfl⟩ := Prod.mk.inj (Option.some.inj ht).symm
      exact continuesAt_afterInstall res
    | root => cases ht
  | answered next value cancelled =>
    cases next with
    | environment a' res =>
      obtain ⟨rfl, rfl⟩ := Prod.mk.inj (Option.some.inj ht).symm
      exact continuesAt_afterEnvironment res value cancelled
    | host => cases ht
  | confirmed a' choice ok =>
    obtain ⟨rfl, rfl⟩ := Prod.mk.inj (Option.some.inj ht).symm
    exact continuesAt_afterConfirm choice ok
  | initialized => cases ht
  | exited => cases ht
  | reconnect => cases ht

/-! ## Mutual exclusion and order of the checks of a key -/

/-- In every reachable state each key has at most one piece of work in flight, so at most one
remote command, and the check of each piece leads its key: the key is being checked with the
check's owner waiting first, so its state is not replaced while the check is unresolved. Each
step of a check is continued by nothing, by one step that may follow, or, after another
environment was chosen, by the probe of the owner's retry; a check that `ensure` starts begins
with its probe; and no check takes a step twice, so none installs twice. -/
theorem checks_exclusive_and_sequential :
    (∀ d, Reaches d → ((work d).map (·.1.key)).Nodup ∧ ∀ p ∈ work d, Leads d p.1) ∧
    (∀ (t : Task) (a : Attempt) (σ : Stage), t.stage? = some (a, σ) →
      ContinuesAt a σ (runTask t)) ∧
    (∀ (extra : List (Nat × Nat)) (held : List Attempt) (d : State) (i g : Nat)
      (retried : Bool) (k : String), Inv ((i, g) :: extra) held d → Quiet k d →
        workOn (after (ensure i g retried) d) k = [] ∨
          ∃ a, a.owner = i ∧ a.gen = g ∧ a.retried = retried ∧
            workOn (after (ensure i g retried) d) k = [(a, .probe)]) ∧
    (∀ l : List Stage, l.IsChain (fun σ σ' => σ' ∈ σ.next) → l.Nodup) :=
  ⟨fun _ hd => ⟨hd.inv.nodup_work, fun _ hp => hd.inv.leads_of_mem_work hp⟩,
    fun _ _ _ ht => runTask_continues ht,
    fun _ _ _ _ _ retried _ h hq => ensure_begins h hq retried,
    fun _ h => Stage.nodup_of_isChain h⟩

/-- A session on a host that opens a document there starts the check of its key: its probe is
the only work in flight, and the check leads the key. -/
theorem checks_exclusive_and_sequential_probe :
    ∃ d a, Reaches d ∧ work d = [(a, .probe)] ∧ Leads d a ∧ ((work d).map (·.1.key)).Nodup := by
  have hd := Reaches.step (.docOpen 0 ⟨"scp://h1//srv/a.py", "python", 1, "x"⟩)
    (Reaches.step (.sessionOpen 0 ⟨{ host := "h1" }, false, {}⟩ "" "")
      (@Reaches.init {} ⟨[], [], none⟩ .numbered {} _ rfl rfl rfl rfl rfl))
  -- the probe in flight is computed; what it says of the key comes from the theorem
  have hall := checks_exclusive_and_sequential.1 _ hd
  refine ⟨_, ⟨0, 1, { host := "h1" }, "pyright|h1|", "python3", false⟩, hd,
    (fun hw => ⟨hw, hall.2 _ (by rw [hw]; exact List.mem_singleton_self _), hall.1⟩) ?_⟩
  decide +kernel

end RemoteLsp.Daemon
