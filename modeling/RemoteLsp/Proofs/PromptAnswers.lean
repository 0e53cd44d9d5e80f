import RemoteLsp.Proofs.StayingDown
import RemoteLsp.Proofs.HostAdoption

/-!
# Answers to prompts

A prompt to the user carries what its answer continues: the host prompt names the session
instance and the generation of the enable that asked, the environment prompt the check that
found no interpreter. Neither carries the instance's settings or its prompt guard, which the
answer reads as they are when it comes. An answer to the host prompt lowers the guard whatever
generation it belongs to; a cancelled one gives the enable up and caches the instance's
current settings as missing, with no run, prompt or store write.

An answer to a prompt asked before a restart or a change of settings is read the same way. It
lowers the guard that a later prompt raised, so a second prompt can be asked while that one is
outstanding (`stale_host_answer_reopens_guard`); and when cancelled it caches as missing
settings that no check ever saw (`cancelled_stale_host_prompt_marks_unchecked`).

What the guard fails to keep, the generations keep. Every input prompt continues an enable: the
host prompt its own, the environment prompt that of the check's owner, which leads its key's
waiters. An instance has at most one enable of its generation under way, so it has at most one
input prompt of its generation outstanding, and none unless it is provisioning
(`prompt_of_generation_single`); the second prompt above belongs to the generation before the
restart.
-/

namespace RemoteLsp.Daemon

open Identity

/-- The session instance an input prompt asks for: the one whose host is asked, or the owner of
the check that asks for an environment. -/
def Prompt.asker? : Prompt → Option Nat
  | .input _ (.host inst _) => some inst
  | .input _ (.environment a _) => some a.owner
  | .confirm .. => none

/-- Giving an enable up sets its instance idle, unless the instance is closed or has moved on
to another generation. -/
theorem after_enableDone_false {d : State} {i g : Nat} {s : Instance}
    (hs : d.instances[i]? = some s) :
    after (enableDone i g false) d =
      if s.closed || s.gen ≠ g then d
      else { d with instances := updateAt d.instances i fun t => { t with state := .idle } } := by
  simp only [enableDone, after_getInstance_bind, hs]
  split
  · rfl
  · simp

/-- A cancelled host prompt lowers the guard, caches the instance's current settings as missing
and gives up the enable that asked. -/
theorem after_afterHost_cancelled {d : State} {i g : Nat} {s : Instance}
    (hs : d.instances[i]? = some s) (value : String) :
    after (afterHost i g value true) d =
      { d with instances := updateAt d.instances i fun t =>
          { t with
            cfg := { t.cfg with
              cache := ⟨s.cfg.settings.validationKey ++ missingSuffix, false⟩ }
            state := if s.closed || s.gen ≠ g then t.state else .idle } } := by
  simp only [afterHost, after_updateCache_bind, Bool.true_or, ↓reduceIte, after_configOf_bind,
    getElem?_updateAt, hs, Option.map_some, Option.getD_some, updateAt_updateAt_self]
  rw [after_enableDone_false (s := { s with cfg := { s.cfg with cache :=
    ⟨s.cfg.settings.validationKey ++ missingSuffix, false⟩ } }) (by simp [hs])]
  by_cases hc : (s.closed || decide (s.gen ≠ g)) = true
  · simp only [hc, ↓reduceIte]
  · simp only [hc, Bool.false_eq_true, ↓reduceIte, updateAt_updateAt_self]

/-- A session with no host asks for one. The user sets the host `h1` by hand, which restarts
the session, and then cancels the prompt. The cancel caches the settings on `h1` as missing,
though nothing ever checked them: no remote command has run, and their key has never been
checked. -/
theorem cancelled_stale_host_prompt_marks_unchecked :
    ∃ d, Reaches d ∧ d.world.nextPrompt = 1 ∧ d.world.prompts.map Prompt.asker? = [some 0] ∧
      d.instances[0]?.map (·.cfg.settings.host) = some "" ∧
      ∃ d', d' = runs d [.configChange 0 (Session.ConfigState.setHost "h1"), .settingsChange 0,
          .inputAnswer (some 0) "" true] ∧
        d'.instances[0]?.map (fun s => (s.cfg.settings.validationKey, s.cfg.cache.lastChecked)) =
          some ("pyright|h1|", "pyright|h1|:missing") ∧
        d'.world.nextRun = 0 ∧ Assoc.get? d'.keys "pyright|h1|" = none := by
  have hd := Reaches.step (.docOpen 0 ⟨"scp:// //srv/a.py", "python", 1, "x = 1\n"⟩)
    (Reaches.step (.sessionOpen 0 ⟨{}, true, {}⟩ "" "")
      (@Reaches.init {} ⟨[], [], none⟩ .numbered {} _ rfl rfl rfl rfl rfl))
  refine ⟨_, hd, by decide +kernel, by decide +kernel, by decide +kernel, _, rfl, ?_, ?_, ?_⟩
  all_goals decide +kernel

/-- An answer to the host prompt that names a host lowers the guard and takes the host, and
the enable that asked goes on to check the new settings. -/
theorem after_afterHost_answered {d : State} {i g : Nat} {s : Instance} {value : String}
    (hs : d.instances[i]? = some s) (hv : (Text.trimBlanks value).isEmpty = false) :
    ∃ d₁, after (afterHost i g value false) d = after (ensure i g false) d₁ ∧
      d₁.world = d.world ∧
      d₁.instances[i]?.map (fun t => (t.cfg.settings.host, t.cfg.cache.prompted)) =
        some (Text.trimBlanks value, false) := by
  let s₁ : Instance :=
    { s with cfg := { s.cfg with cache := { s.cfg.cache with prompted := false } } }
  have hs₁ : (updateAt d.instances i fun t =>
      { t with cfg := { t.cfg with cache := { t.cfg.cache with prompted := false } } })[i]? =
      some s₁ := by simp [hs, s₁]
  simp only [afterHost, after_updateCache_bind, Bool.false_or, hv, Bool.false_eq_true, ↓reduceIte]
  rw [after_of_run_ok (run_withConfig_ok hs₁ (Session.ConfigState.run_setHost _ value))]
  refine ⟨_, rfl, rfl, ?_⟩
  rw [getElem?_updateAt, hs₁]
  -- the host is the answer's, whether or not it was the host already
  by_cases hh : Text.trimBlanks value = s₁.cfg.settings.host
  · simp [hh, s₁]
  · simp [hh, s₁, ValidationCache.reset]

/-- A session with no host asks for one, and the user restarts it. The next buffer asks again.
The user then answers the first prompt with `h1`: the answer lowers the guard the second prompt
raised, and when the interpreter is not found on `h1` the session is asked for an environment.
Two prompts of the session, both asked after the restart, are then outstanding. -/
theorem stale_host_answer_reopens_guard :
    ∃ d, Reaches d ∧ d.world.prompts.map Prompt.asker? = [some 0] ∧
      (after (Input.userRestart 0).run d).world.nextPrompt = 1 ∧
      (runs (after (Input.userRestart 0).run d)
          [.docOpen 0 ⟨"scp:// //srv/b.py", "python", 1, "y = 2\n"⟩,
           .inputAnswer (some 0) "h1" false,
           .runResult (some 0) { (default : Shell.RunResult) with exitCode := 1 },
           .runResult (some 1) { (default : Shell.RunResult) with exitCode := 1 }]
        ).world.prompts.map (fun p => (p.id, p.asker?)) = [(1, some 0), (2, some 0)] := by
  have hd := Reaches.step (.docOpen 0 ⟨"scp:// //srv/a.py", "python", 1, "x = 1\n"⟩)
    (Reaches.step (.sessionOpen 0 ⟨{}, true, {}⟩ "" "")
      (@Reaches.init {} ⟨[], [], none⟩ .numbered {} _ rfl rfl rfl rfl rfl))
  exact ⟨_, hd, by decide +kernel, by decide +kernel, by decide +kernel⟩

/-! ## One prompt per generation -/

/-- The enable an input prompt continues: the host prompt's own, or the enable of the check
asking for an environment, named by the check's owner and the generation it started in. -/
def Prompt.asking? : Prompt → Option (Nat × Nat)
  | .input _ (.host inst gen) => some (inst, gen)
  | .input _ (.environment a _) => some (a.owner, a.gen)
  | .confirm .. => none

/-- Prompts asking for an enable are host prompts of that enable or prompts of a check owned
by it. -/
theorem Prompt.count_asking_le (ps : List Prompt) (x : Nat × Nat) :
    (ps.filterMap Prompt.asking?).count x ≤
      (ps.filterMap Prompt.enable?).count x +
        ((ps.filterMap Prompt.check?).map fun a => (a.owner, a.gen)).count x := by
  induction ps with
  | nil => simp
  | cons p ps ih =>
    cases p with
    | input id next =>
      cases next <;>
        simp only [List.filterMap_cons, Prompt.asking?, Prompt.enable?, Prompt.check?,
          InputNext.enable?, InputNext.check?, List.map_cons, List.count_cons] <;> omega
    | confirm id a =>
      simp only [List.filterMap_cons, Prompt.asking?, Prompt.enable?, Prompt.check?,
        List.map_cons, List.count_cons]
      omega

/-- Entries each holding `x` are at most as many as the occurrences of `x` in all of them. -/
theorem length_filter_le_count_flatMap {β γ : Type} [BEq γ] [LawfulBEq γ] (m : List β)
    (P : β → Bool) (F : β → List γ) (x : γ) (h : ∀ e ∈ m, P e = true → x ∈ F e) :
    (m.filter P).length ≤ (m.flatMap F).count x := by
  induction m with
  | nil => simp
  | cons e m ih =>
    have ih := ih fun e' he' => h e' (List.mem_cons_of_mem e he')
    rw [List.flatMap_cons, List.count_append]
    by_cases hp : P e = true
    · have hx : 0 < (F e).count x := List.count_pos_iff.mpr (h e List.mem_cons_self hp)
      simp only [List.filter_cons_of_pos hp, List.length_cons]
      omega
    · simp only [List.filter_cons_of_neg hp]
      omega

/-- The checks under way owned by an enable are at most its waits on keys: each check leads its
own key, where its owner waits first. -/
theorem Inv.count_check_owners_le {extra : List (Nat × Nat)} {held : List Attempt} {d : State}
    (h : Inv extra held d) (x : Nat × Nat) :
    ((checks d).map fun a => (a.owner, a.gen)).count x ≤
      (d.keys.flatMap (·.2.enables)).count x := by
  let owned := (checks d).filter fun a => (a.owner, a.gen) == x
  let heads : String × KeyState → Bool := fun e =>
    e.2.waiters.head?.map (fun w => (w.owner, w.gen)) == some x
  have hcount : ((checks d).map fun a => (a.owner, a.gen)).count x = owned.length := by
    rw [List.count, List.countP_map, List.countP_eq_length_filter]
    rfl
  -- the checks owned by `x` have distinct keys, each naming an entry whose first waiter is `x`
  have hnodup : (owned.map (·.key)).Nodup :=
    (h.checks_nodup.sublist (List.Sublist.map _ (List.sublist_append_left _ _))).sublist
      (List.Sublist.map _ List.filter_sublist)
  have hsub : owned.map (·.key) ⊆ (d.keys.filter heads).map (·.1) := by
    intro k hk
    obtain ⟨a, ha, rfl⟩ := List.mem_map.mp hk
    obtain ⟨ha, hx⟩ := List.mem_filter.mp ha
    obtain ⟨ks, hks, -, hhead⟩ := h.leads a (List.mem_append_left _ ha)
    refine List.mem_map.mpr ⟨(a.key, ks), List.mem_filter.mpr ⟨Assoc.mem_of_get? hks, ?_⟩, rfl⟩
    simpa [heads, hhead] using hx
  calc ((checks d).map fun a => (a.owner, a.gen)).count x
      = (owned.map (·.key)).length := by rw [hcount, List.length_map]
    _ ≤ ((d.keys.filter heads).map (·.1)).length := (hnodup.subperm hsub).length_le
    _ ≤ (d.keys.flatMap (·.2.enables)).count x := by
      rw [List.length_map]
      refine length_filter_le_count_flatMap _ _ _ x fun e _ he => ?_
      obtain ⟨w, hw, hwx⟩ := Option.map_eq_some_iff.mp (by simpa [heads] using he)
      exact hwx ▸ List.mem_map_of_mem (List.mem_of_mem_head? hw)

/-- The input prompts continuing an enable are at most the times it is under way. -/
theorem Inv.count_asking_le {extra : List (Nat × Nat)} {held : List Attempt} {d : State}
    (h : Inv extra held d) (x : Nat × Nat) :
    (d.world.prompts.filterMap Prompt.asking?).count x ≤ (enables d).count x := by
  have hchecks : ((d.world.prompts.filterMap Prompt.check?).map fun a => (a.owner, a.gen)).count x ≤
      ((checks d).map fun a => (a.owner, a.gen)).count x := by
    refine List.Sublist.count_le x (List.Sublist.map _ ?_)
    exact (List.sublist_append_right _ _).trans (List.sublist_append_left _ _)
  calc (d.world.prompts.filterMap Prompt.asking?).count x
      ≤ (d.world.prompts.filterMap Prompt.enable?).count x +
          ((d.world.prompts.filterMap Prompt.check?).map fun a => (a.owner, a.gen)).count x :=
        Prompt.count_asking_le _ x
    _ ≤ (d.world.prompts.filterMap Prompt.enable?).count x +
          (d.keys.flatMap (·.2.enables)).count x := by
        have := h.count_check_owners_le x
        omega
    _ ≤ (enables d).count x := by
        simp only [enables, List.count_append]
        omega

/-- In every reachable state an open session instance has at most one input prompt of its
generation outstanding, and none unless it is provisioning. -/
theorem prompt_of_generation_single {d : State} (hd : Reaches d) {i : Nat} {s : Instance}
    (hs : d.instances[i]? = some s) (hcl : s.closed = false) :
    (d.world.prompts.filterMap Prompt.asking?).count (i, s.gen) ≤
      if s.state = .provisioning then 1 else 0 := by
  have h := hd.inv
  calc (d.world.prompts.filterMap Prompt.asking?).count (i, s.gen)
      ≤ (enables d).count (i, s.gen) := h.count_asking_le _
    _ ≤ _ := by simpa using (h.sessions i s hs hcl).enables_current

/-- A session with no host that opens a buffer is asked for one: it is provisioning, with that
one prompt of its generation outstanding. -/
theorem host_prompt_single :
    ∃ d s, Reaches d ∧ d.instances[0]? = some s ∧ s.closed = false ∧
      s.state = .provisioning ∧ (d.world.prompts.filterMap Prompt.asking?).count (0, s.gen) = 1 ∧
      (d.world.prompts.filterMap Prompt.asking?).count (0, s.gen) ≤
        if s.state = .provisioning then 1 else 0 := by
  have hd := Reaches.step (.docOpen 0 ⟨"scp:// //srv/a.py", "python", 1, "x = 1\n"⟩)
    (Reaches.step (.sessionOpen 0 ⟨{}, true, {}⟩ "" "")
      (@Reaches.init {} ⟨[], [], none⟩ .numbered {} _ rfl rfl rfl rfl rfl))
  -- the instance and its prompt are read off the reached daemon
  suffices key : ∀ d, Reaches d →
      (d.instances[0]?.map fun s => (s.closed, s.state,
        (d.world.prompts.filterMap Prompt.asking?).count (0, s.gen))) =
        some (false, .provisioning, 1) →
      ∃ s, d.instances[0]? = some s ∧ s.closed = false ∧ s.state = .provisioning ∧
        (d.world.prompts.filterMap Prompt.asking?).count (0, s.gen) = 1 ∧
        (d.world.prompts.filterMap Prompt.asking?).count (0, s.gen) ≤
          if s.state = .provisioning then 1 else 0 by
    obtain ⟨s, hrest⟩ := key _ hd (by decide +kernel)
    exact ⟨_, s, hd, hrest⟩
  intro d hd hv
  cases hs : d.instances[0]? with
  | none => simp [hs] at hv
  | some s =>
    simp only [hs, Option.map_some, Option.some.injEq, Prod.mk.injEq] at hv
    obtain ⟨hcl, hst, hc⟩ := hv
    exact ⟨s, rfl, hcl, hst, hc, prompt_of_generation_single hd hs hcl⟩

end RemoteLsp.Daemon
