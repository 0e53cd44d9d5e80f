import RemoteLsp.Proofs.Sessions

/-!
# The event loop and the world keep the lifecycle

A task taken off the loop's queue puts the work it continues in hand, and running it consumes
that work; an exit task leaves its server's exit handled. So draining the queue is calm, and so
is running an operation on the loop, or as one step of the daemon.

What the world does is calm as well. Finishing a remote run or answering a prompt moves the
work it continues from the world to the queue, creating none; the first exit of a server is
queued once, and a server that had not exited was either stopped on purpose or is current;
delivering messages and moving the clock touch no work in flight.
-/

namespace RemoteLsp.Daemon

variable {d : State} {extra : List (Nat × Nat)} {held : List Attempt}

/-! ## Running the queue -/

/-- The exit reported by the task at the head of the queue is handled once the task is taken
off: exits are queued once, and only after the server exited. -/
theorem Inv.pop_exit (h : Inv extra held d) {i n : Nat} {st : ExitStatus} {rest : List Task}
    (hq : d.world.queue = .exited i n st :: rest) :
    Handled { d with world := { d.world with queue := rest } } n := by
  obtain ⟨srv, hsrv, -, hex⟩ := h.exit_tasks _ (by simp [hq]) i n st rfl
  have hnd := h.exits_nodup
  simp only [exits, hq, List.filterMap_cons, Task.exit?] at hnd
  exact ⟨⟨srv, hsrv, hex⟩, (List.nodup_cons.mp hnd).1⟩

/-- Running a task consumes the work it continues. -/
theorem runTask_keeps {t : Task} (h : Inv (t.enable?.toList ++ extra) (t.check?.toList ++ held) d)
    (hx : ∀ n, t.exit? = some n → Handled d n) : Inv extra held (after (runTask t) d) := by
  cases t with
  | ran next res =>
    cases next with
    | executable a => exact afterExecutable_keeps h res
    | version a => exact afterVersion_keeps h res
    | detect a installed => exact afterDetect_keeps h installed res
    | install a => exact afterInstall_keeps h res
    | root i g dir => exact rootFound_keeps h dir res
  | answered next value cancelled =>
    cases next with
    | host i g => exact afterHost_keeps h value cancelled
    | environment a res => exact afterEnvironment_keeps h res value cancelled
  | confirmed a choice ok => exact afterConfirm_keeps h choice ok
  | initialized i n answer => exact initialized_keeps (i := i) h n answer
  | exited i n status => exact exited_keeps h (hx n rfl) i status
  | reconnect i g buffer => exact calm_reconnectFired i g buffer extra held d h

/-- Draining the queue is calm: each task taken off is run on the work it put in hand. -/
theorem calm_drain (fuel : Nat) : Calm (drain fuel) := by
  induction fuel with
  | zero => exact Calm.pure _
  | succ fuel ih =>
    intro extra held d h
    simp only [drain, after_get_bind]
    cases hq : d.world.queue with
    | nil => exact h
    | cons t rest =>
      simp only [after_updateWorld_bind]
      refine after_bind_of (Q := Inv extra held) ?_ (fun _ d' h' => ih extra held d' h')
        fun _ h => h
      rw [after_attempt, after_recover]
      refine runTask_keeps (h.pop hq) fun n hn => ?_
      cases t <;> simp only [Task.exit?, reduceCtorEq, Option.some.injEq] at hn
      subst hn
      exact h.pop_exit hq

/-- Draining always returns: an error or a fault of a task ends only that task. -/
theorem run_drain (fuel : Nat) (d : State) : ∃ D, (drain fuel).run d = .ok () D := by
  induction fuel generalizing d with
  | zero => exact ⟨d, rfl⟩
  | succ fuel ih =>
    cases hq : d.world.queue with
    | nil => exact ⟨d, by simp [drain, hq]⟩
    | cons t rest =>
      let d₀ : State := { d with world := { d.world with queue := rest } }
      obtain ⟨r, hr⟩ := run_attempt_recover (runTask t) () d₀
      obtain ⟨D, hD⟩ := ih (after (runTask t) d₀)
      exact ⟨D, by simp [drain, hq, EStateM.run_bind, d₀, hr, hD]⟩

theorem Calm.onLoop {α : Type} {op : M α} (h : Calm op) (x : α) : Calm (onLoop op x) := by
  unfold RemoteLsp.Daemon.onLoop
  refine (calm_drain _).bind fun _ => (h.recover x).attempt.bind fun r =>
    (calm_drain _).bind fun _ => ?_
  cases r
  · exact calm_fail _
  · exact Calm.pure _

/-- Changing the world elsewhere than in its work in flight is calm. -/
theorem calm_updateWorld (f : World → World) (hq : ∀ w, (f w).queue = w.queue)
    (hr : ∀ w, (f w).pendingRuns = w.pendingRuns) (hp : ∀ w, (f w).prompts = w.prompts)
    (hl : ∀ w, (f w).live = w.live) : Calm (updateWorld f) :=
  Calm.of_run fun _ _ => ⟨(), _, rfl, Same.world (hq _) (hr _) (hp _) (hl _)⟩

theorem Calm.step {α : Type} {op : M α} (h : Calm op) : Calm (step op) := by
  unfold RemoteLsp.Daemon.step
  refine Calm.bind (calm_updateWorld _ ?_ ?_ ?_ ?_)
    fun _ => h.bind fun _ => (calm_drain _).bind fun _ => Calm.pure _
  all_goals intro _; rfl

/-! ## The world hands work to the loop -/

/-- Taking out the entries that fail a test and appending one of them loses no work: what the
entries continue is no more than before. -/
theorem count_filterMap_filter_append {α γ : Type} [BEq γ] [LawfulBEq γ] (f : α → Option γ)
    (p : α → Bool) {e : α} (hp : p e = false) (x : γ) :
    ∀ {l : List α}, e ∈ l →
      ((l.filter p).filterMap f).count x + (f e).toList.count x ≤ (l.filterMap f).count x
  | y :: l, he => by
    have hsub : ((l.filter p).filterMap f).count x ≤ (l.filterMap f).count x :=
      (List.filter_sublist.filterMap f).count_le x
    rcases List.mem_cons.mp he with rfl | he
    · cases hf : f e <;>
        simp [hp, hf, List.count_cons] <;> omega
    · have ih := count_filterMap_filter_append f p hp x he
      cases hy : p y <;> cases hfy : f y <;>
        simp [hy, hfy, List.count_cons] at ih ⊢ <;> omega

/-- A finished remote run moves its continuation from the pending runs to the queue. -/
theorem Inv.runDone (h : Inv extra held d) {e : Nat × RunNext} (hm : e ∈ d.world.pendingRuns)
    (t : Task) (he : t.enable? = e.2.enable?) (hc : t.check? = e.2.check?) (hx : t.exit? = none) :
    Inv extra held { d with world := { d.world with
      pendingRuns := d.world.pendingRuns.filter (·.1 ≠ e.1), queue := d.world.queue ++ [t] } } := by
  refine h.transfer rfl rfl rfl rfl ?_ ?_ (fun y => ?_) fun a => ?_
  · intro t' ht' hx'
    rcases List.mem_append.mp ht' with ht' | ht'
    · exact ht'
    · simp only [List.mem_singleton] at ht'
      exact absurd (ht' ▸ hx) hx'
  · simp [exits, hx]
  · have key := count_filterMap_filter_append (·.2.enable?) (fun x => decide (x.1 ≠ e.1))
      (by simp) y hm
    simp only [enables, List.count_append, List.filterMap_append, List.filterMap_cons,
      List.filterMap_nil, he] at key ⊢
    cases hn : e.2.enable? <;> simp [hn] at key ⊢ <;> omega
  · have key := count_filterMap_filter_append (·.2.check?) (fun x => decide (x.1 ≠ e.1))
      (by simp) a hm
    simp only [checks, List.count_append, List.filterMap_append, List.filterMap_cons,
      List.filterMap_nil, hc] at key ⊢
    cases hn : e.2.check? <;> simp [hn] at key ⊢ <;> omega

/-- An answered prompt moves its continuation from the pending prompts to the queue. -/
theorem Inv.promptDone (h : Inv extra held d) {p : Prompt} (hm : p ∈ d.world.prompts) (t : Task)
    (he : t.enable? = p.enable?) (hc : t.check? = p.check?) (hx : t.exit? = none) :
    Inv extra held { d with world := { d.world with
      prompts := d.world.prompts.filter (·.id ≠ p.id), queue := d.world.queue ++ [t] } } := by
  refine h.transfer rfl rfl rfl rfl ?_ ?_ (fun y => ?_) fun a => ?_
  · intro t' ht' hx'
    rcases List.mem_append.mp ht' with ht' | ht'
    · exact ht'
    · simp only [List.mem_singleton] at ht'
      exact absurd (ht' ▸ hx) hx'
  · simp [exits, hx]
  · have key := count_filterMap_filter_append Prompt.enable? (fun x => decide (x.id ≠ p.id))
      (by simp) y hm
    simp only [enables, List.count_append, List.filterMap_append, List.filterMap_cons,
      List.filterMap_nil, he] at key ⊢
    cases hn : p.enable? <;> simp [hn] at key ⊢ <;> omega
  · have key := count_filterMap_filter_append Prompt.check? (fun x => decide (x.id ≠ p.id))
      (by simp) a hm
    simp only [checks, List.count_append, List.filterMap_append, List.filterMap_cons,
      List.filterMap_nil, hc] at key ⊢
    cases hn : p.check? <;> simp [hn] at key ⊢ <;> omega

theorem calm_completeRun (id? : Option Nat) (res : Shell.RunResult) :
    Calm (completeRun id? res) := by
  intro extra held d h
  simp only [completeRun, after_get_bind]
  split
  · exact h
  · rename_i id next hentry
    simp only [after_updateWorld_bind, after_post_bind, after_pure]
    have hm : (id, next) ∈ d.world.pendingRuns := by
      cases id? with
      | some k => exact List.mem_of_find?_eq_some hentry
      | none => exact List.mem_of_mem_head? hentry
    exact h.runDone hm _ rfl rfl rfl

theorem calm_answerInput (id? : Option Nat) (value : String) (cancelled : Bool) :
    Calm (answerInput id? value cancelled) := by
  intro extra held d h
  simp only [answerInput, after_get_bind]
  split
  · rename_i id next hfind
    simp only [after_updateWorld_bind, after_post_bind, after_pure]
    exact h.promptDone (List.mem_of_find?_eq_some hfind) _ rfl rfl rfl
  · exact h

theorem calm_answerConfirm (id? : Option Nat) (choice : String) (ok : Bool) :
    Calm (answerConfirm id? choice ok) := by
  intro extra held d h
  simp only [answerConfirm, after_get_bind]
  split
  · rename_i id a hfind
    simp only [after_updateWorld_bind, after_post_bind, after_pure]
    exact h.promptDone (List.mem_of_find?_eq_some hfind) _ rfl rfl rfl
  · exact h

/-! ## Servers end and speak -/

/-- A server that had not exited exits, and its exit is queued. Its exit was not queued before,
and no instance counted it as handled: a server other than the current one was stopped on
purpose. -/
theorem Inv.serverExited (h : Inv extra held d) {n : Nat} {srv : Server}
    (hn : d.servers[n]? = some srv) (hx : srv.exited = false) (status : ExitStatus) :
    Inv extra held { d with
      servers := updateAt d.servers n fun s => { s with exited := true }
      world := { d.world with queue := d.world.queue ++ [.exited srv.inst n status] } } := by
  -- the servers after the exit: the same owners and stops, and only server n's exit changed
  have get : ∀ (m : Nat) (srv' : Server),
      (updateAt d.servers n fun s => { s with exited := true })[m]? = some srv' →
      ∃ s₀ : Server, d.servers[m]? = some s₀ ∧ srv'.inst = s₀.inst ∧ srv'.stopped = s₀.stopped ∧
        (m ≠ n → srv'.exited = s₀.exited) := by
    intro m srv' hm
    simp only [getElem?_updateAt, Option.map_eq_some_iff] at hm
    obtain ⟨s₀, hs₀, rfl⟩ := hm
    refine ⟨s₀, hs₀, ?_⟩
    split <;> simp_all
  have back : ∀ (m : Nat) (s₀ : Server), d.servers[m]? = some s₀ →
      ∃ srv' : Server, (updateAt d.servers n fun s => { s with exited := true })[m]? = some srv' ∧
        srv'.inst = s₀.inst ∧ (s₀.exited = true → srv'.exited = true) := by
    intro m s₀ hm
    refine ⟨if m = n then { s₀ with exited := true } else s₀, by simp [hm], ?_⟩
    split <;> simp_all
  -- an exit is queued only for a server that exited
  have hfresh : n ∉ exits d := by
    intro hm
    obtain ⟨t, ht, hte⟩ := List.mem_filterMap.mp hm
    cases t <;> simp only [Task.exit?, reduceCtorEq, Option.some.injEq] at hte
    subst hte
    obtain ⟨s₀, hs₀, -, hex⟩ := h.exit_tasks _ ht _ _ _ rfl
    rw [hn] at hs₀
    cases hs₀
    simp [hx] at hex
  have hex : exits { d with
      servers := updateAt d.servers n fun s => { s with exited := true }
      world := { d.world with queue := d.world.queue ++ [.exited srv.inst n status] } } =
      exits d ++ [n] := by
    simp [exits, Task.exit?]
  have hen : enables { d with
      servers := updateAt d.servers n fun s => { s with exited := true }
      world := { d.world with queue := d.world.queue ++ [.exited srv.inst n status] } } =
      enables d := by
    simp [enables, Task.enable?]
  have hch : checks { d with
      servers := updateAt d.servers n fun s => { s with exited := true }
      world := { d.world with queue := d.world.queue ++ [.exited srv.inst n status] } } =
      checks d := by
    simp [checks, Task.check?]
  refine ⟨h.live, h.keys_nodup, ?_, by rw [hch]; exact h.checks_nodup, ?_, ?_, ?_, ?_, ?_⟩
  · intro a ha
    rw [hch] at ha
    exact h.leads a ha
  · intro t ht i m st rfl
    rcases List.mem_append.mp ht with ht | ht
    · obtain ⟨s₀, hs₀, hi, hex₀⟩ := h.exit_tasks _ ht i m st rfl
      obtain ⟨srv', hsrv', hi', hex'⟩ := back m s₀ hs₀
      exact ⟨srv', hsrv', hi'.trans hi, hex' hex₀⟩
    · simp only [List.mem_singleton, Task.exited.injEq] at ht
      obtain ⟨rfl, rfl, rfl⟩ := ht
      exact ⟨{ srv with exited := true }, by simp [hn], rfl, rfl⟩
  · rw [hex]
    exact List.nodup_append.mpr ⟨h.exits_nodup, by simp,
      fun a ha b hb => by simp only [List.mem_singleton] at hb; exact hb ▸ fun he => hfresh (he ▸ ha)⟩
  · rw [hen]
    exact h.enables_exist
  · intro srv' hmem
    obtain ⟨m, hm, hget⟩ := List.getElem_of_mem hmem
    obtain ⟨s₀, hs₀, hi, -⟩ := get m srv' (by rw [List.getElem?_eq_getElem hm, hget])
    simpa [hi] using h.servers_exist s₀ (List.mem_of_getElem? hs₀)
  · intro i s his hcl
    have hs := h.sessions i s his hcl
    refine ⟨hs.current_iff, hs.reconnect_iff, hs.order_nodup, hs.order_perm, hs.stopped_idle,
      ?_, ?_, by rw [hen]; exact hs.enables_le, by rw [hen]; exact hs.enables_current⟩
    · intro c hc
      obtain ⟨s₁, hs₁, hinst, hnew⟩ := hs.current_newest c hc
      obtain ⟨srv', hsrv', hinst', -⟩ := back c s₁ hs₁
      refine ⟨srv', hsrv', hinst'.trans hinst, fun m srv'' hm hi' => ?_⟩
      obtain ⟨s₀, hs₀, hinst₀, -⟩ := get m srv'' hm
      exact hnew m s₀ hs₀ (hinst₀ ▸ hi')
    · intro m srv' hm hi' hc
      obtain ⟨s₀, hs₀, hinst, hstop, hex₀⟩ := get m srv' hm
      rcases hs.retired m s₀ hs₀ (hinst ▸ hi') hc with hst | ⟨⟨s₁, hs₁, hex₁⟩, hnot⟩
      · exact .inl (hstop ▸ hst)
      · -- a handled server had exited, so it is not the one exiting now
        have hmn : m ≠ n := by
          rintro rfl
          rw [hn] at hs₁
          cases hs₁
          simp [hx] at hex₁
        rw [hs₀] at hs₁
        cases hs₁
        refine .inr ⟨⟨srv', hm, (hex₀ hmn).trans hex₁⟩, ?_⟩
        rw [hex]
        simp [hnot, hmn]

theorem calm_serverExit (n? : Option Nat) (status : ExitStatus) : Calm (serverExit n? status) := by
  intro extra held d h
  simp only [serverExit, after_get_bind]
  split
  · exact h
  · rename_i n _
    cases hs : d.servers[n]? with
    | none => simpa [hs] using h
    | some srv =>
      cases hx : srv.exited
      · simp only [after_getServer_bind, hs, hx, Bool.false_eq_true, if_false,
          after_setServer_bind, after_post_bind, after_pure]
        exact h.serverExited hs hx status
      · simpa [hs, hx] using h

theorem calm_serverSends (n? : Option Nat) (method params : String) (isCall : Bool) :
    Calm (serverSends n? method params isCall) := by
  unfold serverSends serverMessage
  refine calm_get.bind fun _ => ?_
  split
  · exact Calm.pure _
  · refine Calm.bind ((calm_relayFromServer _ _ _ _).bind fun r => ?_) fun _ => Calm.pure _
    cases r
    · exact Calm.pure _
    · exact calm_replyWith _

theorem calm_releaseServer (n? : Option Nat) : Calm (releaseServer n?) := by
  unfold releaseServer
  refine calm_get.bind fun _ => ?_
  split
  · exact Calm.pure _
  · exact (calm_release _).bind fun _ => Calm.pure _

/-! ## The clock -/

theorem calm_fire (a : TimerAction) : Calm (fire a) := by
  cases a with
  | reconnect i g buffer => exact calm_post _ rfl rfl rfl
  | idle => exact calm_emit _

/-- Moving the clock settles the due timers and fires them, which only queues reconnects. -/
theorem calm_advance (ms : Nat) : Calm (advance ms) := by
  unfold advance
  refine Calm.bind (calm_updateWorld _ ?_ ?_ ?_ ?_) fun _ => calm_get.bind fun _ =>
    Calm.bind (calm_updateWorld _ ?_ ?_ ?_ ?_) fun _ =>
      (Calm.forM fun (t : Timer) => calm_fire t.action).bind fun _ => calm_get.bind fun _ =>
        Calm.pure _
  -- the clock and the timers are no work in flight
  all_goals intro _; rfl

end RemoteLsp.Daemon
