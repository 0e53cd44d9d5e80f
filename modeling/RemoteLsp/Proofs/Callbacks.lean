import RemoteLsp.Proofs.Enabling

/-!
# Every enable is continued exactly once

The provisioner answers each enable it is given exactly once, whatever the sessions do
meanwhile and however the world interleaves its answers: remote runs finishing, prompts
answered, servers exiting and speaking, and timers firing. The accounting says so of every
state reached: no enable is under way twice, an open instance that is provisioning has the
enable it waits for under way, a key has waiters only while it is being checked, and a key
being checked has its check under way. So once the world has answered every run and prompt and
the loop has run every task, no enable is under way at all: no key is left checking with
waiters, and no open instance is left provisioning.

This holds of a daemon whose identity store loaded both of its documents, and whose
configuration changes keep them loaded. A validation document that reads as `null` holds no
map: the first check to succeed then faults where it marks its key valid, and the key is left
checking with its waiters, with nothing left to settle it.
-/

namespace RemoteLsp

/-- In a table with one entry per key, each entry is what its key reads. -/
theorem Identity.Assoc.get?_of_mem {β : Type} {m : Assoc β} (hm : (m.map (·.1)).Nodup)
    {k : String} {v : β} (h : (k, v) ∈ m) : Assoc.get? m k = some v := by
  induction m with
  | nil => simp at h
  | cons e m ih =>
    obtain ⟨k', b⟩ := e
    simp only [List.map_cons, List.nodup_cons] at hm
    rw [Assoc.get?_cons]
    rcases List.mem_cons.mp h with h | h
    · cases h
      simp
    · have hk : k' ≠ k := fun hk => hm.1 (hk ▸ List.mem_map_of_mem (f := (·.1)) h)
      rw [if_neg hk]
      exact ih hm.2 h

namespace Daemon

open Identity

variable {d : State} {extra : List (Nat × Nat)} {held : List Attempt}

/-! ## Running the queue -/

/-- Running a task continues the work it put in hand. -/
theorem runTask_accounts {t : Task}
    (h : Accounted (t.enable?.toList ++ extra) (t.check?.toList ++ held) d)
    (hx : ∀ n, t.exit? = some n → Handled d n) : Accounted extra held (after (runTask t) d) := by
  cases t with
  | ran next res =>
    cases next with
    | executable a => exact afterExecutable_accounts h res
    | version a => exact afterVersion_accounts h res
    | detect a installed => exact afterDetect_accounts h installed res
    | install a => exact afterInstall_accounts h res
    | root i g dir => exact rootFound_accounts h dir res
  | answered next value cancelled =>
    cases next with
    | host i g => exact afterHost_accounts h value cancelled
    | environment a res => exact afterEnvironment_accounts h res value cancelled
  | confirmed a choice ok => exact afterConfirm_accounts h choice ok
  -- a server's answer and its exit continue no enable and no check
  | initialized i n answer =>
    exact h.settle (initialized_keeps (i := i) h.inv n answer)
      (settled_initialized i n answer d h.inv.live)
  | exited i n status =>
    exact h.settle (exited_keeps h.inv (hx n rfl) i status) (settled_exited i n status d h.inv.live)
  | reconnect i g buffer => exact steady_reconnectFired i g buffer extra held d h

/-- Draining the queue keeps the accounting: each task taken off is run on the work it put in
hand, and running a task never stops, so nothing taken off is dropped. -/
theorem steady_drain (fuel : Nat) : Steady (drain fuel) := by
  induction fuel with
  | zero => exact Steady.pure _
  | succ fuel ih =>
    intro extra held d h
    simp only [drain, after_get_bind]
    cases hq : d.world.queue with
    | nil => exact h
    | cons t rest =>
      simp only [after_updateWorld_bind]
      have hpop := h.pop hq
      refine after_bind_total (((total_runTask t).recover ()).attempt) hpop.sound ?_
        fun _ d' h' => ih extra held d' h'
      rw [after_attempt, after_recover]
      refine runTask_accounts hpop fun n hn => ?_
      cases t <;> simp only [Task.exit?, reduceCtorEq, Option.some.injEq] at hn
      subst hn
      exact h.inv.pop_exit hq

theorem Steady.onLoop {α : Type} {op : M α} (h : Steady op) (x : α) : Steady (onLoop op x) := by
  unfold RemoteLsp.Daemon.onLoop
  refine (steady_drain _).bind fun _ => (h.recover x).attempt.bind fun r =>
    (steady_drain _).bind fun _ => ?_
  cases r
  · exact Steady.fail _
  · exact Steady.pure _

/-- Changing the world elsewhere than in its work in flight and its ids. -/
theorem steady_updateWorld (f : World → World) (hq : ∀ w, (f w).queue = w.queue)
    (hr : ∀ w, (f w).pendingRuns = w.pendingRuns) (hp : ∀ w, (f w).prompts = w.prompts)
    (hl : ∀ w, (f w).live = w.live) (hn : ∀ w, (f w).nextRun = w.nextRun)
    (hm : ∀ w, (f w).nextPrompt = w.nextPrompt) : Steady (updateWorld f) :=
  Steady.of (calm_updateWorld f hq hr hp hl) (settled_updateWorld f hq hr hp hl hn hm)

theorem Steady.step {α : Type} {op : M α} (h : Steady op) : Steady (step op) := by
  unfold RemoteLsp.Daemon.step
  refine Steady.bind (steady_updateWorld _ ?_ ?_ ?_ ?_ ?_ ?_)
    fun _ => h.bind fun _ => (steady_drain _).bind fun _ => Steady.pure _
  all_goals intro _; rfl

/-! ## The world answers -/

/-- A finished remote run moves the work it continues to the queue, under the one id it was
given. -/
theorem steady_completeRun (id? : Option Nat) (res : Shell.RunResult) :
    Steady (completeRun id? res) := by
  intro extra held d h
  simp only [completeRun, after_get_bind]
  split
  · exact h
  · rename_i id next hentry
    simp only [after_updateWorld_bind, after_post_bind, after_pure]
    have hm : (id, next) ∈ d.world.pendingRuns := by
      cases id? with
      | some k => exact List.mem_of_find?_eq_some hentry
      | none => exact List.mem_of_mem_head? hentry
    exact h.runDone hm _ rfl rfl rfl

theorem steady_answerInput (id? : Option Nat) (value : String) (cancelled : Bool) :
    Steady (answerInput id? value cancelled) := by
  intro extra held d h
  simp only [answerInput, after_get_bind]
  split
  · rename_i id next hfind
    simp only [after_updateWorld_bind, after_post_bind, after_pure]
    exact h.promptDone (List.mem_of_find?_eq_some hfind) _ rfl rfl rfl
  · exact h

theorem steady_answerConfirm (id? : Option Nat) (choice : String) (ok : Bool) :
    Steady (answerConfirm id? choice ok) := by
  intro extra held d h
  simp only [answerConfirm, after_get_bind]
  split
  · rename_i id a hfind
    simp only [after_updateWorld_bind, after_post_bind, after_pure]
    exact h.promptDone (List.mem_of_find?_eq_some hfind) _ rfl rfl rfl
  · exact h

/-- A server's exit queues a task that continues no enable and no check. -/
theorem settled_serverExit (n? : Option Nat) (status : ExitStatus) :
    Settled (serverExit n? status) := by
  unfold serverExit
  refine settled_get.bind fun _ => ?_
  split
  · exact Settled.pure _
  · refine (settled_getServer _).bind fun o => ?_
    split
    · split
      · exact Settled.pure _
      · exact (settled_setServer _ _).bind fun _ => (settled_post rfl rfl).bind fun _ =>
          Settled.pure _
    · exact Settled.pure _

theorem settled_serverSends (n? : Option Nat) (method params : String) (isCall : Bool) :
    Settled (serverSends n? method params isCall) := by
  unfold serverSends serverMessage
  refine settled_get.bind fun _ => ?_
  split
  · exact Settled.pure _
  · refine Settled.bind ((settled_relayFromServer _ _ _ _).bind fun r => ?_) fun _ => Settled.pure _
    cases r
    · exact Settled.pure _
    · exact settled_replyWith _

theorem settled_releaseServer (n? : Option Nat) : Settled (releaseServer n?) := by
  unfold releaseServer
  refine settled_get.bind fun _ => ?_
  split
  · exact Settled.pure _
  · exact (settled_release _).bind fun _ => Settled.pure _

theorem settled_fire (a : TimerAction) : Settled (fire a) := by
  cases a with
  | reconnect i g buffer => exact settled_post rfl rfl
  | idle => exact settled_emit _

/-- Moving the clock settles the due timers and fires them, which only queues reconnects. -/
theorem settled_advance (ms : Nat) : Settled (advance ms) := by
  unfold advance
  refine Settled.bind (settled_updateWorld _ ?_ ?_ ?_ ?_ ?_ ?_) fun _ => settled_get.bind fun _ =>
    Settled.bind (settled_updateWorld _ ?_ ?_ ?_ ?_ ?_ ?_) fun _ =>
      (Settled.forM fun (t : Timer) => settled_fire t.action).bind fun _ => settled_get.bind fun _ =>
        Settled.pure _
  -- the clock and the timers are no work in flight
  all_goals intro _; rfl

/-! ## Every input keeps the accounting -/

/-- An input whose change of a session's configuration keeps a ready store ready; every other
input is tame. -/
def Input.Tame : Input → Prop
  | .configChange _ change => Session.ConfigState.KeepsReady change
  | _ => True

theorem steady_op {x : Input} (hx : x.Tame) : Steady x.op := by
  cases x with
  | sessionOpen sid cfg rootUri capabilities =>
    exact (Steady.of (calm_openSession _ _ _ _) (settled_openSession _ _ _ _)).onLoop ()
  | sessionClose sid => exact (Steady.of (calm_closeSession _) (settled_closeSession _)).onLoop ()
  | docOpen sid doc => exact (steady_didOpen _ _).onLoop ()
  | docChange sid uri version text =>
    exact (Steady.of (calm_didChange _ _ _ _) (settled_didChange _ _ _ _)).onLoop ()
  | docClose sid uri => exact (Steady.of (calm_didClose _ _) (settled_didClose _ _)).onLoop ()
  | call sid method params =>
    exact (Steady.of (calm_request _ _ _) (settled_request _ _ _)).onLoop ()
  | notification sid method params =>
    exact (Steady.of (calm_notify _ _ _) (settled_notify _ _ _)).onLoop ()
  | userRestart sid => exact (steady_restartSession _).onLoop ()
  | userStop sid => exact (Steady.of (calm_stopSession _) (settled_stopSession _)).onLoop ()
  | configChange sid change =>
    exact ((steady_lookup sid).bind fun _ => steady_withConfig _ _ hx).onLoop ()
  | settingsChange sid => exact (steady_settingsChanged _).onLoop ()
  | runResult id? res => exact (steady_completeRun _ _).bind fun _ => Steady.pure _
  | inputAnswer id? value cancelled => exact (steady_answerInput _ _ _).bind fun _ => Steady.pure _
  | confirmAnswer id? choice ok => exact (steady_answerConfirm _ _ _).bind fun _ => Steady.pure _
  | exit n? status =>
    exact (Steady.of (calm_serverExit _ _) (settled_serverExit _ _)).bind fun _ => Steady.pure _
  | serverSays n? method params isCall =>
    exact (Steady.of (calm_serverSends _ _ _ _) (settled_serverSends _ _ _ _)).bind fun _ =>
      Steady.pure _
  | unhold n? =>
    exact (Steady.of (calm_releaseServer _) (settled_releaseServer _)).bind fun _ => Steady.pure _
  | tick ms => exact (Steady.of (calm_advance _) (settled_advance _)).bind fun _ => Steady.pure _
  | knownEnvironment host env => exact steady_remember _ _
  -- the world's settings and scripts are no work in flight
  | _ =>
    simp only [Input.op, scriptRuns, scriptInputs, scriptConfirms, setServerAnswer, setNotifyError,
      setEditorAnswer, setLaunchFailure, holdNextServer]
    refine steady_updateWorld _ ?_ ?_ ?_ ?_ ?_ ?_ <;> intro _ <;> rfl

/-! ## Every reachable state is accounted for -/

/-- The states a daemon reaches from its creation over an identity store that loaded both of
its documents, in a world that is not live and has no work in flight, by tame inputs. -/
inductive ReachesReady : State → Prop where
  | init {setup : Setup} {docs : Identity.Documents} {naming : SessionNaming} {w : World}
      {d : State} (hs : (Store.load docs).Ready) (hl : w.live = none) (hq : w.queue = [])
      (hr : w.pendingRuns = []) (hp : w.prompts = []) (hc : create setup docs naming w = .ok d) :
      ReachesReady d
  | step {d : State} (x : Input) (hx : x.Tame) : ReachesReady d → ReachesReady (after x.run d)

/-- A daemon with no instances, servers or keys, in a world with no work in flight and not
live, over a ready store, is accounted for with nothing in hand. -/
theorem Accounted.initial (hi : d.instances = []) (hs : d.servers = []) (hk : d.keys = [])
    (hl : d.world.live = none) (hq : d.world.queue = []) (hr : d.world.pendingRuns = [])
    (hp : d.world.prompts = []) (hready : d.store.Ready) : Accounted [] [] d where
  inv := Inv.initial hi hs hk hl hq hr hp
  ready := hready
  enables_nodup := by simp [enables, hk, hr, hp, hq]
  waiting key ks hks := by simp [hk, Assoc.get?] at hks
  checked key ks hks := by simp [hk, Assoc.get?] at hks
  provisioning i s his := by simp [hi] at his
  runs_nodup := by simp [hr]
  runs_below e he := by simp [hr] at he
  prompts_nodup := by simp [hp]
  prompts_below p hp' := by simp [hp] at hp'

theorem settled_refreshIdleTimer : Settled refreshIdleTimer := by
  unfold refreshIdleTimer
  have hidle : ∀ t, Settled (modify fun d : State => { d with idleTimer := t } : M Unit) :=
    fun _ => Settled.of_run fun _ _ => ⟨(), _, rfl, Settles.of_frame rfl rfl rfl rfl rfl rfl rfl rfl rfl⟩
  refine settled_get.bind fun d => ?_
  split
  · exact Settled.pure _
  · split
    · exact (settled_afterMs _ _).bind fun t => hidle _
    · refine (settled_stopTimer _).bind fun _ => ?_
      split
      · exact (settled_afterMs _ _).bind fun t => hidle _
      · exact Settled.pure _

/-- A daemon created over a store that loaded both of its documents is accounted for with
nothing in hand. -/
theorem create_accounted {setup : Setup} {docs : Identity.Documents} {naming : SessionNaming}
    {w : World} (hs : (Store.load docs).Ready) (hl : w.live = none) (hq : w.queue = [])
    (hr : w.pendingRuns = []) (hp : w.prompts = []) (hc : create setup docs naming w = .ok d) :
    Accounted [] [] d := by
  unfold create at hc
  cases hdef : setup.defaults.check with
  | error e => simp [hdef, bind, Except.bind] at hc
  | ok defaults =>
    simp only [hdef, bind, Except.bind] at hc
    -- the daemon created is the state the idle timer's start leaves
    generalize hd₀ : (⟨_, Store.load docs, [], [], [], [], _, none, 0, w⟩ : State) = d₀ at hc
    have h₀ : Accounted [] [] d₀ := by
      subst hd₀
      exact Accounted.initial rfl rfl rfl hl hq hr hp hs
    have hafter := Steady.of calm_refreshIdleTimer settled_refreshIdleTimer [] [] d₀ h₀
    unfold after at hafter
    generalize EStateM.run refreshIdleTimer d₀ = r at hc hafter
    cases r <;> simp only [pure, Except.pure, Except.ok.injEq] at hc <;> subst hc <;> exact hafter

/-- Every state reached over a ready store is accounted for with nothing in hand. -/
theorem ReachesReady.accounted (h : ReachesReady d) : Accounted [] [] d := by
  induction h with
  | init hs hl hq hr hp hc => exact create_accounted hs hl hq hr hp hc
  | step x hx _ ih => exact (steady_op hx).step [] [] _ ih

/-! ## Every enable is continued exactly once -/

/-- With nothing in hand, an open instance that is provisioning has the enable it waits for
under way exactly once. -/
theorem Accounted.count_awaited (h : Accounted [] [] d) {i : Nat} {s : Instance}
    (hs : d.instances[i]? = some s) (hcl : s.closed = false) (hp : s.state = .provisioning) :
    (enables d).count (i, s.gen) = 1 := by
  have hn : (enables d).Nodup := by simpa using h.enables_nodup
  exact List.count_eq_one_of_mem hn (by simpa using h.provisioning i s hs hcl hp)

/-- Once no remote run, prompt or task is left, no key is being checked and no enable is under
way. -/
theorem Accounted.quiet (h : Accounted [] [] d) (hr : d.world.pendingRuns = [])
    (hp : d.world.prompts = []) (hq : d.world.queue = []) :
    (∀ key ks, Assoc.get? d.keys key = some ks → ks.state ≠ .checking) ∧ enables d = [] := by
  have hc : checks d = [] := by simp [checks, hr, hp, hq]
  -- a key being checked would have its check under way, and there is none
  have hidle : ∀ key ks, Assoc.get? d.keys key = some ks → ks.state ≠ .checking := by
    intro key ks hks hst
    obtain ⟨a, ha, -⟩ := h.checked key ks hks hst
    simp [hc] at ha
  -- and a key that is not being checked has no waiters
  have hw : ∀ e ∈ d.keys, e.2.waiters = [] := by
    rintro ⟨key, ks⟩ he
    by_contra hne
    have hks := Assoc.get?_of_mem h.inv.keys_nodup he
    exact hidle key ks hks (h.waiting key ks hks hne)
  refine ⟨hidle, ?_⟩
  simp only [enables, hr, hp, hq, List.filterMap_nil, List.append_nil, List.flatMap_eq_nil_iff]
  intro e he
  simp [KeyState.enables, hw e he]

/-- In every state a daemon reaches over a ready store, every enable handed to the provisioner
is continued exactly once. No enable is under way twice, so none is continued twice; an open
instance that is provisioning has the enable it waits for under way exactly once, so it is not
lost; a key has waiters only while it is being checked, and then its check is under way. Once
every remote run and prompt is answered and every task has run, no enable is under way at all:
no key is left checking, none has waiters, and no open instance is left provisioning. -/
theorem reachable_enables_continued_once (hd : ReachesReady d) :
    (enables d).Nodup ∧
    (∀ (i : Nat) (s : Instance), d.instances[i]? = some s → s.closed = false →
      s.state = .provisioning → (enables d).count (i, s.gen) = 1) ∧
    (∀ key ks, Assoc.get? d.keys key = some ks → ks.waiters ≠ [] →
      ks.state = .checking ∧ ∃ a ∈ checks d, a.key = key) ∧
    (d.world.pendingRuns = [] → d.world.prompts = [] → d.world.queue = [] →
      enables d = [] ∧ (∀ key ks, Assoc.get? d.keys key = some ks → ks.state ≠ .checking) ∧
      ∀ (i : Nat) (s : Instance), d.instances[i]? = some s → s.closed = false →
        s.state ≠ .provisioning) := by
  have h := hd.accounted
  refine ⟨by simpa using h.enables_nodup, fun i s hs hcl hp => h.count_awaited hs hcl hp,
    fun key ks hks hw => ?_, fun hr hp hq => ?_⟩
  · have hst := h.waiting key ks hks hw
    obtain ⟨a, ha, hak⟩ := h.checked key ks hks hst
    exact ⟨hst, a, by simpa using ha, hak⟩
  · obtain ⟨hidle, hnone⟩ := h.quiet hr hp hq
    refine ⟨hnone, hidle, fun i s hs hcl hprov => ?_⟩
    -- the enable the instance would wait for is under way, and none is
    have hm := h.provisioning i s hs hcl hprov
    simp [hnone] at hm

/-- A session's first document on a new daemon starts provisioning: its instance waits on the
check of its key, and the accounting holds there. -/
theorem reachable_enables_continued_once_provisioning :
    ∃ (d : State) (s : Instance), ReachesReady d ∧ d.instances[0]? = some s ∧ s.closed = false ∧
      s.state = .provisioning ∧
      (enables d).Nodup ∧
      (∀ (i : Nat) (s : Instance), d.instances[i]? = some s → s.closed = false →
        s.state = .provisioning → (enables d).count (i, s.gen) = 1) ∧
      (∀ key ks, Assoc.get? d.keys key = some ks → ks.waiters ≠ [] →
        ks.state = .checking ∧ ∃ a ∈ checks d, a.key = key) ∧
      (d.world.pendingRuns = [] → d.world.prompts = [] → d.world.queue = [] →
        enables d = [] ∧ (∀ key ks, Assoc.get? d.keys key = some ks → ks.state ≠ .checking) ∧
        ∀ (i : Nat) (s : Instance), d.instances[i]? = some s → s.closed = false →
        s.state ≠ .provisioning) := by
  have hd := ReachesReady.step (.docOpen 0 ⟨"scp://h1//srv/app/main.py", "python", 1, "x = 1\n"⟩)
    trivial (ReachesReady.step (.sessionOpen 0 default "" "") trivial
      (@ReachesReady.init {} ⟨[], [], none⟩ .numbered {} _ ⟨rfl, rfl⟩ rfl rfl rfl rfl rfl))
  exact ⟨_, _, hd, rfl, rfl, rfl, reachable_enables_continued_once hd⟩

/-- Over a validation document that reads as `null` the first check to succeed faults where it
marks its key valid. A session's first document then leaves the key checking with the
session's enable waiting and the session provisioning, with no run, prompt or task left to
settle them. -/
theorem null_validation_strands_enable :
    ∃ d, Reaches d ∧ d.store.valid = none ∧
      d.world.pendingRuns = [] ∧ d.world.prompts = [] ∧ d.world.queue = [] ∧
      Assoc.get? d.keys "pyright|h1|" = some ⟨.checking, [⟨0, "pyright|h1|", 1⟩]⟩ ∧
      (d.instances[0]?.map fun s => (s.closed, s.state, s.gen)) = some (false, .provisioning, 1) := by
  have hd := Reaches.step (.docOpen 0 ⟨"scp://h1//srv/app/main.py", "python", 1, "x = 1\n"⟩)
    (Reaches.step (.runScript [{ (default : Shell.RunResult) with success := true },
        { (default : Shell.RunResult) with success := true }])
      (Reaches.step (.sessionOpen 0 default "" "")
        (@Reaches.init {} ⟨[("validated.json", "null")], [], none⟩ .numbered {} _ rfl rfl rfl rfl
          rfl)))
  exact ⟨_, hd, by decide +kernel, by decide +kernel, by decide +kernel, by decide +kernel,
    by decide +kernel, by decide +kernel⟩

end Daemon

end RemoteLsp
