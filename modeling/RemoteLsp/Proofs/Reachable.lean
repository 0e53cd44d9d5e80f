import RemoteLsp.Proofs.Loop

/-!
# The lifecycle of every reachable session

A daemon is created with no sessions in a world that is not live and has no work in flight.
From then on its sessions live through any interleaving of calls of the session API — opening
and closing sessions, opening, changing and closing documents, requests and notifications,
restarts, stops and changed settings — with what the world does: remote runs finish, prompts
are answered, servers exit, send messages and answer their handshake, and reconnect timers
fire. Each call and each event is one step of the daemon, and tasks it posts run after it in
the order they were posted.

In every state reached that way every open session is consistent: it has a current server
exactly while it is starting or attached, and a reconnect timer exactly while a reconnect is
pending; its order names each of its documents once; its current server is the newest one
launched for it; and every other server launched for it was stopped on purpose or has had its
exit handled. So a session never has two servers running that were not stopped. The count of
stops a session still has to absorb is a natural number, so it is never negative.
-/

namespace RemoteLsp.Daemon

/-- What can happen to the daemon's sessions in one step: a call of the session API, or an
event of the world. -/
inductive Input where
  | sessionOpen (sid : Nat) (cfg : Session.SessionConfig) (rootUri capabilities : String)
  | sessionClose (sid : Nat)
  | docOpen (sid : Nat) (doc : Document)
  | docChange (sid : Nat) (uri : String) (version : Int) (text : String)
  | docClose (sid : Nat) (uri : String)
  | call (sid : Nat) (method params : String)
  | notification (sid : Nat) (method params : String)
  | userRestart (sid : Nat)
  | userStop (sid : Nat)
  | configChange (sid : Nat) (change : Op Session.ConfigState Unit)
  | settingsChange (sid : Nat)
  | runResult (id? : Option Nat) (res : Shell.RunResult)
  | inputAnswer (id? : Option Nat) (value : String) (cancelled : Bool)
  | confirmAnswer (id? : Option Nat) (choice : String) (ok : Bool)
  | exit (n? : Option Nat) (status : ExitStatus)
  | serverSays (n? : Option Nat) (method params : String) (isCall : Bool)
  | unhold (n? : Option Nat)
  | tick (ms : Nat)
  | runScript (results : List Shell.RunResult)
  | inputScript (answers : List (String × Bool))
  | confirmScript (answers : List (String × Bool))
  | serverAnswer (method : String) (answer : Answer)
  | notifyFailure (message : String)
  | editorAnswer (answer : Answer)
  | launchFailure (message : String)
  | holdNext
  | knownEnvironment (host env : String)

/-- What an input does: a call of the session API runs on the event loop. -/
def Input.op : Input → M Unit
  | .sessionOpen sid cfg rootUri capabilities =>
    onLoop (openSession sid cfg rootUri capabilities) ()
  | .sessionClose sid => onLoop (closeSession sid) ()
  | .docOpen sid doc => onLoop (didOpen sid doc) ()
  | .docChange sid uri version text => onLoop (didChange sid uri version text) ()
  | .docClose sid uri => onLoop (didClose sid uri) ()
  | .call sid method params => onLoop (request sid method params) ()
  | .notification sid method params => onLoop (notify sid method params) ()
  | .userRestart sid => onLoop (restartSession sid) ()
  | .userStop sid => onLoop (stopSession sid) ()
  | .configChange sid change => onLoop (do withConfig (← lookup sid) change ()) ()
  | .settingsChange sid => onLoop (settingsChanged sid) ()
  | .runResult id? res => completeRun id? res >>= fun _ => pure ()
  | .inputAnswer id? value cancelled => answerInput id? value cancelled >>= fun _ => pure ()
  | .confirmAnswer id? choice ok => answerConfirm id? choice ok >>= fun _ => pure ()
  | .exit n? status => serverExit n? status >>= fun _ => pure ()
  | .serverSays n? method params isCall => serverSends n? method params isCall >>= fun _ => pure ()
  | .unhold n? => releaseServer n? >>= fun _ => pure ()
  | .tick ms => advance ms >>= fun _ => pure ()
  | .runScript results => scriptRuns results
  | .inputScript answers => scriptInputs answers
  | .confirmScript answers => scriptConfirms answers
  | .serverAnswer method answer => setServerAnswer method answer
  | .notifyFailure text => setNotifyError text
  | .editorAnswer answer => setEditorAnswer answer
  | .launchFailure text => setLaunchFailure text
  | .holdNext => holdNextServer
  | .knownEnvironment host env => rememberDirectly host env

/-- One step of the daemon on an input. -/
def Input.run (x : Input) : M Unit := step x.op

/-- The states a daemon reaches from its creation in a world that is not live and has no work
in flight. -/
inductive Reaches : State → Prop where
  | init {setup : Setup} {docs : Identity.Documents} {naming : SessionNaming} {w : World}
      {d : State} (hl : w.live = none) (hq : w.queue = []) (hr : w.pendingRuns = [])
      (hp : w.prompts = []) (hc : create setup docs naming w = .ok d) : Reaches d
  | step {d : State} (x : Input) : Reaches d → Reaches (after x.run d)

/-! ## Every input is calm -/

theorem calm_op (x : Input) : Calm x.op := by
  cases x with
  | sessionOpen sid cfg rootUri capabilities => exact (calm_openSession _ _ _ _).onLoop ()
  | sessionClose sid => exact (calm_closeSession _).onLoop ()
  | docOpen sid doc => exact (calm_didOpen _ _).onLoop ()
  | docChange sid uri version text => exact (calm_didChange _ _ _ _).onLoop ()
  | docClose sid uri => exact (calm_didClose _ _).onLoop ()
  | call sid method params => exact (calm_request _ _ _).onLoop ()
  | notification sid method params => exact (calm_notify _ _ _).onLoop ()
  | userRestart sid => exact (calm_restartSession _).onLoop ()
  | userStop sid => exact (calm_stopSession _).onLoop ()
  | configChange sid change =>
    exact ((calm_lookup sid).bind fun _ => calm_withConfig _ _ _).onLoop ()
  | settingsChange sid => exact (calm_settingsChanged _).onLoop ()
  | runResult id? res => exact (calm_completeRun _ _).bind fun _ => Calm.pure _
  | inputAnswer id? value cancelled => exact (calm_answerInput _ _ _).bind fun _ => Calm.pure _
  | confirmAnswer id? choice ok => exact (calm_answerConfirm _ _ _).bind fun _ => Calm.pure _
  | exit n? status => exact (calm_serverExit _ _).bind fun _ => Calm.pure _
  | serverSays n? method params isCall =>
    exact (calm_serverSends _ _ _ _).bind fun _ => Calm.pure _
  | unhold n? => exact (calm_releaseServer _).bind fun _ => Calm.pure _
  | tick ms => exact (calm_advance _).bind fun _ => Calm.pure _
  | knownEnvironment host env => exact calm_remember _ _
  -- the world's settings and scripts are no work in flight
  | _ =>
    simp only [Input.op, scriptRuns, scriptInputs, scriptConfirms, setServerAnswer, setNotifyError,
      setEditorAnswer, setLaunchFailure, holdNextServer]
    refine calm_updateWorld _ ?_ ?_ ?_ ?_ <;> intro _ <;> rfl

/-! ## Every reachable state keeps the invariant -/

/-- A daemon with no instances, servers or keys, in a world with no work in flight and not
live, is invariant with nothing in hand. -/
theorem Inv.initial {d : State} (hi : d.instances = []) (hs : d.servers = []) (hk : d.keys = [])
    (hl : d.world.live = none) (hq : d.world.queue = []) (hr : d.world.pendingRuns = [])
    (hp : d.world.prompts = []) : Inv [] [] d := by
  have he : enables d = [] := by simp [enables, hk, hr, hp, hq]
  have hc : checks d = [] := by simp [checks, hr, hp, hq]
  refine ⟨hl, by simp [hk], ?_, by simp [hc], ?_, by simp [exits, hq], ?_, ?_, ?_⟩
  · intro a ha
    simp [hc] at ha
  · intro t ht
    simp [hq] at ht
  · intro p hp'
    simp [he] at hp'
  · intro srv hsrv
    simp [hs] at hsrv
  · intro i s his
    simp [hi] at his

theorem calm_refreshIdleTimer : Calm refreshIdleTimer := by
  unfold refreshIdleTimer
  have hidle : ∀ t, Calm (modify fun d : State => { d with idleTimer := t } : M Unit) := fun _ =>
    Calm.of_run fun _ _ => ⟨(), _, rfl, ⟨rfl, rfl, rfl, rfl, rfl, rfl, rfl⟩⟩
  refine calm_get.bind fun d => ?_
  split
  · exact Calm.pure _
  · split
    · exact (calm_afterMs _ _).bind fun t => hidle _
    · refine (calm_stopTimer _).bind fun _ => ?_
      split
      · exact (calm_afterMs _ _).bind fun t => hidle _
      · exact Calm.pure _

/-- A created daemon is invariant with nothing in hand. -/
theorem create_inv {setup : Setup} {docs : Identity.Documents} {naming : SessionNaming}
    {w : World} {d : State} (hl : w.live = none) (hq : w.queue = []) (hr : w.pendingRuns = [])
    (hp : w.prompts = []) (hc : create setup docs naming w = .ok d) : Inv [] [] d := by
  unfold create at hc
  cases hdef : setup.defaults.check with
  | error e => simp [hdef, bind, Except.bind] at hc
  | ok defaults =>
    simp only [hdef, bind, Except.bind] at hc
    -- the daemon created is the state the idle timer's start leaves
    generalize hd₀ : (⟨_, Identity.Store.load docs, [], [], [], [], _, none, 0, w⟩ : State) = d₀ at hc
    have h₀ : Inv [] [] d₀ := by
      subst hd₀
      exact Inv.initial rfl rfl rfl hl hq hr hp
    have hafter := calm_refreshIdleTimer [] [] d₀ h₀
    unfold after at hafter
    generalize EStateM.run refreshIdleTimer d₀ = r at hc hafter
    cases r <;> simp only [pure, Except.pure, Except.ok.injEq] at hc <;> subst hc <;> exact hafter

/-- Every reachable state is invariant with nothing in hand. -/
theorem Reaches.inv {d : State} (h : Reaches d) : Inv [] [] d := by
  induction h with
  | init hl hq hr hp hc => exact create_inv hl hq hr hp hc
  | step x _ ih => exact (calm_op x).step [] [] _ ih

/-! ## The lifecycle of every open session -/

/-- In every reachable state every open session has a current server exactly while it is
starting or attached, a reconnect timer exactly while a reconnect is pending and then no
current server, an order naming each of its documents once, a current server that is the
newest launched for it, and every other server launched for it stopped on purpose or exited
with its exit handled. -/
theorem reachable_session_lifecycle {d : State} (hd : Reaches d) {i : Nat} {s : Instance}
    (hs : d.instances[i]? = some s) (hopen : s.closed = false) :
    (s.current.isSome ↔ s.state = .starting ∨ s.state = .attached) ∧
    (s.reconnect.isSome ↔ s.state = .reconnectPending) ∧
    (s.reconnect.isSome → s.current = none) ∧
    s.order.Nodup ∧ s.order.Perm (s.docs.map (·.uri)) ∧
    (∀ n, s.current = some n → ∃ srv, d.servers[n]? = some srv ∧ srv.inst = i ∧
      ∀ m srv', d.servers[m]? = some srv' → srv'.inst = i → m ≤ n) ∧
    (∀ m srv, d.servers[m]? = some srv → srv.inst = i → s.current ≠ some m →
      srv.stopped = true ∨ (srv.exited = true ∧ ∀ j st, Task.exited j m st ∉ d.world.queue)) := by
  have hok := hd.inv.sessions i s hs hopen
  refine ⟨hok.current_iff, hok.reconnect_iff, fun hr => ?_, hok.order_nodup, hok.order_perm,
    hok.current_newest, fun m srv hm hi hc => ?_⟩
  · -- a pending reconnect is neither starting nor attached
    have hp := hok.reconnect_iff.mp hr
    simpa [hp] using hok.current_iff
  · rcases hok.retired m srv hm hi hc with hst | ⟨⟨srv', hsrv', hex⟩, hnot⟩
    · exact .inl hst
    · rw [hm] at hsrv'
      cases hsrv'
      exact .inr ⟨hex, fun j st hq => hnot (List.mem_filterMap.mpr ⟨_, hq, rfl⟩)⟩

/-- A session opened on a new daemon is consistent. -/
theorem reachable_session_lifecycle_opened :
    ∃ d s i, Reaches d ∧ d.instances[i]? = some s ∧ s.closed = false ∧
      (s.current.isSome ↔ s.state = .starting ∨ s.state = .attached) ∧
      (s.reconnect.isSome ↔ s.state = .reconnectPending) ∧
      (s.reconnect.isSome → s.current = none) ∧
      s.order.Nodup ∧ s.order.Perm (s.docs.map (·.uri)) ∧
      (∀ n, s.current = some n → ∃ srv, d.servers[n]? = some srv ∧ srv.inst = i ∧
        ∀ m srv', d.servers[m]? = some srv' → srv'.inst = i → m ≤ n) ∧
      (∀ m srv, d.servers[m]? = some srv → srv.inst = i → s.current ≠ some m →
        srv.stopped = true ∨ (srv.exited = true ∧ ∀ j st, Task.exited j m st ∉ d.world.queue)) := by
  have hd := Reaches.step (.sessionOpen 0 default "" "")
    (@Reaches.init {} ⟨[], [], none⟩ .numbered {} _ rfl rfl rfl rfl rfl)
  exact ⟨_, _, 0, hd, rfl, rfl, reachable_session_lifecycle hd rfl rfl⟩

end RemoteLsp.Daemon
