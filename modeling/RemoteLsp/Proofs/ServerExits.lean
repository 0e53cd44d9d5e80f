import RemoteLsp.Proofs.ReconnectBudget

/-!
# Server exits

When a server's process ends, the loop runs its exit. The exit of a server that is no longer
its instance's current one (a server stopped on purpose, or replaced) leaves the instance's
state alone. The crash of the current server of an open instance is handed to `crashed`: the
instance reconnects once, with a timer for its generation and last buffer, and gives up when it
has reconnected since its last attach or restart.

Between the two stands the instance's count of stops to absorb, `suppress`: a stop on purpose
raises it, and the exit it expects lowers it. An abnormal exit lowers it whenever it is positive,
without asking whether the server that exited was the one stopped; the clean exit does ask. So
the crash of a server started by a restart, before the exit of the server the restart stopped
has arrived, is taken for that stop: the instance goes idle with no reconnect
(`restart_absorbs_crash_of_current`). With no stop to absorb, a crash of the current server
always reconnects or gives up (`crash_reconnects_or_gives_up`).
-/

namespace RemoteLsp.Daemon

variable {d : State} {i n : Nat} {s : Instance}

/-! ## One exit -/

/-- The timer a crash of instance `i` sets in `d`: once the reconnect delay has passed, it
reconnects the instance's generation on its last buffer. -/
def reconnectTimer (d : State) (i : Nat) (s : Instance) : Timer :=
  ⟨d.world.nextTimer, d.world.now + d.config.delayMs, .reconnect i s.gen s.lastBuffer, true⟩

/-- A crash of an instance with no reconnect pending schedules its one reconnect, or gives it
up once that was used. -/
theorem crashed_instance (hl : d.world.live = none) (hs : d.instances[i]? = some s)
    (hr : s.reconnect = none) {srv : Server} (hsrv : d.servers[n]? = some srv)
    (status : ExitStatus) :
    (after (crashed i n status) d).instances[i]? =
        some (if s.attempted then { s with state := .givenUp }
          else { s with
            attempted := true
            state := .reconnectPending
            reconnect := some d.world.nextTimer }) ∧
      (after (crashed i n status) d).world.timers =
        d.world.timers ++ if s.attempted then [] else [reconnectTimer d i s] := by
  cases hatt : s.attempted
  · simp only [crashed, after_getInstance_bind, hs, after_getServer_bind, hsrv, hr,
      Option.isSome_none, Bool.false_eq_true, if_false, hatt, after_setInstance_bind,
      after_count_bind, after_get_bind, after_report_bind, hl, after_afterMs_bind,
      after_setInstance, updateAt_updateAt_self]
    simp [hs, reconnectTimer]
  · simp only [crashed, after_getInstance_bind, hs, after_getServer_bind, hsrv, hr,
      Option.isSome_none, Bool.false_eq_true, if_false, hatt, if_true, after_setInstance_bind,
      after_count_bind, after_report, hl]
    simp [hs, hatt, hr]

/-- An exit of a server that is not the instance's current one leaves the instance's state as
it was. -/
theorem exited_state_of_not_current (hs : d.instances[i]? = some s) (hc : s.current ≠ some n)
    (status : ExitStatus) :
    (after (exited i n status) d).instances[i]?.map (·.state) = some s.state := by
  cases hsrv : d.servers[n]? with
  | none => simp [exited, hs, hsrv]
  | some srv =>
    simp only [exited, after_getInstance_bind, hs, after_getServer_bind, hsrv, hc, if_false]
    -- whichever way the exit is counted, only the counters and the stops to absorb change
    split
    · simp [hs]
    split
    · split <;> simp [hs]
    split <;> simp [hs]

/-- The crash of the current server of an open instance with no stop to absorb leaves the
instance with no current server, and hands it to `crashed`. -/
theorem exited_current_crash {extra : List (Nat × Nat)} {held : List Attempt}
    (h : Inv extra held d) (hs : d.instances[i]? = some s) (hcl : s.closed = false)
    (hc : s.current = some n) {status : ExitStatus} (hclean : status.clean = false)
    (hsup : s.suppress = 0) :
    (after (exited i n status) d).instances[i]? =
        some (if s.attempted then { s with current := none, state := .givenUp }
          else { s with
            current := none
            attempted := true
            state := .reconnectPending
            reconnect := some d.world.nextTimer }) ∧
      (after (exited i n status) d).world.timers =
        d.world.timers ++ if s.attempted then [] else [reconnectTimer d i s] := by
  have hok := h.sessions i s hs hcl
  -- a current server belongs to an instance that waits for no reconnect
  obtain ⟨-, hr, -, -⟩ := hok.live_of_current hc
  obtain ⟨srv, hsrv, -⟩ := hok.current_newest n hc
  simp only [exited, after_getInstance_bind, hs, after_getServer_bind, hsrv, hc, if_true,
    after_setInstance_bind, after_setServer_bind, hcl, hclean, hsup, after_count_bind,
    Bool.false_eq_true, if_false, updateAt_updateAt_self, lt_self_iff_false]
  -- `crashed` reads the instance and the server the exit has just updated
  exact (crashed_instance (by exact h.live) (by exact getElem?_updateAt_self hs _) (by exact hr)
    (by exact getElem?_updateAt_self hsrv _) status).imp
    (fun hi => hi.trans (by cases s.attempted <;> simp [hsup, hcl])) fun ht =>
      ht.trans (by cases s.attempted <;> rfl)

/-! ## In every run -/

/-- The turn that runs the exit at the head of the queue runs it on the rest of the queue, which
keeps the lifecycle invariant. -/
theorem Inv.exit_turn {extra : List (Nat × Nat)} {held : List Attempt} {st : ExitStatus}
    {rest : List Task} (h : Inv extra held d) (hq : d.world.queue = .exited i n st :: rest) :
    after (Turn.task (.exited i n st)).op d =
        after (exited i n st) { d with world := { d.world with queue := rest } } ∧
      Inv extra held { d with world := { d.world with queue := rest } } :=
  ⟨after_task hq, by simpa [Task.enable?, Task.check?] using h.pop hq⟩

/-- In every run, the turn that runs the exit of server `n` of instance `i` leaves `i`'s state as
it was when `n` is not `i`'s current server. When `n` is the current server of the open
instance `i`, exited abnormally, and `i` has no stop to absorb, the turn leaves `i` with no
current server and no stop to absorb, and either reconnect-pending with the one reconnect timer
it sets, or, when `i` has reconnected since its last attach or restart, given up with no timer
set. -/
theorem crash_reconnects_or_gives_up (hd : Reaches d) (ts : List Turn) {status : ExitStatus}
    {rest : List Task} (hq : (turnsAfter d ts).world.queue = .exited i n status :: rest)
    (hs : (turnsAfter d ts).instances[i]? = some s) :
    (s.current ≠ some n →
      (turnsAfter d (ts ++ [.task (.exited i n status)])).instances[i]?.map (·.state) =
        some s.state) ∧
    (s.closed = false → s.current = some n → status.clean = false → s.suppress = 0 →
      ∃ s', (turnsAfter d (ts ++ [.task (.exited i n status)])).instances[i]? = some s' ∧
        s'.current = none ∧ s'.suppress = 0 ∧
        if s.attempted then
          s'.state = .givenUp ∧ s'.reconnect = none ∧
            (turnsAfter d (ts ++ [.task (.exited i n status)])).world.timers =
              (turnsAfter d ts).world.timers
        else
          s'.state = .reconnectPending ∧ s'.reconnect = some (turnsAfter d ts).world.nextTimer ∧
            (turnsAfter d (ts ++ [.task (.exited i n status)])).world.timers =
              (turnsAfter d ts).world.timers ++ [reconnectTimer (turnsAfter d ts) i s]) := by
  obtain ⟨hturn, hinv⟩ := (turnsAfter_inv hd.inv ts).exit_turn hq
  rw [turnsAfter_concat, hturn]
  refine ⟨fun hc => exited_state_of_not_current (by exact hs) hc status,
    fun hcl hc hclean hsup => ?_⟩
  obtain ⟨-, hr, -, -⟩ := (hinv.sessions i s hs hcl).live_of_current hc
  obtain ⟨hi, ht⟩ := exited_current_crash hinv hs hcl hc hclean hsup
  cases hatt : s.attempted <;>
    simp only [hatt, Bool.false_eq_true, if_true, if_false, List.append_nil] at hi ht ⊢
  · exact ⟨_, hi, rfl, hsup, rfl, rfl, ht⟩
  · exact ⟨_, hi, rfl, hsup, rfl, hr, ht⟩

/-- A session's first document on a new daemon gets its server attached once the probe, the
version and the detection on its host pass; the server then crashes. The crash finds the
server current and no stop to absorb, and the session is left reconnect-pending with its timer. -/
theorem attached_crash_reconnects :
    ∃ d ts s, Reaches d ∧ (turnsAfter d ts).world.queue = [.exited 0 0 ⟨1, ""⟩] ∧
      (turnsAfter d ts).instances[0]? = some s ∧ s.closed = false ∧ s.current = some 0 ∧
      s.suppress = 0 ∧ s.attempted = false ∧
      ∃ s', (turnsAfter d (ts ++ [.task (.exited 0 0 ⟨1, ""⟩)])).instances[0]? = some s' ∧
        s'.current = none ∧ s'.suppress = 0 ∧ s'.state = .reconnectPending ∧
        s'.reconnect = some (turnsAfter d ts).world.nextTimer ∧
        (turnsAfter d (ts ++ [.task (.exited 0 0 ⟨1, ""⟩)])).world.timers =
          (turnsAfter d ts).world.timers ++ [reconnectTimer (turnsAfter d ts) 0 s] := by
  let passed : Shell.RunResult := { (default : Shell.RunResult) with success := true }
  have hd := Reaches.step (.runResult none passed) (Reaches.step (.runResult none passed)
    (Reaches.step (.runResult none passed)
      (Reaches.step (.docOpen 0 ⟨"scp://h1//srv/app/main.py", "python", 1, "x = 1\n"⟩)
        (Reaches.step (.sessionOpen 0 default "" "")
          (@Reaches.init {} ⟨[], [], none⟩ .numbered {} _ rfl rfl rfl rfl rfl)))))
  let ts : List Turn := [.begin, .input (.exit (some 0) ⟨1, ""⟩)]
  -- the exit queued and the instance it finds are read off the reached daemon, both in one
  -- evaluation, and the queue is handed back for the statement
  suffices key : ∀ d : State, Reaches d →
      (turnsAfter d ts).world.queue = [.exited 0 0 ⟨1, ""⟩] ∧
        (turnsAfter d ts).instances[0]?.map
            (fun s : Instance => (s.closed, s.current, s.suppress, s.attempted)) =
          some (false, some 0, 0, false) →
      (turnsAfter d ts).world.queue = [.exited 0 0 ⟨1, ""⟩] ∧
      ∃ s : Instance, (turnsAfter d ts).instances[0]? = some s ∧ s.closed = false ∧
        s.current = some 0 ∧ s.suppress = 0 ∧ s.attempted = false ∧
        ∃ s' : Instance,
          (turnsAfter d (ts ++ [.task (.exited 0 0 ⟨1, ""⟩)])).instances[0]? = some s' ∧
          s'.current = none ∧ s'.suppress = 0 ∧ s'.state = .reconnectPending ∧
          s'.reconnect = some (turnsAfter d ts).world.nextTimer ∧
          (turnsAfter d (ts ++ [.task (.exited 0 0 ⟨1, ""⟩)])).world.timers =
            (turnsAfter d ts).world.timers ++ [reconnectTimer (turnsAfter d ts) 0 s] by
    obtain ⟨hq, s, hrest⟩ := key _ hd (by decide +kernel)
    exact ⟨_, ts, s, hd, hq, hrest⟩
  rintro d hd ⟨hq, hv⟩
  refine ⟨hq, ?_⟩
  cases hs : (turnsAfter d ts).instances[0]? with
  | none => simp [hs] at hv
  | some s =>
    simp only [hs, Option.map_some, Option.some.injEq, Prod.mk.injEq] at hv
    obtain ⟨hcl, hc, hsup, hatt⟩ := hv
    obtain ⟨s', hs', hc', hsup', hrest⟩ :=
      (crash_reconnects_or_gives_up hd ts hq hs).2 hcl hc rfl hsup
    simp only [hatt, Bool.false_eq_true, if_false] at hrest
    exact ⟨s, rfl, hcl, hc, hsup, hatt, s', hs', hc', hsup', hrest⟩

/-- A session attached on a new daemon is restarted: the restart stops its server, which has one
stop to absorb, and starts a new one that attaches before the old one's exit arrives. The new
server, current and not stopped, crashes. The crash is taken for the stop: the session is left
idle with no reconnect pending and no timer set, and the stop it absorbed is still to come. -/
theorem restart_absorbs_crash_of_current :
    ∃ d, Reaches d ∧
      (d.instances[0]?.map fun s => (s.closed, s.current, s.suppress, s.attempted)) =
        some (false, some 1, 1, false) ∧
      (d.servers.map fun srv => (srv.inst, srv.stopped, srv.exited)) =
        [(0, true, false), (0, false, false)] ∧
      ((after (Input.exit (some 1) ⟨1, ""⟩).run d).instances[0]?.map fun s =>
        (s.state, s.current, s.suppress, s.reconnect)) = some (.idle, none, 0, none) ∧
      (after (Input.exit (some 1) ⟨1, ""⟩).run d).world.timers = [] := by
  let passed : Shell.RunResult := { (default : Shell.RunResult) with success := true }
  have hd := Reaches.step (.runResult none passed) (Reaches.step (.userRestart 0)
    (Reaches.step (.runResult none passed) (Reaches.step (.runResult none passed)
      (Reaches.step (.runResult none passed)
        (Reaches.step (.docOpen 0 ⟨"scp://h1//srv/app/main.py", "python", 1, "x = 1\n"⟩)
          (Reaches.step (.sessionOpen 0 default "" "")
            (@Reaches.init {} ⟨[], [], none⟩ .numbered {} _ rfl rfl rfl rfl rfl)))))))
  -- one evaluation of the daemon gives all four facts
  exact ⟨_, hd, by decide +kernel⟩

end RemoteLsp.Daemon
