import Mathlib
import RemoteLsp.Daemon.Steps

/-!
# Running daemon operations

An operation of the daemon returns or stops early, and in both cases leaves a state behind:
`after op d`. The equations here say what the daemon's primitives leave, in a world that is not
live (remote runs, prompts and servers are those of the scripted world), so that a longer
operation can be executed step by step with `simp` and its effect read off.

`Keeps P op` says that `op` leaves a state with property `P` whenever it starts in one; it is
closed under the `do` notation's binds.
-/

namespace RemoteLsp.Daemon

/-- The state an operation leaves behind, whether it returned or stopped early. -/
def after {α : Type} (op : M α) (d : State) : State :=
  match op.run d with
  | .ok _ s => s
  | .error _ s => s

theorem after_bind {α β : Type} (x : M α) (f : α → M β) (d : State) :
    after (x >>= f) d = match x.run d with
      | .ok a s => after (f a) s
      | .error _ s => s := by
  simp only [after, EStateM.run_bind]
  cases x.run d <;> rfl

@[simp] theorem after_pure {α : Type} (a : α) (d : State) : after (pure a : M α) d = d := rfl

/-- Sequencing: the first operation leaves a state with `Q`, every continuation takes a state
with `Q` to one with `R`, and where the first operation stops early `Q` gives `R` already. -/
theorem after_bind_of {α β : Type} {x : M α} {f : α → M β} {d : State} {Q R : State → Prop}
    (hx : Q (after x d)) (hf : ∀ a s, Q s → R (after (f a) s)) (he : ∀ s, Q s → R s) :
    R (after (x >>= f) d) := by
  rw [after_bind]
  cases hr : x.run d with
  | ok a s =>
    simp only [after, hr] at hx
    exact hf a s hx
  | error e s =>
    simp only [after, hr] at hx
    exact he s hx

theorem after_of_run_ok {α β : Type} {x : M α} {f : α → M β} {d s : State} {a : α}
    (h : x.run d = .ok a s) : after (x >>= f) d = after (f a) s := by
  rw [after_bind, h]

theorem after_of_run_error {α β : Type} {x : M α} {f : α → M β} {d s : State} {e : Stop}
    (h : x.run d = .error e s) : after (x >>= f) d = s := by
  rw [after_bind, h]

theorem after_eq_of_run_ok {α : Type} {x : M α} {d s : State} {a : α} (h : x.run d = .ok a s) :
    after x d = s := by
  simp [after, h]

@[simp] theorem getElem?_updateAt {β : Type} (xs : List β) (i j : Nat) (f : β → β) :
    (updateAt xs i f)[j]? = xs[j]?.map fun x => if j = i then f x else x := by
  simp [updateAt, List.getElem?_mapIdx]

@[simp] theorem length_updateAt {β : Type} (xs : List β) (i : Nat) (f : β → β) :
    (updateAt xs i f).length = xs.length := by
  simp [updateAt]

theorem updateAt_updateAt_self {β : Type} (xs : List β) (i : Nat) (f g : β → β) :
    updateAt (updateAt xs i f) i g = updateAt xs i fun x => g (f x) := by
  apply List.ext_getElem?
  intro j
  simp only [getElem?_updateAt, Option.map_map]
  congr 1
  funext x
  split <;> simp_all

theorem updateAt_append_length {β : Type} (xs : List β) (x : β) (f : β → β) :
    updateAt (xs ++ [x]) xs.length f = xs ++ [f x] := by
  apply List.ext_getElem?
  intro j
  simp only [getElem?_updateAt, List.getElem?_append]
  rcases Nat.lt_trichotomy j xs.length with hj | rfl | hj
  · simp [hj, Nat.ne_of_lt hj]
  · simp
  · have hk : j - xs.length ≠ 0 := by omega
    simp [Nat.not_lt_of_gt hj, Nat.ne_of_gt hj, hk]

theorem getElem?_append_singleton_eq_some {β : Type} {xs : List β} {x y : β} {m : Nat} :
    (xs ++ [x])[m]? = some y ↔ xs[m]? = some y ∨ m = xs.length ∧ x = y := by
  rcases Nat.lt_trichotomy m xs.length with hm | rfl | hm
  · simp [List.getElem?_append_left hm, Nat.ne_of_lt hm]
  · simp
  · have h1 : xs[m]? = none := List.getElem?_eq_none (Nat.le_of_lt hm)
    have h2 : (xs ++ [x])[m]? = none := List.getElem?_eq_none (by simp; omega)
    simp [h1, h2, Nat.ne_of_gt hm]

/-- The operation keeps `P`: started in a state with `P`, it leaves one with `P`. -/
def Keeps {α : Type} (P : State → Prop) (op : M α) : Prop := ∀ d, P d → P (after op d)

namespace Keeps

variable {P : State → Prop}

theorem pure {α : Type} (a : α) : Keeps P (Pure.pure a : M α) := fun _ h => h

theorem bind {α β : Type} {x : M α} {f : α → M β} (hx : Keeps P x) (hf : ∀ a, Keeps P (f a)) :
    Keeps P (x >>= f) := by
  intro d hd
  have h := hx d hd
  rw [after_bind]
  cases hr : x.run d with
  | ok a s =>
    simp only [after, hr] at h
    exact hf a s h
  | error e s =>
    simpa only [after, hr] using h

theorem of_run {α : Type} {x : M α} (h : ∀ d, P d → ∃ a s, x.run d = .ok a s ∧ P s) :
    Keeps P x := by
  intro d hd
  obtain ⟨a, s, hr, hs⟩ := h d hd
  rw [after_eq_of_run_ok hr]
  exact hs

end Keeps

/-! ## Loops

A property of operations that holds of `pure` and is closed under `bind` holds of a loop over a
list as soon as it holds of the loop's body; each such property of the daemon's operations takes
its loop lemmas from here.
-/

section Loops

variable {P : {α : Type} → M α → Prop}

theorem forM_of_bind (hp : ∀ {α : Type} (a : α), P (Pure.pure a : M α))
    (hb : ∀ {α β : Type} {x : M α} {f : α → M β}, P x → (∀ a, P (f a)) → P (x >>= f))
    {γ : Type} {xs : List γ} {f : γ → M PUnit} (h : ∀ x, P (f x)) : P (xs.forM f) := by
  induction xs with
  | nil => exact hp PUnit.unit
  | cons x xs ih => exact hb (h x) fun _ => ih

theorem forIn_of_bind (hp : ∀ {α : Type} (a : α), P (Pure.pure a : M α))
    (hb : ∀ {α β : Type} {x : M α} {f : α → M β}, P x → (∀ a, P (f a)) → P (x >>= f))
    {γ β : Type} {xs : List γ} {b : β} {f : γ → β → M (ForInStep β)} (h : ∀ x b, P (f x b)) :
    P (forIn xs b f) := by
  induction xs generalizing b with
  | nil => exact hp b
  | cons x xs ih =>
    rw [List.forIn_cons]
    refine hb (h x b) fun r => ?_
    cases r with
    | done b => exact hp b
    | yield b => exact ih

end Loops

@[simp] theorem run_map {α β : Type} (f : α → β) (x : M α) (d : State) :
    (f <$> x).run d = match x.run d with
      | .ok a s => .ok (f a) s
      | .error e s => .error e s := by
  show EStateM.map f x d = _
  simp only [EStateM.map, EStateM.run]
  cases x d <;> rfl

/-! ## Reads -/

@[simp] theorem run_getInstance (i : Nat) (d : State) :
    (getInstance i).run d = .ok d.instances[i]? d := rfl

@[simp] theorem run_getServer (n : Nat) (d : State) : (getServer n).run d = .ok d.servers[n]? d :=
  rfl

@[simp] theorem run_live (d : State) : live?.run d = .ok d.world.live d := rfl

@[simp] theorem run_nameOf (sid : Nat) (d : State) :
    (nameOf sid).run d = .ok (d.config.naming.name sid) d := rfl

@[simp] theorem run_getKey (key : String) (d : State) :
    (getKey key).run d = .ok (Identity.Assoc.get? d.keys key) d := rfl

@[simp] theorem run_sidOf (inst : Nat) (d : State) :
    (sidOf inst).run d = .ok ((d.instances[inst]?.map (·.sid)).getD 0) d := rfl

@[simp] theorem run_configOf (inst : Nat) (d : State) :
    (configOf inst).run d = .ok ((d.instances[inst]?.map (·.cfg)).getD ⟨{}, false, {}⟩) d := by
  cases h : d.instances[inst]? <;> simp [configOf, h]

theorem run_lookup_some {sid inst : Nat} {d : State} (h : openInstance d sid = some inst) :
    (lookup sid).run d = .ok inst d := by
  simp [lookup, h]

theorem run_lookup_none {sid : Nat} {d : State} (h : openInstance d sid = none) :
    ∃ e, (lookup sid).run d = .error e d := by
  simp only [lookup, EStateM.run_bind, EStateM.run_get, h, notFound, run_nameOf]
  exact ⟨_, rfl⟩

/-! ## Catching errors -/

/-- An attempt turns the errors of an operation into values; faults still stop it. -/
theorem run_attempt {α : Type} (op : M α) (d : State) :
    (Op.attempt op).run d = match op.run d with
      | .ok a s => .ok (.ok a) s
      | .error (.failed p) s => .ok (.error p) s
      | .error (.fault m) s => .error (.fault m) s := by
  simp only [Op.attempt, EStateM.run, tryCatch, tryCatchThe, MonadExceptOf.tryCatch,
    EStateM.tryCatch, EStateM.map]
  cases op d with
  | ok a s => rfl
  | error e s => cases e <;> rfl

theorem run_context {α : Type} (op : M α) (c : String) (d : State) :
    (Op.context op c).run d = match op.run d with
      | .ok a s => .ok a s
      | .error (.failed p) s => .error (.failed (p.wrap c)) s
      | .error (.fault m) s => .error (.fault m) s := by
  simp only [Op.context, EStateM.run, tryCatch, tryCatchThe, MonadExceptOf.tryCatch,
    EStateM.tryCatch]
  cases op d with
  | ok a s => rfl
  | error e s => cases e <;> rfl

/-- Recovering an operation turns its faults into the recovered value; errors still stop it. -/
theorem run_recover {α : Type} (op : M α) (x : α) (d : State) :
    (Op.recover op x).run d = match op.run d with
      | .ok a s => .ok a s
      | .error (.failed p) s => .error (.failed p) s
      | .error (.fault _) s => .ok x s := by
  simp only [Op.recover, EStateM.run, tryCatch, tryCatchThe, MonadExceptOf.tryCatch,
    EStateM.tryCatch]
  cases op d with
  | ok a s => rfl
  | error e s => cases e <;> rfl

/-- An operation whose faults are recovered and whose errors are caught always returns, in the
state the operation left. -/
theorem run_attempt_recover {α : Type} (op : M α) (x : α) (d : State) :
    ∃ r, (Op.attempt (Op.recover op x)).run d = .ok r (after op d) := by
  rw [run_attempt, run_recover]
  unfold after
  rcases op.run d with ⟨a, s⟩ | ⟨⟨p⟩ | ⟨m⟩, s⟩ <;> exact ⟨_, rfl⟩

/-- Catching an operation's errors leaves the state it left. -/
@[simp] theorem after_attempt {α : Type} (op : M α) (d : State) :
    after (Op.attempt op) d = after op d := by
  unfold after
  rw [run_attempt]
  rcases op.run d with ⟨a, s⟩ | ⟨⟨p⟩ | ⟨m⟩, s⟩ <;> rfl

/-- Recovering an operation's faults leaves the state it left. -/
@[simp] theorem after_recover {α : Type} (op : M α) (x : α) (d : State) :
    after (Op.recover op x) d = after op d := by
  unfold after
  rw [run_recover]
  rcases op.run d with ⟨a, s⟩ | ⟨⟨p⟩ | ⟨m⟩, s⟩ <;> rfl

theorem Keeps.attempt {P : State → Prop} {α : Type} {op : M α} (h : Keeps P op) :
    Keeps P (Op.attempt op) := fun d hd => by
  rw [after_attempt]
  exact h d hd

theorem Keeps.recover {P : State → Prop} {α : Type} {op : M α} (h : Keeps P op) (x : α) :
    Keeps P (Op.recover op x) := fun d hd => by
  rw [after_recover]
  exact h d hd

@[simp] theorem after_context {α : Type} (op : M α) (c : String) (d : State) :
    after (Op.context op c) d = after op d := by
  unfold after
  rw [run_context]
  rcases op.run d with ⟨a, s⟩ | ⟨⟨p⟩ | ⟨m⟩, s⟩ <;> rfl

/-! ## Writes -/

@[simp] theorem run_updateWorld (f : World → World) (d : State) :
    (updateWorld f).run d = .ok () { d with world := f d.world } := rfl

@[simp] theorem run_emit (e : Event) (d : State) :
    (emit e).run d = .ok () { d with world := { d.world with events := d.world.events ++ [e] } } :=
  rfl

@[simp] theorem run_post (t : Task) (d : State) :
    (post t).run d = .ok () { d with world := { d.world with queue := d.world.queue ++ [t] } } :=
  rfl

@[simp] theorem run_addCount (name : String) (n : Nat) (d : State) :
    (addCount name n).run d = .ok ()
      { d with counters :=
          Identity.Assoc.put d.counters name ((Identity.Assoc.get? d.counters name).getD 0 + n) } :=
  rfl

@[simp] theorem run_count (name : String) (d : State) :
    (count name).run d = .ok ()
      { d with counters :=
          Identity.Assoc.put d.counters name ((Identity.Assoc.get? d.counters name).getD 0 + 1) } :=
  rfl

@[simp] theorem run_replyWith (r : Reply) (d : State) :
    (replyWith r).run d = .ok ()
      { d with world := if d.world.reply.isSome then d.world else { d.world with reply := some r } } :=
  rfl

@[simp] theorem run_setInstance (i : Nat) (f : Instance → Instance) (d : State) :
    (setInstance i f).run d = .ok () { d with instances := updateAt d.instances i f } := rfl

@[simp] theorem run_setServer (n : Nat) (f : Server → Server) (d : State) :
    (setServer n f).run d = .ok () { d with servers := updateAt d.servers n f } := rfl

@[simp] theorem run_updateCache (i : Nat) (f : ValidationCache → ValidationCache) (d : State) :
    (updateCache i f).run d = .ok ()
      { d with instances := updateAt d.instances i fun s =>
          { s with cfg := { s.cfg with cache := f s.cfg.cache } } } := rfl

@[simp] theorem run_setKey (key : String) (ks : KeyState) (d : State) :
    (setKey key ks).run d = .ok () { d with keys := Identity.Assoc.put d.keys key ks } := rfl

@[simp] theorem run_freshPrompt (d : State) :
    freshPrompt.run d = .ok d.world.nextPrompt
      { d with world := { d.world with nextPrompt := d.world.nextPrompt + 1 } } := rfl

@[simp] theorem run_takeHold (d : State) :
    takeHold.run d = .ok d.world.holdNext { d with world := { d.world with holdNext := false } } :=
  rfl

@[simp] theorem run_stopTimer (id : Nat) (d : State) :
    (stopTimer id).run d = .ok ()
      { d with world := { d.world with timers := d.world.timers.map fun t =>
          if t.id = id then { t with live := false } else t } } := rfl

@[simp] theorem run_afterMs (ms : Nat) (action : TimerAction) (d : State) :
    (afterMs ms action).run d = .ok d.world.nextTimer
      { d with world := { d.world with
          nextTimer := d.world.nextTimer + 1
          timers := d.world.timers ++ [⟨d.world.nextTimer, d.world.now + ms, action, true⟩] } } :=
  rfl

/-! ## Writes that end an operation -/

@[simp] theorem after_setInstance (i : Nat) (f : Instance → Instance) (d : State) :
    after (setInstance i f) d = { d with instances := updateAt d.instances i f } :=
  after_eq_of_run_ok (run_setInstance i f d)

@[simp] theorem after_setServer (n : Nat) (f : Server → Server) (d : State) :
    after (setServer n f) d = { d with servers := updateAt d.servers n f } :=
  after_eq_of_run_ok (run_setServer n f d)

@[simp] theorem after_updateCache (i : Nat) (f : ValidationCache → ValidationCache) (d : State) :
    after (updateCache i f) d = { d with instances := updateAt d.instances i fun s =>
      { s with cfg := { s.cfg with cache := f s.cfg.cache } } } :=
  after_eq_of_run_ok (run_updateCache i f d)

@[simp] theorem after_setKey (key : String) (ks : KeyState) (d : State) :
    after (setKey key ks) d = { d with keys := Identity.Assoc.put d.keys key ks } :=
  after_eq_of_run_ok (run_setKey key ks d)

@[simp] theorem after_count (name : String) (d : State) :
    after (count name) d =
      { d with counters :=
          Identity.Assoc.put d.counters name ((Identity.Assoc.get? d.counters name).getD 0 + 1) } :=
  after_eq_of_run_ok (run_count name d)

@[simp] theorem after_post (t : Task) (d : State) :
    after (post t) d = { d with world := { d.world with queue := d.world.queue ++ [t] } } :=
  after_eq_of_run_ok (run_post t d)

@[simp] theorem after_updateWorld (f : World → World) (d : State) :
    after (updateWorld f) d = { d with world := f d.world } :=
  after_eq_of_run_ok (run_updateWorld f d)

/-! ## One step at the head of an operation

These execute the first step of an operation and leave the rest as an operation, so that a
proof can stop at a composite call and use what is known about it.
-/

section Head

variable {β : Type}

@[simp] theorem after_get_bind (f : State → M β) (d : State) :
    after (get >>= f) d = after (f d) d :=
  after_of_run_ok (EStateM.run_get d)

@[simp] theorem after_getInstance_bind (i : Nat) (f : Option Instance → M β) (d : State) :
    after (getInstance i >>= f) d = after (f d.instances[i]?) d :=
  after_of_run_ok (run_getInstance i d)

@[simp] theorem after_getServer_bind (n : Nat) (f : Option Server → M β) (d : State) :
    after (getServer n >>= f) d = after (f d.servers[n]?) d :=
  after_of_run_ok (run_getServer n d)

@[simp] theorem after_getKey_bind (key : String) (f : Option KeyState → M β) (d : State) :
    after (getKey key >>= f) d = after (f (Identity.Assoc.get? d.keys key)) d :=
  after_of_run_ok (run_getKey key d)

@[simp] theorem after_sidOf_bind (i : Nat) (f : Nat → M β) (d : State) :
    after (sidOf i >>= f) d = after (f ((d.instances[i]?.map (·.sid)).getD 0)) d :=
  after_of_run_ok (run_sidOf i d)

@[simp] theorem after_configOf_bind (i : Nat) (f : Session.SessionConfig → M β) (d : State) :
    after (configOf i >>= f) d =
      after (f ((d.instances[i]?.map (·.cfg)).getD ⟨{}, false, {}⟩)) d := by
  rw [after_bind, run_configOf]

@[simp] theorem after_count_bind (name : String) (f : Unit → M β) (d : State) :
    after (count name >>= f) d = after (f ())
      { d with counters :=
          Identity.Assoc.put d.counters name ((Identity.Assoc.get? d.counters name).getD 0 + 1) } :=
  after_of_run_ok (run_count name d)

@[simp] theorem after_setInstance_bind (i : Nat) (g : Instance → Instance) (f : Unit → M β)
    (d : State) :
    after (setInstance i g >>= f) d = after (f ()) { d with instances := updateAt d.instances i g } :=
  after_of_run_ok (run_setInstance i g d)

@[simp] theorem after_setServer_bind (n : Nat) (g : Server → Server) (f : Unit → M β) (d : State) :
    after (setServer n g >>= f) d = after (f ()) { d with servers := updateAt d.servers n g } :=
  after_of_run_ok (run_setServer n g d)

@[simp] theorem after_updateCache_bind (i : Nat) (g : ValidationCache → ValidationCache)
    (f : Unit → M β) (d : State) :
    after (updateCache i g >>= f) d = after (f ())
      { d with instances := updateAt d.instances i fun s =>
          { s with cfg := { s.cfg with cache := g s.cfg.cache } } } :=
  after_of_run_ok (run_updateCache i g d)

@[simp] theorem after_setKey_bind (key : String) (ks : KeyState) (f : Unit → M β) (d : State) :
    after (setKey key ks >>= f) d = after (f ()) { d with keys := Identity.Assoc.put d.keys key ks } :=
  after_of_run_ok (run_setKey key ks d)

@[simp] theorem after_post_bind (t : Task) (f : Unit → M β) (d : State) :
    after (post t >>= f) d =
      after (f ()) { d with world := { d.world with queue := d.world.queue ++ [t] } } :=
  after_of_run_ok (run_post t d)

@[simp] theorem after_updateWorld_bind (g : World → World) (f : Unit → M β) (d : State) :
    after (updateWorld g >>= f) d = after (f ()) { d with world := g d.world } :=
  after_of_run_ok (run_updateWorld g d)

@[simp] theorem after_afterMs_bind (ms : Nat) (action : TimerAction) (f : Nat → M β) (d : State) :
    after (afterMs ms action >>= f) d = after (f d.world.nextTimer)
      { d with world := { d.world with
          nextTimer := d.world.nextTimer + 1
          timers := d.world.timers ++ [⟨d.world.nextTimer, d.world.now + ms, action, true⟩] } } :=
  after_of_run_ok (run_afterMs ms action d)

end Head

/-! ## Effects in a world that is not live -/

section Scripted

variable {d : State}

theorem run_report (h : d.world.live = none) (sid : Nat) (severity : Severity) (m : String) :
    (report sid severity m).run d = .ok ()
      { d with world := { d.world with events := d.world.events ++ [.report sid severity m] } } := by
  simp [report, h]

theorem after_report (h : d.world.live = none) (sid : Nat) (severity : Severity) (m : String) :
    after (report sid severity m) d =
      { d with world := { d.world with events := d.world.events ++ [.report sid severity m] } } :=
  after_eq_of_run_ok (run_report h sid severity m)

theorem after_report_bind {β : Type} (h : d.world.live = none) (sid : Nat) (severity : Severity)
    (m : String) (f : Unit → M β) :
    after (report sid severity m >>= f) d = after (f ())
      { d with world := { d.world with events := d.world.events ++ [.report sid severity m] } } :=
  after_of_run_ok (run_report h sid severity m)

theorem run_serverStop (h : d.world.live = none) (n : Nat) :
    (serverStop n).run d = .ok ()
      { d with world := { d.world with events := d.world.events ++ [.serverStop n] } } := by
  simp [serverStop, h]

theorem run_launch (h : d.world.live = none) (inst sid : Nat) (host name script root : String)
    (settings : Settings) (held : Bool) :
    (launch inst sid host name script root settings held).run d =
      match d.world.launchFailure with
      | some m => .ok (.error m) { d with world := { d.world with
          launchFailure := none
          events := d.world.events ++ [.launchFailed sid host name] } }
      | none => .ok (.ok d.servers.length) { d with
          servers := d.servers ++ [⟨sid, inst, host, root, settings, false, false, false, held, []⟩],
          world := { d.world with
            events := d.world.events ++ [.launch d.servers.length sid host name script] } } := by
  cases hf : d.world.launchFailure <;> simp [launch, hf, h]

theorem run_writeLog (h : d.world.live = none) (sid : Nat) (pfx text : String) :
    (writeLog sid pfx text).run d = .ok ()
      (if d.world.noLogWriter then d
       else { d with world := { d.world with events := d.world.events ++ [.log sid pfx text] } }) := by
  cases hn : d.world.noLogWriter <;> simp [writeLog, hn, h]

theorem run_editorNotify (h : d.world.live = none) (sid : Nat) (method params : String) :
    (editorNotify sid method params).run d = .ok ()
      { d with world := { d.world with
          events := d.world.events ++ [.editorNotify sid method params] } } := by
  simp [editorNotify, h]

theorem run_editorCall (h : d.world.live = none) (sid : Nat) (method params : String) :
    (editorCall sid method params).run d = .ok d.world.editorAnswer
      { d with world := { d.world with
          events := d.world.events ++ [.editorCall sid method params] } } := by
  simp [editorCall, h]

theorem run_serverCall (h : d.world.live = none) (n : Nat) (method params : String) :
    (serverCall n method params).run d =
      .ok ((Identity.Assoc.get? d.world.serverAnswers method).getD
          (.result (if method = "initialize" then defaultInitializeAnswer else "null")))
        { d with world := { d.world with
            events := d.world.events ++ [.serverCall n method params] } } := by
  cases ha : Identity.Assoc.get? d.world.serverAnswers method <;> simp [serverCall, h, ha]

theorem run_serverNotify (h : d.world.live = none) (n : Nat) (method params : String) :
    (serverNotify n method params).run d = .ok ()
      { d with world := { d.world with
          events := d.world.events ++ [.serverNotify n method params] } } := by
  simp [serverNotify, h]

/-- A remote run waits in the world, unless the world's script answers it: then its answer
waits on the loop's queue. -/
theorem after_runRemote_pending (h : d.world.live = none) (hr : d.world.scriptedRuns = [])
    (sid : Nat) (host script : String) (timeoutMs : Int) (next : RunNext) :
    after (runRemote sid host script timeoutMs next) d =
      { d with world := { d.world with
          nextRun := d.world.nextRun + 1
          pendingRuns := d.world.pendingRuns ++ [(d.world.nextRun, next)]
          events := d.world.events ++ [.run d.world.nextRun sid host script timeoutMs] } } := by
  simp only [runRemote, after_bind, EStateM.run_get, run_updateWorld, run_emit, h, hr,
    after_updateWorld]

theorem after_runRemote_scripted {res : Shell.RunResult} {rest : List Shell.RunResult}
    (h : d.world.live = none) (hr : d.world.scriptedRuns = res :: rest)
    (sid : Nat) (host script : String) (timeoutMs : Int) (next : RunNext) :
    after (runRemote sid host script timeoutMs next) d =
      { d with world := { d.world with
          nextRun := d.world.nextRun + 1
          scriptedRuns := rest
          queue := d.world.queue ++ [.ran next res]
          events := d.world.events ++ [.run d.world.nextRun sid host script timeoutMs] ++
            [.runDone d.world.nextRun true] } } := by
  simp only [runRemote, after_bind, EStateM.run_get, run_updateWorld, run_emit, h, hr, after_post]

/-- A question for a value waits in the world, unless the world's script answers it. -/
theorem after_askInput_pending (h : d.world.live = none) (hi : d.world.scriptedInputs = [])
    (sid : Nat) (kind text preset : String) (choices : List String) (next : InputNext) :
    after (askInput sid kind text preset choices next) d =
      { d with world := { d.world with
          nextPrompt := d.world.nextPrompt + 1
          prompts := d.world.prompts ++ [.input d.world.nextPrompt next]
          events := d.world.events ++ [.input d.world.nextPrompt sid kind text preset choices] } } := by
  simp only [askInput, after_bind, run_freshPrompt, run_emit, run_live, h, EStateM.run_get, hi,
    after_updateWorld]

theorem after_askInput_scripted {answer : String × Bool} {rest : List (String × Bool)}
    (h : d.world.live = none) (hi : d.world.scriptedInputs = answer :: rest)
    (sid : Nat) (kind text preset : String) (choices : List String) (next : InputNext) :
    after (askInput sid kind text preset choices next) d =
      { d with world := { d.world with
          nextPrompt := d.world.nextPrompt + 1
          scriptedInputs := rest
          queue := d.world.queue ++ [.answered next answer.1 answer.2]
          events := d.world.events ++ [.input d.world.nextPrompt sid kind text preset choices] } } := by
  simp only [askInput, after_bind, run_freshPrompt, run_emit, run_live, h, EStateM.run_get, hi,
    run_updateWorld, after_post]

/-- A question whether to install waits in the world, unless the world's script answers it. -/
theorem after_askConfirm_pending (h : d.world.live = none) (hc : d.world.scriptedConfirms = [])
    (sid : Nat) (message : String) (actions : List String) (a : Attempt) :
    after (askConfirm sid message actions a) d =
      { d with world := { d.world with
          nextPrompt := d.world.nextPrompt + 1
          prompts := d.world.prompts ++ [.confirm d.world.nextPrompt a]
          events := d.world.events ++ [.confirm d.world.nextPrompt sid message actions] } } := by
  simp only [askConfirm, after_bind, run_freshPrompt, run_emit, run_live, h, EStateM.run_get, hc,
    after_updateWorld]

theorem after_askConfirm_scripted {answer : String × Bool} {rest : List (String × Bool)}
    (h : d.world.live = none) (hc : d.world.scriptedConfirms = answer :: rest)
    (sid : Nat) (message : String) (actions : List String) (a : Attempt) :
    after (askConfirm sid message actions a) d =
      { d with world := { d.world with
          nextPrompt := d.world.nextPrompt + 1
          scriptedConfirms := rest
          queue := d.world.queue ++ [.confirmed a answer.1 answer.2]
          events := d.world.events ++ [.confirm d.world.nextPrompt sid message actions] } } := by
  simp only [askConfirm, after_bind, run_freshPrompt, run_emit, run_live, h, EStateM.run_get, hc,
    run_updateWorld, after_post]

end Scripted

end RemoteLsp.Daemon
