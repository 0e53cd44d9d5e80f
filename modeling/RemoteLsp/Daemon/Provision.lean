import RemoteLsp.Daemon.Attach

/-!
# Provisioning a backend

Before a server starts, the session's backend must be runnable on its host and environment.
The outcome is remembered three ways: in the session's cache (the key last checked, marked
when it failed), in the identity store (environments found to work), and per validation key
for the daemon's lifetime, where one check is shared by every session waiting on the key.

A check probes the interpreter (executable, else its version), then detects the backend. A
missing backend is installed without asking when the session allows it, otherwise after the
user confirms; a missing interpreter may be replaced by an environment the user types. A
host that cannot be reached (timeout, failure to start ssh, or ssh's own exit code 255)
fails the check with the run's output written to the editor's log.
-/

namespace RemoteLsp.Daemon

/-- The exit code of the detection script when the interpreter itself does not run. -/
def interpreterBroken : Int := 2

/-- The exit code ssh uses for its own failures. -/
def transportFailure : Int := 255

/-- Whether a run failed to reach its host. -/
def unreachable (res : Shell.RunResult) : Bool :=
  res.timedOut || res.spawnFailed || res.exitCode = transportFailure

/-- How a run ended, for messages. -/
def exitDescription (res : Shell.RunResult) : String :=
  if res.timedOut then "timed out" else (ExitStatus.mk res.exitCode res.signal).describe

/-- What is known of the key of some settings. -/
def provisionState (d : State) (st : Settings) : ProvisionState :=
  match Identity.Assoc.get? d.keys st.validationKey with
  | some ks => ks.state
  | none => .unchecked

/-- The state of a validation key. -/
def getKey (key : String) : M (Option KeyState) := return Identity.Assoc.get? (← get).keys key

/-- Sets the state of a validation key. -/
def setKey (key : String) (ks : KeyState) : M Unit :=
  modify fun d => { d with keys := Identity.Assoc.put d.keys key ks }

/-- The session of an instance. -/
def sidOf (inst : Nat) : M Nat := return ((← getInstance inst).map (·.sid)).getD 0

/-- Tells a waiting session the outcome: its cache keeps it and its enable goes on. -/
def wake (w : Waiter) (ok : Bool) : M Unit := do
  updateCache w.owner fun c => { c with lastChecked := if ok then w.key else w.key ++ missingSuffix }
  enableDone w.owner w.gen ok

/-- Settles the key of a check and tells everyone waiting on it. -/
def resolve (a : Attempt) (ok : Bool) : M Unit := do
  let ks := (← getKey a.key).getD ⟨.unchecked, []⟩
  if !ok then count "provisioner.missing"
  setKey a.key ⟨if ok then .valid else .missing, []⟩
  ks.waiters.forM fun w => wake w ok

/-- Fails a check: the message to the editor, the run's output to its log. -/
def fail (a : Attempt) (severity : Severity) (message : String) (res : Shell.RunResult) : M Unit := do
  let sid ← sidOf a.owner
  report sid severity message
  if !res.output.isEmpty then writeLog sid "rlsp" res.output
  resolve a false

/-- Completes a check: the environment works and is the host's latest. -/
def succeed (a : Attempt) : M Unit := do
  count "provisioner.validated"
  markValid (Identity.Store.validationKey a.settings.backend.name a.settings.host)
    a.settings.environment
  remember a.settings.host a.settings.environment
  resolve a true

/-- Gives up a key for everyone but the session that started the check, which retries with
another environment. -/
def handOff (a : Attempt) : M Unit := do
  let ks := (← getKey a.key).getD ⟨.unchecked, []⟩
  setKey a.key ⟨.missing, []⟩
  (ks.waiters.drop 1).forM fun w => wake w false

/-- Runs a script of a check on its host. -/
def runFor (a : Attempt) (script : String) (timeoutMs : Int) (next : RunNext) : M Unit := do
  runRemote (← sidOf a.owner) a.settings.host script timeoutMs next

/-- Runs the backend's detection. -/
def detect (a : Attempt) (installed : Bool) : M Unit :=
  runFor a (a.settings.backend.spec.detectScript a.python a.settings.environment)
    runTimeouts.detect (.detect a installed)

/-- Installs the backend's package. -/
def install (a : Attempt) : M Unit := do
  report (← sidOf a.owner) .info
    ("rlsp: installing " ++ a.settings.backend.spec.package ++ " on " ++ a.settings.host)
  runFor a (a.settings.backend.spec.installScript a.python) runTimeouts.install (.install a)

/-- Asks the user whether to install the backend. -/
def confirmInstall (a : Attempt) : M Unit := do
  askConfirm (← sidOf a.owner)
    (a.settings.backend.spec.package ++ " is not installed for " ++ a.python ++ " on " ++
      a.settings.host ++ ". Install it with pip?") ["Install", "Cancel"] a

/-- Probes that the interpreter is executable. -/
def probe (a : Attempt) : M Unit :=
  runFor a (executableProbe a.python) runTimeouts.probe (.executable a)

/-- The interpreter was not found: asks for another environment once, when allowed. -/
def interpreterMissing (a : Attempt) (res : Shell.RunResult) : M Unit := do
  let cfg ← configOf a.owner
  let host := a.settings.host
  if !a.retried && cfg.allowPrompt && !cfg.cache.prompted then
    updateCache a.owner fun c => { c with prompted := true }
    let envs := ((← get).store.environments host).getD []
    askInput (← sidOf a.owner) "environment"
      ("Python interpreter " ++ a.python ++ " not found on " ++ host ++ ". Remote environment path")
      a.settings.environment envs (.environment a res)
  else
    fail a .warning ("rlsp: python interpreter " ++ a.python ++ " not found on " ++ host) res

/-- Asks the user for the host of a session instance. -/
def promptHost (inst gen : Nat) : M Unit := do
  updateCache inst fun c => { c with prompted := true }
  askInput (← sidOf inst) "host" "Remote host (ssh alias)" "" (← get).store.knownHosts (.host inst gen)

/-- Makes sure the backend of a session instance is runnable, then continues its enable at
the generation given. -/
def ensure (inst gen : Nat) (retried : Bool) : M Unit := do
  let some s ← getInstance inst | pure ()
  let cfg := s.cfg
  let st := cfg.settings
  let key := st.validationKey
  if cfg.cache.lastChecked = key then enableDone inst gen true
  else if cfg.cache.lastChecked = key ++ missingSuffix then enableDone inst gen false
  else if st.host.isEmpty then
    if cfg.allowPrompt && !cfg.cache.prompted then promptHost inst gen
    else
      updateCache inst fun c => { c with lastChecked := key ++ missingSuffix }
      report s.sid .warning "rlsp: no remote host configured, remote language server disabled"
      enableDone inst gen false
  else if (← get).store.isValid (Identity.Store.validationKey st.backend.name st.host)
      st.environment then
    count "provisioner.cache_hit"
    updateCache inst fun c => { c with lastChecked := key }
    enableDone inst gen true
  else
    let w : Waiter := ⟨inst, key, gen⟩
    match ← getKey key with
    | some ks =>
      if ks.state = .checking then
        setKey key { ks with waiters := ks.waiters ++ [w] }
      else
        setKey key ⟨.checking, [w]⟩
        probe ⟨inst, gen, st, key, interpreterPath st.environment, retried⟩
    | none =>
      setKey key ⟨.checking, [w]⟩
      probe ⟨inst, gen, st, key, interpreterPath st.environment, retried⟩

/-- Continues after the executable probe. -/
def afterExecutable (a : Attempt) (res : Shell.RunResult) : M Unit :=
  if res.success then detect a false
  else if unreachable res then
    fail a .error ("rlsp: cannot reach " ++ a.settings.host ++ " (" ++ exitDescription res ++ ")") res
  else runFor a (versionProbe a.python) runTimeouts.probe (.version a)

/-- Continues after the version probe. -/
def afterVersion (a : Attempt) (res : Shell.RunResult) : M Unit :=
  if res.success then detect a false else interpreterMissing a res

/-- Continues after the detection. -/
def afterDetect (a : Attempt) (installed : Bool) (res : Shell.RunResult) : M Unit := do
  let host := a.settings.host
  if res.success then succeed a
  else if unreachable res then
    fail a .error ("rlsp: cannot reach " ++ host ++ " (" ++ exitDescription res ++ ")") res
  else if res.exitCode = interpreterBroken then
    fail a .error ("rlsp: python interpreter " ++ a.python ++ " on " ++ host ++ " does not run") res
  else if installed then
    count "provisioner.install_failed"
    fail a .error ("rlsp: " ++ a.settings.backend.spec.package ++ " was installed on " ++ host ++
      " but is still not detected") res
  else if a.settings.autoInstall then install a
  else confirmInstall a

/-- Continues after the install. -/
def afterInstall (a : Attempt) (res : Shell.RunResult) : M Unit := do
  if !res.success then
    count "provisioner.install_failed"
    fail a .error ("rlsp: installing " ++ a.settings.backend.spec.package ++ " on " ++
      a.settings.host ++ " failed (" ++ exitDescription res ++ ")") res
  else
    count "provisioner.installed"
    detect a true

/-- Continues after the user chose whether to install. -/
def afterConfirm (a : Attempt) (choice : String) (ok : Bool) : M Unit := do
  if !ok || choice ≠ "Install" then
    report (← sidOf a.owner) .info ("rlsp: " ++ a.settings.backend.spec.package ++
      " is not installed, remote language server disabled for this session")
    resolve a false
  else install a

/-- Continues after the user answered the host prompt. -/
def afterHost (inst gen : Nat) (value : String) (cancelled : Bool) : M Unit := do
  updateCache inst fun c => { c with prompted := false }
  if cancelled || (Text.trimBlanks value).isEmpty then
    let cfg ← configOf inst
    updateCache inst fun c => { c with lastChecked := cfg.settings.validationKey ++ missingSuffix }
    enableDone inst gen false
  else
    withConfig inst (Session.ConfigState.setHost value) ()
    ensure inst gen false

/-- Continues after the user answered the environment prompt. -/
def afterEnvironment (a : Attempt) (res : Shell.RunResult) (value : String) (cancelled : Bool) :
    M Unit := do
  updateCache a.owner fun c => { c with prompted := false }
  let missing := fail a .warning
    ("rlsp: python interpreter " ++ a.python ++ " not found on " ++ a.settings.host) res
  if cancelled then missing
  else
    match ← withConfig a.owner (Op.attempt (Session.ConfigState.setEnvironment value)) (.ok ()) with
    | .error _ => missing
    | .ok _ =>
      handOff a
      ensure a.owner a.gen true

end RemoteLsp.Daemon
