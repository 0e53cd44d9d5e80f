import RemoteLsp.Proofs.Reachable
import RemoteLsp.Proofs.SettingsShape

/-!
# Adopting a host

A session configured without a host takes one from its editor: at `initialize` from a root on a
remote host, or from the first buffer on a remote host that it opens. Either way the session
chooses the host as `rlsp.setHost` does, and that choice replaces the environment by the one the
host used last, or by none.

An environment given in the session's options seeds the configuration, normalised, before any
host is known. It does not outlive the adoption: afterwards the session's environment is the
adopted host's last one, whatever the options said.

Main statement: `adopted_host_replaces_environment`.
-/

namespace RemoteLsp

namespace Session

/-- A new configuration has the host of its options, trimmed, and the environment they give,
normalised, when they give one. -/
theorem newConfig_seeds {df : Defaults} {o : SessionOptions} {store : Identity.Store}
    {cfg : SessionConfig} (hc : newConfig df o store = .ok cfg) :
    cfg.settings.host = Text.trimBlanks (o.host.getD df.host) ∧
      ∀ env, Path.normalizeEnvironment (o.environment.getD df.environment) = some env →
        cfg.settings.environment = env := by
  simp only [newConfig, bind, Except.bind] at hc
  -- the backend and the workspace root are the two checks that can refuse the options
  split at hc
  · cases hc
  · split at hc
    · cases hc
    · simp only [pure, Except.pure, Except.ok.injEq] at hc
      subst hc
      refine ⟨rfl, fun env he => ?_⟩
      simp [he]

end Session

namespace Daemon

section WithConfig

variable {α : Type} {i : Nat} {op : Op Session.ConfigState α} {fallback : α} {d : State}
  {s : Instance} {a : α} {cs : Session.ConfigState}

/-- A configuration operation that returns, run on an instance, returns its value and leaves the
instance with the operation's configuration and the daemon with its store. -/
theorem run_withConfig_ok (hs : d.instances[i]? = some s)
    (hr : op.run ⟨s.cfg, d.store⟩ = .ok a cs) :
    (withConfig i op fallback).run d = .ok a
      { d with instances := updateAt d.instances i fun s => { s with cfg := cs.config },
               store := cs.store } := by
  simp [withConfig, EStateM.run_bind, EStateM.run_get, hs, hr]

theorem after_withConfig_ok (hs : d.instances[i]? = some s)
    (hr : op.run ⟨s.cfg, d.store⟩ = .ok a cs) :
    after (withConfig i op fallback) d =
      { d with instances := updateAt d.instances i fun s => { s with cfg := cs.config },
               store := cs.store } :=
  after_eq_of_run_ok (run_withConfig_ok hs hr)

end WithConfig

/-- A session configured without a host and opened at a root on a remote host takes the host,
with the environment the host used last. -/
theorem openSession_adopts_host {d : State} {sid : Nat} {cfg : Session.SessionConfig}
    {rootUri caps host path : String} (hopen : openInstance d sid = none)
    (hroot : d.config.translator.fromVirtual rootUri = some (host, path))
    (hunset : cfg.settings.host = "") (hh : Text.trimBlanks host ≠ "") :
    (after (openSession sid cfg rootUri caps) d).instances[d.instances.length]?.map
        (·.cfg.settings) =
      some { cfg.settings with
        host := Text.trimBlanks host
        environment := d.store.lastEnvironment (Text.trimBlanks host) } := by
  let s : Instance := ⟨sid, cfg, rootUri, caps, .idle, [], [], "", false, 0, false, false,
    none, 0, none⟩
  have hs : (d.instances ++ [s])[d.instances.length]? = some s := by simp
  have hne : Text.trimBlanks host ≠ cfg.settings.host := hunset ▸ hh
  simp only [openSession, after_get_bind, hopen, Option.isSome_none, Bool.false_eq_true,
    ↓reduceIte]
  rw [after_of_run_ok (x := modify _) rfl, after_get_bind]
  simp only [hroot, hunset]
  rw [if_pos (show "".isEmpty = true from rfl),
    after_withConfig_ok hs (Session.ConfigState.run_setHost _ host), if_neg hne,
    getElem?_updateAt, hs]
  simp [hh, s]

/-- An environment given in a session's options, with no host, seeds the session's
configuration; opening the session at a root on a remote host then replaces it by the
environment that host used last. -/
theorem adopted_host_replaces_environment {df : Session.Defaults} {o : Session.SessionOptions}
    {d : State} {cfg : Session.SessionConfig} {sid : Nat} {rootUri caps host path env : String}
    (hc : Session.newConfig df o d.store = .ok cfg)
    (he : Path.normalizeEnvironment (o.environment.getD df.environment) = some env)
    (hunset : Text.trimBlanks (o.host.getD df.host) = "") (hopen : openInstance d sid = none)
    (hroot : d.config.translator.fromVirtual rootUri = some (host, path))
    (hh : Text.trimBlanks host ≠ "") :
    cfg.settings.environment = env ∧
      (after (openSession sid cfg rootUri caps) d).instances[d.instances.length]?.map
        (·.cfg.settings.environment) = some (d.store.lastEnvironment (Text.trimBlanks host)) := by
  obtain ⟨hhost, henv⟩ := Session.newConfig_seeds hc
  have hadopt := @openSession_adopts_host d sid cfg rootUri caps host path hopen hroot
    (hhost.trans hunset) hh
  refine ⟨henv env he, ?_⟩
  simpa [Option.map_map, Function.comp_def] using
    congrArg (Option.map fun st => st.environment) hadopt

/-- A session told to use `/opt/venv/bin/python3`, opened at a root on `h1` whose last
environment is `/srv/other`, is left with `/srv/other`. -/
theorem adopted_host_replaces_environment_h1 :
    ∃ d, Reaches d ∧
      Session.newConfig { backend := "pyright" } { environment := some "/opt/venv/bin/python3" }
        d.store = .ok ⟨{ environment := "/opt/venv" }, false, {}⟩ ∧
      (after (openSession 0 ⟨{ environment := "/opt/venv" }, false, {}⟩ "scp://h1//srv" "")
          d).instances[d.instances.length]?.map (·.cfg.settings.environment) =
        some "/srv/other" := by
  have hd := @Reaches.init {}
    ⟨[("environments.json",
      "\x7b\"h1\": \x7b\"envs\": [\"/srv/other\"], \"last_env\": \"/srv/other\"\x7d\x7d")],
      [], none⟩
    .numbered {} _ rfl rfl rfl rfl rfl
  refine ⟨_, hd, by decide +kernel, ?_⟩
  refine (@adopted_host_replaces_environment { backend := "pyright" }
    { environment := some "/opt/venv/bin/python3" } _ _ 0 "scp://h1//srv" "" "h1" "/srv"
    "/opt/venv"
    ?_ ?_ ?_ ?_ ?_ ?_).2.trans ?_
  all_goals decide +kernel

end Daemon

end RemoteLsp
