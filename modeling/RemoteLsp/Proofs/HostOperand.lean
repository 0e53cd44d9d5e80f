import RemoteLsp.Proofs.Reachable
import RemoteLsp.Proofs.SettingsShape

/-!
# The host on the remote command line

A remote script runs through `ssh` with its options, then the host, then the command. `ssh`
reads its arguments as `getopt` does: arguments that start with `-` before the first operand are
options, and `-o` takes the argument after it as its value. The host is meant to be the first
operand, the destination; nothing marks the end of the options before it.

Every way of choosing a session's host only trims the blanks around the text given, so a host
may start with `-`. Main statement (`host_is_operand_iff`): option parsing of the default
command line stops at the host exactly when the host does not start with `-`; and choosing a
host sets it to the trimmed text whatever it starts with. A host such as `-oProxyCommand=…` is
read as an option, and the command after it becomes the destination (`dash_host_read_as_option`).
-/

namespace RemoteLsp.Shell

/-- The operands of a command's arguments as a `getopt` parser finds them: arguments that
start with `-` before the first operand are options, `-o` takes the next argument as its value,
and `--` ends the options. -/
def operands : List String → List String
  | [] => []
  | a :: rest =>
    if a = "--" then rest
    else if Text.startsWith a "-" = false then a :: rest
    else if a = "-o" then
      match rest with
      | [] => []
      | _ :: r => operands r
    else operands rest

/-- The default options are four `-o` options with their values. -/
theorem operands_defaultOptions_append (rest : List String) :
    operands (defaultOptions ++ rest) = operands rest := by
  simp [defaultOptions, operands, Text.startsWith, List.isPrefixOf]

/-- An argument that does not start with `-` is the first operand. -/
theorem operands_of_not_option {a : String} (ha : Text.startsWith a "-" = false)
    (rest : List String) : operands (a :: rest) = a :: rest := by
  have hne : a ≠ "--" := by
    rintro rfl
    simp [Text.startsWith, List.isPrefixOf] at ha
  rw [operands.eq_def]
  simp [hne, ha]

/-- An argument that starts with `-` and is not `-o` or `--` is an option. -/
theorem operands_of_option {a : String} (ha : Text.startsWith a "-" = true) (hd : a ≠ "--")
    (ho : a ≠ "-o") (rest : List String) : operands (a :: rest) = operands rest := by
  rw [operands.eq_def]
  simp [hd, ho, ha]

/-- Option parsing of the default command line stops at the host exactly when the host does not
start with `-`; otherwise the host is read as an option. -/
theorem argv_operands_iff (host script : String) :
    operands ((Runner.ofConfig {}).argv host script).tail = [host, "sh -c " ++ quote script] ↔
      Text.startsWith host "-" = false := by
  have hcmd : Text.startsWith ("sh -c " ++ quote script) "-" = false := by
    simp [Text.startsWith, String.toList_append, List.isPrefixOf]
  have hargv : ((Runner.ofConfig {}).argv host script).tail =
      defaultOptions ++ [host, "sh -c " ++ quote script] := by
    simp [Runner.argv, Runner.ofConfig]
  rw [hargv, operands_defaultOptions_append]
  constructor
  · intro h
    cases hh : Text.startsWith host "-" with
    | false => rfl
    | true =>
      -- a host read as an option leaves the command, or nothing, as the operands
      by_cases hd : host = "--"
      · subst hd
        simp [operands] at h
      by_cases ho : host = "-o"
      · subst ho
        simp [operands, Text.startsWith, List.isPrefixOf] at h
      · rw [operands_of_option hh hd ho, operands_of_not_option hcmd] at h
        simp at h
  · intro hh
    exact operands_of_not_option hh _

end RemoteLsp.Shell

namespace RemoteLsp

open Shell

/-- Choosing a host sets the session's host to the text given, blanks at its ends trimmed,
whatever it starts with; and option parsing of the default remote command line stops at the
host exactly when the host does not start with `-`. -/
theorem host_is_operand_iff (s : Session.ConfigState) (host script : String) :
    (∃ s', (Session.ConfigState.setHost host).run s = .ok () s' ∧
      s'.config.settings.host = Text.trimBlanks host) ∧
    (operands ((Runner.ofConfig {}).argv host script).tail = [host, "sh -c " ++ quote script] ↔
      Text.startsWith host "-" = false) := by
  refine ⟨?_, argv_operands_iff host script⟩
  rw [Session.ConfigState.run_setHost]
  split
  · exact ⟨s, rfl, by simp_all⟩
  · exact ⟨_, rfl, rfl⟩

/-- A session whose first document is a buffer on the host `-oProxyCommand=x` takes that host
and probes its interpreter there; on the remote command line of that probe the host is read as
an option, and the command after it is taken for the destination. -/
theorem dash_host_read_as_option :
    ∃ d, Daemon.Reaches d ∧ ∃ (id sid : Nat) (script : String) (timeoutMs : Int),
      Daemon.Event.run id sid "-oProxyCommand=x" script timeoutMs ∈ d.world.events ∧
      operands ((Runner.ofConfig {}).argv "-oProxyCommand=x" script).tail ≠
        ["-oProxyCommand=x", "sh -c " ++ quote script] := by
  have hd := Daemon.Reaches.step (.docOpen 0 ⟨"scp://-oProxyCommand=x//srv/a.py", "python", 1, "x"⟩)
    (Daemon.Reaches.step (.sessionOpen 0 ⟨{}, false, {}⟩ "" "")
      (@Daemon.Reaches.init {} ⟨[], [], none⟩ .numbered {} _ rfl rfl rfl rfl rfl))
  refine ⟨_, hd, 0, 0, executableProbe "python3", 10000, by decide +kernel, ?_⟩
  rw [ne_eq, argv_operands_iff]
  decide

end RemoteLsp
