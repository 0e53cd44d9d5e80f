import RemoteLsp.Identity.Store
import RemoteLsp.Yaml.Write
import RemoteLsp.Program.Cli

/-!
# Commands on remembered environments

`env list` prints, for each host asked for (every remembered host, sorted, when none is
named), the environment it used last and its environments, most recent first; a host that
used none has no `last` entry, and an unknown host has an empty list. `env validated` prints
the validated environments of each backend and host. Both print YAML with list items
indented under their key, and the keys of a map in natural order. `env forget` forgets an
environment of a host, or the whole host, and writes both documents of the store again.
-/

namespace RemoteLsp.Program

/-- The entry of a host in the listing: its name, its last environment when it has one, and
its environments. -/
def hostEntry (s : Identity.Store) (host : String) : Json :=
  let last := s.lastEnvironment host
  .obj ([("host", .str host)] ++ (if last.isEmpty then [] else [("last", .str last)]) ++
    [("environments", Json.ofStrings ((s.environments host).getD []))])

/-- The listing of remembered environments, of one host or of every host. -/
def listEnvironments (s : Identity.Store) (host : Option String) : String :=
  let hosts := match host with
    | some h => [h]
    | none => s.knownHosts
  Yaml.render .report (.arr (hosts.map (hostEntry s)))

/-- The listing of validated environments by validation key. -/
def listValidated (s : Identity.Store) : String :=
  Yaml.render .report (.obj (Yaml.naturalSort (s.validated.map fun (k, envs) => (k, Json.ofStrings envs))))

/-- Runs a command on remembered environments: what it prints, and the store afterwards. -/
def runEnvCommand (s : Identity.Store) : Invocation → String × Identity.Store
  | .envList host => (listEnvironments s host, s)
  | .envValidated => (listValidated s, s)
  | .envForget host env => ("", s.forget host env)
  | _ => ("", s)

theorem listEnvironments_none_empty (s : Identity.Store) (h : s.knownHosts = []) :
    listEnvironments s none = Yaml.render .report (.arr []) := by
  simp [listEnvironments, h]

end RemoteLsp.Program
