import RemoteLsp.Text.Chars

/-!
# The built-in configuration

The program carries a configuration directory of its own, used unless another is named:
`meta.yaml` lists the files that are merged, in order, and `base.yaml` holds the defaults.
Every setting that a user may want to change without a file reads a variable of the
environment, with a default after the colon.
-/

namespace RemoteLsp.Program

/-- The text of lines, each ended by a line break. -/
def linesText (ls : List String) : String := String.join (ls.map (· ++ "\n"))

/-- The name of the file that lists the configuration files. -/
def metaName : String := "meta.yaml"

/-- The built-in list of configuration files. -/
def metaText : String := linesText [
    "# Files merged in order, later files override earlier ones. Missing files are skipped.",
    "files:",
    "  - base.yaml",
    "  - local.yaml"]

/-- The built-in defaults. -/
def baseText : String := linesText [
    "logging:",
    "  level: $\x7bRLSP_LOG_LEVEL:info\x7d",
    "  development: false",
    "  encoding: console",
    "  # stdout carries the protocol in stdio mode.",
    "  outputPaths:",
    "    - stderr",
    "",
    "jsonrpc:",
    "  mode: $\x7bRLSP_JSONRPC_MODE:tcp\x7d",
    "  address: $\x7bRLSP_JSONRPC_ADDRESS:127.0.0.1:27883\x7d",
    "",
    "serverInfoFilePath: $\x7bRLSP_SERVER_INFO_FILE:\"\"\x7d",
    "idleTimeoutMinutes: $\x7bRLSP_IDLE_TIMEOUT_MINUTES:60\x7d",
    "",
    "session:",
    "  host: $\x7bRLSP_HOST:\"\"\x7d",
    "  environment: $\x7bRLSP_ENVIRONMENT:\"\"\x7d",
    "  workspaceRoot: $\x7bRLSP_WORKSPACE_ROOT:\"\"\x7d",
    "  backend: $\x7bRLSP_BACKEND:pyright\x7d",
    "  autoInstall: $\x7bRLSP_AUTO_INSTALL:false\x7d",
    "  notifyOnStart: $\x7bRLSP_NOTIFY_ON_START:false\x7d",
    "  allowPrompt: true",
    "",
    "remoteShell:",
    "  binary: ssh",
    "  options:",
    "    - -o",
    "    - BatchMode=yes",
    "    - -o",
    "    - ConnectTimeout=10",
    "    - -o",
    "    - ServerAliveInterval=10",
    "    - -o",
    "    - ServerAliveCountMax=3",
    "  probeTimeout: 10s",
    "  detectTimeout: 15s",
    "  installTimeout: 300s",
    "  workspaceTimeout: 10s",
    "",
    "virtualPath:",
    "  scheme: scp",
    "",
    "reconnect:",
    "  delay: 20s",
    "",
    "identity:",
    "  dataDir: $\x7bRLSP_DATA_DIR:\"\"\x7d"]

/-- The files of the built-in configuration directory, by name. -/
def builtinFiles : List (String × String) := [(metaName, metaText), ("base.yaml", baseText)]

end RemoteLsp.Program
