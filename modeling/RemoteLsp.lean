import RemoteLsp.Text.Space
import RemoteLsp.Text.Quoted
import RemoteLsp.Json.Value
import RemoteLsp.Json.Read
import RemoteLsp.Json.Write
import RemoteLsp.Text.Utf8
import RemoteLsp.Uri.Percent
import RemoteLsp.Text.Chars
import RemoteLsp.Path.Clean
import RemoteLsp.Uri.Reference
import RemoteLsp.Uri.File
import RemoteLsp.Path.Environment
import RemoteLsp.Path.Virtual
import RemoteLsp.Backend.Kind
import RemoteLsp.Shell.Quote
import RemoteLsp.Backend.Script
import RemoteLsp.Lifecycle.State
import RemoteLsp.Provision.State
import RemoteLsp.Editor.Severity
import RemoteLsp.Server.Exit
import RemoteLsp.Session.Settings
import RemoteLsp.Json.Raw
import RemoteLsp.Json.KeyPath
import RemoteLsp.Message.Locations
import RemoteLsp.Json.Number
import RemoteLsp.Json.Schema
import RemoteLsp.Lsp.Params
import RemoteLsp.Lsp.Decode
import RemoteLsp.Session.Options
import RemoteLsp.Identity.Documents
import RemoteLsp.Identity.Store
import RemoteLsp.Control.Problem
import RemoteLsp.Control.Unreadable
import RemoteLsp.Session.Config
import RemoteLsp.Time.Duration
import RemoteLsp.Shell.Local
import RemoteLsp.Shell.Runner
import RemoteLsp.Daemon.Model
import RemoteLsp.Daemon.Effects
import RemoteLsp.Daemon.Attach
import RemoteLsp.Daemon.Provision
import RemoteLsp.Daemon.Lifecycle
import RemoteLsp.Daemon.Loop
import RemoteLsp.Daemon.Controller
import RemoteLsp.Daemon.Steps
import RemoteLsp.Double.Expect
import RemoteLsp.Double.Services
import RemoteLsp.Scheduler.Loop
import RemoteLsp.Shell.Executor
import RemoteLsp.Files.Tree
import RemoteLsp.Files.InfoFile
import RemoteLsp.Files.LogFile
import RemoteLsp.Daemon.Render
import RemoteLsp.Serving.Address
import RemoteLsp.Config.Unmarshal
import RemoteLsp.Serving.Endpoint
import RemoteLsp.Text.Uuid
import RemoteLsp.Time.Instant
import RemoteLsp.Editor.Peer
import RemoteLsp.Editor.Gateway
import RemoteLsp.Editor.Scenario
import RemoteLsp.Double.LanguageServer
import RemoteLsp.Server.Launcher
import RemoteLsp.Server.Scenario
import RemoteLsp.Yaml.Scalar
import RemoteLsp.Yaml.Read
import RemoteLsp.Yaml.Write
import RemoteLsp.Config.Shape
import RemoteLsp.Config.Provider
import RemoteLsp.Double.Host
import RemoteLsp.Program.Builtin
import RemoteLsp.Program.Startup
import RemoteLsp.Program.Cli
import RemoteLsp.Program.Environments
import RemoteLsp.Program.Serve
import RemoteLsp.Program.Scenario
import RemoteLsp.Program.Framing
import RemoteLsp.Main
import RemoteLsp.Proofs.Execution
import RemoteLsp.Proofs.Pending
import RemoteLsp.Proofs.Invariant
import RemoteLsp.Proofs.Calm
import RemoteLsp.Proofs.Starting
import RemoteLsp.Proofs.Provisioning
import RemoteLsp.Proofs.Lifecycle
import RemoteLsp.Proofs.Sessions
import RemoteLsp.Proofs.Loop
import RemoteLsp.Proofs.Reachable
import RemoteLsp.Proofs.KeyPaths
import RemoteLsp.Proofs.TextTrees
import RemoteLsp.Proofs.ReadingTrees
import RemoteLsp.Proofs.PathSetting
import RemoteLsp.Proofs.ReferenceRewrite
import RemoteLsp.Proofs.RewriteInPlace
import RemoteLsp.Proofs.Returning
import RemoteLsp.Proofs.Accounting
import RemoteLsp.Proofs.Settling
import RemoteLsp.Proofs.Continuing
import RemoteLsp.Proofs.Enabling
import RemoteLsp.Proofs.Callbacks
import RemoteLsp.Proofs.StoreShape
import RemoteLsp.Proofs.JsonReadBack
import RemoteLsp.Proofs.StorePersistence
import RemoteLsp.Proofs.CheckSequence
import RemoteLsp.Proofs.SettingsShape
import RemoteLsp.Proofs.Resting
import RemoteLsp.Proofs.AwakeStarts
import RemoteLsp.Proofs.RestingLifecycle
import RemoteLsp.Proofs.StayingDown
import RemoteLsp.Proofs.Turns
import RemoteLsp.Proofs.ReconnectBudget
import RemoteLsp.Proofs.ServerExits
import RemoteLsp.Proofs.ShellWords
import RemoteLsp.Proofs.HostOperand
import RemoteLsp.Proofs.InstallConsent
import RemoteLsp.Proofs.VirtualPaths
import RemoteLsp.Proofs.StoreForgetting
import RemoteLsp.Proofs.StoreFaults
import RemoteLsp.Proofs.EnvironmentNormalForm
import RemoteLsp.Proofs.FileUris
import RemoteLsp.Proofs.HostAdoption
import RemoteLsp.Proofs.PromptAnswers
import RemoteLsp.Proofs.SharedChecks
import RemoteLsp.Proofs.Replies
import RemoteLsp.Proofs.Vouching
