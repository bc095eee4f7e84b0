import BoardSetup.Build
import BoardSetup.Command.Basic
import BoardSetup.Command.Runner
import BoardSetup.CommandLine
import BoardSetup.Decimal.Conversion
import BoardSetup.Decimal.Parts
import BoardSetup.Decimal.Shortest
import BoardSetup.Environment
import BoardSetup.Error
import BoardSetup.FileTree
import BoardSetup.Json.Basic
import BoardSetup.Json.Read
import BoardSetup.Json.Write
import BoardSetup.Layout
import BoardSetup.Machine
import BoardSetup.Main
import BoardSetup.Makefile
import BoardSetup.Orchestrator
import BoardSetup.Packages
import BoardSetup.Path.Basic
import BoardSetup.Path.Normal
import BoardSetup.Phase
import BoardSetup.Program
import BoardSetup.Project
import BoardSetup.Sdk
import BoardSetup.SessionLog
import BoardSetup.Settings.Basic
import BoardSetup.Settings.File
import BoardSetup.Settings.Json
import BoardSetup.Shell.Arith
import BoardSetup.Shell.Builtins
import BoardSetup.Shell.Eval
import BoardSetup.Shell.Expand
import BoardSetup.Shell.Glob
import BoardSetup.Shell.Number
import BoardSetup.Shell.Parser
import BoardSetup.Shell.Pattern
import BoardSetup.Shell.Printf
import BoardSetup.Shell.Signals
import BoardSetup.Shell.State
import BoardSetup.Shell.Syntax
import BoardSetup.Shell.Test
import BoardSetup.Shell.Tools
import BoardSetup.Shell.Tools.Help
import BoardSetup.Shell.Tools.Cat
import BoardSetup.Shell.Tools.Echo
import BoardSetup.Shell.Tools.Head
import BoardSetup.Shell.Tools.Tr
import BoardSetup.Shell.Tools.Cut
import BoardSetup.Shell.Tools.Ls
import BoardSetup.Shell.Tools.Test
import BoardSetup.Text.Blank
import BoardSetup.Text.Printable
import BoardSetup.Text.CharWidth
import BoardSetup.Text.Quoted
import BoardSetup.Text.Utf8
import BoardSetup.World
import BoardSetup.Proofs.Conversation
import BoardSetup.Proofs.SdkProtocol
import BoardSetup.Proofs.Setup
import BoardSetup.Proofs.PhaseTable
import BoardSetup.Proofs.Report
import BoardSetup.Proofs.PhaseOrder
import BoardSetup.Proofs.DryRun
import BoardSetup.Proofs.MakefileLine
import BoardSetup.Proofs.JsonReadBack
import BoardSetup.Proofs.SettingsReadBack
import BoardSetup.Proofs.NormalForm
import BoardSetup.Proofs.Resolve
import BoardSetup.Proofs.AppendPlan
import BoardSetup.Proofs.MakefileEffect
import BoardSetup.Proofs.PackageInstall
import BoardSetup.Proofs.SearchPath
import BoardSetup.Proofs.JsonSkip
import BoardSetup.Proofs.SettingsDocument
import BoardSetup.Proofs.SettingsCodec
import BoardSetup.Proofs.SettingsPath
import BoardSetup.Proofs.RemoteSpelling
