import StartupConfig.About
import StartupConfig.CommandLine.Choice
import StartupConfig.CommandLine.Help
import StartupConfig.CommandLine.Invocation
import StartupConfig.CommandLine.Refusal
import StartupConfig.CommandLine.Syntax
import StartupConfig.Completion.Bash
import StartupConfig.Completion.Elvish
import StartupConfig.Completion.Fish
import StartupConfig.Completion.Node
import StartupConfig.Completion.PowerShell
import StartupConfig.Completion.Script
import StartupConfig.Completion.Zsh
import StartupConfig.Delivery
import StartupConfig.Diagnostic
import StartupConfig.Draft
import StartupConfig.Environment
import StartupConfig.Format
import StartupConfig.Integer
import StartupConfig.Json.Fault
import StartupConfig.Json.Number
import StartupConfig.Json.Printer
import StartupConfig.Json.Reader
import StartupConfig.Json.Skip
import StartupConfig.Json.Token
import StartupConfig.Listing
import StartupConfig.Loading
import StartupConfig.Logging.Filter
import StartupConfig.Logging.Line
import StartupConfig.Logging.Timestamp
import StartupConfig.Logging.Verbosity
import StartupConfig.Main
import StartupConfig.Number.Binary64
import StartupConfig.Number.Shortest
import StartupConfig.Program
import StartupConfig.Proofs.Decimal
import StartupConfig.Proofs.Delivery
import StartupConfig.Proofs.Dependence
import StartupConfig.Proofs.Diagnostics
import StartupConfig.Proofs.Layering
import StartupConfig.Proofs.Lines
import StartupConfig.Proofs.Listing
import StartupConfig.Proofs.Provenance
import StartupConfig.Proofs.Quoted
import StartupConfig.Proofs.Reload
import StartupConfig.Proofs.Session
import StartupConfig.Proofs.Utf8
import StartupConfig.Session
import StartupConfig.Setting
import StartupConfig.Show
import StartupConfig.Text.Alphanumeric
import StartupConfig.Text.Cut
import StartupConfig.Text.Quoted
import StartupConfig.Text.Utf8
import StartupConfig.Text.Verbatim
import StartupConfig.Tree
import StartupConfig.Yaml.Character
import StartupConfig.Yaml.Cursor
import StartupConfig.Yaml.Document
import StartupConfig.Yaml.Event
import StartupConfig.Yaml.Fault
import StartupConfig.Yaml.Gap
import StartupConfig.Yaml.Layout
import StartupConfig.Yaml.Printer
import StartupConfig.Yaml.Reader
import StartupConfig.Yaml.Scalar
import StartupConfig.Yaml.Token
import StartupConfig.Yaml.Token.Block
import StartupConfig.Yaml.Token.Directive
import StartupConfig.Yaml.Token.Plain
import StartupConfig.Yaml.Token.Property
import StartupConfig.Yaml.Token.Quoted
import StartupConfig.Yaml.Untagged
import StartupConfig.Proofs.Json.Scalar
import StartupConfig.Proofs.Json.Record
import StartupConfig.Proofs.Yaml.Character
import StartupConfig.Proofs.Yaml.Plain
import StartupConfig.Proofs.Yaml.Quoted
import StartupConfig.Proofs.Yaml.Block
import StartupConfig.Proofs.Yaml.Style
import StartupConfig.Proofs.Yaml.Layout
import StartupConfig.Proofs.Yaml.Tokens
import StartupConfig.Proofs.Yaml.Events
import StartupConfig.Proofs.Yaml.Record
import StartupConfig.Proofs.Json.Tree
import StartupConfig.Proofs.Yaml.Tree
import StartupConfig.Proofs.Structured
import StartupConfig.Proofs.LineBuffer
import StartupConfig.Proofs.Cut
import StartupConfig.Proofs.Outcome
import StartupConfig.Proofs.Log
import StartupConfig.Json.Value
import StartupConfig.Proofs.Json.Value
import StartupConfig.Proofs.LogLines
import StartupConfig.Proofs.Decoding
import StartupConfig.Proofs.ProcessEnvironment
import StartupConfig.Proofs.CommandLine.Color
import StartupConfig.Proofs.CommandLine.Verbosity
import StartupConfig.Proofs.ControlText
import StartupConfig.Proofs.Yaml.Types
import StartupConfig.Proofs.CommandLine.Arrangement
import StartupConfig.Proofs.Json.Grammar
import StartupConfig.Proofs.Json.Skip
import StartupConfig.Proofs.Json.Meaning
import StartupConfig.Proofs.Json.Setting
import StartupConfig.Proofs.Json.Acceptance
import StartupConfig.Proofs.HumanLog
import StartupConfig.Proofs.Environment
