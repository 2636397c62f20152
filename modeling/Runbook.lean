import Runbook.Cli.Arguments
import Runbook.Cli.Perform
import Runbook.Cli.Report
import Runbook.Cli.Request
import Runbook.Cli.Seed
import Runbook.Clone.Credentials
import Runbook.Clone.Plan
import Runbook.CommandLine.Expansion
import Runbook.CommandLine.Words
import Runbook.Console
import Runbook.Decimal.Binary64
import Runbook.Decimal.Shortest
import Runbook.Decoding
import Runbook.Diagnostic
import Runbook.Document
import Runbook.Environment
import Runbook.FileTree
import Runbook.Host
import Runbook.Json.Basic
import Runbook.Json.Parser
import Runbook.Json.Printer
import Runbook.Loading
import Runbook.Machine.Basic
import Runbook.Machine.Concatenation
import Runbook.Machine.Escape
import Runbook.Machine.Executable
import Runbook.Machine.Floating
import Runbook.Machine.Numeral
import Runbook.Machine.Printf
import Runbook.Machine.Program
import Runbook.Machine.Quoting
import Runbook.Machine.Signal
import Runbook.Machine.System
import Runbook.Main
import Runbook.Operation
import Runbook.Outputs
import Runbook.Pipeline.Error
import Runbook.Pipeline.Event
import Runbook.Pipeline.Invoke
import Runbook.Pipeline.Run
import Runbook.Pipeline.Sink
import Runbook.Placeholder
import Runbook.Process
import Runbook.Redaction
import Runbook.Reference.Basic
import Runbook.Reference.Path
import Runbook.Registry
import Runbook.Resolution
import Runbook.Review
import Runbook.Shell.Arithmetic
import Runbook.Shell.Builtin
import Runbook.Shell.Call
import Runbook.Shell.Condition
import Runbook.Shell.Directory
import Runbook.Shell.Expansion
import Runbook.Shell.Fields
import Runbook.Shell.Glob
import Runbook.Shell.Grammar
import Runbook.Shell.Job
import Runbook.Shell.Lexer
import Runbook.Shell.Limit
import Runbook.Shell.Lookup
import Runbook.Shell.Mask
import Runbook.Shell.Options
import Runbook.Shell.Pattern
import Runbook.Shell.Process
import Runbook.Shell.Redirect
import Runbook.Shell.Run
import Runbook.Shell.Session
import Runbook.Shell.Source
import Runbook.Shell.Syntax
import Runbook.Step
import Runbook.Steps.Builtin
import Runbook.Steps.Clone
import Runbook.Steps.Requirements
import Runbook.Steps.Script
import Runbook.Steps.WorkingDirectory
import Runbook.Store.Basic
import Runbook.Store.Environment
import Runbook.Store.Saved
import Runbook.Store.Table
import Runbook.Table
import Runbook.Template
import Runbook.Text.Blank
import Runbook.Text.Letters
import Runbook.Text.Octets
import Runbook.Text.Printable
import Runbook.Text.Ranges
import Runbook.Text.Utf8
import Runbook.Text.Words
import Runbook.Tree
import Runbook.Url.Basic
import Runbook.Url.Domain
import Runbook.Url.Host
import Runbook.Url.Percent
import Runbook.Yaml.Cursor
import Runbook.Yaml.Event
import Runbook.Yaml.Fault
import Runbook.Yaml.Lexer
import Runbook.Yaml.Name
import Runbook.Yaml.Node
import Runbook.Yaml.Scalar
import Runbook.Yaml.Token
import Runbook.Yaml.Tree
import Runbook.Proofs.Clone.Address
import Runbook.Proofs.Clone.Directory
import Runbook.Proofs.Clone.Redaction
import Runbook.Proofs.Clone.Spellings
import Runbook.Proofs.CommandLine.Faults
import Runbook.Proofs.CommandLine.Joining
import Runbook.Proofs.CommandLine.Reading
import Runbook.Proofs.CommandLine.Trimming
import Runbook.Proofs.Document
import Runbook.Proofs.Document.Acceptance
import Runbook.Proofs.FileTree
import Runbook.Proofs.Json.Fields
import Runbook.Proofs.Json.Tree
import Runbook.Proofs.Outcome
import Runbook.Proofs.Outputs.Exchange
import Runbook.Proofs.Outputs.History
import Runbook.Proofs.Outputs.Merging
import Runbook.Proofs.Pipeline.Delivery
import Runbook.Proofs.Pipeline.Independence
import Runbook.Proofs.Pipeline.Iteration
import Runbook.Proofs.Pipeline.Parameters
import Runbook.Proofs.Pipeline.Recording
import Runbook.Proofs.Pipeline.Reserved
import Runbook.Proofs.Pipeline.Splitting
import Runbook.Proofs.Pipeline.Trace
import Runbook.Proofs.Pipeline.Validation
import Runbook.Proofs.Pipeline.Variants
import Runbook.Proofs.Pipeline.Visits
import Runbook.Proofs.Process
import Runbook.Proofs.Redaction.Headers
import Runbook.Proofs.Redaction.Lines
import Runbook.Proofs.Redaction.Masking
import Runbook.Proofs.Redaction.Members
import Runbook.Proofs.Redaction.Reading
import Runbook.Proofs.Reference.Path
import Runbook.Proofs.Reference.Rendering
import Runbook.Proofs.Reference.Tokens
import Runbook.Proofs.Registry.History
import Runbook.Proofs.Resolution.Addresses
import Runbook.Proofs.Resolution.Agreement
import Runbook.Proofs.Resolution.Listing
import Runbook.Proofs.Resolution.Payloads
import Runbook.Proofs.Resolution.Shape
import Runbook.Proofs.Resolution.Texts
import Runbook.Proofs.Review
import Runbook.Proofs.Step.Acceptance
import Runbook.Proofs.Steps.Script
import Runbook.Proofs.Store.History
import Runbook.Proofs.Store.Loading
import Runbook.Proofs.Store.Saving
import Runbook.Proofs.Store.Sharing
import Runbook.Proofs.Template.Rendering
import Runbook.Proofs.Template.Single
import Runbook.Proofs.Template.Spans
import Runbook.Proofs.Text.Octets
import Runbook.Proofs.Text.Trim
import Runbook.Proofs.Traversal
import Runbook.Proofs.Tree
import Runbook.Proofs.Url.Host
import Runbook.Proofs.Url.Numeric
import Runbook.Proofs.Url.Parts
import Runbook.Proofs.Url.Percent
import Runbook.Proofs.Url.Reading
