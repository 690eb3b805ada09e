import ReplyScript.Chat.Basic
import ReplyScript.Chat.Command
import ReplyScript.Chat.Config
import ReplyScript.Chat.Course
import ReplyScript.CommandLine.Context
import ReplyScript.CommandLine.Environment
import ReplyScript.CommandLine.Grammar
import ReplyScript.CommandLine.Options
import ReplyScript.CommandLine.Program
import ReplyScript.CommandLine.RunReply
import ReplyScript.CommandLine.TalkToModel
import ReplyScript.Console
import ReplyScript.Decimal.Binary
import ReplyScript.Decimal.Shortest
import ReplyScript.Dialogue.Basic
import ReplyScript.Dialogue.Conversation
import ReplyScript.Dialogue.Exchange
import ReplyScript.Dialogue.Ledger
import ReplyScript.Dialogue.Model
import ReplyScript.Dialogue.Shared
import ReplyScript.Disk.Content
import ReplyScript.Disk.Tree
import ReplyScript.Edit.Buffer
import ReplyScript.Edit.Bytes
import ReplyScript.Edit.Change
import ReplyScript.Edit.Operation
import ReplyScript.Edit.Position
import ReplyScript.Edit.Splice
import ReplyScript.Endpoint.Address
import ReplyScript.Endpoint.Request
import ReplyScript.Endpoint.Response
import ReplyScript.Excerpt
import ReplyScript.Instruction.Action
import ReplyScript.Instruction.Basic
import ReplyScript.Instruction.Binding
import ReplyScript.Job.Basic
import ReplyScript.Job.Options
import ReplyScript.Json.Number
import ReplyScript.Json.Quoted
import ReplyScript.Json.Raw
import ReplyScript.Json.Reader
import ReplyScript.Json.Value
import ReplyScript.Keyed
import ReplyScript.Main
import ReplyScript.Outline
import ReplyScript.Pattern.ClassReader
import ReplyScript.Pattern.Footprint
import ReplyScript.Pattern.Machine
import ReplyScript.Pattern.Meaning
import ReplyScript.Pattern.Node
import ReplyScript.Pattern.Parser
import ReplyScript.Pattern.Problem
import ReplyScript.Pattern.Property
import ReplyScript.Pattern.Reader
import ReplyScript.Pattern.Search
import ReplyScript.Pattern.Syntax
import ReplyScript.Prompt.Guidance
import ReplyScript.Prompt.Snippet
import ReplyScript.Proofs.Chat.Echoes
import ReplyScript.Proofs.Chat.Replies
import ReplyScript.Proofs.Decimal.Rounding
import ReplyScript.Proofs.Decimal.Value
import ReplyScript.Proofs.Dialogue.ActiveDocument
import ReplyScript.Proofs.Dialogue.Conversation
import ReplyScript.Proofs.Dialogue.Excerpts
import ReplyScript.Proofs.Dialogue.Exchange
import ReplyScript.Proofs.Dialogue.Interruptions
import ReplyScript.Proofs.Dialogue.Ledger
import ReplyScript.Proofs.Dialogue.Retry
import ReplyScript.Proofs.Dialogue.Shared
import ReplyScript.Proofs.Dialogue.Stopping
import ReplyScript.Proofs.Disk.Frame
import ReplyScript.Proofs.Disk.Walk
import ReplyScript.Proofs.Edit.Bytes
import ReplyScript.Proofs.Edit.Change
import ReplyScript.Proofs.Edit.PlainText
import ReplyScript.Proofs.Edit.Splice
import ReplyScript.Proofs.Edit.Timeline
import ReplyScript.Proofs.Effect
import ReplyScript.Proofs.Excerpt
import ReplyScript.Proofs.Instruction.Binding
import ReplyScript.Proofs.Json.Grammar
import ReplyScript.Proofs.Json.Scalar
import ReplyScript.Proofs.Outline
import ReplyScript.Proofs.Script.Accounting
import ReplyScript.Proofs.Script.DirectiveLines
import ReplyScript.Proofs.Script.Equality
import ReplyScript.Proofs.Script.Joining
import ReplyScript.Proofs.Script.LineEnds
import ReplyScript.Proofs.Script.Moves
import ReplyScript.Proofs.Script.QuotedTexts
import ReplyScript.Proofs.Script.Refusals
import ReplyScript.Proofs.Script.RoundTrip
import ReplyScript.Proofs.Script.Spans
import ReplyScript.Proofs.Script.Tokens
import ReplyScript.Proofs.Session.Abort
import ReplyScript.Proofs.Session.AtDesk
import ReplyScript.Proofs.Session.Batch
import ReplyScript.Proofs.Session.Clipboard
import ReplyScript.Proofs.Session.Conduct
import ReplyScript.Proofs.Session.Confinement
import ReplyScript.Proofs.Session.Consult
import ReplyScript.Proofs.Session.Edits
import ReplyScript.Proofs.Session.History
import ReplyScript.Proofs.Session.Insertion
import ReplyScript.Proofs.Session.Ledger
import ReplyScript.Proofs.Session.Operations
import ReplyScript.Proofs.Session.Outcomes
import ReplyScript.Proofs.Session.Probes
import ReplyScript.Proofs.Session.Report
import ReplyScript.Proofs.Session.Reports
import ReplyScript.Proofs.Session.Responses
import ReplyScript.Proofs.Session.Spares
import ReplyScript.Proofs.Session.UndoRedo
import ReplyScript.Proofs.Trial
import ReplyScript.Proofs.Workspace.Cells
import ReplyScript.Proofs.Workspace.Desk
import ReplyScript.Proofs.Workspace.FailedChanges
import ReplyScript.Proofs.Workspace.InStep
import ReplyScript.Proofs.Workspace.Operations
import ReplyScript.Proofs.Workspace.Search
import ReplyScript.Proofs.Workspace.Sharing
import ReplyScript.Proofs.Workspace.Spares
import ReplyScript.Proofs.Workspace.Spelling
import ReplyScript.Proofs.Workspace.Within
import ReplyScript.Proofs.World.Faults
import ReplyScript.Proofs.World.Operations
import ReplyScript.Proofs.World.Spares
import ReplyScript.Proofs.World.Terminal
import ReplyScript.Script.Argument
import ReplyScript.Script.Command
import ReplyScript.Script.Directive
import ReplyScript.Script.Finding
import ReplyScript.Script.Reading
import ReplyScript.Script.Writing
import ReplyScript.Session.Basic
import ReplyScript.Session.Batch
import ReplyScript.Session.Consult
import ReplyScript.Session.Footprint
import ReplyScript.Session.Ledger
import ReplyScript.Session.Perform
import ReplyScript.Session.Scene
import ReplyScript.Shell.Arithmetic
import ReplyScript.Shell.Builtin
import ReplyScript.Shell.Condition
import ReplyScript.Shell.Expansion
import ReplyScript.Shell.Field
import ReplyScript.Shell.Reader
import ReplyScript.Shell.Run
import ReplyScript.Shell.State
import ReplyScript.Shell.Syntax
import ReplyScript.Text.Blank
import ReplyScript.Text.CaseFold
import ReplyScript.Text.Category
import ReplyScript.Text.CharSet
import ReplyScript.Text.CharacterData
import ReplyScript.Text.Lines
import ReplyScript.Text.Numeral
import ReplyScript.Text.Property
import ReplyScript.Text.Quoted
import ReplyScript.Text.Segmentation
import ReplyScript.Text.Table
import ReplyScript.Text.Utf8
import ReplyScript.Toml.Number
import ReplyScript.Toml.Quoted
import ReplyScript.Toml.Reader
import ReplyScript.Toml.Value
import ReplyScript.Trial.Category
import ReplyScript.Trial.Check
import ReplyScript.Trial.File
import ReplyScript.Trial.Report
import ReplyScript.Utility.Columns
import ReplyScript.Utility.Compare
import ReplyScript.Utility.Dump
import ReplyScript.Utility.EditScript
import ReplyScript.Utility.Expr
import ReplyScript.Utility.Expression
import ReplyScript.Utility.Files
import ReplyScript.Utility.Find
import ReplyScript.Utility.Format
import ReplyScript.Utility.Grep
import ReplyScript.Utility.Input
import ReplyScript.Utility.Launch
import ReplyScript.Utility.LineEdit
import ReplyScript.Utility.Mode
import ReplyScript.Utility.Names
import ReplyScript.Utility.Order
import ReplyScript.Utility.Parts
import ReplyScript.Utility.Printing
import ReplyScript.Utility.Programs
import ReplyScript.Utility.Wildcard
import ReplyScript.Workspace.Basic
import ReplyScript.Workspace.Cells
import ReplyScript.Workspace.Desk
import ReplyScript.Workspace.Fault
import ReplyScript.Workspace.Glob
import ReplyScript.Workspace.Ignore
import ReplyScript.Workspace.Search
import ReplyScript.World.Service
