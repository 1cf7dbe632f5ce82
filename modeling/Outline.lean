import Outline.Buffer.Commit
import Outline.Buffer.Store
import Outline.Change.Plan
import Outline.Change.WorkspaceEdit
import Outline.CommandLine
import Outline.Diagnostic.Basic
import Outline.Diagnostic.Board
import Outline.Diagnostic.Report
import Outline.Disk.Basic
import Outline.Disk.Operations
import Outline.Disk.Path
import Outline.Disk.Resolve
import Outline.Engine
import Outline.Error
import Outline.Host.Basic
import Outline.Host.Canned
import Outline.Json.Basic
import Outline.Json.Decode
import Outline.Json.Described
import Outline.Json.Double
import Outline.Json.Parser
import Outline.Json.Printer
import Outline.Keyed
import Outline.Location
import Outline.Main
import Outline.Program
import Outline.Proofs.Outcome
import Outline.Proofs.StableOrder
import Outline.Proofs.Symbol.Ties
import Outline.Proofs.Text.Cuts
import Outline.Proofs.Text.Lines
import Outline.Proofs.Text.Offsets
import Outline.Proofs.Text.Reordering
import Outline.Proofs.Text.Slices
import Outline.Proofs.Text.Substitution
import Outline.Proofs.Text.Trimming
import Outline.Registration
import Outline.Session.Basic
import Outline.Session.Capabilities
import Outline.Session.Message
import Outline.Session.Requests
import Outline.Session.Server
import Outline.Symbol.Kind
import Outline.Symbol.NamePath
import Outline.Symbol.Outline
import Outline.Symbol.Raw
import Outline.Symbol.Summary
import Outline.Symbol.Tree
import Outline.Text.Cased
import Outline.Text.Composed
import Outline.Text.Digits
import Outline.Text.Duration
import Outline.Text.Edit
import Outline.Text.Hex
import Outline.Text.Hidden
import Outline.Text.Lines
import Outline.Text.LowerCase
import Outline.Text.Mark
import Outline.Text.Position
import Outline.Text.Quoted
import Outline.Text.Ranges
import Outline.Text.Split
import Outline.Text.Units
import Outline.Text.Utf8
import Outline.Text.Wire
import Outline.Tool.Answer
import Outline.Tool.Call
import Outline.Tool.Catalog
import Outline.Tool.Greeting
import Outline.Tool.Server
import Outline.Uri.Basic
import Outline.Uri.Domain
import Outline.Uri.Domain.Direction
import Outline.Uri.Domain.Joining
import Outline.Uri.Domain.Mapping
import Outline.Uri.Domain.Replacement
import Outline.Uri.FilePath
import Outline.Uri.Host
import Outline.Uri.Parser
import Outline.Uri.Percent
import Outline.Uri.Punycode
import Outline.Usage
import Outline.Workspace
import Outline.Proofs.Symbol.Nesting
import Outline.Proofs.Symbol.Forest
import Outline.Proofs.Symbol.Shapes
import Outline.Proofs.Disk.Located
import Outline.Proofs.Keyed
import Outline.Proofs.Uri.FilePath
import Outline.Proofs.Buffer.Commit
import Outline.Proofs.Buffer.Apply
import Outline.Proofs.Host.Step
import Outline.Proofs.Disk.Canonical
import Outline.Proofs.Buffer.InLine
import Outline.Proofs.Host.Lawful
import Outline.Proofs.Engine.Unchanged
import Outline.Proofs.Session.Sending
import Outline.Proofs.Session.Edits
import Outline.Proofs.Session.View
import Outline.Proofs.Buffer.Progress
import Outline.Proofs.Change.Rewrite
import Outline.Proofs.Host.OneFile
import Outline.Proofs.Engine.BodyEdits
import Outline.Proofs.Symbol.Preorder
import Outline.Proofs.Disk.Inside
import Outline.Proofs.Engine.Confined
import Outline.Proofs.Session.Files
import Outline.Proofs.Engine.OwnDocument
import Outline.Proofs.Host.ManyFiles
import Outline.Proofs.Engine.Renaming
import Outline.Proofs.Symbol.Flattening
import Outline.Proofs.Symbol.Resolution
import Outline.Proofs.Symbol.Addressing
import Outline.Proofs.Engine.Timeouts
import Outline.Proofs.Engine.Usages
import Outline.Proofs.Usage
import Outline.Proofs.Symbol.Unplaced
import Outline.Proofs.Symbol.Summary
import Outline.Proofs.Engine.Looking
import Outline.Proofs.Engine.ChangeCount
import Outline.Proofs.Session.Spelling
import Outline.Proofs.Disk.Drift
import Outline.Proofs.Buffer.Spared
import Outline.Proofs.Host.Regrouping
import Outline.Proofs.Change.Planning
import Outline.Proofs.Text.Utf8
import Outline.Proofs.Disk.Relative
import Outline.Proofs.Engine.Shown
import Outline.Proofs.Engine.Border
import Outline.Proofs.Diagnostic.Board
import Outline.Proofs.Symbol.Rearranging
import Outline.Proofs.Change.Repeating
import Outline.Proofs.Engine.WholeReport
import Outline.Proofs.Registration.Adding
import Outline.Proofs.Registration.Arguments
import Outline.Proofs.Text.ShownLines
import Outline.Proofs.Json.Decoding
import Outline.Proofs.Symbol.Wire
import Outline.Proofs.Json.Scalars
import Outline.Proofs.Json.Tidy
import Outline.Proofs.Json.Rereading
import Outline.Proofs.Disk.Replacing
import Outline.Proofs.Registration.Configuration
import Outline.Proofs.Registration.Registering
