import FlowCanvas.Command.Arguments
import FlowCanvas.Command.Basic
import FlowCanvas.Command.Desk
import FlowCanvas.Command.Prompt
import FlowCanvas.Command.Value
import FlowCanvas.Drag.Basic
import FlowCanvas.Drag.Delivery
import FlowCanvas.Drag.Recorder
import FlowCanvas.Editor.Basic
import FlowCanvas.Editor.Plan
import FlowCanvas.Event.Basic
import FlowCanvas.Event.Dispatcher
import FlowCanvas.Event.Processor
import FlowCanvas.Graph.Anchor
import FlowCanvas.Graph.Basic
import FlowCanvas.Graph.Category
import FlowCanvas.Graph.Edit
import FlowCanvas.Graph.Entry
import FlowCanvas.Graph.Identifier
import FlowCanvas.Graph.Issue
import FlowCanvas.Graph.Network
import FlowCanvas.Graph.Record
import FlowCanvas.Json.Basic
import FlowCanvas.Json.Printer
import FlowCanvas.Json.Reader
import FlowCanvas.Main
import FlowCanvas.Number.Basic
import FlowCanvas.Number.Binary64
import FlowCanvas.Number.Numeral
import FlowCanvas.Number.Power
import FlowCanvas.Number.Rounded
import FlowCanvas.Number.Shortest
import FlowCanvas.Number.Text
import FlowCanvas.Outcome
import FlowCanvas.Plane.Curve
import FlowCanvas.Plane.Point
import FlowCanvas.Plane.Viewport
import FlowCanvas.Program.Basic
import FlowCanvas.Program.Listing
import FlowCanvas.Program.Printer
import FlowCanvas.Program.Token
import FlowCanvas.Program.Token.Number
import FlowCanvas.Program.Token.Quoting
import FlowCanvas.Program.Token.Word
import FlowCanvas.Proofs.Command.Reference
import FlowCanvas.Proofs.Drag.Delivery
import FlowCanvas.Proofs.Drag.Ledger
import FlowCanvas.Proofs.Editor.Commit
import FlowCanvas.Proofs.Editor.Renamed
import FlowCanvas.Proofs.Event.Blind
import FlowCanvas.Proofs.Event.Dispatcher
import FlowCanvas.Proofs.Graph.Agreement
import FlowCanvas.Proofs.Graph.Alike
import FlowCanvas.Proofs.Graph.Arranged
import FlowCanvas.Proofs.Graph.Center
import FlowCanvas.Proofs.Graph.Edit
import FlowCanvas.Proofs.Graph.Handle
import FlowCanvas.Proofs.Graph.Identifier
import FlowCanvas.Proofs.Graph.Minting
import FlowCanvas.Proofs.Graph.Reach
import FlowCanvas.Proofs.Graph.Record
import FlowCanvas.Proofs.Graph.Renamed
import FlowCanvas.Proofs.Graph.Resaving
import FlowCanvas.Proofs.Graph.Storable
import FlowCanvas.Proofs.Json.Reader
import FlowCanvas.Proofs.Number.Range
import FlowCanvas.Proofs.Number.Value
import FlowCanvas.Proofs.Outcome
import FlowCanvas.Proofs.Plane.Screen
import FlowCanvas.Proofs.Plane.Text
import FlowCanvas.Proofs.Program.Block
import FlowCanvas.Proofs.Program.Branch
import FlowCanvas.Proofs.Program.Copy
import FlowCanvas.Proofs.Program.Coverage
import FlowCanvas.Proofs.Program.Extension
import FlowCanvas.Proofs.Program.Frame
import FlowCanvas.Proofs.Program.Grouping
import FlowCanvas.Proofs.Program.Legible
import FlowCanvas.Proofs.Program.Lowering
import FlowCanvas.Proofs.Program.Mapped
import FlowCanvas.Proofs.Program.Omission
import FlowCanvas.Proofs.Program.Pruning
import FlowCanvas.Proofs.Program.Reading
import FlowCanvas.Proofs.Program.Remark
import FlowCanvas.Proofs.Program.Sequence
import FlowCanvas.Proofs.Program.Statement
import FlowCanvas.Proofs.Report.Table
import FlowCanvas.Proofs.Result
import FlowCanvas.Proofs.Session.Hearing
import FlowCanvas.Proofs.Session.History
import FlowCanvas.Proofs.Session.Joining
import FlowCanvas.Proofs.Session.Moves
import FlowCanvas.Proofs.Session.Naming
import FlowCanvas.Proofs.Session.Opening
import FlowCanvas.Proofs.Session.Order
import FlowCanvas.Proofs.Session.OwnName
import FlowCanvas.Proofs.Session.Placement
import FlowCanvas.Proofs.Session.Pointer
import FlowCanvas.Proofs.Session.Preview
import FlowCanvas.Proofs.Session.Refusal
import FlowCanvas.Proofs.Session.Renamed
import FlowCanvas.Proofs.Session.Script
import FlowCanvas.Proofs.Session.Sweep
import FlowCanvas.Proofs.Session.Title
import FlowCanvas.Proofs.Session.Twin
import FlowCanvas.Proofs.Session.Undo
import FlowCanvas.Proofs.Session.Views
import FlowCanvas.Proofs.Session.Visits
import FlowCanvas.Proofs.Session.Wiring
import FlowCanvas.Proofs.Store.Atomic
import FlowCanvas.Proofs.Store.Load
import FlowCanvas.Proofs.Store.Save
import FlowCanvas.Proofs.Store.Sound
import FlowCanvas.Proofs.Text.Utf8
import FlowCanvas.Report.Inspection
import FlowCanvas.Report.Literal
import FlowCanvas.Report.Markup
import FlowCanvas.Report.Panel
import FlowCanvas.Report.Style
import FlowCanvas.Report.Table
import FlowCanvas.Scalar
import FlowCanvas.Session.Basic
import FlowCanvas.Session.Call
import FlowCanvas.Settings
import FlowCanvas.Store.Basic
import FlowCanvas.Store.FilePath
import FlowCanvas.Store.FileTree
import FlowCanvas.Text.Blank
import FlowCanvas.Text.Case
import FlowCanvas.Text.CharacterName
import FlowCanvas.Text.CharacterNames
import FlowCanvas.Text.Digits
import FlowCanvas.Text.Letters
import FlowCanvas.Text.Lines
import FlowCanvas.Text.Picture
import FlowCanvas.Text.PictureNames
import FlowCanvas.Text.Printable
import FlowCanvas.Text.Quoted
import FlowCanvas.Text.SmallLetter
import FlowCanvas.Text.Utf8
import FlowCanvas.Text.Width
import FlowCanvas.Text.WordCharacter
import FlowCanvas.Toml.Basic
import FlowCanvas.Toml.Reader
