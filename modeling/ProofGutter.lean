import ProofGutter.Arguments
import ProofGutter.Assoc
import ProofGutter.Client.Incoming
import ProofGutter.Client.Rehearsal
import ProofGutter.Client.Script
import ProofGutter.Client.State
import ProofGutter.Config.Display
import ProofGutter.Config.Environment
import ProofGutter.Config.Expand
import ProofGutter.Config.Settings
import ProofGutter.Decimal.Shortest
import ProofGutter.Diagnostic
import ProofGutter.Document.Store
import ProofGutter.Domain.Label
import ProofGutter.Domain.Name
import ProofGutter.Domain.Punycode
import ProofGutter.Event
import ProofGutter.Frame.Header
import ProofGutter.Frame.Stream
import ProofGutter.Json.Fields
import ProofGutter.Json.Number
import ProofGutter.Json.Parser
import ProofGutter.Json.Value
import ProofGutter.Launch
import ProofGutter.Line.Bands
import ProofGutter.Line.Bracket
import ProofGutter.Line.Status
import ProofGutter.Main
import ProofGutter.Path
import ProofGutter.Proofs.Awaiting
import ProofGutter.Proofs.Bands
import ProofGutter.Proofs.Brackets
import ProofGutter.Proofs.Cadence
import ProofGutter.Proofs.Canvas
import ProofGutter.Proofs.Closing
import ProofGutter.Proofs.Completion
import ProofGutter.Proofs.Deadlines
import ProofGutter.Proofs.Dispatch
import ProofGutter.Proofs.Echo
import ProofGutter.Proofs.EventRanges
import ProofGutter.Proofs.Exchange
import ProofGutter.Proofs.FileAddress
import ProofGutter.Proofs.Framing
import ProofGutter.Proofs.Gap
import ProofGutter.Proofs.Glyph
import ProofGutter.Proofs.Gutter
import ProofGutter.Proofs.HeaderFields
import ProofGutter.Proofs.HeaderLines
import ProofGutter.Proofs.Host
import ProofGutter.Proofs.Intake
import ProofGutter.Proofs.JsonText
import ProofGutter.Proofs.Links
import ProofGutter.Proofs.Marks
import ProofGutter.Proofs.MaximalRun
import ProofGutter.Proofs.Nearest
import ProofGutter.Proofs.Openings
import ProofGutter.Proofs.Outlines
import ProofGutter.Proofs.Pacing
import ProofGutter.Proofs.PacingHistory
import ProofGutter.Proofs.Palette
import ProofGutter.Proofs.Partition
import ProofGutter.Proofs.Placement
import ProofGutter.Proofs.Reception
import ProofGutter.Proofs.Records
import ProofGutter.Proofs.References
import ProofGutter.Proofs.Screen
import ProofGutter.Proofs.Since
import ProofGutter.Proofs.SnapshotShape
import ProofGutter.Proofs.Superseded
import ProofGutter.Proofs.Verdict
import ProofGutter.Proofs.WholeDocument
import ProofGutter.Proofs.Words
import ProofGutter.Relation.Distance
import ProofGutter.Relation.Index
import ProofGutter.Relation.Layers
import ProofGutter.Session
import ProofGutter.Surface.Command
import ProofGutter.Surface.Palette
import ProofGutter.Surface.StatusLine
import ProofGutter.Terminal
import ProofGutter.Text.Blank
import ProofGutter.Text.Digits
import ProofGutter.Text.Lines
import ProofGutter.Text.Position
import ProofGutter.Text.Quoted
import ProofGutter.Timing.Animation
import ProofGutter.Timing.Pacer
import ProofGutter.Toml.Document
import ProofGutter.Toml.Layout
import ProofGutter.Toml.Moment
import ProofGutter.Toml.Number
import ProofGutter.Toml.Quoted
import ProofGutter.Toml.Table
import ProofGutter.Toml.Value
import ProofGutter.Unicode.CombiningClass
import ProofGutter.Unicode.Decomposition
import ProofGutter.Unicode.Direction
import ProofGutter.Unicode.Folding
import ProofGutter.Unicode.Hidden
import ProofGutter.Unicode.Joining
import ProofGutter.Unicode.Mark
import ProofGutter.Unicode.Normal
import ProofGutter.Unicode.Runs
import ProofGutter.Url.Address
import ProofGutter.Url.Address4
import ProofGutter.Url.Address6
import ProofGutter.Url.File
import ProofGutter.Url.Host
import ProofGutter.Url.Parser
import ProofGutter.Url.Percent
import ProofGutter.Url.Segments
import ProofGutter.View
import ProofGutter.Watch
import ProofGutter.Wire.CounterExample
import ProofGutter.Wire.Launch
import ProofGutter.Wire.Message
import ProofGutter.Wire.Notification
import ProofGutter.Wire.Range
