import TraceReplay.Bytes.Bits
import TraceReplay.Bytes.Checksum
import TraceReplay.Bytes.Crc32
import TraceReplay.Bytes.Deflate
import TraceReplay.Bytes.Huffman
import TraceReplay.Bytes.Inflate
import TraceReplay.Bytes.LittleEndian
import TraceReplay.CommandLine.Config
import TraceReplay.CommandLine.Parser
import TraceReplay.CommandLine.Usage
import TraceReplay.Decimal.Binary
import TraceReplay.Decimal.Fixed
import TraceReplay.Decimal.Grouped
import TraceReplay.Decimal.Shortest
import TraceReplay.Draw.Canvas
import TraceReplay.Draw.Command
import TraceReplay.Draw.EagerCanvas
import TraceReplay.Draw.Operands
import TraceReplay.Draw.Raster
import TraceReplay.Draw.StateDump
import TraceReplay.Draw.Strict
import TraceReplay.Draw.Stepwise
import TraceReplay.Draw.Targets
import TraceReplay.Image.Basic
import TraceReplay.Image.Codec
import TraceReplay.Image.Color
import TraceReplay.Image.Png.Chunk
import TraceReplay.Image.Png.Data
import TraceReplay.Image.Png.Decoder
import TraceReplay.Image.Png.Encoder
import TraceReplay.Image.Png.Fault
import TraceReplay.Image.Png.Heading
import TraceReplay.Image.Png.Layout
import TraceReplay.Image.Png.Pass
import TraceReplay.Image.Png.Row
import TraceReplay.Image.Pnm
import TraceReplay.Image.Pnm.Stream
import TraceReplay.Image.Precision
import TraceReplay.Main
import TraceReplay.Output.Sink
import TraceReplay.Proofs.Draw.Buffering
import TraceReplay.Proofs.Race.Advance
import TraceReplay.Proofs.Race.Legs
import TraceReplay.Proofs.Race.Moves
import TraceReplay.Proofs.Race.Place
import TraceReplay.Proofs.Race.Progress
import TraceReplay.Proofs.Race.Refinement
import TraceReplay.Proofs.Race.Runners
import TraceReplay.Proofs.Race.Settling
import TraceReplay.Proofs.Race.Shots
import TraceReplay.Proofs.Race.SingleToken
import TraceReplay.Proofs.Replay.Matching
import TraceReplay.Proofs.Session.Face
import TraceReplay.Race.Basic
import TraceReplay.Race.Field
import TraceReplay.Race.Reference
import TraceReplay.Race.Schedule
import TraceReplay.Race.Shots
import TraceReplay.Replay.Backend
import TraceReplay.Replay.Counters
import TraceReplay.Replay.Duration
import TraceReplay.Replay.Error
import TraceReplay.Replay.Histogram
import TraceReplay.Replay.Journal
import TraceReplay.Replay.Player
import TraceReplay.Replay.Requests
import TraceReplay.Replay.Shots
import TraceReplay.Report.Basic
import TraceReplay.Selection.Basic
import TraceReplay.Selection.Grammar
import TraceReplay.Selection.Parser
import TraceReplay.Selection.Printer
import TraceReplay.Session.Basic
import TraceReplay.Session.Studio
import TraceReplay.Snapshot.Policy
import TraceReplay.Snapshot.Course
import TraceReplay.Snapshot.Step
import TraceReplay.Storage.Fault
import TraceReplay.Storage.Files
import TraceReplay.Storage.Medium
import TraceReplay.Text.Blank
import TraceReplay.Text.Graphic
import TraceReplay.Text.JsonText
import TraceReplay.Text.Numeral
import TraceReplay.Text.Padded
import TraceReplay.Text.Quoted
import TraceReplay.Text.Terminal
import TraceReplay.Text.Utf8
import TraceReplay.Tool.Demo
import TraceReplay.Tool.Listing
import TraceReplay.Tool.Outcome
import TraceReplay.Tool.Replay
import TraceReplay.Trace.Call
import TraceReplay.Trace.Error
import TraceReplay.Trace.Header
import TraceReplay.Trace.Reader
import TraceReplay.Trace.Reading
import TraceReplay.Trace.Source
import TraceReplay.Trace.Writer
import TraceReplay.Proofs.Session.Legs
import TraceReplay.Proofs.Storage.Files
import TraceReplay.Proofs.Storage.SnapshotFiles
import TraceReplay.Proofs.Session.Snapshots
import TraceReplay.Proofs.Session.Filming
import TraceReplay.Proofs.Session.Overwriting
import TraceReplay.Proofs.Session.Comparing
import TraceReplay.Proofs.Session.Stream
import TraceReplay.Proofs.Session.Output
import TraceReplay.Proofs.Trace.Writing
import TraceReplay.Proofs.Session.Series
import TraceReplay.Proofs.Session.Turns
import TraceReplay.Proofs.Replay.Tallies
import TraceReplay.Proofs.Snapshot.Course
import TraceReplay.Proofs.Text.Cutting
import TraceReplay.Proofs.Text.Numerals
import TraceReplay.Proofs.Selection.Grammar
import TraceReplay.Proofs.Selection.Meaning
import TraceReplay.Proofs.Selection.RoundTrip
import TraceReplay.Proofs.Image.Frames
import TraceReplay.Proofs.Race.Recounting
import TraceReplay.Proofs.Race.Hiring
import TraceReplay.Proofs.Race.Stages
import TraceReplay.Proofs.Race.Undumped
import TraceReplay.Proofs.Race.Dumping
import TraceReplay.Proofs.Session.Streaming
import TraceReplay.Proofs.Session.Errands
import TraceReplay.Proofs.Draw.Codec
import TraceReplay.Proofs.Decimal.Grouping
import TraceReplay.Proofs.Draw.Painting
import TraceReplay.Proofs.Draw.Upkeep
import TraceReplay.Proofs.Image.Precision
import TraceReplay.Proofs.Session.Completing
import TraceReplay.Proofs.Tool.Recording
import TraceReplay.Proofs.Tool.Demonstration
import TraceReplay.Proofs.Snapshot.Naming
