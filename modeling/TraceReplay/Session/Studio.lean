import TraceReplay.CommandLine.Config
import TraceReplay.Decimal.Fixed
import TraceReplay.Decimal.Grouped
import TraceReplay.Draw.StateDump
import TraceReplay.Image.Codec
import TraceReplay.Image.Pnm
import TraceReplay.Output.Sink
import TraceReplay.Replay.Backend
import TraceReplay.Text.Terminal

/-!
# The studio

What a replay works on: the canvas, the files, and the outputs. Calls are performed as draw commands
on the canvas, captures copy it, and dumps describe it. The snapshot stream and the state dump go to
standard output unless they have outputs of their own.
-/

namespace TraceReplay

/-- A canvas, files and outputs. -/
structure Studio where
  canvas : Canvas
  profiling : Profiling := {}
  files : Files := {}
  stdout : Sink := {}
  /-- Lines on standard error. -/
  stderr : Array String := #[]
  /-- Where snapshots are streamed to, if not to standard output. -/
  streamOut? : Option Sink := none
  /-- Where the state is dumped to, if not to standard output. -/
  dumpOut? : Option Sink := none
  /-- The least important lines that are logged; without it none are. -/
  logFrom? : Option LogLevel := none
  /-- The measured time of painting. -/
  paintTime : Duration := .zero

/-- The word in front of a logged line. -/
def LogLevel.word : LogLevel → String
  | info => "INFO"
  | warning => "WARN"

/-- Lines of this importance are logged. -/
def LogLevel.passes : LogLevel → LogLevel → Bool
  | warning, info => false
  | _, _ => true

namespace Studio

/-- Write pieces to the stream or, in its place, to standard output. -/
def writeStream (s : Studio) (pieces : List (List UInt8)) : Except StorageFault Unit × Studio :=
  match s.streamOut? with
  | some sink =>
    let (result, sink) := sink.writePieces pieces
    (result, { s with streamOut? := some sink })
  | none =>
    let (result, sink) := s.stdout.writePieces pieces
    (result, { s with stdout := sink })

/-- Write pieces to the dump output or, in its place, to standard output. -/
def writeDump (s : Studio) (pieces : List (List UInt8)) : Except StorageFault Unit × Studio :=
  match s.dumpOut? with
  | some sink =>
    let (result, sink) := sink.writePieces pieces
    (result, { s with dumpOut? := some sink })
  | none =>
    let (result, sink) := s.stdout.writePieces pieces
    (result, { s with stdout := sink })

/-- Tell the user. What is logged may name a file of any name, so it is spelled for terminals. -/
def tell (s : Studio) : Message → Studio
  | .printed line => { s with stdout := (s.stdout.writePieces [Text.utf8 line, Text.utf8 "\n"]).2 }
  | .noted line => { s with stderr := s.stderr.push line }
  | .logged level text =>
    match s.logFrom? with
    | some least =>
      if least.passes level then
        { s with stderr := s.stderr.push (level.word ++ " " ++ Text.spelled text) }
      else s
    | none => s

/-- Perform the draw command in a call's payload. -/
def perform (s : Studio) (c : Call) : Performed × Studio :=
  match s.canvas.apply c.payload with
  | .ok canvas => (.done, { s with canvas })
  | .error e => (.failed ⟨c.no, e.message⟩, s)

/-- The line about the work done, for what is measured. -/
def summary? (s : Studio) : Option String :=
  let time := if s.profiling.gpu then
      ["Raster time: " ++ Decimal.fixedText 3 (s.paintTime.toFloat * 1000) ++ " ms"]
    else []
  let pixels := if s.profiling.pixels then
      ["Pixels drawn: " ++ Decimal.grouped s.canvas.pixelsDrawn]
    else []
  match time ++ pixels with
  | [] => none
  | parts => some (String.intercalate ", " parts)

/-- Copy the canvas. -/
def capture (s : Studio) : Option Image × Studio :=
  let (image, canvas) := s.canvas.capture
  (some image, { s with canvas })

/-- Load a reference image. One that is there and cannot be read is warned about. -/
def load (codec : ImageCodec) (s : Studio) (path : String) : Option Image × Studio :=
  if s.files.hasEntry path then
    match codec.read s.files path with
    | .ok image => (some image, s)
    | .error e => (none, s.tell (.logged .warning (s!"Failed to read {path}: " ++ e.message)))
  else (none, s)

/-- Write an image file, warning if it cannot be written. -/
def write (codec : ImageCodec) (s : Studio) (image : Image) (path : String) : Bool × Studio :=
  let (result, files) := codec.write s.files path image
  let s := { s with files }
  match result with
  | .ok _ => (true, s)
  | .error e => (false, s.tell (.logged .warning (s!"Failed to write {path}: " ++ e.message)))

/-- Stream an image with a comment. -/
def stream (s : Studio) (image : Image) (comment : String) : Except StorageFault Unit × Studio :=
  let (result, s) := s.writeStream (image.pnmPieces comment)
  match result with
  | .ok _ => ((s.streamOut?.getD s.stdout).flush, s)
  | .error e => (.error e, s)

/-- Dump the state of the canvas, warning if it cannot be written. -/
def dump (s : Studio) : Bool × Studio :=
  let (result, s) := s.writeDump (s.canvas.dumpPieces.map Text.utf8)
  match result with
  | .ok _ => (true, s)
  | .error e => (false, s.tell (.logged .warning ("Failed to dump canvas state: " ++ e.message)))

/-- The studio as a replay acts on it. -/
def backend (codec : ImageCodec) : Backend Studio where
  perform := fun c s => s.perform c
  cpuTime := pure .zero
  flush := fun s => (.ok (), { s with canvas := s.canvas.flush })
  summary? := summary?
  capture := capture
  load := fun path s => s.load codec path
  write := fun image path s => s.write codec image path
  stream := fun image comment s => s.stream image comment
  dump? := some dump
  flushDump := fun s => ((s.dumpOut?.getD s.stdout).flush, s)
  tell := fun message s => ((), s.tell message)

end Studio

end TraceReplay
