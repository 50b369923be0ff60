import TraceReplay.Draw.Command
import TraceReplay.Text.Numeral
import TraceReplay.Tool.Listing
import TraceReplay.Trace.Writer

/-!
# The demonstration program

Writes a trace of many legs. In each frame leg 0 clears the screen, every leg paints a rectangle in
a band of rows of its own, and leg 0 presents; every fourth frame draws into target 1 first. What
changes from frame to frame is taken into words of 16 bits. For the other results a build of the
program may check that they do not leave their words, and a build that does breaks off in the middle
of its trace when one of them does. How that is reported, with the thread and the place, is up to what
the program runs in, so the report is a parameter.
-/

namespace TraceReplay

/-- An operation whose result may leave its word. -/
inductive Operation
  | add
  | multiply
deriving DecidableEq, Repr

/-- The text shown when the result leaves its word. -/
def Operation.message : Operation → String
  | add => "attempt to add with overflow"
  | multiply => "attempt to multiply with overflow"

/-- A report of an operation that tells no more than what happened. -/
def Operation.report (o : Operation) : Array String := #[o.message]

/-- What a build makes of results that leave their words. -/
inductive Arithmetic
  /-- They are taken into the word. -/
  | wrapping
  /-- They end the program. -/
  | checked
deriving DecidableEq, Repr

namespace Arithmetic

/-- The result may be used where there are `size` words. -/
def allows (a : Arithmetic) (size result : Nat) : Bool :=
  match a with
  | wrapping => true
  | checked => decide (result < size)

/-- The product of two words of 16 bits. -/
def product (a : Arithmetic) (x y : UInt16) : Except Operation UInt16 :=
  if a.allows UInt16.size (x.toNat * y.toNat) then .ok (x * y) else .error .multiply

/-- The word of 32 bits after another. -/
def next (a : Arithmetic) (n : UInt32) : Except Operation UInt32 :=
  if a.allows UInt32.size (n.toNat + 1) then .ok (n + 1) else .error .add

end Arithmetic

namespace DemoProgram

/-- The side of the square canvas. -/
def side : UInt16 := 256

/-- What is recorded of a call besides its number. -/
structure Entry where
  leg : Leg
  command : DrawCommand
  flags : Flags := .none
deriving DecidableEq, Repr

/-- The call with a number. -/
def Entry.call (e : Entry) (no : UInt32) : Call := ⟨no, e.leg, e.flags, e.command.encode⟩

/-- The first entry of a trace. -/
def opening : Entry := ⟨0, .resize side side, .none⟩

/-- The rectangle of a leg in a frame, in a colour of this shade of green. -/
def rectangle (legs frame leg y green : UInt16) : Entry where
  leg := leg.toUInt32
  command := .fill (frame * 3 % side) y (side / 4) (side / legs)
    ⟨(frame * 4 % 256).toUInt8, (green % 256).toUInt8, 200, 255⟩

/-- The rectangle of a leg in a frame, in its band and its colour. -/
def bandEntry (a : Arithmetic) (legs frame leg : UInt16) : Except Operation Entry := do
  let y ← a.product leg (side / legs)
  let green ← a.product leg 60
  return rectangle legs frame leg y green

/-- What every fourth frame draws into target 1. -/
def extraEntries (frame : UInt16) : List Entry :=
  if frame % 4 = 0 then
    [⟨0, .bind 1, .swapTarget⟩, ⟨0, .clear ⟨0, 0, 64, 255⟩, .none⟩, ⟨0, .bind 0, .swapTarget⟩]
  else []

/-- What a frame draws in front of the rectangles. -/
def background (frame : UInt16) : List Entry :=
  extraEntries frame ++ [⟨0, .clear ⟨16, 16, 16, 255⟩, .none⟩]

/-- The last entry of a frame. -/
def present : Entry := ⟨0, .present, .endFrame⟩

/-- The entries of a frame, as far as they can be made. -/
def frameEntries (a : Arithmetic) (legs frame : UInt16) : List (Except Operation Entry) :=
  (background frame).map .ok
    ++ (List.range legs.toNat).map (fun leg => bandEntry a legs frame (UInt16.ofNat leg))
    ++ [.ok present]

/-- A trace being recorded. -/
structure Recorder where
  writer : Writer
  /-- The number of the next call. -/
  nextNo : UInt32 := 0

/-- Why a recording breaks off. -/
inductive Halt
  | refused (cause : TraceError)
  /-- A result left its word after this was written. -/
  | overflow (operation : Operation) (content : ByteArray)

namespace Recorder

/-- Start to record. -/
def start : Except Halt Recorder :=
  match Writer.start {} with
  | .error cause => .error (.refused cause)
  | .ok writer => .ok { writer }

/-- Record an entry and go on to the next number. -/
def record (a : Arithmetic) (r : Recorder) : Except Operation Entry → Except Halt Recorder
  | .error operation => .error (.overflow operation r.writer.medium.content)
  | .ok entry =>
    match r.writer.append (entry.call r.nextNo) with
    | .error cause => .error (.refused cause)
    | .ok writer =>
      match a.next r.nextNo with
      | .error operation => .error (.overflow operation writer.medium.content)
      | .ok nextNo => .ok { writer, nextNo }

/-- Record entries one after the other. -/
def recordAll (a : Arithmetic) (r : Recorder) (entries : List (Except Operation Entry)) :
    Except Halt Recorder :=
  entries.foldlM (record a) r

/-- Record so many frames. The entries of a frame are made when those before were recorded. -/
def recordFrames (a : Arithmetic) (frames legs : UInt16) (r : Recorder) : Except Halt Recorder :=
  (List.range frames.toNat).foldlM
    (fun r frame => r.recordAll a (frameEntries a legs (UInt16.ofNat frame))) r

/-- The file of a recording that is over. -/
def finish (r : Recorder) : Except Halt ByteArray :=
  match r.writer.finish with
  | .error cause => .error (.refused cause)
  | .ok m => .ok m.content

end Recorder

/-- What was recorded. -/
structure Recording where
  content : ByteArray
  /-- The number that a further call would have. -/
  nextNo : UInt32

/-- Record a trace with so many frames and legs. -/
def record (a : Arithmetic) (frames legs : UInt16) : Except Halt Recording := do
  let r ← Recorder.start
  let r ← r.record a (.ok opening)
  let r ← r.recordFrames a frames legs
  let content ← r.finish
  return ⟨content, r.nextNo⟩

/-- Read an optional count. -/
def count (default_ : UInt16) (argument? : Option String) : Except NumeralError UInt16 :=
  match argument? with
  | none => .ok default_
  | some text => Numeral.parseShort text.toList

/-- Give a file that was just made its content. -/
def fillIn (files : Files) (path : String) (content : ByteArray) : Files :=
  (files.write path content).toOption.getD files

section

variable (a : Arithmetic) (report : Operation → Array String)

/-- Record a trace with so many frames and legs in a file. -/
def write (files : Files) (path : String) (frames legs : UInt16) : ProgramEnd :=
  match files.write path ByteArray.empty with
  | .error cause => .failed files ("Error: " ++ ListingProgram.detail (.writeFailed cause))
  | .ok made =>
    match record a frames legs with
    | .error (.refused cause) => .failed made ("Error: " ++ ListingProgram.detail cause)
    | .error (.overflow operation content) =>
      .brokenOff (fillIn made path content) (report operation)
    | .ok recording =>
      .printed (fillIn made path recording.content)
        (s!"Wrote {recording.nextNo.toNat} calls over {frames.toNat} frames to " ++ path ++ "\n")

/-- Run the program with its name and its arguments: a file, the frames and the legs. -/
def run (name : String) (arguments : List String) (files : Files) : ProgramEnd :=
  match arguments with
  | [] => .failed files ("Usage: " ++ name ++ " <output> [frames] [legs]")
  | path :: rest =>
    match count 60 rest[0]?, count 3 rest[1]? with
    | .error e, _ | _, .error e => .failed files ("Error: " ++ e.detail)
    | .ok frames, .ok legs => write a report files path frames (max legs 1)

end

end DemoProgram

end TraceReplay
