import TraceReplay.Image.Precision
import TraceReplay.Replay.Duration
import TraceReplay.Replay.Error

/-!
# Backends

What a replay acts on: the executor that performs calls, the service that captures, loads, writes,
streams and compares images, the dumper, and the places where lines are printed. All of them act on
one state of type `σ`, so an executor and a capture may share a canvas. The replay itself only
decides in which order they are asked.
-/

namespace TraceReplay

/-- What became of a call that was to be performed, or of a flush. -/
inductive Performed
  | done
  /-- An executor that fails names the call and the reason. It is assumed that it gives no error of
  another kind. -/
  | failed (fault : Fault)
  /-- The thread that was to do it is lost. -/
  | crashed
deriving DecidableEq, Repr

/-- How important a logged line is. -/
inductive LogLevel
  | info
  | warning
deriving DecidableEq, Repr

/-- A line for the user. -/
inductive Message
  /-- A line on standard output. -/
  | printed (line : String)
  /-- A line on standard error. -/
  | noted (line : String)
  | logged (level : LogLevel) (text : String)
deriving DecidableEq, Repr

/-- Actions on a state of type `σ`. -/
structure Backend (σ : Type) where
  /-- Perform the effect of a call. -/
  perform : Call → StateM σ Performed
  /-- The CPU time that the call just performed took. -/
  cpuTime : StateM σ Duration
  /-- Make buffered effects visible before another leg goes on. It fails as a call does, with a
  `Fault` and nothing else. -/
  flush : StateM σ (Except Fault Unit)
  /-- The thread that made the flush just made is lost. -/
  flushCrashed : σ → Bool := fun _ => false
  /-- A line about the work done, for the end of a race. -/
  summary? : σ → Option String
  /-- Take the current output, if there is any. -/
  capture : StateM σ (Option Image)
  /-- Load a reference image, if it exists and can be read. -/
  load : (path : String) → StateM σ (Option Image)
  /-- Write an image to a file, and say whether it worked. -/
  write : (image : Image) → (path : String) → StateM σ Bool
  /-- Stream an image with a comment. -/
  stream : (image : Image) → (comment : String) → StateM σ (Except StorageFault Unit)
  /-- The precision of an image against a reference. -/
  compare : (image reference : Image) → StateM σ Precision := fun a b => pure (a.compare b)
  /-- Dump the state, and say whether it worked; without a dumper there is nothing to try. -/
  dump? : Option (StateM σ Bool)
  /-- Pass the dump on; whether it works changes nothing. -/
  flushDump : StateM σ (Except StorageFault Unit)
  /-- Tell the user. -/
  tell : Message → StateM σ Unit

/-- Flush before another leg goes on, and say what became of it. -/
def Backend.handOver {σ : Type} (b : Backend σ) : StateM σ Performed := do
  let answer ← b.flush
  if b.flushCrashed (← get) then pure .crashed
  else
    match answer with
    | .ok _ => pure .done
    | .error fault => pure (.failed fault)

end TraceReplay
