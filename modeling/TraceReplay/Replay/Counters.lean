import TraceReplay.Replay.Duration
import TraceReplay.Replay.Histogram
import TraceReplay.Trace.Call

/-!
# Counters of a replay

What reports are made from. Frames, calls and CPU samples are counted per race and start anew with
each; the total of calls goes on, and so does the number of the call replayed last.
-/

namespace TraceReplay

/-- Counts of frames and calls, and the CPU times when they are wanted. -/
structure Counters where
  /-- Frames completed in this race. -/
  frames : Nat := 0
  /-- The number of the call being, or last, replayed. -/
  callNo : UInt32 := 0
  /-- Calls replayed in this race. -/
  calls : Nat := 0
  /-- Calls replayed in all races. -/
  totalCalls : Nat := 0
  /-- CPU time per call in microseconds, of this race. -/
  cpuTimes? : Option Histogram := none
deriving DecidableEq, Repr

namespace Counters

/-- Fresh counters, with CPU times or without. -/
def start (withCpu : Bool) : Counters := { cpuTimes? := if withCpu then some {} else none }

/-- A new race begins. -/
def beginRace (c : Counters) : Counters :=
  { c with frames := 0, calls := 0, cpuTimes? := c.cpuTimes?.map fun _ => {} }

/-- The call with this number is about to be replayed. -/
def reach (c : Counters) (no : UInt32) : Counters := { c with callNo := no }

/-- Record CPU times, if they are wanted; less than a microsecond counts as one. -/
def recordCpu (c : Counters) (elapsed : Duration) (times : Nat := 1) : Counters :=
  { c with cpuTimes? := c.cpuTimes?.map (·.record (max elapsed.micros 1) times) }

/-- A call was replayed. -/
def countCall (c : Counters) : Counters :=
  { c with calls := c.calls + 1, totalCalls := c.totalCalls + 1 }

/-- A frame was completed. -/
def countFrame (c : Counters) : Counters := { c with frames := c.frames + 1 }

/-- How many CPU samples there are, if they are wanted. -/
def cpuSamples? (c : Counters) : Option Nat := c.cpuTimes?.map Histogram.size

end Counters

end TraceReplay
