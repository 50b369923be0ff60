import TraceReplay.Decimal.Fixed
import TraceReplay.Decimal.Grouped
import TraceReplay.Replay.Counters

/-!
# Reports

What is told about a race when it is over: frames and the rate of frames, and, when they were
wanted, the CPU times per call and a line of the executor.
-/

namespace TraceReplay

/-- CPU time per call in microseconds. -/
structure CpuSummary where
  calls : Nat
  average : Float
  median : Nat
  /-- The value that 99 of 100 calls do not exceed. -/
  high : Nat
  greatest : Nat

namespace CpuSummary

/-- The summary of the recorded times, if there are any. -/
def ofHistogram? (h : Histogram) : Option CpuSummary :=
  if h.isEmpty then none
  else some ⟨h.size, h.mean, h.valueAt 50, h.valueAt 99, h.maximum⟩

/-- The line about CPU times. -/
def render (s : CpuSummary) : String :=
  "CPU time per call (us): calls=" ++ Decimal.grouped s.calls ++ " avg="
    ++ Decimal.fixedText 2 s.average ++ s!" p50={s.median} p99={s.high} max={s.greatest}"

end CpuSummary

/-- The totals of a race. -/
structure Report where
  frames : Nat
  calls : Nat
  legs : Nat
  elapsed : Duration
  cpu? : Option CpuSummary := none
  /-- The line of the executor. -/
  executor? : Option String := none

namespace Report

/-- The report of a race from the counters at its end. -/
def ofCounters (c : Counters) (legs : Nat) (elapsed : Duration) (executor? : Option String) :
    Report where
  frames := c.frames
  calls := c.calls
  legs
  elapsed
  cpu? := c.cpuTimes?.bind CpuSummary.ofHistogram?
  executor?

/-- Frames per second, zero if no time has passed. -/
def framesPerSecond (r : Report) : Float :=
  let seconds := r.elapsed.toFloat
  if seconds > 0 then (UInt64.ofNat r.frames).toFloat / seconds else 0

/-- The line about frames. -/
def throughputLine (r : Report) : String :=
  s!"Rendered {r.frames} frames in " ++ Decimal.fixedText 6 r.elapsed.toFloat
    ++ " secs, average of " ++ Decimal.fixedText 6 r.framesPerSecond ++ " fps"

/-- All lines of a report. -/
def lines (r : Report) : List String :=
  r.throughputLine :: (r.cpu?.map CpuSummary.render).toList ++ r.executor?.toList

end Report

end TraceReplay
