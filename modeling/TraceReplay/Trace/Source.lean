import TraceReplay.Trace.Call
import TraceReplay.Trace.Error

/-!
# Sources of calls

What a replay reads from: the calls in recorded order, and how the sequence ends. A source never
advances past its end, so after the last call every read gives the same answer.
-/

namespace TraceReplay

/-- Calls in recorded order, followed by the end of the trace or by an error. -/
structure Source where
  calls : List Call
  /-- The error that stands where the trace should go on or end. -/
  fault? : Option TraceError := none
deriving DecidableEq, Repr

namespace Source

/-- A source of calls already in memory. -/
def ofCalls (calls : List Call) : Source := ⟨calls, none⟩

/-- The next call, or `none` at the end of the trace, with the source that is left. -/
def next (s : Source) : Except TraceError (Option Call) × Source :=
  match s.calls, s.fault? with
  | c :: rest, fault? => (.ok (some c), ⟨rest, fault?⟩)
  | [], none => (.ok none, s)
  | [], some e => (.error e, s)

/-- How many calls are left. -/
def remaining (s : Source) : Nat := s.calls.length

end Source

end TraceReplay
