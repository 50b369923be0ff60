import TraceReplay.Selection.Parser
import TraceReplay.Trace.Call
import TraceReplay.Trace.Error

/-!
# Why a replay fails
-/

namespace TraceReplay

/-- An effect that the executor of calls could not perform. -/
structure Fault where
  callNo : UInt32
  reason : String
deriving DecidableEq, Repr

/-- Why a replay fails. A thread that cannot be made is left out: it is assumed that there is always one
for a runner. -/
inductive ReplayError
  /-- The options make no sense. -/
  | configuration (reason : String)
  | trace (error : TraceError)
  | selection (error : SelectionError)
  | executor (fault : Fault)
  /-- The runner of a leg is gone, so it cannot be handed a call. -/
  | batonDropped (leg : Leg)
  /-- A runner was lost together with the state of the race. -/
  | abandoned
deriving DecidableEq, Repr

namespace ReplayError

def message : ReplayError → String
  | configuration reason => s!"Configuration error: {reason}"
  | trace error => error.message
  | selection error => error.message
  | executor fault => s!"Executor fault at call {fault.callNo.toNat}: {fault.reason}"
  | batonDropped leg => s!"Runner for leg {leg.toNat} is gone, baton could not be delivered"
  | abandoned => "Race abandoned: no runner holds the race state"

/-- The cause behind the error that has a text of its own. -/
def cause? : ReplayError → Option String
  | trace (.openFailed _ cause) => some cause.message
  | _ => none

/-- The text of the error followed by the text of its cause. -/
def fullMessage (e : ReplayError) : String :=
  match e.cause? with
  | some cause => e.message ++ ": " ++ cause
  | none => e.message

end ReplayError

end TraceReplay
