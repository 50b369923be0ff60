/-!
# Recorded calls

A call carries its number in the trace, the leg (the recorded thread) that issued it, flags that
say how it affects the output, and a payload that only the executor of calls interprets.
-/

namespace TraceReplay

/-- The recorded thread that issued a call. -/
abbrev Leg := UInt32

/-- The leg whose calls are replayed by the thread that starts the replay. -/
def homeLeg : Leg := 0

/-- Flags of a call. Two bits have a meaning here; all others are carried along untouched, so
that traces of newer recorders still replay. -/
structure Flags where
  bits : UInt32
deriving DecidableEq, Repr, Inhabited

namespace Flags

def none : Flags := ⟨0⟩

/-- Marks a call that completes a frame. -/
def endFrame : Flags := ⟨1⟩

/-- Marks a call that switches the render target. -/
def swapTarget : Flags := ⟨2⟩

/-- The call completes a frame. -/
def endsFrame (f : Flags) : Bool := f.bits &&& 1 != 0

/-- The call switches the render target. -/
def swapsTarget (f : Flags) : Bool := f.bits &&& 2 != 0

/-- No bit without a meaning is set. -/
def isKnown (f : Flags) : Bool := f.bits &&& (~~~ 3) == 0

/-- The names of the flags that have one, or a dash. -/
def render (f : Flags) : String :=
  match f.endsFrame, f.swapsTarget with
  | false, false => "-"
  | true, false => "end-frame"
  | false, true => "swap-rendertarget"
  | true, true => "end-frame|swap-rendertarget"

end Flags

/-- One recorded call. -/
structure Call where
  /-- Position in the recorded order; numbers increase along a trace. -/
  no : UInt32
  leg : Leg
  flags : Flags
  payload : List UInt8
deriving DecidableEq, Repr, Inhabited

namespace Call

def endsFrame (c : Call) : Bool := c.flags.endsFrame

def swapsTarget (c : Call) : Bool := c.flags.swapsTarget

end Call

end TraceReplay
