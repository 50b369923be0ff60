import TraceReplay.Trace.Call

/-!
# Selections of calls

A selection says which calls of a trace are looked at. It is a list of pieces, each a range of
call numbers with a step and a condition on the flags, and it covers a call when some piece does.
-/

namespace TraceReplay

/-- Which calls of a range qualify. -/
inductive Frequency
  | every
  /-- Calls that end a frame. -/
  | frame
  /-- Calls that end a frame or switch the render target. -/
  | renderTarget
deriving DecidableEq, Repr

/-- The call's flags meet the condition. -/
def Frequency.admits : Frequency → Call → Bool
  | every, _ => true
  | frame, c => c.endsFrame
  | renderTarget, c => c.endsFrame || c.swapsTarget

/-- The greatest call number. -/
def lastCallNo : UInt32 := 0xffffffff

/-- A range of call numbers with a step and a condition. -/
structure Piece where
  start : UInt32 := 0
  /-- The last number of the range, itself included. -/
  stop : UInt32 := lastCallNo
  step : UInt32 := 1
  frequency : Frequency := .every
  step_pos : 0 < step := by decide
deriving DecidableEq, Repr

namespace Piece

/-- Every call of a trace. -/
def whole : Piece := {}

/-- The range holds every call number. -/
def isWhole (p : Piece) : Bool := p.start == 0 && p.stop == lastCallNo

/-- The piece covers the call. -/
def covers (p : Piece) (c : Call) : Bool :=
  decide (p.start ≤ c.no) && decide (c.no ≤ p.stop) && (c.no - p.start) % p.step == 0
    && p.frequency.admits c

end Piece

/-- Pieces in the order in which they were given. -/
structure Selection where
  pieces : List Piece
deriving DecidableEq, Repr

namespace Selection

/-- Covers no call. -/
def empty : Selection := ⟨[]⟩

/-- Covers all calls of one frequency. -/
def ofFrequency (f : Frequency) : Selection := ⟨[{ Piece.whole with frequency := f }]⟩

/-- Covers every call that ends a frame. -/
def everyFrame : Selection := ofFrequency .frame

def isEmpty (s : Selection) : Bool := s.pieces.isEmpty

/-- Some piece covers the call. -/
def covers (s : Selection) (c : Call) : Bool := s.pieces.any (·.covers c)

theorem covers_iff {s : Selection} {c : Call} :
    s.covers c = true ↔ ∃ p ∈ s.pieces, p.covers c = true := by
  simp [covers]

@[simp] theorem covers_empty (c : Call) : empty.covers c = false := rfl

end Selection

end TraceReplay
