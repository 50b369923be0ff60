import TraceReplay.Replay.Journal
import TraceReplay.Replay.Player

/-!
# Shots

The snapshot steps of a replay as data. A `Shot` is one of them: the report it ended with, and what it
asked of the backend. `Player.shot?` is the shot of a call, if the call gets one; a replay has the
shots of its calls, one after the other.
-/

namespace TraceReplay

/-- The image that was captured, if this is a capture that gave one. -/
def Effect.captured? : Effect → Option Image
  | captured image? => image?
  | _ => none

/-- One snapshot step of a replay. -/
structure Shot where
  report : SnapshotReport
  /-- It was taken before the effect of its call. -/
  early : Bool
  /-- What was asked of the backend, the first effect in front. -/
  effects : List Effect

namespace Shot

/-- The call number under which the step is filed. -/
def number (s : Shot) : UInt32 := s.report.callNo

/-- The image that was captured. -/
def image? (s : Shot) : Option Image := s.effects.findSome? Effect.captured?

end Shot

variable {σ : Type}

/-- The snapshot step that is filed under a call number, taken in this state. -/
def SnapshotPolicy.shoot (p : SnapshotPolicy) (b : Backend σ) (early : Bool) (callNo : UInt32)
    (w : σ) : Shot :=
  let (report, after) := p.take b.journaled callNo ⟨w, []⟩
  ⟨report, early, after.effects⟩

/-- The snapshot step of a call that is played in this state, if it gets one: before the effect of a
call that switches the target, and otherwise after it, if there was an effect. -/
def Player.shot? (p : Player) (b : Backend σ) (c : Call) (w : σ) : Option Shot :=
  if !p.policy.selects c then none
  else if c.swapsTarget then some (p.policy.shoot b true (numberBefore c) w)
  else match b.perform c w with
    | (.done, v) => some (p.policy.shoot b false c.no (p.recordCpu b v).2)
    | _ => none

end TraceReplay
