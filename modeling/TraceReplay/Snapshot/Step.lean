import TraceReplay.Decimal.Shortest
import TraceReplay.Replay.Backend
import TraceReplay.Snapshot.Policy

/-!
# Snapshot steps

What happens at a selected call: the reference is loaded, the output captured, the image written or
streamed and compared, in this order. A missing reference ends the step before the capture. The
report says what was done.
-/

namespace TraceReplay

/-- What a snapshot step did. -/
structure SnapshotReport where
  callNo : UInt32
  /-- The reference that was loaded. -/
  reference? : Option String := none
  /-- The output could be captured. -/
  captured : Bool := false
  /-- The file that was written. -/
  written? : Option String := none
  /-- The image went to the stream. -/
  streamed : Bool := false
  /-- The precision against the reference. -/
  precision? : Option Precision := none
deriving DecidableEq, Repr

/-- The line that tells a precision. -/
def precisionLine (callNo : UInt32) (precision : Precision) : String :=
  s!"Snapshot {callNo.toNat} average precision of " ++ Decimal.shortestText precision.bits
    ++ " bits"

namespace SnapshotPolicy

variable {σ : Type}

/-- Put the image where the policy wants it. -/
def deliver (p : SnapshotPolicy) (b : Backend σ) (image : Image) (report : SnapshotReport) :
    StateM σ SnapshotReport :=
  match p.writeTo? with
  | none => pure report
  | some start =>
    if start = streamMark then do
      match ← b.stream image (toString report.callNo.toNat) with
      | .ok _ => pure { report with streamed := true }
      | .error e =>
        b.tell (.logged .warning
          (s!"Failed to stream snapshot {report.callNo.toNat}: " ++ e.message))
        pure report
    else do
      let path := snapshotPath start report.callNo
      if ← b.write image path then
        b.tell (.logged .info s!"Wrote {path}")
        pure { report with written? := some path }
      else pure report

/-- Compare the image with the reference that was loaded. The line about it leaves standard output
to the stream when there is one. -/
def judge (p : SnapshotPolicy) (b : Backend σ) (image : Image) (reference? : Option Image)
    (report : SnapshotReport) : StateM σ SnapshotReport :=
  match reference? with
  | none => pure report
  | some reference => do
    let precision ← b.compare image reference
    let line := precisionLine report.callNo precision
    b.tell (if p.streams then .noted line else .printed line)
    pure { report with precision? := some precision }

/-- Capture the output, deliver it and compare it. -/
def capture (p : SnapshotPolicy) (b : Backend σ) (reference? : Option Image)
    (report : SnapshotReport) : StateM σ SnapshotReport := do
  match ← b.capture with
  | none => pure report
  | some image =>
    let report ← p.deliver b image { report with captured := true }
    p.judge b image reference? report

/-- Take the snapshot that is filed under a call number. -/
def take (p : SnapshotPolicy) (b : Backend σ) (callNo : UInt32) : StateM σ SnapshotReport :=
  let report : SnapshotReport := { callNo }
  if !p.isEnabled then pure report
  else match p.compareWith? with
    | none => p.capture b none report
    | some start => do
      let path := snapshotPath start callNo
      match ← b.load path with
      | none => pure report
      | some reference =>
        b.tell (.logged .info s!"Read {path}")
        p.capture b (some reference) { report with reference? := some path }

end SnapshotPolicy

end TraceReplay
