import TraceReplay.Selection.Basic
import TraceReplay.Text.Padded

/-!
# Snapshot policies

Which calls are looked at, where their snapshots go, and what they are compared with. Snapshots go
to files whose names are a common start and the call number, or as a stream to standard output.
-/

namespace TraceReplay

/-- In place of a common start of file names: snapshots are streamed. -/
def streamMark : String := "-"

/-- The file of the snapshot of a call, the number padded to ten digits. -/
def snapshotPath (start : String) (callNo : UInt32) : String :=
  start ++ String.ofList (Padded.digits 10 10 callNo.toNat) ++ ".png"

/-- Where snapshots are written, what they are compared with, and which calls get one. -/
structure SnapshotPolicy where
  /-- The common start of snapshot files, or the mark for streaming. -/
  writeTo? : Option String := none
  writeCalls : Selection := .empty
  /-- The common start of reference files. -/
  compareWith? : Option String := none
  compareCalls : Selection := .empty
deriving DecidableEq, Repr

namespace SnapshotPolicy

/-- Anything is written or compared at all. -/
def isEnabled (p : SnapshotPolicy) : Bool := p.writeTo?.isSome || p.compareWith?.isSome

/-- The call is looked at, to be written or to be compared. -/
def selects (p : SnapshotPolicy) (c : Call) : Bool :=
  p.writeCalls.covers c || p.compareCalls.covers c

/-- Snapshots are streamed. -/
def streams (p : SnapshotPolicy) : Bool := p.writeTo? == some streamMark

end SnapshotPolicy

end TraceReplay
