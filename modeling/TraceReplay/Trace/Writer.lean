import TraceReplay.Storage.Medium
import TraceReplay.Trace.Reader

/-!
# Writing traces

A writer starts with a provisional header, appends one record per call, and at the end goes back
to put the number of records into the header. Each record is one write, so a medium that refuses
it leaves no torn record behind, and only records that were written are counted.
-/

namespace TraceReplay

/-- A trace being written. -/
structure Writer where
  medium : Medium
  /-- How many records were written. -/
  records : Nat := 0

namespace Writer

/-- Write to the medium, naming a refusal as a trace error. -/
def put (m : Medium) (data : List UInt8) : Except TraceError Medium :=
  (m.write data).mapError .writeFailed

/-- Start a trace with a provisional header. -/
def start (m : Medium) : Except TraceError Writer :=
  (put m (Header.ofCount 0).encode).map fun m => ⟨m, 0⟩

/-- Append the record of a call. A refused record is not counted. -/
def append (w : Writer) (c : Call) : Except TraceError Writer :=
  (put w.medium c.encode).map fun m => ⟨m, w.records + 1⟩

/-- Put the number of records into the header and stand behind the last record. -/
def finish (w : Writer) : Except TraceError Medium :=
  (put w.medium.rewind (Header.ofCount (UInt64.ofNat w.records)).encode).map Medium.toEnd

/-- Append as many of the calls as the medium takes, going on after a refused one. -/
def appendAll (w : Writer) : List Call → Writer
  | [] => w
  | c :: cs => ((w.append c).toOption.getD w).appendAll cs

/-- Those of the calls whose records the medium takes. -/
def accepted (w : Writer) : List Call → List Call
  | [] => []
  | c :: cs =>
    match w.append c with
    | .ok w => c :: w.accepted cs
    | .error _ => w.accepted cs

end Writer

/-- The file that holds exactly these calls. -/
def encodeTrace (calls : List Call) : List UInt8 :=
  (Header.ofCount (UInt64.ofNat calls.length)).encode ++ calls.flatMap Call.encode

namespace Call

/-- The calls, each with the place of its record, if the first record is at `start` and there are no gaps. -/
def placed : (start : Nat) → List Call → List (Nat × Call)
  | _, [] => []
  | start, c :: cs => (start, c) :: placed (start + c.encode.length) cs

/-- The calls of whose records the part of the file in front of `stop` has all. -/
def wholeBefore (stop start : Nat) (calls : List Call) : List Call :=
  ((placed start calls).filter fun p => p.1 + p.2.encode.length ≤ stop).map Prod.snd

/-- The places where a record starts or ends. -/
def boundaries (start : Nat) (calls : List Call) : List Nat :=
  start :: (placed start calls).map fun p => p.1 + p.2.encode.length

end Call

end TraceReplay
