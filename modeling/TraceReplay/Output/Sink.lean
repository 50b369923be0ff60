import TraceReplay.Storage.Fault

/-!
# Output sinks

An output that collects what is written to it. A write is accepted as a whole or refused as a
whole; a longer output is written in pieces, and the pieces before a refused one stay written.
-/

namespace TraceReplay

/-- An output stream that may be limited in size and may fail to flush. -/
structure Sink where
  content : ByteArray := ByteArray.empty
  /-- The size that no write may pass. -/
  limit? : Option Nat := none
  flushFails : Bool := false

namespace Sink

/-- So many bytes in all do not pass the limit. -/
def admits (s : Sink) (size : Nat) : Bool :=
  match s.limit? with
  | some limit => decide (size ≤ limit)
  | none => true

/-- Append the bytes, if they all fit. -/
def write (s : Sink) (data : List UInt8) : Except StorageFault Sink :=
  if s.admits (s.content.size + data.length) then
    .ok { s with content := data.foldl ByteArray.push s.content }
  else .error .full

/-- Append pieces until one is refused. -/
def writePieces (s : Sink) : List (List UInt8) → Except StorageFault Unit × Sink
  | [] => (.ok (), s)
  | piece :: pieces =>
    match s.write piece with
    | .ok s => s.writePieces pieces
    | .error e => (.error e, s)

/-- Pass on what is buffered. -/
def flush (s : Sink) : Except StorageFault Unit :=
  if s.flushFails then .error .flushRefused else .ok ()

/-- Forget what was written; the limit counts anew. -/
def drain (s : Sink) : Sink := { s with content := ByteArray.empty }

/-- Which writes are refused, and whether a flush is. -/
structure Rules where
  limit? : Option Nat
  flushFails : Bool

def rules (s : Sink) : Rules := ⟨s.limit?, s.flushFails⟩

@[simp] theorem rules_writePieces (s : Sink) (pieces : List (List UInt8)) :
    (s.writePieces pieces).2.rules = s.rules := by
  induction pieces generalizing s with
  | nil => rfl
  | cons piece pieces ih =>
    rw [writePieces, write]
    split
    · rename_i written
      split at written
      · obtain rfl := Except.ok.inj written
        exact ih _
      · cases written
    · rfl

/-- An output without a limit takes everything. -/
theorem write_of_unlimited {s : Sink} (unlimited : s.limit? = none) (data : List UInt8) :
    s.write data = .ok { s with content := data.foldl ByteArray.push s.content } := by
  have admits : s.admits (s.content.size + data.length) = true := by rw [admits, unlimited]
  rw [write, if_pos admits]

theorem writePieces_of_unlimited {s : Sink} (unlimited : s.limit? = none)
    (pieces : List (List UInt8)) : (s.writePieces pieces).1 = .ok () := by
  induction pieces generalizing s with
  | nil => rfl
  | cons piece pieces ih =>
    rw [writePieces, write_of_unlimited unlimited]
    exact ih unlimited

theorem toList_foldl_push (data : List UInt8) (content : ByteArray) :
    (data.foldl ByteArray.push content).data.toList = content.data.toList ++ data := by
  induction data generalizing content with
  | nil => simp
  | cons b data ih =>
    rw [List.foldl_cons, ih, ByteArray.data_push, Array.toList_push, List.append_assoc]
    rfl

/-- Then it has what it had, and all pieces. -/
theorem content_writePieces {s : Sink} (unlimited : s.limit? = none) (pieces : List (List UInt8)) :
    (s.writePieces pieces).2.content.data.toList = s.content.data.toList ++ pieces.flatten := by
  induction pieces generalizing s with
  | nil => simp [writePieces]
  | cons piece pieces ih =>
    rw [writePieces, write_of_unlimited unlimited, List.flatten_cons, ← List.append_assoc,
      ← toList_foldl_push]
    exact ih unlimited

/-- Whether a flush works is one of the rules. -/
theorem flush_eq (s : Sink) :
    s.flush = if s.rules.flushFails then .error .flushRefused else .ok () := rfl

end Sink

end TraceReplay
