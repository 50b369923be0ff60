import TraceReplay.Trace.Header
import TraceReplay.Trace.Source

/-!
# Reading traces

After the header come the records: call number, leg, flags and payload length, each a little-endian
word of 32 bits, and then the payload. A reader stands between two records; `next` reads one. A
record is refused if it is cut short or if its number does not increase, and a reader that refused
a record stays where it is.
-/

namespace TraceReplay

namespace Call

/-- The fixed part of a call's record. -/
def encodeHead (c : Call) : List UInt8 :=
  LittleEndian.encode 4 c.no.toNat ++ LittleEndian.encode 4 c.leg.toNat
    ++ LittleEndian.encode 4 c.flags.bits.toNat ++ LittleEndian.encode 4 c.payload.length

/-- The record of a call. -/
def encode (c : Call) : List UInt8 := c.encodeHead ++ c.payload

@[simp] theorem length_encodeHead (c : Call) : c.encodeHead.length = headerSize := by
  simp [encodeHead, headerSize]

theorem length_encode (c : Call) : c.encode.length = headerSize + c.payload.length := by
  simp [encode]

end Call

/-- A trace opened for reading, standing between two records. -/
structure Reader where
  header : Header
  /-- Where in the file the next record starts. -/
  offset : Nat
  /-- The bytes not yet read. -/
  rest : List UInt8
  /-- The number of the call read last. -/
  previous? : Option UInt32
deriving DecidableEq

namespace Reader

/-- Open the bytes of a trace. -/
def ofBytes (bytes : List UInt8) : Except TraceError Reader :=
  (Header.decode bytes).map fun header => ⟨header, headerSize, bytes.drop headerSize, none⟩

/-- How many bytes are left to read. -/
def remaining (r : Reader) : Nat := r.rest.length

/-- The record at the start of `rest` needs `needed` bytes and has fewer. -/
def cutShort (r : Reader) (needed : Nat) : TraceError := .truncated r.offset needed r.remaining

/-- The call's number is not above the last one. -/
def follows (previous? : Option UInt32) (no : UInt32) : Except TraceError Unit :=
  match previous? with
  | some previous => if no ≤ previous then .error (.outOfOrder previous no) else .ok ()
  | none => .ok ()

/-- Read one record, or `none` at the end of the file. -/
def next (r : Reader) : Except TraceError (Option (Call × Reader)) :=
  let head := r.rest.take headerSize
  if r.rest.isEmpty then .ok none
  else if head.length < headerSize then .error (r.cutShort headerSize)
  else
    let size := LittleEndian.decode (head.drop 12)
    let tail := r.rest.drop headerSize
    let payload := tail.take size
    if payload.length < size then .error (r.cutShort (headerSize + size))
    else
      let no := UInt32.ofNat (LittleEndian.decode (head.take 4))
      (follows r.previous? no).map fun _ =>
        some (⟨no, UInt32.ofNat (LittleEndian.decode ((head.drop 4).take 4)),
            ⟨UInt32.ofNat (LittleEndian.decode ((head.drop 8).take 4))⟩, payload⟩,
          { r with
            offset := r.offset + headerSize + size
            rest := tail.drop size
            previous? := some no })

/-- A record takes at least its fixed part from the bytes that are left. -/
theorem length_rest_next {r r' : Reader} {c : Call} (h : r.next = .ok (some (c, r'))) :
    r'.rest.length < r.rest.length := by
  unfold next at h
  simp only [List.isEmpty_iff] at h
  split at h
  · simp at h
  · rename_i hne
    split at h
    · simp at h
    · split at h
      · simp at h
      · cases hf : follows r.previous? (UInt32.ofNat
            (LittleEndian.decode ((r.rest.take headerSize).take 4))) with
        | error e => simp [hf, Except.map] at h
        | ok u =>
          simp only [hf, Except.map, Except.ok.injEq, Option.some.injEq, Prod.mk.injEq] at h
          rw [← h.2]
          have := List.length_pos_iff.2 hne
          simp only [List.length_drop, headerSize]
          omega

/-- The calls that the reader still gives, up to the end of the file or the first refused record. -/
def toSource (r : Reader) : Source :=
  match _h : r.next with
  | .error e => ⟨[], some e⟩
  | .ok none => ⟨[], none⟩
  | .ok (some (c, r')) =>
    let later := r'.toSource
    ⟨c :: later.calls, later.fault?⟩
termination_by r.rest.length
decreasing_by exact length_rest_next ‹_›

end Reader

end TraceReplay
