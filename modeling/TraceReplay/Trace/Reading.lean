import TraceReplay.Trace.Reader

/-!
# Reading on

`Reader.next` reads one record. A reader that has come to the end of the file, or that refuses the next
record, stays where it is and may be asked again (`Reader.read`); `Reader.answers` is what it says when it
is asked many times.

A `Cursor` does the same by position: it has the whole file, and takes each part that it looks at by
`slice?`, which gives nothing when the part does not lie in the file.
-/

namespace TraceReplay

namespace Reader

/-- Ask for the next call. -/
def read (r : Reader) : Except TraceError (Option Call) × Reader :=
  match r.next with
  | .ok (some (c, s)) => (.ok (some c), s)
  | .ok none => (.ok none, r)
  | .error e => (.error e, r)

/-- The answers when asked so many times. -/
def answers : (times : Nat) → Reader → List (Except TraceError (Option Call))
  | 0, _ => []
  | n + 1, r => r.read.1 :: answers n r.read.2

/-- Reading these calls leads from one reader to the other. -/
inductive Reads : Reader → List Call → Reader → Prop
  | nothing (r : Reader) : Reads r [] r
  | read {r s t : Reader} {c : Call} {cs : List Call} (first : r.next = .ok (some (c, s)))
      (rest : Reads s cs t) : Reads r (c :: cs) t

/-- The reader gives these calls, and then the same answer for ever. -/
def Gives (r : Reader) (cs : List Call) (last : Except TraceError (Option Call)) : Prop :=
  ∀ n, r.answers n = (cs.map (fun c => Except.ok (some c)) ++ List.replicate n last).take n

end Reader

/-- The bytes from `start` up to `stop`, if they all are there. -/
def slice? (bytes : List UInt8) (start stop : Nat) : Option (List UInt8) :=
  if start ≤ stop ∧ stop ≤ bytes.length then some ((bytes.take stop).drop start) else none

/-- The word that starts at a place, if all of it is there. -/
def word? (bytes : List UInt8) (start : Nat) : Option UInt32 :=
  (slice? bytes start (start + 4)).map fun word => UInt32.ofNat (LittleEndian.decode word)

/-- A file and a place in it, between two records. -/
structure Cursor where
  file : List UInt8
  offset : Nat := headerSize
  /-- The number of the call read last. -/
  previous? : Option UInt32 := none
deriving DecidableEq

namespace Cursor

/-- Open a file. -/
def open? (file : List UInt8) : Option (Except TraceError (Header × Cursor)) :=
  if file.length < headerSize then some (.error (.tooSmall file.length))
  else do
    let magic ← word? file 0
    let version ← word? file 4
    let count ← slice? file 8 headerSize
    if magic ≠ traceMagic then return .error (.badMagic magic)
    else if version = 0 ∨ traceVersion < version then return .error (.unsupportedVersion version)
    else return .ok (⟨version, UInt64.ofNat (LittleEndian.decode count)⟩, { file })

/-- Ask for the next call. -/
def read? (k : Cursor) : Option (Except TraceError (Option Call) × Cursor) := do
  let record ← slice? k.file k.offset k.file.length
  if record.length = 0 then return (.ok none, k)
  else if record.length < headerSize then
    return (.error (.truncated k.offset headerSize record.length), k)
  else
    let no ← word? record 0
    let leg ← word? record 4
    let flags ← word? record 8
    let size ← word? record 12
    let needed := headerSize + size.toNat
    if record.length < needed then
      return (.error (.truncated k.offset needed record.length), k)
    else match Reader.follows k.previous? no with
      | .error e => return (.error e, k)
      | .ok _ =>
        let payload ← slice? record headerSize needed
        return (.ok (some ⟨no, leg, ⟨flags⟩, payload⟩),
          { k with offset := k.offset + needed, previous? := some no })

end Cursor

end TraceReplay
