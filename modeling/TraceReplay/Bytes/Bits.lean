/-!
# Bits

A string of bits in bytes, each byte read from its low end. Looking ahead never fails: behind the
end all bits count as zero, and a reader asks how many are `left` before it trusts them.
-/

namespace TraceReplay

/-- Bytes, and the number of the next bit. -/
structure Bits where
  data : ByteArray
  position : Nat

namespace Bits

/-- No bits. -/
def empty : Bits := ⟨ByteArray.empty, 0⟩

/-- How many bits there are. -/
def left (r : Bits) : Nat := 8 * r.data.size - r.position

/-- The bit at an offset from the next one. -/
def ahead (r : Bits) (offset : Nat) : Nat :=
  (r.data[(r.position + offset) / 8]?.getD 0).toNat >>> ((r.position + offset) % 8) % 2

/-- The number in so many bits from an offset on, the lowest first. -/
def peek (r : Bits) (offset : Nat) : (count : Nat) → Nat
  | 0 => 0
  | n + 1 => r.ahead offset + 2 * r.peek (offset + 1) n

/-- Leave out the next bits. -/
def skip (r : Bits) (count : Nat) : Bits := { r with position := r.position + count }

/-- How many bits are left of the byte that the next bit is in, if it is not the first of it. -/
def slack (r : Bits) : Nat := (8 - r.position % 8) % 8

/-- Put bytes behind the bits. Bytes that have been read are dropped. -/
def append (r : Bits) (more : ByteArray) : Bits :=
  ⟨r.data.extract (r.position / 8) r.data.size ++ more, r.position % 8⟩

end Bits

end TraceReplay
