import TraceReplay.Storage.Fault

/-!
# A seekable medium

Bytes with a position to write at. A write is performed as a whole or refused as a whole, and a
refused write leaves the medium as it was. Writing past the end fills the gap with zeros.
-/

namespace TraceReplay

/-- Storage that is written at a position and may be limited in size. -/
structure Medium where
  content : ByteArray := ByteArray.empty
  position : Nat := 0
  /-- The offset that no write may pass. -/
  limit? : Option Nat := none

namespace Medium

/-- A write that ends at `stop` stays inside the limit. -/
def admits (m : Medium) (stop : Nat) : Bool :=
  match m.limit? with
  | some limit => decide (stop ≤ limit)
  | none => true

/-- The content with `data` put at `position`, zeros filling a gap before it. -/
def splice (content : ByteArray) (position : Nat) (data : ByteArray) : ByteArray :=
  if position = content.size then content ++ data
  else
    content.extract 0 position
      ++ ⟨Array.replicate (position - content.size) 0⟩
      ++ data
      ++ content.extract (position + data.size) content.size

/-- Write at the current position and move behind what was written. -/
def write (m : Medium) (data : List UInt8) : Except StorageFault Medium :=
  let stop := m.position + data.length
  if m.admits stop then
    .ok { m with content := splice m.content m.position ⟨data.toArray⟩, position := stop }
  else .error .full

/-- Move to the start. -/
def rewind (m : Medium) : Medium := { m with position := 0 }

/-- Move behind the last byte. -/
def toEnd (m : Medium) : Medium := { m with position := m.content.size }

end Medium

end TraceReplay
