/-!
# Colours

Four channels of eight bits: red, green, blue and alpha, stored in this order.
-/

namespace TraceReplay

/-- A colour with red, green, blue and alpha channels. -/
structure Color where
  r : UInt8
  g : UInt8
  b : UInt8
  a : UInt8
deriving DecidableEq, Repr, Inhabited

namespace Color

/-- Black and fully transparent. -/
def clear : Color := ⟨0, 0, 0, 0⟩

/-- The four channels in storage order. -/
def bytes (c : Color) : List UInt8 := [c.r, c.g, c.b, c.a]

/-- The colour whose channels are the first four bytes. -/
def ofBytes (bs : List UInt8) : Color :=
  ⟨bs.getD 0 0, bs.getD 1 0, bs.getD 2 0, bs.getD 3 0⟩

@[simp] theorem ofBytes_bytes (c : Color) : ofBytes c.bytes = c := rfl

end Color

end TraceReplay
