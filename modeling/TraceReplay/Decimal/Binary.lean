/-!
# Binary floating-point numbers as exact numbers

A double is a whole number times a power of two, an infinity, or no number. `BinaryFloat.ofFloat`
reads the three fields of its 64 bits, so all that follows is exact arithmetic on whole numbers.
-/

namespace TraceReplay

/-- The value of a double. A finite one is `mantissa * 2 ^ exponent` up to its sign. -/
inductive BinaryFloat
  | notANumber
  | infinite (negative : Bool)
  | finite (negative : Bool) (mantissa : Nat) (exponent : Int)
deriving DecidableEq, Repr

namespace BinaryFloat

/-- The first bit of the mantissa of a normal number, which is not stored. -/
def hiddenBit : Nat := 1 <<< 52

/-- The value of a 64-bit pattern. -/
def ofBits (bits : Nat) : BinaryFloat :=
  let negative := (bits >>> 63) % 2 == 1
  let scale : Nat := (bits >>> 52) % 2048
  let fraction : Nat := bits % hiddenBit
  if scale = 2047 then (if fraction = 0 then infinite negative else notANumber)
  else if scale = 0 then finite negative fraction (-1074)
  else finite negative (fraction + hiddenBit) ((scale : Int) - 1075)

/-- The value of a double. -/
def ofFloat (x : Float) : BinaryFloat := ofBits x.toBits.toNat

/-- The sign that is written in front. -/
def sign (negative : Bool) : String := if negative then "-" else ""

end BinaryFloat

end TraceReplay
