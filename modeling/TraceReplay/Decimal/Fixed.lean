import TraceReplay.Decimal.Shortest

/-!
# Decimal text with a fixed number of places

The exact value of a double rounded to a number of decimal places; a value halfway between two goes
to the one whose last digit is even.
-/

namespace TraceReplay.Decimal

/-- A quotient rounded to the nearest whole number, halves to even. -/
def roundDiv (num den : Nat) : Nat :=
  let q := num / den
  let r := num % den
  if 2 * r < den then q
  else if den < 2 * r then q + 1
  else if q % 2 = 0 then q else q + 1

/-- A double with exactly `places` digits behind the point. -/
def fixedText (places : Nat) (x : Float) : String :=
  match BinaryFloat.ofFloat x with
  | .notANumber => "NaN"
  | .infinite negative => BinaryFloat.sign negative ++ "inf"
  | .finite negative mantissa exponent =>
    let value := (powRatio 2 exponent).mul (.ofNat (mantissa * Nat.pow 10 places))
    BinaryFloat.sign negative ++ pointed (roundDiv value.num value.den) places

end TraceReplay.Decimal
