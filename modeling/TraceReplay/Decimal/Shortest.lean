import TraceReplay.Decimal.Binary

/-!
# Shortest decimal text of a double

The fewest digits that read back to the same double, and of those the nearest to its value; a
value halfway between two goes to the greater one. The text is positional, never with an exponent,
and a whole number has no fraction.

The reals that round to the double `m * 2 ^ q` form an interval around it, its ends included when
`m` is even. For one digit, two digits and so on the two neighbours of the value on that decimal
grid are tested against the interval in exact whole-number arithmetic.
-/

namespace TraceReplay.Decimal

/-- A positive rational number. -/
structure Ratio where
  num : Nat
  den : Nat

/-- A power of ten or two with a whole exponent, as a factor of numerator and denominator. -/
def powRatio (base : Nat) (exponent : Int) : Ratio :=
  match exponent with
  | .ofNat e => ⟨base.pow e, 1⟩
  | .negSucc e => ⟨1, base.pow (e + 1)⟩

namespace Ratio

def mul (a b : Ratio) : Ratio := ⟨a.num * b.num, a.den * b.den⟩

def ofNat (n : Nat) : Ratio := ⟨n, 1⟩

/-- The whole part of the quotient. -/
def floorDiv (a b : Ratio) : Nat := (a.num * b.den) / (a.den * b.num)

def lt (a b : Ratio) : Bool := decide (a.num * b.den < b.num * a.den)

def le (a b : Ratio) : Bool := decide (a.num * b.den ≤ b.num * a.den)

def eq (a b : Ratio) : Bool := decide (a.num * b.den = b.num * a.den)

end Ratio

/-- The numbers that round to a double, in quarters of its last binary place. -/
structure Rounding where
  low : Ratio
  value : Ratio
  high : Ratio
  /-- The ends round to the double too. -/
  closed : Bool

/-- The numbers that round to `mantissa * 2 ^ exponent`. Below a power of two the neighbour is
only half as far away. -/
def rounding (mantissa : Nat) (exponent : Int) : Rounding :=
  let quarter := powRatio 2 (exponent - 2)
  let below := if mantissa = BinaryFloat.hiddenBit ∧ -1074 < exponent then 1 else 2
  { low := quarter.mul (.ofNat (4 * mantissa - below))
    value := quarter.mul (.ofNat (4 * mantissa))
    high := quarter.mul (.ofNat (4 * mantissa + 2))
    closed := mantissa % 2 == 0 }

/-- The number rounds to the double. -/
def Rounding.holds (r : Rounding) (x : Ratio) : Bool :=
  if r.closed then r.low.le x && x.le r.high else r.low.lt x && x.lt r.high

/-- The number of decimal digits in front of the point, for a value of at least one; for smaller
values, zero or less. The estimate `guess` is not above it and is raised until ten to its power
exceeds the value. -/
def magnitude (value : Ratio) : (fuel : Nat) → (guess : Int) → Int
  | 0, guess => guess
  | fuel + 1, guess =>
    if value.lt (powRatio 10 guess) then guess else magnitude value fuel (guess + 1)

/-- The digits `count * 10 ^ scale` on the grid of step `10 ^ scale` that round to the double, the
nearer of two. -/
def onGrid? (r : Rounding) (scale : Int) : Option Nat :=
  let step := powRatio 10 scale
  let down := r.value.floorDiv step
  let up := down + 1
  let at_ := fun (n : Nat) => step.mul (.ofNat n)
  match decide (0 < down) && r.holds (at_ down), r.holds (at_ up) with
  | true, false => some down
  | false, true => some up
  | false, false => none
  | true, true =>
    -- twice the value against the sum of the two neighbours
    let twice := r.value.mul (.ofNat 2)
    if twice.lt (at_ (down + up)) then some down else some up

/-- Try finer and finer grids below `10 ^ top`. -/
def shortestFrom (r : Rounding) (top : Int) : (fuel : Nat) → (digits : Nat) → Nat × Int
  | 0, digits => (r.value.floorDiv (powRatio 10 (top - digits)), top - digits)
  | fuel + 1, digits =>
    match onGrid? r (top - digits) with
    | some n => (n, top - digits)
    | none => shortestFrom r top fuel (digits + 1)

/-- The shortest decimal `digits * 10 ^ scale` of a positive double. The upper neighbour on the
first grid may be a power of ten, whose zero belongs to the scale. -/
def shortest (mantissa : Nat) (exponent : Int) : Nat × Int :=
  let r := rounding mantissa exponent
  let guess := ((mantissa.log2 : Int) + exponent) * 30103 / 100000 - 1
  let top := magnitude r.value 6 guess
  let (digits, scale) := shortestFrom r top 18 1
  if digits % 10 = 0 then (digits / 10, scale + 1) else (digits, scale)

/-- A number of digits with the point `places` digits from the right. -/
def pointed (digits : Nat) (places : Nat) : String :=
  if places = 0 then toString digits
  else
    let fraction := toString (digits % Nat.pow 10 places)
    toString (digits / Nat.pow 10 places) ++ "."
      ++ String.ofList (List.replicate (places - fraction.length) '0') ++ fraction

/-- Positional text of `digits * 10 ^ scale`. -/
def positional (digits : Nat) : Int → String
  | .ofNat e => toString (digits * Nat.pow 10 e)
  | .negSucc e => pointed digits (e + 1)

/-- The shortest text that reads back to the same double. -/
def shortestText (x : Float) : String :=
  match BinaryFloat.ofFloat x with
  | .notANumber => "NaN"
  | .infinite negative => BinaryFloat.sign negative ++ "inf"
  | .finite negative mantissa exponent =>
    BinaryFloat.sign negative ++
      if mantissa = 0 then "0"
      else
        let (digits, scale) := shortest mantissa exponent
        positional digits scale

end TraceReplay.Decimal
