import TraceReplay.Image.Basic

/-!
# Precision of an image against a reference

Two images of one size are compared by the sum `E` of the squared differences of their bytes. The
precision, in bits, is `log2 (D / (2 * E + 1))`, where `D` is twice the greatest sum that images of
that size can have, so equal images get the maximum `log2 D` for their size. Images of different
sizes, or without pixels, have precision zero.
-/

namespace TraceReplay

/-- How near an image comes to a reference, exactly. -/
inductive Precision
  /-- The sizes differ or there are no pixels. -/
  | incomparable
  /-- The sum of squared differences between images of one size. -/
  | measured (width height error : Nat)
deriving DecidableEq, Repr

namespace Image

/-- The square of the difference of two bytes. -/
def squaredDifference (a b : UInt8) : Nat :=
  let d := (a.toNat - b.toNat) + (b.toNat - a.toNat)
  d * d

/-- The sum of the squared differences of the bytes that both images have. -/
def squaredError (a b : Image) : Nat :=
  (List.zipWith squaredDifference a.bytes b.bytes).foldl (· + ·) 0

/-- The precision of an image against a reference. -/
def compare (image reference : Image) : Precision :=
  if image.width ≠ reference.width ∨ image.height ≠ reference.height ∨ image.isEmpty then
    .incomparable
  else .measured image.width image.height (squaredError image reference)

theorem squaredDifference_comm (a b : UInt8) : squaredDifference a b = squaredDifference b a := by
  simp [squaredDifference, Nat.add_comm]

theorem squaredDifference_eq_zero_iff {a b : UInt8} : squaredDifference a b = 0 ↔ a = b := by
  constructor
  · intro h
    have hz : (a.toNat - b.toNat) + (b.toNat - a.toNat) = 0 := by
      rcases Nat.mul_eq_zero.1 h with h | h <;> exact h
    exact UInt8.toNat_inj.1 (by omega)
  · rintro rfl
    simp [squaredDifference]

/-- An image has no error against itself. -/
theorem squaredError_self (i : Image) : squaredError i i = 0 := by
  have none : ∀ bytes : List UInt8, ∀ sum,
      (List.zipWith squaredDifference bytes bytes).foldl (· + ·) sum = sum := by
    intro bytes
    induction bytes with
    | nil => exact fun _ => rfl
    | cons b bytes ih =>
      intro sum
      rw [List.zipWith_cons_cons, List.foldl_cons, squaredDifference_eq_zero_iff.2 rfl]
      exact ih sum
  exact none i.bytes 0

/-- So its precision against itself is the greatest for its size. -/
theorem compare_self {i : Image} (pixels : i.isEmpty = false) :
    i.compare i = .measured i.width i.height 0 := by
  rw [compare, if_neg (by simp [pixels]), squaredError_self]

end Image

namespace Precision

/-- Twice the greatest sum of squared differences between images of a size: four channels per
pixel, each at most `255 * 255`. -/
def scale (width height : Nat) : Nat := width * height * 4 * 255 * 255 * 2

/-- The precision in bits. -/
def bits : Precision → Float
  | incomparable => 0
  | measured width height error =>
    let numerator := (UInt64.ofNat error).toFloat * 2 + 1
    let pixels := (UInt64.ofNat width).toFloat * (UInt64.ofNat height).toFloat
    let denominator := pixels * 4 * 255 * 255 * 2
    Float.neg (numerator / denominator).log2

end Precision

end TraceReplay
