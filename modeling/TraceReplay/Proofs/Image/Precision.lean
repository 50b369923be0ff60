import Mathlib
import TraceReplay.Proofs.Image.Pixels

/-!
# How precision measures

In exact arithmetic the precision of two images of one size falls with their error
(`Precision.strictAnti_exactBits`), so all that is said of it is said of the error: it is zero if all
pixels agree, and as great as it can be if every channel of every pixel is empty in one image and full in
the other (`Image.pixelError_eq_max_iff`). The sum of the error stays within 64 bits for every buffer up
to 2⁴⁸ bytes (`Image.squaredError_lt`).
-/

namespace TraceReplay

namespace Precision

/-- The precision in bits, without rounding. -/
noncomputable def exactBits : Precision → ℝ
  | incomparable => 0
  | measured width height error => -Real.logb 2 ((error * 2 + 1) / scale width height)

/-- The precision in bits if the error is zero. -/
noncomputable def most (width height : ℕ) : ℝ := Real.logb 2 (scale width height)

/-- The precision in bits if the error is half of the scale. -/
noncomputable def least (width height : ℕ) : ℝ :=
  Real.logb 2 (scale width height / (scale width height + 1))

variable {width height error : ℕ}

theorem exactBits_measured :
    (measured width height error).exactBits =
      Real.logb 2 (scale width height / (2 * error + 1)) := by
  rw [exactBits, ← Real.logb_inv, inv_div, mul_comm (error : ℝ)]

theorem scale_pos (columns : 0 < width) (rows : 0 < height) : 0 < scale width height := by
  unfold scale
  positivity

/-- The more error, the less precision. -/
theorem strictAnti_exactBits (some : 0 < scale width height) :
    StrictAnti fun error => (measured width height error).exactBits := by
  intro e e' less
  have top : (0 : ℝ) < scale width height := by exact_mod_cast some
  have grows : (2 * e + 1 : ℝ) < 2 * e' + 1 := by exact_mod_cast (by omega : 2 * e + 1 < 2 * e' + 1)
  simp only [exactBits_measured]
  apply Real.logb_lt_logb one_lt_two
  · positivity
  · exact div_lt_div_of_pos_left top (by positivity) grows

theorem exactBits_zero : (measured width height 0).exactBits = most width height := by
  rw [exactBits_measured, most]
  norm_num

theorem exactBits_half (half : 2 * error = scale width height) :
    (measured width height error).exactBits = least width height := by
  have cast : (2 * error : ℝ) = scale width height := by exact_mod_cast half
  rw [exactBits_measured, cast, least]

/-- The least precision is below zero, but not by much. -/
theorem least_between (some : 0 < scale width height) :
    -(2 / scale width height : ℝ) < least width height ∧ least width height < 0 := by
  have top : (0 : ℝ) < scale width height := by exact_mod_cast some
  rw [least]
  generalize (scale width height : ℝ) = d at top
  constructor
  -- the natural logarithm is below its tangent, and a bit is more than half of its unit
  · have near : Real.log (1 + 1 / d) ≤ 1 / d := by
      have := Real.log_le_sub_one_of_pos (by positivity : 0 < 1 + 1 / d)
      linarith
    have two : (1 / 2 : ℝ) < Real.log 2 := by
      have := Real.log_two_gt_d9
      linarith
    have flip : d / (d + 1) = (1 + 1 / d)⁻¹ := by
      field_simp
    rw [flip, Real.logb_inv, neg_lt_neg_iff, Real.logb, div_lt_iff₀ (by positivity)]
    calc Real.log (1 + 1 / d) ≤ 1 / d := near
      _ = 2 / d * (1 / 2) := by ring
      _ < 2 / d * Real.log 2 := by gcongr
  · apply Real.logb_neg one_lt_two (by positivity)
    rw [div_lt_one (by positivity)]
    linarith

end Precision

namespace Image

/-- The precision of an image against a reference, without rounding. -/
noncomputable def precision (image reference : Image) : ℝ := (image.compare reference).exactBits

/-- How far two bytes are apart. -/
def distance (u v : UInt8) : ℕ := ((u.toNat : ℤ) - v.toNat).natAbs

/-- In each channel one of the colours is full where the other has nothing. -/
def Opposite (p q : Color) : Prop := List.Forall₂ (fun u v => distance u v = 255) p.bytes q.bytes

/-- Add to a word of 64 bits, if the sum fits. -/
def addToWord? (sum term : ℕ) : Option ℕ :=
  if sum + term < UInt64.size then some (sum + term) else none

/-- The error as the sum of the squares of the signed differences, in a word of 64 bits. -/
def wordError? (a b : Image) : Option ℕ :=
  (List.zipWith square a.bytes b.bytes).foldlM addToWord? 0
where
  square (u v : UInt8) : ℕ :=
    let delta : ℤ := u.toNat - v.toNat
    (delta * delta).toNat

section Bytes

variable (u v : UInt8)

theorem distance_le : distance u v ≤ 255 := by
  have := u.toNat_lt
  have := v.toNat_lt
  unfold distance
  omega

theorem squaredDifference_eq : squaredDifference u v = distance u v * distance u v := by
  have apart : u.toNat - v.toNat + (v.toNat - u.toNat) = distance u v := by
    unfold distance
    omega
  simp only [squaredDifference, apart]

theorem squaredDifference_le : squaredDifference u v ≤ 255 * 255 := by
  rw [squaredDifference_eq]
  exact Nat.mul_le_mul (distance_le u v) (distance_le u v)

theorem squaredDifference_eq_max_iff : squaredDifference u v = 255 * 255 ↔ distance u v = 255 := by
  rw [squaredDifference_eq]
  exact Nat.mul_self_inj

/-- The sign of a difference does not matter for its square. -/
theorem square_eq : wordError?.square u v = squaredDifference u v := by
  rw [wordError?.square, squaredDifference_eq, ← Int.natAbs_mul_self' (u.toNat - v.toNat : ℤ)]
  rfl

end Bytes

section Sums

variable {α β : Type} {f : α → β → ℕ} {m : ℕ} {xs : List α} {ys : List β}

theorem sum_zipWith_le (le : ∀ x y, f x y ≤ m) (same : xs.length = ys.length) :
    (List.zipWith f xs ys).sum ≤ xs.length * m := by
  induction xs generalizing ys with
  | nil => exact Nat.zero_le _
  | cons x xs ih =>
    cases ys with
    | nil => cases same
    | cons y ys =>
      have first := le x y
      have others := ih (Nat.succ.inj same)
      rw [List.zipWith_cons_cons, List.sum_cons, List.length_cons, Nat.succ_mul]
      omega

/-- A sum of bounded terms is as great as it can be if every term is. -/
theorem sum_zipWith_eq_iff (le : ∀ x y, f x y ≤ m) (same : xs.length = ys.length) :
    (List.zipWith f xs ys).sum = xs.length * m ↔ List.Forall₂ (fun x y => f x y = m) xs ys := by
  induction xs generalizing ys with
  | nil =>
    cases ys with
    | nil => simp
    | cons => cases same
  | cons x xs ih =>
    cases ys with
    | nil => cases same
    | cons y ys =>
      have first := le x y
      have others := sum_zipWith_le le (Nat.succ.inj same)
      rw [List.forall₂_cons, ← ih (Nat.succ.inj same), List.zipWith_cons_cons, List.sum_cons,
        List.length_cons, Nat.succ_mul]
      omega

theorem foldlM_addToWord?_eq {sum : ℕ} {terms : List ℕ} (fits : sum + terms.sum < UInt64.size) :
    terms.foldlM addToWord? sum = some (sum + terms.sum) := by
  induction terms generalizing sum with
  | nil => rfl
  | cons term terms ih =>
    rw [List.sum_cons, ← Nat.add_assoc] at fits ⊢
    have now : addToWord? sum term = some (sum + term) := if_pos (by omega)
    rw [List.foldlM_cons, now]
    exact ih fits

end Sums

theorem colorError_le (p q : Color) : colorError p q ≤ 4 * (255 * 255) :=
  sum_zipWith_le squaredDifference_le rfl

theorem colorError_eq_max_iff (p q : Color) : colorError p q = 4 * (255 * 255) ↔ Opposite p q := by
  have same : p.bytes.length = q.bytes.length := rfl
  have greatest := sum_zipWith_eq_iff squaredDifference_le same
  simp only [squaredDifference_eq_max_iff] at greatest
  exact greatest

variable {a b : Image} {width height : ℕ}

theorem pixelError_le (sameWidth : a.width = b.width) (sameHeight : a.height = b.height) :
    2 * pixelError a b ≤ Precision.scale a.width a.height := by
  have bound := sum_zipWith_le colorError_le (size_pixels_eq sameWidth sameHeight)
  rw [Array.length_toList, a.size_eq] at bound
  unfold Precision.scale pixelError
  omega

/-- Only images with opposite pixels have as great an error as there can be. -/
theorem pixelError_eq_max_iff (sameWidth : a.width = b.width) (sameHeight : a.height = b.height) :
    2 * pixelError a b = Precision.scale a.width a.height ↔
      ∀ x y p q, a.pixel? x y = some p → b.pixel? x y = some q → Opposite p q := by
  have greatest := sum_zipWith_eq_iff colorError_le (size_pixels_eq sameWidth sameHeight)
  rw [Array.length_toList, a.size_eq] at greatest
  simp only [colorError_eq_max_iff] at greatest
  rw [← forall_pixels_iff sameWidth sameHeight, ← greatest]
  unfold Precision.scale pixelError
  omega

theorem squaredError_comm (a b : Image) : squaredError a b = squaredError b a := by
  rw [squaredError, squaredError, List.zipWith_comm]
  simp only [squaredDifference_comm]

theorem compare_of_apart
    (apart : a.width ≠ b.width ∨ a.height ≠ b.height ∨ a.width = 0 ∨ a.height = 0) :
    a.compare b = .incomparable := by
  rw [compare, if_pos]
  simpa only [isEmpty, Bool.or_eq_true, beq_iff_eq] using apart

theorem isEmpty_eq_false (columns : 0 < a.width) (rows : 0 < a.height) : a.isEmpty = false := by
  simp only [isEmpty, Bool.or_eq_false_iff, beq_eq_false_iff_ne]
  omega

theorem compare_comm (a b : Image) : a.compare b = b.compare a := by
  by_cases apart : a.width ≠ b.width ∨ a.height ≠ b.height ∨ a.width = 0 ∨ a.height = 0
  · rw [compare_of_apart apart, compare_of_apart (by omega)]
  · have sameWidth : a.width = b.width := by omega
    have sameHeight : a.height = b.height := by omega
    have there := compare_of_pixels sameWidth sameHeight (isEmpty_eq_false (by omega) (by omega))
    have back := compare_of_pixels sameWidth.symm sameHeight.symm
      (isEmpty_eq_false (by omega) (by omega))
    rw [there, back, squaredError_comm, sameWidth, sameHeight]

/-- The image has a size, and its buffer is exactly as long as it needs. -/
structure Exact (width height : ℕ) (i : Image) : Prop where
  width_eq : i.width = width
  height_eq : i.height = height
  length_eq : i.bytes.length = byteCount width height

theorem eq_of_pixel?_solid {x y : ℕ} {p color : Color}
    (found : (solid width height color).pixel? x y = some p) : p = color := by
  obtain ⟨_, _, found⟩ := pixel?_eq_some_iff.1 found
  obtain ⟨_, rfl⟩ := Array.getElem?_eq_some_iff.1 found
  exact Array.getElem_replicate ..

theorem exact_solid (width height : ℕ) (color : Color) : Exact width height (solid width height color) := by
  refine ⟨rfl, rfl, ?_⟩
  exact (length_bytes_eq_iff _).2 rfl

section Exact

variable (exactA : Exact width height a) (exactB : Exact width height b)
include exactA exactB

theorem squaredError_of_exact : squaredError a b = pixelError a b := by
  obtain ⟨rfl, rfl, length⟩ := exactA
  obtain ⟨sameWidth, sameHeight, length'⟩ := exactB
  rw [← sameWidth, ← sameHeight] at length'
  rw [squaredError_eq sameWidth.symm sameHeight.symm, (length_bytes_eq_iff a).1 length,
    (length_bytes_eq_iff b).1 length']
  rfl

/-- The error is at most half of the scale. -/
theorem squaredError_le : 2 * squaredError a b ≤ Precision.scale width height := by
  rw [squaredError_of_exact exactA exactB]
  obtain ⟨rfl, rfl, _⟩ := exactA
  exact pixelError_le exactB.width_eq.symm exactB.height_eq.symm

theorem squaredError_eq_max_iff :
    2 * squaredError a b = Precision.scale width height ↔
      ∀ x y p q, a.pixel? x y = some p → b.pixel? x y = some q → Opposite p q := by
  rw [squaredError_of_exact exactA exactB]
  obtain ⟨rfl, rfl, _⟩ := exactA
  exact pixelError_eq_max_iff exactB.width_eq.symm exactB.height_eq.symm

theorem squaredError_eq_zero_iff_pixels :
    squaredError a b = 0 ↔ ∀ x y, a.pixel? x y = b.pixel? x y := by
  rw [squaredError_of_exact exactA exactB]
  obtain ⟨rfl, rfl, _⟩ := exactA
  exact pixelError_eq_zero_iff exactB.width_eq.symm exactB.height_eq.symm

/-- Up to 2⁴⁸ bytes, a word of 64 bits holds the error. -/
theorem squaredError_lt (short : byteCount width height ≤ 2 ^ 48) :
    squaredError a b < UInt64.size := by
  have half := squaredError_le exactA exactB
  unfold Precision.scale at half
  unfold byteCount at short
  rw [UInt64.size]
  omega

theorem wordError?_eq (short : byteCount width height ≤ 2 ^ 48) :
    wordError? a b = some (squaredError a b) := by
  have sum : squaredError a b = 0 + (List.zipWith squaredDifference a.bytes b.bytes).sum :=
    List.sum_eq_foldl.symm.trans (Nat.zero_add _).symm
  have fits := squaredError_lt exactA exactB short
  simp only [wordError?, funext₂ square_eq]
  rw [sum] at fits ⊢
  exact foldlM_addToWord?_eq fits

theorem precision_eq (columns : 0 < width) (rows : 0 < height) :
    a.precision b = (Precision.measured width height (squaredError a b)).exactBits := by
  obtain ⟨rfl, rfl, _⟩ := exactA
  rw [precision, compare_of_pixels exactB.width_eq.symm exactB.height_eq.symm
    (isEmpty_eq_false columns rows)]

end Exact

/-- How the precision of two images follows from their error. -/
structure Measures (width height : ℕ) (a b : Image) : Prop where
  value : a.precision b = Real.logb 2 (Precision.scale width height / (2 * squaredError a b + 1))
  bounded : 2 * squaredError a b ≤ Precision.scale width height
  counted : byteCount width height ≤ 2 ^ 48 → wordError? a b = some (squaredError a b)
  greatest : a.precision b ≤ Precision.most width height
  /-- Only images with the same pixels have the greatest precision. -/
  perfect : a.precision b = Precision.most width height ↔
    ∀ x y, a.pixel? x y = b.pixel? x y
  least : Precision.least width height ≤ a.precision b
  /-- Only images with opposite pixels have the least. -/
  worst : a.precision b = Precision.least width height ↔
    ∀ x y p q, a.pixel? x y = some p → b.pixel? x y = some q → Opposite p q

section Sized

variable (columns : 0 < width) (rows : 0 < height)
include columns rows

theorem measures (exactA : Exact width height a) (exactB : Exact width height b) :
    Measures width height a b := by
  have measured := precision_eq exactA exactB columns rows
  have falls := Precision.strictAnti_exactBits (Precision.scale_pos columns rows)
  have half := squaredError_le exactA exactB
  have two_mul : 2 * (width * height * 4 * 255 * 255) = Precision.scale width height := Nat.mul_comm ..
  have top : (Precision.measured width height 0).exactBits = Precision.most width height :=
    Precision.exactBits_zero
  have bottom := Precision.exactBits_half two_mul
  constructor
  case value => rw [measured, Precision.exactBits_measured]
  case bounded => exact half
  case counted => exact wordError?_eq exactA exactB
  case greatest =>
    rw [measured, ← top]
    exact falls.antitone (Nat.zero_le _)
  case perfect =>
    rw [measured, ← top, ← squaredError_eq_zero_iff_pixels exactA exactB]
    exact falls.injective.eq_iff
  case least =>
    rw [measured, ← bottom]
    exact falls.antitone (by omega)
  case worst =>
    rw [measured, ← bottom, ← squaredError_eq_max_iff exactA exactB, ← two_mul,
      Nat.mul_right_inj (by decide)]
    exact falls.injective.eq_iff

theorem precision_lt_iff {c d : Image} (exactA : Exact width height a) (exactB : Exact width height b)
    (exactC : Exact width height c) (exactD : Exact width height d) :
    c.precision d < a.precision b ↔ squaredError a b < squaredError c d := by
  rw [precision_eq exactA exactB columns rows, precision_eq exactC exactD columns rows]
  exact (Precision.strictAnti_exactBits (Precision.scale_pos columns rows)).lt_iff_gt

/-- White has the least precision against black without alpha. -/
theorem exists_worst :
    ∃ a b, Exact width height a ∧ Exact width height b ∧
      a.precision b = Precision.least width height := by
  have white := exact_solid width height ⟨255, 255, 255, 255⟩
  have black := exact_solid width height Color.clear
  refine ⟨_, _, white, black, (measures columns rows white black).worst.2 ?_⟩
  intro x y p q foundW foundB
  rw [eq_of_pixel?_solid foundW, eq_of_pixel?_solid foundB]
  exact .cons rfl (.cons rfl (.cons rfl (.cons rfl .nil)))

end Sized

/-- Precision is symmetric, and zero where there is nothing to compare. Between images of one size and
their reference it falls as the error grows, from that of equal pixels to that of opposite ones. -/
theorem precision_sound :
    (∀ a b : Image, a.precision b = b.precision a) ∧
    (∀ a b : Image, a.width ≠ b.width ∨ a.height ≠ b.height ∨ a.width = 0 ∨ a.height = 0 →
      a.precision b = 0) ∧
    ∀ width height : ℕ, 0 < width → 0 < height →
      (∀ a b, Exact width height a → Exact width height b → Measures width height a b) ∧
      (∀ a b c d, Exact width height a → Exact width height b → Exact width height c →
        Exact width height d → (c.precision d < a.precision b ↔ squaredError a b < squaredError c d)) ∧
      (∀ a, Exact width height a → a.precision a = Precision.most width height) ∧
      (∃ a b, Exact width height a ∧ Exact width height b ∧
        a.precision b = Precision.least width height) ∧
      -(2 / Precision.scale width height : ℝ) < Precision.least width height ∧
      Precision.least width height < 0 := by
  refine ⟨fun a b => congrArg _ (compare_comm a b), ?_, ?_⟩
  · intro a b apart
    rw [precision, compare_of_apart apart, Precision.exactBits]
  · intro width height columns rows
    refine ⟨fun _ _ => measures columns rows, fun _ _ _ _ => precision_lt_iff columns rows, ?_,
      exists_worst columns rows, Precision.least_between (Precision.scale_pos columns rows)⟩
    intro a exactA
    exact (measures columns rows exactA exactA).perfect.2 fun _ _ => rfl

end Image

end TraceReplay
