import TraceReplay.Text.Padded

/-!
# Padded numbers in order

A number whose digits fit into the width is written as these digits behind zeros (`digits_eq_leftpad`). Texts of one
length are compared from the left, and numbers by their quotients first, so the texts of numbers that fit are
ordered as the numbers are (`KeepsDigits.flatMap_lt_iff`), as characters and in every encoding that keeps the order of
the digits (`KeepsDigits`).
-/

namespace TraceReplay.Padded

variable {base w m n : Nat}

theorem digits_zero (base w : Nat) : digits base w 0 = List.replicate w '0' := by
  induction w with
  | zero => rfl
  | succ w ih =>
    rw [digits, Nat.zero_div, Nat.zero_mod, ih, List.replicate_succ']
    rfl

theorem digit_eq_digitChar (small : n < 10) : digit n = Nat.digitChar n := by
  have all : ∀ n < 10, digit n = Nat.digitChar n := by decide
  exact all n small

/-- The number in decimal digits without leading zeros, behind as many zeros as fill the width. -/
theorem digits_eq_leftpad (fits : (Nat.toDigits 10 n).length ≤ w) :
    digits 10 w n = (Nat.toDigits 10 n).leftpad w '0' := by
  induction w generalizing n with
  | zero => exact absurd (List.length_eq_zero_iff.1 (Nat.le_zero.1 fits)) Nat.toDigits_ne_nil
  | succ w ih =>
    rw [digits, digit_eq_digitChar (Nat.mod_lt n (by decide))]
    rw [Nat.toDigits_eq_if (by decide)] at fits ⊢
    split at fits
    · rename_i single
      rw [if_pos single, Nat.div_eq_of_lt single, Nat.mod_eq_of_lt single, digits_zero]
      simp [List.leftpad]
    · rename_i more
      rw [List.length_append, List.length_singleton] at fits
      rw [if_neg more, ih (Nat.le_of_succ_le_succ fits)]
      simp [List.leftpad]

/-- Numbers are compared by their quotients first. -/
theorem lt_iff_div_mod (base m n : Nat) :
    m < n ↔ m / base < n / base ∨ m / base = n / base ∧ m % base < n % base := by
  have splitM := Nat.div_add_mod m base
  have splitN := Nat.div_add_mod n base
  constructor
  · intro less
    rcases Nat.lt_or_eq_of_le (Nat.div_le_div_right (c := base) (Nat.le_of_lt less)) with quotient | same
    · exact .inl quotient
    · rw [same] at splitM
      exact .inr ⟨same, by omega⟩
  · rintro (quotient | ⟨same, remainder⟩)
    · exact Nat.lt_of_not_le fun le => Nat.not_lt.2 (Nat.div_le_div_right le) quotient
    · rw [same] at splitM
      omega

section Order

variable {α : Type} [LT α]

/-- Of texts that begin with parts of one length, these parts are compared first. -/
theorem append_lt_append_iff {xs ys xs' ys' : List α} (length : xs.length = ys.length) :
    xs ++ xs' < ys ++ ys' ↔ xs < ys ∨ xs = ys ∧ xs' < ys' := by
  induction xs generalizing ys with
  | nil =>
    obtain rfl := List.length_eq_zero_iff.1 length.symm
    simp
  | cons x xs ih =>
    cases ys with
    | nil => cases length
    | cons y ys =>
      rw [List.cons_append, List.cons_append, List.cons_lt_cons_iff, List.cons_lt_cons_iff,
        ih (Nat.succ.inj length), List.cons.injEq]
      simp only [and_or_left, or_assoc, and_assoc]

/-- An encoding of characters has the digits of a base in the order of their values, in codes of one length. -/
structure KeepsDigits (base : Nat) (encode : Char → List α) : Prop where
  length_eq : ∀ i < base, ∀ j < base, (encode (digit i)).length = (encode (digit j)).length
  lt_iff : ∀ i < base, ∀ j < base, encode (digit i) < encode (digit j) ↔ i < j

variable {encode : Char → List α}

theorem KeepsDigits.length_flatMap (keeps : KeepsDigits base encode) (pos : 0 < base) (w m n : Nat) :
    ((digits base w m).flatMap encode).length = ((digits base w n).flatMap encode).length := by
  induction w generalizing m n with
  | zero => rfl
  | succ w ih =>
    rw [digits, digits, List.flatMap_append, List.flatMap_append, List.length_append, List.length_append,
      ih (m / base) (n / base), List.flatMap_singleton, List.flatMap_singleton,
      keeps.length_eq _ (Nat.mod_lt m pos) _ (Nat.mod_lt n pos)]

/-- Numbers that fit into the width have their digits in the order of the numbers. -/
theorem KeepsDigits.flatMap_lt_iff [Std.Irrefl fun a b : α => a < b] (keeps : KeepsDigits base encode)
    (pos : 0 < base) (hm : m < Nat.pow base w) (hn : n < Nat.pow base w) :
    (digits base w m).flatMap encode < (digits base w n).flatMap encode ↔ m < n := by
  induction w generalizing m n with
  | zero =>
    rw [Nat.lt_one_iff.1 hm, Nat.lt_one_iff.1 hn]
    simp [digits]
  | succ w ih =>
    have power : Nat.pow base (w + 1) = base * Nat.pow base w := Nat.pow_succ'
    rw [power] at hm hn
    have high := ih (Nat.div_lt_of_lt_mul hm) (Nat.div_lt_of_lt_mul hn)
    have high' := ih (Nat.div_lt_of_lt_mul hn) (Nat.div_lt_of_lt_mul hm)
    -- Equal codes are no reason for an order, so they belong to equal quotients.
    have same : (digits base w (m / base)).flatMap encode = (digits base w (n / base)).flatMap encode ↔
        m / base = n / base := by
      constructor
      · intro codes
        rw [codes] at high high'
        have := mt high.2 (List.lt_irrefl _)
        have := mt high'.2 (List.lt_irrefl _)
        omega
      · intro quotient
        rw [quotient]
    have low := keeps.lt_iff _ (Nat.mod_lt m pos) _ (Nat.mod_lt n pos)
    rw [digits, digits, List.flatMap_append, List.flatMap_append,
      append_lt_append_iff (keeps.length_flatMap pos w _ _), List.flatMap_singleton, List.flatMap_singleton, high,
      same, low]
    exact (lt_iff_div_mod base m n).symm

end Order

end TraceReplay.Padded
