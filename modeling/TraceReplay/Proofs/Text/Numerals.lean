import Mathlib.Data.List.Basic
import TraceReplay.Text.Numeral

/-!
# Which texts are numerals

A text is read as a number if it spells it (`Numeral.Spells`) and the number is in range, and otherwise it is
not read (`parseNat_eq_ok_iff`, `parseWord_eq_ok_iff`).
-/

namespace TraceReplay.Numeral

variable {bound greatest n acc : Nat} {s ds : List Char} {c : Char}

theorem digit?_of_isDigit (digit : c.isDigit = true) : digit? c = some (c.toNat - 48) := by
  refine if_pos ?_
  simpa [Char.isDigit, Char.le_def] using digit

theorem digit?_eq_none_iff : digit? c = none ↔ c.isDigit = false := by
  unfold digit?
  simp [Char.isDigit, Char.le_def]

theorem le_ofDigitChars (ds : List Char) (acc : Nat) : acc ≤ Nat.ofDigitChars 10 ds acc := by
  induction ds generalizing acc with
  | nil => exact Nat.le_refl acc
  | cons d ds ih =>
    rw [Nat.ofDigitChars_cons]
    have := ih (10 * acc + (d.toNat - '0'.toNat))
    omega

/-- Digits are read if their value, which no digit lowers, stays in range. -/
theorem digits_eq_ok_iff {overflow : NumeralError} (inRange : acc ≤ bound) :
    digits bound overflow acc ds = .ok n ↔
      (∀ d ∈ ds, d.isDigit = true) ∧ Nat.ofDigitChars 10 ds acc = n ∧ n ≤ bound := by
  induction ds generalizing acc with
  | nil =>
    rw [digits, Except.ok.injEq, Nat.ofDigitChars_nil]
    constructor
    · rintro rfl
      exact ⟨fun _ => nofun, rfl, inRange⟩
    · exact fun spelled => spelled.2.1
  | cons d ds ih =>
    rw [digits, Nat.ofDigitChars_cons, List.forall_mem_cons]
    cases digit : d.isDigit with
    | false => simp [digit?_eq_none_iff.2 digit]
    | true =>
      rw [digit?_of_isDigit digit]
      simp only [true_and]
      split
      · rename_i tooLarge
        have grows := le_ofDigitChars ds (10 * acc + (d.toNat - 48))
        simp only [reduceCtorEq, false_iff]
        rintro ⟨-, rfl, small⟩
        exact absurd (Nat.lt_of_lt_of_le tooLarge (Nat.le_trans grows small)) (Nat.lt_irrefl bound)
      · rename_i small
        exact ih (Nat.le_of_not_lt small)

theorem not_isDigit_plus : ('+' : Char).isDigit = false := by decide

/-- Without a plus sign. -/
theorem spells_iff_of_ne_plus (unsigned : ∀ ds, s ≠ '+' :: ds) :
    Spells s n ↔ s ≠ [] ∧ (∀ d ∈ s, d.isDigit = true) ∧ Nat.ofDigitChars 10 s 0 = n := by
  constructor
  · rintro ⟨ds, rfl | rfl, some, digits, value⟩
    · exact ⟨some, digits, value⟩
    · exact absurd rfl (unsigned ds)
  · rintro ⟨some, digits, value⟩
    exact ⟨s, .inl rfl, some, digits, value⟩

/-- With a plus sign. -/
theorem spells_plus_iff :
    Spells ('+' :: ds) n ↔ ds ≠ [] ∧ (∀ d ∈ ds, d.isDigit = true) ∧ Nat.ofDigitChars 10 ds 0 = n := by
  constructor
  · rintro ⟨ds', rfl | same, some, digits, value⟩
    · have plus := digits '+' List.mem_cons_self
      rw [not_isDigit_plus] at plus
      cases plus
    · obtain rfl := (List.cons.inj same).2
      exact ⟨some, digits, value⟩
  · rintro ⟨some, digits, value⟩
    exact ⟨ds, .inr rfl, some, digits, value⟩

theorem parseNat_eq_ok_iff : parseNat greatest s = .ok n ↔ Spells s n ∧ n ≤ greatest := by
  unfold parseNat
  split
  · simp [spells_iff_of_ne_plus]
  · simp [spells_plus_iff]
  · rename_i ds some
    rw [digits_eq_ok_iff (Nat.zero_le _), spells_plus_iff]
    have nonempty : ds ≠ [] := fun empty => some (by rw [empty])
    simp [nonempty, and_assoc]
  · rename_i nonempty _ unsigned
    rw [digits_eq_ok_iff (Nat.zero_le _), spells_iff_of_ne_plus fun ds same => unsigned ds same]
    simp [and_assoc, show s ≠ [] from nonempty]

/-- A word is read if the text spells it. -/
theorem parseWord_eq_ok_iff {w : UInt32} : parseWord s = .ok w ↔ Spells s w.toNat := by
  rw [parseWord]
  constructor
  · intro read
    cases parsed : parseNat (UInt32.size - 1) s with
    | error e =>
      rw [parsed] at read
      cases read
    | ok n =>
      rw [parsed] at read
      obtain ⟨spells, small⟩ := parseNat_eq_ok_iff.1 parsed
      obtain rfl : UInt32.ofNat n = w := Except.ok.inj read
      rw [UInt32.toNat_ofNat_of_lt' (Nat.lt_of_le_pred (by decide) small)]
      exact spells
  · intro spells
    have small : w.toNat ≤ UInt32.size - 1 := Nat.le_pred_of_lt w.toNat_lt
    rw [parseNat_eq_ok_iff.2 ⟨spells, small⟩]
    exact congrArg Except.ok UInt32.ofNat_toNat

/-- The other texts are refused. -/
theorem exists_parseWord_eq_error (misspelled : ∀ w : UInt32, ¬ Spells s w.toNat) :
    ∃ e, parseWord s = .error e := by
  cases parsed : parseWord s with
  | error e => exact ⟨e, rfl⟩
  | ok w => exact absurd (parseWord_eq_ok_iff.1 parsed) (misspelled w)

/-- The digits of a number spell it. -/
theorem spells_toString (n : Nat) : Spells (toString n).toList n := by
  have digits : (toString n).toList = Nat.toDigits 10 n := Nat.toList_repr
  refine ⟨_, .inl digits, Nat.toDigits_ne_nil, fun d mem => ?_, ?_⟩
  · exact Nat.isDigit_of_mem_toDigits (by decide) (by decide) mem
  · exact Nat.ofDigitChars_toDigits (by decide) (by decide)

/-- Only digits and the plus sign spell numbers. -/
theorem Spells.eq_plus_or_isDigit (h : Spells s n) (mem : c ∈ s) : c = '+' ∨ c.isDigit = true := by
  obtain ⟨ds, rfl | rfl, -, digits, -⟩ := h
  · exact .inr (digits c mem)
  · rcases List.mem_cons.1 mem with rfl | mem
    · exact .inl rfl
    · exact .inr (digits c mem)

theorem Spells.ne_nil (h : Spells s n) : s ≠ [] := by
  obtain ⟨ds, rfl | rfl, some, -, -⟩ := h
  · exact some
  · exact List.cons_ne_nil _ _

end TraceReplay.Numeral
