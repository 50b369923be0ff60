/-!
# Numbers of a fixed width

The low digits of a number in a base up to sixteen, padded with zeros in front. All numbers written
with one width have texts of one length, so their texts are ordered as the numbers are.
-/

namespace TraceReplay.Padded

/-- The capital digit of a value below sixteen. -/
def digit (n : Nat) : Char := if n < 10 then Char.ofNat (48 + n) else Char.ofNat (55 + n)

/-- The `width` low digits of a number, the most significant first. -/
def digits (base : Nat) : (width : Nat) → Nat → List Char
  | 0, _ => []
  | w + 1, n => digits base w (n / base) ++ [digit (n % base)]

/-- A 32-bit word in eight hexadecimal digits. -/
def hexWord (n : UInt32) : String := String.ofList (digits 16 8 n.toNat)

@[simp] theorem length_digits (base w n : Nat) : (digits base w n).length = w := by
  induction w generalizing n with
  | zero => rfl
  | succ w ih => simp [digits, ih]

theorem digit_inj {m n : Nat} (hm : m < 16) (hn : n < 16) (same : digit m = digit n) : m = n := by
  have all : ∀ m < 16, ∀ n < 16, digit m = digit n → m = n := by decide
  exact all m hm n hn same

/-- Each character is a digit of the base. -/
theorem exists_of_mem_digits {base w n : Nat} {c : Char} (pos : 0 < base) (mem : c ∈ digits base w n) :
    ∃ k < base, c = digit k := by
  induction w generalizing n with
  | zero => cases mem
  | succ w ih =>
    rw [digits, List.mem_append, List.mem_singleton] at mem
    rcases mem with mem | rfl
    · exact ih mem
    · exact ⟨n % base, Nat.mod_lt n pos, rfl⟩

/-- Numbers that fit into the width have different digits. -/
theorem digits_inj {base w m n : Nat} (pos : 0 < base) (small : base ≤ 16) (hm : m < Nat.pow base w)
    (hn : n < Nat.pow base w) (same : digits base w m = digits base w n) : m = n := by
  induction w generalizing m n with
  | zero => rw [Nat.lt_one_iff.1 hm, Nat.lt_one_iff.1 hn]
  | succ w ih =>
    have power : Nat.pow base (w + 1) = base * Nat.pow base w := Nat.pow_succ'
    rw [power] at hm hn
    obtain ⟨high, low⟩ := List.append_inj' same rfl
    have quotient : m / base = n / base :=
      ih (Nat.div_lt_of_lt_mul hm) (Nat.div_lt_of_lt_mul hn) high
    have remainder : m % base = n % base :=
      digit_inj (Nat.lt_of_lt_of_le (Nat.mod_lt m pos) small)
        (Nat.lt_of_lt_of_le (Nat.mod_lt n pos) small) (List.cons.inj low).1
    rw [← Nat.div_add_mod m base, ← Nat.div_add_mod n base, quotient, remainder]

end TraceReplay.Padded
