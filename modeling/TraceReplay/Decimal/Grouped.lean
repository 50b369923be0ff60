/-!
# Numbers in groups of three digits

Digits are counted from the right, and a comma stands between each three: `1,234,567`.
-/

namespace TraceReplay.Decimal

/-- Put a comma before every third digit but the first, the digits given from the right. -/
def groupReversed : List Char → List Char
  | a :: b :: c :: d :: ds => a :: b :: c :: ',' :: groupReversed (d :: ds)
  | ds => ds

/-- The digits of a number with commas between groups of three. -/
def groupDigits (n : Nat) : List Char := (groupReversed (Nat.toDigits 10 n).reverse).reverse

/-- The text of a number with commas between groups of three digits. -/
def grouped (n : Nat) : String := String.ofList (groupDigits n)

/-- Commas removed, the digits are left. -/
theorem filter_groupReversed (ds : List Char) (h : ',' ∉ ds) :
    (groupReversed ds).filter (fun c => c != ',') = ds := by
  fun_induction groupReversed ds with
  | case1 a b c d ds ih =>
    simp only [List.mem_cons, not_or] at h
    obtain ⟨ha, hb, hc, hd⟩ := h
    have ih := ih (by simpa using hd)
    simp [Ne.symm ha, Ne.symm hb, Ne.symm hc, ih]
  | case2 ds =>
    refine List.filter_eq_self.2 fun x hx => ?_
    simp only [bne_iff_ne, ne_eq]
    exact fun he => h (he ▸ hx)

end TraceReplay.Decimal
