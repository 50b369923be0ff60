import TraceReplay.Decimal.Grouped
import TraceReplay.Proofs.Text.Cutting

/-!
# The groups of a number

The commas in the text of a number cut its decimal digits into groups of three, of which only the first may be
shorter (`grouped_faithful`). A group ends behind each third digit from the right, so both the groups and the
text that is built back to front are found by the recursion of `groupReversed`, three digits at a time.
-/

namespace TraceReplay.Decimal

/-- Put digits, given from the right, one by one in front of a text that has `count` digits already, each after
a comma if these are whole groups. -/
def prepend (count : Nat) (text : List Char) : List Char → List Char
  | [] => text
  | d :: ds => prepend (count + 1) (d :: if 0 < count ∧ count % 3 = 0 then ',' :: text else text) ds

/-- The decimal digits of a number. -/
structure IsDecimal (n : Nat) (ds : List Char) : Prop where
  nonempty : ds ≠ []
  digits : ∀ d ∈ ds, d.isDigit = true
  value : Nat.ofDigitChars 10 ds 0 = n
  /-- Zero has one digit, and no other number begins with a zero. -/
  leading : ds.head? = some '0' → ds = ['0']

/-- Groups of three characters, the first of which may be shorter. -/
def InThrees (groups : List (List Char)) : Prop :=
  ∃ first rest, groups = first :: rest ∧ 1 ≤ first.length ∧ first.length ≤ 3 ∧
    ∀ group ∈ rest, group.length = 3

variable {ds : List Char} {n : Nat}

/-- Three digits that begin a group leave the count of digits between groups. -/
theorem prepend_three {count : Nat} (whole : count % 3 = 0) (text : List Char) (a b c : Char) :
    prepend count text (a :: b :: c :: ds) =
      prepend (count + 3) (c :: b :: a :: if 0 < count then ',' :: text else text) ds := by
  have second : ¬ (0 < count + 1 ∧ (count + 1) % 3 = 0) := by omega
  have third : ¬ (0 < count + 1 + 1 ∧ (count + 1 + 1) % 3 = 0) := by omega
  rw [prepend, prepend, prepend, if_neg second, if_neg third]
  simp only [whole, and_true]

/-- Between groups, the digits that follow are put in front in groups. -/
theorem prepend_eq {count : Nat} (whole : count % 3 = 0) (nonempty : ds ≠ []) (text : List Char) :
    prepend count text ds =
      (groupReversed ds).reverse ++ if 0 < count then ',' :: text else text := by
  fun_induction groupReversed ds generalizing count text with
  | case1 a b c d ds ih =>
    rw [prepend_three whole, ih (by omega) (by simp), if_pos (by omega)]
    simp
  | case2 ds short =>
    -- At most three digits: the first finds whole groups in front of it, the others do not.
    have second : ¬ (0 < count + 1 ∧ (count + 1) % 3 = 0) := by omega
    rcases ds with _ | ⟨a, _ | ⟨b, _ | ⟨c, _ | ⟨d, ds⟩⟩⟩⟩
    · exact absurd rfl nonempty
    · simp [prepend, whole]
    · rw [prepend, prepend, prepend, if_neg second]
      simp [whole]
    · rw [prepend_three whole]
      simp [prepend]
    · exact absurd rfl (short a b c d ds)

/-- The commas cut reversed groups where they end. -/
theorem inThrees_groupReversed (nonempty : ds ≠ []) (free : ',' ∉ ds) :
    InThrees (Text.pieces ',' (groupReversed ds).reverse) := by
  fun_induction groupReversed ds with
  | case1 a b c d ds ih =>
    simp only [List.mem_cons, not_or] at free
    obtain ⟨ha, hb, hc, free⟩ := free
    obtain ⟨first, rest, split, short, long, threes⟩ := ih (by simp) (by simpa using free)
    have last : Text.pieces ',' [c, b, a] = [[c, b, a]] := Text.pieces_of_notMem (by simp [ha, hb, hc])
    refine ⟨first, rest ++ [[c, b, a]], ?_, short, long, ?_⟩
    · have reversed : (a :: b :: c :: ',' :: groupReversed (d :: ds)).reverse =
          (groupReversed (d :: ds)).reverse ++ ',' :: [c, b, a] := by simp
      rw [reversed, Text.pieces_append_cons, split, last]
      rfl
    · intro group mem
      rcases List.mem_append.1 mem with mem | mem
      · exact threes group mem
      · rw [List.mem_singleton.1 mem]
        rfl
  | case2 ds short =>
    have one : Text.pieces ',' ds.reverse = [ds.reverse] := Text.pieces_of_notMem (by simpa using free)
    refine ⟨ds.reverse, [], one, ?_, ?_, by simp⟩
    · rw [List.length_reverse]
      exact List.length_pos_iff.2 nonempty
    · rcases ds with _ | ⟨a, _ | ⟨b, _ | ⟨c, _ | ⟨d, ds⟩⟩⟩⟩
      · simp
      · simp
      · simp
      · simp
      · exact absurd rfl (short a b c d ds)

/-- No number but zero begins with a zero. -/
theorem eq_zero_of_head?_toDigits (zero : (Nat.toDigits 10 n).head? = some '0') : n = 0 := by
  induction n using Nat.strongRecOn with
  | ind n ih =>
    rw [Nat.toDigits_eq_if (by decide)] at zero
    split at zero
    · rename_i small
      have digits : ∀ k < 10, Nat.digitChar k = '0' → k = 0 := by decide
      exact digits n small (by simpa using zero)
    · rename_i large
      obtain ⟨d, rest, front⟩ := List.exists_cons_of_ne_nil (Nat.toDigits_ne_nil (n := n / 10) (b := 10))
      have := ih (n / 10) (by omega) (by simpa [front] using zero)
      omega

theorem isDecimal_toDigits (n : Nat) : IsDecimal n (Nat.toDigits 10 n) where
  nonempty := Nat.toDigits_ne_nil
  digits := fun _ mem => Nat.isDigit_of_mem_toDigits (by decide) (by decide) mem
  value := Nat.ofDigitChars_toDigits (by decide) (by decide)
  leading zero := by
    rw [eq_zero_of_head?_toDigits zero]
    rfl

theorem comma_notMem_toDigits (n : Nat) : ',' ∉ Nat.toDigits 10 n := by
  intro mem
  have digit := (isDecimal_toDigits n).digits ',' mem
  revert digit
  decide

/-- The digits are left when the commas are taken out. -/
theorem filter_groupDigits (n : Nat) : (groupDigits n).filter (· != ',') = Nat.toDigits 10 n := by
  have free : ',' ∉ (Nat.toDigits 10 n).reverse := by simpa using comma_notMem_toDigits n
  rw [groupDigits, List.filter_reverse, filter_groupReversed _ free, List.reverse_reverse]

/-- A text that is cut into groups has no comma at its ends, since no group is empty. -/
theorem InThrees.ends {text : List Char} (h : InThrees (Text.pieces ',' text)) :
    text.head? ≠ some ',' ∧ text.getLast? ≠ some ',' := by
  obtain ⟨first, rest, split, short, -, threes⟩ := h
  constructor
  · intro begins
    obtain ⟨after, rfl⟩ := List.head?_eq_some_iff.1 begins
    rw [Text.pieces, if_pos rfl] at split
    rw [← (List.cons.inj split).1] at short
    simp at short
  · intro ends
    obtain ⟨before, rfl⟩ := List.getLast?_eq_some_iff.1 ends
    rw [Text.pieces_append_cons] at split
    have last : [] ∈ first :: rest := by
      rw [← split]
      simp [Text.pieces]
    rcases List.mem_cons.1 last with rfl | mem
    · simp at short
    · have := threes [] mem
      simp at this

/-- How a text stands for a number. -/
structure StandsFor (text : List Char) (n : Nat) : Prop where
  digits : IsDecimal n (text.filter (· != ','))
  ends : text.head? ≠ some ',' ∧ text.getLast? ≠ some ','
  groups : InThrees (text.splitOn ',')
  /-- It is what comes of putting the digits in front of nothing, the last one first. -/
  backToFront : text = prepend 0 [] (Nat.toDigits 10 n).reverse

/-- The text of a number is its digits in groups of three, and tells the number. -/
theorem grouped_faithful :
    (∀ n, StandsFor (grouped n).toList n) ∧ Function.Injective grouped := by
  constructor
  · intro n
    have text : (grouped n).toList = groupDigits n := String.toList_ofList
    have nonempty : (Nat.toDigits 10 n).reverse ≠ [] := by simp
    have free : ',' ∉ (Nat.toDigits 10 n).reverse := by simpa using comma_notMem_toDigits n
    have groups := inThrees_groupReversed nonempty free
    rw [text]
    constructor
    case digits =>
      rw [filter_groupDigits]
      exact isDecimal_toDigits n
    case ends => exact groups.ends
    case groups =>
      rw [← Text.pieces_eq_splitOn]
      exact groups
    case backToFront =>
      rw [prepend_eq rfl nonempty]
      simp [groupDigits]
  · intro m n same
    have digits : Nat.toDigits 10 m = Nat.toDigits 10 n := by
      rw [← filter_groupDigits, ← filter_groupDigits, String.ofList_inj.1 same]
    rw [← (isDecimal_toDigits m).value, digits, (isDecimal_toDigits n).value]

/-- Of seven digits the first is a group of its own. -/
example : grouped 1234567 = "1,234,567" ∧ grouped 999 = "999" := by decide

end TraceReplay.Decimal
