/-!
# Blank characters

The characters with the Unicode property `White_Space`, and trimming them off both ends of a text.
-/

namespace TraceReplay.Text

/-- The character has the property `White_Space`. -/
def isBlank (c : Char) : Bool :=
  let n := c.toNat
  (9 ≤ n && n ≤ 13) || n == 0x20 || n == 0x85 || n == 0xa0 || n == 0x1680
    || (0x2000 ≤ n && n ≤ 0x200a) || n == 0x2028 || n == 0x2029 || n == 0x202f || n == 0x205f
    || n == 0x3000

/-- The text without blanks at its start. -/
def trimStart (s : List Char) : List Char := s.dropWhile isBlank

/-- The text without blanks at its end. -/
def trimEnd (s : List Char) : List Char := (s.reverse.dropWhile isBlank).reverse

/-- The text without blanks at either end. -/
def trim (s : List Char) : List Char := trimEnd (trimStart s)

/-- Split at the first occurrence of a character, if there is one. -/
def cut? (sep : Char) : List Char → Option (List Char × List Char)
  | [] => none
  | c :: cs =>
    if c = sep then some ([], cs)
    else (cut? sep cs).map fun (before, after) => (c :: before, after)

/-- Split at every occurrence of a character; there is always at least one piece. -/
def pieces (sep : Char) : List Char → List (List Char)
  | [] => [[]]
  | c :: cs =>
    if c = sep then [] :: pieces sep cs
    else match pieces sep cs with
      | [] => [[c]]
      | p :: ps => (c :: p) :: ps

/-- The pieces of a text, as texts. -/
def parts (sep : Char) (s : String) : List String := (pieces sep s.toList).map String.ofList

theorem pieces_ne_nil (sep : Char) (s : List Char) : pieces sep s ≠ [] := by
  cases s with
  | nil => simp [pieces]
  | cons c cs =>
    rw [pieces]
    split
    · simp
    · split <;> simp

/-- A text without separators is one piece. -/
theorem pieces_of_notMem {sep : Char} {s : List Char} (none : sep ∉ s) : pieces sep s = [s] := by
  induction s with
  | nil => rfl
  | cons c cs ih =>
    have ne : c ≠ sep := fun same => none (by simp [same])
    have rest : sep ∉ cs := fun mem => none (by simp [mem])
    rw [pieces, if_neg ne, ih rest]

/-- A separator ends a piece. -/
theorem pieces_append_cons (sep : Char) (s t : List Char) :
    pieces sep (s ++ sep :: t) = pieces sep s ++ pieces sep t := by
  induction s with
  | nil => simp [pieces]
  | cons c cs ih =>
    by_cases same : c = sep
    · simp [pieces, same, ih]
    · cases split : pieces sep cs with
      | nil => exact absurd split (pieces_ne_nil sep cs)
      | cons p ps => simp [pieces, same, ih, split]

/-- What has no separators goes to the last piece. -/
theorem pieces_append {sep : Char} {t : List Char} (none : sep ∉ t) (s : List Char) :
    ∃ ps p, pieces sep s = ps ++ [p] ∧ pieces sep (s ++ t) = ps ++ [p ++ t] := by
  induction s with
  | nil => exact ⟨[], [], rfl, pieces_of_notMem none⟩
  | cons c cs ih =>
    obtain ⟨ps, p, split, split'⟩ := ih
    rw [List.cons_append, pieces, pieces, split, split']
    by_cases same : c = sep
    · exact ⟨[] :: ps, p, by simp [same], by simp [same]⟩
    · cases ps with
      | nil => exact ⟨[], c :: p, by simp [same], by simp [same]⟩
      | cons q qs => exact ⟨(c :: q) :: qs, p, by simp [same], by simp [same]⟩

end TraceReplay.Text
