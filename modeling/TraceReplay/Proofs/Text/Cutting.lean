import Mathlib.Data.List.TakeWhile
import TraceReplay.Text.Blank

/-!
# Cutting texts

What is left of a text without the blanks around it (`trim_surrounded`, `exists_trim`), and where a text is
cut in two (`cut?_append_cons`) or into pieces (`pieces_eq_splitOn`).
-/

namespace TraceReplay.Text

/-- There are only blanks. -/
def IsBlank (s : List Char) : Prop := ∀ c ∈ s, isBlank c = true

theorem isBlank_nil : IsBlank [] := fun _ => nofun

variable {s front back before after : List Char} {sep c : Char}

theorem trimStart_append_of_isBlank (blank : IsBlank front) (s : List Char) :
    trimStart (front ++ s) = trimStart s :=
  List.dropWhile_append_of_pos blank

theorem trimEnd_append_of_isBlank (blank : IsBlank back) (s : List Char) :
    trimEnd (s ++ back) = trimEnd s := by
  have reversed : IsBlank back.reverse := fun c mem => blank c (List.mem_reverse.1 mem)
  have same : (back.reverse ++ s.reverse).dropWhile isBlank = s.reverse.dropWhile isBlank :=
    List.dropWhile_append_of_pos reversed
  rw [trimEnd, List.reverse_append, same, trimEnd]

/-- A character that is no blank stops both ends. -/
theorem trimStart_append_cons (shown : isBlank sep = false) (before after : List Char) :
    trimStart (before ++ sep :: after) = trimStart before ++ sep :: after := by
  induction before with
  | nil => simp [trimStart, shown]
  | cons c before ih =>
    unfold trimStart at *
    cases blank : isBlank c <;> simp [blank, ih]

theorem trimEnd_append_cons (shown : isBlank sep = false) (before after : List Char) :
    trimEnd (before ++ sep :: after) = before ++ sep :: trimEnd after := by
  have reversed := trimStart_append_cons shown after.reverse before.reverse
  unfold trimStart at reversed
  rw [trimEnd, List.reverse_append, List.reverse_cons, List.append_assoc, List.singleton_append, reversed,
    trimEnd]
  simp

theorem trim_append_cons (shown : isBlank sep = false) (before after : List Char) :
    trim (before ++ sep :: after) = trimStart before ++ sep :: trimEnd after := by
  rw [trim, trimStart_append_cons shown, trimEnd_append_cons shown]

/-- Only blanks are taken off. -/
theorem exists_trimStart (s : List Char) : ∃ front, IsBlank front ∧ s = front ++ trimStart s :=
  ⟨s.takeWhile isBlank, fun _ mem => List.mem_takeWhile_imp mem, List.takeWhile_append_dropWhile.symm⟩

theorem exists_trimEnd (s : List Char) : ∃ back, IsBlank back ∧ s = trimEnd s ++ back := by
  obtain ⟨front, blank, split⟩ := exists_trimStart s.reverse
  refine ⟨front.reverse, fun c mem => blank c (List.mem_reverse.1 mem), ?_⟩
  rw [← List.reverse_inj, List.reverse_append, List.reverse_reverse, trimEnd, List.reverse_reverse]
  exact split

theorem exists_trim (s : List Char) :
    ∃ front back, IsBlank front ∧ IsBlank back ∧ s = front ++ trim s ++ back := by
  obtain ⟨front, blank, split⟩ := exists_trimStart s
  obtain ⟨back, blank', split'⟩ := exists_trimEnd (trimStart s)
  refine ⟨front, back, blank, blank', ?_⟩
  rw [List.append_assoc, trim, ← split', ← split]

theorem trim_of_isBlank (blank : IsBlank s) : trim s = [] := by
  rw [trim, ← List.append_nil s, trimStart_append_of_isBlank blank]
  rfl

/-- Blanks around a text are taken off. -/
theorem trim_surrounded (first : IsBlank front) (last : IsBlank back) (s : List Char) :
    trim (front ++ s ++ back) = trim s := by
  rw [List.append_assoc, trim, trimStart_append_of_isBlank first]
  obtain ⟨blank, lead, split⟩ := exists_trimStart s
  cases rest : trimStart s with
  | nil =>
    have whole : IsBlank (s ++ back) := by
      rw [rest, List.append_nil] at split
      intro c mem
      rcases List.mem_append.1 mem with mem | mem
      · exact lead c (split ▸ mem)
      · exact last c mem
    have blanks : IsBlank s := fun c mem => whole c (List.mem_append_left _ mem)
    rw [← trim, trim_of_isBlank whole, trim_of_isBlank blanks]
  | cons c rest' =>
    have shown : isBlank c = false := by
      have stops := List.head?_dropWhile_not isBlank s
      rw [← trimStart, rest] at stops
      simpa using stops
    rw [rest] at split
    rw [split, List.append_assoc, List.cons_append, trimStart_append_cons shown, trim,
      trimStart_append_cons shown, ← List.cons_append, ← List.append_assoc, trimEnd_append_of_isBlank last]

theorem trim_trimStart (s : List Char) : trim (trimStart s) = trim s := by
  obtain ⟨front, first, split⟩ := exists_trimStart s
  have surrounded : trim (front ++ trimStart s ++ []) = trim (trimStart s) :=
    trim_surrounded first isBlank_nil (trimStart s)
  rw [List.append_nil, ← split] at surrounded
  exact surrounded.symm

theorem trim_trimEnd (s : List Char) : trim (trimEnd s) = trim s := by
  obtain ⟨back, last, split⟩ := exists_trimEnd s
  have surrounded : trim ([] ++ trimEnd s ++ back) = trim (trimEnd s) :=
    trim_surrounded isBlank_nil last (trimEnd s)
  rw [List.nil_append, ← split] at surrounded
  exact surrounded.symm

/-- A text without blanks stays as it is. -/
theorem trim_eq_self (shown : ∀ c ∈ s, isBlank c = false) : trim s = s := by
  obtain ⟨front, back, first, last, split⟩ := exists_trim s
  have none : ∀ part : List Char, IsBlank part → (∀ c ∈ part, c ∈ s) → part = [] := by
    intro part blank sub
    rw [List.eq_nil_iff_forall_not_mem]
    intro c mem
    have both := shown c (sub c mem)
    rw [blank c mem] at both
    cases both
  have noFront := none front first fun c mem => by rw [split]; simp [mem]
  have noBack := none back last fun c mem => by rw [split]; simp [mem]
  rw [noFront, noBack, List.nil_append, List.append_nil] at split
  exact split.symm

theorem mem_of_mem_trim (mem : c ∈ trim s) : c ∈ s := by
  obtain ⟨front, back, -, -, split⟩ := exists_trim s
  rw [split]
  simp [mem]

/-- What is no blank is not lost. -/
theorem notMem_of_notMem_trim (shown : isBlank c = false) (trimmed : c ∉ trim s) : c ∉ s := by
  have notBlank : ∀ part : List Char, IsBlank part → c ∉ part := by
    intro part blank mem
    rw [blank c mem] at shown
    cases shown
  obtain ⟨front, back, first, last, split⟩ := exists_trim s
  rw [split, List.mem_append, List.mem_append, not_or, not_or]
  exact ⟨⟨notBlank front first, trimmed⟩, notBlank back last⟩

theorem cut?_eq_none_iff : cut? sep s = none ↔ sep ∉ s := by
  induction s with
  | nil => simp [cut?]
  | cons c s ih =>
    rw [cut?]
    by_cases same : c = sep
    · simp [same]
    · simp [same, ih, Ne.symm same]

/-- A text is cut at the first separator. -/
theorem cut?_append_cons (first : sep ∉ before) (after : List Char) :
    cut? sep (before ++ sep :: after) = some (before, after) := by
  induction before with
  | nil => simp [cut?]
  | cons c before ih =>
    have other : c ≠ sep := fun same => first (same ▸ List.mem_cons_self)
    have rest := ih fun mem => first (List.mem_cons_of_mem c mem)
    rw [List.cons_append, cut?, if_neg other, rest]
    rfl

theorem pieces_eq_splitOn (sep : Char) (s : List Char) : pieces sep s = s.splitOn sep := by
  induction s with
  | nil => rw [List.splitOn_nil]; rfl
  | cons c s ih =>
    rw [pieces, List.splitOn_cons_eq_if_modifyHead, ih]
    simp only [beq_iff_eq]
    split
    · rfl
    · cases rest : s.splitOn sep with
      | nil => exact absurd rest (List.splitOn_ne_nil sep s)
      | cons p ps => rfl

end TraceReplay.Text
