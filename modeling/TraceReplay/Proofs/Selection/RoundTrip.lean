import TraceReplay.Proofs.Selection.Grammar

/-!
# What is written is read again

The printer leaves out what the range says already, and the reader takes one suffix at most. The pieces that
texts stand for need no second suffix (`PieceText.readable`), so that such a piece is read from what is
written of it (`Piece.Readable.pieceText_render`), and so is a selection of them (`Selection.parse_render`).
-/

namespace TraceReplay

open Text (trim isBlank)

variable {text raw suffix : List Char} {p q : Piece}

/-! ### Pieces that can be read -/

namespace Piece

/-- One suffix is enough for the piece: the whole trace has a word for each frequency, every other range needs
the suffix for its frequency or for its step. -/
structure Readable (p : Piece) : Prop where
  ordered : p.start ≤ p.stop
  suffix : p.isWhole = true ∨ p.frequency = .every ∨ p.step = 1

/-- What the range of the piece says without a suffix. -/
def unsuffixed (p : Piece) : Piece :=
  { whole with
    start := p.start
    stop := p.stop
    frequency := if p.isWhole then p.frequency else .every }

theorem eq_unsuffixed (said : p.isWhole = true ∨ p.frequency = .every) :
    p = { p.unsuffixed with step := p.step, step_pos := p.step_pos } := by
  have frequency : p.frequency = if p.isWhole then p.frequency else .every := by
    split
    · rfl
    · rename_i part
      exact said.resolve_left part
  cases p
  simp only [unsuffixed, mk.injEq, true_and]
  exact frequency

theorem eq_unsuffixed_of_one (said : p.isWhole = true ∨ p.frequency = .every) (one : p.step = 1) :
    p = p.unsuffixed := by
  have same := eq_unsuffixed said
  simp only [one] at same
  exact same

end Piece

/-- A range without a suffix has no step, and a frequency only if it is the whole trace. -/
theorem RangeText.fields (h : RangeText text p) :
    p.start ≤ p.stop ∧ (p.isWhole = true ∨ p.frequency = .every) ∧ p.step = 1 := by
  cases h with
  | whole f => exact ⟨le_lastCallNo 0, .inl rfl, rfl⟩
  | single number => exact ⟨UInt32.le_refl _, .inr rfl, rfl⟩
  | between start stop ordered => exact ⟨ordered, .inr rfl, rfl⟩
  | onward start blank => exact ⟨le_lastCallNo _, .inr rfl, rfl⟩

theorem SuffixText.readable (h : SuffixText p suffix q) (ordered : p.start ≤ p.stop)
    (said : p.isWhole = true ∨ p.frequency = .every) (one : p.step = 1) : q.Readable := by
  cases h with
  | frequency f some => exact ⟨ordered, .inr (.inr one)⟩
  | step number pos => exact ⟨ordered, said.imp_right .inl⟩

theorem PieceText.readable (h : PieceText raw p) : p.Readable := by
  cases h with
  | plain range =>
    obtain ⟨ordered, -, one⟩ := range.fields
    exact ⟨ordered, .inr (.inr one)⟩
  | suffixed range suffixText =>
    obtain ⟨ordered, said, one⟩ := range.fields
    exact suffixText.readable ordered said one

/-! ### Writing a piece -/

theorem shown_wholeWord (f : Frequency) : ∀ c ∈ f.wholeWord.toList, isBlank c = false := by
  have shown : f.wholeWord.toList.all (fun c => !isBlank c) = true := by cases f <;> rfl
  simpa using shown

theorem shown_toString (n : Nat) : ∀ c ∈ (toString n).toList, isBlank c = false := by
  intro c mem
  rcases (Numeral.spells_toString n).eq_plus_or_isDigit mem with rfl | digit
  · decide
  · exact isBlank_of_isDigit digit

theorem numberText_toString (n : UInt32) : NumberText (toString n.toNat).toList n := by
  rw [NumberText, Text.trim_eq_self (shown_toString _)]
  exact Numeral.spells_toString _

namespace Piece

/-- Nothing in a written range is blank. -/
theorem shown_renderRange (p : Piece) : ∀ c ∈ p.renderRange.toList, isBlank c = false := by
  have dash : isBlank '-' = false := by decide
  unfold renderRange
  split_ifs
  · exact shown_wholeWord _
  · exact shown_toString _
  · simp only [String.toList_append, List.forall_mem_append]
    exact ⟨shown_toString _, by simpa using dash⟩
  · simp only [String.toList_append, List.forall_mem_append]
    exact ⟨⟨shown_toString _, by simpa using dash⟩, shown_toString _⟩

theorem rangeText_renderRange (ordered : p.start ≤ p.stop) :
    RangeText p.renderRange.toList p.unsuffixed := by
  by_cases all : p.isWhole = true
  · have ends : p.start = 0 ∧ p.stop = lastCallNo := by simpa [isWhole] using all
    have same : p.unsuffixed = { whole with frequency := p.frequency } := by
      simp [unsuffixed, whole, all, ends]
    rw [renderRange, if_pos all, same]
    exact .whole p.frequency
  have same : p.unsuffixed = { whole with start := p.start, stop := p.stop } := by
    simp [unsuffixed, whole, all]
  rw [renderRange, if_neg all, same]
  by_cases single : p.start = p.stop
  · rw [if_pos single, ← single]
    exact .single (numberText_toString p.start)
  rw [if_neg single]
  by_cases onward : p.stop = lastCallNo
  · rw [if_pos onward, onward, String.toList_append]
    exact .onward (numberText_toString p.start) rfl
  · rw [if_neg onward, String.append_assoc, String.toList_append, String.toList_append]
    exact .between (numberText_toString p.start) (numberText_toString p.stop) ordered

/-- A suffix behind the written range is read as such. -/
theorem pieceText_append (ordered : p.start ≤ p.stop) (shown : ∀ c ∈ suffix, isBlank c = false)
    (suffixText : SuffixText p.unsuffixed suffix q) : PieceText (p.renderRange.toList ++ '/' :: suffix) q := by
  refine .suffixed (p := p.unsuffixed) ?_ ?_
  · rw [Text.trim_eq_self p.shown_renderRange]
    exact rangeText_renderRange ordered
  · rw [Text.trim_eq_self shown]
    exact suffixText

/-- A readable piece is read from what is written of it. -/
theorem Readable.pieceText_render (h : p.Readable) : PieceText p.render.toList p := by
  by_cases said : p.isWhole = true ∨ p.frequency = .every
  · -- The range says the frequency: only the step is left to write.
    have noWord : (if p.isWhole then "" else p.frequency.suffix) = "" := by
      rcases said with all | every
      · rw [if_pos all]
      · rw [every]
        exact ite_self ""
    rw [render, noWord, String.append_empty]
    by_cases stepped : 1 < p.step
    · rw [if_pos stepped, String.toList_append, String.toList_append]
      have read := pieceText_append h.ordered (shown_toString p.step.toNat)
        (.step (p := p.unsuffixed) (Numeral.spells_toString p.step.toNat) p.step_pos)
      rw [← eq_unsuffixed said] at read
      exact read
    · have one : p.step = 1 := by
        have pos := p.step_pos
        rw [UInt32.lt_iff_toNat_lt] at pos stepped
        rw [← UInt32.toNat_inj]
        exact Nat.le_antisymm (Nat.le_of_not_lt stepped) pos
      have range := rangeText_renderRange h.ordered
      rw [← eq_unsuffixed_of_one said one] at range
      rw [if_neg stepped, String.append_empty]
      refine .plain ?_
      rw [Text.trim_eq_self p.shown_renderRange]
      exact range
  · -- The frequency takes the suffix, and there is no step.
    obtain ⟨part, some⟩ := not_or.1 said
    have one : p.step = 1 := (h.suffix.resolve_left part).resolve_left some
    have same : p = { p.unsuffixed with frequency := p.frequency } := by
      cases p
      simp only [unsuffixed, mk.injEq, true_and, and_true]
      exact one
    have word : p.frequency.suffix.toList = '/' :: p.frequency.wholeWord.toList := by
      cases every : p.frequency with
      | every => exact absurd every some
      | frame | renderTarget => rfl
    rw [render, if_neg part, if_neg (by rw [one]; decide), String.append_empty, String.toList_append, word]
    have read := pieceText_append h.ordered (shown_wholeWord p.frequency) (.frequency p.frequency some)
    rw [← same] at read
    exact read

end Piece

/-! ### Selections -/

theorem comma_notMem_of_trim (h : RangeText (trim text) p) : ',' ∉ text :=
  Text.notMem_of_notMem_trim (by decide)
    (h.notMem (by decide) (by decide) (by decide) fun f => by cases f <;> decide)

theorem SuffixText.comma_notMem (h : SuffixText p suffix q) : ',' ∉ suffix := by
  cases h with
  | frequency f some => cases f <;> decide
  | step number pos => exact fun mem => (number.eq_plus_or_isDigit mem).elim (by decide) (by decide)

/-- Nothing in a piece is a comma. -/
theorem PieceText.comma_notMem (h : PieceText raw p) : ',' ∉ raw := by
  cases h with
  | plain range => exact comma_notMem_of_trim range
  | @suffixed _ suffix _ _ range suffixText =>
    have behind : ',' ∉ suffix := Text.notMem_of_notMem_trim (by decide) suffixText.comma_notMem
    simp [comma_notMem_of_trim range, behind]

namespace Selection

/-- Readable pieces are read from their texts between commas. -/
theorem parse_render_of_readable {s : Selection} (some : s.pieces ≠ [])
    (readable : ∀ p ∈ s.pieces, p.Readable) : parse s.render = .ok s := by
  have split : s.render.toList.splitOn ',' = s.pieces.map (·.render.toList) := by
    rw [render, String.toList_intercalate, List.map_map]
    refine List.splitOn_intercalate ',' (fun raw mem => ?_) (by simpa using some)
    obtain ⟨p, inside, rfl⟩ := List.mem_map.1 mem
    exact (readable p inside).pieceText_render.comma_notMem
  rw [(decides_parse _).ok_iff, split, List.forall₂_map_left_iff, List.forall₂_same]
  exact fun p mem => (readable p mem).pieceText_render

theorem forall_readable {raws : List (List Char)} {ps : List Piece} (h : List.Forall₂ PieceText raws ps) :
    ∀ p ∈ ps, p.Readable := by
  induction h with
  | nil => exact fun _ => nofun
  | cons first _ ih => exact List.forall_mem_cons.2 ⟨first.readable, ih⟩

/-- Texts stand for the selections of one readable piece or more. -/
theorem exists_parse_iff {s : Selection} :
    (∃ text, parse text = .ok s) ↔ s.pieces ≠ [] ∧ ∀ p ∈ s.pieces, p.Readable := by
  constructor
  · rintro ⟨text, read⟩
    have pieces := ((decides_parse text).ok_iff s).1 read
    refine ⟨fun empty => ?_, forall_readable pieces⟩
    rw [empty, List.forall₂_nil_right_iff] at pieces
    exact List.splitOn_ne_nil ',' text.toList pieces
  · rintro ⟨some, readable⟩
    exact ⟨s.render, parse_render_of_readable some readable⟩

theorem readable_ofFrequency (f : Frequency) : ∀ p ∈ (ofFrequency f).pieces, p.Readable := by
  intro p mem
  obtain rfl := List.mem_singleton.1 mem
  exact ⟨show (0 : UInt32) ≤ lastCallNo by decide, .inr (.inr rfl)⟩

/-- A selection that was read, or that is all calls of one frequency, is read again from what is written of
it, and so covers the same calls. -/
theorem parse_render {s : Selection} (given : (∃ text, parse text = .ok s) ∨ ∃ f, s = ofFrequency f) :
    parse s.render = .ok s ∧ ∀ t, parse s.render = .ok t → ∀ c, t.covers c = s.covers c := by
  have read : parse s.render = .ok s := by
    rcases given with parsed | ⟨f, rfl⟩
    · obtain ⟨some, readable⟩ := exists_parse_iff.1 parsed
      exact parse_render_of_readable some readable
    · exact parse_render_of_readable (List.cons_ne_nil _ _) (readable_ofFrequency f)
  refine ⟨read, fun t again c => ?_⟩
  obtain rfl : s = t := Except.ok.inj (read.symm.trans again)
  rfl

/-- A text with each kind of range and of suffix. -/
theorem parse_render_mixed :
    let s : Selection := ⟨[{ frequency := .frame }, { start := 7, stop := 7 },
      { start := 10, stop := 20, step := 5 }, { start := 30 }, { stop := 9, frequency := .renderTarget },
      { step := 3, frequency := .renderTarget }]⟩
    (∃ text, parse text = .ok s) ∧ s.render = "frame,7,10-20/5,30-,0-9/rendertarget,rendertarget/3" ∧
      parse s.render = .ok s := by
  have parsed : ∃ text, parse text = .ok _ :=
    ⟨" frame,+7 , 10 - 20/5,30-4294967295,00-9/rendertarget,rendertarget/3", rfl⟩
  exact ⟨parsed, rfl, (parse_render (.inl parsed)).1⟩

end Selection

end TraceReplay
