import Mathlib.Data.List.Forall2
import TraceReplay.Proofs.Text.Cutting
import TraceReplay.Proofs.Text.Numerals
import TraceReplay.Selection.Grammar

/-!
# Reading follows the grammar

A text of the grammar is read as the grammar has it (`Piece.parseRange_of_rangeText`,
`Piece.withSuffix_of_suffixText`), a text with a fault is refused with this fault (`Piece.parseRange_of_fault`,
`Piece.withSuffix_of_wrong`), and there is no third kind (`Piece.rangeText_or_fault`). So the grammar decides
what is read of a piece (`Selection.decides_readPiece`) and of a selection (`Selection.decides_parse`).
-/

namespace TraceReplay

open Text (trim IsBlank isBlank)

/-! ### Numbers -/

section Numbers

variable {text : List Char} {n : UInt32} {c : Char}

theorem Piece.parseNumber_eq_ok (number : NumberText text n) : Piece.parseNumber text = .ok n := by
  rw [Piece.parseNumber, Numeral.parseWord_eq_ok_iff.2 number]
  rfl

theorem Piece.parseNumber_eq_error (misspelled : ∀ n, ¬ NumberText text n) :
    Piece.parseNumber text = .error (.invalidNumber (String.ofList (trim text))) := by
  obtain ⟨e, refused⟩ := Numeral.exists_parseWord_eq_error misspelled
  rw [Piece.parseNumber, refused]
  rfl

theorem NumberText.trim_ne_nil (h : NumberText text n) : trim text ≠ [] := Numeral.Spells.ne_nil h

theorem isBlank_of_isDigit (digit : c.isDigit = true) : isBlank c = false := by
  have range : 48 ≤ c.toNat ∧ c.toNat ≤ 57 := by
    simpa [Char.isDigit, UInt32.le_iff_toNat_le] using digit
  simp [isBlank]
  omega

/-- A number has blanks, digits and plus signs. -/
theorem NumberText.notMem (h : NumberText text n) (shown : isBlank c = false) (signed : c ≠ '+')
    (letter : c.isDigit = false) : c ∉ text := by
  refine Text.notMem_of_notMem_trim shown fun mem => ?_
  rcases Numeral.Spells.eq_plus_or_isDigit h mem with plus | digit
  · exact signed plus
  · rw [letter] at digit
    cases digit

/-- No word is a number. -/
theorem not_spells_wholeWord (f : Frequency) (n : UInt32) : ¬ Numeral.Spells f.wholeWord.toList n.toNat := by
  intro spells
  have read := Numeral.parseWord_eq_ok_iff.2 spells
  cases f <;> cases read

theorem not_numberText_wholeWord (f : Frequency) (n : UInt32) : ¬ NumberText f.wholeWord.toList n := by
  have same : trim f.wholeWord.toList = f.wholeWord.toList := by cases f <;> rfl
  rw [NumberText, same]
  exact not_spells_wholeWord f n

end Numbers

/-- What is read, and which errors there are. -/
structure Decides {ε α : Type} (x : Except ε α) (good : α → Prop) (bad : ε → Prop) : Prop where
  ok_iff : ∀ a, x = .ok a ↔ good a
  error_iff : ∀ e, x = .error e ↔ bad e

namespace Decides

variable {ε α : Type} {x : Except ε α} {good : α → Prop} {bad : ε → Prop}

/-- It is enough to know what is read and what is refused, if there is always one of them. -/
theorem of_either (ok : ∀ a, good a → x = .ok a) (error : ∀ e, bad e → x = .error e)
    (either : (∃ a, good a) ∨ ∃ e, bad e) : Decides x good bad := by
  rcases either with ⟨a, is⟩ | ⟨e, is⟩
  · have read := ok a is
    refine ⟨fun b => ⟨fun same => ?_, ok b⟩, fun e => ⟨fun same => ?_, error e⟩⟩
    · rw [read] at same
      cases same
      exact is
    · rw [read] at same
      cases same
  · have refused := error e is
    refine ⟨fun b => ⟨fun same => ?_, ok b⟩, fun e => ⟨fun same => ?_, error e⟩⟩
    · rw [refused] at same
      cases same
    · rw [refused] at same
      cases same
      exact is

end Decides

/-! ### Ranges -/

theorem le_lastCallNo (n : UInt32) : n ≤ lastCallNo :=
  UInt32.le_iff_toNat_le.2 (Nat.le_of_lt_succ n.toNat_lt)

section Ranges

variable {text first last : List Char} {p : Piece} {e : SelectionError} {c : Char}

/-- What is in a range. -/
theorem RangeText.notMem (h : RangeText text p) (shown : isBlank c = false) (signed : c ≠ '+' ∧ c ≠ '-')
    (letter : c.isDigit = false) (word : ∀ f : Frequency, c ∉ f.wholeWord.toList) : c ∉ text := by
  cases h with
  | whole f => exact word f
  | single number => exact number.notMem shown signed.1 letter
  | between start stop ordered =>
    simp [start.notMem shown signed.1 letter, stop.notMem shown signed.1 letter, signed.2]
  | @onward first last m start blank =>
    have none : c ∉ last := Text.notMem_of_notMem_trim shown (by simp [blank])
    simp [start.notMem shown signed.1 letter, none, signed.2]

theorem RangeText.slash_notMem (h : RangeText text p) : '/' ∉ text :=
  h.notMem (by decide) (by decide) (by decide) fun f => by cases f <;> decide

theorem RangeText.ne_nil (h : RangeText text p) : text ≠ [] := by
  cases h with
  | whole f => cases f <;> decide
  | single number =>
    rintro rfl
    exact number.trim_ne_nil rfl
  | between start stop ordered => simp
  | onward start blank => simp

namespace Piece

theorem parseRange_wholeWord (f : Frequency) :
    parseRange f.wholeWord.toList = .ok { whole with frequency := f } := by
  cases f <;> rfl

/-- A text that is no word is cut at its first dash. -/
theorem parseRange_of_ne_wholeWord (word : ∀ f : Frequency, text ≠ f.wholeWord.toList) :
    parseRange text = match Text.cut? '-' text with
      | some (first, last) => do
        let start ← parseNumber first
        let stop ← parseStop last
        if stop < start then .error (.reversedRange (String.ofList text))
        else .ok { whole with start, stop }
      | none => (parseNumber text).map fun no => { whole with start := no, stop := no } := by
  have noWord : Frequency.ofWord? text = none :=
    (if_neg (word .frame)).trans (if_neg (word .renderTarget))
  have noStar : ¬ (text == "*".toList) = true := fun star => word .every (beq_iff_eq.1 star)
  rw [parseRange, if_neg noStar]
  split
  · rename_i f found
    rw [noWord] at found
    cases found
  · rfl

theorem parseRange_of_notMem (word : ∀ f : Frequency, text ≠ f.wholeWord.toList) (closed : '-' ∉ text) :
    parseRange text = (parseNumber text).map fun no => { whole with start := no, stop := no } := by
  rw [parseRange_of_ne_wholeWord word, Text.cut?_eq_none_iff.2 closed]

theorem parseRange_append_cons (split : '-' ∉ first) (last : List Char) :
    parseRange (first ++ '-' :: last) = (do
      let start ← parseNumber first
      let stop ← parseStop last
      if stop < start then .error (.reversedRange (String.ofList (first ++ '-' :: last)))
      else .ok { whole with start, stop }) := by
  have word : ∀ f : Frequency, first ++ '-' :: last ≠ f.wholeWord.toList := by
    intro f same
    have dash : '-' ∈ f.wholeWord.toList := same ▸ List.mem_append_right _ List.mem_cons_self
    revert dash
    cases f <;> decide
  rw [parseRange_of_ne_wholeWord word, Text.cut?_append_cons split]

theorem parseStop_of_blank (blank : trim last = []) : parseStop last = .ok lastCallNo := by
  rw [parseStop, blank]
  rfl

theorem parseStop_of_ne_nil (some : trim last ≠ []) : parseStop last = parseNumber last := by
  rw [parseStop, if_neg (by simpa using some)]

theorem dash_notMem {n : UInt32} (h : NumberText first n) : '-' ∉ first :=
  h.notMem (by decide) (by decide) (by decide)

theorem parseRange_of_rangeText (h : RangeText text p) : parseRange text = .ok p := by
  cases h with
  | whole f => exact parseRange_wholeWord f
  | single number =>
    have word : ∀ f : Frequency, text ≠ f.wholeWord.toList := by
      rintro f rfl
      exact not_numberText_wholeWord f _ number
    rw [parseRange_of_notMem word (dash_notMem number), parseNumber_eq_ok number]
    rfl
  | between start stop ordered =>
    rw [parseRange_append_cons (dash_notMem start), parseNumber_eq_ok start,
      parseStop_of_ne_nil stop.trim_ne_nil, parseNumber_eq_ok stop]
    exact if_neg (UInt32.not_lt.2 ordered)
  | @onward first last m start blank =>
    rw [parseRange_append_cons (dash_notMem start), parseNumber_eq_ok start, parseStop_of_blank blank]
    exact if_neg (UInt32.not_lt.2 (le_lastCallNo m))

/-- The start is judged before the stop, and both before their order. -/
theorem parseRange_of_fault (h : RangeFault text e) : parseRange text = .error e := by
  cases h with
  | single closed word misspelled =>
    rw [parseRange_of_notMem word closed, parseNumber_eq_error misspelled]
    rfl
  | start split misspelled =>
    rw [parseRange_append_cons split, parseNumber_eq_error misspelled]
    rfl
  | stop start some misspelled =>
    rw [parseRange_append_cons (dash_notMem start), parseNumber_eq_ok start, parseStop_of_ne_nil some,
      parseNumber_eq_error misspelled]
    rfl
  | reversed start stop reversed =>
    rw [parseRange_append_cons (dash_notMem start), parseNumber_eq_ok start,
      parseStop_of_ne_nil stop.trim_ne_nil, parseNumber_eq_ok stop]
    exact if_pos reversed

/-- Every text is a range or has a fault. -/
theorem rangeText_or_fault (text : List Char) : (∃ p, RangeText text p) ∨ ∃ e, RangeFault text e := by
  by_cases word : ∃ f : Frequency, text = f.wholeWord.toList
  · obtain ⟨f, rfl⟩ := word
    exact .inl ⟨_, .whole f⟩
  replace word := not_exists.1 word
  by_cases dash : '-' ∈ text
  case neg =>
    by_cases number : ∃ n, NumberText text n
    · exact .inl ⟨_, .single number.choose_spec⟩
    · exact .inr ⟨_, .single dash word (not_exists.1 number)⟩
  obtain ⟨first, last, rfl, split⟩ := List.eq_append_cons_of_mem dash
  by_cases start : ∃ m, NumberText first m
  case neg => exact .inr ⟨_, .start split (not_exists.1 start)⟩
  obtain ⟨m, start⟩ := start
  by_cases blank : trim last = []
  · exact .inl ⟨_, .onward start blank⟩
  by_cases stop : ∃ n, NumberText last n
  case neg => exact .inr ⟨_, .stop start blank (not_exists.1 stop)⟩
  obtain ⟨n, stop⟩ := stop
  by_cases ordered : m ≤ n
  · exact .inl ⟨_, .between start stop ordered⟩
  · exact .inr ⟨_, .reversed start stop (UInt32.not_le.1 ordered)⟩

end Piece

end Ranges

/-! ### Pieces -/

section Pieces

variable {raw range suffix : List Char} {p q : Piece} {e : SelectionError}

namespace Piece

theorem withSuffix_of_suffixText (h : SuffixText p suffix q) : p.withSuffix suffix = .ok q := by
  cases h with
  | frequency f some =>
    cases f with
    | every => exact absurd rfl some
    | frame | renderTarget => rfl
  | @step _ step number pos =>
    have noWord : Frequency.ofWord? suffix = none := by
      have word : ∀ f : Frequency, suffix ≠ f.wholeWord.toList := by
        rintro f rfl
        exact not_spells_wholeWord f step number
      exact (if_neg (word .frame)).trans (if_neg (word .renderTarget))
    rw [withSuffix, noWord, Numeral.parseWord_eq_ok_iff.2 number]
    exact dif_pos pos

theorem withSuffix_of_wrong (wrong : ∀ q, ¬ SuffixText p suffix q) :
    p.withSuffix suffix = .error (.invalidStep (String.ofList suffix)) := by
  have noWord : Frequency.ofWord? suffix = none := by
    have frame : suffix ≠ "frame".toList := by
      rintro rfl
      exact wrong _ (.frequency .frame Frequency.noConfusion)
    have renderTarget : suffix ≠ "rendertarget".toList := by
      rintro rfl
      exact wrong _ (.frequency .renderTarget Frequency.noConfusion)
    exact (if_neg frame).trans (if_neg renderTarget)
  rw [withSuffix, noWord]
  cases parsed : Numeral.parseWord suffix with
  | error e => rfl
  | ok step =>
    refine dif_neg fun pos => ?_
    exact wrong _ (.step (Numeral.parseWord_eq_ok_iff.1 parsed) pos)

/-- Without a slash there is no suffix. -/
theorem parse_trim_of_notMem (unsuffixed : '/' ∉ raw) : parse (trim raw) = parseRange (trim raw) := by
  have none : '/' ∉ trim raw := fun mem => unsuffixed (Text.mem_of_mem_trim mem)
  rw [parse, Text.cut?_eq_none_iff.2 none]

/-- Behind the first slash is the suffix, and blanks around either part do not matter. -/
theorem parse_trim_append_cons (split : '/' ∉ range) (suffix : List Char) :
    parse (trim (range ++ '/' :: suffix)) = (do
      let p ← parseRange (trim range)
      p.withSuffix (trim suffix)) := by
  have first : '/' ∉ Text.trimStart range := fun mem => split (List.dropWhile_subset _ mem)
  rw [Text.trim_append_cons (by decide), parse, Text.cut?_append_cons first]
  simp only [Text.trim_trimStart, Text.trim_trimEnd]

end Piece

/-- What is shown of a piece is not blank. -/
theorem PieceText.trim_ne_nil (h : PieceText raw p) : trim raw ≠ [] := by
  cases h with
  | plain range => exact range.ne_nil
  | suffixed range suffix =>
    rw [Text.trim_append_cons (by decide)]
    simp

theorem slash_notMem_of_trim (h : RangeText (trim raw) p) : '/' ∉ raw :=
  Text.notMem_of_notMem_trim (by decide) h.slash_notMem

namespace Piece

theorem parse_of_pieceText (h : PieceText raw p) : parse (trim raw) = .ok p := by
  cases h with
  | plain range => rw [parse_trim_of_notMem (slash_notMem_of_trim range), parseRange_of_rangeText range]
  | suffixed range suffix =>
    rw [parse_trim_append_cons (slash_notMem_of_trim range), parseRange_of_rangeText range]
    exact withSuffix_of_suffixText suffix

theorem parse_of_fault {text : String} (h : PieceFault text raw e) (some : trim raw ≠ []) :
    parse (trim raw) = .error e := by
  cases h with
  | blank empty => exact absurd empty some
  | plain _ unsuffixed fault => rw [parse_trim_of_notMem unsuffixed, parseRange_of_fault fault]
  | range split fault =>
    rw [parse_trim_append_cons split, parseRange_of_fault fault]
    rfl
  | suffix rangeText wrong =>
    rw [parse_trim_append_cons (slash_notMem_of_trim rangeText), parseRange_of_rangeText rangeText]
    exact withSuffix_of_wrong wrong

theorem pieceText_or_fault (text : String) (raw : List Char) :
    (∃ p, PieceText raw p) ∨ ∃ e, PieceFault text raw e := by
  by_cases empty : trim raw = []
  · exact .inr ⟨_, .blank empty⟩
  by_cases slash : '/' ∈ raw
  case neg =>
    rcases rangeText_or_fault (trim raw) with ⟨p, range⟩ | ⟨e, fault⟩
    · exact .inl ⟨p, .plain range⟩
    · exact .inr ⟨e, .plain empty slash fault⟩
  obtain ⟨range, suffix, rfl, split⟩ := List.eq_append_cons_of_mem slash
  rcases rangeText_or_fault (trim range) with ⟨p, rangeText⟩ | ⟨e, fault⟩
  case inr => exact .inr ⟨e, .range split fault⟩
  by_cases right : ∃ q, SuffixText p (trim suffix) q
  · obtain ⟨q, right⟩ := right
    exact .inl ⟨q, .suffixed rangeText right⟩
  · exact .inr ⟨_, .suffix rangeText (not_exists.1 right)⟩

end Piece

end Pieces

namespace Selection

variable {text : String} {raw : List Char} {raws : List (List Char)} {e : SelectionError}

/-- Read one piece, which may be blank. -/
def readPiece (text : String) (raw : List Char) : Except SelectionError Piece :=
  if (trim raw).isEmpty then .error (.emptyPiece text) else Piece.parse (trim raw)

theorem decides_readPiece (text : String) (raw : List Char) :
    Decides (readPiece text raw) (PieceText raw) (PieceFault text raw) := by
  refine .of_either (fun p is => ?_) (fun e is => ?_) (Piece.pieceText_or_fault text raw)
  · rw [readPiece, if_neg (by simpa using is.trim_ne_nil), Piece.parse_of_pieceText is]
  · by_cases empty : trim raw = []
    · rw [readPiece, if_pos (by simpa using empty)]
      cases is with
      | blank _ => rfl
      | plain some _ _ => exact absurd empty some
      | range _ _ | suffix _ _ =>
        rw [Text.trim_append_cons (by decide)] at empty
        simp at empty
    · rw [readPiece, if_neg (by simpa using empty), Piece.parse_of_fault is empty]

theorem parsePieces_cons (text : String) (raw : List Char) (raws : List (List Char)) :
    parsePieces text (raw :: raws) =
      (readPiece text raw).bind fun p => (parsePieces text raws).map (p :: ·) := by
  rw [parsePieces, readPiece]
  split
  · rfl
  · cases Piece.parse (trim raw) with
    | error e => rfl
    | ok p => cases parsePieces text raws <;> rfl

/-- The leftmost piece of a text that is wrong, with what is wrong with it. -/
def FirstFault (text : String) (raws : List (List Char)) (e : SelectionError) : Prop :=
  ∃ before raw after, raws = before ++ raw :: after ∧ (∀ r ∈ before, ∃ p, PieceText r p) ∧
    PieceFault text raw e

theorem not_firstFault_nil : ¬ FirstFault text [] e := by
  rintro ⟨before, raw, after, split, -, -⟩
  simp at split

/-- A wrong piece in front is the leftmost. -/
theorem firstFault_cons_of_fault {e' : SelectionError} (refused : readPiece text raw = .error e) :
    FirstFault text (raw :: raws) e' ↔ e = e' := by
  have decides := decides_readPiece text raw
  constructor
  · rintro ⟨_ | ⟨first, before⟩, bad, after, split, good, fault⟩
    · obtain ⟨rfl, -⟩ := List.cons.inj split
      exact Except.error.inj (refused.symm.trans ((decides.error_iff e').2 fault))
    · obtain ⟨rfl, -⟩ := List.cons.inj split
      obtain ⟨p, is⟩ := good raw List.mem_cons_self
      rw [(decides.ok_iff p).2 is] at refused
      cases refused
  · rintro rfl
    exact ⟨[], raw, raws, rfl, fun _ => nofun, (decides.error_iff e).1 refused⟩

/-- Behind a good piece the search goes on. -/
theorem firstFault_cons_of_good {p : Piece} (read : readPiece text raw = .ok p) :
    FirstFault text (raw :: raws) e ↔ FirstFault text raws e := by
  have decides := decides_readPiece text raw
  constructor
  · rintro ⟨_ | ⟨first, before⟩, bad, after, split, good, fault⟩
    · obtain ⟨rfl, -⟩ := List.cons.inj split
      rw [(decides.error_iff e).2 fault] at read
      cases read
    · exact ⟨before, bad, after, (List.cons.inj split).2, fun r mem => good r (List.mem_cons_of_mem _ mem),
        fault⟩
  · rintro ⟨before, bad, after, rfl, good, fault⟩
    refine ⟨raw :: before, bad, after, rfl, fun r mem => ?_, fault⟩
    rcases List.mem_cons.1 mem with rfl | mem
    · exact ⟨p, (decides.ok_iff p).1 read⟩
    · exact good r mem

/-- Pieces are read from left to right, up to the first that is wrong. -/
theorem decides_parsePieces (text : String) (raws : List (List Char)) :
    Decides (parsePieces text raws) (List.Forall₂ PieceText raws) (FirstFault text raws) := by
  induction raws with
  | nil =>
    refine ⟨fun ps => ?_, fun e => iff_of_false nofun not_firstFault_nil⟩
    rw [List.forall₂_nil_left_iff]
    exact ⟨fun same => (Except.ok.inj same).symm, fun same => congrArg Except.ok same.symm⟩
  | cons raw raws ih =>
    have decides := decides_readPiece text raw
    have first : ∀ p, PieceText raw p ↔ readPiece text raw = .ok p := fun p => (decides.ok_iff p).symm
    refine ⟨fun ps => ?_, fun e => ?_⟩
    · rw [parsePieces_cons, List.forall₂_cons_left_iff]
      simp only [first, ← ih.ok_iff]
      cases readPiece text raw with
      | error e => simp [Except.bind]
      | ok p => cases parsePieces text raws <;> simp [Except.bind, Except.map, eq_comm]
    · rw [parsePieces_cons]
      cases read : readPiece text raw with
      | error e' =>
        rw [firstFault_cons_of_fault read]
        exact ⟨Except.error.inj, congrArg Except.error⟩
      | ok p =>
        rw [firstFault_cons_of_good read, ← ih.error_iff]
        cases parsePieces text raws <;> simp [Except.bind, Except.map]

theorem decides_parse (text : String) :
    Decides (parse text) (fun s => List.Forall₂ PieceText (text.toList.splitOn ',') s.pieces)
      (FirstFault text (text.toList.splitOn ',')) := by
  have decides := decides_parsePieces text (text.toList.splitOn ',')
  rw [parse, Text.pieces_eq_splitOn]
  refine ⟨fun s => ?_, fun e => ?_⟩
  · rw [← decides.ok_iff]
    cases parsePieces text (text.toList.splitOn ',') with
    | error e => exact iff_of_false nofun nofun
    | ok ps =>
      obtain ⟨ps'⟩ := s
      simp [Except.map]
  · rw [← decides.error_iff]
    cases parsePieces text (text.toList.splitOn ',') <;> simp [Except.map]

end Selection

end TraceReplay
