import Mathlib.Data.Nat.Bitwise
import TraceReplay.Proofs.Selection.Grammar

/-!
# What texts of selections mean

A piece covers the calls that it is about (`Piece.covers_iff`), and checked arithmetic comes to the same
answer (`Selection.covers?_eq`). So it can be told from a text whether it is a selection, which fault it has
if it is none, and which calls are covered (`Selection.meaning`).
-/

namespace TraceReplay

variable {c : Call}

/-- A flag is a bit of the word. -/
theorem and_ne_zero_iff_testBit {bits mask : UInt32} {k : Nat} (single : mask.toNat = 2 ^ k) :
    (bits &&& mask != 0) = bits.toNat.testBit k := by
  have product : (bits &&& mask).toNat = (bits.toNat.testBit k).toNat * 2 ^ k := by
    rw [UInt32.toNat_and, single, Nat.and_two_pow]
  have zero : (bits &&& mask = 0) ↔ (bits &&& mask).toNat = 0 := UInt32.toNat_inj.symm
  cases bit : bits.toNat.testBit k <;> simp [zero, product, bit, bne]

theorem Frequency.admits_iff (f : Frequency) : f.admits c = true ↔ f.Admits c := by
  have ends : c.endsFrame = c.flags.bits.toNat.testBit 0 := and_ne_zero_iff_testBit rfl
  have swaps : c.swapsTarget = c.flags.bits.toNat.testBit 1 := and_ne_zero_iff_testBit rfl
  cases f with
  | every => simp [admits, Admits]
  | frame => simp [admits, Admits, ends]
  | renderTarget => simp [admits, Admits, ends, swaps]

namespace Piece

variable (p : Piece)

/-- Behind the start the distance is a word. -/
theorem toNat_distance (behind : p.start ≤ c.no) :
    (c.no - p.start).toNat = c.no.toNat - p.start.toNat := UInt32.toNat_sub_of_le _ _ behind

theorem covers_iff : p.covers c = true ↔ p.Admits c := by
  have step : ∀ d : UInt32, d % p.step = 0 ↔ p.step.toNat ∣ d.toNat := by
    intro d
    rw [← UInt32.toNat_inj, UInt32.toNat_mod]
    exact (Nat.dvd_iff_mod_eq_zero ..).symm
  simp only [covers, Bool.and_eq_true, decide_eq_true_eq, beq_iff_eq, step, Frequency.admits_iff,
    UInt32.le_iff_toNat_le]
  constructor
  · rintro ⟨⟨⟨start, stop⟩, multiple⟩, admits⟩
    rw [p.toNat_distance (UInt32.le_iff_toNat_le.2 start)] at multiple
    exact ⟨start, stop, multiple, admits⟩
  · rintro ⟨start, stop, multiple, admits⟩
    refine ⟨⟨⟨start, stop⟩, ?_⟩, admits⟩
    rw [p.toNat_distance (UInt32.le_iff_toNat_le.2 start)]
    exact multiple

/-- No difference is taken in front of the start, and no step is zero. -/
theorem covers?_eq : p.covers? c = some (p.covers c) := by
  have divides : p.step ≠ 0 := (UInt32.ne_of_lt p.step_pos).symm
  by_cases inside : p.start ≤ c.no ∧ c.no ≤ p.stop
  · rw [covers?, if_pos inside, difference?, if_pos inside.1]
    simp [remainder?, divides, covers, inside]
  · rw [covers?, if_neg inside, covers, ← Bool.decide_and, decide_eq_false inside]
    rfl

end Piece

theorem Selection.covers?_eq (s : Selection) (c : Call) : s.covers? c = some (s.covers c) := by
  obtain ⟨pieces⟩ := s
  unfold covers? covers
  induction pieces with
  | nil => rfl
  | cons p pieces ih =>
    rw [List.anyM, p.covers?_eq, List.any_cons]
    cases p.covers c with
    | true => rfl
    | false => exact ih

namespace Selection

variable {raws : List (List Char)} {ps : List Piece}

/-- A piece of a text stands for one piece of a selection. -/
theorem pieceText_unique {raw : List Char} {p q : Piece} (first : PieceText raw p)
    (second : PieceText raw q) : p = q := by
  have read := Piece.parse_of_pieceText first
  rw [Piece.parse_of_pieceText second] at read
  exact (Except.ok.inj read).symm

theorem exists_forall₂_iff : (∃ ps, List.Forall₂ PieceText raws ps) ↔ ∀ raw ∈ raws, ∃ p, PieceText raw p := by
  induction raws with
  | nil => exact iff_of_true ⟨[], .nil⟩ fun _ => nofun
  | cons raw raws ih =>
    rw [List.forall_mem_cons, ← ih]
    constructor
    · rintro ⟨_, is⟩
      cases is with
      | cons first rest => exact ⟨⟨_, first⟩, _, rest⟩
    · rintro ⟨⟨p, first⟩, ps, rest⟩
      exact ⟨p :: ps, .cons first rest⟩

/-- Some piece of the selection is about a call if some piece of the text is. -/
theorem exists_admits_iff (h : List.Forall₂ PieceText raws ps) (c : Call) :
    (∃ p ∈ ps, p.Admits c) ↔ ∃ raw ∈ raws, ∃ p, PieceText raw p ∧ p.Admits c := by
  induction h with
  | nil => simp
  | @cons raw p raws ps first rest ih =>
    have same : (∃ q, PieceText raw q ∧ q.Admits c) ↔ p.Admits c := by
      constructor
      · rintro ⟨q, is, admits⟩
        rw [pieceText_unique first is]
        exact admits
      · exact fun admits => ⟨p, first, admits⟩
    simp only [List.mem_cons, exists_eq_or_imp, ih, same]

theorem covers_append (s t : Selection) (c : Call) :
    covers ⟨s.pieces ++ t.pieces⟩ c = (s.covers c || t.covers c) := List.any_append

/-- What a text means as a selection. -/
structure Meaning (text : String) : Prop where
  /-- The pieces between the commas are those of the selection, one by one. -/
  reads : ∀ s, parse text = .ok s ↔ List.Forall₂ PieceText (text.toList.splitOn ',') s.pieces
  succeeds : (∃ s, parse text = .ok s) ↔ ∀ raw ∈ text.toList.splitOn ',', ∃ p, PieceText raw p
  fails : ∀ e, parse text = .error e ↔ FirstFault text (text.toList.splitOn ',') e
  covers : ∀ s, parse text = .ok s → ∀ c,
    s.covers c = true ↔ ∃ raw ∈ text.toList.splitOn ',', ∃ p, PieceText raw p ∧ p.Admits c
  /-- No word wraps and nothing is divided by zero. -/
  safe : ∀ s, parse text = .ok s → ∀ c, s.covers? c = some (s.covers c)
  /-- With a comma between two texts both are meant. -/
  union : ∀ other s t, parse text = .ok s → parse other = .ok t →
    ∃ u, parse (text ++ "," ++ other) = .ok u ∧ ∀ c, u.covers c = (s.covers c || t.covers c)

theorem parse_append {text other : String} {s t : Selection} (first : parse text = .ok s)
    (second : parse other = .ok t) : parse (text ++ "," ++ other) = .ok ⟨s.pieces ++ t.pieces⟩ := by
  have split : (text ++ "," ++ other).toList.splitOn ',' =
      text.toList.splitOn ',' ++ other.toList.splitOn ',' := by
    have joined : (text ++ "," ++ other).toList = text.toList ++ ',' :: other.toList := by simp
    rw [joined, ← Text.pieces_eq_splitOn, Text.pieces_append_cons, Text.pieces_eq_splitOn,
      Text.pieces_eq_splitOn]
  rw [(decides_parse _).ok_iff, split]
  exact List.rel_append (((decides_parse text).ok_iff s).1 first) (((decides_parse other).ok_iff t).1 second)

/-- Every text means what the grammar says. -/
theorem meaning (text : String) : Meaning text := by
  have decides := decides_parse text
  constructor
  case reads => exact decides.ok_iff
  case succeeds =>
    rw [← exists_forall₂_iff]
    simp only [decides.ok_iff]
    exact ⟨fun ⟨s, is⟩ => ⟨s.pieces, is⟩, fun ⟨ps, is⟩ => ⟨⟨ps⟩, is⟩⟩
  case fails => exact decides.error_iff
  case covers =>
    intro s read c
    rw [covers_iff, ← exists_admits_iff ((decides.ok_iff s).1 read)]
    simp only [Piece.covers_iff]
  case safe => exact fun s _ c => s.covers?_eq c
  case union =>
    intro other s t first second
    exact ⟨_, parse_append first second, covers_append s t⟩

/-- The order of the range is judged before the suffix, and the first piece before the second. -/
example : parse "9-3/0,x" = .error (.reversedRange "9-3") := by rfl

end Selection

end TraceReplay
