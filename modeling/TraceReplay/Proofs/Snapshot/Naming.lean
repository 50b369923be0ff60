import TraceReplay.Proofs.Storage.SnapshotFiles
import TraceReplay.Proofs.Text.Padding
import TraceReplay.Text.Utf8

/-!
# The names of snapshots

The name of a snapshot tells the start and the call, even if the start ends in digits itself, and names with one start
are ordered as the calls are (`snapshotPath_orderly`). Both rest on the width of the number: ten digits are
enough for every call, so all endings have one length.
-/

namespace TraceReplay

variable {α : Type} [LT α] [Std.Irrefl fun a b : α => a < b] {encode : Char → List α}

theorem length_toDigits_callNo (callNo : UInt32) : (Nat.toDigits 10 callNo.toNat).length ≤ 10 :=
  (Nat.length_toDigits_le_iff (by decide) (by decide)).2 (toNat_lt_pow_ten callNo)

/-- The name has all digits of the number, none is cut off. -/
theorem snapshotPath_eq (start : String) (callNo : UInt32) :
    snapshotPath start callNo =
      start ++ String.ofList ((Nat.toDigits 10 callNo.toNat).leftpad 10 '0') ++ ".png" := by
  rw [snapshotPath, Padded.digits_eq_leftpad (length_toDigits_callNo callNo)]

theorem length_snapshotPath (start : String) (callNo : UInt32) :
    (snapshotPath start callNo).length = start.length + 14 := by
  rw [← String.length_toList, toList_snapshotPath, List.length_append, length_snapshotEnding, String.length_toList]

/-- The endings have one length, so a name can be cut in front of its ending, whatever the start ends in. -/
theorem snapshotPath_eq_iff {start start' : String} {m n : UInt32} :
    snapshotPath start m = snapshotPath start' n ↔ start = start' ∧ m = n := by
  constructor
  · intro same
    have chars : start.toList ++ snapshotEnding m = start'.toList ++ snapshotEnding n := by
      rw [← toList_snapshotPath, ← toList_snapshotPath, same]
    have length : (snapshotEnding m).length = (snapshotEnding n).length := by
      rw [length_snapshotEnding, length_snapshotEnding]
    obtain ⟨starts, endings⟩ := List.append_inj' chars length
    exact ⟨String.toList_inj.1 starts, snapshotEnding_inj endings⟩
  · rintro ⟨rfl, rfl⟩
    rfl

/-- In an encoding that keeps the order of digits, names are ordered as their numbers. -/
theorem flatMap_snapshotPath_lt_iff (keeps : Padded.KeepsDigits 10 encode) (start : String) (m n : UInt32) :
    (snapshotPath start m).toList.flatMap encode < (snapshotPath start n).toList.flatMap encode ↔ m < n := by
  have digits := keeps.flatMap_lt_iff (by decide) (toNat_lt_pow_ten m) (toNat_lt_pow_ten n)
  have length := keeps.length_flatMap (by decide) 10 m.toNat n.toNat
  rw [toList_snapshotPath, toList_snapshotPath, snapshotEnding, snapshotEnding]
  simp only [List.flatMap_append]
  -- The start does not decide, and neither does the extension.
  rw [Padded.append_lt_append_iff rfl, Padded.append_lt_append_iff length, digits, UInt32.lt_iff_toNat_lt]
  simp [List.lt_irrefl]

theorem keepsDigits_char : Padded.KeepsDigits 10 fun c => [c] where
  length_eq := fun _ _ _ _ => rfl
  lt_iff := by decide

theorem keepsDigits_utf8 : Padded.KeepsDigits 10 String.utf8EncodeChar where
  length_eq := by decide
  lt_iff := by decide

/-- A name is the start and the number in ten digits, no two pairs of a start and a call have one name, and names
with one start are ordered as the calls are, as characters and as bytes. -/
theorem snapshotPath_orderly :
    (∀ start callNo, snapshotPath start callNo =
      start ++ String.ofList ((Nat.toDigits 10 callNo.toNat).leftpad 10 '0') ++ ".png" ∧
      (snapshotPath start callNo).length = start.length + 14) ∧
    (∀ start start' m n, snapshotPath start m = snapshotPath start' n ↔ start = start' ∧ m = n) ∧
    ∀ start m n,
      (snapshotPath start m < snapshotPath start n ↔ m < n) ∧
      (Text.utf8 (snapshotPath start m) < Text.utf8 (snapshotPath start n) ↔ m < n) := by
  refine ⟨fun start callNo => ⟨snapshotPath_eq start callNo, length_snapshotPath start callNo⟩,
    fun _ _ _ _ => snapshotPath_eq_iff, fun start m n => ⟨?_, ?_⟩⟩
  · have chars := flatMap_snapshotPath_lt_iff keepsDigits_char start m n
    rwa [List.flatMap_singleton', List.flatMap_singleton'] at chars
  · exact flatMap_snapshotPath_lt_iff keepsDigits_utf8 start m n

/-- A start that ends in digits leaves the greatest number its ten. -/
example : snapshotPath "run7" 4294967295 = "run74294967295.png" ∧ snapshotPath "run" 74 = "run0000000074.png" := by
  decide

end TraceReplay
