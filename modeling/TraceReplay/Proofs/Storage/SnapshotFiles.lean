import TraceReplay.Image.Codec
import TraceReplay.Proofs.Storage.Files
import TraceReplay.Snapshot.Policy

/-!
# The files of snapshots

With one start of their names, the snapshots of two calls with different numbers are at different
places, whatever the start is (`place_snapshotPath_ne`), so to write one leaves the other as it was.
Their names end as image files do, so what is written can be read back (`read_of_write_ok`).
-/

namespace TraceReplay

open Text

/-- What follows the start in the name of a snapshot. -/
def snapshotEnding (callNo : UInt32) : List Char :=
  Padded.digits 10 10 callNo.toNat ++ ['.', 'p', 'n', 'g']

theorem toList_snapshotPath (start : String) (callNo : UInt32) :
    (snapshotPath start callNo).toList = start.toList ++ snapshotEnding callNo := by
  simp [snapshotPath, snapshotEnding]

/-- Ten digits are enough for the number of every call. -/
theorem toNat_lt_pow_ten (callNo : UInt32) : callNo.toNat < Nat.pow 10 10 :=
  Nat.lt_trans callNo.toNat_lt (by decide)

theorem snapshotEnding_inj {m n : UInt32} (same : snapshotEnding m = snapshotEnding n) : m = n := by
  have digits := List.append_cancel_right same
  exact UInt32.toNat_inj.1
    (Padded.digits_inj (by decide) (by decide) (toNat_lt_pow_ten m) (toNat_lt_pow_ten n) digits)

theorem length_snapshotEnding (callNo : UInt32) : (snapshotEnding callNo).length = 14 := by
  simp [snapshotEnding]

/-- Digits neither lead into directories nor begin an extension. -/
theorem notMem_digits {c : Char} (other : ∀ k < 10, c ≠ Padded.digit k) (n : Nat) :
    c ∉ Padded.digits 10 10 n := by
  intro mem
  obtain ⟨k, small, rfl⟩ := Padded.exists_of_mem_digits (by decide) mem
  exact other k small rfl

theorem slash_notMem_snapshotEnding (callNo : UInt32) : '/' ∉ snapshotEnding callNo := by
  rw [snapshotEnding, List.mem_append]
  rintro (mem | mem)
  · exact notMem_digits (by decide) _ mem
  · revert mem
    decide

/-- The last component of the start, which may be empty. -/
def snapshotStem (start : String) : List Char := (pieces '/' start.toList).getLast (pieces_ne_nil _ _)

/-- The name of a snapshot in its directory. -/
def snapshotName (start : String) (callNo : UInt32) : String :=
  String.ofList (snapshotStem start ++ snapshotEnding callNo)

theorem snapshotName_inj {start : String} {m n : UInt32}
    (same : snapshotName start m = snapshotName start n) : m = n :=
  snapshotEnding_inj (List.append_cancel_left (String.ofList_inj.1 same))

/-- A name of so many characters is no short one. -/
theorem snapshotName_ne {short : String} (length : short.length < 14) (start : String)
    (callNo : UInt32) : snapshotName start callNo ≠ short := by
  intro same
  have : short.length = (snapshotStem start).length + 14 := by
    rw [← same, snapshotName, String.length_ofList, List.length_append, length_snapshotEnding]
  omega

/-- The path of a snapshot is that of a directory and the name. -/
theorem parts_snapshotPath (start : String) (callNo : UInt32) :
    ∃ directories, parts '/' (snapshotPath start callNo) =
      directories ++ [snapshotName start callNo] := by
  obtain ⟨ps, p, split, split'⟩ := pieces_append (slash_notMem_snapshotEnding callNo) start.toList
  have stem : snapshotStem start = p := by
    simp [snapshotStem, split]
  refine ⟨ps.map String.ofList, ?_⟩
  rw [parts, toList_snapshotPath, split', List.map_append, snapshotName, stem]
  rfl

/-- The components of a path that count end with the last component, if that counts. -/
theorem getLast?_filter_concat {α : Type} {xs : List α} {x : α} {keep : α → Bool} (kept : keep x = true) :
    ((xs ++ [x]).filter keep).getLast? = some x := by
  rw [List.filter_append, List.filter_cons_of_pos kept, List.filter_nil, List.getLast?_concat]

theorem getLast?_components_snapshotPath (start : String) (callNo : UInt32) :
    (Files.components (snapshotPath start callNo)).getLast? = some (snapshotName start callNo) := by
  obtain ⟨directories, split⟩ := parts_snapshotPath start callNo
  rw [Files.components, split]
  exact getLast?_filter_concat (by simpa using snapshotName_ne (by decide) start callNo)

/-- Snapshots of different calls are at different places. -/
theorem place_snapshotPath_ne {start : String} {m n : UInt32} (ne : m ≠ n) (f : Files) (p : List String)
    (led : f.place (snapshotPath start m) = .ok p) : f.place (snapshotPath start n) ≠ .ok p := by
  intro led'
  have last : ∀ k : UInt32, f.place (snapshotPath start k) = .ok p →
      p.getLast? = some (snapshotName start k) := fun k led =>
    Files.getLast?_of_place led (getLast?_components_snapshotPath start k)
      (snapshotName_ne (by decide) start k) (snapshotName_ne (by decide) start k)
  exact ne (snapshotName_inj (Option.some.inj ((last m led).symm.trans (last n led'))))

/-- A snapshot has the extension of image files. -/
theorem fileExtension?_snapshotPath (start : String) (callNo : UInt32) :
    fileExtension? (snapshotPath start callNo) = some "png" := by
  obtain ⟨directories, split⟩ := parts_snapshotPath start callNo
  have name : ((parts '/' (snapshotPath start callNo)).filter fun c => c != "" && c != ".").getLast? =
      some (snapshotName start callNo) := by
    rw [split]
    refine getLast?_filter_concat ?_
    simp [snapshotName_ne (show "".length < 14 by decide), snapshotName_ne (show ".".length < 14 by decide)]
  obtain ⟨ps, p, _, split'⟩ := pieces_append
    (notMem_digits (c := '.') (by decide) callNo.toNat) (snapshotStem start)
  have dotted : parts '.' (snapshotName start callNo) =
      (ps ++ [p ++ Padded.digits 10 10 callNo.toNat]).map String.ofList ++ ["png"] := by
    rw [parts, snapshotName, String.toList_ofList, snapshotEnding, ← List.append_assoc,
      pieces_append_cons, split', pieces_of_notMem (by decide), List.map_append]
    rfl
  have counted : String.ofList (p ++ Padded.digits 10 10 callNo.toNat) ≠ "" := by
    intro empty
    have := congrArg String.length empty
    simp at this
  have ne : snapshotName start callNo ≠ ".." := snapshotName_ne (by decide) start callNo
  rw [fileExtension?, name]
  simp only [dotted]
  split
  · rename_i nothing
    simp at nothing
  · rename_i one
    have := congrArg List.length one
    simp at this
  · rename_i hidden
    cases ps with
    | nil => exact absurd (List.cons.inj hidden).1 counted
    | cons q qs =>
      have := congrArg List.length hidden
      simp at this
  · rw [if_neg ne, List.getLast?_concat]

theorem isPngName_snapshotPath (start : String) (callNo : UInt32) :
    ImageCodec.isPngName (snapshotPath start callNo) = true := by
  rw [ImageCodec.isPngName, fileExtension?_snapshotPath]
  decide +kernel

namespace ImageCodec

variable {codec : ImageCodec} {files : Files} {image : Image} {start : String} {n : UInt32}

/-- An image is written when it can be encoded and its bytes can be written. -/
theorem write_ok_iff {after : Files} {path : String} :
    codec.write files path image = (.ok (), after) ↔
      ∃ content, codec.encode image = .ok content ∧ files.write path content = .ok after := by
  rw [write]
  cases codec.encode image with
  | error e =>
    simp only
    cases files.write path ByteArray.empty <;> simp
  | ok content =>
    simp only
    cases written : files.write path content <;> simp [written]

/-- An image that was written can be read as it was encoded. -/
theorem read_of_write_ok {after : Files} {path : String} {content : ByteArray}
    (encoded : codec.encode image = .ok content)
    (written : codec.write files path image = (.ok (), after)) : after.read path = .ok content := by
  obtain ⟨_, encoded', written⟩ := write_ok_iff.1 written
  obtain rfl := Except.ok.inj (encoded.symm.trans encoded')
  exact Files.read_of_write written

/-- An image that is written again can still be read. -/
theorem read_write_self {path : String} {content : ByteArray}
    (encoded : codec.encode image = .ok content) (there : files.read path = .ok content) :
    (codec.write files path image).2.read path = .ok content := by
  rw [write, encoded]
  simp only
  split
  · exact there
  · rename_i written
    exact Files.read_of_write written

/-- However an image is written, other snapshots can be read as before. -/
theorem read_write_of_ne {m : UInt32} {content : ByteArray} (ne : m ≠ n)
    (there : files.read (snapshotPath start n) = .ok content) :
    (codec.write files (snapshotPath start m) image).2.read (snapshotPath start n) = .ok content := by
  have other : ∀ {bytes : ByteArray} {after : Files},
      files.write (snapshotPath start m) bytes = .ok after →
        after.read (snapshotPath start n) = .ok content := fun written =>
    Files.read_of_write_of_ne written (place_snapshotPath_ne ne files) there
  rw [write]
  split
  split
  · exact there
  · rename_i written
    exact other written

end ImageCodec

end TraceReplay
