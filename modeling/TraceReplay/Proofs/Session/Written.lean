import TraceReplay.Proofs.Session.Filming
import TraceReplay.Proofs.Storage.SnapshotFiles

/-!
# What snapshot steps leave in files

A step that wrote a file wrote what it captured (`MakesShot.of_written`), and steps that are filed under
other numbers, or write the same, leave it as it is (`Filmed.read_kept`).
-/

namespace TraceReplay

section Shots

variable {codec : ImageCodec} {p : SnapshotPolicy} {before after : Files} {pic : Picture}
  {pics : List Picture} {shot : Shot} {shots : List Shot} {image : Image} {content : ByteArray}
  {start path : String} {n : UInt32}

namespace SnapshotPolicy.MakesShot

theorem image_eq (h : p.MakesShot codec before pic shot after) (captured : shot.image? = some image) :
    image = pic.image := by
  have taken := h.image
  rw [captured] at taken
  split at taken
  · exact Option.some.inj taken
  · cases taken

/-- A step that wrote a file captured something. -/
theorem exists_image (h : p.MakesShot codec before pic shot after)
    (written : shot.report.written? = some path) : ∃ image, shot.image? = some image := by
  have filed := h.filed
  cases captured : shot.image? with
  | none =>
    rw [captured, written] at filed
    cases filed
  | some image => exact ⟨image, rfl⟩

/-- A step that wrote a file wrote what it captured, and under its own number. -/
theorem of_written (h : p.MakesShot codec before pic shot after)
    (written : shot.report.written? = some path) (captured : shot.image? = some image) :
    ∃ start, p.writeTo? = some start ∧ path = snapshotPath start shot.number ∧
      codec.write before path image = (.ok (), after) := by
  have filed := h.filed
  rw [captured, written] at filed
  simp only [filing] at filed
  cases writeTo : p.writeTo? with
  | none =>
    rw [writeTo] at filed
    cases filed
  | some start =>
    rw [writeTo] at filed
    simp only at filed
    split at filed
    · cases filed
    · obtain ⟨path_eq, after_eq⟩ := Prod.mk.inj filed
      split at path_eq
      · rename_i worked
        obtain rfl := Option.some.inj path_eq
        rw [h.number]
        refine ⟨start, rfl, rfl, Prod.ext ?_ after_eq.symm⟩
        cases result : (codec.write before (snapshotPath start pic.number) image).1 with
        | ok _ => rfl
        | error e =>
          rw [result] at worked
          cases worked
      · cases path_eq

/-- A snapshot can still be read after a step that is filed elsewhere, or writes the same. -/
theorem read_kept (h : p.MakesShot codec before pic shot after) (writes : p.writeTo? = some start)
    (encoded : codec.encode image = .ok content)
    (same : shot.number = n → ∀ y, shot.image? = some y → y = image)
    (there : before.read (snapshotPath start n) = .ok content) :
    after.read (snapshotPath start n) = .ok content := by
  have filed := h.filed
  cases captured : shot.image? with
  | none =>
    rw [captured] at filed
    obtain rfl := congrArg Prod.snd filed
    exact there
  | some y =>
    rw [captured] at filed
    simp only [filing, writes] at filed
    split at filed
    · obtain rfl := congrArg Prod.snd filed
      exact there
    · obtain rfl := congrArg Prod.snd filed
      by_cases here : pic.number = n
      · obtain rfl := same (h.number.trans here) y captured
        rw [here]
        exact ImageCodec.read_write_self encoded there
      · exact ImageCodec.read_write_of_ne here there

end SnapshotPolicy.MakesShot

namespace Filmed

/-- Each shot was made of one of the pictures. -/
theorem exists_of_mem (h : Filmed codec p before pics shots after) (mem : shot ∈ shots) :
    ∃ pic ∈ pics, shot.number = pic.number ∧ shot.early = pic.early ∧
      ∀ image, shot.image? = some image → image = pic.image := by
  induction h with
  | nil => cases mem
  | cons takes _ ih =>
    rcases List.mem_cons.1 mem with rfl | mem
    · exact ⟨_, List.mem_cons_self, takes.number, takes.early, fun _ => takes.image_eq⟩
    · obtain ⟨pic, mem, made⟩ := ih mem
      exact ⟨pic, List.mem_cons_of_mem _ mem, made⟩

/-- The shots before one, the one, and those after it, with the files between them. -/
theorem split {shots' : List Shot} (h : Filmed codec p before pics (shots ++ shot :: shots') after) :
    ∃ pic pics' between between', p.MakesShot codec between pic shot between' ∧
      Filmed codec p between' pics' shots' after := by
  induction shots generalizing before pics with
  | nil =>
    cases h with
    | cons takes rest => exact ⟨_, _, _, _, takes, rest⟩
  | cons _ _ ih =>
    cases h with
    | cons _ rest => exact ih rest

/-- A snapshot can still be read after steps that are filed elsewhere, or write the same. -/
theorem read_kept (h : Filmed codec p before pics shots after) (writes : p.writeTo? = some start)
    (encoded : codec.encode image = .ok content)
    (same : ∀ shot ∈ shots, shot.number = n → ∀ y, shot.image? = some y → y = image)
    (there : before.read (snapshotPath start n) = .ok content) :
    after.read (snapshotPath start n) = .ok content := by
  induction h with
  | nil => exact there
  | cons takes _ ih =>
    refine ih (fun shot mem => same shot (List.mem_cons_of_mem _ mem)) ?_
    exact takes.read_kept writes encoded (same _ List.mem_cons_self) there

end Filmed

end Shots

end TraceReplay
