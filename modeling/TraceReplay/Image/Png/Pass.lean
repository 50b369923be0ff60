import TraceReplay.Image.Png.Layout

/-!
# Passes

An interlaced image is stored in seven passes, each an image of its own that has every so many
columns and rows; any other image is stored in one. The rows of a pass follow each other, each with
a filter byte in front. A pass without columns or rows has no data, so the rows take
`Layout.dataSize` bytes; a reader is ready for `Layout.dataLimit`, which is no less
(`dataSize_le_dataLimit`).
-/

namespace TraceReplay.Png

/-- The pixels of an image that are stored together: every so many columns and rows. -/
structure Pass where
  x0 : Nat
  y0 : Nat
  dx : Nat
  dy : Nat
deriving DecidableEq, Repr

namespace Pass

/-- How many pixels of a line of `size` belong to a pass that starts at `start`. -/
def count (size start step : Nat) : Nat := (size - start + step - 1) / step

/-- How many columns of an image belong to a pass. -/
def width (p : Pass) (l : Layout) : Nat := count l.width p.x0 p.dx

/-- How many rows of an image belong to a pass. -/
def height (p : Pass) (l : Layout) : Nat := count l.height p.y0 p.dy

/-- A pass has no pixels. -/
def isEmpty (p : Pass) (l : Layout) : Bool := p.width l = 0 || p.height l = 0

/-- How many bytes the rows of a pass take, each with its filter byte. -/
def size (p : Pass) (l : Layout) : Nat := p.height l * (1 + l.rowBytes (p.width l))

/-- How many bytes the rows of some passes take. -/
def totalSize (l : Layout) : List Pass → Nat
  | [] => 0
  | p :: ps => p.size l + totalSize l ps

theorem totalSize_filter_le (l : Layout) (keep : Pass → Bool) (ps : List Pass) :
    totalSize l (ps.filter keep) ≤ totalSize l ps := by
  induction ps with
  | nil => exact Nat.le_refl _
  | cons p ps ih =>
    by_cases h : keep p = true
    · rw [List.filter_cons_of_pos h]
      exact Nat.add_le_add_left ih _
    · rw [List.filter_cons_of_neg h]
      exact Nat.le_trans ih (Nat.le_add_left _ _)

end Pass

namespace Layout

/-- The passes of an image. -/
def passes (l : Layout) : List Pass :=
  if l.interlaced then
    [⟨0, 0, 8, 8⟩, ⟨4, 0, 8, 8⟩, ⟨0, 4, 4, 8⟩, ⟨2, 0, 4, 4⟩, ⟨0, 2, 2, 4⟩, ⟨1, 0, 2, 2⟩,
      ⟨0, 1, 1, 2⟩]
  else [⟨0, 0, 1, 1⟩]

/-- How many bytes the rows of an image take. -/
def dataSize (l : Layout) : Nat := Pass.totalSize l (l.passes.filter fun p => !p.isEmpty l)

/-- The most bytes that are inflated for an image. Here the rows of a pass count even if they have
no columns. -/
def dataLimit (l : Layout) : Nat := Pass.totalSize l l.passes

/-- There is room for all rows. -/
theorem dataSize_le_dataLimit (l : Layout) : l.dataSize ≤ l.dataLimit :=
  Pass.totalSize_filter_le l _ _

end Layout

end TraceReplay.Png
