import TraceReplay.Draw.Command
import TraceReplay.Image.Basic

/-!
# Painting an image

A clear paints every pixel, a fill the pixels of its rectangle that lie inside the image. Corners
are computed on natural numbers, so a rectangle past the right or lower end does not wrap around.
`DrawCommand.colorAt?` says which pixels a command paints, and `Image.paint` paints them.
-/

namespace TraceReplay

namespace Image

/-- Set `count` pixels from an index on. -/
def setSpan (pixels : Array Color) (start : Nat) (color : Color) : (count : Nat) → Array Color
  | 0 => pixels
  | n + 1 => setSpan (pixels.setIfInBounds start color) (start + 1) color n

/-- Set `count` pixels from column `x` on, in so many rows from row `y` on. -/
def setRows (pixels : Array Color) (stride x count : Nat) (color : Color) (y : Nat) :
    (rows : Nat) → Array Color
  | 0 => pixels
  | n + 1 =>
    setRows (setSpan pixels (y * stride + x) color count) stride x count color (y + 1) n

@[simp] theorem size_setSpan (pixels : Array Color) (start : Nat) (color : Color) (n : Nat) :
    (setSpan pixels start color n).size = pixels.size := by
  induction n generalizing pixels start with
  | zero => rfl
  | succ n ih => simp [setSpan, ih]

@[simp] theorem size_setRows (pixels : Array Color) (stride x count : Nat) (color : Color)
    (y n : Nat) : (setRows pixels stride x count color y n).size = pixels.size := by
  induction n generalizing pixels y with
  | zero => rfl
  | succ n ih => simp [setRows, ih]

/-- Paint the pixels in columns `x0` to `x1` of rows `y0` to `y1`, the upper ends excluded. -/
def fillBox (i : Image) (x0 y0 x1 y1 : Nat) (color : Color) : Image :=
  { i with
    pixels := setRows i.pixels i.width x0 (x1 - x0) color y0 (y1 - y0)
    size_eq := by rw [size_setRows, i.size_eq] }

/-- Paint every pixel. -/
def clearTo (i : Image) (color : Color) : Image :=
  { i with
    pixels := Array.replicate (i.width * i.height) color
    size_eq := Array.size_replicate }

/-- Paint an image as a command says, and count the painted pixels. Only clears and fills paint. -/
def paint (i : Image) : DrawCommand → Image × Nat
  | .clear color => (i.clearTo color, i.width * i.height)
  | .fill x y width height color =>
    let x0 := min x.toNat i.width
    let y0 := min y.toNat i.height
    let x1 := min (x.toNat + width.toNat) i.width
    let y1 := min (y.toNat + height.toNat) i.height
    (i.fillBox x0 y0 x1 y1 color, (x1 - x0) * (y1 - y0))
  | _ => (i, 0)

/-- Paint an image as commands say, one after the other, and count the painted pixels. -/
def paintAll (i : Image) (commands : List DrawCommand) : Image × Nat :=
  commands.foldl (fun (i, drawn) c =>
    let (painted, count) := i.paint c
    (painted, drawn + count)) (i, 0)

/-- The last command is painted over what the others painted. -/
theorem paintAll_concat (i : Image) (commands : List DrawCommand) (command : DrawCommand) :
    i.paintAll (commands ++ [command]) =
      (((i.paintAll commands).1.paint command).1,
        (i.paintAll commands).2 + ((i.paintAll commands).1.paint command).2) := by
  rw [paintAll, List.foldl_append]
  rfl

end Image

/-- The colour that a command gives to the pixel in column `x` of row `y`, if it paints it. -/
def DrawCommand.colorAt? (x y : Nat) : DrawCommand → Option Color
  | clear color => some color
  | fill left top width height color =>
    if left.toNat ≤ x ∧ x < left.toNat + width.toNat ∧ top.toNat ≤ y
        ∧ y < top.toNat + height.toNat then some color
    else none
  | _ => none

end TraceReplay
