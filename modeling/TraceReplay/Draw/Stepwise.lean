import TraceReplay.Draw.Canvas

/-!
# Painting one pixel after the other

`Image.paint` sets whole spans, where a pixel beyond the image is left out and a difference below zero
is zero. Here every pixel is set by its column and row, rows first, and the arithmetic has its bounds: a
pixel outside of the image, a sum that 32 bits do not hold or a difference below zero gives nothing. That
none of them occurs is a fact about the clipping of rectangles.
-/

namespace TraceReplay

namespace Image

/-- The sum of two numbers, in 32 bits. -/
def sum? (a b : Nat) : Option Nat := if a + b < UInt32.size then some (a + b) else none

/-- The difference of two numbers. -/
def difference? (a b : Nat) : Option Nat := if b ≤ a then some (a - b) else none

/-- The image with other pixels, as many as before. -/
def withPixels (i : Image) (pixels : Array Color) (same : pixels.size = i.pixels.size) : Image :=
  { i with pixels, size_eq := same.trans i.size_eq }

/-- Set one pixel of the image. -/
def setPixel? (i : Image) (x y : Nat) (color : Color) : Option Image :=
  if inside : x < i.width ∧ y < i.height then
    some (i.withPixels
      (i.pixels.set (y * i.width + x) color (i.index_lt inside.1 inside.2))
      (Array.size_set _))
  else none

/-- Set `count` pixels of a row, from column `x` on. -/
def setEach? (i : Image) (y x count : Nat) (color : Color) : Option Image :=
  (List.range' x count).foldlM (fun i x => i.setPixel? x y color) i

/-- Set the pixels in columns `x0` to `x1` of rows `y0` to `y1`, the upper ends excluded. -/
def fillEach? (i : Image) (x0 y0 x1 y1 : Nat) (color : Color) : Option Image :=
  (List.range' y0 (y1 - y0)).foldlM (fun i y => i.setEach? y x0 (x1 - x0) color) i

/-- Paint an image as a command says, and count the painted pixels. -/
def paintEach? (i : Image) : DrawCommand → Option (Image × Nat)
  | .clear color => some (i.clearTo color, i.width * i.height)
  | .fill x y width height color => do
    let right ← sum? x.toNat width.toNat
    let lower ← sum? y.toNat height.toNat
    let x0 := min x.toNat i.width
    let y0 := min y.toNat i.height
    let x1 := min right i.width
    let y1 := min lower i.height
    let painted ← i.fillEach? x0 y0 x1 y1 color
    let columns ← difference? x1 x0
    let rows ← difference? y1 y0
    return (painted, columns * rows)
  | _ => some (i, 0)

end Image

/-- Paint everything that is pending. -/
def Canvas.flushEach? (c : Canvas) : Option Canvas :=
  if c.pending.isEmpty then some c
  else do
    let (image, drawn) ← c.pending.toList.foldlM (fun (image, drawn) command => do
      let (painted, count) ← image.paintEach? command
      return (painted, drawn + count)) (c.boundImage, 0)
    return { c with
      targets := c.targets.insert c.bound image
      pending := #[]
      pixelsDrawn := c.pixelsDrawn + drawn }

end TraceReplay
