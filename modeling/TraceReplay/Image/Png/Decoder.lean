import TraceReplay.Image.Basic
import TraceReplay.Image.Png.Data
import TraceReplay.Image.Png.Row

/-!
# Reading PNG files

All kinds of colour, all depths, interlaced or not, with palettes and transparency; every image is
turned into four channels of eight bits. Sixteen-bit samples are rounded, samples of fewer than
eight bits are spread over the whole range.
-/

namespace TraceReplay.Png

/-- The sample number `index` of a row. -/
def sample (depth : Nat) (row : ByteArray) (index : Nat) : Nat :=
  match depth with
  | 8 => (row[index]?.getD 0).toNat
  | 16 => (row[2 * index]?.getD 0).toNat * 256 + (row[2 * index + 1]?.getD 0).toNat
  | _ =>
    let bit := index * depth
    ((row[bit / 8]?.getD 0).toNat >>> (8 - depth - bit % 8)) % (1 <<< depth)

/-- A sample on the scale of eight bits. -/
def toByte (depth value : Nat) : UInt8 :=
  if depth = 16 then UInt8.ofNat ((value + 128) / 257)
  else UInt8.ofNat (value * 255 / ((1 <<< depth) - 1))

/-- A sample of the transparent colour. Up to eight bits only the low byte counts. -/
def transparentSample (depth : Nat) (data : ByteArray) (index : Nat) : Nat :=
  let high := (data[2 * index]?.getD 0).toNat
  let low := (data[2 * index + 1]?.getD 0).toNat
  if depth = 16 then high * 256 + low else low

/-- The samples are those of the transparent colour. Samples of sixteen bits are compared with all
of the chunk, so none is transparent if it is longer. -/
def Heading.isTransparent (h : Heading) (samples : List Nat) : Bool :=
  match h.transparency? with
  | none => false
  | some data =>
    (h.layout.depth ≠ 16 || data.size == 2 * samples.length)
      && samples.zipIdx.all fun (v, i) => v == transparentSample h.layout.depth data i

/-- The alpha value of a pixel in a file that may name one transparent colour. -/
def Heading.keyedAlpha (h : Heading) (samples : List Nat) : UInt8 :=
  if h.isTransparent samples then 0 else 255

/-- The alpha value of an entry of the palette. Values for more entries than there are count for
none. -/
def Heading.entryAlpha (h : Heading) (palette : ByteArray) (index : Nat) : UInt8 :=
  match h.transparency? with
  | none => 255
  | some data => if data.size ≤ palette.size / 3 then data[index]?.getD 255 else 255

/-- The colour of an index; black if the palette has no such entry. -/
def Heading.entry (h : Heading) (index : Nat) : Color :=
  let palette := h.palette?.getD ByteArray.empty
  let channel := fun (i : Nat) => palette[3 * index + i]?.getD 0
  ⟨channel 0, channel 1, channel 2, h.entryAlpha palette index⟩

/-- Pixel number `x` of a row. -/
def colorAt (h : Heading) (row : ByteArray) (x : Nat) : Color :=
  let depth := h.layout.depth
  let v := fun (i : Nat) => sample depth row (x * h.layout.kind.channels + i)
  let b := fun (i : Nat) => toByte depth (v i)
  match h.layout.kind with
  | .gray => ⟨b 0, b 0, b 0, h.keyedAlpha [v 0]⟩
  | .rgb => ⟨b 0, b 1, b 2, h.keyedAlpha [v 0, v 1, v 2]⟩
  | .grayAlpha => ⟨b 0, b 0, b 0, b 1⟩
  | .rgba => ⟨b 0, b 1, b 2, b 3⟩
  | .indexed => h.entry (v 0)

/-- Put the pixels of a row where they belong, from pixel `x` of the row on. -/
def placeRow (h : Heading) (r : Row) : (count : Nat) → (x : Nat) → Array Color → Array Color
  | 0, _, pixels => pixels
  | n + 1, x, pixels =>
    placeRow h r n (x + 1)
      (pixels.setIfInBounds (r.y * h.layout.width + r.pass.x0 + x * r.pass.dx)
        (colorAt h r.bytes x))

@[simp] theorem size_placeRow (h : Heading) (r : Row) (n x : Nat) (pixels : Array Color) :
    (placeRow h r n x pixels).size = pixels.size := by
  induction n generalizing x pixels with
  | zero => rfl
  | succ n ih => simp [placeRow, ih]

/-- Put the pixels of rows where they belong. -/
def placeRows (h : Heading) : List Row → Array Color → Array Color
  | [], pixels => pixels
  | r :: rs, pixels =>
    placeRows h rs (placeRow h r (r.pass.width h.layout) 0 pixels)

theorem size_placeRows (h : Heading) (rs : List Row) (pixels : Array Color) :
    (placeRows h rs pixels).size = pixels.size := by
  induction rs generalizing pixels with
  | nil => rfl
  | cons r rs ih => rw [placeRows, ih, size_placeRow]

/-- The image of rows. -/
def assemble (h : Heading) (rows : Array Row) : Image where
  width := h.layout.width
  height := h.layout.height
  pixels := placeRows h rows.toList
    (Array.replicate (h.layout.width * h.layout.height) Color.clear)
  size_eq := by rw [size_placeRows, Array.size_replicate]

/-- Read a file as an image. What is left of the image data is read over in the end, or as soon as
it turns out to be too little. -/
def decode (file : ByteArray) : Except FileError Image := do
  let (h, chunk) ← Heading.read file
  let inflated := inflateData file h.layout chunk
  match readRows h inflated.data with
  | .ok rows => (inflated.finish file).map fun _ => assemble h rows
  | .error (.malformed .tooLittleData) =>
    (inflated.finish file).bind fun _ => .error (.malformed .tooLittleData)
  | .error e => .error e

end TraceReplay.Png
