import TraceReplay.Image.Color

/-!
# Images

An image is a rectangle of pixels in row-major order. It is read from a buffer that has four bytes
for each pixel and may be longer; the surplus bytes are kept, and they count when images are
compared byte by byte, but they are no pixels. Images that the canvas produces have no surplus.
-/

namespace TraceReplay

/-- A rectangle of pixels, with the bytes that the buffer it came from had left over. -/
structure Image where
  width : Nat
  height : Nat
  /-- Row by row from the top, each row from the left. -/
  pixels : Array Color
  surplus : List UInt8 := []
  size_eq : pixels.size = width * height
deriving DecidableEq

/-- Why a buffer is no image of a size. -/
inductive BufferFault
  | tooShort (width height actual : Nat)
  /-- The size has so many bytes that a word of 64 bits does not count them. This stands for an overflow,
  which is no error of its own: a program that checks its products ends there, and one that does not goes
  on with the remainder. -/
  | uncountable (width height : Nat)
deriving DecidableEq, Repr

namespace Image

/-- How many bytes the pixels of an image take. -/
def byteCount (width height : Nat) : Nat := width * height * 4

/-- An image of the size can be in memory: a signed word of 64 bits counts its bytes. -/
def fits (width height : Nat) : Bool := byteCount width height < 0x8000000000000000

/-- An image of one colour. -/
def solid (width height : Nat) (color : Color) : Image where
  width
  height
  pixels := Array.replicate (width * height) color
  size_eq := Array.size_replicate

/-- A fully transparent image. -/
def blank (width height : Nat) : Image := solid width height Color.clear

/-- Read `count` colours, and give the bytes behind them. Bytes that are missing count as zero. -/
def takeColors : (count : Nat) → List UInt8 → Array Color → Array Color × List UInt8
  | 0, rest, colors => (colors, rest)
  | n + 1, r :: g :: b :: a :: rest, colors => takeColors n rest (colors.push ⟨r, g, b, a⟩)
  | n + 1, _, colors => takeColors n [] (colors.push Color.clear)

theorem size_takeColors (n : Nat) (bytes : List UInt8) (colors : Array Color) :
    (takeColors n bytes colors).1.size = colors.size + n := by
  fun_induction takeColors n bytes colors with
  | case1 => rfl
  | case2 n r g b a rest colors ih =>
    rw [ih, Array.size_push]
    omega
  | case3 n bytes colors _ ih =>
    rw [ih, Array.size_push]
    omega

/-- Read an image from a buffer. The buffer may be longer than the image needs. -/
def ofBytes (width height : Nat) (bytes : List UInt8) : Except BufferFault Image :=
  if UInt64.size ≤ byteCount width height then .error (.uncountable width height)
  else if bytes.length < byteCount width height then
    .error (.tooShort width height bytes.length)
  else .ok {
    width
    height
    pixels := (takeColors (width * height) bytes #[]).1
    surplus := (takeColors (width * height) bytes #[]).2
    size_eq := by simp [size_takeColors] }

/-- The bytes of the pixels, followed by the surplus. -/
def bytes (i : Image) : List UInt8 := i.pixels.toList.flatMap Color.bytes ++ i.surplus

/-- The pixel in column `x` of row `y`, if there is one. -/
def pixel? (i : Image) (x y : Nat) : Option Color :=
  if x < i.width ∧ y < i.height then i.pixels[y * i.width + x]? else none

/-- The image without surplus bytes. -/
def trimmed (i : Image) : Image := { i with surplus := [] }

/-- The image has no pixel. -/
def isEmpty (i : Image) : Bool := i.width == 0 || i.height == 0

/-- A pixel of the image has a place in the row-major order. -/
theorem index_lt (i : Image) {x y : Nat} (column : x < i.width) (row : y < i.height) :
    y * i.width + x < i.pixels.size := by
  rw [i.size_eq]
  calc y * i.width + x < y * i.width + i.width := Nat.add_lt_add_left column _
    _ = (y + 1) * i.width := (Nat.succ_mul ..).symm
    _ ≤ i.height * i.width := Nat.mul_le_mul_right _ row
    _ = i.width * i.height := Nat.mul_comm ..

theorem pixel?_of_inside {i : Image} {x y : Nat} (column : x < i.width) (row : y < i.height) :
    i.pixel? x y = i.pixels[y * i.width + x]? := if_pos ⟨column, row⟩

theorem pixel?_of_outside {i : Image} {x y : Nat} (outside : ¬ (x < i.width ∧ y < i.height)) :
    i.pixel? x y = none := if_neg outside

@[simp] theorem width_solid (w h : Nat) (c : Color) : (solid w h c).width = w := rfl

@[simp] theorem height_solid (w h : Nat) (c : Color) : (solid w h c).height = h := rfl

end Image

/-- The text of a fault. -/
def BufferFault.message : BufferFault → String
  | tooShort width height actual =>
    s!"Image buffer size mismatch: {width}x{height} needs " ++
      s!"{Image.byteCount width height} bytes, got {actual}"
  | uncountable width height => s!"The bytes of {width}x{height} pixels cannot be counted"

end TraceReplay
