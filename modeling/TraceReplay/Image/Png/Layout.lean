import TraceReplay.Image.Png.Chunk

/-!
# The layout of a PNG image

What the first chunk says: the size, how many bits a sample has, which samples a pixel has, and
whether the rows are interlaced.
-/

namespace TraceReplay.Png

/-- How channels are stored. -/
inductive ColorKind
  | gray
  | rgb
  | indexed
  | grayAlpha
  | rgba
deriving DecidableEq, Repr

namespace ColorKind

/-- The kind that a number in the file stands for. -/
def ofCode? : Nat → Option ColorKind
  | 0 => some gray
  | 2 => some rgb
  | 3 => some indexed
  | 4 => some grayAlpha
  | 6 => some rgba
  | _ => none

/-- The name of a kind. -/
def name : ColorKind → String
  | gray => "Grayscale"
  | rgb => "Rgb"
  | indexed => "Indexed"
  | grayAlpha => "GrayscaleAlpha"
  | rgba => "Rgba"

/-- How many samples a pixel has. -/
def channels : ColorKind → Nat
  | gray | indexed => 1
  | grayAlpha => 2
  | rgb => 3
  | rgba => 4

/-- How many bits a sample may have. -/
def depths : ColorKind → List Nat
  | gray => [1, 2, 4, 8, 16]
  | indexed => [1, 2, 4, 8]
  | rgb | grayAlpha | rgba => [8, 16]

end ColorKind

/-- How many bits a sample may have with some kind of colour. -/
def knownDepths : List Nat := [1, 2, 4, 8, 16]

/-- The name of a number of bits. -/
def depthName : Nat → String
  | 1 => "One"
  | 2 => "Two"
  | 4 => "Four"
  | 8 => "Eight"
  | _ => "Sixteen"

/-- What the first chunk says. -/
structure Layout where
  width : Nat
  height : Nat
  depth : Nat
  kind : ColorKind
  interlaced : Bool
deriving DecidableEq, Repr

namespace Layout

/-- How many bits a pixel takes. -/
def pixelBits (l : Layout) : Nat := l.kind.channels * l.depth

/-- How many bytes a row of so many pixels takes, without its filter byte. -/
def rowBytes (l : Layout) (width : Nat) : Nat := (width * l.pixelBits + 7) / 8

/-- The distance to the byte that a filter takes for the left neighbour. -/
def filterDistance (l : Layout) : Nat := max 1 (l.pixelBits / 8)

/-- How many bytes a pixel takes when each sample has bytes of its own and each index is replaced by
a colour, with an alpha channel if there is transparency. -/
def spreadBytes (l : Layout) (transparent : Bool) : Nat :=
  let sampleBytes := if l.depth = 16 then 2 else 1
  let alpha := if transparent then 1 else 0
  match l.kind with
  | .gray => (1 + alpha) * sampleBytes
  | .rgb => (3 + alpha) * sampleBytes
  | .indexed => 3 + alpha
  | .grayAlpha => 2 * sampleBytes
  | .rgba => 4 * sampleBytes

end Layout

end TraceReplay.Png
