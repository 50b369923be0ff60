import TraceReplay.Image.Basic
import TraceReplay.Text.Utf8

/-!
# PNM images

The binary colour format `P6`: a header with a comment line, the size and the greatest channel
value, then red, green and blue of every pixel. Alpha is dropped.
-/

namespace TraceReplay

namespace Color

/-- The channels that PNM carries. -/
def rgb (c : Color) : List UInt8 := [c.r, c.g, c.b]

end Color

namespace Image

/-- The digits of a number, as bytes. -/
def decimalBytes (n : Nat) : List UInt8 := Text.utf8Chars (Nat.toDigits 10 n)

/-- Red, green and blue of every pixel, row by row. -/
def rgbBytes (i : Image) : List UInt8 := i.pixels.toList.flatMap Color.rgb

/-- The pieces in which an image is written as PNM, with a comment on its second line. -/
def pnmPieces (i : Image) (comment : String) : List (List UInt8) :=
  [Text.utf8 "P6\n#", Text.utf8 comment, Text.utf8 "\n", decimalBytes i.width, Text.utf8 " ",
    decimalBytes i.height, Text.utf8 "\n255\n", i.rgbBytes]

/-- An image as PNM. -/
def pnm (i : Image) (comment : String) : List UInt8 := (i.pnmPieces comment).flatten

end Image

end TraceReplay
