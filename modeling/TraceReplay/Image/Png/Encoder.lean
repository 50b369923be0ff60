import TraceReplay.Bytes.Deflate
import TraceReplay.Image.Basic
import TraceReplay.Image.Png.Fault

/-!
# Writing PNG files

Images are written with four channels of eight bits, no filter and no compression. An image without
pixels cannot be written. Surplus bytes of an image are no pixels and are left out.
-/

namespace TraceReplay.Png

/-- Append the bytes of a pixel. -/
def pushColor (out : ByteArray) (c : Color) : ByteArray :=
  (((out.push c.r).push c.g).push c.b).push c.a

/-- Append rows of `width` pixels, each after a filter byte, until the pixels are used up. -/
def pushRows (width : Nat) : (rows : Nat) → List Color → ByteArray → ByteArray
  | 0, _, out => out
  | n + 1, colors, out =>
    pushRows width n (colors.drop width) ((colors.take width).foldl pushColor (out.push 0))

/-- The rows of an image as they are compressed. -/
def rows (i : Image) : ByteArray := pushRows i.width i.height i.pixels.toList ByteArray.empty

/-- The file of an image. -/
def encode (i : Image) : Except FileError ByteArray :=
  if i.width = 0 then .error .noWidth
  else if i.height = 0 then .error .noHeight
  else .ok (signature ++ chunk "IHDR" (word i.width ++ word i.height ++ ⟨#[8, 6, 0, 0, 0]⟩)
    ++ chunk "IDAT" (Deflate.zlib (rows i)) ++ chunk "IEND" ByteArray.empty)

end TraceReplay.Png
