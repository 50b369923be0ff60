import TraceReplay.Image.Png.Decoder
import TraceReplay.Image.Png.Encoder
import TraceReplay.Storage.Files

/-!
# Image files

Writing images to files and reading them back, with whatever turns images into bytes. The format of
a file is told by the end of its name alone.
-/

namespace TraceReplay

/-- A way to turn images into the bytes of files and back. -/
structure ImageCodec where
  encode : Image → Except Png.FileError ByteArray
  decode : ByteArray → Except Png.FileError Image

/-- Images as PNG files. -/
def Png.codec : ImageCodec := ⟨Png.encode, Png.decode⟩

namespace ImageCodec

/-- The name ends as PNG files do, in letters of either case. -/
def isPngName (path : String) : Bool :=
  match fileExtension? path with
  | some ext => ext.toLower == "png" || ext.toLower == "apng"
  | none => false

/-- Read an image file. -/
def read (codec : ImageCodec) (files : Files) (path : String) : Except Png.FileError Image :=
  match files.read path with
  | .error cause => .error (.storage cause)
  | .ok content => if isPngName path then codec.decode content else .error .unknownFormat

/-- Write an image file. The file is made before the image is encoded, so one that cannot be
encoded leaves an empty file. -/
def write (codec : ImageCodec) (files : Files) (path : String) (image : Image) :
    Except Png.FileError Unit × Files :=
  let (result, content) := match codec.encode image with
    | .ok content => (.ok (), content)
    | .error e => (.error e, ByteArray.empty)
  match files.write path content with
  | .error cause => (.error (.storage cause), files)
  | .ok files => (result, files)

end ImageCodec

end TraceReplay
