import TraceReplay.Bytes.Inflate
import TraceReplay.Image.Png.Layout
import TraceReplay.Storage.Fault

/-!
# What can be wrong with an image file

One constructor per cause, and the wording of each in `FormatFault.message` and `FileError.message`.
-/

namespace TraceReplay.Png

/-- A way of storing images that a file has to choose. -/
inductive Method
  | compression
  | filter
  | interlace
deriving DecidableEq, Repr

def Method.word : Method → String
  | compression => "compression"
  | filter => "filter"
  | interlace => "interlace"

/-- Why a file is no PNG image. -/
inductive FormatFault
  | badSignature
  /-- A chunk stands in front of the one with the layout. -/
  | tooEarly (chunk : ChunkName)
  | badLength (chunk : ChunkName)
  /-- The check of a chunk is wrong. -/
  | badCheck (stored computed : Nat) (chunk : ChunkName)
  | repeated (chunk : ChunkName)
  /-- A reader has to know the chunk, and this one does not. -/
  | unknownChunk (chunk : ChunkName)
  /-- An image or a frame has no pixels. -/
  | noPixels
  | badDepth (bits : Nat)
  | badColor (code : Nat)
  | badCombination (kind : ColorKind) (depth : Nat)
  | unknownMethod (method : Method) (code : Nat)
  | badDisposal (code : Nat)
  | badBlending (code : Nat)
  /-- A frame does not lie in the image. -/
  | badFrame
  | badSequence (expected found : Nat)
  /-- Data of a frame stands in front of that of the image. -/
  | unexpectedData (chunk : ChunkName)
  | noData
  | tooLittleData
  | corrupt (cause : Inflate.Fault)
  | noPalette
deriving DecidableEq, Repr

namespace FormatFault

/-- The text of a fault. -/
def message : FormatFault → String
  | badSignature => "Invalid PNG signature."
  | tooEarly chunk => chunk.render ++ " chunk appeared before IHDR chunk"
  | badLength chunk => "Chunk length wrong: " ++ chunk.render
  | badCheck stored computed chunk =>
    "CRC error: expected 0x" ++ Text.smallHex stored ++ " have 0x" ++ Text.smallHex computed
      ++ " while decoding " ++ chunk.render ++ " chunk."
  | repeated chunk => "Chunk " ++ chunk.render ++ " must appear at most once."
  | unknownChunk chunk => "Unrecognized critical chunk: " ++ chunk.render
  | noPixels => "Invalid image dimensions"
  | badDepth bits => s!"Invalid bit depth {bits}."
  | badColor code => s!"Invalid color type {code}."
  | badCombination kind depth =>
    s!"Invalid color/depth combination in header: {kind.name}/{depthName depth}"
  | unknownMethod method code => s!"Unknown {method.word} method {code}."
  | badDisposal code => s!"Invalid dispose op {code}."
  | badBlending code => s!"Invalid blend op {code}."
  | badFrame => "Sub frame is out-of-bounds."
  | badSequence expected found =>
    s!"Sequence is not in order, expected #{expected} got #{found}."
  | unexpectedData chunk => "Unexpected restart of " ++ chunk.render ++ " chunk sequence"
  | noData => "IDAT or fdAT chunk is missing."
  | tooLittleData => "IDAT or fDAT chunk does not have enough data for image."
  | corrupt cause => "Corrupt deflate stream. " ++ cause.name
  | noPalette => "Missing palette of indexed image."

end FormatFault

/-- Why an image file cannot be read or written. -/
inductive FileError
  | storage (cause : StorageFault)
  /-- The name does not end as PNG files do. -/
  | unknownFormat
  /-- The file ends too early. -/
  | cutShort
  | malformed (fault : FormatFault)
  /-- A chunk that may be missing has data that means nothing. -/
  | meaningless
  /-- The image takes too much memory. -/
  | tooLarge
  /-- The palette ends inside an entry, which no reader can go on with. -/
  | brokenPalette
  | noWidth
  | noHeight
deriving DecidableEq, Repr

namespace FileError

/-- The text of the fault inside the file. -/
def reason : FileError → String
  | storage cause => cause.message
  | unknownFormat => "The image format could not be determined"
  | cutShort => "unexpected end of file"
  | malformed fault => "Format error decoding Png: " ++ fault.message
  | meaningless => "invalid data"
  | tooLarge => "Memory limit exceeded"
  | brokenPalette => "the palette ends inside an entry"
  | noWidth => "Zero width not allowed"
  | noHeight => "Zero height not allowed"

/-- The text shown to a user. -/
def message (e : FileError) : String := "Codec error: " ++ e.reason

end FileError

end TraceReplay.Png
