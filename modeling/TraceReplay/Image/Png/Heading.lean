import TraceReplay.Image.Png.Fault

/-!
# What stands before the image data

The chunks in front of the data: the layout, a palette, transparency, and the frame of an animation
that the image is. A chunk that a reader has to know and does not is refused by its name. A chunk
that a reader may leave out and that is damaged, has a wrong length or makes no sense is passed
over, but frames have to be right, and so has the first description of the colour space in front of
the palette, and a background that is an index must not stand there. What is kept of the chunks
takes memory, and a row of the image has to find room beside it.
-/

namespace TraceReplay.Png

/-- What the chunks in front of the image data say. -/
structure Heading where
  layout : Layout
  palette? : Option ByteArray := none
  transparency? : Option ByteArray := none
  /-- The colour space has been described. -/
  hasColorSpace : Bool := false
  /-- The number of the last chunk that belongs to a frame. -/
  sequence? : Option Nat := none
  /-- A colour profile has been seen. -/
  hasProfile : Bool := false
  /-- Data about the picture has been seen. -/
  hasMetadata : Bool := false
  /-- How many bytes are kept of the chunks. -/
  kept : Nat := 0

/-- Read the layout. Of several faults the one that stands first counts. -/
def Layout.parse (data : ByteArray) : Except FormatFault Layout :=
  match wordAt? data 0, wordAt? data 4, data[8]?, data[9]?, data[10]?, data[11]?, data[12]? with
  | some width, some height, some depth, some code, some compression, some filter, some interlace =>
    let depth := depth.toNat
    if width = 0 || height = 0 then .error .noPixels
    else if !knownDepths.contains depth then .error (.badDepth depth)
    else match ColorKind.ofCode? code.toNat with
      | none => .error (.badColor code.toNat)
      | some kind =>
        if !kind.depths.contains depth then .error (.badCombination kind depth)
        else if compression ≠ 0 then .error (.unknownMethod .compression compression.toNat)
        else if filter ≠ 0 then .error (.unknownMethod .filter filter.toNat)
        else if 1 < interlace then .error (.unknownMethod .interlace interlace.toNat)
        else .ok ⟨width, height, depth, kind, interlace == 1⟩
  | _, _, _, _, _, _, _ => .error (.badLength ⟨"IHDR"⟩)

/-- The chunk as it stands in the file is right; one that is not critical may be wrong. -/
def ChunkPlace.verify (c : ChunkPlace) (file : ByteArray) : Except FileError Bool :=
  match wordAt? file c.checkStart with
  | none => .error .cutShort
  | some stored =>
    let computed := (c.computedCheck file).toNat
    if stored = computed then .ok true
    else if c.name.isCritical then .error (.malformed (.badCheck stored computed c.name))
    else .ok false

/-- The largest image that is read, in bytes. -/
def largestImage : Nat := 512 * 1024 * 1024

/-- The colour profile in a chunk, behind a name of one to 80 bytes, a zero and the number of the
method. -/
def profile? (data : ByteArray) (limit : Nat) : Option ByteArray := do
  let length ← (data.extract 0 81).toList.findIdx? (· == 0)
  let method ← data[length + 1]?
  if length = 0 || method ≠ 0 then none
  else Inflate.inflate? limit (data.extract (length + 2) data.size)

namespace Heading

/-- Keep so many bytes. -/
def keep (h : Heading) (size : Nat) : Heading := { h with kept := h.kept + size }

/-- Take notice of a palette, which may appear once. -/
def takePalette (h : Heading) (data : ByteArray) : Except FileError Heading :=
  if h.palette?.isSome then .error (.malformed (.repeated ⟨"PLTE"⟩))
  else .ok { h.keep data.size with palette? := some data }

/-- Take notice of transparency, the first one that has enough data. Indexed colours need a palette
before it, and colours with an alpha channel have none. It is kept before it is judged. -/
def takeTransparency (h : Heading) (data : ByteArray) : Heading :=
  let isUsable : Bool := match h.layout.kind with
    | .gray => 2 ≤ data.size
    | .rgb => 6 ≤ data.size
    | .indexed => h.palette?.isSome
    | .grayAlpha | .rgba => false
  if h.transparency?.isSome then h
  else if isUsable then { h.keep data.size with transparency? := some data }
  else h.keep data.size

/-- Take notice of how many bits count, if the palette is still to come. -/
def takeSignificance (h : Heading) (data : ByteArray) : Heading :=
  if h.palette?.isSome then h else h.keep data.size

/-- Take notice of the first colour profile. It is kept inflated. -/
def takeProfile (h : Heading) (data : ByteArray) : Heading :=
  if h.hasProfile then h
  else
    let size := match profile? data (largestImage - h.kept) with
      | none => 0
      | some profile => profile.size
    { h.keep size with hasProfile := true }

/-- Take notice of the first data about the picture. -/
def takeMetadata (h : Heading) (data : ByteArray) : Heading :=
  if h.hasMetadata then h else { h.keep data.size with hasMetadata := true }

/-- Take notice of the first description of the colour space in front of the palette. Its matrix
has to be that of colours in red, green and blue, and its range is full or not. -/
def takeColorSpace (h : Heading) (data : ByteArray) : Except FileError Heading :=
  if h.palette?.isSome || h.hasColorSpace then .ok h
  else match data[2]?, data[3]? with
    | some matrix, some range =>
      if matrix = 0 && range ≤ 1 then .ok { h with hasColorSpace := true }
      else .error .meaningless
    | _, _ => .error .meaningless

/-- A background colour may stand here. -/
def checkBackground (h : Heading) : Except FileError Unit :=
  if h.layout.kind = .indexed && h.palette?.isNone then .error .meaningless else .ok ()

/-- Take notice of a frame. The numbers of the chunks of frames go up by one, and a frame in front
of the data is the whole image. -/
def takeFrame (h : Heading) (data : ByteArray) : Except FormatFault Heading :=
  match wordAt? data 0, wordAt? data 4, wordAt? data 8, wordAt? data 12, wordAt? data 16,
    data[24]?, data[25]? with
  | some number, some width, some height, some x, some y, some disposal, some blending =>
    let expected := match h.sequence? with
      | none => 0
      | some last => last + 1
    if number ≠ expected then .error (.badSequence expected number)
    else if 2 < disposal then .error (.badDisposal disposal.toNat)
    else if 1 < blending then .error (.badBlending blending.toNat)
    else if width = 0 || height = 0 then .error .noPixels
    else if x ≠ 0 || y ≠ 0 || width ≠ h.layout.width || height ≠ h.layout.height then
      .error .badFrame
    else .ok { h with sequence? := some number }
  | _, _, _, _, _, _, _ => .error (.badLength ⟨"fcTL"⟩)

/-- Take notice of a chunk. -/
def take (h : Heading) (name : ChunkName) (data : ByteArray) : Except FileError Heading :=
  match name.letters with
  | "IHDR" => .error (.malformed (.repeated name))
  | "IEND" => .error (.malformed .noData)
  | "PLTE" => h.takePalette data
  | "tRNS" => .ok (h.takeTransparency data)
  | "sBIT" => .ok (h.takeSignificance data)
  | "iCCP" => .ok (h.takeProfile data)
  | "eXIf" => .ok (h.takeMetadata data)
  | "tEXt" | "zTXt" | "iTXt" => .ok (h.keep data.size)
  | "cICP" => h.takeColorSpace data
  | "bKGD" => h.checkBackground.map fun _ => h
  | "fcTL" => (h.takeFrame data).mapError .malformed
  | _ => .ok h

/-- Read chunks from an offset on, up to the first one with image data. -/
def readFrom (file : ByteArray) : (fuel : Nat) → (offset : Nat) → Heading →
    Except FileError (Heading × ChunkPlace)
  | 0, _, _ => .error .cutShort
  | fuel + 1, offset, h =>
    match ChunkPlace.at? file offset with
    | none => .error .cutShort
    | some c =>
      let isAdmitted := c.name.admits c.size
      if c.name.letters = "fdAT" then .error (.malformed (.unexpectedData c.name))
      else if !isAdmitted && c.name.isEssential then .error (.malformed (.badLength c.name))
      else if c.name.isCritical && !c.name.isKnown then .error (.malformed (.unknownChunk c.name))
      else if c.name.letters = "IDAT" then .ok (h, c)
      else do
        let isRight ← c.verify file
        let h ← if isRight && isAdmitted then h.take c.name (c.data file) else .ok h
        readFrom file fuel c.next h

end Heading

/-- As many chunks as there can be in a file. -/
def chunkBound (file : ByteArray) : Nat := file.size / 12 + 1

/-- Check the signature, each half of it once it is there. -/
def checkSignature (file : ByteArray) : Except FileError Unit :=
  let given := (file.extract 0 8).toList
  let wanted := signature.toList
  if given.length < 4 then .error .cutShort
  else if given.take 4 ≠ wanted.take 4 then .error (.malformed .badSignature)
  else if given.length < 8 then .error .cutShort
  else if given ≠ wanted then .error (.malformed .badSignature)
  else .ok ()

/-- Check that the bytes of an image can be counted and held. -/
def Layout.checkSize (l : Layout) (transparent : Bool) (limit : Nat) : Except FileError Unit :=
  if limit < l.spreadBytes transparent * l.width * l.height then .error .tooLarge else .ok ()

/-- Check that there is room for an image, and for one of its rows beside what is kept. -/
def Heading.checkRoom (h : Heading) : Except FileError Unit := do
  let transparent := h.transparency?.isSome
  { h.layout with height := 1 }.checkSize transparent (largestImage - h.kept)
  h.layout.checkSize transparent largestImage

/-- Read the layout from the first chunk of a file, and give the offset of the second. -/
def readLayout (file : ByteArray) : Except FileError (Layout × Nat) :=
  match ChunkPlace.at? file signature.size with
  | none => .error .cutShort
  | some c =>
    if c.name.letters ≠ "IHDR" then .error (.malformed (.tooEarly c.name))
    else if !c.name.admits c.size then .error (.malformed (.badLength c.name))
    else do
      let _ ← c.verify file
      let layout ← (Layout.parse (c.data file)).mapError .malformed
      return (layout, c.next)

/-- Read all that stands in front of the image data. An image whose bytes cannot even be counted is
refused at once, one that is too large only when the data begins. -/
def Heading.read (file : ByteArray) : Except FileError (Heading × ChunkPlace) := do
  checkSignature file
  let (layout, offset) ← readLayout file
  layout.checkSize false (UInt64.size - 1)
  let (h, c) ← Heading.readFrom file (chunkBound file) offset { layout }
  h.checkRoom
  return (h, c)

end TraceReplay.Png
