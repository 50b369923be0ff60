import TraceReplay.Image.Png.Heading
import TraceReplay.Image.Png.Pass

/-!
# The image data

The data of an image is one zlib stream in consecutive chunks. The file is read block by block, and
what a block has of a chunk is inflated turn by turn until there is enough for the image. Rows are
taken from it as soon as nothing in the stream can refer back to them, or nothing more is to be
inflated. So a fault in the stream counts only if there is not enough in front of the turn that
finds it, and where the file ends, all rows that are there are judged first. Where the chunks end,
one turn more is taken with what was at hand. What is left of the chunks is only read over: their
checks have to be right, and the file has to go on up to the name of a chunk that is no image data.
-/

namespace TraceReplay.Png

namespace ChunkPlace

/-- Check a chunk of image data and go to the next one, or nowhere if what follows is no such
data. -/
def nextData? (c : ChunkPlace) (file : ByteArray) : Except FileError (Option ChunkPlace) := do
  let _ ← c.verify file
  match ChunkPlace.at? file c.next with
  | none => .error .cutShort
  | some d =>
    return if d.name = c.name then some d else none

/-- Read over the chunks of image data behind one. -/
def skipData (file : ByteArray) : (fuel : Nat) → ChunkPlace → Except FileError Unit
  | 0, _ => .error .cutShort
  | fuel + 1, c => do
    match ← c.nextData? file with
    | none => return ()
    | some d => skipData file fuel d

end ChunkPlace

/-- How far back a stream may refer, in bytes. -/
def window : Nat := 32768

/-- How many bytes of a file are read at a time. -/
def fileBlock : Nat := 8192

/-- Inflated image data: the bytes that rows may be taken from, and the chunk behind which the rest
is read over, or why there is no more. -/
structure Inflated where
  data : ByteArray
  rest : Except FileError ChunkPlace

namespace Inflated

/-- Of the bytes that an inflater has, rows may be taken from so many. -/
def ofFirst (z : Inflate.Inflater) (count : Nat) (rest : Except FileError ChunkPlace) : Inflated :=
  ⟨z.out.extract 0 count, rest⟩

/-- A fault ends the data behind `start` bytes. -/
def ofFault (z : Inflate.Inflater) (start : Nat) (fault : Inflate.Fault) : Inflated :=
  ofFirst z (start - window) (.error (.malformed (.corrupt fault)))

/-- Read over what is left of the image data. -/
def finish (i : Inflated) (file : ByteArray) : Except FileError Unit :=
  i.rest.bind (ChunkPlace.skipData file (chunkBound file))

end Inflated

/-- How many bytes rows may be taken from after a turn: all if there are to be no more, otherwise
those out of reach of the bytes to come. -/
def settled (z : Inflate.Inflater) : Nat :=
  if z.isDone || z.isFull then z.out.size else z.out.size - window

/-- What there is of a chunk from an offset up to the end of its block of the file. -/
def ChunkPlace.piece (c : ChunkPlace) (file : ByteArray) (offset : Nat) : ByteArray :=
  file.extract offset (min c.checkStart ((offset / fileBlock + 1) * fileBlock))

/-- The last turn, behind the last chunk. It has to reach the end of the stream or its own. -/
def inflateRest (c : ChunkPlace) (z : Inflate.Inflater) : Inflated :=
  let start := z.out.size
  let goal := z.goal
  let z := z.advance
  match z.fault? with
  | some fault => .ofFault z start fault
  | none =>
    if z.isDone || goal ≤ z.out.size then .ofFirst z z.out.size (.ok c)
    else .ofFault z start .brokenOff

/-- Inflate the data of a chunk from an offset on and that of the chunks behind it, until rows that
take `needed` bytes can be taken from it. -/
def inflateFrom (file : ByteArray) (needed : Nat) :
    (fuel : Nat) → ChunkPlace → (offset : Nat) → Inflate.Inflater → Inflated
  | 0, _, _, z => ⟨z.out, .error .cutShort⟩
  | fuel + 1, c, offset, z =>
    if !z.hasMore && file.size ≤ offset then ⟨z.out, .error .cutShort⟩
    else
      let start := z.out.size
      let piece := if z.hasMore then ByteArray.empty else c.piece file offset
      let z := if z.hasMore then z.advance else z.feed piece
      let offset := offset + piece.size
      match z.fault? with
      | some fault => .ofFault z start fault
      | none =>
        let count := settled z
        if z.isDone || needed ≤ count then .ofFirst z count (.ok c)
        else if z.hasMore || offset < c.checkStart then inflateFrom file needed fuel c offset z
        else match c.nextData? file with
          | .error .cutShort => ⟨z.out, .error .cutShort⟩
          | .error e => .ofFirst z count (.error e)
          | .ok none => inflateRest c z
          | .ok (some d) => inflateFrom file needed fuel d d.start z

/-- As many turns as there can be: each of them begins a chunk or a block of the file, or has
inflated a portion. -/
def turnBound (file : ByteArray) (l : Layout) : Nat :=
  chunkBound file + file.size / fileBlock + l.dataLimit / Inflate.portion + 3

/-- Inflate the image data that starts with a chunk. -/
def inflateData (file : ByteArray) (l : Layout) (c : ChunkPlace) : Inflated :=
  inflateFrom file l.dataSize (turnBound file l) c c.start { limit := l.dataLimit }

end TraceReplay.Png
