import TraceReplay.Bytes.Crc32
import TraceReplay.Text.Quoted

/-!
# Chunks

After its signature a PNG file is a sequence of chunks: a length, a name of four letters, the data,
and a check over name and data. Whether the letters of a name are small says how a reader that does
not know the chunk has to take it.
-/

namespace TraceReplay.Png

/-- The first eight bytes of every file. -/
def signature : ByteArray := ⟨#[0x89, 0x50, 0x4e, 0x47, 0x0d, 0x0a, 0x1a, 0x0a]⟩

/-- A number in four bytes at an offset, the high one first. -/
def wordAt? (data : ByteArray) (offset : Nat) : Option Nat := do
  let a ← data[offset]?
  let b ← data[offset + 1]?
  let c ← data[offset + 2]?
  let d ← data[offset + 3]?
  return ((a.toNat * 256 + b.toNat) * 256 + c.toNat) * 256 + d.toNat

/-- A number in four bytes, the high one first. -/
def word (n : Nat) : ByteArray :=
  ⟨#[UInt8.ofNat (n / 16777216), UInt8.ofNat (n / 65536), UInt8.ofNat (n / 256), UInt8.ofNat n]⟩

/-- A chunk with its length and its check. -/
def chunk (name : String) (data : ByteArray) : ByteArray :=
  let body := name.toUTF8 ++ data
  word data.size ++ body ++ word (Crc32.ofBytes body).toNat

/-- The name of a chunk, one character for each of its four bytes. -/
structure ChunkName where
  letters : String
deriving DecidableEq, Repr

namespace ChunkName

/-- The name in four bytes. -/
def ofBytes (bytes : ByteArray) : ChunkName :=
  ⟨String.ofList (bytes.toList.map fun b => Char.ofNat b.toNat)⟩

/-- The letter at an index is small, which is told by one bit of its code. -/
def isSmall (n : ChunkName) (index : Nat) : Bool :=
  match n.letters.toList[index]? with
  | some c => c.toNat / 32 % 2 == 1
  | none => false

/-- A reader must know the chunk. -/
def isCritical (n : ChunkName) : Bool := !n.isSmall 0

/-- The chunk is one of those that make up an image. -/
def isKnown (n : ChunkName) : Bool := ["IHDR", "PLTE", "IDAT", "IEND"].contains n.letters

/-- A fault in the chunk is not passed over: it is critical or describes a frame. -/
def isEssential (n : ChunkName) : Bool := n.isCritical || n.letters == "fcTL"

/-- The greatest length of a chunk whose content is known. -/
def greatestLength : Nat := 0x7fffffff

/-- The least and the greatest length of a chunk's data. Image data and unknown chunks may have any
length that can be written. -/
def lengths (n : ChunkName) : Nat × Nat :=
  match n.letters with
  | "IHDR" => (13, 13)
  | "PLTE" => (3, 768)
  | "IEND" => (0, 0)
  | "tRNS" => (1, 256)
  | "sBIT" => (1, 4)
  | "bKGD" => (1, 6)
  | "gAMA" | "cICP" => (4, 4)
  | "pHYs" => (9, 9)
  | "cHRM" => (32, 32)
  | "sRGB" => (1, 1)
  | "mDCV" => (24, 24)
  | "cLLI" | "acTL" => (8, 8)
  | "fcTL" => (26, 26)
  | "tEXt" => (2, greatestLength)
  | "zTXt" | "iCCP" => (3, greatestLength)
  | "eXIf" => (4, greatestLength)
  | "iTXt" => (6, greatestLength)
  | _ => (0, UInt32.size - 1)

/-- The data of a chunk may have this length. -/
def admits (n : ChunkName) (size : Nat) : Bool := n.lengths.1 ≤ size && size ≤ n.lengths.2

/-- A letter of a name as it is shown, an apostrophe escaped like a quote. -/
def showLetter (c : Char) : String := if c.toNat = 39 then "\\'" else Text.escape c

/-- The name with what its letters say. -/
def render (n : ChunkName) : String :=
  "ChunkType \x7b type: " ++ String.join (n.letters.toList.map showLetter)
    ++ s!", critical: {n.isCritical}, private: {n.isSmall 1}, reserved: {n.isSmall 2}"
    ++ s!", safecopy: {n.isSmall 3} \x7d"

end ChunkName

/-- A chunk in a file: its name, the length of its data, and where the data starts. -/
structure ChunkPlace where
  name : ChunkName
  size : Nat
  start : Nat
deriving DecidableEq, Repr

namespace ChunkPlace

/-- The chunk whose length stands at an offset, if its name is there too. -/
def at? (file : ByteArray) (offset : Nat) : Option ChunkPlace := do
  let size ← wordAt? file offset
  let _ ← wordAt? file (offset + 4)
  return ⟨.ofBytes (file.extract (offset + 4) (offset + 8)), size, offset + 8⟩

/-- Where the check stands. -/
def checkStart (c : ChunkPlace) : Nat := c.start + c.size

/-- Where the next chunk starts. -/
def next (c : ChunkPlace) : Nat := c.checkStart + 4

/-- The data, as far as it is there. -/
def data (c : ChunkPlace) (file : ByteArray) : ByteArray := file.extract c.start c.checkStart

/-- The check that the chunk should have. -/
def computedCheck (c : ChunkPlace) (file : ByteArray) : UInt32 :=
  Crc32.ofBytes (file.extract (c.start - 4) c.checkStart)

end ChunkPlace

end TraceReplay.Png
