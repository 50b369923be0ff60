import TraceReplay.Image.Png.Heading
import TraceReplay.Image.Png.Pass

/-!
# The rows of a PNG image

The inflated data has one row after the other, pass by pass, each with a filter byte that says how
its bytes were predicted.
-/

namespace TraceReplay.Png

/-- Of left, upper and upper left neighbour the one nearest to left plus upper minus upper left. -/
def paeth (a b c : UInt8) : UInt8 :=
  let p : Int := (a.toNat : Int) + b.toNat - c.toNat
  let da := (p - a.toNat).natAbs
  let db := (p - b.toNat).natAbs
  let dc := (p - c.toNat).natAbs
  if da ≤ db ∧ da ≤ dc then a else if db ≤ dc then b else c

/-- What a filter adds to a byte with these neighbours, for the filters that exist. -/
def prediction? (filter : UInt8) (left up corner : UInt8) : Option UInt8 :=
  match filter.toNat with
  | 0 => some 0
  | 1 => some left
  | 2 => some up
  | 3 => some (UInt8.ofNat ((left.toNat + up.toNat) / 2))
  | 4 => some (paeth left up corner)
  | _ => none

/-- Undo the filter of `count` bytes from an offset on, `done` holding the row so far. Nothing if
there is no such filter. -/
def unfilter (data : ByteArray) (filter : UInt8) (distance : Nat) (above : ByteArray) :
    (count : Nat) → (offset : Nat) → (done : ByteArray) → Option ByteArray
  | 0, _, done => some done
  | n + 1, offset, done => do
    let at_ := done.size
    let left := if at_ < distance then 0 else done[at_ - distance]?.getD 0
    let corner := if at_ < distance then 0 else above[at_ - distance]?.getD 0
    let up := above[at_]?.getD 0
    let p ← prediction? filter left up corner
    unfilter data filter distance above n (offset + 1) (done.push (data[offset]?.getD 0 + p))

/-- The bytes of a row of a pass, and the line of the image that it belongs to. -/
structure Row where
  pass : Pass
  y : Nat
  bytes : ByteArray

/-- Rows with the offset of the data that is not yet used. -/
structure Rows where
  rows : Array Row := #[]
  offset : Nat := 0

/-- Indices need a palette, and one whose entries are whole. -/
def Heading.checkPalette (h : Heading) : Except FileError Unit :=
  match h.layout.kind, h.palette? with
  | .indexed, none => .error (.malformed .noPalette)
  | .indexed, some palette => if palette.size % 3 = 0 then .ok () else .error .brokenPalette
  | _, _ => .ok ()

/-- Read the bytes of a row of so many pixels. Only now a palette is asked for. -/
def readRow (h : Heading) (data : ByteArray) (width offset : Nat) (above : ByteArray) :
    Except FileError ByteArray :=
  let count := h.layout.rowBytes width
  if data.size < offset + 1 + count then .error (.malformed .tooLittleData)
  else
    let filter := data[offset]?.getD 0
    match unfilter data filter h.layout.filterDistance above count (offset + 1) ByteArray.empty with
    | none => .error (.malformed (.unknownMethod .filter filter.toNat))
    | some bytes => h.checkPalette.map fun _ => bytes

/-- Read the rows of a pass, `above` being the row before. -/
def readPass (h : Heading) (data : ByteArray) (p : Pass) (width : Nat) :
    (count : Nat) → (y : Nat) → (above : ByteArray) → Rows → Except FileError Rows
  | 0, _, _, read => .ok read
  | n + 1, y, above, ⟨rows, offset⟩ => do
    let bytes ← readRow h data width offset above
    readPass h data p width n (y + p.dy) bytes
      ⟨rows.push ⟨p, y, bytes⟩, offset + 1 + h.layout.rowBytes width⟩

/-- Read all passes; one without pixels takes no data. -/
def readPasses (h : Heading) (data : ByteArray) : List Pass → Rows → Except FileError Rows
  | [], read => .ok read
  | p :: ps, read =>
    if p.isEmpty h.layout then readPasses h data ps read
    else do
      let read ← readPass h data p (p.width h.layout) (p.height h.layout) p.y0 ByteArray.empty read
      readPasses h data ps read

/-- Read all rows of an image. -/
def readRows (h : Heading) (data : ByteArray) : Except FileError (Array Row) :=
  (readPasses h data h.layout.passes {}).map Rows.rows

end TraceReplay.Png
