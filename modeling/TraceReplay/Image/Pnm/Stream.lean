import TraceReplay.Image.Pnm

/-!
# Streams of PNM images

Snapshots may be streamed one after the other, each as PNM with a comment. Here such a stream is
read back: `PnmFrame.read?` takes one image off its start, and `PnmFrame.readAll?` reads all of it.
The header says how many bytes of pixels follow, so bytes of an image are never taken for a header.
-/

namespace TraceReplay

/-- What PNM carries of an image. -/
structure PnmFrame where
  comment : List UInt8
  width : Nat
  height : Nat
  /-- Red, green and blue of every pixel, row by row. -/
  rgb : List UInt8
deriving DecidableEq, Repr

/-- What PNM carries of an image. -/
def Image.pnmFrame (i : Image) (comment : String) : PnmFrame :=
  ⟨Text.utf8 comment, i.width, i.height, i.rgbBytes⟩

namespace PnmFrame

/-- The byte at the end of a line. -/
def lineEnd : UInt8 := 10

/-- The byte is a decimal digit. -/
def isDigit (b : UInt8) : Bool := 48 ≤ b && b ≤ 57

/-- The value of digits, the most significant first. -/
def valueOf (digits : List UInt8) : Nat := digits.foldl (fun n d => 10 * n + (d.toNat - 48)) 0

/-- Take given bytes off the start. -/
def expect? (text : String) (bytes : List UInt8) : Option (List UInt8) :=
  let wanted := Text.utf8 text
  if bytes.take wanted.length = wanted then some (bytes.drop wanted.length) else none

/-- Take a line off the start, and leave its end out. -/
def line? (bytes : List UInt8) : Option (List UInt8 × List UInt8) :=
  match bytes.dropWhile (· != lineEnd) with
  | [] => none
  | _ :: rest => some (bytes.takeWhile (· != lineEnd), rest)

/-- Take a number off the start. -/
def number? (bytes : List UInt8) : Option (Nat × List UInt8) :=
  match bytes.takeWhile isDigit with
  | [] => none
  | digits => some (valueOf digits, bytes.dropWhile isDigit)

/-- Take so many bytes off the start. -/
def block? (size : Nat) (bytes : List UInt8) : Option (List UInt8 × List UInt8) :=
  if bytes.length < size then none else some (bytes.take size, bytes.drop size)

/-- Take an image off the start of a stream. -/
def read? (bytes : List UInt8) : Option (PnmFrame × List UInt8) := do
  let bytes ← expect? "P6\n#" bytes
  let (comment, bytes) ← line? bytes
  let (width, bytes) ← number? bytes
  let bytes ← expect? " " bytes
  let (height, bytes) ← number? bytes
  let bytes ← expect? "\n255\n" bytes
  let (rgb, bytes) ← block? (width * height * 3) bytes
  return (⟨comment, width, height, rgb⟩, bytes)

theorem length_expect? {text : String} {bytes rest : List UInt8}
    (h : expect? text bytes = some rest) :
    bytes.length = (Text.utf8 text).length + rest.length := by
  simp only [expect?] at h
  split at h
  · rename_i hw
    have hl := congrArg List.length hw
    rw [List.length_take] at hl
    rw [Option.some.injEq] at h
    rw [← h, List.length_drop]
    omega
  · simp at h

theorem length_line? {bytes line rest : List UInt8} (h : line? bytes = some (line, rest)) :
    bytes.length = line.length + 1 + rest.length := by
  have hb := congrArg List.length (List.takeWhile_append_dropWhile (p := (· != lineEnd)) (l := bytes))
  rw [line?] at h
  split at h
  · simp at h
  · rename_i hd
    simp only [Option.some.injEq, Prod.mk.injEq] at h
    obtain ⟨rfl, rfl⟩ := h
    rw [List.length_append, hd, List.length_cons] at hb
    omega

theorem length_number? {bytes rest : List UInt8} {n : Nat} (h : number? bytes = some (n, rest)) :
    rest.length ≤ bytes.length := by
  rw [number?] at h
  split at h
  · simp at h
  · simp only [Option.some.injEq, Prod.mk.injEq] at h
    rw [← h.2]
    exact (List.dropWhile_suffix _).length_le

theorem length_block? {size : Nat} {bytes block rest : List UInt8}
    (h : block? size bytes = some (block, rest)) : bytes.length = size + rest.length := by
  rw [block?] at h
  split at h
  · simp at h
  · simp only [Option.some.injEq, Prod.mk.injEq] at h
    rw [← h.2, List.length_drop]
    omega

/-- An image takes at least one byte off a stream. -/
theorem length_read? {bytes rest : List UInt8} {frame : PnmFrame}
    (h : read? bytes = some (frame, rest)) : rest.length < bytes.length := by
  simp only [read?, Option.bind_eq_bind, Option.bind_eq_some_iff, Option.pure_def,
    Option.some.injEq, Prod.mk.injEq, Prod.exists] at h
  obtain ⟨a, ha, _, b, hb, _, c, hc, d, hd, _, e, he, f, hf, _, g, hg, _, rfl⟩ := h
  have ha := length_expect? ha
  have hb := length_line? hb
  have hc := length_number? hc
  have hd := length_expect? hd
  have he := length_number? he
  have hf := length_expect? hf
  have hg := length_block? hg
  omega

/-- Read a stream to its end; a stream with anything else in it is not read at all. -/
def readAll? (bytes : List UInt8) : Option (List PnmFrame) :=
  if bytes.isEmpty then some []
  else match _ : read? bytes with
    | none => none
    | some (frame, rest) => (readAll? rest).map (frame :: ·)
termination_by bytes.length
decreasing_by exact length_read? ‹_›

end PnmFrame

end TraceReplay
