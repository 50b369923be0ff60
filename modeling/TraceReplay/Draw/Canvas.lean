import TraceReplay.Draw.Raster
import TraceReplay.Draw.Targets

/-!
# The canvas

Render targets, one of them bound, and the painting commands that are still pending. Painting is
buffered: clears and fills only queue up, and `flush` paints them into the bound target. Whatever
changes the bound target or its size flushes first, and so do presents and captures.
-/

namespace TraceReplay

/-- Render targets and the commands not yet painted. -/
structure Canvas where
  /-- The size that new targets get. -/
  width : Nat
  height : Nat
  targets : Targets
  bound : UInt8
  pending : Array DrawCommand
  /-- How many pixels were painted, counted again each time. -/
  pixelsDrawn : Nat
  presents : Nat
deriving DecidableEq

namespace Canvas

/-- A canvas whose target 0 is bound and blank. -/
def ofSize (width height : Nat) : Canvas where
  width
  height
  targets := .single (.blank width height)
  bound := 0
  pending := #[]
  pixelsDrawn := 0
  presents := 0

/-- A blank image of the size that new targets get. -/
def blank (c : Canvas) : Image := .blank c.width c.height

/-- The image that is drawn into. -/
def boundImage (c : Canvas) : Image := (c.targets.find? c.bound).getD c.blank

/-- Paint everything that is pending. -/
def flush (c : Canvas) : Canvas :=
  if c.pending.isEmpty then c
  else
    let (image, drawn) := c.boundImage.paintAll c.pending.toList
    { c with
      targets := c.targets.insert c.bound image
      pending := #[]
      pixelsDrawn := c.pixelsDrawn + drawn }

/-- Queue a painting command. -/
def enqueue (c : Canvas) (command : DrawCommand) : Canvas :=
  { c with pending := c.pending.push command }

/-- Give the bound target a new size, blank; later targets get this size too. -/
def resize (c : Canvas) (width height : Nat) : Canvas :=
  { c with width, height, targets := c.targets.insert c.bound (.blank width height) }

/-- Bind a target, which is made if it does not exist. -/
def bind (c : Canvas) (id : UInt8) : Canvas :=
  { c with
    bound := id
    targets := c.targets.insert id ((c.targets.find? id).getD c.blank) }

/-- Count a present. -/
def countPresent (c : Canvas) : Canvas := { c with presents := c.presents + 1 }

/-- Queue or perform a command. -/
def submit (c : Canvas) : DrawCommand → Canvas
  | .nop => c
  | .clear color => c.enqueue (.clear color)
  | .fill x y width height color => c.enqueue (.fill x y width height color)
  | .resize width height => c.flush.resize width.toNat height.toNat
  | .bind id => c.flush.bind id
  | .present => c.flush.countPresent

/-- Submit the command in the payload of a call; a payload that is none leaves the canvas alone. -/
def apply (c : Canvas) (payload : List UInt8) : Except CommandError Canvas :=
  (DrawCommand.decode payload).map c.submit

/-- The bound target, with everything painted. -/
def capture (c : Canvas) : Image × Canvas := (c.flush.boundImage, c.flush)

@[simp] theorem pending_flush (c : Canvas) : c.flush.pending = #[] := by
  rw [flush]
  split
  · rename_i h
    simpa using h
  · rfl

@[simp] theorem bound_flush (c : Canvas) : c.flush.bound = c.bound := by
  rw [flush]
  split <;> rfl

/-- A second flush changes nothing. -/
theorem flush_flush (c : Canvas) : c.flush.flush = c.flush := by
  rw [flush]
  simp

end Canvas

end TraceReplay
