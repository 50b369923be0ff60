import TraceReplay.Draw.Canvas

/-!
# The canvas without a buffer

A canvas that paints every clear and fill into the bound target at the moment it is submitted. It
says what the buffered canvas shows: after a flush both have the same targets, bound target, size,
presents and count of painted pixels.
-/

namespace TraceReplay

/-- Render targets that are painted at once. -/
structure EagerCanvas where
  /-- The size that new targets get. -/
  width : Nat
  height : Nat
  targets : Targets
  bound : UInt8
  pixelsDrawn : Nat
  presents : Nat
deriving DecidableEq

namespace EagerCanvas

/-- A canvas whose target 0 is bound and blank. -/
def ofSize (width height : Nat) : EagerCanvas where
  width
  height
  targets := .single (.blank width height)
  bound := 0
  pixelsDrawn := 0
  presents := 0

/-- The image that is drawn into. -/
def boundImage (e : EagerCanvas) : Image :=
  (e.targets.find? e.bound).getD (.blank e.width e.height)

/-- Perform a command. -/
def submit (e : EagerCanvas) : DrawCommand → EagerCanvas
  | .nop => e
  | .resize width height =>
    { e with
      width := width.toNat
      height := height.toNat
      targets := e.targets.insert e.bound (.blank width.toNat height.toNat) }
  | .bind id =>
    { e with
      bound := id
      targets := e.targets.insert id ((e.targets.find? id).getD (.blank e.width e.height)) }
  | .present => { e with presents := e.presents + 1 }
  | command =>
    { e with
      targets := e.targets.insert e.bound (e.boundImage.paint command).1
      pixelsDrawn := e.pixelsDrawn + (e.boundImage.paint command).2 }

/-- Perform the command in the payload of a call. -/
def apply (e : EagerCanvas) (payload : List UInt8) : Except CommandError EagerCanvas :=
  (DrawCommand.decode payload).map e.submit

/-- The bound target. -/
def capture (e : EagerCanvas) : Image := e.boundImage

end EagerCanvas

/-- What a canvas shows once everything is painted. -/
def Canvas.shown (c : Canvas) : EagerCanvas :=
  let f := c.flush
  ⟨f.width, f.height, f.targets, f.bound, f.pixelsDrawn, f.presents⟩

end TraceReplay
