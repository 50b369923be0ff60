import TraceReplay.Draw.Canvas

/-!
# Drawing without fallbacks

Where the bound target is missing, `Canvas.flush` draws into a blank image and `Canvas.capture` gives one, and
pending commands that do not paint are passed over. Here nothing is fallen back on: a target that is missing, or
a pending command that does not paint, gives nothing. That neither occurs is a fact about the canvases that
actions lead to.
-/

namespace TraceReplay

namespace Image

/-- Paint an image as a command says that paints. -/
def paintOnly? (i : Image) (command : DrawCommand) : Option (Image × Nat) :=
  if command.paints then some (i.paint command) else none

/-- Paint an image as commands say that paint, and count the painted pixels. -/
def paintAllOnly? (i : Image) (commands : List DrawCommand) : Option (Image × Nat) :=
  commands.foldlM (fun (i, drawn) command => do
    let (painted, count) ← i.paintOnly? command
    return (painted, drawn + count)) (i, 0)

end Image

namespace Canvas

/-- Paint everything that is pending. -/
def flushStrict? (c : Canvas) : Option Canvas :=
  if c.pending.isEmpty then some c
  else do
    let before ← c.targets.find? c.bound
    let (image, drawn) ← before.paintAllOnly? c.pending.toList
    return { c with
      targets := c.targets.insert c.bound image
      pending := #[]
      pixelsDrawn := c.pixelsDrawn + drawn }

/-- The bound target, with everything painted. -/
def captureStrict? (c : Canvas) : Option (Image × Canvas) := do
  let flushed ← c.flushStrict?
  let image ← flushed.targets.find? flushed.bound
  return (image, flushed)

/-- What can be done with a canvas. -/
inductive Action
  | submit (command : DrawCommand)
  | flush
  | capture
deriving DecidableEq

/-- The canvas that an action leaves. -/
def after (c : Canvas) : Action → Canvas
  | .submit command => c.submit command
  | .flush => c.flush
  | .capture => c.capture.2

end Canvas

end TraceReplay
