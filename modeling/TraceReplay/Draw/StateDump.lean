import TraceReplay.Bytes.Checksum
import TraceReplay.Draw.Canvas
import TraceReplay.Text.JsonText

/-!
# State dumps

The state of a canvas as indented JSON: the bound target, every target with its size and a
checksum of its bytes, the pending commands, and the two counters. A dump does not paint what is
pending.
-/

namespace TraceReplay

namespace DrawCommand

/-- The four channels of a colour as a list. -/
def colorTree (c : Color) : JsonText := .list (c.bytes.map fun b => .number b.toNat)

/-- A command as a tree: a word, or a record with the operands under the command's name. -/
def tree : DrawCommand → JsonText
  | nop => .name "Nop"
  | clear color => .record [("Clear", colorTree color)]
  | fill x y width height color =>
    .record [("FillRect", .record [("x", .number x.toNat), ("y", .number y.toNat),
      ("width", .number width.toNat), ("height", .number height.toNat),
      ("color", colorTree color)])]
  | resize width height =>
    .record [("Resize", .record [("width", .number width.toNat), ("height", .number height.toNat)])]
  | bind target => .record [("BindTarget", .number target.toNat)]
  | present => .name "Present"

end DrawCommand

namespace Canvas

/-- A target with its size and checksum. -/
def targetTree (id : UInt8) (image : Image) : JsonText :=
  .record [("id", .number id.toNat), ("width", .number image.width),
    ("height", .number image.height), ("checksum", .number (Checksum.fnv1a image.bytes).toNat)]

/-- The state of a canvas as a tree. -/
def stateTree (c : Canvas) : JsonText :=
  .record [("bound_target", .number c.bound.toNat),
    ("targets", .list (c.targets.entries.map fun (id, image) => targetTree id image)),
    ("pending", .list (c.pending.toList.map DrawCommand.tree)),
    ("pixels_drawn", .number c.pixelsDrawn), ("presents", .number c.presents)]

/-- The pieces in which a dump is written, a line end after the tree. -/
def dumpPieces (c : Canvas) : List String := c.stateTree.pieces 0 ++ ["\n"]

end Canvas

end TraceReplay
