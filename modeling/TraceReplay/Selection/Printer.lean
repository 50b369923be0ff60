import TraceReplay.Selection.Basic

/-!
# Writing selections

Each piece is written with the shortest range that names it, then the frequency if the range alone
does not say it, then the step if it is not one.
-/

namespace TraceReplay

namespace Frequency

/-- The word for the whole trace with this frequency. -/
def wholeWord : Frequency → String
  | every => "*"
  | frame => "frame"
  | renderTarget => "rendertarget"

/-- The suffix that restricts a range to this frequency. -/
def suffix : Frequency → String
  | every => ""
  | frame => "/frame"
  | renderTarget => "/rendertarget"

end Frequency

namespace Piece

/-- The range without frequency and step. -/
def renderRange (p : Piece) : String :=
  if p.isWhole then p.frequency.wholeWord
  else if p.start = p.stop then toString p.start.toNat
  else if p.stop = lastCallNo then toString p.start.toNat ++ "-"
  else toString p.start.toNat ++ "-" ++ toString p.stop.toNat

/-- The text of a piece. -/
def render (p : Piece) : String :=
  p.renderRange
    ++ (if p.isWhole then "" else p.frequency.suffix)
    ++ (if 1 < p.step then "/" ++ toString p.step.toNat else "")

end Piece

/-- The text of a selection: its pieces between commas. -/
def Selection.render (s : Selection) : String := String.intercalate "," (s.pieces.map Piece.render)

end TraceReplay
