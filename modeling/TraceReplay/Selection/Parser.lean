import TraceReplay.Selection.Basic
import TraceReplay.Text.Blank
import TraceReplay.Text.Numeral

/-!
# Reading selections

A selection is written as pieces between commas. A piece is a range, or a range and a suffix after
the first slash; blanks around pieces, ranges, numbers and suffixes do not count.

* `*`, `frame` and `rendertarget` are the whole trace with that frequency;
* `N` is one call, `N-M` a range with both ends, and `N-` a range without end;
* the suffix is `frame`, `rendertarget` or a positive step.

The error is that of the leftmost bad piece; inside a piece the start number is judged before the
stop number, then their order, then the suffix.
-/

namespace TraceReplay

/-- Why a text is no selection. -/
inductive SelectionError
  /-- A piece of the text is blank. -/
  | emptyPiece (text : String)
  | invalidNumber (text : String)
  /-- The range starts after its stop. -/
  | reversedRange (text : String)
  | invalidStep (text : String)
deriving DecidableEq, Repr

def SelectionError.message : SelectionError → String
  | emptyPiece text => s!"Empty element in call set '{text}'"
  | invalidNumber text => s!"Invalid call number '{text}'"
  | reversedRange text => s!"Invalid range '{text}': start is after stop"
  | invalidStep text => s!"Invalid step '{text}'"

/-- The frequency that a word stands for. -/
def Frequency.ofWord? (word : List Char) : Option Frequency :=
  if word = "frame".toList then some .frame
  else if word = "rendertarget".toList then some .renderTarget
  else none

namespace Piece

/-- Read a call number with blanks around it. -/
def parseNumber (text : List Char) : Except SelectionError UInt32 :=
  (Numeral.parseWord (Text.trim text)).mapError fun _ =>
    .invalidNumber (String.ofList (Text.trim text))

/-- Read the stop of a range; a blank one leaves the range open. -/
def parseStop (text : List Char) : Except SelectionError UInt32 :=
  if (Text.trim text).isEmpty then .ok lastCallNo else parseNumber text

/-- Read a range that has no suffix. -/
def parseRange (text : List Char) : Except SelectionError Piece :=
  if text == "*".toList then .ok whole
  else match Frequency.ofWord? text with
    | some f => .ok { whole with frequency := f }
    | none =>
      match Text.cut? '-' text with
      | some (first, last) => do
        let start ← parseNumber first
        let stop ← parseStop last
        if stop < start then .error (.reversedRange (String.ofList text))
        else .ok { whole with start, stop }
      | none => (parseNumber text).map fun no => { whole with start := no, stop := no }

/-- Put a suffix on a range. -/
def withSuffix (p : Piece) (suffix : List Char) : Except SelectionError Piece :=
  match Frequency.ofWord? suffix with
  | some f => .ok { p with frequency := f }
  | none =>
    match Numeral.parseWord suffix with
    | .ok step =>
      if h : 0 < step then .ok { p with step, step_pos := h }
      else .error (.invalidStep (String.ofList suffix))
    | .error _ => .error (.invalidStep (String.ofList suffix))

/-- Read a piece that has no blanks around it. -/
def parse (text : List Char) : Except SelectionError Piece :=
  match Text.cut? '/' text with
  | some (range, suffix) => do
    let p ← parseRange (Text.trim range)
    p.withSuffix (Text.trim suffix)
  | none => parseRange text

end Piece

namespace Selection

/-- Read the pieces of `text` from left to right. -/
def parsePieces (text : String) : List (List Char) → Except SelectionError (List Piece)
  | [] => .ok []
  | raw :: raws =>
    let piece := Text.trim raw
    if piece.isEmpty then .error (.emptyPiece text)
    else do
      let p ← Piece.parse piece
      let ps ← parsePieces text raws
      return p :: ps

/-- Read a selection. -/
def parse (text : String) : Except SelectionError Selection :=
  (parsePieces text (Text.pieces ',' text.toList)).map Selection.mk

end Selection

end TraceReplay
