import TraceReplay.Selection.Parser
import TraceReplay.Selection.Printer

/-!
# The grammar of selections

Which texts are ranges, suffixes and pieces, and which selection they stand for (`RangeText`, `SuffixText`,
`PieceText`); what is wrong with a text that is none (`RangeFault`, `PieceFault`). Nothing here is read from
left to right: a text belongs to the grammar if it can be put together from its parts.

`Piece.Admits` says in whole numbers and bits which calls a piece is about. `Selection.covers?` looks at a
call with arithmetic that gives nothing where a word would wrap or a divisor is zero.
-/

namespace TraceReplay

/-- The text is a call number, maybe with blanks around it. -/
def NumberText (text : List Char) (n : UInt32) : Prop := Numeral.Spells (Text.trim text) n.toNat

/-- The text is a range without blanks around it. -/
inductive RangeText : List Char → Piece → Prop
  /-- `*`, `frame` or `rendertarget`. -/
  | whole (f : Frequency) : RangeText f.wholeWord.toList { Piece.whole with frequency := f }
  | single {text : List Char} {n : UInt32} (number : NumberText text n) :
    RangeText text { Piece.whole with start := n, stop := n }
  | between {first last : List Char} {m n : UInt32} (start : NumberText first m)
    (stop : NumberText last n) (ordered : m ≤ n) :
    RangeText (first ++ '-' :: last) { Piece.whole with start := m, stop := n }
  | onward {first last : List Char} {m : UInt32} (start : NumberText first m)
    (blank : Text.trim last = []) : RangeText (first ++ '-' :: last) { Piece.whole with start := m }

/-- The text is a suffix that makes one piece of another. -/
inductive SuffixText (p : Piece) : List Char → Piece → Prop
  | frequency (f : Frequency) (some : f ≠ .every) : SuffixText p f.wholeWord.toList { p with frequency := f }
  | step {text : List Char} {step : UInt32} (number : Numeral.Spells text step.toNat) (pos : 0 < step) :
    SuffixText p text { p with step, step_pos := pos }

/-- The text is a piece, maybe with blanks around it and its parts. -/
inductive PieceText : List Char → Piece → Prop
  | plain {text : List Char} {p : Piece} (range : RangeText (Text.trim text) p) : PieceText text p
  | suffixed {range suffix : List Char} {p q : Piece} (rangeText : RangeText (Text.trim range) p)
    (suffixText : SuffixText p (Text.trim suffix) q) : PieceText (range ++ '/' :: suffix) q

/-- What is wrong with a range. -/
inductive RangeFault : List Char → SelectionError → Prop
  | single {text : List Char} (closed : '-' ∉ text) (word : ∀ f : Frequency, text ≠ f.wholeWord.toList)
    (misspelled : ∀ n, ¬ NumberText text n) :
    RangeFault text (.invalidNumber (String.ofList (Text.trim text)))
  | start {first last : List Char} (split : '-' ∉ first) (misspelled : ∀ n, ¬ NumberText first n) :
    RangeFault (first ++ '-' :: last) (.invalidNumber (String.ofList (Text.trim first)))
  | stop {first last : List Char} {m : UInt32} (start : NumberText first m) (some : Text.trim last ≠ [])
    (misspelled : ∀ n, ¬ NumberText last n) :
    RangeFault (first ++ '-' :: last) (.invalidNumber (String.ofList (Text.trim last)))
  | reversed {first last : List Char} {m n : UInt32} (start : NumberText first m)
    (stop : NumberText last n) (reversed : n < m) :
    RangeFault (first ++ '-' :: last) (.reversedRange (String.ofList (first ++ '-' :: last)))

/-- What is wrong with a piece of a text, the range before the suffix. -/
inductive PieceFault (text : String) : List Char → SelectionError → Prop
  | blank {raw : List Char} (empty : Text.trim raw = []) : PieceFault text raw (.emptyPiece text)
  | plain {raw : List Char} {e : SelectionError} (some : Text.trim raw ≠ []) (unsuffixed : '/' ∉ raw)
    (fault : RangeFault (Text.trim raw) e) : PieceFault text raw e
  | range {range suffix : List Char} {e : SelectionError} (split : '/' ∉ range)
    (fault : RangeFault (Text.trim range) e) : PieceFault text (range ++ '/' :: suffix) e
  | suffix {range suffix : List Char} {p : Piece} (rangeText : RangeText (Text.trim range) p)
    (wrong : ∀ q, ¬ SuffixText p (Text.trim suffix) q) :
    PieceFault text (range ++ '/' :: suffix) (.invalidStep (String.ofList (Text.trim suffix)))

/-- The first two flag bits say what a frequency asks for; the others do not matter. -/
def Frequency.Admits (c : Call) : Frequency → Prop
  | every => True
  | frame => c.flags.bits.toNat.testBit 0
  | renderTarget => c.flags.bits.toNat.testBit 0 ∨ c.flags.bits.toNat.testBit 1

/-- The piece is about this call. -/
structure Piece.Admits (p : Piece) (c : Call) : Prop where
  start_le : p.start.toNat ≤ c.no.toNat
  le_stop : c.no.toNat ≤ p.stop.toNat
  step_dvd : p.step.toNat ∣ c.no.toNat - p.start.toNat
  frequency : p.frequency.Admits c

/-- The difference of two words, if it is one. -/
def difference? (m n : UInt32) : Option UInt32 := if n ≤ m then some (m - n) else none

/-- The remainder of a division, if there is one. -/
def remainder? (m n : UInt32) : Option UInt32 := if n = 0 then none else some (m % n)

/-- Look at a call with checked arithmetic, condition by condition. -/
def Piece.covers? (p : Piece) (c : Call) : Option Bool :=
  if p.start ≤ c.no ∧ c.no ≤ p.stop then do
    let distance ← difference? c.no p.start
    let rest ← remainder? distance p.step
    return rest == 0 && p.frequency.admits c
  else some false

/-- Look at a call with one piece after the other, until one covers it. -/
def Selection.covers? (s : Selection) (c : Call) : Option Bool := s.pieces.anyM (·.covers? c)

end TraceReplay
