/-!
# Decimal numerals

Whole numbers in ASCII digits, read with a least and a greatest value. A plus sign may stand in
front, a minus sign only where negative values exist. Digits are judged from left to right, so of
two faults in a text the first one is reported.
-/

namespace TraceReplay

/-- Why a text is no number of the wanted range. -/
inductive NumeralError
  | empty
  | invalidDigit
  /-- The number is above the greatest value. -/
  | tooLarge
  /-- The number is below the least value. -/
  | tooSmall
deriving DecidableEq, Repr

namespace NumeralError

def message : NumeralError → String
  | empty => "cannot parse integer from empty string"
  | invalidDigit => "invalid digit found in string"
  | tooLarge => "number too large to fit in target type"
  | tooSmall => "number too small to fit in target type"

/-- The name of the cause in structured output. -/
def kind : NumeralError → String
  | empty => "Empty"
  | invalidDigit => "InvalidDigit"
  | tooLarge => "PosOverflow"
  | tooSmall => "NegOverflow"

/-- The structured text of the error, as the diagnostic tools print it. -/
def detail (e : NumeralError) : String := "ParseIntError \x7b kind: " ++ e.kind ++ " \x7d"

end NumeralError

namespace Numeral

/-- The value of an ASCII digit. -/
def digit? (c : Char) : Option Nat :=
  if '0' ≤ c ∧ c ≤ '9' then some (c.toNat - 48) else none

/-- Read digits behind the value `acc`, never going above `bound`. -/
def digits (bound : Nat) (overflow : NumeralError) (acc : Nat) :
    List Char → Except NumeralError Nat
  | [] => .ok acc
  | c :: cs =>
    match digit? c with
    | none => .error .invalidDigit
    | some d =>
      let acc := 10 * acc + d
      if bound < acc then .error overflow else digits bound overflow acc cs

/-- Read an unsigned number of at most `greatest`. -/
def parseNat (greatest : Nat) : List Char → Except NumeralError Nat
  | [] => .error .empty
  | ['+'] => .error .invalidDigit
  | '+' :: cs => digits greatest .tooLarge 0 cs
  | cs => digits greatest .tooLarge 0 cs

/-- Read a signed number between `-least` and `greatest`. -/
def parseInt (least greatest : Nat) : List Char → Except NumeralError Int
  | [] => .error .empty
  | ['-'] => .error .invalidDigit
  | '-' :: cs => (digits least .tooSmall 0 cs).map fun n => -(n : Int)
  | cs => (parseNat greatest cs).map fun n => (n : Int)

/-- Read a word of 32 bits. -/
def parseWord (s : List Char) : Except NumeralError UInt32 :=
  (parseNat (UInt32.size - 1) s).map UInt32.ofNat

/-- Read a word of 16 bits. -/
def parseShort (s : List Char) : Except NumeralError UInt16 :=
  (parseNat (UInt16.size - 1) s).map UInt16.ofNat

/-- The text is the number in decimal digits, with or without a plus sign in front. -/
def Spells (s : List Char) (n : Nat) : Prop :=
  ∃ ds, (s = ds ∨ s = '+' :: ds) ∧ ds ≠ [] ∧ (∀ d ∈ ds, d.isDigit = true) ∧ Nat.ofDigitChars 10 ds 0 = n

end Numeral

end TraceReplay
