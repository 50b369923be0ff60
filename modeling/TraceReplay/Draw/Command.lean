import TraceReplay.Bytes.LittleEndian
import TraceReplay.Image.Color

/-!
# Draw commands

The payload of a call is an opcode byte followed by little-endian operands; an empty payload is a
command that does nothing. Every opcode has a fixed number of operand bytes.
-/

namespace TraceReplay

/-- What a call asks the canvas to do. -/
inductive DrawCommand
  | nop
  /-- Paint the whole bound target. -/
  | clear (color : Color)
  /-- Paint a rectangle of the bound target. -/
  | fill (x y width height : UInt16) (color : Color)
  /-- Give the bound target a new size, blank. -/
  | resize (width height : UInt16)
  /-- Draw into another target from now on. -/
  | bind (target : UInt8)
  | present
deriving DecidableEq, Repr

/-- Why a payload is no draw command. -/
inductive CommandError
  | unknownOpcode (opcode : UInt8)
  /-- The opcode has `expected` operand bytes, the payload gives `actual`. -/
  | wrongLength (opcode : UInt8) (expected actual : Nat)
deriving DecidableEq, Repr

def CommandError.message : CommandError → String
  | unknownOpcode opcode => s!"Unknown draw opcode {opcode.toNat}"
  | wrongLength opcode expected actual =>
    s!"Draw opcode {opcode.toNat} needs {expected} payload bytes, got {actual}"

namespace DrawCommand

/-- How many operand bytes an opcode has, for the opcodes that exist. -/
def operandBytes? (opcode : UInt8) : Option Nat :=
  match opcode.toNat with
  | 0 => some 0
  | 1 => some 4
  | 2 => some 12
  | 3 => some 4
  | 4 => some 1
  | 5 => some 0
  | _ => none

/-- Two operand bytes at a position. -/
def shortAt (operands : List UInt8) (position : Nat) : UInt16 :=
  UInt16.ofNat (LittleEndian.decode ((operands.drop position).take 2))

/-- The command of a known opcode, from operands of the right number. -/
def ofOperands (opcode : UInt8) (operands : List UInt8) : DrawCommand :=
  match opcode.toNat with
  | 1 => clear (Color.ofBytes operands)
  | 2 => fill (shortAt operands 0) (shortAt operands 2) (shortAt operands 4) (shortAt operands 6)
      (Color.ofBytes (operands.drop 8))
  | 3 => resize (shortAt operands 0) (shortAt operands 2)
  | 4 => bind (operands.getD 0 0)
  | 5 => present
  | _ => nop

/-- Read the payload of a call. -/
def decode : List UInt8 → Except CommandError DrawCommand
  | [] => .ok nop
  | opcode :: operands =>
    match operandBytes? opcode with
    | none => .error (.unknownOpcode opcode)
    | some expected =>
      if operands.length = expected then .ok (ofOperands opcode operands)
      else .error (.wrongLength opcode expected operands.length)

/-- Two operand bytes of a number. -/
def short (n : UInt16) : List UInt8 := LittleEndian.encode 2 n.toNat

/-- Write the payload of a call. -/
def encode : DrawCommand → List UInt8
  | nop => [0]
  | clear color => 1 :: color.bytes
  | fill x y width height color =>
    2 :: (short x ++ short y ++ short width ++ short height ++ color.bytes)
  | resize width height => 3 :: (short width ++ short height)
  | bind target => [4, target]
  | present => [5]

/-- The channels of a colour between brackets. -/
def renderColor (c : Color) : String :=
  "[" ++ String.intercalate ", " (c.bytes.map fun b => toString b.toNat) ++ "]"

/-- The command with its operands named, as listings show it. -/
def render : DrawCommand → String
  | nop => "Nop"
  | clear color => "Clear(" ++ renderColor color ++ ")"
  | fill x y width height color =>
    "FillRect \x7b x: " ++ toString x.toNat ++ ", y: " ++ toString y.toNat ++ ", width: "
      ++ toString width.toNat ++ ", height: " ++ toString height.toNat ++ ", color: "
      ++ renderColor color ++ " \x7d"
  | resize width height =>
    "Resize \x7b width: " ++ toString width.toNat ++ ", height: " ++ toString height.toNat
      ++ " \x7d"
  | bind target => "BindTarget(" ++ toString target.toNat ++ ")"
  | present => "Present"

/-- The command only changes pixels of the bound target. -/
def paints : DrawCommand → Bool
  | clear _ | fill .. => true
  | _ => false

end DrawCommand

end TraceReplay
