import TraceReplay.Draw.Command

/-!
# Operands by their index

`DrawCommand.decode` takes operands apart as lists, where what is missing goes unnoticed. Here each
operand byte is taken by its index, and an index out of bounds gives nothing: neither a command nor an
error. That this never happens is a fact about the operand counts that are asked for first.
-/

namespace TraceReplay.DrawCommand

/-- The number in the two bytes from an index on. -/
def shortFrom? (operands : List UInt8) (index : Nat) : Option UInt16 := do
  let low ← operands[index]?
  let high ← operands[index + 1]?
  return UInt16.ofNat (LittleEndian.decode [low, high])

/-- The colour in the four bytes from an index on. -/
def colorFrom? (operands : List UInt8) (index : Nat) : Option Color := do
  let r ← operands[index]?
  let g ← operands[index + 1]?
  let b ← operands[index + 2]?
  let a ← operands[index + 3]?
  return ⟨r, g, b, a⟩

/-- The command, if there are as many operand bytes as its opcode needs. -/
def expecting (expected : Nat) (opcode : UInt8) (operands : List UInt8)
    (command? : Option DrawCommand) : Option (Except CommandError DrawCommand) :=
  if operands.length = expected then command?.map .ok
  else some (.error (.wrongLength opcode expected operands.length))

/-- Read the payload of a call, with every operand byte taken by its index. -/
def decodeByIndex? : List UInt8 → Option (Except CommandError DrawCommand)
  | [] => some (.ok nop)
  | opcode :: operands =>
    match opcode.toNat with
    | 0 => expecting 0 opcode operands (some nop)
    | 1 => expecting 4 opcode operands do
      return clear (← colorFrom? operands 0)
    | 2 => expecting 12 opcode operands do
      return fill (← shortFrom? operands 0) (← shortFrom? operands 2) (← shortFrom? operands 4)
        (← shortFrom? operands 6) (← colorFrom? operands 8)
    | 3 => expecting 4 opcode operands do
      return resize (← shortFrom? operands 0) (← shortFrom? operands 2)
    | 4 => expecting 1 opcode operands do
      return bind (← operands[0]?)
    | 5 => expecting 0 opcode operands (some present)
    | _ => some (.error (.unknownOpcode opcode))

end TraceReplay.DrawCommand
