import Mathlib.Logic.Function.Basic
import TraceReplay.Draw.Operands

/-!
# Payloads of draw commands

Every command is written as exactly one payload, and a payload that is neither the written form of a
command nor empty is none (`DrawCommand.codec_exact`). Both directions rest on the operands: two bytes
are the written form of the number that they are read as (`short_shortAt`, `shortAt_of_short`), and an
opcode with as many operands as it needs is written as it stands (`encode_ofOperands`). What is wrong
with any other payload is told by its first byte and the number of the others.
-/

namespace TraceReplay

namespace DrawCommand

variable {opcode : UInt8} {operands payload : List UInt8} {c : DrawCommand} {expected actual i : Nat}

/-- Two operand bytes are written again as they stood. -/
theorem short_shortAt (inside : i + 2 ≤ operands.length) :
    short (shortAt operands i) = (operands.drop i).take 2 := by
  have two : ((operands.drop i).take 2).length = 2 := by
    rw [List.length_take, List.length_drop]
    omega
  have fits := LittleEndian.decode_lt ((operands.drop i).take 2)
  rw [two] at fits
  rw [short, shortAt, UInt16.toNat_ofNat_of_lt' fits, LittleEndian.encode_decode_of_length two]

/-- A number reads back from where its two bytes stand. -/
theorem shortAt_of_short {n : UInt16} (stands : (operands.drop i).take 2 = short n) :
    shortAt operands i = n := by
  have fits : n.toNat < LittleEndian.limit 2 := n.toNat_lt
  rw [shortAt, stands, short, LittleEndian.decode_encode fits, UInt16.ofNat_toNat]

theorem opcode_cases (opcode : UInt8) :
    opcode = 0 ∨ opcode = 1 ∨ opcode = 2 ∨ opcode = 3 ∨ opcode = 4 ∨ opcode = 5 ∨
      5 < opcode.toNat := by
  simp only [← UInt8.toNat_inj, UInt8.reduceToNat]
  omega

theorem operandBytes?_of_lt (unknown : 5 < opcode.toNat) : operandBytes? opcode = none := by
  unfold operandBytes?
  split
  case h_7 => rfl
  all_goals omega

/-- The opcodes that exist, with the number of their operand bytes. -/
theorem operandBytes?_eq (opcode : UInt8) :
    operandBytes? opcode = [0, 4, 12, 4, 1, 0][opcode.toNat]? := by
  rcases opcode_cases opcode with rfl | rfl | rfl | rfl | rfl | rfl | unknown
  case inr.inr.inr.inr.inr.inr =>
    rw [operandBytes?_of_lt unknown]
    exact (List.getElem?_eq_none unknown).symm
  all_goals rfl

theorem operandBytes?_eq_none_iff : operandBytes? opcode = none ↔ 5 < opcode.toNat := by
  rw [operandBytes?_eq, List.getElem?_eq_none_iff]
  exact Nat.succ_le_iff

theorem decode_of_known (known : operandBytes? opcode = some expected) :
    decode (opcode :: operands) =
      if operands.length = expected then .ok (ofOperands opcode operands)
      else .error (.wrongLength opcode expected operands.length) := by
  rw [decode, known]

theorem decode_of_unknown (unknown : operandBytes? opcode = none) :
    decode (opcode :: operands) = .error (.unknownOpcode opcode) := by
  rw [decode, unknown]

/-- The payload of a command reads back as the command. -/
theorem decode_encode (c : DrawCommand) : decode (encode c) = .ok c := by
  cases c with
  | nop => rfl
  | clear color => rfl
  | fill x y width height color =>
    let operands := short x ++ short y ++ short width ++ short height ++ color.bytes
    have left : shortAt operands 0 = x := shortAt_of_short rfl
    have top : shortAt operands 2 = y := shortAt_of_short rfl
    have columns : shortAt operands 4 = width := shortAt_of_short rfl
    have rows : shortAt operands 6 = height := shortAt_of_short rfl
    calc decode (2 :: operands)
        = .ok (fill (shortAt operands 0) (shortAt operands 2) (shortAt operands 4)
            (shortAt operands 6) color) := rfl
      _ = .ok (fill x y width height color) := by rw [left, top, columns, rows]
  | resize width height =>
    let operands := short width ++ short height
    have columns : shortAt operands 0 = width := shortAt_of_short rfl
    have rows : shortAt operands 2 = height := shortAt_of_short rfl
    calc decode (3 :: operands)
        = .ok (resize (shortAt operands 0) (shortAt operands 2)) := rfl
      _ = .ok (resize width height) := by rw [columns, rows]
  | bind target => rfl
  | present => rfl

/-- An opcode with as many operands as it needs is the written form of its command. -/
theorem encode_ofOperands (known : operandBytes? opcode = some operands.length) :
    encode (ofOperands opcode operands) = opcode :: operands := by
  rcases opcode_cases opcode with rfl | rfl | rfl | rfl | rfl | rfl | unknown
  · match operands, known with
    | [], _ => rfl
  · match operands, known with
    | [_, _, _, _], _ => rfl
  · have twelve : 12 = operands.length := Option.some.inj known
    calc encode (ofOperands 2 operands)
        = 2 :: (short (shortAt operands 0) ++ short (shortAt operands 2) ++
            short (shortAt operands 4) ++ short (shortAt operands 6) ++
            (Color.ofBytes (operands.drop 8)).bytes) := rfl
      _ = 2 :: ((operands.drop 0).take 2 ++ (operands.drop 2).take 2 ++
            (operands.drop 4).take 2 ++ (operands.drop 6).take 2 ++
            (Color.ofBytes (operands.drop 8)).bytes) := by
        iterate 4 rw [short_shortAt (by omega)]
      _ = 2 :: operands := by
        match operands, twelve with
        | [_, _, _, _, _, _, _, _, _, _, _, _], _ => rfl
  · have four : 4 = operands.length := Option.some.inj known
    calc encode (ofOperands 3 operands)
        = 3 :: (short (shortAt operands 0) ++ short (shortAt operands 2)) := rfl
      _ = 3 :: ((operands.drop 0).take 2 ++ (operands.drop 2).take 2) := by
        iterate 2 rw [short_shortAt (by omega)]
      _ = 3 :: operands := by
        match operands, four with
        | [_, _, _, _], _ => rfl
  · match operands, known with
    | [_], _ => rfl
  · match operands, known with
    | [], _ => rfl
  · rw [operandBytes?_of_lt unknown] at known
    cases known

/-- What a payload with an opcode reads as. -/
theorem decode_cons_cases (opcode : UInt8) (operands : List UInt8) :
    (operandBytes? opcode = none ∧
      decode (opcode :: operands) = .error (.unknownOpcode opcode)) ∨
    (∃ expected, operandBytes? opcode = some expected ∧ operands.length ≠ expected ∧
      decode (opcode :: operands) = .error (.wrongLength opcode expected operands.length)) ∨
    (operandBytes? opcode = some operands.length ∧
      decode (opcode :: operands) = .ok (ofOperands opcode operands)) := by
  cases known : operandBytes? opcode with
  | none => exact .inl ⟨rfl, decode_of_unknown known⟩
  | some expected =>
    rw [decode_of_known known]
    by_cases right : operands.length = expected
    · exact .inr (.inr ⟨congrArg some right.symm, if_pos right⟩)
    · exact .inr (.inl ⟨expected, rfl, right, if_neg right⟩)

/-- Nothing but the written form of a command reads as it, the empty payload apart. -/
theorem decode_eq_ok_iff :
    decode payload = .ok c ↔ payload = encode c ∨ payload = [] ∧ c = nop := by
  constructor
  · intro read
    cases payload with
    | nil =>
      cases read
      exact .inr ⟨rfl, rfl⟩
    | cons opcode operands =>
      refine .inl ?_
      obtain ⟨_, failed⟩ | ⟨_, _, _, failed⟩ | ⟨known, done⟩ := decode_cons_cases opcode operands
      · cases read.symm.trans failed
      · cases read.symm.trans failed
      · obtain rfl := Except.ok.inj (read.symm.trans done)
        exact (encode_ofOperands known).symm
  · rintro (rfl | ⟨rfl, rfl⟩)
    · exact decode_encode c
    · rfl

theorem decode_eq_unknownOpcode_iff :
    decode payload = .error (.unknownOpcode opcode) ↔
      payload.head? = some opcode ∧ operandBytes? opcode = none := by
  cases payload with
  | nil => exact ⟨nofun, nofun⟩
  | cons first operands =>
    constructor
    · intro failed
      obtain ⟨unknown, cause⟩ | ⟨_, _, _, cause⟩ | ⟨_, done⟩ := decode_cons_cases first operands
      · obtain rfl : opcode = first := by cases failed.symm.trans cause; rfl
        exact ⟨rfl, unknown⟩
      · cases failed.symm.trans cause
      · cases failed.symm.trans done
    · rintro ⟨same, unknown⟩
      obtain rfl := Option.some.inj same
      exact decode_of_unknown unknown

theorem decode_eq_wrongLength_iff :
    decode payload = .error (.wrongLength opcode expected actual) ↔
      ∃ operands, payload = opcode :: operands ∧ operandBytes? opcode = some expected ∧
        actual = operands.length ∧ actual ≠ expected := by
  constructor
  · intro failed
    cases payload with
    | nil => cases failed
    | cons first operands =>
      obtain ⟨_, cause⟩ | ⟨_, known, wrong, cause⟩ | ⟨_, done⟩ := decode_cons_cases first operands
      · cases failed.symm.trans cause
      · cases failed.symm.trans cause
        exact ⟨operands, rfl, known, rfl, wrong⟩
      · cases failed.symm.trans done
  · rintro ⟨operands, rfl, known, rfl, wrong⟩
    rw [decode_of_known known, if_neg wrong]

/-- No operand is looked for beyond the end of a payload. -/
theorem decodeByIndex?_eq (payload : List UInt8) :
    decodeByIndex? payload = some (decode payload) := by
  cases payload with
  | nil => rfl
  | cons opcode operands =>
    have counted : ∀ {expected : Nat} {command? : Option DrawCommand},
        operandBytes? opcode = some expected →
        (operands.length = expected → command? = some (ofOperands opcode operands)) →
        expecting expected opcode operands command? = some (decode (opcode :: operands)) := by
      intro expected command? known there
      rw [expecting, decode_of_known known]
      split
      · rename_i right
        rw [there right]
        rfl
      · rfl
    rcases opcode_cases opcode with rfl | rfl | rfl | rfl | rfl | rfl | unknown
    · exact counted rfl fun _ => rfl
    · refine counted rfl fun four => ?_
      match operands, four with
      | [_, _, _, _], _ => rfl
    · refine counted rfl fun twelve => ?_
      match operands, twelve with
      | [_, _, _, _, _, _, _, _, _, _, _, _], _ => rfl
    · refine counted rfl fun four => ?_
      match operands, four with
      | [_, _, _, _], _ => rfl
    · refine counted rfl fun one => ?_
      match operands, one with
      | [_], _ => rfl
    · exact counted rfl fun _ => rfl
    · rw [decode_of_unknown (operandBytes?_of_lt unknown), decodeByIndex?]
      split
      case h_7 => rfl
      all_goals omega

/-- Commands and payloads correspond, except that the empty payload is one more way to do nothing;
every other payload fails by its first byte, or else by the number of its operands. -/
theorem codec_exact :
    (∀ c, decode (encode c) = .ok c) ∧
    (∀ payload c, decode payload = .ok c ↔ payload = encode c ∨ payload = [] ∧ c = nop) ∧
    (∀ payload opcode, decode payload = .error (.unknownOpcode opcode) ↔
      payload.head? = some opcode ∧ 5 < opcode.toNat) ∧
    (∀ payload opcode expected actual,
      decode payload = .error (.wrongLength opcode expected actual) ↔
        ∃ operands, payload = opcode :: operands ∧
          [0, 4, 12, 4, 1, 0][opcode.toNat]? = some expected ∧
          actual = operands.length ∧ actual ≠ expected) ∧
    (∀ payload, decodeByIndex? payload = some (decode payload)) ∧
    Function.Injective encode := by
  refine ⟨decode_encode, fun _ _ => decode_eq_ok_iff, ?_, ?_, decodeByIndex?_eq, ?_⟩
  · intro payload opcode
    rw [decode_eq_unknownOpcode_iff, operandBytes?_eq_none_iff]
  · intro payload opcode expected actual
    rw [← operandBytes?_eq]
    exact decode_eq_wrongLength_iff
  · intro c d same
    have read := decode_encode c
    rw [same, decode_encode] at read
    exact (Except.ok.inj read).symm

end DrawCommand

end TraceReplay
