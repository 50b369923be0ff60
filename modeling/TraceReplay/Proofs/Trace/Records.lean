import Mathlib.Data.List.Basic
import TraceReplay.Trace.Reading

/-!
# Records

A record is the written form of exactly one call: the call at the start of some bytes, if its record is
complete, is written as the bytes that it takes (`encode_ofRecord`), and the record of a call in front of
other bytes reads as that call (`ofRecord_encode_append`). So what a reader does next can be told from the
bytes that are left (`Reader.Replies`).
-/

namespace TraceReplay

namespace LittleEndian

theorem decode_lt_size {bytes : List UInt8} (four : bytes.length = 4) : decode bytes < UInt32.size := by
  have := decode_lt bytes
  rw [four] at this
  exact this

/-- Four bytes are the written form of a word. -/
theorem encode_ofNat_decode {bytes : List UInt8} (four : bytes.length = 4) :
    encode 4 (UInt32.ofNat (decode bytes)).toNat = bytes := by
  rw [UInt32.toNat_ofNat_of_lt' (decode_lt_size four), encode_decode_of_length four]

theorem ofNat_decode_encode (w : UInt32) : UInt32.ofNat (decode (encode 4 w.toNat)) = w := by
  rw [decode_encode w.toNat_lt, UInt32.ofNat_toNat]

/-- Four bytes read as a word if they are its written form. -/
theorem ofNat_decode_eq_iff {bytes : List UInt8} (four : bytes.length = 4) (w : UInt32) :
    UInt32.ofNat (decode bytes) = w ↔ bytes = encode 4 w.toNat := by
  constructor
  · rintro rfl
    exact (encode_ofNat_decode four).symm
  · rintro rfl
    exact ofNat_decode_encode w

end LittleEndian

/-- Too few bytes are taken if there are too few. -/
theorem length_take_lt_iff {bytes : List UInt8} {size : Nat} :
    (bytes.take size).length < size ↔ bytes.length < size := by
  rw [List.length_take]
  omega

/-- Sixteen bytes are four words, one behind the other. -/
theorem eq_append_words (head : List UInt8) :
    head = head.take 4 ++ (head.drop 4).take 4 ++ (head.drop 8).take 4 ++ head.drop 12 := by
  have third := List.take_append_drop 4 (head.drop 8)
  have second := List.take_append_drop 4 (head.drop 4)
  rw [List.drop_drop] at third second
  rw [List.append_assoc, List.append_assoc, third, second, List.take_append_drop]

/-- The words of which sixteen bytes are made. -/
theorem words_of_append {a b c d : List UInt8} (ha : a.length = 4) (hb : b.length = 4)
    (hc : c.length = 4) :
    (a ++ b ++ c ++ d).take 4 = a ∧ ((a ++ b ++ c ++ d).drop 4).take 4 = b ∧
      ((a ++ b ++ c ++ d).drop 8).take 4 = c ∧ (a ++ b ++ c ++ d).drop 12 = d := by
  refine ⟨?_, ?_, ?_, ?_⟩
  · rw [List.append_assoc, List.append_assoc, List.take_left' ha]
  · rw [List.append_assoc, List.append_assoc, List.drop_left' ha, List.take_left' hb]
  · rw [List.append_assoc, List.drop_left' (by simp [ha, hb]), List.take_left' hc]
  · rw [List.drop_left' (by simp [ha, hb, hc])]

namespace Call

/-- The payload's length fits into a record. -/
def Fits (c : Call) : Prop := c.payload.length < UInt32.size

/-- The length of the payload that the record at the start of some bytes announces. -/
def announced (bytes : List UInt8) : Nat := LittleEndian.decode ((bytes.take headerSize).drop 12)

/-- How many bytes the record at the start of some bytes takes, as far as they tell. -/
def needed (bytes : List UInt8) : Nat :=
  if bytes.length < headerSize then headerSize else headerSize + announced bytes

/-- The call whose record some bytes start with. -/
def ofRecord (bytes : List UInt8) : Call where
  no := UInt32.ofNat (LittleEndian.decode ((bytes.take headerSize).take 4))
  leg := UInt32.ofNat (LittleEndian.decode (((bytes.take headerSize).drop 4).take 4))
  flags := ⟨UInt32.ofNat (LittleEndian.decode (((bytes.take headerSize).drop 8).take 4))⟩
  payload := (bytes.drop headerSize).take (announced bytes)

variable {c : Call} {bytes : List UInt8}

theorem take_encode_append (c : Call) (rest : List UInt8) :
    (c.encode ++ rest).take headerSize = c.encodeHead := by
  rw [encode, List.append_assoc, List.take_left' c.length_encodeHead]

/-- A record announces the length of its payload. -/
theorem announced_encode_append (fits : c.Fits) (rest : List UInt8) :
    announced (c.encode ++ rest) = c.payload.length := by
  obtain ⟨-, -, -, size⟩ := words_of_append (d := LittleEndian.encode 4 c.payload.length)
    (LittleEndian.length_encode 4 c.no.toNat) (LittleEndian.length_encode 4 c.leg.toNat)
    (LittleEndian.length_encode 4 c.flags.bits.toNat)
  rw [announced, take_encode_append, encodeHead, size, LittleEndian.decode_encode fits]

/-- The record of a call reads as the call, whatever follows. -/
theorem ofRecord_encode_append (fits : c.Fits) (rest : List UInt8) :
    ofRecord (c.encode ++ rest) = c := by
  obtain ⟨no, leg, flags, -⟩ := words_of_append (d := LittleEndian.encode 4 c.payload.length)
    (LittleEndian.length_encode 4 c.no.toNat) (LittleEndian.length_encode 4 c.leg.toNat)
    (LittleEndian.length_encode 4 c.flags.bits.toNat)
  have tail : (c.encode ++ rest).drop headerSize = c.payload ++ rest := by
    rw [encode, List.append_assoc, List.drop_left' c.length_encodeHead]
  rw [ofRecord, announced_encode_append fits, tail, take_encode_append, encodeHead, no, leg, flags,
    List.take_left, LittleEndian.ofNat_decode_encode, LittleEndian.ofNat_decode_encode,
    LittleEndian.ofNat_decode_encode]

theorem encode_ne_nil (c : Call) : c.encode ≠ [] := by
  rw [← List.length_pos_iff, length_encode, headerSize]
  omega

/-- Bytes that start with the record of a call need no more than that. -/
theorem needed_encode_append (fits : c.Fits) (rest : List UInt8) :
    needed (c.encode ++ rest) = c.encode.length := by
  have long : ¬ (c.encode ++ rest).length < headerSize := by
    rw [List.length_append, length_encode]
    omega
  rw [needed, if_neg long, announced_encode_append fits, length_encode]

/-- Bytes are too few for a record if they are too few for its fixed part, or for what that announces. -/
theorem lt_needed_iff {size : Nat} :
    size = needed bytes ∧ bytes.length < size ↔
      bytes.length < headerSize ∧ size = headerSize ∨
        headerSize ≤ bytes.length ∧ size = headerSize + announced bytes ∧ bytes.length < size := by
  rw [needed]
  split <;> omega

/-- What is there of a complete record. -/
theorem needed_of_complete (complete : needed bytes ≤ bytes.length) :
    needed bytes = headerSize + announced bytes := by
  unfold needed at *
  split at complete
  · omega
  · rename_i long
    rw [if_neg long]

theorem length_size (long : headerSize ≤ bytes.length) :
    ((bytes.take headerSize).drop 12).length = 4 := by
  rw [List.length_drop, List.length_take, headerSize] at *
  omega

theorem announced_lt (long : headerSize ≤ bytes.length) : announced bytes < UInt32.size :=
  LittleEndian.decode_lt_size (length_size long)

/-- Bytes that hold a complete record start with the record of the call that they read as. -/
theorem encode_ofRecord (complete : needed bytes ≤ bytes.length) :
    (ofRecord bytes).encode = bytes.take (needed bytes) ∧ (ofRecord bytes).Fits := by
  rw [needed_of_complete complete] at *
  have long : headerSize ≤ bytes.length := by omega
  have head : (bytes.take headerSize).length = 16 := by
    rw [List.length_take, Nat.min_eq_left long, headerSize]
  have payload : (ofRecord bytes).payload.length = announced bytes := by
    rw [ofRecord, List.length_take, List.length_drop]
    omega
  have size : LittleEndian.encode 4 (announced bytes) = (bytes.take headerSize).drop 12 :=
    LittleEndian.encode_decode_of_length (length_size long)
  refine ⟨?_, ?_⟩
  · rw [encode, encodeHead, payload, size, List.take_add, ofRecord]
    rw [LittleEndian.encode_ofNat_decode (by simp [head]),
      LittleEndian.encode_ofNat_decode (by simp [head]),
      LittleEndian.encode_ofNat_decode (by simp [head]), ← eq_append_words]
  · rw [Fits, payload]
    exact announced_lt long

/-- A complete record, and what follows it. -/
theorem eq_encode_append (complete : needed bytes ≤ bytes.length) :
    bytes = (ofRecord bytes).encode ++ bytes.drop (needed bytes) := by
  rw [(encode_ofRecord complete).1, List.take_append_drop]

theorem length_encode_ofRecord (complete : needed bytes ≤ bytes.length) :
    (ofRecord bytes).encode.length = needed bytes := by
  rw [(encode_ofRecord complete).1, List.length_take, Nat.min_eq_left complete]

end Call

namespace Reader

variable {r s : Reader} {c : Call} {e : TraceError}

/-- The number of the call is above that of the call read last. -/
def Admits (r : Reader) (c : Call) : Prop := ∀ previous, r.previous? = some previous → previous < c.no

/-- The reader behind the record of a call. -/
def beyond (r : Reader) (c : Call) (rest : List UInt8) : Reader :=
  { r with offset := r.offset + c.encode.length, rest, previous? := some c.no }

theorem follows_eq_ok_iff {previous? : Option UInt32} {no : UInt32} :
    follows previous? no = .ok () ↔ ∀ previous, previous? = some previous → previous < no := by
  cases previous? with
  | none => simp [follows]
  | some previous =>
    by_cases low : no ≤ previous
    · simp [follows, low]
    · simp [follows, low, UInt32.not_le.1 low]

theorem follows_eq_error_iff {previous? : Option UInt32} {no : UInt32} :
    follows previous? no = .error e ↔
      ∃ previous, previous? = some previous ∧ no ≤ previous ∧ e = .outOfOrder previous no := by
  cases previous? with
  | none => simp [follows]
  | some previous =>
    by_cases low : no ≤ previous
    · simp [follows, low, eq_comm]
    · simp [follows, low]

/-- What a reader does, told from the bytes that are left. -/
theorem next_eq (r : Reader) :
    r.next =
      if r.rest = [] then .ok none
      else if r.rest.length < Call.needed r.rest then .error (r.cutShort (Call.needed r.rest))
      else (follows r.previous? (Call.ofRecord r.rest).no).map fun _ =>
        some (Call.ofRecord r.rest,
          r.beyond (Call.ofRecord r.rest) (r.rest.drop (Call.needed r.rest))) := by
  have head : (r.rest.take headerSize).length < headerSize ↔ r.rest.length < headerSize :=
    length_take_lt_iff
  have tail : ((r.rest.drop headerSize).take (Call.announced r.rest)).length < Call.announced r.rest ↔
      r.rest.length - headerSize < Call.announced r.rest := by
    rw [length_take_lt_iff, List.length_drop]
  rw [next]
  simp only [List.isEmpty_iff, head]
  refine ite_congr rfl (fun _ => rfl) fun _ => ?_
  by_cases short : r.rest.length < headerSize
  · rw [if_pos short, Call.needed, if_pos short, if_pos short]
  · rw [if_neg short]
    have needed : Call.needed r.rest = headerSize + Call.announced r.rest := if_neg short
    refine (ite_congr (propext tail) (fun _ => ?_) fun whole => ?_).trans
      (ite_congr (propext (by omega)) (fun _ => rfl) fun _ => rfl)
    · rw [needed]
      rfl
    · have complete : Call.needed r.rest ≤ r.rest.length := by omega
      rw [beyond, Call.length_encode_ofRecord complete, needed, ← List.drop_drop, ← Nat.add_assoc]
      rfl

/-- The bytes that are left are none, or start with a record that is not all there, or with the record
of a call. -/
theorem rest_cases (bytes : List UInt8) :
    bytes = [] ∨ (bytes ≠ [] ∧ bytes.length < Call.needed bytes) ∨
      ∃ (c : Call) (rest : List UInt8), c.Fits ∧ bytes = c.encode ++ rest := by
  by_cases empty : bytes = []
  · exact .inl empty
  · by_cases short : bytes.length < Call.needed bytes
    · exact .inr (.inl ⟨empty, short⟩)
    · have complete := Nat.le_of_not_lt short
      exact .inr (.inr ⟨_, _, (Call.encode_ofRecord complete).2, Call.eq_encode_append complete⟩)

theorem next_of_empty (empty : r.rest = []) : r.next = .ok none := by
  rw [next_eq, if_pos empty]

theorem next_of_short (some : r.rest ≠ []) (short : r.rest.length < Call.needed r.rest) :
    r.next = .error (r.cutShort (Call.needed r.rest)) := by
  rw [next_eq, if_neg some, if_pos short]

/-- With a record in front only its number is looked at. -/
theorem next_of_record {rest : List UInt8} (fits : c.Fits) (split : r.rest = c.encode ++ rest) :
    r.next = (follows r.previous? c.no).map fun _ => some (c, r.beyond c rest) := by
  have some : r.rest ≠ [] := by
    rw [split]
    exact List.append_ne_nil_of_left_ne_nil c.encode_ne_nil rest
  have needed : Call.needed r.rest = c.encode.length := by
    rw [split, Call.needed_encode_append fits]
  have whole : ¬ r.rest.length < Call.needed r.rest := by
    rw [needed, split, List.length_append]
    omega
  have call : Call.ofRecord r.rest = c := by rw [split, Call.ofRecord_encode_append fits]
  rw [next_eq, if_neg some, if_neg whole, call, needed, split, List.drop_left]

theorem next_of_admits {rest : List UInt8} (fits : c.Fits) (split : r.rest = c.encode ++ rest)
    (higher : r.Admits c) : r.next = .ok (some (c, r.beyond c rest)) := by
  rw [next_of_record fits split, follows_eq_ok_iff.2 higher]
  rfl

theorem next_of_outOfOrder {rest : List UInt8} {previous : UInt32} (fits : c.Fits)
    (split : r.rest = c.encode ++ rest) (last : r.previous? = some previous) (low : c.no ≤ previous) :
    r.next = .error (.outOfOrder previous c.no) := by
  rw [next_of_record fits split, follows_eq_error_iff.2 ⟨previous, last, low, rfl⟩]
  rfl

/-- All that a reader may reply, and when. -/
inductive Replies (r : Reader) : Except TraceError (Option (Call × Reader)) → Prop
  | ended (empty : r.rest = []) : Replies r (.ok none)
  | torn (some : r.rest ≠ []) (short : r.rest.length < Call.needed r.rest) :
    Replies r (.error (r.cutShort (Call.needed r.rest)))
  | disordered {c : Call} {rest : List UInt8} {previous : UInt32} (fits : c.Fits)
    (split : r.rest = c.encode ++ rest) (last : r.previous? = some previous) (low : c.no ≤ previous) :
    Replies r (.error (.outOfOrder previous c.no))
  | call {c : Call} {rest : List UInt8} (fits : c.Fits) (split : r.rest = c.encode ++ rest)
    (higher : r.Admits c) : Replies r (.ok (some (c, r.beyond c rest)))

theorem replies_next (r : Reader) : r.Replies r.next := by
  rcases rest_cases r.rest with empty | ⟨some, short⟩ | ⟨c, rest, fits, split⟩
  · rw [next_of_empty empty]
    exact .ended empty
  · rw [next_of_short some short]
    exact .torn some short
  · by_cases higher : r.Admits c
    · rw [next_of_admits fits split higher]
      exact .call fits split higher
    · obtain ⟨previous, last, low⟩ : ∃ previous, r.previous? = some previous ∧ c.no ≤ previous := by
        simpa [Admits] using higher
      rw [next_of_outOfOrder fits split last low]
      exact .disordered fits split last low

theorem next_eq_none_iff : r.next = .ok none ↔ r.rest = [] := by
  constructor
  · intro given
    have replies := r.replies_next
    rw [given] at replies
    cases replies with
    | ended empty => exact empty
  · exact next_of_empty

/-- A reader gives the call whose record comes next, if its number is above the last one. -/
theorem next_eq_some_iff :
    r.next = .ok (some (c, s)) ↔
      c.Fits ∧ r.Admits c ∧ ∃ rest, r.rest = c.encode ++ rest ∧ s = r.beyond c rest := by
  constructor
  · intro given
    have replies := r.replies_next
    rw [given] at replies
    cases replies with
    | call fits split higher => exact ⟨fits, higher, _, split, rfl⟩
  · rintro ⟨fits, higher, rest, split, rfl⟩
    exact next_of_admits fits split higher

/-- A reader refuses a record that is not all there, and tells how much of it is. -/
theorem next_eq_truncated_iff {offset needed available : Nat} :
    r.next = .error (.truncated offset needed available) ↔
      r.rest ≠ [] ∧ offset = r.offset ∧ available = r.remaining ∧ needed = Call.needed r.rest ∧
        r.remaining < needed := by
  constructor
  · intro given
    have replies := r.replies_next
    rw [given] at replies
    cases replies with
    | torn some short => exact ⟨some, rfl, rfl, rfl, short⟩
  · rintro ⟨some, rfl, rfl, rfl, short⟩
    exact next_of_short some short

/-- A reader refuses a record whose number is not above the last one. -/
theorem next_eq_outOfOrder_iff {previous found : UInt32} :
    r.next = .error (.outOfOrder previous found) ↔
      r.previous? = some previous ∧ found ≤ previous ∧
        ∃ call : Call, call.Fits ∧ call.encode <+: r.rest ∧ call.no = found := by
  constructor
  · intro given
    have replies := r.replies_next
    rw [given] at replies
    cases replies with
    | disordered fits split last low => exact ⟨last, low, _, fits, ⟨_, split.symm⟩, rfl⟩
  · rintro ⟨last, low, call, fits, ⟨rest, split⟩, rfl⟩
    exact next_of_outOfOrder fits split.symm last low

end Reader

end TraceReplay
