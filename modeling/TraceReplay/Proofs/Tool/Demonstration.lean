import Mathlib.Data.List.Sort
import Mathlib.Order.Interval.Finset.Nat
import TraceReplay.Proofs.Draw.Codec
import TraceReplay.Proofs.Session.Completing
import TraceReplay.Proofs.Storage.Files
import TraceReplay.Proofs.Tool.Recording

/-!
# What a demonstration shows

A demonstration consists of a first call and of frames (`Demonstrates`). In a frame each leg draws one rectangle, and
no row has two of them (`IsFrame`): the band of a leg ends where that of the next leg begins, even if there are
more legs than rows and all bands are empty. As all payloads are commands, a replay comes to the end of the trace
(`demonstration_replays`).
-/

namespace TraceReplay

namespace DrawCommand

/-- The command draws a rectangle. -/
def isFill : DrawCommand → Bool
  | fill .. => true
  | _ => false

/-- The rows of the rectangle that a command draws. -/
def rows : DrawCommand → Finset Nat
  | fill _ y _ height _ => Finset.Ico y.toNat (y.toNat + height.toNat)
  | _ => ∅

theorem rows_of_not_isFill {command : DrawCommand} (other : command.isFill = false) : command.rows = ∅ := by
  cases command with
  | fill => cases other
  | nop | clear | resize | bind | present => rfl

theorem length_encode_le (command : DrawCommand) : command.encode.length ≤ 13 := by
  cases command <;> simp [encode, short, Color.bytes]

end DrawCommand

/-- The command in the payload of a call, if there is one. -/
def Call.command (c : Call) : DrawCommand := (DrawCommand.decode c.payload).toOption.getD .nop

/-- The calls of one frame in which so many legs take part. -/
structure IsFrame (legs : Nat) (frame : List Call) : Prop where
  /-- Only the last call completes the frame. -/
  last : ∃ calls last, frame = calls ++ [last] ∧ last.endsFrame = true ∧ ∀ c ∈ calls, c.endsFrame = false
  ofLegs : ∀ c ∈ frame, c.leg.toNat < legs
  /-- Each leg draws one rectangle. -/
  rectangles : (frame.filter fun c => c.command.isFill).map (fun c => c.leg.toNat) = List.range legs
  /-- All rows of them are on the canvas. -/
  inside : ∀ c ∈ frame, ∀ row ∈ c.command.rows, row < 256
  apart : ∀ c ∈ frame, ∀ d ∈ frame, c.leg ≠ d.leg → Disjoint c.command.rows d.command.rows

namespace IsFrame

variable {legs : Nat} {frame : List Call}

/-- A frame is completed once. -/
theorem countP_endsFrame (h : IsFrame legs frame) : frame.countP Call.endsFrame = 1 := by
  obtain ⟨calls, last, rfl, ends, others⟩ := h.last
  have none : calls.countP Call.endsFrame = 0 := by
    rw [List.countP_eq_zero]
    intro c mem
    rw [others c mem]
    exact Bool.false_ne_true
  rw [List.countP_append, none, List.countP_singleton, if_pos ends]

/-- Each leg has a call in it, if only that of its rectangle. -/
theorem exists_leg (h : IsFrame legs frame) {n : Nat} (lt : n < legs) : ∃ c ∈ frame, c.leg.toNat = n := by
  rw [← List.mem_range, ← h.rectangles] at lt
  obtain ⟨c, drawn, same⟩ := List.mem_map.1 lt
  exact ⟨c, List.mem_of_mem_filter drawn, same⟩

end IsFrame

namespace DemoProgram

section Frame

variable {legs frame leg : UInt16} {e : Entry} {entries : List Entry} {start : Nat}

theorem command_call (e : Entry) (no : UInt32) : (e.call no).command = e.command := by
  rw [Call.command, Entry.call, DrawCommand.decode_encode]
  rfl

/-- The band of a leg begins behind those of the legs before it. -/
theorem rows_bandOf (inside : leg.toNat < legs.toNat) :
    (bandOf legs frame leg).command.rows =
      Finset.Ico (leg.toNat * (side / legs).toNat) ((leg.toNat + 1) * (side / legs).toNat) := by
  have top : (leg * (side / legs)).toNat = leg.toNat * (side / legs).toNat := by
    rw [UInt16.toNat_mul, Nat.mod_eq_of_lt (row_lt_size inside)]
  rw [bandOf, rectangle, DrawCommand.rows, top, Nat.succ_mul]

theorem toNat_leg_bandOf (legs frame leg : UInt16) : (bandOf legs frame leg).leg.toNat = leg.toNat :=
  UInt16.toNat_toUInt32 leg

/-- The entries around the rectangles. -/
theorem of_mem_background (mem : e ∈ background frame) :
    e.leg = 0 ∧ e.command.isFill = false ∧ e.flags.endsFrame = false := by
  rw [background, extraEntries] at mem
  split at mem
  · simp only [List.cons_append, List.nil_append, List.mem_cons, List.not_mem_nil, or_false] at mem
    rcases mem with rfl | rfl | rfl | rfl <;> exact ⟨rfl, rfl, rfl⟩
  · simp only [List.nil_append, List.mem_singleton] at mem
    subst mem
    exact ⟨rfl, rfl, rfl⟩

/-- The entries in front of the last are those of the background, which leg 0 draws, and the rectangles. -/
theorem of_mem_frameOf (mem : e ∈ frameOf legs frame) :
    (e.leg = 0 ∧ e.command.isFill = false) ∨
      ∃ leg : UInt16, leg.toNat < legs.toNat ∧ e = bandOf legs frame leg := by
  simp only [frameOf, List.mem_append, List.mem_map, List.mem_range, List.mem_singleton] at mem
  obtain (behind | ⟨n, inside, rfl⟩) | rfl := mem
  · obtain ⟨leg, other, -⟩ := of_mem_background behind
    exact .inl ⟨leg, other⟩
  · have small : (UInt16.ofNat n).toNat = n := UInt16.toNat_ofNat_of_lt' (inside.trans legs.toNat_lt)
    exact .inr ⟨UInt16.ofNat n, small.symm ▸ inside, rfl⟩
  · exact .inl ⟨rfl, rfl⟩

theorem leg_lt_of_mem_frameOf (some : 0 < legs.toNat) (mem : e ∈ frameOf legs frame) :
    e.leg.toNat < legs.toNat := by
  obtain ⟨first, -⟩ | ⟨leg, inside, rfl⟩ := of_mem_frameOf mem
  · rw [first]
    exact some
  · rw [toNat_leg_bandOf]
    exact inside

theorem row_lt_of_mem_frameOf (mem : e ∈ frameOf legs frame) {row : Nat} (drawn : row ∈ e.command.rows) :
    row < 256 := by
  obtain ⟨-, other⟩ | ⟨leg, inside, rfl⟩ := of_mem_frameOf mem
  · rw [DrawCommand.rows_of_not_isFill other] at drawn
    cases drawn
  · rw [rows_bandOf inside, Finset.mem_Ico, Nat.succ_mul] at drawn
    exact drawn.2.trans_le (row_add_height_le inside)

theorem disjoint_rows_bandOf {first second : UInt16} (lt : first.toNat < second.toNat)
    (inside : second.toNat < legs.toNat) :
    Disjoint (bandOf legs frame first).command.rows (bandOf legs frame second).command.rows := by
  have below : (first.toNat + 1) * (side / legs).toNat ≤ second.toNat * (side / legs).toNat :=
    Nat.mul_le_mul_right _ lt
  rw [rows_bandOf (lt.trans inside), rows_bandOf inside, Finset.disjoint_left]
  intro row above under
  rw [Finset.mem_Ico] at above under
  omega

theorem disjoint_of_mem_frameOf {e' : Entry} (mem : e ∈ frameOf legs frame) (mem' : e' ∈ frameOf legs frame)
    (ne : e.leg ≠ e'.leg) : Disjoint e.command.rows e'.command.rows := by
  obtain ⟨-, other⟩ | ⟨leg, inside, rfl⟩ := of_mem_frameOf mem
  · rw [DrawCommand.rows_of_not_isFill other]
    exact Finset.disjoint_empty_left _
  obtain ⟨-, other⟩ | ⟨leg', inside', rfl⟩ := of_mem_frameOf mem'
  · rw [DrawCommand.rows_of_not_isFill other]
    exact Finset.disjoint_empty_right _
  have apart : leg.toNat ≠ leg'.toNat := by
    intro same
    refine ne (UInt32.toNat_inj.1 ?_)
    rw [toNat_leg_bandOf, toNat_leg_bandOf, same]
  rcases Nat.lt_or_gt_of_ne apart with lt | gt
  · exact disjoint_rows_bandOf lt inside'
  · exact (disjoint_rows_bandOf gt inside).symm

/-- The legs that draw rectangles, in their order. -/
theorem rectangles_number (start : Nat) (entries : List Entry) :
    ((number start entries).filter fun c => c.command.isFill).map (fun c => c.leg.toNat) =
      (entries.filter fun e => e.command.isFill).map fun e => e.leg.toNat := by
  induction entries generalizing start with
  | nil => rfl
  | cons e entries ih =>
    rw [number, List.filter_cons, List.filter_cons, command_call]
    split
    · rw [List.map_cons, List.map_cons, ih]
      rfl
    · exact ih _

theorem rectangles_frameOf (legs frame : UInt16) :
    ((frameOf legs frame).filter fun e => e.command.isFill).map (fun e => e.leg.toNat) =
      List.range legs.toNat := by
  have behind : (background frame).filter (fun e => e.command.isFill) = [] := by
    rw [List.filter_eq_nil_iff]
    intro e mem
    rw [(of_mem_background mem).2.1]
    exact Bool.false_ne_true
  have bands : ((List.range legs.toNat).map fun leg => bandOf legs frame (UInt16.ofNat leg)).filter
      (fun e => e.command.isFill) = (List.range legs.toNat).map fun leg => bandOf legs frame (UInt16.ofNat leg) := by
    rw [List.filter_eq_self]
    intro e mem
    obtain ⟨leg, -, rfl⟩ := List.mem_map.1 mem
    rfl
  have legs_eq : ∀ n ∈ List.range legs.toNat,
      (bandOf legs frame (UInt16.ofNat n)).leg.toNat = id n := by
    intro n mem
    rw [toNat_leg_bandOf]
    exact UInt16.toNat_ofNat_of_lt' ((List.mem_range.1 mem).trans legs.toNat_lt)
  rw [frameOf, List.filter_append, List.filter_append, behind, bands, List.nil_append, List.map_append,
    List.map_map]
  refine (List.append_nil _).trans ?_
  exact (List.map_congr_left legs_eq).trans (List.map_id _)

/-- The calls of a frame, wherever their numbers begin. -/
theorem isFrame_number (some : 0 < legs.toNat) (start : Nat) (frame : UInt16) :
    IsFrame legs.toNat (number start (frameOf legs frame)) where
  last := by
    have marked : Flags.endFrame.endsFrame = true := by decide
    have unmarked : Flags.none.endsFrame = false := by decide
    rw [frameOf, number_append]
    refine ⟨_, _, rfl, marked, fun c mem => ?_⟩
    obtain ⟨e, there, no, rfl⟩ := mem_number mem
    rcases List.mem_append.1 there with behind | band
    · exact (of_mem_background behind).2.2
    · obtain ⟨leg, -, rfl⟩ := List.mem_map.1 band
      exact unmarked
  ofLegs := by
    intro c mem
    obtain ⟨e, there, no, rfl⟩ := mem_number mem
    exact leg_lt_of_mem_frameOf some there
  rectangles := by rw [rectangles_number, rectangles_frameOf]
  inside := by
    intro c mem row drawn
    obtain ⟨e, there, no, rfl⟩ := mem_number mem
    rw [command_call] at drawn
    exact row_lt_of_mem_frameOf there drawn
  apart := by
    intro c mem d mem' ne
    obtain ⟨e, there, no, rfl⟩ := mem_number mem
    obtain ⟨e', there', no', rfl⟩ := mem_number mem'
    rw [command_call, command_call]
    exact disjoint_of_mem_frameOf there there' ne

end Frame

/-- The calls are a first one and then those of so many frames. -/
structure Parted (frames legs : Nat) (calls : List Call) (first : Call) (perFrame : List (List Call)) : Prop where
  calls_eq : calls = first :: perFrame.flatten
  leg : first.leg = 0
  /-- The first call sizes the canvas. -/
  size : first.command = .resize 256 256
  unended : first.endsFrame = false
  length : perFrame.length = frames
  each : ∀ frame ∈ perFrame, IsFrame legs frame

/-- The calls of a trace with so many frames and legs. -/
structure Demonstrates (frames legs : Nat) (calls : List Call) : Prop where
  decodes : ∀ c ∈ calls, c.Decodes
  parted : ∃ first perFrame, Parted frames legs calls first perFrame

/-- The calls of several lists of entries are those of each of them. -/
theorem number_flatten (start : Nat) (parts : List (List Entry)) :
    ∃ perPart : List (List Call), number start parts.flatten = perPart.flatten ∧ perPart.length = parts.length ∧
      ∀ calls ∈ perPart, ∃ entries ∈ parts, ∃ start, calls = number start entries := by
  induction parts generalizing start with
  | nil => exact ⟨[], rfl, rfl, fun _ mem => absurd mem List.not_mem_nil⟩
  | cons entries parts ih =>
    obtain ⟨perPart, flat, length, each⟩ := ih (start + entries.length)
    refine ⟨number start entries :: perPart, ?_, ?_, ?_⟩
    · rw [List.flatten_cons, number_append, flat, List.flatten_cons]
    · rw [List.length_cons, length, List.length_cons]
    · intro calls mem
      rcases List.mem_cons.1 mem with rfl | later
      · exact ⟨entries, List.mem_cons_self, start, rfl⟩
      · obtain ⟨entries', there, from_⟩ := each calls later
        exact ⟨entries', List.mem_cons_of_mem _ there, from_⟩

theorem demonstrates_callsOf {legs : UInt16} (some : 0 < legs.toNat) (frames : UInt16) :
    Demonstrates frames.toNat legs.toNat (callsOf frames legs) where
  decodes := by
    intro c mem
    obtain ⟨e, -, no, rfl⟩ := mem_number mem
    exact ⟨e.command, DrawCommand.decode_encode _⟩
  parted := by
    obtain ⟨perFrame, flat, length, each⟩ := number_flatten 1 (framesOf legs frames.toNat)
    refine ⟨opening.call 0, perFrame, ?_, rfl, command_call _ _, rfl, ?_, ?_⟩
    · rw [callsOf, entriesOf, number, flat]
      rfl
    · rw [length, framesOf, List.length_map, List.length_range]
    · intro calls mem
      obtain ⟨entries, there, start, rfl⟩ := each calls mem
      obtain ⟨frame, -, rfl⟩ := List.mem_map.1 there
      exact isFrame_number some start _

namespace Demonstrates

variable {frames legs : Nat} {calls : List Call}

theorem countP_endsFrame (h : Demonstrates frames legs calls) : calls.countP Call.endsFrame = frames := by
  obtain ⟨first, perFrame, rfl, -, -, unended, length, each⟩ := h.parted
  have once : perFrame.map (List.countP Call.endsFrame) = List.replicate frames 1 := by
    rw [List.eq_replicate_iff, List.length_map]
    refine ⟨length, fun n mem => ?_⟩
    obtain ⟨frame, there, rfl⟩ := List.mem_map.1 mem
    exact (each frame there).countP_endsFrame
  have other : ¬ first.endsFrame = true := by
    rw [unended]
    exact Bool.false_ne_true
  rw [List.countP_cons_of_neg other, List.countP_flatten, once, List.sum_replicate_nat, Nat.mul_one]

/-- The legs of the calls. Without a frame there is only the one of the first call. -/
theorem exists_leg_iff (h : Demonstrates frames legs calls) (some : 0 < legs) (n : Nat) :
    (∃ c ∈ calls, c.leg.toNat = n) ↔ n < if frames = 0 then 1 else legs := by
  obtain ⟨first, perFrame, rfl, zero, -, -, length, each⟩ := h.parted
  have origin : first.leg.toNat = 0 := by
    rw [zero]
    rfl
  constructor
  · rintro ⟨c, mem, rfl⟩
    rcases List.mem_cons.1 mem with rfl | later
    · rw [origin]
      split <;> omega
    · obtain ⟨frame, there, inside⟩ := List.mem_flatten.1 later
      have frames_pos := List.length_pos_of_mem there
      rw [if_neg (by omega)]
      exact (each frame there).ofLegs c inside
  · intro lt
    cases perFrame with
    | nil =>
      obtain rfl : frames = 0 := length.symm
      rw [if_pos rfl] at lt
      exact ⟨first, List.mem_cons_self, by omega⟩
    | cons frame perFrame =>
      have more : frames ≠ 0 := by
        rw [← length]
        exact Nat.succ_ne_zero _
      rw [if_neg more] at lt
      obtain ⟨c, inside, same⟩ := (each frame List.mem_cons_self).exists_leg lt
      exact ⟨c, List.mem_cons_of_mem _ (List.mem_append_left _ inside), same⟩

/-- A replay has a runner for each of them. -/
theorem toNat_admitAll (h : Demonstrates frames legs calls) (some : 0 < legs) :
    (Reference.admitAll [homeLeg] calls).map UInt32.toNat =
      List.range (if frames = 0 then 1 else legs) := by
  obtain ⟨sorted, mem⟩ := Reference.admitAll_facts calls (List.pairwise_singleton (· < ·) homeLeg)
  have ascending : ((Reference.admitAll [homeLeg] calls).map UInt32.toNat).Pairwise (· < ·) :=
    List.pairwise_map.2 (sorted.imp UInt32.lt_iff_toNat_lt.1)
  refine ascending.eq_of_mem_iff List.pairwise_lt_range fun n => ?_
  rw [List.mem_range, ← h.exists_leg_iff some, List.mem_map]
  constructor
  · rintro ⟨leg, there, rfl⟩
    rcases (mem leg).1 there with home | ⟨c, inside, rfl⟩
    · rw [h.exists_leg_iff some, List.mem_singleton.1 home]
      change 0 < _
      split <;> omega
    · exact ⟨c, inside, rfl⟩
  · rintro ⟨c, inside, rfl⟩
    exact ⟨c.leg, (mem c.leg).2 (.inr ⟨c, inside, rfl⟩), rfl⟩

end Demonstrates

/-- A race that came to the end of its source, with so many frames counted and with these first legs. -/
def EndsWith (frames legs : Nat) (raceEnd : RaceEnd) : Prop :=
  ∃ result, raceEnd = .finished result ∧ result.outcome = .completed ∧
    result.player.counters.frames = frames ∧ result.legs.map UInt32.toNat = List.range legs

/-- However the race over a source goes, it ends in this way. -/
structure Replays (codec : ImageCodec) (source : Source) (player : Player) (s : Studio) (frames legs : Nat) :
    Prop where
  run : EndsWith frames legs (Field.run (fun _ => Studio.backend codec) source player s).1
  schedule : ∀ moves f raceEnd,
    (Field.launch source player s).performAll (fun _ => Studio.backend codec) moves = some f →
      f.end? = some raceEnd → EndsWith frames legs raceEnd

/-- A replay of a demonstration that does not dump the state comes to the end. -/
theorem Demonstrates.replays {frames legs : Nat} {calls : List Call} (h : Demonstrates frames legs calls)
    (some : 0 < legs) (codec : ImageCodec) {player : Player} (undumped : player.dumpAt? = none) (s : Studio) :
    Replays codec ⟨calls, none⟩ player s frames (if frames = 0 then 1 else legs) := by
  have ends : ∀ result, result.Completes calls →
      EndsWith frames (if frames = 0 then 1 else legs) (.finished result) := by
    intro result completes
    refine ⟨result, rfl, completes.outcome, ?_, ?_⟩
    · rw [completes.frames, h.countP_endsFrame]
    · rw [completes.legs, h.toNat_admitAll some]
  constructor
  case run =>
    obtain ⟨result, finished, completes⟩ := run_completes h.decodes undumped codec s
    rw [Field.run_eq_reference, finished]
    exact ends result completes
  case schedule =>
    intro moves f raceEnd made ended
    obtain ⟨result, rfl, completes⟩ := race_completes h.decodes undumped made ended
    exact ends result completes

/-- The file is a trace with so many frames and legs, from which the reader gives these calls. -/
structure Shows (frames legs : UInt16) (file : List UInt8) (r : Reader) (calls : List Call) : Prop where
  opened : Reader.ofBytes file = .ok r
  recordCount : r.header.recordCount.toNat = callCount frames legs
  /-- No error comes behind the calls. -/
  gives : r.Gives calls (.ok none)
  numbered : calls.map (fun c => c.no.toNat) = List.range (callCount frames legs)
  demonstrates : Demonstrates frames.toNat legs.toNat calls
  replays : ∀ codec player s, player.dumpAt? = none →
    Replays codec r.toSource player s frames.toNat (if frames.toNat = 0 then 1 else legs.toNat)

/-- The records of entries can tell how long their payloads are. -/
theorem fits_of_mem_number {c : Call} {start : Nat} {entries : List Entry} (mem : c ∈ number start entries) :
    c.Fits := by
  obtain ⟨e, -, no, rfl⟩ := mem_number mem
  exact (e.command.length_encode_le).trans_lt (by decide)

theorem shows_encodeTrace {frames legs : UInt16} (some : 0 < legs.toNat)
    (few : callCount frames legs < UInt32.size) :
    ∃ r, Shows frames legs (encodeTrace (callsOf frames legs)) r (callsOf frames legs) := by
  have length : (entriesOf frames legs).length = callCount frames legs := length_entriesOf frames legs
  have enough : (entriesOf frames legs).length ≤ UInt32.size := length ▸ few.le
  have numbered : ((callsOf frames legs).map fun c => c.no.toNat) = List.range (callCount frames legs) :=
    (map_toNat_number enough).trans (congrArg List.range length)
  have demonstrates := demonstrates_callsOf some frames
  obtain ⟨r, opened, count, gives⟩ := (readsBack_encodeTrace (fun _ => fits_of_mem_number)
    (increasing_number_iff.2 enough)).whole
  refine ⟨r, opened, ?_, gives, numbered, demonstrates, ?_⟩
  · rw [count, length_number, length]
  · intro codec player s undumped
    rw [gives.toSource]
    exact demonstrates.replays some codec undumped s

/-- The program prints how many calls there are, and the file that it leaves is a valid trace of them. -/
theorem demonstration_replays {report : Operation → Array String} {name path : String} {rest : List String} {files made : Files}
    {frames legs : UInt16} (framesRead : count 60 rest[0]? = .ok frames)
    (legsRead : count 3 rest[1]? = .ok legs) (created : files.write path ByteArray.empty = .ok made)
    (few : callCount frames (max legs 1) < UInt32.size) :
    ∃ after content r calls,
      run .wrapping report name (path :: rest) files = .printed after
        (s!"Wrote {callCount frames (max legs 1)} calls over {frames.toNat} frames to " ++ path ++ "\n") ∧
      after.read path = .ok content ∧ Shows frames (max legs 1) content.toList r calls := by
  have positive : 0 < (max legs 1).toNat := by
    change 0 < (if legs ≤ 1 then 1 else legs).toNat
    split
    · decide
    · rename_i many
      exact (Nat.zero_lt_one).trans (Nat.lt_of_not_le many)
  obtain ⟨content, recorded, bytes⟩ : RecordsAll .wrapping frames (max legs 1) :=
    recordsAll_of_makesAll (.inl rfl)
  obtain ⟨after, filled⟩ := Files.exists_write_of_write created content
  obtain ⟨r, shows⟩ := shows_encodeTrace positive few
  rw [← bytes] at shows
  refine ⟨after, content, r, _, ?_, Files.read_of_write filled, shows⟩
  have counted : (UInt32.ofNat (callCount frames (max legs 1))).toNat = callCount frames (max legs 1) :=
    UInt32.toNat_ofNat_of_lt' few
  rw [run]
  simp only [framesRead, legsRead]
  rw [write]
  simp only [created, recorded, fillIn, filled, counted]
  rfl

/-- Five frames of two legs. -/
theorem demonstration_replays_of_five_frames :
    callCount 5 2 = 27 ∧ ∃ after content r calls,
      run .wrapping Operation.report "demo_trace" ["d", "5", "2"] {} = .printed after
        (s!"Wrote {callCount 5 2} calls over {(5 : UInt16).toNat} frames to " ++ "d" ++ "\n") ∧
      after.read "d" = .ok content ∧ Shows 5 2 content.toList r calls := by
  have made : ({} : Files).write "d" ByteArray.empty = .ok ⟨[], [(["d"], ByteArray.empty)]⟩ := rfl
  have framesRead : count 60 (["5", "2"] : List String)[0]? = .ok 5 := rfl
  have legsRead : count 3 (["5", "2"] : List String)[1]? = .ok 2 := rfl
  have two : max (2 : UInt16) 1 = 2 := rfl
  have few : callCount 5 (max 2 1) < UInt32.size := by decide
  refine ⟨rfl, ?_⟩
  rw [← two]
  exact demonstration_replays framesRead legsRead made few

end DemoProgram

end TraceReplay
