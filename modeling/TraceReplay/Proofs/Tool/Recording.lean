import TraceReplay.Proofs.Trace.Writing
import TraceReplay.Tool.Demo

/-!
# How far a demonstration is recorded

A recorder has the entries that it was given, numbered from zero (`Recorder.Has`). One entry more keeps that, as
long as the build can go on to the next number (`Has.record`), and so do all the entries of a trace. Whether the
entries of a frame can be made depends on the legs alone: the row of a band never leaves its word, and the green of
its colour first does for the leg 1093.
-/

namespace TraceReplay

namespace Writer

theorem room_none : Room none := fun _ limited => by cases limited

/-- A medium without a limit takes every call. -/
theorem Holds.append_of_unlimited {w : Writer} {cs : List Call} (h : w.Holds none cs) (c : Call) :
    ∃ v, w.append c = .ok v ∧ v.Holds none (cs ++ [c]) := by
  have admitted : w.medium.admits (w.medium.position + c.encode.length) = true := by
    rw [Medium.admits, h.limit]
  obtain ⟨m, written⟩ : ∃ m, w.medium.write c.encode = .ok m := ⟨_, if_pos admitted⟩
  have accepted : w.append c = .ok ⟨m, w.records + 1⟩ := by
    rw [Writer.append, put_eq_ok_iff.2 written]
    rfl
  exact ⟨_, accepted, h.append accepted⟩

end Writer

namespace Arithmetic

variable {a : Arithmetic} {x y : UInt16}

/-- The build can count so far. -/
def Counts (a : Arithmetic) (n : Nat) : Prop := a = .wrapping ∨ n < UInt32.size

theorem Counts.mono {m n : Nat} (h : a.Counts n) (le : m ≤ n) : a.Counts m :=
  h.imp id fun lt => le.trans_lt lt

theorem next_of_counts {n : Nat} (h : a.Counts (n + 1)) :
    a.next (UInt32.ofNat n) = .ok (UInt32.ofNat (n + 1)) := by
  have allowed : a.allows UInt32.size ((UInt32.ofNat n).toNat + 1) = true := by
    rcases h with rfl | lt
    · rfl
    · rw [UInt32.toNat_ofNat_of_lt' ((Nat.lt_succ_self n).trans lt)]
      cases a
      · rfl
      · exact decide_eq_true lt
  rw [next, if_pos allowed, UInt32.ofNat_add]
  rfl

/-- A product that stays in its word may always be used. -/
theorem product_of_lt (a : Arithmetic) (fits : x.toNat * y.toNat < UInt16.size) :
    a.product x y = .ok (x * y) := by
  have allowed : a.allows UInt16.size (x.toNat * y.toNat) = true := by
    cases a
    · rfl
    · exact decide_eq_true fits
  rw [product, if_pos allowed]

theorem product_checked_of_le (leaves : UInt16.size ≤ x.toNat * y.toNat) :
    checked.product x y = .error .multiply := by
  rw [product, allows, decide_eq_false (Nat.not_lt.2 leaves)]
  rfl

end Arithmetic

namespace DemoProgram

/-- The rectangle of a leg in a frame, all results being taken into their words. -/
def bandOf (legs frame leg : UInt16) : Entry :=
  rectangle legs frame leg (leg * (side / legs)) (leg * 60)

/-- The entries of a frame. -/
def frameOf (legs frame : UInt16) : List Entry :=
  background frame ++ (List.range legs.toNat).map (fun leg => bandOf legs frame (UInt16.ofNat leg))
    ++ [present]

/-- The entries of so many frames. -/
def framesOf (legs : UInt16) (frames : Nat) : List (List Entry) :=
  (List.range frames).map fun frame => frameOf legs (UInt16.ofNat frame)

/-- The entries of a trace. -/
def entriesOf (frames legs : UInt16) : List Entry := opening :: (framesOf legs frames.toNat).flatten

/-- How many calls a trace has. -/
def callCount (frames legs : UInt16) : Nat :=
  1 + frames.toNat * (legs.toNat + 2) + 3 * ((frames.toNat + 3) / 4)

/-- The calls of entries with ascending numbers. After the last word zero comes again. -/
def number (start : Nat) : List Entry → List Call
  | [] => []
  | e :: entries => e.call (UInt32.ofNat start) :: number (start + 1) entries

/-- The calls of a trace. -/
def callsOf (frames legs : UInt16) : List Call := number 0 (entriesOf frames legs)

/-- A trace needs more numbers than there are if it has many frames and many legs. -/
example : UInt32.size ≤ callCount 65535 65535 := by decide

section Number

variable {start : Nat} {entries : List Entry}

theorem number_append (start : Nat) (first rest : List Entry) :
    number start (first ++ rest) = number start first ++ number (start + first.length) rest := by
  induction first generalizing start with
  | nil => rfl
  | cons e first ih =>
    rw [List.cons_append, number, number, ih, List.cons_append, List.length_cons, Nat.add_right_comm,
      Nat.add_assoc]

theorem mem_number {c : Call} (mem : c ∈ number start entries) : ∃ e ∈ entries, ∃ no, c = e.call no := by
  induction entries generalizing start with
  | nil => cases mem
  | cons e entries ih =>
    rcases List.mem_cons.1 mem with rfl | later
    · exact ⟨e, List.mem_cons_self, _, rfl⟩
    · obtain ⟨e', there, same⟩ := ih later
      exact ⟨e', List.mem_cons_of_mem _ there, same⟩

theorem map_no_number (start : Nat) (entries : List Entry) :
    (number start entries).map Call.no = (List.range' start entries.length).map UInt32.ofNat := by
  induction entries generalizing start with
  | nil => rfl
  | cons e entries ih =>
    rw [number, List.map_cons, ih, List.length_cons, List.range'_succ, List.map_cons]
    rfl

@[simp] theorem length_number (start : Nat) (entries : List Entry) :
    (number start entries).length = entries.length := by
  have same := congrArg List.length (map_no_number start entries)
  rwa [List.length_map, List.length_map, List.length_range'] at same

/-- As long as there are numbers, the calls have them. -/
theorem map_toNat_number (enough : entries.length ≤ UInt32.size) :
    ((number 0 entries).map fun c => c.no.toNat) = List.range entries.length := by
  have numbers := congrArg (List.map UInt32.toNat) (map_no_number 0 entries)
  rw [List.map_map, List.map_map, ← List.range_eq_range'] at numbers
  have kept : ∀ n ∈ List.range entries.length, (UInt32.ofNat n).toNat = id n := fun n mem =>
    UInt32.toNat_ofNat_of_lt' ((List.mem_range.1 mem).trans_le enough)
  exact numbers.trans ((List.map_congr_left kept).trans (List.map_id _))

/-- The numbers increase until there are no more. -/
theorem increasing_number_iff :
    ((number 0 entries).Pairwise fun c d => c.no < d.no) ↔ entries.length ≤ UInt32.size := by
  constructor
  · intro increasing
    have few := Call.length_le_of_increasing increasing
    rwa [length_number] at few
  · intro enough
    have ascending : ((number 0 entries).map fun c => c.no.toNat).Pairwise (· < ·) := by
      rw [map_toNat_number enough]
      exact List.pairwise_lt_range
    exact (List.pairwise_map.1 ascending).imp UInt32.lt_iff_toNat_lt.2

end Number

section Count

theorem length_frameOf (legs frame : UInt16) :
    (frameOf legs frame).length = legs.toNat + 2 + if frame % 4 = 0 then 3 else 0 := by
  rw [frameOf, background, extraEntries]
  split <;> simp

theorem length_flatten_framesOf (legs : UInt16) {frames : Nat} (few : frames ≤ UInt16.size) :
    (framesOf legs frames).flatten.length = frames * (legs.toNat + 2) + 3 * ((frames + 3) / 4) := by
  induction frames with
  | zero => simp [framesOf]
  | succ n ih =>
    -- Every fourth frame has three entries more, and the numbers of frames are words.
    have remainder : UInt16.ofNat n % 4 = 0 ↔ n % 4 = 0 := by
      have small : (UInt16.ofNat n).toNat = n := UInt16.toNat_ofNat_of_lt' few
      rw [← UInt16.toNat_inj, UInt16.toNat_mod, small]
      rfl
    have last : framesOf legs (n + 1) = framesOf legs n ++ [frameOf legs (UInt16.ofNat n)] := by
      rw [framesOf, List.range_succ, List.map_append]
      rfl
    rw [last, List.flatten_append, List.length_append, ih (Nat.le_of_succ_le few), List.flatten_singleton,
      length_frameOf, if_congr remainder rfl rfl, Nat.add_mul n 1]
    split <;> omega

theorem length_entriesOf (frames legs : UInt16) : (entriesOf frames legs).length = callCount frames legs := by
  have few : frames.toNat ≤ UInt16.size := frames.toNat_lt.le
  rw [entriesOf, List.length_cons, length_flatten_framesOf legs few, callCount]
  omega

end Count

section Frame

variable {a : Arithmetic} {legs frame leg : UInt16}

/-- The rows of the bands never leave the canvas. -/
theorem row_add_height_le (inside : leg.toNat < legs.toNat) :
    leg.toNat * (side / legs).toNat + (side / legs).toNat ≤ 256 := by
  have height : (side / legs).toNat = 256 / legs.toNat := UInt16.toNat_div ..
  calc
    leg.toNat * (side / legs).toNat + (side / legs).toNat
    _ = (leg.toNat + 1) * (side / legs).toNat := (Nat.succ_mul ..).symm
    _ ≤ legs.toNat * (256 / legs.toNat) := by
      rw [height]
      exact Nat.mul_le_mul_right _ inside
    _ ≤ 256 := Nat.mul_div_le ..

theorem row_lt_size (inside : leg.toNat < legs.toNat) :
    leg.toNat * (side / legs).toNat < UInt16.size := by
  have := row_add_height_le inside
  unfold UInt16.size
  omega

/-- The greens of the first 1093 legs are words. -/
theorem green_of_le (a : Arithmetic) (le : leg.toNat ≤ 1092) : a.product leg 60 = .ok (leg * 60) := by
  refine a.product_of_lt ?_
  change leg.toNat * 60 < 65536
  omega

/-- That of the next is not. -/
theorem green_of_gt (gt : 1092 < leg.toNat) : Arithmetic.checked.product leg 60 = .error .multiply := by
  refine Arithmetic.product_checked_of_le ?_
  change 65536 ≤ leg.toNat * 60
  omega

theorem bandEntry_of_le (inside : leg.toNat < legs.toNat) (le : leg.toNat ≤ 1092) :
    bandEntry a legs frame leg = .ok (bandOf legs frame leg) := by
  rw [bandEntry, a.product_of_lt (row_lt_size inside), green_of_le a le]
  rfl

theorem bandEntry_checked_of_gt (inside : leg.toNat < legs.toNat) (gt : 1092 < leg.toNat) :
    bandEntry .checked legs frame leg = .error .multiply := by
  rw [bandEntry, Arithmetic.checked.product_of_lt (row_lt_size inside), green_of_gt gt]
  rfl

/-- The first rectangles of a frame can be made in a build that checks nothing, and in every build if they are few. -/
theorem map_bandEntry {count : Nat} (inside : count ≤ legs.toNat) (fine : a = .wrapping ∨ count ≤ 1093) :
    (List.range count).map (fun leg => bandEntry a legs frame (UInt16.ofNat leg)) =
      ((List.range count).map fun leg => bandOf legs frame (UInt16.ofNat leg)).map .ok := by
  rw [List.map_map]
  refine List.map_congr_left fun leg mem => ?_
  have lt := List.mem_range.1 mem
  have same : (UInt16.ofNat leg).toNat = leg :=
    UInt16.toNat_ofNat_of_lt' ((lt.trans_le inside).trans legs.toNat_lt)
  rcases fine with rfl | few
  · rfl
  · apply bandEntry_of_le <;> omega

/-- So can all entries of a frame. -/
theorem frameEntries_eq (fine : a = .wrapping ∨ legs.toNat ≤ 1093) (frame : UInt16) :
    frameEntries a legs frame = (frameOf legs frame).map .ok := by
  rw [frameEntries, frameOf, map_bandEntry (Nat.le_refl _) fine, List.map_append, List.map_append]
  rfl

/-- The entries of a frame in front of the leg 1093. -/
def frameStart (legs frame : UInt16) : List Entry :=
  background frame ++ (List.range 1093).map fun leg => bandOf legs frame (UInt16.ofNat leg)

/-- A checked build with that leg makes these, and then breaks off. -/
theorem frameEntries_checked (many : 1093 < legs.toNat) (frame : UInt16) :
    ∃ rest, frameEntries .checked legs frame =
      (frameStart legs frame).map .ok ++ .error .multiply :: rest := by
  -- The legs are those in front of it, this one, and so many more.
  obtain ⟨more, split⟩ := Nat.exists_eq_add_of_lt many
  have leaves : bandEntry .checked legs frame (UInt16.ofNat (1093 + 0)) = .error .multiply :=
    bandEntry_checked_of_gt many (by decide)
  rw [frameEntries, split, Nat.add_assoc, List.range_add, List.map_append,
    map_bandEntry many.le (.inr (Nat.le_refl _)), List.range_succ_eq_map (n := more), List.map_cons,
    List.map_cons, leaves, frameStart, List.map_append]
  simp only [List.append_assoc, List.cons_append]
  exact ⟨_, rfl⟩

theorem frameStart_prefix (many : 1093 < legs.toNat) (frame : UInt16) :
    frameStart legs frame <+: frameOf legs frame := by
  obtain ⟨more, split⟩ := Nat.exists_eq_add_of_lt many
  rw [frameOf, split, Nat.add_assoc, List.range_add, List.map_append, List.append_assoc, List.append_assoc,
    ← List.append_assoc]
  exact List.prefix_append _ _

end Frame

namespace Recorder

variable {a : Arithmetic} {r : Recorder} {entries more : List Entry}

/-- The recorder has these entries, numbered from zero. -/
structure Has (r : Recorder) (entries : List Entry) : Prop where
  holds : r.writer.Holds none (number 0 entries)
  nextNo : r.nextNo = UInt32.ofNat entries.length

theorem has_start : ∃ r, start = .ok r ∧ r.Has [] := by
  obtain ⟨w, started, holds⟩ := Writer.holds_start Writer.room_none
  refine ⟨⟨w, 0⟩, ?_, holds, rfl⟩
  rw [start, started]

/-- One more entry. -/
theorem Has.record (h : r.Has entries) (counts : a.Counts (entries.length + 1)) (e : Entry) :
    ∃ q, r.record a (.ok e) = .ok q ∧ q.Has (entries ++ [e]) := by
  obtain ⟨w, appended, holds⟩ := h.holds.append_of_unlimited (e.call r.nextNo)
  refine ⟨⟨w, UInt32.ofNat (entries.length + 1)⟩, ?_, ?_, ?_⟩
  · rw [Recorder.record]
    simp only [appended]
    rw [h.nextNo, a.next_of_counts counts]
  · rw [number_append, Nat.zero_add, number, number, ← h.nextNo]
    exact holds
  · rw [List.length_append, List.length_singleton]

/-- More entries, one after the other. -/
theorem Has.recordAll (h : r.Has entries) (counts : a.Counts (entries ++ more).length) :
    ∃ q, r.recordAll a (more.map .ok) = .ok q ∧ q.Has (entries ++ more) := by
  induction more generalizing r entries with
  | nil =>
    refine ⟨r, rfl, ?_⟩
    rw [List.append_nil]
    exact h
  | cons e more ih =>
    rw [List.append_cons] at counts ⊢
    have one : a.Counts (entries.length + 1) := by
      rw [List.length_append, List.length_append, List.length_singleton] at counts
      exact counts.mono (Nat.le_add_right _ _)
    obtain ⟨q, recorded, has⟩ := h.record one e
    obtain ⟨s, rest, has⟩ := ih has counts
    refine ⟨s, ?_, has⟩
    rw [Recorder.recordAll, List.map_cons, List.foldlM_cons, recorded]
    exact rest

theorem recordAll_append (a : Arithmetic) (r : Recorder) (first rest : List (Except Operation Entry)) :
    r.recordAll a (first ++ rest) = (r.recordAll a first).bind fun r => r.recordAll a rest :=
  List.foldlM_append

/-- The entries in front of one that cannot be made are written. -/
theorem Has.recordAll_of_error (h : r.Has entries) (counts : a.Counts (entries ++ more).length)
    (operation : Operation) (rest : List (Except Operation Entry)) :
    ∃ content, r.recordAll a (more.map .ok ++ .error operation :: rest) =
        .error (.overflow operation content) ∧
      content.toList = (Header.ofCount 0).encode ++ (number 0 (entries ++ more)).flatMap Call.encode := by
  obtain ⟨q, recorded, has⟩ := h.recordAll counts
  refine ⟨_, ?_, has.holds.content⟩
  rw [recordAll_append, recorded]
  rfl

/-- To make the entries of a frame only when it is recorded changes nothing. -/
theorem recordFrames_eq (a : Arithmetic) (frames legs : UInt16) (r : Recorder) :
    r.recordFrames a frames legs = r.recordAll a
      ((List.range frames.toNat).flatMap fun frame => frameEntries a legs (UInt16.ofNat frame)) := by
  rw [recordFrames]
  generalize List.range frames.toNat = places
  induction places generalizing r with
  | nil => rfl
  | cons frame places ih =>
    rw [List.foldlM_cons, List.flatMap_cons, recordAll_append]
    exact congrArg (r.recordAll a _ >>= ·) (funext ih)

end Recorder

section Record

variable {a : Arithmetic} {frames legs : UInt16}

/-- The entries of a trace, as far as they can be made. -/
def allEntries (a : Arithmetic) (frames legs : UInt16) : List (Except Operation Entry) :=
  .ok opening :: (List.range frames.toNat).flatMap fun frame => frameEntries a legs (UInt16.ofNat frame)

/-- A trace is recorded entry by entry. -/
theorem record_eq (a : Arithmetic) (frames legs : UInt16) : record a frames legs = (do
    let r ← Recorder.start
    let r ← r.recordAll a (allEntries a frames legs)
    let content ← r.finish
    return ⟨content, r.nextNo⟩) := by
  rw [record]
  refine congrArg (Recorder.start >>= ·) (funext fun r => ?_)
  rw [Recorder.recordAll, allEntries, List.foldlM_cons, bind_assoc]
  refine congrArg (r.record a _ >>= ·) (funext fun r => ?_)
  rw [Recorder.recordFrames_eq]
  rfl

/-- The build makes all entries: it checks nothing, or there is no rectangle of a leg above 1092. -/
def MakesAll (a : Arithmetic) (frames legs : UInt16) : Prop :=
  a = .wrapping ∨ frames = 0 ∨ legs.toNat ≤ 1093

theorem allEntries_eq (makes : MakesAll a frames legs) :
    allEntries a frames legs = (entriesOf frames legs).map .ok := by
  have frame : ∀ n ∈ List.range frames.toNat,
      frameEntries a legs (UInt16.ofNat n) = (frameOf legs (UInt16.ofNat n)).map .ok := by
    intro n mem
    rcases makes with wrapping | rfl | few
    · exact frameEntries_eq (.inl wrapping) _
    · cases mem
    · exact frameEntries_eq (.inr few) _
  rw [allEntries, entriesOf, framesOf, List.map_cons, List.map_flatten, List.map_map, List.flatMap,
    List.map_congr_left frame]
  rfl

/-- A build that makes all entries and checks its results can count the calls. -/
theorem counts_callCount (makes : MakesAll a frames legs) : a.Counts (callCount frames legs) := by
  have := frames.toNat_lt
  rcases makes with wrapping | rfl | few
  · exact .inl wrapping
  · right
    rw [callCount, UInt16.toNat_zero, Nat.zero_mul]
    decide
  · right
    have product : frames.toNat * (legs.toNat + 2) ≤ 65535 * 1095 := by
      apply Nat.mul_le_mul <;> omega
    rw [callCount]
    change _ < 4294967296
    omega

/-- What comes of a recording that is not broken off. -/
def RecordsAll (a : Arithmetic) (frames legs : UInt16) : Prop :=
  ∃ content, record a frames legs = .ok ⟨content, UInt32.ofNat (callCount frames legs)⟩ ∧
    content.toList = encodeTrace (callsOf frames legs)

theorem recordsAll_of_makesAll (makes : MakesAll a frames legs) : RecordsAll a frames legs := by
  obtain ⟨r, started, fresh⟩ := Recorder.has_start
  have counts : a.Counts ([] ++ entriesOf frames legs).length := by
    rw [List.nil_append, length_entriesOf]
    exact counts_callCount makes
  obtain ⟨q, recorded, has⟩ := fresh.recordAll counts
  obtain ⟨m, finished, content⟩ := has.holds.finish Writer.room_none
  have closed : q.finish = .ok m.content := by
    rw [Recorder.finish, finished]
  refine ⟨m.content, ?_, content⟩
  rw [record_eq, allEntries_eq makes, started]
  simp only [bind, Except.bind, recorded, closed, has.nextNo]
  rw [List.nil_append, length_entriesOf]
  rfl

/-- What becomes of a recording in a checked build with a rectangle of the leg 1093. -/
def BreaksOff (frames legs : UInt16) : Prop :=
  ∃ content, record .checked frames legs = .error (.overflow .multiply content) ∧
    content.toList = (Header.ofCount 0).encode ++
      (number 0 ((entriesOf frames legs).take 1098)).flatMap Call.encode

/-- The entries in front of the first that a checked build cannot make. -/
theorem allEntries_checked (some : 0 < frames) (many : 1093 < legs.toNat) :
    ∃ rest, allEntries .checked frames legs =
      ((entriesOf frames legs).take 1098).map .ok ++ .error .multiply :: rest := by
  -- It is the first frame that cannot be made, whatever comes behind it.
  have positive : 0 < frames.toNat := some
  obtain ⟨later, succ⟩ := Nat.exists_eq_add_of_lt positive
  obtain ⟨rest, stops⟩ := frameEntries_checked many (UInt16.ofNat 0)
  obtain ⟨more, split⟩ := frameStart_prefix many (UInt16.ofNat 0)
  have length : (opening :: frameStart legs (UInt16.ofNat 0)).length = 1098 := by
    simp [frameStart, background, extraEntries]
  have first : (entriesOf frames legs).take 1098 = opening :: frameStart legs (UInt16.ofNat 0) := by
    rw [entriesOf, framesOf, succ, List.range_succ_eq_map, List.map_cons, List.flatten_cons, ← split,
      List.append_assoc, ← List.cons_append]
    exact List.take_left' length
  rw [first, allEntries, succ, List.range_succ_eq_map, List.flatMap_cons, stops, List.map_cons]
  simp only [List.append_assoc, List.cons_append]
  exact ⟨_, rfl⟩

theorem breaksOff_of_leg (some : 0 < frames) (many : 1093 < legs.toNat) : BreaksOff frames legs := by
  obtain ⟨rest, stops⟩ := allEntries_checked some many
  obtain ⟨r, started, fresh⟩ := Recorder.has_start
  have counts : Arithmetic.checked.Counts ([] ++ (entriesOf frames legs).take 1098).length :=
    .inr ((List.length_take_le ..).trans_lt (by decide))
  obtain ⟨content, broken, written⟩ := fresh.recordAll_of_error counts .multiply rest
  refine ⟨content, ?_, written⟩
  rw [record_eq, stops, started]
  simp only [bind, Except.bind, broken]

/-- What becomes of the arithmetic of a trace. -/
structure Computes (frames legs : UInt16) : Prop where
  /-- The rows of the bands never leave their words. -/
  rows : ∀ leg < legs, Arithmetic.checked.product leg (side / legs) = .ok (leg * (side / legs))
  /-- Their greens do from the leg 1093 on. -/
  greens : ∀ leg : UInt16,
    Arithmetic.checked.product leg 60 = if leg ≤ 1092 then .ok (leg * 60) else .error .multiply
  /-- A build that checks nothing records all calls. -/
  wrapping : RecordsAll .wrapping frames legs
  /-- Their numbers increase, unless there are more calls than numbers. -/
  increasing : ((callsOf frames legs).Pairwise fun c d => c.no < d.no) ↔ callCount frames legs ≤ UInt32.size
  /-- A checked build without a rectangle of that leg records the same, and has numbers for all calls. -/
  fine : frames = 0 ∨ legs ≤ 1093 → callCount frames legs < UInt32.size ∧ RecordsAll .checked frames legs
  /-- With one it breaks off in front of the first, when it has written 1098 calls. -/
  broken : 0 < frames → 1093 < legs → BreaksOff frames legs

/-- A checked build breaks off for the green of a leg, and for nothing else. -/
theorem recorded_up_to_overflow (frames legs : UInt16) : Computes frames legs where
  rows := fun leg inside => Arithmetic.checked.product_of_lt (row_lt_size inside)
  greens := by
    intro leg
    split
    · rename_i le
      exact green_of_le .checked le
    · rename_i gt
      exact green_of_gt (Nat.lt_of_not_le gt)
  wrapping := recordsAll_of_makesAll (.inl rfl)
  increasing := by
    rw [← length_entriesOf]
    exact increasing_number_iff
  fine := by
    intro few
    have makes : MakesAll .checked frames legs := .inr few
    refine ⟨?_, recordsAll_of_makesAll makes⟩
    rcases counts_callCount makes with wrapping | fits
    · cases wrapping
    · exact fits
  broken := fun some many => breaksOff_of_leg some many

/-- The program ends with a report and without a line about its calls when it is asked for the first number of
legs that is too many. -/
theorem brokenOff_of_1094_legs :
    let left := run .checked Operation.report "demo_trace" ["o", "1", "1094"] {}
    left.exitCode = 101 ∧ left.stderr = #["attempt to multiply with overflow"] ∧ left.stdout = .empty := by
  have some : (0 : UInt16) < 1 := by decide
  have many : 1093 < (1094 : UInt16).toNat := by decide
  obtain ⟨content, broken, -⟩ := breaksOff_of_leg some many
  have made : ({} : Files).write "o" ByteArray.empty = .ok ⟨[], [(["o"], ByteArray.empty)]⟩ := rfl
  have asked : run .checked Operation.report "demo_trace" ["o", "1", "1094"] {} =
    write .checked Operation.report {} "o" 1 1094 := rfl
  rw [asked, write]
  simp only [made, broken]
  exact ⟨rfl, rfl, rfl⟩

end Record

end DemoProgram

end TraceReplay
