import Mathlib.Data.Fintype.Card
import Mathlib.Data.List.Nodup
import TraceReplay.Proofs.Trace.Format
import TraceReplay.Trace.Writer

/-!
# Reading what was written

Whatever a medium refuses, the writer's file is the header and the records of the calls that were accepted
(`Writer.Holds`), so it reads as these calls. A part of it reads as the calls whose records it has whole;
behind them is the end, or a record that is torn (`Reader.gives_cut`).
-/

namespace TraceReplay

/-- The bytes of an array of bytes, read one after the other. -/
theorem toList_eq_data (b : ByteArray) : b.toList = b.data.toList := by
  have loop : ∀ (i : Nat) (r : List UInt8),
      ByteArray.toList.loop b i r = r.reverse ++ b.data.toList.drop i := by
    intro i r
    fun_induction ByteArray.toList.loop b i r with
    | case1 i r lt ih =>
      have inside : i < b.data.toList.length := lt
      have here : b.get! i = b.data.toList[i] := getElem!_pos b.data i lt
      rw [ih, List.drop_eq_getElem_cons inside, List.reverse_cons, List.append_assoc, here]
      rfl
    | case2 i r ge => rw [List.drop_of_length_le (Nat.le_of_not_lt ge), List.append_nil]
  exact loop 0 []

theorem length_toList (b : ByteArray) : b.toList.length = b.size := by
  rw [toList_eq_data, Array.length_toList]
  rfl

namespace Medium

variable {m n : Medium} {data : List UInt8}

/-- At the end of a medium data is put behind the content. -/
theorem splice_at_end {content : ByteArray} :
    (splice content content.size ⟨data.toArray⟩).toList = content.toList ++ data := by
  rw [splice, if_pos rfl, toList_eq_data, toList_eq_data, ByteArray.data_append, Array.toList_append]

/-- At the start of a medium data takes the place of as many bytes. -/
theorem splice_at_start {content : ByteArray} (some : content.size ≠ 0) :
    (splice content 0 ⟨data.toArray⟩).toList = data ++ content.toList.drop data.length := by
  have length : content.data.toList.length = content.size := Array.length_toList
  have size : ByteArray.size ⟨data.toArray⟩ = data.length := List.size_toArray
  rw [splice, if_neg some.symm, toList_eq_data, toList_eq_data]
  simp only [ByteArray.data_append, ByteArray.data_extract, Array.toList_append, Array.toList_extract,
    size, Nat.zero_add, Nat.zero_sub, Array.replicate_zero, List.append_nil, List.extract_eq_take_drop,
    List.take_zero, List.nil_append]
  rw [List.take_of_length_le (by rw [List.length_drop, length])]

/-- A write at the end that is not refused. -/
theorem write_at_end (atEnd : m.position = m.content.size) (written : m.write data = .ok n) :
    n.limit? = m.limit? ∧ n.content.toList = m.content.toList ++ data ∧ n.position = n.content.size := by
  rw [write] at written
  split at written
  · cases written
    have content : (splice m.content m.position ⟨data.toArray⟩).toList = m.content.toList ++ data := by
      rw [atEnd, splice_at_end]
    refine ⟨rfl, content, ?_⟩
    rw [← length_toList, content, List.length_append, length_toList, atEnd]
  · cases written

/-- What has room at the start of a medium may be written there. -/
theorem write_at_start (some : m.content.size ≠ 0) (room : m.admits data.length) :
    ∃ n, m.rewind.write data = .ok n ∧ n.content.toList = data ++ m.content.toList.drop data.length := by
  have admitted : m.rewind.admits (m.rewind.position + data.length) = true := by
    rw [rewind, Nat.zero_add]
    exact room
  rw [write]
  simp only [if_pos admitted]
  exact ⟨_, rfl, splice_at_start some⟩

end Medium

namespace Writer

variable {w v : Writer} {c : Call} {cs ds : List Call} {limit? : Option Nat}

/-- The writer has written a provisional header and the records of these calls. -/
structure Holds (w : Writer) (limit? : Option Nat) (cs : List Call) : Prop where
  limit : w.medium.limit? = limit?
  content : w.medium.content.toList = (Header.ofCount 0).encode ++ cs.flatMap Call.encode
  atEnd : w.medium.position = w.medium.content.size
  records : w.records = cs.length

/-- A write is named a failure of the trace if the medium refuses it. -/
theorem put_eq_ok_iff {m n : Medium} {data : List UInt8} : put m data = .ok n ↔ m.write data = .ok n := by
  rw [put]
  cases m.write data <;> simp [Except.mapError]

/-- The medium has room for a header. -/
def Room (limit? : Option Nat) : Prop := ∀ limit, limit? = some limit → headerSize ≤ limit

theorem admits_header {m : Medium} (room : Room m.limit?) (count : UInt64) :
    m.admits (Header.ofCount count).encode.length = true := by
  rw [Medium.admits, Header.length_encode]
  cases limited : m.limit? with
  | none => rfl
  | some limit => exact decide_eq_true (room limit limited)

/-- On an empty medium with room for a header a trace can be started. -/
theorem holds_start (room : Room limit?) : ∃ w, start { limit? } = .ok w ∧ w.Holds limit? [] := by
  have admitted : Medium.admits { limit? } (0 + (Header.ofCount 0).encode.length) = true := by
    rw [Nat.zero_add]
    exact admits_header (m := { limit? }) room 0
  have written : Medium.write { limit? } (Header.ofCount 0).encode = .ok _ := if_pos admitted
  obtain ⟨limit, content, atEnd⟩ := Medium.write_at_end rfl written
  refine ⟨_, by rw [start, put_eq_ok_iff.2 written]; rfl, limit, ?_, atEnd, rfl⟩
  rw [content, List.flatMap_nil, List.append_nil, toList_eq_data]
  rfl

/-- An accepted call's record is put behind the others. -/
theorem Holds.append (h : w.Holds limit? cs) (accepted : w.append c = .ok v) :
    v.Holds limit? (cs ++ [c]) := by
  rw [Writer.append] at accepted
  cases written : put w.medium c.encode with
  | error e =>
    rw [written] at accepted
    cases accepted
  | ok m =>
    rw [written] at accepted
    cases accepted
    obtain ⟨limit, content, atEnd⟩ := Medium.write_at_end h.atEnd (put_eq_ok_iff.1 written)
    refine ⟨limit.trans h.limit, ?_, atEnd, ?_⟩
    · rw [content, h.content, List.flatMap_append, List.flatMap_singleton, List.append_assoc]
    · rw [List.length_append, h.records, List.length_singleton]

/-- A refused call leaves the file as it was, so that afterwards the records are those of the accepted calls. -/
theorem Holds.appendAll (h : w.Holds limit? cs) :
    (w.appendAll ds).Holds limit? (cs ++ w.accepted ds) := by
  induction ds generalizing w cs with
  | nil =>
    rw [accepted, List.append_nil]
    exact h
  | cons d ds ih =>
    rw [Writer.appendAll, accepted]
    cases answer : w.append d with
    | error e => exact ih h
    | ok v =>
      rw [List.append_cons]
      exact ih (h.append answer)

theorem accepted_sublist (w : Writer) (cs : List Call) : (w.accepted cs).Sublist cs := by
  induction cs generalizing w with
  | nil => exact .slnil
  | cons c cs ih =>
    rw [accepted]
    cases w.append c with
    | error e => exact (ih w).cons c
    | ok v => exact (ih v).cons_cons c

/-- At the end the header tells the number of records. -/
theorem Holds.finish (h : w.Holds limit? cs) (room : Room limit?) :
    ∃ m, w.finish = .ok m ∧ m.content.toList = encodeTrace cs := by
  have size : w.medium.content.size ≠ 0 := by
    rw [← length_toList, h.content, List.length_append, Header.length_encode, headerSize]
    omega
  obtain ⟨m, written, content⟩ := Medium.write_at_start size
    (admits_header (h.limit.symm ▸ room) (UInt64.ofNat w.records))
  refine ⟨m.toEnd, by rw [Writer.finish, put_eq_ok_iff.2 written]; rfl, ?_⟩
  calc
    m.content.toList
    _ = (Header.ofCount (UInt64.ofNat w.records)).encode ++ w.medium.content.toList.drop headerSize := by
      rw [content, Header.length_encode]
    _ = encodeTrace cs := by
      rw [h.content, List.drop_left' (Header.length_encode _), h.records, encodeTrace]

end Writer

namespace Call

variable {c : Call} {cs : List Call} {start stop : Nat}

/-- There are no more numbers than words, so the header can tell how many calls there are. -/
theorem length_le_of_increasing (increasing : cs.Pairwise fun c d => c.no < d.no) :
    cs.length ≤ UInt32.size := by
  have distinct : (cs.map fun c => c.no.toFin).Nodup :=
    List.pairwise_map.2 (increasing.imp fun lower => ne_of_lt lower)
  calc
    cs.length
    _ = (cs.map fun c => c.no.toFin).length := (List.length_map _).symm
    _ ≤ Fintype.card (Fin UInt32.size) := distinct.length_le_card
    _ = UInt32.size := Fintype.card_fin _

theorem length_encode_pos (c : Call) : 0 < c.encode.length := List.length_pos_iff.2 c.encode_ne_nil

/-- The start of a record tells how long the record is, as soon as its fixed part is there. -/
theorem needed_take_encode (fits : c.Fits) {size : Nat} (short : size < c.encode.length) :
    needed (c.encode.take size) = if size < headerSize then headerSize else c.encode.length := by
  have length : (c.encode.take size).length = size := List.length_take_of_le short.le
  rw [needed, length]
  refine ite_congr rfl (fun _ => rfl) fun long => ?_
  have whole := announced_encode_append fits []
  rw [List.append_nil] at whole
  rw [announced, List.take_take, Nat.min_eq_left (Nat.le_of_not_lt long), ← announced, whole, length_encode]

theorem le_of_mem_placed {place : Nat × Call} (mem : place ∈ placed start cs) : start ≤ place.1 := by
  induction cs generalizing start with
  | nil => cases mem
  | cons c cs ih =>
    rcases List.mem_cons.1 mem with rfl | later
    · exact Nat.le_refl _
    · exact (Nat.le_add_right _ _).trans (ih later)

/-- No record ends in front of the first. -/
theorem wholeBefore_of_le (before : stop ≤ start) : wholeBefore stop start cs = [] := by
  rw [wholeBefore, List.map_eq_nil_iff, List.filter_eq_nil_iff]
  intro place mem
  have := le_of_mem_placed mem
  have := place.2.length_encode_pos
  rw [decide_eq_true_eq]
  omega

theorem wholeBefore_cons_of_le (whole : start + c.encode.length ≤ stop) :
    wholeBefore stop start (c :: cs) = c :: wholeBefore stop (start + c.encode.length) cs := by
  rw [wholeBefore, placed, List.filter_cons, if_pos (decide_eq_true whole)]
  rfl

theorem wholeBefore_cons_of_lt (torn : stop < start + c.encode.length) :
    wholeBefore stop start (c :: cs) = [] := by
  have first : ¬ decide (start + c.encode.length ≤ stop) = true := by
    rw [decide_eq_true_eq]
    omega
  rw [wholeBefore, placed, List.filter_cons, if_neg first]
  exact wholeBefore_of_le torn.le

theorem boundaries_cons (start : Nat) (c : Call) (cs : List Call) :
    boundaries start (c :: cs) = start :: boundaries (start + c.encode.length) cs := rfl

theorem le_of_mem_boundaries (mem : stop ∈ boundaries start cs) : start ≤ stop := by
  rcases List.mem_cons.1 mem with rfl | later
  · exact Nat.le_refl _
  · obtain ⟨place, record, rfl⟩ := List.mem_map.1 later
    exact (le_of_mem_placed record).trans (Nat.le_add_right _ _)

/-- All records end with the last of them. -/
theorem boundaries_end (start : Nat) (cs : List Call) :
    start + (cs.flatMap encode).length ∈ boundaries start cs ∧
      wholeBefore (start + (cs.flatMap encode).length) start cs = cs := by
  induction cs generalizing start with
  | nil => exact ⟨List.mem_cons_self, rfl⟩
  | cons c cs ih =>
    obtain ⟨mem, whole⟩ := ih (start + c.encode.length)
    rw [List.flatMap_cons, List.length_append, ← Nat.add_assoc, boundaries_cons]
    refine ⟨List.mem_cons_of_mem _ mem, ?_⟩
    rw [wholeBefore_cons_of_le (Nat.le_add_right _ _), whole]

end Call

namespace Reader

variable {r s : Reader} {c : Call} {cs : List Call} {last : Except TraceError (Option Call)}

/-- A reader that gives no call gives none for ever. -/
theorem gives_nil (stuck : ∀ c, r.read.1 ≠ .ok (some c)) : r.Gives [] r.read.1 := fun n => by
  rw [answers_of_stuck stuck, List.map_nil, List.nil_append, List.take_of_length_le]
  rw [List.length_replicate]

/-- What comes behind so many answers does not matter for them. -/
theorem take_append_replicate_succ (cs : List Call) (n : Nat) :
    ((cs.map fun c => Except.ok (some c)) ++ List.replicate (n + 1) last).take n =
      ((cs.map fun c => Except.ok (some c)) ++ List.replicate n last).take n := by
  rw [List.replicate_succ', ← List.append_assoc, List.take_append_of_le_length]
  rw [List.length_append, List.length_replicate]
  omega

theorem Gives.cons (first : r.next = .ok (some (c, s))) (rest : s.Gives cs last) :
    r.Gives (c :: cs) last := by
  intro n
  cases n with
  | zero => rfl
  | succ n =>
    rw [answers, read, first, rest n, List.map_cons, List.cons_append, List.take_succ_cons,
      take_append_replicate_succ]

/-- The first call is read, and the others are given afterwards. -/
theorem Gives.of_cons (h : r.Gives (c :: cs) last) : ∃ s, r.next = .ok (some (c, s)) ∧ s.Gives cs last := by
  obtain ⟨s, next⟩ := read_eq_some_iff_next.1 (List.cons.inj (h 1)).1
  refine ⟨s, next, fun n => ?_⟩
  have later := (List.cons.inj (h (n + 1))).2
  rw [read, next] at later
  exact later.trans (take_append_replicate_succ cs n)

/-- The source of a reader that gives calls up to the end has these calls. -/
theorem Gives.toSource (h : r.Gives cs (.ok none)) : r.toSource = ⟨cs, none⟩ := by
  induction cs generalizing r with
  | nil =>
    have ended : r.next = .ok none := next_of_empty (read_eq_none_iff.1 (List.cons.inj (h 1)).1)
    rw [Reader.toSource]
    split <;> simp_all
  | cons c cs ih =>
    obtain ⟨s, next, rest⟩ := h.of_cons
    have source : r.toSource = ⟨c :: s.toSource.calls, s.toSource.fault?⟩ := by
      rw [Reader.toSource]
      split <;> simp_all
    rw [source, ih rest]

/-- What a reader gives of the calls whose records start where it stands, if the file stops at `stop`:
those whose records are whole, and then the end of the file, or that the next record is torn. -/
structure GivesUpTo (r : Reader) (stop start : Nat) (cs : List Call) : Prop where
  ended : stop ∈ Call.boundaries start cs → r.Gives (Call.wholeBefore stop start cs) (.ok none)
  torn : stop ∉ Call.boundaries start cs → ∃ place ∈ Call.placed start cs,
    place.1 < stop ∧ stop < place.1 + place.2.encode.length ∧
      r.Gives (Call.wholeBefore stop start cs) (.error (.truncated place.1
        (if stop - place.1 < headerSize then headerSize else place.2.encode.length) (stop - place.1)))

/-- No record at all. -/
theorem givesUpTo_of_empty (empty : r.rest = []) (start : Nat) (cs : List Call) :
    r.GivesUpTo start start cs := by
  have none : r.read.1 = .ok none := read_eq_none_iff.2 empty
  have gives := gives_nil (r := r) (by simp [none])
  rw [none] at gives
  refine ⟨fun _ => ?_, fun inside => absurd List.mem_cons_self inside⟩
  rw [Call.wholeBefore_of_le (Nat.le_refl _)]
  exact gives

/-- The first record is torn. -/
theorem givesUpTo_of_torn {stop : Nat} (fits : c.Fits) (starts : r.offset < stop)
    (short : stop < r.offset + c.encode.length) (rest : r.rest = c.encode.take (stop - r.offset)) :
    r.GivesUpTo stop r.offset (c :: cs) := by
  have less : stop - r.offset < c.encode.length := by omega
  have length : r.rest.length = stop - r.offset := by rw [rest, List.length_take_of_le less.le]
  have needed := Call.needed_take_encode fits less
  rw [← rest] at needed
  have torn : r.read.1 = .error (r.cutShort (Call.needed r.rest)) := by
    refine read_eq_error_iff.2 (next_of_short (List.ne_nil_of_length_pos (by omega)) ?_)
    rw [needed, length]
    split <;> omega
  have gives := gives_nil (r := r) (by simp [torn])
  rw [torn, cutShort, needed, remaining, length] at gives
  refine ⟨fun boundary => ?_, fun _ => ⟨(r.offset, c), List.mem_cons_self, starts, short, ?_⟩⟩
  · rw [Call.boundaries_cons] at boundary
    rcases List.mem_cons.1 boundary with rfl | later
    · omega
    · have := Call.le_of_mem_boundaries later
      omega
  · rw [Call.wholeBefore_cons_of_lt short]
    exact gives

/-- The first record is whole. -/
theorem givesUpTo_of_whole {stop : Nat} (whole : r.offset + c.encode.length ≤ stop)
    (first : r.next = .ok (some (c, s))) (rest : s.GivesUpTo stop (r.offset + c.encode.length) cs) :
    r.GivesUpTo stop r.offset (c :: cs) := by
  have later : stop ≠ r.offset := by
    have := c.length_encode_pos
    omega
  have boundary : stop ∈ Call.boundaries r.offset (c :: cs) ↔
      stop ∈ Call.boundaries (r.offset + c.encode.length) cs := by
    rw [Call.boundaries_cons, List.mem_cons, or_iff_right later]
  refine ⟨fun ends => ?_, fun inside => ?_⟩
  · rw [Call.wholeBefore_cons_of_le whole]
    exact (rest.ended (boundary.1 ends)).cons first
  · obtain ⟨place, mem, starts, short, gives⟩ := rest.torn (mt boundary.2 inside)
    rw [Call.wholeBefore_cons_of_le whole]
    exact ⟨place, List.mem_cons_of_mem _ mem, starts, short, gives.cons first⟩

/-- A reader in front of the records of some calls, as far as the file goes. -/
theorem gives_cut {stop : Nat} (starts : r.offset ≤ stop)
    (stops : stop ≤ r.offset + (cs.flatMap Call.encode).length)
    (rest : r.rest = (cs.flatMap Call.encode).take (stop - r.offset)) (fits : ∀ c ∈ cs, c.Fits)
    (increasing : cs.Pairwise fun c d => c.no < d.no) (higher : ∀ c ∈ cs, r.Admits c) :
    r.GivesUpTo stop r.offset cs := by
  induction cs generalizing r with
  | nil =>
    obtain rfl : stop = r.offset := by
      rw [List.flatMap_nil, List.length_nil] at stops
      omega
    exact givesUpTo_of_empty (rest.trans List.take_nil) _ _
  | cons c cs ih =>
    rw [List.flatMap_cons, List.length_append] at stops
    rw [List.flatMap_cons] at rest
    by_cases whole : r.offset + c.encode.length ≤ stop
    · rw [List.take_append, List.take_of_length_le (by omega)] at rest
      have first := next_of_admits (fits c List.mem_cons_self) rest (higher c List.mem_cons_self)
      refine givesUpTo_of_whole whole first (ih whole ?_ ?_ ?_ increasing.of_cons ?_)
      · show stop ≤ r.offset + c.encode.length + _
        omega
      · rw [beyond, Nat.sub_sub]
      · exact fun d mem => fits d (List.mem_cons_of_mem _ mem)
      · rintro d mem _ ⟨⟩
        exact List.rel_of_pairwise_cons increasing mem
    · rw [List.take_append_of_le_length (by omega)] at rest
      rcases Nat.eq_or_lt_of_le starts with here | inside
      · rw [← here, Nat.sub_self, List.take_zero] at rest
        rw [← here]
        exact givesUpTo_of_empty rest _ _
      · exact givesUpTo_of_torn (fits c List.mem_cons_self) inside (Nat.lt_of_not_le whole) rest

/-- The header of a trace is taken off its records. -/
theorem ofBytes_header_append (count : UInt64) (records : List UInt8) :
    ofBytes ((Header.ofCount count).encode ++ records) =
      .ok ⟨Header.ofCount count, headerSize, records, none⟩ := by
  have long : ¬ ((Header.ofCount count).encode ++ records).length < headerSize := by
    rw [List.length_append, Header.length_encode]
    omega
  have header : (Header.ofCount count).encode =
      magicBytes ++ versionBytes ++ LittleEndian.encode 8 count.toNat := Header.encode_eq count
  have magic : ((Header.ofCount count).encode ++ records).take 4 = magicBytes := by
    rw [header]
    rfl
  have version : (((Header.ofCount count).encode ++ records).drop 4).take 4 = versionBytes := by
    rw [header]
    rfl
  have told : (((Header.ofCount count).encode ++ records).drop 8).take 8 =
      LittleEndian.encode 8 count.toNat := by
    rw [header]
    rfl
  rw [ofBytes_eq, if_neg long, if_neg (not_not_intro magic), if_neg (not_not_intro version), told,
    LittleEndian.decode_encode count.toNat_lt, UInt64.ofNat_toNat, List.drop_left' (Header.length_encode _)]
  rfl

end Reader

/-- How a file reads that holds exactly these calls, all of it and each part of it. -/
structure ReadsBack (file : List UInt8) (cs : List Call) : Prop where
  whole : ∃ r, Reader.ofBytes file = .ok r ∧ r.header.recordCount.toNat = cs.length ∧ r.Gives cs (.ok none)
  /-- Without all of the header it is no trace. -/
  headless : ∀ stop < headerSize, Reader.ofBytes (file.take stop) = .error (.tooSmall stop)
  cut : ∀ stop, headerSize ≤ stop → stop ≤ file.length →
    ∃ r, Reader.ofBytes (file.take stop) = .ok r ∧ r.GivesUpTo stop headerSize cs

theorem length_encodeTrace (cs : List Call) :
    (encodeTrace cs).length = headerSize + (cs.flatMap Call.encode).length := by
  rw [encodeTrace, List.length_append, Header.length_encode]

theorem readsBack_encodeTrace {cs : List Call} (fits : ∀ c ∈ cs, c.Fits)
    (increasing : cs.Pairwise fun c d => c.no < d.no) : ReadsBack (encodeTrace cs) cs := by
  have cut : ∀ stop, headerSize ≤ stop → stop ≤ (encodeTrace cs).length →
      ∃ r, Reader.ofBytes ((encodeTrace cs).take stop) = .ok r ∧
        r.header = Header.ofCount (UInt64.ofNat cs.length) ∧ r.GivesUpTo stop headerSize cs := by
    intro stop starts stops
    rw [length_encodeTrace] at stops
    rw [encodeTrace, List.take_append, List.take_of_length_le (by rwa [Header.length_encode]),
      Header.length_encode, Reader.ofBytes_header_append]
    refine ⟨_, rfl, rfl, Reader.gives_cut starts stops rfl fits increasing ?_⟩
    exact fun _ _ => nofun
  refine ⟨?_, fun stop short => ?_, fun stop starts stops => ?_⟩
  · have length := length_encodeTrace cs
    obtain ⟨r, opened, header, gives⟩ := cut _ (by omega) (Nat.le_refl _)
    rw [List.take_length] at opened
    obtain ⟨ends, all⟩ := Call.boundaries_end headerSize cs
    rw [← length] at ends all
    have calls := gives.ended ends
    rw [all] at calls
    refine ⟨r, opened, ?_, calls⟩
    have few := Call.length_le_of_increasing increasing
    rw [header, Header.ofCount, UInt64.toNat_ofNat_of_lt' (few.trans_lt (by decide))]
  · have length := length_encodeTrace cs
    have taken : ((encodeTrace cs).take stop).length = stop := List.length_take_of_le (by omega)
    rw [Reader.ofBytes_eq, taken, if_pos short]
  · obtain ⟨r, opened, -, gives⟩ := cut stop starts stops
    exact ⟨r, opened, gives⟩

/-- Whatever a medium with room for a header refuses, the file holds the accepted calls, and reads as them. -/
theorem written_reads_back (limit? : Option Nat) (cs : List Call)
    (room : ∀ limit, limit? = some limit → headerSize ≤ limit)
    (increasing : cs.Pairwise fun c d => c.no < d.no)
    (small : ∀ c ∈ cs, c.payload.length < UInt32.size) :
    ∃ w m, Writer.start { limit? } = .ok w ∧ (w.appendAll cs).finish = .ok m ∧
      ReadsBack m.content.toList (w.accepted cs) := by
  obtain ⟨w, started, holds⟩ := Writer.holds_start room
  have all : (w.appendAll cs).Holds limit? ([] ++ w.accepted cs) := holds.appendAll
  rw [List.nil_append] at all
  obtain ⟨m, finished, content⟩ := all.finish room
  have part := w.accepted_sublist cs
  refine ⟨w, m, started, finished, ?_⟩
  rw [content]
  exact readsBack_encodeTrace (fun c mem => small c (part.subset mem)) (increasing.sublist part)

/-- Calls of which the second has a record of 36 bytes. -/
def uneven : List Call :=
  [⟨1, 0, ⟨1⟩, [7, 8]⟩, ⟨2, 1, .none, List.replicate 20 0⟩, ⟨5, 2, ⟨0x80000000⟩, []⟩]

/-- With 34 bytes behind the header the second call is refused, and the others are read back. -/
theorem written_reads_back_of_full_medium :
    ∃ w m, Writer.start { limit? := some 50 } = .ok w ∧ (w.appendAll uneven).finish = .ok m ∧
      w.accepted uneven = [⟨1, 0, ⟨1⟩, [7, 8]⟩, ⟨5, 2, ⟨0x80000000⟩, []⟩] ∧
        ReadsBack m.content.toList (w.accepted uneven) := by
  have room : ∀ limit, some 50 = some limit → headerSize ≤ limit := by
    rintro _ ⟨⟩
    decide
  obtain ⟨w, m, started, finished, reads⟩ :=
    written_reads_back (some 50) uneven room (by decide) (by decide)
  refine ⟨w, m, started, finished, ?_, reads⟩
  have start : Writer.start { limit? := some 50 } =
      .ok ⟨⟨Medium.splice .empty 0 ⟨(Header.ofCount 0).encode.toArray⟩, 16, some 50⟩, 0⟩ := rfl
  rw [start] at started
  cases started
  rfl

end TraceReplay
