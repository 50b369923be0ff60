import TraceReplay.Proofs.Trace.Records
import TraceReplay.Text.Utf8

/-!
# The format of traces

Which bytes are a trace (`Opening`), and what a reader replies at each place of one (`Standing`). The bytes
are arbitrary, and so are the lengths that its records announce. That no byte outside the file is looked at
is told of a `Cursor`, which would give nothing if it did: it always gives what the reader gives.
-/

namespace TraceReplay

theorem slice?_of_le {bytes : List UInt8} {start stop : Nat} (lower : start ≤ stop)
    (upper : stop ≤ bytes.length) : slice? bytes start stop = some ((bytes.take stop).drop start) :=
  if_pos ⟨lower, upper⟩

theorem word?_of_le {bytes : List UInt8} {start : Nat} (inside : start + 4 ≤ bytes.length) :
    word? bytes start = some (UInt32.ofNat (LittleEndian.decode ((bytes.drop start).take 4))) := by
  rw [word?, slice?_of_le (by omega) inside, List.drop_take, Nat.add_sub_cancel_left]
  rfl

/-- The words in front of a record are where they are looked for. -/
theorem words_of_record {bytes : List UInt8} (head : headerSize ≤ bytes.length) :
    word? bytes 0 = some (Call.ofRecord bytes).no ∧ word? bytes 4 = some (Call.ofRecord bytes).leg ∧
      word? bytes 8 = some (Call.ofRecord bytes).flags.bits ∧
      word? bytes 12 = some (UInt32.ofNat (Call.announced bytes)) := by
  unfold headerSize at head
  refine ⟨?_, ?_, ?_, ?_⟩
  all_goals
    rw [word?_of_le (by omega)]
    simp [Call.ofRecord, Call.announced, headerSize, List.drop_take, List.take_take]

/-- What a cursor does, told from the bytes that are left. -/
theorem Cursor.read?_of_slice {k : Cursor} {record : List UInt8}
    (there : slice? k.file k.offset k.file.length = some record) :
    k.read? = some (
      if record = [] then (.ok none, k)
      else if record.length < Call.needed record then
        (.error (.truncated k.offset (Call.needed record) record.length), k)
      else match Reader.follows k.previous? (Call.ofRecord record).no with
        | .error e => (.error e, k)
        | .ok _ => (.ok (some (Call.ofRecord record)),
            { k with
              offset := k.offset + Call.needed record
              previous? := some (Call.ofRecord record).no })) := by
  rw [read?, there]
  simp only [Option.bind_eq_bind, Option.bind_some, Option.pure_def, List.length_eq_zero_iff]
  by_cases empty : record = []
  · rw [if_pos empty, if_pos empty]
  by_cases short : record.length < headerSize
  · have needed : Call.needed record = headerSize := if_pos short
    rw [if_neg empty, if_neg empty, if_pos short, needed, if_pos short]
  · have needed : Call.needed record = headerSize + Call.announced record := if_neg short
    have announced : (UInt32.ofNat (Call.announced record)).toNat = Call.announced record :=
      UInt32.toNat_ofNat_of_lt' (Call.announced_lt (Nat.le_of_not_lt short))
    obtain ⟨no, leg, flags, size⟩ := words_of_record (Nat.le_of_not_lt short)
    rw [if_neg empty, if_neg empty, if_neg short, no, leg, flags, size]
    simp only [Option.bind_some, announced, ← needed]
    by_cases torn : record.length < Call.needed record
    · rw [if_pos torn, if_pos torn]
    · rw [if_neg torn, if_neg torn]
      cases Reader.follows k.previous? (Call.ofRecord record).no with
      | error e => rfl
      | ok _ =>
        rw [slice?_of_le (by omega) (by omega), List.drop_take]
        simp [needed, Call.ofRecord]

namespace Reader

variable {r s : Reader} {file : List UInt8}

/-- The reader stands in this file. -/
structure StandsIn (r : Reader) (file : List UInt8) : Prop where
  rest : r.rest = file.drop r.offset
  inside : r.offset ≤ file.length

/-- The place of a reader. -/
def cursor (r : Reader) (file : List UInt8) : Cursor := ⟨file, r.offset, r.previous?⟩

/-- To read by position is to read: no byte outside the file is looked at. -/
theorem StandsIn.read?_eq (h : r.StandsIn file) :
    (r.cursor file).read? = some (r.read.1, r.read.2.cursor file) ∧ r.read.2.StandsIn file := by
  have there : slice? (r.cursor file).file (r.cursor file).offset (r.cursor file).file.length =
      some r.rest := by
    rw [cursor, slice?_of_le h.inside (Nat.le_refl _), List.take_length, h.rest]
  rw [Cursor.read?_of_slice there, read, next_eq]
  by_cases empty : r.rest = []
  · rw [if_pos empty, if_pos empty]
    exact ⟨rfl, h⟩
  by_cases short : r.rest.length < Call.needed r.rest
  · rw [if_neg empty, if_pos short, if_neg empty, if_pos short]
    exact ⟨rfl, h⟩
  · rw [if_neg empty, if_neg short, if_neg empty, if_neg short]
    cases followed : follows r.previous? (Call.ofRecord r.rest).no with
    | error e =>
      rw [cursor, followed]
      exact ⟨rfl, h⟩
    | ok _ =>
      have complete := Nat.le_of_not_lt short
      have length := congrArg List.length h.rest
      rw [List.length_drop] at length
      rw [cursor, followed]
      simp only [Except.map, beyond, Call.length_encode_ofRecord complete]
      refine ⟨rfl, ?_, ?_⟩
      · rw [h.rest, List.drop_drop]
      · have := h.inside
        dsimp only
        omega

end Reader

/-- What a trace starts with. -/
def magicBytes : List UInt8 := Text.utf8 "RLAY"

/-- The version that is read. -/
def versionBytes : List UInt8 := [1, 0, 0, 0]

theorem ofNat_decode_eq_magic_iff {bytes : List UInt8} (four : bytes.length = 4) :
    UInt32.ofNat (LittleEndian.decode bytes) = traceMagic ↔ bytes = magicBytes := by
  rw [LittleEndian.ofNat_decode_eq_iff four]
  rfl

/-- No version but one is read. -/
theorem unsupported_iff {bytes : List UInt8} (four : bytes.length = 4) :
    (UInt32.ofNat (LittleEndian.decode bytes) = 0 ∨
      traceVersion < UInt32.ofNat (LittleEndian.decode bytes)) ↔ bytes ≠ versionBytes := by
  have only : ∀ v : UInt32, v = 0 ∨ traceVersion < v ↔ v ≠ traceVersion := fun v => by
    have one : traceVersion.toNat = 1 := rfl
    rw [UInt32.lt_iff_toNat_lt, ← UInt32.toNat_inj, Ne, ← UInt32.toNat_inj, one, UInt32.toNat_zero]
    omega
  rw [only, Ne, LittleEndian.ofNat_decode_eq_iff four]
  rfl

/-- The words in front of a trace. -/
theorem length_words {file : List UInt8} (long : headerSize ≤ file.length) :
    (file.take 4).length = 4 ∧ ((file.drop 4).take 4).length = 4 := by
  unfold headerSize at long
  rw [List.length_take, List.length_take, List.length_drop]
  omega

/-- What comes of opening a file. -/
theorem Reader.ofBytes_eq (file : List UInt8) :
    Reader.ofBytes file =
      if file.length < headerSize then .error (.tooSmall file.length)
      else if file.take 4 ≠ magicBytes then
        .error (.badMagic (UInt32.ofNat (LittleEndian.decode (file.take 4))))
      else if (file.drop 4).take 4 ≠ versionBytes then
        .error (.unsupportedVersion (UInt32.ofNat (LittleEndian.decode ((file.drop 4).take 4))))
      else .ok ⟨⟨traceVersion, UInt64.ofNat (LittleEndian.decode ((file.drop 8).take 8))⟩, headerSize,
        file.drop headerSize, none⟩ := by
  rw [ofBytes, Header.decode]
  by_cases small : file.length < headerSize
  · simp only [length_take_lt_iff, if_pos small]
    rfl
  have magic : (file.take headerSize).take 4 = file.take 4 := by simp [headerSize, List.take_take]
  have version : ((file.take headerSize).drop 4).take 4 = (file.drop 4).take 4 := by
    simp [headerSize, List.drop_take, List.take_take]
  have count : (file.take headerSize).drop 8 = (file.drop 8).take 8 := by
    simp [headerSize, List.drop_take]
  obtain ⟨first, second⟩ := length_words (Nat.le_of_not_lt small)
  simp only [length_take_lt_iff, if_neg small, magic, version, count, ne_eq,
    ofNat_decode_eq_magic_iff first, unsupported_iff second]
  by_cases known : file.take 4 = magicBytes
  · rw [if_neg (not_not_intro known), if_neg (not_not_intro known)]
    by_cases supported : (file.drop 4).take 4 = versionBytes
    · rw [if_neg (not_not_intro supported), if_neg (not_not_intro supported), supported]
      rfl
    · rw [if_pos supported, if_pos supported]
      rfl
  · rw [if_pos known, if_pos known]
    rfl

/-- When a file is a trace, and what is wrong with it if it is none. -/
structure Opening (file : List UInt8) : Prop where
  opens : (∃ r, Reader.ofBytes file = .ok r) ↔
    headerSize ≤ file.length ∧ file.take 4 = magicBytes ∧ (file.drop 4).take 4 = versionBytes
  /-- The size is judged first. -/
  tooSmall : ∀ size, Reader.ofBytes file = .error (.tooSmall size) ↔
    file.length < headerSize ∧ size = file.length
  /-- Then the first word. -/
  badMagic : ∀ found, Reader.ofBytes file = .error (.badMagic found) ↔
    headerSize ≤ file.length ∧ file.take 4 ≠ magicBytes ∧
      file.take 4 = LittleEndian.encode 4 found.toNat
  /-- Then the version. -/
  unsupported : ∀ found, Reader.ofBytes file = .error (.unsupportedVersion found) ↔
    headerSize ≤ file.length ∧ file.take 4 = magicBytes ∧ (file.drop 4).take 4 ≠ versionBytes ∧
      (file.drop 4).take 4 = LittleEndian.encode 4 found.toNat
  /-- The header is written as it was read. -/
  header : ∀ r, Reader.ofBytes file = .ok r → r.header.encode = file.take headerSize
  /-- No byte outside the file is looked at. -/
  inside : Cursor.open? file =
    some ((Reader.ofBytes file).map fun r => (r.header, r.cursor file))

/-- To open a file by position is to open it. -/
theorem Cursor.open?_eq (file : List UInt8) :
    Cursor.open? file = some ((Reader.ofBytes file).map fun r => (r.header, r.cursor file)) := by
  rw [Cursor.open?, Reader.ofBytes, Header.decode]
  by_cases small : file.length < headerSize
  · simp only [length_take_lt_iff, if_pos small]
    rfl
  -- The header's first words lie where those of a record do.
  obtain ⟨magic, version, -, -⟩ := words_of_record (Nat.le_of_not_lt small)
  have count : slice? file 8 headerSize = some ((file.take headerSize).drop 8) :=
    slice?_of_le (Nat.le_add_left 8 8) (Nat.le_of_not_lt small)
  rw [if_neg small, magic, version, count]
  simp only [Option.bind_eq_bind, Option.bind_some, length_take_lt_iff, if_neg small, Call.ofRecord]
  split_ifs <;> rfl

/-- The bytes of a header of the version that is read. -/
theorem Header.encode_eq (count : UInt64) :
    Header.encode ⟨traceVersion, count⟩ =
      magicBytes ++ versionBytes ++ LittleEndian.encode 8 count.toNat := by
  have magic : LittleEndian.encode 4 traceMagic.toNat = magicBytes := rfl
  have version : LittleEndian.encode 4 traceVersion.toNat = versionBytes := rfl
  rw [encode, magic, version]

/-- A header that is accepted is written as it was read. -/
theorem Header.encode_eq_take {file : List UInt8} (long : headerSize ≤ file.length)
    (known : file.take 4 = magicBytes) (supported : (file.drop 4).take 4 = versionBytes) :
    Header.encode ⟨traceVersion, UInt64.ofNat (LittleEndian.decode ((file.drop 8).take 8))⟩ =
      file.take headerSize := by
  have eight : ((file.drop 8).take 8).length = 8 := by
    rw [List.length_take, List.length_drop]
    unfold headerSize at long
    omega
  have bound : LittleEndian.decode ((file.drop 8).take 8) < UInt64.size := by
    have := LittleEndian.decode_lt ((file.drop 8).take 8)
    rw [eight] at this
    exact this
  calc
    Header.encode ⟨traceVersion, UInt64.ofNat (LittleEndian.decode ((file.drop 8).take 8))⟩
    _ = magicBytes ++ versionBytes ++ (file.drop 8).take 8 := by
      rw [encode_eq, UInt64.toNat_ofNat_of_lt' bound, LittleEndian.encode_decode_of_length eight]
    _ = file.take 4 ++ (file.drop 4).take 4 ++ (file.drop 8).take 8 := by rw [known, supported]
    _ = file.take headerSize := by
      rw [← List.take_add, ← List.take_add]
      rfl

theorem opening (file : List UInt8) : Opening file := by
  have eq := Reader.ofBytes_eq file
  by_cases small : file.length < headerSize
  · have short : ¬ headerSize ≤ file.length := Nat.not_le.2 small
    rw [if_pos small] at eq
    constructor <;> simp [eq, small, short, eq_comm, Cursor.open?_eq]
  have long : headerSize ≤ file.length := Nat.le_of_not_lt small
  obtain ⟨first, second⟩ := length_words long
  rw [if_neg small] at eq
  by_cases known : file.take 4 = magicBytes
  · rw [if_neg (not_not_intro known)] at eq
    by_cases supported : (file.drop 4).take 4 = versionBytes
    · rw [if_neg (not_not_intro supported)] at eq
      constructor <;>
        simp [eq, small, long, known, supported, Cursor.open?_eq, Header.encode_eq_take]
    · have word := LittleEndian.ofNat_decode_eq_iff second
      rw [if_pos supported] at eq
      constructor <;> simp [eq, small, long, known, supported, word, Cursor.open?_eq]
  · have word := LittleEndian.ofNat_decode_eq_iff first
    rw [if_pos known] at eq
    constructor <;> simp [eq, small, long, known, word, Cursor.open?_eq]

namespace Reader

variable {r s : Reader} {cs : List Call} {file : List UInt8}

/-- What a reader is asked for is what comes next. -/
theorem read_fst (r : Reader) : r.read.1 = r.next.map (Option.map Prod.fst) := by
  rw [read]
  cases r.next with
  | error e => rfl
  | ok given? => cases given? <;> rfl

theorem read_eq_none_iff : r.read.1 = .ok none ↔ r.rest = [] := by
  rw [← next_eq_none_iff, read_fst]
  cases r.next <;> simp [Except.map]

theorem read_eq_error_iff {e : TraceError} : r.read.1 = .error e ↔ r.next = .error e := by
  rw [read_fst]
  cases r.next <;> simp [Except.map]

theorem read_eq_some_iff_next {c : Call} :
    r.read.1 = .ok (some c) ↔ ∃ s, r.next = .ok (some (c, s)) := by
  rw [read_fst]
  rcases r.next with e | _ | ⟨d, s⟩ <;> simp [Except.map]

/-- The call whose record comes next, if its number is above the last one. -/
theorem read_eq_some_iff {c : Call} :
    r.read.1 = .ok (some c) ↔ c.Fits ∧ c.encode <+: r.rest ∧ r.Admits c := by
  rw [read_eq_some_iff_next]
  constructor
  · rintro ⟨s, next⟩
    obtain ⟨fits, higher, rest, split, -⟩ := next_eq_some_iff.1 next
    exact ⟨fits, ⟨rest, split.symm⟩, higher⟩
  · rintro ⟨fits, ⟨rest, split⟩, higher⟩
    exact ⟨_, next_of_admits fits split.symm higher⟩

/-- A reader that gives no call stays where it is. -/
theorem read_eq_self (stuck : ∀ c, r.read.1 ≠ .ok (some c)) : r.read.2 = r := by
  unfold read at *
  revert stuck
  cases r.next with
  | error e => exact fun _ => rfl
  | ok given? =>
    cases given? with
    | none => exact fun _ => rfl
    | some given => exact fun stuck => absurd rfl (stuck given.1)

/-- And it gives the same answer for ever. -/
theorem answers_of_stuck (stuck : ∀ c, r.read.1 ≠ .ok (some c)) (n : Nat) :
    r.answers n = List.replicate n r.read.1 := by
  induction n with
  | zero => rfl
  | succ n ih => rw [answers, read_eq_self stuck, ih, List.replicate_succ]

/-- The bytes that were read are the records of the calls. -/
theorem Reads.rest_eq (h : Reads r cs s) : r.rest = cs.flatMap Call.encode ++ s.rest := by
  induction h with
  | nothing r => rfl
  | read first _ ih =>
    obtain ⟨_, _, rest, split, rfl⟩ := next_eq_some_iff.1 first
    rw [split, List.flatMap_cons, List.append_assoc, ← ih]
    rfl

theorem Reads.standsIn (h : Reads r cs s) (stands : r.StandsIn file) : s.StandsIn file := by
  induction h with
  | nothing r => exact stands
  | read first _ ih =>
    refine ih ?_
    have next := stands.read?_eq.2
    rw [Reader.read, first] at next
    exact next

/-- The number of the call read last. -/
theorem Reads.previous?_eq (h : Reads r cs s) :
    s.previous? = (cs.getLast?.map Call.no).or r.previous? := by
  induction h with
  | nothing r => rfl
  | @read r s t c cs first _ ih =>
    obtain ⟨_, _, rest, _, rfl⟩ := next_eq_some_iff.1 first
    rw [ih]
    cases last : cs.getLast? with
    | none =>
      rw [List.getLast?_eq_none_iff.1 last]
      rfl
    | some d =>
      rw [List.getLast?_cons, last]
      rfl

/-- Numbers increase, from the call read before on. -/
theorem Reads.increasing (h : Reads r cs s) :
    cs.Pairwise (fun c d => c.no < d.no) ∧ ∀ c ∈ cs, r.Admits c := by
  induction h with
  | nothing r => exact ⟨.nil, fun _ => nofun⟩
  | read first _ ih =>
    obtain ⟨_, higher, rest, _, rfl⟩ := next_eq_some_iff.1 first
    obtain ⟨sorted, above⟩ := ih
    have later := fun d mem => above d mem _ rfl
    refine ⟨.cons later sorted, fun d mem previous last => ?_⟩
    rcases List.mem_cons.1 mem with rfl | mem
    · exact higher previous last
    · exact UInt32.lt_trans (higher previous last) (later d mem)

/-- The answer is a call. -/
def givesCall : Except TraceError (Option Call) → Bool
  | .ok (some _) => true
  | _ => false

/-- Every call takes at least the fixed part of its record from the bytes that are left. -/
theorem countP_answers_le (n : Nat) (r : Reader) :
    (r.answers n).countP givesCall ≤ r.remaining / headerSize := by
  induction n generalizing r with
  | zero => exact Nat.zero_le _
  | succ n ih =>
    have rest := ih r.read.2
    rw [answers]
    revert rest
    rw [read]
    cases given : r.next with
    | error e => exact fun rest => by simpa [givesCall] using rest
    | ok given? =>
      cases given? with
      | none => exact fun rest => by simpa [givesCall] using rest
      | some next =>
        obtain ⟨c, s⟩ := next
        obtain ⟨_, _, rest, split, rfl⟩ := next_eq_some_iff.1 given
        have length := congrArg List.length split
        rw [List.length_append, Call.length_encode] at length
        intro fewer
        rw [List.countP_cons_of_pos rfl]
        calc
          _ ≤ rest.length / headerSize + 1 := Nat.succ_le_succ fewer
          _ = (rest.length + headerSize) / headerSize := (Nat.add_div_right _ (by decide)).symm
          _ ≤ r.remaining / headerSize := Nat.div_le_div_right (by unfold remaining; omega)

theorem standsIn_of_ofBytes (opened : ofBytes file = .ok r) :
    r.StandsIn file ∧ r.offset = headerSize ∧ r.previous? = none := by
  have long : headerSize ≤ file.length := ((opening file).opens.1 ⟨r, opened⟩).1
  rw [ofBytes] at opened
  cases decoded : Header.decode file with
  | error e =>
    rw [decoded] at opened
    cases opened
  | ok header =>
    rw [decoded] at opened
    cases opened
    exact ⟨⟨rfl, long⟩, rfl, rfl⟩

end Reader

/-- What a reader of a file replies when it has read some calls. -/
structure Standing (file : List UInt8) (cs : List Call) (r : Reader) : Prop where
  /-- Behind the header are the records of these calls, and then what is left. -/
  body : file.drop headerSize = cs.flatMap Call.encode ++ r.rest
  place : r.offset + r.remaining = file.length
  increasing : cs.Pairwise fun c d => c.no < d.no
  ended : r.read.1 = .ok none ↔ r.rest = []
  /-- A record is torn if fewer bytes are left than its fixed part has, or fewer than that part announces. -/
  torn : ∀ offset needed available, r.read.1 = .error (.truncated offset needed available) ↔
    r.rest ≠ [] ∧ offset = r.offset ∧ available = r.remaining ∧
      (r.remaining < headerSize ∧ needed = headerSize ∨
        headerSize ≤ r.remaining ∧ needed = headerSize + Call.announced r.rest ∧ r.remaining < needed)
  /-- A complete record is refused if its number is not above that of the last call. -/
  disordered : ∀ previous found, r.read.1 = .error (.outOfOrder previous found) ↔
    cs.getLast?.map Call.no = some previous ∧ found ≤ previous ∧
      ∃ c : Call, c.Fits ∧ c.encode <+: r.rest ∧ c.no = found
  call : ∀ c, r.read.1 = .ok (some c) ↔
    c.Fits ∧ c.encode <+: r.rest ∧ ∀ previous, cs.getLast?.map Call.no = some previous → previous < c.no
  exhaustive : r.read.1 = .ok none ∨ (∃ offset needed available,
    r.read.1 = .error (.truncated offset needed available)) ∨
      (∃ previous found, r.read.1 = .error (.outOfOrder previous found)) ∨ ∃ c, r.read.1 = .ok (some c)
  /-- Without a call the reader does not move, and replies the same for ever. -/
  stays : (∀ c, r.read.1 ≠ .ok (some c)) →
    r.read.2 = r ∧ ∀ n, r.answers n = List.replicate n r.read.1
  /-- To read by position comes to the same, and looks at no byte outside the file. -/
  inside : (r.cursor file).read? = some (r.read.1, r.read.2.cursor file)

/-- What a trace that was opened gives. -/
structure Reading (file : List UInt8) (r : Reader) : Prop where
  standing : ∀ cs s, r.Reads cs s → Standing file cs s
  calls_le : ∀ n, (r.answers n).countP Reader.givesCall ≤ (file.length - headerSize) / headerSize

/-- A reader that has come to a place of a file by reading these calls. -/
theorem Reader.StandsIn.standing {r : Reader} {cs : List Call} {file : List UInt8}
    (stands : r.StandsIn file) (body : file.drop headerSize = cs.flatMap Call.encode ++ r.rest)
    (increasing : cs.Pairwise fun c d => c.no < d.no)
    (last : r.previous? = cs.getLast?.map Call.no) : Standing file cs r := by
  have place : r.offset + r.remaining = file.length := by
    rw [remaining, stands.rest, List.length_drop]
    have := stands.inside
    omega
  refine ⟨body, place, increasing, Reader.read_eq_none_iff, fun offset needed available => ?_,
    fun previous found => ?_, fun c => ?_, ?_,
    fun stuck => ⟨Reader.read_eq_self stuck, Reader.answers_of_stuck stuck⟩, stands.read?_eq.1⟩
  · rw [Reader.read_eq_error_iff, Reader.next_eq_truncated_iff]
    exact and_congr_right fun _ => and_congr_right fun _ => and_congr_right fun _ => Call.lt_needed_iff
  · rw [Reader.read_eq_error_iff, Reader.next_eq_outOfOrder_iff, last]
  · rw [Reader.read_eq_some_iff, Reader.Admits, last]
  · have replies := r.replies_next
    rw [Reader.read_fst]
    revert replies
    generalize r.next = answer
    intro replies
    cases replies with
    | ended empty => exact .inl rfl
    | torn some short => exact .inr (.inl ⟨_, _, _, rfl⟩)
    | disordered fits split last low => exact .inr (.inr (.inl ⟨_, _, rfl⟩))
    | call fits split higher => exact .inr (.inr (.inr ⟨_, rfl⟩))

/-- A file is read as the format has it, whatever its bytes are. -/
theorem read_by_format (file : List UInt8) :
    Opening file ∧ ∀ r, Reader.ofBytes file = .ok r → Reading file r := by
  refine ⟨opening file, fun r opened => ?_⟩
  obtain ⟨stands, start, fresh⟩ := Reader.standsIn_of_ofBytes opened
  have body : r.rest = file.drop headerSize := by rw [stands.rest, start]
  refine ⟨fun cs s reads => ?_, fun n => ?_⟩
  · refine (reads.standsIn stands).standing (body ▸ reads.rest_eq) reads.increasing.1 ?_
    rw [reads.previous?_eq, fresh, Option.or_none]
  · have fewer := Reader.countP_answers_le n r
    rw [Reader.remaining, body, List.length_drop] at fewer
    exact fewer

/-- A trace with a second record whose number does not increase, and a third that is cut off. -/
def disorderedTrace : List UInt8 :=
  (Header.ofCount 0).encode ++ Call.encode ⟨4, 1, ⟨0x101⟩, [7, 8]⟩ ++ Call.encode ⟨4, 0, .none, []⟩ ++ [5, 0]

/-- Its first call is given, and then the second record is refused for ever. -/
theorem read_by_format_of_disorder :
    ∃ r s, Reader.ofBytes disorderedTrace = .ok r ∧ r.Reads [⟨4, 1, ⟨0x101⟩, [7, 8]⟩] s ∧
      Standing disorderedTrace [⟨4, 1, ⟨0x101⟩, [7, 8]⟩] s ∧ s.read.1 = .error (.outOfOrder 4 4) := by
  have opened : Reader.ofBytes disorderedTrace =
      .ok ⟨⟨1, 0⟩, 16, disorderedTrace.drop 16, none⟩ := rfl
  have first : Reader.next ⟨⟨1, 0⟩, 16, disorderedTrace.drop 16, none⟩ =
      .ok (some (⟨4, 1, ⟨0x101⟩, [7, 8]⟩, ⟨⟨1, 0⟩, 34, disorderedTrace.drop 34, some 4⟩)) := rfl
  have reads : Reader.Reads _ [⟨4, 1, ⟨0x101⟩, [7, 8]⟩] _ := .read first (.nothing _)
  exact ⟨_, _, opened, reads, ((read_by_format disorderedTrace).2 _ opened).standing _ _ reads, rfl⟩

end TraceReplay
