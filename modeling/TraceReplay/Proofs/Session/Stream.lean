import TraceReplay.Proofs.Session.Filming

/-!
# A replay that streams its snapshots

When snapshots are streamed and standard output takes everything, a snapshot step writes its image as
PNM and nothing else: lines about it go to standard error. So what a replay that does not dump the state
writes to standard output are the images of its shots, one after the other (`Reel.writes`).
-/

namespace TraceReplay

/-- What a shot writes to the stream. -/
def Shot.pnm (s : Shot) : List UInt8 :=
  match s.report.streamed, s.image? with
  | true, some image => image.pnm (toString s.number.toNat)
  | _, _ => []

namespace Studio

section

variable (s : Studio)

/-- What the stream took so far. -/
def streamed : List UInt8 := s.streamSink.content.data.toList

/-- The stream refuses nothing. -/
structure Open : Prop where
  unlimited : s.streamSink.limit? = none
  flushes : s.streamSink.flushFails = false

variable {s} in
theorem Open.of_face_eq {t : Studio} (h : s.Open) (same : t.face = s.face) : t.Open := by
  have kept : t.streamSink.rules = s.streamSink.rules := congrArg Face.stream same
  exact ⟨(congrArg Sink.Rules.limit? kept).trans h.unlimited,
    (congrArg Sink.Rules.flushFails kept).trans h.flushes⟩

/-- Only what is printed comes to the outputs that images are streamed to. -/
theorem outputs_tell {message : Message} (silent : ∀ line, message ≠ .printed line) :
    (s.tell message).stdout = s.stdout ∧ (s.tell message).streamOut? = s.streamOut? := by
  cases message with
  | printed line => exact absurd rfl (silent line)
  | noted line => exact ⟨rfl, rfl⟩
  | logged level text =>
    rw [tell]
    split
    · split <;> exact ⟨rfl, rfl⟩
    · exact ⟨rfl, rfl⟩

theorem outputs_load (codec : ImageCodec) (path : String) :
    (s.load codec path).2.stdout = s.stdout ∧ (s.load codec path).2.streamOut? = s.streamOut? := by
  rw [load]
  split
  · split
    · exact ⟨rfl, rfl⟩
    · exact s.outputs_tell fun _ => Message.noConfusion
  · exact ⟨rfl, rfl⟩

theorem stream_snd (image : Image) (comment : String) :
    (s.stream image comment).2 = (s.writeStream (image.pnmPieces comment)).2 := by
  rw [stream]
  rcases s.writeStream (image.pnmPieces comment) with ⟨_ | _, after⟩ <;> rfl

/-- A stream that refuses nothing takes the image. -/
theorem stream_of_open (h : s.Open) (image : Image) (comment : String) :
    (s.stream image comment).1 = .ok () ∧ (s.stream image comment).2.Open ∧
      (s.stream image comment).2.streamed = s.streamed ++ image.pnm comment := by
  refine ⟨?_, h.of_face_eq (s.face_stream image comment), ?_⟩
  · exact (s.stream_fst h.unlimited image comment).trans (if_neg (Bool.eq_false_iff.1 h.flushes))
  · have sink : (s.writeStream (image.pnmPieces comment)).2.streamSink =
        (s.streamSink.writePieces (image.pnmPieces comment)).2 := by
      rw [writeStream]
      split
      · rename_i sink own
        simp [streamSink, own]
      · rename_i own
        simp [streamSink, own]
    rw [stream_snd, streamed, sink, Sink.content_writePieces h.unlimited]
    rfl

end

/-- What was written to standard output. -/
def written (s : Studio) : List UInt8 := s.stdout.content.data.toList

/-- Snapshots are streamed to standard output, and it takes everything. -/
structure Streams (s : Studio) : Prop where
  shared : s.streamOut? = none
  unlimited : s.stdout.limit? = none
  flushes : s.stdout.flushFails = false

/-- What an action leaves of standard output. -/
structure Writes (s : Studio) (bytes : List UInt8) (t : Studio) : Prop where
  streams : t.Streams
  written : t.written = s.written ++ bytes

namespace Writes

variable {s t u : Studio} {bytes more : List UInt8}

theorem refl (h : s.Streams) : Writes s [] s := ⟨h, (List.append_nil _).symm⟩

theorem trans (h : Writes s bytes t) (h' : Writes t more u) : Writes s (bytes ++ more) u :=
  ⟨h'.streams, by rw [h'.written, h.written, List.append_assoc]⟩

/-- Whatever leaves standard output alone writes nothing. -/
theorem of_stdout_eq (h : Writes s bytes t) (out : u.stdout = t.stdout)
    (shared : u.streamOut? = t.streamOut?) : Writes s bytes u :=
  ⟨⟨shared.trans h.streams.shared, out ▸ h.streams.unlimited, out ▸ h.streams.flushes⟩,
    (congrArg (fun sink => sink.content.data.toList) out).trans h.written⟩

/-- What is not printed is no matter of standard output. -/
theorem tell (h : Writes s bytes t) {message : Message} (silent : ∀ line, message ≠ .printed line) :
    Writes s bytes (t.tell message) :=
  h.of_stdout_eq (t.outputs_tell silent).1 (t.outputs_tell silent).2

/-- Nor is the loading of a reference. -/
theorem load (h : Writes s bytes t) (codec : ImageCodec) (path : String) :
    Writes s bytes (t.load codec path).2 :=
  h.of_stdout_eq (t.outputs_load codec path).1 (t.outputs_load codec path).2

/-- A line that is printed. -/
theorem print (h : Writes s bytes t) (line : String) :
    Writes s (bytes ++ (Text.utf8 line ++ Text.utf8 "\n")) (t.tell (.printed line)) := by
  have kept := t.stdout.rules_writePieces [Text.utf8 line, Text.utf8 "\n"]
  refine ⟨⟨h.streams.shared, ?_, ?_⟩, ?_⟩
  · exact (congrArg Sink.Rules.limit? kept).trans h.streams.unlimited
  · exact (congrArg Sink.Rules.flushFails kept).trans h.streams.flushes
  · refine (Sink.content_writePieces h.streams.unlimited _).trans ?_
    rw [← List.append_assoc, ← List.append_assoc, ← h.written]
    simp [Studio.written]

/-- An image that is streamed. -/
theorem stream (h : Writes s bytes t) (image : Image) (comment : String) :
    (t.stream image comment).1 = .ok () ∧
      Writes s (bytes ++ image.pnm comment) (t.stream image comment).2 := by
  have same : ∀ u : Studio, u.streamOut? = none → u.streamSink = u.stdout := fun u shared => by
    rw [streamSink, shared, Option.getD_none]
  have first := same t h.streams.shared
  have opened : t.Open := ⟨first ▸ h.streams.unlimited, first ▸ h.streams.flushes⟩
  obtain ⟨taken, opened', streamed⟩ := t.stream_of_open opened image comment
  have shared : (t.stream image comment).2.streamOut? = none := by
    rw [stream_snd, writeStream, h.streams.shared]
  have last := same _ shared
  refine ⟨taken, ⟨shared, last ▸ opened'.unlimited, last ▸ opened'.flushes⟩, ?_⟩
  rw [Studio.streamed, Studio.streamed, first, last] at streamed
  rw [← List.append_assoc, ← h.written]
  exact streamed

end Writes

end Studio

/-- A backend whose stream takes everything. What was streamed so far is seen in its states, in which nothing
but a line that is printed may stand among the images. -/
structure Backend.StreamsAll {σ : Type} (b : Backend σ) (Wrote : List UInt8 → σ → Prop) : Prop where
  capture : ∀ bytes w, Wrote bytes w → Wrote bytes (b.capture w).2
  load : ∀ path bytes w, Wrote bytes w → Wrote bytes (b.load path w).2
  compare : ∀ image reference bytes w, Wrote bytes w → Wrote bytes (b.compare image reference w).2
  stream : ∀ image comment bytes w, Wrote bytes w →
    (b.stream image comment w).1 = .ok () ∧ Wrote (bytes ++ image.pnm comment) (b.stream image comment w).2
  tell : ∀ message bytes w, (∀ line, message ≠ .printed line) → Wrote bytes w →
    Wrote bytes (b.tell message w).2

namespace SnapshotPolicy

/-- What is left of a snapshot step that streams what it captures. -/
structure Streamed {σ : Type} (p : SnapshotPolicy) (b : Backend σ) (Wrote : List UInt8 → σ → Prop)
    (n : UInt32) (early : Bool) (r : SnapshotReport) (k : Journaled σ) : Prop where
  number : r.callNo = n
  wrote : Wrote (Shot.pnm ⟨r, early, k.effects⟩) k.world
  streamed : r.streamed = k.image?.isSome
  /-- Without a reference that is wanted there is no capture. -/
  captured : (∃ v, (b.capture v).1 = k.image?) ∨ k.image? = none ∧ p.compareWith? ≠ none

variable {p : SnapshotPolicy}

theorem writeTo?_of_streams (streams : p.streams = true) : p.writeTo? = some streamMark := by
  simpa [SnapshotPolicy.streams] using streams

section StreamsAll

variable {σ : Type} {b : Backend σ} {Wrote : List UInt8 → σ → Prop} (takes : b.StreamsAll Wrote)
  {bytes : List UInt8} {k : Journaled σ} {n : UInt32}
include takes

theorem tell_ensures (h : Wrote bytes k.world) {message : Message}
    (silent : ∀ line, message ≠ .printed line) :
    Ensures (b.journaled.tell message) k fun _ l => l.image? = k.image? ∧ Wrote bytes l.world :=
  ⟨rfl, takes.tell message bytes k.world silent h⟩

variable (streams : p.streams = true)
include streams

/-- To deliver an image is to stream it. -/
theorem deliver_streams (image : Image) (report : SnapshotReport) (h : Wrote bytes k.world) :
    Ensures (p.deliver b.journaled image report) k fun r l =>
      r.callNo = report.callNo ∧ r.streamed = true ∧ l.image? = k.image? ∧
        Wrote (bytes ++ image.pnm (toString report.callNo.toNat)) l.world := by
  unfold deliver
  rw [writeTo?_of_streams streams]
  simp only [if_pos]
  obtain ⟨taken, wrote⟩ := takes.stream image (toString report.callNo.toNat) bytes k.world h
  have streamed : Ensures (b.journaled.stream image (toString report.callNo.toNat)) k
      fun answer l => answer = .ok () ∧ l.image? = k.image? ∧
        Wrote (bytes ++ image.pnm (toString report.callNo.toNat)) l.world :=
    ⟨taken, Journaled.image?_note_of_none _ k fun _ => rfl, wrote⟩
  refine .bind streamed ?_
  rintro _ l ⟨rfl, image, wrote⟩
  exact .pure ⟨rfl, rfl, image, wrote⟩

/-- To judge an image is to tell about it on standard error. -/
theorem judge_streams (image : Image) (reference? : Option Image) (report : SnapshotReport)
    (h : Wrote bytes k.world) :
    Ensures (p.judge b.journaled image reference? report) k fun r l =>
      r.callNo = report.callNo ∧ r.streamed = report.streamed ∧ l.image? = k.image? ∧
        Wrote bytes l.world := by
  unfold judge
  cases reference? with
  | none => exact .pure ⟨rfl, rfl, rfl, h⟩
  | some reference =>
    refine .bind (P := fun _ l => l.image? = k.image? ∧ Wrote bytes l.world)
      ⟨Journaled.image?_note_of_none _ k fun _ => rfl, takes.compare image reference bytes k.world h⟩ ?_
    rintro precision l ⟨image, h⟩
    dsimp only
    rw [if_pos streams]
    refine .bind (tell_ensures takes h fun _ => Message.noConfusion) ?_
    rintro _ m ⟨kept, h⟩
    exact .pure ⟨rfl, rfl, kept.trans image, h⟩

/-- A capture is streamed under the number of the step. -/
theorem capture_streams (reference? : Option Image) (report : SnapshotReport) (early : Bool)
    (number : report.callNo = n) (fresh : report.streamed = false) (first : k.image? = none)
    (h : Wrote [] k.world) :
    Ensures (p.capture b.journaled reference? report) k (p.Streamed b Wrote n early) := by
  unfold capture
  have shown : Ensures b.journaled.capture k fun image? l =>
      (∃ v, (b.capture v).1 = image?) ∧ l.image? = image? ∧ Wrote [] l.world := by
    refine ⟨⟨k.world, rfl⟩, ?_, takes.capture [] k.world h⟩
    rw [← @Option.none_or _ (b.journaled.capture k).1, ← first]
    exact Journaled.image?_note b.capture k .captured
  refine .bind shown ?_
  rintro (_ | image) l ⟨captured, seen, h⟩
  · refine .pure ⟨number, ?_, ?_, .inl (seen ▸ captured)⟩
    · rw [Shot.pnm, fresh]
      exact h
    · rw [fresh, seen]
      rfl
  refine .bind (deliver_streams takes streams image { report with captured := true } h) ?_
  rintro r m ⟨number', streamed, kept, h⟩
  refine (judge_streams takes streams image reference? r h).mono ?_
  rintro r' m' ⟨number'', streamed', kept', h⟩
  have seen' : m'.image? = some image := (kept'.trans kept).trans seen
  refine ⟨(number''.trans number').trans number, ?_, ?_, .inl (seen' ▸ captured)⟩
  · have pnm : Shot.pnm ⟨r', early, m'.effects⟩ = image.pnm (toString report.callNo.toNat) := by
      have inside : Shot.image? ⟨r', early, m'.effects⟩ = some image := seen'
      rw [Shot.pnm, inside, streamed', streamed, Shot.number, number'', number']
    rw [pnm]
    exact h
  · rw [streamed', streamed, seen']
    rfl

/-- A snapshot step streams its shot, and nothing else. -/
theorem take_streams {w : σ} (early : Bool) (h : Wrote [] w) :
    Ensures (p.take b.journaled n) ⟨w, []⟩ (p.Streamed b Wrote n early) := by
  have enabled : p.isEnabled = true := by rw [isEnabled, writeTo?_of_streams streams]; rfl
  unfold take
  dsimp only
  rw [enabled, Bool.not_true, if_neg Bool.false_ne_true]
  cases compared : p.compareWith? with
  | none => exact capture_streams takes streams none _ early rfl rfl rfl h
  | some start =>
    have loaded : Ensures (b.journaled.load (snapshotPath start n)) ⟨w, []⟩
        fun _ k => k.image? = none ∧ Wrote [] k.world :=
      ⟨rfl, takes.load (snapshotPath start n) [] w h⟩
    refine .bind loaded ?_
    rintro (_ | reference) k ⟨first, h⟩
    · refine .pure ⟨rfl, h, ?_, .inr ⟨first, ?_⟩⟩
      · rw [first]
        rfl
      · rw [compared]
        exact Option.some_ne_none start
    · refine .bind (tell_ensures takes h fun _ => Message.noConfusion) ?_
      rintro _ l ⟨kept, h⟩
      exact capture_streams takes streams (some reference) _ early rfl rfl (kept.trans first) h

end StreamsAll

variable {codec : ImageCodec} (streams : p.streams = true) {w : Studio}

theorem streamsAll_writes : (Studio.backend codec).StreamsAll w.Writes where
  capture _ _ h := h.of_stdout_eq rfl rfl
  load path _ _ h := h.load codec path
  compare _ _ _ _ h := h
  stream image comment _ _ h := h.stream image comment
  tell _ _ _ silent h := h.tell silent

include streams in
theorem shoot_streams (n : UInt32) (early : Bool) (h : w.Streams) :
    w.Writes (p.shoot (Studio.backend codec) early n w).pnm (p.take (Studio.backend codec) n w).2 := by
  rw [← Backend.world_take_journaled]
  exact (take_streams streamsAll_writes streams early (.refl h)).wrote

end SnapshotPolicy

variable {codec : ImageCodec}

/-- Nothing besides snapshot steps and dumps writes to standard output. -/
theorem Studio.Writes.quiet {dumps : Prop} {s t u : Studio} {bytes : List UInt8}
    (h : s.Writes bytes t) (never : ¬ dumps) (action : t.Quiet codec dumps u) : s.Writes bytes u := by
  cases action with
  | perform call =>
    rcases Studio.perform_or call with ⟨_, done, _⟩ | ⟨_, failed, _⟩
    · rw [done t]
      exact h.of_stdout_eq rfl rfl
    · rw [failed t]
      exact h
  | flush => exact h.of_stdout_eq rfl rfl
  | dump wanted => exact absurd wanted never

/-- So a replay that does not dump the state writes its shots to standard output. -/
theorem Reel.writes {p : SnapshotPolicy} {dumps : Prop} {s t : Studio} {pics : List Picture}
    {shots : List Shot} (h : Reel codec p dumps s pics shots t) (streams : p.streams = true)
    (never : ¬ dumps) (begun : s.Streams) : s.Writes (shots.flatMap Shot.pnm) t := by
  induction h with
  | blank => exact .refl begun
  | quiet _ action ih => exact ih.quiet never action
  | shoot _ early n ih =>
    rw [List.flatMap_append, List.flatMap_singleton]
    exact ih.trans (SnapshotPolicy.shoot_streams streams n early ih.streams)

end TraceReplay
