import TraceReplay.Proofs.Draw.Buffering

/-!
# The face of a studio

What the calls and the snapshot steps of a replay can see of a studio: what the canvas shows, the
files, and which writes the outputs refuse. `face` takes it out, and each action of the backend is
said by what it answers and what it does to the face. Lines for the user are never seen.
-/

namespace TraceReplay

namespace Studio

/-- The output that snapshots are streamed to. -/
def streamSink (s : Studio) : Sink := s.streamOut?.getD s.stdout

/-- The output that the state is dumped to. -/
def dumpSink (s : Studio) : Sink := s.dumpOut?.getD s.stdout

/-- What a replay sees of a studio. -/
structure Face where
  canvas : EagerCanvas
  files : Files
  stream : Sink.Rules
  dump : Sink.Rules

def face (s : Studio) : Face := ⟨s.canvas.shown, s.files, s.streamSink.rules, s.dumpSink.rules⟩

variable (s : Studio)

/-- Whatever is written to standard output, it goes on taking the same. -/
theorem face_writeStdout (pieces : List (List UInt8)) :
    { s with stdout := (s.stdout.writePieces pieces).2 }.face = s.face := by
  have kept := s.stdout.rules_writePieces pieces
  obtain ⟨canvas, profiling, files, stdout, stderr, streamOut?, dumpOut?, logFrom?, paintTime⟩ := s
  cases streamOut? <;> cases dumpOut? <;> simp_all [face, streamSink, dumpSink]

@[simp] theorem face_tell (message : Message) : (s.tell message).face = s.face := by
  cases message with
  | printed line => exact s.face_writeStdout _
  | noted line => rfl
  | logged level text =>
    rw [tell]
    split
    · split <;> rfl
    · rfl

theorem face_writeStream (pieces : List (List UInt8)) : (s.writeStream pieces).2.face = s.face := by
  rw [writeStream]
  split
  · rename_i sink own
    simp [face, streamSink, dumpSink, own]
  · exact s.face_writeStdout pieces

/-- A stream that takes everything takes the pieces. -/
theorem writeStream_fst (unlimited : s.face.stream.limit? = none) (pieces : List (List UInt8)) :
    (s.writeStream pieces).1 = .ok () := by
  have none : s.streamSink.limit? = none := unlimited
  rw [writeStream]
  split
  · rename_i sink own
    exact Sink.writePieces_of_unlimited (by simpa [streamSink, own] using none) _
  · rename_i own
    exact Sink.writePieces_of_unlimited (by simpa [streamSink, own] using none) _

theorem face_writeDump (pieces : List (List UInt8)) : (s.writeDump pieces).2.face = s.face := by
  rw [writeDump]
  split
  · rename_i sink own
    simp [face, streamSink, dumpSink, own]
  · exact s.face_writeStdout pieces

/-- So does a dump output. -/
theorem writeDump_fst (unlimited : s.face.dump.limit? = none) (pieces : List (List UInt8)) :
    (s.writeDump pieces).1 = .ok () := by
  have none : s.dumpSink.limit? = none := unlimited
  rw [writeDump]
  split
  · rename_i sink own
    exact Sink.writePieces_of_unlimited (by simpa [dumpSink, own] using none) _
  · rename_i own
    exact Sink.writePieces_of_unlimited (by simpa [dumpSink, own] using none) _

/-- A flush does not show. -/
@[simp] theorem face_flush : { s with canvas := s.canvas.flush }.face = s.face := by
  simp only [face, Canvas.shown_flush, streamSink, dumpSink]

/-- A reference is looked up in the files. -/
theorem load_fst (codec : ImageCodec) (path : String) :
    (s.load codec path).1 =
      if s.face.files.hasEntry path then (codec.read s.face.files path).toOption else none := by
  show _ = if s.files.hasEntry path then (codec.read s.files path).toOption else none
  rw [load]
  split
  · cases codec.read s.files path <;> rfl
  · rfl

@[simp] theorem face_load (codec : ImageCodec) (path : String) :
    (s.load codec path).2.face = s.face := by
  rw [load]
  split
  · split
    · rfl
    · exact s.face_tell _
  · rfl

/-- Whether an image can be written is a matter of the files. -/
theorem write_fst (codec : ImageCodec) (image : Image) (path : String) :
    (s.write codec image path).1 = (codec.write s.face.files path image).1.toBool := by
  show _ = (codec.write s.files path image).1.toBool
  rw [write]
  cases codec.write s.files path image with
  | mk result files => cases result <;> rfl

@[simp] theorem face_write (codec : ImageCodec) (image : Image) (path : String) :
    (s.write codec image path).2.face =
      { s.face with files := (codec.write s.face.files path image).2 } := by
  show _ = { s.face with files := (codec.write s.files path image).2 }
  rw [write]
  cases codec.write s.files path image with
  | mk result files =>
    cases result with
    | ok _ => rfl
    | error e => exact face_tell _ _

@[simp] theorem face_stream (image : Image) (comment : String) :
    (s.stream image comment).2.face = s.face := by
  have kept := s.face_writeStream (image.pnmPieces comment)
  rw [stream]
  revert kept
  rcases s.writeStream (image.pnmPieces comment) with ⟨_ | _, after⟩ <;> exact id

/-- A stream that takes everything fails only in the flush. -/
theorem stream_fst (unlimited : s.face.stream.limit? = none) (image : Image) (comment : String) :
    (s.stream image comment).1 =
      if s.face.stream.flushFails then .error .flushRefused else .ok () := by
  have kept := s.face_writeStream (image.pnmPieces comment)
  have taken := s.writeStream_fst unlimited (image.pnmPieces comment)
  rw [stream]
  revert kept taken
  cases s.writeStream (image.pnmPieces comment) with
  | mk result after =>
    rintro kept rfl
    show after.streamSink.flush = _
    rw [Sink.flush_eq, ← kept]
    rfl

@[simp] theorem face_dump : s.dump.2.face = s.face := by
  have kept := s.face_writeDump (s.canvas.dumpPieces.map Text.utf8)
  rw [dump]
  revert kept
  rcases s.writeDump (s.canvas.dumpPieces.map Text.utf8) with ⟨e | _, after⟩
  · exact (after.face_tell _).trans
  · exact id

/-- A dump output that takes everything takes the dump. -/
theorem dump_fst (unlimited : s.face.dump.limit? = none) : s.dump.1 = true := by
  have taken := s.writeDump_fst unlimited (s.canvas.dumpPieces.map Text.utf8)
  rw [dump]
  revert taken
  cases s.writeDump (s.canvas.dumpPieces.map Text.utf8) with
  | mk result after =>
    rintro rfl
    rfl

/-- Whether a payload is a command is the same everywhere. -/
theorem perform_or (call : Call) :
    (∃ command, (∀ s : Studio, s.perform call = (.done, { s with canvas := s.canvas.submit command })) ∧
      ∀ e : EagerCanvas, e.apply call.payload = .ok (e.submit command)) ∨
    ∃ cause, (∀ s : Studio, s.perform call = (.failed ⟨call.no, cause.message⟩, s)) ∧
      ∀ e : EagerCanvas, e.apply call.payload = .error cause := by
  cases decoded : DrawCommand.decode call.payload with
  | ok command =>
    refine .inl ⟨command, fun s => ?_, fun e => ?_⟩
    · rw [perform, Canvas.apply, decoded]
      rfl
    · rw [EagerCanvas.apply, decoded]
      rfl
  | error cause =>
    refine .inr ⟨cause, fun s => ?_, fun e => ?_⟩
    · rw [perform, Canvas.apply, decoded]
      rfl
    · rw [EagerCanvas.apply, decoded]
      rfl

/-- What becomes of a call, and what it does, as far as it is seen. -/
def Face.perform (f : Face) (call : Call) : Performed × Face :=
  match f.canvas.apply call.payload with
  | .ok canvas => (.done, { f with canvas })
  | .error cause => (.failed ⟨call.no, cause.message⟩, f)

theorem perform_face (call : Call) :
    s.face.perform call = ((s.perform call).1, (s.perform call).2.face) := by
  rcases perform_or call with ⟨command, done, applied⟩ | ⟨cause, failed, applied⟩
  · rw [done, Face.perform, applied]
    simp only [face, Canvas.shown_submit, streamSink, dumpSink]
  · rw [failed, Face.perform, applied]

end Studio

end TraceReplay
