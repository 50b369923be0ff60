import TraceReplay.Proofs.Replay.Matching
import TraceReplay.Proofs.Session.Face
import TraceReplay.Proofs.Session.Pictures

/-!
# One snapshot step in a studio

What a snapshot step captures, writes and compares depends on the files and on what the canvas shows
(`MakesShot`), and nothing but the files changes (`makesShot_shoot`).
-/

namespace TraceReplay

namespace SnapshotPolicy

variable (p : SnapshotPolicy) (codec : ImageCodec) (files : Files)

/-- The image that a snapshot is compared with, if there is one to be compared with. -/
def reference? (callNo : UInt32) : Option Image :=
  p.compareWith?.bind fun start =>
    if files.hasEntry (snapshotPath start callNo) then
      (codec.read files (snapshotPath start callNo)).toOption
    else none

/-- The step gets as far as the capture: there is something to do, and no reference is missing. -/
def captures (callNo : UInt32) : Bool :=
  p.isEnabled && (p.compareWith?.isNone || (p.reference? codec files callNo).isSome)

/-- The file that an image is written to, if it can be, and the files after that. -/
def filing (callNo : UInt32) (image : Image) : Option String × Files :=
  match p.writeTo? with
  | none => (none, files)
  | some start =>
    if start = streamMark then (none, files)
    else
      let wrote := codec.write files (snapshotPath start callNo) image
      (if wrote.1.toBool then some (snapshotPath start callNo) else none, wrote.2)

/-- The shot that a snapshot step makes of a picture, from the files before it to those after it. -/
structure MakesShot (before : Files) (picture : Picture) (shot : Shot) (after : Files) : Prop where
  number : shot.number = picture.number
  early : shot.early = picture.early
  image : shot.image? =
    if p.captures codec before picture.number then some picture.image else none
  filed : (shot.report.written?, after) =
    match shot.image? with
    | none => (none, before)
    | some image => p.filing codec before picture.number image
  precision : shot.report.precision? =
    shot.image?.bind fun image => (p.reference? codec before picture.number).map image.compare

end SnapshotPolicy

namespace Journaled

/-- The image that was captured so far. -/
def image? {σ : Type} (j : Journaled σ) : Option Image := j.effects.findSome? Effect.captured?

variable {σ α : Type} (action : StateM σ α) (j : Journaled σ)

theorem image?_note (effect : α → Effect) :
    (note action effect j).2.image? = j.image?.or (effect (action j.world).1).captured? := by
  have noted : (note action effect j).2.effects = j.effects ++ [effect (action j.world).1] := rfl
  rw [image?, noted, List.findSome?_append, List.findSome?_singleton]
  rfl

theorem image?_note_of_none {effect : α → Effect} (none : ∀ a, (effect a).captured? = none) :
    (note action effect j).2.image? = j.image? := by
  rw [image?_note, none, Option.or_none]

end Journaled

namespace SnapshotPolicy

variable {p : SnapshotPolicy} {codec : ImageCodec}

/-- What a part of a snapshot step leaves of a studio. -/
structure Leaves (j after : Journaled Studio) (files : Files) : Prop where
  face : after.world.face = { j.world.face with files }
  image : after.image? = j.image?

theorem Leaves.refl (j : Journaled Studio) : Leaves j j j.world.files := ⟨rfl, rfl⟩

/-- Lines for the user change nothing. -/
theorem Leaves.tell {j k : Journaled Studio} {files : Files} (h : Leaves j k files)
    (message : Message) :
    Leaves j ((Studio.backend codec).journaled.tell message k).2 files :=
  ⟨(k.world.face_tell message).trans h.face, h.image⟩

/-- An action that is noted and captures nothing leaves what it leaves without a journal. -/
theorem Leaves.note {α : Type} {action : StateM Studio α} {effect : α → Effect} {j : Journaled Studio}
    {files : Files} (face : (action j.world).2.face = { j.world.face with files })
    (none : ∀ a, (effect a).captured? = none) : Leaves j (Journaled.note action effect j).2 files :=
  ⟨face, Journaled.image?_note_of_none action j none⟩

/-- To deliver an image is to file it, if it is to be filed. -/
theorem deliver_ensures (p : SnapshotPolicy) (image : Image) (report : SnapshotReport)
    (fresh : report.written? = none) (j : Journaled Studio) :
    Ensures (p.deliver (Studio.backend codec).journaled image report) j fun r after =>
      r.callNo = report.callNo ∧ r.precision? = report.precision? ∧
        r.written? = (p.filing codec j.world.files report.callNo image).1 ∧
        Leaves j after (p.filing codec j.world.files report.callNo image).2 := by
  unfold deliver filing
  cases p.writeTo? with
  | none => exact .pure ⟨rfl, rfl, fresh, Leaves.refl j⟩
  | some start =>
    simp only
    split
    · have streamed : ∀ comment, Leaves j
          ((Studio.backend codec).journaled.stream image comment j).2 j.world.files := fun comment =>
        Leaves.note (j.world.face_stream image comment) fun _ => rfl
      refine .bind (P := fun _ k => Leaves j k j.world.files) (streamed _) ?_
      rintro (e | _) k left
      · exact .bind (P := fun _ k => Leaves j k j.world.files) (left.tell _) fun _ _ told =>
          .pure ⟨rfl, rfl, fresh, told⟩
      · exact .pure ⟨rfl, rfl, fresh, left⟩
    · generalize snapshotPath start report.callNo = path
      have wrote : Leaves j ((Studio.backend codec).journaled.write image path j).2
          (codec.write j.world.files path image).2 :=
        Leaves.note (j.world.face_write codec image path) fun _ => rfl
      refine .bind (P := fun written k =>
        written = (codec.write j.world.files path image).1.toBool ∧
          Leaves j k (codec.write j.world.files path image).2)
        ⟨j.world.write_fst codec image path, wrote⟩ ?_
      rintro written k ⟨rfl, left⟩
      split
      · exact .bind (P := fun _ k => Leaves j k _) (left.tell _) fun _ _ told =>
          .pure ⟨rfl, rfl, rfl, told⟩
      · exact .pure ⟨rfl, rfl, fresh, left⟩

/-- To judge an image is to compare it, if there is a reference. -/
theorem judge_ensures (p : SnapshotPolicy) (image : Image) (reference? : Option Image)
    (report : SnapshotReport) (fresh : report.precision? = none) {j k : Journaled Studio}
    {files : Files} (left : Leaves j k files) :
    Ensures (p.judge (Studio.backend codec).journaled image reference? report) k fun r after =>
      r.callNo = report.callNo ∧ r.written? = report.written? ∧
        r.precision? = reference?.map image.compare ∧ Leaves j after files := by
  unfold judge
  cases reference? with
  | none => exact .pure ⟨rfl, rfl, fresh, left⟩
  | some reference =>
    have compared : ∀ precision, Leaves j ⟨k.world, k.effects ++ [.compared image reference precision]⟩
        files := fun precision => by
      refine ⟨left.face, ?_⟩
      rw [← left.image]
      exact Journaled.image?_note_of_none (pure precision) k fun _ => rfl
    refine .bind (P := fun precision k => precision = image.compare reference ∧ Leaves j k files)
      ⟨rfl, compared _⟩ ?_
    rintro _ k ⟨rfl, left⟩
    exact .bind (P := fun _ k => Leaves j k files) (left.tell _) fun _ _ told =>
      .pure ⟨rfl, rfl, rfl, told⟩

/-- What a capture and what follows it leave of a studio. -/
structure Captured (p : SnapshotPolicy) (codec : ImageCodec) (callNo : UInt32)
    (reference? : Option Image) (w : Studio) (r : SnapshotReport) (after : Journaled Studio) : Prop where
  number : r.callNo = callNo
  written : r.written? = (p.filing codec w.files callNo w.canvas.shown.capture).1
  precision : r.precision? = reference?.map w.canvas.shown.capture.compare
  image : after.image? = some w.canvas.shown.capture
  face : after.world.face =
    { w.face with files := (p.filing codec w.files callNo w.canvas.shown.capture).2 }

/-- The capture shows what the canvas shows. -/
theorem capture_ensures (p : SnapshotPolicy) (reference? : Option Image) {report : SnapshotReport}
    (unwritten : report.written? = none) (unjudged : report.precision? = none) {j : Journaled Studio}
    (first : j.image? = none) :
    Ensures (p.capture (Studio.backend codec).journaled reference? report) j
      (Captured p codec report.callNo reference? j.world) := by
  unfold capture
  have shown : Ensures (Studio.backend codec).journaled.capture j fun image? k =>
      image? = some j.world.canvas.shown.capture ∧ k.image? = some j.world.canvas.shown.capture ∧
        k.world.face = j.world.face := by
    refine ⟨rfl, ?_, j.world.face_flush⟩
    rw [← @Option.none_or _ (some j.world.canvas.shown.capture), ← first]
    exact Journaled.image?_note (Studio.backend codec).capture j .captured
  refine .bind shown ?_
  rintro _ k ⟨rfl, image, face⟩
  have files : k.world.files = j.world.files := congrArg Studio.Face.files face
  refine .bind (deliver_ensures p _ { report with captured := true } unwritten k) ?_
  rintro r l ⟨number, precision, written, left⟩
  refine (judge_ensures p _ reference? r (precision.trans unjudged) left).mono ?_
  rintro r' m ⟨number', written', precision', left'⟩
  refine ⟨number'.trans number, ?_, precision', left'.image.trans image, ?_⟩
  · rw [written', written, files]
  · rw [left'.face, face, files]

theorem Captured.face_files {p : SnapshotPolicy} {n : UInt32} {reference? : Option Image} {w : Studio}
    {r : SnapshotReport} {after : Journaled Studio} (h : Captured p codec n reference? w r after) :
    after.world.face = { w.face with files := after.world.files } := by
  have files : after.world.files = _ := congrArg Studio.Face.files h.face
  rw [files]
  exact h.face

/-- They see the face only. -/
theorem Captured.of_face {p : SnapshotPolicy} {n : UInt32} {reference? : Option Image} {v w : Studio}
    {r : SnapshotReport} {after : Journaled Studio} (h : Captured p codec n reference? v r after)
    (face : v.face = w.face) : Captured p codec n reference? w r after := by
  have files : v.files = w.files := congrArg Studio.Face.files face
  have shown : v.canvas.shown = w.canvas.shown := congrArg Studio.Face.canvas face
  obtain ⟨number, written, precision, image, left⟩ := h
  rw [files, shown] at written left
  rw [shown] at precision image
  rw [face] at left
  exact ⟨number, written, precision, image, left⟩

/-- The shot of a step that captured. -/
theorem Captured.makesShot {p : SnapshotPolicy} {n : UInt32} {reference? : Option Image} {w : Studio}
    {r : SnapshotReport} {after : Journaled Studio} (h : Captured p codec n reference? w r after)
    (captures : p.captures codec w.files n = true)
    (reference : p.reference? codec w.files n = reference?) (early : Bool) :
    MakesShot p codec w.files ⟨n, early, w.canvas.shown.capture⟩ ⟨r, early, after.effects⟩
      after.world.files where
  number := h.number
  early := rfl
  image := by
    rw [if_pos captures]
    exact h.image
  filed := by
    have image : Shot.image? ⟨r, early, after.effects⟩ = some w.canvas.shown.capture := h.image
    rw [image]
    exact Prod.ext h.written (congrArg Studio.Face.files h.face)
  precision := by
    have image : Shot.image? ⟨r, early, after.effects⟩ = some w.canvas.shown.capture := h.image
    rw [image, reference]
    exact h.precision

/-- So a capture is the shot of its step, wherever the face is that of the start. -/
theorem capture_makesShot {p : SnapshotPolicy} {reference? : Option Image} (report : SnapshotReport)
    (unwritten : report.written? = none) (unjudged : report.precision? = none) {k : Journaled Studio}
    (first : k.image? = none) {w : Studio} (face : k.world.face = w.face)
    (captures : p.captures codec w.files report.callNo = true)
    (reference : p.reference? codec w.files report.callNo = reference?) (early : Bool) :
    Ensures (p.capture (Studio.backend codec).journaled reference? report) k fun r after =>
      MakesShot p codec w.files ⟨report.callNo, early, w.canvas.shown.capture⟩ ⟨r, early, after.effects⟩
          after.world.files ∧
        after.world.face = { w.face with files := after.world.files } := by
  refine (capture_ensures p reference? unwritten unjudged first).mono fun r after captured => ?_
  replace captured := captured.of_face face
  exact ⟨captured.makesShot captures reference early, captured.face_files⟩

/-- The shot of a step that ended before the capture. -/
theorem makesShot_of_not_captures {p : SnapshotPolicy} {n : UInt32} {w : Studio}
    (captures : p.captures codec w.files n = false) (early : Bool) {effects : List Effect}
    (none : effects.findSome? Effect.captured? = none) :
    MakesShot p codec w.files ⟨n, early, w.canvas.shown.capture⟩ ⟨{ callNo := n }, early, effects⟩
      w.files where
  number := rfl
  early := rfl
  image := by
    rw [if_neg (by simp [captures])]
    exact none
  filed := by
    have image : Shot.image? ⟨{ callNo := n }, early, effects⟩ = Option.none := none
    rw [image]
  precision := by
    have image : Shot.image? ⟨{ callNo := n }, early, effects⟩ = Option.none := none
    rw [image]
    rfl

/-- A snapshot step takes what the canvas shows, and changes nothing but files. -/
theorem take_ensures (p : SnapshotPolicy) (n : UInt32) (w : Studio) (early : Bool) :
    Ensures (p.take (Studio.backend codec).journaled n) ⟨w, []⟩ fun r after =>
      MakesShot p codec w.files ⟨n, early, w.canvas.shown.capture⟩ ⟨r, early, after.effects⟩
          after.world.files ∧
        after.world.face = { w.face with files := after.world.files } := by
  unfold take
  dsimp only
  by_cases enabled : p.isEnabled = true
  case neg =>
    rw [if_pos (by simpa using enabled)]
    have captures : p.captures codec w.files n = false := by
      simp [captures, enabled]
    exact .pure ⟨makesShot_of_not_captures captures early rfl, rfl⟩
  rw [if_neg (by simpa using enabled)]
  cases compared : p.compareWith? with
  | none =>
    have captures : p.captures codec w.files n = true := by
      simp [captures, enabled, compared]
    have reference : p.reference? codec w.files n = none := by
      simp [reference?, compared]
    exact capture_makesShot { callNo := n } rfl rfl (k := ⟨w, []⟩) rfl rfl captures reference early
  | some start =>
    have loaded : Ensures ((Studio.backend codec).journaled.load (snapshotPath start n)) ⟨w, []⟩
        fun answer k => answer = p.reference? codec w.files n ∧ k.image? = none ∧
          k.world.face = w.face := by
      refine ⟨?_, rfl, w.face_load codec _⟩
      rw [reference?, compared]
      exact w.load_fst codec (snapshotPath start n)
    refine .bind loaded ?_
    rintro answer k ⟨reference, first, face⟩
    have files : k.world.files = w.files := congrArg Studio.Face.files face
    have shown : k.world.canvas.shown = w.canvas.shown := congrArg Studio.Face.canvas face
    cases answer with
    | none =>
      have captures : p.captures codec w.files n = false := by
        simp [captures, ← reference, compared]
      have missing := makesShot_of_not_captures captures early first
      refine .pure ⟨?_, face.trans ?_⟩
      · rw [files]
        exact missing
      · rw [files]
        rfl
    | some image =>
      refine .bind (P := fun _ k => k.image? = none ∧ k.world.face = w.face)
        ⟨first, (k.world.face_tell _).trans face⟩ ?_
      rintro _ l ⟨first, face⟩
      have captures : p.captures codec w.files n = true := by
        simp [captures, ← reference, enabled]
      exact capture_makesShot { callNo := n, reference? := some (snapshotPath start n) } rfl rfl first face
        captures reference.symm early

variable (p : SnapshotPolicy) (codec) (n : UInt32) (w : Studio) (early : Bool)

/-- The shot of a step is the one that the step takes. -/
theorem makesShot_shoot :
    MakesShot p codec w.files ⟨n, early, w.canvas.shown.capture⟩ (p.shoot (Studio.backend codec) early n w)
        (p.take (Studio.backend codec) n w).2.files ∧
      (p.take (Studio.backend codec) n w).2.face =
        { w.face with files := (p.take (Studio.backend codec) n w).2.files } := by
  rw [← Backend.world_take_journaled]
  exact take_ensures p n w early

end SnapshotPolicy

end TraceReplay
