import TraceReplay.Proofs.Image.Frames
import TraceReplay.Proofs.Session.Stream

/-!
# Snapshots that were streamed can be read back

A row of snapshots of any images is streamed to an output that refuses nothing, be it standard output or one
of its own. What the output takes is read in one way, as the snapshots that were streamed
(`streamed_decodes`).
-/

namespace TraceReplay

namespace Studio

variable {s t u : Studio} {bytes : List UInt8} {codec : ImageCodec}

/-- A studio with this image to capture. -/
def showing (codec : ImageCodec) (image : Image) : Backend Studio :=
  { backend codec with capture := pure (some image) }

/-- What an action leaves of the stream. -/
structure StreamsOut (s : Studio) (bytes : List UInt8) (t : Studio) : Prop where
  opened : t.Open
  streamed : t.streamed = s.streamed ++ bytes

namespace StreamsOut

theorem refl (h : s.Open) : StreamsOut s [] s := ⟨h, (List.append_nil _).symm⟩

theorem trans {more : List UInt8} (h : StreamsOut s bytes t) (h' : StreamsOut t more u) :
    StreamsOut s (bytes ++ more) u :=
  ⟨h'.opened, by rw [h'.streamed, h.streamed, List.append_assoc]⟩

/-- Whatever leaves the outputs alone streams nothing. -/
theorem of_outputs_eq (h : StreamsOut s bytes t) (same : u.stdout = t.stdout ∧ u.streamOut? = t.streamOut?) :
    StreamsOut s bytes u := by
  have sink : u.streamSink = t.streamSink := by rw [streamSink, streamSink, same.1, same.2]
  exact ⟨⟨sink ▸ h.opened.unlimited, sink ▸ h.opened.flushes⟩,
    (congrArg (fun sink => sink.content.data.toList) sink).trans h.streamed⟩

/-- An image that is streamed. -/
theorem stream (h : StreamsOut s bytes t) (image : Image) (comment : String) :
    (t.stream image comment).1 = .ok () ∧
      StreamsOut s (bytes ++ image.pnm comment) (t.stream image comment).2 := by
  obtain ⟨taken, opened, streamed⟩ := t.stream_of_open h.opened image comment
  exact ⟨taken, opened, by rw [streamed, h.streamed, List.append_assoc]⟩

end StreamsOut

theorem streamsAll_showing (s : Studio) (codec : ImageCodec) (image : Image) :
    (showing codec image).StreamsAll s.StreamsOut where
  capture _ _ h := h
  load path _ w h := h.of_outputs_eq (w.outputs_load codec path)
  compare _ _ _ _ h := h
  stream image comment _ _ h := h.stream image comment
  tell _ _ w silent h := h.of_outputs_eq (w.outputs_tell silent)

end Studio

namespace SnapshotPolicy

/-- Snapshots of these images are taken, one after the other, each under its call number. -/
def takeEach (p : SnapshotPolicy) (codec : ImageCodec) :
    List (UInt32 × Image) → StateM Studio (List SnapshotReport)
  | [] => pure []
  | (n, image) :: shots => do
    let report ← p.take (Studio.showing codec image) n
    let reports ← p.takeEach codec shots
    return report :: reports

/-- Those of the snapshots that were streamed, as the reports say. -/
def streamedOf (shots : List (UInt32 × Image)) (reports : List SnapshotReport) : List (UInt32 × Image) :=
  ((shots.zip reports).filter fun step => step.2.streamed).map Prod.fst

variable {p : SnapshotPolicy} {codec : ImageCodec} {s t : Studio} {shots : List (UInt32 × Image)}

/-- One snapshot of an image streams the image, unless the reference to compare it with is missing. -/
theorem take_showing (streams : p.writeTo? = some streamMark) (opened : s.Open) (n : UInt32) (image : Image) :
    Ensures (p.take (Studio.showing codec image) n) s fun r t =>
      r.callNo = n ∧ (p.compareWith? = none → r.streamed = true) ∧
        s.StreamsOut (if r.streamed then image.pnm (toString n.toNat) else []) t := by
  have marked : p.streams = true := by simp [SnapshotPolicy.streams, streams]
  obtain ⟨report, world⟩ :=
    (Backend.SnapsAlike.of_journaled (Studio.showing codec image)).take p n ⟨s, []⟩ s rfl
  have taken := take_streams (n := n) (s.streamsAll_showing codec image) marked false (.refl opened)
  unfold Ensures at taken ⊢
  rw [← report, ← world]
  generalize p.take (Studio.showing codec image).journaled n ⟨s, []⟩ = step at taken
  obtain ⟨r, k⟩ := step
  obtain ⟨number, wrote, streamed, ⟨_, captured⟩ | ⟨missing, wanted⟩⟩ := taken
  · have streamed : r.streamed = true := streamed.trans (congrArg Option.isSome captured).symm
    have shown : Shot.image? ⟨r, false, k.effects⟩ = some image := captured.symm
    rw [Shot.pnm, shown, streamed, Shot.number, number] at wrote
    refine ⟨number, fun _ => streamed, ?_⟩
    rw [if_pos streamed]
    exact wrote
  · have unstreamed : r.streamed = false := streamed.trans (congrArg Option.isSome missing)
    rw [Shot.pnm, unstreamed] at wrote
    refine ⟨number, fun unwanted => absurd unwanted wanted, ?_⟩
    rw [unstreamed]
    exact wrote

/-- So a row of snapshots streams those that its reports say, one after the other. -/
theorem takeEach_streamsOut (streams : p.writeTo? = some streamMark) (opened : s.Open) :
    Ensures (p.takeEach codec shots) s fun reports t =>
      reports.map SnapshotReport.callNo = shots.map Prod.fst ∧
        (p.compareWith? = none → streamedOf shots reports = shots) ∧
        s.StreamsOut ((streamedOf shots reports).flatMap fun shot => shot.2.pnm (toString shot.1.toNat)) t := by
  induction shots generalizing s with
  | nil => exact .pure ⟨rfl, fun _ => rfl, .refl opened⟩
  | cons shot shots ih =>
    obtain ⟨n, image⟩ := shot
    refine .bind (take_showing streams opened n image) ?_
    rintro r t ⟨number, first, took⟩
    refine .bind (ih took.opened) ?_
    rintro rs u ⟨numbers, others, rest⟩
    have split : streamedOf ((n, image) :: shots) (r :: rs) =
        if r.streamed then (n, image) :: streamedOf shots rs else streamedOf shots rs := by
      rw [streamedOf, List.zip_cons_cons, List.filter_cons]
      split <;> rfl
    have both := took.trans rest
    refine .pure ⟨?_, ?_, ?_⟩
    · rw [List.map_cons, List.map_cons, number, numbers]
    · intro unwanted
      rw [split, if_pos (first unwanted), others unwanted]
    · rw [split]
      split
      · rename_i streamed
        rw [if_pos streamed] at both
        exact both
      · rename_i unstreamed
        rw [if_neg unstreamed] at both
        exact both

end SnapshotPolicy

/-- What a row of snapshots leaves of the stream. -/
structure StreamsRow (p : SnapshotPolicy) (shots : List (UInt32 × Image)) (s : Studio)
    (reports : List SnapshotReport) (t : Studio) : Prop where
  numbers : reports.map SnapshotReport.callNo = shots.map Prod.fst
  /-- Only a reference that is missing keeps a snapshot from the stream. -/
  whole : p.compareWith? = none → SnapshotPolicy.streamedOf shots reports = shots
  decodes : ∃ bytes, t.streamed = s.streamed ++ bytes ∧
    PnmFrame.Decodes (SnapshotPolicy.streamedOf shots reports) bytes

/-- What was streamed can be read back, and in one way only. -/
theorem streamed_decodes {p : SnapshotPolicy} (streams : p.writeTo? = some streamMark) (codec : ImageCodec)
    {s : Studio} (opened : s.Open) (shots : List (UInt32 × Image)) :
    Ensures (p.takeEach codec shots) s (StreamsRow p shots s) := by
  refine (SnapshotPolicy.takeEach_streamsOut streams opened).mono ?_
  rintro reports t ⟨numbers, whole, took⟩
  exact ⟨numbers, whole, _, took.streamed, PnmFrame.decodes_flatMap _⟩

/-- Two pixels whose bytes look like the start of an image. -/
def headerPixels : Image where
  width := 2
  height := 1
  pixels := #[⟨80, 54, 10, 255⟩, ⟨35, 49, 10, 0⟩]
  surplus := [1, 2, 3]
  size_eq := rfl

/-- An image without pixels, and one that looks like another. -/
def lookalikes : List (UInt32 × Image) := [(7, .blank 0 3), (8, headerPixels)]

/-- Both can be told apart in what standard output takes. -/
theorem streamed_decodes_of_lookalikes :
    let s : Studio := { canvas := .ofSize 1 1 }
    let p : SnapshotPolicy := { writeTo? := some streamMark }
    let after := p.takeEach Png.codec lookalikes s
    s.Open ∧ after.2.streamed = Text.utf8 "P6\n#7\n0 3\n255\nP6\n#8\n2 1\n255\nP6\n#1\n" ∧
      StreamsRow p lookalikes s after.1 after.2 := by
  intro s p after
  have opened : s.Open := ⟨rfl, rfl⟩
  exact ⟨opened, by decide +kernel, streamed_decodes rfl Png.codec opened lookalikes⟩

end TraceReplay
