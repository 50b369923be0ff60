import TraceReplay.Proofs.Session.Written

/-!
# A replay compared with its own recording

A replay that writes snapshots and one that compares with them take the same pictures. When no two
snapshots share a file, every file still holds its picture when the second replay loads it, so the
second replay finds no difference (`comparison_perfect`).
-/

namespace TraceReplay

/-- What was encoded is decoded again, if it is an image of pixels only and has some. -/
def ImageCodec.IsLossless (codec : ImageCodec) : Prop :=
  ∀ image content, image.surplus = [] → image.isEmpty = false → codec.encode image = .ok content →
    codec.decode content = .ok image

namespace SnapshotPolicy

/-- Snapshots of these calls are written to files. -/
def recording (start : String) (calls : Selection) : SnapshotPolicy :=
  { writeTo? := some start, writeCalls := calls }

/-- Snapshots of these calls are compared with files. -/
def comparing (start : String) (calls : Selection) : SnapshotPolicy :=
  { compareWith? := some start, compareCalls := calls }

theorem selects_recording (start : String) (calls : Selection) :
    (recording start calls).selects = calls.covers := by
  funext c
  simp [selects, recording]

theorem selects_comparing (start : String) (calls : Selection) :
    (comparing start calls).selects = calls.covers := by
  funext c
  simp [selects, comparing]

variable {codec : ImageCodec} {before after : Files} {pic : Picture} {shot : Shot} {start : String}
  {calls : Selection}

/-- A step that only compares writes nothing. -/
theorem MakesShot.files_eq (h : (comparing start calls).MakesShot codec before pic shot after) :
    after = before := by
  have filed := h.filed
  split at filed <;> exact congrArg Prod.snd filed

/-- A step that finds its own picture has nothing to complain about. -/
theorem MakesShot.precision_of_reference
    (h : (comparing start calls).MakesShot codec before pic shot after)
    (reference : (comparing start calls).reference? codec before pic.number = some pic.image)
    (pixels : pic.image.isEmpty = false) :
    shot.report.precision? = some (.measured pic.image.width pic.image.height 0) := by
  have captures : (comparing start calls).captures codec before pic.number = true := by
    simp [captures, isEnabled, comparing] at reference ⊢
    simp [reference]
  rw [h.precision, h.image, if_pos captures, reference]
  exact congrArg some (Image.compare_self pixels)

/-- A picture that was written is the reference of its number. -/
theorem reference?_of_read {content : ByteArray} (lossless : codec.IsLossless)
    (trim : pic.image.surplus = []) (pixels : pic.image.isEmpty = false)
    (encoded : codec.encode pic.image = .ok content)
    (there : before.read (snapshotPath start pic.number) = .ok content) :
    (comparing start calls).reference? codec before pic.number = some pic.image := by
  have loaded : codec.read before (snapshotPath start pic.number) = .ok pic.image := by
    rw [ImageCodec.read, there]
    simp only
    rw [if_pos (isPngName_snapshotPath start pic.number)]
    exact lossless pic.image content trim pixels encoded
  rw [reference?, comparing]
  simp only [Option.bind_some]
  rw [if_pos (Files.hasEntry_of_read there), loaded]
  rfl

end SnapshotPolicy

namespace Filmed

variable {codec : ImageCodec} {p : SnapshotPolicy} {before after final : Files}
  {pics : List Picture} {shots shots' : List Shot} {start : String} {calls : Selection}

theorem numbers_eq (h : Filmed codec p before pics shots after) :
    shots.map Shot.number = pics.map Picture.number := by
  induction h with
  | nil => rfl
  | cons takes _ ih => rw [List.map_cons, List.map_cons, takes.number, ih]

/-- The second of two replays finds what the first wrote. -/
theorem perfect (lossless : codec.IsLossless)
    (h : Filmed codec (.recording start calls) before pics shots after)
    (h' : Filmed codec (.comparing start calls) after pics shots' final)
    (trim : ∀ pic ∈ pics, pic.image.surplus = []) (apart : (shots.map Shot.number).Nodup) {a b : Shot}
    (mem : (a, b) ∈ shots.zip shots') {path : String} (written : a.report.written? = some path) :
    ∃ image, a.image? = some image ∧ (image.isEmpty = false →
      b.report.precision? = some (.measured image.width image.height 0)) := by
  induction h generalizing shots' with
  | nil => simp at mem
  | @cons _ _ _ pic _ _ others takes rest ih =>
    cases h' with
    | cons takes' rest' =>
      rw [List.map_cons, List.nodup_cons] at apart
      rw [List.zip_cons_cons, List.mem_cons] at mem
      rcases mem with same | mem
      · obtain ⟨rfl, rfl⟩ := Prod.mk.inj same
        obtain ⟨image, captured⟩ := takes.exists_image written
        obtain rfl := takes.image_eq captured
        obtain ⟨_, writes, rfl, wrote⟩ := takes.of_written written captured
        obtain rfl := Option.some.inj writes
        obtain ⟨content, encoded, _⟩ := ImageCodec.write_ok_iff.1 wrote
        have elsewhere : ∀ shot ∈ others, shot.number = a.number → ∀ y, shot.image? = some y → y = pic.image :=
          fun shot mem number => absurd (List.mem_map.2 ⟨shot, mem, number⟩) apart.1
        have there := rest.read_kept writes encoded elsewhere (ImageCodec.read_of_write_ok encoded wrote)
        rw [takes.number] at there
        refine ⟨pic.image, captured, fun pixels => takes'.precision_of_reference ?_ pixels⟩
        exact SnapshotPolicy.reference?_of_read lossless (trim pic List.mem_cons_self) pixels encoded there
      · obtain rfl := takes'.files_eq
        exact ih rest' (fun pic mem => trim pic (List.mem_cons_of_mem _ mem)) apart.2 mem

end Filmed

/-- Without a dump all pictures of a trace are taken, from the blank canvas on. -/
theorem Player.Films.filmed {codec : ImageCodec} {calls : List Call} {player : Player} {s t : Studio}
    {shots : List Shot} (films : player.Films codec calls s shots t) {p : SnapshotPolicy}
    (policy : player.policy = p) {covers : Call → Bool} (selects : p.selects = covers)
    (never : player.dumpAt? = none) {width height : Nat} (blank : s.canvas = .ofSize width height) :
    Filmed codec p s.files (pictures covers (.ofSize width height) calls) shots t.files := by
  obtain rfl := policy
  obtain rfl := selects
  obtain ⟨pics, rest, split, left, reel⟩ := films
  obtain rfl : rest = [] := by_contra fun more => left more never
  have shown : s.canvas.shown = .ofSize width height := by rw [blank, Canvas.shown_ofSize]
  rw [List.append_nil, shown] at split
  rw [split]
  exact reel.filmed

theorem Selection.endsFrame_of_covers_everyFrame {c : Call} (covered : everyFrame.covers c = true) :
    c.endsFrame = true := by
  obtain ⟨piece, mem, covered⟩ := covers_iff.1 covered
  obtain rfl := List.mem_singleton.1 mem
  exact (Bool.and_eq_true_iff.1 covered).2

/-- What is seen of a replay that is compared with the recording it was made from. -/
structure PerfectScore (calls : Selection) (recorded compared : List Shot) : Prop where
  /-- Every frame has a snapshot of its own. -/
  apart : calls = .everyFrame → (recorded.map Shot.number).Nodup
  /-- Both take snapshots for the same numbers, in the same order. -/
  numbers : compared.map Shot.number = recorded.map Shot.number
  /-- If no two snapshots share a file, a step whose file was written is compared without any error,
  unless its image has no pixels. -/
  perfect : (recorded.map Shot.number).Nodup → ∀ a b, (a, b) ∈ recorded.zip compared →
    ∀ path, a.report.written? = some path →
      ∃ image, a.image? = some image ∧ (image.isEmpty = false →
        b.report.precision? = some (.measured image.width image.height 0))

/-- A replay finds no difference to its own recording. Both have taken the pictures of the trace, and
their shots are those of the snapshot steps from the one studio to the other. -/
theorem comparison_perfect {codec : ImageCodec} (lossless : codec.IsLossless) {source : Source}
    (increasing : source.calls.Pairwise (·.no < ·.no)) {start : String} (calls : Selection)
    {width height : Nat} {s t : Studio} (blank : s.canvas = .ofSize width height)
    (blank' : t.canvas = .ofSize width height) {cpu cpu' : Bool} {moves moves' : List Move}
    {f g : Field Studio} {result result' : RaceEnd}
    (made : (Field.launch source (.start (.recording start calls) none cpu) s).performAll
      (fun _ => Studio.backend codec) moves = some f)
    (ended : f.end? = some result) (kept : t.files = f.world.files)
    (made' : (Field.launch source (.start (.comparing start calls) none cpu') t).performAll
      (fun _ => Studio.backend codec) moves' = some g)
    (ended' : g.end? = some result') :
    let recorded := (Field.launch source (.start (.recording start calls) none cpu) s).shots
      (fun _ => Studio.backend codec) moves
    let compared := (Field.launch source (.start (.comparing start calls) none cpu') t).shots
      (fun _ => Studio.backend codec) moves'
    (Player.start (.recording start calls) none cpu).Films codec source.calls s recorded f.world ∧
      (Player.start (.comparing start calls) none cpu').Films codec source.calls t compared g.world ∧
      PerfectScore calls recorded compared := by
  have films := race_films made ended
  have films' := race_films made' ended'
  have filmed := films.filmed rfl (SnapshotPolicy.selects_recording start calls) rfl blank
  have filmed' := films'.filmed rfl (SnapshotPolicy.selects_comparing start calls) rfl blank'
  rw [kept] at filmed'
  refine ⟨films, films', ?_, filmed'.numbers_eq.trans filmed.numbers_eq.symm,
    fun apart a b mem path written => ?_⟩
  · rintro rfl
    have numbers := pictures_pairwise_of_frames increasing (fun _ => Selection.endsFrame_of_covers_everyFrame)
      (.ofSize width height)
    rw [filmed.numbers_eq, List.Nodup, List.pairwise_map]
    exact numbers.imp UInt32.ne_of_lt
  · exact filmed.perfect lossless filmed'
      (fun pic mem => surplus_of_mem_pictures (EagerCanvas.isTrim_ofSize width height) mem) apart mem
      written

/-- One red pixel. -/
def redPixel : Image := .solid 1 1 ⟨255, 0, 0, 255⟩

/-- A codec that knows one image. -/
def redCodec : ImageCodec where
  encode image := if image = redPixel then Png.encode image else .error .unknownFormat
  decode := Png.decode

theorem isLossless_redCodec : redCodec.IsLossless := by
  intro image content _ _ encoded
  have back : (Png.encode redPixel).toOption.bind (fun content => (Png.decode content).toOption) =
      some redPixel := by decide +kernel
  simp only [redCodec] at encoded ⊢
  split at encoded
  · rename_i red
    rw [red] at encoded ⊢
    rw [encoded] at back
    change (Png.decode content).toOption = some redPixel at back
    cases decoded : Png.decode content with
    | ok image =>
      rw [decoded] at back
      exact congrArg Except.ok (Option.some.inj back)
    | error e =>
      rw [decoded] at back
      cases back
  · cases encoded

/-- One red frame. -/
def redFrame : Source := .ofCalls [⟨4, homeLeg, .endFrame, [1, 255, 0, 0, 255]⟩]

/-- A replay of it that writes snapshots, and one that compares with files. -/
def redRecorder : Player := .start (.recording "s" .everyFrame) none false

def redComparer : Player := .start (.comparing "s" .everyFrame) none false

/-- The frame is written to a file and compared with it. -/
theorem comparison_perfect_of_red_frame :
    let moves := [.play homeLeg, .close, .settle]
    let blank : Studio := { canvas := .ofSize 1 1 }
    let recording := Field.launch redFrame redRecorder blank
    ∃ f result, recording.performAll (fun _ => Studio.backend redCodec) moves = some f ∧
      f.end? = some result ∧
      let reopened : Studio := { canvas := .ofSize 1 1, files := f.world.files }
      let comparison := Field.launch redFrame redComparer reopened
      ∃ g result', comparison.performAll (fun _ => Studio.backend redCodec) moves = some g ∧
        g.end? = some result' ∧
        (recording.shots (fun _ => Studio.backend redCodec) moves).map (·.report.written?) =
          [some "s0000000004.png"] ∧
        redRecorder.Films redCodec redFrame.calls blank
          (recording.shots (fun _ => Studio.backend redCodec) moves) f.world ∧
        redComparer.Films redCodec redFrame.calls reopened
          (comparison.shots (fun _ => Studio.backend redCodec) moves) g.world ∧
        PerfectScore .everyFrame (recording.shots (fun _ => Studio.backend redCodec) moves)
          (comparison.shots (fun _ => Studio.backend redCodec) moves) := by
  have increasing : redFrame.calls.Pairwise (·.no < ·.no) := by decide
  have made : (Field.launch redFrame redRecorder { canvas := .ofSize 1 1 }).performAll
    (fun _ => Studio.backend redCodec) [.play homeLeg, .close, .settle] = some _ := rfl
  exact ⟨_, _, made, rfl, _, _, rfl, rfl, by decide +kernel,
    comparison_perfect isLossless_redCodec increasing .everyFrame rfl rfl made rfl rfl rfl rfl⟩

end TraceReplay
