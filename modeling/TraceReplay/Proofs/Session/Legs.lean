import TraceReplay.Proofs.Race.Legs
import TraceReplay.Proofs.Session.Filming

/-!
# Legs are not seen in the picture

A studio answers a replay by its face, and a flush leaves the face as it is. So races over calls that
differ in their legs only look the same in studios with the same face and with outputs that take
everything (`race_blind_to_legs`): however the runners move, both end alike, take the same snapshot
steps, and leave the same picture.
-/

namespace TraceReplay

/-- Canvases that show the same are the same after a flush. -/
theorem Canvas.flush_eq_of_shown_eq {c d : Canvas} (same : c.shown = d.shown) :
    c.flush = d.flush := by
  have painted : ∀ e : Canvas, e.flush = ⟨e.shown.width, e.shown.height, e.shown.targets,
      e.shown.bound, e.flush.pending, e.shown.pixelsDrawn, e.shown.presents⟩ := fun _ => rfl
  rw [painted c, painted d, same, c.pending_flush, d.pending_flush]

namespace Studio

/-- Studios that no replay can tell apart: the canvases show the same, the files are the same, and
the outputs, which are alike, refuse no write. -/
structure Alike (s t : Studio) : Prop where
  face : s.face = t.face
  stream : s.face.stream.limit? = none
  dump : s.face.dump.limit? = none

/-- An action looks the same in such studios if it answers by the face, and what it does to the face
is said by the face. -/
theorem matches_of_face {α : Type} {action : StateM Studio α} (answer : Face → α)
    (after : Face → Face)
    (answers : ∀ s : Studio, s.face.stream.limit? = none → s.face.dump.limit? = none →
      (action s).1 = answer s.face)
    (does : ∀ s : Studio, (action s).2.face = after s.face)
    (stream : ∀ face, (after face).stream = face.stream := by intro _; rfl)
    (dump : ∀ face, (after face).dump = face.dump := by intro _; rfl) :
    Matches Alike action action := by
  intro s t h
  constructor
  · rw [answers s h.stream h.dump, answers t (h.face ▸ h.stream) (h.face ▸ h.dump), h.face]
  · exact ⟨by rw [does, does, h.face], by rw [does, stream, h.stream], by rw [does, dump, h.dump]⟩

variable (codec : ImageCodec)

theorem matches_tell (message : Message) :
    Matches Alike ((backend codec).tell message) ((backend codec).tell message) :=
  matches_of_face (fun _ => ()) id (fun _ _ _ => rfl) fun s => s.face_tell message

/-- What snapshot steps are made of looks the same. -/
theorem snapsAlike : Backend.SnapsAlike Alike (backend codec) (backend codec) where
  capture := matches_of_face (fun face => some face.canvas.capture) id (fun _ _ _ => rfl) face_flush
  load path :=
    matches_of_face
      (fun face => if face.files.hasEntry path then (codec.read face.files path).toOption else none)
      id (fun s _ _ => s.load_fst codec path) fun s => s.face_load codec path
  write image path :=
    matches_of_face (fun face => (codec.write face.files path image).1.toBool)
      (fun face => { face with files := (codec.write face.files path image).2 })
      (fun s _ _ => s.write_fst codec image path) fun s => s.face_write codec image path
  stream image comment :=
    matches_of_face (fun face => if face.stream.flushFails then .error .flushRefused else .ok ()) id
      (fun s stream _ => s.stream_fst stream image comment) fun s => s.face_stream image comment
  compare image reference := .pure _
  tell := matches_tell codec

/-- A call does the same whatever its leg. -/
theorem matches_perform {x y : Call} (same : x.withoutLeg = y.withoutLeg) :
    Matches Alike ((backend codec).perform x) ((backend codec).perform y) := by
  have blind : (backend codec).perform x = (backend codec).perform y :=
    Call.congr_of_withoutLeg same fun _ => rfl
  rw [← blind]
  refine matches_of_face (fun face => (face.perform x).1) (fun face => (face.perform x).2)
    (fun s _ _ => (congrArg Prod.fst (s.perform_face x)).symm)
    (fun s => (congrArg Prod.snd (s.perform_face x)).symm) ?_ ?_
  all_goals
    intro face
    rw [Face.perform]
    cases face.canvas.apply x.payload <;> rfl

/-- A dump works, and so does passing it on or not. -/
theorem matches_dump : Matches Alike (Player.tryDump (backend codec)) (Player.tryDump (backend codec)) := by
  have dumps : Matches Alike dump dump :=
    matches_of_face (fun _ => true) id (fun s _ unlimited => s.dump_fst unlimited) face_dump
  have flushes : Matches Alike (backend codec).flushDump (backend codec).flushDump :=
    matches_of_face (fun face => if face.dump.flushFails then .error .flushRefused else .ok ()) id
      (fun _ _ _ => rfl) fun _ => rfl
  refine .bind dumps fun dumped => ?_
  cases dumped with
  | false => exact .pure _
  | true =>
    refine .bind flushes fun answer => ?_
    cases answer with
    | ok _ => exact .pure _
    | error e => exact .bind (matches_tell codec _) fun _ => .pure _

/-- Flushes are not seen, and calls are performed whatever their legs. -/
theorem playsAlike : Backend.PlaysAlike Alike (backend codec) (backend codec) where
  toSnapsAlike := snapsAlike codec
  perform _ _ same := matches_perform codec same
  sound call s := by
    rcases s.perform_cases call with ⟨_, _, done, _⟩ | ⟨_, _, failed, _⟩
    · exact fun crashed => Performed.noConfusion ((congrArg Prod.fst done).symm.trans crashed)
    · exact fun crashed => Performed.noConfusion ((congrArg Prod.fst failed).symm.trans crashed)
  cpuTime := .pure _
  dump := matches_dump codec
  handOver s t h :=
    ⟨⟨rfl, s.face_flush.trans h.face, h.stream, h.dump⟩,
      rfl, h.face.trans t.face_flush.symm, h.stream, h.dump⟩

/-- Schedules of two races of one player on studios, `f` and `g` being where they lead, look the
same. -/
structure RacesAlike (player : Player) (source other : Source) (s t : Studio) (moves moves' : List Move)
    (f g : Field Studio) : Prop where
  /-- Each has a result when nobody can move any more. -/
  complete : (∀ move, f.perform (fun _ => backend codec) move = none) →
    ∃ result, f.end? = some result
  complete' : (∀ move, g.perform (fun _ => backend codec) move = none) →
    ∃ result, g.end? = some result
  /-- Then each has taken the pictures of its trace, and its shots are those of the steps that led from
  the one studio to the other. -/
  films : ∀ result, f.end? = some result →
    player.Films codec source.calls s
      ((Field.launch source player s).shots (fun _ => backend codec) moves) f.world
  films' : ∀ result, g.end? = some result →
    player.Films codec other.calls t
      ((Field.launch other player t).shots (fun _ => backend codec) moves') g.world
  /-- Both have come to the same outcome with the same player, its counters included, or to the same
  error; they have taken the same snapshot steps, with the same reports and images; and after a flush
  the canvases are the same. -/
  agree : ∀ result result', f.end? = some result → g.end? = some result' →
    result ≠ .crashed ∧ result.withoutLegs = result'.withoutLegs ∧
      (Field.launch source player s).shots (fun _ => backend codec) moves =
        (Field.launch other player t).shots (fun _ => backend codec) moves' ∧
      f.world.canvas.flush = g.world.canvas.flush

/-- Nobody sees from which legs the calls of a trace came. -/
theorem race_blind_to_legs {source other : Source} {player : Player} {s t : Studio}
    {moves moves' : List Move} {f g : Field Studio} (same : source.withoutLegs = other.withoutLegs)
    (alike : s.Alike t)
    (made : (Field.launch source player s).performAll (fun _ => backend codec) moves = some f)
    (made' : (Field.launch other player t).performAll (fun _ => backend codec) moves' = some g) :
    RacesAlike codec player source other s t moves moves' f g where
  complete := Field.exists_end_of_stuck made
  complete' := Field.exists_end_of_stuck made'
  films _ := race_films made
  films' _ := race_films made'
  agree result result' ended ended' := by
    have h := (playsAlike codec).race same alike made made' ended ended'
    have shown : f.world.canvas.shown = g.world.canvas.shown :=
      congrArg Face.canvas h.world.face
    exact ⟨h.survived, h.result, h.shots, Canvas.flush_eq_of_shown_eq shown⟩

/-- A clear on the home leg, a frame on another, and a payload that is no command. -/
def clearedThenFaulty (leg : Leg) : Source :=
  .ofCalls [⟨0, homeLeg, .none, [1, 255, 0, 0, 255]⟩, ⟨1, leg, .endFrame, [5]⟩,
    ⟨2, leg, .endFrame, [9]⟩]

/-- Every frame is streamed. -/
def streaming : Player := .start { writeTo? := some streamMark, writeCalls := .everyFrame } none false

def onePixel : Studio where
  canvas := .ofSize 1 1

/-- A worker that plays two calls and a home runner that plays all three stream one red pixel, and
both races fail at the last call. -/
theorem race_blind_to_legs_of_worker :
    let handed := [.play homeLeg, .spawn homeLeg, .pass homeLeg, .wake 7, .play 7, .play 7, .deliver 7,
      .release 7, .release homeLeg, .collect, .close, .leave 7, .join, .settle]
    let alone := [.play homeLeg, .play homeLeg, .play homeLeg, .close, .settle]
    let first := Field.launch (clearedThenFaulty 7) streaming onePixel
    let second := Field.launch (clearedThenFaulty homeLeg) streaming onePixel
    ∃ f g, first.performAll (fun _ => backend Png.codec) handed = some f ∧
      second.performAll (fun _ => backend Png.codec) alone = some g ∧
      f.end? = some (.failed (.executor ⟨2, (CommandError.unknownOpcode 9).message⟩)) ∧
      (first.shots (fun _ => backend Png.codec) handed).map Shot.image? =
        [some (.solid 1 1 ⟨255, 0, 0, 255⟩)] ∧
      RacesAlike Png.codec streaming (clearedThenFaulty 7) (clearedThenFaulty homeLeg) onePixel onePixel
        handed alone f g :=
  ⟨_, _, rfl, rfl, rfl, rfl, race_blind_to_legs Png.codec rfl ⟨rfl, rfl, rfl⟩ rfl rfl⟩

end Studio

end TraceReplay
