import TraceReplay.Proofs.Replay.Program
import TraceReplay.Replay.Shots

/-!
# Replays that cannot be told apart

When the actions of two backends match, so do the snapshot steps made of them (`SnapsAlike.take`),
shots included (`SnapsAlike.shoot_eq`), and so does the playing of a call (`CallAlike.play`), or of calls
that differ in their legs only (`PlaysAlike.play`, `PlaysAlike.shot?_eq`).
-/

namespace TraceReplay

/-- The call as if the home leg had issued it. -/
def Call.withoutLeg (c : Call) : Call := { c with leg := homeLeg }

/-- What does not look at legs is the same for calls that differ in them only. -/
theorem Call.congr_of_withoutLeg {α : Type} {f : Call → α} {x y : Call}
    (same : x.withoutLeg = y.withoutLeg) (blind : ∀ c : Call, f c.withoutLeg = f c) : f x = f y := by
  rw [← blind x, same, blind]

/-- Selections look at numbers and flags. -/
theorem SnapshotPolicy.selects_withoutLeg (p : SnapshotPolicy) (c : Call) :
    p.selects c.withoutLeg = p.selects c := by
  have admits : ∀ f : Frequency, f.admits c.withoutLeg = f.admits c := fun f => by cases f <;> rfl
  have covers : ∀ s : Selection, s.covers c.withoutLeg = s.covers c := fun s => by
    simp only [Selection.covers, Piece.covers, admits]
    rfl
  rw [selects, selects, covers, covers]

namespace Backend

variable {σ τ : Type}

/-- The actions of two backends that a snapshot step is made of match. -/
structure SnapsAlike (R : σ → τ → Prop) (b : Backend σ) (c : Backend τ) : Prop where
  capture : Matches R b.capture c.capture
  load : ∀ path, Matches R (b.load path) (c.load path)
  write : ∀ image path, Matches R (b.write image path) (c.write image path)
  stream : ∀ image comment, Matches R (b.stream image comment) (c.stream image comment)
  compare : ∀ image reference, Matches R (b.compare image reference) (c.compare image reference)
  tell : ∀ message, Matches R (b.tell message) (c.tell message)

/-- So do the actions that a call is played with, which may differ in its leg on the two sides. -/
structure CallAlike (R : σ → τ → Prop) (b : Backend σ) (c : Backend τ) (x y : Call) : Prop
    extends SnapsAlike R b c where
  same : x.withoutLeg = y.withoutLeg
  perform : Matches R (b.perform x) (c.perform y)
  cpuTime : Matches R b.cpuTime c.cpuTime
  dump : Matches R (Player.tryDump b) (Player.tryDump c)

/-- So do all actions that a call is played with, for calls that differ in their legs only. A flush
may be made on one side alone: it is never seen. -/
structure PlaysAlike (R : σ → τ → Prop) (b : Backend σ) (c : Backend τ) : Prop
    extends SnapsAlike R b c where
  perform : ∀ x y : Call, x.withoutLeg = y.withoutLeg → Matches R (b.perform x) (c.perform y)
  /-- No thread is lost with a call. -/
  sound : ∀ (x : Call) (s : σ), (b.perform x s).1 ≠ .crashed
  cpuTime : Matches R b.cpuTime c.cpuTime
  dump : Matches R (Player.tryDump b) (Player.tryDump c)
  handOver : ∀ s t, R s t →
    ((b.handOver s).1 = .done ∧ R (b.handOver s).2 t) ∧
      ((c.handOver t).1 = .done ∧ R s (c.handOver t).2)

/-- Related states with the same journal. -/
def WithJournal (R : σ → τ → Prop) (s : Journaled σ) (t : Journaled τ) : Prop :=
  R s.world t.world ∧ s.effects = t.effects

variable {R : σ → τ → Prop} {b : Backend σ} {c : Backend τ}

theorem matches_note {α : Type} {x : StateM σ α} {y : StateM τ α} (alike : Matches R x y)
    (effect : α → Effect) :
    Matches (WithJournal R) (Journaled.note x effect) (Journaled.note y effect) := by
  rintro s t ⟨related, effects⟩
  obtain ⟨same, left⟩ := alike s.world t.world related
  refine ⟨same, left, ?_⟩
  show s.effects ++ [effect (x s.world).1] = t.effects ++ [effect (y t.world).1]
  rw [effects, same]

theorem matches_pass {α : Type} {x : StateM σ α} {y : StateM τ α} (alike : Matches R x y) :
    Matches (WithJournal R) (Journaled.pass x) (Journaled.pass y) := by
  rintro s t ⟨related, effects⟩
  obtain ⟨same, left⟩ := alike s.world t.world related
  exact ⟨same, left, effects⟩

namespace SnapsAlike

theorem journaled (h : SnapsAlike R b c) : SnapsAlike (WithJournal R) b.journaled c.journaled where
  capture := matches_note h.capture _
  load path := matches_note (h.load path) _
  write image path := matches_note (h.write image path) _
  stream image comment := matches_note (h.stream image comment) _
  compare image reference := matches_note (h.compare image reference) _
  tell message := matches_pass (h.tell message)

/-- A backend that keeps a journal does what it does without one. -/
theorem of_journaled (b : Backend σ) : SnapsAlike (fun s w => s.world = w) b.journaled b where
  capture := fun _ _ same => same ▸ ⟨rfl, rfl⟩
  load _ := fun _ _ same => same ▸ ⟨rfl, rfl⟩
  write _ _ := fun _ _ same => same ▸ ⟨rfl, rfl⟩
  stream _ _ := fun _ _ same => same ▸ ⟨rfl, rfl⟩
  compare _ _ := fun _ _ same => same ▸ ⟨rfl, rfl⟩
  tell _ := fun _ _ same => same ▸ ⟨rfl, rfl⟩

variable (h : SnapsAlike R b c) (p : SnapshotPolicy)
include h

theorem deliver (image : Image) (report : SnapshotReport) :
    Matches R (p.deliver b image report) (p.deliver c image report) := by
  unfold SnapshotPolicy.deliver
  split
  · exact .pure _
  · split
    · refine .bind (h.stream _ _) fun answer => ?_
      cases answer with
      | ok _ => exact .pure _
      | error e => exact .bind (h.tell _) fun _ => .pure _
    · refine .bind (h.write _ _) fun written => ?_
      cases written with
      | true => exact .bind (h.tell _) fun _ => .pure _
      | false => exact .pure _

theorem judge (image : Image) (reference? : Option Image) (report : SnapshotReport) :
    Matches R (p.judge b image reference? report) (p.judge c image reference? report) := by
  unfold SnapshotPolicy.judge
  split
  · exact .pure _
  · exact .bind (h.compare _ _) fun _ => .bind (h.tell _) fun _ => .pure _

theorem captureStep (reference? : Option Image) (report : SnapshotReport) :
    Matches R (p.capture b reference? report) (p.capture c reference? report) := by
  unfold SnapshotPolicy.capture
  refine .bind h.capture fun image? => ?_
  cases image? with
  | none => exact .pure _
  | some image => exact .bind (h.deliver p _ _) fun _ => h.judge p _ _ _

/-- A snapshot step ends with the same report. -/
theorem take (callNo : UInt32) : Matches R (p.take b callNo) (p.take c callNo) := by
  unfold SnapshotPolicy.take
  dsimp only
  split
  · exact .pure _
  · split
    · exact h.captureStep p _ _
    · refine .bind (h.load _) fun reference? => ?_
      cases reference? with
      | none => exact .pure _
      | some reference => exact .bind (h.tell _) fun _ => h.captureStep p _ _

/-- A snapshot step asks for the same, and gets the same answers. -/
theorem shoot_eq {s : σ} {t : τ} (related : R s t) (early : Bool) (callNo : UInt32) :
    p.shoot b early callNo s = p.shoot c early callNo t := by
  obtain ⟨same, _, effects⟩ := h.journaled.take p callNo ⟨s, []⟩ ⟨t, []⟩ ⟨related, rfl⟩
  unfold SnapshotPolicy.shoot
  rw [Shot.mk.injEq]
  exact ⟨same, rfl, effects⟩

end SnapsAlike

/-- The journal changes nothing in the world. -/
theorem world_take_journaled (b : Backend σ) (p : SnapshotPolicy) (callNo : UInt32) (w : σ) :
    (p.take b.journaled callNo ⟨w, []⟩).2.world = (p.take b callNo w).2 :=
  ((SnapsAlike.of_journaled b).take p callNo ⟨w, []⟩ w rfl).2

namespace CallAlike

variable {x y : Call} (h : CallAlike R b c x y) (p : Player)
include h

theorem selects : p.policy.selects x = p.policy.selects y :=
  Call.congr_of_withoutLeg h.same p.policy.selects_withoutLeg

theorem swaps : x.swapsTarget = y.swapsTarget := Call.congr_of_withoutLeg h.same fun _ => rfl

theorem no : x.no = y.no := Call.congr_of_withoutLeg h.same fun _ => rfl

theorem numberBefore : Player.numberBefore x = Player.numberBefore y :=
  Call.congr_of_withoutLeg h.same fun _ => rfl

theorem snapshot (callNo : UInt32) : Matches R (p.snapshot b callNo) (p.snapshot c callNo) :=
  .bind (h.toSnapsAlike.take p.policy callNo) fun _ => .pure _

theorem recordCpu : Matches R (p.recordCpu b) (p.recordCpu c) := by
  unfold Player.recordCpu
  split
  · exact .pure _
  · exact .bind h.cpuTime fun _ => .pure _

theorem before : Matches R (p.before b x) (p.before c y) := by
  unfold Player.before
  rw [h.selects, h.swaps, h.numberBefore]
  split
  · exact h.snapshot p _
  · exact .pure _

theorem after : Matches R (p.after b x) (p.after c y) := by
  unfold Player.after
  rw [h.selects, h.swaps, h.no]
  split
  · exact h.snapshot p _
  · exact .pure _

theorem conclude : Matches R (p.conclude b x) (p.conclude c y) := by
  have wants : p.wantsDump x = p.wantsDump y :=
    Call.congr_of_withoutLeg h.same fun _ => rfl
  unfold Player.conclude
  rw [wants]
  split
  · refine .bind h.dump fun dumped => ?_
    cases dumped <;> exact .pure _
  · exact .pure _

/-- The call is played with the same verdict, and leaves the player the same. -/
theorem play : Matches R (p.play b x) (p.play c y) := by
  have count : ∀ q : Player, q.count x = q.count y := fun q =>
    Call.congr_of_withoutLeg h.same fun _ => rfl
  unfold Player.play
  refine .bind (h.before p) fun p => ?_
  rw [h.no]
  refine .bind h.perform fun answer => ?_
  cases answer with
  | failed _ | crashed => exact .pure _
  | done =>
    refine .bind (h.recordCpu _) fun p => ?_
    rw [count]
    exact .bind (h.after _) fun p => .bind (h.conclude p) fun _ => .pure _

/-- The call has the same shot. -/
theorem shot?_eq {s : σ} {t : τ} (related : R s t) : p.shot? b x s = p.shot? c y t := by
  have snaps := h.toSnapsAlike
  obtain ⟨answer, performed⟩ := h.perform s t related
  unfold Player.shot?
  rw [h.selects, h.swaps, h.numberBefore, h.no, snaps.shoot_eq p.policy related]
  revert answer performed
  generalize b.perform x s = left
  generalize c.perform y t = right
  obtain ⟨first, u⟩ := left
  obtain ⟨second, v⟩ := right
  rintro rfl performed
  cases first with
  | failed _ | crashed => rfl
  | done => simp only [snaps.shoot_eq p.policy (h.recordCpu p u v performed).2]

end CallAlike

namespace PlaysAlike

variable (h : PlaysAlike R b c) {x y : Call} (same : x.withoutLeg = y.withoutLeg) (p : Player)
include h same

theorem call : CallAlike R b c x y :=
  ⟨h.toSnapsAlike, same, h.perform x y same, h.cpuTime, h.dump⟩

/-- A call is played with the same verdict, whatever its leg, and leaves the player the same. -/
theorem play : Matches R (p.play b x) (p.play c y) := (h.call same).play p

/-- A call has the same shot, whatever its leg. -/
theorem shot?_eq {s : σ} {t : τ} (related : R s t) : p.shot? b x s = p.shot? c y t :=
  (h.call same).shot?_eq p related

end PlaysAlike

end Backend

end TraceReplay
