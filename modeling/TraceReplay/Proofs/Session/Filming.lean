import TraceReplay.Proofs.Race.Shots
import TraceReplay.Proofs.Replay.Blocks
import TraceReplay.Proofs.Session.Snapshots

/-!
# A replay takes the pictures of its trace

A replay in a studio takes snapshots between other actions (`Reel`). To play a call is to take its
pictures and to perform it (`Player.play_ensures`), so one thread takes the pictures of all calls one
after the other, up to a dump (`follow_films`). A race does what one thread does: its shots are those of
the snapshot steps that were taken (`race_films`). What these steps do to the files does not depend on
what is between them (`Reel.filmed`).
-/

namespace TraceReplay

/-- What a replay does to a studio besides taking snapshots. Only some replays dump the state. -/
inductive Studio.Quiet (codec : ImageCodec) (dumps : Prop) : Studio → Studio → Prop
  | perform (call : Call) (s : Studio) : Quiet codec dumps s (s.perform call).2
  | flush (s : Studio) : Quiet codec dumps s { s with canvas := s.canvas.flush }
  | dump (wanted : dumps) (s : Studio) : Quiet codec dumps s (Player.tryDump (backend codec) s).2

/-- The pictures that were taken between other actions, and the shots made of them. -/
inductive Reel (codec : ImageCodec) (p : SnapshotPolicy) (dumps : Prop) :
    Studio → List Picture → List Shot → Studio → Prop
  | blank (s : Studio) : Reel codec p dumps s [] [] s
  | quiet {s t u : Studio} {pics : List Picture} {shots : List Shot} (h : Reel codec p dumps s pics shots t)
      (action : t.Quiet codec dumps u) : Reel codec p dumps s pics shots u
  | shoot {s t : Studio} {pics : List Picture} {shots : List Shot} (h : Reel codec p dumps s pics shots t)
      (early : Bool) (n : UInt32) :
      Reel codec p dumps s (pics ++ [⟨n, early, t.canvas.shown.capture⟩])
        (shots ++ [p.shoot (Studio.backend codec) early n t]) (p.take (Studio.backend codec) n t).2

theorem Reel.trans {codec : ImageCodec} {p : SnapshotPolicy} {dumps : Prop} {s t u : Studio}
    {pics pics' : List Picture} {shots shots' : List Shot} (h : Reel codec p dumps s pics shots t)
    (h' : Reel codec p dumps t pics' shots' u) :
    Reel codec p dumps s (pics ++ pics') (shots ++ shots') u := by
  induction h' with
  | blank => simpa using h
  | quiet _ action ih => exact .quiet ih action
  | shoot _ early n ih =>
    rw [← List.append_assoc, ← List.append_assoc]
    exact .shoot ih early n

namespace Player

variable (p : Player) (codec : ImageCodec) (c : Call) (s : Studio)

/-- A replay with this player may dump the state. -/
def MayDump : Prop := p.dumpAt? ≠ none

/-- A snapshot step, if one is wanted. -/
theorem snapshot_ensures (wanted early : Bool) (n : UInt32) :
    Ensures (if wanted then p.snapshot (Studio.backend codec) n else pure p) s fun q t =>
      SameAims p q ∧ t.canvas.shown = s.canvas.shown ∧ (wanted = false → t = s) ∧
        Reel codec p.policy p.MayDump s
          (if wanted then [⟨n, early, s.canvas.shown.capture⟩] else [])
          (if wanted then [p.policy.shoot (Studio.backend codec) early n s] else []) t := by
  cases wanted with
  | false => exact .pure ⟨⟨rfl, rfl⟩, rfl, fun _ => rfl, .blank s⟩
  | true =>
    obtain ⟨_, face⟩ := p.policy.makesShot_shoot codec n s early
    exact ⟨⟨rfl, rfl⟩, congrArg Studio.Face.canvas face, fun unwanted => Bool.noConfusion unwanted,
      .shoot (.blank s) early n⟩

/-- A dump leaves the face as it is. -/
theorem tryDump_ensures :
    Ensures (tryDump (Studio.backend codec)) s fun _ t => t.face = s.face := by
  refine .bind (P := fun _ (t : Studio) => t.face = s.face) s.face_dump ?_
  rintro (_ | _) t kept
  · exact .pure kept
  · refine .bind (P := fun _ (t : Studio) => t.face = s.face) kept ?_
    rintro (e | _) u kept
    · exact .bind (P := fun _ (t : Studio) => t.face = s.face) ((u.face_tell _).trans kept)
        fun _ _ => .pure
    · exact .pure kept

/-- Only a dump ends a replay after a call that was performed. -/
theorem conclude_ensures :
    Ensures (p.conclude (Studio.backend codec) c) s fun verdict t =>
      t.canvas.shown = s.canvas.shown ∧ (verdict = .proceed ∨ verdict = .stop ∧ p.MayDump) ∧
        Reel codec p.policy p.MayDump s [] [] t := by
  unfold conclude
  split
  · rename_i wants
    have dumps : p.MayDump := fun none => by simp [wantsDump, none] at wants
    have dumped : Ensures (tryDump (Studio.backend codec)) s fun _ t =>
        t.canvas.shown = s.canvas.shown ∧ Reel codec p.policy p.MayDump s [] [] t :=
      ⟨congrArg Studio.Face.canvas (tryDump_ensures codec s), .quiet (.blank s) (.dump dumps s)⟩
    refine .bind dumped ?_
    rintro (_ | _) t ⟨shown, reel⟩
    · exact .pure ⟨shown, .inl rfl, reel⟩
    · exact .pure ⟨shown, .inr ⟨rfl, dumps⟩, reel⟩
  · exact .pure ⟨rfl, .inl rfl, .blank s⟩

/-- Recording CPU times leaves a studio alone. -/
theorem recordCpu_ensures :
    Ensures (p.recordCpu (Studio.backend codec)) s fun q t => SameAims p q ∧ t = s := by
  unfold recordCpu
  split
  · exact .pure ⟨⟨rfl, rfl⟩, rfl⟩
  · exact .bind (P := fun _ t => t = s) rfl fun _ _ same => .pure ⟨⟨rfl, rfl⟩, same⟩

/-- A call that was performed is recorded and filmed, and then the state may be dumped. -/
theorem performed_ensures :
    Ensures (do
      let p ← p.recordCpu (Studio.backend codec)
      let p ← (p.count c).after (Studio.backend codec) c
      let verdict ← p.conclude (Studio.backend codec) c
      pure (verdict, p)) s fun (verdict, q) t =>
      SameAims p q ∧ t.canvas.shown = s.canvas.shown ∧
        (verdict = .proceed ∨ verdict = .stop ∧ p.MayDump) ∧
        Reel codec p.policy p.MayDump s
          (if p.policy.selects c && !c.swapsTarget then [⟨c.no, false, s.canvas.shown.capture⟩] else [])
          (if p.policy.selects c && !c.swapsTarget then
            [p.policy.shoot (Studio.backend codec) false c.no s] else []) t := by
  refine .bind (p.recordCpu_ensures codec s) ?_
  rintro q _ ⟨aims, rfl⟩
  refine .bind ((q.count c).snapshot_ensures codec _ _ false c.no) ?_
  rintro r t ⟨aims', shown, _, reel⟩
  refine .bind (r.conclude_ensures codec c t) ?_
  rintro verdict u ⟨shown', ends, reel'⟩
  have aims'' : SameAims p r := aims.trans aims'
  have policy : (q.count c).policy = p.policy := aims.1
  have dumps : (q.count c).MayDump = p.MayDump := congrArg (· ≠ none) aims.2
  have dumps' : r.MayDump = p.MayDump := congrArg (· ≠ none) aims''.2
  rw [policy, dumps] at reel
  rw [dumps'] at ends
  rw [aims''.1, dumps'] at reel'
  exact .pure ⟨aims'', shown'.trans shown, ends, by simpa using reel.trans reel'⟩

/-- What is left of a call, as a replay sees it. -/
structure Replayed (before : Studio) (codec : ImageCodec) (p : Player) (c : Call) (verdict : Verdict)
    (q : Player) (after : Studio) : Prop where
  aims : SameAims p q
  reel : Reel codec p.policy p.MayDump before (c.pictures p.policy.selects before.canvas.shown)
    (p.shot? (Studio.backend codec) c before).toList after
  outcome : match before.canvas.shown.apply c.payload with
    | .ok shown => after.canvas.shown = shown ∧ (verdict = .proceed ∨ verdict = .stop ∧ p.MayDump)
    | .error _ => ∃ fault, verdict = .failed fault

/-- The shots of a call that was performed. -/
theorem shot?_of_done {t : Studio} (done : (Studio.backend codec).perform c s = (.done, t)) :
    (p.shot? (Studio.backend codec) c s).toList =
      (if p.policy.selects c && c.swapsTarget then
        [p.policy.shoot (Studio.backend codec) true (numberBefore c) s] else []) ++
      (if p.policy.selects c && !c.swapsTarget then
        [p.policy.shoot (Studio.backend codec) false c.no t] else []) := by
  have same : (p.recordCpu (Studio.backend codec) t).2 = t := (p.recordCpu_ensures codec t).2
  rw [shot?, done]
  cases p.policy.selects c <;> cases c.swapsTarget <;> simp [same]

/-- The shots of a call that was not. -/
theorem shot?_of_failed {fault : Fault}
    (failed : (Studio.backend codec).perform c s = (.failed fault, s)) :
    (p.shot? (Studio.backend codec) c s).toList =
      (if p.policy.selects c && c.swapsTarget then
        [p.policy.shoot (Studio.backend codec) true (numberBefore c) s] else []) := by
  rw [shot?, failed]
  cases p.policy.selects c <;> cases c.swapsTarget <;> rfl

/-- To play a call is to take its pictures and to perform it. -/
theorem play_ensures :
    Ensures (p.play (Studio.backend codec) c) s fun (verdict, q) t =>
      Replayed s codec p c verdict q t := by
  unfold play
  refine .bind (p.snapshot_ensures codec s (p.policy.selects c && c.swapsTarget) true
    (numberBefore c)) ?_
  rintro q t ⟨aims, shown, untouched, reel⟩
  rcases Studio.perform_or c with ⟨command, done, applied⟩ | ⟨cause, failed, applied⟩
  · have performed : (Studio.backend codec).perform c t = (.done, _) := done t
    refine .bind (.of_eq performed) ?_
    rintro _ u ⟨rfl, rfl⟩
    refine (performed_ensures _ codec c _).mono ?_
    rintro ⟨verdict, r⟩ u ⟨aims', shown', ends, reel'⟩
    have aims'' : SameAims p r := aims.trans aims'
    have drawn : (t.canvas.submit command).shown = s.canvas.shown.submit command := by
      rw [Canvas.shown_submit, shown]
    have policy : q.policy = p.policy := aims.1
    have dumps : q.MayDump = p.MayDump := congrArg (· ≠ none) aims.2
    have acted := Reel.quiet reel (.perform c t)
    rw [done t] at acted
    have late : (if p.policy.selects c && !c.swapsTarget then
          [p.policy.shoot (Studio.backend codec) false c.no
            { t with canvas := t.canvas.submit command }] else []) =
        if p.policy.selects c && !c.swapsTarget then
          [p.policy.shoot (Studio.backend codec) false c.no
            { s with canvas := s.canvas.submit command }] else [] := by
      by_cases swaps : c.swapsTarget = true
      · simp [swaps]
      · rw [untouched (by simp [swaps])]
    refine ⟨aims'', ?_, ?_⟩
    · rw [shot?_of_done p codec c s (done s), Call.pictures, applied]
      change Reel codec q.policy q.MayDump _ _ _ u at reel'
      simp only [policy, dumps, drawn, late] at reel'
      exact acted.trans reel'
    · rw [applied]
      exact ⟨shown'.trans drawn, dumps ▸ ends⟩
  · have refused : (Studio.backend codec).perform c t = (.failed _, t) := failed t
    refine .bind (.of_eq refused) ?_
    rintro _ _ ⟨rfl, rfl⟩
    refine .pure ⟨aims, ?_, ?_⟩
    · rw [shot?_of_failed p codec c s (failed s), Call.pictures, applied]
      simp only [List.append_nil]
      exact reel
    · rw [applied]
      exact ⟨_, rfl⟩

end Player

variable {codec : ImageCodec}

/-- A flush between two legs works, and is not seen. -/
theorem change_studio (codec : ImageCodec) (p : Player) (previous? : Option Leg) (leg : Leg)
    (s : Studio) :
    ∃ t, Reference.change (Studio.backend codec) previous? leg s = (.done, t) ∧
      t.canvas.shown = s.canvas.shown ∧ Reel codec p.policy p.MayDump s [] [] t := by
  unfold Reference.change
  split
  · exact ⟨s, rfl, rfl, .blank s⟩
  · split
    · exact ⟨s, rfl, rfl, .blank s⟩
    · exact ⟨_, rfl, s.canvas.shown_flush, .quiet (.blank s) (.flush s)⟩

/-- Between two studios this player has taken the pictures of these calls one after the other, up to a dump,
and these are the shots of the snapshot steps that did so. -/
def Player.Films (codec : ImageCodec) (p : Player) (calls : List Call) (s : Studio) (shots : List Shot)
    (t : Studio) : Prop :=
  ∃ pics rest, pictures p.policy.selects s.canvas.shown calls = pics ++ rest ∧ (rest ≠ [] → p.MayDump) ∧
    Reel codec p.policy p.MayDump s pics shots t

/-- What a replay of these calls leaves of the studio, and of the player if it ends well. -/
structure Followed (codec : ImageCodec) (p : Player) (calls : List Call) (s : Studio) (shots : List Shot)
    (x : RaceEnd × Studio) : Prop where
  films : p.Films codec calls s shots x.2
  aims : ∀ result, x.1 = .finished result →
    p.SameAims result.player ∧ (result.outcome = .completed ∨ p.MayDump)

/-- One thread takes the pictures of the calls one after the other, up to a dump. -/
theorem follow_films (fault? : Option TraceError) (calls : List Call) (previous? : Option Leg)
    (legs : List Leg) (p : Player) (s : Studio) :
    Followed codec p calls s (Reference.followShots (Studio.backend codec) calls previous? p s)
      (Reference.follow (Studio.backend codec) fault? calls previous? legs p s) := by
  induction calls generalizing previous? legs p s with
  | nil =>
    have none : p.Films codec [] s [] s := ⟨[], [], rfl, fun more => absurd rfl more, .blank s⟩
    cases fault? with
    | none =>
      refine ⟨none, ?_⟩
      rintro _ ⟨⟩
      exact ⟨⟨rfl, rfl⟩, .inl rfl⟩
    | some e => exact ⟨none, fun _ => RaceEnd.noConfusion⟩
  | cons c cs ih =>
    obtain ⟨t, changed, shown, flushed⟩ := change_studio codec p previous? c.leg s
    have played := p.play_ensures codec c t
    rw [Reference.follow_cons_of_done changed, Reference.followShots_cons_of_done changed]
    unfold Ensures at played
    revert played
    generalize p.play (Studio.backend codec) c t = x
    obtain ⟨⟨verdict, q⟩, u⟩ := x
    rintro ⟨aims, reel, outcome⟩
    replace reel := flushed.trans reel
    rw [List.nil_append, List.nil_append, shown] at reel
    rw [shown] at outcome
    cases applied : s.canvas.shown.apply c.payload with
    | error cause =>
      have taken : pictures p.policy.selects s.canvas.shown (c :: cs) =
          c.pictures p.policy.selects s.canvas.shown ++ [] := by
        rw [pictures, applied]
      rw [applied] at outcome
      obtain ⟨fault, rfl⟩ := outcome
      exact ⟨⟨_, [], taken, fun more => absurd rfl more, by simpa using reel⟩, fun _ => RaceEnd.noConfusion⟩
    | ok e =>
      have taken : pictures p.policy.selects s.canvas.shown (c :: cs) =
          c.pictures p.policy.selects s.canvas.shown ++ pictures p.policy.selects e cs := by
        rw [pictures, applied]
      rw [applied] at outcome
      obtain ⟨rfl, rfl | ⟨rfl, dumps⟩⟩ := outcome
      · obtain ⟨⟨pics, rest, split, left, tail⟩, ends⟩ := ih (some c.leg) (insertLeg c.leg legs) q u
        have same : q.MayDump = p.MayDump := congrArg (· ≠ none) aims.2
        rw [aims.1, same] at tail
        rw [aims.1] at split
        rw [same] at left ends
        refine ⟨⟨_, rest, ?_, left, reel.trans tail⟩, ?_⟩
        · rw [taken, split, List.append_assoc]
        · intro result ended
          obtain ⟨aims', completed⟩ := ends result ended
          exact ⟨aims.trans aims', completed⟩
      · refine ⟨⟨_, _, taken, fun _ => dumps, by simpa using reel⟩, ?_⟩
        rintro _ ⟨⟩
        exact ⟨aims, .inr dumps⟩

theorem run_films (codec : ImageCodec) (source : Source) (p : Player) (s : Studio) :
    Followed codec p source.calls s (Reference.shots (Studio.backend codec) source p s)
      (Reference.run (Studio.backend codec) source p s) := by
  obtain ⟨films, aims⟩ := follow_films source.fault? source.calls none [homeLeg] p.beginRace s
  exact ⟨films, aims⟩

/-- So does every schedule of a race that comes to a result, and its shots are those of its snapshot steps. -/
theorem race_films {source : Source} {player : Player} {s : Studio} {moves : List Move}
    {f : Field Studio} {result : RaceEnd}
    (made : (Field.launch source player s).performAll (fun _ => Studio.backend codec) moves = some f)
    (ended : f.end? = some result) :
    player.Films codec source.calls s
      ((Field.launch source player s).shots (fun _ => Studio.backend codec) moves) f.world := by
  have films := (run_films codec source player s).films
  rw [Field.reference_eq_of_end made ended] at films
  rwa [Field.shots_eq_reference made ended]

/-- The steps one after the other, from the files at the start to those at the end. -/
inductive Filmed (codec : ImageCodec) (p : SnapshotPolicy) :
    Files → List Picture → List Shot → Files → Prop
  | nil (files : Files) : Filmed codec p files [] [] files
  | cons {before between after : Files} {picture : Picture} {shot : Shot} {pictures : List Picture}
      {shots : List Shot} (takes : p.MakesShot codec before picture shot between)
      (rest : Filmed codec p between pictures shots after) :
      Filmed codec p before (picture :: pictures) (shot :: shots) after

theorem Filmed.append {p : SnapshotPolicy} {before between after : Files} {pics pics' : List Picture}
    {shots shots' : List Shot} (h : Filmed codec p before pics shots between)
    (h' : Filmed codec p between pics' shots' after) :
    Filmed codec p before (pics ++ pics') (shots ++ shots') after := by
  induction h with
  | nil => exact h'
  | cons takes _ ih => exact .cons takes (ih h')

/-- Between snapshot steps no file is written. -/
theorem Studio.Quiet.files_eq {dumps : Prop} {s t : Studio} (h : s.Quiet codec dumps t) :
    t.files = s.files := by
  cases h with
  | perform call =>
    rcases Studio.perform_or call with ⟨_, done, _⟩ | ⟨_, failed, _⟩
    · rw [done s]
    · rw [failed s]
  | flush => rfl
  | dump => exact congrArg Studio.Face.files (Player.tryDump_ensures codec s)

theorem Reel.filmed {p : SnapshotPolicy} {dumps : Prop} {s t : Studio} {pics : List Picture}
    {shots : List Shot} (h : Reel codec p dumps s pics shots t) :
    Filmed codec p s.files pics shots t.files := by
  induction h with
  | blank => exact .nil s.files
  | quiet _ action ih =>
    rw [action.files_eq]
    exact ih
  | shoot _ early n ih => exact ih.append (.cons (p.makesShot_shoot codec n _ early).1 (.nil _))

end TraceReplay
