import TraceReplay.Proofs.Replay.Tallies

/-!
# A race as if nothing was dumped

A dumper has a state of its own, so what it does is not seen by the executor and the snapshot service
(`Backend.withDumps`). To play a call is to play it without a dumper, and to dump then
(`Player.play_eq_mute`); with no threshold there is nothing but the first (`Player.play_undumping`). So the
effects of a race, dumps apart, are the first effects of the race that has no threshold (`run_undumping`).
-/

namespace TraceReplay

variable {σ : Type}

/-- It is asked for to dump the state. -/
def Effect.ofDump : Effect → Bool
  | dumped _ | flushedDump _ => true
  | _ => false

/-- What the executor and the snapshot service were asked for. -/
def undumped (effects : List Effect) : List Effect := effects.filter fun e => !e.ofDump

@[simp] theorem undumped_append (effects effects' : List Effect) :
    undumped (effects ++ effects') = undumped effects ++ undumped effects' := List.filter_append ..

theorem undumped_dumpEffects (dump? : Option DumpAttempt) :
    undumped (dump?.toList.flatMap DumpAttempt.effects) = [] := by
  rcases dump? with _ | (_ | passedOn) <;> rfl

/-- Dumps perform no calls. -/
theorem retraced_undumped (effects : List Effect) : retraced (undumped effects) = retraced effects := by
  induction effects with
  | nil => rfl
  | cons e effects ih =>
    have split : e :: effects = [e] ++ effects := rfl
    rw [split, undumped_append, retraced_append, retraced_append, ih]
    cases e <;> rfl

/-- What is done to the world is done beside the dumper, too. -/
def besides {α : Type} (x : StateM σ α) : StateM (σ × Nat) α := fun (w, n) =>
  let (a, w) := x w
  (a, (w, n))

namespace Backend

/-- The backend without a dumper. -/
def mute (b : Backend σ) : Backend σ := { b with dump? := none, flushDump := pure (.ok ()) }

/-- The backend with a dumper that counts its attempts: which of them work, and how the dumps are passed on,
is given. -/
def withDumps (b : Backend σ) (works? : Option (Nat → Bool)) (passOn : Nat → Except StorageFault Unit) :
    Backend (σ × Nat) where
  perform c := besides (b.perform c)
  cpuTime := besides b.cpuTime
  flush := besides b.flush
  flushCrashed s := b.flushCrashed s.1
  summary? s := b.summary? s.1
  capture := besides b.capture
  load path := besides (b.load path)
  write image path := besides (b.write image path)
  stream image comment := besides (b.stream image comment)
  compare image reference := besides (b.compare image reference)
  dump? := works?.map fun works => fun (w, n) => (works n, (w, n + 1))
  flushDump := fun (w, n) => (passOn n, (w, n))
  tell message := besides (b.tell message)

/-- To carry a relation through races it is enough to carry it through what is done beside the dumper, noted
or not. -/
theorem mirrors_withDumps (b : Backend σ) (works? : Option (Nat → Bool))
    (passOn : Nat → Except StorageFault Unit) {R : Journaled (σ × Nat) → Journaled (σ × Nat) → Prop}
    (world : ∀ s t, R s t → s.world.1 = t.world.1)
    (note : ∀ {α : Type} (x : StateM σ α) (effect : α → Effect), (∀ a, (effect a).ofDump = false) →
      Matches R (Journaled.note (besides x) effect) (Journaled.note (besides x) effect))
    (pass : ∀ {α : Type} (x : StateM σ α),
      Matches R (Journaled.pass (besides x)) (Journaled.pass (besides x))) :
    Mirrors R (b.withDumps works? passOn).journaled.mute (b.withDumps works? passOn).journaled.mute where
  perform _ := note _ _ fun _ => rfl
  cpuTime := pass _
  flush := note _ _ fun _ => rfl
  flushCrashed _ _ related := congrArg b.flushCrashed (world _ _ related)
  summary _ _ related := congrArg b.summary? (world _ _ related)
  capture := note _ _ fun _ => rfl
  load _ := note _ _ fun _ => rfl
  write _ _ := note _ _ fun _ => rfl
  stream _ _ := note _ _ fun _ => rfl
  compare _ _ := note _ _ fun _ => rfl
  dump := .none
  flushDump := .pure _
  tell _ := pass _

end Backend

namespace Player

variable (p : Player) (b : Backend σ) (c : Call)

/-- The player that dumps nothing. -/
def undumping : Player := { p with dumpAt? := none }

theorem conclude_mute : p.conclude b.mute c = pure .proceed := by
  unfold conclude
  split <;> rfl

theorem conclude_undumping : p.undumping.conclude b c = pure .proceed := rfl

/-- To play a call is to play it without a dumper, and to dump the state then if that is wanted. -/
theorem play_eq_mute (w : σ) :
    p.play b c w = match p.play b.mute c w with
      | ((.proceed, q), v) => (((q.conclude b c v).1, q), (q.conclude b c v).2)
      | other => other := by
  have early : p.before b.mute c = p.before b c := rfl
  have effect : b.mute.perform c = b.perform c := rfl
  simp only [play, bind_apply, early, effect]
  rcases b.perform c (p.before b c w).2 with ⟨_ | fault | _, v⟩
  · simp only [conclude_mute]
    rfl
  · rfl
  · rfl

/-- A player that dumps nothing does what it does otherwise. -/
def AsUndumping (x : Player → StateM σ Player) : Prop :=
  ∀ q w, x q.undumping w = ((x q w).1.undumping, (x q w).2)

theorem asUndumping_before : AsUndumping fun q => q.before b c := by
  intro q w
  show (if q.policy.selects c && c.swapsTarget then q.undumping.snapshot b (numberBefore c)
    else pure q.undumping) w = (((q.before b c) w).1.undumping, ((q.before b c) w).2)
  unfold before
  split <;> rfl

theorem asUndumping_after : AsUndumping fun q => q.after b c := by
  intro q w
  show (if q.policy.selects c && !c.swapsTarget then q.undumping.snapshot b c.no else pure q.undumping) w =
    (((q.after b c) w).1.undumping, ((q.after b c) w).2)
  unfold after
  split <;> rfl

theorem asUndumping_recordCpu : AsUndumping fun q => q.recordCpu b := by
  intro q w
  have same : q.undumping.counters = q.counters := rfl
  dsimp only
  unfold recordCpu
  rw [same]
  cases q.counters.cpuTimes? <;> rfl

/-- With no threshold a call is played as without a dumper. -/
theorem play_undumping (w : σ) :
    p.undumping.play b c w =
      (((p.play b.mute c w).1.1, (p.play b.mute c w).1.2.undumping), (p.play b.mute c w).2) := by
  have early : p.before b.mute c = p.before b c := rfl
  have effect : b.mute.perform c = b.perform c := rfl
  have before := asUndumping_before b c p w
  dsimp only at before
  simp only [play, bind_apply, before, early, effect]
  generalize p.before b c w = first
  obtain ⟨q, v⟩ := first
  rcases b.perform c v with ⟨_ | fault | _, u⟩
  · have recorded := asUndumping_recordCpu b { q with counters := q.counters.reach c.no } u
    have recordMute : ∀ r : Player, r.recordCpu b.mute = r.recordCpu b := fun _ => rfl
    have reach : { q.undumping with counters := q.undumping.counters.reach c.no } =
      undumping { q with counters := q.counters.reach c.no } := rfl
    have count : ∀ r : Player, r.undumping.count c = (r.count c).undumping := fun _ => rfl
    have afterMute : ∀ r : Player, r.after b.mute c = r.after b c := fun _ => rfl
    dsimp only at recorded
    simp only [conclude_mute, bind_apply, recordMute, afterMute, reach, recorded, count]
    generalize recordCpu { q with counters := q.counters.reach c.no } b u = third
    obtain ⟨r, x⟩ := third
    have after := asUndumping_after b c (r.count c) x
    dsimp only at after ⊢
    rw [after, conclude_undumping]
    rfl
  · rfl
  · rfl

end Player

/-- Two races do the same besides dumping, of which only the first has done any. -/
structure Apart (s t : Journaled (σ × Nat)) : Prop where
  world : s.world.1 = t.world.1
  effects : undumped s.effects = t.effects

namespace Apart

variable (b : Backend σ) (works? : Option (Nat → Bool)) (passOn : Nat → Except StorageFault Unit)

theorem note {α : Type} (x : StateM σ α) {effect : α → Effect} (other : ∀ a, (effect a).ofDump = false) :
    Matches Apart (Journaled.note (besides x) effect) (Journaled.note (besides x) effect) := by
  rintro ⟨⟨w, m⟩, es⟩ ⟨⟨v, n⟩, fs⟩ ⟨world, effects⟩
  obtain rfl : w = v := world
  obtain rfl : undumped es = fs := effects
  refine ⟨rfl, rfl, ?_⟩
  have kept : undumped [effect (x w).1] = [effect (x w).1] := by simp [undumped, other]
  exact (undumped_append ..).trans (congrArg (undumped es ++ ·) kept)

theorem pass {α : Type} (x : StateM σ α) :
    Matches Apart (Journaled.pass (besides x)) (Journaled.pass (besides x)) := by
  rintro ⟨⟨w, m⟩, es⟩ ⟨⟨v, n⟩, fs⟩ ⟨world, effects⟩
  obtain rfl : w = v := world
  exact ⟨rfl, rfl, effects⟩

/-- Without a dumper they stay apart by the same dumps. -/
theorem mirrors : Backend.Mirrors Apart (b.withDumps works? passOn).journaled.mute
    (b.withDumps works? passOn).journaled.mute :=
  b.mirrors_withDumps works? passOn (fun _ _ apart => apart.world) (fun x _ other => note x other) pass

variable {b works? passOn} {s t : Journaled (σ × Nat)}

/-- A dump that fails changes nothing in the world. -/
theorem world_tryDump (s : Journaled (σ × Nat)) :
    Ensures (Player.tryDump (b.withDumps works? passOn).journaled) s fun dumped k =>
      dumped = false → k.world.1 = s.world.1 := by
  unfold Player.tryDump
  cases works? with
  | none => exact .pure fun _ => rfl
  | some works =>
    refine .bind (P := fun _ (k : Journaled (σ × Nat)) => k.world.1 = s.world.1) rfl ?_
    rintro (_ | _) k world
    · exact .pure fun _ => world
    · refine .bind (P := fun _ _ => True) trivial ?_
      rintro (e | _) l -
      · exact .bind (P := fun _ _ => True) trivial fun _ _ _ => .pure nofun
      · exact .pure nofun

/-- A dump that fails leaves them apart, and the one that works is the last. -/
theorem conclude (p : Player) (c : Call) (apart : Apart s t) :
    Ensures (p.conclude (b.withDumps works? passOn).journaled c) s fun verdict k =>
      undumped k.effects = t.effects ∧ (verdict = .proceed ∧ k.world.1 = t.world.1 ∨ verdict = .stop) := by
  obtain ⟨dump?, -, -, effects⟩ := p.conclude_journaled (b := b.withDumps works? passOn) c s
  refine ⟨?_, ?_⟩
  · rw [effects, undumped_append, undumped_dumpEffects, List.append_nil, apart.effects]
  · have goesOn : Ensures (p.conclude (b.withDumps works? passOn).journaled c) s fun verdict k =>
        verdict = .proceed ∧ k.world.1 = t.world.1 ∨ verdict = .stop := by
      unfold Player.conclude
      split
      · refine .bind (world_tryDump s) ?_
        rintro (_ | _) k world
        · exact .pure (.inl ⟨rfl, (world rfl).trans apart.world⟩)
        · exact .pure (.inr rfl)
      · exact .pure (.inl ⟨rfl, apart.world⟩)
    exact goesOn

/-- A race adds to its journal. -/
theorem prefix_follow (fault? : Option TraceError) (calls : List Call) (previous? : Option Leg)
    (legs : List Leg) (p : Player) :
    t.effects <+:
      (Reference.follow (b.withDumps works? passOn).journaled fault? calls previous? legs p t).2.effects := by
  obtain ⟨more, effects, -⟩ := Reference.follow_counted (b := b.withDumps works? passOn) fault? calls
    previous? legs p t
  exact ⟨more, effects.symm⟩

/-- The effects of a race, dumps apart, are the first effects of the race without a threshold. -/
theorem follow (fault? : Option TraceError) (calls : List Call) (previous? : Option Leg) (legs : List Leg)
    (p : Player) (apart : Apart s t) :
    undumped
        (Reference.follow (b.withDumps works? passOn).journaled fault? calls previous? legs p s).2.effects <+:
      (Reference.follow (b.withDumps works? passOn).journaled fault? calls previous? legs p.undumping
        t).2.effects := by
  induction calls generalizing previous? legs p s t with
  | nil => cases fault? <;> exact apart.effects ▸ List.prefix_refl _
  | cons c cs ih =>
    have mute := mirrors b works? passOn
    obtain ⟨same, changed⟩ := mute.change previous? c.leg s t apart
    have unmuted : Reference.change (b.withDumps works? passOn).journaled.mute previous? c.leg =
      Reference.change (b.withDumps works? passOn).journaled previous? c.leg := rfl
    rw [unmuted] at same changed
    rw [Reference.follow, Reference.follow, bind_apply, bind_apply]
    generalize Reference.change (b.withDumps works? passOn).journaled previous? c.leg s = first at *
    generalize Reference.change (b.withDumps works? passOn).journaled previous? c.leg t = second at *
    obtain ⟨answer, s'⟩ := first
    obtain ⟨_, t'⟩ := second
    obtain rfl : answer = _ := same
    cases answer with
    | failed fault | crashed => exact changed.effects ▸ List.prefix_refl _
    | done =>
      dsimp only
      -- Both play the call as without a dumper; what the first one does then is seen in `conclude`.
      rw [bind_apply, bind_apply, Player.play_eq_mute, Player.play_undumping]
      obtain ⟨same, played⟩ := (mute.call c).play p s' t' changed
      generalize p.play (b.withDumps works? passOn).journaled.mute c s' = first at *
      generalize p.play (b.withDumps works? passOn).journaled.mute c t' = second at *
      obtain ⟨⟨verdict, q⟩, s''⟩ := first
      obtain ⟨_, t''⟩ := second
      obtain rfl : (verdict, q) = _ := same
      cases verdict with
      | stop | failed fault | crashed => exact played.effects ▸ List.prefix_refl _
      | proceed =>
        dsimp only
        obtain ⟨effects, ⟨proceeds, world⟩ | stops⟩ := conclude q c played
        · rw [proceeds]
          exact ih (some c.leg) (insertLeg c.leg legs) q ⟨world, effects⟩
        · rw [stops]
          exact effects ▸ prefix_follow fault? cs (some c.leg) (insertLeg c.leg legs) q.undumping

end Apart

/-- So is a whole race, in which nothing was dumped yet. -/
theorem run_undumping (b : Backend σ) (works? : Option (Nat → Bool)) (passOn : Nat → Except StorageFault Unit)
    (source : Source) (p : Player) (w : σ) :
    undumped (Reference.run (b.withDumps works? passOn).journaled source p ⟨(w, 0), []⟩).2.effects <+:
      (Reference.run (b.withDumps works? passOn).journaled source p.undumping ⟨(w, 0), []⟩).2.effects :=
  Apart.follow source.fault? source.calls none [homeLeg] p.beginRace ⟨rfl, rfl⟩

end TraceReplay
