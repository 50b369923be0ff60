import TraceReplay.Proofs.Replay.Tallies

/-!
# A race in stages

A race in which nothing fails goes from call to call, in a stage each: a flush if the leg changes, and the
block of the call. It goes on until a dump works or the calls are used up (`Staged`).
-/

namespace TraceReplay

variable {σ : Type}

/-- What a race does for one call. -/
structure Stage where
  flush? : Option (Except Fault Unit) := none
  block : Block

namespace Stage

def effects (s : Stage) : List Effect := (s.flush?.map Effect.flushed).toList ++ s.block.effects

/-- The state was dumped after the call. -/
def dumps (s : Stage) : Bool := s.block.dump?.any DumpAttempt.works

/-- The stage is what a race makes of a call, the one before being of leg `previous?`. -/
structure IsFor (b : Backend σ) (p : Player) (previous? : Option Leg) (c : Call) (s : Stage) : Prop where
  flush : s.flush?.isSome ↔ ∃ previous, previous? = some previous ∧ previous ≠ c.leg
  block : s.block.IsFor b p c
  done : s.block.answer = .done

variable {b : Backend σ} {p q : Player} {previous? : Option Leg} {c : Call} {s : Stage}

theorem IsFor.congr (aims : p.SameAims q) (h : s.IsFor b q previous? c) : s.IsFor b p previous? c :=
  ⟨h.flush, h.block.congr aims, h.done⟩

theorem IsFor.retraced_effects (h : s.IsFor b p previous? c) : retraced s.effects = [c] := by
  have flush : retraced (s.flush?.map Effect.flushed).toList = [] := by cases s.flush? <;> rfl
  rw [effects, retraced_append, flush, h.block.retraced_effects, Block.retraced, if_pos h.done, h.block.call]
  rfl

end Stage

/-- The stages of a race over these calls, and how it ends. -/
inductive Staged (b : Backend σ) (p : Player) :
    Option Leg → List Call → List Stage → RaceOutcome → Prop
  | completes (previous? : Option Leg) : Staged b p previous? [] [] .completed
  | goesOn {previous? : Option Leg} {c : Call} {cs : List Call} {s : Stage} {stages : List Stage}
    {outcome : RaceOutcome} (is : s.IsFor b p previous? c) (undumped : s.dumps = false)
    (rest : Staged b p (some c.leg) cs stages outcome) :
    Staged b p previous? (c :: cs) (s :: stages) outcome
  /-- The later calls have no stages. -/
  | stops {previous? : Option Leg} {c : Call} (cs : List Call) {s : Stage} (is : s.IsFor b p previous? c)
    (dumped : s.dumps = true) : Staged b p previous? (c :: cs) [s] (.stateDumped c.no)

variable {b : Backend σ} {p q : Player} {previous? : Option Leg} {calls : List Call} {stages : List Stage}
  {outcome : RaceOutcome}

/-- Stages do not depend on what else the player knows. -/
theorem Staged.congr (aims : p.SameAims q) (h : Staged b q previous? calls stages outcome) :
    Staged b p previous? calls stages outcome := by
  induction h with
  | completes previous? => exact .completes previous?
  | goesOn is undumped _ ih => exact .goesOn (is.congr aims) undumped ih
  | stops cs is dumped => exact .stops cs (is.congr aims) dumped

/-- Nothing fails in a backend of which every call is performed and every flush works. -/
structure Backend.NeverFails (b : Backend σ) : Prop where
  perform : ∀ c w, (b.perform c w).1 = .done
  handOver : ∀ w, (b.handOver w).1 = .done

namespace Backend.NeverFails

variable (h : b.NeverFails)
include h

theorem handOver_noted (j : Journaled σ) :
    Ensures b.journaled.handOver j fun answer k =>
      answer = .done ∧ ∃ flush, k.effects = j.effects ++ [.flushed flush] :=
  ⟨((Mirrors.refl b).journaled_left.handOver j j.world rfl).1.trans (h.handOver j.world),
    b.handOver_noted j⟩

/-- Then the race goes on where the leg changes. -/
theorem change (previous? : Option Leg) (leg : Leg) (j : Journaled σ) :
    Ensures (Reference.change b.journaled previous? leg) j fun answer k =>
      answer = .done ∧ ∃ flush? : Option (Except Fault Unit),
        (flush?.isSome ↔ ∃ previous, previous? = some previous ∧ previous ≠ leg) ∧
          k.effects = j.effects ++ (flush?.map Effect.flushed).toList := by
  have nothing : j.effects = j.effects ++ [] := (List.append_nil _).symm
  unfold Reference.change
  cases previous? with
  | none => exact .pure ⟨rfl, none, by simp, nothing⟩
  | some previous =>
    dsimp only
    by_cases same : previous = leg
    · rw [if_pos same]
      exact .pure ⟨rfl, none, by simp [same], nothing⟩
    · rw [if_neg same]
      refine (h.handOver_noted j).mono ?_
      rintro answer k ⟨done, flush, effects⟩
      exact ⟨done, some flush, by simp [same], effects⟩

/-- Every call is performed, and followed by another or by a dump. -/
theorem play (p : Player) (c : Call) (j : Journaled σ) :
    Ensures (p.play b.journaled c) j fun (verdict, q) k =>
      ∃ block, p.Played b c block q ∧ block.answer = .done ∧ verdict = block.verdict ∧
        k.effects = j.effects ++ block.effects := by
  have goesOn : Ensures (p.play b c) j.world fun a _ => a.1 = .proceed ∨ a.1 = .stop := by
    unfold Player.play
    refine .bind (P := fun _ _ => True) trivial fun q v _ => ?_
    have performed : Ensures (b.perform c) v fun answer _ => answer = .done := h.perform c v
    refine .bind performed ?_
    rintro _ u rfl
    refine .bind (P := fun _ _ => True) trivial fun r x _ => ?_
    refine .bind (P := fun _ _ => True) trivial fun r y _ => ?_
    exact .bind (r.conclude_ne_failed c y) fun verdict _ goesOn => .pure goesOn
  obtain ⟨block, played, verdict, effects⟩ := p.play_journaled (b := b) c j
  have same := (((Mirrors.refl b).journaled_left.call c).play p j j.world rfl).1
  unfold Ensures at goesOn
  rw [← same, verdict] at goesOn
  exact ⟨block, played, block.done_of_verdict goesOn, verdict, effects⟩

/-- So a race goes through its stages. -/
theorem follow (p : Player) (calls : List Call) (previous? : Option Leg) (legs : List Leg)
    (j : Journaled σ) :
    Ensures (Reference.follow b.journaled none calls previous? legs p) j fun raceEnd k =>
      ∃ stages result, raceEnd = .finished result ∧ Staged b p previous? calls stages result.outcome ∧
        k.effects = j.effects ++ stages.flatMap Stage.effects := by
  induction calls generalizing p previous? legs j with
  | nil => exact .pure ⟨[], _, rfl, .completes previous?, (List.append_nil _).symm⟩
  | cons c cs ih =>
    refine .bind (h.change previous? c.leg j) ?_
    rintro _ k ⟨rfl, flush?, flush, effects⟩
    refine .bind (h.play p c k) ?_
    rintro ⟨_, q⟩ l ⟨block, played, done, rfl, effects'⟩
    let stage : Stage := ⟨flush?, block⟩
    have is : stage.IsFor b p previous? c := ⟨flush, played.block, done⟩
    have soFar : l.effects = j.effects ++ stage.effects := by
      rw [effects', effects, List.append_assoc]
      rfl
    have verdict : block.verdict = if stage.dumps then .stop else .proceed := by
      rw [Block.verdict, done]
      rfl
    rw [verdict]
    cases dumped : stage.dumps with
    | true =>
      refine .pure ⟨[stage], _, rfl, .stops cs is dumped, ?_⟩
      rw [soFar, List.flatMap_singleton]
    | false =>
      refine (ih q (some c.leg) (insertLeg c.leg legs) l).mono ?_
      rintro _ m ⟨stages, result, rfl, staged, effects''⟩
      refine ⟨stage :: stages, result, rfl, .goesOn is dumped (staged.congr played.aims), ?_⟩
      rw [effects'', soFar, List.flatMap_cons, List.append_assoc]

theorem run (p : Player) (calls : List Call) (w : σ) :
    Ensures (Reference.run b.journaled (.ofCalls calls) p) ⟨w, []⟩ fun raceEnd k =>
      ∃ stages result, raceEnd = .finished result ∧ Staged b p none calls stages result.outcome ∧
        k.effects = stages.flatMap Stage.effects := by
  refine (h.follow p.beginRace calls none [homeLeg] ⟨w, []⟩).mono ?_
  rintro _ k ⟨stages, result, rfl, staged, effects⟩
  have aims : p.SameAims p.beginRace := ⟨rfl, rfl⟩
  exact ⟨stages, result, rfl, staged.congr aims, effects⟩

end Backend.NeverFails

end TraceReplay
