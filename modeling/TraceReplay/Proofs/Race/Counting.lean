import Mathlib.Data.Finset.Card
import TraceReplay.Proofs.Replay.Blocks
import TraceReplay.Race.Reference

/-!
# What a race counts

The counters of a race, and its legs, come from the calls that the backend performed in it, and those are
the calls of its source from the first one on (`Reference.run_counted`).
-/

namespace TraceReplay

variable {σ : Type} {b : Backend σ}

@[simp] theorem retraced_append (effects effects' : List Effect) :
    retraced (effects ++ effects') = retraced effects ++ retraced effects' := List.filterMap_append

/-- What is looked for in the journal of a block is found beside its snapshot steps, if it is nothing that
they ask for. -/
theorem Block.IsFor.filterMap_effects {α : Type} {f : Effect → Option α} {p : Player} {c : Call}
    {k : Block} (h : k.IsFor b p c) (besides : ∀ e, e.ofSnapshot = true → f e = none) :
    k.effects.filterMap f =
      (f (.performed k.call k.answer)).toList ++ (k.dump?.toList.flatMap DumpAttempt.effects).filterMap f := by
  have steps : ∀ shot? : Option Shot, (∀ s ∈ shot?, s ∈ k.shots) →
      (shot?.toList.flatMap Shot.effects).filterMap f = [] := by
    intro shot? mem
    rw [List.filterMap_eq_nil_iff]
    intro e asked
    obtain ⟨s, taken, asked⟩ := List.mem_flatMap.1 asked
    exact besides e ((h.taken s (mem s (Option.mem_toList.1 taken))).2 e asked)
  have early := steps k.early? fun s mem => by simp [shots, Option.mem_def.1 mem]
  have late := steps k.late? fun s mem => by simp [shots, Option.mem_def.1 mem]
  rw [effects, List.filterMap_append, early, List.filterMap_cons, List.filterMap_append, late]
  cases f (.performed k.call k.answer) <;> rfl

/-- The journal of a block has its call, if it was performed. -/
theorem Block.IsFor.retraced_effects {p : Player} {c : Call} {k : Block} (h : k.IsFor b p c) :
    TraceReplay.retraced k.effects = k.retraced := by
  have steps : ∀ e : Effect, e.ofSnapshot = true → e.retraced? = none := by
    intro e ofSnapshot
    cases e <;> first | rfl | cases ofSnapshot
  rw [TraceReplay.retraced, h.filterMap_effects steps, Block.retraced]
  rcases k.dump? with _ | (_ | passedOn) <;> cases k.answer <;> rfl

/-- A call that is followed by another, or that ends the race well, was performed. -/
theorem Block.done_of_verdict {k : Block} (well : k.verdict = .proceed ∨ k.verdict = .stop) :
    k.answer = .done := by
  unfold verdict at well
  cases answer : k.answer with
  | done => rfl
  | failed fault | crashed => simp [answer] at well

/-- A flush between two legs is noted, whatever comes of it. -/
theorem Backend.handOver_noted (b : Backend σ) (j : Journaled σ) :
    Ensures b.journaled.handOver j fun _ s => ∃ answer, s.effects = j.effects ++ [.flushed answer] := by
  refine .bind (P := fun answer (s : Journaled σ) =>
    s.effects = j.effects ++ [Effect.flushed answer]) rfl ?_
  intro answer s effects
  refine .bind (P := fun _ t => t = s) rfl ?_
  rintro _ t rfl
  have flushed : ∃ answer, t.effects = j.effects ++ [.flushed answer] := ⟨answer, effects⟩
  split
  · exact .pure flushed
  · split
    · exact .pure flushed
    · exact .pure flushed

/-- It performs no call. -/
theorem Backend.handOver_journaled (b : Backend σ) (j : Journaled σ) :
    Ensures b.journaled.handOver j fun _ s =>
      ∃ effects, s.effects = j.effects ++ effects ∧ retraced effects = [] := by
  refine (b.handOver_noted j).mono ?_
  rintro _ s ⟨answer, effects⟩
  exact ⟨[.flushed answer], effects, rfl⟩

namespace Reference

theorem change_journaled (previous? : Option Leg) (leg : Leg) (j : Journaled σ) :
    Ensures (change b.journaled previous? leg) j fun _ s =>
      ∃ effects, s.effects = j.effects ++ effects ∧ retraced effects = [] := by
  have nothing : ∃ effects, j.effects = j.effects ++ effects ∧ retraced effects = [] :=
    ⟨[], (List.append_nil _).symm, rfl⟩
  unfold change
  split
  · exact .pure nothing
  · split
    · exact .pure nothing
    · exact b.handOver_journaled j

theorem loss_ne_finished (leg : Leg) (result : RaceResult) : loss leg ≠ .finished result := by
  unfold loss
  split <;> exact RaceEnd.noConfusion

/-- The legs of these calls have runners too. -/
def admitAll (legs : List Leg) (cs : List Call) : List Leg :=
  cs.foldl (fun legs c => insertLeg c.leg legs) legs

/-- They are the legs that were there and those of the calls, each once. -/
theorem admitAll_facts {legs : List Leg} (cs : List Call) (sorted : legs.Pairwise (· < ·)) :
    (admitAll legs cs).Pairwise (· < ·) ∧
      ∀ l, l ∈ admitAll legs cs ↔ l ∈ legs ∨ ∃ c ∈ cs, c.leg = l := by
  induction cs generalizing legs with
  | nil => simpa [admitAll] using sorted
  | cons c cs ih =>
    have inserted : (insertLeg c.leg legs).Pairwise (· < ·) := pairwise_insertLeg sorted
    obtain ⟨sorted', mem⟩ := ih inserted
    refine ⟨sorted', fun l => ?_⟩
    rw [admitAll, List.foldl_cons, ← admitAll, mem, mem_insertLeg]
    simp only [List.mem_cons, exists_eq_or_imp, eq_comm (a := l)]
    tauto

theorem length_admitAll (cs : List Call) :
    (admitAll [homeLeg] cs).length = (insert homeLeg (cs.map Call.leg).toFinset).card := by
  obtain ⟨sorted, mem⟩ := admitAll_facts cs (List.pairwise_singleton (· < ·) homeLeg)
  have nodup : (admitAll [homeLeg] cs).Nodup := sorted.imp UInt32.ne_of_lt
  rw [← List.toFinset_card_of_nodup nodup]
  congr 1
  ext l
  simp [mem]

end Reference

/-- The result is that of a race that began with these legs, over the calls that were performed. They are the
calls of the source from the first one on. -/
structure RaceResult.Recounts (legs : List Leg) (calls : List Call) (effects : List Effect)
    (result : RaceResult) : Prop where
  order : retraced effects <+: calls
  legs : result.legs = Reference.admitAll legs (retraced effects)
  /-- Only a dump ends a race before its last call. -/
  whole : result.outcome = .completed → retraced effects = calls

namespace Reference

/-- What a race makes of the player that it began with, if it ends well. -/
structure Counted (p : Player) (legs : List Leg) (calls : List Call) (effects : List Effect)
    (result : RaceResult) : Prop extends result.Recounts legs calls effects where
  aims : p.SameAims result.player
  grows : p.counters.Grows result.player.counters (retraced effects)

/-- A race that is over at once. -/
theorem Counted.nil {p : Player} {legs : List Leg} {calls : List Call} {outcome : RaceOutcome}
    (whole : outcome = .completed → calls = []) (stopped : Nat) :
    Counted p legs calls [] ⟨outcome, p, legs, stopped⟩ :=
  ⟨⟨List.nil_prefix, rfl, fun completed => (whole completed).symm⟩, ⟨rfl, rfl⟩, .nil rfl⟩

/-- One call in front. -/
theorem Counted.cons {p q : Player} {c : Call} {cs : List Call} {legs : List Leg}
    {effects more : List Effect} {result : RaceResult}
    (h : Counted q (insertLeg c.leg legs) cs more result) (aims : p.SameAims q)
    (grows : p.counters.Grows q.counters [c]) (performed : retraced effects = [c]) :
    Counted p legs (c :: cs) (effects ++ more) result := by
  have all : retraced (effects ++ more) = c :: retraced more := by
    rw [retraced_append, performed, List.singleton_append]
  refine ⟨⟨?_, ?_, fun completed => ?_⟩, aims.trans h.aims, ?_⟩
  · rw [all]
    exact (List.prefix_cons_inj c).2 h.order
  · rw [h.legs, all]
    rfl
  · rw [all, h.whole completed]
  · rw [all]
    exact grows.trans h.grows

/-- Whatever the calls do, what is counted is what the journal has. -/
theorem follow_counted (fault? : Option TraceError) (calls : List Call) (previous? : Option Leg)
    (legs : List Leg) (p : Player) (j : Journaled σ) :
    Ensures (follow b.journaled fault? calls previous? legs p) j fun raceEnd s =>
      ∃ effects, s.effects = j.effects ++ effects ∧
        ∀ result, raceEnd = .finished result → Counted p legs calls effects result := by
  induction calls generalizing previous? legs p j with
  | nil =>
    have nothing : j.effects = j.effects ++ [] := (List.append_nil _).symm
    cases fault? with
    | none =>
      refine .pure ⟨[], nothing, ?_⟩
      rintro _ ⟨⟩
      exact .nil (fun _ => rfl) _
    | some e => exact .pure ⟨[], nothing, fun _ => RaceEnd.noConfusion⟩
  | cons c cs ih =>
    refine .bind (change_journaled previous? c.leg j) ?_
    rintro answer s ⟨flushed, effects, none⟩
    cases answer with
    | failed fault => exact .pure ⟨flushed, effects, fun _ => RaceEnd.noConfusion⟩
    | crashed => exact .pure ⟨flushed, effects, fun _ lost => absurd lost (loss_ne_finished _ _)⟩
    | done =>
      refine .bind (p.play_journaled c s) ?_
      rintro ⟨_, q⟩ t ⟨k, played, rfl, effects'⟩
      have soFar : t.effects = j.effects ++ (flushed ++ k.effects) := by
        rw [effects', effects, List.append_assoc]
      have first : ∀ more result, k.answer = .done →
          Counted q (insertLeg c.leg legs) cs more result →
            Counted p legs (c :: cs) (flushed ++ k.effects ++ more) result := fun more result done counted => by
        refine counted.cons played.aims (c := c) ?_ ?_
        · simpa [Block.retraced, done, played.block.call] using played.grows
        · simp [none, played.block.retraced_effects, Block.retraced, done, played.block.call]
      cases ended : k.verdict with
      | proceed =>
        refine (ih (some c.leg) (insertLeg c.leg legs) q t).mono ?_
        rintro raceEnd u ⟨more, effects'', counted⟩
        refine ⟨flushed ++ k.effects ++ more, by rw [effects'', soFar, List.append_assoc], ?_⟩
        exact fun result finished => first more result (k.done_of_verdict (.inl ended)) (counted result finished)
      | stop =>
        refine .pure ⟨flushed ++ k.effects, soFar, ?_⟩
        rintro _ ⟨⟩
        rw [← List.append_nil (flushed ++ k.effects)]
        exact first [] _ (k.done_of_verdict (.inr ended)) (.nil (fun completed => by cases completed) _)
      | failed fault => exact .pure ⟨_, soFar, fun _ => RaceEnd.noConfusion⟩
      | crashed => exact .pure ⟨_, soFar, fun _ lost => absurd lost (loss_ne_finished _ _)⟩

theorem run_counted (source : Source) (p : Player) (j : Journaled σ) :
    Ensures (run b.journaled source p) j fun raceEnd s =>
      ∃ effects, s.effects = j.effects ++ effects ∧
        ∀ result, raceEnd = .finished result →
          Counted p.beginRace [homeLeg] source.calls effects result :=
  follow_counted source.fault? source.calls none [homeLeg] p.beginRace j

end Reference

end TraceReplay
