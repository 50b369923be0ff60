import TraceReplay.Proofs.Race.Shots
import TraceReplay.Proofs.Replay.Matching

/-!
# Races over calls that differ in their legs only

The legs of the calls decide which runners there are and where buffered work is flushed. When the
actions of the backends match and no flush is seen (`Backend.PlaysAlike`), one thread makes the same
of such calls, wherever it flushes (`PlaysAlike.follow`). A race does what one thread does, so all
schedules of both races have the same shots and come to results that differ in legs and workers only
(`PlaysAlike.race`).
-/

namespace TraceReplay

variable {σ τ : Type}

/-- The end of a race without the legs that ran and the workers that were stopped. -/
def RaceEnd.withoutLegs : RaceEnd → RaceEnd
  | finished result => .finished { result with legs := [], workersStopped := 0 }
  | seen => seen

/-- The source as if the home leg had issued all its calls. -/
def Source.withoutLegs (s : Source) : Source := { s with calls := s.calls.map Call.withoutLeg }

namespace Backend.PlaysAlike

open Reference

variable {R : σ → τ → Prop} {b : Backend σ} {c : Backend τ} (h : PlaysAlike R b c) {s : σ} {t : τ}
include h

/-- No thread is lost with a call. -/
theorem play_ne_crashed (p : Player) (call : Call) (s : σ) : (p.play b call s).1.1 ≠ .crashed := by
  unfold Player.play
  rw [bind_apply, bind_apply]
  generalize (p.before b call s).1 = q
  generalize (p.before b call s).2 = u
  have survived := h.sound call u
  generalize (b.perform call u).1 = answer at survived ⊢
  cases answer with
  | crashed => exact absurd rfl survived
  | failed _ => exact fun crashed => Verdict.noConfusion crashed
  | done =>
    simp only [bind_apply]
    unfold Player.conclude
    split
    · rw [bind_apply]
      split <;> exact fun crashed => Verdict.noConfusion crashed
    · exact fun crashed => Verdict.noConfusion crashed

/-- Where the leg changes there is a flush on one side, which works and is not seen. -/
theorem change_left (related : R s t) (previous? : Option Leg) (leg : Leg) :
    ∃ u, change b previous? leg s = (.done, u) ∧ R u t := by
  unfold change
  split
  · exact ⟨s, rfl, related⟩
  · split
    · exact ⟨s, rfl, related⟩
    · obtain ⟨⟨done, kept⟩, _⟩ := h.handOver s t related
      exact ⟨_, Prod.ext done rfl, kept⟩

theorem change_right (related : R s t) (previous? : Option Leg) (leg : Leg) :
    ∃ u, change c previous? leg t = (.done, u) ∧ R s u := by
  unfold change
  split
  · exact ⟨t, rfl, related⟩
  · split
    · exact ⟨t, rfl, related⟩
    · obtain ⟨_, done, kept⟩ := h.handOver s t related
      exact ⟨_, Prod.ext done rfl, kept⟩

/-- Two replays by one thread each that cannot be told apart. -/
structure FollowAlike (R : σ → τ → Prop) (x : RaceEnd × σ) (y : RaceEnd × τ)
    (shots others : List Shot) : Prop where
  result : x.1.withoutLegs = y.1.withoutLegs
  survived : x.1 ≠ .crashed
  shots : shots = others
  world : R x.2 y.2

/-- One thread makes the same of calls that differ in their legs only. -/
theorem follow {calls others : List Call}
    (same : calls.map Call.withoutLeg = others.map Call.withoutLeg) (related : R s t)
    (fault? : Option TraceError) (x y : Option Leg) (legs legs' : List Leg) (p : Player) :
    FollowAlike R (Reference.follow b fault? calls x legs p s)
      (Reference.follow c fault? others y legs' p t) (followShots b calls x p s)
      (followShots c others y p t) := by
  induction calls generalizing others x y legs legs' p s t with
  | nil =>
    obtain rfl := List.map_eq_nil_iff.1 same.symm
    cases fault? with
    | none => exact ⟨rfl, RaceEnd.noConfusion, rfl, related⟩
    | some e => exact ⟨rfl, RaceEnd.noConfusion, rfl, related⟩
  | cons call calls ih =>
    cases others with
    | nil => cases same
    | cons other others =>
      obtain ⟨head, tail⟩ := List.cons.inj same
      obtain ⟨u, changed, related⟩ := h.change_left related x call.leg
      obtain ⟨v, changed', related⟩ := h.change_right related y other.leg
      obtain ⟨played, after⟩ := h.play head p u v related
      have survived := h.play_ne_crashed p call u
      rw [follow_cons_of_done changed, follow_cons_of_done changed',
        followShots_cons_of_done changed, followShots_cons_of_done changed', ← played,
        ← h.shot?_eq head p related]
      generalize (p.play b call u).1 = verdict at survived ⊢
      obtain ⟨verdict, q⟩ := verdict
      cases verdict with
      | crashed => exact absurd rfl survived
      | failed fault => exact ⟨rfl, RaceEnd.noConfusion, rfl, after⟩
      | stop =>
        have number : call.no = other.no := Call.congr_of_withoutLeg head fun _ => rfl
        refine ⟨?_, RaceEnd.noConfusion, rfl, after⟩
        simp only [finish, RaceEnd.withoutLegs, number]
      | proceed =>
        have rest := ih tail after (some call.leg) (some other.leg) (insertLeg call.leg legs)
          (insertLeg other.leg legs') q
        exact ⟨rest.result, rest.survived, congrArg _ rest.shots, rest.world⟩

/-- So do all schedules of both races. -/
theorem race {source other : Source} {player : Player} {moves moves' : List Move} {f : Field σ}
    {g : Field τ} {result result' : RaceEnd} (same : source.withoutLegs = other.withoutLegs)
    (related : R s t)
    (made : (Field.launch source player s).performAll (fun _ => b) moves = some f)
    (made' : (Field.launch other player t).performAll (fun _ => c) moves' = some g)
    (ended : f.end? = some result) (ended' : g.end? = some result') :
    FollowAlike R (result, f.world) (result', g.world)
      ((Field.launch source player s).shots (fun _ => b) moves)
      ((Field.launch other player t).shots (fun _ => c) moves') := by
  obtain ⟨calls, fault⟩ := Source.mk.inj same
  rw [← Field.reference_eq_of_end made ended, ← Field.reference_eq_of_end made' ended',
    Field.shots_eq_reference made ended, Field.shots_eq_reference made' ended', run, run, ← fault]
  exact h.follow calls related source.fault? none none [homeLeg] [homeLeg] player.beginRace

end Backend.PlaysAlike

end TraceReplay
