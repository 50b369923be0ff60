import TraceReplay.Race.Basic

/-!
# A race on one thread

The calls are replayed in the order of the source, each read only after the one before it let the
replay go on. Between two calls of different legs buffered work is flushed once. The race ends at
the first of: the end of the source, a dump, a fault, an error of the source. This is what a race
of many runners does, whatever the order in which they move.
-/

namespace TraceReplay.Reference

variable {σ : Type}

/-- Flush where the leg changes. -/
def change (b : Backend σ) (previous? : Option Leg) (leg : Leg) : StateM σ Performed :=
  match previous? with
  | none => pure .done
  | some previous => if previous = leg then pure .done else b.handOver

/-- What is seen of a race whose thread of this leg is lost. -/
def loss (leg : Leg) : RaceEnd := if leg = homeLeg then .crashed else .failed .abandoned

/-- The end of a race with so many legs. -/
def finish (outcome : RaceOutcome) (player : Player) (legs : List Leg) : RaceEnd :=
  .finished ⟨outcome, player, legs, legs.length - 1⟩

/-- Replay the calls from here on, the last one having been of leg `previous?`. -/
def follow (b : Backend σ) (fault? : Option TraceError) :
    (calls : List Call) → (previous? : Option Leg) → (legs : List Leg) → Player →
      StateM σ RaceEnd
  | [], _, legs, player =>
    match fault? with
    | none => pure (finish .completed player legs)
    | some e => pure (.failed (.trace e))
  | c :: cs, previous?, legs, player => do
    match ← change b previous? c.leg with
    | .failed fault => pure (.failed (.executor fault))
    | .crashed => pure (loss (previous?.getD homeLeg))
    | .done =>
      let (verdict, player) ← player.play b c
      let legs := insertLeg c.leg legs
      match verdict with
      | .proceed => follow b fault? cs (some c.leg) legs player
      | .stop => pure (finish (.stateDumped c.no) player legs)
      | .failed fault => pure (.failed (.executor fault))
      | .crashed => pure (loss c.leg)

/-- Replay a source from its start. -/
def run (b : Backend σ) (source : Source) (player : Player) : StateM σ RaceEnd :=
  follow b source.fault? source.calls none [homeLeg] player.beginRace

end TraceReplay.Reference
