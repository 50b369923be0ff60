import TraceReplay.Race.Field
import TraceReplay.Race.Reference
import TraceReplay.Replay.Shots

/-!
# The shots of a race

Calls are played by one move each, so the shots of a schedule are those of its moves, in the order in
which they were made. One thread that replays the calls has shots of its own (`Reference.shots`).
-/

namespace TraceReplay

variable {σ : Type}

namespace Field

/-- The shot that is made by a move, if the move plays a call that gets one. -/
def shot? (backend : Leg → Backend σ) (f : Field σ) : Move → Option Shot
  | .play leg =>
    match f.runner? leg with
    | some { activity := .running baton, .. } =>
      baton.state.player.shot? (backend leg) baton.call f.world
    | _ => none
  | _ => none

/-- The shots of a schedule, up to the first move that cannot be made. -/
def shots (backend : Leg → Backend σ) : Field σ → List Move → List Shot
  | _, [] => []
  | f, move :: moves =>
    match f.perform backend move with
    | none => []
    | some g => (f.shot? backend move).toList ++ g.shots backend moves

end Field

namespace Reference

/-- The shots from here on, as `follow` replays the calls. -/
def followShots (b : Backend σ) :
    (calls : List Call) → (previous? : Option Leg) → Player → σ → List Shot
  | [], _, _, _ => []
  | c :: cs, previous?, player, w =>
    match change b previous? c.leg w with
    | (.done, v) =>
      (player.shot? b c v).toList ++
        match player.play b c v with
        | ((.proceed, player), u) => followShots b cs (some c.leg) player u
        | _ => []
    | _ => []

/-- The shots of a source that one thread replays from its start. -/
def shots (b : Backend σ) (source : Source) (player : Player) (w : σ) : List Shot :=
  followShots b source.calls none player.beginRace w

end Reference

end TraceReplay
