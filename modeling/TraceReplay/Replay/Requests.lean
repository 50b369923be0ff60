import TraceReplay.Replay.Blocks

/-!
# Requests

What a player may be asked for, in any order: to begin a race, to play a call, to have buffered work
flushed. `Player.serveAll` does one request after the other, whatever becomes of each.

`Player.recountAll` does the same and keeps the history: an `Episode` for each request, with what was asked
of the backend for it. `Counters.Tally` says of a history which counters it makes.
-/

namespace TraceReplay

variable {σ : Type}

/-- Something that a player is asked for. -/
inductive Request
  | beginRace
  | play (call : Call)
  /-- Buffered work is to be flushed. -/
  | handOver
deriving DecidableEq, Repr

/-- The call that is to be played. -/
def Request.call? : Request → Option Call
  | play c => some c
  | _ => none

/-- A request with what was asked of the backend for it, in order. -/
structure Episode where
  request : Request
  effects : List Effect

namespace Player

/-- Do what is asked for. A player goes on after every verdict, and after every flush. -/
def serve (b : Backend σ) (p : Player) : Request → StateM σ Player
  | .beginRace => pure p.beginRace
  | .play c => do
    let (_, p) ← p.play b c
    pure p
  | .handOver => do
    let _ ← b.handOver
    pure p

/-- Do one request after the other. -/
def serveAll (b : Backend σ) (p : Player) : List Request → StateM σ Player
  | [] => pure p
  | r :: rs => do
    let p ← p.serve b r
    p.serveAll b rs

/-- Do what is asked for, with a journal of its own. -/
def recount (b : Backend σ) (p : Player) (r : Request) : StateM σ (Episode × Player) := fun w =>
  let (p, j) := p.serve b.journaled r ⟨w, []⟩
  ((⟨r, j.effects⟩, p), j.world)

/-- Do one request after the other, and keep the history. -/
def recountAll (b : Backend σ) (p : Player) : List Request → StateM σ (List Episode × Player)
  | [] => pure ([], p)
  | r :: rs => do
    let (episode, p) ← p.recount b r
    let (episodes, p) ← p.recountAll b rs
    pure (episode :: episodes, p)

end Player

/-- The calls that were performed in these episodes, in order. -/
def retracedIn (episodes : List Episode) : List Call := retraced (episodes.flatMap Episode.effects)

/-- The calls that were to be played, in order, whatever became of them. -/
def attempted (episodes : List Episode) : List Call := episodes.filterMap (·.request.call?)

/-- The episodes since a race began last, or all of them if none did. -/
def sinceRace (episodes : List Episode) : List Episode :=
  (episodes.reverse.takeWhile fun e => e.request ≠ .beginRace).reverse

/-- The counters that a history makes, if nothing was counted before it. -/
structure Counters.Tally (withCpu : Bool) (history : List Episode) (c : Counters) : Prop where
  calls : c.calls = (retracedIn (sinceRace history)).length
  frames : c.frames = (retracedIn (sinceRace history)).countP Call.endsFrame
  totalCalls : c.totalCalls = (retracedIn history).length
  callNo : c.callNo = ((attempted history).getLast?.map Call.no).getD 0
  samples : c.cpuSamples? = if withCpu then some (retracedIn (sinceRace history)).length else none

end TraceReplay
