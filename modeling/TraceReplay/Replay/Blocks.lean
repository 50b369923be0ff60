import TraceReplay.Replay.Shots

/-!
# Blocks

What the playing of one call asks of its backend, as data: a snapshot step before the effect of the call,
the effect, a snapshot step after it, and an attempt to dump the state, each of the first and the last two
only if the call gets one. A player that goes on after every verdict makes one block after the other.
-/

namespace TraceReplay

/-- It is asked for in a snapshot step. -/
def Effect.ofSnapshot : Effect → Bool
  | captured _ | loaded .. | wrote .. | streamed .. | compared .. => true
  | performed .. | flushed _ | dumped _ | flushedDump _ => false

/-- The call, if it is one that was performed. -/
def Effect.retraced? : Effect → Option Call
  | performed c .done => some c
  | _ => none

/-- The calls that were performed, in order. -/
def retraced (effects : List Effect) : List Call := effects.filterMap Effect.retraced?

/-- What became of an attempt to dump the state. -/
inductive DumpAttempt
  | failed
  /-- The dump was made and passed on. -/
  | made (passedOn : Except StorageFault Unit)

namespace DumpAttempt

def works : DumpAttempt → Bool
  | failed => false
  | made _ => true

def effects : DumpAttempt → List Effect
  | failed => [.dumped false]
  | made passedOn => [.dumped true, .flushedDump passedOn]

end DumpAttempt

/-- What is done for one call. -/
structure Block where
  call : Call
  /-- The snapshot step before the effect of the call. -/
  early? : Option Shot := none
  /-- What became of the effect. -/
  answer : Performed
  /-- The snapshot step after it. -/
  late? : Option Shot := none
  dump? : Option DumpAttempt := none

namespace Block

/-- The snapshot steps of a block. -/
def shots (k : Block) : List Shot := k.early?.toList ++ k.late?.toList

/-- What the backend is asked for, in order. -/
def effects (k : Block) : List Effect :=
  k.early?.toList.flatMap Shot.effects ++ .performed k.call k.answer ::
    (k.late?.toList.flatMap Shot.effects ++ k.dump?.toList.flatMap DumpAttempt.effects)

/-- What comes after the block: its own fault, or nothing if a dump worked, or else the next call. -/
def verdict (k : Block) : Verdict :=
  match k.answer with
  | .crashed => .crashed
  | .failed fault => .failed fault
  | .done => if k.dump?.any DumpAttempt.works then .stop else .proceed

/-- The call, if it was performed. -/
def retraced (k : Block) : List Call := if k.answer = .done then [k.call] else []

end Block

/-- Play calls one after the other, going on whatever the verdict. -/
def Player.playAll {σ : Type} (b : Backend σ) (p : Player) :
    List Call → StateM σ (List Verdict × Player)
  | [] => pure ([], p)
  | c :: cs => do
    let (verdict, p) ← p.play b c
    let (verdicts, p) ← p.playAll b cs
    pure (verdict :: verdicts, p)

end TraceReplay
