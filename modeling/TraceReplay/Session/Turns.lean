import TraceReplay.Replay.Blocks
import TraceReplay.Session.Series

/-!
# Turns

What becomes of the traces of a series, one after the other. A venue can be watched: then it is noted which
traces were opened, what the backend was asked to do, and what the user was told. A `Turn` is what is seen
of one trace.
-/

namespace TraceReplay

variable {σ : Type} {m : Type → Type}

/-- A world with what was seen of it from outside, in order. -/
structure Watched (σ : Type) where
  world : σ
  /-- The traces that were to be opened. -/
  opened : List String := []
  /-- What the user was told. -/
  told : List Message := []

namespace Watched

variable {α : Type}

/-- Do something that is not seen. -/
def pass (action : StateM σ α) : StateM (Watched σ) α := fun s =>
  let (answer, world) := action s.world
  (answer, { s with world })

end Watched

/-- The backend under watch. -/
def Backend.watched (b : Backend σ) : Backend (Watched σ) where
  perform := fun c => Watched.pass (b.perform c)
  cpuTime := Watched.pass b.cpuTime
  flush := Watched.pass b.flush
  flushCrashed := fun s => b.flushCrashed s.world
  summary? := fun s => b.summary? s.world
  capture := Watched.pass b.capture
  load := fun path => Watched.pass (b.load path)
  write := fun image path => Watched.pass (b.write image path)
  stream := fun image comment => Watched.pass (b.stream image comment)
  compare := fun image reference => Watched.pass (b.compare image reference)
  dump? := b.dump?.map Watched.pass
  flushDump := Watched.pass b.flushDump
  tell := fun message s => ((), ⟨(b.tell message s.world).2, s.opened, s.told ++ [message]⟩)

/-- The venue under watch, with a journal of what the backend was asked to do. -/
def Venue.watched [Monad m] (v : Venue σ m) : Venue (Journaled (Watched σ)) m where
  backend := v.backend.watched.journaled
  openTrace path := Journaled.pass fun s =>
    let (answer, world) := v.openTrace path s.world
    (answer, { s with world, opened := s.opened ++ [path] })
  now := v.now
  pause s := do
    let world ← v.pause s.world.world
    pure { s with world := { s.world with world } }

/-- The world when the user was told this. -/
def Venue.afterTelling (v : Venue σ m) (messages : List Message) (w : σ) : σ :=
  messages.foldl (fun w message => (v.backend.tell message w).2) w

/-- The world and what is outside, when the user was waited for if that is wanted. -/
def Venue.afterWaiting {τ : Type} (v : Venue σ (StateM τ)) (config : Config) (here : σ × τ) : σ × τ :=
  if config.waits then v.pause (v.afterTelling [prompt] here.1) here.2 else here

/-- What a clock says that is read twice, and what is outside then. -/
def Venue.timed {τ : Type} (v : Venue σ (StateM τ)) (x : τ) : Duration × τ :=
  (.ofNanos ((v.now (v.now x).2).1 - (v.now x).1), (v.now (v.now x).2).2)

/-- A world of which nothing was seen so far. -/
def Journaled.unseen (w : σ) : Journaled (Watched σ) := ⟨⟨w, [], []⟩, []⟩

/-- What becomes of one trace of a series. -/
inductive Turn
  /-- It could not be opened. -/
  | unopened (path : String) (error : TraceError)
  /-- It was replayed, with these effects; this was told during the race. -/
  | raced (path : String) (reader : Reader) (raceEnd : RaceEnd) (elapsed : Duration)
    (summary? : Option String) (effects : List Effect) (during : List Message)

namespace Turn

def path : Turn → String
  | unopened path _ | raced path .. => path

/-- The trace that was opened. -/
def reader? : Turn → Option Reader
  | unopened .. => none
  | raced _ reader .. => some reader

/-- What the backend was asked to do. -/
def effects : Turn → List Effect
  | unopened .. => []
  | raced _ _ _ _ _ effects _ => effects

/-- What is returned for the trace. -/
def result : Turn → Except Setback TraceResult
  | unopened _ e => .error (.failed (.trace e))
  | raced _ _ (.failed e) .. => .error (.failed e)
  | raced _ _ .crashed .. => .error .crashed
  | raced path _ (.finished r) elapsed summary? _ _ =>
    .ok ⟨path, r.outcome, .ofCounters r.player.counters r.legs.length elapsed summary?, r.workersStopped⟩

/-- Every call was replayed. -/
def completes (t : Turn) : Bool :=
  match t.result with
  | .ok ⟨_, .completed, _, _⟩ => true
  | _ => false

/-- Who is left of the player that the trace was to be replayed by. -/
def player? (player : Player) : Turn → Option Player
  | unopened .. => some player
  | raced _ _ (.finished r) .. => some r.player
  | raced .. => none

/-- What the user is told when the race is over. -/
def closing (config : Config) (t : Turn) : List Message :=
  match t.result with
  | .ok result => result.closing config
  | .error _ => []

/-- What the user is told, up to the wait. -/
def told (config : Config) : Turn → List Message
  | unopened .. => []
  | raced path reader raceEnd elapsed summary? effects during =>
    reader.announcement path :: during ++
      (raced path reader raceEnd elapsed summary? effects during).closing config

/-- What the user is told, all in all. -/
def messages (config : Config) (t : Turn) : List Message :=
  t.told config ++ if t.completes && config.waits then [prompt] else []

end Turn

end TraceReplay
