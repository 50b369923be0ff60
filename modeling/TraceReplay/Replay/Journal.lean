import TraceReplay.Replay.Backend

/-!
# Journals

What a replay asked of its backend, in order and with the answers. `Backend.journaled` does what the
backend does and notes it, so two replays can be compared by what they asked for. Measured times and
lines for the user are not noted.
-/

namespace TraceReplay

/-- Something that a backend was asked to do, with its answer. -/
inductive Effect
  | performed (call : Call) (answer : Performed)
  | flushed (answer : Except Fault Unit)
  | captured (answer? : Option Image)
  | loaded (path : String) (answer? : Option Image)
  | wrote (image : Image) (path : String) (answer : Bool)
  | streamed (image : Image) (comment : String) (answer : Except StorageFault Unit)
  | compared (image reference : Image) (answer : Precision)
  | dumped (answer : Bool)
  | flushedDump (answer : Except StorageFault Unit)

/-- A state with what was done to it so far, the first effect in front. -/
structure Journaled (σ : Type) where
  world : σ
  effects : List Effect := []

namespace Journaled

variable {σ α : Type}

/-- Do something and note it. -/
def note (action : StateM σ α) (effect : α → Effect) : StateM (Journaled σ) α := fun s =>
  let (answer, world) := action s.world
  (answer, ⟨world, s.effects ++ [effect answer]⟩)

/-- Do something that is not noted. -/
def pass (action : StateM σ α) : StateM (Journaled σ) α := fun s =>
  let (answer, world) := action s.world
  (answer, { s with world })

end Journaled

namespace Backend

variable {σ : Type}

/-- The backend that keeps a journal. -/
def journaled (b : Backend σ) : Backend (Journaled σ) where
  perform := fun c => Journaled.note (b.perform c) (.performed c)
  cpuTime := Journaled.pass b.cpuTime
  flush := Journaled.note b.flush .flushed
  flushCrashed := fun s => b.flushCrashed s.world
  summary? := fun s => b.summary? s.world
  capture := Journaled.note b.capture .captured
  load := fun path => Journaled.note (b.load path) (.loaded path)
  write := fun image path => Journaled.note (b.write image path) (.wrote image path)
  stream := fun image comment =>
    Journaled.note (b.stream image comment) (.streamed image comment)
  compare := fun image reference =>
    Journaled.note (b.compare image reference) (.compared image reference)
  dump? := b.dump?.map fun dump => Journaled.note dump .dumped
  flushDump := Journaled.note b.flushDump .flushedDump
  tell := fun message => Journaled.pass (b.tell message)

end Backend

end TraceReplay
