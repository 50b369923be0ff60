import TraceReplay.Session.Basic

/-!
# Series of races

A session, as far as it does not depend on a studio: traces are replayed one after another by one player,
in a venue that says what calls do and where traces are found. `Session.toSeries` and `Studio.venue` make a
series of a session.
-/

namespace TraceReplay

variable {σ : Type} {m : Type → Type}

/-- Where races take place, and what is needed from the outside. -/
structure Venue (σ : Type) (m : Type → Type) where
  backend : Backend σ
  openTrace : (path : String) → StateM σ (Except TraceError Reader)
  /-- Nanoseconds since some moment. -/
  now : m Nat
  /-- Wait for the user. -/
  pause : σ → m σ

/-- The world and the player, unless an earlier race kept it. -/
structure Series (σ : Type) where
  config : Config
  world : σ
  player? : Option Player

/-- Why a series does not go on. -/
inductive Setback
  | failed (error : ReplayError)
  /-- The thread that replays the series was lost. -/
  | crashed

/-- What is told when a trace was opened. -/
def Reader.announcement (r : Reader) (path : String) : Message :=
  .logged .info s!"Replaying {path} ({r.header.recordCount.toNat} calls recorded)"

/-- What is told when a race has ended well. -/
def TraceResult.closing (config : Config) (r : TraceResult) : List Message :=
  match r.outcome with
  | .completed =>
    .logged .info s!"{r.trace}: {r.report.calls} calls on {r.report.legs} legs" ::
      if config.reportsThroughput then r.report.lines.map .printed else []
  | .stateDumped callNo => [.logged .info s!"{r.trace}: state dumped at call {callNo.toNat}"]

/-- What is told when the user is waited for. -/
def prompt : Message := .noted "Press Enter to continue"

namespace Series

/-- Tell the user. -/
def tell (b : Backend σ) (s : Series σ) (message : Message) : Series σ :=
  { s with world := (b.tell message s.world).2 }

/-- Tell what became of a race, and keep its player for the next. -/
def conclude (b : Backend σ) (s : Series σ) (name : String) (elapsed : Duration) :
    RaceEnd → Except Setback TraceResult × Series σ
  | .failed e => (.error (.failed e), s)
  | .crashed => (.error .crashed, s)
  | .finished result =>
    let report := Report.ofCounters result.player.counters result.legs.length elapsed
      (b.summary? s.world)
    let told : TraceResult := ⟨name, result.outcome, report, result.workersStopped⟩
    (.ok told, { (told.closing s.config).foldl (tell b) s with player? := some result.player })

variable [Monad m]

/-- Replay a source as one race. -/
def runSource (v : Venue σ m) (s : Series σ) (name : String) (source : Source) :
    m (Except Setback TraceResult × Series σ) :=
  match s.player? with
  | none => pure (.error (.failed Session.playerLost), s)
  | some player => do
    let begun ← v.now
    let (raceEnd, world) := Field.run (fun _ => v.backend) source player s.world
    let ended ← v.now
    pure (conclude v.backend { s with world, player? := none } name (.ofNanos (ended - begun)) raceEnd)

/-- Open a trace and replay it. -/
def runTrace (v : Venue σ m) (s : Series σ) (path : String) :
    m (Except Setback TraceResult × Series σ) :=
  match v.openTrace path s.world with
  | (.error e, world) => pure (.error (.failed (.trace e)), { s with world })
  | (.ok reader, world) =>
    runSource v (tell v.backend { s with world } (reader.announcement path)) path reader.toSource

/-- Wait for the user, if that is wanted. -/
def pause (v : Venue σ m) (s : Series σ) : m (Series σ) :=
  if s.config.waits then do
    let world ← v.pause (s.tell v.backend prompt).world
    pure { s with world }
  else pure s

/-- Replay traces in order, up to the first that fails or whose replay ends with a dump. -/
def runList (v : Venue σ m) :
    List String → Series σ → m (Except Setback (List TraceResult) × Series σ)
  | [], s => pure (.ok [], s)
  | path :: paths, s => do
    match ← runTrace v s path with
    | (.error e, s) => pure (.error e, s)
    | (.ok result, s) =>
      match result.outcome with
      | .stateDumped _ => pure (.ok [result], s)
      | .completed =>
        let s ← pause v s
        let (rest, s) ← runList v paths s
        pure (rest.map (result :: ·), s)

/-- Replay all traces of the configuration. -/
def runAll (v : Venue σ m) (s : Series σ) : m (Except Setback (List TraceResult) × Series σ) :=
  runList v s.config.traces s

end Series

/-- A studio as a venue. -/
def Studio.venue (out : Surroundings m) (codec : ImageCodec) : Venue Studio m where
  backend := Studio.backend codec
  openTrace path := fun s => (Session.openTrace s.files path, s)
  now := out.now
  pause := out.pause

namespace Session

/-- A session as a series. -/
def toSeries (s : Session) : Series Studio := ⟨s.config, s.studio, s.player?⟩

def ofSeries (s : Series Studio) : Session := ⟨s.config, s.world, s.player?⟩

end Session

/-- What the one who replays a session gets: without the thread the race is abandoned. -/
def Setback.error : Setback → ReplayError
  | failed e => e
  | crashed => .abandoned

end TraceReplay
