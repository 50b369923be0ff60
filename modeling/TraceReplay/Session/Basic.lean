import TraceReplay.Race.Schedule
import TraceReplay.Report.Basic
import TraceReplay.Session.Studio
import TraceReplay.Trace.Reader

/-!
# Sessions

A session replays one source after another in the same studio. The player, with its counters, goes
from race to race; a race that fails keeps it, so nothing can be replayed after that. A trace that
cannot be opened starts no race and changes nothing.
-/

namespace TraceReplay

/-- What became of one trace. -/
structure TraceResult where
  trace : String
  outcome : RaceOutcome
  report : Report
  workersStopped : Nat

/-- The studio and the player, unless an earlier race kept it. -/
structure Session where
  config : Config
  studio : Studio
  player? : Option Player

/-- What a session needs from the outside: a clock, and a user who can be waited for. -/
structure Surroundings (m : Type → Type) where
  /-- Nanoseconds since some moment. -/
  now : m Nat
  /-- Show what was printed so far, and wait for a line of input. -/
  pause : Studio → m Studio

/-- Surroundings in which no time passes and nobody has to be waited for. -/
def Surroundings.still : Surroundings Id := ⟨0, id⟩

namespace Session

/-- A session before its first race. -/
def start (config : Config) (studio : Studio) : Session :=
  { config, studio
    player? := some (.start config.policy config.dumpAt? config.profiling.cpu) }

/-- Tell the user. -/
def tell (s : Session) (message : Message) : Session :=
  { s with studio := s.studio.tell message }

/-- Open the file of a trace. -/
def openTrace (files : Files) (path : String) : Except TraceError Reader :=
  match files.read path with
  | .error .isADirectory => .error (.openFailed path .notMappable)
  | .error cause => .error (.openFailed path cause)
  | .ok content => Reader.ofBytes content.toList

/-- Why nothing can be replayed after a race that failed. -/
def playerLost : ReplayError := .configuration "retracer was lost in an earlier failed race"

/-- Tell what became of a race, and keep its player for the next. -/
def conclude (s : Session) (codec : ImageCodec) (name : String) (elapsed : Duration) :
    RaceEnd → Except ReplayError TraceResult × Session
  | .failed e => (.error e, s)
  | .crashed => (.error .abandoned, s)
  | .finished result =>
    let report := Report.ofCounters result.player.counters result.legs.length elapsed
      ((Studio.backend codec).summary? s.studio)
    let s := match result.outcome with
      | .completed =>
        let s := s.tell (.logged .info s!"{name}: {report.calls} calls on {report.legs} legs")
        if s.config.reportsThroughput then
          report.lines.foldl (fun (s : Session) line => s.tell (.printed line)) s
        else s
      | .stateDumped callNo =>
        s.tell (.logged .info s!"{name}: state dumped at call {callNo.toNat}")
    (.ok ⟨name, result.outcome, report, result.workersStopped⟩,
      { s with player? := some result.player })

section

variable {m : Type → Type} [Monad m]

/-- Replay a source as one race. -/
def runSource (out : Surroundings m) (codec : ImageCodec) (s : Session) (name : String)
    (source : Source) : m (Except ReplayError TraceResult × Session) :=
  match s.player? with
  | none => pure (.error playerLost, s)
  | some player => do
    let begun ← out.now
    let (raceEnd, studio) := Field.run (fun _ => Studio.backend codec) source player s.studio
    let ended ← out.now
    let s := { s with studio, player? := none }
    pure (s.conclude codec name (.ofNanos (ended - begun)) raceEnd)

/-- Open a trace and replay it. -/
def runTrace (out : Surroundings m) (codec : ImageCodec) (s : Session) (path : String) :
    m (Except ReplayError TraceResult × Session) :=
  match openTrace s.studio.files path with
  | .error e => pure (.error (.trace e), s)
  | .ok reader =>
    let s := s.tell (.logged .info
      s!"Replaying {path} ({reader.header.recordCount.toNat} calls recorded)")
    runSource out codec s path reader.toSource

/-- Wait for the user, if that is wanted. -/
def pause (out : Surroundings m) (s : Session) : m Session :=
  if s.config.waits then do
    let studio ← out.pause (s.studio.tell (.noted "Press Enter to continue"))
    pure { s with studio }
  else pure s

/-- Replay traces in order, up to the first that fails or whose replay ends with a dump. -/
def runList (out : Surroundings m) (codec : ImageCodec) :
    List String → Session → m (Except ReplayError (List TraceResult) × Session)
  | [], s => pure (.ok [], s)
  | path :: paths, s => do
    match ← runTrace out codec s path with
    | (.error e, s) => pure (.error e, s)
    | (.ok result, s) =>
      match result.outcome with
      | .stateDumped _ => pure (.ok [result], s)
      | .completed =>
        let s ← pause out s
        let (rest, s) ← runList out codec paths s
        pure (rest.map (result :: ·), s)

/-- Replay all traces of the configuration. -/
def runAll (out : Surroundings m) (codec : ImageCodec) (s : Session) :
    m (Except ReplayError (List TraceResult) × Session) :=
  runList out codec s.config.traces s

end

end Session

end TraceReplay
