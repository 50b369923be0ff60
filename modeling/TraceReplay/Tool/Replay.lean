import TraceReplay.Tool.Outcome

/-!
# The replay program

Replays the traces of its command line on a canvas. Lines about its progress go to standard error,
depending on how loud it is; standard output is for reports, streamed snapshots and dumps.
-/

namespace TraceReplay.ReplayProgram

/-- The least important lines that are logged at a verbosity. -/
def logFrom? (verbosity : Int) : Option LogLevel :=
  if verbosity ≤ -2 then none else if verbosity = -1 then some .warning else some .info

/-- The studio that a configuration asks for. -/
def studio (config : Config) (files : Files) : Studio where
  canvas := .ofSize config.width config.height
  profiling := config.profiling
  files
  logFrom? := logFrom? config.verbosity

/-- A question on the command line is answered on standard output, a fault is told on standard
error. -/
def answer (files : Files) (e : UsageError) : ProgramEnd :=
  if e.isQuestion then .printed files (e.message ++ "\n") else .failed files e.message

variable {m : Type → Type} [Monad m]

/-- Replay the traces of a configuration. -/
def replay (out : Surroundings m) (codec : ImageCodec) (config : Config) (files : Files) :
    m ProgramEnd := do
  let (result, session) ← (Session.start config (studio config files)).runAll out codec
  let left := session.studio
  match result with
  | .ok _ => pure ⟨0, left.stdout.content, left.stderr, left.files⟩
  | .error e =>
    pure ⟨1, left.stdout.content, left.stderr.push ("error: " ++ e.fullMessage), left.files⟩

/-- Run the program with the arguments behind its name. A canvas that cannot be in memory ends it at
once. -/
def run (out : Surroundings m) (codec : ImageCodec) (arguments : List String) (files : Files) :
    m ProgramEnd :=
  match CommandLine.parse arguments with
  | .error e => pure (answer files e)
  | .ok arguments =>
    match Config.ofArguments arguments with
    | .error e => pure (.failed files ("error: " ++ e.fullMessage))
    | .ok config =>
      if Image.fits config.width config.height then replay out codec config files
      else pure ⟨101, ByteArray.empty, #[], files⟩

end TraceReplay.ReplayProgram
