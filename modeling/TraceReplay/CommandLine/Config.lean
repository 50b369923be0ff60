import TraceReplay.CommandLine.Parser
import TraceReplay.Replay.Error
import TraceReplay.Snapshot.Policy

/-!
# The configuration of a replay

What the arguments mean. Writing or comparing without a selection looks at every frame; a selection
without a place to write to, or to compare with, works in the current directory. Benchmarks and
profiling are quieter, dumps and streams quieter still, and every request for more output counts
one up from there.
-/

namespace TraceReplay

/-- What is measured besides time. -/
structure Profiling where
  cpu : Bool := false
  gpu : Bool := false
  pixels : Bool := false
deriving DecidableEq, Repr

/-- Anything is measured. -/
def Profiling.isEnabled (p : Profiling) : Bool := p.cpu || p.gpu || p.pixels

/-- The configuration of a replay. -/
structure Config where
  traces : List String := []
  /-- Zero is normal, less is quieter, more is louder. -/
  verbosity : Int := 0
  /-- Wait for the user after each race. -/
  waits : Bool := false
  profiling : Profiling := {}
  policy : SnapshotPolicy := {}
  dumpAt? : Option UInt32 := none
  width : Nat := 256
  height : Nat := 256
deriving DecidableEq, Repr

namespace Config

/-- The rate of frames is told at the end of each race. -/
def reportsThroughput (c : Config) : Bool := decide (-1 ≤ c.verbosity) || c.profiling.isEnabled

/-- Where to write or compare, and which calls, from an optional place and selection. -/
def selection (place? calls? : Option String) :
    Except SelectionError (Option String × Selection) :=
  match place?, calls? with
  | none, none => .ok (none, .empty)
  | some place, none => .ok (some place, .everyFrame)
  | place?, some calls => (Selection.parse calls).map fun s => (some (place?.getD ""), s)

/-- How loud a replay is. -/
def verbosityOf (a : Arguments) (profiling : Profiling) (policy : SnapshotPolicy) : Int :=
  let base : Int :=
    if a.dumpState?.isSome || policy.streams then -2
    else if a.benchmark || profiling.isEnabled then -1
    else 0
  base + a.verbose

/-- The configuration that arguments ask for. The selection of calls to compare is judged before
that of calls to write. -/
def ofArguments (a : Arguments) : Except ReplayError Config :=
  if a.traces.isEmpty then .error (.configuration "no trace file given")
  else if a.width = 0 ∨ a.height = 0 then
    .error (.configuration
      s!"canvas size must be positive, got {a.width.toNat}x{a.height.toNat}")
  else do
    let (compareWith?, compareCalls) ←
      (selection a.compare? a.compareCalls?).mapError .selection
    let (writeTo?, writeCalls) ← (selection a.snapshot? a.snapshotCalls?).mapError .selection
    let policy : SnapshotPolicy := { writeTo?, writeCalls, compareWith?, compareCalls }
    let profiling : Profiling := ⟨a.cpu, a.gpu, a.pixels⟩
    return {
      traces := a.traces
      verbosity := verbosityOf a profiling policy
      waits := a.wait
      profiling
      policy
      dumpAt? := a.dumpState?
      width := a.width.toNat
      height := a.height.toNat }

/-- A place that was named is kept. -/
theorem place_of_selection_eq_ok {place : String} {calls? : Option String}
    {chosen : Option String × Selection} (h : selection (some place) calls? = .ok chosen) :
    chosen.1 = some place := by
  cases calls? with
  | none => exact congrArg Prod.fst (Except.ok.inj h).symm
  | some calls =>
    rw [selection] at h
    cases parsed : Selection.parse calls with
    | error e =>
      rw [parsed] at h
      cases h
    | ok chosen =>
      rw [parsed] at h
      exact congrArg Prod.fst (Except.ok.inj h).symm

/-- What is kept of the arguments. -/
structure Follows (config : Config) (a : Arguments) : Prop where
  traces : config.traces = a.traces
  nonempty : config.traces ≠ []
  verbosity : config.verbosity = verbosityOf a config.profiling config.policy
  waits : config.waits = a.wait
  profiling : config.profiling = ⟨a.cpu, a.gpu, a.pixels⟩
  writeTo : ∀ place, a.snapshot? = some place → config.policy.writeTo? = some place
  compareWith : ∀ place, a.compare? = some place → config.policy.compareWith? = some place
  dumpAt : config.dumpAt? = a.dumpState?
  size : 0 < config.width ∧ 0 < config.height

theorem follows_of_ofArguments_eq_ok {a : Arguments} {config : Config}
    (accepted : ofArguments a = .ok config) : config.Follows a := by
  rw [ofArguments] at accepted
  split at accepted
  · cases accepted
  · rename_i traces
    split at accepted
    · cases accepted
    · rename_i size
      cases compared : selection a.compare? a.compareCalls? with
      | error e =>
        rw [compared] at accepted
        cases accepted
      | ok compare =>
        cases written : selection a.snapshot? a.snapshotCalls? with
        | error e =>
          rw [compared, written] at accepted
          cases accepted
        | ok write =>
          rw [compared, written] at accepted
          obtain rfl := Except.ok.inj accepted
          refine ⟨rfl, mt List.isEmpty_iff.2 traces, rfl, rfl, rfl, ?_, ?_, rfl, ?_⟩
          · intro place named
            exact place_of_selection_eq_ok (named ▸ written)
          · intro place named
            exact place_of_selection_eq_ok (named ▸ compared)
          · obtain ⟨width, height⟩ := not_or.1 size
            exact ⟨UInt32.pos_iff_ne_zero.2 width, UInt32.pos_iff_ne_zero.2 height⟩

end Config

end TraceReplay
