import TraceReplay.Replay.Counters
import TraceReplay.Snapshot.Step

/-!
# Replaying one call

A player performs the calls of a replay one by one. A selected call gets one snapshot step: after
its effect, or, if it switches the render target, before it. The output before a switch belongs to
the previous call, so that snapshot is filed under the number before, unless the switch ends a
frame itself. From a given call number on the state is dumped after each call, until a dump works;
then the replay stops.
-/

namespace TraceReplay

/-- What comes after a call. -/
inductive Verdict
  /-- The next call. -/
  | proceed
  /-- Nothing; the state was dumped. -/
  | stop
  | failed (fault : Fault)
  /-- The thread is lost. -/
  | crashed
deriving DecidableEq, Repr

/-- The state of a replay that goes from call to call and from race to race. -/
structure Player where
  policy : SnapshotPolicy := {}
  /-- From this call on the state is dumped. -/
  dumpAt? : Option UInt32 := none
  counters : Counters := {}
  /-- The report of the snapshot step taken last. -/
  lastSnapshot? : Option SnapshotReport := none
deriving DecidableEq, Repr

namespace Player

variable {σ : Type}

/-- A player before its first race. -/
def start (policy : SnapshotPolicy) (dumpAt? : Option UInt32) (withCpu : Bool) : Player :=
  { policy, dumpAt?, counters := .start withCpu }

/-- A new race begins. -/
def beginRace (p : Player) : Player := { p with counters := p.counters.beginRace }

/-- The number under which the output before a target switch is filed. -/
def numberBefore (c : Call) : UInt32 :=
  if c.endsFrame then c.no else if c.no = 0 then 0 else c.no - 1

/-- Take a snapshot and remember its report. -/
def snapshot (p : Player) (b : Backend σ) (callNo : UInt32) : StateM σ Player := do
  let report ← p.policy.take b callNo
  pure { p with lastSnapshot? := some report }

/-- The snapshot step before the effect of a call, if it has one. -/
def before (p : Player) (b : Backend σ) (c : Call) : StateM σ Player :=
  if p.policy.selects c && c.swapsTarget then p.snapshot b (numberBefore c) else pure p

/-- The snapshot step after the effect of a call, if it has one. -/
def after (p : Player) (b : Backend σ) (c : Call) : StateM σ Player :=
  if p.policy.selects c && !c.swapsTarget then p.snapshot b c.no else pure p

/-- The call was performed. -/
def count (p : Player) (c : Call) : Player :=
  { p with
    counters := if c.endsFrame then p.counters.countCall.countFrame else p.counters.countCall }

/-- Record the CPU time of the call just performed, if it is wanted. -/
def recordCpu (p : Player) (b : Backend σ) : StateM σ Player :=
  match p.counters.cpuTimes? with
  | none => pure p
  | some _ => do
    let elapsed ← b.cpuTime
    pure { p with counters := p.counters.recordCpu elapsed }

/-- The state is to be dumped after this call. -/
def wantsDump (p : Player) (c : Call) : Bool :=
  match p.dumpAt? with
  | some threshold => decide (threshold ≤ c.no)
  | none => false

/-- Try to dump the state. A dump that works is passed on, and its flush may fail. -/
def tryDump (b : Backend σ) : StateM σ Bool :=
  match b.dump? with
  | none => pure false
  | some dump => do
    if ← dump then
      match ← b.flushDump with
      | .ok _ => pure true
      | .error e =>
        b.tell (.logged .warning ("Failed to flush state dump: " ++ e.message))
        pure true
    else pure false

/-- Dump the state if this call is to, and say what comes next. -/
def conclude (p : Player) (b : Backend σ) (c : Call) : StateM σ Verdict :=
  if p.wantsDump c then do
    if ← tryDump b then pure .stop else pure .proceed
  else pure .proceed

/-- Replay one call. -/
def play (p : Player) (b : Backend σ) (c : Call) : StateM σ (Verdict × Player) := do
  let p ← p.before b c
  let p := { p with counters := p.counters.reach c.no }
  match ← b.perform c with
  | .crashed => pure (.crashed, p)
  | .failed fault => pure (.failed fault, p)
  | .done =>
    let p ← p.recordCpu b
    let p ← (p.count c).after b c
    let verdict ← p.conclude b c
    pure (verdict, p)

end Player

end TraceReplay
