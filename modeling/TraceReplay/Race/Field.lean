import TraceReplay.Race.Basic

/-!
# Runners and what passes between them

Every leg of a race has a runner, a thread that replays the calls of that leg only. The home
runner is the thread that starts the race; the other runners, the workers, are made when the first
call of their leg turns up. A runner is handed the next call and the state of the race through its
mailbox, which has room for one baton; the finish line, which has room for one too, takes the state
back to the home runner when the race is over.

A `Field` is a snapshot of all that: each runner with its mailbox and what it is doing, the finish
line, and the state `σ` that the backend works on. `Field.perform` says what a `Move` of one runner
does, if it can be made at all. A move that waits for another runner cannot be made yet.

The state of the race owns a sender for every channel, and they are dropped with it. A receiver sees
that its channel is disconnected when nothing is queued and no sender is left.

It is assumed that a thread can always be made. A race in which the system refuses one is not described
here: no move of a runner fails for that reason, and there is no error for it.
-/

namespace TraceReplay

/-- A call and the state of the race it belongs to, on the way to the runner of its leg. -/
structure Baton where
  call : Call
  state : RaceState
deriving DecidableEq

/-- The baton once the leg of its call has a runner. -/
def Baton.admitted (baton : Baton) : Baton :=
  { baton with
    state := { baton.state with legs := insertLeg baton.call.leg baton.state.legs } }

/-- The state of a race that is over, on the way home. -/
structure Finish where
  outcome : Except ReplayError RaceOutcome
  state : RaceState

/-- A channel on which a runner may still have a sender. -/
inductive Channel
  | mailbox (leg : Leg)
  | finishLine
deriving DecidableEq, Repr

/-- What the thread of a runner is doing. -/
inductive Activity
  /-- Waiting for a baton or for the end. -/
  | waiting
  /-- About to replay the call. -/
  | running (baton : Baton)
  /-- About to hand the call to the runner of its leg. -/
  | passing (baton : Baton)
  /-- The race is over in this runner's hands. -/
  | finishing (finish : Finish)
  /-- Something was sent, and its sender not yet dropped. -/
  | releasing (channel : Channel)
  /-- The home runner waits for the workers of these legs; so many have stopped. -/
  | stopping (finish : Finish) (left : List Leg) (stopped : Nat)
  /-- The thread is done; the home runner gives this to the one who started the race. -/
  | ended (result? : Option RaceEnd)
  /-- The thread is lost, with all that it held. -/
  | crashed

/-- The thread of one leg with its mailbox. -/
structure Runner where
  leg : Leg
  mailbox? : Option Baton := none
  activity : Activity := .waiting

/-- All runners of a race, the home runner first, and what they share. -/
structure Field (σ : Type) where
  world : σ
  runners : List Runner
  finishLine? : Option Finish := none

/-- One step of one runner. -/
inductive Move
  /-- Take the baton out of the mailbox. -/
  | wake (leg : Leg)
  /-- Replay the call and read the next one. -/
  | play (leg : Leg)
  /-- Make the runner of the leg that the next call belongs to. -/
  | spawn (leg : Leg)
  /-- Hand the call to the runner of its leg. -/
  | pass (leg : Leg)
  /-- Drop the sender that was used. -/
  | release (leg : Leg)
  /-- Put the state of a race that is over on the finish line. -/
  | deliver (leg : Leg)
  /-- The home runner takes it from there. -/
  | collect
  /-- The home runner closes the shutdown channel. -/
  | close
  /-- A worker sees that the shutdown channel is closed, or that nobody can reach it any more. -/
  | leave (leg : Leg)
  /-- The home runner finds the next worker stopped. -/
  | join
  /-- All workers have stopped; the race is settled. -/
  | settle
  /-- The home runner sees that nobody can reach it any more. -/
  | giveUp
deriving DecidableEq, Repr

namespace Activity

/-- The state of the race is in the hands of this runner. -/
def holds : Activity → Bool
  | running _ | passing _ | finishing _ | stopping .. => true
  | _ => false

/-- The state is held, and the shutdown channel was not closed. -/
def keepsOpen : Activity → Bool
  | running _ | passing _ | finishing _ => true
  | _ => false

/-- The runner still reads its channels. -/
def receives : Activity → Bool
  | ended _ | crashed => false
  | _ => true

/-- The runner still has a sender for the channel. -/
def keepsSender (channel : Channel) : Activity → Bool
  | releasing c => c == channel
  | _ => false

end Activity

namespace Field

variable {σ : Type}

/-- The runner of a leg. -/
def runner? (f : Field σ) (leg : Leg) : Option Runner := f.runners.find? (·.leg == leg)

/-- Change the runner of a leg. -/
def modify (f : Field σ) (leg : Leg) (change : Runner → Runner) : Field σ :=
  { f with runners := f.runners.map fun r => if r.leg = leg then change r else r }

/-- A runner goes over to another activity. -/
def become (f : Field σ) (leg : Leg) (activity : Activity) : Field σ :=
  f.modify leg fun r => { r with activity }

/-- Make the runner of a new leg, which waits for its first baton. -/
def hire (f : Field σ) (leg : Leg) : Field σ := { f with runners := f.runners ++ [{ leg }] }

/-- In how many places the state of the race is. -/
def holders (f : Field σ) : Nat :=
  f.runners.countP (·.activity.holds) + f.runners.countP (·.mailbox?.isSome)
    + (if f.finishLine?.isSome then 1 else 0)

/-- The shutdown channel has a sender: some place has the state, and it was not closed. -/
def shutdownOpen (f : Field σ) : Bool :=
  f.runners.any (·.activity.keepsOpen) || f.runners.any (·.mailbox?.isSome)
    || f.finishLine?.isSome

/-- Somebody can still send on the channel: the state of the race has senders for all of them. -/
def reachable (f : Field σ) (channel : Channel) : Bool :=
  f.holders != 0 || f.runners.any (·.activity.keepsSender channel)

/-- Something is queued on the channel. -/
def queued (f : Field σ) : Channel → Bool
  | .mailbox leg => (f.runner? leg).any (·.mailbox?.isSome)
  | .finishLine => f.finishLine?.isSome

/-- The receiver of the channel sees that nothing is there and nothing will come. -/
def disconnected (f : Field σ) (channel : Channel) : Bool :=
  !f.queued channel && !f.reachable channel

/-- What a runner does after it has replayed a call: on with the same leg, over to another after a
flush, or to the end. -/
def afterPlay (b : Backend σ) (leg : Leg) (call : Call) (verdict : Verdict) (state : RaceState) :
    StateM σ Activity :=
  match verdict with
  | .crashed => pure .crashed
  | .failed fault => pure (.finishing ⟨.error (.executor fault), state⟩)
  | .stop => pure (.finishing ⟨.ok (.stateDumped call.no), state⟩)
  | .proceed =>
    let (answer, source) := state.source.next
    let state := { state with source }
    match answer with
    | .error e => pure (.finishing ⟨.error (.trace e), state⟩)
    | .ok none => pure (.finishing ⟨.ok .completed, state⟩)
    | .ok (some next) =>
      if next.leg = leg then pure (.running ⟨next, state⟩)
      else do
        match ← b.handOver with
        | .done => pure (.passing ⟨next, state⟩)
        | .failed fault => pure (.finishing ⟨.error (.executor fault), state⟩)
        | .crashed => pure .crashed

/-- Replay the call of a baton and find out what is next. -/
def playBaton (b : Backend σ) (leg : Leg) (baton : Baton) : StateM σ Activity := do
  let (verdict, player) ← baton.state.player.play b baton.call
  afterPlay b leg baton.call verdict { baton.state with player }

/-- The move that takes a baton out of a mailbox. -/
def wake (f : Field σ) (leg : Leg) : Option (Field σ) :=
  match f.runner? leg with
  | some { mailbox? := some baton, activity := .waiting, .. } =>
    some (f.modify leg fun r => { r with mailbox? := none, activity := .running baton })
  | _ => none

/-- The move that replays a call. -/
def play (backend : Leg → Backend σ) (f : Field σ) (leg : Leg) : Option (Field σ) :=
  match f.runner? leg with
  | some { activity := .running baton, .. } =>
    let (activity, world) := playBaton (backend leg) leg baton f.world
    some ({ f with world }.become leg activity)
  | _ => none

/-- Put a baton into the mailbox of a runner that exists. A runner that is gone takes nothing, and
the race is over; a full mailbox has to be emptied first. -/
def send (f : Field σ) (sender : Leg) (baton : Baton) (receiver : Runner) : Option (Field σ) :=
  if !receiver.activity.receives then
    some (f.become sender (.finishing ⟨.error (.batonDropped baton.call.leg), baton.state⟩))
  else if receiver.mailbox?.isSome then none
  else
    some ((f.modify receiver.leg fun r => { r with mailbox? := some baton }).become sender
      (.releasing (.mailbox receiver.leg)))

/-- The move that makes the runner of the leg that the next call belongs to. Its thread is never
refused. -/
def spawn (f : Field σ) (leg : Leg) : Option (Field σ) :=
  match f.runner? leg with
  | some { activity := .passing baton, .. } =>
    if baton.call.leg ∈ baton.state.legs then none
    else some ((f.become leg (.passing baton.admitted)).hire baton.call.leg)
  | _ => none

/-- The move that hands a call to the runner of its leg. -/
def pass (f : Field σ) (leg : Leg) : Option (Field σ) :=
  match f.runner? leg with
  | some { activity := .passing baton, .. } =>
    if baton.call.leg ∈ baton.state.legs then
      (f.runner? baton.call.leg).bind (f.send leg baton)
    else none
  | _ => none

/-- The move that drops a sender. -/
def release (f : Field σ) (leg : Leg) : Option (Field σ) :=
  match f.runner? leg with
  | some { activity := .releasing _, .. } => some (f.become leg .waiting)
  | _ => none

/-- The move that puts the state of a race that is over on the finish line. If the home runner is
gone, the state is lost. -/
def deliver (f : Field σ) (leg : Leg) : Option (Field σ) :=
  match f.runner? leg, f.runner? homeLeg with
  | some { activity := .finishing finish, .. }, some home =>
    if leg = homeLeg then none
    else if !home.activity.receives then some (f.become leg (.releasing .finishLine))
    else if f.finishLine?.isSome then none
    else some ({ f with finishLine? := some finish }.become leg (.releasing .finishLine))
  | _, _ => none

/-- The move that takes the state from the finish line. -/
def collect (f : Field σ) : Option (Field σ) :=
  match f.runner? homeLeg, f.finishLine? with
  | some { activity := .waiting, .. }, some finish =>
    some ({ f with finishLine? := none }.become homeLeg (.finishing finish))
  | _, _ => none

/-- The move that closes the shutdown channel. -/
def close (f : Field σ) : Option (Field σ) :=
  match f.runner? homeLeg with
  | some { activity := .finishing finish, .. } =>
    some (f.become homeLeg (.stopping finish (finish.state.legs.filter (· ≠ homeLeg)) 0))
  | _ => none

/-- The move of a worker that sees the shutdown channel closed or its mailbox without senders. -/
def leave (f : Field σ) (leg : Leg) : Option (Field σ) :=
  match f.runner? leg with
  | some { activity := .waiting, .. } =>
    if leg = homeLeg then none
    else if !f.shutdownOpen || f.disconnected (.mailbox leg) then some (f.become leg (.ended none))
    else none
  | _ => none

/-- The move that finds the next worker stopped. A lost thread is not counted. -/
def join (f : Field σ) : Option (Field σ) :=
  match f.runner? homeLeg with
  | some { activity := .stopping finish (leg :: left) stopped, .. } =>
    match f.runner? leg with
    | some { activity := .ended _, .. } =>
      some (f.become homeLeg (.stopping finish left (stopped + 1)))
    | some { activity := .crashed, .. } => some (f.become homeLeg (.stopping finish left stopped))
    | _ => none
  | _ => none

/-- What the one who started the race gets when all workers have stopped. -/
def resultOf (finish : Finish) (stopped : Nat) : RaceEnd :=
  match finish.outcome with
  | .ok outcome => .finished ⟨outcome, finish.state.player, finish.state.legs, stopped⟩
  | .error e => .failed e

/-- The move that settles the race. -/
def settle (f : Field σ) : Option (Field σ) :=
  match f.runner? homeLeg with
  | some { activity := .stopping finish [] stopped, .. } =>
    some (f.become homeLeg (.ended (some (resultOf finish stopped))))
  | _ => none

/-- The move of the home runner that sees one of its channels without senders. -/
def giveUp (f : Field σ) : Option (Field σ) :=
  match f.runner? homeLeg with
  | some { activity := .waiting, .. } =>
    if f.disconnected (.mailbox homeLeg) || f.disconnected .finishLine then
      some (f.become homeLeg (.ended (some (.failed .abandoned))))
    else none
  | _ => none

/-- Make a move, if it can be made. Each runner sees the backend in its own way. -/
def perform (backend : Leg → Backend σ) (f : Field σ) : Move → Option (Field σ)
  | .wake leg => f.wake leg
  | .play leg => f.play backend leg
  | .spawn leg => f.spawn leg
  | .pass leg => f.pass leg
  | .release leg => f.release leg
  | .deliver leg => f.deliver leg
  | .collect => f.collect
  | .close => f.close
  | .leave leg => f.leave leg
  | .join => f.join
  | .settle => f.settle
  | .giveUp => f.giveUp

/-- Some move leads from one field to the next. -/
def Step (backend : Leg → Backend σ) (f g : Field σ) : Prop :=
  ∃ move, perform backend f move = some g

/-- What the home runner does when it has begun a race: it reads the first call, which it runs
itself or hands to the runner of another leg. -/
def opening (source : Source) (player : Player) : Activity :=
  let (answer, source) := source.next
  let state : RaceState := { source, player := player.beginRace }
  match answer with
  | .error e => .finishing ⟨.error (.trace e), state⟩
  | .ok none => .finishing ⟨.ok .completed, state⟩
  | .ok (some call) => if call.leg = homeLeg then .running ⟨call, state⟩ else .passing ⟨call, state⟩

/-- The start of a race, with the home runner alone. -/
def launch (source : Source) (player : Player) (world : σ) : Field σ :=
  { world, runners := [{ leg := homeLeg, activity := opening source player }] }

/-- What the one who started the race has got, once it is over for him. -/
def end? (f : Field σ) : Option RaceEnd :=
  match f.runner? homeLeg with
  | some { activity := .ended result?, .. } => result?
  | some { activity := .crashed, .. } => some .crashed
  | _ => none

end Field

end TraceReplay
