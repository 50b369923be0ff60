import TraceReplay.Proofs.Race.Advance

/-!
# One token

The state of a race is passed on without any lock, so everything hangs on there being one of it.
`Field.SingleToken` says what follows for a field: the state is in one place, one runner at most can
do something that needs it, calls only get to the runner of their leg, and whoever sends finds the
channel empty and a runner that still reads it. `singleToken_of_performAll` says that every schedule
of every race leads to such a field, also when threads are lost on the way.
-/

namespace TraceReplay

variable {σ : Type}

/-- The move replays a call, reads the source, touches the legs, or takes the state along. -/
def Move.usesState : Move → Bool
  | .release _ | .leave _ | .giveUp => false
  | _ => true

/-- The move that the state waits for. -/
def Place.move? : Place → Option Move
  | running baton => some (.play baton.call.leg)
  | passing leg baton =>
    some (if baton.call.leg ∈ baton.state.legs then .pass leg else .spawn leg)
  | mailed baton => some (.wake baton.call.leg)
  | finishing leg _ => some (if leg = homeLeg then .close else .deliver leg)
  | onFinishLine _ => some .collect
  | stopping _ (_ :: _) _ => some .join
  | stopping _ [] _ => some .settle
  | settled _ | lost _ => none

theorem Advance.move?_eq {backend : Leg → Backend σ} {move : Move} {p q : Place} {w v : σ}
    (advance : Advance backend move p w q v) (uses : move.usesState = true) :
    p.move? = some move := by
  cases advance with
  | wake | play | collect | join | settle => rfl
  | spawn _ _ _ fresh => rw [Place.move?, if_neg fresh]
  | pass _ _ _ known => rw [Place.move?, if_pos known]
  | deliver _ _ _ away => rw [Place.move?, if_neg away]
  | close => rw [Place.move?, if_pos rfl]
  | release | leave | giveUp => cases uses

theorem Finish.Sound.not_batonDropped {finish : Finish} {legs : List Leg}
    (sound : finish.Sound legs) (leg : Leg) : finish.outcome ≠ .error (.batonDropped leg) := by
  intro dropped
  rcases sound.error _ dropped with ⟨_, eq⟩ | ⟨_, eq⟩ <;> cases eq

namespace Field

variable {backend : Leg → Backend σ} {f : Field σ} {p : Place} {r : Runner}

/-- The state of the race is a token: there is one, and all that needs it is done by whoever has
it. -/
structure SingleToken (backend : Leg → Backend σ) (f : Field σ) : Prop where
  /-- The state is found in one place. -/
  place : ∃! p, f.Has p
  /-- Some runner, mailbox or finish line has it, unless it was settled or lost with a thread. -/
  holders : ∀ p, f.Has p → f.holders = if p.isLive then 1 else 0
  /-- One runner at most can replay a call, read the source or touch the legs, in one way only. -/
  exclusive : ∀ m n g h, m.usesState = true → n.usesState = true →
    f.perform backend m = some g → f.perform backend n = some h → m = n
  /-- A runner has calls of its own leg only. -/
  own : ∀ r ∈ f.runners, ∀ baton, r.activity = .running baton ∨ r.mailbox? = some baton →
    baton.call.leg = r.leg
  /-- A leg without a runner has none when its first call turns up. -/
  fresh : ∀ r ∈ f.runners, ∀ baton, r.activity = .passing baton →
    baton.call.leg ∉ baton.state.legs → baton.call.leg ∉ f.legs
  /-- A call is handed over at once: the mailbox is empty, and the other runner reads it. -/
  handOver : ∀ r ∈ f.runners, ∀ baton, r.activity = .passing baton →
    baton.call.leg ∈ baton.state.legs → baton.call.leg ≠ r.leg ∧
      (∃ s, f.runner? baton.call.leg = some s ∧ s.activity.receives = true ∧ s.mailbox? = none) ∧
      f.pass r.leg =
        some ((f.modify baton.call.leg fun s => { s with mailbox? := some baton }).become r.leg
          (.releasing (.mailbox baton.call.leg)))
  /-- The end of the race is reported at once: the finish line is empty, and read at home. -/
  report : ∀ r ∈ f.runners, ∀ finish, r.activity = .finishing finish → r.leg ≠ homeLeg →
    (∃ home, f.runner? homeLeg = some home ∧ home.activity.receives = true) ∧
      f.finishLine? = none ∧
      f.deliver r.leg =
        some ({ f with finishLine? := some finish }.become r.leg (.releasing .finishLine))
  /-- No race ends because a baton was dropped. -/
  kept : ∀ finish, (f.finishLine? = some finish ∨ ∃ r ∈ f.runners, r.activity = .finishing finish ∨
      ∃ left stopped, r.activity = .stopping finish left stopped) →
    ∀ leg, finish.outcome ≠ .error (.batonDropped leg)
  /-- As long as a baton waits in a mailbox, nobody has seen the end of the race. -/
  undelivered : ∀ r ∈ f.runners, r.mailbox?.isSome = true →
    f.finishLine? = none ∧ f.end? = none ∧ f.shutdownOpen = true ∧
      ∀ s ∈ f.runners, s.activity.isIdle = true

/-- Only the move that the state waits for needs the state. -/
theorem Stands.move?_eq {move : Move} {g : Field σ} (h : f.Stands p)
    (made : f.perform backend move = some g) (uses : move.usesState = true) :
    p.move? = some move := by
  obtain ⟨_, leads⟩ := h.perform made
  exact leads.advance.move?_eq uses

theorem Stands.not_mem_legs {baton : Baton} (h : f.Stands p) (mem : r ∈ f.runners)
    (act : r.activity = .passing baton) (fresh : baton.call.leg ∉ baton.state.legs) :
    baton.call.leg ∉ f.legs := by
  obtain rfl := h.of_passing mem act
  obtain ⟨_, _, knows⟩ := h.sound
  exact fun old => fresh ((knows.mem_iff _).2 old)

/-- A call whose leg has a runner can be handed over. -/
theorem Stands.handOver {baton : Baton} (h : f.Stands p) (mem : r ∈ f.runners)
    (act : r.activity = .passing baton) (known : baton.call.leg ∈ baton.state.legs) :
    baton.call.leg ≠ r.leg ∧
      (∃ s, f.runner? baton.call.leg = some s ∧ s.activity.receives = true ∧ s.mailbox? = none) ∧
      f.pass r.leg =
        some ((f.modify baton.call.leg fun s => { s with mailbox? := some baton }).become r.leg
          (.releasing (.mailbox baton.call.leg))) := by
  obtain rfl := h.of_passing mem act
  obtain ⟨_, other, knows⟩ := h.sound
  obtain ⟨s, mem', own⟩ := exists_runner ((knows.mem_iff _).1 known)
  have found : f.runner? baton.call.leg = some s := own ▸ runner?_of_mem h.nodup mem'
  have empty : s.mailbox? = none := h.mail s mem'
  have reads : s.activity.receives = true := by
    have shown := h.acts s mem'
    rw [Place.Shows, if_neg fun same => other (same.symm.trans own)] at shown
    exact Activity.receives_of_isIdle shown
  refine ⟨other.symm, ⟨s, found, reads, empty⟩, ?_⟩
  refine pass_eq_some_iff.2 ⟨r, baton, s, runner?_of_mem h.nodup mem, act, known, found, ?_⟩
  rw [send_eq_some reads empty, own]

/-- A runner that saw the end of the race can report it. -/
theorem Stands.report {finish : Finish} (h : f.Stands p) (mem : r ∈ f.runners)
    (act : r.activity = .finishing finish) (away : r.leg ≠ homeLeg) :
    (∃ home, f.runner? homeLeg = some home ∧ home.activity.receives = true) ∧
      f.finishLine? = none ∧
      f.deliver r.leg =
        some ({ f with finishLine? := some finish }.become r.leg (.releasing .finishLine)) := by
  obtain rfl := h.of_finishing mem act
  obtain ⟨home, found, mem', same⟩ := h.home_runner
  have reads : home.activity.receives = true := by
    have shown := h.acts home mem'
    rw [Place.Shows, if_neg fun eq => away (eq.symm.trans same)] at shown
    exact Activity.receives_of_isIdle shown
  refine ⟨⟨home, found, reads⟩, h.line, ?_⟩
  exact (deliver_eq_some_iff found reads h.line).2
    ⟨r, finish, runner?_of_mem h.nodup mem, act, away, rfl⟩

/-- What a race ended with lies in its calls, wherever that is on its way. -/
theorem Stands.finish_sound {finish : Finish} (h : f.Stands p)
    (found : f.finishLine? = some finish ∨ ∃ r ∈ f.runners, r.activity = .finishing finish ∨
      ∃ left stopped, r.activity = .stopping finish left stopped) : finish.Sound f.legs := by
  have sound := h.sound
  rcases found with line | ⟨r, mem, act | ⟨left, stopped, act⟩⟩
  · rw [h.of_finishLine line] at sound
    exact sound
  · rw [h.of_finishing mem act] at sound
    exact sound.2
  · rw [(h.of_stopping mem act).1] at sound
    exact sound.1

theorem Stands.undelivered (h : f.Stands p) (mem : r ∈ f.runners) (mail : r.mailbox?.isSome = true) :
    f.finishLine? = none ∧ f.end? = none ∧ f.shutdownOpen = true ∧
      ∀ s ∈ f.runners, s.activity.isIdle = true := by
  obtain ⟨baton, mail⟩ := Option.isSome_iff_exists.1 mail
  obtain ⟨rfl, _⟩ := h.of_mailbox mem mail
  have idle : ∀ s ∈ f.runners, s.activity.isIdle = true := h.acts
  refine ⟨h.line, ?_, h.shutdownOpen_eq, idle⟩
  obtain ⟨⟨leg, mail?, act⟩, found, mem', _⟩ := h.home_runner
  have idle := idle _ mem'
  rw [end?, found]
  cases act with
  | waiting | releasing _ => rfl
  | running _ | passing _ | finishing _ | stopping _ _ _ | ended _ | crashed => cases idle

/-- A field whose state stands at one place has it as its only token. -/
theorem Stands.singleToken (h : f.Stands p) : f.SingleToken backend where
  place := ⟨p, h.has, fun _ => h.eq_of_has⟩
  holders q has := by
    rw [h.eq_of_has has]
    exact h.holders_eq
  exclusive m n g g' usesM usesN madeM madeN :=
    Option.some.inj ((h.move?_eq madeM usesM).symm.trans (h.move?_eq madeN usesN))
  own r mem baton has := by
    rcases has with act | mail
    · exact (h.of_running mem act).2.symm
    · exact (h.of_mailbox mem mail).2.symm
  fresh _ mem _ act := h.not_mem_legs mem act
  handOver _ mem _ act := h.handOver mem act
  report _ mem _ act := h.report mem act
  kept _ found := (h.finish_sound found).not_batonDropped
  undelivered _ mem := h.undelivered mem

/-- Every schedule of every race keeps the state a token, whatever its executor does. -/
theorem singleToken_of_performAll {source : Source} {player : Player} {world : σ}
    {moves : List Move} (made : (launch source player world).performAll backend moves = some f) :
    f.SingleToken backend := by
  obtain ⟨p, stands, _⟩ := exists_place made
  exact stands.singleToken

/-- The home runner is handed a call while it still has the sender with which it handed over the one
before. -/
theorem singleToken_of_stale_sender :
    ∃ f, (launch twoLegs {} []).performAll (fun _ => recorder [])
        [.spawn homeLeg, .pass homeLeg, .wake 7, .play 7, .pass 7] = some f ∧
      f.runners.map (fun r => (r.activity.isIdle, r.mailbox?.isSome)) =
        [(true, true), (true, false)] ∧
      f.SingleToken fun _ => recorder [] := by
  have made : (launch twoLegs {} []).performAll (fun _ => recorder [])
      [.spawn homeLeg, .pass homeLeg, .wake 7, .play 7, .pass 7] = some _ := rfl
  exact ⟨_, made, rfl, singleToken_of_performAll made⟩

end Field

end TraceReplay
