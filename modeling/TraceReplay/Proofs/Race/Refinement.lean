import TraceReplay.Proofs.Race.Settling
import TraceReplay.Race.Reference
import TraceReplay.Replay.Journal

/-!
# A race does what one thread does

Wherever the state of a race is, one can say what one thread would make of it from there
(`Place.outcome`). No move changes that (`Leads.outcome_eq`), so what comes out of a race is what
`Reference.run` makes of its start: the result, the player in it, and everything the backend was asked
to do, whatever the order of the moves. Here the backend looks the same to every runner.
-/

namespace TraceReplay

variable {σ : Type} {b : Backend σ}

namespace Reference

variable {fault? : Option TraceError} {c : Call} {cs : List Call} {previous? : Option Leg}
  {legs : List Leg} {player : Player} {w v : σ}

/-- Replay from here on when the flush was made. -/
theorem follow_cons_of_done (changed : change b previous? c.leg w = (.done, v)) :
    follow b fault? (c :: cs) previous? legs player w =
      match (player.play b c v).1.1 with
      | .proceed =>
        follow b fault? cs (some c.leg) (insertLeg c.leg legs) (player.play b c v).1.2
          (player.play b c v).2
      | .stop =>
        (finish (.stateDumped c.no) (player.play b c v).1.2 (insertLeg c.leg legs),
          (player.play b c v).2)
      | .failed fault => (.failed (.executor fault), (player.play b c v).2)
      | .crashed => (loss c.leg, (player.play b c v).2) := by
  rw [follow]
  simp only [bind, StateT.bind, changed]
  rcases player.play b c v with ⟨⟨_ | _ | _ | _, player⟩, w'⟩ <;> rfl

theorem change_self (b : Backend σ) (leg : Leg) (w : σ) : change b (some leg) leg w = (.done, w) := by
  rw [change, if_pos rfl]
  rfl

/-- Once the flush was made, it does not matter where the replay came from. -/
theorem follow_cons_eq (changed : change b previous? c.leg w = (.done, v)) :
    follow b fault? (c :: cs) previous? legs player w =
      follow b fault? (c :: cs) (some c.leg) legs player v := by
  rw [follow_cons_of_done changed, follow_cons_of_done (change_self b c.leg v)]

/-- Whether the leg of the next call has a runner already does not matter. -/
theorem follow_insertLeg : follow b fault? (c :: cs) (some c.leg) (insertLeg c.leg legs) player w =
    follow b fault? (c :: cs) (some c.leg) legs player w := by
  rw [follow_cons_of_done (change_self b c.leg w), follow_cons_of_done (change_self b c.leg w),
    insertLeg_insertLeg]

/-- A flush that fails, or takes its thread along, is the end. -/
theorem follow_cons_of_failed {fault : Fault} (changed : change b previous? c.leg w = (.failed fault, v)) :
    follow b fault? (c :: cs) previous? legs player w = (.failed (.executor fault), v) := by
  rw [follow]
  simp only [bind, StateT.bind, changed]
  rfl

theorem follow_cons_of_crashed (changed : change b previous? c.leg w = (.crashed, v)) :
    follow b fault? (c :: cs) previous? legs player w = (loss (previous?.getD homeLeg), v) := by
  rw [follow]
  simp only [bind, StateT.bind, changed]
  rfl

end Reference

/-- What one thread makes of a race from here. -/
def Place.outcome (b : Backend σ) : Place → StateM σ RaceEnd
  | running ⟨call, state⟩ | passing _ ⟨call, state⟩ | mailed ⟨call, state⟩ =>
    Reference.follow b state.source.fault? (call :: state.source.calls) (some call.leg) state.legs
      state.player
  | finishing _ finish | onFinishLine finish =>
    pure (Field.resultOf finish (finish.state.legs.length - 1))
  | stopping finish left stopped => pure (Field.resultOf finish (stopped + left.length))
  | settled result => pure result
  | lost leg => pure (Reference.loss leg)

namespace Field

variable {f g : Field σ} {p q : Place}

/-- A runner that plays a call goes on as one thread would. -/
theorem outcome_playBaton {baton : Baton} {w : σ} (sorted : baton.state.legs.Pairwise (· < ·))
    (known : baton.call.leg ∈ baton.state.legs) :
    (Place.running baton).outcome b w =
      (Place.after baton.call.leg (playBaton b baton.call.leg baton w).1).outcome b
        (playBaton b baton.call.leg baton w).2 := by
  obtain ⟨call, ⟨⟨calls, fault?⟩, player, legs⟩⟩ := baton
  rw [playBaton_eq, Place.outcome, Reference.follow_cons_of_done (Reference.change_self b call.leg w),
    insertLeg_of_mem sorted known]
  generalize player.play b call w = played
  obtain ⟨⟨verdict, player⟩, v⟩ := played
  cases verdict with
  | stop | failed _ | crashed => rfl
  | proceed =>
    cases calls with
    | nil => cases fault? <;> rfl
    | cons next rest =>
      simp only [afterPlay, Source.next]
      by_cases own : next.leg = call.leg
      · rw [if_pos own, ← own]
        rfl
      · rw [if_neg own]
        have flush : Reference.change b (some call.leg) next.leg = b.handOver := by
          rw [Reference.change, if_neg (Ne.symm own)]
        simp only [bind, StateT.bind]
        cases handed : b.handOver v with
        | mk answer u =>
          have changed := (congrFun flush v).trans handed
          cases answer with
          | done => exact Reference.follow_cons_eq changed
          | failed fault => exact Reference.follow_cons_of_failed changed
          | crashed => exact Reference.follow_cons_of_crashed changed

/-- The home runner begins as one thread would. -/
theorem outcome_opening (b : Backend σ) (source : Source) (player : Player) (w : σ) :
    (Place.after homeLeg (opening source player)).outcome b w = Reference.run b source player w := by
  obtain ⟨calls, fault?⟩ := source
  cases calls with
  | nil => cases fault? <;> rfl
  | cons call rest =>
    have begun : Reference.run b ⟨call :: rest, fault?⟩ player w =
        Reference.follow b fault? (call :: rest) (some call.leg) [homeLeg] player.beginRace w :=
      Reference.follow_cons_eq rfl
    rw [begun]
    simp only [opening, Source.next]
    split <;> rfl

/-- No move changes what one thread would make of the race. -/
theorem Leads.outcome_eq {move : Move} (h : f.Stands p) (leads : Leads (fun _ => b) move f p g q) :
    p.outcome b f.world = q.outcome b g.world := by
  have advance := leads.advance
  have sound := h.sound
  have nodup := h.nodup
  have home := h.home
  generalize f.world = w at advance ⊢
  generalize g.world = v at advance ⊢
  cases advance with
  | play baton =>
    obtain ⟨known, knows⟩ := sound
    exact outcome_playBaton knows.sorted ((knows.mem_iff _).2 known)
  | spawn leg baton => exact Reference.follow_insertLeg.symm
  | close finish =>
    obtain ⟨_, sound⟩ := sound
    have workers := sound.knows.length_workers nodup home
    have length := sound.knows.length_eq nodup
    have same : finish.state.legs.length - 1 =
        0 + (finish.state.legs.filter (· ≠ homeLeg)).length := by omega
    rw [Place.outcome, same]
    rfl
  | join finish leg left stopped =>
    have same : stopped + (leg :: left).length = stopped + 1 + left.length := by
      rw [List.length_cons]
      omega
    rw [Place.outcome, same]
    rfl
  | wake | pass | deliver | collect | settle | release | leave | giveUp => rfl

/-- No schedule does. -/
theorem Stands.outcome_eq {moves : List Move} (h : f.Stands p)
    (made : f.performAll (fun _ => b) moves = some g) (h' : g.Stands q) :
    p.outcome b f.world = q.outcome b g.world := by
  induction moves generalizing f p with
  | nil =>
    obtain rfl := Option.some.inj made
    rw [h.eq_of_has h'.has]
  | cons move moves ih =>
    obtain ⟨e, first, rest⟩ := performAll_cons_eq_some_iff.1 made
    obtain ⟨p', leads⟩ := h.perform first
    rw [leads.outcome_eq h, ih leads.stands rest]

/-- What the one who started the race sees is what one thread makes of it. -/
theorem Stands.outcome_of_end {result : RaceEnd} (h : f.Stands p) (ended : f.end? = some result) :
    p.outcome b f.world = (result, f.world) := by
  rcases h.end?_cases ended with rfl | ⟨rfl, rfl⟩ | ⟨leg, away, rfl, rfl⟩
  · rfl
  · rfl
  · rw [Place.outcome, Reference.loss, if_neg away]
    rfl

/-- What comes out of a race is what one thread makes of its calls. -/
theorem reference_eq_of_end {source : Source} {player : Player} {world : σ} {moves : List Move}
    {result : RaceEnd}
    (made : (launch source player world).performAll (fun _ => b) moves = some f)
    (ended : f.end? = some result) :
    Reference.run b source player world = (result, f.world) := by
  have begun := stands_launch source player world
  obtain ⟨p, stands, _⟩ := exists_place made
  rw [← outcome_opening, ← stands.outcome_of_end ended]
  exact begun.outcome_eq made stands

/-- When no thread runs any more, the one who started the race has got something. -/
theorem Stands.exists_end (h : f.Stands p) (finished : f.IsOver) : ∃ result, f.end? = some result := by
  rcases h.settled_or_lost finished with ⟨result, rfl⟩ | ⟨leg, rfl⟩
  · exact ⟨result, h.end?_settled⟩
  · by_cases home : leg = homeLeg
    · subst home
      exact ⟨_, h.end?_lost_home⟩
    · exact ⟨_, h.end?_lost home finished⟩

/-- The schedule that `run` follows is one of them. -/
theorem run_eq_reference (b : Backend σ) (source : Source) (player : Player) :
    run (fun _ => b) source player = Reference.run b source player := by
  funext world
  have begun := stands_launch source player world
  have enough : (launch source player world).cost (.after homeLeg (opening source player)) ≤
      moveBound source.calls.length := by
    have := cost_launch_le source player world
    unfold Source.remaining at this
    unfold moveBound
    omega
  obtain ⟨moves, g, made, eq, finished⟩ := begun.isOver_exhaust (fun _ => b) enough
  obtain ⟨p, stands, _⟩ := exists_place made
  obtain ⟨result, ended⟩ := stands.exists_end finished
  rw [reference_eq_of_end made ended, run, eq, ended, Option.getD_some]

/-- A schedule of a race whose backend keeps a journal agrees with one thread that replays the same
calls with the same backend: on what the one who started it gets, the player included, on the state of
the world, and on everything the backend was asked to do, in order. -/
structure Refines (b : Backend σ) (source : Source) (player : Player) (world : σ)
    (moves : List Move) (f : Field (Journaled σ)) : Prop where
  bounded : moves.length ≤ moveBound source.remaining
  /-- As soon as there is a result, it is the one of the reference, with the same effects. -/
  agrees : ∀ result, f.end? = some result →
    Reference.run b.journaled source player ⟨world, []⟩ = (result, f.world)
  /-- There is one when nobody can move any more. -/
  complete : (∀ move, f.perform (fun _ => b.journaled) move = none) →
    ∃ result, f.end? = some result

/-- Every schedule of every race does what one thread does. -/
theorem race_refines_reference {source : Source} {player : Player} {world : σ} {moves : List Move}
    {f : Field (Journaled σ)}
    (made : (launch source player ⟨world, []⟩).performAll (fun _ => b.journaled) moves = some f) :
    Refines b source player world moves f := by
  obtain ⟨p, stands, bound⟩ := exists_place made
  refine ⟨?_, fun result ended => reference_eq_of_end made ended, fun stuck => ?_⟩
  · unfold moveBound
    omega
  · refine stands.exists_end ?_
    by_contra running
    obtain ⟨_, _, move, _, g, possible⟩ := stands.exists_move (fun _ => b.journaled) running
    cases (stuck move).symm.trans possible

/-- The home runner plays the second call while it still has a sender, and the worker leaves last. -/
theorem race_refines_reference_of_two_legs :
    ∃ f, (launch twoLegs {} ⟨[], []⟩).performAll (fun _ => (recorder []).journaled)
        [.spawn homeLeg, .pass homeLeg, .wake 7, .play 7, .pass 7, .release homeLeg, .wake homeLeg,
          .play homeLeg, .close, .release 7, .leave 7, .join, .settle] = some f ∧
      f.world.world = [1, 2] ∧ f.world.effects.length = 3 ∧ f.end?.isSome = true ∧
      Refines (recorder []) twoLegs {} [] [.spawn homeLeg, .pass homeLeg, .wake 7, .play 7, .pass 7,
        .release homeLeg, .wake homeLeg, .play homeLeg, .close, .release 7, .leave 7, .join, .settle] f := by
  have made : (launch twoLegs {} ⟨[], []⟩).performAll (fun _ => (recorder []).journaled)
      [.spawn homeLeg, .pass homeLeg, .wake 7, .play 7, .pass 7, .release homeLeg, .wake homeLeg,
        .play homeLeg, .close, .release 7, .leave 7, .join, .settle] = some _ := rfl
  exact ⟨_, made, rfl, rfl, rfl, race_refines_reference made⟩

end Field

end TraceReplay
