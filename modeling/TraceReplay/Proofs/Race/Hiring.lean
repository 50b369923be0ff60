import TraceReplay.Proofs.Race.Recounting
import TraceReplay.Proofs.Race.Settling

/-!
# Runners are made on demand

`Field.hires` lists the legs for which a worker is made in a schedule. They are the runners that are added
to the field (`legs_performAll`), which never has two of one leg, and the legs of a race are those of the
calls that turned up (`Place.Recounts`). So a race that ends well has made one worker for each leg other
than the home leg of which a call was performed, and no other (`runners_on_demand`).
-/

namespace TraceReplay.Field

open Reference (admitAll_facts)

variable {σ : Type} {f g : Field σ} {p : Place} {leg : Leg}

/-- The leg of the worker that is made by a move, if it makes one. -/
def hire? (f : Field σ) : Move → Option Leg
  | .spawn leg =>
    match f.runner? leg with
    | some { activity := .passing baton, .. } => some baton.call.leg
    | _ => none
  | _ => none

/-- The legs of the workers that are made in a schedule, up to the first move that cannot be made. -/
def hires (backend : Leg → Backend σ) : Field σ → List Move → List Leg
  | _, [] => []
  | f, move :: moves =>
    match f.perform backend move with
    | none => []
    | some g => (f.hire? move).toList ++ g.hires backend moves

theorem legs_send {baton : Baton} {receiver : Runner} (sent : f.send leg baton receiver = some g) :
    g.legs = f.legs := by
  unfold send at sent
  split at sent
  · obtain rfl := Option.some.inj sent
    exact legs_become ..
  · split at sent
    · cases sent
    · obtain rfl := Option.some.inj sent
      exact (legs_become ..).trans (legs_modify fun _ => rfl)

/-- One move adds the runner that it makes. -/
theorem legs_perform {backend : Leg → Backend σ} {move : Move} (made : f.perform backend move = some g) :
    g.legs = f.legs ++ (f.hire? move).toList := by
  have same : f.hire? move = none → g.legs = f.legs → g.legs = f.legs ++ (f.hire? move).toList :=
    fun none legs => by rw [none, legs, Option.toList_none, List.append_nil]
  cases move with
  | spawn leg =>
    obtain ⟨⟨_, _, _⟩, baton, found, rfl, _, rfl⟩ := spawn_eq_some_iff.1 made
    rw [legs_hire, legs_become]
    simp only [hire?, found, Option.toList_some]
  | wake leg =>
    obtain ⟨_, _, _, _, _, rfl⟩ := wake_eq_some_iff.1 made
    exact same rfl (legs_modify fun _ => rfl)
  | play leg =>
    obtain ⟨_, _, _, _, rfl⟩ := play_eq_some_iff.1 made
    exact same rfl (legs_become ..)
  | pass leg =>
    obtain ⟨_, _, _, _, _, _, _, sent⟩ := pass_eq_some_iff.1 made
    exact same rfl (legs_send sent)
  | release leg =>
    obtain ⟨_, _, _, _, rfl⟩ := release_eq_some_iff.1 made
    exact same rfl (legs_become ..)
  | deliver leg =>
    refine same rfl ?_
    change f.deliver leg = some g at made
    unfold deliver at made
    split at made
    · split at made
      · cases made
      · split at made
        · obtain rfl := Option.some.inj made
          exact legs_become ..
        · split at made
          · cases made
          · obtain rfl := Option.some.inj made
            exact legs_become ..
    · cases made
  | collect =>
    obtain ⟨_, _, _, _, _, rfl⟩ := collect_eq_some_iff.1 made
    exact same rfl (legs_become ..)
  | close =>
    obtain ⟨_, _, _, _, rfl⟩ := close_eq_some_iff.1 made
    exact same rfl (legs_become ..)
  | leave leg =>
    obtain ⟨_, _, _, _, _, rfl⟩ := leave_eq_some_iff.1 made
    exact same rfl (legs_become ..)
  | join =>
    obtain ⟨_, _, _, _, _, _, _, _, _, ⟨_, rfl⟩ | ⟨_, rfl⟩⟩ := join_eq_some_iff.1 made <;>
      exact same rfl (legs_become ..)
  | settle =>
    obtain ⟨_, _, _, _, _, rfl⟩ := settle_eq_some_iff.1 made
    exact same rfl (legs_become ..)
  | giveUp =>
    obtain ⟨_, _, _, _, rfl⟩ := giveUp_eq_some_iff.1 made
    exact same rfl (legs_become ..)

/-- The runners of a race are those that it began with and those that were made. -/
theorem legs_performAll {backend : Leg → Backend σ} {moves : List Move}
    (made : f.performAll backend moves = some g) : g.legs = f.legs ++ f.hires backend moves := by
  induction moves generalizing f with
  | nil =>
    obtain rfl := Option.some.inj made
    exact (List.append_nil _).symm
  | cons move moves ih =>
    obtain ⟨e, first, rest⟩ := performAll_cons_eq_some_iff.1 made
    rw [ih rest, legs_perform first, hires, first, List.append_assoc]

/-- The runners of a race that ended well, after these effects and with these workers made. -/
structure OnDemand (source : Source) (effects : List Effect) (hired : List Leg) (result : RaceResult) :
    Prop where
  /-- In ascending order, and each once. -/
  sorted : result.legs.Pairwise (· < ·)
  /-- The home leg is there even if it had nothing to do. -/
  mem_iff : ∀ leg, leg ∈ result.legs ↔ leg = homeLeg ∨ ∃ c ∈ retraced effects, c.leg = leg
  /-- However often the state comes back to a leg, its worker is made once. -/
  once : ∀ leg, hired.count leg = if leg ∈ result.legs ∧ leg ≠ homeLeg then 1 else 0
  stopped : result.workersStopped + 1 = result.legs.length
  /-- A dump cuts the race short. -/
  order : retraced effects <+: source.calls
  whole : result.outcome = .completed → retraced effects = source.calls

/-- The legs of a race that was settled are those of its runners. -/
theorem Stands.knows_of_settled {result : RaceResult} (h : f.Stands (.settled (.finished result))) :
    ∃ state : RaceState, state.Knows f.legs ∧ result.legs = state.legs := by
  obtain ⟨finish, stopped, given, sound, _⟩ := h.sound
  unfold resultOf at given
  split at given <;> cases given
  exact ⟨finish.state, sound.knows, rfl⟩

/-- Every schedule of every race that ends well makes its runners on demand. -/
theorem runners_on_demand {backend : Leg → Backend σ} {source : Source} {player : Player} {world : σ}
    {moves : List Move} {f : Field (Journaled σ)} {result : RaceResult}
    (made : (launch source player ⟨world, []⟩).performAll (fun leg => (backend leg).journaled) moves =
      some f) (ended : f.end? = some (.finished result)) :
    OnDemand source f.world.effects
      ((launch source player ⟨world, []⟩).hires (fun leg => (backend leg).journaled) moves) result := by
  obtain ⟨p, stands, _⟩ := exists_place made
  obtain rfl : p = .settled (.finished result) := by
    rcases stands.end?_cases ended with settled | ⟨_, lost⟩ | ⟨_, _, _, lost⟩
    · exact settled
    · cases lost
    · cases lost
  have recounts := recounts_of_performAll stands made result rfl
  obtain ⟨sorted, mem_iff⟩ := admitAll_facts (retraced f.world.effects) (List.pairwise_singleton _ homeLeg)
  rw [← recounts.legs] at sorted mem_iff
  have runners : f.legs =
      homeLeg :: (launch source player ⟨world, []⟩).hires (fun leg => (backend leg).journaled) moves :=
    legs_performAll made
  obtain ⟨state, knows, same⟩ := stands.knows_of_settled
  have length := knows.length_eq stands.nodup
  have stopped := stands.workersStopped_eq
  have nodup := stands.nodup
  rw [length_legs] at length
  rw [runners] at knows nodup
  obtain ⟨away, nodup⟩ := List.nodup_cons.1 nodup
  refine ⟨sorted, fun leg => ?_, fun leg => ?_, ?_, recounts.order, recounts.whole⟩
  · rw [mem_iff, List.mem_singleton]
  · rw [nodup.count]
    refine if_congr ?_ rfl rfl
    rw [same, knows.mem_iff, List.mem_cons]
    constructor
    · exact fun hired => ⟨.inr hired, fun home => away (home ▸ hired)⟩
    · rintro ⟨rfl | hired, other⟩
      · exact absurd rfl other
      · exact hired
  · rw [stopped, same, length]

/-- A backend to try it with: each dump works. -/
def dumpingRecorder : Backend (List UInt32) := { recorder [] with dump? := some (pure true) }

/-- A race to try it with: it begins away from home, comes back to its worker, and is to be cut short before
the last leg turns up. -/
def threeLegs : Source :=
  .ofCalls [⟨1, 7, ⟨0⟩, []⟩, ⟨2, homeLeg, ⟨0⟩, []⟩, ⟨3, 7, ⟨0⟩, []⟩, ⟨4, 9, ⟨0⟩, []⟩]

/-- A schedule of it: the state goes to the worker, comes home, and ends with the worker. -/
def thereAndBack : List Move :=
  [.spawn homeLeg, .pass homeLeg, .wake 7, .play 7, .pass 7, .release homeLeg, .wake homeLeg, .play homeLeg,
    .pass homeLeg, .release 7, .wake 7, .play 7, .deliver 7, .release homeLeg, .collect, .close, .release 7,
    .leave 7, .join, .settle]

/-- The worker that was there already dumps the state, and the other one is never made. -/
theorem runners_on_demand_of_dump :
    ∃ f result, (launch threeLegs { dumpAt? := some 3 } ⟨[], []⟩).performAll
        (fun _ => dumpingRecorder.journaled) thereAndBack = some f ∧
      f.end? = some (.finished result) ∧ result.outcome = .stateDumped 3 ∧ result.legs = [homeLeg, 7] ∧
      OnDemand threeLegs f.world.effects [7] result := by
  have made : (launch threeLegs { dumpAt? := some 3 } ⟨[], []⟩).performAll
      (fun _ => dumpingRecorder.journaled) thereAndBack = some _ := rfl
  exact ⟨_, _, made, rfl, rfl, rfl, runners_on_demand made rfl⟩

end TraceReplay.Field
