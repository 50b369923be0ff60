import TraceReplay.Proofs.Race.Counting
import TraceReplay.Proofs.Race.Mirror
import TraceReplay.Session.Turns

/-!
# Watching a series

To watch a series changes nothing of what it does: what is seen (`Series.Adds`) is only added to, and the
same is added whatever was seen before (`race_watched`).
-/

namespace TraceReplay

variable {σ τ : Type}

/-- To watch a backend changes nothing. -/
theorem Backend.mirrors_unwatched (b : Backend σ) : Mirrors (fun s w => s.world = w) b.watched b := by
  have pass : ∀ {α : Type} (x : StateM σ α),
      Matches (fun (s : Watched σ) w => s.world = w) (Watched.pass x) x := by
    rintro α x s _ rfl
    exact ⟨rfl, rfl⟩
  refine ⟨⟨pass _, fun _ => pass _, fun _ _ => pass _, fun _ _ => pass _, fun _ _ => pass _, ?_⟩,
    fun _ => pass _, pass _, pass _, ?_, ?_, ?_, pass _⟩
  · rintro message s _ rfl
    exact ⟨rfl, rfl⟩
  · rintro s _ rfl
    rfl
  · rintro s _ rfl
    rfl
  · change Option.Rel _ (b.dump?.map Watched.pass) b.dump?
    cases b.dump? with
    | none => exact .none
    | some dump => exact .some (pass dump)

/-- Two worlds that are the same, of one of which something was seen before. No backend opens traces. -/
structure Watched.Behind (opened : List String) (told : List Message) (s t : Watched σ) : Prop where
  world : s.world = t.world
  opened : s.opened = opened
  told : s.told = told ++ t.told

/-- A backend does not look at what was seen of it. -/
theorem Backend.mirrors_behind (b : Backend σ) (opened : List String) (told : List Message) :
    Mirrors (Watched.Behind opened told) b.watched b.watched := by
  have pass : ∀ {α : Type} (x : StateM σ α),
      Matches (Watched.Behind opened told) (Watched.pass x) (Watched.pass x) := by
    rintro α x ⟨w, _, _⟩ ⟨v, _, _⟩ ⟨world, rfl, more⟩
    obtain rfl : w = v := world
    exact ⟨rfl, rfl, rfl, more⟩
  refine ⟨⟨pass _, fun _ => pass _, fun _ _ => pass _, fun _ _ => pass _, fun _ _ => pass _, ?_⟩,
    fun _ => pass _, pass _, pass _, ?_, ?_, ?_, pass _⟩
  · rintro message ⟨w, _, said⟩ ⟨v, _, said'⟩ ⟨world, rfl, more⟩
    obtain rfl : w = v := world
    obtain rfl : said = told ++ said' := more
    exact ⟨rfl, rfl, rfl, List.append_assoc ..⟩
  · rintro s t ⟨world, _, _⟩
    exact congrArg b.flushCrashed world
  · rintro s t ⟨world, _, _⟩
    exact congrArg b.summary? world
  · change Option.Rel _ (b.dump?.map Watched.pass) (b.dump?.map Watched.pass)
    cases b.dump? with
    | none => exact .none
    | some dump => exact .some (pass dump)

/-- A race has the same end when it is watched, and adds the same whatever was seen before. -/
theorem race_watched (v : Venue σ (StateM τ)) (source : Source) (p : Player) (w : Journaled (Watched σ)) :
    Ensures (Field.run (fun _ => v.watched.backend) source p) (.unseen w.world.world) fun raceEnd alone =>
      Ensures (Field.run (fun _ => v.watched.backend) source p) w fun raceEnd' after =>
        raceEnd' = raceEnd ∧ alone.world.world = after.world.world ∧
        Field.run (fun _ => v.backend) source p w.world.world = (raceEnd, after.world.world) ∧
        after.world.opened = w.world.opened ∧ after.world.told = w.world.told ++ alone.world.told ∧
        after.effects = w.effects ++ alone.effects ∧
        ∀ r, raceEnd = .finished r →
          Reference.Counted p.beginRace [homeLeg] source.calls alone.effects r := by
  have mirrors := v.backend.mirrors_unwatched.journaled_left
  obtain ⟨same, world⟩ := mirrors.race source p w w.world.world rfl
  have behind := (v.backend.mirrors_behind w.world.opened w.world.told).journaled w.effects
  obtain ⟨same', ⟨leaves, opened, told⟩, asked⟩ := behind.race source p w (.unseen w.world.world)
    ⟨⟨rfl, rfl, (List.append_nil _).symm⟩, (List.append_nil _).symm⟩
  have counted := Reference.run_counted (b := v.backend.watched) source p (.unseen w.world.world)
  rw [← Field.run_eq_reference] at counted
  obtain ⟨effects, alone, counted⟩ := counted
  obtain rfl : _ = effects := alone
  exact ⟨same', leaves.symm, Prod.ext (same.symm.trans same') world.symm, opened, told, asked, counted⟩

namespace Series

variable {v : Venue σ (StateM τ)} {s t u : Series (Journaled (Watched σ))}

/-- A series without the watch. -/
def unwatched (s : Series (Journaled (Watched σ))) : Series σ := ⟨s.config, s.world.world.world, s.player?⟩

/-- What was seen from one series to the other: the traces that were opened, what the backend was asked to
do, and what the user was told. -/
structure Adds (opened : List String) (effects : List Effect) (told : List Message)
    (s t : Series (Journaled (Watched σ))) : Prop where
  config : t.config = s.config
  opened : t.world.world.opened = s.world.world.opened ++ opened
  effects : t.world.effects = s.world.effects ++ effects
  told : t.world.world.told = s.world.world.told ++ told

namespace Adds

theorem refl (s : Series (Journaled (Watched σ))) : Adds [] [] [] s s :=
  ⟨rfl, (List.append_nil _).symm, (List.append_nil _).symm, (List.append_nil _).symm⟩

theorem trans {opened opened' : List String} {effects effects' : List Effect} {told told' : List Message}
    (h : Adds opened effects told s t) (h' : Adds opened' effects' told' t u) :
    Adds (opened ++ opened') (effects ++ effects') (told ++ told') s u := by
  refine ⟨h'.config.trans h.config, ?_, ?_, ?_⟩
  · rw [h'.opened, h.opened, List.append_assoc]
  · rw [h'.effects, h.effects, List.append_assoc]
  · rw [h'.told, h.told, List.append_assoc]

end Adds

theorem adds_tell (b : Backend σ) (message : Message) (s : Series (Journaled (Watched σ))) :
    Adds [] [] [message] s (tell b.watched.journaled s message) :=
  ⟨rfl, (List.append_nil _).symm, (List.append_nil _).symm, rfl⟩

theorem adds_foldl_tell (v : Venue σ (StateM τ)) (messages : List Message)
    (s : Series (Journaled (Watched σ))) :
    Adds [] [] messages s (messages.foldl (tell v.watched.backend) s) ∧
      (messages.foldl (tell v.watched.backend) s).unwatched = messages.foldl (tell v.backend) s.unwatched ∧
      (messages.foldl (tell v.watched.backend) s).world.world.world =
        v.afterTelling messages s.world.world.world := by
  induction messages generalizing s with
  | nil => exact ⟨.refl s, rfl, rfl⟩
  | cons message messages ih =>
    obtain ⟨adds, unwatched, world⟩ := ih (s.tell v.watched.backend message)
    exact ⟨(adds_tell v.backend message s).trans adds, unwatched, world⟩

/-- What is told of a race, and who is left of the player. -/
theorem conclude_watched (v : Venue σ (StateM τ)) (s : Series (Journaled (Watched σ)))
    (lost : s.player? = none) (path : String) (reader : Reader) (raceEnd : RaceEnd) (elapsed : Duration)
    (effects : List Effect) (during : List Message) (p : Player) {turn : Turn}
    (same : turn = .raced path reader raceEnd elapsed (v.backend.summary? s.world.world.world) effects
      during) :
    ∃ t, conclude v.watched.backend s path elapsed raceEnd = (turn.result, t) ∧
      conclude v.backend s.unwatched path elapsed raceEnd = (turn.result, t.unwatched) ∧
      t.player? = turn.player? p ∧ Adds [] [] (turn.closing s.config) s t ∧
      t.world.world.world = v.afterTelling (turn.closing s.config) s.world.world.world := by
  subst same
  cases raceEnd with
  | failed e | crashed => exact ⟨s, rfl, rfl, lost, .refl s, rfl⟩
  | finished r =>
    obtain ⟨adds, unwatched, world⟩ := adds_foldl_tell v
      ((⟨path, r.outcome, .ofCounters r.player.counters r.legs.length elapsed
        (v.backend.summary? s.world.world.world), r.workersStopped⟩ : TraceResult).closing s.config) s
    refine ⟨_, rfl, Prod.ext rfl ?_, rfl, ⟨adds.config, adds.opened, adds.effects, adds.told⟩, world⟩
    exact congrArg (fun u : Series σ => { u with player? := some r.player }) unwatched.symm

/-- A wait is told, and leaves the rest as it is. -/
theorem pause_watched (s : Series (Journaled (Watched σ))) (x : τ) :
    ∃ t y, pause v.watched s x = (t, y) ∧ pause v s.unwatched x = (t.unwatched, y) ∧
      t.player? = s.player? ∧ Adds [] [] (if s.config.waits then [prompt] else []) s t ∧
      (t.world.world.world, y) = v.afterWaiting s.config (s.world.world.world, x) := by
  rw [pause, pause, Venue.afterWaiting]
  have same : s.unwatched.config.waits = s.config.waits := rfl
  rw [same]
  split
  · obtain ⟨config, opened, effects, told⟩ := adds_tell v.backend prompt s
    exact ⟨_, _, rfl, rfl, rfl, ⟨config, opened, effects, told⟩, rfl⟩
  · exact ⟨s, x, rfl, rfl, rfl, .refl s, rfl⟩

end Series

end TraceReplay
