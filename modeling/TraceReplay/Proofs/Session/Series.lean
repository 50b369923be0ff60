import TraceReplay.Session.Series

/-!
# Sessions are series

What is replayed in a session is replayed in its series, and the same comes of it
(`Session.runAll_eq_series`).
-/

namespace TraceReplay.Session

/-- What comes of a series, as a session has it. -/
def told {α : Type} (x : Except Setback α × Series Studio) : Except ReplayError α × Session :=
  (x.1.mapError Setback.error, ofSeries x.2)

@[simp] theorem told_error {α : Type} (e : Setback) (s : Series Studio) :
    told ((.error e : Except Setback α), s) = (.error e.error, ofSeries s) := rfl

@[simp] theorem told_ok {α : Type} (a : α) (s : Series Studio) :
    told (.ok a, s) = (.ok a, ofSeries s) := rfl

theorem ofSeries_foldl_tell (codec : ImageCodec) (messages : List Message) (s : Series Studio) :
    ofSeries (messages.foldl (Series.tell (Studio.backend codec)) s) = messages.foldl tell (ofSeries s) := by
  induction messages generalizing s with
  | nil => rfl
  | cons message messages ih => exact ih (s.tell (Studio.backend codec) message)

/-- What is told of a race that ended well, and who is left. -/
theorem conclude_finished (codec : ImageCodec) (s : Session) (name : String) (elapsed : Duration)
    (result : RaceResult) {told : TraceResult}
    (same : told = ⟨name, result.outcome, .ofCounters result.player.counters result.legs.length elapsed
      ((Studio.backend codec).summary? s.studio), result.workersStopped⟩) :
    s.conclude codec name elapsed (.finished result) =
      (.ok told, { (told.closing s.config).foldl tell s with player? := some result.player }) := by
  subst same
  obtain ⟨outcome, player, legs, stopped⟩ := result
  cases outcome with
  | stateDumped callNo => rfl
  | completed =>
    have config : ∀ message, (s.tell message).config = s.config := fun _ => rfl
    rw [conclude, TraceResult.closing]
    dsimp only
    rw [config, List.foldl_cons]
    split
    · rw [List.foldl_map]
    · rfl

theorem conclude_eq (codec : ImageCodec) (s : Session) (name : String) (elapsed : Duration)
    (raceEnd : RaceEnd) :
    s.conclude codec name elapsed raceEnd =
      told (s.toSeries.conclude (Studio.backend codec) name elapsed raceEnd) := by
  cases raceEnd with
  | failed e | crashed => rfl
  | finished result =>
    rw [conclude_finished codec s name elapsed result rfl]
    refine Prod.ext rfl ?_
    exact congrArg (fun t : Session => { t with player? := some result.player })
      (ofSeries_foldl_tell codec _ s.toSeries).symm

section

variable {m : Type → Type} [Monad m] [LawfulMonad m] (out : Surroundings m) (codec : ImageCodec)
  (s : Session)

theorem runSource_eq (name : String) (source : Source) :
    runSource out codec s name source =
      told <$> s.toSeries.runSource (Studio.venue out codec) name source := by
  rw [runSource, Series.runSource]
  cases player : s.player? with
  | none =>
    have same : s.toSeries.player? = none := player
    simp only [same, map_pure]
    rfl
  | some p =>
    have same : s.toSeries.player? = some p := player
    simp only [same, map_bind, conclude_eq]
    refine bind_congr fun begun => ?_
    change _ = told <$> (out.now >>= fun ended => pure (Series.conclude (Studio.backend codec)
      { s.toSeries with
        world := (Field.run (fun _ => Studio.backend codec) source p s.studio).2
        player? := none }
      name (.ofNanos (ended - begun)) (Field.run (fun _ => Studio.backend codec) source p s.studio).1))
    simp only [map_bind, map_pure]
    rfl

theorem runTrace_eq (path : String) :
    runTrace out codec s path = told <$> s.toSeries.runTrace (Studio.venue out codec) path := by
  rw [runTrace, Series.runTrace]
  have opens : (Studio.venue out codec).openTrace path s.toSeries.world =
      (openTrace s.studio.files path, s.studio) := rfl
  rw [opens]
  cases openTrace s.studio.files path with
  | error e =>
    simp only [map_pure]
    rfl
  | ok reader => exact runSource_eq out codec _ path reader.toSource

theorem pause_eq : pause out s = ofSeries <$> s.toSeries.pause (Studio.venue out codec) := by
  rw [pause, Series.pause]
  have waits : s.toSeries.config.waits = s.config.waits := rfl
  rw [waits]
  split
  · simp only [map_bind, map_pure]
    rfl
  · exact (map_pure ofSeries s.toSeries).symm

theorem runList_eq (paths : List String) :
    runList out codec paths s = told <$> Series.runList (Studio.venue out codec) paths s.toSeries := by
  induction paths generalizing s with
  | nil =>
    simp only [runList, Series.runList, map_pure]
    rfl
  | cons path paths ih =>
    rw [runList, Series.runList, runTrace_eq]
    simp only [map_bind, bind_map_left]
    refine bind_congr fun first => ?_
    obtain ⟨answer, t⟩ := first
    cases answer with
    | error e => simp only [told_error, map_pure]
    | ok result =>
      obtain ⟨trace, outcome, report, stopped⟩ := result
      cases outcome with
      | stateDumped callNo => simp only [told_ok, map_pure]
      | completed =>
        simp only [told_ok, map_bind, map_pure]
        rw [pause_eq out codec, bind_map_left]
        refine bind_congr fun u => ?_
        rw [ih, bind_map_left]
        refine bind_congr fun others => ?_
        obtain ⟨rest, t⟩ := others
        cases rest <;> rfl

/-- A session replays its traces as its series does. -/
theorem runAll_eq_series :
    runAll out codec s = told <$> s.toSeries.runAll (Studio.venue out codec) :=
  runList_eq out codec s s.config.traces

end

end TraceReplay.Session
