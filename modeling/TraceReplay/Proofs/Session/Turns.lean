import Mathlib.Algebra.GroupWithZero.Nat
import TraceReplay.Proofs.Session.Series
import TraceReplay.Proofs.Session.Watching

/-!
# A series takes turns

Traces are replayed one after the other, by one player. What is seen of a series is what is seen of its
turns (`Series.InTurns`): a turn adds what its own race adds, and its result is about the calls of the trace
that was opened for it (`Turn.Replays`). Its report has the figures of these calls alone, since the counters
of a race begin at zero (`Reference.Counted.figures`). There is a next turn only after a trace of which every
call was replayed. A session does the same in its studio (`Session.runAll_inTurns`).
-/

namespace TraceReplay

variable {σ τ : Type}

/-- The turn of a trace that this player replays, from the world and what is outside when the trace is to be
opened to those when the user was told the end. -/
inductive Turn.IsOf (v : Venue σ (StateM τ)) (config : Config) (p : Player) :
    σ × τ → Turn → σ × τ → Prop
  /-- The venue cannot open the trace, for this cause. -/
  | unopened {path : String} {error : TraceError} {w left : σ} {x : τ}
      (opens : v.openTrace path w = (.error error, left)) :
      IsOf v config p (w, x) (.unopened path error) (left, x)
  /-- The venue opens the trace, and its calls are replayed from there, however the runners move. -/
  | raced {turn : Turn} {path : String} {reader : Reader} {raceEnd : RaceEnd}
      {race : Journaled (Watched σ)} {w opened : σ} {x : τ}
      (opens : v.openTrace path w = (.ok reader, opened))
      (runs : Field.run (fun _ => v.watched.backend) reader.toSource p
        (.unseen (v.afterTelling [reader.announcement path] opened)) = (raceEnd, race))
      (schedules : ∀ moves f result,
        (Field.launch reader.toSource p
          (.unseen (v.afterTelling [reader.announcement path] opened))).performAll
            (fun _ => v.watched.backend) moves = some f →
          f.end? = some result → (result, f.world) = (raceEnd, race))
      (seen : turn = .raced path reader raceEnd (v.timed x).1 (v.backend.summary? race.world.world)
        race.effects race.world.told) :
      IsOf v config p (w, x) turn (v.afterTelling (turn.closing config) race.world.world, (v.timed x).2)

/-- One player takes the turns, each from where the one before and the wait behind it have led, up to the first
that does not replay all its calls. -/
inductive Lineage (v : Venue σ (StateM τ)) (config : Config) :
    Player → σ × τ → List Turn → Option Player → σ × τ → Prop
  | over (p : Player) (here : σ × τ) : Lineage v config p here [] (some p) here
  | next {p q : Player} {turn : Turn} {turns : List Turn} {last? : Option Player} {before after last : σ × τ}
      (is : turn.IsOf v config p before after) (completes : turn.completes = true)
      (left : turn.player? p = some q) (rest : Lineage v config q (v.afterWaiting config after) turns last? last) :
      Lineage v config p before (turn :: turns) last? last
  | last {p : Player} {turn : Turn} {before after : σ × τ} (is : turn.IsOf v config p before after)
      (ends : turn.completes = false) : Lineage v config p before [turn] (turn.player? p) after

/-- The figures of a report are those of these calls. -/
structure TraceResult.Figures (r : TraceResult) (withCpu : Bool) (cs : List Call) : Prop where
  calls : r.report.calls = cs.length
  frames : r.report.frames = cs.countP Call.endsFrame
  legs : r.report.legs = (insert homeLeg (cs.map Call.leg).toFinset).card
  samples : r.report.cpu?.map CpuSummary.calls = if withCpu ∧ cs ≠ [] then some cs.length else none

/-- CPU times are summed up if there are any. -/
theorem Counters.calls_cpu (c : Counters) :
    (c.cpuTimes?.bind CpuSummary.ofHistogram?).map CpuSummary.calls = c.cpuSamples?.filter (· != 0) := by
  unfold cpuSamples?
  cases c.cpuTimes? with
  | none => rfl
  | some h =>
    rw [Option.bind_some, CpuSummary.ofHistogram?, Histogram.isEmpty, Option.map_some, Option.filter_some]
    cases none : h.size == 0 <;> simp [bne, none]

namespace Reference.Counted

variable {p : Player} {calls : List Call} {effects : List Effect} {result : RaceResult}
  (h : Counted p.beginRace [homeLeg] calls effects result)
include h

/-- The counters of a race begin at zero. -/
theorem cpuSamples :
    result.player.counters.cpuSamples? =
      if p.counters.cpuTimes?.isSome then some (retraced effects).length else none := by
  have begun : p.beginRace.counters.cpuSamples? = if p.counters.cpuTimes?.isSome then some 0 else none := by
    change (p.counters.cpuTimes?.map fun _ => ({} : Histogram)).map Histogram.size = _
    cases p.counters.cpuTimes? <;> rfl
  rw [h.grows.samples, begun]
  cases p.counters.cpuTimes?.isSome <;> simp

theorem figures (path : String) (elapsed : Duration) (summary? : Option String) :
    TraceResult.Figures ⟨path, result.outcome,
      .ofCounters result.player.counters result.legs.length elapsed summary?, result.workersStopped⟩
      p.counters.cpuTimes?.isSome (retraced effects) := by
  refine ⟨h.grows.calls.trans (Nat.zero_add _), h.grows.frames.trans (Nat.zero_add _), ?_, ?_⟩
  · rw [← length_admitAll, ← h.legs]
    rfl
  · refine (Counters.calls_cpu _).trans ?_
    rw [h.cpuSamples]
    cases p.counters.cpuTimes?.isSome <;> cases retraced effects <;> simp

theorem withCpu : result.player.counters.cpuTimes?.isSome = p.counters.cpuTimes?.isSome := by
  have samples := congrArg Option.isSome h.cpuSamples
  rw [Counters.cpuSamples?, Option.isSome_map] at samples
  rw [samples]
  cases p.counters.cpuTimes?.isSome <;> rfl

end Reference.Counted

namespace Turn

/-- A race that ended well counts what its journal has. -/
def Counts (p : Player) : Turn → Prop
  | raced _ reader (.finished r) _ _ effects _ =>
    Reference.Counted p.beginRace [homeLeg] reader.toSource.calls effects r
  | _ => True

variable {p q : Player} {turn : Turn} {r : TraceResult}

theorem Counts.figures (h : turn.Counts p) (ended : turn.result = .ok r) :
    r.Figures p.counters.cpuTimes?.isSome (retraced turn.effects) := by
  cases turn with
  | unopened => cases ended
  | raced path reader raceEnd elapsed summary? effects during =>
    cases raceEnd with
    | failed e | crashed => cases ended
    | finished result =>
      cases ended
      exact Reference.Counted.figures h path elapsed summary?

/-- A result is about the calls of the trace that was opened, from the first one on. Only a dump ends its
race before the last. -/
structure Replays (turn : Turn) (reader : Reader) (r : TraceResult) : Prop where
  opened : turn.reader? = some reader
  order : retraced turn.effects <+: reader.toSource.calls
  whole : r.outcome = .completed → retraced turn.effects = reader.toSource.calls

theorem Counts.replays (h : turn.Counts p) (ended : turn.result = .ok r) :
    ∃ reader, turn.Replays reader r := by
  cases turn with
  | unopened => cases ended
  | raced path reader raceEnd elapsed summary? effects during =>
    cases raceEnd with
    | failed e | crashed => cases ended
    | finished result =>
      cases ended
      exact ⟨reader, rfl, h.order, h.whole⟩

/-- What the player that is left has counted. -/
theorem Counts.left (h : turn.Counts p) (left : turn.player? p = some q) :
    q.counters.totalCalls = p.counters.totalCalls + (retraced turn.effects).length ∧
      q.counters.cpuTimes?.isSome = p.counters.cpuTimes?.isSome := by
  cases turn with
  | unopened =>
    cases left
    exact ⟨rfl, rfl⟩
  | raced path reader raceEnd elapsed summary? effects during =>
    cases raceEnd with
    | failed e | crashed => cases left
    | finished result =>
      cases left
      exact ⟨h.grows.totalCalls, Reference.Counted.withCpu h⟩

theorem player?_of_ok (p : Player) (ended : turn.result = .ok r) : ∃ q, turn.player? p = some q := by
  cases turn with
  | unopened => cases ended
  | raced path reader raceEnd elapsed summary? effects during =>
    cases raceEnd with
    | failed e | crashed => cases ended
    | finished result => exact ⟨result.player, rfl⟩

theorem mapM_cons (ended : turn.result = .ok r) (turns : List Turn) :
    (turn :: turns).mapM result = (turns.mapM result).map (r :: ·) := by
  rw [List.mapM_cons, ended]
  cases turns.mapM result <;> rfl

/-- A turn is the last if its trace failed, or its replay ended with a dump. -/
theorem completes_iff : turn.completes = true ↔ ∃ r, turn.result = .ok r ∧ r.outcome = .completed := by
  unfold completes
  cases turn.result with
  | error e => simp
  | ok r =>
    obtain ⟨trace, outcome, report, stopped⟩ := r
    cases outcome <;> simp

end Turn

namespace Series

variable {v : Venue σ (StateM τ)} {s t : Series (Journaled (Watched σ))} {p : Player} {x y : τ}

/-- The world of a series, and what is outside. -/
def place (s : Series (Journaled (Watched σ))) (x : τ) : σ × τ := (s.world.world.world, x)

/-- What a turn leaves of a series that is watched. -/
structure TakesTurn (v : Venue σ (StateM τ)) (p : Player) (turn : Turn)
    (s : Series (Journaled (Watched σ))) (x : τ) (t : Series (Journaled (Watched σ))) (y : τ) : Prop where
  adds : Adds [turn.path] turn.effects (turn.told s.config) s t
  player : t.player? = turn.player? p
  is : turn.IsOf v s.config p (s.place x) (t.place y)
  counts : turn.Counts p

theorem runSource_eq {ρ : Type} {v : Venue ρ (StateM τ)} {s : Series ρ} (player : s.player? = some p)
    (name : String) (source : Source) (x : τ) :
    runSource v s name source x =
      (conclude v.backend
          { s with world := (Field.run (fun _ => v.backend) source p s.world).2, player? := none }
          name (.ofNanos ((v.now (v.now x).2).1 - (v.now x).1))
          (Field.run (fun _ => v.backend) source p s.world).1,
        (v.now (v.now x).2).2) := by
  rw [runSource, player]
  rfl

/-- The race of a trace that was opened, as if nothing was seen before it, and what is told of it then. -/
theorem runSource_raced (player : s.player? = some p) (path : String) (reader : Reader) (x : τ) :
    ∃ (raceEnd : RaceEnd) (race : Journaled (Watched σ)) (turn : Turn) (t : Series (Journaled (Watched σ))),
      Field.run (fun _ => v.watched.backend) reader.toSource p (.unseen s.world.world.world) =
        (raceEnd, race) ∧
      turn = .raced path reader raceEnd (v.timed x).1 (v.backend.summary? race.world.world) race.effects
        race.world.told ∧
      runSource v.watched s path reader.toSource x = ((turn.result, t), (v.timed x).2) ∧
      runSource v s.unwatched path reader.toSource x = ((turn.result, t.unwatched), (v.timed x).2) ∧
      t.place (v.timed x).2 = (v.afterTelling (turn.closing s.config) race.world.world, (v.timed x).2) ∧
      Adds [] race.effects (race.world.told ++ turn.closing s.config) s t ∧
      t.player? = turn.player? p ∧ turn.Counts p := by
  rw [runSource_eq player, runSource_eq (s := s.unwatched) player]
  -- The race as if nothing was seen before it says what the turn is; what was seen before is only added to.
  have raced := race_watched v reader.toSource p s.world
  unfold Ensures at raced
  generalize alone : Field.run (fun _ => v.watched.backend) reader.toSource p
    (.unseen s.world.world.world) = first at raced
  revert raced
  generalize Field.run (fun _ => v.watched.backend) reader.toSource p s.world = after
  obtain ⟨raceEnd, w⟩ := after
  obtain ⟨_, race⟩ := first
  rintro ⟨rfl, world, same, opened, told, asked, counted⟩
  have same' : Field.run (fun _ => v.backend) reader.toSource p s.unwatched.world =
    (raceEnd, w.world.world) := same
  have adds : Adds [] race.effects race.world.told s { s with world := w, player? := none } :=
    ⟨rfl, opened.trans (List.append_nil _).symm, asked, told⟩
  obtain ⟨t, ran, unwatched, left, closes, place⟩ := conclude_watched v
    { s with world := w, player? := none } rfl path reader raceEnd (v.timed x).1 race.effects
    race.world.told p rfl
  have both := adds.trans closes
  simp only [List.append_nil] at both
  rw [same']
  rw [← world] at ran unwatched left both place
  refine ⟨raceEnd, race, _, t, rfl, rfl, Prod.ext ran rfl, Prod.ext unwatched rfl, Prod.ext place rfl, both,
    left, ?_⟩
  revert counted
  cases raceEnd with
  | finished r => exact fun counted => counted r rfl
  | failed e | crashed => exact fun _ => trivial

/-- To open a trace is seen. -/
theorem openTrace_watched (v : Venue σ (StateM τ)) (s : Series (Journaled (Watched σ))) (path : String) :
    ∃ w, v.watched.openTrace path s.world = ((v.openTrace path s.world.world.world).1, w) ∧
      w.world.world = (v.openTrace path s.world.world.world).2 ∧
      Adds [path] [] [] s { s with world := w } :=
  ⟨_, rfl, rfl, rfl, rfl, (List.append_nil _).symm, (List.append_nil _).symm⟩

theorem runTrace_takesTurn (player : s.player? = some p) (path : String) (x : τ) :
    ∃ turn t y, runTrace v.watched s path x = ((turn.result, t), y) ∧
      runTrace v s.unwatched path x = ((turn.result, t.unwatched), y) ∧
      turn.path = path ∧ TakesTurn v p turn s x t y := by
  obtain ⟨w, opens, same, adds⟩ := openTrace_watched v s path
  have opens' : v.openTrace path s.unwatched.world =
    ((v.openTrace path s.world.world.world).1, w.world.world) := Prod.ext rfl same.symm
  rw [runTrace, runTrace, opens, opens']
  cases opened : (v.openTrace path s.world.world.world).1 with
  | error e =>
    have is : Turn.IsOf v s.config p (s.place x) (.unopened path e) (w.world.world, x) :=
      .unopened (Prod.ext opened same.symm)
    exact ⟨.unopened path e, _, x, rfl, rfl, rfl, ⟨adds, player, is, trivial⟩⟩
  | ok reader =>
    have begun := adds.trans (adds_tell v.backend (reader.announcement path) { s with world := w })
    obtain ⟨raceEnd, race, turn, t, runs, seen, ran, unwatched, place, added, left, counts⟩ :=
      runSource_raced (v := v)
        (s := tell v.watched.backend { s with world := w } (reader.announcement path)) player path reader x
    have both := begun.trans added
    simp only [List.append_nil, List.nil_append, List.singleton_append] at both
    have schedules : ∀ moves f result,
        (Field.launch reader.toSource p
          (.unseen (v.afterTelling [reader.announcement path] w.world.world))).performAll
            (fun _ => v.watched.backend) moves = some f →
          f.end? = some result → (result, f.world) = (raceEnd, race) := fun moves f result made ended => by
      refine Eq.trans ?_ runs
      rw [Field.run_eq_reference]
      exact (Field.reference_eq_of_end made ended).symm
    have is : turn.IsOf v s.config p (s.place x) (t.place (v.timed x).2) :=
      place ▸ .raced (Prod.ext opened same.symm) runs schedules seen
    obtain rfl := seen
    exact ⟨_, t, _, ran, unwatched, rfl, ⟨both, left, is, counts⟩⟩

/-- What is seen of a series that replays these traces, one turn after the other. -/
structure InTurns (v : Venue σ (StateM τ)) (paths : List String) (p : Player) (turns : List Turn)
    (s : Series (Journaled (Watched σ))) (x : τ) (answer : Except Setback (List TraceResult))
    (t : Series (Journaled (Watched σ))) (y : τ) : Prop where
  adds : Adds (turns.map Turn.path) (turns.flatMap Turn.effects)
    (turns.flatMap (Turn.messages s.config)) s t
  /-- Traces are opened in their order, and no others than those that have a turn. -/
  order : turns.map Turn.path <+: paths
  /-- All results, or the first failure. -/
  answer : answer = turns.mapM Turn.result
  /-- Only after a trace of which every call was replayed there is another turn. -/
  goesOn : ∀ turn ∈ turns.dropLast, turn.completes = true
  whole : (∀ turn ∈ turns, turn.completes = true) → turns.map Turn.path = paths
  /-- Each turn is what becomes of its trace where the turn before has led. -/
  lineage : Lineage v s.config p (s.place x) turns t.player? (t.place y)
  /-- Each result is about the calls of its own trace. -/
  replays : ∀ turn ∈ turns, ∀ r, turn.result = .ok r → ∃ reader, turn.Replays reader r
  figures : ∀ turn ∈ turns, ∀ r, turn.result = .ok r →
    r.Figures p.counters.cpuTimes?.isSome (retraced turn.effects)
  total : ∀ q, t.player? = some q → q.counters.totalCalls =
    p.counters.totalCalls + (turns.map fun turn => (retraced turn.effects).length).sum

theorem inTurns_nil (v : Venue σ (StateM τ)) (player : s.player? = some p) :
    InTurns v [] p [] s x (.ok []) s x where
  adds := .refl s
  order := List.nil_prefix
  answer := rfl
  goesOn := fun _ => nofun
  whole := fun _ => rfl
  lineage := player ▸ .over p _
  replays := fun _ => nofun
  figures := fun _ => nofun
  total := by
    intro q left
    obtain rfl := Option.some.inj (player.symm.trans left)
    rfl

/-- The last turn. -/
theorem TakesTurn.last {turn : Turn} (h : TakesTurn v p turn s x t y) (ends : turn.completes = false)
    (paths : List String) :
    InTurns v (turn.path :: paths) p [turn] s x ([turn].mapM Turn.result) t y where
  adds := by
    rw [List.flatMap_singleton, List.flatMap_singleton, Turn.messages, ends, Bool.false_and,
      if_neg Bool.false_ne_true, List.append_nil]
    exact h.adds
  order := ⟨paths, rfl⟩
  answer := rfl
  goesOn := fun _ => nofun
  whole := fun all => by
    rw [all turn List.mem_cons_self] at ends
    cases ends
  lineage := h.player ▸ .last h.is ends
  replays := by
    intro other mem r ended
    obtain rfl := List.mem_singleton.1 mem
    exact h.counts.replays ended
  figures := by
    intro other mem r ended
    obtain rfl := List.mem_singleton.1 mem
    exact h.counts.figures ended
  total := by
    intro q left
    rw [List.map_singleton, List.sum_singleton]
    exact (h.counts.left (h.player.symm.trans left)).1

/-- A turn that is followed by others, after a wait if that is wanted. -/
theorem TakesTurn.followed {turn : Turn} {turns : List Turn} {paths : List String} {q : Player}
    {u u' : Series (Journaled (Watched σ))} {z z' : τ} {answer : Except Setback (List TraceResult)}
    (h : TakesTurn v p turn s x t y) (completes : turn.completes = true) (left : turn.player? p = some q)
    (waits : Adds [] [] (if t.config.waits then [prompt] else []) t u)
    (waited : u.place z = v.afterWaiting t.config (t.place y)) (rest : InTurns v paths q turns u z answer u' z') :
    InTurns v (turn.path :: paths) p (turn :: turns) s x ((turn :: turns).mapM Turn.result) u' z' where
  adds := by
    have all := (h.adds.trans waits).trans rest.adds
    rw [List.append_nil, List.append_nil, waits.config, h.adds.config] at all
    rw [List.flatMap_cons, List.flatMap_cons, Turn.messages, completes, Bool.true_and]
    exact all
  order := by
    obtain ⟨others, split⟩ := rest.order
    exact ⟨others, congrArg (turn.path :: ·) split⟩
  answer := rfl
  goesOn := by
    intro other mem
    cases turns with
    | nil => cases mem
    | cons second turns =>
      rw [List.dropLast_cons_cons] at mem
      rcases List.mem_cons.1 mem with rfl | mem
      · exact completes
      · exact rest.goesOn other mem
  whole := by
    intro all
    rw [List.map_cons, rest.whole fun other mem => all other (List.mem_cons_of_mem _ mem)]
  lineage := by
    have others := rest.lineage
    rw [waits.config, waited, h.adds.config] at others
    exact .next h.is completes left others
  replays := by
    intro other mem r ended
    rcases List.mem_cons.1 mem with rfl | mem
    · exact h.counts.replays ended
    · exact rest.replays other mem r ended
  figures := by
    intro other mem r ended
    rcases List.mem_cons.1 mem with rfl | mem
    · exact h.counts.figures ended
    · rw [← (h.counts.left left).2]
      exact rest.figures other mem r ended
  total := by
    intro r last
    rw [rest.total r last, (h.counts.left left).1, List.map_cons, List.sum_cons, Nat.add_assoc]

theorem runList_inTurns (paths : List String) (player : s.player? = some p) (x : τ) :
    ∃ turns answer t y, runList v.watched paths s x = ((answer, t), y) ∧
      runList v paths s.unwatched x = ((answer, t.unwatched), y) ∧
      InTurns v paths p turns s x answer t y := by
  -- Each trace is opened for whoever is left of the player, so the player varies along with the world.
  induction paths generalizing s p x with
  | nil => exact ⟨[], _, s, x, rfl, rfl, inTurns_nil v player⟩
  | cons path paths ih =>
    obtain ⟨turn, t, y, ran, unwatched, rfl, takes⟩ := runTrace_takesTurn (v := v) player path x
    rw [runList, runList, bind_apply, bind_apply, ran, unwatched]
    cases ended : turn.result with
    | error e =>
      have ends : turn.completes = false := by
        rw [Turn.completes, ended]
      refine ⟨[turn], _, t, y, ?_, ?_, takes.last ends paths⟩ <;>
        · rw [List.mapM_cons, ended]
          rfl
    | ok result =>
      have single : [turn].mapM Turn.result = .ok [result] := by
        rw [List.mapM_cons, ended]
        rfl
      obtain ⟨q, left⟩ := turn.player?_of_ok p ended
      cases outcome : result.outcome with
      | stateDumped n =>
        have ends : turn.completes = false := by
          rw [Bool.eq_false_iff, Ne, Turn.completes_iff]
          rintro ⟨r, same, completed⟩
          cases ended.symm.trans same
          cases outcome.symm.trans completed
        refine ⟨[turn], _, t, y, ?_, ?_, takes.last ends paths⟩ <;>
          · simp only [single, outcome]
            rfl
      | completed =>
        have completes := Turn.completes_iff.2 ⟨result, ended, outcome⟩
        obtain ⟨u, z, paused, paused', player', waits, waited⟩ := pause_watched (v := v) t y
        obtain ⟨turns, answer, u', z', others, others', rest⟩ :=
          ih (player'.trans (takes.player.trans left)) z
        refine ⟨turn :: turns, _, u', z', ?_, ?_, takes.followed completes left waits waited rest⟩ <;>
          simp only [outcome, bind_apply, paused, paused', others, others', Turn.mapM_cons ended,
            rest.answer] <;>
          rfl

end Series

/-- A session that has its player replays its traces in turns. -/
theorem Session.runAll_inTurns (out : Surroundings (StateM τ)) (codec : ImageCodec) (config : Config)
    (studio : Studio) (p : Player) (x : τ) :
    ∃ turns answer t y,
      Session.runAll out codec ⟨config, studio, some p⟩ x = (Session.told (answer, t.unwatched), y) ∧
        Series.InTurns (Studio.venue out codec) config.traces p turns ⟨config, .unseen studio, some p⟩ x
          answer t y := by
  obtain ⟨turns, answer, t, y, -, ran, inTurns⟩ := Series.runList_inTurns (v := Studio.venue out codec)
    (s := ⟨config, .unseen studio, some p⟩) config.traces rfl x
  refine ⟨turns, answer, t, y, ?_, inTurns⟩
  have series := Session.runAll_eq_series out codec ⟨config, studio, some p⟩
  have same : Session.toSeries ⟨config, studio, some p⟩ =
    Series.unwatched ⟨config, .unseen studio, some p⟩ := rfl
  rw [series, same, Series.runAll]
  exact congrArg (fun result => (Session.told result.1, result.2)) ran

/-- However a venue answers: a series that has its player replays its traces in turns, and to watch it
changes nothing. A session does so in its studio, with the traces that its files are. -/
theorem replayed_in_turns :
    (∀ (v : Venue σ (StateM τ)) (config : Config) (w : Journaled (Watched σ)) (p : Player) (x : τ),
      ∃ turns answer t y,
        Series.runAll v.watched ⟨config, w, some p⟩ x = ((answer, t), y) ∧
          Series.runAll v ⟨config, w.world.world, some p⟩ x = ((answer, t.unwatched), y) ∧
          Series.InTurns v config.traces p turns ⟨config, w, some p⟩ x answer t y) ∧
    ∀ (out : Surroundings (StateM τ)) (codec : ImageCodec) (config : Config) (studio : Studio) (p : Player)
      (x : τ),
      ∃ turns answer t y,
        Session.runAll out codec ⟨config, studio, some p⟩ x = (Session.told (answer, t.unwatched), y) ∧
          Series.InTurns (Studio.venue out codec) config.traces p turns ⟨config, .unseen studio, some p⟩ x
            answer t y :=
  ⟨fun _ config _ _ x => Series.runList_inTurns config.traces rfl x, Session.runAll_inTurns⟩

end TraceReplay
