import TraceReplay.Proofs.Session.Turns

/-!
# Series that go wrong

A series is asked to replay sources, traces or all traces of its configuration, in any order (`Errand`). The
player is there as long as every race came to its finish (`serveEach_accounts`). A trace that cannot be
opened is as if it had never been asked for, and after a race that failed nothing is replayed any more
(`served_orderly`).
-/

namespace TraceReplay

variable {σ τ : Type} {m : Type → Type}

/-- The race came to its finish, and gave the player back. -/
def RaceEnd.isFinished : RaceEnd → Bool
  | finished _ => true
  | failed _ | crashed => false

/-- A venue whose traces are files, which it has in its world. -/
def Venue.ofFiles (b : Backend σ) (files : σ → Files) (now : m Nat) (pause : σ → m σ) : Venue σ m where
  backend := b
  openTrace path := fun w => (Session.openTrace (files w) path, w)
  now
  pause

example (out : Surroundings m) (codec : ImageCodec) :
    Studio.venue out codec = .ofFiles (Studio.backend codec) Studio.files out.now out.pause := rfl

/-- What a series can be asked for. -/
inductive Errand
  | source (name : String) (source : Source)
  | trace (path : String)
  | all

namespace Series

section

variable [Monad m]

/-- Do what the series is asked for. -/
def serve (v : Venue σ m) (s : Series σ) : Errand → m (Except Setback (List TraceResult) × Series σ)
  | .source name source => do
    let (result, s) ← runSource v s name source
    pure (result.map ([·]), s)
  | .trace path => do
    let (result, s) ← runTrace v s path
    pure (result.map ([·]), s)
  | .all => runAll v s

/-- Do one after the other, whatever comes of it. -/
def serveEach (v : Venue σ m) :
    List Errand → Series σ → m (List (Except Setback (List TraceResult)) × Series σ)
  | [], s => pure ([], s)
  | errand :: errands, s => do
    let (answer, s) ← serve v s errand
    let (answers, s) ← serveEach v errands s
    pure (answer :: answers, s)

end

variable {v : Venue σ (StateM τ)}

/-- The race that is started for a source, if any is. -/
def racesOfSource (v : Venue σ m) (s : Series σ) (source : Source) : List RaceEnd :=
  (s.player?.map fun p => (Field.run (fun _ => v.backend) source p s.world).1).toList

/-- The race that is started for a trace, if any is. -/
def racesOfTrace (v : Venue σ m) (s : Series σ) (path : String) : List RaceEnd :=
  match v.openTrace path s.world with
  | (.error _, _) => []
  | (.ok reader, world) =>
    racesOfSource v (tell v.backend { s with world } (reader.announcement path)) reader.toSource

/-- The races that are started for traces that are replayed in order. -/
def racesOfList (v : Venue σ (StateM τ)) : List String → Series σ → τ → List RaceEnd
  | [], _, _ => []
  | path :: paths, s, x =>
    racesOfTrace v s path ++
      match runTrace v s path x with
      | ((.ok ⟨_, .completed, _, _⟩, t), y) =>
        racesOfList v paths (t.pause v y).1 (t.pause v y).2
      | _ => []

/-- The races that are started for an errand. -/
def racesOf (v : Venue σ (StateM τ)) (s : Series σ) (x : τ) : Errand → List RaceEnd
  | .source _ source => racesOfSource v s source
  | .trace path => racesOfTrace v s path
  | .all => racesOfList v s.config.traces s x

/-- The races that are started for errands. -/
def racesOfEach (v : Venue σ (StateM τ)) : List Errand → Series σ → τ → List RaceEnd
  | [], _, _ => []
  | errand :: errands, s, x =>
    racesOf v s x errand ++ racesOfEach v errands (serve v s errand x).1.2 (serve v s errand x).2

/-- After these races the player is there if it was before, unless one of them kept it. -/
def Accounts (races : List RaceEnd) (s t : Series σ) : Prop :=
  t.player?.isSome = (s.player?.isSome && races.all RaceEnd.isFinished)

namespace Accounts

variable {s t u : Series σ} {races more : List RaceEnd}

theorem of_player_eq (same : t.player? = s.player?) : Accounts [] s t := by
  rw [Accounts, same]
  exact (Bool.and_true _).symm

theorem trans (h : Accounts races s t) (h' : Accounts more t u) : Accounts (races ++ more) s u := by
  rw [Accounts, h', h, List.all_append, Bool.and_assoc]

end Accounts

variable (v) (s : Series σ) (x : τ)

theorem isSome_conclude (b : Backend σ) (lost : s.player? = none) (name : String) (elapsed : Duration)
    (raceEnd : RaceEnd) : (conclude b s name elapsed raceEnd).2.player?.isSome = raceEnd.isFinished := by
  cases raceEnd with
  | finished result => rfl
  | failed e | crashed => exact congrArg Option.isSome lost

theorem runSource_of_lost (lost : s.player? = none) (name : String) (source : Source) :
    runSource v s name source x = ((.error (.failed Session.playerLost), s), x) := by
  rw [runSource, lost]
  rfl

theorem runSource_accounts (name : String) (source : Source) :
    Accounts (racesOfSource v s source) s (runSource v s name source x).1.2 := by
  cases player : s.player? with
  | none =>
    rw [runSource_of_lost v s x player, racesOfSource, player]
    exact .of_player_eq rfl
  | some p =>
    rw [runSource_eq player, racesOfSource, player, Accounts, player]
    simp [isSome_conclude]

theorem runTrace_accounts (path : String) :
    Accounts (racesOfTrace v s path) s (runTrace v s path x).1.2 := by
  rw [runTrace, racesOfTrace]
  rcases v.openTrace path s.world with ⟨e | reader, w⟩
  · exact .of_player_eq rfl
  · exact runSource_accounts v (tell v.backend { s with world := w } (reader.announcement path)) x path _

theorem player?_pause : (pause v s x).1.player? = s.player? := by
  rw [pause]
  split <;> rfl

theorem runList_accounts (paths : List String) :
    Accounts (racesOfList v paths s x) s (runList v paths s x).1.2 := by
  induction paths generalizing s x with
  | nil => exact .of_player_eq rfl
  | cons path paths ih =>
    have first := runTrace_accounts v s x path
    rw [runList, racesOfList, bind_apply]
    generalize runTrace v s path x = ran at *
    obtain ⟨⟨answer, t⟩, y⟩ := ran
    have last : Accounts (racesOfTrace v s path ++ []) s t := first.trans (.of_player_eq rfl)
    rcases answer with e | ⟨_, _ | n, _, _⟩
    · exact last
    · have paused := first.trans (.of_player_eq (player?_pause v t y))
      rw [List.append_nil] at paused
      exact paused.trans (ih _ _)
    · exact last

theorem serve_accounts (errand : Errand) :
    Accounts (racesOf v s x errand) s (serve v s errand x).1.2 := by
  cases errand with
  | source name source => exact runSource_accounts v s x name source
  | trace path => exact runTrace_accounts v s x path
  | all => exact runList_accounts v s x s.config.traces

/-- Whatever a series is asked for, the player is left as long as every race came to its finish. -/
theorem serveEach_accounts (errands : List Errand) :
    Accounts (racesOfEach v errands s x) s (serveEach v errands s x).1.2 := by
  induction errands generalizing s x with
  | nil => exact .of_player_eq rfl
  | cons errand errands ih => exact (serve_accounts v s x errand).trans (ih _ _)

variable {v}

/-- A trace that fails among others leaves what it leaves on its own, after those before it. -/
theorem runList_of_error {s t u : Series σ} {x y z : τ} {before : List String} {results : List TraceResult}
    {path : String} {e : Setback} (ran : runList v before s x = ((.ok results, t), y))
    (completed : ∀ r ∈ results, r.outcome = .completed) (failed : runTrace v t path y = ((.error e, u), z))
    (later : List String) : runList v (before ++ path :: later) s x = ((.error e, u), z) := by
  induction before generalizing s x results with
  | nil =>
    cases ran
    rw [List.nil_append, runList, bind_apply, failed]
    rfl
  | cons first before ih =>
    rw [runList, bind_apply] at ran
    rw [List.cons_append, runList, bind_apply]
    generalize runTrace v s first x = begun at *
    obtain ⟨⟨answer, t'⟩, y'⟩ := begun
    rcases answer with e | ⟨_, _ | n, _, _⟩
    · cases ran
    · dsimp only at ran ⊢
      rw [bind_apply, bind_apply] at ran ⊢
      generalize others : runList v before (pause v t' y').1 (pause v t' y').2 = after at ran
      obtain ⟨⟨answer, t''⟩, y''⟩ := after
      cases answer with
      | error e => cases ran
      | ok rest =>
        cases ran
        rw [ih others fun r mem => completed r (List.mem_cons_of_mem _ mem)]
        rfl
    · cases ran
      cases completed _ List.mem_cons_self

/-- The series has no player, and refuses whatever it is to replay. A backend is told of a trace that was
opened, and is asked for nothing. -/
structure Refuses (v : Venue σ (StateM τ)) (files : σ → Files) (t : Series σ) (y : τ) : Prop where
  source : ∀ name source,
    runSource v t name source y = ((.error (.failed Session.playerLost), t), y)
  trace : ∀ path reader, Session.openTrace (files t.world) path = .ok reader →
    runTrace v t path y =
      ((.error (.failed Session.playerLost), t.tell v.backend (reader.announcement path)), y)
  list : ∀ path paths reader, Session.openTrace (files t.world) path = .ok reader →
    runList v (path :: paths) t y =
      ((.error (.failed Session.playerLost), t.tell v.backend (reader.announcement path)), y)

/-- How a series stands after these races. -/
structure Orderly (v : Venue σ (StateM τ)) (files : σ → Files) (races : List RaceEnd) (t : Series σ)
    (y : τ) : Prop where
  player : t.player?.isSome = true ↔ ∀ e ∈ races, e.isFinished = true
  /-- A trace that cannot be opened changes nothing. -/
  unopened : ∀ path e, Session.openTrace (files t.world) path = .error e →
    runTrace v t path y = ((.error (.failed (.trace e)), t), y)
  /-- So it is no matter for what is asked for later. -/
  forgotten : ∀ path e later, Session.openTrace (files t.world) path = .error e →
    serveEach v (.trace path :: later) t y =
      ((.error (.failed (.trace e)) :: (serveEach v later t y).1.1, (serveEach v later t y).1.2),
        (serveEach v later t y).2)
  /-- Nor is it a matter for the traces that were replayed before it. -/
  interrupted : ∀ before results u z path e later, runList v before t y = ((.ok results, u), z) →
    (∀ r ∈ results, r.outcome = .completed) → Session.openTrace (files u.world) path = .error e →
      runList v (before ++ path :: later) t y = ((.error (.failed (.trace e)), u), z)
  lost : (∃ e ∈ races, e.isFinished = false) → Refuses v files t y

section Files

variable (b : Backend σ) (files : σ → Files) (now : StateM τ Nat) (wait : σ → StateM τ σ) (t : Series σ)
  (y : τ)

theorem runTrace_of_unopened {path : String} {e : TraceError}
    (unopened : Session.openTrace (files t.world) path = .error e) :
    runTrace (.ofFiles b files now wait) t path y = ((.error (.failed (.trace e)), t), y) := by
  rw [runTrace, Venue.ofFiles]
  dsimp only
  rw [unopened]
  rfl

theorem refuses_of_lost (lost : t.player? = none) : Refuses (.ofFiles b files now wait) files t y := by
  have trace : ∀ path reader, Session.openTrace (files t.world) path = .ok reader →
      runTrace (.ofFiles b files now wait) t path y =
        ((.error (.failed Session.playerLost), t.tell b (reader.announcement path)), y) := by
    intro path reader opened
    rw [runTrace, Venue.ofFiles]
    dsimp only
    rw [opened]
    exact runSource_of_lost _ (t.tell b (reader.announcement path)) y lost path reader.toSource
  refine ⟨fun name source => runSource_of_lost _ t y lost name source, trace, ?_⟩
  intro path paths reader opened
  have before : runList (.ofFiles b files now wait) [] t y = ((.ok [], t), y) := rfl
  exact runList_of_error before (fun _ mem => absurd mem List.not_mem_nil) (trace path reader opened) paths

/-- Whatever a series was asked for: its player is there unless a race kept it, a trace that cannot be opened
is as if it had never been asked for, and without the player nothing is replayed any more. -/
theorem served_orderly (config : Config) (w : σ) (p : Player) (errands : List Errand) (x : τ) :
    let v := Venue.ofFiles b files now wait
    let s : Series σ := ⟨config, w, some p⟩
    Orderly v files (racesOfEach v errands s x) (serveEach v errands s x).1.2
      (serveEach v errands s x).2 := by
  intro v s
  have accounts := serveEach_accounts v s x errands
  generalize serveEach v errands s x = served at *
  obtain ⟨⟨answers, t⟩, y⟩ := served
  have player : t.player?.isSome = true ↔ ∀ e ∈ racesOfEach v errands s x, e.isFinished = true := by
    rw [accounts]
    simp [s]
  refine ⟨player, ?unopened, ?forgotten, ?interrupted, ?lost⟩
  case unopened => exact fun path e => runTrace_of_unopened b files now wait t y
  case forgotten =>
    intro path e later unopened
    rw [serveEach, bind_apply, serve, bind_apply, runTrace_of_unopened b files now wait t y unopened]
    rfl
  case interrupted =>
    intro before results u z path e later ran completed unopened
    exact runList_of_error ran completed (runTrace_of_unopened b files now wait u z unopened) later
  case lost =>
    rintro ⟨e, mem, failed⟩
    refine refuses_of_lost b files now wait t y ?_
    rw [← Option.not_isSome_iff_eq_none, player]
    intro all
    rw [all e mem] at failed
    cases failed

end Files

end Series

end TraceReplay
