import TraceReplay.Proofs.Race.Progress

/-!
# How a race ends

Every race ends, whatever its calls do and in whatever order the runners move. `race_settles` says how:
without a lost thread the result comes when all workers are gone and were joined; a lost worker makes
the home runner give up; a lost home runner is what the one who started the race sees. The other
threads come to an end in all three cases. Which of them it is depends on one fact about the schedule,
whether a thread was lost in it (`CrashedIn`), and that is where the state ends up (`lost_iff`).
-/

namespace TraceReplay

variable {σ : Type}

/-- Whoever plays this call in this world is lost: with the call, or in the flush after it. -/
def LosesThread (b : Backend σ) (leg : Leg) (baton : Baton) (w : σ) : Prop :=
  let played := baton.state.player.play b baton.call w
  played.1.1 = .crashed ∨
    played.1.1 = .proceed ∧ ∃ next rest, baton.state.source.calls = next :: rest ∧ next.leg ≠ leg ∧
      (b.handOver played.2).1 = .crashed

/-- What the one who started the race sees of the home runner. -/
def Activity.result? : Activity → Option RaceEnd
  | ended result? => result?
  | crashed => some .crashed
  | _ => none

theorem Activity.result?_eq_some_iff {a : Activity} {result : RaceEnd} :
    a.result? = some result ↔ a = .ended (some result) ∨ a = .crashed ∧ result = .crashed := by
  cases a <;> simp [Activity.result?, eq_comm]

/-- How many workers were joined, of a race with so many runners. -/
def Place.joined (runners : Nat) : Place → Nat
  | stopping _ _ stopped => stopped
  | settled _ => runners - 1
  | _ => 0

namespace Field

variable {backend : Leg → Backend σ} {f g : Field σ} {p q : Place} {leg : Leg}

theorem afterPlay_eq_crashed_iff {b : Backend σ} {call : Call} {verdict : Verdict}
    {state : RaceState} {w : σ} : (afterPlay b leg call verdict state w).1 = .crashed ↔
      verdict = .crashed ∨ verdict = .proceed ∧
        ∃ next rest, state.source.calls = next :: rest ∧ next.leg ≠ leg ∧
          (b.handOver w).1 = .crashed := by
  obtain ⟨⟨calls, fault?⟩, player, legs⟩ := state
  have pure_apply : ∀ (a : Activity) (w : σ), (pure a : StateM σ Activity) w = (a, w) := fun _ _ => rfl
  cases verdict with
  | crashed => simp [afterPlay, pure_apply]
  | failed fault => simp [afterPlay, pure_apply]
  | stop => simp [afterPlay, pure_apply]
  | proceed =>
    cases calls with
    | nil => cases fault? <;> simp [afterPlay, Source.next, pure_apply]
    | cons next rest =>
      by_cases own : next.leg = leg
      · simp [afterPlay, Source.next, own, pure_apply]
      · simp only [afterPlay, Source.next, if_neg own, bind, StateT.bind]
        rcases b.handOver w with ⟨_ | fault | _, w'⟩ <;> simp [pure_apply, own]

theorem playBaton_eq_crashed_iff {b : Backend σ} {baton : Baton} {w : σ} :
    (playBaton b leg baton w).1 = .crashed ↔ LosesThread b leg baton w :=
  afterPlay_eq_crashed_iff

/-- The runner of this leg is lost when it makes its next move. -/
def CrashesNext (backend : Leg → Backend σ) (f : Field σ) (leg : Leg) : Prop :=
  ∃ r baton, f.runner? leg = some r ∧ r.activity = .running baton ∧
    LosesThread (backend leg) leg baton f.world

/-- The runner of this leg was lost on the way. -/
def CrashedIn (backend : Leg → Backend σ) (f : Field σ) (moves : List Move) (leg : Leg) : Prop :=
  ∃ before after g, moves = before ++ .play leg :: after ∧ f.performAll backend before = some g ∧
    g.CrashesNext backend leg

theorem not_crashedIn_nil : ¬ f.CrashedIn backend [] leg := by
  rintro ⟨before, after, _, eq, _⟩
  cases before <;> cases eq

theorem crashedIn_cons_iff {move : Move} {moves : List Move}
    (made : f.perform backend move = some g) :
    f.CrashedIn backend (move :: moves) leg ↔
      move = .play leg ∧ f.CrashesNext backend leg ∨ g.CrashedIn backend moves leg := by
  constructor
  · rintro ⟨before, after, e, eq, way, lost⟩
    cases before with
    | nil =>
      obtain ⟨rfl, rfl⟩ := List.cons.inj eq
      obtain rfl := Option.some.inj way
      exact .inl ⟨rfl, lost⟩
    | cons first before =>
      obtain ⟨rfl, rfl⟩ := List.cons.inj eq
      obtain ⟨g', made', way⟩ := performAll_cons_eq_some_iff.1 way
      obtain rfl := Option.some.inj (made.symm.trans made')
      exact .inr ⟨before, after, e, rfl, way, lost⟩
  · rintro (⟨rfl, lost⟩ | ⟨before, after, e, rfl, way, lost⟩)
    · exact ⟨[], moves, f, rfl, rfl, lost⟩
    · exact ⟨move :: before, after, e, rfl, performAll_cons_eq_some_iff.2 ⟨g, made, way⟩, lost⟩

theorem Played.after_eq_lost_iff {legs : List Leg} {a : Activity} {remaining : Nat} {l : Leg}
    (played : Played leg legs remaining a) : Place.after leg a = .lost l ↔ l = leg ∧ a = .crashed := by
  cases played <;> simp [Place.after, eq_comm]

/-- Only the runner that has the call in its hands is lost next. -/
theorem Stands.crashesNext_iff {baton : Baton} (h : f.Stands (.running baton)) :
    f.CrashesNext backend leg ↔
      leg = baton.call.leg ∧ LosesThread (backend leg) leg baton f.world := by
  constructor
  · rintro ⟨r, other, found, act, lost⟩
    obtain ⟨mem, rfl⟩ := mem_of_runner? found
    obtain ⟨same, own⟩ := h.of_running mem act
    cases same
    exact ⟨own, lost⟩
  · rintro ⟨rfl, lost⟩
    obtain ⟨r, mem, own, act⟩ := h.has
    exact ⟨r, baton, own ▸ runner?_of_mem h.nodup mem, act, lost⟩

/-- One move loses the state exactly if its runner is lost. -/
theorem Leads.lost_iff {move : Move} (h : f.Stands p) (leads : Leads backend move f p g q) :
    q = .lost leg ↔ p = .lost leg ∨ move = .play leg ∧ f.CrashesNext backend leg := by
  have advance := leads.advance
  generalize world : f.world = w at advance
  generalize g.world = v at advance
  cases advance with
  | play baton =>
    subst world
    have played := played_playBaton (backend baton.call.leg) baton.call.leg baton f.world
    rw [played.after_eq_lost_iff, playBaton_eq_crashed_iff, h.crashesNext_iff]
    constructor
    · rintro ⟨rfl, lost⟩
      exact .inr ⟨rfl, rfl, lost⟩
    · rintro (no | ⟨_, rfl, lost⟩)
      · cases no
      · exact ⟨rfl, lost⟩
  | wake | spawn | pass | deliver | collect | close | join | settle | release | leave | giveUp => simp

/-- A schedule loses the state exactly if some runner is lost in it. -/
theorem Stands.lost_iff {moves : List Move} (h : f.Stands p) (alive : p ≠ .lost leg)
    (made : f.performAll backend moves = some g) (h' : g.Stands q) :
    q = .lost leg ↔ f.CrashedIn backend moves leg := by
  have general : q = .lost leg ↔ p = .lost leg ∨ f.CrashedIn backend moves leg := by
    clear alive
    induction moves generalizing f p with
    | nil =>
      obtain rfl := Option.some.inj made
      rw [h.eq_of_has h'.has, or_iff_left not_crashedIn_nil]
    | cons move moves ih =>
      obtain ⟨e, first, rest⟩ := performAll_cons_eq_some_iff.1 made
      obtain ⟨p', leads⟩ := h.perform first
      rw [ih leads.stands rest, leads.lost_iff h, crashedIn_cons_iff first, or_assoc]
  rw [general, or_iff_right alive]

theorem after_opening_ne_lost (source : Source) (player : Player) (leg : Leg) :
    Place.after homeLeg (opening source player) ≠ .lost leg := by
  obtain ⟨calls, fault?⟩ := source
  cases calls with
  | nil => cases fault? <;> simp [opening, Source.next, Place.after]
  | cons call rest =>
    simp only [opening, Source.next]
    split <;> simp [Place.after]

theorem joined_after (runners : Nat) (leg : Leg) (a : Activity) :
    (Place.after leg a).joined runners = 0 := by
  cases a <;> rfl

/-- One move joins a worker exactly if it is a join. -/
theorem Leads.joined_eq {move : Move} (h : f.Stands p) (leads : Leads backend move f p g q)
    (made : f.perform backend move = some g) : q.joined g.runners.length =
      p.joined f.runners.length + if move = .join then 1 else 0 := by
  have advance := leads.advance
  generalize f.world = w at advance
  generalize g.world = v at advance
  cases advance with
  | play baton => exact joined_after ..
  | settle finish stopped =>
    obtain ⟨_, _, _, _, _, rfl⟩ := settle_eq_some_iff.1 made
    obtain ⟨_, _, _, count⟩ := h.sound
    rw [length_legs, List.length_nil] at count
    rw [length_runners_become]
    simp only [Place.joined, reduceCtorEq, if_false]
    omega
  | release leg =>
    obtain ⟨_, _, _, _, rfl⟩ := release_eq_some_iff.1 made
    rw [length_runners_become]
    rfl
  | leave leg =>
    obtain ⟨_, _, _, _, _, rfl⟩ := leave_eq_some_iff.1 made
    rw [length_runners_become]
    rfl
  | join => rfl
  | wake | spawn | pass | deliver | collect | close | giveUp => rfl

/-- A schedule has a join for every worker that was joined in it. -/
theorem Stands.joined_eq {moves : List Move} (h : f.Stands p)
    (made : f.performAll backend moves = some g) (h' : g.Stands q) :
    q.joined g.runners.length = p.joined f.runners.length + moves.count .join := by
  induction moves generalizing f p with
  | nil =>
    obtain rfl := Option.some.inj made
    rw [h.eq_of_has h'.has, List.count_nil, Nat.add_zero]
  | cons move moves ih =>
    obtain ⟨e, first, rest⟩ := performAll_cons_eq_some_iff.1 made
    obtain ⟨p', leads⟩ := h.perform first
    rw [ih leads.stands rest, leads.joined_eq h first, List.count_cons]
    simp only [beq_iff_eq]
    omega

theorem end?_eq {home : Runner} (found : f.runner? homeLeg = some home) :
    f.end? = home.activity.result? := by
  obtain ⟨_, _, act⟩ := home
  rw [end?, found]
  cases act <;> rfl

/-- What the one who started the race sees tells where the state is. -/
theorem Stands.end?_cases {result : RaceEnd} (h : f.Stands p) (ended : f.end? = some result) :
    p = .settled result ∨ (p = .lost homeLeg ∧ result = .crashed) ∨
      ∃ leg, leg ≠ homeLeg ∧ p = .lost leg ∧ result = .failed .abandoned := by
  obtain ⟨home, found, mem, same⟩ := h.home_runner
  have shown := h.acts home mem
  rw [end?_eq found, Activity.result?_eq_some_iff] at ended
  rw [same] at shown
  rcases ended with act | ⟨act, rfl⟩
  all_goals
    rw [act] at shown
    cases p <;> grind [Place.Shows, Activity.isIdle]

theorem Stands.end?_settled {result : RaceEnd} (h : f.Stands (.settled result)) :
    f.end? = some result := by
  obtain ⟨home, found, mem, same⟩ := h.home_runner
  have shown := h.acts home mem
  rw [Place.Shows, if_pos same] at shown
  rw [end?_eq found, shown, Activity.result?]

theorem Stands.end?_lost_home (h : f.Stands (.lost homeLeg)) : f.end? = some .crashed := by
  obtain ⟨home, found, mem, same⟩ := h.home_runner
  have shown := h.acts home mem
  rw [Place.Shows, if_pos same] at shown
  rw [end?_eq found, shown, Activity.result?]

/-- The home runner gives up when a worker took the state along. -/
theorem Stands.end?_lost (h : f.Stands (.lost leg)) (away : leg ≠ homeLeg) (finished : f.IsOver) :
    f.end? = some (.failed .abandoned) := by
  obtain ⟨home, found, mem, same⟩ := h.home_runner
  have shown := h.acts home mem
  rw [Place.Shows, same, if_neg away.symm, if_pos rfl] at shown
  rcases shown with idle | gone
  · exact absurd idle (finished.not_isIdle mem)
  · rw [end?_eq found, gone, Activity.result?]

/-- The result counts the workers. -/
theorem Stands.workersStopped_eq {result : RaceResult} (h : f.Stands (.settled (.finished result))) :
    result.workersStopped + 1 = f.runners.length := by
  obtain ⟨finish, stopped, given, _, count⟩ := h.sound
  rw [← length_legs, ← count]
  unfold resultOf at given
  split at given <;> cases given
  rfl

/-- Every worker whose thread was not lost has left in the end. -/
theorem Stands.left_of_isOver {r : Runner} (h : f.Stands p) (finished : f.IsOver) (mem : r ∈ f.runners)
    (away : r.leg ≠ homeLeg) (alive : p ≠ .lost r.leg) : r.activity = .ended none := by
  have shown := h.acts r mem
  rcases h.settled_or_lost finished with ⟨result, rfl⟩ | ⟨leg, rfl⟩
  · rw [Place.Shows, if_neg away] at shown
    exact shown
  · rw [Place.Shows, if_neg fun same => alive (congrArg Place.lost same.symm), if_neg away] at shown
    rcases shown with idle | gone
    · exact absurd idle (finished.not_isIdle mem)
    · exact gone

/-- How a race from this start stands after a schedule, and how it ends. -/
structure Settles (backend : Leg → Backend σ) (source : Source) (start : Field σ)
    (moves : List Move) (f : Field σ) : Prop where
  /-- No schedule is longer than the calls allow. -/
  bounded : moves.length ≤ moveBound source.remaining
  /-- As long as a thread runs, some runner can move. -/
  live : ¬ f.IsOver → ∃ move g, f.perform backend move = some g
  /-- If no thread is lost, the result comes when all workers have left and were joined. -/
  returned : ∀ result, f.end? = some result → (∀ leg, ¬ start.CrashedIn backend moves leg) →
    (∀ r ∈ f.runners, r.leg ≠ homeLeg → r.activity = .ended none) ∧
      moves.count .join + 1 = f.runners.length ∧
      ∀ good, result = .finished good → good.workersStopped + 1 = f.runners.length
  /-- It comes in the end. -/
  result : f.IsOver → (∀ leg, ¬ start.CrashedIn backend moves leg) →
    ∃ result, f.end? = some result ∧ result ≠ .failed .abandoned ∧ result ≠ .crashed
  /-- The race is given up in the end if and only if a worker was lost. -/
  abandoned : f.IsOver → (f.end? = some (.failed .abandoned) ↔
    ∃ leg, leg ≠ homeLeg ∧ start.CrashedIn backend moves leg)
  /-- The one who started the race sees a lost thread if and only if it was the home runner. -/
  crashed : f.end? = some .crashed ↔ start.CrashedIn backend moves homeLeg
  /-- All workers leave in the end, but for one that was lost. -/
  others : f.IsOver → ∀ r ∈ f.runners, r.leg ≠ homeLeg → ¬ start.CrashedIn backend moves r.leg →
    r.activity = .ended none

/-- Every schedule of every race is on the way to its end, or there. -/
theorem race_settles {source : Source} {player : Player} {world : σ} {moves : List Move}
    (made : (launch source player world).performAll backend moves = some f) :
    Settles backend source (launch source player world) moves f := by
  have begun := stands_launch source player world
  obtain ⟨p, stands, bound⟩ := exists_place made
  have lost_iff : ∀ leg, p = .lost leg ↔ (launch source player world).CrashedIn backend moves leg :=
    fun leg => begun.lost_iff (after_opening_ne_lost source player leg) made stands
  have settled_of_end : ∀ result, f.end? = some result →
      (∀ leg, ¬ (launch source player world).CrashedIn backend moves leg) → p = .settled result := by
    intro result ended alive
    rcases stands.end?_cases ended with settled | ⟨lost, _⟩ | ⟨leg, _, lost, _⟩
    · exact settled
    · exact absurd ((lost_iff _).1 lost) (alive _)
    · exact absurd ((lost_iff _).1 lost) (alive _)
  constructor
  case bounded =>
    unfold moveBound
    omega
  case live =>
    intro running
    obtain ⟨_, _, move, _, g, made⟩ := stands.exists_move backend running
    exact ⟨move, g, made⟩
  case returned =>
    intro result ended alive
    obtain rfl := settled_of_end result ended alive
    refine ⟨fun r mem away => ?_, ?_, ?_⟩
    · have shown := stands.acts r mem
      rwa [Place.Shows, if_neg away] at shown
    · have joined := begun.joined_eq made stands
      obtain ⟨_, _, mem, _⟩ := stands.home_runner
      have := List.length_pos_of_mem mem
      rw [joined_after, Place.joined] at joined
      omega
    · rintro good rfl
      exact stands.workersStopped_eq
  case result =>
    intro finished alive
    rcases stands.settled_or_lost finished with ⟨result, rfl⟩ | ⟨leg, lost⟩
    · obtain ⟨finish, stopped, rfl, sound, _⟩ := stands.sound
      refine ⟨_, stands.end?_settled, ?_⟩
      rcases sound.resultOf_cases stopped with ⟨_, eq⟩ | ⟨_, eq⟩ | ⟨_, eq⟩ <;> simp [eq]
    · exact absurd ((lost_iff leg).1 lost) (alive leg)
  case abandoned =>
    intro finished
    constructor
    · intro ended
      rcases stands.end?_cases ended with rfl | ⟨_, no⟩ | ⟨leg, away, lost, _⟩
      · exact absurd rfl stands.has.1
      · cases no
      · exact ⟨leg, away, (lost_iff leg).1 lost⟩
    · rintro ⟨leg, away, lost⟩
      obtain rfl := (lost_iff leg).2 lost
      exact stands.end?_lost away finished
  case crashed =>
    constructor
    · intro ended
      rcases stands.end?_cases ended with rfl | ⟨lost, _⟩ | ⟨_, _, _, no⟩
      · obtain ⟨finish, stopped, given, sound, _⟩ := stands.sound
        rcases sound.resultOf_cases stopped with ⟨_, eq⟩ | ⟨_, eq⟩ | ⟨_, eq⟩ <;>
          cases given.trans eq
      · exact (lost_iff homeLeg).1 lost
      · cases no
    · intro lost
      obtain rfl := (lost_iff homeLeg).2 lost
      exact stands.end?_lost_home
  case others =>
    intro finished r mem away alive
    exact stands.left_of_isOver finished mem away fun lost => alive ((lost_iff r.leg).1 lost)

/-- A worker is lost with the first call, and the home runner, which had not dropped its sender yet,
gives up. -/
theorem race_settles_of_lost_worker :
    ∃ f, (launch twoLegs {} []).performAll (fun _ => recorder [1])
        [.spawn homeLeg, .pass homeLeg, .wake 7, .play 7, .release homeLeg, .giveUp] = some f ∧
      f.runners.map (fun r => r.activity.receives) = [false, false] ∧
      f.end? = some (.failed .abandoned) ∧
      Settles (fun _ => recorder [1]) twoLegs (launch twoLegs {} [])
        [.spawn homeLeg, .pass homeLeg, .wake 7, .play 7, .release homeLeg, .giveUp] f := by
  have made : (launch twoLegs {} []).performAll (fun _ => recorder [1])
      [.spawn homeLeg, .pass homeLeg, .wake 7, .play 7, .release homeLeg, .giveUp] = some _ := rfl
  exact ⟨_, made, rfl, rfl, race_settles made⟩

end Field

end TraceReplay
