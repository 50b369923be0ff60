import TraceReplay.Proofs.Race.Hiring
import TraceReplay.Proofs.Race.Refinement
import TraceReplay.Proofs.Race.Stages
import TraceReplay.Proofs.Race.Undumped

/-!
# A dump cuts a race short

In a race in which nothing fails the dumper is tried once for each call that is due, until a dump works
(`Staged.ends`). If its answers are given (`Backend.withDumps`), it gives them in a race (`run_answered`). So
the call that the race ends with depends on these answers alone (`CutShort`), whatever the schedule
(`Field.dump_cuts_short`), and up to there the race does what it does without a threshold (`run_undumping`).
-/

namespace TraceReplay

variable {σ : Type}

/-- The answer of the dumper, if it was asked. -/
def Effect.dumpAnswer? : Effect → Option Bool
  | dumped answer => some answer
  | _ => none

/-- What became of the attempts to dump the state, in order. -/
def dumpAnswers (effects : List Effect) : List Bool := effects.filterMap Effect.dumpAnswer?

@[simp] theorem dumpAnswers_append (effects effects' : List Effect) :
    dumpAnswers (effects ++ effects') = dumpAnswers effects ++ dumpAnswers effects' := List.filterMap_append

theorem dumpAnswers_of_not_ofDump {e : Effect} (other : e.ofDump = false) : dumpAnswers [e] = [] := by
  cases e <;> first | rfl | cases other

/-- There is an attempt to dump the state after the call. -/
def Player.dumpsAfter (p : Player) (b : Backend σ) (c : Call) : Bool := b.dump?.isSome && p.wantsDump c

section

variable {b : Backend σ} {p : Player} {previous? : Option Leg} {c : Call} {s : Stage}

/-- From the threshold on there is one attempt for each stage. -/
theorem Stage.IsFor.isSome_dump? (h : s.IsFor b p previous? c) :
    s.block.dump?.isSome = p.dumpsAfter b c := by
  rw [Bool.eq_iff_iff, h.block.dump, and_iff_right h.done, Player.dumpsAfter, Bool.and_eq_true,
    p.wantsDump_iff, and_comm]

theorem Stage.IsFor.dumpAnswers_effects (h : s.IsFor b p previous? c) :
    dumpAnswers s.effects = if p.dumpsAfter b c then [s.dumps] else [] := by
  have other : ∀ e : Effect, e.ofSnapshot = true → e.dumpAnswer? = none := by
    intro e ofSnapshot
    cases e <;> first | rfl | cases ofSnapshot
  have flush : dumpAnswers (s.flush?.map Effect.flushed).toList = [] := by cases s.flush? <;> rfl
  rw [Stage.effects, dumpAnswers_append, flush, dumpAnswers, h.block.filterMap_effects other, Stage.dumps,
    ← h.isSome_dump?]
  rcases s.block.dump? with _ | (_ | passedOn) <;> rfl

/-- What the dumper answers after calls none of which it dumped. -/
def refusals (p : Player) (b : Backend σ) (calls : List Call) : List Bool :=
  .replicate (calls.countP (p.dumpsAfter b)) false

/-- A race went through all its calls and no dump worked, or it ended with the first dump that worked. -/
theorem Staged.ends {calls : List Call} {stages : List Stage} {outcome : RaceOutcome}
    (h : Staged b p previous? calls stages outcome) :
    outcome = .completed ∧ retraced (stages.flatMap Stage.effects) = calls ∧
        dumpAnswers (stages.flatMap Stage.effects) = refusals p b calls ∨
      ∃ before c after, calls = before ++ c :: after ∧ p.dumpsAfter b c = true ∧
        outcome = .stateDumped c.no ∧ retraced (stages.flatMap Stage.effects) = before ++ [c] ∧
        dumpAnswers (stages.flatMap Stage.effects) = refusals p b before ++ [true] := by
  induction h with
  | completes => exact .inl ⟨rfl, rfl, rfl⟩
  | @goesOn _ c _ s stages _ is undumped _ ih =>
    have first : ∀ cs, refusals p b (c :: cs) = dumpAnswers s.effects ++ refusals p b cs := by
      intro cs
      rw [is.dumpAnswers_effects, undumped, refusals, refusals, List.countP_cons, Nat.add_comm,
        List.replicate_add]
      cases p.dumpsAfter b c <;> rfl
    rw [List.flatMap_cons, retraced_append, dumpAnswers_append, is.retraced_effects]
    obtain ⟨completed, performed, answers⟩ | ⟨before, d, after, rfl, due, stopped, performed, answers⟩ := ih
    · exact .inl ⟨completed, congrArg (c :: ·) performed, by rw [answers, first]⟩
    · refine .inr ⟨c :: before, d, after, rfl, due, stopped, congrArg (c :: ·) performed, ?_⟩
      rw [answers, first, List.append_assoc]
  | @stops _ c cs s is dumped =>
    have due : p.dumpsAfter b c = true := by
      rw [← is.isSome_dump?]
      exact Option.isSome_of_any dumped
    have answers := is.dumpAnswers_effects
    rw [due, dumped] at answers
    rw [List.flatMap_singleton, is.retraced_effects]
    exact .inr ⟨[], c, cs, rfl, due, rfl, rfl, answers⟩

end

variable {b : Backend σ} {works : Nat → Bool} {passOn : Nat → Except StorageFault Unit}

/-- With a dumper nothing fails either. -/
theorem Backend.NeverFails.withDumps (h : b.NeverFails) (works? : Option (Nat → Bool))
    (passOn : Nat → Except StorageFault Unit) : (b.withDumps works? passOn).NeverFails where
  perform c s := h.perform c s.1
  handOver s := by
    have beside : Matches (fun (s : σ × Nat) w => s.1 = w) (besides b.flush) b.flush := by
      rintro s _ rfl
      exact ⟨rfl, rfl⟩
    have same : Matches (fun s w => s.1 = w) (b.withDumps works? passOn).handOver b.handOver :=
      matches_handOver beside fun _ _ same => congrArg b.flushCrashed same
    exact (same s s.1 rfl).1.trans (h.handOver s.1)

/-- The dumper has answered as it is to, and counted its answers. -/
def Answered (works : Nat → Bool) (s : Journaled (σ × Nat)) : Prop :=
  dumpAnswers s.effects = (List.range s.world.2).map works

theorem mirrors_answered (b : Backend σ) (works : Nat → Bool) (passOn : Nat → Except StorageFault Unit) :
    Backend.Mirrors (fun s t => s = t ∧ Answered works s) (b.withDumps (some works) passOn).journaled
      (b.withDumps (some works) passOn).journaled := by
  have note : ∀ {α : Type} (x : StateM σ α) (effect : α → Effect), (∀ a, (effect a).ofDump = false) →
      Matches (fun s t => s = t ∧ Answered works s) (Journaled.note (besides x) effect)
        (Journaled.note (besides x) effect) := by
    rintro α x effect other ⟨⟨w, n⟩, es⟩ _ ⟨rfl, answered⟩
    refine ⟨rfl, rfl, ?_⟩
    have nothing : dumpAnswers [effect (x w).1] = [] := dumpAnswers_of_not_ofDump (other (x w).1)
    show dumpAnswers (es ++ [effect (x w).1]) = _
    rw [dumpAnswers_append, nothing, List.append_nil]
    exact answered
  have pass : ∀ {α : Type} (x : StateM σ α), Matches (fun s t => s = t ∧ Answered works s)
      (Journaled.pass (besides x)) (Journaled.pass (besides x)) := by
    rintro α x s _ ⟨rfl, answered⟩
    exact ⟨rfl, rfl, answered⟩
  exact {
    b.mirrors_withDumps (some works) passOn (fun _ _ same => congrArg (·.world.1) same.1) note pass with
    dump := by
      refine .some ?_
      rintro ⟨⟨w, n⟩, es⟩ _ ⟨rfl, answered⟩
      refine ⟨rfl, rfl, ?_⟩
      show dumpAnswers (es ++ [.dumped (works n)]) = (List.range (n + 1)).map works
      rw [dumpAnswers_append, answered, List.range_succ, List.map_append]
      rfl
    flushDump := by
      rintro ⟨⟨w, n⟩, es⟩ _ ⟨rfl, answered⟩
      refine ⟨rfl, rfl, ?_⟩
      show dumpAnswers (es ++ [.flushedDump (passOn n)]) = (List.range n).map works
      rw [dumpAnswers_append, answered]
      exact List.append_nil _ }

/-- So in a race the dumper answers as it is to. -/
theorem run_answered (b : Backend σ) (works : Nat → Bool) (passOn : Nat → Except StorageFault Unit)
    (source : Source) (p : Player) (w : σ) :
    Answered works (Reference.run (b.withDumps (some works) passOn).journaled source p ⟨(w, 0), []⟩).2 :=
  ((mirrors_answered b works passOn).follow source.fault? source.calls none [homeLeg] p.beginRace
    ⟨(w, 0), []⟩ ⟨(w, 0), []⟩ ⟨rfl, rfl⟩).2.2

/-- The calls after which the state is to be dumped. -/
def due (threshold : UInt32) (calls : List Call) : List Call :=
  calls.filter fun c => decide (threshold ≤ c.no)

theorem due_append_cons {threshold : UInt32} {d : Call} (isDue : threshold ≤ d.no)
    (before after : List Call) :
    due threshold (before ++ d :: after) = due threshold before ++ d :: due threshold after := by
  simp [due, isDue]

section

variable {p : Player} {threshold : UInt32} (wanted : p.dumpAt? = some threshold)
include wanted

/-- With a dumper they are the ones after which there is an attempt. -/
theorem dumpsAfter_withDumps (c : Call) :
    p.dumpsAfter (b.withDumps (some works) passOn) c = decide (threshold ≤ c.no) := by
  rw [Player.dumpsAfter, Player.wantsDump, wanted]
  rfl

theorem refusals_withDumps (calls : List Call) :
    refusals p (b.withDumps (some works) passOn) calls = .replicate (due threshold calls).length false := by
  have same : p.dumpsAfter (b.withDumps (some works) passOn) = fun c => decide (threshold ≤ c.no) :=
    funext (dumpsAfter_withDumps wanted)
  rw [refusals, same, List.countP_eq_length_filter, due]

end

/-- The dumper answers as it is to, and refuses all the time. -/
theorem refuses_of_answers {works : Nat → Bool} {m n : Nat}
    (answers : (List.range m).map works = .replicate n false) : m = n ∧ ∀ i < n, works i = false := by
  obtain ⟨length, same⟩ := List.eq_replicate_iff.1 answers
  rw [List.length_map, List.length_range] at length
  refine ⟨length, fun i lt => same _ (List.mem_map_of_mem ?_)⟩
  rwa [List.mem_range, length]

/-- Its last answer is the first that is no refusal. -/
theorem works_of_answers {works : Nat → Bool} {m n : Nat}
    (answers : (List.range m).map works = .replicate n false ++ [true]) :
    m = n + 1 ∧ (∀ i < n, works i = false) ∧ works n = true := by
  have length := congrArg List.length answers
  simp only [List.length_map, List.length_range, List.length_append, List.length_replicate,
    List.length_singleton] at length
  subst length
  rw [List.range_succ, List.map_append] at answers
  obtain ⟨refused, worked⟩ := List.append_inj' answers rfl
  exact ⟨rfl, (refuses_of_answers refused).2, (List.cons.inj worked).1⟩

/-- How a race over these calls went in which nothing failed and the dumper, if there is one, answered as it
was to. -/
structure CutShort (b : Backend σ) (works? : Option (Nat → Bool)) (passOn : Nat → Except StorageFault Unit)
    (p : Player) (threshold : UInt32) (calls : List Call) (effects : List Effect) (result : RaceResult) :
    Prop where
  /-- Each attempt comes last in the stage of its call, and nothing comes after the last stage. -/
  staged : ∃ stages, Staged (b.withDumps works? passOn) p none calls stages result.outcome ∧
    effects = stages.flatMap Stage.effects
  attempts : dumpAnswers effects =
    works?.elim [] fun works => (List.range (due threshold (retraced effects)).length).map works
  /-- However the dump is passed on, the first one that works is the end. -/
  dumped : ∀ works k c, works? = some works → works k = true → (∀ i < k, works i = false) →
    (due threshold calls)[k]? = some c → ∃ before after, calls = before ++ c :: after ∧
      (due threshold before).length = k ∧ result.outcome = .stateDumped c.no ∧
      retraced effects = before ++ [c]
  completed : (∀ works, works? = some works → ∀ i < (due threshold calls).length, works i = false) →
    result.outcome = .completed ∧ retraced effects = calls
  counted : p.beginRace.counters.Grows result.player.counters (retraced effects)

section

variable {p : Player} {threshold : UInt32} {calls : List Call} {stages : List Stage} {result : RaceResult}
  (counted : p.beginRace.counters.Grows result.player.counters (retraced (stages.flatMap Stage.effects)))
include counted

/-- Without a dumper there are no attempts. -/
theorem Staged.cutShort_of_none
    (h : Staged (b.withDumps none passOn) p none calls stages result.outcome) :
    CutShort b none passOn p threshold calls (stages.flatMap Stage.effects) result := by
  obtain ⟨completed, performed, answers⟩ | ⟨_, c, _, _, due, _⟩ := h.ends
  · refine ⟨⟨stages, h, rfl⟩, ?_, nofun, fun _ => ⟨completed, performed⟩, counted⟩
    have never : p.dumpsAfter (b.withDumps none passOn) = fun _ => false := rfl
    rw [answers, refusals, never, List.countP_false]
    rfl
  · cases due

/-- With a dumper the race goes on until it answers otherwise. -/
theorem Staged.cutShort_of_some (wanted : p.dumpAt? = some threshold) {s : Journaled (σ × Nat)}
    (h : Staged (b.withDumps (some works) passOn) p none calls stages result.outcome)
    (effects : s.effects = stages.flatMap Stage.effects) (answered : Answered works s) :
    CutShort b (some works) passOn p threshold calls (stages.flatMap Stage.effects) result := by
  rw [Answered, effects] at answered
  have ends := h.ends
  rw [answered] at ends
  obtain ⟨completed, performed, answers⟩ | ⟨before, d, after, rfl, isDue, stopped, performed, answers⟩ := ends
  · rw [refusals_withDumps wanted] at answers
    obtain ⟨attempts, refused⟩ := refuses_of_answers answers
    refine ⟨⟨stages, h, rfl⟩, ?_, ?_, fun _ => ⟨completed, performed⟩, counted⟩
    · rw [answered, attempts, performed]
      rfl
    · rintro _ k c ⟨⟩ worked - reached
      have lt : k < (due threshold calls).length := (List.getElem?_eq_some_iff.1 reached).1
      exact absurd worked (by simp [refused k lt])
  · rw [dumpsAfter_withDumps wanted] at isDue
    rw [refusals_withDumps wanted] at answers
    obtain ⟨attempts, refused, worked⟩ := works_of_answers answers
    have split := due_append_cons (of_decide_eq_true isDue) before
    refine ⟨⟨stages, h, rfl⟩, ?_, ?_, ?_, counted⟩
    · rw [answered, attempts, performed, split, List.length_append]
      rfl
    · rintro _ k c ⟨⟩ works' refused' reached
      -- An attempt that works and has only refusals before it is the last one made.
      obtain rfl : k = (due threshold before).length := by
        rcases Nat.lt_trichotomy k (due threshold before).length with lt | same | lt
        · exact absurd works' (by simp [refused k lt])
        · exact same
        · exact absurd worked (by simp [refused' _ lt])
      rw [split, List.getElem?_append_right le_rfl, Nat.sub_self] at reached
      obtain rfl : d = c := Option.some.inj reached
      exact ⟨before, after, rfl, rfl, stopped, performed⟩
    · intro refused'
      have lt : (due threshold before).length < (due threshold (before ++ d :: after)).length := by
        rw [split, List.length_append, List.length_cons]
        omega
      exact absurd worked (by simp [refused' works rfl _ lt])

end

/-- A race in which nothing fails is cut short by its dumper, and by nothing else. -/
theorem cutShort_run {b : Backend σ} (never : b.NeverFails) (works? : Option (Nat → Bool))
    (passOn : Nat → Except StorageFault Unit) {p : Player} {threshold : UInt32}
    (wanted : p.dumpAt? = some threshold) (calls : List Call) (w : σ) :
    Ensures (Reference.run (b.withDumps works? passOn).journaled (.ofCalls calls) p) ⟨(w, 0), []⟩
      fun raceEnd s => ∃ result, raceEnd = .finished result ∧
        CutShort b works? passOn p threshold calls s.effects result := by
  obtain ⟨stages, result, finished, staged, effects⟩ := (never.withDumps works? passOn).run p calls (w, 0)
  obtain ⟨_, effects', counted⟩ := Reference.run_counted (b := b.withDumps works? passOn) (.ofCalls calls) p
    ⟨(w, 0), []⟩
  have grows := (counted result finished).grows
  rw [List.nil_append] at effects'
  rw [← effects', effects] at grows
  refine ⟨result, finished, ?_⟩
  rw [effects]
  cases works? with
  | none => exact staged.cutShort_of_none grows
  | some works => exact staged.cutShort_of_some grows wanted effects (run_answered b works passOn _ p w)

/-- Without a threshold such a race goes through all its calls. -/
theorem completes_undumping {b : Backend σ} (never : b.NeverFails) (p : Player) (calls : List Call)
    (w : σ) :
    Ensures (Reference.run b.journaled (.ofCalls calls) p.undumping) ⟨w, []⟩ fun _ s =>
      retraced s.effects = calls := by
  obtain ⟨stages, _, _, staged, effects⟩ := never.run p.undumping calls w
  obtain ⟨_, performed, _⟩ | ⟨_, _, _, _, due, _⟩ := staged.ends
  · exact (congrArg retraced effects).trans performed
  · exact absurd due (by simp [Player.dumpsAfter, Player.wantsDump, Player.undumping])

namespace Field

/-- A race with a threshold in which nothing fails, at this point of its schedule. -/
structure DumpRace (b : Backend σ) (works? : Option (Nat → Bool)) (passOn : Nat → Except StorageFault Unit)
    (p : Player) (threshold : UInt32) (calls : List Call) (w : σ) (moves : List Move)
    (f : Field (Journaled (σ × Nat))) : Prop where
  bounded : moves.length ≤ moveBound calls.length
  complete : (∀ move, f.perform (fun _ => (b.withDumps works? passOn).journaled) move = none) →
    ∃ raceEnd, f.end? = some raceEnd
  /-- As long as the state of a race that is over is there, its source has the calls that come later. -/
  unread : ∀ finish outcome, f.Ends finish → finish.outcome = .ok outcome →
    retraced f.world.effects ++ finish.state.source.calls = calls
  ended : ∀ raceEnd, f.end? = some raceEnd → ∃ result, raceEnd = .finished result ∧
    CutShort b works? passOn p threshold calls f.world.effects result
  /-- Up to its last call it does what it does without a threshold, whatever the schedule. -/
  alike : ∀ raceEnd, f.end? = some raceEnd → ∀ moves' g raceEnd',
    (launch (.ofCalls calls) p.undumping ⟨(w, 0), []⟩).performAll
      (fun _ => (b.withDumps works? passOn).journaled) moves' = some g → g.end? = some raceEnd' →
    ∃ more, g.world.effects = undumped f.world.effects ++ more ∧
      retraced f.world.effects ++ retraced more = calls

/-- A dump that works ends the race after its call, on whatever leg, and other dumps change nothing. -/
theorem dump_cuts_short {b : Backend σ} (never : b.NeverFails) {works? : Option (Nat → Bool)}
    {passOn : Nat → Except StorageFault Unit} {p : Player} {threshold : UInt32}
    (wanted : p.dumpAt? = some threshold) {calls : List Call} {w : σ} {moves : List Move}
    {f : Field (Journaled (σ × Nat))}
    (made : (launch (.ofCalls calls) p ⟨(w, 0), []⟩).performAll
      (fun _ => (b.withDumps works? passOn).journaled) moves = some f) :
    DumpRace b works? passOn p threshold calls w moves f := by
  have refines := race_refines_reference made
  refine ⟨refines.bounded, refines.complete, ?_, ?_, ?_⟩
  · intro finish outcome ends ok
    obtain ⟨place, stands, _⟩ := exists_place made
    exact (stands.recounts_of_ends (recounts_of_performAll stands made) ends outcome ok).order
  · intro raceEnd ended
    have cut := cutShort_run never works? passOn wanted calls w
    rwa [Ensures, refines.agrees raceEnd ended] at cut
  · intro raceEnd ended moves' g raceEnd' made' ended'
    have refines' := race_refines_reference made'
    have whole := completes_undumping (never.withDumps works? passOn) p calls (w, 0)
    obtain ⟨more, effects⟩ := run_undumping b works? passOn (.ofCalls calls) p w
    rw [Ensures, refines'.agrees raceEnd' ended'] at whole
    rw [refines.agrees raceEnd ended, refines'.agrees raceEnd' ended'] at effects
    refine ⟨more, effects.symm, ?_⟩
    rw [← retraced_undumped, ← retraced_append, effects]
    exact whole

/-- The first attempt is made at home and does not work; the second, away from home, is the end, though the
dump is not passed on. -/
theorem dump_cuts_short_away :
    ∃ f result, (launch threeLegs { dumpAt? := some 2 } ⟨([], 0), []⟩).performAll
        (fun _ => ((recorder []).withDumps (some (· == 1)) fun _ => .error .flushRefused).journaled)
        thereAndBack = some f ∧
      f.end? = some (.finished result) ∧ result.outcome = .stateDumped 3 ∧ f.world.world = ([1, 2, 3], 2) ∧
      DumpRace (recorder []) (some (· == 1)) (fun _ => .error .flushRefused) { dumpAt? := some 2 } 2
        threeLegs.calls [] thereAndBack f := by
  have never : (recorder []).NeverFails := ⟨fun _ _ => rfl, fun _ => rfl⟩
  have made : (launch threeLegs { dumpAt? := some 2 } ⟨([], 0), []⟩).performAll
      (fun _ => ((recorder []).withDumps (some (· == 1)) fun _ => .error .flushRefused).journaled)
      thereAndBack = some _ := rfl
  exact ⟨_, _, made, rfl, rfl, rfl, dump_cuts_short never rfl made⟩

end Field

end TraceReplay
