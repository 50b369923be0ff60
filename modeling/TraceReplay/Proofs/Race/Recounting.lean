import TraceReplay.Proofs.Race.Advance
import TraceReplay.Proofs.Race.Counting

/-!
# Nothing is skipped, and nothing is read ahead

Wherever the state of a race is, the calls that were performed, the call that is in its hands and the
calls that were not read yet are the calls of the source, in their order, and the legs that have a runner
are those of the calls that turned up (`Place.Recounts`). Every move keeps that (`Leads.recounts`),
whatever backend each of the runners sees, so every schedule does (`recounts_of_performAll`).
-/

namespace TraceReplay

open Reference (admitAll)

variable {σ : Type} {calls : List Call} {effects : List Effect}

/-- The call of a baton comes next after those that were performed, and the rest was not read. -/
structure Baton.Recounts (calls : List Call) (effects : List Effect) (baton : Baton) : Prop where
  order : retraced effects ++ baton.call :: baton.state.source.calls = calls
  /-- Whether its own leg has a runner yet or not. -/
  legs : insertLeg baton.call.leg baton.state.legs =
    admitAll [homeLeg] (retraced effects ++ [baton.call])

/-- A race is over after the calls that were performed, and the rest was not read. -/
structure Finish.Recounts (calls : List Call) (effects : List Effect) (finish : Finish) : Prop where
  order : retraced effects ++ finish.state.source.calls = calls
  legs : finish.state.legs = admitAll [homeLeg] (retraced effects)
  /-- Only a dump ends a race before its last call. -/
  whole : finish.outcome = .ok .completed → finish.state.source.calls = []

/-- The state of a race accounts for its calls, unless the race failed or the state was lost. -/
def Place.Recounts (calls : List Call) (effects : List Effect) : Place → Prop
  | running baton | passing _ baton | mailed baton => baton.Recounts calls effects
  | finishing _ finish | onFinishLine finish | stopping finish _ _ =>
    ∀ outcome, finish.outcome = .ok outcome → finish.Recounts calls effects
  | settled raceEnd => ∀ result, raceEnd = .finished result → result.Recounts [homeLeg] calls effects
  | lost _ => True

/-- When the race is settled, the calls that were not read are gone with its source. -/
theorem Finish.Recounts.result {finish : Finish} (h : finish.Recounts calls effects) {stopped : Nat}
    {result : RaceResult} (given : Field.resultOf finish stopped = .finished result) :
    result.Recounts [homeLeg] calls effects := by
  unfold Field.resultOf at given
  split at given
  · rename_i outcome ok
    cases given
    refine ⟨⟨_, h.order⟩, h.legs, fun completed => ?_⟩
    obtain rfl : outcome = .completed := completed
    rw [← h.order, h.whole ok, List.append_nil]
  · cases given

namespace Field

variable {b : Backend σ} {backend : Leg → Backend σ} {source : Source} {player : Player} {world : σ}

/-- The home runner begins with the first call of the source. -/
theorem recounts_opening (source : Source) (player : Player) :
    (Place.after homeLeg (opening source player)).Recounts source.calls [] := by
  obtain ⟨calls, fault?⟩ := source
  cases calls with
  | nil =>
    cases fault? with
    | none => exact fun _ _ => ⟨rfl, rfl, fun _ => rfl⟩
    | some e => exact fun _ ok => by cases ok
  | cons call rest =>
    simp only [opening, Source.next]
    split <;> exact ⟨rfl, rfl⟩

/-- A call that was performed is followed by the next one of the source, if there is one. -/
theorem recounts_playBaton (b : Backend σ) {baton : Baton} {j : Journaled σ}
    (sorted : baton.state.legs.Pairwise (· < ·)) (known : baton.call.leg ∈ baton.state.legs)
    (h : baton.Recounts calls j.effects) :
    Ensures (playBaton b.journaled baton.call.leg baton) j fun a s =>
      (Place.after baton.call.leg a).Recounts calls s.effects := by
  obtain ⟨call, ⟨⟨rest, fault?⟩, player, legs⟩⟩ := baton
  obtain ⟨order, same⟩ := h
  rw [insertLeg_of_mem sorted known] at same
  change retraced j.effects ++ call :: rest = calls at order
  change legs = admitAll [homeLeg] (retraced j.effects ++ [call]) at same
  refine .bind (player.play_journaled call j) ?_
  rintro ⟨_, q⟩ s ⟨k, played, rfl, effects⟩
  have performed : k.verdict = .proceed ∨ k.verdict = .stop →
      retraced s.effects = retraced j.effects ++ [call] := fun well => by
    rw [effects, retraced_append, played.block.retraced_effects, Block.retraced,
      if_pos (k.done_of_verdict well), played.block.call]
  have unread : k.verdict = .proceed ∨ k.verdict = .stop → retraced s.effects ++ rest = calls :=
    fun well => by rwa [performed well, List.append_assoc]
  cases ended : k.verdict with
  | crashed => exact .pure trivial
  | failed fault => exact .pure fun _ ok => by cases ok
  | stop =>
    refine .pure fun _ _ => ⟨unread (.inr ended), ?_, fun completed => by cases completed⟩
    rw [performed (.inr ended)]
    exact same
  | proceed =>
    have unread := unread (.inl ended)
    rw [← performed (.inl ended)] at same
    simp only [afterPlay]
    cases rest with
    | nil =>
      cases fault? with
      | none => exact .pure fun _ _ => ⟨unread, same, fun _ => rfl⟩
      | some e => exact .pure fun _ ok => by cases ok
    | cons next rest =>
      have admitted : insertLeg next.leg legs = admitAll [homeLeg] (retraced s.effects ++ [next]) := by
        rw [same, admitAll, admitAll, List.foldl_append]
        rfl
      simp only [Source.next]
      split
      · exact .pure ⟨unread, admitted⟩
      · refine .bind (b.handOver_journaled s) ?_
        rintro answer t ⟨flushed, effects, none⟩
        have unchanged : retraced t.effects = retraced s.effects := by
          rw [effects, retraced_append, none, List.append_nil]
        cases answer with
        | done => exact .pure ⟨unchanged ▸ unread, unchanged ▸ admitted⟩
        | failed fault => exact .pure fun _ ok => by cases ok
        | crashed => exact .pure trivial

variable {f g : Field (Journaled σ)} {p q : Place}

/-- One move keeps the account. -/
theorem Leads.recounts {move : Move} (h : f.Stands p)
    (leads : Leads (fun leg => (backend leg).journaled) move f p g q)
    (recounts : p.Recounts calls f.world.effects) : q.Recounts calls g.world.effects := by
  have advance := leads.advance
  have sound := h.sound
  generalize f.world = w at advance recounts
  generalize g.world = v at advance ⊢
  cases advance with
  | play baton =>
    obtain ⟨known, knows⟩ := sound
    exact recounts_playBaton (backend baton.call.leg) knows.sorted ((knows.mem_iff _).2 known) recounts
  | spawn leg baton => exact ⟨recounts.order, (insertLeg_insertLeg ..).trans recounts.legs⟩
  | settle finish stopped =>
    intro result given
    cases ended : finish.outcome with
    | ok outcome => exact (recounts outcome ended).result given
    | error e => simp [resultOf, ended] at given
  | wake | pass | deliver | collect | close | join | release | leave | giveUp => exact recounts

/-- Every schedule keeps it. -/
theorem Stands.recounts {moves : List Move} (h : f.Stands p)
    (made : f.performAll (fun leg => (backend leg).journaled) moves = some g) (h' : g.Stands q)
    (recounts : p.Recounts calls f.world.effects) : q.Recounts calls g.world.effects := by
  induction moves generalizing f p with
  | nil =>
    obtain rfl := Option.some.inj made
    exact h.eq_of_has h'.has ▸ recounts
  | cons move moves ih =>
    obtain ⟨e, first, rest⟩ := performAll_cons_eq_some_iff.1 made
    obtain ⟨p', leads⟩ := h.perform first
    exact ih leads.stands rest (leads.recounts h recounts)

/-- Wherever the state of a race is, it accounts for the calls of the source. -/
theorem recounts_of_performAll {moves : List Move} (stands : f.Stands p)
    (made : (launch source player ⟨world, []⟩).performAll (fun leg => (backend leg).journaled) moves =
      some f) : p.Recounts source.calls f.world.effects :=
  (stands_launch source player _).recounts made stands (recounts_opening source player)

/-- A race is over in the hands of a runner, or on its way home. -/
def Ends (f : Field σ) (finish : Finish) : Prop :=
  f.finishLine? = some finish ∨ ∃ r ∈ f.runners, r.activity = .finishing finish ∨
    ∃ left stopped, r.activity = .stopping finish left stopped

/-- Then it accounts for its calls, too. -/
theorem Stands.recounts_of_ends {f : Field (Journaled σ)} {p : Place} {finish : Finish} (h : f.Stands p)
    (recounts : p.Recounts calls f.world.effects) (ends : f.Ends finish) :
    ∀ outcome, finish.outcome = .ok outcome → finish.Recounts calls f.world.effects := by
  obtain line | ⟨r, mem, act | ⟨left, stopped, act⟩⟩ := ends
  · obtain rfl := h.of_finishLine line
    exact recounts
  · obtain rfl := h.of_finishing mem act
    exact recounts
  · obtain ⟨rfl, -⟩ := h.of_stopping mem act
    exact recounts

end Field

end TraceReplay
