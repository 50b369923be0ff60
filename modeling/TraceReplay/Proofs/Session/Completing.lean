import TraceReplay.Proofs.Replay.Tallies
import TraceReplay.Proofs.Session.Filming

/-!
# Replays that are not cut short

In a studio a call whose payload is a command cannot fail, whatever becomes of the snapshots of it. So a replay
that does not dump the state and whose payloads are commands comes to the end of its source, on one thread
(`follow_completes`) and in every schedule of a race (`race_completes`).
-/

namespace TraceReplay

/-- The payload of the call is a command. -/
def Call.Decodes (c : Call) : Prop := ∃ command, DrawCommand.decode c.payload = .ok command

variable {codec : ImageCodec} {p : Player} {s : Studio}

/-- A call is performed if its payload is a command, and if nothing is dumped the next one follows. -/
theorem Player.play_studio_of_decodes {c : Call} (decodes : c.Decodes) (undumped : p.dumpAt? = none)
    (codec : ImageCodec) (s : Studio) :
    Ensures (p.play (Studio.backend codec) c) s fun (verdict, q) _ =>
      verdict = .proceed ∧ p.SameAims q ∧ p.counters.Grows q.counters [c] := by
  obtain ⟨command, decoded⟩ := decodes
  obtain ⟨aims, -, outcome⟩ := p.play_ensures codec c s
  obtain ⟨k, noted, ended, -⟩ := p.play_journaled (b := Studio.backend codec) c ⟨s, []⟩
  have mirrors := (Backend.Mirrors.refl (Studio.backend codec)).journaled_left
  obtain ⟨same, -⟩ := (mirrors.call c).play p ⟨s, []⟩ s rfl
  have player : (p.play (Studio.backend codec).journaled c ⟨s, []⟩).1.2 =
    (p.play (Studio.backend codec) c s).1.2 := congrArg Prod.snd same
  have verdict : (p.play (Studio.backend codec) c s).1.1 = k.verdict := (congrArg Prod.fst same).symm.trans ended
  have applied : s.canvas.shown.apply c.payload = .ok (s.canvas.shown.submit command) := by
    rw [EagerCanvas.apply, decoded]
    rfl
  rw [applied] at outcome
  obtain ⟨-, proceeds | ⟨-, dumps⟩⟩ := outcome
  · have done := k.done_of_verdict (.inl (verdict.symm.trans proceeds))
    have grown := noted.grows
    rw [player, Block.retraced, if_pos done, noted.block.call] at grown
    exact ⟨proceeds, aims, grown⟩
  · exact absurd undumped dumps

/-- What one thread makes of calls that are all performed. -/
theorem follow_completes {calls : List Call} (decodes : ∀ c ∈ calls, c.Decodes) (undumped : p.dumpAt? = none)
    (codec : ImageCodec) (previous? : Option Leg) (legs : List Leg) (s : Studio) :
    Ensures (Reference.follow (Studio.backend codec) none calls previous? legs p) s fun raceEnd _ =>
      ∃ q, raceEnd = Reference.finish .completed q (Reference.admitAll legs calls) ∧
        p.counters.Grows q.counters calls := by
  induction calls generalizing previous? legs p s with
  | nil => exact .pure ⟨p, rfl, .nil rfl⟩
  | cons c cs ih =>
    obtain ⟨t, changed, -, -⟩ := change_studio codec p previous? c.leg s
    have played := Player.play_studio_of_decodes (decodes c List.mem_cons_self) undumped codec t
    unfold Ensures at played ⊢
    rw [Reference.follow_cons_of_done changed]
    revert played
    generalize p.play (Studio.backend codec) c t = x
    obtain ⟨⟨verdict, q⟩, u⟩ := x
    rintro ⟨rfl, aims, first⟩
    have later : ∀ d ∈ cs, d.Decodes := fun d mem => decodes d (List.mem_cons_of_mem _ mem)
    obtain ⟨r, ended, rest⟩ :=
      ih later (aims.2.trans undumped) (some c.leg) (insertLeg c.leg legs) u
    exact ⟨r, ended, first.trans rest⟩

/-- A race that came to the end of its source, all of whose calls were replayed. -/
structure RaceResult.Completes (cs : List Call) (result : RaceResult) : Prop where
  outcome : result.outcome = .completed
  calls : result.player.counters.calls = cs.length
  frames : result.player.counters.frames = cs.countP Call.endsFrame
  legs : result.legs = Reference.admitAll [homeLeg] cs

theorem run_completes {calls : List Call} (decodes : ∀ c ∈ calls, c.Decodes) (undumped : p.dumpAt? = none)
    (codec : ImageCodec) (s : Studio) :
    ∃ result, (Reference.run (Studio.backend codec) ⟨calls, none⟩ p s).1 = .finished result ∧
      result.Completes calls := by
  have undumped' : p.beginRace.dumpAt? = none := undumped
  obtain ⟨q, ended, grows⟩ := follow_completes decodes undumped' codec none [homeLeg] s
  refine ⟨_, ended, rfl, ?_, ?_, rfl⟩
  · exact grows.calls.trans (Nat.zero_add _)
  · exact grows.frames.trans (Nat.zero_add _)

/-- So does every schedule that comes to a result. -/
theorem race_completes {calls : List Call} {moves : List Move} {f : Field Studio} {raceEnd : RaceEnd}
    (decodes : ∀ c ∈ calls, c.Decodes) (undumped : p.dumpAt? = none)
    (made : (Field.launch ⟨calls, none⟩ p s).performAll (fun _ => Studio.backend codec) moves = some f)
    (ended : f.end? = some raceEnd) : ∃ result, raceEnd = .finished result ∧ result.Completes calls := by
  have same := congrArg Prod.fst (Field.reference_eq_of_end made ended)
  obtain ⟨result, finished, completes⟩ := run_completes decodes undumped codec s
  exact ⟨result, same.symm.trans finished, completes⟩

end TraceReplay
