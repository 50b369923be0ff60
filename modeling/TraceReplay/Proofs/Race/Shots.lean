import TraceReplay.Proofs.Race.Refinement
import TraceReplay.Race.Shots

/-!
# A race has the shots of one thread

`Place.shots` says which shots are still to come when the state of a race is at a place, if one thread
goes on from there. A move that plays a call takes the first of them, no other move changes them
(`Leads.shots_eq`), and none is left when the race has its result. So every schedule that comes to a
result has the shots of `Reference.shots`, in the same order (`shots_eq_reference`).
-/

namespace TraceReplay

variable {σ : Type} {b : Backend σ}

namespace Reference

variable {c : Call} {cs : List Call} {previous? : Option Leg} {player : Player} {w v : σ}

/-- The shots from here on when the flush was made. -/
theorem followShots_cons_of_done (changed : change b previous? c.leg w = (.done, v)) :
    followShots b (c :: cs) previous? player w =
      (player.shot? b c v).toList ++
        match (player.play b c v).1.1 with
        | .proceed => followShots b cs (some c.leg) (player.play b c v).1.2 (player.play b c v).2
        | _ => [] := by
  rw [followShots, changed]
  simp only
  rcases player.play b c v with ⟨⟨_ | _ | _ | _, player⟩, u⟩ <;> rfl

/-- Once the flush was made, it does not matter where the replay came from. -/
theorem followShots_cons_eq (changed : change b previous? c.leg w = (.done, v)) :
    followShots b (c :: cs) previous? player w = followShots b (c :: cs) (some c.leg) player v := by
  rw [followShots_cons_of_done changed, followShots_cons_of_done (change_self b c.leg v)]

/-- Without the flush there is nothing to come. -/
theorem followShots_cons_of_ne (changed : (change b previous? c.leg w).1 ≠ .done) :
    followShots b (c :: cs) previous? player w = [] := by
  rw [followShots]
  split
  · rename_i done
    exact absurd (congrArg Prod.fst done) changed
  · rfl

end Reference

/-- The shots that one thread still makes of a race from here. -/
def Place.shots (b : Backend σ) : Place → σ → List Shot
  | running ⟨call, state⟩, w | passing _ ⟨call, state⟩, w | mailed ⟨call, state⟩, w =>
    Reference.followShots b (call :: state.source.calls) (some call.leg) state.player w
  | _, _ => []

namespace Field

variable {f g : Field σ} {p q : Place}

/-- A runner that plays a call makes the next shot, and leaves the others to come. -/
theorem shots_playBaton (baton : Baton) (w : σ) :
    (Place.running baton).shots b w =
      (baton.state.player.shot? b baton.call w).toList ++
        (Place.after baton.call.leg (playBaton b baton.call.leg baton w).1).shots b
          (playBaton b baton.call.leg baton w).2 := by
  obtain ⟨call, ⟨⟨calls, fault?⟩, player, legs⟩⟩ := baton
  rw [playBaton_eq, Place.shots, Reference.followShots_cons_of_done (Reference.change_self b call.leg w)]
  refine congrArg (_ ++ ·) ?_
  generalize player.play b call w = played
  obtain ⟨⟨verdict, player⟩, v⟩ := played
  cases verdict with
  | stop | failed _ | crashed => rfl
  | proceed =>
    cases calls with
    | nil => cases fault? <;> rfl
    | cons next rest =>
      simp only [afterPlay, Source.next]
      by_cases own : next.leg = call.leg
      · rw [if_pos own, ← own]
        rfl
      · rw [if_neg own]
        have flush : Reference.change b (some call.leg) next.leg = b.handOver := by
          rw [Reference.change, if_neg (Ne.symm own)]
        simp only [bind, StateT.bind]
        cases handed : b.handOver v with
        | mk answer u =>
          have changed := (congrFun flush v).trans handed
          cases answer with
          | done => exact Reference.followShots_cons_eq changed
          | failed _ | crashed => exact Reference.followShots_cons_of_ne (by rw [changed]; simp)

/-- The home runner begins with the shots of one thread. -/
theorem shots_opening (b : Backend σ) (source : Source) (player : Player) (w : σ) :
    (Place.after homeLeg (opening source player)).shots b w = Reference.shots b source player w := by
  obtain ⟨calls, fault?⟩ := source
  cases calls with
  | nil => cases fault? <;> rfl
  | cons call rest =>
    have begun : Reference.shots b ⟨call :: rest, fault?⟩ player w =
        Reference.followShots b (call :: rest) (some call.leg) player.beginRace w :=
      Reference.followShots_cons_eq rfl
    rw [begun]
    simp only [opening, Source.next]
    split <;> rfl

/-- The move that plays a call makes its shot. -/
theorem Stands.shot?_play {baton : Baton} (h : f.Stands (.running baton)) :
    f.shot? (fun _ => b) (.play baton.call.leg) = baton.state.player.shot? b baton.call f.world := by
  obtain ⟨⟨leg, mailbox?, activity⟩, mem, rfl, rfl⟩ := h.has
  have found := runner?_of_mem h.nodup mem
  simp only at found
  simp only [shot?, found]

/-- A move makes the first of the shots to come, or none and they are still to come. -/
theorem Leads.shots_eq {move : Move} (h : f.Stands p) (leads : Leads (fun _ => b) move f p g q) :
    p.shots b f.world = (f.shot? (fun _ => b) move).toList ++ q.shots b g.world := by
  have advance := leads.advance
  generalize world : f.world = w at advance
  generalize g.world = v at advance
  cases advance with
  | play baton =>
    subst world
    rw [h.shot?_play]
    exact shots_playBaton baton f.world
  | wake | spawn | pass | deliver | collect | close | join | settle | release | leave | giveUp => rfl

/-- A schedule makes the first of the shots to come. -/
theorem Stands.shots_eq {moves : List Move} (h : f.Stands p)
    (made : f.performAll (fun _ => b) moves = some g) (h' : g.Stands q) :
    p.shots b f.world = f.shots (fun _ => b) moves ++ q.shots b g.world := by
  induction moves generalizing f p with
  | nil =>
    obtain rfl := Option.some.inj made
    rw [h.eq_of_has h'.has]
    rfl
  | cons move moves ih =>
    obtain ⟨e, first, rest⟩ := performAll_cons_eq_some_iff.1 made
    obtain ⟨p', leads⟩ := h.perform first
    rw [leads.shots_eq h, ih leads.stands rest, shots, first, List.append_assoc]

/-- A schedule after which nobody can move has come to a result. -/
theorem exists_end_of_stuck {source : Source} {player : Player} {world : σ} {moves : List Move}
    (made : (launch source player world).performAll (fun _ => b) moves = some f)
    (stuck : ∀ move, f.perform (fun _ => b) move = none) : ∃ result, f.end? = some result := by
  obtain ⟨p, stands, _⟩ := exists_place made
  refine stands.exists_end ?_
  by_contra running
  obtain ⟨_, _, move, _, g, possible⟩ := stands.exists_move (fun _ => b) running
  cases (stuck move).symm.trans possible

/-- A schedule that comes to a result has the shots of one thread. -/
theorem shots_eq_reference {source : Source} {player : Player} {world : σ} {moves : List Move}
    {result : RaceEnd}
    (made : (launch source player world).performAll (fun _ => b) moves = some f)
    (ended : f.end? = some result) :
    (launch source player world).shots (fun _ => b) moves = Reference.shots b source player world := by
  have begun := stands_launch source player world
  obtain ⟨p, stands, _⟩ := exists_place made
  have none_left : p.shots b f.world = [] := by
    rcases stands.end?_cases ended with rfl | ⟨rfl, _⟩ | ⟨_, _, rfl, _⟩ <;> rfl
  have all := begun.shots_eq made stands
  rw [none_left, List.append_nil, shots_opening] at all
  exact all.symm

end Field

end TraceReplay
