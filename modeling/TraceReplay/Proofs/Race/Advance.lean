import TraceReplay.Proofs.Race.Place

/-!
# How the state of a race advances

`Advance` lists what a move does to the place of the state and to the world: it is the race without
its threads. `Stands.perform` says that every move that can be made in a field whose state stands
somewhere is one of these, and that it uses up some of the moves that are left. `stands_launch` is
the start, so along every schedule the state stands somewhere, and the calls bound the number of
moves (`exists_place`).
-/

namespace TraceReplay

variable {σ : Type}

/-- What a move does to the place of the state and to the world. -/
inductive Advance (backend : Leg → Backend σ) : Move → Place → σ → Place → σ → Prop
  | wake (baton : Baton) (w : σ) :
    Advance backend (.wake baton.call.leg) (.mailed baton) w (.running baton) w
  | play (baton : Baton) (w : σ) :
    Advance backend (.play baton.call.leg) (.running baton) w
      (.after baton.call.leg (Field.playBaton (backend baton.call.leg) baton.call.leg baton w).1)
      (Field.playBaton (backend baton.call.leg) baton.call.leg baton w).2
  | spawn (leg : Leg) (baton : Baton) (w : σ) (fresh : baton.call.leg ∉ baton.state.legs) :
    Advance backend (.spawn leg) (.passing leg baton) w (.passing leg baton.admitted) w
  | pass (leg : Leg) (baton : Baton) (w : σ) (known : baton.call.leg ∈ baton.state.legs) :
    Advance backend (.pass leg) (.passing leg baton) w (.mailed baton) w
  | deliver (leg : Leg) (finish : Finish) (w : σ) (away : leg ≠ homeLeg) :
    Advance backend (.deliver leg) (.finishing leg finish) w (.onFinishLine finish) w
  | collect (finish : Finish) (w : σ) :
    Advance backend .collect (.onFinishLine finish) w (.finishing homeLeg finish) w
  | close (finish : Finish) (w : σ) :
    Advance backend .close (.finishing homeLeg finish) w
      (.stopping finish (finish.state.legs.filter (· ≠ homeLeg)) 0) w
  | join (finish : Finish) (leg : Leg) (left : List Leg) (stopped : Nat) (w : σ) :
    Advance backend .join (.stopping finish (leg :: left) stopped) w
      (.stopping finish left (stopped + 1)) w
  | settle (finish : Finish) (stopped : Nat) (w : σ) :
    Advance backend .settle (.stopping finish [] stopped) w
      (.settled (Field.resultOf finish stopped)) w
  | release (leg : Leg) (p : Place) (w : σ) : Advance backend (.release leg) p w p w
  | leave (leg : Leg) (p : Place) (w : σ) (closed : p.isOpen = false) :
    Advance backend (.leave leg) p w p w
  | giveUp (leg : Leg) (w : σ) (away : leg ≠ homeLeg) :
    Advance backend .giveUp (.lost leg) w (.lost leg) w

namespace Field

variable {backend : Leg → Backend σ} {f g : Field σ} {p q : Place} {leg : Leg} {r : Runner}

/-- What a runner may be doing when it has played a call, in a race with these legs and with so many
calls left to read. -/
inductive Played (leg : Leg) (legs : List Leg) (remaining : Nat) : Activity → Prop
  | running {baton : Baton} (own : baton.call.leg = leg) (same : baton.state.legs = legs)
    (less : baton.state.source.remaining < remaining) :
    Played leg legs remaining (.running baton)
  | passing {baton : Baton} (other : leg ≠ baton.call.leg) (same : baton.state.legs = legs)
    (less : baton.state.source.remaining < remaining) :
    Played leg legs remaining (.passing baton)
  | finishing {finish : Finish} (same : finish.state.legs = legs)
    (error : ∀ e, finish.outcome = .error e → (∃ t, e = .trace t) ∨ ∃ fault, e = .executor fault) :
    Played leg legs remaining (.finishing finish)
  | crashed : Played leg legs remaining .crashed

theorem played_afterPlay (b : Backend σ) (leg : Leg) (call : Call) (verdict : Verdict)
    (state : RaceState) (w : σ) :
    Played leg state.legs state.source.remaining (afterPlay b leg call verdict state w).1 := by
  obtain ⟨⟨calls, fault?⟩, player, legs⟩ := state
  cases verdict with
  | crashed => exact .crashed
  | failed fault => exact .finishing rfl fun e h => .inr ⟨fault, (Except.error.inj h).symm⟩
  | stop => exact .finishing rfl fun e h => by cases h
  | proceed =>
    cases calls with
    | nil =>
      cases fault? with
      | none => exact .finishing rfl fun e h => by cases h
      | some t => exact .finishing rfl fun e h => .inl ⟨t, (Except.error.inj h).symm⟩
    | cons next rest =>
      have less : rest.length < (next :: rest).length := Nat.lt_succ_self _
      simp only [afterPlay, Source.next]
      split
      · rename_i own
        exact .running own rfl less
      · rename_i other
        simp only [bind, StateT.bind]
        rcases b.handOver w with ⟨_ | fault | _, w'⟩
        · exact .passing (Ne.symm other) rfl less
        · exact .finishing rfl fun e h => .inr ⟨fault, (Except.error.inj h).symm⟩
        · exact .crashed

theorem playBaton_eq (b : Backend σ) (leg : Leg) (baton : Baton) (w : σ) :
    playBaton b leg baton w =
      afterPlay b leg baton.call (baton.state.player.play b baton.call w).1.1
        { baton.state with player := (baton.state.player.play b baton.call w).1.2 }
        (baton.state.player.play b baton.call w).2 := rfl

theorem played_playBaton (b : Backend σ) (leg : Leg) (baton : Baton) (w : σ) :
    Played leg baton.state.legs baton.state.source.remaining (playBaton b leg baton w).1 := by
  obtain ⟨call, state⟩ := baton
  exact played_afterPlay b leg call (state.player.play b call w).1.1
    { state with player := (state.player.play b call w).1.2 } (state.player.play b call w).2

/-- What was played leaves the state in the hands of the runner, or loses it with the thread. -/
theorem Played.place {state : RaceState} {legs : List Leg} {a : Activity} {remaining : Nat}
    (played : Played leg state.legs remaining a) (known : leg ∈ legs) (knows : state.Knows legs) :
    (Place.after leg a).Sound legs ∧ (Place.after leg a).Shows leg a
      ∧ (Place.after leg a).finishLine? = none
      ∧ ∀ l, (Place.after leg a).mailbox? l = none
        ∧ ∀ x : Activity, l ≠ leg → x.isIdle = true → (Place.after leg a).Shows l x := by
  have sound : ∀ {s : RaceState}, s.legs = state.legs → s.Knows legs := fun same =>
    ⟨same ▸ knows.sorted, fun l => same ▸ knows.mem_iff l⟩
  cases played with
  | running own same =>
    subst own
    refine ⟨⟨known, sound same⟩, ?_, rfl, fun l => ⟨rfl, fun x ne idle => ?_⟩⟩
    · simp [Place.after, Place.Shows]
    · simpa [Place.after, Place.Shows, ne] using idle
  | passing other same =>
    refine ⟨⟨known, other, sound same⟩, ?_, rfl, fun l => ⟨rfl, fun x ne idle => ?_⟩⟩
    · simp [Place.after, Place.Shows]
    · simpa [Place.after, Place.Shows, ne] using idle
  | finishing same error =>
    refine ⟨⟨known, sound same, error⟩, ?_, rfl, fun l => ⟨rfl, fun x ne idle => ?_⟩⟩
    · simp [Place.after, Place.Shows]
    · simpa [Place.after, Place.Shows, ne] using idle
  | crashed =>
    refine ⟨known, ?_, rfl, fun l => ⟨rfl, fun x ne idle => ?_⟩⟩
    · simp [Place.after, Place.Shows]
    · simp [Place.after, Place.Shows, ne, idle]

/-- Playing a call uses up at least one move. -/
theorem Played.weight_lt {legs : List Leg} {a : Activity} {remaining : Nat}
    (played : Played leg legs remaining a) (runners : Nat) :
    a.weight + (Place.after leg a).potential runners < 1 + (7 * remaining + runners + 5) := by
  cases played with
  | running own same less =>
    simp only [Activity.weight, Place.after, Place.potential]
    omega
  | passing other same less =>
    simp only [Activity.weight, Place.after, Place.potential]
    split <;> omega
  | finishing same error =>
    simp only [Activity.weight, Place.after, Place.potential]
    split <;> omega
  | crashed =>
    simp only [Activity.weight, Place.after, Place.potential]
    omega

/-- A move that can be made takes the state from one place to another, or leaves it where it is. -/
structure Leads (backend : Leg → Backend σ) (move : Move) (f : Field σ) (p : Place) (g : Field σ)
    (q : Place) : Prop where
  stands : g.Stands q
  advance : Advance backend move p f.world q g.world
  cost : g.cost q < f.cost p

theorem Stands.wake (h : f.Stands p) (made : f.wake leg = some g) :
    ∃ q, Leads backend (.wake leg) f p g q := by
  obtain ⟨r, baton, found, act, mail, rfl⟩ := wake_eq_some_iff.1 made
  obtain ⟨mem, rfl⟩ := mem_of_runner? found
  obtain ⟨rfl, own⟩ := h.of_mailbox mem mail
  rw [own] at found ⊢
  refine ⟨.running baton, ?_, .wake baton f.world, ?_⟩
  · refine h.modify rfl h.line (fun _ => rfl) (fun _ _ _ => ⟨rfl, ?_⟩) ?_ h.sound
    · simp [Place.Shows]
    · intro s _ ne
      simp [Place.Shows, Place.mailbox?, ne]
  · refine cost_modify_lt h.nodup rfl found ?_
    rw [act]
    simp [Activity.weight, Place.potential]

theorem Stands.play (h : f.Stands p) (made : f.play backend leg = some g) :
    ∃ q, Leads backend (.play leg) f p g q := by
  obtain ⟨r, baton, found, act, rfl⟩ := play_eq_some_iff.1 made
  obtain ⟨mem, rfl⟩ := mem_of_runner? found
  obtain ⟨rfl, own⟩ := h.of_running mem act
  rw [own] at found ⊢
  have played := played_playBaton (backend baton.call.leg) baton.call.leg baton f.world
  obtain ⟨sound, here, line, rest⟩ := played.place h.sound.1 h.sound.2
  refine ⟨_, ?_, .play baton f.world, ?_⟩
  · refine h.become rfl (h.line.trans line.symm) (fun l => (rest l).1) here ?_ sound
    intro s _ ne idle
    exact (rest s.leg).2 s.activity ne (by simpa [Place.Shows, ne] using idle)
  · refine cost_modify_lt h.nodup rfl found ?_
    rw [act]
    exact played.weight_lt f.runners.length

theorem Stands.spawn (h : f.Stands p) (made : f.spawn leg = some g) :
    ∃ q, Leads backend (.spawn leg) f p g q := by
  obtain ⟨r, baton, found, act, fresh, rfl⟩ := spawn_eq_some_iff.1 made
  obtain ⟨mem, rfl⟩ := mem_of_runner? found
  obtain rfl := h.of_passing mem act
  obtain ⟨known, other, knows⟩ := h.sound
  have new : baton.call.leg ∉ f.legs := fun old => fresh ((knows.mem_iff _).2 old)
  refine ⟨.passing r.leg baton.admitted, ⟨?_, ?_, h.line, ?_, ?_, ?_⟩,
    .spawn r.leg baton f.world fresh, ?_⟩
  · rw [legs_hire, legs_become]
    exact h.nodup.append (List.nodup_singleton _) (by simpa using new)
  · rw [legs_hire, legs_become]
    exact List.mem_append_left _ h.home
  · intro s hs
    rcases mem_hire_iff.1 hs with hs | rfl
    · obtain ⟨t, ht, rfl⟩ := mem_become_iff.1 hs
      have mail := h.mail t ht
      split <;> exact mail
    · rfl
  · intro s hs
    rcases mem_hire_iff.1 hs with hs | rfl
    · obtain ⟨t, ht, rfl⟩ := mem_become_iff.1 hs
      have acts := h.acts t ht
      split
      · rename_i eq
        simp [Place.Shows, eq]
      · rename_i ne
        simpa [Place.Shows, ne] using acts
    · simp [Place.Shows, other.symm, Activity.isIdle]
  · rw [legs_hire, legs_become]
    refine ⟨List.mem_append_left _ known, other, pairwise_insertLeg knows.sorted, fun l => ?_⟩
    rw [Baton.admitted, mem_insertLeg, knows.mem_iff l, List.mem_append, List.mem_singleton, or_comm]
  · have passing := total_modify (·.activity.weight)
      (fun s => { s with activity := .passing baton.admitted }) h.nodup found
    have inserted : baton.call.leg ∈ baton.admitted.state.legs := mem_insertLeg.2 (.inl rfl)
    have before : (Place.passing r.leg baton).potential f.runners.length
        = 7 * baton.state.source.remaining + f.runners.length + 11 := by
      rw [Place.potential, if_neg fresh]
    have after : (Place.passing r.leg baton.admitted).potential (f.runners.length + 1)
        = 7 * baton.state.source.remaining + (f.runners.length + 1) + 8 := by
      rw [Place.potential]
      exact congrArg _ (if_pos inserted)
    have length : ((f.become r.leg (.passing baton.admitted)).hire baton.call.leg).runners.length
        = f.runners.length + 1 := by
      rw [← length_legs, legs_hire, legs_become, List.length_append, length_legs, List.length_singleton]
    simp only [act, Activity.weight] at passing
    rw [cost, cost, length, before, after, load, total_hire, Field.become, load]
    simp only [Activity.weight]
    omega

theorem Stands.pass (h : f.Stands p) (made : f.pass leg = some g) :
    ∃ q, Leads backend (.pass leg) f p g q := by
  obtain ⟨r, baton, receiver, found, act, known, found', sent⟩ := pass_eq_some_iff.1 made
  obtain ⟨mem, rfl⟩ := mem_of_runner? found
  obtain ⟨mem', own⟩ := mem_of_runner? found'
  obtain rfl := h.of_passing mem act
  obtain ⟨_, other, knows⟩ := h.sound
  have apart : receiver.leg ≠ r.leg := fun eq => other (eq.symm.trans own)
  have idle : receiver.activity.isIdle = true := by
    simpa [Place.Shows, apart] using h.acts receiver mem'
  rw [send_eq_some (Activity.receives_of_isIdle idle) (h.mail receiver mem')] at sent
  obtain rfl := Option.some.inj sent
  rw [own] at apart ⊢
  -- the field with the baton in the mailbox and the sender still busy
  let e := f.modify baton.call.leg fun s => { s with mailbox? := some baton }
  have legs : e.legs = f.legs := legs_modify fun _ => rfl
  have unchanged : r ∈ e.runners := mem_modify_iff.2 ⟨r, mem, if_neg apart.symm⟩
  refine ⟨.mailed baton, ⟨?_, ?_, h.line, ?_, ?_, ?_⟩, .pass r.leg baton f.world known, ?_⟩
  · rw [legs_become, legs]
    exact h.nodup
  · rw [legs_become, legs]
    exact h.home
  · intro s hs
    obtain ⟨t, ht, rfl⟩ := mem_become_iff.1 hs
    obtain ⟨u, hu, rfl⟩ := mem_modify_iff.1 ht
    have mail := h.mail u hu
    grind [Place.mailbox?]
  · intro s hs
    obtain ⟨t, ht, rfl⟩ := mem_become_iff.1 hs
    obtain ⟨u, hu, rfl⟩ := mem_modify_iff.1 ht
    have acts := h.acts u hu
    grind [Place.Shows, Activity.isIdle]
  · rw [legs_become, legs]
    exact ⟨(knows.mem_iff _).1 known, knows⟩
  · have mailed : e.total (·.activity.weight) = f.total (·.activity.weight) :=
      Nat.add_right_cancel (total_modify _ _ h.nodup found')
    have found : e.runner? r.leg = some r := runner?_of_mem (legs ▸ h.nodup) unchanged
    have released : (e.become r.leg (.releasing (.mailbox baton.call.leg))).cost (.mailed baton)
        < e.cost (.passing r.leg baton) := by
      refine cost_modify_lt (legs ▸ h.nodup) rfl found ?_
      simp only [act, Activity.weight, Place.potential, if_pos known]
      omega
    refine Nat.lt_of_lt_of_eq released ?_
    rw [cost, cost, load, load, mailed, length_runners_modify]

theorem Stands.deliver (h : f.Stands p) (made : f.deliver leg = some g) :
    ∃ q, Leads backend (.deliver leg) f p g q := by
  obtain ⟨r, finish, found, act, away⟩ := finishing_of_deliver made
  obtain ⟨mem, rfl⟩ := mem_of_runner? found
  obtain rfl := h.of_finishing mem act
  obtain ⟨home, homeFound, homeMem, same⟩ := h.home_runner
  have idle : home.activity.isIdle = true := by
    simpa [Place.Shows, same, away.symm] using h.acts home homeMem
  obtain ⟨_, finish', found', act', _, rfl⟩ :=
    (deliver_eq_some_iff homeFound (Activity.receives_of_isIdle idle) h.line).1 made
  cases found.symm.trans found'
  cases act.symm.trans act'
  refine ⟨.onFinishLine finish, ?_, .deliver r.leg finish f.world away, ?_⟩
  · refine h.become rfl rfl (fun _ => rfl) rfl ?_ h.sound.2
    intro s _ ne idle
    simpa [Place.Shows, ne] using idle
  · refine cost_modify_lt h.nodup rfl found ?_
    simp only [act, Activity.weight, Place.potential, if_neg away]
    omega

theorem Stands.collect (h : f.Stands p) (made : f.collect = some g) :
    ∃ q, Leads backend .collect f p g q := by
  obtain ⟨home, finish, found, act, line, rfl⟩ := collect_eq_some_iff.1 made
  obtain rfl := h.of_finishLine line
  refine ⟨.finishing homeLeg finish, ?_, .collect finish f.world, ?_⟩
  · refine h.become rfl rfl (fun _ => rfl) (by simp [Place.Shows]) ?_ ⟨h.home, h.sound⟩
    intro s _ ne idle
    simpa [Place.Shows, ne] using idle
  · refine cost_modify_lt h.nodup rfl found ?_
    simp only [act, Activity.weight, Place.potential, if_pos]
    omega

theorem Stands.close (h : f.Stands p) (made : f.close = some g) :
    ∃ q, Leads backend .close f p g q := by
  obtain ⟨home, finish, found, act, rfl⟩ := close_eq_some_iff.1 made
  obtain ⟨mem, same⟩ := mem_of_runner? found
  obtain rfl := h.of_finishing mem act
  rw [same] at h ⊢
  obtain ⟨_, sound⟩ := h.sound
  have workers := sound.knows.length_workers h.nodup h.home
  refine ⟨.stopping finish (finish.state.legs.filter (· ≠ homeLeg)) 0, ?_,
    .close finish f.world, ?_⟩
  · refine h.become rfl h.line (fun _ => rfl) (by simp [Place.Shows]) ?_ ⟨sound, ?_, ?_, ?_⟩
    · intro s mem ne idle
      have known := (sound.knows.mem_iff s.leg).2 (leg_mem_legs mem)
      simp only [Place.Shows, if_neg ne] at idle ⊢
      exact .inr ⟨List.mem_filter.2 ⟨known, by simpa using ne⟩, idle⟩
    · exact sound.knows.nodup.filter _
    · intro l mem
      obtain ⟨known, ne⟩ := List.mem_filter.1 mem
      exact ⟨(sound.knows.mem_iff l).1 known, by simpa using ne⟩
    · omega
  · refine cost_modify_lt h.nodup rfl found ?_
    rw [length_legs] at workers
    simp only [act, Activity.weight, Place.potential, if_pos]
    omega

theorem Stands.join (h : f.Stands p) (made : f.join = some g) :
    ∃ q, Leads backend .join f p g q := by
  obtain ⟨home, finish, l, left, stopped, s, found, act, found', ended⟩ := join_eq_some_iff.1 made
  obtain ⟨mem, same⟩ := mem_of_runner? found
  obtain ⟨mem', rfl⟩ := mem_of_runner? found'
  obtain ⟨rfl, _⟩ := h.of_stopping mem act
  obtain ⟨sound, nodup, workers, count⟩ := h.sound
  have away := (workers s.leg (List.mem_cons_self ..)).2
  have shown := h.acts s mem'
  simp only [Place.Shows, if_neg away] at shown
  rcases ended with ⟨⟨result?, gone⟩, rfl⟩ | ⟨gone, rfl⟩
  · have gone : s.activity = .ended none := by
      rcases shown with none | ⟨_, idle⟩
      · exact none
      · rw [gone] at idle
        cases idle
    refine ⟨.stopping finish left (stopped + 1), ?_, .join finish s.leg left stopped f.world, ?_⟩
    · refine h.become rfl h.line (fun _ => rfl) (by simp [Place.Shows]) ?_ ⟨sound, ?_, ?_, ?_⟩
      · intro t ht ne shown
        simp only [Place.Shows, if_neg ne, List.mem_cons] at shown ⊢
        rcases shown with none | ⟨eq | other, idle⟩
        · exact .inl none
        · exact .inl (runner_ext h.nodup ht mem' eq ▸ gone)
        · exact .inr ⟨other, idle⟩
      · exact (List.nodup_cons.1 nodup).2
      · exact fun l hl => workers l (List.mem_cons_of_mem _ hl)
      · rw [List.length_cons] at count
        omega
    · refine cost_modify_lt h.nodup rfl found ?_
      simp only [act, Activity.weight, Place.potential, List.length_cons]
      omega
  · rw [gone] at shown
    rcases shown with none | ⟨_, idle⟩
    · cases none
    · cases idle

theorem Stands.settle (h : f.Stands p) (made : f.settle = some g) :
    ∃ q, Leads backend .settle f p g q := by
  obtain ⟨home, finish, stopped, found, act, rfl⟩ := settle_eq_some_iff.1 made
  obtain ⟨mem, same⟩ := mem_of_runner? found
  obtain ⟨rfl, _⟩ := h.of_stopping mem act
  obtain ⟨sound, _, _, count⟩ := h.sound
  refine ⟨.settled (resultOf finish stopped), ?_, .settle finish stopped f.world, ?_⟩
  · refine h.become rfl h.line (fun _ => rfl) (by simp [Place.Shows]) ?_ ⟨finish, stopped, rfl, sound, count⟩
    intro t ht ne shown
    simpa [Place.Shows, ne] using shown
  · refine cost_modify_lt h.nodup rfl found ?_
    simp only [act, Activity.weight, Place.potential, List.length_nil]
    omega

theorem Stands.release (h : f.Stands p) (made : f.release leg = some g) :
    ∃ q, Leads backend (.release leg) f p g q := by
  obtain ⟨r, channel, found, act, rfl⟩ := release_eq_some_iff.1 made
  obtain ⟨mem, rfl⟩ := mem_of_runner? found
  refine ⟨p, ?_, .release r.leg p f.world, ?_⟩
  · refine h.become rfl h.line (fun _ => rfl) ?_ (fun _ _ _ shown => shown) h.sound
    exact (h.acts r mem).of_isIdle (by rw [act]; rfl) rfl
  · refine cost_modify_lt h.nodup rfl found ?_
    rw [act]
    exact Nat.add_lt_add_right Nat.one_lt_two _

/-- A receiver that sees its channel disconnected knows that the state is no more. -/
theorem Stands.of_disconnected (h : f.Stands p) {channel : Channel}
    (gone : f.disconnected channel = true) : p.isLive = false := by
  simp only [disconnected, reachable, Bool.and_eq_true, Bool.not_eq_true', Bool.or_eq_false_iff,
    bne_eq_false_iff_eq] at gone
  have none := gone.2.1
  rw [h.holders_eq] at none
  by_contra live
  rw [if_pos (by simpa using live)] at none
  cases none

theorem Stands.leave (h : f.Stands p) (made : f.leave leg = some g) :
    ∃ q, Leads backend (.leave leg) f p g q := by
  obtain ⟨r, found, act, away, closed, rfl⟩ := leave_eq_some_iff.1 made
  obtain ⟨mem, rfl⟩ := mem_of_runner? found
  have closed : p.isOpen = false := by
    rcases closed with closed | gone
    · rwa [h.shutdownOpen_eq] at closed
    · exact Place.isOpen_of_not_isLive (h.of_disconnected gone)
  have shown := h.acts r mem
  refine ⟨p, ?_, .leave r.leg p f.world closed, ?_⟩
  · refine h.become rfl h.line (fun _ => rfl) ?_ (fun _ _ _ shown => shown) h.sound
    rw [act] at shown
    cases p <;> grind [Place.Shows, Place.isOpen, Activity.isIdle]
  · refine cost_modify_lt h.nodup rfl found ?_
    rw [act]
    exact Nat.add_lt_add_right Nat.zero_lt_one _

theorem Stands.giveUp (h : f.Stands p) (made : f.giveUp = some g) :
    ∃ q, Leads backend .giveUp f p g q := by
  obtain ⟨home, found, act, gone, rfl⟩ := giveUp_eq_some_iff.1 made
  obtain ⟨mem, same⟩ := mem_of_runner? found
  have gone : p.isLive = false := gone.elim h.of_disconnected h.of_disconnected
  have shown := h.acts home mem
  rw [act, same] at shown
  cases p with
  | lost leg =>
    have away : leg ≠ homeLeg := fun eq => by simp [Place.Shows, eq] at shown
    refine ⟨.lost leg, ?_, .giveUp leg f.world away, ?_⟩
    · refine h.become rfl h.line (fun _ => rfl) ?_ (fun _ _ _ shown => shown) h.sound
      simp [Place.Shows, away.symm]
    · refine cost_modify_lt h.nodup rfl found ?_
      rw [act]
      exact Nat.add_lt_add_right Nat.zero_lt_one _
  | settled _ => simp [Place.Shows] at shown
  | running _ | passing _ _ | mailed _ | finishing _ _ | onFinishLine _ | stopping _ _ _ =>
    cases gone

/-- Every move that can be made takes the state from one place to another, or leaves it there. -/
theorem Stands.perform {move : Move} (h : f.Stands p) (made : f.perform backend move = some g) :
    ∃ q, Leads backend move f p g q := by
  cases move with
  | wake _ => exact h.wake made
  | play _ => exact h.play made
  | spawn _ => exact h.spawn made
  | pass _ => exact h.pass made
  | release _ => exact h.release made
  | deliver _ => exact h.deliver made
  | collect => exact h.collect made
  | close => exact h.close made
  | leave _ => exact h.leave made
  | join => exact h.join made
  | settle => exact h.settle made
  | giveUp => exact h.giveUp made

/-- Every schedule takes the state along, and has as many moves at most as were left. -/
theorem Stands.performAll {moves : List Move} (h : f.Stands p)
    (made : f.performAll backend moves = some g) :
    ∃ q, g.Stands q ∧ moves.length + g.cost q ≤ f.cost p := by
  induction moves generalizing f p with
  | nil =>
    obtain rfl := Option.some.inj made
    exact ⟨p, h, by simp⟩
  | cons move moves ih =>
    obtain ⟨e, first, rest⟩ := performAll_cons_eq_some_iff.1 made
    obtain ⟨q, leads⟩ := h.perform first
    obtain ⟨r, stands, cost⟩ := ih leads.stands rest
    refine ⟨r, stands, ?_⟩
    have := leads.cost
    rw [List.length_cons]
    omega

section Launch

variable (source : Source) (player : Player) (world : σ)

theorem played_opening : Played homeLeg [homeLeg] source.remaining (opening source player) := by
  obtain ⟨calls, fault?⟩ := source
  cases calls with
  | nil =>
    cases fault? with
    | none => exact .finishing rfl fun e h => by cases h
    | some t => exact .finishing rfl fun e h => .inl ⟨t, (Except.error.inj h).symm⟩
  | cons call rest =>
    have less : rest.length < (call :: rest).length := Nat.lt_succ_self _
    simp only [opening, Source.next]
    split
    · rename_i own
      exact .running own rfl less
    · rename_i other
      exact .passing (Ne.symm other) rfl less

theorem stands_launch :
    (launch source player world).Stands (.after homeLeg (opening source player)) := by
  have played := played_opening source player
  have knows : RaceState.Knows { source, player } [homeLeg] :=
    ⟨List.pairwise_singleton .., fun _ => Iff.rfl⟩
  obtain ⟨sound, here, line, rest⟩ := played.place (List.mem_singleton_self _) knows
  refine ⟨List.nodup_singleton _, List.mem_singleton_self _, line.symm, ?_, ?_, sound⟩
  all_goals
    intro r mem
    obtain rfl := List.mem_singleton.1 mem
  · exact (rest homeLeg).1.symm
  · exact here

theorem cost_launch_le : (launch source player world).cost
    (.after homeLeg (opening source player)) ≤ 7 * source.remaining + 6 := by
  have := (played_opening source player).weight_lt 1
  simp only [cost, load, total, launch, List.foldr_cons, List.foldr_nil, List.length_singleton]
  omega

end Launch

/-- Along every schedule of a race the state stands somewhere, and the calls bound the moves. -/
theorem exists_place {source : Source} {player : Player} {world : σ} {moves : List Move}
    (made : (launch source player world).performAll backend moves = some f) :
    ∃ p, f.Stands p ∧ moves.length ≤ 7 * source.remaining + 6 := by
  obtain ⟨p, stands, cost⟩ := (stands_launch source player world).performAll made
  have := cost_launch_le source player world
  exact ⟨p, stands, by omega⟩

end Field

end TraceReplay
