import TraceReplay.Proofs.Race.Runners

/-!
# When a move can be made, and what it leaves

One statement per move: it can be made exactly if the runner that makes it is in the right activity
and the channels allow it, and then it leads to one field. Everything else about moves goes through
these. A schedule is a list of moves.
-/

namespace TraceReplay.Field

variable {σ : Type} {backend : Leg → Backend σ} {f g : Field σ} {leg : Leg}

theorem wake_eq_some_iff : f.wake leg = some g ↔
    ∃ r baton, f.runner? leg = some r ∧ r.activity = .waiting ∧ r.mailbox? = some baton ∧
      g = f.modify leg fun r => { r with mailbox? := none, activity := .running baton } := by
  constructor
  · intro made
    unfold wake at made
    split at made
    · rename_i baton found
      exact ⟨_, baton, found, rfl, rfl, (Option.some.inj made).symm⟩
    · cases made
  · rintro ⟨⟨_, _, _⟩, baton, found, rfl, rfl, rfl⟩
    simp only [wake, found]

theorem play_eq_some_iff : f.play backend leg = some g ↔
    ∃ r baton, f.runner? leg = some r ∧ r.activity = .running baton ∧
      g = { f with world := (playBaton (backend leg) leg baton f.world).2 }.become leg
        (playBaton (backend leg) leg baton f.world).1 := by
  constructor
  · intro made
    unfold play at made
    split at made
    · rename_i baton found
      exact ⟨_, baton, found, rfl, (Option.some.inj made).symm⟩
    · cases made
  · rintro ⟨⟨_, _, _⟩, baton, found, rfl, rfl⟩
    simp only [play, found]
    rfl

theorem spawn_eq_some_iff : f.spawn leg = some g ↔
    ∃ r baton, f.runner? leg = some r ∧ r.activity = .passing baton ∧
      baton.call.leg ∉ baton.state.legs ∧
      g = (f.become leg (.passing baton.admitted)).hire baton.call.leg := by
  constructor
  · intro made
    unfold spawn at made
    split at made
    · rename_i baton found
      split at made
      · cases made
      · rename_i fresh
        exact ⟨_, baton, found, rfl, fresh, (Option.some.inj made).symm⟩
    · cases made
  · rintro ⟨⟨_, _, _⟩, baton, found, rfl, fresh, rfl⟩
    simp only [spawn, found, if_neg fresh]

theorem pass_eq_some_iff : f.pass leg = some g ↔
    ∃ r baton receiver, f.runner? leg = some r ∧ r.activity = .passing baton ∧
      baton.call.leg ∈ baton.state.legs ∧ f.runner? baton.call.leg = some receiver ∧
      f.send leg baton receiver = some g := by
  constructor
  · intro made
    unfold pass at made
    split at made
    · rename_i baton found
      split at made
      · rename_i known
        obtain ⟨receiver, found', sent⟩ := Option.bind_eq_some_iff.1 made
        exact ⟨_, baton, receiver, found, rfl, known, found', sent⟩
      · cases made
    · cases made
  · rintro ⟨⟨_, _, _⟩, baton, receiver, found, rfl, known, found', sent⟩
    simp only [pass, found, if_pos known, found', Option.bind_some, sent]

/-- Sending to an empty mailbox whose runner still reads it works. -/
theorem send_eq_some {baton : Baton} {receiver : Runner} (reads : receiver.activity.receives = true)
    (empty : receiver.mailbox? = none) : f.send leg baton receiver =
      some ((f.modify receiver.leg fun r => { r with mailbox? := some baton }).become leg
        (.releasing (.mailbox receiver.leg))) := by
  simp [send, reads, empty]

theorem release_eq_some_iff : f.release leg = some g ↔
    ∃ r channel, f.runner? leg = some r ∧ r.activity = .releasing channel ∧
      g = f.become leg .waiting := by
  constructor
  · intro made
    unfold release at made
    split at made
    · rename_i channel found
      exact ⟨_, channel, found, rfl, (Option.some.inj made).symm⟩
    · cases made
  · rintro ⟨⟨_, _, _⟩, channel, found, rfl, rfl⟩
    simp only [release, found]

/-- Delivering to an empty finish line that the home runner still reads. -/
theorem deliver_eq_some_iff {home : Runner} (homeFound : f.runner? homeLeg = some home)
    (reads : home.activity.receives = true) (empty : f.finishLine? = none) :
    f.deliver leg = some g ↔
      ∃ r finish, f.runner? leg = some r ∧ r.activity = .finishing finish ∧ leg ≠ homeLeg ∧
        g = { f with finishLine? := some finish }.become leg (.releasing .finishLine) := by
  constructor
  · intro made
    unfold deliver at made
    split at made
    · rename_i finish home' found found'
      obtain rfl : home = home' := Option.some.inj (homeFound.symm.trans found')
      simp only [reads, empty, Bool.not_true, Bool.false_eq_true, if_false, Option.isSome_none] at made
      split at made
      · cases made
      · rename_i away
        exact ⟨_, finish, found, rfl, away, (Option.some.inj made).symm⟩
    · cases made
  · rintro ⟨⟨_, _, _⟩, finish, found, rfl, away, rfl⟩
    simp [deliver, found, homeFound, away, reads, empty]

/-- Only a runner whose race is over delivers. -/
theorem finishing_of_deliver (made : f.deliver leg = some g) :
    ∃ r finish, f.runner? leg = some r ∧ r.activity = .finishing finish ∧ leg ≠ homeLeg := by
  unfold deliver at made
  split at made
  · rename_i finish home found _
    split at made
    · cases made
    · exact ⟨_, finish, found, rfl, by assumption⟩
  · cases made

theorem collect_eq_some_iff : f.collect = some g ↔
    ∃ r finish, f.runner? homeLeg = some r ∧ r.activity = .waiting ∧ f.finishLine? = some finish ∧
      g = { f with finishLine? := none }.become homeLeg (.finishing finish) := by
  constructor
  · intro made
    unfold collect at made
    split at made
    · rename_i finish found line
      exact ⟨_, finish, found, rfl, line, (Option.some.inj made).symm⟩
    · cases made
  · rintro ⟨⟨_, _, _⟩, finish, found, rfl, line, rfl⟩
    simp only [collect, found, line]

theorem close_eq_some_iff : f.close = some g ↔
    ∃ r finish, f.runner? homeLeg = some r ∧ r.activity = .finishing finish ∧
      g = f.become homeLeg (.stopping finish (finish.state.legs.filter (· ≠ homeLeg)) 0) := by
  constructor
  · intro made
    unfold close at made
    split at made
    · rename_i finish found
      exact ⟨_, finish, found, rfl, (Option.some.inj made).symm⟩
    · cases made
  · rintro ⟨⟨_, _, _⟩, finish, found, rfl, rfl⟩
    simp only [close, found]

theorem leave_eq_some_iff : f.leave leg = some g ↔
    ∃ r, f.runner? leg = some r ∧ r.activity = .waiting ∧ leg ≠ homeLeg ∧
      (f.shutdownOpen = false ∨ f.disconnected (.mailbox leg) = true) ∧
      g = f.become leg (.ended none) := by
  constructor
  · intro made
    unfold leave at made
    split at made
    · rename_i found
      split at made
      · cases made
      · rename_i away
        split at made
        · rename_i closed
          exact ⟨_, found, rfl, away, by simpa using closed, (Option.some.inj made).symm⟩
        · cases made
    · cases made
  · rintro ⟨⟨_, _, _⟩, found, rfl, away, closed, rfl⟩
    have closed : (!f.shutdownOpen || f.disconnected (.mailbox leg)) = true := by simpa using closed
    simp only [leave, found, if_neg away, if_pos closed]

theorem join_eq_some_iff : f.join = some g ↔
    ∃ r finish l left stopped s, f.runner? homeLeg = some r ∧
      r.activity = .stopping finish (l :: left) stopped ∧ f.runner? l = some s ∧
      ((∃ result?, s.activity = .ended result?) ∧
          g = f.become homeLeg (.stopping finish left (stopped + 1)) ∨
        s.activity = .crashed ∧ g = f.become homeLeg (.stopping finish left stopped)) := by
  constructor
  · intro made
    unfold join at made
    split at made
    · rename_i finish l left stopped found
      split at made
      · rename_i result? found'
        exact ⟨_, finish, l, left, stopped, _, found, rfl, found', .inl ⟨⟨_, rfl⟩,
          (Option.some.inj made).symm⟩⟩
      · rename_i found'
        exact ⟨_, finish, l, left, stopped, _, found, rfl, found', .inr ⟨rfl,
          (Option.some.inj made).symm⟩⟩
      · cases made
    · cases made
  · rintro ⟨⟨_, _, _⟩, finish, l, left, stopped, ⟨_, _, _⟩, found, rfl, found',
      ⟨⟨result?, rfl⟩, rfl⟩ | ⟨rfl, rfl⟩⟩
    all_goals simp only [join, found, found']

theorem settle_eq_some_iff : f.settle = some g ↔
    ∃ r finish stopped, f.runner? homeLeg = some r ∧ r.activity = .stopping finish [] stopped ∧
      g = f.become homeLeg (.ended (some (resultOf finish stopped))) := by
  constructor
  · intro made
    unfold settle at made
    split at made
    · rename_i finish stopped found
      exact ⟨_, finish, stopped, found, rfl, (Option.some.inj made).symm⟩
    · cases made
  · rintro ⟨⟨_, _, _⟩, finish, stopped, found, rfl, rfl⟩
    simp only [settle, found]

theorem giveUp_eq_some_iff : f.giveUp = some g ↔
    ∃ r, f.runner? homeLeg = some r ∧ r.activity = .waiting ∧
      (f.disconnected (.mailbox homeLeg) = true ∨ f.disconnected .finishLine = true) ∧
      g = f.become homeLeg (.ended (some (.failed .abandoned))) := by
  constructor
  · intro made
    unfold giveUp at made
    split at made
    · rename_i found
      split at made
      · rename_i alone
        exact ⟨_, found, rfl, by simpa using alone, (Option.some.inj made).symm⟩
      · cases made
    · cases made
  · rintro ⟨⟨_, _, _⟩, found, rfl, alone, rfl⟩
    have alone : (f.disconnected (.mailbox homeLeg) || f.disconnected .finishLine) = true := by
      simpa using alone
    simp only [giveUp, found, if_pos alone]

/-- Make the moves of a schedule one after the other, if each can be made. -/
def performAll (backend : Leg → Backend σ) : Field σ → List Move → Option (Field σ)
  | f, [] => some f
  | f, move :: moves => (f.perform backend move).bind (performAll backend · moves)

theorem performAll_cons_eq_some_iff {move : Move} {moves : List Move} :
    f.performAll backend (move :: moves) = some g ↔
      ∃ h, f.perform backend move = some h ∧ h.performAll backend moves = some g :=
  Option.bind_eq_some_iff

/-- A race to try: a worker plays the first call, and the home runner the second. -/
def twoLegs : Source := ⟨[⟨1, 7, ⟨0⟩, []⟩, ⟨2, homeLeg, ⟨0⟩, []⟩], none⟩

/-- A backend to try it with: it writes down the numbers of the calls, and whoever performs one of
these calls is lost. -/
def recorder (lost : List UInt32) : Backend (List UInt32) where
  perform := fun c log => (if c.no ∈ lost then .crashed else .done, log ++ [c.no])
  cpuTime := pure .zero
  flush := pure (.ok ())
  summary? := fun _ => none
  capture := pure none
  load := fun _ => pure none
  write := fun _ _ => pure false
  stream := fun _ _ => pure (.ok ())
  dump? := none
  flushDump := pure (.ok ())
  tell := fun _ => pure ()

end TraceReplay.Field
