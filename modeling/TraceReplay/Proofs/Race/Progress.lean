import TraceReplay.Proofs.Race.SingleToken
import TraceReplay.Race.Schedule

/-!
# Nobody waits for ever

As long as some thread of a race runs, some runner can move (`Stands.exists_move`): a sender that was
not dropped can be, then the state decides who is next, and without the state everybody finds the
channels closed. Together with the bound on the number of moves that makes every schedule come to an
end, where the state was settled or is lost (`Stands.settled_or_lost`). The one schedule that `run`
follows gets there (`isOver_exhaust`).
-/

namespace TraceReplay

/-- Without a sender to drop, a runner without the state waits. -/
theorem Activity.waiting_of_isIdle {a : Activity} (released : ∀ c, a ≠ .releasing c)
    (idle : a.isIdle = true) : a = .waiting := by
  cases a with
  | waiting => rfl
  | releasing c => exact absurd rfl (released c)
  | running _ | passing _ | finishing _ | stopping _ _ _ | ended _ | crashed => cases idle

namespace Field

variable {σ : Type} {backend : Leg → Backend σ} {f : Field σ} {p : Place} {r : Runner}

/-- No thread of the race runs any more. -/
def IsOver (f : Field σ) : Prop := ∀ r ∈ f.runners, r.activity.receives = false

theorem IsOver.not_isIdle (finished : f.IsOver) (mem : r ∈ f.runners) : ¬ r.activity.isIdle = true := by
  intro idle
  have stopped := finished r mem
  rw [Activity.receives_of_isIdle idle] at stopped
  cases stopped

/-- Some runner has a move to try, and can make it. -/
def CanMove (backend : Leg → Backend σ) (f : Field σ) : Prop :=
  ∃ r ∈ f.runners, ∃ move ∈ movesOf r, ∃ g, f.perform backend move = some g

theorem CanMove.exists_advance (can : f.CanMove backend) : ∃ g, f.advance? backend = some g := by
  obtain ⟨r, mem, move, tried, g, made⟩ := can
  refine Option.isSome_iff_exists.1 (List.findSome?_isSome_iff.2 ⟨move, ?_, ?_⟩)
  · exact List.mem_flatMap.2 ⟨r, mem, tried⟩
  · rw [made]
    rfl

section Idle

variable (h : f.Stands p)
include h

theorem Stands.canMove_of_releasing {channel : Channel} (mem : r ∈ f.runners)
    (act : r.activity = .releasing channel) : f.CanMove backend := by
  refine ⟨r, mem, .release r.leg, ?_, _, release_eq_some_iff.2 ⟨r, channel, ?_, act, rfl⟩⟩
  · rw [movesOf, act]
    exact List.mem_singleton_self _
  · exact runner?_of_mem h.nodup mem

/-- A worker that waits can leave when the shutdown channel has no sender. -/
theorem Stands.canMove_of_closed (closed : p.isOpen = false) (mem : r ∈ f.runners)
    (act : r.activity = .waiting) (away : r.leg ≠ homeLeg) : f.CanMove backend := by
  refine ⟨r, mem, .leave r.leg, ?_, _,
    leave_eq_some_iff.2 ⟨r, runner?_of_mem h.nodup mem, act, away, .inl ?_, rfl⟩⟩
  · rw [movesOf, act]
    simp [away]
  · rw [h.shutdownOpen_eq, closed]

/-- With the state lost and all senders dropped, the home runner can give up. -/
theorem Stands.canMove_of_lost {leg : Leg} (lost : p = .lost leg)
    (released : ∀ s ∈ f.runners, ∀ c, s.activity ≠ .releasing c) (mem : r ∈ f.runners)
    (act : r.activity = .waiting) (home : r.leg = homeLeg) : f.CanMove backend := by
  subst lost
  have found := runner?_of_mem h.nodup mem
  have unsent : f.runners.any (·.activity.keepsSender .finishLine) = false := by
    rw [List.any_eq_false]
    intro s hs keeps
    cases act : s.activity with
    | releasing c => exact released s hs c act
    | waiting | running _ | passing _ | finishing _ | stopping _ _ _ | ended _ | crashed =>
      rw [act] at keeps
      cases keeps
  have nowhere : f.holders = 0 := h.holders_eq
  have gone : f.disconnected .finishLine = true := by
    have empty : f.finishLine? = none := h.line
    simp [disconnected, queued, reachable, unsent, nowhere, empty]
  refine ⟨r, mem, .giveUp, ?_, _, giveUp_eq_some_iff.2 ⟨r, home ▸ found, act, .inr gone, rfl⟩⟩
  rw [movesOf, act]
  simp [home]

end Idle

/-- As long as some thread of the race runs, some runner can move. -/
theorem Stands.exists_move (h : f.Stands p) (backend : Leg → Backend σ) (running : ¬ f.IsOver) :
    f.CanMove backend := by
  by_cases releasing : ∃ s ∈ f.runners, ∃ c, s.activity = .releasing c
  · obtain ⟨s, mem, c, act⟩ := releasing
    exact h.canMove_of_releasing mem act
  have released : ∀ s ∈ f.runners, ∀ c, s.activity ≠ .releasing c :=
    fun s mem c act => releasing ⟨s, mem, c, act⟩
  have has := h.has
  cases p with
  | running baton =>
    obtain ⟨r, mem, own, act⟩ := has
    refine ⟨r, mem, .play r.leg, ?_, _,
      play_eq_some_iff.2 ⟨r, baton, runner?_of_mem h.nodup mem, act, rfl⟩⟩
    rw [movesOf, act]
    exact List.mem_singleton_self _
  | passing leg baton =>
    obtain ⟨r, mem, rfl, act⟩ := has
    by_cases known : baton.call.leg ∈ baton.state.legs
    · refine ⟨r, mem, .pass r.leg, ?_, _, (h.handOver mem act known).2.2⟩
      rw [movesOf, act]
      simp
    · refine ⟨r, mem, .spawn r.leg, ?_, _,
        spawn_eq_some_iff.2 ⟨r, baton, runner?_of_mem h.nodup mem, act, known, rfl⟩⟩
      rw [movesOf, act]
      simp
  | mailed baton =>
    obtain ⟨r, mem, own, mail⟩ := has
    have act := Activity.waiting_of_isIdle (released r mem) (h.acts r mem)
    refine ⟨r, mem, .wake r.leg, ?_, _,
      wake_eq_some_iff.2 ⟨r, baton, runner?_of_mem h.nodup mem, act, mail, rfl⟩⟩
    simp only [movesOf, act]
    split <;> exact List.mem_cons_self ..
  | finishing leg finish =>
    obtain ⟨r, mem, rfl, act⟩ := has
    by_cases home : r.leg = homeLeg
    · refine ⟨r, mem, .close, ?_, _,
        close_eq_some_iff.2 ⟨r, finish, home ▸ runner?_of_mem h.nodup mem, act, rfl⟩⟩
      rw [movesOf, act]
      simp [home]
    · refine ⟨r, mem, .deliver r.leg, ?_, _, (h.report mem act home).2.2⟩
      rw [movesOf, act]
      simp [home]
  | onFinishLine finish =>
    obtain ⟨r, found, mem, home⟩ := h.home_runner
    have act := Activity.waiting_of_isIdle (released r mem) (h.acts r mem)
    refine ⟨r, mem, .collect, ?_, _, collect_eq_some_iff.2 ⟨r, finish, found, act, has, rfl⟩⟩
    rw [movesOf, act]
    simp [home]
  | stopping finish left stopped =>
    obtain ⟨r, mem, home, act⟩ := has
    have found := home ▸ runner?_of_mem h.nodup mem
    cases left with
    | nil =>
      refine ⟨r, mem, .settle, ?_, _, settle_eq_some_iff.2 ⟨r, finish, stopped, found, act, rfl⟩⟩
      rw [movesOf, act]
      simp
    | cons leg left =>
      obtain ⟨_, _, workers, _⟩ := h.sound
      obtain ⟨known, away⟩ := workers leg (List.mem_cons_self ..)
      obtain ⟨s, mem', rfl⟩ := exists_runner known
      have shown := h.acts s mem'
      rw [Place.Shows, if_neg away] at shown
      rcases shown with gone | ⟨_, idle⟩
      · refine ⟨r, mem, .join, ?_, _, join_eq_some_iff.2 ⟨r, finish, s.leg, left, stopped, s, found,
          act, runner?_of_mem h.nodup mem', .inl ⟨⟨none, gone⟩, rfl⟩⟩⟩
        rw [movesOf, act]
        simp
      · exact h.canMove_of_closed rfl mem' (Activity.waiting_of_isIdle (released s mem') idle) away
  | settled result =>
    refine absurd (fun r mem => ?_) running
    have shown := h.acts r mem
    rw [Place.Shows] at shown
    split at shown <;> rw [shown] <;> rfl
  | lost leg =>
    obtain ⟨r, mem, reads⟩ : ∃ r ∈ f.runners, r.activity.receives = true := by
      by_contra none
      exact running fun r mem => Bool.eq_false_iff.2 fun reads => none ⟨r, mem, reads⟩
    have idle : r.activity.isIdle = true := by
      have shown := h.acts r mem
      rw [Place.Shows] at shown
      split at shown
      · rw [shown] at reads
        cases reads
      · rcases shown with idle | ended
        · exact idle
        · rw [ended] at reads
          cases reads
    have act := Activity.waiting_of_isIdle (released r mem) idle
    by_cases home : r.leg = homeLeg
    · exact h.canMove_of_lost rfl released mem act home
    · exact h.canMove_of_closed rfl mem act home

/-- When no thread runs any more, the race was settled or its state is lost. -/
theorem Stands.settled_or_lost (h : f.Stands p) (finished : f.IsOver) :
    (∃ result, p = .settled result) ∨ ∃ leg, p = .lost leg := by
  obtain ⟨home, _, mem, _⟩ := h.home_runner
  have has := h.has
  cases p with
  | running _ | passing _ _ | finishing _ _ | stopping _ _ _ =>
    obtain ⟨r, mem, _, act⟩ := has
    have := finished r mem
    rw [act] at this
    cases this
  | mailed _ | onFinishLine _ => exact absurd (h.acts home mem) (finished.not_isIdle mem)
  | settled result => exact .inl ⟨result, rfl⟩
  | lost leg => exact .inr ⟨leg, rfl⟩

/-- Moving as long as somebody can comes to an end after so many moves at most. -/
theorem Stands.isOver_exhaust {fuel : Nat} (h : f.Stands p) (backend : Leg → Backend σ)
    (enough : f.cost p ≤ fuel) :
    ∃ moves g, f.performAll backend moves = some g ∧ exhaust backend fuel f = g ∧ g.IsOver := by
  induction fuel generalizing f p with
  | zero =>
    refine ⟨[], f, rfl, rfl, ?_⟩
    by_contra running
    obtain ⟨_, _, _, _, g, made⟩ := h.exists_move backend running
    obtain ⟨_, leads⟩ := h.perform made
    have := leads.cost
    omega
  | succ fuel ih =>
    rw [exhaust]
    cases next : f.advance? backend with
    | none =>
      refine ⟨[], f, rfl, rfl, ?_⟩
      by_contra running
      obtain ⟨g, some⟩ := (h.exists_move backend running).exists_advance
      cases next.symm.trans some
    | some e =>
      obtain ⟨move, made⟩ := step_of_advance? next
      obtain ⟨q, leads⟩ := h.perform made
      have := leads.cost
      obtain ⟨moves, g, rest, eq, finished⟩ := ih leads.stands (by omega)
      exact ⟨move :: moves, g, performAll_cons_eq_some_iff.2 ⟨e, made, rest⟩, eq, finished⟩

end Field

end TraceReplay
