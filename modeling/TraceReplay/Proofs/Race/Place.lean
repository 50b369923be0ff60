import TraceReplay.Proofs.Race.Moves

/-!
# Where the state of a race is

The state of a race goes from place to place: the hands of a runner, a mailbox, the finish line. A
`Place` says where it is and what is there; in the end it was settled, or lost with a thread. The
invariant `Field.Stands f p` says that the place alone tells what every runner is doing, except that
a runner without the state may still hold a sender, and that in the end a worker may have left.
-/

namespace TraceReplay

/-- Where the state of a race is. -/
inductive Place
  /-- With the runner of the call's leg. -/
  | running (baton : Baton)
  /-- With a runner that is to hand it over. -/
  | passing (leg : Leg) (baton : Baton)
  /-- In the mailbox of the call's leg. -/
  | mailed (baton : Baton)
  /-- With a runner that saw the end of the race. -/
  | finishing (leg : Leg) (finish : Finish)
  | onFinishLine (finish : Finish)
  /-- With the home runner, which waits for workers. -/
  | stopping (finish : Finish) (left : List Leg) (stopped : Nat)
  /-- Nowhere any more: the race has its result. -/
  | settled (result : RaceEnd)
  /-- Nowhere any more: the thread of the leg took it along. -/
  | lost (leg : Leg)

namespace Activity

/-- The runner neither has the state nor is its thread at an end. -/
def isIdle : Activity → Bool
  | waiting | releasing _ => true
  | _ => false

/-- How many moves the runner still makes if it gets nothing to do. -/
def weight : Activity → Nat
  | ended _ | crashed => 0
  | releasing _ => 2
  | _ => 1

theorem receives_of_isIdle {a : Activity} (idle : a.isIdle = true) : a.receives = true := by
  cases a with
  | waiting | releasing _ => rfl
  | running _ | passing _ | finishing _ | stopping _ _ _ | ended _ | crashed => cases idle

end Activity

/-- The legs of the state are those of the runners, in ascending order. -/
structure RaceState.Knows (state : RaceState) (legs : List Leg) : Prop where
  sorted : state.legs.Pairwise (· < ·)
  mem_iff : ∀ l, l ∈ state.legs ↔ l ∈ legs

theorem RaceState.Knows.nodup {state : RaceState} {legs : List Leg} (knows : state.Knows legs) :
    state.legs.Nodup := knows.sorted.imp UInt32.ne_of_lt

theorem RaceState.Knows.length_eq {state : RaceState} {legs : List Leg} (knows : state.Knows legs)
    (nodup : legs.Nodup) : state.legs.length = legs.length :=
  ((List.perm_ext_iff_of_nodup knows.nodup nodup).2 knows.mem_iff).length_eq

/-- All runners but the home runner are workers. -/
theorem RaceState.Knows.length_workers {state : RaceState} {legs : List Leg}
    (knows : state.Knows legs) (nodup : legs.Nodup) (home : homeLeg ∈ legs) :
    (state.legs.filter (· ≠ homeLeg)).length + 1 = legs.length := by
  have known : homeLeg ∈ state.legs := (knows.mem_iff _).2 home
  have workers : state.legs.filter (· ≠ homeLeg) = state.legs.erase homeLeg := by
    rw [knows.nodup.erase_eq_filter]
    exact List.filter_congr fun l _ => by by_cases eq : l = homeLeg <;> simp [eq]
  rw [workers, List.length_erase_of_mem known, knows.length_eq nodup]
  have := List.length_pos_of_mem home
  omega

/-- A race that was not broken off: it is over for a reason that lies in the calls. -/
structure Finish.Sound (finish : Finish) (legs : List Leg) : Prop where
  knows : finish.state.Knows legs
  error : ∀ e, finish.outcome = .error e → (∃ t, e = .trace t) ∨ ∃ fault, e = .executor fault

/-- What comes of a race that was not broken off. -/
theorem Finish.Sound.resultOf_cases {finish : Finish} {legs : List Leg} (sound : finish.Sound legs)
    (stopped : Nat) : (∃ result, Field.resultOf finish stopped = .finished result) ∨
      (∃ t, Field.resultOf finish stopped = .failed (.trace t)) ∨
      ∃ fault, Field.resultOf finish stopped = .failed (.executor fault) := by
  have error := sound.error
  unfold Field.resultOf
  cases outcome : finish.outcome with
  | ok _ => exact .inl ⟨_, rfl⟩
  | error e =>
    rcases error e outcome with ⟨t, rfl⟩ | ⟨fault, rfl⟩
    · exact .inr (.inl ⟨t, rfl⟩)
    · exact .inr (.inr ⟨fault, rfl⟩)

namespace Place

/-- What is in the mailbox of a leg. -/
def mailbox? (p : Place) (leg : Leg) : Option Baton :=
  match p with
  | mailed baton => if leg = baton.call.leg then some baton else none
  | _ => none

/-- What is on the finish line. -/
def finishLine? : Place → Option Finish
  | onFinishLine finish => some finish
  | _ => none

/-- The runner of this leg may be doing this. -/
def Shows (p : Place) (leg : Leg) (a : Activity) : Prop :=
  match p with
  | running baton => if leg = baton.call.leg then a = .running baton else a.isIdle = true
  | passing l baton => if leg = l then a = .passing baton else a.isIdle = true
  | mailed _ => a.isIdle = true
  | finishing l finish => if leg = l then a = .finishing finish else a.isIdle = true
  | onFinishLine _ => a.isIdle = true
  | stopping finish left stopped =>
    if leg = homeLeg then a = .stopping finish left stopped
    else a = .ended none ∨ (leg ∈ left ∧ a.isIdle = true)
  | settled result => if leg = homeLeg then a = .ended (some result) else a = .ended none
  | lost l =>
    if leg = l then a = .crashed
    else a.isIdle = true ∨ a = .ended (if leg = homeLeg then some (.failed .abandoned) else none)

/-- What is at the place fits the runners that there are. -/
def Sound (p : Place) (legs : List Leg) : Prop :=
  match p with
  | running baton => baton.call.leg ∈ legs ∧ baton.state.Knows legs
  | passing leg baton => leg ∈ legs ∧ leg ≠ baton.call.leg ∧ baton.state.Knows legs
  | mailed baton => baton.call.leg ∈ legs ∧ baton.state.Knows legs
  | finishing leg finish => leg ∈ legs ∧ finish.Sound legs
  | onFinishLine finish => finish.Sound legs
  | stopping finish left stopped =>
    finish.Sound legs ∧ left.Nodup ∧ (∀ l ∈ left, l ∈ legs ∧ l ≠ homeLeg)
      ∧ stopped + left.length + 1 = legs.length
  | settled result =>
    ∃ finish stopped, result = Field.resultOf finish stopped ∧ finish.Sound legs
      ∧ stopped + 1 = legs.length
  | lost leg => leg ∈ legs

/-- How many moves the state still needs, with so many runners, besides those that drop a sender or
leave. A call takes five, and its leg two more if it is new. -/
def potential (p : Place) (runners : Nat) : Nat :=
  match p with
  | running baton => 7 * baton.state.source.remaining + runners + 5
  | passing _ baton =>
    7 * baton.state.source.remaining + runners + (if baton.call.leg ∈ baton.state.legs then 8 else 11)
  | mailed baton => 7 * baton.state.source.remaining + runners + 6
  | finishing leg _ => if leg = homeLeg then runners + 1 else runners + 4
  | onFinishLine _ => runners + 2
  | stopping _ left _ => left.length
  | settled _ | lost _ => 0

/-- The runner that has the state. -/
def holder? : Place → Option Leg
  | running baton => some baton.call.leg
  | passing leg _ | finishing leg _ => some leg
  | stopping .. => some homeLeg
  | mailed _ | onFinishLine _ | settled _ | lost _ => none

/-- The shutdown channel has a sender while the state is here. -/
def isOpen : Place → Bool
  | running _ | passing .. | mailed _ | finishing .. | onFinishLine _ => true
  | stopping .. | settled _ | lost _ => false

/-- The state is here at all. -/
def isLive : Place → Bool
  | settled _ | lost _ => false
  | _ => true

theorem isOpen_of_not_isLive {p : Place} (gone : p.isLive = false) : p.isOpen = false := by
  cases p with
  | settled _ | lost _ => rfl
  | running _ | passing _ _ | mailed _ | finishing _ _ | onFinishLine _ | stopping _ _ _ => cases gone

/-- Where the state is when a runner has played its call. -/
def after (leg : Leg) : Activity → Place
  | .running baton => running baton
  | .passing baton => passing leg baton
  | .finishing finish => finishing leg finish
  | _ => lost leg

/-- A runner without the state may have dropped its sender or not. -/
theorem Shows.of_isIdle {p : Place} {leg : Leg} {x y : Activity} (shown : p.Shows leg x)
    (hx : x.isIdle = true) (hy : y.isIdle = true) : p.Shows leg y := by
  cases p <;> grind [Place.Shows, Activity.isIdle]

end Place

namespace Field

variable {σ : Type} {f f' : Field σ} {p q : Place} {leg : Leg} {r : Runner}

/-- The state of the race is at this place, and everybody behaves accordingly. -/
structure Stands (f : Field σ) (p : Place) : Prop where
  nodup : f.legs.Nodup
  home : homeLeg ∈ f.legs
  line : f.finishLine? = p.finishLine?
  mail : ∀ r ∈ f.runners, r.mailbox? = p.mailbox? r.leg
  acts : ∀ r ∈ f.runners, p.Shows r.leg r.activity
  sound : p.Sound f.legs

/-- The state is found here: some runner has it, a mailbox, or the finish line; or it is no more,
because the home runner has a result of it, which to give up is not, or a thread was lost. -/
def Has (f : Field σ) : Place → Prop
  | .running baton => ∃ r ∈ f.runners, r.leg = baton.call.leg ∧ r.activity = .running baton
  | .passing leg baton => ∃ r ∈ f.runners, r.leg = leg ∧ r.activity = .passing baton
  | .mailed baton => ∃ r ∈ f.runners, r.leg = baton.call.leg ∧ r.mailbox? = some baton
  | .finishing leg finish => ∃ r ∈ f.runners, r.leg = leg ∧ r.activity = .finishing finish
  | .onFinishLine finish => f.finishLine? = some finish
  | .stopping finish left stopped =>
    ∃ r ∈ f.runners, r.leg = homeLeg ∧ r.activity = .stopping finish left stopped
  | .settled result =>
    result ≠ .failed .abandoned ∧
      ∃ r ∈ f.runners, r.leg = homeLeg ∧ r.activity = .ended (some result)
  | .lost leg => ∃ r ∈ f.runners, r.leg = leg ∧ r.activity = .crashed

/-- How many moves all runners still make if nobody gets anything to do. -/
def load (f : Field σ) : Nat := f.total (·.activity.weight)

/-- A bound on the moves that are left. -/
def cost (f : Field σ) (p : Place) : Nat := f.load + p.potential f.runners.length

theorem Stands.home_runner (h : f.Stands p) :
    ∃ home, f.runner? homeLeg = some home ∧ home ∈ f.runners ∧ home.leg = homeLeg := by
  obtain ⟨home, mem, same⟩ := exists_runner h.home
  exact ⟨home, same ▸ runner?_of_mem h.nodup mem, mem, same⟩

theorem Stands.of_running {baton : Baton} (h : f.Stands p) (mem : r ∈ f.runners)
    (act : r.activity = .running baton) : p = .running baton ∧ r.leg = baton.call.leg := by
  have acts := h.acts r mem
  cases p <;> grind [Place.Shows, Activity.isIdle]

theorem Stands.of_passing {baton : Baton} (h : f.Stands p) (mem : r ∈ f.runners)
    (act : r.activity = .passing baton) : p = .passing r.leg baton := by
  have acts := h.acts r mem
  cases p <;> grind [Place.Shows, Activity.isIdle]

theorem Stands.of_finishing {finish : Finish} (h : f.Stands p) (mem : r ∈ f.runners)
    (act : r.activity = .finishing finish) : p = .finishing r.leg finish := by
  have acts := h.acts r mem
  cases p <;> grind [Place.Shows, Activity.isIdle]

theorem Stands.of_stopping {finish : Finish} {left : List Leg} {stopped : Nat} (h : f.Stands p)
    (mem : r ∈ f.runners) (act : r.activity = .stopping finish left stopped) :
    p = .stopping finish left stopped ∧ r.leg = homeLeg := by
  have acts := h.acts r mem
  cases p <;> grind [Place.Shows, Activity.isIdle]

theorem Stands.of_mailbox {baton : Baton} (h : f.Stands p) (mem : r ∈ f.runners)
    (mail : r.mailbox? = some baton) : p = .mailed baton ∧ r.leg = baton.call.leg := by
  have mails := h.mail r mem
  cases p <;> grind [Place.mailbox?]

theorem Stands.of_finishLine {finish : Finish} (h : f.Stands p)
    (line : f.finishLine? = some finish) : p = .onFinishLine finish := by
  have lines := h.line
  cases p <;> grind [Place.finishLine?]

theorem Stands.of_crashed (h : f.Stands p) (mem : r ∈ f.runners) (act : r.activity = .crashed) :
    p = .lost r.leg := by
  have acts := h.acts r mem
  cases p <;> grind [Place.Shows, Activity.isIdle]

/-- When one runner changes, the new place has to tell what it is now, and what the new place tells
of the others has to be true of them already. -/
theorem Stands.modify {change : Runner → Runner} (h : f.Stands p) (same : f'.runners = f.runners)
    (line : f'.finishLine? = q.finishLine?) (keeps : ∀ r, (change r).leg = r.leg)
    (here : ∀ r ∈ f.runners, r.leg = leg →
      (change r).mailbox? = q.mailbox? leg ∧ q.Shows leg (change r).activity)
    (there : ∀ r ∈ f.runners, r.leg ≠ leg → q.mailbox? r.leg = p.mailbox? r.leg ∧
      (p.Shows r.leg r.activity → q.Shows r.leg r.activity))
    (sound : q.Sound f.legs) : (f'.modify leg change).Stands q := by
  have legs : (f'.modify leg change).legs = f.legs := by
    rw [legs_modify keeps, Field.legs, same, Field.legs]
  refine ⟨legs ▸ h.nodup, legs ▸ h.home, line, fun s hs => ?_, fun s hs => ?_, legs ▸ sound⟩
  all_goals
    obtain ⟨r, mem, rfl⟩ := mem_modify_iff.1 hs
    rw [same] at mem
    by_cases eq : r.leg = leg
  · rw [if_pos eq, keeps, eq]
    exact (here r mem eq).1
  · rw [if_neg eq]
    exact (h.mail r mem).trans (there r mem eq).1.symm
  · rw [if_pos eq, keeps, eq]
    exact (here r mem eq).2
  · rw [if_neg eq]
    exact (there r mem eq).2 (h.acts r mem)

/-- The case of a runner that only goes over to another activity, with nothing sent or taken. -/
theorem Stands.become {a : Activity} (h : f.Stands p) (same : f'.runners = f.runners)
    (line : f'.finishLine? = q.finishLine?) (mail : ∀ l, q.mailbox? l = p.mailbox? l)
    (here : q.Shows leg a)
    (there : ∀ r ∈ f.runners, r.leg ≠ leg → p.Shows r.leg r.activity → q.Shows r.leg r.activity)
    (sound : q.Sound f.legs) : (f'.become leg a).Stands q := by
  refine h.modify same line (fun _ => rfl) (fun r mem eq => ⟨?_, here⟩) ?_ sound
  · exact (h.mail r mem).trans (eq ▸ (mail r.leg).symm)
  · exact fun r mem ne => ⟨mail r.leg, there r mem ne⟩

/-- What is left to be done goes down if one runner and the place together have less to do. -/
theorem cost_modify_lt {change : Runner → Runner} (nodup : f.legs.Nodup)
    (same : f'.runners = f.runners) (found : f.runner? leg = some r)
    (less : (change r).activity.weight + q.potential f.runners.length
      < r.activity.weight + p.potential f.runners.length) :
    (f'.modify leg change).cost q < f.cost p := by
  have nodup' : f'.legs.Nodup := by rwa [legs, same]
  have found' : f'.runner? leg = some r := by rwa [runner?, same]
  have total := total_modify (·.activity.weight) change nodup' found'
  have unchanged : f'.total (·.activity.weight) = f.total (·.activity.weight) := by
    rw [Field.total, same, Field.total]
  simp only [cost, load, length_runners_modify, same]
  omega

theorem Stands.exists_doing {a : Activity} (h : f.Stands p) (mem : leg ∈ f.legs)
    (told : ∀ x, p.Shows leg x → x = a) : ∃ r ∈ f.runners, r.leg = leg ∧ r.activity = a := by
  obtain ⟨r, hr, eq⟩ := exists_runner mem
  exact ⟨r, hr, eq, told _ (eq ▸ h.acts r hr)⟩

/-- The state can be found at its place. -/
theorem Stands.has (h : f.Stands p) : f.Has p := by
  cases p with
  | running baton => exact h.exists_doing h.sound.1 (by simp [Place.Shows])
  | passing leg baton => exact h.exists_doing h.sound.1 (by simp [Place.Shows])
  | mailed baton =>
    obtain ⟨r, mem, eq⟩ := exists_runner h.sound.1
    exact ⟨r, mem, eq, by simpa [Place.mailbox?, eq] using h.mail r mem⟩
  | finishing leg finish => exact h.exists_doing h.sound.1 (by simp [Place.Shows])
  | onFinishLine finish => exact h.line
  | stopping finish left stopped => exact h.exists_doing h.home (by simp [Place.Shows])
  | settled result =>
    obtain ⟨finish, stopped, rfl, sound, _⟩ := h.sound
    refine ⟨fun given => ?_, h.exists_doing h.home (by simp [Place.Shows])⟩
    rcases sound.resultOf_cases stopped with ⟨_, eq⟩ | ⟨_, eq⟩ | ⟨_, eq⟩ <;> cases eq.symm.trans given
  | lost leg => exact h.exists_doing h.sound (by simp [Place.Shows])

/-- It is not found anywhere else. -/
theorem Stands.eq_of_has (h : f.Stands p) (has : f.Has q) : q = p := by
  cases q with
  | running baton =>
    obtain ⟨r, mem, _, act⟩ := has
    exact (h.of_running mem act).1.symm
  | passing leg baton =>
    obtain ⟨r, mem, rfl, act⟩ := has
    exact (h.of_passing mem act).symm
  | mailed baton =>
    obtain ⟨r, mem, _, mail⟩ := has
    exact (h.of_mailbox mem mail).1.symm
  | finishing leg finish =>
    obtain ⟨r, mem, rfl, act⟩ := has
    exact (h.of_finishing mem act).symm
  | onFinishLine finish => exact (h.of_finishLine has).symm
  | stopping finish left stopped =>
    obtain ⟨r, mem, _, act⟩ := has
    exact (h.of_stopping mem act).1.symm
  | settled result =>
    obtain ⟨given, r, mem, same, act⟩ := has
    have acts := h.acts r mem
    rw [act, same] at acts
    cases p <;> grind [Place.Shows, Activity.isIdle]
  | lost leg =>
    obtain ⟨r, mem, rfl, act⟩ := has
    exact (h.of_crashed mem act).symm

/-- The shutdown channel is open exactly as long as the place says. -/
theorem Stands.shutdownOpen_eq (h : f.Stands p) : f.shutdownOpen = p.isOpen := by
  rw [Bool.eq_iff_iff]
  simp only [shutdownOpen, Bool.or_eq_true, List.any_eq_true]
  constructor
  · rintro ((⟨r, mem, keeps⟩ | ⟨r, mem, mail⟩) | line)
    · cases act : r.activity with
      | running _ => rw [(h.of_running mem act).1]; rfl
      | passing _ => rw [h.of_passing mem act]; rfl
      | finishing _ => rw [h.of_finishing mem act]; rfl
      | waiting | releasing _ | stopping _ _ _ | ended _ | crashed => rw [act] at keeps; cases keeps
    · obtain ⟨baton, mail⟩ := Option.isSome_iff_exists.1 mail
      obtain ⟨rfl, _⟩ := h.of_mailbox mem mail
      rfl
    · obtain ⟨finish, line⟩ := Option.isSome_iff_exists.1 line
      rw [h.of_finishLine line]
      rfl
  · intro isOpen
    have has := h.has
    cases p with
    | running _ | passing _ _ | finishing _ _ =>
      obtain ⟨r, mem, _, act⟩ := has
      exact .inl (.inl ⟨r, mem, by rw [act]; rfl⟩)
    | mailed _ =>
      obtain ⟨r, mem, _, mail⟩ := has
      exact .inl (.inr ⟨r, mem, by rw [mail]; rfl⟩)
    | onFinishLine _ => exact .inr (by rw [show f.finishLine? = _ from has]; rfl)
    | stopping _ _ _ | settled _ | lost _ => cases isOpen

theorem Stands.holds_iff (h : f.Stands p) (mem : r ∈ f.runners) :
    r.activity.holds = true ↔ p.holder? = some r.leg := by
  have acts := h.acts r mem
  cases act : r.activity <;> rw [act] at acts <;>
    cases p <;> grind [Place.Shows, Place.holder?, Activity.holds, Activity.isIdle]

/-- The state is in one place, unless it was settled or lost. -/
theorem Stands.holders_eq (h : f.Stands p) : f.holders = if p.isLive then 1 else 0 := by
  have nowhere : p.holder? = none → f.runners.countP (·.activity.holds) = 0 := by
    intro none
    refine List.countP_eq_zero.2 fun r mem holds => ?_
    rw [(h.holds_iff mem).1 holds] at none
    cases none
  have unsent : (∀ l, p.mailbox? l = none) → f.runners.countP (·.mailbox?.isSome) = 0 := by
    intro none
    refine List.countP_eq_zero.2 fun r mem => ?_
    simp [h.mail r mem, none]
  have line : f.finishLine? = p.finishLine? := h.line
  have has := h.has
  unfold holders
  cases p with
  | running _ | passing _ _ | finishing _ _ | stopping _ _ _ =>
    obtain ⟨r, mem, eq, act⟩ := has
    have here : f.runners.countP (·.activity.holds) = 1 := by
      refine countP_eq_one h.nodup mem (by rw [act]; rfl) fun s hs holds => ?_
      exact Option.some.inj (((h.holds_iff hs).1 holds).symm.trans
        ((h.holds_iff mem).1 (by rw [act]; rfl)))
    rw [here, unsent fun _ => rfl, line]
    rfl
  | mailed baton =>
    obtain ⟨r, mem, eq, mail⟩ := has
    have here : f.runners.countP (·.mailbox?.isSome) = 1 := by
      refine countP_eq_one h.nodup mem (by rw [mail]; rfl) fun s hs sent => ?_
      obtain ⟨_, sent⟩ := Option.isSome_iff_exists.1 sent
      obtain ⟨same, own⟩ := h.of_mailbox hs sent
      cases same
      exact own.trans eq.symm
    rw [here, nowhere rfl, line]
    rfl
  | onFinishLine _ | settled _ | lost _ =>
    rw [nowhere rfl, unsent fun _ => rfl, line]
    rfl

end Field

end TraceReplay
