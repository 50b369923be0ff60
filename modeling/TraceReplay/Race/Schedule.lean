import TraceReplay.Race.Field

/-!
# Running a race

One schedule of the moves: of all runners that can move, the one that was made first does. It runs
until no runner can move any more. Every call costs at most five moves and every runner at most two
more at the end, so the number of calls bounds the number of moves.
-/

namespace TraceReplay.Field

variable {σ : Type}

/-- The moves that the activity of a runner allows to try. -/
def movesOf (r : Runner) : List Move :=
  match r.activity with
  | .waiting =>
    if r.leg = homeLeg then [.wake r.leg, .collect, .giveUp] else [.wake r.leg, .leave r.leg]
  | .running _ => [.play r.leg]
  | .passing _ => [.spawn r.leg, .pass r.leg]
  | .finishing _ => if r.leg = homeLeg then [.close] else [.deliver r.leg]
  | .releasing _ => [.release r.leg]
  | .stopping .. => [.join, .settle]
  | .ended _ | .crashed => []

/-- The field after the first move that can be made. -/
def advance? (backend : Leg → Backend σ) (f : Field σ) : Option (Field σ) :=
  (f.runners.flatMap movesOf).findSome? (f.perform backend)

/-- Move until nobody can, at most so many times. -/
def exhaust (backend : Leg → Backend σ) : (fuel : Nat) → Field σ → Field σ
  | 0, f => f
  | fuel + 1, f =>
    match f.advance? backend with
    | some g => exhaust backend fuel g
    | none => f

/-- A bound on the number of moves of a race with so many calls. -/
def moveBound (calls : Nat) : Nat := 8 * calls + 16

/-- Run a race to its end, each runner seeing the backend in its own way. -/
def run (backend : Leg → Backend σ) (source : Source) (player : Player) : StateM σ RaceEnd :=
  fun world =>
    let f := exhaust backend (moveBound source.calls.length) (launch source player world)
    (f.end?.getD (.failed .abandoned), f.world)

theorem step_of_advance? {backend : Leg → Backend σ} {f g : Field σ}
    (h : f.advance? backend = some g) : Step backend f g := by
  obtain ⟨move, _, hm⟩ := List.exists_of_findSome?_eq_some h
  exact ⟨move, hm⟩

end TraceReplay.Field
