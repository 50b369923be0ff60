import TraceReplay.Replay.Player
import TraceReplay.Trace.Source

/-!
# Races

A race replays one source of calls. What goes from hand to hand is its state: the source, the
player, and the legs that have a runner. This module holds the words of a race: its state, its
outcome, and what is handed back in the end.
-/

namespace TraceReplay

/-- How a race ended well. -/
inductive RaceOutcome
  /-- Every call was replayed. -/
  | completed
  /-- The state was dumped after this call. -/
  | stateDumped (callNo : UInt32)
deriving DecidableEq, Repr

/-- The state of a race, which only one runner has at a time. -/
structure RaceState where
  source : Source
  player : Player
  /-- The legs that have a runner, in ascending order. -/
  legs : List Leg := [homeLeg]
deriving DecidableEq

/-- What a race hands back when it ended well. -/
structure RaceResult where
  outcome : RaceOutcome
  player : Player
  legs : List Leg
  /-- How many runners besides the home runner were stopped. -/
  workersStopped : Nat
deriving DecidableEq

/-- What the one who started a race sees in the end. -/
inductive RaceEnd
  | finished (result : RaceResult)
  | failed (error : ReplayError)
  /-- The thread that started the race was lost. -/
  | crashed
deriving DecidableEq

/-- Put a leg into an ascending list, once. -/
def insertLeg (leg : Leg) : List Leg → List Leg
  | [] => [leg]
  | l :: ls =>
    if leg < l then leg :: l :: ls
    else if leg = l then l :: ls
    else l :: insertLeg leg ls

theorem mem_insertLeg {leg l : Leg} {ls : List Leg} :
    l ∈ insertLeg leg ls ↔ l = leg ∨ l ∈ ls := by
  induction ls with
  | nil => simp [insertLeg]
  | cons a as ih =>
    rw [insertLeg]
    split
    · simp
    · split
      · rename_i h
        subst h
        simp
      · simp only [List.mem_cons, ih]
        constructor
        · rintro (h | h | h) <;> simp [h]
        · rintro (h | h | h) <;> simp [h]

/-- Inserting keeps the order. -/
theorem pairwise_insertLeg {leg : Leg} {ls : List Leg} (sorted : ls.Pairwise (· < ·)) :
    (insertLeg leg ls).Pairwise (· < ·) := by
  induction ls with
  | nil => exact List.pairwise_singleton ..
  | cons a as ih =>
    obtain ⟨above, sorted'⟩ := List.pairwise_cons.1 sorted
    rw [insertLeg]
    split
    · rename_i lt
      refine List.pairwise_cons.2 ⟨fun l hl => ?_, sorted⟩
      rcases List.mem_cons.1 hl with rfl | hl
      · exact lt
      · exact UInt32.lt_trans lt (above l hl)
    · split
      · exact sorted
      · rename_i notLt ne
        refine List.pairwise_cons.2 ⟨fun l hl => ?_, ih sorted'⟩
        rcases mem_insertLeg.1 hl with rfl | hl
        · exact UInt32.lt_of_le_of_ne (UInt32.not_lt.1 notLt) (Ne.symm ne)
        · exact above l hl

/-- A leg that is there is not inserted again. -/
theorem insertLeg_insertLeg (leg : Leg) (ls : List Leg) :
    insertLeg leg (insertLeg leg ls) = insertLeg leg ls := by
  induction ls with
  | nil => simp [insertLeg]
  | cons a as ih =>
    by_cases lt : leg < a
    · simp [insertLeg, lt]
    · by_cases eq : leg = a
      · simp [insertLeg, eq]
      · simp [insertLeg, lt, eq, ih]

theorem insertLeg_of_mem {leg : Leg} {ls : List Leg} (sorted : ls.Pairwise (· < ·))
    (mem : leg ∈ ls) : insertLeg leg ls = ls := by
  induction ls with
  | nil => cases mem
  | cons a as ih =>
    obtain ⟨above, sorted'⟩ := List.pairwise_cons.1 sorted
    rcases List.mem_cons.1 mem with rfl | mem
    · simp [insertLeg]
    · have lt := above leg mem
      rw [insertLeg, if_neg (UInt32.lt_asymm lt), if_neg (UInt32.ne_of_lt lt).symm, ih sorted' mem]

end TraceReplay
