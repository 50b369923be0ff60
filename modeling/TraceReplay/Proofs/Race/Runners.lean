import Mathlib.Data.List.Nodup
import TraceReplay.Race.Field

/-!
# Looking up and changing runners

A move looks one or two runners up by their legs and changes them. As long as no leg has two runners,
a lookup finds the one runner of the leg, and a change shows in the counts of runners as the
difference between the runner before and after.
-/

namespace TraceReplay.Field

variable {σ : Type} {f : Field σ} {leg : Leg} {r : Runner}

/-- The legs of the runners, in the order in which they were made. -/
def legs (f : Field σ) : List Leg := f.runners.map (·.leg)

theorem mem_of_runner? (found : f.runner? leg = some r) : r ∈ f.runners ∧ r.leg = leg := by
  refine ⟨List.mem_of_find?_eq_some found, ?_⟩
  have here := List.find?_some found
  simpa using here

theorem leg_mem_legs (mem : r ∈ f.runners) : r.leg ∈ f.legs := List.mem_map_of_mem mem

theorem exists_runner (mem : leg ∈ f.legs) : ∃ r ∈ f.runners, r.leg = leg := List.mem_map.1 mem

/-- Two runners of one leg are the same runner. -/
theorem runner_ext (nodup : f.legs.Nodup) {s : Runner} (hr : r ∈ f.runners) (hs : s ∈ f.runners)
    (same : r.leg = s.leg) : r = s :=
  List.inj_on_of_nodup_map nodup hr hs same

theorem runner?_of_mem (nodup : f.legs.Nodup) (mem : r ∈ f.runners) : f.runner? r.leg = some r := by
  have some_found : (f.runners.find? (·.leg == r.leg)).isSome := by
    rw [List.find?_isSome]
    exact ⟨r, mem, by simp⟩
  obtain ⟨s, found⟩ := Option.isSome_iff_exists.1 some_found
  obtain ⟨hs, same⟩ := mem_of_runner? (f := f) found
  rw [← runner_ext nodup hs mem same]
  exact same ▸ found

theorem mem_modify_iff {change : Runner → Runner} {s : Runner} :
    s ∈ (f.modify leg change).runners ↔
      ∃ r ∈ f.runners, (if r.leg = leg then change r else r) = s := by
  simp only [modify, List.mem_map]

theorem mem_become_iff {a : Activity} {s : Runner} :
    s ∈ (f.become leg a).runners ↔
      ∃ r ∈ f.runners, (if r.leg = leg then { r with activity := a } else r) = s :=
  mem_modify_iff

theorem legs_modify {change : Runner → Runner} (keeps : ∀ r, (change r).leg = r.leg) :
    (f.modify leg change).legs = f.legs := by
  simp only [legs, modify, List.map_map]
  refine List.map_congr_left fun r _ => ?_
  simp only [Function.comp_apply]
  split
  · exact keeps r
  · rfl

@[simp] theorem legs_become (f : Field σ) (leg : Leg) (a : Activity) :
    (f.become leg a).legs = f.legs := legs_modify fun _ => rfl

@[simp] theorem legs_hire (f : Field σ) (leg : Leg) : (f.hire leg).legs = f.legs ++ [leg] :=
  List.map_append ..

theorem mem_hire_iff {s : Runner} : s ∈ (f.hire leg).runners ↔ s ∈ f.runners ∨ s = { leg } := by
  simp only [hire, List.mem_append, List.mem_singleton]

@[simp] theorem length_legs (f : Field σ) : f.legs.length = f.runners.length := List.length_map ..

@[simp] theorem length_runners_modify (f : Field σ) (leg : Leg) (change : Runner → Runner) :
    (f.modify leg change).runners.length = f.runners.length := List.length_map ..

@[simp] theorem length_runners_become (f : Field σ) (leg : Leg) (a : Activity) :
    (f.become leg a).runners.length = f.runners.length := length_runners_modify f leg _

/-- Add up a number over all runners. -/
def total (f : Field σ) (weight : Runner → Nat) : Nat :=
  f.runners.foldr (fun r n => weight r + n) 0

theorem foldr_map_ite (weight : Runner → Nat) {change : Runner → Runner} {rs : List Runner}
    (nodup : (rs.map (·.leg)).Nodup) (mem : r ∈ rs) :
    (rs.map fun s => if s.leg = r.leg then change s else s).foldr (fun s n => weight s + n) 0
        + weight r
      = rs.foldr (fun s n => weight s + n) 0 + weight (change r) := by
  induction rs with
  | nil => cases mem
  | cons s rs ih =>
    obtain ⟨fresh, nodup⟩ := List.nodup_cons.1 nodup
    rw [List.map_cons, List.foldr_cons, List.foldr_cons]
    rcases List.mem_cons.1 mem with rfl | mem
    · -- the runner is in front, so the rest stays as it is
      have rest : (rs.map fun s => if s.leg = r.leg then change s else s) = rs := by
        refine (List.map_congr_left fun s hs => if_neg fun same => ?_).trans (List.map_id rs)
        exact fresh (List.mem_map.2 ⟨s, hs, same⟩)
      rw [rest, if_pos rfl]
      omega
    · have other : s.leg ≠ r.leg := fun same => fresh (List.mem_map.2 ⟨r, mem, same.symm⟩)
      have := ih nodup mem
      rw [if_neg other]
      omega

/-- A change of one runner changes a total by what that runner weighed before and weighs now. -/
theorem total_modify (weight : Runner → Nat) (change : Runner → Runner) (nodup : f.legs.Nodup)
    (found : f.runner? leg = some r) :
    (f.modify leg change).total weight + weight r = f.total weight + weight (change r) := by
  obtain ⟨mem, rfl⟩ := mem_of_runner? found
  exact foldr_map_ite weight nodup mem

theorem total_hire (weight : Runner → Nat) (f : Field σ) (leg : Leg) :
    (f.hire leg).total weight = f.total weight + weight { leg } := by
  rw [total, total, hire, List.foldr_append]
  generalize f.runners = rs
  induction rs with
  | nil => exact Nat.add_comm ..
  | cons s rs ih => exact (congrArg (weight s + ·) ih).trans (Nat.add_assoc ..).symm

/-- A property that only the runner of one leg can have is counted once, if that runner has it. -/
theorem countP_eq_one {p : Runner → Bool} (nodup : f.legs.Nodup) (mem : r ∈ f.runners)
    (holds : p r = true) (only : ∀ s ∈ f.runners, p s = true → s.leg = r.leg) :
    f.runners.countP p = 1 := by
  have filtered : f.runners.filter p = [r] := by
    have unique : ∀ s ∈ f.runners.filter p, s = r := fun s hs =>
      have ⟨hs, ps⟩ := List.mem_filter.1 hs
      runner_ext nodup hs mem (only s hs ps)
    have distinct : (f.runners.filter p).Nodup := (List.Nodup.of_map _ nodup).filter p
    have found : r ∈ f.runners.filter p := List.mem_filter.2 ⟨mem, holds⟩
    rw [List.eq_replicate_of_mem unique] at distinct found ⊢
    have one := List.nodup_replicate.1 distinct
    have some := List.length_pos_of_mem found
    rw [List.length_replicate] at some
    rw [show (f.runners.filter p).length = 1 by omega, List.replicate_one]
  rw [List.countP_eq_length_filter, filtered, List.length_singleton]

end TraceReplay.Field
