import TraceReplay.Proofs.Race.Refinement
import TraceReplay.Proofs.Replay.Matching

/-!
# Races that cannot be told apart

When all actions of two backends match (`Backend.Mirrors`), so do the races made of them
(`Mirrors.race`). One backend may be the other with something noted besides (`Mirrors.journaled_left`).
-/

namespace TraceReplay.Backend

variable {σ τ : Type}

/-- All actions of two backends match. -/
structure Mirrors (R : σ → τ → Prop) (b : Backend σ) (c : Backend τ) : Prop
    extends SnapsAlike R b c where
  perform : ∀ x, Matches R (b.perform x) (c.perform x)
  cpuTime : Matches R b.cpuTime c.cpuTime
  flush : Matches R b.flush c.flush
  flushCrashed : ∀ s t, R s t → b.flushCrashed s = c.flushCrashed t
  summary : ∀ s t, R s t → b.summary? s = c.summary? t
  dump : Option.Rel (Matches R) b.dump? c.dump?
  flushDump : Matches R b.flushDump c.flushDump

variable {R : σ → τ → Prop} {b : Backend σ} {c : Backend τ}

theorem rel_map {α β γ δ : Type} {P : α → β → Prop} {Q : γ → δ → Prop} {x? : Option α}
    {y? : Option β} {f : α → γ} {g : β → δ} (h : Option.Rel P x? y?) (alike : ∀ x y, P x y → Q (f x) (g y)) :
    Option.Rel Q (x?.map f) (y?.map g) := by
  cases h with
  | none => exact .none
  | some h => exact .some (alike _ _ h)

/-- Flushes that match are followed by the same. -/
theorem matches_handOver (flush : Matches R b.flush c.flush)
    (flushCrashed : ∀ s t, R s t → b.flushCrashed s = c.flushCrashed t) :
    Matches R b.handOver c.handOver := by
  refine .bind flush fun answer => ?_
  intro s t related
  have same := flushCrashed s t related
  have known : ∀ {ρ : Type} (u : ρ), (get : StateM ρ ρ) u = (u, u) := fun _ => rfl
  rw [bind_apply, bind_apply]
  simp only [known, same]
  split
  · exact ⟨rfl, related⟩
  · cases answer <;> exact ⟨rfl, related⟩

namespace Mirrors

/-- Two journals may go on from different beginnings. -/
theorem journaled (h : Mirrors R b c) (before : List Effect) :
    Mirrors (fun s t => R s.world t.world ∧ s.effects = before ++ t.effects) b.journaled c.journaled := by
  have note : ∀ {α : Type} {x : StateM σ α} {y : StateM τ α} (effect : α → Effect), Matches R x y →
      Matches (fun s t => R s.world t.world ∧ s.effects = before ++ t.effects)
        (Journaled.note x effect) (Journaled.note y effect) := by
    rintro α x y effect alike s t ⟨related, effects⟩
    obtain ⟨same, left⟩ := alike s.world t.world related
    refine ⟨same, left, ?_⟩
    change s.effects ++ [effect (x s.world).1] = before ++ (t.effects ++ [effect (y t.world).1])
    rw [effects, same, List.append_assoc]
  have pass : ∀ {α : Type} {x : StateM σ α} {y : StateM τ α}, Matches R x y →
      Matches (fun s t => R s.world t.world ∧ s.effects = before ++ t.effects)
        (Journaled.pass x) (Journaled.pass y) := by
    rintro α x y alike s t ⟨related, effects⟩
    obtain ⟨same, left⟩ := alike s.world t.world related
    exact ⟨same, left, effects⟩
  exact {
    capture := note _ h.capture
    load := fun path => note _ (h.load path)
    write := fun image path => note _ (h.write image path)
    stream := fun image comment => note _ (h.stream image comment)
    compare := fun image reference => note _ (h.compare image reference)
    tell := fun message => pass (h.tell message)
    perform := fun x => note _ (h.perform x)
    cpuTime := pass h.cpuTime
    flush := note _ h.flush
    flushCrashed := fun s t related => h.flushCrashed s.world t.world related.1
    summary := fun s t related => h.summary s.world t.world related.1
    dump := rel_map h.dump fun _ _ alike => note _ alike
    flushDump := note _ h.flushDump }

/-- A backend that keeps a journal does what it does without one. -/
theorem journaled_left (h : Mirrors R b c) :
    Mirrors (fun (s : Journaled σ) t => R s.world t) b.journaled c where
  capture := fun s t => h.capture s.world t
  load path := fun s t => h.load path s.world t
  write image path := fun s t => h.write image path s.world t
  stream image comment := fun s t => h.stream image comment s.world t
  compare image reference := fun s t => h.compare image reference s.world t
  tell message := fun s t => h.tell message s.world t
  perform x := fun s t => h.perform x s.world t
  cpuTime := fun s t => h.cpuTime s.world t
  flush := fun s t => h.flush s.world t
  flushCrashed := fun s t => h.flushCrashed s.world t
  summary := fun s t => h.summary s.world t
  dump := by
    have dumps : Option.Rel (Matches fun (s : Journaled σ) t => R s.world t)
        (b.dump?.map fun dump => Journaled.note dump .dumped) (c.dump?.map id) :=
      rel_map h.dump fun _ _ alike s t => alike s.world t
    rw [Option.map_id] at dumps
    exact dumps
  flushDump := fun s t => h.flushDump s.world t

variable (h : Mirrors R b c)
include h

theorem tryDump : Matches R (Player.tryDump b) (Player.tryDump c) := by
  have dumps := h.dump
  unfold Player.tryDump
  revert dumps
  generalize b.dump? = x
  generalize c.dump? = y
  intro dumps
  cases dumps with
  | none => exact .pure _
  | some alike =>
    refine .bind alike fun dumped => ?_
    cases dumped with
    | false => exact .pure _
    | true =>
      refine .bind h.flushDump fun passedOn => ?_
      cases passedOn with
      | ok _ => exact .pure _
      | error e => exact .bind (h.tell _) fun _ => .pure _

theorem call (x : Call) : CallAlike R b c x x :=
  ⟨h.toSnapsAlike, rfl, h.perform x, h.cpuTime, h.tryDump⟩

theorem handOver : Matches R b.handOver c.handOver := matches_handOver h.flush h.flushCrashed

theorem change (previous? : Option Leg) (leg : Leg) :
    Matches R (Reference.change b previous? leg) (Reference.change c previous? leg) := by
  unfold Reference.change
  split
  · exact .pure _
  · split
    · exact .pure _
    · exact h.handOver

theorem follow (fault? : Option TraceError) (calls : List Call) (previous? : Option Leg)
    (legs : List Leg) (p : Player) :
    Matches R (Reference.follow b fault? calls previous? legs p)
      (Reference.follow c fault? calls previous? legs p) := by
  induction calls generalizing previous? legs p with
  | nil => cases fault? <;> exact .pure _
  | cons x calls ih =>
    refine .bind (h.change previous? x.leg) fun answer => ?_
    cases answer with
    | failed _ | crashed => exact .pure _
    | done =>
      refine .bind ((h.call x).play p) fun (verdict, q) => ?_
      cases verdict with
      | proceed => exact ih (some x.leg) (insertLeg x.leg legs) q
      | stop | failed _ | crashed => exact .pure _

/-- A race has the same end. -/
theorem race (source : Source) (p : Player) :
    Matches R (Field.run (fun _ => b) source p) (Field.run (fun _ => c) source p) := by
  rw [Field.run_eq_reference, Field.run_eq_reference]
  exact h.follow source.fault? source.calls none [homeLeg] p.beginRace

end Mirrors

end TraceReplay.Backend
