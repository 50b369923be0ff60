/-!
# Stateful programs

What a program answers and leaves from one state (`Ensures`), and two programs that, started in
related states, give the same answer and leave related states (`Matches`). Both go through a program
step by step.
-/

namespace TraceReplay

variable {σ τ α β : Type}

theorem bind_apply (x : StateM σ α) (f : α → StateM σ β) (s : σ) :
    (x >>= f) s = f (x s).1 (x s).2 := rfl

/-- The answer of a program and the state that it leaves meet a condition. -/
def Ensures (x : StateM σ α) (s : σ) (post : α → σ → Prop) : Prop := post (x s).1 (x s).2

namespace Ensures

variable {x : StateM σ α} {f : α → StateM σ β} {s : σ} {P Q : α → σ → Prop} {post : β → σ → Prop}

theorem pure {a : α} (holds : P a s) : Ensures (pure a : StateM σ α) s P := holds

theorem bind (first : Ensures x s P) (rest : ∀ a t, P a t → Ensures (f a) t post) :
    Ensures (x >>= f) s post := rest _ _ first

theorem of_eq {a : α} {t : σ} (eq : x s = (a, t)) : Ensures x s fun b u => b = a ∧ u = t :=
  Prod.ext_iff.1 eq

theorem mono (h : Ensures x s P) (weaker : ∀ a t, P a t → Q a t) : Ensures x s Q := weaker _ _ h

end Ensures

variable {R : σ → τ → Prop}

/-- Started in related states, both programs give the same answer and leave related states. -/
def Matches (R : σ → τ → Prop) (x : StateM σ α) (y : StateM τ α) : Prop :=
  ∀ s t, R s t → (x s).1 = (y t).1 ∧ R (x s).2 (y t).2

theorem Matches.pure (a : α) : Matches R (pure a) (pure a) := fun _ _ related => ⟨rfl, related⟩

theorem Matches.bind {x : StateM σ α} {y : StateM τ α} {f : α → StateM σ β} {g : α → StateM τ β}
    (first : Matches R x y) (rest : ∀ a, Matches R (f a) (g a)) :
    Matches R (x >>= f) (y >>= g) := by
  intro s t related
  obtain ⟨same, left⟩ := first s t related
  have after := rest (x s).1 (x s).2 (y t).2 left
  rw [same] at after
  rw [bind_apply, bind_apply, same]
  exact after

end TraceReplay
