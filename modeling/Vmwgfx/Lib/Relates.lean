import Mathlib.Order.Defs.Unbundled
import Vmwgfx.Lib.Outcome

/-! Programs that may stop: a relation between the states before and after every run that ends well. -/

universe u

namespace Vmwgfx.Lib

variable {ε σ α β : Type u} {R R' : σ → σ → Prop}

def Relates (R : σ → σ → Prop) (x : EStateM ε σ α) : Prop := ∀ s a t, x s = .ok a t → R s t

namespace Relates

variable {x y : EStateM ε σ α}

theorem mono (h : Relates R x) (hR : ∀ s t, R s t → R' s t) : Relates R' x :=
  fun s a t hrun => hR s t (h s a t hrun)

theorem pure [Std.Refl R] (a : α) : Relates R (pure a : EStateM ε σ α) := by
  intro s b t h
  cases h
  exact refl_of R s

theorem throw (e : ε) : Relates R (throw e : EStateM ε σ α) := fun _ _ _ h => by cases h

/-- The second program may depend on what the first one has found. -/
theorem bind_of [IsTrans σ R] {f : α → EStateM ε σ β} (hx : Relates R x)
    (hf : ∀ s a t, x s = .ok a t → ∀ b u, f a t = .ok b u → R t u) : Relates R (x >>= f) := by
  intro s b u h
  obtain ⟨a, t, hrun, hrest⟩ := bind_eq_ok.mp h
  exact trans_of R (hx s a t hrun) (hf s a t hrun b u hrest)

theorem bind [IsTrans σ R] {f : α → EStateM ε σ β} (hx : Relates R x) (hf : ∀ a, Relates R (f a)) :
    Relates R (x >>= f) :=
  hx.bind_of fun _ a t _ b u hrest => hf a t b u hrest

theorem ite {p : Prop} [Decidable p] (hx : p → Relates R x) (hy : ¬ p → Relates R y) :
    Relates R (if p then x else y) := by
  by_cases h : p
  · rw [if_pos h]
    exact hx h
  · rw [if_neg h]
    exact hy h

end Relates

end Vmwgfx.Lib
