/-! Programs that may stop: what a run that ends well went through. -/

universe u

namespace Vmwgfx.Lib

variable {ε σ α β : Type u}

section Ok

variable {s t : σ} {a : α} {b : β}

theorem bind_eq_ok {x : EStateM ε σ α} {f : α → EStateM ε σ β} :
    (x >>= f) s = .ok b t ↔ ∃ a r, x s = .ok a r ∧ f a r = .ok b t := by
  change EStateM.bind x f s = .ok b t ↔ _
  unfold EStateM.bind
  cases h : x s with
  | ok a r =>
    constructor
    · intro hf
      exact ⟨a, r, rfl, hf⟩
    · intro hf
      obtain ⟨a', r', heq, hf⟩ := hf
      cases heq
      exact hf
  | error e r =>
    constructor
    · intro hf
      cases hf
    · intro hf
      obtain ⟨_, _, heq, _⟩ := hf
      cases heq

theorem bind_of_ok {x : EStateM ε σ α} {f : α → EStateM ε σ β} (h : x s = .ok a t) :
    (x >>= f) s = f a t := by
  change EStateM.bind x f s = _
  unfold EStateM.bind
  rw [h]

theorem bind_of_error {e : ε} {x : EStateM ε σ α} {f : α → EStateM ε σ β} (h : x s = .error e t) :
    (x >>= f) s = .error e t := by
  change EStateM.bind x f s = _
  unfold EStateM.bind
  rw [h]

theorem pure_eq_ok {a' : α} : (pure a' : EStateM ε σ α) s = .ok a t ↔ a' = a ∧ s = t := by
  change EStateM.Result.ok a' s = .ok a t ↔ _
  exact EStateM.Result.ok.injEq a' s a t ▸ Iff.rfl

end Ok

end Vmwgfx.Lib
