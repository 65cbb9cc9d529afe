import Mathlib.Logic.Basic

/-! A lock that at most one party holds, beside the flag that says it is held. -/

universe u

namespace Vmwgfx.Lib

variable {ι : Type u} {Holds Holds' : ι → Prop} {flag flag' : Bool} {a : ι}

/-- At most one party holds the lock, and the flag is up while one does. -/
structure Mutex (Holds : ι → Prop) (flag : Bool) : Prop where
  held : ∀ x, Holds x → flag = true
  unique : ∀ x y, Holds x → Holds y → x = y

namespace Mutex

theorem free (h : Mutex Holds false) (x : ι) : ¬ Holds x :=
  fun hx => Bool.false_ne_true (h.held x hx)

theorem empty (hnone : ∀ x, ¬ Holds x) (flag : Bool) : Mutex Holds flag where
  held x hx := absurd hx (hnone x)
  unique x _ hx _ := absurd hx (hnone x)

theorem mono (h : Mutex Holds flag) (hsub : ∀ x, Holds' x → Holds x) : Mutex Holds' flag where
  held x hx := h.held x (hsub x hx)
  unique x y hx hy := h.unique x y (hsub x hx) (hsub y hy)

theorem acquire (h : Mutex Holds false) (hsub : ∀ x, Holds' x → Holds x ∨ x = a) : Mutex Holds' true where
  held _ _ := rfl
  unique x y hx hy :=
    ((hsub x hx).resolve_left (h.free x)).trans ((hsub y hy).resolve_left (h.free y)).symm

theorem release (h : Mutex Holds flag) (ha : Holds a) (hsub : ∀ x, Holds' x → Holds x ∧ x ≠ a) :
    Mutex Holds' flag' :=
  .empty (fun x hx => (hsub x hx).2 (h.unique x a (hsub x hx).1 ha)) flag'

/-- While one party holds the lock no other does. -/
theorem alone (h : Mutex Holds flag) (ha : Holds a) {x : ι} (hx : x ≠ a) : ¬ Holds x :=
  fun hx' => hx (h.unique x a hx' ha)

end Mutex

end Vmwgfx.Lib
