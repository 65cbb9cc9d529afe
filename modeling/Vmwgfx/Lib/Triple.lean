import Vmwgfx.Lib.Ends

/-! Programs that may stop: pre- and postconditions. -/

universe u

namespace Vmwgfx.Lib

variable {ε σ α β : Type u}

/-- Started where `P` holds, the program ends where `Q` does, or stops with what `E` allows. -/
def Triple (E : ε → Prop) (P : σ → Prop) (x : EStateM ε σ α) (Q : α → σ → Prop) : Prop :=
  ∀ s, P s → Ends x s Q (fun e _ => E e)

namespace Triple

variable {E : ε → Prop} {P P' : σ → Prop} {Q Q' : α → σ → Prop} {R : β → σ → Prop}

theorem pure {Q : α → σ → Prop} (a : α) (h : ∀ s, P s → Q a s) :
    Triple E P (Pure.pure a : EStateM ε σ α) Q :=
  fun s hs => h s hs

theorem throw {e : ε} (h : E e) : Triple E P (MonadExcept.throw e : EStateM ε σ α) Q := fun _ _ => h

theorem bind {x : EStateM ε σ α} {f : α → EStateM ε σ β} (hx : Triple E P x Q)
    (hf : ∀ a, Triple E (Q a) (f a) R) : Triple E P (x >>= f) R :=
  fun s hs => (hx s hs).bind fun a t ht => hf a t ht

theorem ite {c : Prop} [Decidable c] {x y : EStateM ε σ α} (hx : Triple E P x Q) (hy : Triple E P y Q) :
    Triple E P (if c then x else y) Q :=
  fun s hs => .ite (fun _ => hx s hs) (fun _ => hy s hs)

theorem mono {x : EStateM ε σ α} (h : Triple E P x Q) (hP : ∀ s, P' s → P s) (hQ : ∀ a s, Q a s → Q' a s) :
    Triple E P' x Q' :=
  fun s hs => (h s (hP s hs)).mono (fun a t ht => hQ a t ht) (fun _ _ he => he)

theorem discard {Q : PUnit → σ → Prop} {x : EStateM ε σ α} (h : Triple E P x (fun _ => Q PUnit.unit)) :
    Triple E P (Functor.discard x) Q :=
  fun s hs => ends_discard.mpr (h s hs)

/-- Where nothing can be, nothing is asked. -/
theorem absurd {x : EStateM ε σ α} (h : ∀ s, ¬ P s) : Triple E P x Q := fun s hs => False.elim (h s hs)

end Triple

section Loops

variable {E : ε → Prop} {P : σ → Prop}

/-- The program `n` times. -/
def times (x : EStateM ε σ PUnit) : Nat → EStateM ε σ PUnit
  | 0 => pure PUnit.unit
  | n + 1 => do
    x
    times x n

/-- One program for each element of a list. -/
def each {γ : Type} (f : γ → EStateM ε σ PUnit) : List γ → EStateM ε σ PUnit
  | [] => pure PUnit.unit
  | c :: cs => do
    f c
    each f cs

theorem Triple.times {x : EStateM ε σ PUnit} (h : Triple E P x (fun _ => P)) (n : Nat) :
    Triple E P (times x n) (fun _ => P) := by
  induction n with
  | zero => exact .pure _ fun _ hs => hs
  | succ n ih => exact h.bind fun _ => ih

theorem Triple.each {γ : Type} {f : γ → EStateM ε σ PUnit} (h : ∀ c, Triple E P (f c) (fun _ => P))
    (cs : List γ) : Triple E P (each f cs) (fun _ => P) := by
  induction cs with
  | nil => exact .pure _ fun _ hs => hs
  | cons c cs ih => exact (h c).bind fun _ => ih

end Loops

end Vmwgfx.Lib
