import Mathlib.Dynamics.PeriodicPts.Defs

/-! Loops that apply a function until a value is reached that they may stop at. -/

universe u v

namespace Vmwgfx.Lib

open Function

variable {α : Type u} {stop : α → Bool} {f : α → α} {x y : α}

/-- The loop, for at most `fuel` rounds; `none` is a loop that is still going. -/
def loopUntil (stop : α → Bool) (f : α → α) : Nat → α → Option α
  | 0, x => if stop x then some x else none
  | fuel + 1, x => if stop x then some x else loopUntil stop f fuel (f x)

theorem stop_of_loopUntil {fuel : Nat} (h : loopUntil stop f fuel x = some y) : stop y = true := by
  induction fuel generalizing x with
  | zero =>
    unfold loopUntil at h
    split at h
    · cases h
      assumption
    · cases h
  | succ fuel ih =>
    unfold loopUntil at h
    split at h
    · cases h
      assumption
    · exact ih h

theorem iterate_of_loopUntil {fuel : Nat} (h : loopUntil stop f fuel x = some y) : ∃ k, y = f^[k] x := by
  induction fuel generalizing x with
  | zero =>
    unfold loopUntil at h
    split at h
    · cases h
      exact ⟨0, rfl⟩
    · cases h
  | succ fuel ih =>
    unfold loopUntil at h
    split at h
    · cases h
      exact ⟨0, rfl⟩
    · obtain ⟨k, hk⟩ := ih h
      exact ⟨k + 1, hk⟩

theorem loopUntil_isSome {k : Nat} (h : stop (f^[k] x) = true) : (loopUntil stop f k x).isSome = true := by
  induction k generalizing x with
  | zero =>
    have hx : stop x = true := h
    unfold loopUntil
    rw [if_pos hx]
    rfl
  | succ k ih =>
    unfold loopUntil
    split
    · rfl
    · exact ih h

/-- The loop comes to an end just when some iterate is one to stop at. -/
theorem loopUntil_terminates_iff :
    (∃ fuel y, loopUntil stop f fuel x = some y) ↔ ∃ k, stop (f^[k] x) = true := by
  constructor
  · rintro ⟨fuel, y, h⟩
    obtain ⟨k, rfl⟩ := iterate_of_loopUntil h
    exact ⟨k, stop_of_loopUntil h⟩
  · rintro ⟨k, hk⟩
    obtain ⟨y, hy⟩ := Option.isSome_iff_exists.mp (loopUntil_isSome hk)
    exact ⟨k, y, hy⟩

section Rounds

variable {σ : Type u} {ρ : Type v} {round : σ → σ ⊕ ρ} {I : σ → Prop} {P : ρ → Prop} {μ : σ → Nat}

/-- Runs rounds until one of them leaves the loop. -/
def loopRounds (round : σ → σ ⊕ ρ) : Nat → σ → Option ρ
  | 0, _ => none
  | fuel + 1, s =>
    match round s with
    | .inl s => loopRounds round fuel s
    | .inr r => some r

/-- What a round may leave, inside the loop and out of it. -/
def RoundOk (I : σ → Prop) (P : ρ → Prop) (μ : σ → Nat) (s : σ) : σ ⊕ ρ → Prop
  | .inl s' => I s' ∧ μ s' < μ s
  | .inr r => P r

/-- A loop whose rounds keep `I` and make `μ` smaller ends within `μ` and one more rounds. -/
theorem loopRounds_ends (hround : ∀ s, I s → RoundOk I P μ s (round s)) {s : σ} (hs : I s) :
    ∃ r, P r ∧ ∀ fuel, μ s < fuel → loopRounds round fuel s = some r := by
  induction hn : μ s using Nat.strong_induction_on generalizing s with
  | _ n ih =>
    have hok := hround s hs
    cases hr : round s with
    | inl s' =>
      rw [hr] at hok
      obtain ⟨r, hP, hends⟩ := ih (μ s') (hn ▸ hok.2) hok.1 rfl
      refine ⟨r, hP, fun fuel hfuel => ?_⟩
      obtain ⟨k, rfl⟩ : ∃ k, fuel = k + 1 := ⟨fuel - 1, by omega⟩
      unfold loopRounds
      rw [hr]
      exact hends k (by have := hok.2; omega)
    | inr r =>
      rw [hr] at hok
      refine ⟨r, hok, fun fuel hfuel => ?_⟩
      obtain ⟨k, rfl⟩ : ∃ k, fuel = k + 1 := ⟨fuel - 1, by omega⟩
      unfold loopRounds
      rw [hr]

end Rounds

/-- All of the first `n` iterates meet `p`. -/
def allIterates (p : α → Bool) (f : α → α) : Nat → α → Bool
  | 0, _ => true
  | n + 1, x => p x && allIterates p f n (f x)

theorem of_allIterates {p : α → Bool} {n k : Nat} (h : allIterates p f n x = true) (hk : k < n) :
    p (f^[k] x) = true := by
  induction k generalizing x n with
  | zero =>
    cases n with
    | zero => cases hk
    | succ n => exact (Bool.and_eq_true_iff.mp h).1
  | succ k ih =>
    cases n with
    | zero => cases hk
    | succ n => exact ih (Bool.and_eq_true_iff.mp h).2 (Nat.lt_of_succ_lt_succ hk)

/-- On a periodic orbit it is enough to look once round. -/
theorem of_allIterates_periodic {p : α → Bool} {n : Nat} (hper : IsPeriodicPt f n x) (hn : 0 < n)
    (h : allIterates p f n x = true) (k : Nat) : p (f^[k] x) = true := by
  rw [← hper.iterate_mod_apply k]
  exact of_allIterates h (Nat.mod_lt k hn)

end Vmwgfx.Lib
