import Mathlib.Algebra.BigOperators.Group.Finset.Basic
import Mathlib.Algebra.Ring.Int.Defs
import Mathlib.Data.Finset.Card
import Mathlib.Data.Finset.Max
import Mathlib.Data.Fintype.Card
import Mathlib.Data.List.Basic

/-! Counting the elements of a list that has no duplicates, or of a finite type. -/

universe u v

namespace Vmwgfx.Lib

variable {α : Type u} {β : Type v} [DecidableEq β]

/-- Counts that agree but for one element of a list without duplicates. -/
theorem countP_exchange {l : List α} (hnodup : l.Nodup) {a : α} (ha : a ∈ l) (p q : α → Bool)
    (h : ∀ x, x ≠ a → p x = q x) :
    l.countP p + (if q a then 1 else 0) = l.countP q + (if p a then 1 else 0) := by
  induction l with
  | nil => cases ha
  | cons x l ih =>
    obtain ⟨hx, hl⟩ := List.nodup_cons.mp hnodup
    rw [List.countP_cons, List.countP_cons]
    by_cases heq : x = a
    · subst heq
      have htail : l.countP p = l.countP q :=
        List.countP_congr (fun y hy => by rw [h y (fun heq => hx (heq ▸ hy))])
      rw [htail]
      omega
    · have := ih hl ((List.mem_cons.mp ha).resolve_left (Ne.symm heq))
      rw [h x heq]
      omega

/-- The pointers from an optional field to `b`. -/
def named (o : Option β) (b : β) : Nat := if o = some b then 1 else 0

@[simp] theorem named_none (b : β) : named none b = 0 := if_neg (Option.some_ne_none b).symm

theorem named_self (b : β) : named (some b) b = 1 := if_pos rfl

theorem named_ne {a b : β} (h : a ≠ b) : named (some a) b = 0 := if_neg fun heq => h (Option.some.inj heq)

/-- The pointers to `b`, when the field of one element changes. -/
theorem countP_named {l : List α} (hnodup : l.Nodup) {a : α} (ha : a ∈ l) {f g : α → Option β}
    (h : ∀ x, x ≠ a → f x = g x) (b : β) :
    l.countP (fun x => f x = some b) + named (g a) b = l.countP (fun x => g x = some b) + named (f a) b := by
  have hcount := countP_exchange hnodup ha (fun x => decide (f x = some b)) (fun x => decide (g x = some b))
    fun x hx => by rw [h x hx]
  simpa only [named, decide_eq_true_eq] using hcount

section Finite

variable {ι : Type u} [Fintype ι] [DecidableEq ι]

/-- Counts that agree but for one element. -/
theorem card_exchange (p q : ι → Prop) [DecidablePred p] [DecidablePred q] (a : ι) (h : ∀ x, x ≠ a → (p x ↔ q x)) :
    (Finset.univ.filter p).card + (if q a then 1 else 0) = (Finset.univ.filter q).card + (if p a then 1 else 0) := by
  have herase : (Finset.univ.filter p).erase a = (Finset.univ.filter q).erase a := by
    ext x
    simp only [Finset.mem_erase, Finset.mem_filter, Finset.mem_univ, true_and]
    exact and_congr_right (h x)
  have hcard := congrArg Finset.card herase
  rw [Finset.card_erase_eq_ite, Finset.card_erase_eq_ite] at hcard
  have hpos : ∀ (r : ι → Prop) [DecidablePred r], r a → 0 < (Finset.univ.filter r).card := by
    intro r _ hr
    exact Finset.card_pos.mpr ⟨a, Finset.mem_filter.mpr ⟨Finset.mem_univ a, hr⟩⟩
  simp only [Finset.mem_filter, Finset.mem_univ, true_and] at hcard
  by_cases hp : p a <;> by_cases hq : q a
  · have := hpos p hp
    have := hpos q hq
    simp only [hp, hq, if_true] at hcard ⊢
    omega
  · have := hpos p hp
    simp only [hp, hq, if_true, if_false] at hcard ⊢
    omega
  · have := hpos q hq
    simp only [hp, hq, if_true, if_false] at hcard ⊢
    omega
  · simpa only [hp, hq, if_false, Nat.add_zero] using hcard

/-- Sums of terms that agree but for one. -/
theorem sum_exchange (f g : ι → Int) (a : ι) (h : ∀ x, x ≠ a → f x = g x) : ∑ x, f x + g a = ∑ x, g x + f a := by
  rw [← Finset.add_sum_erase _ f (Finset.mem_univ a), ← Finset.add_sum_erase _ g (Finset.mem_univ a)]
  have hrest : ∑ x ∈ Finset.univ.erase a, f x = ∑ x ∈ Finset.univ.erase a, g x :=
    Finset.sum_congr rfl fun x hx => h x (Finset.ne_of_mem_erase hx)
  rw [hrest]
  omega

omit [DecidableEq ι] in
/-- Where each one leads to a higher one, unless the goal is reached, the goal is reached. -/
theorem of_ascent (rank : ι → Nat) {p : ι → Prop} {goal : Prop} (h : ∀ x, p x → goal ∨ ∃ y, p y ∧ rank x < rank y) {x : ι}
    (hx : p x) : goal := by
  classical
  obtain ⟨top, htop, hmax⟩ := (Finset.univ.filter p).exists_max_image rank ⟨x, Finset.mem_filter.mpr ⟨Finset.mem_univ x, hx⟩⟩
  rcases h top (Finset.mem_filter.mp htop).2 with hgoal | ⟨y, hy, hlt⟩
  · exact hgoal
  · exact absurd (hmax y (Finset.mem_filter.mpr ⟨Finset.mem_univ y, hy⟩)) (Nat.not_le.mpr hlt)

end Finite

end Vmwgfx.Lib
