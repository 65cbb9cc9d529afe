import Mathlib.Data.Fintype.Card
import Mathlib.Logic.Function.Basic

/-! A value that several members show, with the number of the members that show it. -/

universe u v

namespace Vmwgfx.Lib

variable {ι : Type u} {β : Type v} [Fintype ι]

/-- The members that show something. -/
def showing (shown : ι → Option β) : Finset ι := Finset.univ.filter fun i => (shown i).isSome

/-- `n` members show something, and what they show is the one value `v`. -/
structure Shared (shown : ι → Option β) (n : Nat) (v : Option β) : Prop where
  count : n = (showing shown).card
  same : ∀ i b, shown i = some b → v = some b
  empty : n = 0 → v = none

section Showing

variable {shown : ι → Option β} {i : ι}

theorem mem_showing : i ∈ showing shown ↔ (shown i).isSome = true := by
  unfold showing
  rw [Finset.mem_filter]
  exact and_iff_right (Finset.mem_univ i)

variable [DecidableEq ι]

theorem showing_update_none (shown : ι → Option β) (i : ι) :
    showing (Function.update shown i none) = (showing shown).erase i := by
  ext j
  rw [Finset.mem_erase, mem_showing, mem_showing]
  by_cases hij : j = i
  · subst hij
    rw [Function.update_self]
    simp
  · rw [Function.update_of_ne hij]
    exact (and_iff_right hij).symm

theorem showing_update_some (shown : ι → Option β) (i : ι) (b : β) :
    showing (Function.update shown i (some b)) = insert i (showing shown) := by
  ext j
  rw [Finset.mem_insert, mem_showing, mem_showing]
  by_cases hij : j = i
  · subst hij
    rw [Function.update_self]
    simp
  · rw [Function.update_of_ne hij]
    exact (or_iff_right hij).symm

end Showing

namespace Shared

variable {shown : ι → Option β} {n : Nat} {v : Option β} {i : ι} {b : β}

theorem nothing : Shared (fun _ : ι => (none : Option β)) 0 none where
  count := by
    symm
    apply Finset.card_eq_zero.mpr
    apply Finset.eq_empty_of_forall_notMem
    intro i hi
    exact Bool.noConfusion (mem_showing.mp hi)
  same := by
    intro i b hib
    cases hib
  empty := fun _ => rfl

theorem pos (h : Shared shown n v) (hi : (shown i).isSome = true) : 0 < n := by
  rw [h.count]
  exact Finset.card_pos.mpr ⟨i, mem_showing.mpr hi⟩

theorem eq_none_iff (h : Shared shown n v) : v = none ↔ n = 0 := by
  constructor
  · intro hv
    rw [h.count]
    apply Finset.card_eq_zero.mpr
    apply Finset.eq_empty_of_forall_notMem
    intro i hi
    obtain ⟨b, hb⟩ := Option.isSome_iff_exists.mp (mem_showing.mp hi)
    rw [h.same i b hb] at hv
    cases hv
  · exact h.empty

theorem same_of_isSome (h : Shared shown n v) (hi : (shown i).isSome = true) : shown i = v := by
  obtain ⟨b, hb⟩ := Option.isSome_iff_exists.mp hi
  rw [hb, h.same i b hb]

theorem alone (h : Shared shown n v) (hn : n = 1) (hi : (shown i).isSome = true) {j : ι}
    (hj : (shown j).isSome = true) : j = i := by
  have hcard : (showing shown).card = 1 := h.count ▸ hn
  obtain ⟨k, hk⟩ := Finset.card_eq_one.mp hcard
  have hi' : i = k := Finset.mem_singleton.mp (hk ▸ mem_showing.mpr hi)
  have hj' : j = k := Finset.mem_singleton.mp (hk ▸ mem_showing.mpr hj)
  rw [hi', hj']

variable [DecidableEq ι]

/-- A member stops to show the value; the last one takes it along. -/
theorem leave (h : Shared shown n v) (hi : (shown i).isSome = true) :
    Shared (Function.update shown i none) (n - 1) (if n - 1 = 0 then none else v) where
  count := by
    rw [showing_update_none, Finset.card_erase_of_mem (mem_showing.mpr hi), ← h.count]
  same := by
    intro j b hjb
    have hne : j ≠ i := by
      intro heq
      rw [heq, Function.update_self] at hjb
      cases hjb
    rw [Function.update_of_ne hne] at hjb
    have hlast : n - 1 ≠ 0 := by
      intro hlast
      have hn : n = 1 := by
        have := h.pos hi
        omega
      exact hne (h.alone hn hi (Option.isSome_iff_exists.mpr ⟨b, hjb⟩))
    rw [if_neg hlast]
    exact h.same j b hjb
  empty := fun hn => if_pos hn

/-- A member starts to show the value, which it brings when it is the first. -/
theorem join (h : Shared shown n v) (hi : shown i = none) (hb : n = 0 ∨ v = some b) :
    Shared (Function.update shown i (some b)) (n + 1) (some b) where
  count := by
    have hnot : i ∉ showing shown := by
      rw [mem_showing, hi]
      exact Bool.noConfusion
    rw [showing_update_some, Finset.card_insert_of_notMem hnot, ← h.count]
  same := by
    intro j c hjc
    by_cases hji : j = i
    · rw [hji, Function.update_self] at hjc
      exact hjc
    · rw [Function.update_of_ne hji] at hjc
      rcases hb with hn | hv
      · exact absurd hn (Nat.ne_of_gt (h.pos (Option.isSome_iff_exists.mpr ⟨c, hjc⟩)))
      · rw [← hv, h.same j c hjc]
  empty := fun hn => absurd hn (Nat.succ_ne_zero n)

/-- A member shows another value, of which the others do not know. -/
theorem replace (h : Shared shown n v) (hi : (shown i).isSome = true) (hb : n = 1 ∨ v = some b) :
    Shared (Function.update shown i (some b)) n (some b) where
  count := by
    rw [showing_update_some, Finset.insert_eq_of_mem (mem_showing.mpr hi), ← h.count]
  same := by
    intro j c hjc
    by_cases hji : j = i
    · rw [hji, Function.update_self] at hjc
      exact hjc
    · rw [Function.update_of_ne hji] at hjc
      rcases hb with hn | hv
      · exact absurd (h.alone hn hi (Option.isSome_iff_exists.mpr ⟨c, hjc⟩)) hji
      · rw [← hv, h.same j c hjc]
  empty := fun hn => absurd hn (Nat.ne_of_gt (h.pos hi))

end Shared

end Vmwgfx.Lib
