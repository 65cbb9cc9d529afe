import Mathlib.Data.List.SplitBy
import Mathlib.Algebra.BigOperators.Group.List.Lemmas
import Mathlib.Algebra.Order.BigOperators.Group.List
import Mathlib.Algebra.Order.Ring.Nat

/-! Splitting a list into its maximal runs. -/

universe u

namespace Vmwgfx.Lib

variable {α : Type u} {r : α → α → Bool} {a b : α} {l g : List α} {gs : List (List α)}

theorem splitBy_cons_of_not (h : r a b = false) : (a :: b :: l).splitBy r = [a] :: (b :: l).splitBy r := by
  have hsplit := List.splitBy_append_cons (l := [a]) (a := b) l (r := r) (by
    intro x hx
    cases hx
    exact h)
  have hone : [a].splitBy r = [[a]] := List.splitBy_of_isChain (List.cons_ne_nil a []) (List.isChain_singleton a)
  rw [hone] at hsplit
  exact hsplit

theorem splitBy_cons_of_rel (h : r a b = true) (hsplit : (b :: l).splitBy r = g :: gs) :
    (a :: b :: l).splitBy r = (a :: g) :: gs := by
  obtain ⟨hflat, hnil, hchain, hends⟩ := List.splitBy_eq_iff.mp hsplit
  have hg : g ≠ [] := fun heq => hnil (heq ▸ List.mem_cons_self)
  obtain ⟨c, g', rfl⟩ := List.exists_cons_of_ne_nil hg
  have hhead : b = c := (List.cons.inj hflat).1
  subst hhead
  refine List.splitBy_eq_iff.mpr ⟨?_, ?_, ?_, ?_⟩
  · rw [List.flatten_cons, List.cons_append, ← List.flatten_cons, ← hflat]
  · intro hmem
    rcases List.mem_cons.mp hmem with heq | hmem
    · cases heq
    · exact hnil (List.mem_cons_of_mem _ hmem)
  · intro m hm
    rcases List.mem_cons.mp hm with rfl | hm
    · exact List.isChain_cons_cons.mpr ⟨h, hchain _ List.mem_cons_self⟩
    · exact hchain m (List.mem_cons_of_mem _ hm)
  · refine List.isChain_cons.mpr ⟨?_, (List.isChain_cons.mp hends).2⟩
    intro m hm
    obtain ⟨ha, hb, hr⟩ := (List.isChain_cons.mp hends).1 m hm
    exact ⟨List.cons_ne_nil _ _, hb, by rwa [List.getLast_cons ha]⟩

/-- The runs after the first are the runs of what is left. -/
theorem splitBy_tail (h : l.splitBy r = g :: gs) : l = g ++ gs.flatten ∧ gs.flatten.splitBy r = gs := by
  obtain ⟨hflat, hnil, hchain, hends⟩ := List.splitBy_eq_iff.mp h
  refine ⟨hflat, List.splitBy_eq_iff.mpr ⟨rfl, ?_, ?_, (List.isChain_cons.mp hends).2⟩⟩
  · exact fun hmem => hnil (List.mem_cons_of_mem _ hmem)
  · exact fun m hm => hchain m (List.mem_cons_of_mem _ hm)

theorem sum_length_splitBy (r : α → α → Bool) (l : List α) : ((l.splitBy r).map List.length).sum = l.length := by
  rw [← List.length_flatten, List.flatten_splitBy]

/-- Terms below others that add up to the same are the same. -/
theorem eq_of_sum_eq {ι : Type u} {f g : ι → Nat} {l : List ι} (hle : ∀ i ∈ l, f i ≤ g i)
    (hsum : (l.map f).sum = (l.map g).sum) : ∀ i ∈ l, f i = g i := by
  induction l with
  | nil => exact fun i hi => absurd hi List.not_mem_nil
  | cons j l ih =>
    rw [List.map_cons, List.map_cons, List.sum_cons, List.sum_cons] at hsum
    have hj := hle j List.mem_cons_self
    have hrest : (l.map f).sum ≤ (l.map g).sum := List.sum_le_sum fun i hi => hle i (List.mem_cons_of_mem _ hi)
    intro i hi
    rcases List.mem_cons.mp hi with rfl | hi
    · omega
    · exact ih (fun i hi => hle i (List.mem_cons_of_mem _ hi)) (by omega) i hi

end Vmwgfx.Lib
