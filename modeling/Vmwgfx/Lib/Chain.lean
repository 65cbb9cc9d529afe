import Mathlib.Algebra.Ring.Int.Defs
import Mathlib.Algebra.Ring.Nat
import Mathlib.Data.List.Basic
import Mathlib.Order.Lattice
import Mathlib.Tactic.Common

/-! Key-sorted collision chains: association lists in strictly ascending key
order, searched and extended the way a kernel hash bucket is. -/

universe u v

namespace Vmwgfx.Lib

variable {K : Type u} {V : Type v} [LinearOrder K]

abbrev Chain (K : Type u) (V : Type v) := List (K × V)

namespace Chain

def Sorted (c : Chain K V) : Prop := c.Pairwise (fun a b => a.1 < b.1)

/-- The walk stops at the first key that is not below the one looked for. -/
def find (k : K) : Chain K V → Option V
  | [] => none
  | e :: c => if e.1 = k then some e.2 else if k < e.1 then none else find k c

def insert (k : K) (v : V) : Chain K V → Option (Chain K V)
  | [] => some [(k, v)]
  | e :: c =>
    if e.1 = k then none
    else if k < e.1 then some ((k, v) :: e :: c)
    else (insert k v c).map (e :: ·)

/-- Unlinks one node; a node that is not on the chain changes nothing. -/
def unlink [DecidableEq V] (k : K) (v : V) (c : Chain K V) : Chain K V :=
  c.filter (fun e => ¬ (e.1 = k ∧ e.2 = v))

@[simp] theorem sorted_nil : Sorted ([] : Chain K V) := List.Pairwise.nil

theorem sorted_cons {e : K × V} {c : Chain K V} :
    Sorted (e :: c) ↔ (∀ a ∈ c, e.1 < a.1) ∧ Sorted c := List.pairwise_cons

theorem find_eq_some_iff {c : Chain K V} (h : Sorted c) {k : K} {v : V} :
    find k c = some v ↔ (k, v) ∈ c := by
  induction c with
  | nil => simp [find]
  | cons e c ih =>
    obtain ⟨hlt, hc⟩ := sorted_cons.mp h
    simp only [find, List.mem_cons]
    split_ifs with heq hbelow
    · constructor
      · rintro ⟨⟩
        exact .inl (by rw [← heq])
      · rintro (rfl | hmem)
        · rfl
        · exact absurd (hlt _ hmem) (by simp [heq])
    · constructor
      · rintro ⟨⟩
      · rintro (rfl | hmem)
        · exact absurd rfl heq
        · exact absurd (lt_trans hbelow (hlt _ hmem)) (lt_irrefl _)
    · rw [ih hc]
      constructor
      · exact .inr
      · rintro (rfl | hmem)
        · exact absurd rfl heq
        · exact hmem

theorem mem_insert {c c' : Chain K V} {k : K} {v : V} (h : insert k v c = some c')
    {e : K × V} : e ∈ c' ↔ e = (k, v) ∨ e ∈ c := by
  induction c generalizing c' with
  | nil =>
    simp only [insert, Option.some.injEq] at h
    simp [← h]
  | cons a c ih =>
    simp only [insert] at h
    split_ifs at h with heq hbelow
    · simp only [Option.some.injEq] at h
      simp [← h]
    · obtain ⟨d, hd, rfl⟩ := Option.map_eq_some_iff.mp h
      simp only [List.mem_cons, ih hd]
      tauto

theorem sorted_insert {c c' : Chain K V} {k : K} {v : V} (h : insert k v c = some c')
    (hc : Sorted c) : Sorted c' := by
  induction c generalizing c' with
  | nil =>
    simp only [insert, Option.some.injEq] at h
    simp [← h, Sorted]
  | cons a c ih =>
    obtain ⟨hlt, hsorted⟩ := sorted_cons.mp hc
    simp only [insert] at h
    split_ifs at h with heq hbelow
    · simp only [Option.some.injEq] at h
      subst h
      refine sorted_cons.mpr ⟨fun e he => ?_, hc⟩
      rcases List.mem_cons.mp he with rfl | he
      · exact hbelow
      · exact lt_trans hbelow (hlt e he)
    · obtain ⟨d, hd, rfl⟩ := Option.map_eq_some_iff.mp h
      refine sorted_cons.mpr ⟨fun e he => ?_, ih hd hsorted⟩
      rcases (mem_insert hd).mp he with rfl | he
      · exact lt_of_le_of_ne (not_lt.mp hbelow) heq
      · exact hlt e he

theorem insert_eq_none_iff {c : Chain K V} (hc : Sorted c) {k : K} {v : V} :
    insert k v c = none ↔ (find k c).isSome := by
  induction c with
  | nil => simp [insert, find]
  | cons a c ih =>
    simp only [insert, find]
    split_ifs with heq hbelow
    · simp
    · simp
    · simp [ih (sorted_cons.mp hc).2]

theorem find_insert {c c' : Chain K V} (hc : Sorted c) {k : K} {v : V}
    (h : insert k v c = some c') (k' : K) :
    find k' c' = if k' = k then some v else find k' c := by
  have hnone : find k c = none := by
    by_contra hne
    have := (insert_eq_none_iff (v := v) hc).mpr (Option.isSome_iff_ne_none.mpr hne)
    simp [this] at h
  ext w
  rw [find_eq_some_iff (sorted_insert h hc), mem_insert h]
  split_ifs with hk
  · subst hk
    have habs : (k', w) ∉ c := by
      rw [← find_eq_some_iff hc, hnone]
      rintro ⟨⟩
    simp [habs, eq_comm]
  · simp [find_eq_some_iff hc, hk]

section Unlink

variable [DecidableEq V]

theorem sorted_unlink {c : Chain K V} (hc : Sorted c) (k : K) (v : V) :
    Sorted (unlink k v c) := hc.filter _

theorem mem_unlink {c : Chain K V} {k : K} {v : V} {e : K × V} :
    e ∈ unlink k v c ↔ e ∈ c ∧ ¬ (e.1 = k ∧ e.2 = v) := by
  simp [unlink, imp_iff_not_or]

theorem find_unlink {c : Chain K V} (hc : Sorted c) {k : K} {v : V}
    (hv : find k c = some v) (k' : K) :
    find k' (unlink k v c) = if k' = k then none else find k' c := by
  ext w
  rw [find_eq_some_iff (sorted_unlink hc k v), mem_unlink]
  split_ifs with hk
  · subst hk
    simp only [← find_eq_some_iff hc, hv, Option.some.injEq, true_and]
    constructor
    · rintro ⟨rfl, hne⟩
      exact absurd rfl hne
    · rintro ⟨⟩
  · simp [find_eq_some_iff hc, hk]

end Unlink

end Chain

end Vmwgfx.Lib
