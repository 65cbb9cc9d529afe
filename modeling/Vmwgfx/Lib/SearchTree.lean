import Mathlib.Data.List.Pairwise
import Mathlib.Data.Tree.Basic
import Mathlib.Order.Lattice

/-! Binary search trees that are searched for the greatest key up to a bound. -/

universe u v

namespace Vmwgfx.Lib.SearchTree

variable {α : Type u} {β : Type v} [LinearOrder β]

def inorder : BinaryTree α → List α
  | .nil => []
  | .node a l r => inorder l ++ a :: inorder r

/-- A leaf for the value; there is no place for a key that is there. -/
def link (key : α → β) (a : α) : BinaryTree α → Option (BinaryTree α)
  | .nil => some (.node a .nil .nil)
  | .node b l r =>
    if key a < key b then (link key a l).map fun l => .node b l r
    else if key b < key a then (link key a r).map fun r => .node b l r
    else none

/-- The descent keeps the last key it went to the right of. -/
def floor (key : α → β) (x : β) : BinaryTree α → Option α → Option α
  | .nil, best => best
  | .node a l r, best =>
    if key a ≤ x then
      if x = key a then some a else floor key x r (some a)
    else floor key x l best

def Sorted (key : α → β) (t : BinaryTree α) : Prop := (inorder t).Pairwise fun a b => key a < key b

variable {key : α → β} {a b : α} {x : β} {t t' l r : BinaryTree α}

theorem sorted_node_iff : Sorted key (.node b l r) ↔ Sorted key l ∧ Sorted key r ∧
    (∀ a ∈ inorder l, key a < key b) ∧ ∀ c ∈ inorder r, key b < key c := by
  unfold Sorted
  rw [inorder, List.pairwise_append, List.pairwise_cons]
  constructor
  · rintro ⟨hl, ⟨hb, hr⟩, hlr⟩
    exact ⟨hl, hr, fun a ha => hlr a ha b List.mem_cons_self, hb⟩
  · rintro ⟨hl, hr, hlb, hbr⟩
    refine ⟨hl, ⟨hbr, hr⟩, fun a ha c hc => ?_⟩
    rcases List.mem_cons.mp hc with rfl | hc
    · exact hlb a ha
    · exact (hlb a ha).trans (hbr c hc)

theorem link_perm (h : link key a t = some t') : (inorder t').Perm (a :: inorder t) := by
  induction t generalizing t' with
  | nil =>
    cases h
    exact .refl _
  | node b l r ihl ihr =>
    unfold link at h
    split at h
    · obtain ⟨l', hl, rfl⟩ := Option.map_eq_some_iff.mp h
      exact (ihl hl).append_right _
    · split at h
      · obtain ⟨r', hr, rfl⟩ := Option.map_eq_some_iff.mp h
        have hperm := (List.Perm.cons b (ihr hr)).trans (.swap a b _)
        exact (hperm.append_left _).trans List.perm_middle
      · cases h

theorem link_sorted (hsorted : Sorted key t) (h : link key a t = some t') : Sorted key t' := by
  induction t generalizing t' with
  | nil =>
    cases h
    exact List.pairwise_singleton _ _
  | node b l r ihl ihr =>
    obtain ⟨hl, hr, hlb, hbr⟩ := sorted_node_iff.mp hsorted
    unfold link at h
    split at h
    · next hlt =>
      obtain ⟨l', hlink, rfl⟩ := Option.map_eq_some_iff.mp h
      refine sorted_node_iff.mpr ⟨ihl hl hlink, hr, fun c hc => ?_, hbr⟩
      rcases List.mem_cons.mp ((link_perm hlink).mem_iff.mp hc) with rfl | hc
      · exact hlt
      · exact hlb c hc
    · split at h
      · next hlt =>
        obtain ⟨r', hlink, rfl⟩ := Option.map_eq_some_iff.mp h
        refine sorted_node_iff.mpr ⟨hl, ihr hr hlink, hlb, fun c hc => ?_⟩
        rcases List.mem_cons.mp ((link_perm hlink).mem_iff.mp hc) with rfl | hc
        · exact hlt
        · exact hbr c hc
      · cases h

theorem exists_of_link_none (h : link key a t = none) : ∃ b ∈ inorder t, key b = key a := by
  induction t with
  | nil => cases h
  | node b l r ihl ihr =>
    unfold link at h
    split at h
    · obtain ⟨c, hc, heq⟩ := ihl (Option.map_eq_none_iff.mp h)
      exact ⟨c, List.mem_append_left _ hc, heq⟩
    · next hle =>
      split at h
      · obtain ⟨c, hc, heq⟩ := ihr (Option.map_eq_none_iff.mp h)
        exact ⟨c, List.mem_append_right _ (List.mem_cons_of_mem _ hc), heq⟩
      · next hle' => exact ⟨b, List.mem_append_right _ List.mem_cons_self, le_antisymm (not_lt.mp hle) (not_lt.mp hle')⟩

/-- The search finds the greatest key up to the bound, if there is one. -/
theorem floor_cases (hsorted : Sorted key t) (best : Option α) :
    (∃ a ∈ inorder t, floor key x t best = some a ∧ key a ≤ x ∧ ∀ b ∈ inorder t, key b ≤ x → key b ≤ key a) ∨
      floor key x t best = best ∧ ∀ b ∈ inorder t, x < key b := by
  induction t generalizing best with
  | nil => exact .inr ⟨rfl, fun b hb => absurd hb List.not_mem_nil⟩
  | node c l r ihl ihr =>
    obtain ⟨hl, hr, hlc, hcr⟩ := sorted_node_iff.mp hsorted
    have hc : c ∈ inorder (.node c l r) := List.mem_append_right _ List.mem_cons_self
    unfold floor
    split
    · next hle =>
      split
      · next heq => exact .inl ⟨c, hc, rfl, hle, fun b _ hb => heq ▸ hb⟩
      · rcases ihr hr (some c) with ⟨a, ha, hfloor, hax, hmax⟩ | ⟨hfloor, hbig⟩
        · refine .inl ⟨a, List.mem_append_right _ (List.mem_cons_of_mem _ ha), hfloor, hax, fun b hb hbx => ?_⟩
          rcases List.mem_append.mp hb with hb | hb
          · exact ((hlc b hb).trans (hcr a ha)).le
          rcases List.mem_cons.mp hb with rfl | hb
          · exact (hcr a ha).le
          · exact hmax b hb hbx
        · refine .inl ⟨c, hc, hfloor, hle, fun b hb hbx => ?_⟩
          rcases List.mem_append.mp hb with hb | hb
          · exact (hlc b hb).le
          rcases List.mem_cons.mp hb with rfl | hb
          · exact le_refl _
          · exact absurd hbx (not_le.mpr (hbig b hb))
    · next hlt =>
      rcases ihl hl best with ⟨a, ha, hfloor, hax, hmax⟩ | ⟨hfloor, hbig⟩
      · refine .inl ⟨a, List.mem_append_left _ ha, hfloor, hax, fun b hb hbx => ?_⟩
        rcases List.mem_append.mp hb with hb | hb
        · exact hmax b hb hbx
        rcases List.mem_cons.mp hb with rfl | hb
        · exact absurd hbx hlt
        · exact absurd ((hcr b hb).le.trans hbx) hlt
      · refine .inr ⟨hfloor, fun b hb => ?_⟩
        rcases List.mem_append.mp hb with hb | hb
        · exact hbig b hb
        rcases List.mem_cons.mp hb with rfl | hb
        · exact not_le.mp hlt
        · exact (not_le.mp hlt).trans (hcr b hb)

end Vmwgfx.Lib.SearchTree
