import Vmwgfx.Lib.Layout

/-! Blocks one behind the other, from one address to another. -/

namespace Vmwgfx.Lib

/-- The blocks fill the addresses from `lo` to `hi`, in order. -/
def Tiles : Nat → List Block → Nat → Prop
  | lo, [], hi => lo = hi
  | lo, b :: bs, hi => b.start = lo ∧ Tiles (lo + b.len) bs hi

namespace Tiles

variable {lo hi : Nat} {b : Block} {bs cs : List Block}

theorem append_iff : Tiles lo (bs ++ cs) hi ↔ ∃ mid, Tiles lo bs mid ∧ Tiles mid cs hi := by
  induction bs generalizing lo with
  | nil =>
    constructor
    · exact fun h => ⟨lo, rfl, h⟩
    · rintro ⟨mid, rfl, h⟩
      exact h
  | cons b bs ih =>
    simp only [List.cons_append, Tiles, ih]
    constructor
    · rintro ⟨hb, mid, h, h'⟩
      exact ⟨mid, ⟨hb, h⟩, h'⟩
    · rintro ⟨mid, ⟨hb, h⟩, h'⟩
      exact ⟨hb, mid, h, h'⟩

theorem middle_iff : Tiles lo (bs ++ b :: cs) hi ↔ Tiles lo bs b.start ∧ Tiles (b.start + b.len) cs hi := by
  rw [append_iff]
  constructor
  · rintro ⟨mid, h, rfl, h'⟩
    exact ⟨h, h'⟩
  · exact fun ⟨h, h'⟩ => ⟨_, h, rfl, h'⟩

theorem le (h : Tiles lo bs hi) : lo ≤ hi := by
  induction bs generalizing lo with
  | nil => exact Nat.le_of_eq h
  | cons b bs ih => exact (Nat.le_add_right _ _).trans (ih h.2)

theorem bounds (h : Tiles lo bs hi) (hb : b ∈ bs) : lo ≤ b.start ∧ b.start + b.len ≤ hi := by
  obtain ⟨pre, post, rfl⟩ := List.append_of_mem hb
  obtain ⟨mid, hpre, rfl, hpost⟩ := append_iff.mp h
  exact ⟨hpre.le, hpost.le⟩

/-- Every address is in a block. -/
theorem cover (h : Tiles lo bs hi) {x : Nat} (hlo : lo ≤ x) (hhi : x < hi) : ∃ b ∈ bs, b.Has x := by
  induction bs generalizing lo with
  | nil => exact absurd hhi (Nat.not_lt.mpr (h ▸ hlo))
  | cons b bs ih =>
    obtain ⟨hstart, hbs⟩ := h
    by_cases hx : x < lo + b.len
    · exact ⟨b, List.mem_cons_self, hstart ▸ hlo, hstart ▸ hx⟩
    · obtain ⟨c, hc, hhas⟩ := ih hbs (Nat.not_lt.mp hx)
      exact ⟨c, List.mem_cons_of_mem _ hc, hhas⟩

theorem apart (h : Tiles lo bs hi) : bs.Pairwise Block.Apart := by
  induction bs generalizing lo with
  | nil => exact .nil
  | cons b bs ih =>
    refine .cons (fun c hc => Block.apart_of_le ?_) (ih h.2)
    rw [h.1]
    exact (h.2.bounds hc).1

end Tiles

end Vmwgfx.Lib
