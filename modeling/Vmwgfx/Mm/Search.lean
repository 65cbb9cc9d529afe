import Vmwgfx.Mm.Blocks

/-! Which free node a search finds, and where in it the block is. -/

namespace Vmwgfx.Mm

open Vmwgfx.Lib Vmwgfx.Lib.Allocator

section Align

variable {start alignment x : Nat}

theorem alignGap_zero (start : Nat) : alignGap start 0 = 0 := rfl

theorem dvd_add_alignGap (h : alignment ≠ 0) : alignment ∣ start + alignGap start alignment := by
  have hdiv := Nat.div_add_mod start alignment
  have hlt := Nat.mod_lt start (Nat.pos_of_ne_zero h)
  unfold alignGap
  split
  · refine ⟨start / alignment + 1, ?_⟩
    rw [Nat.mul_add]
    omega
  · next hzero =>
    rw [not_and_not_right] at hzero
    exact Nat.dvd_of_mod_eq_zero (hzero h)

/-- It is the first address from there on. -/
theorem add_alignGap_le (h : alignment ≠ 0 → alignment ∣ x) (hx : start ≤ x) : start + alignGap start alignment ≤ x := by
  unfold alignGap
  split
  · next hgap =>
    obtain ⟨q, rfl⟩ := h hgap.1
    have hdiv := Nat.div_add_mod start alignment
    have hlt := Nat.mod_lt start (Nat.pos_of_ne_zero hgap.1)
    have hq : start / alignment < q := by
      rw [Nat.div_lt_iff_lt_mul (Nat.pos_of_ne_zero hgap.1), Nat.mul_comm]
      refine Nat.lt_of_le_of_ne hx fun heq => hgap.2 ?_
      rw [heq, Nat.mul_mod_right]
    have hle : alignment * (start / alignment + 1) ≤ alignment * q := Nat.mul_le_mul_left _ hq
    rw [Nat.mul_add] at hle
    omega
  · exact hx

theorem alignGap_le (start alignment : Nat) : alignGap start alignment ≤ alignment := by
  unfold alignGap
  split
  · exact Nat.sub_le _ _
  · exact Nat.zero_le _

end Align

/-- What the callers' types promise of a request. -/
structure Sane (r : Request) : Prop where
  pos : 0 < r.size
  size : r.size ≤ 2 ^ 52
  alignment : r.alignment < 2 ^ 32

section Hole

variable {s e : Nat} {r : Request}

theorem checkFreeHole_iff (hr : Sane r) (hs : s ≤ 2 ^ 32) (he : e ≤ 2 ^ 32) :
    checkFreeHole s e r.size r.alignment = true ↔ s + alignGap s r.alignment + r.size ≤ e := by
  have hgap := alignGap_le s r.alignment
  obtain ⟨hpos, hsize, halign⟩ := hr
  unfold checkFreeHole add64 sub64
  rw [Nat.mod_eq_of_lt (show s + r.size < 2 ^ 64 by omega),
    Nat.mod_eq_of_lt (show s + r.size + alignGap s r.alignment < 2 ^ 64 by omega)]
  split
  · next hlt =>
    refine iff_of_false Bool.false_ne_true fun hle => ?_
    omega
  · rw [decide_eq_true_iff]
    omega

end Hole

section Gaps

variable {lo hi : Nat} {v pre post : List Entry} {e : Entry} {b g : Block} {freeStack : List NodeId}

/-- The blocks that are handed out, by their nodes. -/
def owned (v : List Entry) : Set (NodeId × Block) := {x | x ∈ out v}

theorem mem_out_of_used (he : e ∈ v) (hused : e.2.free = false) : (e.1, e.2.block) ∈ out v := by
  unfold out
  exact List.mem_map_of_mem (f := fun e : Entry => (e.1, e.2.block)) (List.mem_filter.mpr ⟨he, by rw [hused]; rfl⟩)

theorem exists_of_mem_out {x : NodeId × Block} (hx : x ∈ out v) : ∃ e ∈ v, e.2.free = false ∧ x = (e.1, e.2.block) := by
  obtain ⟨e, he, rfl⟩ := List.mem_map.mp hx
  obtain ⟨he, hused⟩ := List.mem_filter.mp he
  exact ⟨e, he, by simpa using hused, rfl⟩

/-- The node behind a free one is used, and has an address. -/
theorem Sound.has_behind (h : Sound lo hi (pre ++ e :: post) freeStack) (hfree : e.2.free = true)
    (hlt : e.2.start + e.2.size < hi) : ∃ x ∈ out post, x.2.Has (e.2.start + e.2.size) := by
  obtain ⟨-, hpost⟩ := tiles_middle_iff.mp h.tiles
  cases post with
  | nil => exact absurd hpost (Nat.ne_of_lt hlt)
  | cons y post =>
    obtain ⟨-, -, -, hhead⟩ := isChain_middle_iff.mp h.maximal
    have hused := (hhead y rfl).used_right hfree
    have hlo : lo < hi := Nat.lt_of_le_of_lt ((tiles_middle_iff.mp h.tiles).1.le.trans (Nat.le_add_right _ _)) hlt
    have hpos := (List.forall_mem_cons.mp (pos_middle_iff.mp (h.pos hlo)).2.2).1
    have hstart : y.2.start = e.2.start + e.2.size := hpost.1
    refine ⟨_, mem_out_of_used List.mem_cons_self hused, ?_⟩
    exact ⟨Nat.le_of_eq hstart, by show _ < y.2.start + y.2.size; omega⟩

/-- Unused addresses are all in one free node. -/
theorem Sound.within_of_unused (h : Sound lo hi v freeStack) (hb : Unused lo hi (owned v) b) (hpos : 0 < b.len) :
    ∃ pre e post, v = pre ++ e :: post ∧ e.2.free = true ∧ Within b e.2.block := by
  obtain ⟨hlo, hhi, hapart⟩ := hb
  obtain ⟨c, hc, hhas⟩ := h.tiles.cover hlo (by omega)
  obtain ⟨e, he, rfl⟩ := List.mem_map.mp hc
  have hfree : e.2.free = true := by
    by_contra hused
    exact hapart _ (mem_out_of_used he (Bool.eq_false_iff.mpr hused)) b.start ⟨⟨Nat.le_refl _, by omega⟩, hhas⟩
  obtain ⟨pre, post, rfl⟩ := List.append_of_mem he
  refine ⟨pre, e, post, rfl, hfree, hhas.1, ?_⟩
  by_contra hle
  have hlt : e.2.start + e.2.size < b.start + b.len := Nat.not_le.mp hle
  obtain ⟨x, hx, hhas'⟩ := h.has_behind hfree (Nat.lt_of_lt_of_le hlt hhi)
  refine hapart x ?_ _ ⟨⟨Nat.le_of_lt hhas.2, hlt⟩, hhas'⟩
  show x ∈ out (pre ++ e :: post)
  rw [out_append, out_cons_free hfree]
  exact List.mem_append_right _ hx

/-- A free node is a gap. -/
theorem Sound.gap (h : Sound lo hi (pre ++ e :: post) freeStack) (hfree : e.2.free = true) (hpos : 0 < e.2.size) :
    Gap lo hi (owned (pre ++ e :: post)) e.2.block := by
  obtain ⟨hpre, hpost⟩ := tiles_middle_iff.mp h.tiles
  obtain ⟨-, -, hlast, hhead⟩ := isChain_middle_iff.mp h.maximal
  refine ⟨⟨hpre.le, hpost.le, fun x hx => ?_⟩, hpos, ?_, ?_⟩
  · have hx : x ∈ out (pre ++ e :: post) := hx
    rw [out_append, out_cons_free hfree] at hx
    rcases List.mem_append.mp hx with hx | hx
    · obtain ⟨y, hy, -, rfl⟩ := exists_of_mem_out hx
      have hle := (hpre.bounds (List.mem_map_of_mem hy)).2
      exact fun a ha => Block.apart_of_le (c := e.2.block) hle a ⟨ha.2, ha.1⟩
    · obtain ⟨y, hy, -, rfl⟩ := exists_of_mem_out hx
      exact Block.apart_of_le (hpost.bounds (List.mem_map_of_mem hy)).1
  · rcases List.eq_nil_or_concat pre with rfl | ⟨rest, y, rfl⟩
    · exact .inl hpre.symm
    · rw [List.concat_eq_append] at hlast hpre ⊢
      have hused := (hlast y List.getLast?_concat).used_left hfree
      obtain ⟨-, hend⟩ := tiles_middle_iff.mp hpre
      exact .inr ⟨_, mem_out_of_used (List.mem_append_left _ (List.mem_append_right _ List.mem_cons_self)) hused, hend⟩
  · cases post with
    | nil => exact .inl hpost
    | cons y post =>
      have hused := (hhead y rfl).used_right hfree
      refine .inr ⟨_, mem_out_of_used ?_ hused, hpost.1⟩
      exact List.mem_append_right _ (List.mem_cons_of_mem _ List.mem_cons_self)

/-- A gap is a free node. -/
theorem Sound.exists_of_gap (h : Sound lo hi v freeStack) (hg : Gap lo hi (owned v) g) :
    ∃ pre e post, v = pre ++ e :: post ∧ e.2.free = true ∧ e.2.block = g := by
  obtain ⟨pre, e, post, rfl, hfree, hstart, hend⟩ := h.within_of_unused hg.unused hg.pos
  refine ⟨pre, e, post, rfl, hfree, ?_⟩
  have hpos := hg.pos
  have hend : g.start + g.len ≤ e.2.start + e.2.size := hend
  have hstart : e.2.start ≤ g.start := hstart
  have hgap := h.gap hfree (by omega)
  have hrange : lo < hi := by
    have := hg.unused.1
    have := hg.unused.2.1
    omega
  -- a used block next to `g` would be in the node
  have hleft : e.2.start = g.start := by
    refine Nat.le_antisymm hstart (Nat.not_lt.mp fun hlt => ?_)
    rcases hg.left with hlo | ⟨x, hx, hx'⟩
    · exact absurd hgap.unused.1 (Nat.not_le.mpr (hlo ▸ hlt))
    · obtain ⟨y, hy, hused, rfl⟩ := exists_of_mem_out hx
      have hlen := h.pos hrange y hy
      have hx' : y.2.start + y.2.size = g.start := hx'
      refine hgap.unused.2.2 _ hx (g.start - 1) ⟨⟨?_, ?_⟩, ?_, ?_⟩ <;> simp only [DrmMmNode.block] <;> omega
  have hright : e.2.start + e.2.size = g.start + g.len := by
    refine Nat.le_antisymm (Nat.not_lt.mp fun hlt => ?_) hend
    rcases hg.right with hhi | ⟨x, hx, hx'⟩
    · exact absurd hgap.unused.2.1 (Nat.not_le.mpr (hhi ▸ hlt))
    · obtain ⟨y, hy, hused, rfl⟩ := exists_of_mem_out hx
      have hlen := h.pos hrange y hy
      have hx' : y.2.start = g.start + g.len := hx'
      refine hgap.unused.2.2 _ hx (g.start + g.len) ⟨⟨?_, ?_⟩, ?_, ?_⟩ <;> simp only [DrmMmNode.block] <;> omega
  cases g
  simp only [DrmMmNode.block, Block.mk.injEq]
  dsimp only at hleft hright
  omega

end Gaps

section Carve

variable {r : Request} {d : DrmMmNode} {c : Block}

/-- The first block of the node that fits, if there is one. -/
def carve (r : Request) (d : DrmMmNode) : Block where
  start := max r.start d.start + alignGap (max r.start d.start) r.alignment
  len := r.size

theorem rangeHole_eq (hd : d.start + d.size ≤ 2 ^ 32) :
    rangeHole r.start r.stop d = (max r.start d.start, min r.stop (d.start + d.size)) := by
  unfold rangeHole
  rw [add64_of_lt (by omega)]
  refine Prod.ext ?_ ?_
  · dsimp only
    split <;> omega
  · dsimp only
    split <;> omega

theorem rangeHole_iff (hr : Sane r) (hstart : r.start ≤ 2 ^ 32) (hd : d.start + d.size ≤ 2 ^ 32) :
    checkFreeHole (rangeHole r.start r.stop d).1 (rangeHole r.start r.stop d).2 r.size r.alignment = true ↔
      (carve r d).start + r.size ≤ min r.stop (d.start + d.size) := by
  rw [rangeHole_eq hd, checkFreeHole_iff hr (by omega) (by omega)]
  rfl

theorem carve_fits (h : (carve r d).start + r.size ≤ min r.stop (d.start + d.size)) :
    r.Fits (carve r d) ∧ Within (carve r d) d.block := by
  have hstart : max r.start d.start ≤ (carve r d).start := Nat.le_add_right _ _
  refine ⟨⟨rfl, fun hal => dvd_add_alignGap hal, ?_, ?_⟩, ?_, ?_⟩
  · omega
  · exact h.trans (Nat.min_le_left _ _)
  · show d.start ≤ _
    omega
  · exact h.trans (Nat.min_le_right _ _)

theorem carve_le (hfits : r.Fits c) (hin : Within c d.block) : (carve r d).start ≤ c.start :=
  add_alignGap_le hfits.2.1 (Nat.max_le.mpr ⟨hfits.2.2.1, hin.1⟩)

theorem hole_of_fits (hfits : r.Fits c) (hin : Within c d.block) :
    (carve r d).start + r.size ≤ min r.stop (d.start + d.size) := by
  have hle := carve_le hfits hin
  obtain ⟨hlen, -, -, hstop⟩ := hfits
  have hend : c.start + c.len ≤ d.start + d.size := hin.2
  omega

end Carve

section Loop

variable (mm : DrmMm) (hole : DrmMmNode → Nat × Nat) (size alignment : Nat)

/-- The node has room for what is asked for. -/
abbrev Holds (n : NodeId) : Prop :=
  checkFreeHole (hole (mm.node n)).1 (hole (mm.node n)).2 size alignment = true

/-- The best match is the smallest node with room, if it is smaller than what the loop starts from. -/
theorem searchFree_best (l : List NodeId) (best : Option NodeId) (bestSize : Nat) :
    (mm.searchFree hole size alignment true l best bestSize = best ∧
      ∀ m ∈ l, Holds mm hole size alignment m → bestSize ≤ (mm.node m).size) ∨
    ∃ n ∈ l, mm.searchFree hole size alignment true l best bestSize = some n ∧ Holds mm hole size alignment n ∧
      (mm.node n).size < bestSize ∧ ∀ m ∈ l, Holds mm hole size alignment m → (mm.node n).size ≤ (mm.node m).size := by
  induction l generalizing best bestSize with
  | nil => exact .inl ⟨rfl, fun m hm => absurd hm List.not_mem_nil⟩
  | cons entry rest ih =>
    unfold DrmMm.searchFree
    split
    · next hnot =>
      rcases ih best bestSize with ⟨heq, hle⟩ | ⟨n, hn, heq, hholds, hlt, hle⟩
      · exact .inl ⟨heq, List.forall_mem_cons.mpr ⟨fun h => absurd h hnot, hle⟩⟩
      · exact .inr ⟨n, List.mem_cons_of_mem _ hn, heq, hholds, hlt,
          List.forall_mem_cons.mpr ⟨fun h => absurd h hnot, hle⟩⟩
    · next hentry =>
      rw [Classical.not_not] at hentry
      rw [if_neg (not_not_intro rfl)]
      split
      · next hsmaller =>
        rcases ih (some entry) (mm.node entry).size with ⟨heq, hle⟩ | ⟨n, hn, heq, hholds, hlt, hle⟩
        · exact .inr ⟨entry, List.mem_cons_self, heq, hentry, hsmaller,
            List.forall_mem_cons.mpr ⟨fun _ => Nat.le_refl _, hle⟩⟩
        · exact .inr ⟨n, List.mem_cons_of_mem _ hn, heq, hholds, hlt.trans hsmaller,
            List.forall_mem_cons.mpr ⟨fun _ => Nat.le_of_lt hlt, hle⟩⟩
      · next hlarger =>
        have hlarger := Nat.not_lt.mp hlarger
        rcases ih best bestSize with ⟨heq, hle⟩ | ⟨n, hn, heq, hholds, hlt, hle⟩
        · exact .inl ⟨heq, List.forall_mem_cons.mpr ⟨fun _ => hlarger, hle⟩⟩
        · exact .inr ⟨n, List.mem_cons_of_mem _ hn, heq, hholds, hlt,
            List.forall_mem_cons.mpr ⟨fun _ => Nat.le_of_lt (Nat.lt_of_lt_of_le hlt hlarger), hle⟩⟩

/-- The first match is on the stack and has room. -/
theorem searchFree_first (l : List NodeId) (bestSize : Nat) :
    (mm.searchFree hole size alignment false l none bestSize = none ∧ ∀ m ∈ l, ¬ Holds mm hole size alignment m) ∨
    ∃ n ∈ l, mm.searchFree hole size alignment false l none bestSize = some n ∧ Holds mm hole size alignment n := by
  induction l with
  | nil => exact .inl ⟨rfl, fun m hm => absurd hm List.not_mem_nil⟩
  | cons entry rest ih =>
    unfold DrmMm.searchFree
    split
    · next hnot =>
      rcases ih with ⟨heq, hle⟩ | ⟨n, hn, heq, hholds⟩
      · exact .inl ⟨heq, List.forall_mem_cons.mpr ⟨hnot, hle⟩⟩
      · exact .inr ⟨n, List.mem_cons_of_mem _ hn, heq, hholds⟩
    · next hentry =>
      rw [Classical.not_not] at hentry
      exact .inr ⟨entry, List.mem_cons_self, if_pos Bool.false_ne_true, hentry⟩

end Loop

section Found

variable {lo hi : Nat} {mm : DrmMm} {v : List Entry} {r : Request}

theorem Inv.mem_freeStack (h : Inv lo hi mm v) {n : NodeId} (hn : n ∈ mm.freeStack) :
    ∃ pre d post, v = pre ++ (n, d) :: post ∧ d.free = true ∧ mm.node n = d := by
  obtain ⟨e, he, rfl⟩ := List.mem_map.mp (h.stack.mem_iff.mp hn)
  obtain ⟨he, hfree⟩ := List.mem_filter.mp he
  obtain ⟨pre, post, rfl⟩ := List.append_of_mem he
  exact ⟨pre, e.2, post, rfl, hfree, h.node e he⟩

theorem Inv.mem_of_free {pre post : List Entry} {e : Entry} (h : Inv lo hi mm (pre ++ e :: post)) (hfree : e.2.free = true) :
    e.1 ∈ mm.freeStack := by
  refine h.stack.mem_iff.mpr ?_
  rw [frees_append, frees_cons_free hfree]
  exact List.mem_append_right _ List.mem_cons_self

/-- A node on the stack has room, if it has a block that fits. -/
theorem Inv.holds_iff (h : Inv lo hi mm v) (hr : Sane r) (hstart : r.start ≤ 2 ^ 32) {n : NodeId}
    (hn : n ∈ mm.freeStack) :
    Holds mm (rangeHole r.start r.stop) r.size r.alignment n ↔
      (carve r (mm.node n)).start + r.size ≤ min r.stop ((mm.node n).start + (mm.node n).size) := by
  obtain ⟨pre, d, post, rfl, -, rfl⟩ := h.mem_freeStack hn
  obtain ⟨-, hpost⟩ := tiles_middle_iff.mp h.tiles
  exact rangeHole_iff hr hstart (hpost.le.trans h.bound)

/-- Without a node that has room, no block of unused addresses fits. -/
theorem Inv.no_room (h : Inv lo hi mm v) (hr : Sane r) (hstart : r.start ≤ 2 ^ 32)
    (hnone : ∀ n ∈ mm.freeStack, ¬ Holds mm (rangeHole r.start r.stop) r.size r.alignment n) {b : Block}
    (hb : Unused lo hi (owned v) b) : ¬ r.Fits b := by
  intro hfits
  obtain ⟨pre, e, post, rfl, hfree, hin⟩ := h.within_of_unused hb (hfits.1 ▸ hr.pos)
  have hmem := h.mem_of_free hfree
  refine hnone _ hmem ((h.holds_iff hr hstart hmem).mpr ?_)
  rw [h.node e (List.mem_append_right _ List.mem_cons_self)]
  exact hole_of_fits hfits hin

end Found

end Vmwgfx.Mm
