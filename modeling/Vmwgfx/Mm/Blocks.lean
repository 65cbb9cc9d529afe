import Vmwgfx.Mm.Tiling

/-! What handing out a block and taking it back do to the list of nodes. -/

namespace Vmwgfx.Mm

open Vmwgfx.Lib

/-- The manager of a range, with its nodes. -/
structure Inv (lo hi : Nat) (mm : DrmMm) (v : List Entry) : Prop extends Represents mm v, Sound lo hi v mm.freeStack where
  bound : hi ≤ 2 ^ 32

theorem add64_of_lt {a b : Nat} (h : a + b < 2 ^ 64) : add64 a b = a + b := Nat.mod_eq_of_lt h

section Put

variable {lo hi : Nat} {mm mm₁ mm₂ : DrmMm} {merged : Bool} {v pre post : List Entry} {cur n p : NodeId} {d dn dp : DrmMmNode}

theorem Represents.grow (h : Represents mm (pre ++ (p, d) :: post)) (size : Nat) (hsize : d.size + size < 2 ^ 64) :
    Represents (mm.grow p size) (pre ++ (p, { d with size := d.size + size }) :: post) := by
  have hset := h.set { d with size := d.size + size }
  unfold DrmMm.grow
  rw [h.node_eq, add64_of_lt hsize]
  exact hset

theorem Represents.set_behind {x : Entry} (h : Represents mm (pre ++ x :: (n, dn) :: post)) (d' : DrmMmNode) :
    Represents (mm.setNode n d') (pre ++ x :: (n, d') :: post) := by
  rw [List.append_cons] at h ⊢
  exact h.set d'

/-- A node leaves the list for good. -/
theorem Represents.drop (h : Represents mm (pre ++ (p, d) :: post)) :
    Represents (({ mm with nodeList := mm.nodeList.erase p } : DrmMm).toUnused p) (pre ++ post) := by
  obtain ⟨herase, hnot⟩ := h.erase
  exact herase.toUnused hnot

@[simp] theorem toUnused_freeStack (mm : DrmMm) (n : NodeId) : (mm.toUnused n).freeStack = mm.freeStack := by
  unfold DrmMm.toUnused
  split <;> rfl

theorem Represents.prevOf_eq (h : Represents mm (pre ++ (cur, d) :: post)) :
    prevOf cur mm.nodeList = pre.getLast?.map Prod.fst := by
  rw [h.list_eq, prevOf_append h.not_mem_pre h.not_mem_post, List.getLast?_map]

theorem Represents.nextOf_eq (h : Represents mm (pre ++ (cur, d) :: post)) :
    nextOf cur mm.nodeList = post.head?.map Prod.fst := by
  rw [h.list_eq, nextOf_append h.not_mem_pre, List.head?_map]

theorem mergePrev_used (h : Represents mm (pre ++ (cur, d) :: post)) (hpre : ∀ x ∈ pre.getLast?, x.2.free = false) :
    mm.mergePrev cur (pre.getLast?.map Prod.fst) = (mm, false) := by
  cases hlast : pre.getLast? with
  | none => rfl
  | some x =>
    have hnode := h.node x (List.mem_append_left _ (List.mem_of_getLast? hlast))
    exact if_neg (by rw [hnode, hpre x hlast]; exact Bool.false_ne_true)

theorem mergeNext_used (h : Represents mm (pre ++ (cur, d) :: post)) (hpost : ∀ y ∈ post.head?, y.2.free = false)
    (prev : Option NodeId) (merged : Bool) :
    mm.mergeNext cur prev merged (post.head?.map Prod.fst) = (mm, merged) := by
  cases hhead : post.head? with
  | none => rfl
  | some y =>
    have hnode := h.node y (List.mem_append_right _ (List.mem_cons_of_mem _ (List.mem_of_head? hhead)))
    exact if_neg (by rw [hnode, hpost y hhead]; exact Bool.false_ne_true)

theorem mergePrev_free (h : Represents mm (pre ++ (p, dp) :: (cur, d) :: post)) (hfree : dp.free = true) :
    mm.mergePrev cur (some p) = (mm.grow p d.size, true) := by
  have hcur : mm.node cur = d := h.node _ (List.mem_append_right _ (List.mem_cons_of_mem _ List.mem_cons_self))
  have hp : (mm.node p).free = true := h.node_eq ▸ hfree
  exact (if_pos hp).trans (by rw [hcur])

theorem mergeNext_free (h : Represents mm (pre ++ (cur, d) :: (n, dn) :: post)) (hfree : dn.free = true)
    (prev : Option NodeId) :
    mm.mergeNext cur prev false (some n) =
      (mm.setNode n { dn with size := add64 dn.size d.size, start := d.start }, true) := by
  have hn : mm.node n = dn := h.node _ (List.mem_append_right _ (List.mem_cons_of_mem _ List.mem_cons_self))
  have hfree : (mm.node n).free = true := hn ▸ hfree
  refine (if_pos hfree).trans ?_
  rw [hn, h.node_eq]
  cases prev <;> rfl

theorem mergeNext_both (h : Represents mm (pre ++ (p, dp) :: (cur, d) :: (n, dn) :: post)) (hfree : dn.free = true) :
    mm.mergeNext cur (some p) true (some n) =
      (({ mm.grow p dn.size with nodeList := mm.nodeList.erase n, freeStack := mm.freeStack.erase n } : DrmMm).toUnused n,
        true) := by
  have hn : mm.node n = dn :=
    h.node _ (List.mem_append_right _ (List.mem_cons_of_mem _ (List.mem_cons_of_mem _ List.mem_cons_self)))
  have hfree : (mm.node n).free = true := hn ▸ hfree
  exact (if_pos hfree).trans (by rw [hn]; rfl)

theorem drmMmPutBlock_of_not_merged (hprev : mm.mergePrev cur (prevOf cur mm.nodeList) = (mm₁, merged))
    (hnext : mm₁.mergeNext cur (prevOf cur mm.nodeList) merged (nextOf cur mm.nodeList) = (mm₂, false)) :
    mm.drmMmPutBlock cur =
      { mm₂.setNode cur { mm₂.node cur with free := true } with freeStack := cur :: mm₂.freeStack } := by
  simp only [DrmMm.drmMmPutBlock, hprev, hnext]

theorem drmMmPutBlock_of_merged (hprev : mm.mergePrev cur (prevOf cur mm.nodeList) = (mm₁, merged))
    (hnext : mm₁.mergeNext cur (prevOf cur mm.nodeList) merged (nextOf cur mm.nodeList) = (mm₂, true)) :
    mm.drmMmPutBlock cur = ({ mm₂ with nodeList := mm₂.nodeList.erase cur } : DrmMm).toUnused cur := by
  simp only [DrmMm.drmMmPutBlock, hprev, hnext]

/-- A block between used ones becomes a free node. -/
theorem put_alone (h : Inv lo hi mm (pre ++ (cur, d) :: post)) (hused : d.free = false)
    (hpre : ∀ x ∈ pre.getLast?, x.2.free = false) (hpost : ∀ y ∈ post.head?, y.2.free = false) :
    Inv lo hi (mm.drmMmPutBlock cur) (pre ++ (cur, { d with free := true }) :: post) := by
  have hprev := mergePrev_used h.toRepresents hpre
  have hnext := mergeNext_used h.toRepresents hpost (pre.getLast?.map Prod.fst) false
  rw [← h.prevOf_eq] at hprev hnext
  rw [← h.nextOf_eq] at hnext
  rw [drmMmPutBlock_of_not_merged hprev hnext, h.node_eq]
  exact ⟨(h.toRepresents.set _).withStack _, h.toSound.release hused hpre hpost, h.bound⟩

/-- A block behind a used node becomes the front of the free one behind it. -/
theorem put_next (h : Inv lo hi mm (pre ++ (cur, d) :: (n, dn) :: post)) (hused : d.free = false)
    (hpre : ∀ x ∈ pre.getLast?, x.2.free = false) (hfree : dn.free = true) :
    Inv lo hi (mm.drmMmPutBlock cur) (pre ++ (n, { dn with start := d.start, size := dn.size + d.size }) :: post) := by
  have hprev := mergePrev_used h.toRepresents hpre
  have hnext := mergeNext_free h.toRepresents hfree (pre.getLast?.map Prod.fst)
  have hn : nextOf cur mm.nodeList = some n := h.nextOf_eq
  rw [← h.prevOf_eq] at hprev hnext
  rw [← hn] at hnext
  obtain ⟨-, hcur, hpost⟩ := tiles_middle_iff.mp h.tiles
  have hle : d.start + d.size + dn.size ≤ hi := hpost.le
  rw [drmMmPutBlock_of_merged hprev hnext, add64_of_lt (by have := h.bound; omega)]
  refine ⟨(h.toRepresents.set_behind _).drop, ?_, h.bound⟩
  rw [toUnused_freeStack]
  exact h.toSound.mergeNext hused fun _ => hpre

/-- A block in front of a used node becomes the end of the free one in front of it. -/
theorem put_prev (h : Inv lo hi mm (pre ++ (p, dp) :: (cur, d) :: post)) (hused : d.free = false)
    (hfree : dp.free = true) (hpost : ∀ y ∈ post.head?, y.2.free = false) :
    Inv lo hi (mm.drmMmPutBlock cur) (pre ++ (p, { dp with size := dp.size + d.size }) :: post) := by
  have hprev := mergePrev_free h.toRepresents hfree
  obtain ⟨-, hcur, hrest⟩ := tiles_middle_iff.mp h.tiles
  have hle : dp.start + dp.size + d.size ≤ hi := hrest.le
  have hgrow := h.toRepresents.grow d.size (by have := h.bound; omega)
  have hmiddle := h.toRepresents
  rw [List.append_cons] at hgrow hmiddle
  have hp : prevOf cur mm.nodeList = some p := by
    rw [hmiddle.prevOf_eq, List.getLast?_append, List.getLast?_singleton]
    rfl
  have hnext := mergeNext_used hgrow hpost (some p) true
  rw [← hp] at hprev hnext
  rw [← hmiddle.nextOf_eq] at hnext
  rw [drmMmPutBlock_of_merged hprev hnext]
  have hdrop := hgrow.drop
  rw [← List.append_cons] at hdrop
  refine ⟨hdrop, ?_, h.bound⟩
  rw [toUnused_freeStack]
  exact h.toSound.mergePrev hused fun _ => hpost

/-- A block between free nodes, and the one behind it, become the end of the one in front. -/
theorem put_both (h : Inv lo hi mm (pre ++ (p, dp) :: (cur, d) :: (n, dn) :: post)) (hused : d.free = false)
    (hfree : dp.free = true) (hfree' : dn.free = true) :
    Inv lo hi (mm.drmMmPutBlock cur) (pre ++ (p, { dp with size := dp.size + d.size + dn.size }) :: post) := by
  have hprev := mergePrev_free h.toRepresents hfree
  obtain ⟨-, hcur, hn, hrest⟩ := tiles_middle_iff.mp h.tiles
  have hle : dp.start + dp.size + d.size + dn.size ≤ hi := hrest.le
  have hbound := h.bound
  have hgrow := h.toRepresents.grow d.size (by omega)
  have hnode : (mm.grow p d.size).node n = dn :=
    hgrow.node _ (List.mem_append_right _ (List.mem_cons_of_mem _ (List.mem_cons_of_mem _ List.mem_cons_self)))
  have hmiddle := h.toRepresents
  rw [List.append_cons] at hmiddle
  have hp : prevOf cur mm.nodeList = some p := by
    rw [hmiddle.prevOf_eq, List.getLast?_append, List.getLast?_singleton]
    rfl
  have hnext := mergeNext_both hgrow hfree'
  rw [← hp] at hprev hnext
  have hn : nextOf cur mm.nodeList = some n := hmiddle.nextOf_eq
  rw [← hn] at hnext
  rw [drmMmPutBlock_of_merged hprev hnext]
  have hgrow := (hgrow.grow dn.size (by show dp.size + d.size + dn.size < 2 ^ 64; omega)).withStack (mm.freeStack.erase n)
  rw [List.append_cons, List.append_cons] at hgrow
  have hdrop := hgrow.drop
  rw [← List.append_cons] at hdrop
  have hdrop := hdrop.drop
  rw [← List.append_cons] at hdrop
  refine ⟨hdrop, ?_, h.bound⟩
  rw [toUnused_freeStack, toUnused_freeStack]
  exact h.toSound.mergeBoth hused hfree hfree'

theorem exists_head_free (h : ¬ ∀ y ∈ post.head?, y.2.free = false) :
    ∃ n dn rest, post = (n, dn) :: rest ∧ dn.free = true := by
  cases post with
  | nil => exact absurd (fun y hy => by cases hy) h
  | cons y rest =>
    refine ⟨y.1, y.2, rest, rfl, ?_⟩
    rw [← Bool.not_eq_false]
    refine fun hused => h fun z hz => ?_
    cases hz
    exact hused

theorem exists_last_free (h : ¬ ∀ x ∈ pre.getLast?, x.2.free = false) :
    ∃ p dp rest, pre = rest ++ [(p, dp)] ∧ dp.free = true := by
  rcases List.eq_nil_or_concat pre with rfl | ⟨rest, x, rfl⟩
  · exact absurd (fun y hy => by cases hy) h
  · rw [List.concat_eq_append] at h ⊢
    refine ⟨x.1, x.2, rest, rfl, ?_⟩
    rw [← Bool.not_eq_false]
    refine fun hused => h fun z hz => ?_
    rw [List.getLast?_concat] at hz
    cases hz
    exact hused

/-- A block that is put back is not out any more, and the others are. -/
theorem drmMmPutBlock_inv (h : Inv lo hi mm (pre ++ (cur, d) :: post)) (hused : d.free = false) :
    ∃ v, Inv lo hi (mm.drmMmPutBlock cur) v ∧ out v = out pre ++ out post := by
  by_cases hpre : ∀ x ∈ pre.getLast?, x.2.free = false
  · by_cases hpost : ∀ y ∈ post.head?, y.2.free = false
    · exact ⟨_, put_alone h hused hpre hpost, by rw [out_append, out_cons_free rfl]⟩
    · obtain ⟨n, dn, rest, rfl, hfree⟩ := exists_head_free hpost
      refine ⟨_, put_next h hused hpre hfree, ?_⟩
      rw [out_append, out_cons_free hfree, out_cons_free hfree]
  · obtain ⟨p, dp, rest, rfl, hfree⟩ := exists_last_free hpre
    rw [← List.append_cons] at h
    have hout : out (rest ++ [(p, dp)]) = out rest := by rw [out_append, out_cons_free hfree, out_nil, List.append_nil]
    by_cases hpost : ∀ y ∈ post.head?, y.2.free = false
    · refine ⟨_, put_prev h hused hfree hpost, ?_⟩
      rw [out_append, out_cons_free hfree, hout]
    · obtain ⟨n, dn, rest', rfl, hfree'⟩ := exists_head_free hpost
      refine ⟨_, put_both h hused hfree hfree', ?_⟩
      rw [out_append, out_cons_free hfree, out_cons_free hfree', hout]

end Put

section Get

variable {lo hi size wasted : Nat} {mm mm' : DrmMm} {v pre post : List Entry} {c n p : NodeId} {d : DrmMmNode}
  {kzalloc kzalloc₁ kzalloc₂ answer : Option NodeId}

theorem split_inv (h : Inv lo hi mm (pre ++ (p, d) :: post)) (hfresh : Fresh mm kzalloc)
    (hclean : kzalloc = none → Clean mm) (hpos : 0 < size) (hsize : size < d.size)
    (hsplit : mm.drmMmSplitAtStart p size kzalloc = some (c, mm')) :
    Inv lo hi mm' (pre ++ (c, ⟨false, d.start, size⟩) ::
      (p, { d with start := d.start + size, size := d.size - size }) :: post) := by
  have hgot := drmMmSplitAtStart_got h.toRepresents hfresh hclean hsplit
  obtain ⟨-, hpost⟩ := tiles_middle_iff.mp h.tiles
  have hle : d.start + d.size ≤ hi := hpost.le
  have hbound := h.bound
  have hrep := hgot.represents
  rw [sub64_of_le (Nat.le_of_lt hsize) (by omega), add64_of_lt (by omega)] at hrep
  refine ⟨hrep, ?_, h.bound⟩
  rw [hgot.stack]
  exact h.toSound.split hpos hsize

/-- Memory that was not in use is not in use after another node was taken. -/
theorem Got.fresh {d' dc : DrmMmNode} (h : Got mm mm' (pre ++ (c, dc) :: (p, d') :: post) kzalloc₁ c)
    (hrep : Represents mm (pre ++ (p, d) :: post)) (hfresh : Fresh mm kzalloc₂)
    (hne : ∀ n, kzalloc₁ = some n → kzalloc₂ ≠ some n) : Fresh mm' kzalloc₂ := by
  intro n hn hmem
  have hnot := hfresh n hn
  rw [List.mem_append, not_or] at hnot
  rcases List.mem_append.mp hmem with hmem | hmem
  · rw [h.represents.list_eq, List.mem_append, List.mem_cons, List.map_cons, ← or_assoc, or_right_comm, ← List.mem_append,
      ← hrep.list_eq] at hmem
    rcases hmem with hmem | rfl
    · exact hnot.1 hmem
    · rcases h.origin with horigin | horigin
      · exact hne n horigin hn
      · exact hnot.2 horigin
  · exact hnot.2 (h.subset hmem)

/-- What a call for a block gives: nothing changes for want of memory, or the block is out. -/
def Gives (lo hi : Nat) (pre post : List Entry) (b : Block) (answer : Option NodeId) (mm' : DrmMm) : Prop :=
  ∃ v, Inv lo hi mm' v ∧ out v = match answer with
    | none => out pre ++ out post
    | some n => out pre ++ (n, b) :: out post

theorem takeBlock_gives (h : Inv lo hi mm (pre ++ (p, d) :: post)) (hfree : d.free = true) (hfresh : Fresh mm kzalloc)
    (hclean : kzalloc = none → Clean mm) (hpos : 0 < size) (hsize : size ≤ d.size)
    (htake : mm.takeBlock p size kzalloc = (answer, mm')) :
    (answer = none ∧ mm' = mm ∧ mm.numUnused = 0) ∨
      ∃ n rest, answer = some n ∧ Inv lo hi mm' (pre ++ (n, ⟨false, d.start, size⟩) :: rest) ∧ out rest = out post := by
  unfold DrmMm.takeBlock at htake
  rw [h.node_eq] at htake
  split at htake
  · next heq =>
    cases htake
    refine .inr ⟨p, post, rfl, ?_, rfl⟩
    have hinv : Inv lo hi { mm.setNode p { d with free := false } with freeStack := mm.freeStack.erase p }
        (pre ++ (p, { d with free := false }) :: post) :=
      ⟨(h.toRepresents.set _).withStack _, h.toSound.take hfree, h.bound⟩
    rw [← heq]
    exact hinv
  · next hne =>
    split at htake
    · next hnone =>
      cases htake
      exact .inl ⟨rfl, rfl, drmMmSplitAtStart_none h.unused hnone⟩
    · next child mm₁ hsplit =>
      cases htake
      refine .inr ⟨child, _, rfl, split_inv h hfresh hclean hpos (Nat.lt_of_le_of_ne hsize (Ne.symm hne)) hsplit, ?_⟩
      rw [out_cons_free hfree]

theorem getBlock_gives (h : Inv lo hi mm (pre ++ (p, d) :: post)) (hfree : d.free = true)
    (hfresh₁ : Fresh mm kzalloc₁) (hfresh₂ : Fresh mm kzalloc₂) (hne : ∀ n, kzalloc₁ = some n → kzalloc₂ ≠ some n)
    (hclean : kzalloc₁ = none ∨ kzalloc₂ = none → Clean mm) (hpos : 0 < size) (hsize : wasted + size ≤ d.size)
    (hget : mm.getBlock p size wasted kzalloc₁ kzalloc₂ = (answer, mm')) :
    Gives lo hi pre post ⟨d.start + wasted, size⟩ answer mm' ∧ (answer = none → mm.numUnused < 2) := by
  have hout : out (pre ++ (p, d) :: post) = out pre ++ out post := by rw [out_append, out_cons_free hfree]
  unfold DrmMm.getBlock at hget
  split at hget
  · next hzero =>
    subst hzero
    rw [Nat.zero_add] at hsize
    rcases takeBlock_gives h hfree hfresh₁ (fun hn => hclean (.inl hn)) hpos hsize hget with
      ⟨rfl, rfl, hunused⟩ | ⟨n, rest, rfl, hinv, hrest⟩
    · exact ⟨⟨_, h, hout⟩, fun _ => hunused ▸ Nat.zero_lt_two⟩
    · refine ⟨⟨_, hinv, ?_⟩, fun hnone => absurd hnone (Option.some_ne_none n)⟩
      rw [out_append, out_cons_used rfl, hrest]
      rfl
  · next hwasted =>
    split at hget
    · next hnone =>
      cases hget
      exact ⟨⟨_, h, hout⟩, fun _ => drmMmSplitAtStart_none h.unused hnone ▸ Nat.zero_lt_two⟩
    · next a mm₁ hsplit =>
      have hgot := drmMmSplitAtStart_got h.toRepresents hfresh₁ (fun hn => hclean (.inl hn)) hsplit
      have hinv := split_inv h hfresh₁ (fun hn => hclean (.inl hn)) 
        (Nat.pos_of_ne_zero hwasted) (by omega) hsplit
      have hfresh : Fresh mm₁ kzalloc₂ := hgot.fresh h.toRepresents hfresh₂ hne
      have hclean' : kzalloc₂ = none → Clean mm₁ := fun hn => hgot.clean (hclean (.inr hn))
      split at hget
      next answer₁ mm₂ htake =>
      cases hget
      rw [List.append_cons] at hinv
      rcases takeBlock_gives hinv hfree hfresh hclean' hpos (Nat.le_sub_of_add_le (Nat.add_comm _ _ ▸ hsize)) htake with
        ⟨rfl, rfl, hunused⟩ | ⟨n, rest, rfl, hinv', hrest⟩
      · rw [← List.append_cons] at hinv
        obtain ⟨v, hv, hvout⟩ := drmMmPutBlock_inv hinv rfl
        rw [out_cons_free hfree] at hvout
        have := hgot.unused_le
        exact ⟨⟨v, hv, hvout⟩, fun _ => by omega⟩
      · rw [← List.append_cons] at hinv'
        obtain ⟨v, hv, hvout⟩ := drmMmPutBlock_inv hinv' rfl
        rw [out_cons_used rfl, hrest] at hvout
        exact ⟨⟨v, hv, hvout⟩, fun hnone => absurd hnone (Option.some_ne_none n)⟩

end Get

end Vmwgfx.Mm
