import Vmwgfx.Lib.SearchTree
import Vmwgfx.Mm.Manager

/-! Where buffers are for `mmap`: the address space of `ttm_bo.c` and the search of `ttm_bo_vm.c`. -/

namespace Vmwgfx.Mm

open Vmwgfx.Lib Vmwgfx.Lib.SearchTree

abbrev BufId := Nat

/-- What the kernel's red-black trees do beside linking a leaf: they keep the order of the nodes. -/
structure RbTree where
  insertColor : BinaryTree BufId → BinaryTree BufId
  erase : BufId → BinaryTree BufId → BinaryTree BufId
  inorder_insertColor (t : BinaryTree BufId) : inorder (insertColor t) = inorder t
  inorder_erase (bo : BufId) (t : BinaryTree BufId) : inorder (erase bo t) = (inorder t).erase bo

/-- The part of `struct ttm_bo_device` that `vm_lock` protects, and `vm_node` and `num_pages` of the buffers. -/
structure AddrSpace where
  mm : DrmMm
  rb : BinaryTree BufId
  vmNode : BufId → Option NodeId
  numPages : BufId → Nat

namespace AddrSpace

variable (s : AddrSpace)

/-- `bo->vm_node->start`. -/
def start (bo : BufId) : Nat := (s.vmNode bo).elim 0 fun n => (s.mm.node n).start

/-- The buffer has a block. -/
def place (bo : BufId) (numPages : Nat) (node : NodeId) (mm : DrmMm) : AddrSpace :=
  { s with mm, vmNode := Function.update s.vmNode bo (some node), numPages := Function.update s.numPages bo numPages }

/-- What `ttm_bo_setup_vm` does under the lock: there is nothing afterwards if it is a `BUG`. It may
come back without a block for want of memory, to be tried again. -/
def ttmBoSetupVm (R : RbTree) (bo : BufId) (numPages : Nat) (kzalloc₁ kzalloc₂ : Option NodeId) : Option AddrSpace :=
  match s.mm.drmMmSearchFree numPages 0 false with
  | none => some s
  | some node =>
    match s.mm.drmMmGetBlockGeneric node numPages 0 kzalloc₁ kzalloc₂ with
    | (none, mm) => some { s with mm := mm }
    | (some node, mm) =>
      let s := s.place bo numPages node mm
      (link s.start bo s.rb).map fun rb => { s with rb := R.insertColor rb }

/-- The part of `ttm_bo_release` under the lock. -/
def ttmBoRelease (R : RbTree) (bo : BufId) : AddrSpace :=
  match s.vmNode bo with
  | none => s
  | some node =>
    { s with rb := R.erase bo s.rb, mm := s.mm.drmMmPutBlock node, vmNode := Function.update s.vmNode bo none }

def ttmBoVmLookupRb (pageStart numPages : Nat) : Option BufId :=
  match floor s.start pageStart s.rb none with
  | none => none
  | some best => if add64 (s.start best) (s.numPages best) < add64 pageStart numPages then none else some best

end AddrSpace

inductive VmAct
  | preGet (kzalloc : Option NodeId)
  | setupVm (bo : BufId) (numPages : Nat) (kzalloc₁ kzalloc₂ : Option NodeId)
  | release (bo : BufId)

def vmStep (R : RbTree) (s : AddrSpace) : VmAct → Option AddrSpace
  | .preGet kzalloc => some { s with mm := (s.mm.drmMmPreGetRound kzalloc).1 }
  | .setupVm bo numPages kzalloc₁ kzalloc₂ => s.ttmBoSetupVm R bo numPages kzalloc₁ kzalloc₂
  | .release bo => some (s.ttmBoRelease R bo)

/-- A buffer is set up once, and no node is used again with its free bit set. -/
def VmOk (s : AddrSpace) : VmAct → Prop
  | .preGet kzalloc => Fresh s.mm kzalloc
  | .setupVm bo numPages kzalloc₁ kzalloc₂ =>
    s.vmNode bo = none ∧ (0 < numPages ∧ numPages ≤ 2 ^ 52) ∧
      (Fresh s.mm kzalloc₁ ∧ Fresh s.mm kzalloc₂ ∧ ∀ n, kzalloc₁ = some n → kzalloc₂ ≠ some n) ∧
        (kzalloc₁ = none ∨ kzalloc₂ = none → Clean s.mm)
  | .release _ => True

def vmwgfxFilePageOffset : Nat := 0x00100000

/-- The address space as `ttm_bo_device_init` sets it up. -/
def ttmBoDeviceInit (kzalloc : Option NodeId) : Option AddrSpace :=
  (drmMmInit vmwgfxFilePageOffset 0x10000000 kzalloc).map fun mm =>
    { mm, rb := .nil, vmNode := fun _ => none, numPages := fun _ => 0 }

section Invariant

variable {lo hi : Nat} {s s' : AddrSpace} {v w pre post : List Entry} {bo bo' : BufId} {n : NodeId} {R : RbTree}

/-- The tree has the buffers with a block, by address, and the blocks that are out are theirs. -/
structure VmInv (lo hi : Nat) (s : AddrSpace) (v : List Entry) : Prop where
  range : lo < hi
  inv : Inv lo hi s.mm v
  sorted : Sorted s.start s.rb
  listed : ∀ bo, bo ∈ inorder s.rb ↔ (s.vmNode bo).isSome
  blocks : ∀ x, x ∈ out v ↔ ∃ bo, s.vmNode bo = some x.1 ∧ x.2 = ⟨s.start bo, s.numPages bo⟩
  inj : ∀ bo bo' n, s.vmNode bo = some n → s.vmNode bo' = some n → bo = bo'

theorem Inv.start_eq {mm : DrmMm} {x : NodeId × Block} (h : Inv lo hi mm v) (hx : x ∈ out v) :
    (mm.node x.1).start = x.2.start := by
  have hx : x ∈ mm.owned := by
    rw [h.owned_eq]
    exact hx
  exact congrArg Block.start hx.2.2

theorem Inv.out_pos {mm : DrmMm} {x : NodeId × Block} (h : Inv lo hi mm v) (hlt : lo < hi) (hx : x ∈ out v) :
    0 < x.2.len := by
  obtain ⟨e, he, -, rfl⟩ := exists_of_mem_out hx
  exact h.pos hlt e he

theorem Inv.out_bounds {mm : DrmMm} {x : NodeId × Block} (h : Inv lo hi mm v) (hx : x ∈ out v) :
    lo ≤ x.2.start ∧ x.2.start + x.2.len ≤ hi := by
  obtain ⟨e, he, -, rfl⟩ := exists_of_mem_out hx
  exact h.tiles.bounds (List.mem_map_of_mem he)

/-- Blocks of different nodes share no address. -/
theorem Inv.out_apart {mm : DrmMm} {x y : NodeId × Block} (h : Inv lo hi mm v) (hx : x ∈ out v) (hy : y ∈ out v)
    (hne : x.1 ≠ y.1) : x.2.Apart y.2 := by
  obtain ⟨e, he, -, rfl⟩ := exists_of_mem_out hx
  obtain ⟨f, hf, -, rfl⟩ := exists_of_mem_out hy
  have hapart := List.pairwise_map.mp h.tiles.apart
  have : Std.Symm fun a b : Entry => a.2.block.Apart b.2.block := ⟨fun _ _ hap a ha => hap a ⟨ha.2, ha.1⟩⟩
  exact hapart.forall he hf fun heq => hne (congrArg (fun e : Entry => e.1) heq)

theorem sorted_congr {key key' : BufId → Nat} {t : BinaryTree BufId} (h : Sorted key t)
    (heq : ∀ bo ∈ inorder t, key' bo = key bo) : Sorted key' t :=
  List.Pairwise.imp_of_mem (fun ha hb hlt => by rw [heq _ ha, heq _ hb]; exact hlt) h

theorem VmInv.mem_out (h : VmInv lo hi s v) (hbo : s.vmNode bo = some n) :
    (n, (⟨s.start bo, s.numPages bo⟩ : Block)) ∈ out v := (h.blocks _).mpr ⟨bo, hbo, rfl⟩

/-- A block that stays out keeps its buffer at its address. -/
theorem VmInv.start_eq (h : VmInv lo hi s v) (t : AddrSpace) (hw : Inv lo hi t.mm w) (hbo : s.vmNode bo = some n)
    (hbo' : t.vmNode bo = some n) (hsub : ∀ x ∈ out v, x.1 = n → x ∈ out w) : t.start bo = s.start bo := by
  have hx := hw.start_eq (hsub _ (h.mem_out hbo) rfl)
  unfold AddrSpace.start at hx ⊢
  rw [hbo', hbo]
  rw [hbo] at hx
  exact hx

/-- The blocks that are out are the same. -/
theorem VmInv.same_blocks (h : VmInv lo hi s v) {mm : DrmMm} (hw : Inv lo hi mm w) (hout : out w = out v) :
    VmInv lo hi { s with mm } w := by
  have hstart (bo : BufId) (hbo : (s.vmNode bo).isSome) : ({ s with mm } : AddrSpace).start bo = s.start bo := by
    obtain ⟨n, hn⟩ := Option.isSome_iff_exists.mp hbo
    exact h.start_eq { s with mm } hw hn hn fun x hx _ => hout ▸ hx
  refine ⟨h.range, hw, sorted_congr h.sorted fun bo hbo => hstart bo ((h.listed bo).mp hbo), h.listed, fun x => ?_, h.inj⟩
  rw [hout, h.blocks]
  refine exists_congr fun bo => and_congr_right fun hbo => ?_
  rw [hstart bo (hbo ▸ rfl)]

/-- The other buffers are where they were. -/
theorem VmInv.place_start (h : VmInv lo hi s v) {mm : DrmMm} {numPages : Nat} (hnew : s.vmNode bo = none)
    (hw : Inv lo hi mm w) (hsub : ∀ x ∈ out v, x ∈ out w) (hbo' : (s.vmNode bo').isSome) :
    (s.place bo numPages n mm).start bo' = s.start bo' := by
  obtain ⟨n', hn⟩ := Option.isSome_iff_exists.mp hbo'
  have hne : bo' ≠ bo := fun heq => Option.some_ne_none n' (hn.symm.trans (heq ▸ hnew))
  exact h.start_eq (s.place bo numPages n mm) hw hn ((Function.update_of_ne hne _ _).trans hn)
    fun x hx _ => hsub x hx

/-- A new buffer gets a place in the tree. -/
theorem VmInv.setup (h : VmInv lo hi s v) {mm : DrmMm} {b : Block} (hnew : s.vmNode bo = none)
    (hw : Inv lo hi mm w) (hv : out v = out pre ++ out post) (hout : out w = out pre ++ (n, b) :: out post)
    (hpos : 0 < b.len) :
    ∃ rb, link (s.place bo b.len n mm).start bo s.rb = some rb ∧
      VmInv lo hi { s.place bo b.len n mm with rb := R.insertColor rb } w := by
  have hsub : ∀ x ∈ out v, x ∈ out w := fun x hx => by
    rw [hout, List.mem_append, List.mem_cons]
    rw [hv, List.mem_append] at hx
    exact hx.imp_right .inr
  have hmem : (n, b) ∈ out w := hout ▸ List.mem_append_right _ List.mem_cons_self
  have hstart : (s.place bo b.len n mm).start bo = b.start := by
    unfold AddrSpace.start AddrSpace.place
    dsimp only
    rw [Function.update_self]
    exact hw.start_eq hmem
  have hothers (bo' : BufId) (hbo' : (s.vmNode bo').isSome) : (s.place bo b.len n mm).start bo' = s.start bo' :=
    h.place_start hnew hw hsub hbo'
  have hsorted : Sorted (s.place bo b.len n mm).start s.rb :=
    sorted_congr h.sorted fun bo' hbo' => hothers bo' ((h.listed bo').mp hbo')
  have hname := hw.fresh_name hout
  rw [← hv] at hname
  have hne {bo' : BufId} {n' : NodeId} (hbo' : s.vmNode bo' = some n') : bo' ≠ bo ∧ n' ≠ n := by
    refine ⟨fun heq => Option.some_ne_none n' (hbo'.symm.trans (heq ▸ hnew)), ?_⟩
    rintro rfl
    exact hname _ (h.mem_out hbo')
  cases hlink : link (s.place bo b.len n mm).start bo s.rb with
  | none =>
    -- two blocks that are out do not start at one address
    obtain ⟨bo', hbo', heq⟩ := exists_of_link_none hlink
    have hsome := (h.listed bo').mp hbo'
    rw [hothers bo' hsome, hstart] at heq
    obtain ⟨n', hn'⟩ := Option.isSome_iff_exists.mp hsome
    have hout' := hsub _ (h.mem_out hn')
    have hpos' := hw.out_pos h.range hout'
    refine absurd ?_ (hw.out_apart hout' hmem (hne hn').2 b.start)
    exact ⟨⟨Nat.le_of_eq heq, by dsimp only at hpos' ⊢; omega⟩, Nat.le_refl _, Nat.lt_add_of_pos_right hpos⟩
  | some rb =>
    have hperm := link_perm hlink
    refine ⟨rb, rfl, h.range, hw, ?_, fun bo' => ?_, fun x => ?_, fun bo₁ bo₂ k h₁ h₂ => ?_⟩
    · show ((inorder (R.insertColor rb)).Pairwise _)
      rw [R.inorder_insertColor]
      exact link_sorted hsorted hlink
    · show bo' ∈ inorder (R.insertColor rb) ↔ (Function.update s.vmNode bo (some n) bo').isSome
      rw [R.inorder_insertColor, hperm.mem_iff, List.mem_cons, h.listed]
      by_cases heq : bo' = bo
      · subst heq
        rw [Function.update_self]
        exact iff_of_true (.inl rfl) rfl
      · rw [Function.update_of_ne heq, or_iff_right heq]
    · show x ∈ out w ↔ ∃ bo', Function.update s.vmNode bo (some n) bo' = some x.1 ∧
        x.2 = ⟨(s.place bo b.len n mm).start bo', Function.update s.numPages bo b.len bo'⟩
      have hx : x ∈ out w ↔ x = (n, b) ∨ x ∈ out v := by
        rw [hout, hv, List.mem_append, List.mem_cons, List.mem_append, or_left_comm]
      rw [hx, h.blocks]
      constructor
      · rintro (rfl | ⟨bo', hbo', hblock⟩)
        · refine ⟨bo, Function.update_self _ _ _, ?_⟩
          rw [hstart, Function.update_self]
        · have hbo := (hne hbo').1
          refine ⟨bo', (Function.update_of_ne hbo _ _).trans hbo', ?_⟩
          rw [hothers bo' (hbo' ▸ rfl), Function.update_of_ne hbo]
          exact hblock
      · rintro ⟨bo', hbo', hblock⟩
        by_cases heq : bo' = bo
        · subst heq
          rw [Function.update_self] at hbo' hblock
          rw [hstart] at hblock
          exact .inl (Prod.ext (Option.some.inj hbo').symm hblock)
        · rw [Function.update_of_ne heq] at hbo' hblock
          rw [hothers bo' (hbo' ▸ rfl)] at hblock
          exact .inr ⟨bo', hbo', hblock⟩
    · have h₁ : Function.update s.vmNode bo (some n) bo₁ = some k := h₁
      have h₂ : Function.update s.vmNode bo (some n) bo₂ = some k := h₂
      by_cases heq₁ : bo₁ = bo
      · by_cases heq₂ : bo₂ = bo
        · rw [heq₁, heq₂]
        · rw [heq₁, Function.update_self] at h₁
          rw [Function.update_of_ne heq₂] at h₂
          exact absurd (Option.some.inj h₁).symm (hne h₂).2
      · rw [Function.update_of_ne heq₁] at h₁
        by_cases heq₂ : bo₂ = bo
        · rw [heq₂, Function.update_self] at h₂
          exact absurd (Option.some.inj h₂).symm (hne h₁).2
        · rw [Function.update_of_ne heq₂] at h₂
          exact h.inj bo₁ bo₂ k h₁ h₂

theorem VmInv.setupVm (h : VmInv lo hi s v) {numPages : Nat} {kzalloc₁ kzalloc₂ : Option NodeId}
    (hok : VmOk s (.setupVm bo numPages kzalloc₁ kzalloc₂)) :
    ∃ s' w, s.ttmBoSetupVm R bo numPages kzalloc₁ kzalloc₂ = some s' ∧ VmInv lo hi s' w := by
  obtain ⟨hnew, ⟨hpos, hsize⟩, ⟨hfresh₁, hfresh₂, hne⟩, hclean⟩ := hok
  unfold AddrSpace.ttmBoSetupVm DrmMm.drmMmSearchFree
  rcases searchFree_first s.mm (fun d => (d.start, add64 d.start d.size)) numPages 0 s.mm.freeStack (2 ^ 64 - 1) with
    ⟨hnone, -⟩ | ⟨node, hnode, hfound, hholds⟩
  · rw [hnone]
    exact ⟨s, v, rfl, h⟩
  · rw [hfound]
    dsimp only
    obtain ⟨pre, d, post, rfl, hfree, hd⟩ := h.inv.mem_freeStack hnode
    have hbound := h.inv.bound
    have hle : d.start + d.size ≤ hi := (tiles_middle_iff.mp h.inv.tiles).2.le
    have hroom : d.start + numPages ≤ d.start + d.size := by
      unfold Holds at hholds
      dsimp only at hholds
      rw [hd, add64_of_lt (show d.start + d.size < 2 ^ 64 by omega)] at hholds
      have hr : Sane ⟨numPages, 0, 0, 0⟩ := ⟨hpos, hsize, Nat.two_pow_pos 32⟩
      exact (checkFreeHole_iff (s := d.start) hr (by omega) (hle.trans hbound)).mp hholds
    have hv : out (pre ++ (node, d) :: post) = out pre ++ out post := by rw [out_append, out_cons_free hfree]
    generalize hget : s.mm.drmMmGetBlockGeneric node numPages 0 kzalloc₁ kzalloc₂ = got
    obtain ⟨answer, mm⟩ := got
    have hget : s.mm.getBlock node numPages 0 kzalloc₁ kzalloc₂ = (answer, mm) := hget
    obtain ⟨⟨w, hw, hout⟩, -⟩ := getBlock_gives h.inv hfree hfresh₁ hfresh₂ hne hclean hpos (by omega) hget
    cases answer with
    | none =>
      exact ⟨_, w, rfl, h.same_blocks hw (hout.trans hv.symm)⟩
    | some n =>
      obtain ⟨rb, hlink, hinv⟩ := h.setup (R := R) (b := ⟨d.start + 0, numPages⟩) hnew hw hv hout hpos
      refine ⟨_, w, ?_, hinv⟩
      show Option.map _ (link (s.place bo numPages n mm).start bo s.rb) = _
      rw [hlink]
      rfl

theorem VmInv.release (h : VmInv lo hi s v) (R : RbTree) (bo : BufId) : ∃ w, VmInv lo hi (s.ttmBoRelease R bo) w := by
  unfold AddrSpace.ttmBoRelease
  cases hbo : s.vmNode bo with
  | none => exact ⟨v, h⟩
  | some n =>
    obtain ⟨⟨n', d⟩, he, hused, heq⟩ := exists_of_mem_out (h.mem_out hbo)
    obtain ⟨rfl, hblock⟩ := Prod.mk.inj heq
    obtain ⟨pre, post, rfl⟩ := List.append_of_mem he
    obtain ⟨w, hw, hout⟩ := drmMmPutBlock_inv h.inv hused
    have hv (x : NodeId × Block) : x ∈ out w ↔ x ∈ out (pre ++ (n, d) :: post) ∧ x.1 ≠ n := h.inv.mem_out_put hused hout
    let s' : AddrSpace := { s with
      rb := R.erase bo s.rb, mm := s.mm.drmMmPutBlock n, vmNode := Function.update s.vmNode bo none }
    have hkept {bo' : BufId} (hne : bo' ≠ bo) : s'.vmNode bo' = s.vmNode bo' := Function.update_of_ne hne _ _
    have hgone : s'.vmNode bo = none := Function.update_self _ _ _
    have hnode {bo' : BufId} {n' : NodeId} (hne : bo' ≠ bo) (hbo' : s.vmNode bo' = some n') : n' ≠ n := by
      rintro rfl
      exact hne (h.inj bo' bo n' hbo' hbo)
    have hstart {bo' : BufId} (hne : bo' ≠ bo) (hbo' : (s.vmNode bo').isSome) : s'.start bo' = s.start bo' := by
      obtain ⟨n', hn'⟩ := Option.isSome_iff_exists.mp hbo'
      exact h.start_eq s' hw hn' ((hkept hne).trans hn') fun x hx hx' => (hv x).mpr ⟨hx, hx' ▸ hnode hne hn'⟩
    have hnodup : (inorder s.rb).Nodup := h.sorted.imp fun hlt heq => absurd (heq ▸ hlt) (lt_irrefl _)
    have hmem (bo' : BufId) : bo' ∈ inorder s'.rb ↔ bo' ≠ bo ∧ bo' ∈ inorder s.rb := by
      show bo' ∈ inorder (R.erase bo s.rb) ↔ _
      rw [R.inorder_erase, hnodup.mem_erase_iff]
    refine ⟨w, h.range, hw, ?_, fun bo' => ?_, fun x => ?_, fun bo₁ bo₂ k h₁ h₂ => ?_⟩
    · have hsub : Sorted s.start s'.rb := by
        unfold Sorted
        rw [R.inorder_erase]
        exact h.sorted.sublist List.erase_sublist
      refine sorted_congr hsub fun bo' hbo' => ?_
      obtain ⟨hne, hbo'⟩ := (hmem bo').mp hbo'
      exact hstart hne ((h.listed bo').mp hbo')
    · show bo' ∈ inorder s'.rb ↔ (s'.vmNode bo').isSome
      rw [hmem, h.listed]
      by_cases heq : bo' = bo
      · rw [heq, hgone]
        exact iff_of_false (fun h => h.1 rfl) Bool.false_ne_true
      · rw [hkept heq]
        exact and_iff_right heq
    · show x ∈ out w ↔ ∃ bo', s'.vmNode bo' = some x.1 ∧ x.2 = ⟨s'.start bo', s.numPages bo'⟩
      rw [hv, h.blocks]
      constructor
      · rintro ⟨⟨bo', hbo', hblock⟩, hne⟩
        have hbo'' : bo' ≠ bo := fun heq => hne (Option.some.inj (hbo'.symm.trans (heq ▸ hbo)))
        refine ⟨bo', (hkept hbo'').trans hbo', ?_⟩
        rw [hstart hbo'' (hbo' ▸ rfl)]
        exact hblock
      · rintro ⟨bo', hbo', hblock⟩
        have hbo'' : bo' ≠ bo := fun heq => Option.some_ne_none _ (hbo'.symm.trans (heq ▸ hgone))
        rw [hkept hbo''] at hbo'
        rw [hstart hbo'' (hbo' ▸ rfl)] at hblock
        exact ⟨⟨bo', hbo', hblock⟩, hnode hbo'' hbo'⟩
    · have hne {bo' : BufId} (hbo' : s'.vmNode bo' = some k) : bo' ≠ bo := by
        rintro rfl
        exact Option.some_ne_none k (hbo'.symm.trans hgone)
      have hne₁ := hne h₁
      have hne₂ := hne h₂
      exact h.inj bo₁ bo₂ k ((hkept hne₁).symm.trans h₁) ((hkept hne₂).symm.trans h₂)

theorem VmInv.step {a : VmAct} (h : VmInv lo hi s v) (hok : VmOk s a) : ∃ s' w, vmStep R s a = some s' ∧ VmInv lo hi s' w := by
  cases a with
  | preGet kzalloc => exact ⟨_, v, rfl, h.same_blocks (preGetRound_inv h.inv hok) rfl⟩
  | setupVm bo numPages kzalloc₁ kzalloc₂ => exact h.setupVm hok
  | release bo =>
    obtain ⟨w, hw⟩ := h.release R bo
    exact ⟨_, w, rfl, hw⟩

/-- The search finds the buffer that has all the pages. -/
theorem VmInv.lookup_iff (h : VmInv lo hi s v) {pageStart numPages : Nat} (hpos : 0 < numPages)
    (hend : pageStart + numPages < 2 ^ 64) : s.ttmBoVmLookupRb pageStart numPages = some bo ↔
      (s.vmNode bo).isSome ∧ s.start bo ≤ pageStart ∧ pageStart + numPages ≤ s.start bo + s.numPages bo := by
  unfold AddrSpace.ttmBoVmLookupRb
  rcases floor_cases (x := pageStart) h.sorted none with ⟨best, hbest, hfloor, hle, hmax⟩ | ⟨hfloor, hbig⟩
  · obtain ⟨n, hn⟩ := Option.isSome_iff_exists.mp ((h.listed best).mp hbest)
    have hout := h.mem_out hn
    have hbound := h.inv.bound
    have hhi := (h.inv.out_bounds hout).2
    have hlen := h.inv.out_pos h.range hout
    dsimp only at hhi hlen
    -- a buffer that has the first page starts there or before the best one, which has its first page then
    have honly : (s.vmNode bo).isSome ∧ s.start bo ≤ pageStart ∧ pageStart + numPages ≤ s.start bo + s.numPages bo →
        bo = best := by
      rintro ⟨hbo, hstart, hstop⟩
      have hle' := hmax bo ((h.listed bo).mpr hbo) hstart
      obtain ⟨n', hn'⟩ := Option.isSome_iff_exists.mp hbo
      by_contra hne
      have hnode : n' ≠ n := by
        rintro rfl
        exact hne (h.inj bo best n' hn' hn)
      refine h.inv.out_apart (h.mem_out hn') hout hnode (s.start best) ⟨⟨hle', ?_⟩, Nat.le_refl _, ?_⟩
      · show s.start best < s.start bo + s.numPages bo
        omega
      · show s.start best < s.start best + s.numPages best
        omega
    rw [hfloor]
    dsimp only
    rw [add64_of_lt (by omega), add64_of_lt hend]
    split
    · next hlt =>
      refine iff_of_false (Option.some_ne_none bo).symm fun hall => ?_
      have heq := honly hall
      rw [heq] at hall
      omega
    · next hge =>
      constructor
      · intro heq
        cases heq
        exact ⟨hn ▸ rfl, hle, Nat.not_lt.mp hge⟩
      · exact fun hall => congrArg some (honly hall).symm
  · rw [hfloor]
    refine iff_of_false (Option.some_ne_none bo).symm fun hall => ?_
    exact absurd hall.2.1 (Nat.not_le.mpr (hbig bo ((h.listed bo).mpr hall.1)))

end Invariant

section Run

variable {s : AddrSpace} {bo : BufId} {acts : List VmAct} {kzalloc : Option NodeId} {a : VmAct}

/-- In every run of buffers that get their place in the address space and lose it: the insertion does
not get to its `BUG`, and a search finds exactly the buffer that has all the pages that are asked for. -/
theorem address_space (R : RbTree) {s₀ : AddrSpace} (hinit : ttmBoDeviceInit kzalloc = some s₀)
    (hrun : Run (vmStep R) VmOk s₀ acts s) :
    (∀ a, VmOk s a → vmStep R s a ≠ none) ∧
      ∀ pageStart numPages, 0 < numPages → pageStart + numPages < 2 ^ 64 → ∀ bo,
        s.ttmBoVmLookupRb pageStart numPages = some bo ↔
          (s.vmNode bo).isSome ∧ s.start bo ≤ pageStart ∧ pageStart + numPages ≤ s.start bo + s.numPages bo := by
  have hstart : ∃ v, VmInv vmwgfxFilePageOffset (vmwgfxFilePageOffset + 0x10000000) s₀ v := by
    obtain ⟨mm, hmm, rfl⟩ := Option.map_eq_some_iff.mp hinit
    obtain ⟨v, hinv, hout⟩ := drmMmInit_inv rfl (by decide) hmm
    refine ⟨v, by decide, hinv, .nil, fun bo => ?_, fun x => ?_, fun bo bo' n h => ?_⟩
    · exact iff_of_false List.not_mem_nil Bool.false_ne_true
    · rw [hout]
      refine iff_of_false List.not_mem_nil ?_
      rintro ⟨bo, hbo, -⟩
      cases hbo
    · cases h
  have hinv := hrun.invariant (I := fun s => ∃ v, VmInv vmwgfxFilePageOffset (vmwgfxFilePageOffset + 0x10000000) s v)
    (fun s a s' hok hstep ⟨v, h⟩ => by
      obtain ⟨t, w, ht, hw⟩ := h.step (R := R) hok
      exact ⟨w, Option.some.inj (ht.symm.trans hstep) ▸ hw⟩) hstart
  obtain ⟨v, h⟩ := hinv
  refine ⟨fun a hok hnone => ?_, fun pageStart numPages hpos hend bo => h.lookup_iff hpos hend⟩
  obtain ⟨t, w, ht, -⟩ := h.step (R := R) hok
  exact Option.some_ne_none t (ht.symm.trans hnone)

/-- A tree of the nodes in order, each the right child of the one before. -/
def chainTree (l : List BufId) : BinaryTree BufId := l.foldr (fun bo t => .node bo .nil t) .nil

theorem inorder_chainTree (l : List BufId) : inorder (chainTree l) = l := by
  induction l with
  | nil => rfl
  | cons bo l ih => exact congrArg (bo :: ·) ih

/-- Trees that are not balanced. -/
def chains : RbTree where
  insertColor t := t
  erase bo t := chainTree ((inorder t).erase bo)
  inorder_insertColor _ := rfl
  inorder_erase _ _ := inorder_chainTree _

/-- Two buffers, of which the first one goes again. -/
theorem address_space_two : ∃ s : AddrSpace, s.vmNode 7 = none ∧
    s.ttmBoVmLookupRb (vmwgfxFilePageOffset + 3) 2 = some 8 := by
  have hrun : ∃ s₀ s, ttmBoDeviceInit (some 0) = some s₀ ∧
      Run (vmStep chains) VmOk s₀ [.setupVm 7 2 (some 1) (some 2), .setupVm 8 4 (some 3) (some 4), .release 7] s ∧
      s.vmNode 7 = none ∧ (s.vmNode 8).isSome ∧ s.start 8 = vmwgfxFilePageOffset + 2 ∧ s.numPages 8 = 4 := by
    have hnone {a b : NodeId} {p : Prop} (h : some a = none ∨ some b = none) : p := by
      rcases h with h | h <;> cases h
    refine ⟨_, _, rfl, .cons ⟨rfl, by decide, ⟨?_, ?_, ?_⟩, hnone⟩ rfl
      (.cons ⟨rfl, by decide, ⟨?_, ?_, ?_⟩, hnone⟩ rfl (.cons trivial rfl (.nil _))), rfl, rfl, rfl, rfl⟩
    all_goals
      rintro n ⟨⟩
      decide
  obtain ⟨s₀, s, hinit, hrun, hgone, hsome, hstart, hpages⟩ := hrun
  refine ⟨s, hgone, ((address_space chains hinit hrun).2 _ 2 (by decide) (by decide) 8).mpr ⟨hsome, ?_, ?_⟩⟩
  · rw [hstart]
    decide
  · rw [hstart, hpages]
    decide

end Run

end Vmwgfx.Mm
