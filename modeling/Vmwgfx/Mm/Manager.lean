import Vmwgfx.Mm.Search

/-! The range manager of TTM hands out pages as a best-fit allocator does. -/

namespace Vmwgfx.Mm

open Vmwgfx.Lib Vmwgfx.Lib.Allocator

/-- What a round of `ttm_bo_man_get_node` comes to. -/
inductive Answer
  | full
  /-- There was no memory for a node, so `drm_mm_pre_get` is tried again. -/
  | again
  | got (node : NodeId) (start : Nat)

/-- The manager of a memory type, and what it has handed out and taken back. -/
structure Manager where
  mm : DrmMm
  log : List (Call NodeId)

/-- The pages that are asked for: `lpfn` 0 is the end of the memory type. -/
def request (manSize numPages pageAlignment fpfn lpfn : Nat) : Request where
  size := numPages
  alignment := pageAlignment
  start := fpfn
  stop := if lpfn = 0 then manSize else lpfn

/-- What `ttm_bo_man_get_node` does under the lock. -/
def ttmBoManGetNodeRound (mm : DrmMm) (r : Request) (kzalloc₁ kzalloc₂ : Option NodeId) : Answer × DrmMm :=
  match mm.drmMmSearchFreeInRange r.size r.alignment r.start r.stop true with
  | none => (.full, mm)
  | some node =>
    match mm.drmMmGetBlockRangeGeneric node r.size r.alignment r.start kzalloc₁ kzalloc₂ with
    | (none, mm) => (.again, mm)
    | (some node, mm) => (.got node (mm.node node).start, mm)

inductive Act
  /-- A round of `drm_mm_pre_get`. -/
  | preGet (kzalloc : Option NodeId)
  | getNode (numPages pageAlignment fpfn lpfn : Nat) (kzalloc₁ kzalloc₂ : Option NodeId)
  | putNode (node : NodeId)

def answered (r : Request) : Answer → List (Call NodeId)
  | .full => [.get r none]
  | .again => []
  | .got node start => [.get r (some (node, ⟨start, r.size⟩))]

def step (manSize : Nat) (m : Manager) : Act → Option Manager
  | .preGet kzalloc => some { m with mm := (m.mm.drmMmPreGetRound kzalloc).1 }
  | .getNode numPages pageAlignment fpfn lpfn kzalloc₁ kzalloc₂ =>
    let r := request manSize numPages pageAlignment fpfn lpfn
    let (answer, mm) := ttmBoManGetNodeRound m.mm r kzalloc₁ kzalloc₂
    some ⟨mm, m.log ++ answered r answer⟩
  | .putNode node => some ⟨m.mm.drmMmPutBlock node, m.log ++ [.put node]⟩

/-- What the callers and `kzalloc` see to: a block that is put back is out, and no node is used again
with its free bit set. -/
def Ok (m : Manager) : Act → Prop
  | .preGet kzalloc => Fresh m.mm kzalloc
  | .getNode numPages pageAlignment fpfn lpfn kzalloc₁ kzalloc₂ =>
    (0 < numPages ∧ numPages ≤ 2 ^ 52 ∧ pageAlignment < 2 ^ 32 ∧ fpfn < 2 ^ 32 ∧ lpfn < 2 ^ 32) ∧
      (Fresh m.mm kzalloc₁ ∧ Fresh m.mm kzalloc₂ ∧ ∀ n, kzalloc₁ = some n → kzalloc₂ ≠ some n) ∧
        (kzalloc₁ = none ∨ kzalloc₂ = none → Clean m.mm)
  | .putNode node => node ∈ m.mm.nodeList ∧ (m.mm.node node).free = false

/-- The blocks that are out. -/
def DrmMm.owned (mm : DrmMm) : Set (NodeId × Block) :=
  {x | x.1 ∈ mm.nodeList ∧ (mm.node x.1).free = false ∧ (mm.node x.1).block = x.2}

theorem Represents.owned_eq {mm : DrmMm} {v : List Entry} (h : Represents mm v) : mm.owned = owned v := by
  ext ⟨n, b⟩
  constructor
  · rintro ⟨hmem, hused, hb⟩
    rw [h.list] at hmem
    obtain ⟨e, he, rfl⟩ := List.mem_map.mp hmem
    have hnode := h.node e he
    dsimp only at hused hb
    rw [hnode] at hused hb
    rw [← hb]
    exact mem_out_of_used he hused
  · intro hx
    obtain ⟨e, he, hused, heq⟩ := exists_of_mem_out hx
    obtain ⟨rfl, rfl⟩ := Prod.mk.inj heq
    refine ⟨?_, ?_, ?_⟩
    · rw [h.list]
      exact List.mem_map_of_mem he
    · rw [h.node e he]
      exact hused
    · rw [h.node e he]

section Round

variable {lo hi : Nat} {mm mm' : DrmMm} {v pre post : List Entry} {n p : NodeId} {d : DrmMmNode} {r : Request}
  {answer : Answer} {kzalloc₁ kzalloc₂ : Option NodeId}

/-- What is left out in front of the block. -/
theorem wasted_eq (hr : Sane r) (hd : d.start + d.size ≤ 2 ^ 32)
    (hroom : (carve r d).start + r.size ≤ min r.stop (d.start + d.size)) :
    add32 (if d.start < r.start then (r.start - d.start) % 2 ^ 32 else 0)
      (alignGap (add64 d.start (if d.start < r.start then (r.start - d.start) % 2 ^ 32 else 0)) r.alignment) =
      (carve r d).start - d.start := by
  have hpos := hr.pos
  have hstart : (carve r d).start = max r.start d.start + alignGap (max r.start d.start) r.alignment := rfl
  have hwasted : (if d.start < r.start then (r.start - d.start) % 2 ^ 32 else 0) = max r.start d.start - d.start := by
    split <;> omega
  rw [hwasted, add64_of_lt (by omega), Nat.add_sub_cancel' (Nat.le_max_right _ _), add32_of_lt (by omega), hstart]
  omega

theorem getBlockRange_gives (h : Inv lo hi mm (pre ++ (p, d) :: post)) (hfree : d.free = true) (hr : Sane r)
    (hfresh₁ : Fresh mm kzalloc₁) (hfresh₂ : Fresh mm kzalloc₂) (hne : ∀ n, kzalloc₁ = some n → kzalloc₂ ≠ some n)
    (hclean : kzalloc₁ = none ∨ kzalloc₂ = none → Clean mm)
    (hroom : (carve r d).start + r.size ≤ min r.stop (d.start + d.size)) {answer : Option NodeId}
    (hget : mm.drmMmGetBlockRangeGeneric p r.size r.alignment r.start kzalloc₁ kzalloc₂ = (answer, mm')) :
    Gives lo hi pre post (carve r d) answer mm' ∧ (answer = none → mm.numUnused < 2) := by
  obtain ⟨-, hpost⟩ := tiles_middle_iff.mp h.tiles
  have hle : d.start + d.size ≤ 2 ^ 32 := hpost.le.trans h.bound
  have hin := (carve_fits hroom).2
  have hstart : d.start ≤ (carve r d).start := hin.1
  have hend : (carve r d).start + r.size ≤ d.start + d.size := hin.2
  unfold DrmMm.drmMmGetBlockRangeGeneric at hget
  rw [h.node_eq] at hget
  dsimp only at hget
  rw [wasted_eq hr hle hroom] at hget
  have hgives := getBlock_gives h hfree hfresh₁ hfresh₂ hne hclean hr.pos (by omega) hget
  rw [Nat.add_sub_cancel' hstart] at hgives
  exact hgives

/-- A block that comes out under a name: the name is new. -/
theorem Inv.fresh_name {w : List Entry} {b : Block} (h : Inv lo hi mm w)
    (hout : out w = out pre ++ (n, b) :: out post) : ∀ c, (n, c) ∉ out pre ++ out post := by
  have hnodup : ((out w).map Prod.fst).Nodup := by
    have : (out w).map Prod.fst = (w.filter fun e => !e.2.free).map Prod.fst := by
      unfold out
      rw [List.map_map]
      rfl
    rw [this]
    exact h.nodup.of_append_left.sublist (List.filter_sublist.map _)
  rw [hout, List.map_append, List.map_cons, List.nodup_middle, List.nodup_cons, ← List.map_append] at hnodup
  intro c hc
  have hmem := List.mem_map_of_mem (f := Prod.fst) hc
  exact hnodup.1 hmem

/-- What a round of `ttm_bo_man_get_node` may come to. -/
def Comes (lo hi : Nat) (mm : DrmMm) (v : List Entry) (r : Request) (w : List Entry) : Answer → Prop
  | .full => owned w = owned v ∧ Legal lo hi (BestFit lo hi) (owned v) (.get r none)
  | .again => owned w = owned v ∧ mm.numUnused < 2
  | .got n start => owned w = insert (n, ⟨start, r.size⟩) (owned v) ∧
    Legal lo hi (BestFit lo hi) (owned v) (.get r (some (n, ⟨start, r.size⟩)))

theorem getNodeRound_comes (h : Inv lo hi mm v) (hr : Sane r) (hstart : r.start ≤ 2 ^ 32)
    (hfresh₁ : Fresh mm kzalloc₁) (hfresh₂ : Fresh mm kzalloc₂) (hne : ∀ n, kzalloc₁ = some n → kzalloc₂ ≠ some n)
    (hclean : kzalloc₁ = none ∨ kzalloc₂ = none → Clean mm)
    (hround : ttmBoManGetNodeRound mm r kzalloc₁ kzalloc₂ = (answer, mm')) :
    ∃ w, Inv lo hi mm' w ∧ Comes lo hi mm v r w answer := by
  have hsearch := searchFree_best mm (rangeHole r.start r.stop) r.size r.alignment mm.freeStack none (2 ^ 64 - 1)
  unfold ttmBoManGetNodeRound DrmMm.drmMmSearchFreeInRange at hround
  rcases hsearch with ⟨heq, hle⟩ | ⟨node, hnode, heq, hholds, -, hbest⟩
  · rw [heq] at hround
    cases hround
    refine ⟨v, h, rfl, fun b => h.no_room hr hstart fun n hn hn' => ?_⟩
    obtain ⟨pre, d, post, rfl, -, rfl⟩ := h.mem_freeStack hn
    have hsize := (tiles_middle_iff.mp h.tiles).2.le.trans h.bound
    have hbig := hle n hn hn'
    dsimp only at hsize
    omega
  · rw [heq] at hround
    obtain ⟨pre, d, post, rfl, hfree, hd⟩ := h.mem_freeStack hnode
    have hroom := (h.holds_iff hr hstart hnode).mp hholds
    rw [hd] at hroom hbest
    have hout : out (pre ++ (node, d) :: post) = out pre ++ out post := by rw [out_append, out_cons_free hfree]
    dsimp only at hround
    generalize hget : mm.drmMmGetBlockRangeGeneric node r.size r.alignment r.start kzalloc₁ kzalloc₂ = got at hround
    obtain ⟨answer₁, mm₁⟩ := got
    obtain ⟨⟨w, hw, hwout⟩, hunused⟩ := getBlockRange_gives h hfree hr hfresh₁ hfresh₂ hne hclean hroom hget
    cases answer₁ with
    | none =>
      cases hround
      refine ⟨w, hw, ?_, hunused rfl⟩
      unfold owned
      rw [hwout, hout]
    | some n =>
      cases hround
      have hname := hw.fresh_name hwout
      have hmem : (n, carve r d) ∈ owned w := by
        show _ ∈ out w
        rw [hwout]
        exact List.mem_append_right _ List.mem_cons_self
      rw [← hw.owned_eq] at hmem
      have hnode' : (mm'.node n).start = (carve r d).start := congrArg Block.start hmem.2.2
      have hgap := h.gap hfree (by have := (carve_fits hroom).2.2; have := hr.pos; simp only [DrmMmNode.block, carve] at *; omega)
      obtain ⟨hfits, hin⟩ := carve_fits hroom
      refine ⟨w, hw, ?_, ?_⟩
      · rw [hnode']
        ext x
        show x ∈ out w ↔ x = (n, carve r d) ∨ x ∈ out (pre ++ (node, d) :: post)
        rw [hwout, hout, List.mem_append, List.mem_cons, List.mem_append, or_left_comm]
      · rw [hnode']
        refine ⟨hgap.unused.within hin, hfits, ⟨d.block, hgap, hin, fun c hc hc' => carve_le hc' hc, ?_⟩, ?_⟩
        · intro g c hg hc hc'
          obtain ⟨pre', e, post', heq', hfree', rfl⟩ := h.exists_of_gap hg
          rw [heq'] at h
          have hfreeStack := h.mem_of_free hfree'
          have he : mm.node e.1 = e.2 := h.node e (List.mem_append_right _ List.mem_cons_self)
          have hsize := hbest e.1 hfreeStack ((h.holds_iff hr hstart hfreeStack).mpr (he ▸ hole_of_fits hc' hc))
          rw [he] at hsize
          exact hsize
        · intro c hc
          have hc : (n, c) ∈ out (pre ++ (node, d) :: post) := hc
          rw [hout] at hc
          exact hname c hc

end Round

section Run

variable {manSize : Nat} {mm : DrmMm} {m m' : Manager} {v : List Entry} {kzalloc : Option NodeId} {a : Act}
  {acts : List Act}

theorem preGetRound_inv {lo hi : Nat} (h : Inv lo hi mm v) (hfresh : Fresh mm kzalloc) :
    Inv lo hi (mm.drmMmPreGetRound kzalloc).1 v := by
  unfold DrmMm.drmMmPreGetRound
  split
  · cases kzalloc with
    | none => exact h
    | some n =>
      have hnot := hfresh n rfl
      rw [h.list] at hnot
      have hset := h.toRepresents.setOther (fun hmem => hnot (List.mem_append_left _ hmem)) ⟨false, 0, 0⟩
      refine ⟨⟨hset.list, hset.node, ?_, ?_⟩, h.toSound, h.bound⟩
      · show (v.map Prod.fst ++ (mm.unusedNodes ++ [n])).Nodup
        rw [← List.append_assoc, ← List.concat_eq_append, List.nodup_concat]
        exact ⟨hnot, h.nodup⟩
      · show mm.numUnused + 1 = (mm.unusedNodes ++ [n]).length
        rw [List.length_append, h.unused]
        rfl
  · exact h

theorem drmMmInit_inv {start size hi : Nat} (hhi : start + size = hi) (hbound : hi ≤ 2 ^ 32)
    (hinit : drmMmInit start size kzalloc = some mm) : ∃ v, Inv start hi mm v ∧ out v = [] := by
  cases kzalloc with
  | none => cases hinit
  | some n =>
    cases hinit
    refine ⟨[(n, ⟨true, start, size⟩)], ⟨⟨rfl, ?_, ?_, rfl⟩, ⟨?_, ?_, ?_, ?_⟩, hbound⟩, rfl⟩
    · intro e he
      rw [List.mem_singleton] at he
      subst he
      exact Function.update_self _ _ _
    · exact List.nodup_singleton n
    · exact ⟨rfl, hhi⟩
    · exact List.isChain_singleton _
    · exact List.Perm.refl _
    · intro hlt e he
      rw [List.mem_singleton] at he
      subst he
      show 0 < size
      omega

/-- All blocks are out that were, but for the one that is put back. -/
theorem Inv.mem_out_put {lo hi : Nat} {pre post w : List Entry} {n : NodeId} {d : DrmMmNode} {x : NodeId × Block}
    (h : Inv lo hi mm (pre ++ (n, d) :: post)) (hused : d.free = false) (hout : out w = out pre ++ out post) :
    x ∈ out w ↔ x ∈ out (pre ++ (n, d) :: post) ∧ x.1 ≠ n := by
  rw [hout, out_append, out_cons_used hused, List.mem_append, List.mem_append, List.mem_cons]
  constructor
  · rintro (hx | hx)
    · obtain ⟨e, he, -, rfl⟩ := exists_of_mem_out hx
      exact ⟨.inl hx, h.ne (.inl he)⟩
    · obtain ⟨e, he, -, rfl⟩ := exists_of_mem_out hx
      exact ⟨.inr (.inr hx), h.ne (.inr he)⟩
  · rintro ⟨hx | rfl | hx, hne⟩
    · exact .inl hx
    · exact absurd rfl hne
    · exact .inr hx

/-- The state of the manager is that of a best-fit allocator with the same history. -/
def Refines (manSize : Nat) (m : Manager) : Prop :=
  ∃ v, Inv 0 manSize m.mm v ∧ History 0 manSize (BestFit 0 manSize) m.log (owned v)

theorem Refines.step (h : Refines manSize m) (hok : Ok m a) (hstep : Mm.step manSize m a = some m') :
    Refines manSize m' := by
  obtain ⟨v, hinv, hhist⟩ := h
  cases a with
  | preGet kzalloc =>
    cases hstep
    exact ⟨v, preGetRound_inv hinv hok, hhist⟩
  | getNode numPages pageAlignment fpfn lpfn kzalloc₁ kzalloc₂ =>
    obtain ⟨⟨hpos, hsize, halign, hfpfn, -⟩, ⟨hfresh₁, hfresh₂, hne⟩, hclean⟩ := hok
    dsimp only [Mm.step] at hstep
    generalize hround : ttmBoManGetNodeRound m.mm (request manSize numPages pageAlignment fpfn lpfn) kzalloc₁ kzalloc₂ =
      result at hstep
    obtain ⟨answer, mm'⟩ := result
    cases hstep
    obtain ⟨w, hw, hcomes⟩ := getNodeRound_comes hinv ⟨hpos, hsize, halign⟩ (Nat.le_of_lt hfpfn) hfresh₁ hfresh₂ hne
      hclean hround
    refine ⟨w, hw, ?_⟩
    cases answer with
    | full =>
      rw [hcomes.1]
      exact hhist.snoc hcomes.2
    | again =>
      show History 0 manSize _ (m.log ++ []) _
      rw [hcomes.1, List.append_nil]
      exact hhist
    | got n start =>
      rw [hcomes.1]
      exact hhist.snoc hcomes.2
  | putNode node =>
    cases hstep
    obtain ⟨hmem, hused⟩ := hok
    rw [hinv.list] at hmem
    obtain ⟨⟨n, d⟩, he, rfl⟩ := List.mem_map.mp hmem
    rw [hinv.node _ he] at hused
    obtain ⟨pre, post, rfl⟩ := List.append_of_mem he
    obtain ⟨w, hw, hout⟩ := drmMmPutBlock_inv hinv hused
    have hlegal : Legal 0 manSize (BestFit 0 manSize) (owned (pre ++ (n, d) :: post)) (.put n) :=
      ⟨d.block, mem_out_of_used he hused⟩
    have howned : owned w = after (owned (pre ++ (n, d) :: post)) (.put n) := by
      ext x
      exact hinv.mem_out_put hused hout
    refine ⟨w, hw, ?_⟩
    rw [howned]
    exact hhist.snoc hlegal

theorem Refines.of_run (hsize : manSize ≤ 2 ^ 32) (hinit : drmMmInit 0 manSize kzalloc = some mm)
    (hrun : Run (Mm.step manSize) Ok ⟨mm, []⟩ acts m) : Refines manSize m := by
  refine hrun.invariant (fun _ _ _ hok hstep h => h.step hok hstep) ?_
  obtain ⟨v, hinv, hempty⟩ := drmMmInit_inv (Nat.zero_add manSize) hsize hinit
  refine ⟨v, hinv, ?_⟩
  have howned : owned v = ∅ := Set.eq_empty_of_forall_notMem fun x hx => List.not_mem_nil (hempty ▸ hx : x ∈ [])
  rw [howned]
  exact .nil _

/-- In every run of threads that ask for pages, of at most 2^32, and give them back, the manager is a
best-fit allocator: it says no only if no unused pages fit, and no two blocks that are out share a page. -/
theorem manager_best_fit (hsize : manSize ≤ 2 ^ 32) (hinit : drmMmInit 0 manSize kzalloc = some mm)
    (hrun : Run (Mm.step manSize) Ok ⟨mm, []⟩ acts m) :
    History 0 manSize (BestFit 0 manSize) m.log m.mm.owned ∧ Exclusive 0 manSize m.mm.owned := by
  obtain ⟨v, hinv, hhist⟩ := Refines.of_run hsize hinit hrun
  rw [hinv.owned_eq]
  exact ⟨hhist, hhist.exclusive⟩

/-- Two pages are asked for at an even address, and given back. -/
theorem manager_best_fit_pair :
    ∃ o, History 0 8 (BestFit 0 8) [.get ⟨2, 2, 1, 8⟩ (some (2, ⟨2, 2⟩)), .put 2] o ∧ Exclusive 0 8 o := by
  have hrun : ∃ mm m, drmMmInit 0 8 (some 0) = some mm ∧
      Run (Mm.step 8) Ok ⟨mm, []⟩ [.getNode 2 2 1 0 (some 1) (some 2), .putNode 2] m ∧
      m.log = [.get ⟨2, 2, 1, 8⟩ (some (2, ⟨2, 2⟩)), .put 2] := by
    refine ⟨_, _, rfl, .cons ⟨⟨by decide, by decide, by decide, by decide, by decide⟩, ⟨?_, ?_, ?_⟩, ?_⟩ rfl
      (.cons ⟨by decide, by decide⟩ rfl (.nil _)), rfl⟩
    · rintro n ⟨⟩
      decide
    · rintro n ⟨⟩
      decide
    · rintro n ⟨⟩
      decide
    · rintro (h | h) <;> cases h
  obtain ⟨mm, m, hinit, hrun, hlog⟩ := hrun
  have h := manager_best_fit (by decide) hinit hrun
  rw [hlog] at h
  exact ⟨_, h⟩

/-- The blocks of a run, with an empty one for a block that is put back. -/
def blocks (log : List (Call NodeId)) : List (NodeId × Block) :=
  log.filterMap fun
    | .get _ answer => answer
    | .put node => some (node, ⟨0, 0⟩)

/-- A node that was merged away keeps its free bit. Used again, it is merged while its block is out, and
page 2 is handed out twice. -/
example : (drmMmInit 0 8 (some 0)).bind (fun mm =>
    ([.getNode 1 0 0 0 (some 1) none, .getNode 1 0 0 0 (some 2) none, .getNode 1 0 0 0 (some 3) none,
      .getNode 1 0 0 0 (some 4) none, .getNode 1 0 0 0 (some 5) none, .putNode 2, .putNode 4, .putNode 3,
      .getNode 1 0 0 0 none none, .getNode 1 0 0 0 none none, .putNode 1, .putNode 3, .getNode 3 0 0 0 none none].foldlM
      (Mm.step 8) ⟨mm, []⟩).map fun m => (blocks m.log).drop 8) =
    some [(3, ⟨1, 1⟩), (4, ⟨2, 1⟩), (1, ⟨0, 0⟩), (3, ⟨0, 0⟩), (1, ⟨0, 3⟩)] := by decide +kernel

end Run

section PreGet

variable {manSize : Nat} {mm mm' : DrmMm} {m : Manager} {n p : NodeId} {r : Request} {size wasted : Nat}
  {kzalloc kzalloc₁ kzalloc₂ : Option NodeId} {acts : List Act}

/-- `drm_mm_pre_get`, with what `kzalloc` answers from the `k`-th call on. -/
def DrmMm.drmMmPreGet (mm : DrmMm) (kzalloc : Nat → Option NodeId) : Nat → Nat → Option (DrmMm × Int)
  | 0, _ => none
  | fuel + 1, k =>
    match mm.drmMmPreGetRound (kzalloc k) with
    | (mm, none) => mm.drmMmPreGet kzalloc fuel (k + 1)
    | (mm, some ret) => some (mm, ret)

/-- The answers of `kzalloc` in a round of `ttm_bo_man_get_node`. -/
structure Kzallocs where
  preGet : Nat → Option NodeId
  getBlock₁ : Option NodeId
  getBlock₂ : Option NodeId

/-- `ttm_bo_man_get_node`, by a thread that is alone. -/
def ttmBoManGetNode (r : Request) (kzallocs : Nat → Kzallocs) : Nat → Nat → DrmMm → Option (Except Int Answer × DrmMm)
  | 0, _, _ => none
  | fuel + 1, k, mm =>
    (mm.drmMmPreGet (kzallocs k).preGet (mmUnusedTarget + 1) 0).bind fun (mm, ret) =>
      if ret ≠ 0 then some (.error ret, mm)
      else
        match ttmBoManGetNodeRound mm r (kzallocs k).getBlock₁ (kzallocs k).getBlock₂ with
        | (.again, mm) => ttmBoManGetNode r kzallocs fuel (k + 1) mm
        | (answer, mm) => some (.ok answer, mm)

/-- The counter of the unused nodes is right. -/
def Counted (mm : DrmMm) : Prop := mm.numUnused = mm.unusedNodes.length

theorem Counted.split (h : Counted mm) (hget : mm.drmMmSplitAtStart p size kzalloc = some (n, mm')) :
    Counted mm' ∧ mm.numUnused ≤ mm'.numUnused + 1 := by
  obtain ⟨⟨child, mm₁⟩, hmalloc, heq⟩ := Option.map_eq_some_iff.mp hget
  obtain ⟨rfl, rfl⟩ := Prod.mk.inj heq
  unfold DrmMm.drmMmKmalloc at hmalloc
  cases kzalloc with
  | some k =>
    cases hmalloc
    exact ⟨h, Nat.le_succ _⟩
  | none =>
    dsimp only at hmalloc
    split at hmalloc
    case h_1 => cases hmalloc
    case h_2 k rest hrest =>
    cases hmalloc
    refine ⟨?_, Nat.le_add_of_sub_le (Nat.le_refl _)⟩
    show mm.numUnused - 1 = rest.length
    rw [h, hrest, List.length_cons, Nat.add_sub_cancel]

theorem Counted.takeBlock (h : Counted mm) (htake : mm.takeBlock p size kzalloc = (none, mm')) : mm.numUnused = 0 := by
  unfold DrmMm.takeBlock at htake
  split at htake
  · cases htake
  · split at htake
    · next hnone => exact drmMmSplitAtStart_none h hnone
    · cases htake

/-- Two unused nodes are enough for a block. -/
theorem Counted.getBlock (h : Counted mm) (hget : mm.getBlock p size wasted kzalloc₁ kzalloc₂ = (none, mm')) :
    mm.numUnused < 2 := by
  unfold DrmMm.getBlock at hget
  split at hget
  · exact h.takeBlock hget ▸ Nat.zero_lt_two
  · split at hget
    · next hnone => exact drmMmSplitAtStart_none h hnone ▸ Nat.zero_lt_two
    · next a mm₁ hsplit =>
      obtain ⟨h₁, hle⟩ := h.split hsplit
      split at hget
      next node mm₂ htake =>
      cases hget
      have hzero := h₁.takeBlock htake
      omega

theorem Counted.round (h : Counted mm) (hround : ttmBoManGetNodeRound mm r kzalloc₁ kzalloc₂ = (.again, mm')) :
    mm.numUnused < 2 := by
  unfold ttmBoManGetNodeRound at hround
  split at hround
  · cases hround
  · split at hround
    · next hget => exact h.getBlock hget
    · cases hround

theorem Counted.preGetRound (h : Counted mm) (kzalloc : Option NodeId) : Counted (mm.drmMmPreGetRound kzalloc).1 := by
  unfold DrmMm.drmMmPreGetRound
  split
  · cases kzalloc with
    | none => exact h
    | some k =>
      show mm.numUnused + 1 = (mm.unusedNodes ++ [k]).length
      rw [h, List.length_append]
      rfl
  · exact h

/-- A round of `drm_mm_pre_get` goes on with one more unused node, or there are two if it returns 0. -/
theorem preGetRound_cases (mm : DrmMm) (kzalloc : Option NodeId) :
    (mm.numUnused < mmUnusedTarget ∧ (mm.drmMmPreGetRound kzalloc).2 = none ∧
      (mm.drmMmPreGetRound kzalloc).1.numUnused = mm.numUnused + 1) ∨
    ∃ ret, (mm.drmMmPreGetRound kzalloc) = (mm, some ret) ∧ (ret = 0 → 2 ≤ mm.numUnused) := by
  unfold DrmMm.drmMmPreGetRound
  split
  · next hlt =>
    cases kzalloc with
    | none =>
      refine .inr ⟨_, rfl, fun hret => ?_⟩
      split at hret
      · exact absurd hret (by decide)
      · next hle => exact Nat.not_lt.mp hle
    | some k => exact .inl ⟨hlt, rfl, rfl⟩
  · next hle =>
    refine .inr ⟨_, rfl, fun _ => ?_⟩
    unfold mmUnusedTarget at hle
    omega

/-- `drm_mm_pre_get` comes to an end, and leaves two unused nodes if it returns 0. -/
theorem Counted.preGet (h : Counted mm) (kzallocs : Nat → Option NodeId) (fuel k : Nat)
    (hfuel : mmUnusedTarget ≤ mm.numUnused + fuel) :
    ∃ mm' ret, mm.drmMmPreGet kzallocs (fuel + 1) k = some (mm', ret) ∧ Counted mm' ∧ (ret = 0 → 2 ≤ mm'.numUnused) := by
  induction fuel generalizing mm k with
  | zero =>
    rcases preGetRound_cases mm (kzallocs k) with ⟨hlt, -, -⟩ | ⟨ret, hround, hret⟩
    · exact absurd hlt (Nat.not_lt.mpr hfuel)
    · refine ⟨mm, ret, ?_, h, hret⟩
      rw [DrmMm.drmMmPreGet, hround]
  | succ fuel ih =>
    rcases preGetRound_cases mm (kzallocs k) with ⟨-, hnone, hunused⟩ | ⟨ret, hround, hret⟩
    · obtain ⟨mm', ret, hrest, h'⟩ := ih (h.preGetRound (kzallocs k)) (k + 1) (by omega)
      refine ⟨mm', ret, ?_, h'⟩
      rw [DrmMm.drmMmPreGet]
      generalize hround : mm.drmMmPreGetRound (kzallocs k) = result at hnone hrest
      obtain ⟨mm₁, ret₁⟩ := result
      dsimp only at hnone
      subst hnone
      exact hrest
    · refine ⟨mm, ret, ?_, h, hret⟩
      rw [DrmMm.drmMmPreGet, hround]

end PreGet

section Clean

variable {manSize : Nat} {mm : DrmMm} {m : Manager} {kzalloc : Option NodeId} {acts : List Act}

/-- `ttm_bo_man_takedown`: whether the manager is taken down. -/
def ttmBoManTakedown (mm : DrmMm) : Int := if mm.drmMmClean then 0 else -16

end Clean

end Vmwgfx.Mm
