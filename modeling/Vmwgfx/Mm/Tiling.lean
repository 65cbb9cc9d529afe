import Mathlib.Data.List.Chain
import Mathlib.Data.List.Nodup
import Vmwgfx.Lib.Tiles
import Vmwgfx.Mm.Defs

/-! The nodes of a range manager tile its range, and the free ones are not next to each other. -/

namespace Vmwgfx.Mm

open Vmwgfx.Lib

section List

variable {cur child : NodeId} {pre post : List NodeId}

theorem insertBefore_append (h : cur ∉ pre) :
    insertBefore child cur (pre ++ cur :: post) = pre ++ child :: cur :: post := by
  induction pre with
  | nil => exact if_pos rfl
  | cons a pre ih =>
    rw [List.mem_cons, not_or] at h
    rw [List.cons_append, insertBefore, if_neg (Ne.symm h.1), ih h.2, List.cons_append]

theorem nextOf_append (h : cur ∉ pre) : nextOf cur (pre ++ cur :: post) = post.head? := by
  induction pre with
  | nil => exact if_pos rfl
  | cons a pre ih =>
    rw [List.mem_cons, not_or] at h
    rw [List.cons_append, nextOf, if_neg (Ne.symm h.1), ih h.2]

theorem prevOf_cons (a : NodeId) (h : cur ∉ post) : prevOf cur (a :: post) = none := by
  induction post generalizing a with
  | nil => rfl
  | cons b post ih =>
    rw [List.mem_cons, not_or] at h
    rw [prevOf, if_neg (Ne.symm h.1)]
    exact ih b h.2

theorem prevOf_append (h : cur ∉ pre) (hpost : cur ∉ post) : prevOf cur (pre ++ cur :: post) = pre.getLast? := by
  induction pre with
  | nil => exact prevOf_cons cur hpost
  | cons a pre ih =>
    rw [List.mem_cons, not_or] at h
    cases pre with
    | nil => exact if_pos rfl
    | cons b pre =>
      have hne : b ≠ cur := fun heq => h.2 (heq ▸ List.mem_cons_self)
      rw [List.cons_append, List.cons_append, prevOf, if_neg hne, List.getLast?_cons_cons]
      exact ih h.2

end List

/-- A node of the list, with what is in it. -/
abbrev Entry := NodeId × DrmMmNode

/-- The nodes of the manager are these, in this order, and its nodes do not overlap in memory. -/
structure Represents (mm : DrmMm) (v : List Entry) : Prop where
  list : mm.nodeList = v.map Prod.fst
  node : ∀ e ∈ v, mm.node e.1 = e.2
  nodup : (v.map Prod.fst ++ mm.unusedNodes).Nodup
  unused : mm.numUnused = mm.unusedNodes.length

/-- The memory that `kzalloc` returns is not in use. -/
def Fresh (mm : DrmMm) (kzalloc : Option NodeId) : Prop := ∀ n, kzalloc = some n → n ∉ mm.nodeList ++ mm.unusedNodes

/-- The free bit is not left in a node that may be used again. -/
def Clean (mm : DrmMm) : Prop := ∀ n ∈ mm.unusedNodes, (mm.node n).free = false

namespace Represents

variable {mm mm' : DrmMm} {v pre post : List Entry} {n c p : NodeId} {d d' : DrmMmNode} {kzalloc : Option NodeId}

theorem withStack (h : Represents mm v) (freeStack : List NodeId) : Represents { mm with freeStack := freeStack } v :=
  ⟨h.list, h.node, h.nodup, h.unused⟩

theorem node_eq (h : Represents mm (pre ++ (p, d) :: post)) : mm.node p = d :=
  h.node _ (List.mem_append_right _ List.mem_cons_self)

theorem ne (h : Represents mm (pre ++ (p, d) :: post)) {e : Entry} (he : e ∈ pre ∨ e ∈ post) : e.1 ≠ p := by
  have hnodup := List.Nodup.of_append_left h.nodup
  rw [List.map_append, List.map_cons, List.nodup_middle, ← List.map_append, List.nodup_cons] at hnodup
  intro heq
  have hmem := List.mem_map_of_mem (f := Prod.fst) (List.mem_append.mpr he)
  exact hnodup.1 (heq ▸ hmem)

theorem not_mem_pre (h : Represents mm (pre ++ (p, d) :: post)) : p ∉ pre.map Prod.fst := fun hp => by
  obtain ⟨e, he, heq⟩ := List.mem_map.mp hp
  exact h.ne (.inl he) heq

theorem not_mem_post (h : Represents mm (pre ++ (p, d) :: post)) : p ∉ post.map Prod.fst := fun hp => by
  obtain ⟨e, he, heq⟩ := List.mem_map.mp hp
  exact h.ne (.inr he) heq

theorem ne_unused (h : Represents mm (pre ++ (p, d) :: post)) (hn : n ∈ mm.unusedNodes) : n ≠ p := by
  rintro rfl
  refine List.disjoint_of_nodup_append h.nodup ?_ hn
  exact List.mem_map_of_mem (List.mem_append_right _ List.mem_cons_self)

theorem list_eq (h : Represents mm (pre ++ (p, d) :: post)) :
    mm.nodeList = pre.map Prod.fst ++ p :: post.map Prod.fst := by
  rw [h.list, List.map_append, List.map_cons]

/-- Writing to a node of the list. -/
theorem set (h : Represents mm (pre ++ (p, d) :: post)) (d' : DrmMmNode) :
    Represents (mm.setNode p d') (pre ++ (p, d') :: post) where
  list := h.list_eq.trans (by rw [List.map_append, List.map_cons])
  node e he := by
    rcases List.mem_append.mp he with hpre | hpost
    · exact (Function.update_of_ne (h.ne (.inl hpre)) _ _).trans (h.node e (List.mem_append_left _ hpre))
    rcases List.mem_cons.mp hpost with rfl | hpost
    · exact Function.update_self _ _ _
    · exact (Function.update_of_ne (h.ne (.inr hpost)) _ _).trans
        (h.node e (List.mem_append_right _ (List.mem_cons_of_mem _ hpost)))
  nodup := by
    have := h.nodup
    rw [List.map_append, List.map_cons] at this ⊢
    exact this
  unused := h.unused

/-- Writing to a node that is not in the list. -/
theorem setOther (h : Represents mm v) (hn : n ∉ v.map Prod.fst) (d : DrmMmNode) : Represents (mm.setNode n d) v where
  list := h.list
  node e he := by
    have hne : e.1 ≠ n := fun heq => hn (heq ▸ List.mem_map_of_mem he)
    exact (Function.update_of_ne hne _ _).trans (h.node e he)
  nodup := h.nodup
  unused := h.unused

theorem insert (h : Represents mm (pre ++ (p, d) :: post)) (hc : c ∉ mm.nodeList ++ mm.unusedNodes) :
    Represents { mm with nodeList := insertBefore c p mm.nodeList } (pre ++ (c, mm.node c) :: (p, d) :: post) where
  list := by
    show insertBefore c p mm.nodeList = _
    rw [h.list_eq, insertBefore_append h.not_mem_pre, List.map_append, List.map_cons, List.map_cons]
  node e he := by
    rw [List.mem_append, List.mem_cons] at he
    rcases he with hpre | rfl | hpost
    · exact h.node e (List.mem_append_left _ hpre)
    · rfl
    · exact h.node e (List.mem_append_right _ hpost)
  nodup := by
    have hnodup := h.nodup
    rw [h.list] at hc
    rw [List.map_append, List.map_cons, List.append_assoc] at hc hnodup ⊢
    rw [List.cons_append, List.nodup_middle]
    exact List.nodup_cons.mpr ⟨hc, hnodup⟩
  unused := h.unused

theorem erase (h : Represents mm (pre ++ (p, d) :: post)) :
    Represents { mm with nodeList := mm.nodeList.erase p } (pre ++ post) ∧
      p ∉ (pre ++ post).map Prod.fst ++ mm.unusedNodes := by
  have hnodup := h.nodup
  rw [List.map_append, List.map_cons, List.append_assoc, List.cons_append, List.nodup_middle, ← List.append_assoc,
    ← List.map_append, List.nodup_cons] at hnodup
  refine ⟨⟨?_, ?_, hnodup.2, h.unused⟩, hnodup.1⟩
  · show mm.nodeList.erase p = _
    rw [h.list_eq, List.erase_append_right _ h.not_mem_pre, List.erase_cons_head, List.map_append]
  · intro e he
    refine h.node e (List.mem_append.mpr ?_)
    rcases List.mem_append.mp he with hpre | hpost
    · exact .inl hpre
    · exact .inr (List.mem_cons_of_mem _ hpost)

theorem toUnused (h : Represents mm v) (hn : n ∉ v.map Prod.fst ++ mm.unusedNodes) : Represents (mm.toUnused n) v := by
  unfold DrmMm.toUnused
  split
  · refine ⟨h.list, h.node, ?_, congrArg (· + 1) h.unused⟩
    exact List.nodup_middle.mpr (List.nodup_cons.mpr ⟨hn, h.nodup⟩)
  · exact h

end Represents

/-- What a call that may take a node gives: the node is new or was unused. -/
structure Got (mm mm' : DrmMm) (v : List Entry) (kzalloc : Option NodeId) (c : NodeId) : Prop where
  represents : Represents mm' v
  stack : mm'.freeStack = mm.freeStack
  clean : Clean mm → Clean mm'
  subset : mm'.unusedNodes ⊆ mm.unusedNodes
  origin : kzalloc = some c ∨ c ∈ mm.unusedNodes
  unused_le : mm.numUnused ≤ mm'.numUnused + 1

section Calls

variable {mm mm' : DrmMm} {v pre post : List Entry} {n c p : NodeId} {d : DrmMmNode} {size : Nat}
  {kzalloc : Option NodeId}

theorem drmMmKmalloc_got (h : Represents mm v) (hfresh : Fresh mm kzalloc) (hclean : kzalloc = none → Clean mm)
    (hget : mm.drmMmKmalloc kzalloc = some (c, mm')) :
    Got mm mm' v kzalloc c ∧ c ∉ mm'.nodeList ++ mm'.unusedNodes ∧ (mm'.node c).free = false := by
  unfold DrmMm.drmMmKmalloc at hget
  cases kzalloc with
  | some child =>
    cases hget
    have hc := hfresh c rfl
    have hlist : c ∉ v.map Prod.fst := h.list ▸ fun hmem => hc (List.mem_append_left _ hmem)
    refine ⟨⟨h.setOther hlist _, rfl, fun hclean n hn => ?_, List.Subset.refl _, .inl rfl, Nat.le_succ _⟩, hc, ?_⟩
    · have hne : n ≠ c := fun heq => hc (heq ▸ List.mem_append_right _ hn)
      exact (congrArg DrmMmNode.free (Function.update_of_ne hne _ _)).trans (hclean n hn)
    · show (Function.update mm.node c ⟨false, 0, 0⟩ c).free = false
      rw [Function.update_self]
  | none =>
    dsimp only at hget
    split at hget
    case h_1 => cases hget
    case h_2 child rest hrest =>
    cases hget
    have hnodup := h.nodup
    have hunused := h.unused
    rw [hrest] at hnodup hunused
    rw [List.nodup_middle, List.nodup_cons] at hnodup
    refine ⟨⟨⟨h.list, h.node, hnodup.2, ?_⟩, rfl, ?_, ?_, .inr ?_, Nat.le_add_of_sub_le (Nat.le_refl _)⟩, ?_, ?_⟩
    · show mm.numUnused - 1 = rest.length
      rw [hunused, List.length_cons, Nat.add_sub_cancel]
    · exact fun hclean n hn => hclean n (hrest ▸ List.mem_cons_of_mem _ hn)
    · exact hrest ▸ List.subset_cons_self _ _
    · exact hrest ▸ List.mem_cons_self
    · show c ∉ mm.nodeList ++ rest
      rw [h.list]
      exact hnodup.1
    · exact hclean rfl c (hrest ▸ List.mem_cons_self)

theorem drmMmSplitAtStart_none (h : mm.numUnused = mm.unusedNodes.length)
    (hget : mm.drmMmSplitAtStart p size kzalloc = none) : mm.numUnused = 0 := by
  have hmalloc := Option.map_eq_none_iff.mp hget
  unfold DrmMm.drmMmKmalloc at hmalloc
  cases kzalloc with
  | some child => cases hmalloc
  | none =>
    dsimp only at hmalloc
    split at hmalloc
    case h_1 hnil => exact h.trans (congrArg List.length hnil)
    case h_2 => cases hmalloc

theorem drmMmSplitAtStart_got (h : Represents mm (pre ++ (p, d) :: post)) (hfresh : Fresh mm kzalloc)
    (hclean : kzalloc = none → Clean mm) (hget : mm.drmMmSplitAtStart p size kzalloc = some (c, mm')) :
    Got mm mm' (pre ++ (c, ⟨false, d.start, size⟩) ::
      (p, { d with size := sub64 d.size size, start := add64 d.start size }) :: post) kzalloc c := by
  obtain ⟨⟨child, mm₁⟩, hmalloc, heq⟩ := Option.map_eq_some_iff.mp hget
  obtain ⟨rfl, rfl⟩ := Prod.mk.inj heq
  obtain ⟨hgot, hc, hfree⟩ := drmMmKmalloc_got h hfresh hclean hmalloc
  have hrep := hgot.represents
  have hchild : child ∉ (pre ++ (p, d) :: post).map Prod.fst := hrep.list ▸ fun hmem =>
    hc (List.mem_append_left _ hmem)
  have hne : child ≠ p := fun heq => hchild (heq ▸ List.mem_map_of_mem (List.mem_append_right _ List.mem_cons_self))
  refine ⟨?_, hgot.stack, fun hclean n hn => ?_, hgot.subset, hgot.origin, hgot.unused_le⟩
  · have hset := ((hrep.setOther hchild ⟨false, d.start, size⟩).set
      { d with size := sub64 d.size size, start := add64 d.start size }).insert hc
    have hnew : ((mm₁.setNode child ⟨false, d.start, size⟩).setNode p
        { d with size := sub64 d.size size, start := add64 d.start size }).node child = ⟨false, d.start, size⟩ :=
      (Function.update_of_ne hne _ _).trans (Function.update_self _ _ _)
    rw [hnew] at hset
    simp only [hrep.node_eq, hfree]
    exact hset
  · have hp : n ≠ p := hrep.ne_unused hn
    have hn' : n ≠ child := fun heq => hc (heq ▸ List.mem_append_right _ hn)
    refine (congrArg DrmMmNode.free ?_).trans (hgot.clean hclean n hn)
    exact (Function.update_of_ne hp _ _).trans (Function.update_of_ne hn' _ _)

end Calls

section Blocks

/-- The blocks of the nodes that are not free. -/
def out (v : List Entry) : List (NodeId × Block) := (v.filter fun e => !e.2.free).map fun e => (e.1, e.2.block)

def frees (v : List Entry) : List NodeId := (v.filter (·.2.free)).map Prod.fst

/-- Two neighbours are not both free. -/
def Separated (a b : Entry) : Prop := ¬ (a.2.free = true ∧ b.2.free = true)

/-- The nodes fill the range, and the free stack has the free ones. -/
structure Sound (lo hi : Nat) (v : List Entry) (freeStack : List NodeId) : Prop where
  tiles : Tiles lo (v.map (·.2.block)) hi
  maximal : v.IsChain Separated
  stack : freeStack.Perm (frees v)
  pos : lo < hi → ∀ e ∈ v, 0 < e.2.size

variable {lo hi size : Nat} {v pre post : List Entry} {e e' : Entry} {c n p : NodeId} {d dn dp : DrmMmNode}
  {freeStack : List NodeId}

@[simp] theorem out_append (v w : List Entry) : out (v ++ w) = out v ++ out w := by simp [out]

@[simp] theorem out_nil : out [] = [] := rfl

theorem out_cons_free (h : e.2.free = true) : out (e :: v) = out v := by simp [out, h]

theorem out_cons_used (h : e.2.free = false) : out (e :: v) = (e.1, e.2.block) :: out v := by simp [out, h]

@[simp] theorem frees_append (v w : List Entry) : frees (v ++ w) = frees v ++ frees w := by simp [frees]

@[simp] theorem frees_nil : frees [] = [] := rfl

theorem frees_cons_free (h : e.2.free = true) : frees (e :: v) = e.1 :: frees v := by simp [frees, h]

theorem frees_cons_used (h : e.2.free = false) : frees (e :: v) = frees v := by simp [frees, h]

/-- The free bit decides alone. -/
theorem frees_middle_congr (d d' : DrmMmNode) (h : d.free = d'.free) :
    frees (pre ++ (n, d) :: post) = frees (pre ++ (n, d') :: post) := by
  rw [frees_append, frees_append]
  cases hf : d'.free with
  | false => rw [frees_cons_used (e := (n, d')) hf, frees_cons_used (e := (n, d)) (h.trans hf)]
  | true => rw [frees_cons_free (e := (n, d')) hf, frees_cons_free (e := (n, d)) (h.trans hf)]

/-- A used node may stand anywhere, a free one not next to another. -/
theorem isChain_middle_iff : (pre ++ e :: post).IsChain Separated ↔ pre.IsChain Separated ∧ post.IsChain Separated ∧
    (∀ x ∈ pre.getLast?, Separated x e) ∧ ∀ y ∈ post.head?, Separated e y := by
  rw [List.isChain_append, List.isChain_cons]
  simp only [List.head?_cons, Option.mem_some_iff]
  constructor
  · rintro ⟨hpre, ⟨hhead, hpost⟩, hlast⟩
    exact ⟨hpre, hpost, fun x hx => hlast x hx e rfl, hhead⟩
  · rintro ⟨hpre, hpost, hlast, hhead⟩
    exact ⟨hpre, ⟨hhead, hpost⟩, fun x hx y hy => hy ▸ hlast x hx⟩

theorem tiles_middle_iff : Tiles lo ((pre ++ e :: post).map (·.2.block)) hi ↔
    Tiles lo (pre.map (·.2.block)) e.2.start ∧ Tiles (e.2.start + e.2.size) (post.map (·.2.block)) hi := by
  rw [List.map_append, List.map_cons, Tiles.middle_iff]
  rfl

theorem pos_middle_iff : (∀ x ∈ pre ++ e :: post, 0 < x.2.size) ↔
    (∀ x ∈ pre, 0 < x.2.size) ∧ 0 < e.2.size ∧ ∀ x ∈ post, 0 < x.2.size := by
  rw [List.forall_mem_append, List.forall_mem_cons]

theorem separated_of_used_left (h : e.2.free = false) : Separated e e' := fun h' => Bool.noConfusion (h.symm.trans h'.1)

theorem separated_of_used_right (h : e'.2.free = false) : Separated e e' := fun h' => Bool.noConfusion (h.symm.trans h'.2)

/-- A neighbour of a free node is used. -/
theorem Separated.used_left (h : Separated e e') (hfree : e'.2.free = true) : e.2.free = false :=
  Bool.eq_false_iff.mpr fun h' => h ⟨h', hfree⟩

theorem Separated.used_right (h : Separated e e') (hfree : e.2.free = true) : e'.2.free = false :=
  Bool.eq_false_iff.mpr fun h' => h ⟨hfree, h'⟩

namespace Sound

/-- The front of a free node as a used node. -/
theorem split (h : Sound lo hi (pre ++ (p, d) :: post) freeStack) (hpos : 0 < size) (hsize : size < d.size) :
    Sound lo hi (pre ++ (c, ⟨false, d.start, size⟩) :: (p, { d with start := d.start + size, size := d.size - size }) :: post)
      freeStack where
  tiles := by
    obtain ⟨hpre, hpost⟩ := tiles_middle_iff.mp h.tiles
    refine tiles_middle_iff.mpr ⟨hpre, rfl, ?_⟩
    show Tiles (d.start + size + (d.size - size)) _ hi
    rw [Nat.add_assoc, Nat.add_sub_cancel' (Nat.le_of_lt hsize)]
    exact hpost
  maximal := by
    obtain ⟨hpre, hpost, -, hhead⟩ := isChain_middle_iff.mp h.maximal
    refine isChain_middle_iff.mpr ⟨hpre, List.isChain_cons.mpr ⟨hhead, hpost⟩, fun x _ => separated_of_used_right rfl,
      fun y _ => separated_of_used_left rfl⟩
  stack := by
    rw [frees_append, frees_cons_used rfl, ← frees_append,
      frees_middle_congr { d with start := d.start + size, size := d.size - size } d rfl]
    exact h.stack
  pos hlt := by
    obtain ⟨h₁, -, h₃⟩ := pos_middle_iff.mp (h.pos hlt)
    exact pos_middle_iff.mpr ⟨h₁, hpos, List.forall_mem_cons.mpr ⟨Nat.sub_pos_of_lt hsize, h₃⟩⟩

/-- A free node as a used node. -/
theorem take (h : Sound lo hi (pre ++ (p, d) :: post) freeStack) (hfree : d.free = true) :
    Sound lo hi (pre ++ (p, { d with free := false }) :: post) (freeStack.erase p) where
  tiles := tiles_middle_iff.mpr (tiles_middle_iff (e := (p, d)).mp h.tiles)
  maximal := by
    obtain ⟨hpre, hpost, -, -⟩ := isChain_middle_iff.mp h.maximal
    exact isChain_middle_iff.mpr ⟨hpre, hpost, fun x _ => separated_of_used_right rfl,
      fun y _ => separated_of_used_left rfl⟩
  stack := by
    have hstack := h.stack
    rw [frees_append, frees_cons_free hfree] at hstack
    have herase := (hstack.trans List.perm_middle).erase p
    rw [List.erase_cons_head] at herase
    rw [frees_append, frees_cons_used rfl]
    exact herase
  pos hlt := pos_middle_iff.mpr (pos_middle_iff (e := (p, d)).mp (h.pos hlt))

section Put

/-- A used node as a free one. -/
theorem release (h : Sound lo hi (pre ++ (p, d) :: post) freeStack) (hused : d.free = false)
    (hpre : ∀ x ∈ pre.getLast?, x.2.free = false) (hpost : ∀ y ∈ post.head?, y.2.free = false) :
    Sound lo hi (pre ++ (p, { d with free := true }) :: post) (p :: freeStack) where
  tiles := tiles_middle_iff.mpr (tiles_middle_iff (e := (p, d)).mp h.tiles)
  maximal := by
    obtain ⟨h₁, h₂, -, -⟩ := isChain_middle_iff.mp h.maximal
    exact isChain_middle_iff.mpr ⟨h₁, h₂, fun x hx => separated_of_used_left (hpre x hx),
      fun y hy => separated_of_used_right (hpost y hy)⟩
  stack := by
    have hstack := h.stack
    rw [frees_append, frees_cons_used hused] at hstack
    rw [frees_append, frees_cons_free rfl]
    exact (hstack.cons p).trans List.perm_middle.symm
  pos hlt := pos_middle_iff.mpr (pos_middle_iff (e := (p, d)).mp (h.pos hlt))

/-- A used node as a part of the free one in front. -/
theorem mergePrev (h : Sound lo hi (pre ++ (n, dn) :: (p, d) :: post) freeStack) (hused : d.free = false)
    (hpost : dn.free = true → ∀ y ∈ post.head?, y.2.free = false) :
    Sound lo hi (pre ++ (n, { dn with size := dn.size + d.size }) :: post) freeStack where
  tiles := by
    obtain ⟨hpre, hp, hpost⟩ := tiles_middle_iff.mp h.tiles
    refine tiles_middle_iff.mpr ⟨hpre, ?_⟩
    show Tiles (dn.start + (dn.size + d.size)) _ hi
    rw [← Nat.add_assoc]
    exact hpost
  maximal := by
    obtain ⟨h₁, h₂, hlast, -⟩ := isChain_middle_iff.mp h.maximal
    refine isChain_middle_iff.mpr ⟨h₁, (List.isChain_cons.mp h₂).2, hlast, fun y hy hboth => ?_⟩
    exact Bool.noConfusion ((hpost hboth.1 y hy).symm.trans hboth.2)
  stack := by
    have hstack := h.stack
    rw [List.append_cons, frees_append, frees_cons_used hused, ← frees_append, ← List.append_cons] at hstack
    rw [frees_middle_congr { dn with size := dn.size + d.size } dn rfl]
    exact hstack
  pos hlt := by
    obtain ⟨h₁, h₂, h₃⟩ := pos_middle_iff.mp (h.pos hlt)
    exact pos_middle_iff.mpr ⟨h₁, Nat.add_pos_left h₂ _, (List.forall_mem_cons.mp h₃).2⟩

/-- A used node as a part of the free one behind. -/
theorem mergeNext (h : Sound lo hi (pre ++ (p, d) :: (n, dn) :: post) freeStack) (hused : d.free = false)
    (hpre : dn.free = true → ∀ x ∈ pre.getLast?, x.2.free = false) :
    Sound lo hi (pre ++ (n, { dn with start := d.start, size := dn.size + d.size }) :: post) freeStack where
  tiles := by
    obtain ⟨hpre, hn, hpost⟩ := tiles_middle_iff.mp h.tiles
    refine tiles_middle_iff.mpr ⟨hpre, ?_⟩
    show Tiles (d.start + (dn.size + d.size)) _ hi
    rw [Nat.add_comm dn.size, ← Nat.add_assoc]
    exact hpost
  maximal := by
    obtain ⟨h₁, h₂, -, -⟩ := isChain_middle_iff.mp h.maximal
    obtain ⟨hhead, h₂⟩ := List.isChain_cons.mp h₂
    refine isChain_middle_iff.mpr ⟨h₁, h₂, fun x hx hboth => ?_, hhead⟩
    exact Bool.noConfusion ((hpre hboth.2 x hx).symm.trans hboth.1)
  stack := by
    have hstack := h.stack
    rw [frees_append, frees_cons_used hused, ← frees_append] at hstack
    rw [frees_middle_congr { dn with start := d.start, size := dn.size + d.size } dn rfl]
    exact hstack
  pos hlt := by
    obtain ⟨h₁, -, h₃⟩ := pos_middle_iff.mp (h.pos hlt)
    obtain ⟨h₂, h₃⟩ := List.forall_mem_cons.mp h₃
    exact pos_middle_iff.mpr ⟨h₁, Nat.add_pos_left h₂ _, h₃⟩

/-- A used node between two free ones: the one in front has all of it. -/
theorem mergeBoth (h : Sound lo hi (pre ++ (p, dp) :: (c, d) :: (n, dn) :: post) freeStack) (hused : d.free = false)
    (hprev : dp.free = true) (hnext : dn.free = true) :
    Sound lo hi (pre ++ (p, { dp with size := dp.size + d.size + dn.size }) :: post) (freeStack.erase n) where
  tiles := by
    obtain ⟨hpre, hc, hn, hpost⟩ := tiles_middle_iff.mp h.tiles
    refine tiles_middle_iff.mpr ⟨hpre, ?_⟩
    show Tiles (dp.start + (dp.size + d.size + dn.size)) _ hi
    rw [← Nat.add_assoc, ← Nat.add_assoc]
    exact hpost
  maximal := by
    obtain ⟨h₁, h₂, hlast, -⟩ := isChain_middle_iff.mp h.maximal
    obtain ⟨-, h₂⟩ := List.isChain_cons.mp h₂
    obtain ⟨hhead, h₂⟩ := List.isChain_cons.mp h₂
    exact isChain_middle_iff.mpr ⟨h₁, h₂, hlast, fun y hy => separated_of_used_right ((hhead y hy).used_right hnext)⟩
  stack := by
    have hstack := h.stack
    rw [frees_append, frees_cons_free hprev, frees_cons_used hused, frees_cons_free hnext, List.append_cons] at hstack
    have herase := (hstack.trans List.perm_middle).erase n
    rw [List.erase_cons_head] at herase
    rw [frees_append, frees_cons_free (e := (p, { dp with size := dp.size + d.size + dn.size })) hprev, List.append_cons]
    exact herase
  pos hlt := by
    obtain ⟨h₁, h₂, h₃⟩ := pos_middle_iff.mp (h.pos hlt)
    refine pos_middle_iff.mpr ⟨h₁, ?_, (List.forall_mem_cons.mp (List.forall_mem_cons.mp h₃).2).2⟩
    exact Nat.add_pos_left (Nat.add_pos_left h₂ _) _

end Put

end Sound

end Blocks

end Vmwgfx.Mm
