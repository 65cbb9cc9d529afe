import Vmwgfx.Lib.Allocator
import Vmwgfx.Lib.Uint

/-! The range manager of `drm_mm.c`, and `ttm_bo_manager.c` that hands out pages with it. -/

namespace Vmwgfx.Mm

open Vmwgfx.Lib

abbrev NodeId := Nat

/-- `struct drm_mm_node`, less the scan bits. -/
structure DrmMmNode where
  free : Bool
  start : Nat
  size : Nat
  deriving DecidableEq, Repr

def DrmMmNode.block (d : DrmMmNode) : Block := ⟨d.start, d.size⟩

/-- `struct drm_mm`: the nodes in memory, and the lists through them. -/
structure DrmMm where
  node : NodeId → DrmMmNode
  nodeList : List NodeId
  freeStack : List NodeId
  unusedNodes : List NodeId
  numUnused : Nat

def mmUnusedTarget : Nat := 4

/-- `unsigned long` sums. -/
def add64 (a b : Nat) : Nat := (a + b) % 2 ^ 64

section List

/-- `list_add_tail` with a node of the list as its head. -/
def insertBefore (child parent : NodeId) : List NodeId → List NodeId
  | [] => [child]
  | a :: l => if a = parent then child :: a :: l else a :: insertBefore child parent l

/-- The node in front of `cur`; there is none at the head of the list. -/
def prevOf (cur : NodeId) : List NodeId → Option NodeId
  | [] => none
  | [_] => none
  | a :: b :: l => if b = cur then some a else prevOf cur (b :: l)

def nextOf (cur : NodeId) : List NodeId → Option NodeId
  | [] => none
  | a :: l => if a = cur then l.head? else nextOf cur l

end List

section Hole

/-- `alignment - start % alignment`, or 0. -/
def alignGap (start alignment : Nat) : Nat :=
  if alignment ≠ 0 ∧ start % alignment ≠ 0 then alignment - start % alignment else 0

def checkFreeHole (start stop size alignment : Nat) : Bool :=
  if sub64 stop start < size then false
  else decide (stop ≥ add64 (add64 start size) (alignGap start alignment))

/-- `adj_start` and `adj_end`. -/
def rangeHole (start stop : Nat) (d : DrmMmNode) : Nat × Nat :=
  (if d.start < start then start else d.start,
    if add64 d.start d.size > stop then stop else add64 d.start d.size)

end Hole

namespace DrmMm

variable (mm : DrmMm)

def setNode (n : NodeId) (d : DrmMmNode) : DrmMm := { mm with node := Function.update mm.node n d }

/-- `drm_mm_kmalloc`, where `kzalloc` returns zeroed memory or nothing. A node that is used again
is as it was left. -/
def drmMmKmalloc (kzalloc : Option NodeId) : Option (NodeId × DrmMm) :=
  match kzalloc with
  | some child => some (child, mm.setNode child ⟨false, 0, 0⟩)
  | none =>
    match mm.unusedNodes with
    | [] => none
    | child :: rest => some (child, { mm with unusedNodes := rest, numUnused := mm.numUnused - 1 })

/-- One round of `drm_mm_pre_get`: whether it goes on, or what it returns. -/
def drmMmPreGetRound (kzalloc : Option NodeId) : DrmMm × Option Int :=
  if mm.numUnused < mmUnusedTarget then
    match kzalloc with
    | none => (mm, some (if mm.numUnused < 2 then -12 else 0))
    | some node =>
      ({ mm.setNode node ⟨false, 0, 0⟩ with
        unusedNodes := mm.unusedNodes ++ [node], numUnused := mm.numUnused + 1 }, none)
  else (mm, some 0)

def drmMmCreateTailNode (start size : Nat) (kzalloc : Option NodeId) : Option DrmMm :=
  (mm.drmMmKmalloc kzalloc).map fun (child, mm) =>
    { mm.setNode child ⟨true, start, size⟩ with
      nodeList := mm.nodeList ++ [child], freeStack := mm.freeStack ++ [child] }

def drmMmSplitAtStart (parent : NodeId) (size : Nat) (kzalloc : Option NodeId) : Option (NodeId × DrmMm) :=
  (mm.drmMmKmalloc kzalloc).map fun (child, mm) =>
    let p := mm.node parent
    (child, { (mm.setNode child { mm.node child with size, start := p.start }).setNode parent
        { p with size := sub64 p.size size, start := add64 p.start size } with
      nodeList := insertBefore child parent mm.nodeList })

/-- A node that is not needed goes to the unused ones, or is freed. -/
def toUnused (n : NodeId) : DrmMm :=
  if mm.numUnused < mmUnusedTarget then
    { mm with unusedNodes := n :: mm.unusedNodes, numUnused := mm.numUnused + 1 }
  else mm

/-- `prev_node->size += size`. -/
def grow (n : NodeId) (size : Nat) : DrmMm :=
  mm.setNode n { mm.node n with size := add64 (mm.node n).size size }

/-- Merges with the free node in front, if it is one. -/
def mergePrev (cur : NodeId) : Option NodeId → DrmMm × Bool
  | some prev => if (mm.node prev).free then (mm.grow prev (mm.node cur).size, true) else (mm, false)
  | none => (mm, false)

/-- Merges with the free node behind, if it is one. -/
def mergeNext (cur : NodeId) (prev : Option NodeId) (merged : Bool) : Option NodeId → DrmMm × Bool
  | some next =>
    if (mm.node next).free then
      match prev, merged with
      | some prev, true =>
        let mm := mm.grow prev (mm.node next).size
        (({ mm with nodeList := mm.nodeList.erase next, freeStack := mm.freeStack.erase next } : DrmMm).toUnused next,
          true)
      | _, _ =>
        (mm.setNode next { mm.node next with
          size := add64 (mm.node next).size (mm.node cur).size, start := (mm.node cur).start }, true)
    else (mm, merged)
  | none => (mm, merged)

def drmMmPutBlock (cur : NodeId) : DrmMm :=
  let prev := prevOf cur mm.nodeList
  let next := nextOf cur mm.nodeList
  match mm.mergePrev cur prev with
  | (mm, merged) =>
    match mm.mergeNext cur prev merged next with
    | (mm, false) => { mm.setNode cur { mm.node cur with free := true } with freeStack := cur :: mm.freeStack }
    | (mm, true) => ({ mm with nodeList := mm.nodeList.erase cur } : DrmMm).toUnused cur

/-- The node itself if it fits, or its front. -/
def takeBlock (node : NodeId) (size : Nat) (kzalloc : Option NodeId) : Option NodeId × DrmMm :=
  if (mm.node node).size = size then
    (some node, { mm.setNode node { mm.node node with free := false } with freeStack := mm.freeStack.erase node })
  else
    match mm.drmMmSplitAtStart node size kzalloc with
    | none => (none, mm)
    | some (child, mm) => (some child, mm)

/-- What `drm_mm_get_block_generic` and `drm_mm_get_block_range_generic` do once they know how much to
leave out in front; memory for a node may be asked for twice. -/
def getBlock (node : NodeId) (size wasted : Nat) (kzalloc₁ kzalloc₂ : Option NodeId) : Option NodeId × DrmMm :=
  if wasted = 0 then mm.takeBlock node size kzalloc₁
  else
    match mm.drmMmSplitAtStart node wasted kzalloc₁ with
    | none => (none, mm)
    | some (alignSplitoff, mm) =>
      match mm.takeBlock node size kzalloc₂ with
      | (node, mm) => (node, mm.drmMmPutBlock alignSplitoff)

def drmMmGetBlockGeneric (node : NodeId) (size alignment : Nat) (kzalloc₁ kzalloc₂ : Option NodeId) :
    Option NodeId × DrmMm :=
  mm.getBlock node size (alignGap (mm.node node).start alignment) kzalloc₁ kzalloc₂

def drmMmGetBlockRangeGeneric (node : NodeId) (size alignment start : Nat) (kzalloc₁ kzalloc₂ : Option NodeId) :
    Option NodeId × DrmMm :=
  let wasted := if (mm.node node).start < start then (start - (mm.node node).start) % 2 ^ 32 else 0
  mm.getBlock node size (add32 wasted (alignGap (add64 (mm.node node).start wasted) alignment)) kzalloc₁ kzalloc₂

/-- The loop of the searches over the free stack, where `hole` tells what is looked at of a node. -/
def searchFree (hole : DrmMmNode → Nat × Nat) (size alignment : Nat) (bestMatch : Bool) :
    List NodeId → Option NodeId → Nat → Option NodeId
  | [], best, _ => best
  | entry :: rest, best, bestSize =>
    if ¬ checkFreeHole (hole (mm.node entry)).1 (hole (mm.node entry)).2 size alignment then
      searchFree hole size alignment bestMatch rest best bestSize
    else if ¬ bestMatch then some entry
    else if (mm.node entry).size < bestSize then
      searchFree hole size alignment bestMatch rest (some entry) (mm.node entry).size
    else searchFree hole size alignment bestMatch rest best bestSize

def drmMmSearchFree (size alignment : Nat) (bestMatch : Bool) : Option NodeId :=
  mm.searchFree (fun d => (d.start, add64 d.start d.size)) size alignment bestMatch mm.freeStack none (2 ^ 64 - 1)

def drmMmSearchFreeInRange (size alignment start stop : Nat) (bestMatch : Bool) : Option NodeId :=
  mm.searchFree (rangeHole start stop) size alignment bestMatch mm.freeStack none (2 ^ 64 - 1)

/-- `head->next->next == head`. -/
def drmMmClean : Bool := decide (mm.nodeList.length ≤ 1)

end DrmMm

/-- `drm_mm_init`. -/
def drmMmInit (start size : Nat) (kzalloc : Option NodeId) : Option DrmMm :=
  ({ node := fun _ => ⟨false, 0, 0⟩, nodeList := [], freeStack := [], unusedNodes := [], numUnused := 0 } : DrmMm)
    |>.drmMmCreateTailNode start size kzalloc

end Vmwgfx.Mm
