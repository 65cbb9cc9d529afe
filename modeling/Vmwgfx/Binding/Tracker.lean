import Mathlib.Data.List.Nodup
import Mathlib.Tactic.SplitIfs
import Vmwgfx.Kernel

/-! The context binding tracker of `vmwgfx_context.c`. -/

namespace Vmwgfx.Binding

/-- `enum vmw_ctx_binding_type`. -/
inductive BindingType
  | shader | rt | tex
  deriving DecidableEq

/-- SVGA3D_SHADERTYPE_MAX, SVGA3D_RT_MAX and SVGA3D_NUM_TEXTURE_UNITS. -/
def BindingType.max : BindingType → Nat
  | .shader => 3
  | .rt => 10
  | .tex => 32

/-- The storage of one binding in a `struct vmw_ctx_binding_state`. -/
structure Slot where
  bt : BindingType
  i1 : Nat
  deriving DecidableEq

def Slot.Valid (loc : Slot) : Prop := loc.i1 < loc.bt.max

instance (loc : Slot) : Decidable loc.Valid := inferInstanceAs (Decidable (_ < _))

/-- `struct vmw_ctx_bindinfo`. -/
structure Bindinfo where
  ctx : Option ResId
  res : Option ResId
  bt : BindingType
  scrubbed : Bool
  i1 : Nat
  deriving DecidableEq

def Bindinfo.slot (bi : Bindinfo) : Slot := ⟨bi.bt, bi.i1⟩

/-- `struct vmw_ctx_binding_state`: its slots, and the list of the active ones. -/
structure CtxBindingState where
  binding : Slot → Bindinfo
  list : List Slot

/-- As `kzalloc` and `INIT_LIST_HEAD` leave it. -/
def CtxBindingState.empty : CtxBindingState := ⟨fun _ => ⟨none, none, .shader, false, 0⟩, []⟩

/-- All contexts' trackers and the `binding_head` lists of all resources.  A staged binding is
on no `binding_head` list: its `res_list` is empty. -/
structure Tracker where
  cbs : ResId → CtxBindingState
  bindingHead : ResId → List (ResId × Slot)

namespace CtxBindingState

variable (cbs : CtxBindingState)

/-- `vmw_context_binding_drop`, up to the resource's list. -/
def vmwContextBindingDrop (loc : Slot) : CtxBindingState where
  binding := Function.update cbs.binding loc { cbs.binding loc with ctx := none }
  list := cbs.list.erase loc

/-- `loc->bi = *bi` and `list_add_tail(&loc->ctx_list, &cbs->list)`. -/
def put (bi : Bindinfo) : CtxBindingState where
  binding := Function.update cbs.binding bi.slot bi
  list := cbs.list ++ [bi.slot]

def dropActive (loc : Slot) : CtxBindingState :=
  if (cbs.binding loc).ctx ≠ none then cbs.vmwContextBindingDrop loc else cbs

def vmwContextBindingAdd (bi : Bindinfo) : Except Int CtxBindingState :=
  if bi.i1 ≥ bi.bt.max then .error (-EINVAL)
  else .ok ((cbs.dropActive bi.slot).put { bi with scrubbed := false })

/-- What a caller that ignores the error goes on with. -/
def track (bi : Bindinfo) : CtxBindingState :=
  match cbs.vmwContextBindingAdd bi with
  | .ok cbs' => cbs'
  | .error _ => cbs

end CtxBindingState

namespace Tracker

variable (t : Tracker)

def vmwContextBindingDrop (c : ResId) (loc : Slot) : Tracker where
  cbs := Function.update t.cbs c ((t.cbs c).vmwContextBindingDrop loc)
  bindingHead := fun r => (t.bindingHead r).erase (c, loc)

def dropActive (c : ResId) (loc : Slot) : Tracker :=
  if ((t.cbs c).binding loc).ctx ≠ none then t.vmwContextBindingDrop c loc else t

/-- `loc->bi = *bi` and the two `list_add_tail`. -/
def put (c : ResId) (bi : Bindinfo) (r : ResId) : Tracker where
  cbs := Function.update t.cbs c ((t.cbs c).put bi)
  bindingHead := Function.update t.bindingHead r (t.bindingHead r ++ [(c, bi.slot)])

def vmwContextBindingTransfer (c : ResId) (bi : Bindinfo) : Tracker :=
  let t := t.dropActive c bi.slot
  match bi.res with
  | none => t
  | some r => t.put c bi r

def vmwContextBindingStateTransfer (c : ResId) (staged : CtxBindingState) : Tracker :=
  staged.list.foldl (fun t loc => t.vmwContextBindingTransfer c (staged.binding loc)) t

/-- What a slot of a context is bound to. -/
def bound (c : ResId) (loc : Slot) : Option ResId :=
  if ((t.cbs c).binding loc).ctx ≠ none then ((t.cbs c).binding loc).res else none

/-- What a slot of a context is bound to, and whether that has been scrubbed. -/
def entry (c : ResId) (loc : Slot) : Option (ResId × Bool) :=
  if ((t.cbs c).binding loc).ctx ≠ none then
    ((t.cbs c).binding loc).res.map (fun r => (r, ((t.cbs c).binding loc).scrubbed))
  else none

theorem bound_eq (c : ResId) (loc : Slot) : t.bound c loc = (t.entry c loc).map Prod.fst := by
  unfold bound entry
  split
  · rw [Option.map_map]
    exact Option.map_id'.symm
  · rfl

end Tracker

/-- One context's slots: the list holds the active ones, each of them once. -/
structure CtxRep (c : ResId) (cbs : CtxBindingState) : Prop where
  nodup : cbs.list.Nodup
  mem_iff : ∀ loc, loc ∈ cbs.list ↔ (cbs.binding loc).ctx ≠ none
  active : ∀ loc, (cbs.binding loc).ctx ≠ none →
    (cbs.binding loc).ctx = some c ∧ (cbs.binding loc).slot = loc ∧ loc.Valid

/-- The representation invariant of the tracker. -/
structure Rep (t : Tracker) : Prop where
  ctx : ∀ c, CtxRep c (t.cbs c)
  head_nodup : ∀ r, (t.bindingHead r).Nodup
  mem_head_iff : ∀ r c loc, (c, loc) ∈ t.bindingHead r ↔
    ((t.cbs c).binding loc).ctx ≠ none ∧ ((t.cbs c).binding loc).res = some r
  res : ∀ c loc, ((t.cbs c).binding loc).ctx ≠ none → ((t.cbs c).binding loc).res ≠ none

theorem CtxRep.count {c : ResId} {cbs : CtxBindingState} (h : CtxRep c cbs) (loc : Slot) :
    cbs.list.count loc = 1 ↔ (cbs.binding loc).ctx ≠ none := by
  rw [← h.mem_iff loc]
  constructor
  · intro hcount
    apply List.count_pos_iff.mp
    omega
  · intro hmem
    exact List.count_eq_one_of_mem h.nodup hmem

theorem ctxRep_empty (c : ResId) : CtxRep c .empty where
  nodup := List.nodup_nil
  mem_iff := by
    intro loc
    simp [CtxBindingState.empty]
  active := by
    intro loc h
    exact absurd rfl h

/-- Nothing is bound to any context. -/
def Tracker.empty : Tracker := ⟨fun _ => .empty, fun _ => []⟩

theorem rep_empty : Rep .empty where
  ctx c := ctxRep_empty c
  head_nodup _ := List.nodup_nil
  mem_head_iff := by
    intro r c loc
    simp [Tracker.empty, CtxBindingState.empty]
  res := by
    intro c loc h
    exact absurd rfl h

section Drop

variable {c : ResId} {cbs : CtxBindingState} {loc : Slot}

theorem dropActive_binding_of_ne {loc' : Slot} (h : loc' ≠ loc) :
    (cbs.dropActive loc).binding loc' = cbs.binding loc' := by
  unfold CtxBindingState.dropActive CtxBindingState.vmwContextBindingDrop
  split
  · simp [h]
  · rfl

theorem dropActive_ctx_self : ((cbs.dropActive loc).binding loc).ctx = none := by
  unfold CtxBindingState.dropActive CtxBindingState.vmwContextBindingDrop
  split
  · simp
  · next h => exact Classical.not_not.mp h

theorem mem_dropActive (h : CtxRep c cbs) {loc' : Slot} :
    loc' ∈ (cbs.dropActive loc).list ↔ loc' ≠ loc ∧ loc' ∈ cbs.list := by
  unfold CtxBindingState.dropActive CtxBindingState.vmwContextBindingDrop
  split
  · exact h.nodup.mem_erase_iff
  · next hinactive =>
    have hmem : loc ∉ cbs.list := fun hm => hinactive ((h.mem_iff loc).mp hm)
    constructor
    · intro hm
      exact ⟨fun heq => hmem (heq ▸ hm), hm⟩
    · intro hm
      exact hm.2

theorem CtxRep.dropActive (h : CtxRep c cbs) (loc : Slot) : CtxRep c (cbs.dropActive loc) where
  nodup := by
    unfold CtxBindingState.dropActive CtxBindingState.vmwContextBindingDrop
    split
    · exact h.nodup.erase loc
    · exact h.nodup
  mem_iff := by
    intro loc'
    rw [mem_dropActive h]
    by_cases hloc : loc' = loc
    · rw [hloc, dropActive_ctx_self]
      simp
    · rw [dropActive_binding_of_ne hloc, h.mem_iff]
      simp [hloc]
  active := by
    intro loc' hactive
    by_cases hloc : loc' = loc
    · rw [hloc, dropActive_ctx_self] at hactive
      exact absurd rfl hactive
    · rw [dropActive_binding_of_ne hloc] at hactive ⊢
      exact h.active loc' hactive

/-- An active binding goes into a slot that has been dropped. -/
theorem CtxRep.put {bi : Bindinfo} (h : CtxRep c cbs) (hfree : (cbs.binding bi.slot).ctx = none)
    (hctx : bi.ctx = some c) (hvalid : bi.slot.Valid) : CtxRep c (cbs.put bi) where
  nodup := by
    apply List.Nodup.append h.nodup (List.nodup_singleton _)
    intro loc hmem hnew
    rw [List.mem_singleton] at hnew
    exact (h.mem_iff loc).mp hmem (hnew ▸ hfree)
  mem_iff := by
    intro loc
    change loc ∈ cbs.list ++ [bi.slot] ↔ (Function.update cbs.binding bi.slot bi loc).ctx ≠ none
    rw [List.mem_append, List.mem_singleton, h.mem_iff]
    by_cases hloc : loc = bi.slot
    · simp [hloc, hctx]
    · simp [hloc]
  active := by
    intro loc hactive
    change (Function.update cbs.binding bi.slot bi loc).ctx ≠ none at hactive
    change (Function.update cbs.binding bi.slot bi loc).ctx = some c ∧
      (Function.update cbs.binding bi.slot bi loc).slot = loc ∧ _
    by_cases hloc : loc = bi.slot
    · subst hloc
      rw [Function.update_self]
      exact ⟨hctx, rfl, hvalid⟩
    · rw [Function.update_of_ne hloc] at hactive ⊢
      exact h.active loc hactive

end Drop

end Vmwgfx.Binding
