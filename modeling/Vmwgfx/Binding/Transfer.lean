import Mathlib.Data.List.Induction
import Vmwgfx.Binding.Tracker

/-! Staging the bindings of a batch and transferring them to the persistent tracker. -/

namespace Vmwgfx.Binding

section Stage

variable {c : ResId} {cbs : CtxBindingState} {bi : Bindinfo}

theorem vmwContextBindingAdd_of_not_valid (h : ¬ bi.slot.Valid) :
    cbs.vmwContextBindingAdd bi = .error (-EINVAL) :=
  if_pos (Nat.le_of_not_lt h : bi.i1 ≥ bi.bt.max)

theorem vmwContextBindingAdd_of_valid (h : bi.slot.Valid) :
    cbs.vmwContextBindingAdd bi =
      .ok ((cbs.dropActive bi.slot).put { bi with scrubbed := false }) :=
  if_neg (Nat.not_le_of_lt h : ¬ bi.i1 ≥ bi.bt.max)

theorem track_of_not_valid (h : ¬ bi.slot.Valid) : cbs.track bi = cbs := by
  unfold CtxBindingState.track
  rw [vmwContextBindingAdd_of_not_valid h]

theorem track_of_valid (h : bi.slot.Valid) :
    cbs.track bi = (cbs.dropActive bi.slot).put { bi with scrubbed := false } := by
  unfold CtxBindingState.track
  rw [vmwContextBindingAdd_of_valid h]

theorem CtxRep.track (h : CtxRep c cbs) (hctx : bi.ctx = some c) : CtxRep c (cbs.track bi) := by
  by_cases hvalid : bi.slot.Valid
  · rw [track_of_valid hvalid]
    exact (h.dropActive bi.slot).put dropActive_ctx_self hctx hvalid
  · rwa [track_of_not_valid hvalid]

theorem track_binding_of_ne {loc : Slot} (h : loc ≠ bi.slot) :
    (cbs.track bi).binding loc = cbs.binding loc := by
  by_cases hvalid : bi.slot.Valid
  · rw [track_of_valid hvalid]
    change Function.update (cbs.dropActive bi.slot).binding bi.slot _ loc = _
    rw [Function.update_of_ne h, dropActive_binding_of_ne h]
  · rw [track_of_not_valid hvalid]

theorem track_binding_self (h : bi.slot.Valid) :
    (cbs.track bi).binding bi.slot = { bi with scrubbed := false } := by
  rw [track_of_valid h]
  exact Function.update_self _ _ _

/-- The tracker of a context after the bindings of a batch. -/
def stage (binds : List Bindinfo) : CtxBindingState :=
  binds.foldl CtxBindingState.track .empty

theorem stage_append (binds : List Bindinfo) (bi : Bindinfo) :
    stage (binds ++ [bi]) = (stage binds).track bi := by
  simp [stage]

/-- The last binding of a slot in a batch. -/
def lastBinding (binds : List Bindinfo) (loc : Slot) : Option Bindinfo :=
  binds.reverse.find? (fun bi => bi.slot = loc)

theorem lastBinding_append_self (binds : List Bindinfo) (bi : Bindinfo) :
    lastBinding (binds ++ [bi]) bi.slot = some bi := by
  simp [lastBinding]

theorem lastBinding_append_of_ne {binds : List Bindinfo} {loc : Slot} (h : bi.slot ≠ loc) :
    lastBinding (binds ++ [bi]) loc = lastBinding binds loc := by
  simp [lastBinding, h]

theorem lastBinding_eq_none_iff {binds : List Bindinfo} {loc : Slot} :
    lastBinding binds loc = none ↔ ∀ bi ∈ binds, bi.slot ≠ loc := by
  simp [lastBinding]

theorem stage_rep {binds : List Bindinfo} (hctx : ∀ bi ∈ binds, bi.ctx = some c) :
    CtxRep c (stage binds) := by
  induction binds using List.reverseRecOn with
  | nil => exact ctxRep_empty c
  | append_singleton binds bi ih =>
    rw [stage_append]
    apply CtxRep.track
    · exact ih (fun b hb => hctx b (List.mem_append_left _ hb))
    · exact hctx bi (by simp)

/-- A staged slot holds the last binding of the batch for it. -/
theorem stage_binding {binds : List Bindinfo} {loc : Slot} (hvalid : loc.Valid) :
    (stage binds).binding loc =
      match lastBinding binds loc with
      | some bi => { bi with scrubbed := false }
      | none => CtxBindingState.empty.binding loc := by
  induction binds using List.reverseRecOn with
  | nil => rfl
  | append_singleton binds bi ih =>
    rw [stage_append]
    by_cases hloc : bi.slot = loc
    · subst hloc
      rw [track_binding_self hvalid, lastBinding_append_self]
    · rw [track_binding_of_ne (Ne.symm hloc), lastBinding_append_of_ne hloc, ih]

/-- Just the slots the batch binds and the tracker has are staged. -/
theorem mem_stage_list {binds : List Bindinfo} (hctx : ∀ bi ∈ binds, bi.ctx = some c)
    {loc : Slot} :
    loc ∈ (stage binds).list ↔ loc.Valid ∧ ∃ bi ∈ binds, bi.slot = loc := by
  have hrep := stage_rep hctx
  rw [hrep.mem_iff]
  constructor
  · intro hactive
    have hvalid := (hrep.active loc hactive).2.2
    refine ⟨hvalid, ?_⟩
    by_contra hnone
    have hlast : lastBinding binds loc = none :=
      lastBinding_eq_none_iff.mpr (fun bi hbi heq => hnone ⟨bi, hbi, heq⟩)
    rw [stage_binding hvalid, hlast] at hactive
    exact hactive rfl
  · intro h
    obtain ⟨hvalid, bi, hbi, hslot⟩ := h
    rw [stage_binding hvalid]
    cases hlast : lastBinding binds loc with
    | none => exact absurd hslot (lastBinding_eq_none_iff.mp hlast bi hbi)
    | some last =>
      have hmem : last ∈ binds := List.mem_reverse.mp (List.mem_of_find?_eq_some hlast)
      simp [hctx last hmem]

end Stage

section Transfer

variable {t : Tracker} {c : ResId} {bi : Bindinfo}

theorem Tracker.dropActive_cbs (t : Tracker) (c : ResId) (loc : Slot) :
    (t.dropActive c loc).cbs = Function.update t.cbs c ((t.cbs c).dropActive loc) := by
  unfold Tracker.dropActive CtxBindingState.dropActive
  split
  · rfl
  · exact (Function.update_eq_self c t.cbs).symm

theorem Tracker.dropActive_entry (t : Tracker) (c : ResId) (loc : Slot) (c' : ResId)
    (loc' : Slot) : (t.dropActive c loc).entry c' loc' =
      if c' = c ∧ loc' = loc then none else t.entry c' loc' := by
  unfold Tracker.entry
  rw [Tracker.dropActive_cbs]
  by_cases hc : c' = c
  · subst hc
    rw [Function.update_self]
    by_cases hloc : loc' = loc
    · rw [hloc, dropActive_ctx_self]
      simp
    · rw [dropActive_binding_of_ne hloc]
      simp [hloc]
  · rw [Function.update_of_ne hc]
    simp [hc]

theorem Rep.mem_dropActive_head (h : Rep t) (loc : Slot) (r c' : ResId) (loc' : Slot) :
    (c', loc') ∈ (t.dropActive c loc).bindingHead r ↔
      (c', loc') ≠ (c, loc) ∧ (c', loc') ∈ t.bindingHead r := by
  unfold Tracker.dropActive Tracker.vmwContextBindingDrop
  split
  · exact (h.head_nodup r).mem_erase_iff
  · next hinactive =>
    constructor
    · intro hm
      refine ⟨?_, hm⟩
      intro heq
      obtain ⟨rfl, rfl⟩ := Prod.mk.inj heq
      exact hinactive ((h.mem_head_iff r c' loc').mp hm).1
    · intro hm
      exact hm.2

theorem Rep.dropActive (h : Rep t) (c : ResId) (loc : Slot) : Rep (t.dropActive c loc) where
  ctx := by
    intro c'
    rw [Tracker.dropActive_cbs]
    by_cases hc : c' = c
    · subst hc
      rw [Function.update_self]
      exact (h.ctx c').dropActive loc
    · rw [Function.update_of_ne hc]
      exact h.ctx c'
  head_nodup := by
    intro r
    unfold Tracker.dropActive Tracker.vmwContextBindingDrop
    split
    · exact (h.head_nodup r).erase _
    · exact h.head_nodup r
  mem_head_iff := by
    intro r c' loc'
    rw [h.mem_dropActive_head, h.mem_head_iff, Tracker.dropActive_cbs]
    by_cases hc : c' = c
    · subst hc
      rw [Function.update_self]
      by_cases hloc : loc' = loc
      · rw [hloc, dropActive_ctx_self]
        simp
      · rw [dropActive_binding_of_ne hloc]
        simp [hloc]
    · rw [Function.update_of_ne hc]
      simp [hc]
  res := by
    intro c' loc'
    rw [Tracker.dropActive_cbs]
    by_cases hc : c' = c
    · subst hc
      rw [Function.update_self]
      by_cases hloc : loc' = loc
      · intro hactive
        rw [hloc, dropActive_ctx_self] at hactive
        exact absurd rfl hactive
      · rw [dropActive_binding_of_ne hloc]
        exact h.res c' loc'
    · rw [Function.update_of_ne hc]
      exact h.res c' loc'

theorem Tracker.put_binding (t : Tracker) (c : ResId) (bi : Bindinfo) (r c' : ResId)
    (loc' : Slot) : ((t.put c bi r).cbs c').binding loc' =
      if c' = c ∧ loc' = bi.slot then bi else (t.cbs c').binding loc' := by
  unfold Tracker.put CtxBindingState.put
  by_cases hc : c' = c
  · subst hc
    by_cases hloc : loc' = bi.slot
    · simp [hloc]
    · simp [hloc]
  · simp [hc]

theorem Rep.put {r : ResId} (h : Rep t) (hfree : ((t.cbs c).binding bi.slot).ctx = none)
    (hctx : bi.ctx = some c) (hres : bi.res = some r) (hvalid : bi.slot.Valid) :
    Rep (t.put c bi r) where
  ctx := by
    intro c'
    by_cases hc : c' = c
    · subst hc
      change CtxRep c' (Function.update t.cbs c' _ c')
      rw [Function.update_self]
      exact (h.ctx c').put hfree hctx hvalid
    · change CtxRep c' (Function.update t.cbs c _ c')
      rw [Function.update_of_ne hc]
      exact h.ctx c'
  head_nodup := by
    intro r'
    by_cases hr : r' = r
    · subst hr
      change (Function.update t.bindingHead r' _ r').Nodup
      rw [Function.update_self]
      apply List.Nodup.append (h.head_nodup r') (List.nodup_singleton _)
      intro x hx hnew
      rw [List.mem_singleton.mp hnew] at hx
      exact ((h.mem_head_iff _ _ _).mp hx).1 hfree
    · change (Function.update t.bindingHead r _ r').Nodup
      rw [Function.update_of_ne hr]
      exact h.head_nodup r'
  mem_head_iff := by
    intro r' c' loc'
    have hmem : (c', loc') ∈ (t.put c bi r).bindingHead r' ↔
        (c', loc') ∈ t.bindingHead r' ∨ (r' = r ∧ c' = c ∧ loc' = bi.slot) := by
      change (c', loc') ∈ Function.update t.bindingHead r _ r' ↔ _
      by_cases hr : r' = r
      · subst hr
        rw [Function.update_self]
        simp
      · rw [Function.update_of_ne hr]
        simp [hr]
    rw [hmem, Tracker.put_binding, h.mem_head_iff]
    split
    · next hnew =>
      rw [hnew.1, hnew.2, hfree]
      simp [hctx, hres, eq_comm]
    · next hold =>
      simp [hold]
  res := by
    intro c' loc'
    rw [Tracker.put_binding]
    split
    · intro _
      simp [hres]
    · exact h.res c' loc'

theorem Rep.vmwContextBindingTransfer (h : Rep t) (hctx : bi.ctx = some c)
    (hvalid : bi.slot.Valid) : Rep (t.vmwContextBindingTransfer c bi) := by
  have hdrop := h.dropActive c bi.slot
  unfold Tracker.vmwContextBindingTransfer
  cases hres : bi.res with
  | none => exact hdrop
  | some r =>
    apply hdrop.put _ hctx hres hvalid
    rw [Tracker.dropActive_cbs, Function.update_self, dropActive_ctx_self]

theorem vmwContextBindingTransfer_entry (hctx : bi.ctx = some c) (c' : ResId) (loc' : Slot) :
    (t.vmwContextBindingTransfer c bi).entry c' loc' =
      if c' = c ∧ loc' = bi.slot then bi.res.map (fun r => (r, bi.scrubbed))
      else t.entry c' loc' := by
  unfold Tracker.vmwContextBindingTransfer
  cases hres : bi.res with
  | none => exact Tracker.dropActive_entry t c bi.slot c' loc'
  | some r =>
    have hdrop := Tracker.dropActive_entry t c bi.slot c' loc'
    unfold Tracker.entry at hdrop ⊢
    rw [Tracker.put_binding]
    split
    · next hnew => simp [hctx, hres]
    · next hold => rw [hdrop, if_neg hold]

theorem foldl_transfer_rep {staged : CtxBindingState} {locs : List Slot}
    (hlocs : ∀ loc ∈ locs, (staged.binding loc).ctx = some c ∧
      (staged.binding loc).slot = loc ∧ loc.Valid) (h : Rep t) :
    Rep (locs.foldl (fun t loc => t.vmwContextBindingTransfer c (staged.binding loc)) t) := by
  induction locs generalizing t with
  | nil => exact h
  | cons loc locs ih =>
    obtain ⟨hctx, hslot, hvalid⟩ := hlocs loc List.mem_cons_self
    apply ih (fun l hl => hlocs l (List.mem_cons_of_mem loc hl))
    apply h.vmwContextBindingTransfer hctx
    rwa [hslot]

theorem foldl_transfer_entry {staged : CtxBindingState} {locs : List Slot}
    (hlocs : ∀ loc ∈ locs, (staged.binding loc).ctx = some c ∧
      (staged.binding loc).slot = loc ∧ loc.Valid) (c' : ResId) (loc' : Slot) :
    (locs.foldl (fun t loc => t.vmwContextBindingTransfer c (staged.binding loc)) t).entry c' loc' =
      if c' = c ∧ loc' ∈ locs then
        (staged.binding loc').res.map (fun r => (r, (staged.binding loc').scrubbed))
      else t.entry c' loc' := by
  induction locs generalizing t with
  | nil => simp
  | cons loc locs ih =>
    obtain ⟨hctx, hslot, hvalid⟩ := hlocs loc List.mem_cons_self
    rw [List.foldl_cons, ih (fun l hl => hlocs l (List.mem_cons_of_mem loc hl)),
      vmwContextBindingTransfer_entry hctx, hslot]
    by_cases hc : c' = c
    · by_cases hmem : loc' ∈ locs
      · simp [hc, hmem]
      · by_cases hloc : loc' = loc
        · simp [hc, hloc]
        · simp [hc, hmem, hloc]
    · simp [hc]

theorem vmwContextBindingStateTransfer_entry {staged : CtxBindingState} (hs : CtxRep c staged)
    (c' : ResId) (loc' : Slot) : (t.vmwContextBindingStateTransfer c staged).entry c' loc' =
      if c' = c ∧ loc' ∈ staged.list then
        (staged.binding loc').res.map (fun r => (r, (staged.binding loc').scrubbed))
      else t.entry c' loc' := by
  apply foldl_transfer_entry
  intro loc hloc
  exact hs.active loc ((hs.mem_iff loc).mp hloc)

/-- A transfer keeps the representation invariant, and every staged slot replaces what the
context had there. -/
theorem vmwContextBindingStateTransfer_spec {staged : CtxBindingState} (hs : CtxRep c staged)
    (h : Rep t) : Rep (t.vmwContextBindingStateTransfer c staged) ∧ ∀ c' loc',
      (t.vmwContextBindingStateTransfer c staged).bound c' loc' =
        if c' = c ∧ loc' ∈ staged.list then (staged.binding loc').res else t.bound c' loc' := by
  constructor
  · apply foldl_transfer_rep _ h
    intro loc hloc
    exact hs.active loc ((hs.mem_iff loc).mp hloc)
  · intro c' loc'
    rw [Tracker.bound_eq, vmwContextBindingStateTransfer_entry hs]
    split
    · rw [Option.map_map]
      exact Option.map_id'
    · exact (Tracker.bound_eq _ _ _).symm

end Transfer

end Vmwgfx.Binding
