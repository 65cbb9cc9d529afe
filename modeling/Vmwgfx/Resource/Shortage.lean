import Vmwgfx.Lib.Loop
import Vmwgfx.Resource.Defs

/-! Hardware resource shortage: `vmw_resource_validate` makes room by evicting what is on the lru
list of the type, and `vmw_resource_evict_type` empties it. -/

namespace Vmwgfx.Resource.Shortage

open Lib

structure VmwResource where
  func : VmwResFunc
  /-- `id != -1`. -/
  onDevice : Bool
  /-- `backup != NULL`. -/
  backup : Bool
  backupDirty : Bool
  resDirty : Bool
  /-- `mob_head` is on a list. -/
  bound : Bool
  deriving DecidableEq

/-- The resources, the lru list of one type, the reference counts and what was released. -/
structure State where
  res : ResId → VmwResource
  lru : List ResId
  kref : Krefs
  released : List ResId

namespace State

variable (s : State)

def modify (r : ResId) (f : VmwResource → VmwResource) : State :=
  { s with res := Function.update s.res r (f (s.res r)) }

def reference (r : ResId) : State := { s with kref := vmwResourceReference s.kref r }

/-- `vmw_resource_unreference`; the last reference releases the resource. -/
def unreference (r : ResId) : State :=
  let kref := vmwResourceUnreference s.kref r
  { s with kref := kref, released := if kref r = 0 then s.released ++ [r] else s.released }

/-- The move notifications of a `ttm_bo_validate`: what was bound to the buffers that made way. -/
def moveNotify (moved : ResId → Bool) : State :=
  { s with res := fun r =>
      if moved r && (s.res r).bound && (s.res r).func.hasUnbind then
        { s.res r with bound := false, backupDirty := true, resDirty := false }
      else s.res r }

end State

/-- The results of what an eviction calls. -/
structure Evict where
  /-- `vmw_resource_buf_alloc`. -/
  alloc : Int
  /-- `ttm_eu_reserve_buffers`. -/
  reserve : Int
  /-- `ttm_bo_validate`. -/
  validate : Int
  moved : ResId → Bool
  unbind : Int
  destroy : Int

/-- `vmw_resource_check_buffer`. -/
def vmwResourceCheckBuffer (s : State) (r : ResId) (o : Evict) : Int × State :=
  if (s.res r).backup = false ∧ o.alloc ≠ 0 then (o.alloc, s)
  else
    let s := s.modify r fun res => { res with backup := true }
    if o.reserve ≠ 0 then (o.reserve, s)
    else if (s.res r).func.needsBackup ∧ (s.res r).bound = false then (0, s)
    else
      let backupDirty := (s.res r).backupDirty
      let s := s.moveNotify o.moved
      if o.validate ≠ 0 then
        (o.validate, if backupDirty then s.modify r fun res => { res with backup := false } else s)
      else (0, s)

/-- `vmw_resource_do_evict`; `none` is its `BUG_ON`. -/
def vmwResourceDoEvict (s : State) (r : ResId) (o : Evict) : Option (Int × State) :=
  if ¬ (s.res r).func.mayEvict then none
  else
    let (ret, s) := vmwResourceCheckBuffer s r o
    if ret ≠ 0 then some (ret, s)
    else
      let unbinds := (s.res r).func.hasUnbind && (!(s.res r).func.needsBackup || (s.res r).bound)
      if unbinds ∧ o.unbind ≠ 0 then some (o.unbind, s)
      else
        let s := if unbinds then s.modify r fun res => { res with bound := false } else s
        let s := if o.destroy = 0 then s.modify r fun res => { res with onDevice := false } else s
        some (o.destroy, s.modify r fun res => { res with backupDirty := true, resDirty := false })

/-- The results of what an attempt to validate calls. -/
structure Validate where
  create : Int
  bind : Int
  destroy : Int

/-- `vmw_resource_do_validate`; `valBuf` is `val_buf->bo != NULL`. -/
def vmwResourceDoValidate (s : State) (r : ResId) (valBuf : Bool) (o : Validate) : Int × State :=
  if (s.res r).onDevice = false ∧ o.create ≠ 0 then (o.create, s)
  else
    let s := s.modify r fun res => { res with onDevice := true }
    if (s.res r).func.hasBind ∧ valBuf ∧ ((s.res r).func.needsBackup = false ∨ (s.res r).bound = false) then
      if o.bind ≠ 0 then
        (o.bind, if o.destroy = 0 then s.modify r fun res => { res with onDevice := false } else s)
      else
        (0, s.modify r fun res => { res with bound := res.bound || res.func.needsBackup, resDirty := true })
    else (0, s.modify r fun res => { res with resDirty := true })

structure Round where
  validate : Validate
  evict : Evict

/-- The local state of the loops; `round` counts what has been asked of the outcomes. -/
structure Loop where
  round : Nat
  errCount : Nat
  dev : State

/-- Takes the first resource off the list and evicts it; what cannot be evicted goes to the end. -/
def evictFirst (s : State) (v : ResId) (o : Evict) : Option (Int × State) :=
  let s := s.reference v
  (vmwResourceDoEvict { s with lru := s.lru.tail } v o).map fun (ret, s) =>
    (ret, (if ret ≠ 0 then { s with lru := s.lru ++ [v] } else s).unreference v)

/-- One round of `vmw_resource_validate`. -/
def validateRound (r : ResId) (valBuf : Bool) (o : Nat → Round) (l : Loop) : Loop ⊕ Option Int × Loop :=
  let (ret, s) := vmwResourceDoValidate l.dev r valBuf (o l.round).validate
  if ret ≠ -EBUSY then .inr (some ret, { l with dev := s })
  else
    match s.lru with
    | [] => .inr (some (-EBUSY), { l with dev := s })
    | v :: _ =>
      match evictFirst s v (o l.round).evict with
      | none => .inr (none, { l with dev := s })
      | some (ret, s) =>
        if ret = 0 then .inl ⟨l.round + 1, l.errCount, s⟩
        else if ret = -ERESTARTSYS then .inr (some ret, { l with dev := s })
        else if VMW_RES_EVICT_ERR_COUNT < l.errCount + 1 then .inr (some ret, { l with errCount := l.errCount + 1, dev := s })
        else .inl ⟨l.round + 1, l.errCount + 1, s⟩

/-- `vmw_resource_validate`, with the error count and the state it ends in. -/
def vmwResourceValidate (s : State) (r : ResId) (o : Nat → Round) (fuel : Nat) : Option (Option Int × Loop) :=
  if ¬ (s.res r).func.mayEvict then some (some 0, ⟨0, 0, s⟩)
  else
    (loopRounds (validateRound r (s.res r).backup o) fuel ⟨0, 0, s⟩).map fun (ret, l) =>
      if ret = some 0 ∧ (l.dev.res r).func.needsBackup = false ∧ (l.dev.res r).backup then
        (ret, { l with dev := l.dev.modify r fun res => { res with bound := false, backup := false } })
      else (ret, l)

/-- One round of `vmw_resource_evict_type`. -/
def evictTypeRound (o : Nat → Evict) (l : Loop) : Loop ⊕ Option Int × Loop :=
  match l.dev.lru with
  | [] => .inr (some 0, l)
  | v :: _ =>
    match evictFirst l.dev v (o l.round) with
    | none => .inr (none, l)
    | some (ret, s) =>
      if ret = 0 then .inl ⟨l.round + 1, l.errCount, s⟩
      else if VMW_RES_EVICT_ERR_COUNT < l.errCount + 1 then .inr (some 0, { l with errCount := l.errCount + 1, dev := s })
      else .inl ⟨l.round + 1, l.errCount + 1, s⟩

/-- `vmw_resource_evict_type`, which returns nothing. -/
def vmwResourceEvictType (s : State) (o : Nat → Evict) (fuel : Nat) : Option (Option Int × Loop) :=
  loopRounds (evictTypeRound o) fuel ⟨0, 0, s⟩

section Frame

variable {s s' s'' : State} {r v : ResId} {own : Option ResId}

/-- The lists, the counts and the kinds are as before, and of the resources only `r` may have come
onto the device or gone. -/
structure Beside (r : ResId) (s s' : State) : Prop where
  lru : s'.lru = s.lru
  kref : s'.kref = s.kref
  released : s'.released = s.released
  func : ∀ v, (s'.res v).func = (s.res v).func
  onDevice : ∀ v, v ≠ r → (s'.res v).onDevice = (s.res v).onDevice

namespace Beside

theorem refl (r : ResId) (s : State) : Beside r s s := ⟨rfl, rfl, rfl, fun _ => rfl, fun _ _ => rfl⟩

theorem trans (h : Beside r s s') (h' : Beside r s' s'') : Beside r s s'' :=
  ⟨h'.lru.trans h.lru, h'.kref.trans h.kref, h'.released.trans h.released,
    fun v => (h'.func v).trans (h.func v), fun v hv => (h'.onDevice v hv).trans (h.onDevice v hv)⟩

theorem modify (s : State) (r : ResId) {f : VmwResource → VmwResource} (hf : ∀ res, (f res).func = res.func) :
    Beside r s (s.modify r f) := by
  refine ⟨rfl, rfl, rfl, fun v => ?_, fun v hv => ?_⟩
  · unfold State.modify
    dsimp only
    by_cases hv : v = r
    · subst hv
      rw [Function.update_self, hf]
    · rw [Function.update_of_ne hv]
  · unfold State.modify
    dsimp only
    rw [Function.update_of_ne hv]

theorem and_modify {f : VmwResource → VmwResource} (h : Beside r s s') (hf : ∀ res, (f res).func = res.func) :
    Beside r s (s'.modify r f) :=
  h.trans (modify s' r hf)

theorem moveNotify (r : ResId) (s : State) (moved : ResId → Bool) : Beside r s (s.moveNotify moved) := by
  refine ⟨rfl, rfl, rfl, fun v => ?_, fun v _ => ?_⟩
  · unfold State.moveNotify
    dsimp only
    split <;> rfl
  · unfold State.moveNotify
    dsimp only
    split <;> rfl

end Beside

theorem modify_onDevice (s : State) (r v : ResId) {f : VmwResource → VmwResource}
    (hf : ∀ res, (f res).onDevice = res.onDevice) : ((s.modify r f).res v).onDevice = (s.res v).onDevice := by
  unfold State.modify
  dsimp only
  by_cases hv : v = r
  · subst hv
    rw [Function.update_self, hf]
  · rw [Function.update_of_ne hv]

theorem vmwResourceCheckBuffer_beside (s : State) (r : ResId) (o : Evict) :
    Beside r s (vmwResourceCheckBuffer s r o).2 := by
  have hbackup : Beside r s (s.modify r fun res => { res with backup := true }) := .modify s r fun _ => rfl
  unfold vmwResourceCheckBuffer
  split
  · exact .refl r s
  · dsimp only
    split
    · exact hbackup
    · split
      · exact hbackup
      · have hmoved := hbackup.trans (.moveNotify r _ o.moved)
        split
        · dsimp only
          split
          · exact hmoved.and_modify (by intro _; rfl)
          · exact hmoved
        · exact hmoved

/-- What an eviction that returns leaves of its victim. -/
theorem vmwResourceDoEvict_spec {o : Evict} (hmay : (s.res r).func.mayEvict = true) :
    ∃ ret s', vmwResourceDoEvict s r o = some (ret, s') ∧ Beside r s s' ∧
      (ret = 0 → (s'.res r).onDevice = false) := by
  have hcheck := vmwResourceCheckBuffer_beside s r o
  unfold vmwResourceDoEvict
  rw [if_neg (not_not_intro hmay)]
  dsimp only
  split
  · rename_i hret
    exact ⟨_, _, rfl, hcheck, fun h => absurd h hret⟩
  · split
    · rename_i hunbind
      exact ⟨_, _, rfl, hcheck, fun h => absurd h hunbind.2⟩
    · have hmob (c : Prop) [Decidable c] : Beside r s (if c then
          (vmwResourceCheckBuffer s r o).2.modify r fun res => { res with bound := false }
          else (vmwResourceCheckBuffer s r o).2) := by
        split
        · exact hcheck.and_modify (by intro _; rfl)
        · exact hcheck
      by_cases hdestroy : o.destroy = 0
      · rw [if_pos hdestroy]
        refine ⟨_, _, rfl, ((hmob _).and_modify (by intro _; rfl)).and_modify (by intro _; rfl), fun _ => ?_⟩
        refine (modify_onDevice _ r r (by intro _; rfl)).trans ?_
        unfold State.modify
        dsimp only
        rw [Function.update_self]
      · rw [if_neg hdestroy]
        exact ⟨_, _, rfl, (hmob _).and_modify (by intro _; rfl), fun h => absurd h hdestroy⟩

theorem vmwResourceDoValidate_beside (s : State) (r : ResId) (valBuf : Bool) (o : Validate) :
    Beside r s (vmwResourceDoValidate s r valBuf o).2 := by
  have hcreate : Beside r s (s.modify r fun res => { res with onDevice := true }) := .modify s r fun _ => rfl
  unfold vmwResourceDoValidate
  split
  · exact .refl r s
  · dsimp only
    split
    · split
      · dsimp only
        split
        · exact hcreate.and_modify (by intro _; rfl)
        · exact hcreate
      · dsimp only
        exact hcreate.and_modify (by intro _; rfl)
    · dsimp only
      exact hcreate.and_modify (by intro _; rfl)

end Frame

section Drain

/-- A list of live, evictable resources, each on it once, which `own` has been taken off. -/
structure Ready (own : Option ResId) (s : State) : Prop where
  nodup : s.lru.Nodup
  mayEvict : ∀ v ∈ s.lru, (s.res v).func.mayEvict = true
  alive : ∀ v ∈ s.lru, 0 < s.kref v
  reserved : ∀ r ∈ own, r ∉ s.lru

/-- What was on the list is there once, or evicted; no reference is left over and nothing was
released. -/
structure Drained (own : Option ResId) (s s' : State) : Prop where
  nodup : s'.lru.Nodup
  subset : ∀ v ∈ s'.lru, v ∈ s.lru
  accounted : ∀ v ∈ s.lru, v ∈ s'.lru ∨ (s'.res v).onDevice = false
  others : ∀ v, v ∉ s.lru → v ∉ own → (s'.res v).onDevice = (s.res v).onDevice
  func : ∀ v, (s'.res v).func = (s.res v).func
  kref : s'.kref = s.kref
  released : s'.released = s.released

variable {own : Option ResId} {s s' s'' : State} {r v : ResId}

theorem Ready.drained (h : Ready own s) : Drained own s s :=
  ⟨h.nodup, fun _ hv => hv, fun _ hv => .inl hv, fun _ _ _ => rfl, fun _ => rfl, rfl, rfl⟩

theorem Drained.trans (hs : Ready own s) (h : Drained own s s') (h' : Drained own s' s'') : Drained own s s'' := by
  refine ⟨h'.nodup, fun v hv => h.subset v (h'.subset v hv), fun v hv => ?_, fun v hv hown => ?_,
    fun v => (h'.func v).trans (h.func v), h'.kref.trans h.kref, h'.released.trans h.released⟩
  · by_cases hon : v ∈ s'.lru
    · exact h'.accounted v hon
    · right
      have hown : v ∉ own := fun hown => hs.reserved v hown hv
      rw [h'.others v hon hown]
      exact (h.accounted v hv).resolve_left hon
  · rw [h'.others v (fun hon => hv (h.subset v hon)) hown, h.others v hv hown]

theorem Drained.ready (hs : Ready own s) (h : Drained own s s') : Ready own s' := by
  refine ⟨h.nodup, fun v hv => ?_, fun v hv => ?_, fun r hr hon => hs.reserved r hr (h.subset r hon)⟩
  · rw [h.func v]
    exact hs.mayEvict v (h.subset v hv)
  · rw [h.kref]
    exact hs.alive v (h.subset v hv)

/-- What touches only the resource that is being validated. -/
theorem Beside.drained (hs : Ready (some r) s) (h : Beside r s s') : Drained (some r) s s' := by
  refine ⟨?_, fun v hv => ?_, fun v hv => ?_, fun v _ hown => ?_, h.func, h.kref, h.released⟩
  · rw [h.lru]
    exact hs.nodup
  · rw [h.lru] at hv
    exact hv
  · rw [h.lru]
    exact .inl hv
  · exact h.onDevice v fun heq => hown (by rw [heq]; rfl)

/-- The reference that was taken is not the last one. -/
theorem unreference_reference (hs : 0 < s.kref v) (hkref : s'.kref = vmwResourceReference s.kref v)
    (hrel : s'.released = s.released) :
    (s'.unreference v).kref = s.kref ∧ (s'.unreference v).released = s.released := by
  have hback : vmwResourceUnreference s'.kref v = s.kref := by
    funext x
    rw [hkref, vmwResourceUnreference_apply, vmwResourceReference_apply]
    omega
  unfold State.unreference
  dsimp only
  rw [hback, if_neg (by omega)]
  exact ⟨rfl, hrel⟩

/-- One eviction takes the first resource off the list, or puts it back at the end. -/
theorem evictFirst_spec {vs : List ResId} {o : Evict} (hs : Ready own s) (hlru : s.lru = v :: vs) :
    ∃ ret s', evictFirst s v o = some (ret, s') ∧ Drained own s s' ∧
      s'.lru = if ret = 0 then vs else vs ++ [v] := by
  have hmem : v ∈ s.lru := hlru ▸ List.mem_cons_self
  have hnodup := hs.nodup
  rw [hlru] at hnodup
  obtain ⟨hfresh, hvs⟩ := List.nodup_cons.mp hnodup
  have hmay : (({ s.reference v with lru := (s.reference v).lru.tail } : State).res v).func.mayEvict = true :=
    hs.mayEvict v hmem
  obtain ⟨ret, t, hevict, hbeside, hoff⟩ := vmwResourceDoEvict_spec (o := o) hmay
  have hlrut : t.lru = vs := by
    rw [hbeside.lru]
    change s.lru.tail = vs
    rw [hlru, List.tail_cons]
  let u : State := if ret ≠ 0 then { t with lru := t.lru ++ [v] } else t
  have hlruu : u.lru = if ret = 0 then vs else vs ++ [v] := by
    by_cases hret : ret = 0
    · simp [u, hret, hlrut]
    · simp [u, hret, hlrut]
  have hsame : u.res = t.res ∧ u.kref = t.kref ∧ u.released = t.released := by
    by_cases hret : ret = 0
    · simp [u, hret]
    · simp [u, hret]
  obtain ⟨hres, hkref, hreleased⟩ := hsame
  obtain ⟨hkrefs, hreleaseds⟩ : (u.unreference v).kref = s.kref ∧ (u.unreference v).released = s.released :=
    unreference_reference (hs.alive v hmem) (hkref.trans hbeside.kref) (hreleased.trans hbeside.released)
  refine ⟨ret, u.unreference v, ?_, ⟨?_, fun x hx => ?_, fun x hx => ?_, fun x hx hown => ?_, fun x => ?_,
    hkrefs, hreleaseds⟩, hlruu⟩
  · unfold evictFirst
    dsimp only
    rw [hevict]
    rfl
  · change u.lru.Nodup
    rw [hlruu]
    split
    · exact hvs
    · exact List.nodup_append.mpr ⟨hvs, List.nodup_singleton v, fun a ha b hb => by
        rw [List.mem_singleton] at hb
        subst hb
        exact fun heq => hfresh (heq ▸ ha)⟩
  · change x ∈ u.lru at hx
    rw [hlruu] at hx
    rw [hlru]
    split at hx
    · exact List.mem_cons_of_mem v hx
    · rcases List.mem_append.mp hx with hx | hx
      · exact List.mem_cons_of_mem v hx
      · rw [List.mem_singleton.mp hx]
        exact List.mem_cons_self
  · change x ∈ u.lru ∨ (u.res x).onDevice = false
    rw [hlruu, hres]
    rw [hlru] at hx
    by_cases hret : ret = 0
    · rw [if_pos hret]
      cases hx with
      | head => exact .inr (hoff hret)
      | tail _ hx => exact .inl hx
    · rw [if_neg hret]
      cases hx with
      | head => exact .inl (List.mem_append_right _ (List.mem_singleton_self v))
      | tail _ hx => exact .inl (List.mem_append_left _ hx)
  · change (u.res x).onDevice = _
    rw [hres]
    exact hbeside.onDevice x fun heq => hx (heq ▸ hmem)
  · change (u.res x).func = _
    rw [hres]
    exact hbeside.func x

end Drain

section Rounds

variable {s₀ : State} {r : ResId} {own : Option ResId} {l : Loop}

/-- The list is being drained, and errors are left to make. -/
structure Draining (own : Option ResId) (s₀ : State) (l : Loop) : Prop where
  drained : Drained own s₀ l.dev
  errors : l.errCount ≤ VMW_RES_EVICT_ERR_COUNT

/-- Every eviction shortens the list or counts an error. -/
def Loop.left (l : Loop) : Nat := l.dev.lru.length + (VMW_RES_EVICT_ERR_COUNT - l.errCount)

/-- How `vmw_resource_validate` may end. -/
def ValidateEnd (own : Option ResId) (s₀ : State) (x : Option Int × Loop) : Prop :=
  ∃ ret, x.1 = some ret ∧ Drained own s₀ x.2.dev ∧
    (ret = -EBUSY → x.2.dev.lru = [] ∨ VMW_RES_EVICT_ERR_COUNT < x.2.errCount)

/-- How `vmw_resource_evict_type` may end. -/
def EvictTypeEnd (s₀ : State) (x : Option Int × Loop) : Prop :=
  x.1 = some 0 ∧ Drained none s₀ x.2.dev ∧ (x.2.dev.lru = [] ∨ VMW_RES_EVICT_ERR_COUNT < x.2.errCount)

theorem validateRound_ok (hs : Ready (some r) s₀) (valBuf : Bool) (o : Nat → Round) (l : Loop)
    (h : Draining (some r) s₀ l) :
    RoundOk (Draining (some r) s₀) (ValidateEnd (some r) s₀) Loop.left l (validateRound r valBuf o l) := by
  have hready := h.drained.ready hs
  have hbeside := vmwResourceDoValidate_beside l.dev r valBuf (o l.round).validate
  have htry := h.drained.trans hs (hbeside.drained hready)
  have hready' := htry.ready hs
  have herrors := h.errors
  unfold validateRound
  dsimp only
  split
  · rename_i hret
    exact ⟨_, rfl, htry, fun heq => absurd heq hret⟩
  · split
    · rename_i hnil
      exact ⟨_, rfl, htry, fun _ => .inl hnil⟩
    · rename_i v vs hlru
      obtain ⟨ret, s', hevict, hdrained, hlru'⟩ := evictFirst_spec (o := (o l.round).evict) hready' hlru
      have hall := htry.trans hs hdrained
      have hlen : l.dev.lru.length = vs.length + 1 := by
        rw [← hbeside.lru, hlru, List.length_cons]
      rw [hevict]
      dsimp only
      split
      · rename_i hzero
        rw [if_pos hzero] at hlru'
        refine ⟨⟨hall, herrors⟩, ?_⟩
        unfold Loop.left
        dsimp only
        rw [hlru', hlen]
        omega
      · rename_i hne
        rw [if_neg hne] at hlru'
        split
        · rename_i hrestart
          refine ⟨_, rfl, hall, fun heq => ?_⟩
          rw [hrestart] at heq
          exact absurd heq (by decide)
        · split
          · rename_i hlimit
            exact ⟨_, rfl, hall, fun _ => .inr hlimit⟩
          · rename_i hlimit
            refine ⟨⟨hall, by dsimp only; omega⟩, ?_⟩
            unfold Loop.left
            dsimp only
            rw [hlru', hlen, List.length_append, List.length_singleton]
            omega

theorem evictTypeRound_ok (hs : Ready none s₀) (o : Nat → Evict) (l : Loop) (h : Draining none s₀ l) :
    RoundOk (Draining none s₀) (EvictTypeEnd s₀) Loop.left l (evictTypeRound o l) := by
  have hready := h.drained.ready hs
  have herrors := h.errors
  unfold evictTypeRound
  split
  · rename_i hnil
    exact ⟨rfl, h.drained, .inl hnil⟩
  · rename_i v vs hlru
    obtain ⟨ret, s', hevict, hdrained, hlru'⟩ := evictFirst_spec (o := o l.round) hready hlru
    have hall := h.drained.trans hs hdrained
    rw [hevict]
    dsimp only
    split
    · rename_i hzero
      rw [if_pos hzero] at hlru'
      refine ⟨⟨hall, herrors⟩, ?_⟩
      unfold Loop.left
      dsimp only
      rw [hlru', hlru, List.length_cons]
      omega
    · rename_i hne
      rw [if_neg hne] at hlru'
      split
      · rename_i hlimit
        exact ⟨rfl, hall, .inr hlimit⟩
      · rename_i hlimit
        refine ⟨⟨hall, by dsimp only; omega⟩, ?_⟩
        unfold Loop.left
        dsimp only
        rw [hlru', hlru, List.length_append, List.length_singleton, List.length_cons]
        omega

theorem Draining.start (hs : Ready own s₀) : Draining own s₀ ⟨0, 0, s₀⟩ := ⟨hs.drained, Nat.zero_le _⟩

theorem vmwResourceValidate_ends (hs : Ready (some r) s₀) (o : Nat → Round) :
    ∃ x, ValidateEnd (some r) s₀ x ∧ ∀ fuel, s₀.lru.length + VMW_RES_EVICT_ERR_COUNT < fuel →
      vmwResourceValidate s₀ r o fuel = some x := by
  unfold vmwResourceValidate
  split
  · exact ⟨_, ⟨0, rfl, hs.drained, fun heq => absurd heq (by decide)⟩, fun _ _ => rfl⟩
  · obtain ⟨⟨ret, l⟩, ⟨e, hret, hdrained, hbusy⟩, hends⟩ :=
      loopRounds_ends (validateRound_ok hs (s₀.res r).backup o) (Draining.start hs)
    dsimp only at hret hdrained hbusy
    subst hret
    refine ⟨_, ?_, fun fuel hfuel => by rw [hends fuel hfuel, Option.map_some]⟩
    dsimp only
    split
    · have hdrop : Beside r l.dev (l.dev.modify r fun res => { res with bound := false, backup := false }) :=
        .modify l.dev r (by intro _; rfl)
      exact ⟨e, rfl, hdrained.trans hs (hdrop.drained (hdrained.ready hs)), hbusy⟩
    · exact ⟨e, rfl, hdrained, hbusy⟩

theorem vmwResourceEvictType_ends (hs : Ready none s₀) (o : Nat → Evict) :
    ∃ x, EvictTypeEnd s₀ x ∧ ∀ fuel, s₀.lru.length + VMW_RES_EVICT_ERR_COUNT < fuel →
      vmwResourceEvictType s₀ o fuel = some x :=
  loopRounds_ends (evictTypeRound_ok hs o) (Draining.start hs)

end Rounds

section Example

def idleSurface (onDevice : Bool) : VmwResource := ⟨.gbSurface, onDevice, true, false, false, false⟩

/-- Surface 1 is to be validated, and surface 2 is on the list. -/
def oneVictim : State where
  res r := idleSurface (r = 2)
  lru := [2]
  kref _ := 1
  released := []

theorem oneVictim_ready (own : Option ResId) (h : own ∈ [none, some 1]) : Ready own oneVictim := by
  refine ⟨List.nodup_singleton 2, fun v _ => rfl, fun v _ => Nat.one_pos, fun r hr hon => ?_⟩
  obtain rfl := List.mem_singleton.mp hon
  cases hr
  simp at h

/-- The device has no room, and the buffer of surface 2 is held for the CPU. -/
def cpuHeld : Evict := ⟨0, -EBUSY, 0, fun _ => false, 0, 0⟩

/-- There is no room for surface 1 in the first round, then there is. -/
def roomAfterOne (k : Nat) : Round :=
  ⟨⟨if k = 0 then -EBUSY else 0, 0, 0⟩, ⟨0, 0, 0, fun _ => false, 0, 0⟩⟩

end Example

end Vmwgfx.Resource.Shortage
