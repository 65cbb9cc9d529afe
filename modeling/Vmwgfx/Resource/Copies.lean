import Vmwgfx.Resource.Backup

/-! The copies of what a surface stores, on the device and in the backup buffer, and the
commands that the functions of `vmwgfx_surface.c` send to move it from one to the other. -/

universe u

namespace Vmwgfx.Resource

open Lib

/-- `none` is a copy that is not defined. -/
structure Copies (α : Type u) where
  device : ResId → Option α
  backup : ResId → Option α

inductive SurfaceCmd
  | define
  | bind
  | update
  | readback
  | invalidate
  | destroy
  | surfaceDma (toSurface : Bool)

section Copies

variable {α : Type u}

namespace Copies

variable (c : Copies α)

def setDevice (r : ResId) (v : Option α) : Copies α := { c with device := Function.update c.device r v }

def setBackup (r : ResId) (v : Option α) : Copies α := { c with backup := Function.update c.backup r v }

def exec (r : ResId) : SurfaceCmd → Copies α
  | .define | .invalidate | .destroy => c.setDevice r none
  | .bind => c
  | .update | .surfaceDma true => c.setDevice r (c.backup r)
  | .readback | .surfaceDma false => c.setBackup r (c.device r)

def execAll (r : ResId) (cmds : List SurfaceCmd) : Copies α := cmds.foldl (fun c cmd => c.exec r cmd) c

end Copies

end Copies

def vmwGbSurfaceBind (backupDirty : Bool) : List SurfaceCmd :=
  .bind :: if backupDirty then [.update] else []

def vmwGbSurfaceUnbind (readback : Bool) : List SurfaceCmd :=
  [if readback then .readback else .invalidate, .bind]

def vmwLegacySrfBind (backupDirty : Bool) : List SurfaceCmd :=
  if backupDirty then [.surfaceDma true] else []

def vmwLegacySrfUnbind (readback : Bool) : List SurfaceCmd :=
  if readback then [.surfaceDma false] else []

namespace VmwResFunc

def isSurface : VmwResFunc → Bool
  | gbSurface | legacySurface => true
  | gbContext | gbShader | legacyContext | stream => false

/-- `create` of a surface. -/
def createCmds (f : VmwResFunc) : List SurfaceCmd := if f.isSurface then [.define] else []

def destroyCmds (f : VmwResFunc) : List SurfaceCmd := if f.isSurface then [.destroy] else []

def bindCmds (backupDirty : Bool) : VmwResFunc → List SurfaceCmd
  | gbSurface => vmwGbSurfaceBind backupDirty
  | legacySurface => vmwLegacySrfBind backupDirty
  | gbContext | gbShader | legacyContext | stream => []

def unbindCmds (readback : Bool) : VmwResFunc → List SurfaceCmd
  | gbSurface => vmwGbSurfaceUnbind readback
  | legacySurface => vmwLegacySrfUnbind readback
  | gbContext | gbShader | legacyContext | stream => []

end VmwResFunc

section Commands

variable {α : Type u}

/-- The commands of `vmw_resource_do_validate`. -/
def doValidateCopies (s : State) (r : ResId) (o : Attempt) (c : Copies α) : Copies α :=
  let res := s.res r
  if ¬ res.onDevice ∧ o.create ≠ 0 then c
  else
    let c := if res.onDevice then c else c.execAll r res.func.createCmds
    if res.func.hasBind ∧ res.backup.isSome ∧ (¬ res.func.needsBackup ∨ res.mobHead.isNone) then
      if o.bind ≠ 0 then
        if o.destroy = 0 then c.execAll r res.func.destroyCmds else c
      else c.execAll r (res.func.bindCmds res.backupDirty)
    else c

/-- The commands of `vmw_resource_move_notify`. -/
def moveNotifyCopies (s : State) (b : BufId) (toMob : Bool) (us : List Unbind) (c : Copies α) : Copies α :=
  if toMob then c
  else ((s.resList b).zip us).foldl (fun c p =>
    if p.2.ret = 0 then c.execAll p.1 ((s.res p.1).func.unbindCmds true) else c) c

def moveOutCopies (s : State) : List (BufId × List Unbind) → Copies α → Copies α
  | [], c => c
  | (b, us) :: moves, c => moveOutCopies (vmwResourceMoveNotify s b false us) moves (moveNotifyCopies s b false us c)

/-- A buffer that is allocated holds nothing yet. -/
def bufAllocCopies (s : State) (r : ResId) (alloc : Option BufId) (c : Copies α) : Copies α :=
  if (s.res r).backup.isNone ∧ alloc.isSome then c.setBackup r none else c

/-- The commands of `vmw_resource_check_buffer`: it moves other buffers. -/
def checkBufferCopies (s : State) (r : ResId) (o : CheckBuffer) (c : Copies α) : Copies α :=
  let c := bufAllocCopies s r o.alloc c
  match if (s.res r).backup.isNone then vmwResourceBufAlloc s r o.alloc else some (0, s) with
  | none => c
  | some (ret, s) =>
    if ret ≠ 0 then c
    else
      match (s.res r).backup with
      | none => c
      | some b =>
        if o.reserve ≠ 0 ∨ (s.res r).func.needsBackup ∧ (s.res r).mobHead.isNone then c
        else moveOutCopies (s.bufGet b) o.moves c

/-- The commands of `vmw_resource_do_evict`. -/
def doEvictCopies (s : State) (r : ResId) (o : Evict) (c : Copies α) : Copies α :=
  let c := checkBufferCopies s r o.check c
  match vmwResourceCheckBuffer s r o.check with
  | none => c
  | some (ret, s) =>
    let res := s.res r
    if ret ≠ 0 then c
    else if res.func.hasUnbind ∧ (¬ res.func.needsBackup ∨ res.mobHead.isSome) then
      if o.unbind.ret ≠ 0 then c
      else
        let c := c.execAll r (res.func.unbindCmds res.resDirty)
        if o.destroy = 0 then c.execAll r res.func.destroyCmds else c
    else if o.destroy = 0 then c.execAll r res.func.destroyCmds else c

/-- The commands of `vmw_resource_release`, and of the destruction after it. -/
def releaseCopies (s : State) (r : ResId) (u : Unbind) (c : Copies α) : Copies α :=
  let res := s.res r
  let c := if res.backup.isSome ∧ res.mobHead.isSome ∧ res.func.hasUnbind ∧ u.ret = 0 then
    c.execAll r (res.func.unbindCmds false) else c
  c.execAll r res.func.destroyCmds

def evictOneCopies (s : State) (type : ResType) (o : Attempt) (c : Copies α) : Copies α :=
  match s.lru type with
  | [] => c
  | v :: _ =>
    let c := doEvictCopies (s.lruDel v) v o.evict c
    match vmwResourceDoEvict (s.lruDel v) v o.evict with
    | none => c
    | some (_, s) => if o.lastRef then releaseCopies s v o.release c else c

def stepCopies (s : State) (c : Copies α) : Action → Copies α
  | .reserve r noBackup alloc =>
    if (s.res r).func.needsBackup ∧ ¬ noBackup then bufAllocCopies s r alloc c else c
  | .validate r o => if (s.res r).func.mayEvict then doValidateCopies s r o c else c
  | .evict type o => evictOneCopies s type o c
  | .moveNotify b toMob us => moveNotifyCopies s b toMob us c
  | .release r u => releaseCopies s r u c
  | .gbSurfaceDefine .. | .surfaceDefine .. | .shaderDefine .. | .compatShaderAdd .. | .contextDefine ..
  | .unreserve .. | .pin .. | .bufCreate .. | .bufGet .. | .bufPut .. => c

/-- The resources with their copies, and what the last batch left in the copy on the device. -/
structure History (α : Type u) where
  state : State
  copies : Copies α
  left : ResId → Option α

inductive HistoryAct (α : Type u)
  | resource (a : Action)
  /-- A batch is submitted, and leaves `v`. -/
  | submit (r : ResId) (v : α)

/-- `vmw_legacy_srf_bind` does not fail when it has nothing to copy. -/
def LegacyBind (s : State) : Action → Prop
  | .validate r o => (s.res r).func = .legacySurface → (s.res r).backupDirty = false → o.bind = 0
  | _ => True

instance (s : State) (a : Action) : Decidable (LegacyBind s a) := by
  cases a <;> unfold LegacyBind <;> infer_instance

def History.step (hasMob : Bool) (h : History α) : HistoryAct α → Option (History α)
  | .resource a =>
    if LegacyBind h.state a then
      (Resource.step hasMob h.state a).map fun s =>
        { h with state := s, copies := stepCopies h.state h.copies a }
    else none
  | .submit r v =>
    if (h.state.res r).phase = .validated then
      some { h with
        copies := h.copies.setDevice r (some v)
        left := Function.update h.left r (some v) }
    else none

def History.init : History α := ⟨State.init, ⟨fun _ => none, fun _ => none⟩, fun _ => none⟩

/-- A batch that is about to run sees what the last one left. -/
def History.Transparent (h : History α) : Prop :=
  ∀ r v, (h.state.res r).func.isSurface = true → (h.state.res r).phase = .validated →
    h.left r = some v → h.copies.device r = some v

/-- No batch switches the backup of a resource, and `vmw_resource_move_notify` gets its
FIFO space. -/
def Undisturbed (s : State) : Action → Prop
  | .unreserve _ newBackup _ => newBackup = none
  | .validate r _ => (s.res r).func.needsBackup = true → (s.res r).backup.isSome = true
  | .moveNotify _ _ us => ∀ u ∈ us, u.ret = 0
  | .evict _ o => ∀ m ∈ o.evict.check.moves, ∀ u ∈ m.2, u.ret = 0
  | _ => True

/-- The backup buffer that a failed eviction of a legacy surface left behind is not copied to
the device, and a backup buffer that may hold the only copy is not dropped. -/
def LegacyKept (s : State) : Action → Prop
  | .validate r _ => (s.res r).func = .legacySurface → (s.res r).onDevice = true → (s.res r).resDirty = true →
    (s.res r).backupDirty = true → (s.res r).backup = none
  | .evict type o => ∀ v ∈ (s.lru type).head?, (s.res v).func = .legacySurface → (s.res v).resDirty = false →
    (s.res v).backupDirty = true → o.evict.check.reserve = 0 → o.evict.check.validate = 0
  | _ => True

instance (s : State) (a : Action) : Decidable (Undisturbed s a) := by
  cases a <;> unfold Undisturbed <;> infer_instance

instance (s : State) (a : Action) : Decidable (LegacyKept s a) := by
  cases a <;> unfold LegacyKept <;> infer_instance

/-- A condition on the steps of the resources. -/
def HistoryAct.Meets (cond : State → Action → Prop) (h : History α) : HistoryAct α → Prop
  | .resource a => cond h.state a
  | .submit .. => True

instance (cond : State → Action → Prop) [∀ s a, Decidable (cond s a)] (h : History α) (act : HistoryAct α) :
    Decidable (act.Meets cond h) := by
  cases act <;> unfold HistoryAct.Meets <;> infer_instance

end Commands

end Vmwgfx.Resource
