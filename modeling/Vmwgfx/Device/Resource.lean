import Vmwgfx.Device.Defs

/-! The resources on the device: creation, validation, eviction and release. -/

namespace Vmwgfx.Device

open Vmwgfx.Resource (ResType VmwResFunc BufId)

section Func

structure Create where
  /-- `idr_alloc`. -/
  alloc : Bool
  fifo : Bool
  request : Request

structure Bind where
  fifo : Bool
  fence : Bool

structure Unbind where
  /-- The reservations of the scrubs. -/
  scrubs : List Bool
  fifo : Bool
  fence : Bool

structure Destroy where
  scrubs : List Bool
  fifo : Bool
  takedown : Bool

/-- `SVGA3D_MAX_CONTEXT_IDS`, `VMWGFX_NUM_GB_CONTEXT`, `SVGA3D_MAX_SURFACE_IDS`,
`VMWGFX_NUM_GB_SURFACE` and `VMWGFX_NUM_GB_SHADER`; streams have no limit of their own. -/
def idLimit : VmwResFunc → Option Nat
  | .legacyContext | .gbContext => some 256
  | .legacySurface | .gbSurface => some 32768
  | .gbShader => some 20000
  | .stream => none

def tooLarge (func : VmwResFunc) (id : Option Nat) : Bool :=
  match idLimit func, id with
  | some limit, some i => limit ≤ i
  | _, _ => false

def scrubAll : List Bool → M Unit
  | [] => return ()
  | ok :: oks => do
    let _ ← fifoCommand ok
    scrubAll oks

/-- The command that defines the resource is committed. -/
def define (r : ResId) : M Unit := do
  let s ← get
  match (s.res r).id with
  | none => return ()
  | some i => do
    emit (.define (s.res r).func.resType i)
    vmwFifoCommit

/-- The command that destroys the resource is committed. -/
def undefine (r : ResId) : M Unit := do
  let s ← get
  match (s.res r).id with
  | none => return ()
  | some i => do
    emit (.destroy (s.res r).func.resType i)
    vmwFifoCommit

variable (env : Env)

/-- From the allocation of the id to the command, with the labels `out_no_fifo` and
`out_no_id`, which the `create` functions share. -/
def defineNew (r : ResId) (o : Create) : M Int := do
  let ret ← vmwResourceAllocId r o.alloc
  if ret ≠ 0 then
    return ret
  else
    let s ← get
    if tooLarge (s.res r).func (s.res r).id then
      vmwResourceReleaseId r
      return -EBUSY
    else if !(← vmwFifoReserve o.fifo) then
      vmwResourceReleaseId r
      return -ENOMEM
    else
      define r
      return 0

def vmwLegacySrfCreate (r : ResId) (o : Create) : M Int := do
  let s ← get
  if env.memorySize ≤ s.usedMemorySize + (s.res r).backupSize then
    return -EBUSY
  else
    let ret ← defineNew r o
    onlyIf (ret = 0)
      (modify fun s => { s with usedMemorySize := s.usedMemorySize + (s.res r).backupSize })
    return ret

/-- `vmw_gb_context_create` and `vmw_gb_shader_create`. -/
def gbCreate (r : ResId) (o : Create) : M Int := do
  let ret ← defineNew r o
  onlyIf (ret = 0) (discard (vmw3dResourceInc env (.resource r) o.request))
  return ret

def vmwGbSurfaceCreate (r : ResId) (o : Create) (takedown : Bool) : M Int := do
  let _ ← vmw3dResourceInc env (.resource r) o.request
  let ret ← defineNew r o
  onlyIf (ret ≠ 0) (vmw3dResourceDec env (.resource r) takedown)
  return ret

/-- The `create` of the function table, when there is no id yet. -/
def funcCreate (r : ResId) (o : Create) (takedown : Bool) : M Int := do
  let s ← get
  if (s.res r).id.isSome then
    return 0
  else
    match (s.res r).func with
    | .legacySurface => vmwLegacySrfCreate env r o
    | .gbContext | .gbShader => gbCreate env r o
    | .gbSurface => vmwGbSurfaceCreate env r o takedown
    | .legacyContext | .stream => throw .oops

def vmwLegacySrfDma (o : Bind) : M Int := do
  if !(← fifoCommand o.fifo) then
    return -ENOMEM
  else
    vmwExecbufFenceCommands o.fence
    return 0

/-- `BUG_ON(bo->mem.mem_type != VMW_PL_MOB)` for the backup buffer. -/
def bugOnNoMob (r : ResId) : M Unit := do
  let s ← get
  stopIf ((s.res r).backup.map (fun b => (s.buf b).placement) ≠ some .mob) .bug

/-- `vmw_gb_context_bind`, `vmw_gb_surface_bind` and `vmw_gb_shader_bind`. -/
def gbBind (r : ResId) (o : Bind) : M Int := do
  bugOnNoMob r
  if !(← fifoCommand o.fifo) then
    return -ENOMEM
  else
    setRes r fun res => { res with backupDirty := false }
    return 0

def funcBind (r : ResId) (o : Bind) : M Int := do
  let s ← get
  if (s.res r).func.needsBackup then
    gbBind r o
  else if (s.res r).backupDirty then
    vmwLegacySrfDma o
  else
    return 0

def vmwGbContextUnbind (r : ResId) (o : Unbind) : M Int := do
  bugOnNoMob r
  lock .binding
  scrubAll o.scrubs
  if !(← fifoCommand o.fifo) then
    unlock .binding
    return -ENOMEM
  else
    unlock .binding
    vmwExecbufFenceCommands o.fence
    return 0

/-- `vmw_gb_surface_unbind` and `vmw_gb_shader_unbind`. -/
def gbUnbind (r : ResId) (o : Unbind) : M Int := do
  bugOnNoMob r
  if !(← fifoCommand o.fifo) then
    return -ENOMEM
  else
    vmwExecbufFenceCommands o.fence
    return 0

def funcUnbind (r : ResId) (readback : Bool) (o : Unbind) : M Int := do
  let s ← get
  match (s.res r).func with
  | .gbContext => vmwGbContextUnbind r o
  | .gbSurface | .gbShader => gbUnbind r o
  | .legacySurface => if readback then vmwLegacySrfDma ⟨o.fifo, o.fence⟩ else pure 0
  | .legacyContext | .stream => return 0

def vmwLegacySrfDestroy (r : ResId) (o : Destroy) : M Int := do
  let s ← get
  if (s.res r).id.isNone then
    return 0
  else if !(← vmwFifoReserve o.fifo) then
    return -ENOMEM
  else
    undefine r
    modify fun s => { s with usedMemorySize := s.usedMemorySize - (s.res r).backupSize }
    vmwResourceReleaseId r
    return 0

def vmwGbContextDestroy (r : ResId) (o : Destroy) : M Int := do
  let s ← get
  if (s.res r).id.isNone then
    return 0
  else if !(← vmwFifoReserve o.fifo) then
    return -ENOMEM
  else
    undefine r
    modify fun s =>
      if some s.queryCid = (s.res r).id then { s with queryCidValid := false } else s
    vmwResourceReleaseId r
    vmw3dResourceDec env (.resource r) o.takedown
    return 0

def vmwGbSurfaceDestroy (r : ResId) (o : Destroy) : M Int := do
  let s ← get
  if (s.res r).id.isNone then
    return 0
  else
    lock .binding
    scrubAll o.scrubs
    if !(← vmwFifoReserve o.fifo) then
      -- `binding_mutex` stays locked
      return -ENOMEM
    else
      undefine r
      unlock .binding
      vmwResourceReleaseId r
      vmw3dResourceDec env (.resource r) o.takedown
      return 0

def vmwGbShaderDestroy (r : ResId) (o : Destroy) : M Int := do
  let s ← get
  if (s.res r).id.isNone then
    return 0
  else
    lock .binding
    scrubAll o.scrubs
    if !(← vmwFifoReserve o.fifo) then
      unlock .binding
      return -ENOMEM
    else
      undefine r
      unlock .binding
      vmwResourceReleaseId r
      vmw3dResourceDec env (.resource r) o.takedown
      return 0

/-- The `destroy` of the function table. -/
def funcDestroy (r : ResId) (o : Destroy) : M Int := do
  let s ← get
  match (s.res r).func with
  | .legacySurface => vmwLegacySrfDestroy r o
  | .gbContext => vmwGbContextDestroy env r o
  | .gbSurface => vmwGbSurfaceDestroy env r o
  | .gbShader => vmwGbShaderDestroy env r o
  | .legacyContext | .stream => throw .oops

end Func

section Query

structure ReleasePinned where
  /-- `ttm_eu_reserve_buffers`. -/
  reserve : Bool
  /-- `vmw_fifo_emit_dummy_query`. -/
  query : Bool
  fence : Bool

/-- `vmw_bo_pin`. -/
def vmwBoPin (b : BufId) (pin : Bool) : M Unit :=
  setBuf b fun buf => { buf with noEvict := pin }

/-- Unpins the query buffer and drops the reference on it. -/
def dropPinned (b : BufId) : M Unit := do
  vmwBoPin b false
  modify fun s => { s with pinnedBo := none }

/-- `__vmw_execbuf_release_pinned_bo`; `fenced` says that a fence is given. -/
def vmwExecbufReleasePinnedBoLocked (fenced : Bool) (o : ReleasePinned) : M Unit := do
  let s ← get
  match s.pinnedBo with
  | none => return ()
  | some b =>
    if !o.reserve then
      dropPinned b
    else if s.queryCidValid then
      stopIf fenced .bug
      if !(← fifoCommand o.query) then
        dropPinned b
      else
        modify fun s => { s with queryCidValid := false }
        onlyIf (!fenced) (vmwExecbufFenceCommands o.fence)
        dropPinned b
    else
      onlyIf (!fenced) (vmwExecbufFenceCommands o.fence)
      dropPinned b

def vmwExecbufReleasePinnedBo (o : ReleasePinned) : M Unit := do
  lock .cmdbuf
  let s ← get
  onlyIf s.queryCidValid (vmwExecbufReleasePinnedBoLocked false o)
  unlock .cmdbuf

end Query

section Lifetime

variable (env : Env)

structure Release where
  unbind : Unbind
  /-- The reservations of `vmw_context_binding_state_kill`. -/
  kill : List Bool
  destroy : Destroy
  pinned : ReleasePinned

def vmwHwContextDestroy (r : ResId) (o : Release) : M Unit := do
  let s ← get
  if (s.res r).func = .gbContext then
    lock .cmdbuf
    lock .binding
    scrubAll o.kill
    let _ ← vmwGbContextDestroy env r o.destroy
    let s ← get
    onlyIf (s.pinnedBo.isSome && !s.queryCidValid) (vmwExecbufReleasePinnedBoLocked false o.pinned)
    unlock .binding
    unlock .cmdbuf
  else
    vmwExecbufReleasePinnedBo o.pinned
    if ← vmwFifoReserve o.destroy.fifo then
      undefine r
      vmw3dResourceDec env (.resource r) o.destroy.takedown

def vmwHwSurfaceDestroy (r : ResId) (o : Destroy) : M Unit := do
  let s ← get
  if (s.res r).func = .gbSurface then
    let _ ← vmwGbSurfaceDestroy env r o
  else if (s.res r).id.isSome then
    if ← vmwFifoReserve o.fifo then
      undefine r
      lock .cmdbuf
      modify fun s => { s with usedMemorySize := s.usedMemorySize - (s.res r).backupSize }
      unlock .cmdbuf
      vmw3dResourceDec env (.resource r) o.takedown
  else
    vmw3dResourceDec env (.resource r) o.takedown

/-- `hw_destroy`; `vmw_stream_destroy` gives the overlay stream back. -/
def hwDestroy (r : ResId) (o : Release) : M Unit := do
  let s ← get
  match (s.res r).func with
  | .legacyContext | .gbContext => vmwHwContextDestroy env r o
  | .legacySurface | .gbSurface => vmwHwSurfaceDestroy env r o.destroy
  | .gbShader => do
    let _ ← vmwGbShaderDestroy env r o.destroy
  | .stream => return ()

def State.lruDel (s : State) (r : ResId) : State :=
  let type := (s.res r).func.resType
  { s with lru := Function.update s.lru type ((s.lru type).filter (· ≠ r)) }

def State.lruAdd (s : State) (r : ResId) : State :=
  let type := (s.res r).func.resType
  { s with lru := Function.update s.lru type (s.lru type ++ [r]) }

/-- `list_del_init(&res->lru_head)`. -/
def lruDel (r : ResId) : M Unit := modify fun s => s.lruDel r

/-- `list_add_tail(&res->lru_head, lru_list)`. -/
def lruAdd (r : ResId) : M Unit := modify fun s => s.lruAdd r

/-- The backup buffer goes, and what is bound to it is unbound. -/
def releaseBackup (r : ResId) (o : Unbind) : M Unit := do
  let s ← get
  if (s.res r).backup.isSome then
    onlyIf ((s.res r).bound && (s.res r).func.hasUnbind) (discard (funcUnbind r false o))
    setRes r fun res => { res with backupDirty := false, bound := false, backup := none }

/-- `vmw_resource_release`. -/
def vmwResourceRelease (r : ResId) (o : Release) : M Unit := do
  setRes r fun res => { res with alive := false }
  lruDel r
  releaseBackup r o.unbind
  let s ← get
  onlyIf (s.res r).activated do
    hwDestroy env r o
    lock .binding
    unlock .binding
  vmwResourceReleaseId r

def newResource (func : VmwResFunc) (backupSize : Nat) : Resource :=
  { func := func, alive := true, id := none, activated := false, backup := none
    backupSize := backupSize, backupDirty := false, resDirty := false, bound := false, pinCount := 0 }

/-- `vmw_resource_init` without the allocation of the id. -/
def vmwResourceInit (r : ResId) (func : VmwResFunc) (backupSize : Nat) : M Unit := do
  modify fun s => { s with resources := r :: s.resources }
  setRes r fun _ => newResource func backupSize

def vmwResourceActivate (r : ResId) : M Unit :=
  setRes r fun res => { res with activated := true }

/-- The `res_free` of a resource that never had an id. -/
def resFree (r : ResId) : M Unit := setRes r fun res => { res with alive := false }

/-- `vmw_context_init`. -/
def vmwContextInit (r : ResId) (backupSize : Nat) (o : Create) (rel : Release) : M Int := do
  if env.hasMob then
    vmwResourceInit r .gbContext backupSize
    vmwResourceActivate r
    return 0
  else
    vmwResourceInit r .legacyContext 0
    let ret ← vmwResourceAllocId r o.alloc
    if ret ≠ 0 then
      resFree r
      return ret
    else
      let s ← get
      if tooLarge .legacyContext (s.res r).id then
        vmwResourceRelease env r rel
        return -ENOMEM
      else if !(← vmwFifoReserve o.fifo) then
        vmwResourceRelease env r rel
        return -ENOMEM
      else
        define r
        let _ ← vmw3dResourceInc env (.resource r) o.request
        vmwResourceActivate r
        return 0

/-- `vmw_surface_init`. -/
def vmwSurfaceInit (r : ResId) (backupSize : Nat) (o : Request) : M Int := do
  onlyIf (!env.hasMob) (discard (vmw3dResourceInc env (.resource r) o))
  vmwResourceInit r (if env.hasMob then .gbSurface else .legacySurface) backupSize
  vmwResourceActivate r
  return 0

/-- `vmw_gb_shader_init`. -/
def vmwGbShaderInit (r : ResId) (backupSize : Nat) (byteCode : Option BufId) : M Int := do
  vmwResourceInit r .gbShader backupSize
  setRes r fun res => { res with backup := byteCode }
  vmwResourceActivate r
  return 0

/-- `vmw_stream_init`, with the result of `vmw_overlay_claim`. -/
def vmwStreamInit (r : ResId) (o : Create) (claim : Int) (rel : Release) : M Int := do
  vmwResourceInit r .stream 0
  let ret ← vmwResourceAllocId r o.alloc
  if ret ≠ 0 then
    resFree r
    return ret
  else if claim ≠ 0 then
    vmwResourceRelease env r rel
    return claim
  else
    vmwResourceActivate r
    return 0

end Lifetime

section Validate

variable (env : Env)

structure Validate where
  create : Create
  /-- The `vmw_3d_resource_dec` of a `create` that fails. -/
  takedown : Bool
  bind : Bind
  destroy : Destroy

/-- `vmw_resource_do_validate`. -/
def vmwResourceDoValidate (r : ResId) (o : Validate) : M Int := do
  let ret ← funcCreate env r o.create o.takedown
  if ret ≠ 0 then
    return ret
  else
    let s ← get
    if (s.res r).func.hasBind && (s.res r).backup.isSome &&
        (!(s.res r).func.needsBackup || !(s.res r).bound) then
      let ret ← funcBind r o.bind
      if ret ≠ 0 then
        let _ ← funcDestroy env r o.destroy
        return ret
      else
        setRes r fun res => { res with bound := res.bound || res.func.needsBackup, resDirty := true }
        return 0
    else
      setRes r fun res => { res with resDirty := true }
      return 0

/-- One round of `vmw_resource_validate`; a round that ends with `-EBUSY` is followed by an
eviction and another round. -/
def vmwResourceValidateRound (r : ResId) (o : Validate) : M Int := do
  let s ← get
  if !(s.res r).func.mayEvict then
    return 0
  else
    let ret ← vmwResourceDoValidate env r o
    onlyIf (ret = 0) (setRes r fun res =>
      if res.func.needsBackup then res else { res with bound := false, backup := none })
    return ret

structure Evict where
  /-- The buffer that `vmw_resource_buf_alloc` finds memory for. -/
  alloc : Option BufId
  /-- `ttm_eu_reserve_buffers`. -/
  reserve : Int
  /-- `ttm_bo_validate`. -/
  validate : Int
  unbind : Unbind
  destroy : Destroy

/-- `vmw_resource_buf_alloc`. -/
def vmwResourceBufAlloc (r : ResId) (alloc : Option BufId) : M Int := do
  let s ← get
  if (s.res r).backup.isSome then
    return 0
  else
    match alloc with
    | none => return -ENOMEM
    | some b => do
      setRes r fun res => { res with backup := some b }
      return 0

/-- `vmw_resource_check_buffer`. -/
def vmwResourceCheckBuffer (r : ResId) (o : Evict) : M Int := do
  let ret ← vmwResourceBufAlloc r o.alloc
  if ret ≠ 0 then
    return ret
  else if o.reserve ≠ 0 then
    return o.reserve
  else
    let s ← get
    if (s.res r).func.needsBackup && !(s.res r).bound then
      return 0
    else
      onlyIf (o.validate ≠ 0 && (s.res r).backupDirty) (setRes r fun res => { res with backup := none })
      return o.validate

/-- `vmw_resource_do_evict`. -/
def vmwResourceDoEvict (r : ResId) (o : Evict) : M Int := do
  let s ← get
  stopIf (!(s.res r).func.mayEvict) .bug
  let ret ← vmwResourceCheckBuffer r o
  if ret ≠ 0 then
    return ret
  else
    let s ← get
    let ret ← orZero (!(s.res r).func.needsBackup || (s.res r).bound)
      (funcUnbind r (s.res r).resDirty o.unbind)
    if ret ≠ 0 then
      return ret
    else
      setRes r fun res => { res with bound := false }
      let ret ← funcDestroy env r o.destroy
      setRes r fun res => { res with backupDirty := true, resDirty := false }
      return ret

/-- The eviction of the first resource on a list, which goes to the end when that fails. -/
def evictFirst (type : ResType) (o : Evict) : M Int := do
  let s ← get
  match s.lru type with
  | [] => return 0
  | r :: _ => do
    lruDel r
    let ret ← vmwResourceDoEvict env r o
    onlyIf (ret ≠ 0) (lruAdd r)
    return ret

/-- The loop of `vmw_resource_evict_type`; `k` counts the evictions. -/
def vmwResourceEvictTypeLoop (type : ResType) (o : Nat → Evict) : Nat → Nat → Nat → M Unit
  | 0, _, _ => return ()
  | fuel + 1, k, errCount => do
    let s ← get
    match s.lru type with
    | [] => return ()
    | _ :: _ => do
      let ret ← evictFirst env type (o k)
      if ret ≠ 0 then
        if errCount < Vmwgfx.Resource.VMW_RES_EVICT_ERR_COUNT then
          vmwResourceEvictTypeLoop type o fuel (k + 1) (errCount + 1)
      else
        vmwResourceEvictTypeLoop type o fuel (k + 1) errCount

/-- A round either shortens the list or counts an error, so the fuel is enough. -/
def vmwResourceEvictType (type : ResType) (o : Nat → Evict) : M Unit := do
  let s ← get
  vmwResourceEvictTypeLoop env type o
    ((s.lru type).length + Vmwgfx.Resource.VMW_RES_EVICT_ERR_COUNT + 1) 0 0

/-- `vmw_resource_evict_all`. -/
def vmwResourceEvictAll (o : ResType → Nat → Evict) : M Unit := do
  lock .cmdbuf
  vmwResourceEvictType env .context (o .context)
  vmwResourceEvictType env .surface (o .surface)
  vmwResourceEvictType env .stream (o .stream)
  vmwResourceEvictType env .shader (o .shader)
  unlock .cmdbuf

/-- `vmw_resource_reserve`; `alloc` is the buffer of `vmw_resource_buf_alloc`. -/
def vmwResourceReserve (r : ResId) (noBackup : Bool) (alloc : Option BufId) : M Int := do
  lruDel r
  let s ← get
  if (s.res r).func.needsBackup && !noBackup then
    vmwResourceBufAlloc r alloc
  else
    return 0

/-- The backup buffer that `vmw_resource_unreserve` switches to. -/
def switchBackup (r : ResId) (newBackup : Option BufId) : M Unit :=
  match newBackup with
  | none => return ()
  | some b =>
    setRes r fun res => if res.backup = some b then res else { res with backup := some b, bound := true }

/-- `vmw_resource_unreserve`. -/
def vmwResourceUnreserve (r : ResId) (newBackup : Option BufId) : M Unit := do
  let s ← get
  onlyIf (r ∉ s.lru (s.res r).func.resType) do
    switchBackup r newBackup
    onlyIf ((s.res r).func.mayEvict && (s.res r).id.isSome && (s.res r).pinCount = 0) (lruAdd r)

end Validate

end Vmwgfx.Device
