import Vmwgfx.Device.Resource
import Vmwgfx.Lib.Machine

/-! The buffers, submissions, masters, fbdev and suspension, and the steps of the whole
driver as far as the device goes. -/

namespace Vmwgfx.Device

open Vmwgfx.Resource (ResType VmwResFunc BufId)

section Buffers

variable (env : Env)

/-- `vmw_gmr_bind`; without `SVGA_CAP_GMR2` it writes registers. -/
def vmwGmrBind (ok : Bool) : M Int := do
  if env.gmr2 then
    if ← fifoCommand ok then
      return 0
    else
      return -ENOMEM
  else if ok then
    return 0
  else
    return -EINVAL

def vmwGmrUnbind (ok : Bool) : M Unit := onlyIf env.gmr2 (discard (fifoCommand ok))

structure MobBind where
  /-- `vmw_mob_create` and `vmw_mob_pt_populate`. -/
  prepare : Int
  request : Request
  fifo : Bool
  takedown : Bool

/-- `vmw_mob_bind`. -/
def vmwMobBind (b : BufId) (o : MobBind) : M Int := do
  if o.prepare ≠ 0 then
    return o.prepare
  else
    let _ ← vmw3dResourceInc env (.mob b) o.request
    if !(← fifoCommand o.fifo) then
      vmw3dResourceDec env (.mob b) o.takedown
      return -ENOMEM
    else
      return 0

structure MobUnbind where
  fifo : Bool
  /-- The fence of the page table, when there is one. -/
  fence : Option Bool
  takedown : Bool

/-- `vmw_mob_unbind`; a failed reservation is written through. -/
def vmwMobUnbind (b : BufId) (o : MobUnbind) : M Unit := do
  let room ← fifoCommand o.fifo
  stopIf (!room) .oops
  onlyIf o.fence.isSome (vmwExecbufFenceCommands (o.fence.getD true))
  vmw3dResourceDec env (.mob b) o.takedown

structure Move where
  /-- The unbinds of `vmw_resource_move_notify`. -/
  notify : ResId → Unbind
  gmr : Bool
  mobUnbind : MobUnbind
  mobBind : MobBind

/-- The loop of `vmw_resource_move_notify`. -/
def moveNotifyAll (b : BufId) (o : ResId → Unbind) : List ResId → M Unit
  | [] => return ()
  | r :: rs => do
    let s ← get
    onlyIf ((s.res r).bound && (s.res r).backup = some b) do
      let _ ← funcUnbind r true (o r)
      setRes r fun res => { res with backupDirty := true, resDirty := false, bound := false }
    moveNotifyAll b o rs

def vmwResourceMoveNotify (b : BufId) (dest : Placement) (o : ResId → Unbind) : M Unit := do
  let s ← get
  onlyIf (dest ≠ .mob) (moveNotifyAll b o s.resources)

/-- `vmw_ttm_unbind`; the buffer is in system memory then. -/
def vmwTtmUnbind (b : BufId) (o : Move) : M Unit := do
  let s ← get
  onlyIf ((s.buf b).placement = .gmr) (vmwGmrUnbind env o.gmr)
  onlyIf ((s.buf b).placement = .mob) (vmwMobUnbind env b o.mobUnbind)
  setBuf b fun buf => { buf with placement := .system }

/-- `vmw_ttm_bind`, for the placements that have one. -/
def vmwTtmBind (b : BufId) (dest : Placement) (o : Move) : M Int :=
  match dest with
  | .gmr => vmwGmrBind env o.gmr
  | .mob => vmwMobBind env b o.mobBind
  | .system | .vram => return 0

/-- `ttm_bo_handle_move_mem`, for a buffer that has its pages. -/
def moveMem (b : BufId) (dest : Placement) (o : Move) : M Int := do
  let s ← get
  if (s.buf b).placement = dest then
    return 0
  else
    vmwResourceMoveNotify b dest o.notify
    vmwTtmUnbind env b o
    let ret ← vmwTtmBind env b dest o
    onlyIf (ret = 0) (setBuf b fun buf => { buf with placement := dest })
    return ret

/-- `ttm_bo_validate`. -/
def ttmBoValidate (b : BufId) (dest : Placement) (pin : Bool) (o : Move) : M Int := do
  let ret ← moveMem env b dest o
  onlyIf (ret = 0) (setBuf b fun buf => { buf with noEvict := pin })
  return ret

/-- The buffer object is freed. -/
def ttmBoRelease (b : BufId) (o : Move) : M Unit := do
  setBuf b fun buf => { buf with alive := false, noEvict := false }
  vmwTtmUnbind env b o

/-- `ttm_bo_swapout_all`: what is not pinned moves to system memory. -/
def ttmBoSwapoutAll (o : BufId → Move) : List BufId → M Unit
  | [] => return ()
  | b :: bs => do
    let s ← get
    onlyIf ((s.buf b).alive && !(s.buf b).noEvict) (discard (moveMem env b .system (o b)))
    ttmBoSwapoutAll o bs

end Buffers

section Execbuf

variable (env : Env)

structure Execbuf where
  /-- The reservations of `vmw_rebind_contexts`. -/
  rebinds : List Bool
  fifo : Bool
  /-- The last query buffer of the batch, with the context of the query. -/
  query : Option (BufId × ResId)
  /-- The batch itself switches query buffers. -/
  switches : Bool
  barrier : Bool
  fence : Bool
  pinned : ReleasePinned

/-- `vmw_rebind_contexts`. -/
def vmwRebindContexts : List Bool → M Int
  | [] => return 0
  | ok :: oks => do
    if !(← fifoCommand ok) then
      return -ENOMEM
    else
      vmwRebindContexts oks

/-- The new query buffer is pinned. -/
def pinQueryBo : Option (BufId × ResId) → M Unit
  | none => return ()
  | some (b, ctx) => do
    vmwBoPin b true
    modify fun s => { s with
      queryCid := ((s.res ctx).id).getD 0, queryCidValid := true, pinnedBo := some b }

/-- The query buffer pinned so far is unpinned. -/
def unpinQueryBo : Option BufId → M Unit
  | none => return ()
  | some b => dropPinned b

/-- `vmw_query_bo_switch_commit`. -/
def vmwQueryBoSwitchCommit (o : Execbuf) : M Unit := do
  let s ← get
  let curQueryBo := (o.query.map Prod.fst).or s.pinnedBo
  let needsPostQueryBarrier := o.switches || (s.pinnedBo.isSome && s.pinnedBo ≠ curQueryBo)
  onlyIf needsPostQueryBarrier (discard (fifoCommand o.barrier))
  onlyIf (s.pinnedBo ≠ curQueryBo) do
    unpinQueryBo s.pinnedBo
    onlyIf (!needsPostQueryBarrier) (pinQueryBo o.query)

/-- The end of `vmw_execbuf_process` with the label `out_err`. -/
def execbufEnd (fenced : Bool) (o : Execbuf) : M Unit := do
  let s ← get
  onlyIf (s.pinnedBo.isSome && !s.queryCidValid) (vmwExecbufReleasePinnedBoLocked fenced o.pinned)
  unlock .cmdbuf

/-- `vmw_execbuf_process`, from the point where its buffers and resources are validated. -/
def vmwExecbufProcess (o : Execbuf) : M Int := do
  lock .cmdbuf
  lock .binding
  let ret ← orZero env.hasMob (vmwRebindContexts o.rebinds)
  if ret ≠ 0 then
    -- `binding_mutex` stays locked
    execbufEnd false o
    return ret
  else if !(← fifoCommand o.fifo) then
    unlock .binding
    execbufEnd false o
    return -ENOMEM
  else
    vmwQueryBoSwitchCommit o
    let ret ← vmwFifoSendFence o.fence
    unlock .binding
    execbufEnd (ret = 0) o
    return 0

end Execbuf

section Master

variable (env : Env)

/-- `vmw_master_set`; `vtLock` is the result of `ttm_vt_lock` on the master before. -/
def vmwMasterSet (o : Request) (vtLock : Int) (takedown : Bool) : M Int := do
  let ret ← orZero (!env.enableFb) (vmw3dResourceInc env .master o)
  if ret ≠ 0 then
    return ret
  else if vtLock ≠ 0 then
    onlyIf (!env.enableFb) (vmw3dResourceDec env .master takedown)
    return vtLock
  else
    modify fun s => { s with master := true }
    return 0

/-- `vmw_master_drop`. -/
def vmwMasterDrop (o : ReleasePinned) (takedown : Bool) : M Unit := do
  modify fun s => { s with master := false }
  vmwExecbufReleasePinnedBo o
  onlyIf (!env.enableFb) (vmw3dResourceDec env .master takedown)

/-- The buffer of fbdev, pinned at the start of VRAM. -/
def fbCreateBo : Option BufId → M Unit
  | none => return ()
  | some b => do
    modify fun s => { s with fbBo := some b, buffers := b :: s.buffers }
    setBuf b fun _ => ⟨true, .vram, true⟩

/-- `vmw_fb_close`. -/
def fbClose : M Unit := do
  let s ← get
  match s.fbBo with
  | none => return ()
  | some b => setBuf b fun buf => { buf with alive := false, noEvict := false }

/-- The end of `vmw_driver_load`; `fb` is the buffer of `vmw_fb_init`. -/
def vmwDriverLoad (o : Request) (fb : Option BufId) : M Int := do
  let ret ← orZero env.enableFb (vmw3dResourceInc env .fbdev o)
  if ret ≠ 0 then
    return ret
  else
    modify fun s => { s with life := .loaded }
    fbCreateBo fb
    return 0

/-- `vmw_driver_unload`. -/
def vmwDriverUnload (takedown : Bool) : M Unit := do
  modify fun s => { s with life := .gone }
  onlyIf env.enableFb do
    fbClose
    vmw3dResourceDec env .fbdev takedown

end Master

section Suspend

variable (env : Env)

structure Prepare where
  pinned : ReleasePinned
  evict : ResType → Nat → Evict
  swapout : BufId → Move

/-- `vmwgfx_pm_notifier` with `PM_SUSPEND_PREPARE` or `PM_HIBERNATION_PREPARE`. -/
def vmwgfxPmNotifierPrepare (o : Prepare) : M Unit := do
  modify fun s => { s with suspendLock := true }
  vmwExecbufReleasePinnedBo o.pinned
  vmwResourceEvictAll env o.evict
  let s ← get
  ttmBoSwapoutAll env o.swapout s.buffers

/-- `vmwgfx_pm_notifier` with `PM_POST_SUSPEND`, `PM_POST_HIBERNATION` or `PM_POST_RESTORE`. -/
def vmwgfxPmNotifierPost : M Unit := modify fun s => { s with suspendLock := false }

/-- `vmw_pm_prepare`. -/
def vmwPmPrepare (takedown : Bool) (o : Request) : M Int := do
  modify fun s => { s with suspended := true }
  onlyIf env.enableFb (vmw3dResourceDec env .fbdev takedown)
  let s ← get
  if s.num3dResources ≠ 0 then
    onlyIf env.enableFb (discard (vmw3dResourceInc env .fbdev o))
    modify fun s => { s with suspended := false }
    return -EBUSY
  else
    return 0

/-- `vmw_pm_complete`. -/
def vmwPmComplete (o : Request) : M Unit := do
  onlyIf env.enableFb (discard (vmw3dResourceInc env .fbdev o))
  modify fun s => { s with suspended := false }

end Suspend

section Machine

inductive Action
  | load (o : Request) (fb : Option BufId)
  | unload (takedown : Bool)
  | contextInit (r : ResId) (backupSize : Nat) (o : Create) (rel : Release)
  | surfaceInit (r : ResId) (backupSize : Nat) (o : Request)
  | shaderInit (r : ResId) (backupSize : Nat) (byteCode : Option BufId)
  | streamInit (r : ResId) (o : Create) (claim : Int) (rel : Release)
  | reserve (r : ResId) (noBackup : Bool) (alloc : Option BufId)
  | validate (r : ResId) (o : Validate)
  | unreserve (r : ResId) (newBackup : Option BufId)
  | pin (r : ResId)
  | unpin (r : ResId)
  | evict (type : ResType) (o : Evict)
  | release (r : ResId) (o : Release)
  | bufCreate (b : BufId)
  | bufValidate (b : BufId) (dest : Placement) (pin : Bool) (o : Move)
  | bufRelease (b : BufId) (o : Move)
  | execbuf (o : Execbuf)
  | releasePinned (o : ReleasePinned)
  /-- A command of kms, of an overlay or of fbdev. -/
  | command (fifo : Bool)
  | masterSet (o : Request) (vtLock : Int) (takedown : Bool)
  | masterDrop (o : ReleasePinned) (takedown : Bool)
  | notifierPrepare (o : Prepare)
  | pmPrepare (takedown : Bool) (o : Request)
  | pmComplete (o : Request)
  | notifierPost

/-- `reservation_sem` can be taken by the ioctls. -/
def unlocked (s : State) : Bool := s.life = .loaded && !s.suspendLock

def onLru (s : State) (r : ResId) : Bool := r ∈ s.lru (s.res r).func.resType

/-- The placements in which a query buffer is used. -/
def queryPlacement (env : Env) (p : Placement) : Bool :=
  if env.hasMob then p = .mob else p = .vram || p = .gmr

/-- `vmw_resource_lookup` finds the resource, which its creator has activated. -/
def usable (s : State) (r : ResId) : Bool := (s.res r).alive && (s.res r).activated

/-- What the callers see to: `reservation_sem` is free for them, a resource is used only
while there is a reference on it, a buffer only while it exists, and so on. -/
def enabled (env : Env) (s : State) : Action → Bool
  | .load _ fb => s.life = .fresh && (env.enableFb || fb.isNone) && fb.all (fun b => b ∉ s.buffers)
  | .unload _ =>
    unlocked s && !s.master && !s.suspended && s.resources.all (fun r => !(s.res r).alive) &&
      s.buffers.all (fun b => !(s.buf b).alive || s.fbBo = some b)
  | .contextInit r .. | .surfaceInit r .. | .streamInit r .. => unlocked s && r ∉ s.resources
  | .shaderInit r _ byteCode =>
    unlocked s && env.hasMob && r ∉ s.resources && byteCode.all (fun b => (s.buf b).alive)
  | .reserve r _ alloc => unlocked s && usable s r && alloc.all (fun b => (s.buf b).alive)
  | .validate r _ => unlocked s && usable s r && !onLru s r
  | .unreserve r newBackup => usable s r && newBackup.all (fun b => (s.buf b).alive)
  | .pin r => usable s r && !onLru s r
  | .unpin r => usable s r && 0 < (s.res r).pinCount
  | .evict _ o => unlocked s && o.alloc.all (fun b => (s.buf b).alive)
  | .release r _ => usable s r && (s.res r).pinCount = 0
  | .bufCreate b => unlocked s && b ∉ s.buffers
  | .bufValidate b dest pin _ =>
    unlocked s && (s.buf b).alive && s.pinnedBo ≠ some b && (!pin || dest ≠ .system)
  | .bufRelease b _ =>
    (s.buf b).alive && s.pinnedBo ≠ some b && s.fbBo ≠ some b &&
      s.resources.all (fun r => (s.res r).backup ≠ some b)
  | .execbuf o =>
    unlocked s && o.query.all fun q =>
      usable s q.2 && (s.res q.2).id.isSome && (s.res q.2).func.resType = .context &&
        (s.buf q.1).alive && queryPlacement env (s.buf q.1).placement
  | .releasePinned _ => unlocked s
  | .command _ => s.master || (s.fbBo.isSome && s.life = .loaded && !s.suspended)
  | .masterSet .. => s.life = .loaded && !s.master
  | .masterDrop .. => s.master
  | .notifierPrepare _ => unlocked s
  | .pmPrepare .. => s.suspendLock && !s.suspended
  | .pmComplete _ => s.suspended
  | .notifierPost => s.suspendLock && !s.suspended

def perform (env : Env) : Action → M Unit
  | .load o fb => discard (vmwDriverLoad env o fb)
  | .unload takedown => vmwDriverUnload env takedown
  | .contextInit r size o rel => discard (vmwContextInit env r size o rel)
  | .surfaceInit r size o => discard (vmwSurfaceInit env r size o)
  | .shaderInit r size byteCode => discard (vmwGbShaderInit r size byteCode)
  | .streamInit r o claim rel => discard (vmwStreamInit env r o claim rel)
  | .reserve r noBackup alloc => discard (vmwResourceReserve r noBackup alloc)
  | .validate r o => discard (vmwResourceValidateRound env r o)
  | .unreserve r newBackup => vmwResourceUnreserve r newBackup
  | .pin r => setRes r fun res => { res with pinCount := res.pinCount + 1 }
  | .unpin r => setRes r fun res => { res with pinCount := res.pinCount - 1 }
  | .evict type o => discard (evictFirst env type o)
  | .release r o => vmwResourceRelease env r o
  | .bufCreate b => do
    modify fun s => { s with buffers := b :: s.buffers }
    setBuf b fun _ => ⟨true, .system, false⟩
  | .bufValidate b dest pin o => discard (ttmBoValidate env b dest pin o)
  | .bufRelease b o => ttmBoRelease env b o
  | .execbuf o => discard (vmwExecbufProcess env o)
  | .releasePinned o => vmwExecbufReleasePinnedBo o
  | .command ok => discard (fifoCommand ok)
  | .masterSet o vtLock takedown => discard (vmwMasterSet env o vtLock takedown)
  | .masterDrop o takedown => vmwMasterDrop env o takedown
  | .notifierPrepare o => vmwgfxPmNotifierPrepare env o
  | .pmPrepare takedown o => discard (vmwPmPrepare env takedown o)
  | .pmComplete o => vmwPmComplete env o
  | .notifierPost => vmwgfxPmNotifierPost

/-- The state an operation ends in, also when it does not come back. -/
def endState {α : Type} : EStateM.Result Stop State α → State
  | .ok _ t => t
  | .error _ t => t

def step (env : Env) (s : State) (a : Action) : Option State :=
  if enabled env s a then some (endState (perform env a s)) else none

def deadResource : Resource :=
  { func := .stream, alive := false, id := none, activated := false, backup := none, backupSize := 0
    backupDirty := false, resDirty := false, bound := false, pinCount := 0 }

def State.init : State :=
  { res := fun _ => deadResource, resources := [], idr := fun _ => [], lru := fun _ => []
    buf := fun _ => ⟨false, .system, false⟩, buffers := [], fbBo := none, num3dResources := 0
    phase := .down, staticBuffer := false, held := fun _ => false, usedMemorySize := 0
    pinnedBo := none, queryCid := 0, queryCidValid := false, life := .fresh, master := false
    suspended := false, suspendLock := false, log := [] }

end Machine

end Vmwgfx.Device
