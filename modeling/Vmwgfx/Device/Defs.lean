import Vmwgfx.Binding.Scrub
import Vmwgfx.Lib.Ends
import Vmwgfx.Resource.Defs

/-! What the driver keeps on the device, and what keeps the device up: resource ids,
buffers, `num_3d_resources` and the FIFO, from `vmwgfx_drv.c`, `vmwgfx_resource.c`,
`vmwgfx_context.c`, `vmwgfx_surface.c`, `vmwgfx_shader.c`, `vmwgfx_mob.c` and `vmwgfx_gmr.c`. -/

namespace Vmwgfx.Device

open Vmwgfx.Resource (ResType VmwResFunc BufId)

structure Env where
  hasMob : Bool
  /-- `enable_fb`. -/
  enableFb : Bool
  /-- `SVGA_CAP_GMR2`. -/
  gmr2 : Bool
  memorySize : Nat

/-- Who takes a reference with `vmw_3d_resource_inc`. -/
inductive Holder
  | fbdev
  | master
  | resource (r : ResId)
  | mob (b : BufId)
  deriving DecidableEq

/-- Between a successful `vmw_request_device` and the next `vmw_release_device` the
device is up; these two also use the FIFO themselves. -/
inductive Phase
  | down
  | starting
  | up
  | stopping
  deriving DecidableEq

inductive Event
  /-- A use of the FIFO. -/
  | fifo (phase : Phase)
  | define (type : ResType) (id : Nat)
  | destroy (type : ResType) (id : Nat)
  | inc (h : Holder)
  | dec (h : Holder)
  /-- A first reference that was not granted, with the count and the FIFO buffer it leaves. -/
  | refused (num3dResources : Int) (staticBuffer : Bool)
  | releaseDevice (pinnedBo : Option BufId)

/-- The ids defined on the device; the newest event comes first. -/
def live : List Event → ResType → Nat → Bool
  | [], _, _ => false
  | .define type id :: log, ty, i => (type = ty ∧ id = i) || live log ty i
  | .destroy type id :: log, ty, i => !(type = ty ∧ id = i) && live log ty i
  | _ :: log, ty, i => live log ty i

/-- The references taken and not dropped. -/
def holders : List Event → List Holder
  | [] => []
  | .inc h :: log => h :: holders log
  | .dec h :: log => (holders log).erase h
  | _ :: log => holders log

inductive Placement
  | system
  | vram
  | gmr
  | mob
  deriving DecidableEq

structure Buffer where
  alive : Bool
  placement : Placement
  /-- `TTM_PL_FLAG_NO_EVICT`. -/
  noEvict : Bool

structure Resource where
  func : VmwResFunc
  /-- `kref` is not zero. -/
  alive : Bool
  /-- `none` is `-1`, also when the resource has been freed. -/
  id : Option Nat
  /-- `hw_destroy` has been set. -/
  activated : Bool
  backup : Option BufId
  backupSize : Nat
  backupDirty : Bool
  resDirty : Bool
  /-- `mob_head` is linked. -/
  bound : Bool
  pinCount : Nat

/-- Of `struct vmw_private`: before `vmw_driver_load`, after it, after `vmw_driver_unload`. -/
inductive Life
  | fresh
  | loaded
  | gone
  deriving DecidableEq

inductive Lock
  | cmdbuf
  | binding
  | release
  deriving DecidableEq

structure State where
  res : ResId → Resource
  resources : List ResId
  idr : ResType → List Nat
  lru : ResType → List ResId
  buf : BufId → Buffer
  buffers : List BufId
  /-- The buffer of fbdev. -/
  fbBo : Option BufId
  num3dResources : Int
  phase : Phase
  /-- `fifo->static_buffer`. -/
  staticBuffer : Bool
  held : Lock → Bool
  usedMemorySize : Nat
  pinnedBo : Option BufId
  queryCid : Nat
  queryCidValid : Bool
  life : Life
  master : Bool
  suspended : Bool
  /-- `ttm_suspend_lock` holds `reservation_sem`. -/
  suspendLock : Bool
  log : List Event

/-- Where an operation does not come back from. -/
inductive Stop
  | hang
  | bug
  | oops

abbrev M := EStateM Stop State

section Primitives

def stopIf (c : Bool) (e : Stop) : M Unit := if c then throw e else pure ()

def onlyIf (c : Bool) (x : M Unit) : M Unit := if c then x else pure ()

/-- The result of a function that is called only if `c` holds. -/
def orZero (c : Bool) (x : M Int) : M Int := if c then x else pure 0

def lock (l : Lock) : M Unit := do
  let s ← get
  stopIf (s.held l) .hang
  modify fun s => { s with held := Function.update s.held l true }

def unlock (l : Lock) : M Unit :=
  modify fun s => { s with held := Function.update s.held l false }

def emit (e : Event) : M Unit := modify fun s => { s with log := e :: s.log }

def setRes (r : ResId) (f : Resource → Resource) : M Unit :=
  modify fun s => { s with res := Function.update s.res r (f (s.res r)) }

def setBuf (b : BufId) (f : Buffer → Buffer) : M Unit :=
  modify fun s => { s with buf := Function.update s.buf b (f (s.buf b)) }

end Primitives

section Fifo

/-- `vmw_fifo_reserve`, with its outcome. -/
def vmwFifoReserve (ok : Bool) : M Bool := do
  let s ← get
  emit (.fifo s.phase)
  return ok

def vmwFifoCommit : M Unit := do
  let s ← get
  emit (.fifo s.phase)

def vmwFifoSendFence (ok : Bool) : M Int := do
  if ← vmwFifoReserve ok then
    vmwFifoCommit
    return 0
  else
    return -ENOMEM

/-- `vmw_execbuf_fence_commands`. -/
def vmwExecbufFenceCommands (fence : Bool) : M Unit := do
  let _ ← vmwFifoSendFence fence

/-- A command of its own in the FIFO, and whether there was room for it. -/
def fifoCommand (ok : Bool) : M Bool := do
  if ← vmwFifoReserve ok then
    vmwFifoCommit
    return true
  else
    return false

/-- `vmw_otables_setup`. Once a table is missing the error path reads through the
`page_table` that has not been set. -/
inductive Otables
  | ok
  | noMemory
  | fails
  deriving DecidableEq

structure Request where
  /-- `vmalloc` of the static buffer. -/
  vmalloc : Bool
  /-- The fence of `vmw_fifo_init`. -/
  fence : Bool
  otables : Otables
  /-- `vmw_dummy_query_bo_create`. -/
  dummyBo : Bool
  /-- The reservations of `vmw_otables_takedown`. -/
  takedown : Bool

def Request.granted (env : Env) (o : Request) : Bool :=
  o.vmalloc && o.fence && (!env.hasMob || o.otables = .ok) && o.dummyBo

def vmwFifoInit (o : Request) : M Int := do
  if !o.vmalloc then
    return -ENOMEM
  else
    modify fun s => { s with staticBuffer := true }
    vmwFifoSendFence o.fence

def vmwFifoRelease : M Unit :=
  modify fun s => { s with staticBuffer := false, phase := .down }

def vmwOtablesSetup (o : Otables) : M Int :=
  match o with
  | .ok => do
    let _ ← fifoCommand true
    return 0
  | .noMemory => return -ENOMEM
  | .fails => throw .oops

/-- `vmw_otables_takedown`; a failed reservation is written through. -/
def vmwOtablesTakedown (ok : Bool) : M Unit := do
  let room ← fifoCommand ok
  stopIf (!room) .oops

variable (env : Env)

def vmwRequestDevice (o : Request) : M Int := do
  modify fun s => { s with phase := .starting }
  let ret ← vmwFifoInit o
  if ret ≠ 0 then
    modify fun s => { s with phase := .down }
    return ret
  else
    let ret ← orZero env.hasMob (vmwOtablesSetup o.otables)
    if ret ≠ 0 then
      vmwFifoRelease
      return ret
    else if !o.dummyBo then
      onlyIf env.hasMob (vmwOtablesTakedown o.takedown)
      vmwFifoRelease
      return -ENOMEM
    else
      modify fun s => { s with phase := .up }
      return 0

def vmwReleaseDevice (takedown : Bool) : M Unit := do
  let s ← get
  emit (.releaseDevice s.pinnedBo)
  stopIf s.pinnedBo.isSome .bug
  modify fun s => { s with phase := .stopping }
  onlyIf env.hasMob (vmwOtablesTakedown takedown)
  vmwFifoRelease

/-- What `vmw_3d_resource_inc` does with the result of `vmw_request_device`. -/
def incEnd (h : Holder) (ret : Int) : M Unit := do
  if ret ≠ 0 then
    modify fun s => { s with num3dResources := s.num3dResources - 1 }
    let s ← get
    emit (.refused s.num3dResources s.staticBuffer)
  else
    emit (.inc h)

def vmw3dResourceInc (h : Holder) (o : Request) : M Int := do
  lock .release
  let s ← get
  modify fun s => { s with num3dResources := s.num3dResources + 1 }
  let ret ← orZero (s.num3dResources = 0) (vmwRequestDevice env o)
  incEnd h ret
  unlock .release
  return ret

def vmw3dResourceDec (h : Holder) (takedown : Bool) : M Unit := do
  lock .release
  modify fun s => { s with num3dResources := s.num3dResources - 1 }
  emit (.dec h)
  let s ← get
  onlyIf (s.num3dResources = 0) (vmwReleaseDevice env takedown)
  unlock .release
  let s ← get
  stopIf (s.num3dResources < 0) .bug

end Fifo

section Id

def vmwResourceAllocId (r : ResId) (ok : Bool) : M Int := do
  let s ← get
  stopIf (s.res r).id.isSome .bug
  if !ok then
    return -ENOMEM
  else
    let type := (s.res r).func.resType
    let id := Vmwgfx.Binding.lowestFree (s.idr type)
    modify fun s => { s with idr := Function.update s.idr type (id :: s.idr type) }
    setRes r fun res => { res with id := some id }
    return 0

/-- `idr_remove`. -/
def idrRemove (type : ResType) (id : Option Nat) : M Unit :=
  modify fun s => { s with idr := Function.update s.idr type ((s.idr type).filter (some · ≠ id)) }

def vmwResourceReleaseId (r : ResId) : M Unit := do
  let s ← get
  idrRemove (s.res r).func.resType (s.res r).id
  setRes r fun res => { res with id := none }

end Id

end Vmwgfx.Device
