import Vmwgfx.Locks.Defs

/-! The callers of `vmw_fifo_reserve`, except `vmw_execbuf_process`, and what they call. -/

namespace Vmwgfx.Locks

open Lib

variable (env : Env)

section Fences

def vmwFifoSendFence : M Bool := do
  let fm ← vmwFifoReserve env .fifoSendFence 8
  if fm then
    if ← ask env .capFence then
      fill env .fifoSendFence fm
      vmwFifoCommit env .fifoSendFence 8
      return true
    else
      vmwFifoCommit env .fifoSendFence 0
      return true
  else return false

/-- `vmw_execbuf_fence_commands`; whether the caller gets a fence. -/
def vmwExecbufFenceCommands : M Bool := do
  discard (vmwFifoSendFence env)
  ask env .fenceCreated

/-- The fence is new if there is none. -/
def vmwFenceSingleBo (fence : Bool) : M Unit :=
  if fence then return () else discard (vmwExecbufFenceCommands env)

/-- How the `unbind` functions and `vmw_legacy_srf_dma` end. -/
def fenceBackup : M Unit := do
  let fence ← vmwExecbufFenceCommands env
  vmwFenceSingleBo env fence

end Fences

section Gmr

def vmwGmr2Bind : M Bool := do
  command env .gmr2Bind (← size env .gmr2Bind)

def vmwGmr2Unbind : M Unit := do
  discard (command env .gmr2Unbind 12)

/-- `vmw_gmr_bind`; without `SVGA_CAP_GMR2` it writes registers. -/
def vmwGmrBind : M Bool := do
  if ← ask env .capGmr2 then vmwGmr2Bind env else return true

def vmwGmrUnbind : M Unit := do
  let gmr2 ← ask env .capGmr2
  onlyIf gmr2 (vmwGmr2Unbind env)

end Gmr

section Otables

def vmwSetupOtableBase : M Bool := do
  if ← ask env .mobPrepared then
    if ← command env .setupOtableBase (← size env .setupOtableBase) then
      return true
    else
      -- `ret` has not been set
      ask env .unset
  else return false

def vmwTakedownOtableBase : M Unit := do
  if ← ask env .pageTable then
    let cmd ← vmwFifoReserve env .takedownOtableBase 28
    -- a failure is only reported
    fill env .takedownOtableBase cmd
    vmwFifoCommit env .takedownOtableBase 28
    let bo ← ask env .ptBo
    onlyIf bo (vmwFenceSingleBo env false)
  else
    -- `page_table` is followed before it is compared with NULL
    throw .oops

/-- The tables up to the first that fails. -/
def setupOtables : Nat → M Bool
  | 0 => return true
  | n + 1 => do
    if ← vmwSetupOtableBase env then setupOtables n else return false

def vmwOtablesSetup : M Bool := do
  let n ← length env .otables
  if ← ask env .otableBo then
    let mapped ← ask env .otableBoMapped
    if ← (if mapped then setupOtables env n else pure false) then
      return true
    else
      times (vmwTakedownOtableBase env) n
      return false
  else return false

def vmwOtablesTakedown : M Unit := do
  let n ← length env .otables
  times (vmwTakedownOtableBase env) n
  vmwFenceSingleBo env false

/-- `vmw_fifo_init`, which also initialises the mutex. -/
def vmwFifoInit : M Bool := do
  if ← ask env .staticBuffer then
    modify fun s =>
      { s with fifo := { s.fifo with
          nextCmd := s.fifo.min, stop := s.fifo.min, dynamicBuffer := none, reservedSize := 0
          usingBounceBuffer := false, pc := .idle } }
    vmwFifoSendFence env
  else return false

def vmwRequestDevice : M Bool := do
  if ← vmwFifoInit env then
    let hasMob ← ask env .hasMob
    if ← (if hasMob then vmwOtablesSetup env else pure true) then
      if ← ask env .dummyQueryBo then
        return true
      else
        onlyIf hasMob (vmwOtablesTakedown env)
        return false
    else return false
  else return false

def vmwReleaseDevice : M Unit := do
  if ← ask env .pinnedBo then
    throw .bug
  else
    -- a buffer that is bound as a MOB holds a reference itself
    let bound ← ask env .bufferBound
    onlyIf bound (vmwGmrUnbind env)
    let hasMob ← ask env .hasMob
    onlyIf hasMob (vmwOtablesTakedown env)

def vmw3dResourceInc : M Bool := do
  if ← ask env .lastHolder then vmwRequestDevice env else return true

def vmw3dResourceDec : M Unit := do
  let last ← ask env .lastHolder
  onlyIf last (vmwReleaseDevice env)
  let negative ← ask env .negativeCount
  onlyIf negative (throw .bug)

end Otables

section Buffers

def vmwMobUnbind : M Unit := do
  let bo ← ask env .ptBo
  let cmd ← vmwFifoReserve env .mobUnbind 12
  -- a failure is only reported
  fill env .mobUnbind cmd
  vmwFifoCommit env .mobUnbind 12
  onlyIf bo (vmwFenceSingleBo env false)
  vmw3dResourceDec env

def vmwMobBind : M Bool := do
  if ← ask env .dataPages then
    if ← ask env .mobPrepared then
      discard (vmw3dResourceInc env)
      if ← command env .mobBind (← size env .mobBind) then
        return true
      else
        vmw3dResourceDec env
        return false
    else return false
  else return true

def vmwTtmBind : M Bool := do
  if ← ask env .bufferIsMob then vmwMobBind env else vmwGmrBind env

def vmwTtmUnbind : M Unit := do
  if ← ask env .bufferIsMob then vmwMobUnbind env else vmwGmrUnbind env

/-- A buffer that nobody refers to any more is unbound. -/
def ttmBoUnref : M Unit := do
  if ← ask env .lastReference then
    let bound ← ask env .bufferBound
    onlyIf bound (vmwTtmUnbind env)
  else return ()

end Buffers

section Bindings

def vmwContextScrubShader (rebind : Bool) : M Bool := command env (.contextScrub .shader rebind) 20

def vmwContextScrubRenderTarget (rebind : Bool) : M Bool := command env (.contextScrub .rt rebind) 28

def vmwContextScrubTexture (rebind : Bool) : M Bool := command env (.contextScrub .tex rebind) 24

def vmwScrubFuncs (rebind : Bool) : M Bool := do
  if ← ask env (.bindingType .shader) then
    vmwContextScrubShader env rebind
  else if ← ask env (.bindingType .rt) then
    vmwContextScrubRenderTarget env rebind
  else
    vmwContextScrubTexture env rebind

/-- `vmw_context_binding_kill`, and the rounds of the scrub functions. -/
def scrubOne : M Unit := do
  if ← ask env .scrubbed then return () else discard (vmwScrubFuncs env false)

/-- `vmw_context_binding_state_kill`, `vmw_context_binding_state_scrub`,
`vmw_context_binding_res_list_kill` and `vmw_context_binding_res_list_scrub`. -/
def scrubList : M Unit := do
  let n ← length env .bindings
  times (scrubOne env) n

/-- `vmw_context_rebind_all`, with so many bindings left. -/
def rebindAll : Nat → M Bool
  | 0 => return true
  | n + 1 => do
    if ← ask env .scrubbed then
      if ← ask env .unbound then
        rebindAll n
      else if ← vmwScrubFuncs env true then
        rebindAll n
      else return false
    else rebindAll n

/-- `vmw_rebind_contexts`, with so many contexts left. -/
def rebindContexts : Nat → M Bool
  | 0 => return true
  | n + 1 => do
    let bindings ← length env .bindings
    if ← rebindAll env bindings then rebindContexts n else return false

def vmwRebindContexts : M Bool := do
  let n ← length env .contexts
  rebindContexts env n

end Bindings

section Query

def vmwFifoEmitDummyLegacyQuery : M Bool := command env .emitDummyLegacyQuery 24

def vmwFifoEmitDummyGbQuery : M Bool := command env .emitDummyGbQuery 24

def vmwFifoEmitDummyQuery : M Bool := do
  if ← ask env .hasMob then vmwFifoEmitDummyGbQuery env else vmwFifoEmitDummyLegacyQuery env

/-- The references on the pinned query buffer and the dummy query buffer. -/
def unrefPinned : M Unit := times (ttmBoUnref env) 3

/-- `__vmw_execbuf_release_pinned_bo`. -/
def vmwExecbufReleasePinnedBoLocked (fence : Bool) : M Unit := do
  if ← ask env .pinnedBo then
    if ← ask env .buffersReserved then
      let valid ← ask env .queryCidValid
      if valid && fence then
        throw .bug
      else if ← (if valid then vmwFifoEmitDummyQuery env else pure true) then
        onlyIf (!fence) (discard (vmwExecbufFenceCommands env))
        unrefPinned env
      else unrefPinned env
    else unrefPinned env
  else return ()

def vmwExecbufReleasePinnedBo : M Unit := do
  mutexLock .cmdbuf
  let valid ← ask env .queryCidValid
  onlyIf valid (vmwExecbufReleasePinnedBoLocked env false)
  mutexUnlock .cmdbuf

/-- The query buffer is released when its context is gone. -/
def releaseInvalidPinned (fence : Bool) : M Unit := do
  if ← ask env .pinnedBo then
    let valid ← ask env .queryCidValid
    onlyIf (!valid) (vmwExecbufReleasePinnedBoLocked env fence)
  else return ()

end Query

end Vmwgfx.Locks
