import Vmwgfx.Locks.Callers

/-! The functions of resources, overlays and display units that use the FIFO. -/

namespace Vmwgfx.Locks

open Lib Resource

variable (env : Env)

section Create

/-- From the allocation of the id to the command, which the `create` functions share. -/
def defineNew (site : Site) (bytes : Nat) : M Bool := do
  if ← ask env .allocId then
    if ← ask env .idTooLarge then return false else command env site bytes
  else return false

def vmwContextInit : M Bool := do
  if ← ask env .hasMob then
    ask env .resourceInit
  else if ← ask env .resourceInit then
    if ← ask env .idTooLarge then
      return false
    else if ← command env .contextInit 12 then
      discard (vmw3dResourceInc env)
      return true
    else return false
  else return false

def vmwGbContextCreate : M Bool := do
  if ← ask env .noId then
    if ← defineNew env .gbContextCreate 12 then
      discard (vmw3dResourceInc env)
      return true
    else return false
  else return true

def vmwGbShaderCreate : M Bool := do
  if ← ask env .noId then
    if ← defineNew env .gbShaderCreate 20 then
      discard (vmw3dResourceInc env)
      return true
    else return false
  else return true

def vmwGbSurfaceCreate : M Bool := do
  if ← ask env .noId then
    discard (vmw3dResourceInc env)
    if ← defineNew env .gbSurfaceCreate 44 then
      return true
    else
      vmw3dResourceDec env
      return false
  else return true

def vmwLegacySrfCreate : M Bool := do
  if ← ask env .noId then
    if ← ask env .memoryFull then
      return false
    else
      defineNew env .legacySrfCreate (← size env .legacySrfCreate)
  else return true

end Create

section Bind

def vmwGbContextBind : M Bool := command env .gbContextBind 20

def vmwGbShaderBind : M Bool := command env .gbShaderBind 20

def vmwGbSurfaceBind : M Bool := do
  let dirty ← ask env .backupDirty
  command env .gbSurfaceBind (16 + if dirty then 12 else 0)

def vmwLegacySrfDma : M Bool := do
  if ← command env .legacySrfDma (← size env .legacySrfDma) then
    fenceBackup env
    return true
  else return false

def vmwLegacySrfBind : M Bool := do
  if ← ask env .backupDirty then vmwLegacySrfDma env else return true

end Bind

section Unbind

def vmwGbContextUnbind : M Bool := do
  mutexLock .binding
  scrubList env
  let readback ← ask env .readback
  if ← command env .gbContextUnbind (20 + if readback then 12 else 0) then
    mutexUnlock .binding
    fenceBackup env
    return true
  else
    mutexUnlock .binding
    return false

def vmwGbShaderUnbind : M Bool := do
  if ← command env .gbShaderUnbind 20 then
    fenceBackup env
    return true
  else return false

def vmwGbSurfaceUnbind : M Bool := do
  if ← command env .gbSurfaceUnbind 28 then
    fenceBackup env
    return true
  else return false

def vmwLegacySrfUnbind : M Bool := do
  if ← ask env .readback then vmwLegacySrfDma env else return true

end Unbind

section Destroy

def vmwGbContextDestroy : M Bool := do
  if ← ask env .noId then
    return true
  else if ← command env .gbContextDestroy 12 then
    vmw3dResourceDec env
    return true
  else return false

def vmwGbShaderDestroy : M Bool := do
  if ← ask env .noId then
    return true
  else
    mutexLock .binding
    scrubList env
    if ← command env .gbShaderDestroy 12 then
      mutexUnlock .binding
      vmw3dResourceDec env
      return true
    else
      mutexUnlock .binding
      return false

def vmwGbSurfaceDestroy : M Bool := do
  if ← ask env .noId then
    return true
  else
    mutexLock .binding
    scrubList env
    if ← command env .gbSurfaceDestroy 12 then
      mutexUnlock .binding
      vmw3dResourceDec env
      return true
    else
      -- `binding_mutex` stays locked
      return false

def vmwLegacySrfDestroy : M Bool := do
  if ← ask env .noId then return true else command env .legacySrfDestroy 12

def vmwHwShaderDestroy : M Unit := discard (vmwGbShaderDestroy env)

def vmwHwSurfaceDestroy : M Unit := do
  if ← ask env .guestBacked then
    discard (vmwGbSurfaceDestroy env)
  else if ← ask env .noId then
    vmw3dResourceDec env
  else if ← command env .hwSurfaceDestroy 12 then
    mutexLock .cmdbuf
    mutexUnlock .cmdbuf
    vmw3dResourceDec env
  else return ()

end Destroy

section Display

def vmwFbDirtyFlush : M Unit := do
  if ← ask env .suspended then
    return ()
  else if ← ask env .dirty then
    discard (command env .fbDirtyFlush 20)
  else return ()

def vmwCursorUpdateImage : M Bool := do
  if ← ask env .hasImage then
    command env .cursorUpdateImage (← size env .cursorUpdateImage)
  else return false

def doDmabufDirtyLdu : M Bool := do
  command env .dmabufDirtyLdu (← size env .dmabufDirtyLdu)

def vmwSouFifoCreate : M Bool := command env .souFifoCreate 48

def vmwSouFifoDestroy : M Bool := do
  if ← ask env .souDefined then
    if ← command env .souFifoDestroy 8 then ask env .fallbackWait else return false
  else return true

def vmwOverlaySendPut : M Bool := do
  let haveSo ← ask env .screenObjects
  command env .overlaySendPut (40 + 8 * if haveSo then 21 else 19)

/-- The loop of `vmw_overlay_send_stop`, which goes on until there is room. -/
def sendStopLoop : Nat → M Bool
  | 0 => throw .running
  | n + 1 => do
    if ← command env .overlaySendStop 48 then
      return true
    else if ← ask env .signalPending then
      return false
    else if ← ask env .fallbackWait then
      sendStopLoop n
    else throw .bug

def vmwOverlaySendStop : M Bool := do
  let rounds ← length env .rounds
  sendStopLoop env rounds

end Display

section Release

/-- `vmw_resource_release`, with the functions of the resource. -/
def vmwResourceReleaseWith (unbind : M Bool) (hwDestroy : M Unit) : M Unit := do
  let backup ← ask env .backup
  onlyIf backup do
    let mobHead ← ask env .mobHead
    onlyIf mobHead (discard unbind)
    ttmBoUnref env
  let activated ← ask env .activated
  onlyIf activated do
    hwDestroy
    mutexLock .binding
    scrubList env
    mutexUnlock .binding

def releaseShader : M Unit :=
  vmwResourceReleaseWith env (vmwGbShaderUnbind env) (vmwHwShaderDestroy env)

/-- `vmw_resource_unreference`. -/
def unreference (release : M Unit) : M Unit := do
  let last ← ask env .lastReference
  onlyIf last release

/-- `vmw_cmdbuf_res_man_destroy`; the managed resources are shaders. -/
def vmwCmdbufResManDestroy : M Unit := do
  let n ← length env .managed
  times (unreference env (releaseShader env)) n

def vmwHwContextDestroy : M Unit := do
  if ← ask env .guestBacked then
    mutexLock .cmdbuf
    vmwCmdbufResManDestroy env
    mutexLock .binding
    scrubList env
    discard (vmwGbContextDestroy env)
    releaseInvalidPinned env false
    mutexUnlock .binding
    mutexUnlock .cmdbuf
  else
    vmwExecbufReleasePinnedBo env
    if ← command env .hwContextDestroy 12 then
      vmw3dResourceDec env
    else return ()

/-- `vmw_stream_destroy`, down to `vmw_overlay_stop`. -/
def vmwStreamDestroy : M Unit := do
  let active ← ask env .streamActive
  onlyIf active do
    discard (vmwOverlaySendStop env)
    ttmBoUnref env

def surfaceUnbind : M Bool := do
  if ← ask env .guestBacked then vmwGbSurfaceUnbind env else vmwLegacySrfUnbind env

def vmwResourceRelease : ResType → M Unit
  | .context => vmwResourceReleaseWith env (vmwGbContextUnbind env) (vmwHwContextDestroy env)
  | .surface => vmwResourceReleaseWith env (surfaceUnbind env) (vmwHwSurfaceDestroy env)
  | .shader => releaseShader env
  | .stream => vmwResourceReleaseWith env (return true) (vmwStreamDestroy env)

def vmwResourceUnreference (type : ResType) : M Unit := unreference env (vmwResourceRelease env type)

end Release

end Vmwgfx.Locks
