import Vmwgfx.Locks.Resources

/-! `vmw_execbuf_process`, and every caller of `vmw_fifo_reserve`. -/

namespace Vmwgfx.Locks

open Lib Resource

variable (env : Env)

section Nested

def boundType : M ResType := do
  if ← ask env (.bindingType .shader) then return .shader else return .surface

/-- A round of `vmw_resource_context_res_add`. -/
def contextResAddOne : M Unit := do
  if ← ask env .doomed then
    return ()
  else
    let type ← boundType env
    vmwResourceUnreference env type

def vmwResourceContextResAdd : M Unit := do
  mutexLock .binding
  let n ← length env .bindings
  times (contextResAddOne env) n
  mutexUnlock .binding

/-- The functions of a `struct vmw_res_func`; `true` where there is none. -/
def funcCreate : VmwResFunc → M Bool
  | .gbContext => vmwGbContextCreate env
  | .gbSurface => vmwGbSurfaceCreate env
  | .gbShader => vmwGbShaderCreate env
  | .legacySurface => vmwLegacySrfCreate env
  | .legacyContext | .stream => return true

def funcBind : VmwResFunc → M Bool
  | .gbContext => vmwGbContextBind env
  | .gbSurface => vmwGbSurfaceBind env
  | .gbShader => vmwGbShaderBind env
  | .legacySurface => vmwLegacySrfBind env
  | .legacyContext | .stream => return true

def funcUnbind : VmwResFunc → M Bool
  | .gbContext => vmwGbContextUnbind env
  | .gbSurface => vmwGbSurfaceUnbind env
  | .gbShader => vmwGbShaderUnbind env
  | .legacySurface => vmwLegacySrfUnbind env
  | .legacyContext | .stream => return true

def funcDestroy : VmwResFunc → M Bool
  | .gbContext => vmwGbContextDestroy env
  | .gbSurface => vmwGbSurfaceDestroy env
  | .gbShader => vmwGbShaderDestroy env
  | .legacySurface => vmwLegacySrfDestroy env
  | .legacyContext | .stream => return true

def Call.run : Call → M Unit
  | .resourceContextResAdd => vmwResourceContextResAdd env
  | .resourceUnreference type => vmwResourceUnreference env type
  | .boUnref => ttmBoUnref env
  | .ttmBind => discard (vmwTtmBind env)
  | .ttmUnbind => vmwTtmUnbind env
  | .create func => discard (funcCreate env func)
  | .bind func => discard (funcBind env func)
  | .unbind func => discard (funcUnbind env func)
  | .destroy func => discard (funcDestroy env func)

/-- Whatever runs in this part of `vmw_execbuf_process`. -/
def runStage (stage : Stage) : M Unit := do
  let n ← tick
  each (Call.run env) (env.calls stage n)

end Nested

section Execbuf

/-- `vmw_query_bo_switch_commit`. -/
def vmwQueryBoSwitchCommit : M Unit := do
  let needsPostQueryBarrier ← ask env .postQueryBarrier
  onlyIf needsPostQueryBarrier (discard (vmwFifoEmitDummyQuery env))
  if ← ask env .queryBoChanges then
    let pinned ← ask env .pinnedBo
    onlyIf pinned (ttmBoUnref env)
  else return ()

/-- `vmw_clear_validations`. -/
def vmwClearValidations : M Unit := do
  let n ← length env .validations
  times (ttmBoUnref env) n

/-- Drops a reference on a resource of a batch. -/
def unrefOne : M Unit := do
  if ← ask env .isContext then
    vmwResourceUnreference env .context
  else
    let type ← boundType env
    vmwResourceUnreference env type

/-- `vmw_resource_list_unreference`. -/
def vmwResourceListUnreference : M Unit := do
  let n ← length env .resources
  times (unrefOne env) n

/-- From `vmw_cmd_check_all` up to the throttling. -/
def validateBatch : M Bool := do
  runStage env .check
  if ← ask env .verified then
    runStage env .reserve
    if ← ask env .resourcesReserved then
      if ← ask env .buffersReserved then
        runStage env .validateBuffers
        if ← ask env .buffersValidated then
          runStage env .validateResources
          if ← ask env .resourcesValidated then ask env .notThrottled else return false
        else return false
      else return false
    else return false
  else return false

/-- The label `out_unlock`. -/
def outUnlock : M Unit := do
  runStage env .revertStaged
  mutexUnlock .cmdbuf
  vmwResourceListUnreference env
  let error ← ask env .errorResource
  onlyIf error (unrefOne env)

/-- The label `out_err`. -/
def outErr : M Unit := do
  runStage env .unreserve
  vmwClearValidations env
  releaseInvalidPinned env false
  outUnlock env

/-- From the commit of the batch on. -/
def submitted : M Unit := do
  vmwQueryBoSwitchCommit env
  let fence ← vmwExecbufFenceCommands env
  runStage env .unreserve
  mutexUnlock .binding
  releaseInvalidPinned env fence
  vmwClearValidations env
  runStage env .commitStaged
  mutexUnlock .cmdbuf
  vmwResourceListUnreference env

def vmwExecbufProcess : M Bool := do
  if ← mutexLockInterruptible env .cmdbuf then
    if ← ask env .prepared then
      if ← validateBatch env then
        if ← mutexLockInterruptible env .binding then
          let hasMob ← ask env .hasMob
          if ← (if hasMob then vmwRebindContexts env else pure true) then
            let commandSize ← size env .execbufProcess
            if ← command env .execbufProcess commandSize then
              submitted env
              return true
            else
              mutexUnlock .binding
              outErr env
              return false
          else
            -- `binding_mutex` stays locked
            outErr env
            return false
        else
          outErr env
          return false
      else
        outErr env
        return false
    else
      outUnlock env
      return false
  else return false

end Execbuf

/-- The caller, whatever it returns. -/
def Site.run : Site → M Unit
  | .hwContextDestroy => vmwHwContextDestroy env
  | .contextInit => discard (vmwContextInit env)
  | .gbContextCreate => discard (vmwGbContextCreate env)
  | .gbContextBind => discard (vmwGbContextBind env)
  | .gbContextUnbind => discard (vmwGbContextUnbind env)
  | .gbContextDestroy => discard (vmwGbContextDestroy env)
  | .contextScrub .shader rebind => discard (vmwContextScrubShader env rebind)
  | .contextScrub .rt rebind => discard (vmwContextScrubRenderTarget env rebind)
  | .contextScrub .tex rebind => discard (vmwContextScrubTexture env rebind)
  | .execbufProcess => discard (vmwExecbufProcess env)
  | .fbDirtyFlush => vmwFbDirtyFlush env
  | .fifoSendFence => discard (vmwFifoSendFence env)
  | .emitDummyLegacyQuery => discard (vmwFifoEmitDummyLegacyQuery env)
  | .emitDummyGbQuery => discard (vmwFifoEmitDummyGbQuery env)
  | .gmr2Bind => discard (vmwGmr2Bind env)
  | .gmr2Unbind => vmwGmr2Unbind env
  | .cursorUpdateImage => discard (vmwCursorUpdateImage env)
  | .dmabufDirtyLdu => discard (doDmabufDirtyLdu env)
  | .setupOtableBase => discard (vmwSetupOtableBase env)
  | .takedownOtableBase => vmwTakedownOtableBase env
  | .mobUnbind => vmwMobUnbind env
  | .mobBind => discard (vmwMobBind env)
  | .overlaySendPut => discard (vmwOverlaySendPut env)
  | .overlaySendStop => discard (vmwOverlaySendStop env)
  | .souFifoCreate => discard (vmwSouFifoCreate env)
  | .souFifoDestroy => discard (vmwSouFifoDestroy env)
  | .gbShaderCreate => discard (vmwGbShaderCreate env)
  | .gbShaderBind => discard (vmwGbShaderBind env)
  | .gbShaderUnbind => discard (vmwGbShaderUnbind env)
  | .gbShaderDestroy => discard (vmwGbShaderDestroy env)
  | .hwSurfaceDestroy => vmwHwSurfaceDestroy env
  | .legacySrfCreate => discard (vmwLegacySrfCreate env)
  | .legacySrfDma => discard (vmwLegacySrfDma env)
  | .legacySrfDestroy => discard (vmwLegacySrfDestroy env)
  | .gbSurfaceCreate => discard (vmwGbSurfaceCreate env)
  | .gbSurfaceBind => discard (vmwGbSurfaceBind env)
  | .gbSurfaceUnbind => discard (vmwGbSurfaceUnbind env)
  | .gbSurfaceDestroy => discard (vmwGbSurfaceDestroy env)

end Vmwgfx.Locks
