import Vmwgfx.Execbuf.Handlers

/-! The command table and the loop over a command buffer. -/

namespace Vmwgfx.Execbuf

open Vmwgfx.Hashtab Vmwgfx.Lib

variable {hashLong : HashLong} (env : Env)

/-- The handlers of the table. -/
inductive CmdFunc
  | vmwCmdInvalid
  | vmwCmdSurfaceCopyCheck
  | vmwCmdStretchBltCheck
  | vmwCmdDma
  | vmwCmdCidCheck
  | vmwCmdSetRenderTargetCheck
  | vmwCmdTexState
  | vmwCmdPresentCheck
  | vmwCmdShaderDefine
  | vmwCmdShaderDestroy
  | vmwCmdSetShader
  | vmwCmdSetShaderConst
  | vmwCmdDraw
  | vmwCmdBeginQuery
  | vmwCmdEndQuery
  | vmwCmdWaitQuery
  | vmwCmdOk
  | vmwCmdBltSurfScreenCheck
  | vmwCmdBindGbSurface
  | vmwCmdUpdateGbImage
  | vmwCmdUpdateGbSurface
  | vmwCmdReadbackGbImage
  | vmwCmdReadbackGbSurface
  | vmwCmdInvalidateGbImage
  | vmwCmdInvalidateGbSurface
  | vmwCmdBindGbShader
  | vmwCmdBeginGbQuery
  | vmwCmdEndGbQuery
  | vmwCmdWaitGbQuery
  deriving DecidableEq

def CmdFunc.run : CmdFunc → Nat → Verify hashLong Unit
  | .vmwCmdInvalid => Execbuf.vmwCmdInvalid env
  | .vmwCmdSurfaceCopyCheck => Execbuf.vmwCmdSurfaceCopyCheck env
  | .vmwCmdStretchBltCheck => Execbuf.vmwCmdStretchBltCheck env
  | .vmwCmdDma => Execbuf.vmwCmdDma env
  | .vmwCmdCidCheck => Execbuf.vmwCmdCidCheck env
  | .vmwCmdSetRenderTargetCheck => Execbuf.vmwCmdSetRenderTargetCheck env
  | .vmwCmdTexState => Execbuf.vmwCmdTexState env
  | .vmwCmdPresentCheck => Execbuf.vmwCmdPresentCheck env
  | .vmwCmdShaderDefine => Execbuf.vmwCmdShaderDefine env
  | .vmwCmdShaderDestroy => Execbuf.vmwCmdShaderDestroy env
  | .vmwCmdSetShader => Execbuf.vmwCmdSetShader env
  | .vmwCmdSetShaderConst => Execbuf.vmwCmdSetShaderConst env
  | .vmwCmdDraw => Execbuf.vmwCmdDraw env
  | .vmwCmdBeginQuery => Execbuf.vmwCmdBeginQuery env
  | .vmwCmdEndQuery => Execbuf.vmwCmdEndQuery env
  | .vmwCmdWaitQuery => Execbuf.vmwCmdWaitQuery env
  | .vmwCmdOk => Execbuf.vmwCmdOk
  | .vmwCmdBltSurfScreenCheck => Execbuf.vmwCmdBltSurfScreenCheck env
  | .vmwCmdBindGbSurface => Execbuf.vmwCmdBindGbSurface env
  | .vmwCmdUpdateGbImage => Execbuf.vmwCmdUpdateGbImage env
  | .vmwCmdUpdateGbSurface => Execbuf.vmwCmdUpdateGbSurface env
  | .vmwCmdReadbackGbImage => Execbuf.vmwCmdReadbackGbImage env
  | .vmwCmdReadbackGbSurface => Execbuf.vmwCmdReadbackGbSurface env
  | .vmwCmdInvalidateGbImage => Execbuf.vmwCmdInvalidateGbImage env
  | .vmwCmdInvalidateGbSurface => Execbuf.vmwCmdInvalidateGbSurface env
  | .vmwCmdBindGbShader => Execbuf.vmwCmdBindGbShader env
  | .vmwCmdBeginGbQuery => Execbuf.vmwCmdBeginGbQuery env
  | .vmwCmdEndGbQuery => Execbuf.vmwCmdEndGbQuery env
  | .vmwCmdWaitGbQuery => Execbuf.vmwCmdWaitGbQuery env

/-- `struct vmw_cmd_entry`. -/
structure CmdEntry where
  func : Option CmdFunc
  userAllow : Bool
  gbDisable : Bool
  gbEnable : Bool

def vmwCmdDef (cmd : Nat) (func : CmdFunc) (userAllow gbDisable gbEnable : Bool) :
    Nat × CmdEntry :=
  (cmd - svga3dCmdBase, ⟨some func, userAllow, gbDisable, gbEnable⟩)

def vmwCmdDefs : List (Nat × CmdEntry) :=
  [vmwCmdDef svga3dCmdSurfaceDefine .vmwCmdInvalid false false false,
    vmwCmdDef svga3dCmdSurfaceDestroy .vmwCmdInvalid false false false,
    vmwCmdDef svga3dCmdSurfaceCopy .vmwCmdSurfaceCopyCheck true false false,
    vmwCmdDef svga3dCmdSurfaceStretchblt .vmwCmdStretchBltCheck true false false,
    vmwCmdDef svga3dCmdSurfaceDma .vmwCmdDma true false false,
    vmwCmdDef svga3dCmdContextDefine .vmwCmdInvalid false false false,
    vmwCmdDef svga3dCmdContextDestroy .vmwCmdInvalid false false false,
    vmwCmdDef svga3dCmdSettransform .vmwCmdCidCheck true false false,
    vmwCmdDef svga3dCmdSetzrange .vmwCmdCidCheck true false false,
    vmwCmdDef svga3dCmdSetrenderstate .vmwCmdCidCheck true false false,
    vmwCmdDef svga3dCmdSetrendertarget .vmwCmdSetRenderTargetCheck true false false,
    vmwCmdDef svga3dCmdSettexturestate .vmwCmdTexState true false false,
    vmwCmdDef svga3dCmdSetmaterial .vmwCmdCidCheck true false false,
    vmwCmdDef svga3dCmdSetlightdata .vmwCmdCidCheck true false false,
    vmwCmdDef svga3dCmdSetlightenabled .vmwCmdCidCheck true false false,
    vmwCmdDef svga3dCmdSetviewport .vmwCmdCidCheck true false false,
    vmwCmdDef svga3dCmdSetclipplane .vmwCmdCidCheck true false false,
    vmwCmdDef svga3dCmdClear .vmwCmdCidCheck true false false,
    vmwCmdDef svga3dCmdPresent .vmwCmdPresentCheck false false false,
    vmwCmdDef svga3dCmdShaderDefine .vmwCmdShaderDefine true false false,
    vmwCmdDef svga3dCmdShaderDestroy .vmwCmdShaderDestroy true false false,
    vmwCmdDef svga3dCmdSetShader .vmwCmdSetShader true false false,
    vmwCmdDef svga3dCmdSetShaderConst .vmwCmdSetShaderConst true false false,
    vmwCmdDef svga3dCmdDrawPrimitives .vmwCmdDraw true false false,
    vmwCmdDef svga3dCmdSetscissorrect .vmwCmdCidCheck true false false,
    vmwCmdDef svga3dCmdBeginQuery .vmwCmdBeginQuery true false false,
    vmwCmdDef svga3dCmdEndQuery .vmwCmdEndQuery true false false,
    vmwCmdDef svga3dCmdWaitForQuery .vmwCmdWaitQuery true false false,
    vmwCmdDef svga3dCmdPresentReadback .vmwCmdOk true false false,
    vmwCmdDef svga3dCmdBlitSurfaceToScreen .vmwCmdBltSurfScreenCheck false false false,
    vmwCmdDef svga3dCmdSurfaceDefineV2 .vmwCmdInvalid false false false,
    vmwCmdDef svga3dCmdGenerateMipmaps .vmwCmdInvalid false false false,
    vmwCmdDef svga3dCmdActivateSurface .vmwCmdInvalid false false false,
    vmwCmdDef svga3dCmdDeactivateSurface .vmwCmdInvalid false false false,
    vmwCmdDef svga3dCmdScreenDma .vmwCmdInvalid false false false,
    vmwCmdDef svga3dCmdSetUnitySurfaceCookie .vmwCmdInvalid false false false,
    vmwCmdDef svga3dCmdOpenContextSurface .vmwCmdInvalid false false false,
    vmwCmdDef svga3dCmdLogicopsBitblt .vmwCmdInvalid false false false,
    vmwCmdDef svga3dCmdLogicopsTransblt .vmwCmdInvalid false false false,
    vmwCmdDef svga3dCmdLogicopsStretchblt .vmwCmdInvalid false false false,
    vmwCmdDef svga3dCmdLogicopsColorfill .vmwCmdInvalid false false false,
    vmwCmdDef svga3dCmdLogicopsAlphablend .vmwCmdInvalid false false false,
    vmwCmdDef svga3dCmdLogicopsCleartypeblend .vmwCmdInvalid false false false,
    vmwCmdDef svga3dCmdSetOtableBase .vmwCmdInvalid false false true,
    vmwCmdDef svga3dCmdReadbackOtable .vmwCmdInvalid false false true,
    vmwCmdDef svga3dCmdDefineGbMob .vmwCmdInvalid false false true,
    vmwCmdDef svga3dCmdDestroyGbMob .vmwCmdInvalid false false true,
    vmwCmdDef svga3dCmdRedefineGbMob .vmwCmdInvalid false false true,
    vmwCmdDef svga3dCmdUpdateGbMobMapping .vmwCmdInvalid false false true,
    vmwCmdDef svga3dCmdDefineGbSurface .vmwCmdInvalid false false true,
    vmwCmdDef svga3dCmdDestroyGbSurface .vmwCmdInvalid false false true,
    vmwCmdDef svga3dCmdBindGbSurface .vmwCmdBindGbSurface true false true,
    vmwCmdDef svga3dCmdCondBindGbSurface .vmwCmdInvalid false false true,
    vmwCmdDef svga3dCmdUpdateGbImage .vmwCmdUpdateGbImage true false true,
    vmwCmdDef svga3dCmdUpdateGbSurface .vmwCmdUpdateGbSurface true false true,
    vmwCmdDef svga3dCmdReadbackGbImage .vmwCmdReadbackGbImage true false true,
    vmwCmdDef svga3dCmdReadbackGbSurface .vmwCmdReadbackGbSurface true false true,
    vmwCmdDef svga3dCmdInvalidateGbImage .vmwCmdInvalidateGbImage true false true,
    vmwCmdDef svga3dCmdInvalidateGbSurface .vmwCmdInvalidateGbSurface true false true,
    vmwCmdDef svga3dCmdDefineGbContext .vmwCmdInvalid false false true,
    vmwCmdDef svga3dCmdDestroyGbContext .vmwCmdInvalid false false true,
    vmwCmdDef svga3dCmdBindGbContext .vmwCmdInvalid false false true,
    vmwCmdDef svga3dCmdReadbackGbContext .vmwCmdInvalid false false true,
    vmwCmdDef svga3dCmdInvalidateGbContext .vmwCmdInvalid false false true,
    vmwCmdDef svga3dCmdDefineGbShader .vmwCmdInvalid false false true,
    vmwCmdDef svga3dCmdBindGbShader .vmwCmdBindGbShader true false true,
    vmwCmdDef svga3dCmdDestroyGbShader .vmwCmdInvalid false false true,
    vmwCmdDef svga3dCmdSetOtableBase64 .vmwCmdInvalid false false false,
    vmwCmdDef svga3dCmdBeginGbQuery .vmwCmdBeginGbQuery true false true,
    vmwCmdDef svga3dCmdEndGbQuery .vmwCmdEndGbQuery true false true,
    vmwCmdDef svga3dCmdWaitForGbQuery .vmwCmdWaitGbQuery true false true,
    vmwCmdDef svga3dCmdNop .vmwCmdOk true false true,
    vmwCmdDef svga3dCmdEnableGart .vmwCmdInvalid false false true,
    vmwCmdDef svga3dCmdDisableGart .vmwCmdInvalid false false true,
    vmwCmdDef svga3dCmdMapMobIntoGart .vmwCmdInvalid false false true,
    vmwCmdDef svga3dCmdUnmapGartRange .vmwCmdInvalid false false true,
    vmwCmdDef svga3dCmdDefineGbScreentarget .vmwCmdInvalid false false true,
    vmwCmdDef svga3dCmdDestroyGbScreentarget .vmwCmdInvalid false false true,
    vmwCmdDef svga3dCmdBindGbScreentarget .vmwCmdInvalid false false true,
    vmwCmdDef svga3dCmdUpdateGbScreentarget .vmwCmdInvalid false false true,
    vmwCmdDef svga3dCmdReadbackGbImagePartial .vmwCmdInvalid false false true,
    vmwCmdDef svga3dCmdInvalidateGbImagePartial .vmwCmdInvalid false false true,
    vmwCmdDef svga3dCmdSetGbShaderconstsInline .vmwCmdCidCheck true false true]

/-- `vmw_cmd_entries`: what the table does not define is zero. -/
def vmwCmdEntries (cmdId : Nat) : CmdEntry :=
  (vmwCmdDefs.lookup cmdId).getD ⟨none, false, false, false⟩

def CmdEntry.run (entry : CmdEntry) (header : Nat) : Verify hashLong Unit :=
  match entry.func with
  | none => oops
  | some func => func.run env header

/-- The size of a command that is not a 3D command, if it is one the verifier knows. -/
def not3dSize (cmdId : Nat) : Option Nat :=
  if cmdId = svgaCmdUpdate then some 20
  else if cmdId = svgaCmdDefineGmrfb then some 20
  else if cmdId = svgaCmdBlitGmrfbToScreen then some 32
  else if cmdId = svgaCmdBlitScreenToGmrfb then some 32
  else none

/-- Returns `*size`. -/
def vmwCmdCheckNot3d (buf sizeRemaining : Nat) : Verify hashLong Nat := do
  let cmdId ← peek buf
  match not3dSize cmdId with
  | none => fail (-EINVAL)
  | some size =>
    if size > sizeRemaining then fail (-EINVAL)
    else if !env.kernel then fail (-EPERM)
    else if cmdId = svgaCmdDefineGmrfb then do
      vmwCmdCheckDefineGmrfb env buf
      return size
    else return size

/-- `if (ret != 0) goto out_invalid;` -/
def orInvalid (x : Verify hashLong Unit) : Verify hashLong Unit := fun s =>
  match x s with
  | .ok a s => .ok a s
  | .error (.errno _) s => .error (.errno (-EINVAL)) s
  | .error .oops s => .error .oops s

/-- The gates of a table entry, and its handler. -/
def CmdEntry.check (entry : CmdEntry) (buf : Nat) : Verify hashLong Unit :=
  if !entry.userAllow && !env.kernel then fail (-EPERM)
  else if entry.gbDisable && env.gb then fail (-EINVAL)
  else if entry.gbEnable && !env.gb then fail (-EINVAL)
  else orInvalid (entry.run env buf)

/-- Returns `*size`. -/
def vmwCmdCheck (buf sizeRemaining : Nat) : Verify hashLong Nat := do
  let cmdId ← peek buf
  if cmdId < svgaCmdMax then vmwCmdCheckNot3d env buf sizeRemaining
  else
    let bodySize ← peek (buf + 4)
    if add32 bodySize 8 > sizeRemaining then fail (-EINVAL)
    else if sub32 cmdId svga3dCmdBase ≥ svga3dCmdMax - svga3dCmdBase then fail (-EINVAL)
    else
      (vmwCmdEntries (sub32 cmdId svga3dCmdBase)).check env buf
      return add32 bodySize 8

/-- An `int32_t`. -/
def toInt32 (x : Int) : Int := (x + 2 ^ 31) % 2 ^ 32 - 2 ^ 31

/-- The loop of `vmw_cmd_check_all`; `none` when the fuel runs out. -/
def checkLoop : Nat → Nat → Int → State hashLong →
    Option (EStateM.Result Stop (State hashLong) Unit)
  | fuel, buf, curSize, s =>
    if curSize > 0 then
      match fuel with
      | 0 => none
      | fuel + 1 =>
        match vmwCmdCheck env buf curSize.toNat s with
        | .ok size s => checkLoop fuel (buf + size) (toInt32 (curSize - size)) s
        | .error e s => some (.error e s)
    else if curSize ≠ 0 then some (.error (.errno (-EINVAL)) s)
    else some (.ok () s)

def vmwCmdCheckAll (fuel size : Nat) (s : State hashLong) :
    Option (EStateM.Result Stop (State hashLong) Unit) :=
  checkLoop env fuel env.bufStart (toInt32 size) s

end Vmwgfx.Execbuf
