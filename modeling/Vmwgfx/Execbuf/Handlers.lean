import Vmwgfx.Execbuf.Defs
import Vmwgfx.Execbuf.Ids

/-! The command handlers of `vmwgfx_execbuf.c`.  A handler gets the address of the command's
header; the fields of the body follow it at the offsets of `svga3d_reg.h`. -/

namespace Vmwgfx.Execbuf

open Vmwgfx.Cmdbuf (vmwCompatShaderAdd vmwCompatShaderRemove vmwCompatShaderLookup ShaderWorld)
open Vmwgfx.Hashtab Vmwgfx.Lib

variable {hashLong : HashLong} (env : Env)

def pageSize : Nat := 4096

def svga3dTsBindTexture : Nat := 1

def vmwCmdInvalid (_header : Nat) : Verify hashLong Unit :=
  fail (if env.capSysAdmin then 1 else -EINVAL)

def vmwCmdOk (_header : Nat) : Verify hashLong Unit := pure ()

/-- The handlers that check one resource handle: what is at `idLoc`. -/
def checkHandle (resType : ResType) (idLoc : Nat) : Verify hashLong Unit := do
  let _ ← vmwCmdResCheck env resType idLoc

def vmwCmdCidCheck (header : Nat) : Verify hashLong Unit := checkHandle env .context (header + 8)

def vmwCmdSetRenderTargetCheck (header : Nat) : Verify hashLong Unit := do
  let ctxNode ← vmwCmdResCheck env .context (header + 8)
  let resNode ← vmwCmdResCheck env .surface (header + 16)
  if env.hasMob then
    let rtType ← load (header + 12)
    let ret ← vmwContextBindingAdd ctxNode resNode .rt rtType
    check ret
  else pure ()

def vmwCmdSurfaceCopyCheck (header : Nat) : Verify hashLong Unit := do
  checkHandle env .surface (header + 8)
  checkHandle env .surface (header + 20)

def vmwCmdStretchBltCheck (header : Nat) : Verify hashLong Unit := do
  checkHandle env .surface (header + 8)
  checkHandle env .surface (header + 20)

def vmwCmdBltSurfScreenCheck (header : Nat) : Verify hashLong Unit :=
  checkHandle env .surface (header + 8)

def vmwCmdPresentCheck (header : Nat) : Verify hashLong Unit :=
  checkHandle env .surface (header + 8)

/-- `memcpy(cmd, &gb_cmd, sizeof(*cmd))`: the same words under another id. -/
def rewriteQuery (header id : Nat) : List Nat → Verify hashLong Unit
  | [] => store header id
  | w :: ws => do
    let v ← load w
    rewriteQuery header id ws
    store w v

def vmwCmdBeginGbQuery (header : Nat) : Verify hashLong Unit :=
  checkHandle env .context (header + 8)

def vmwCmdBeginQuery (header : Nat) : Verify hashLong Unit := do
  if env.hasMob then
    rewriteQuery header svga3dCmdBeginGbQuery [header + 4, header + 8, header + 12]
    vmwCmdBeginGbQuery env header
  else checkHandle env .context (header + 8)

/-- A query end, with its buffer at `header + 16`. -/
def endQuery (translate : Verify hashLong BufId) (header : Nat) : Verify hashLong Unit := do
  vmwCmdCidCheck env header
  let bo ← translate
  onError (vmwQueryBoSwitchPrepare env bo) (·.addBufRef bo (-1))
  update (·.addBufRef bo (-1))

def vmwCmdEndGbQuery (header : Nat) : Verify hashLong Unit :=
  endQuery env (vmwTranslateMobPtr env (header + 16)) header

def vmwCmdEndQuery (header : Nat) : Verify hashLong Unit := do
  if env.hasMob then
    rewriteQuery header svga3dCmdEndGbQuery
      [header + 4, header + 8, header + 12, header + 16, header + 20]
    vmwCmdEndGbQuery env header
  else endQuery env (vmwTranslateGuestPtr env (header + 16)) header

def waitQuery (translate : Verify hashLong BufId) (header : Nat) : Verify hashLong Unit := do
  vmwCmdCidCheck env header
  let bo ← translate
  update (·.addBufRef bo (-1))

def vmwCmdWaitGbQuery (header : Nat) : Verify hashLong Unit :=
  waitQuery env (vmwTranslateMobPtr env (header + 16)) header

def vmwCmdWaitQuery (header : Nat) : Verify hashLong Unit := do
  if env.hasMob then
    rewriteQuery header svga3dCmdWaitForGbQuery
      [header + 4, header + 8, header + 12, header + 16, header + 20]
    vmwCmdWaitGbQuery env header
  else waitQuery env (vmwTranslateGuestPtr env (header + 16)) header

/-- `vmw_kms_cursor_snoop`, up to the copy of the image. -/
def vmwKmsCursorSnoop (srf : ResId) (header : Nat) : Verify hashLong Unit := do
  if env.snooper srf then
    let face ← load (header + 24)
    if face ≠ 0 then pure ()
    else
      let mipmap ← load (header + 28)
      if mipmap ≠ 0 then pure ()
      else
        let size ← load (header + 4)
        if size < 64 then pure ()
        else
          log (.read (header + 12) 8)
          log (.read (header + 36) 36)
  else pure ()

def surfaceEntry : Verify hashLong (Option ResCacheEntry) := fun s => .ok (s.resCache .surface) s

/-- The bytes of a buffer from an offset on, in `uint32_t`. -/
def boSizeFrom (bo : BufId) (offset : Nat) : Nat :=
  env.numPages bo * pageSize % 2 ^ 32 - offset

def clampMaximumOffset (loc boSize : Nat) : Verify hashLong Unit := do
  let maximumOffset ← load loc
  if maximumOffset > boSize then store loc boSize else pure ()

/-- `vmw_cmd_dma` up to the cursor: what the surface is. -/
def vmwCmdDmaCheck (header : Nat) : Verify hashLong (BufId × Option ResCacheEntry) := do
  let size ← load (header + 4)
  let suffix := header + 8 + size - 12
  let suffixSize ← load suffix
  if suffixSize ≠ 12 then fail (-EINVAL)
  else
    let bo ← vmwTranslateGuestPtr env (header + 8)
    let offset ← load (header + 12)
    -- the error path does not drop the reference
    if offset > env.numPages bo * pageSize % 2 ^ 32 then fail (-EINVAL)
    else
      clampMaximumOffset (suffix + 4) (boSizeFrom env bo offset)
      onError (checkHandle env .surface (header + 20)) (·.addBufRef bo (-1))
      let srf ← surfaceEntry
      return (bo, srf)

/-- The surface is the cached one, which an invalid handle leaves as it was. -/
def vmwCmdDma (header : Nat) : Verify hashLong Unit := do
  let (bo, srf) ← vmwCmdDmaCheck env header
  match srf with
  | none => oops
  | some srf =>
    vmwKmsCursorSnoop env srf.res header
    update (·.addBufRef bo (-1))

/-- Checks the surface handles of an array. -/
def checkSurfaces (stride : Nat) : Nat → Nat → Verify hashLong Unit
  | 0, _ => pure ()
  | n + 1, idLoc => do
    checkHandle env .surface idLoc
    checkSurfaces stride n (idLoc + stride)

def vmwCmdDraw (header : Nat) : Verify hashLong Unit := do
  vmwCmdCidCheck env header
  let size ← load (header + 4)
  let numVertexDecls ← load (header + 12)
  if numVertexDecls > sub64 size 12 / 36 % 2 ^ 32 then fail (-EINVAL)
  else
    checkSurfaces env 36 numVertexDecls (header + 20 + 16)
    let numRanges ← load (header + 16)
    if numRanges > sub64 (sub64 size 12) (numVertexDecls * 36) / 28 % 2 ^ 32 then fail (-EINVAL)
    else checkSurfaces env 28 numRanges (header + 20 + numVertexDecls * 36 + 8)

/-- One `SVGA3dTextureState`. -/
def checkTexture (ctxNode : Option ResId) (curState : Nat) : Verify hashLong Unit := do
  let name ← load (curState + 4)
  if name ≠ svga3dTsBindTexture then pure ()
  else
    let resNode ← vmwCmdResCheck env .surface (curState + 8)
    if env.hasMob then
      let stage ← load curState
      -- the result is not looked at
      let _ ← vmwContextBindingAdd ctxNode resNode .tex stage
    else pure ()

def checkTextures (ctxNode : Option ResId) : Nat → Nat → Verify hashLong Unit
  | 0, _ => pure ()
  | n + 1, curState => do
    checkTexture env ctxNode curState
    checkTextures ctxNode n (curState + 12)

/-- The loop runs while an element starts before the end of the command. -/
def vmwCmdTexState (header : Nat) : Verify hashLong Unit := do
  let size ← load (header + 4)
  let ctxNode ← vmwCmdResCheck env .context (header + 8)
  checkTextures env ctxNode ((size + 7) / 12) (header + 12)

def vmwCmdCheckDefineGmrfb (buf : Nat) : Verify hashLong Unit := do
  let bo ← vmwTranslateGuestPtr env (buf + 4)
  update (·.addBufRef bo (-1))

def vmwCmdSwitchBackup (resType : ResType) (resId bufId backupOffset : Nat) :
    Verify hashLong Unit := do
  let valNode ← vmwCmdResCheck env resType resId
  let dmaBuf ← vmwTranslateMobPtr env bufId
  match valNode with
  | none => oops
  | some res =>
    update fun s =>
      match s.node res with
      | some n =>
        let s := match n.newBackup with
          | some old => s.addBufRef old (-1)
          | none => s
        s.setNode res { n with
          noBufferNeeded := n.firstUsage || n.noBufferNeeded
          newBackup := some dmaBuf
          newBackupOffset := backupOffset }
      | none => s

def vmwCmdBindGbSurface (header : Nat) : Verify hashLong Unit :=
  vmwCmdSwitchBackup env .surface (header + 8) (header + 12) 0

def vmwCmdUpdateGbImage (header : Nat) : Verify hashLong Unit :=
  checkHandle env .surface (header + 8)

def vmwCmdUpdateGbSurface (header : Nat) : Verify hashLong Unit :=
  checkHandle env .surface (header + 8)

def vmwCmdReadbackGbImage (header : Nat) : Verify hashLong Unit :=
  checkHandle env .surface (header + 8)

def vmwCmdReadbackGbSurface (header : Nat) : Verify hashLong Unit :=
  checkHandle env .surface (header + 8)

def vmwCmdInvalidateGbImage (header : Nat) : Verify hashLong Unit :=
  checkHandle env .surface (header + 8)

def vmwCmdInvalidateGbSurface (header : Nat) : Verify hashLong Unit :=
  checkHandle env .surface (header + 8)

def shaderWorld : Verify hashLong (ShaderWorld hashLong) := fun s => .ok s.shaders s

/-- Goes on with the managers a call leaves, and its result. -/
def runShaders {α : Type} (r : Option (α × ShaderWorld hashLong)) : Verify hashLong α := do
  match r with
  | none => oops
  | some (a, w) =>
    update fun s => { s with shaders := w }
    return a

/-- `val->res`. -/
def resOf (valNode : Option ResId) : Verify hashLong ResId := do
  match valNode with
  | none => oops
  | some res => return res

def vmwCmdShaderDefine (header : Nat) : Verify hashLong Unit := do
  let val ← vmwCmdResCheck env .context (header + 8)
  if !env.hasMob then pure ()
  else
    let size ← load (header + 4)
    let ctx ← resOf val
    let shid ← load (header + 12)
    let type ← load (header + 16)
    let outcome ← ask env.addOutcome
    let w ← shaderWorld
    let ret ← runShaders
      (vmwCompatShaderAdd w outcome (env.resMan ctx) (UInt32.ofNat shid) (UInt32.ofNat type))
    check ret
    -- the copy of the byte code
    log (.read (header + 20) (sub64 size 12))
    vmwResourceRelocationAdd env none (env.offset header)

def vmwCmdShaderDestroy (header : Nat) : Verify hashLong Unit := do
  let val ← vmwCmdResCheck env .context (header + 8)
  if !env.hasMob then pure ()
  else
    let ctx ← resOf val
    let shid ← load (header + 12)
    let type ← load (header + 16)
    let w ← shaderWorld
    let ret ← runShaders
      (vmwCompatShaderRemove w (env.resMan ctx) (UInt32.ofNat shid) (UInt32.ofNat type))
    check ret
    vmwResourceRelocationAdd env none (env.offset header)

/-- The node of a compat shader, if the context's manager has one under that id. -/
def compatShaderNode (header : Nat) (ctx : ResId) : Verify hashLong (Option ResId) := do
  let shid ← load (header + 16)
  if shid = svga3dInvalidId then return none
  else
    let type ← load (header + 12)
    let w ← shaderWorld
    let res ← runShaders
      (vmwCompatShaderLookup w (env.resMan ctx) (UInt32.ofNat shid) (UInt32.ofNat type))
    match res with
    | .error _ => return none
    | .ok res =>
      let resNode ← onError (vmwCmdResRelocAdd env .shader (header + 16) res) (·.unreference res)
      update (·.unreference res)
      return resNode

def vmwCmdSetShader (header : Nat) : Verify hashLong Unit := do
  let ctxNode ← vmwCmdResCheck env .context (header + 8)
  if !env.hasMob then pure ()
  else
    let ctx ← resOf ctxNode
    let compat ← compatShaderNode env header ctx
    let resNode ← match compat with
      | some res => pure (some res)
      | none => vmwCmdResCheck env .shader (header + 16)
    let type ← load (header + 12)
    let ret ← vmwContextBindingAdd ctxNode resNode .shader type
    check ret

def vmwCmdSetShaderConst (header : Nat) : Verify hashLong Unit := do
  checkHandle env .context (header + 8)
  if env.hasMob then store header svga3dCmdSetGbShaderconstsInline else pure ()

def vmwCmdBindGbShader (header : Nat) : Verify hashLong Unit := do
  let offsetInBytes ← load (header + 16)
  vmwCmdSwitchBackup env .shader (header + 8) (header + 12) offsetInBytes

end Vmwgfx.Execbuf
