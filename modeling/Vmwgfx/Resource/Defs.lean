import Vmwgfx.Kernel

/-! Guest-backed resources and their backup buffers: `vmwgfx_resource.c` and the
functions that create resources with one. -/

namespace Vmwgfx.Resource

abbrev BufId := Nat

def PAGE_SIZE : Nat := 4096

def ERESTARTSYS : Int := 512

def VMW_RES_EVICT_ERR_COUNT : Nat := 10

section SurfaceSize

/-- `struct drm_vmw_size`. -/
structure DrmVmwSize where
  width : Nat
  height : Nat
  depth : Nat
  deriving DecidableEq, Repr

/-- An entry of `svga3d_surface_descs`; blocks are not empty. -/
structure Svga3dSurfaceDesc where
  planar : Bool
  blockSize : DrmVmwSize
  bytesPerBlock : Nat
  pitchBytesPerBlock : Nat
  width_pos : 0 < blockSize.width
  height_pos : 0 < blockSize.height
  depth_pos : 0 < blockSize.depth

def clampedUmul32 (a b : Nat) : Nat := if 2 ^ 32 - 1 < a * b then 2 ^ 32 - 1 else a * b

/-- `DIV_ROUND_UP` in 32 bits. -/
def divRoundUp32 (x y : Nat) : Nat := (x + y - 1) % 2 ^ 32 / y

def svga3dsurfaceGetSizeInBlocks (desc : Svga3dSurfaceDesc) (size : DrmVmwSize) : DrmVmwSize :=
  { width := divRoundUp32 size.width desc.blockSize.width
    height := divRoundUp32 size.height desc.blockSize.height
    depth := divRoundUp32 size.depth desc.blockSize.depth }

def svga3dsurfaceCalculatePitch (desc : Svga3dSurfaceDesc) (size : DrmVmwSize) : Nat :=
  (svga3dsurfaceGetSizeInBlocks desc size).width * desc.pitchBytesPerBlock % 2 ^ 32

def svga3dsurfaceGetImageBufferSize (desc : Svga3dSurfaceDesc) (size : DrmVmwSize) (pitch : Nat) : Nat :=
  let blocks := svga3dsurfaceGetSizeInBlocks desc size
  if desc.planar then
    clampedUmul32 (clampedUmul32 (clampedUmul32 blocks.width blocks.height) blocks.depth) desc.bytesPerBlock
  else
    let pitch := if pitch = 0 then svga3dsurfaceCalculatePitch desc size else pitch
    clampedUmul32 (clampedUmul32 blocks.height pitch) blocks.depth

def svga3dsurfaceGetMipSize (base : DrmVmwSize) (mip : Nat) : DrmVmwSize :=
  { width := max (base.width >>> mip) 1
    height := max (base.height >>> mip) 1
    depth := max (base.depth >>> mip) 1 }

def SVGA3D_MAX_SURFACE_FACES : Nat := 6

def svga3dsurfaceGetSerializedSize (desc : Svga3dSurfaceDesc) (base : DrmVmwSize) (numMipLevels : Nat)
    (cubemap : Bool) : Nat :=
  let totalSize := (List.range numMipLevels).foldl (fun totalSize mip =>
    (totalSize + svga3dsurfaceGetImageBufferSize desc (svga3dsurfaceGetMipSize base mip) 0) % 2 ^ 32) 0
  if cubemap then totalSize * SVGA3D_MAX_SURFACE_FACES % 2 ^ 32 else totalSize

/-- The `cur_bo_offset` of `vmw_surface_define_ioctl` after its loop. -/
def surfaceBoOffset (desc : Svga3dSurfaceDesc) (sizes : List DrmVmwSize) : Nat :=
  sizes.foldl (fun off size =>
    (off + svga3dsurfaceGetImageBufferSize desc size (svga3dsurfaceCalculatePitch desc size)) % 2 ^ 32) 0

/-- The bytes of one image, with no 32 bit arithmetic in the way. -/
def imageBytes (desc : Svga3dSurfaceDesc) (size : DrmVmwSize) : Nat :=
  (size.width + desc.blockSize.width - 1) / desc.blockSize.width
    * ((size.height + desc.blockSize.height - 1) / desc.blockSize.height)
    * ((size.depth + desc.blockSize.depth - 1) / desc.blockSize.depth)
    * (if desc.planar then desc.bytesPerBlock else desc.pitchBytesPerBlock)

end SurfaceSize

def SVGA3D_CONTEXT_DATA_SIZE : Nat := 16384

/-- What a resource stores. -/
inductive Contents
  | surface (desc : Svga3dSurfaceDesc) (base : DrmVmwSize) (numMipLevels : Nat) (cubemap : Bool)
  | images (desc : Svga3dSurfaceDesc) (sizes : List DrmVmwSize)
  | shader (size : Nat)
  | context
  | nothing

namespace Contents

/-- The `backup_size` the source computes. -/
def backupSize : Contents → Nat
  | surface desc base mips cubemap => svga3dsurfaceGetSerializedSize desc base mips cubemap
  | images desc sizes => surfaceBoOffset desc sizes
  | shader size => size
  | context => SVGA3D_CONTEXT_DATA_SIZE
  | nothing => 0

/-- The bytes the contents take. -/
def trueSize : Contents → Nat
  | surface desc base mips cubemap =>
    ((List.range mips).map (fun mip => imageBytes desc (svga3dsurfaceGetMipSize base mip))).sum
      * (if cubemap then SVGA3D_MAX_SURFACE_FACES else 1)
  | images desc sizes => (sizes.map (imageBytes desc)).sum
  | shader size => size
  | context => SVGA3D_CONTEXT_DATA_SIZE
  | nothing => 0

end Contents

inductive ResType
  | context
  | surface
  | stream
  | shader
  deriving DecidableEq, Repr

/-- The tables of `struct vmw_res_func`. -/
inductive VmwResFunc
  | legacyContext
  | gbContext
  | legacySurface
  | gbSurface
  | gbShader
  | stream
  deriving DecidableEq, Repr

namespace VmwResFunc

def resType : VmwResFunc → ResType
  | legacyContext | gbContext => .context
  | legacySurface | gbSurface => .surface
  | gbShader => .shader
  | stream => .stream

def needsBackup : VmwResFunc → Bool
  | gbContext | gbSurface | gbShader => true
  | legacyContext | legacySurface | stream => false

def mayEvict : VmwResFunc → Bool
  | gbContext | gbSurface | gbShader | legacySurface => true
  | legacyContext | stream => false

def hasBind : VmwResFunc → Bool
  | gbContext | gbSurface | gbShader | legacySurface => true
  | legacyContext | stream => false

def hasUnbind : VmwResFunc → Bool := hasBind

/-- The `bind` functions of the guest-backed types clear `backup_dirty`;
`vmw_legacy_srf_bind` only uploads. -/
def bindClearsDirty : VmwResFunc → Bool := needsBackup

end VmwResFunc

/-- How far the submission that uses the resource has got. -/
inductive Phase
  | idle
  | reserved
  | validated
  | released
  deriving DecidableEq, Repr

structure VmwResource where
  func : VmwResFunc
  data : Contents
  /-- `id != -1`. -/
  onDevice : Bool
  backup : Option BufId
  backupOffset : Nat
  backupSize : Nat
  backupDirty : Bool
  resDirty : Bool
  /-- The list head that `mob_head` is linked on; `none` is `list_empty`. -/
  mobHead : Option BufId
  pinCount : Nat
  phase : Phase

/-- The resources, their lru lists and their buffers. Identities are not reused. -/
structure State where
  res : ResId → VmwResource
  resources : List ResId
  lru : ResType → List ResId
  /-- `res_list` of a buffer. -/
  resList : BufId → List ResId
  buffers : List BufId
  numPages : BufId → Nat
  contents : BufId → Nat
  bufRef : BufId → Nat
  /-- The part of `bufRef` that is not held by the `backup` of a resource. -/
  otherRef : BufId → Nat

namespace State

def modify (s : State) (r : ResId) (f : VmwResource → VmwResource) : State :=
  { s with res := Function.update s.res r (f (s.res r)) }

/-- `list_add_tail(&res->mob_head, &b->res_list)`. -/
def listAddMob (s : State) (r : ResId) (b : BufId) : State :=
  { s.modify r (fun res => { res with mobHead := some b }) with
    resList := Function.update s.resList b (s.resList b ++ [r]) }

/-- `list_del_init(&res->mob_head)`. -/
def listDelMob (s : State) (r : ResId) : State :=
  match (s.res r).mobHead with
  | none => s
  | some b =>
    { s.modify r (fun res => { res with mobHead := none }) with
      resList := Function.update s.resList b ((s.resList b).filter (· ≠ r)) }

def lruAdd (s : State) (r : ResId) : State :=
  { s with lru := Function.update s.lru (s.res r).func.resType (s.lru (s.res r).func.resType ++ [r]) }

def lruDel (s : State) (r : ResId) : State :=
  { s with
    lru := Function.update s.lru (s.res r).func.resType
      ((s.lru (s.res r).func.resType).filter (· ≠ r)) }

/-- `res->backup = vmw_dmabuf_reference(b)`. -/
def setBackup (s : State) (r : ResId) (b : BufId) : State :=
  { s.modify r (fun res => { res with backup := some b }) with
    bufRef := Function.update s.bufRef b (s.bufRef b + 1) }

/-- `vmw_dmabuf_unreference(&res->backup)`. -/
def dropBackup (s : State) (r : ResId) : State :=
  match (s.res r).backup with
  | none => s
  | some b =>
    { s.modify r (fun res => { res with backup := none }) with
      bufRef := Function.update s.bufRef b (s.bufRef b - 1) }

/-- `ttm_bo_reference`, held by something else than a resource. -/
def bufGet (s : State) (b : BufId) : State :=
  { s with bufRef := Function.update s.bufRef b (s.bufRef b + 1)
           otherRef := Function.update s.otherRef b (s.otherRef b + 1) }

def bufPut (s : State) (b : BufId) : State :=
  { s with bufRef := Function.update s.bufRef b (s.bufRef b - 1)
           otherRef := Function.update s.otherRef b (s.otherRef b - 1) }

/-- `vmw_dmabuf_init`: a buffer nobody refers to yet. -/
def bufInit (s : State) (b : BufId) (size : Nat) : State :=
  { s with buffers := b :: s.buffers
           numPages := Function.update s.numPages b ((size + PAGE_SIZE - 1) / PAGE_SIZE) }

/-- The buffers that a submission keeps reserved until its resources are put back. -/
def held (s : State) (b : BufId) : Bool :=
  s.resources.any (fun r => (s.res r).phase = .validated ∧ (s.res r).backup = some b)

end State

/-- The outcome of an `unbind`, with what a readback leaves in the buffer. -/
structure Unbind where
  ret : Int
  readback : Nat

def funcUnbind (s : State) (b : BufId) (readback : Bool) (u : Unbind) : State :=
  if u.ret = 0 ∧ readback then { s with contents := Function.update s.contents b u.readback } else s

def funcDestroy (s : State) (r : ResId) (ret : Int) : State :=
  if ret = 0 then s.modify r (fun res => { res with onDevice := false }) else s

/-- One round of the loop of `vmw_resource_move_notify`. -/
def moveNotifyOne (b : BufId) (s : State) (r : ResId) (u : Unbind) : State :=
  if (s.res r).func.hasUnbind then
    ((funcUnbind s b true u).modify r
      (fun res => { res with backupDirty := true, resDirty := false })).listDelMob r
  else s

/-- `vmw_resource_move_notify`, with the outcomes of the unbinds in order. -/
def vmwResourceMoveNotify (s : State) (b : BufId) (toMob : Bool) (us : List Unbind) : State :=
  if toMob then s
  else ((s.resList b).zip us).foldl (fun s p => moveNotifyOne b s p.1 p.2) s

/-- The buffers that `ttm_bo_validate` moves out of the way; reserved ones stay. -/
def moveOut (s : State) (keep : BufId) : List (BufId × List Unbind) → Option State
  | [] => some s
  | (b, us) :: moves =>
    if b = keep ∨ s.held b ∨ us.length ≠ (s.resList b).length then none
    else moveOut (vmwResourceMoveNotify s b false us) keep moves

/-- `vmw_resource_buf_alloc`; `alloc` is the new buffer, if there is memory for it. -/
def vmwResourceBufAlloc (s : State) (r : ResId) (alloc : Option BufId) : Option (Int × State) :=
  match (s.res r).backup with
  | some b =>
    if s.numPages b * PAGE_SIZE < ((s.res r).backupSize + PAGE_SIZE - 1) / PAGE_SIZE * PAGE_SIZE then none
    else some (0, s)
  | none =>
    match alloc with
    | none => some (-ENOMEM, s)
    | some b =>
      if b ∈ s.buffers ∨ (s.res r).backupSize = 0 then none
      else some (0, (s.bufInit b (s.res r).backupSize).setBackup r b)

structure CheckBuffer where
  alloc : Option BufId
  /-- `ttm_eu_reserve_buffers`. -/
  reserve : Int
  moves : List (BufId × List Unbind)
  /-- `ttm_bo_validate`. -/
  validate : Int

/-- The labels `out_no_validate` and `out_no_reserve`. -/
def checkBufferFail (s : State) (r : ResId) (b : BufId) (backupDirty : Bool) : State :=
  if backupDirty then (s.bufPut b).dropBackup r else s.bufPut b

/-- `vmw_resource_check_buffer`; on success `val_buf` keeps a reference. -/
def vmwResourceCheckBuffer (s : State) (r : ResId) (o : CheckBuffer) : Option (Int × State) :=
  (if (s.res r).backup.isNone then vmwResourceBufAlloc s r o.alloc else some (0, s)).bind fun (ret, s) =>
    if ret ≠ 0 then some (ret, s)
    else
      match (s.res r).backup with
      | none => none
      | some b =>
        let s := s.bufGet b
        if o.reserve ≠ 0 then some (o.reserve, checkBufferFail s r b false)
        else if (s.res r).func.needsBackup ∧ (s.res r).mobHead.isNone then some (0, s)
        else
          let backupDirty := (s.res r).backupDirty
          (moveOut s b o.moves).map fun s =>
            if o.validate ≠ 0 then (o.validate, checkBufferFail s r b backupDirty) else (0, s)

structure Evict where
  check : CheckBuffer
  unbind : Unbind
  destroy : Int

/-- `vmw_resource_do_evict`. -/
def vmwResourceDoEvict (s : State) (r : ResId) (o : Evict) : Option (Int × State) :=
  if ¬ (s.res r).func.mayEvict then none
  else (vmwResourceCheckBuffer s r o.check).bind fun (ret, s) =>
    if ret ≠ 0 then some (ret, s)
    else
      match (s.res r).backup with
      | none => none
      | some b =>
        if (s.res r).func.hasUnbind ∧ (¬ (s.res r).func.needsBackup ∨ (s.res r).mobHead.isSome) then
          if o.unbind.ret ≠ 0 then some (o.unbind.ret, s.bufPut b)
          else
            let s := (funcUnbind s b (s.res r).resDirty o.unbind).listDelMob r
            some (o.destroy, ((funcDestroy s r o.destroy).modify r
              (fun res => { res with backupDirty := true, resDirty := false })).bufPut b)
        else
          some (o.destroy, ((funcDestroy s r o.destroy).modify r
            (fun res => { res with backupDirty := true, resDirty := false })).bufPut b)

/-- `vmw_resource_release`. -/
def vmwResourceRelease (s : State) (r : ResId) (u : Unbind) : State :=
  let s := s.lruDel r
  let s := match (s.res r).backup with
    | none => s
    | some b =>
      let s := if (s.res r).mobHead.isSome ∧ (s.res r).func.hasUnbind then funcUnbind s b false u else s
      ((s.modify r (fun res => { res with backupDirty := false })).listDelMob r).dropBackup r
  s.modify r (fun res => { res with phase := .released })

/-- One round of the loop of `vmw_resource_validate`. -/
structure Attempt where
  create : Int
  bind : Int
  destroy : Int
  evict : Evict
  /-- The reference on the victim is the last one. -/
  lastRef : Bool
  release : Unbind

def vmwResourceDoValidate (s : State) (r : ResId) (o : Attempt) : Int × State :=
  if ¬ (s.res r).onDevice ∧ o.create ≠ 0 then (o.create, s)
  else
    let s := if (s.res r).onDevice then s else s.modify r (fun res => { res with onDevice := true })
    if (s.res r).func.hasBind ∧ (s.res r).backup.isSome ∧
        (¬ (s.res r).func.needsBackup ∨ (s.res r).mobHead.isNone) then
      if o.bind ≠ 0 then (o.bind, funcDestroy s r o.destroy)
      else
        let s := if (s.res r).func.bindClearsDirty then
          s.modify r (fun res => { res with backupDirty := false }) else s
        let s := match (s.res r).backup with
          | some b => if (s.res r).func.needsBackup then s.listAddMob r b else s
          | none => s
        (0, s.modify r (fun res => { res with resDirty := true }))
    else (0, s.modify r (fun res => { res with resDirty := true }))

/-- Drops the reference on the victim. -/
def putVictim (s : State) (v : ResId) (o : Attempt) : State :=
  if o.lastRef then vmwResourceRelease s v o.release else s

/-- One round of the loop of `vmw_resource_evict_type`, and of the part of the
loop of `vmw_resource_validate` that makes room. -/
def evictOne (s : State) (type : ResType) (o : Attempt) : Option (Int × State) :=
  match s.lru type with
  | [] => none
  | v :: _ =>
    (vmwResourceDoEvict (s.lruDel v) v o.evict).map fun (ret, s) =>
      (ret, putVictim (if ret = 0 then s else s.lruAdd v) v o)

def vmwResourceValidateLoop (r : ResId) : Nat → List Attempt → State → Option (Int × State)
  | _, [], _ => none
  | errCount, o :: os, s =>
    let (ret, s) := vmwResourceDoValidate s r o
    if ret ≠ -EBUSY then some (ret, s)
    else if s.lru (s.res r).func.resType = [] then some (-EBUSY, s)
    else
      (evictOne s (s.res r).func.resType o).bind fun (ret, s) =>
        if ret = 0 then vmwResourceValidateLoop r errCount os s
        else if ret = -ERESTARTSYS ∨ VMW_RES_EVICT_ERR_COUNT < errCount + 1 then some (ret, s)
        else vmwResourceValidateLoop r (errCount + 1) os s

/-- What is left to do after the loop of `vmw_resource_validate` succeeded. -/
def validateDone (s : State) (r : ResId) : State :=
  if ¬ (s.res r).func.needsBackup ∧ (s.res r).backup.isSome then (s.listDelMob r).dropBackup r else s

/-- `vmw_resource_validate` of a reserved resource. -/
def vmwResourceValidate (s : State) (r : ResId) (os : List Attempt) : Option (Int × State) :=
  if ¬ (s.res r).func.mayEvict then some (0, s)
  else (vmwResourceValidateLoop r 0 os s).map fun (ret, s) => (ret, if ret = 0 then validateDone s r else s)

def vmwResourceReserve (s : State) (r : ResId) (noBackup : Bool) (alloc : Option BufId) :
    Option (Int × State) :=
  let s := s.lruDel r
  if (s.res r).func.needsBackup ∧ (s.res r).backup.isNone ∧ ¬ noBackup then vmwResourceBufAlloc s r alloc
  else some (0, s)

def vmwResourceUnreserve (s : State) (r : ResId) (newBackup : Option BufId) (newBackupOffset : Nat) :
    State :=
  if r ∈ s.lru (s.res r).func.resType then s
  else
    let s := match newBackup with
      | none => s
      | some b =>
        let s := if (s.res r).backup = some b then s
          else
            let s := if (s.res r).backup.isSome then (s.listDelMob r).dropBackup r else s
            (s.setBackup r b).listAddMob r b
        s.modify r (fun res => { res with backupOffset := newBackupOffset })
    if ¬ (s.res r).func.mayEvict ∨ ¬ (s.res r).onDevice ∨ (s.res r).pinCount ≠ 0 then s
    else s.lruAdd r

section Create

/-- `vmw_resource_init`, then the size. -/
def vmwResourceInit (s : State) (r : ResId) (func : VmwResFunc) (data : Contents) : State :=
  { s with
    resources := r :: s.resources
    res := Function.update s.res r
      { func, data, onDevice := false, backup := none, backupOffset := 0, backupSize := data.backupSize
        backupDirty := false, resDirty := false, mobHead := none, pinCount := 0, phase := .idle } }

/-- `vmw_user_dmabuf_alloc` into `res->backup`: the handle holds a reference too. -/
def vmwUserDmabufAlloc (s : State) (r : ResId) (b : BufId) (size : Nat) : Option State :=
  if b ∈ s.buffers ∨ size = 0 then none else some (((s.bufInit b size).setBackup r b).bufGet b)

/-- Where a surface gets its backup buffer from. -/
inductive Backing
  | none
  | handle (b : BufId)
  | create (b : BufId)

/-- `vmw_gb_surface_define_ioctl`. A buffer handle is only looked up. -/
def vmwGbSurfaceDefine (hasMob : Bool) (s : State) (r : ResId) (data : Contents) (backing : Backing) :
    Option State :=
  let s := vmwResourceInit s r (if hasMob then .gbSurface else .legacySurface) data
  match backing with
  | .none => some s
  | .handle b => if s.otherRef b = 0 then none else some (s.setBackup r b)
  | .create b => vmwUserDmabufAlloc s r b (s.res r).backupSize

/-- `vmw_surface_define_ioctl`; `shared` is a buffer for a shareable surface. -/
def vmwSurfaceDefine (hasMob : Bool) (s : State) (r : ResId) (desc : Svga3dSurfaceDesc)
    (sizes : List DrmVmwSize) (shared : Option BufId) : Option State :=
  let s := vmwResourceInit s r (if hasMob then .gbSurface else .legacySurface) (.images desc sizes)
  match shared with
  | none => some s
  | some b => if hasMob then vmwUserDmabufAlloc s r b (s.res r).backupSize else none

/-- `vmw_shader_define_ioctl`. The sum that is checked is one of 64 bit words. -/
def vmwShaderDefine (s : State) (r : ResId) (size offset : Nat) (handle : Option BufId) : Option State :=
  let s := vmwResourceInit s r .gbShader (.shader size)
  match handle with
  | none => some s
  | some b =>
    if s.otherRef b = 0 ∨ s.numPages b * PAGE_SIZE < (size + offset) % 2 ^ 64 then none
    else some ((s.setBackup r b).modify r (fun res => { res with backupOffset := offset }))

/-- `vmw_compat_shader_add`: the byte code goes to a buffer of its own. -/
def vmwCompatShaderAdd (s : State) (r : ResId) (size : Nat) (b : BufId) : Option State :=
  if b ∈ s.buffers ∨ size = 0 then none
  else some (((vmwResourceInit s r .gbShader (.shader size)).bufInit b size).setBackup r b)

def vmwContextDefine (hasMob : Bool) (s : State) (r : ResId) : State :=
  if hasMob then vmwResourceInit s r .gbContext .context else vmwResourceInit s r .legacyContext .nothing

end Create

inductive Action
  | gbSurfaceDefine (r : ResId) (desc : Svga3dSurfaceDesc) (base : DrmVmwSize) (mips : Nat) (cubemap : Bool)
      (backing : Backing)
  | surfaceDefine (r : ResId) (desc : Svga3dSurfaceDesc) (sizes : List DrmVmwSize) (shared : Option BufId)
  | shaderDefine (r : ResId) (size offset : Nat) (handle : Option BufId)
  | compatShaderAdd (r : ResId) (size : Nat) (b : BufId)
  | contextDefine (r : ResId)
  | reserve (r : ResId) (noBackup : Bool) (alloc : Option BufId)
  | validate (r : ResId) (o : Attempt)
  | unreserve (r : ResId) (newBackup : Option BufId) (newBackupOffset : Nat)
  | evict (type : ResType) (o : Attempt)
  | moveNotify (b : BufId) (toMob : Bool) (us : List Unbind)
  | release (r : ResId) (u : Unbind)
  | pin (r : ResId) (count : Nat)
  | bufCreate (b : BufId) (size : Nat)
  | bufGet (b : BufId)
  | bufPut (b : BufId)

def State.setPhase (s : State) (r : ResId) (p : Phase) : State :=
  s.modify r (fun res => { res with phase := p })

/-- The phases say what the callers do: a submission reserves a resource,
validates it with its backup reserved, and puts it back, with a new backup only
after the validation. Meanwhile it holds a reference. The rounds of a validation
are steps of their own, between which other threads run. A buffer can be named
while a handle or a submission refers to it. -/
def step (hasMob : Bool) (s : State) : Action → Option State
  | .gbSurfaceDefine r desc base mips cubemap backing =>
    if r ∈ s.resources then none
    else vmwGbSurfaceDefine hasMob s r (.surface desc base mips cubemap) backing
  | .surfaceDefine r desc sizes shared =>
    if r ∈ s.resources then none else vmwSurfaceDefine hasMob s r desc sizes shared
  | .shaderDefine r size offset handle =>
    if r ∈ s.resources then none else vmwShaderDefine s r size offset handle
  | .compatShaderAdd r size b => if r ∈ s.resources then none else vmwCompatShaderAdd s r size b
  | .contextDefine r => if r ∈ s.resources then none else some (vmwContextDefine hasMob s r)
  | .reserve r noBackup alloc =>
    if (s.res r).phase ≠ .idle then none
    else (vmwResourceReserve s r noBackup alloc).map fun (_, s) => s.setPhase r .reserved
  | .validate r o =>
    if (s.res r).phase ≠ .reserved then none
    else if ¬ (s.res r).func.mayEvict then some (s.setPhase r .validated)
    else
      let (ret, s) := vmwResourceDoValidate s r o
      some (if ret = 0 then (validateDone s r).setPhase r .validated else s)
  | .unreserve r newBackup off =>
    if (s.res r).phase = .released ∨
        (∃ b ∈ newBackup, (s.res r).phase ≠ .validated ∨ s.otherRef b = 0) then none
    else some (vmwResourceUnreserve (s.setPhase r .idle) r newBackup off)
  | .evict type o => (evictOne s type o).map (·.2)
  | .moveNotify b toMob us =>
    if s.held b ∨ us.length ≠ (s.resList b).length then none else some (vmwResourceMoveNotify s b toMob us)
  | .release r u => if (s.res r).phase ≠ .idle then none else some (vmwResourceRelease s r u)
  | .pin r count =>
    if (s.res r).phase = .released then none
    else some (s.modify r (fun res => { res with pinCount := count }))
  | .bufCreate b size => if b ∈ s.buffers then none else some ((s.bufInit b size).bufGet b)
  | .bufGet b => if s.otherRef b = 0 then none else some (s.bufGet b)
  | .bufPut b => if s.otherRef b = 0 then none else some (s.bufPut b)

/-- No resource yet. -/
def VmwResource.blank : VmwResource :=
  { func := .gbSurface, data := .nothing, onDevice := false, backup := none, backupOffset := 0
    backupSize := 0, backupDirty := false, resDirty := false, mobHead := none, pinCount := 0
    phase := .released }

def State.init : State where
  res _ := .blank
  resources := []
  lru _ := []
  resList _ := []
  buffers := []
  numPages _ := 0
  contents _ := 0
  bufRef _ := 0
  otherRef _ := 0

end Vmwgfx.Resource
