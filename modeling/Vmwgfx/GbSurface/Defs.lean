import Vmwgfx.Object.Handles
import Vmwgfx.Resource.Size

/-! The ioctls that create a guest-backed surface and reference a shared one, and the handles they
reply. -/

namespace Vmwgfx.GbSurface

open Object Resource

def EACCES : Int := 13
def ENOSYS : Int := 38

def SVGA3D_INVALID_ID : Nat := 4294967295

/-- What a kernel function returns: zero or a negative error. -/
abbrev Ret := { ret : Int // ret ≤ 0 }

inductive DrmMinor
  | legacy
  | control
  | render
  deriving DecidableEq

/-- `struct drm_file`, of which `vmw_fpriv` has the object file. -/
structure DrmFile where
  tfile : TFile
  minor : DrmMinor
  master : Option Nat

/-- `struct vmw_dma_buffer`. -/
structure DmaBuffer where
  addrSpaceOffset : Nat
  numPages : Nat

/-- A backup buffer, inside the user object that is its base, or one of the driver's own. -/
inductive Backup
  | user (base : ObjId)
  | kernel (buf : DmaBuffer)

/-- `struct vmw_user_surface`. -/
structure VmwUserSurface where
  flags : Nat
  format : Nat
  scanout : Bool
  mipLevels : Nat
  baseSize : DrmVmwSize
  autogenFilter : Nat
  multisampleCount : Nat
  backupSize : Nat
  backup : Option Backup
  master : Option Nat

/-- What `dma_buf_get` finds: an error, a buffer of another exporter, or one exported for a base object. -/
inductive DmaBuf
  | error (ret : Int) (neg : ret < 0)
  | foreign
  | exported (base : ObjId)

structure State where
  table : Table
  srf : ObjId → VmwUserSurface
  dma : ObjId → DmaBuffer
  fd : Nat → DmaBuf

def State.setBackup (s : State) (srf : ObjId) (backup : Option Backup) : State :=
  { s with srf := Function.update s.srf srf { s.srf srf with backup } }

/-- `struct drm_vmw_gb_surface_create_req`. -/
structure CreateReq where
  svga3dFlags : Nat
  format : Nat
  mipLevels : Nat
  drmSurfaceFlags : Nat
  multisampleCount : Nat
  autogenFilter : Nat
  bufferHandle : Handle
  baseSize : DrmVmwSize

namespace CreateReq

def shareable (req : CreateReq) : Bool := req.drmSurfaceFlags.testBit 0
def scanout (req : CreateReq) : Bool := req.drmSurfaceFlags.testBit 1
def createBuffer (req : CreateReq) : Bool := req.drmSurfaceFlags.testBit 2
def cubemap (req : CreateReq) : Bool := req.svga3dFlags.testBit 0

end CreateReq

/-- `struct drm_vmw_gb_surface_create_rep`. -/
structure CreateRep where
  handle : Handle
  backupSize : Nat
  bufferHandle : Handle
  bufferSize : Nat
  bufferMapHandle : Nat

/-- `struct drm_vmw_gb_surface_ref_rep`. -/
structure RefRep where
  creq : CreateReq
  crep : CreateRep

/-- An ioctl's end; without `rep` the argument is as it was. -/
structure Result (ρ : Type) where
  ret : Int
  rep : Option ρ
  state : State

/-- A new base object: where it is, and how its registration ends. -/
structure BaseInit where
  base : ObjId
  key : Handle
  hashInsert : Ret
  refAlloc : Ret

/-- `ttm_prime_object_init` with `ttm_base_object_init`. -/
def ttmPrimeObjectInit (t : Table) (tfile : TFile) (b : BaseInit) (shareable : Bool) (type : TtmObjectType)
    (release : Container) : Int × Table :=
  let t := { t with obj := Function.update t.obj b.base ⟨b.key, .primeType, type, shareable, tfile, 1, release⟩ }
  if b.hashInsert.1 ≠ 0 then (b.hashInsert.1, t)
  else
    let t := { t with objectHash := Function.update t.objectHash b.key (some b.base) }
    let r := ttmRefObjectAdd t tfile b.base b.refAlloc.1
    if r.1 ≠ 0 then (r.1, { r.2 with objectHash := Function.update r.2.objectHash b.key none })
    else (0, ttmBaseObjectUnref r.2 b.base)

section Define

/-- What the steps of `vmw_gb_surface_define_ioctl` return. `backupHandle` is what the stack has
where the variable of this name is. -/
structure DefineSteps where
  readLock : Ret
  memGlobalAlloc : Ret
  kzalloc : Bool
  surfaceInit : Ret
  srf : BaseInit
  bufKzalloc : Bool
  dmabufInit : Ret
  buf : BaseInit
  addrSpaceOffset : Nat
  backupHandle : Handle

def vmwUserDmabufAlloc (s : State) (tfile : TFile) (size : Nat) (shareable : Bool) (k : DefineSteps) : Int × State :=
  if k.bufKzalloc = false then (-ENOMEM, s)
  else if k.dmabufInit.1 ≠ 0 then (k.dmabufInit.1, s)
  else
    let c := Container.userDmaBuffer
    let r := ttmPrimeObjectInit (s.table.setInner k.buf.base c 2) tfile k.buf shareable .bufferType c
    if r.1 ≠ 0 then (r.1, { s with table := r.2.setInner k.buf.base c 1 })
    else
      (0, { s with
            table := r.2
            dma := Function.update s.dma k.buf.base ⟨k.addrSpaceOffset, pageAlign size / PAGE_SIZE⟩ })

/-- The last reference of a surface takes that on its backup along. -/
def vmwResourceUnreference (s : State) (res : ObjId) : State :=
  let n := s.table.inner res .userSurface - 1
  let t := s.table.setInner res .userSurface n
  { s with
    table :=
      match (s.srf res).backup with
      | some (.user b) => if n = 0 then t.setInner b .userDmaBuffer (t.inner b .userDmaBuffer - 1) else t
      | _ => t }

def Backup.buffer (s : State) : Backup → DmaBuffer
  | .user base => s.dma base
  | .kernel buf => buf

/-- The fields of a reply that describe the backup. -/
def replyOf (s : State) (srf : ObjId) (backupHandle : Handle) : CreateRep :=
  let handle := (s.table.obj srf).key
  let backupSize := (s.srf srf).backupSize
  match (s.srf srf).backup with
  | some backup =>
    let buf := backup.buffer s
    ⟨handle, backupSize, backupHandle, buf.numPages * PAGE_SIZE % 2 ^ 32, buf.addrSpaceOffset⟩
  | none => ⟨handle, backupSize, SVGA3D_INVALID_ID, 0, 0⟩

/-- The buffer that the request names, a new one, or none. -/
def defineBackup (s : State) (tfile : TFile) (req : CreateReq) (k : DefineSteps) : Int × Handle × State :=
  if req.bufferHandle ≠ SVGA3D_INVALID_ID then
    let r := vmwUserDmabufLookup s.table tfile req.bufferHandle
    -- `backup_handle` is not set here
    (r.ret, k.backupHandle,
      State.setBackup { s with table := r.table } k.srf.base (r.converted.head?.map fun p => .user p.1))
  else if req.createBuffer then
    let r := vmwUserDmabufAlloc s tfile (s.srf k.srf.base).backupSize req.shareable k
    if r.1 ≠ 0 then (r.1, k.backupHandle, r.2)
    else (0, k.buf.key, r.2.setBackup k.srf.base (some (.user k.buf.base)))
  else (0, k.backupHandle, s)

/-- The ioctl after `vmw_surface_init`. -/
def defineFinish (s : State) (tfile : TFile) (req : CreateReq) (k : DefineSteps) : Result CreateRep :=
  let srf := k.srf.base
  match defineBackup s tfile req k with
  | (ret, backupHandle, s) =>
    if ret ≠ 0 then ⟨ret, none, vmwResourceUnreference s srf⟩
    else
      let t := s.table.setInner srf .userSurface (s.table.inner srf .userSurface + 1)
      let r := ttmPrimeObjectInit t tfile k.srf req.shareable VMW_RES_SURFACE .userSurface
      let s := { s with table := r.2 }
      if r.1 ≠ 0 then ⟨r.1, none, vmwResourceUnreference (vmwResourceUnreference s srf) srf⟩
      else ⟨0, some (replyOf s srf backupHandle), vmwResourceUnreference s srf⟩

variable (descs : Nat → Option Svga3dSurfaceDesc)

/-- The surface that the request describes. -/
def newSurface (file : DrmFile) (req : CreateReq) (desc : Svga3dSurfaceDesc) : VmwUserSurface where
  flags := req.svga3dFlags
  format := req.format
  scanout := req.scanout
  mipLevels := req.mipLevels
  baseSize := req.baseSize
  autogenFilter := 0
  multisampleCount := req.multisampleCount
  backupSize := svga3dsurfaceGetSerializedSize desc req.baseSize req.mipLevels req.cubemap
  backup := none
  master := if file.minor = .legacy then file.master else none

def vmwGbSurfaceDefineIoctl (s : State) (file : DrmFile) (req : CreateReq) (k : DefineSteps) : Result CreateRep :=
  match descs req.format with
  | none => ⟨-EINVAL, none, s⟩
  | some desc =>
    if k.readLock.1 ≠ 0 then ⟨k.readLock.1, none, s⟩
    else if k.memGlobalAlloc.1 ≠ 0 then ⟨k.memGlobalAlloc.1, none, s⟩
    else if k.kzalloc = false then ⟨-ENOMEM, none, s⟩
    else if k.surfaceInit.1 ≠ 0 then ⟨k.surfaceInit.1, none, s⟩
    else
      let srf := k.srf.base
      let s := { s with
        srf := Function.update s.srf srf (newSurface file req desc)
        table := s.table.setInner srf .userSurface 1 }
      defineFinish s file.tfile req k

end Define

section Reference

/-- `struct drm_vmw_surface_arg`; `prime` is `DRM_VMW_HANDLE_PRIME`. -/
structure SurfaceArg where
  sid : Nat
  prime : Bool

/-- How the allocations of two reference objects end. -/
structure ReferenceSteps where
  surfaceAlloc : Ret
  bufferAlloc : Ret

def ttmPrimeFdToHandle (t : Table) (tfile : TFile) (alloc : Int) : DmaBuf → Int × Handle × Table
  | .error ret _ => (ret, 0, t)
  | .foreign => (-ENOSYS, 0, t)
  | .exported base =>
    let r := ttmRefObjectAdd t tfile base alloc
    (r.1, (t.obj base).key, r.2)

/-- `out_no_lookup`. -/
def outNoLookup (t : Table) (tfile : TFile) (prime : Bool) (handle : Handle) : Table :=
  if prime then (ttmRefObjectBaseUnref t tfile handle).2 else t

/-- Without an object the first component is the error. -/
def vmwSurfaceHandleReference (s : State) (file : DrmFile) (req : SurfaceArg) (k : ReferenceSteps) :
    Int × Option ObjId × Table :=
  let tfile := file.tfile
  let r :=
    if req.prime then ttmPrimeFdToHandle s.table tfile k.surfaceAlloc.1 (s.fd req.sid)
    else if file.minor = .render then (-EACCES, 0, s.table)
    else (0, req.sid, s.table)
  if r.1 ≠ 0 then (r.1, none, r.2.2)
  else
    match ttmBaseObjectLookupForRef r.2.2 r.2.1 with
    | none => (-EINVAL, none, outNoLookup r.2.2 tfile req.prime r.2.1)
    | some (base, t) =>
      if ttmBaseObjectType (t.obj base) ≠ VMW_RES_SURFACE then
        (-EINVAL, none, outNoLookup (ttmBaseObjectUnref t base) tfile req.prime r.2.1)
      else if req.prime then (0, some base, t)
      else if file.minor = .legacy ∧ (s.srf base).master ≠ file.master then
        (-EACCES, none, ttmBaseObjectUnref t base)
      else
        let p := ttmRefObjectAdd t tfile base k.surfaceAlloc.1
        if p.1 ≠ 0 then (p.1, none, ttmBaseObjectUnref p.2 base) else (0, some base, p.2)

/-- `vmw_user_dmabuf_reference`. -/
def vmwUserDmabufReference (t : Table) (tfile : TFile) (alloc : Int) : Backup → Int × Handle × Table
  | .kernel _ => (-EINVAL, 0, t)
  | .user base =>
    let r := ttmRefObjectAdd t tfile base alloc
    (r.1, (t.obj base).key, r.2)

def vmwGbSurfaceReferenceIoctl (s : State) (file : DrmFile) (req : SurfaceArg) (k : ReferenceSteps) : Result RefRep :=
  match vmwSurfaceHandleReference s file req k with
  | (ret, none, t) => ⟨ret, none, { s with table := t }⟩
  | (ret, some base, t) =>
    let srf := s.srf base
    match srf.backup with
    -- `ret` is that of `vmw_surface_handle_reference`
    | none => ⟨ret, none, { s with table := ttmBaseObjectUnref t base }⟩
    | some backup =>
      let r := vmwUserDmabufReference t file.tfile k.bufferAlloc.1 backup
      if r.1 ≠ 0 then
        ⟨r.1, none, { s with
          table := ttmBaseObjectUnref (ttmRefObjectBaseUnref r.2.2 file.tfile (t.obj base).key).2 base }⟩
      else
        let creq : CreateReq :=
          { svga3dFlags := srf.flags
            format := srf.format
            mipLevels := srf.mipLevels
            drmSurfaceFlags := 0
            multisampleCount := srf.multisampleCount
            autogenFilter := srf.autogenFilter
            bufferHandle := r.2.1
            baseSize := srf.baseSize }
        let s := { s with table := r.2.2 }
        ⟨0, some ⟨creq, replyOf s base r.2.1⟩, { s with table := ttmBaseObjectUnref r.2.2 base }⟩

end Reference

/-- The handle in a reply is that of the backup, and `SVGA3D_INVALID_ID` where there is none. -/
def HandleTrue (t : Table) (tfile : TFile) (handle : Handle) : Option Backup → Prop
  | none => handle = SVGA3D_INVALID_ID
  | some (.user base) => Resolves t tfile handle base
  | some (.kernel _) => False

/-- A reply is about a registered surface and true of its backup, and the caller has the references
that it grants; an error leaves the caller's references. -/
structure Truthful (s : State) (tfile : TFile) (granted : CreateRep → List Handle) (r : Result CreateRep) : Prop where
  success : r.ret = 0 → ∃ rep, r.rep = some rep ∧
    (∃ srf, r.state.table.objectHash rep.handle = some srf ∧
      HandleTrue r.state.table tfile rep.bufferHandle (r.state.srf srf).backup) ∧
    r.state.table.held tfile = (granted rep).foldl grant (s.table.held tfile)
  failure : r.ret ≠ 0 → r.ret < 0 ∧ r.state.table.refHash tfile = s.table.refHash tfile

inductive Call
  | define (req : CreateReq) (k : DefineSteps)
  | reference (req : SurfaceArg) (k : ReferenceSteps)

/-- A buffer that the request names was the caller's before, and one that is made is granted. -/
def CreateReq.granted (req : CreateReq) (rep : CreateRep) : List Handle :=
  if req.bufferHandle = SVGA3D_INVALID_ID ∧ req.createBuffer then [rep.bufferHandle, rep.handle] else [rep.handle]

def Result.crep (r : Result RefRep) : Result CreateRep := ⟨r.ret, r.rep.map RefRep.crep, r.state⟩

def Call.Answered (descs : Nat → Option Svga3dSurfaceDesc) (s : State) (file : DrmFile) : Call → Prop
  | .define req k => Truthful s file.tfile req.granted (vmwGbSurfaceDefineIoctl descs s file req k)
  | .reference req k =>
    Truthful s file.tfile (fun rep => [rep.handle, rep.bufferHandle]) (vmwGbSurfaceReferenceIoctl s file req k).crep

/-- The tables are consistent, a backup is a buffer, and a dma-buf is of a registered object. -/
structure State.Consistent (s : State) : Prop where
  table : s.table.Consistent
  backup : ∀ base b, (s.srf base).backup = some (.user b) → ttmBaseObjectType (s.table.obj b) = .bufferType
  exported : ∀ n base, s.fd n = .exported base → s.table.objectHash (s.table.obj base).key = some base

/-- The new objects are not registered, and their handles not in use. -/
structure DefineSteps.Fresh (k : DefineSteps) (t : Table) : Prop where
  apart : k.srf.base ≠ k.buf.base
  keys : k.srf.key ≠ k.buf.key
  srf : ∀ key, t.objectHash key ≠ some k.srf.base
  srfKey : t.objectHash k.srf.key = none
  bufKey : t.objectHash k.buf.key = none

def Call.Fresh (s : State) : Call → Prop
  | .define _ k => k.Fresh s.table
  | .reference _ _ => True

def BaseInit.Works (b : BaseInit) : Prop := b.hashInsert.1 = 0 ∧ b.refAlloc.1 = 0

/-- The define ioctl gets to the backup of the surface. -/
structure Begins (descs : Nat → Option Svga3dSurfaceDesc) (req : CreateReq) (k : DefineSteps) : Prop where
  desc : descs req.format ≠ none
  readLock : k.readLock.1 = 0
  memGlobalAlloc : k.memGlobalAlloc.1 = 0
  kzalloc : k.kzalloc = true
  surfaceInit : k.surfaceInit.1 = 0

/-- The handle is one of the caller's and that of a buffer. -/
def NamesBuffer (t : Table) (tfile : TFile) (handle : Handle) : Prop :=
  ∃ ref, t.refHash tfile handle = some ref ∧ ttmBaseObjectType (t.obj ref.obj) = .bufferType

/-- Where the request names a buffer the stack happens to have its handle, and where a buffer was
made the surface is registered too. -/
structure DefineFine (descs : Nat → Option Svga3dSurfaceDesc) (s : State) (tfile : TFile) (req : CreateReq)
    (k : DefineSteps) : Prop where
  named : Begins descs req k → req.bufferHandle ≠ SVGA3D_INVALID_ID → NamesBuffer s.table tfile req.bufferHandle →
    k.srf.Works → k.backupHandle = req.bufferHandle
  made : Begins descs req k → req.bufferHandle = SVGA3D_INVALID_ID → req.createBuffer = true → k.bufKzalloc = true →
    k.dmabufInit.1 = 0 → k.buf.Works → k.srf.Works

/-- The surface a request is about, where the caller may reference it. -/
structure Reaches (s : State) (file : DrmFile) (req : SurfaceArg) (k : ReferenceSteps) (base : ObjId) : Prop where
  named : if req.prime then s.fd req.sid = .exported base else s.table.objectHash req.sid = some base
  allowed : req.prime = false → file.minor ≠ .render ∧ (file.minor = .legacy → (s.srf base).master = file.master)
  surface : ttmBaseObjectType (s.table.obj base) = VMW_RES_SURFACE
  may : MayAdd s.table file.tfile base k.surfaceAlloc.1

/-- The surface has a backup; and where that is a buffer of user space that the caller may
reference, its handle is not the number of something else. -/
def ReferenceFine (s : State) (file : DrmFile) (req : SurfaceArg) (k : ReferenceSteps) : Prop :=
  ∀ base, Reaches s file req k base → (s.srf base).backup ≠ none ∧
    ∀ b, (s.srf base).backup = some (.user b) →
      (s.table.obj b).tfile = file.tfile ∨ (s.table.obj b).shareable = true →
      (s.table.obj b).key ≠ (s.table.obj base).key ∧
        ∀ ref, s.table.refHash file.tfile (s.table.obj b).key = some ref → ref.obj = b

def Call.Fine (descs : Nat → Option Svga3dSurfaceDesc) (s : State) (file : DrmFile) : Call → Prop
  | .define req k => DefineFine descs s file.tfile req k
  | .reference req k => ReferenceFine s file req k

end Vmwgfx.GbSurface
