import Vmwgfx.Object.Account

/-! The paths that create objects for clients, each step of which may fail, and
whether charge and memory are balanced after them. -/

namespace Vmwgfx.Account

def EFAULT : Int := 14

/-- `vmw_resource_init`: the first reference, and the id unless it is delayed. -/
def vmwResourceInit (s : State) (res : ObjId) (delayId : Bool) (allocId : Int) : Int × State :=
  (if delayId then 0 else allocId, setRefs s res 1)

@[simp] theorem vmwResourceInit_delayed (s : State) (res : ObjId) (allocId : Int) :
    vmwResourceInit s res true allocId = (0, setRefs s res 1) := rfl

@[simp] theorem vmwResourceInit_now (s : State) (res : ObjId) (allocId : Int) :
    vmwResourceInit s res false allocId = (allocId, setRefs s res 1) := rfl

/-- The end of the creation of a resource: a reference for the base object, its
registration, and the release of the creator's reference. -/
def publish (sz : Sizes) (b : BaseInit) (s : State) (res : ObjId) : Int × State :=
  let r := ttmBaseObjectInit sz b (reference s res) res
  let s := if r.1 ≠ 0 then vmwResourceUnreference sz r.2 res else r.2
  (r.1, vmwResourceUnreference sz s res)

/-- What the steps of `vmw_context_define_ioctl` return. -/
structure ContextSteps where
  readLock : Int
  memAlloc : Int
  kzalloc : Bool
  hasMob : Bool
  resMan : Int
  allocId : Int
  idTooBig : Bool
  fifo : Bool
  base : BaseInit

def vmwGbContextInit (sz : Sizes) (c : ContextSteps) (s : State) (res : ObjId) : Int × State :=
  let r := vmwResourceInit s res true c.allocId
  if r.1 ≠ 0 then (r.1, destroy sz r.2 res)
  else if c.resMan ≠ 0 then (c.resMan, destroy sz r.2 res)
  else r

def vmwContextInit (sz : Sizes) (c : ContextSteps) (s : State) (res : ObjId) : Int × State :=
  if c.hasMob then vmwGbContextInit sz c s res
  else
    let r := vmwResourceInit s res false c.allocId
    if r.1 ≠ 0 then (r.1, destroy sz r.2 res)
    else if c.idTooBig then (-ENOMEM, vmwResourceUnreference sz r.2 res)
    else if c.fifo = false then (-ENOMEM, vmwResourceUnreference sz r.2 res)
    else r

def vmwContextDefineIoctl (sz : Sizes) (c : ContextSteps) (s : State) : Int × State :=
  if c.readLock ≠ 0 then (c.readLock, s)
  else if c.memAlloc ≠ 0 then (c.memAlloc, s)
  else
    let s := ttmMemGlobalAlloc s sz.userContext
    if c.kzalloc = false then (-ENOMEM, ttmMemGlobalFree s sz.userContext)
    else
      let ctx := s.next
      let r := vmwContextInit sz c (s.kzalloc .userContext) ctx
      if r.1 ≠ 0 then r else publish sz c.base r.2 ctx

/-- What the steps of `vmw_stream_claim_ioctl` return. -/
structure StreamSteps where
  readLock : Int
  memAlloc : Int
  kmalloc : Bool
  allocId : Int
  overlayClaim : Int
  base : BaseInit

def vmwStreamInit (sz : Sizes) (c : StreamSteps) (s : State) (res : ObjId) : Int × State :=
  let r := vmwResourceInit s res false c.allocId
  if r.1 ≠ 0 then (r.1, destroy sz r.2 res)
  else if c.overlayClaim ≠ 0 then (c.overlayClaim, vmwResourceUnreference sz r.2 res)
  else r

def vmwStreamClaimIoctl (sz : Sizes) (c : StreamSteps) (s : State) : Int × State :=
  if c.readLock ≠ 0 then (c.readLock, s)
  else if c.memAlloc ≠ 0 then (c.memAlloc, s)
  else
    let s := ttmMemGlobalAlloc s sz.userStream
    if c.kmalloc = false then (-ENOMEM, ttmMemGlobalFree s sz.userStream)
    else
      let stream := s.next
      let r := vmwStreamInit sz c (s.kzalloc .userStream) stream
      if r.1 ≠ 0 then r else publish sz c.base r.2 stream

/-- `vmw_gb_shader_init`; the byte code may come in a buffer. -/
def vmwGbShaderInit (sz : Sizes) (byteCode : Option ObjId) (s : State) (res : ObjId) : Int × State :=
  let r := vmwResourceInit s res true 0
  if r.1 ≠ 0 then (r.1, destroy sz r.2 res)
  else
    match byteCode with
    | none => r
    | some b => (0, (reference r.2 b).modify res fun x => { x with backup := some b })

/-- What the steps of `vmw_user_shader_alloc` and `vmw_shader_alloc` return. -/
structure ShaderSteps where
  buffer : Option ObjId
  memAlloc : Int
  kzalloc : Bool
  base : BaseInit

def vmwUserShaderAlloc (sz : Sizes) (c : ShaderSteps) (s : State) : Int × State :=
  if c.memAlloc ≠ 0 then (c.memAlloc, s)
  else
    let s := ttmMemGlobalAlloc s sz.userShader
    if c.kzalloc = false then (-ENOMEM, ttmMemGlobalFree s sz.userShader)
    else
      let ushader := s.next
      let r := vmwGbShaderInit sz c.buffer (s.kzalloc .userShader) ushader
      if r.1 ≠ 0 then r else publish sz c.base r.2 ushader

def vmwShaderAlloc (sz : Sizes) (c : ShaderSteps) (s : State) : Int × State :=
  if c.memAlloc ≠ 0 then (c.memAlloc, s)
  else
    let s := ttmMemGlobalAlloc s sz.shader
    if c.kzalloc = false then (-ENOMEM, ttmMemGlobalFree s sz.shader)
    else vmwGbShaderInit sz c.buffer (s.kzalloc .shader) s.next

/-- What the steps of `vmw_user_fence_create` return. -/
structure FenceSteps where
  memAlloc : Int
  kzalloc : Bool
  fenceInit : Int
  base : BaseInit

def vmwUserFenceCreate (sz : Sizes) (c : FenceSteps) (s : State) : Int × State :=
  if c.memAlloc ≠ 0 then (c.memAlloc, s)
  else
    let s := ttmMemGlobalAlloc s sz.userFence
    if c.kzalloc = false then (-ENOMEM, ttmMemGlobalFree s sz.userFence)
    else
      let ufence := s.next
      let s := setRefs (s.kzalloc .userFence) ufence 1
      if c.fenceInit ≠ 0 then (c.fenceInit, ttmMemGlobalFree (kfree s ufence) sz.userFence)
      else
        let r := ttmBaseObjectInit sz c.base (reference s ufence) ufence
        if r.1 ≠ 0 then
          -- the base object's reference, then `out_err`, which falls through to `out_no_object`
          let s := unreference sz (unreference sz r.2 ufence) ufence
          (r.1, ttmMemGlobalFree s sz.userFence)
        else (0, r.2)

/-- What the steps of `vmw_user_dmabuf_alloc` return. -/
structure DmabufSteps where
  kzalloc : Bool
  memAlloc : Int
  checkPlacement : Int
  setupVm : Int
  validate : Int
  base : BaseInit

/-- `ttm_bo_init`, which destroys the buffer when it fails. -/
def ttmBoInit (sz : Sizes) (c : DmabufSteps) (size : Nat) (s : State) (bo : ObjId) : Int × State :=
  if pageAlign size / PAGE_SIZE = 0 then (-EINVAL, destroy sz s bo)
  else
    let s := setRefs s bo 1
    if c.checkPlacement ≠ 0 then (c.checkPlacement, unreference sz s bo)
    else if c.setupVm ≠ 0 then (c.setupVm, unreference sz s bo)
    else if c.validate ≠ 0 then (c.validate, unreference sz s bo)
    else (0, s)

def vmwDmabufInit (sz : Sizes) (c : DmabufSteps) (size : Nat) (s : State) (bo : ObjId) : Int × State :=
  let accSize := vmwDmabufAccSize sz size
  if c.memAlloc ≠ 0 then (c.memAlloc, destroy sz s bo)
  else ttmBoInit sz c size ((ttmMemGlobalAlloc s accSize).modify bo fun x => { x with acc := accSize }) bo

def vmwUserDmabufAlloc (sz : Sizes) (c : DmabufSteps) (size : Nat) (s : State) : Int × State :=
  if c.kzalloc = false then (-ENOMEM, s)
  else
    let userBo := s.next
    let r := vmwDmabufInit sz c size (s.kzalloc .userDmaBuffer) userBo
    if r.1 ≠ 0 then r
    else
      let p := ttmBaseObjectInit sz c.base (reference r.2 userBo) userBo
      -- only the base object's reference is dropped
      if p.1 ≠ 0 then (p.1, unreference sz p.2 userBo) else (0, p.2)

/-- The request and what the steps of `vmw_surface_define_ioctl` return.
`mipLevels` has one entry for each face; `cursor` tells that the surface is one
image of a cursor's size and format, `backupSize` is the size the loop over the
images adds up. -/
structure SurfaceSteps where
  mipLevels : List (BitVec 32)
  formatOk : Bool
  readLock : Int
  memAlloc : Int
  kzalloc : Bool
  sizes : Bool
  offsets : Bool
  copyFromUser : Bool
  cursor : Bool
  snooper : Bool
  hasMob : Bool
  shareable : Bool
  backupSize : Nat
  backup : DmabufSteps
  base : BaseInit

namespace SurfaceSteps

def numSizes (c : SurfaceSteps) : BitVec 32 := c.mipLevels.foldl (· + ·) 0

/-- The images the loop over faces and levels goes through. -/
def images (c : SurfaceSteps) : Nat := (c.mipLevels.map BitVec.toNat).sum

/-- The accounting size of the surface, an `uint32_t`. -/
def size (sz : Sizes) (c : SurfaceSteps) : Nat :=
  (sz.userSurface + 128 + ttmRoundPot (c.numSizes.toNat * 16) + ttmRoundPot (c.numSizes.toNat * 12)) % 2 ^ 32

/-- The first size is read from an empty array, an offset is written to an array
that could not be allocated, or the loop leaves the arrays. -/
def faults (c : SurfaceSteps) : Bool :=
  c.numSizes = 0 || !c.offsets || c.images ≠ c.numSizes.toNat

end SurfaceSteps

def DRM_VMW_MAX_SURFACE_FACES : Nat := 6
def DRM_VMW_MAX_MIP_LEVELS : Nat := 24

/-- The backup buffer a shared guest-backed surface gets at once. -/
def surfaceBackup (sz : Sizes) (c : SurfaceSteps) (s : State) (res : ObjId) : Int × State :=
  if c.hasMob ∧ c.shareable then
    let b := s.next
    let r := vmwUserDmabufAlloc sz c.backup c.backupSize s
    if r.1 ≠ 0 then r else (0, r.2.modify res fun x => { x with backup := some b })
  else (0, s)

/-- The ioctl after the initialisation of the surface. -/
def surfaceFinish (sz : Sizes) (c : SurfaceSteps) (s : State) (srf : ObjId) : Int × State :=
  let p := surfaceBackup sz c s srf
  if p.1 ≠ 0 then (p.1, vmwResourceUnreference sz p.2 srf) else publish sz c.base p.2 srf

/-- The ioctl from the allocation of the arrays on. The result is `none` where the
kernel faults. -/
def surfaceDefineArrays (sz : Sizes) (c : SurfaceSteps) (s : State) (srf : ObjId) : Option (Int × State) :=
  let outNoCopy := ttmMemGlobalFree (kfree s srf) (c.size sz)
  if c.sizes = false then some (-ENOMEM, outNoCopy)
  -- the allocation of the offsets is not checked: the test is of the sizes again
  else if c.copyFromUser = false then some (-EFAULT, outNoCopy)
  else if c.faults then none
  else if c.cursor ∧ c.snooper = false then some (-ENOMEM, outNoCopy)
  else
    let r := vmwResourceInit s srf true 0
    some (if r.1 ≠ 0 then (r.1, destroy sz r.2 srf) else surfaceFinish sz c r.2 srf)

def vmwSurfaceDefineIoctl (sz : Sizes) (c : SurfaceSteps) (s : State) : Option (Int × State) :=
  if DRM_VMW_MAX_SURFACE_FACES * DRM_VMW_MAX_MIP_LEVELS < c.numSizes.toNat then some (-EINVAL, s)
  else if c.formatOk = false then some (-EINVAL, s)
  else if c.readLock ≠ 0 then some (c.readLock, s)
  else if c.memAlloc ≠ 0 then some (c.memAlloc, s)
  else
    let size := c.size sz
    let s := ttmMemGlobalAlloc s size
    if c.kzalloc = false then some (-ENOMEM, ttmMemGlobalFree s size)
    else
      let srf := s.next
      surfaceDefineArrays sz c ((s.kzalloc .userSurface).modify srf fun x => { x with acc := size }) srf

inductive Creation
  | contextDefine (c : ContextSteps)
  | streamClaim (c : StreamSteps)
  | userShaderAlloc (c : ShaderSteps)
  | shaderAlloc (c : ShaderSteps)
  | userFenceCreate (c : FenceSteps)
  | userDmabufAlloc (c : DmabufSteps) (size : Nat)
  | surfaceDefine (c : SurfaceSteps)

def Creation.run (sz : Sizes) (s : State) : Creation → Option (Int × State)
  | contextDefine c => some (vmwContextDefineIoctl sz c s)
  | streamClaim c => some (vmwStreamClaimIoctl sz c s)
  | userShaderAlloc c => some (vmwUserShaderAlloc sz c s)
  | shaderAlloc c => some (vmwShaderAlloc sz c s)
  | userFenceCreate c => some (vmwUserFenceCreate sz c s)
  | userDmabufAlloc c size => some (vmwUserDmabufAlloc sz c size s)
  | surfaceDefine c => vmwSurfaceDefineIoctl sz c s

/-- The objects a call made. -/
def created (s s' : State) : List ObjId := List.range' s.next (s'.next - s.next)

/-- What the destructor of an object and the release of its handles return. -/
def State.charge (sz : Sizes) (s : State) (o : ObjId) : Int :=
  sz.destructor (s.obj o) + sz.refObject * (s.obj o).handles

/-- A failed call returned its charge and freed once what it made. -/
structure Returned (s s' : State) : Prop where
  used : s'.used = s.used
  old : ∀ o < s.next, s'.obj o = s.obj o
  freed : ∀ o ∈ created s s', (s'.obj o).freed = 1

/-- After a successful call what it made is alive and its charge remains. -/
structure Remains (sz : Sizes) (s s' : State) : Prop where
  made : s.next < s'.next
  live : ∀ o ∈ created s s', (s'.obj o).freed = 0
  used : s'.used = s.used + ((created s s').map (s'.charge sz)).sum

def Balanced (sz : Sizes) (s : State) : Option (Int × State) → Prop
  | none => False
  | some (ret, s') => (ret ≠ 0 → Returned s s') ∧ (ret = 0 → Remains sz s s')

/-- The state after a call made one object and charged `d`. -/
def State.made (s : State) (d : Int) (x : Obj) : State :=
  { used := s.used + d, obj := Function.update s.obj s.next x, next := s.next + 1 }

section Made

variable {s : State} {d : Int} {x : Obj} {sz : Sizes} {o : ObjId}

theorem kzalloc_eq_made (s : State) (n : Nat) (kind : Kind) :
    (ttmMemGlobalAlloc s n).kzalloc kind = s.made n ⟨kind, 0, 0, 0, none, 0⟩ := rfl

theorem kzalloc_eq_made_zero (s : State) (kind : Kind) : s.kzalloc kind = s.made 0 ⟨kind, 0, 0, 0, none, 0⟩ := by
  simp [State.kzalloc, State.made]

@[simp] theorem made_next : (s.made d x).next = s.next + 1 := rfl

@[simp] theorem made_obj_self : (s.made d x).obj s.next = x := by
  simp [State.made]

theorem made_obj_of_lt (h : o < s.next) : (s.made d x).obj o = s.obj o := by
  simp [State.made, Nat.ne_of_lt h]

@[simp] theorem made_modify_self (f : Obj → Obj) : (s.made d x).modify s.next f = s.made d (f x) := by
  simp [State.made, State.modify]

theorem made_modify_of_lt (f : Obj → Obj) (h : o < s.next) :
    (s.made d x).modify o f = (s.modify o f).made d x := by
  simp only [State.made, State.modify, State.mk.injEq, true_and, and_true]
  rw [Function.update_comm (Nat.ne_of_lt h).symm, Function.update_of_ne (Nat.ne_of_lt h)]

@[simp] theorem ttmMemGlobalFree_made (n : Nat) : ttmMemGlobalFree (s.made d x) n = s.made (d - n) x := by
  simp [ttmMemGlobalFree, State.made, Int.add_sub_assoc]

@[simp] theorem ttmMemGlobalAlloc_made (n : Nat) : ttmMemGlobalAlloc (s.made d x) n = s.made (d + n) x := by
  simp [ttmMemGlobalAlloc, State.made, Int.add_assoc]

@[simp] theorem setRefs_made (n : Nat) : setRefs (s.made d x) s.next n = s.made d { x with refs := n } := by
  simp [setRefs]

@[simp] theorem kfree_made : kfree (s.made d x) s.next = s.made d { x with freed := x.freed + 1 } := by
  simp [kfree]

@[simp] theorem destroy_made :
    destroy sz (s.made d x) s.next = s.made (d - sz.destructor x) { x with freed := x.freed + 1 } := by
  simp [destroy]

@[simp] theorem addHandle_made :
    (s.made d x).addHandle sz s.next = s.made (d + sz.refObject) { x with handles := x.handles + 1 } := by
  simp [State.addHandle]

theorem unreference_made (h : x.refs = 1) :
    unreference sz (s.made d x) s.next = s.made (d - sz.destructor x) { x with refs := 0, freed := x.freed + 1 } := by
  simp [unreference, h, Sizes.destructor]

theorem vmwResourceUnreference_made (sz : Sizes) (h : x.refs = 1) (hback : x.backup = none) :
    vmwResourceUnreference sz (s.made d x) s.next =
      s.made (d - sz.destructor x) { x with refs := 0, freed := x.freed + 1 } := by
  simp [vmwResourceUnreference, releaseBackup, h, hback, Sizes.destructor]

theorem setRefs_reference : setRefs (reference s o) o (s.obj o).refs = s := by
  rw [reference, setRefs, setRefs, State.modify_modify]
  exact State.modify_self s o

@[simp] theorem reference_refs : ((reference s o).obj o).refs = (s.obj o).refs + 1 := by
  simp [reference, setRefs]

/-- Dropping a reference that was just taken changes nothing. -/
theorem vmwResourceUnreference_reference (h : (s.obj o).refs ≠ 0) :
    vmwResourceUnreference sz (reference s o) o = s := by
  simp [vmwResourceUnreference, h, setRefs_reference]

theorem unreference_reference (h : (s.obj o).refs ≠ 0) : unreference sz (reference s o) o = s := by
  simp [unreference, h, setRefs_reference]

/-- A resource ends with a handle, or with the creator's reference dropped. -/
theorem publish_eq (b : BaseInit) (h : (s.obj o).refs ≠ 0) :
    publish sz b s o = (b.ret, if b.ret = 0 then s.addHandle sz o else vmwResourceUnreference sz s o) := by
  unfold publish
  rw [ttmBaseObjectInit_eq]
  by_cases hret : b.ret = 0
  · have hcomm : (reference s o).addHandle sz o = reference (s.addHandle sz o) o := by
      simp [State.addHandle, reference, setRefs, ttmMemGlobalAlloc, State.modify]
    have href : ((s.addHandle sz o).obj o).refs ≠ 0 := by simpa [State.addHandle, ttmMemGlobalAlloc] using h
    simp [hret, hcomm, vmwResourceUnreference_reference href]
  · simp [hret, vmwResourceUnreference_reference h]

theorem created_self : created s s = [] := by simp [created]
theorem created_made : created s (s.made d x) = [s.next] := by simp [created]

theorem Returned.refl (s : State) : Returned s s := ⟨rfl, fun _ _ => rfl, by simp [created_self]⟩

theorem returned_made_iff : Returned s (s.made d x) ↔ d = 0 ∧ x.freed = 1 := by
  constructor
  · intro h
    have hused : s.used + d = s.used := h.used
    have hfreed := h.freed s.next (by simp [created_made])
    rw [made_obj_self] at hfreed
    exact ⟨by omega, hfreed⟩
  · rintro ⟨rfl, hfreed⟩
    refine ⟨Int.add_zero _, fun o ho => made_obj_of_lt ho, fun o ho => ?_⟩
    rw [created_made] at ho
    cases List.mem_singleton.mp ho
    rw [made_obj_self]
    exact hfreed

/-- One new object; the old ones may have been referenced. -/
theorem remains_made {t : State} (hnext : t.next = s.next) (hused : t.used = s.used) (hfreed : x.freed = 0)
    (hd : d = sz.destructor x + sz.refObject * x.handles) : Remains sz s (t.made d x) where
  made := by simp [hnext]
  live o ho := by
    rw [created, ← hnext, ← created, created_made] at ho
    cases List.mem_singleton.mp ho
    rw [made_obj_self]
    exact hfreed
  used := by
    rw [created, ← hnext, ← created, created_made, ← hused]
    simp only [List.map_cons, List.map_nil, List.sum_cons, List.sum_nil, State.charge, made_obj_self, Int.add_zero]
    exact congrArg (t.used + ·) hd

theorem Balanced.failed {ret : Int} {s' : State} (hret : ret ≠ 0) (h : Returned s s') : Balanced sz s (some (ret, s')) :=
  ⟨fun _ => h, fun hzero => absurd hzero hret⟩

theorem Balanced.ok {s' : State} (h : Remains sz s s') : Balanced sz s (some (0, s')) :=
  ⟨fun hne => absurd rfl hne, fun _ => h⟩

theorem Balanced.publish_made {b : BaseInit} (href : x.refs = 1) (hback : x.backup = none) (hfreed : x.freed = 0)
    (hhandles : x.handles = 0) (hd : d = sz.destructor x) :
    Balanced sz s (some (publish sz b (s.made d x) s.next)) := by
  rw [publish_eq b (by simp [href])]
  by_cases hret : b.ret = 0
  · rw [hret, if_pos rfl, addHandle_made]
    refine .ok (remains_made rfl rfl hfreed ?_)
    simp [hd, hhandles, Sizes.destructor]
  · rw [if_neg hret, vmwResourceUnreference_made sz href hback]
    exact .failed hret (returned_made_iff.mpr ⟨by omega, by simp [hfreed]⟩)

end Made

section Paths

variable {s : State} {sz : Sizes} {d : Int}

theorem Balanced.nothing {ret : Int} (hret : ret ≠ 0) : Balanced sz s (some (ret, s)) := .failed hret (.refl s)

theorem enomem_ne : -ENOMEM ≠ 0 := by decide

/-- A resource's init either gives a resource with one reference or has
destroyed it. -/
def Initialised (s : State) (d : Int) (kind : Kind) (r : Int × State) : Prop :=
  r = (0, s.made d ⟨kind, 1, 0, 0, none, 0⟩) ∨ (r.1 ≠ 0 ∧ Returned s r.2)

theorem Initialised.publish {kind : Kind} {d : Int} {r : Int × State} {b : BaseInit} (h : Initialised s d kind r)
    (hd : d = sz.destructor ⟨kind, 1, 0, 0, none, 0⟩) :
    Balanced sz s (some (if r.1 ≠ 0 then r else publish sz b r.2 s.next)) := by
  rcases h with rfl | ⟨hret, hreturned⟩
  · exact .publish_made rfl rfl rfl rfl hd
  · rw [if_pos hret]
    exact .failed hret hreturned

/-- The first reference was set and the object was destroyed, directly or by
dropping it. -/
theorem Initialised.destroyed {kind : Kind} {n ret : Int} {x : Obj} (hret : ret ≠ 0) (hn : n = 0) (hx : x.freed = 1) :
    Initialised s d kind (ret, s.made n x) :=
  .inr ⟨hret, returned_made_iff.mpr ⟨hn, hx⟩⟩

theorem vmwContextInit_initialised (c : ContextSteps) :
    Initialised s sz.userContext .userContext
      (vmwContextInit sz c (s.made sz.userContext ⟨.userContext, 0, 0, 0, none, 0⟩) s.next) := by
  have hzero : (sz.userContext : Int) - sz.destructor ⟨.userContext, 1, 0, 0, none, 0⟩ = 0 := Int.sub_self _
  unfold vmwContextInit vmwGbContextInit
  simp only [vmwResourceInit_delayed, vmwResourceInit_now, setRefs_made, destroy_made]
  split
  · rw [if_neg (Decidable.not_not.mpr rfl)]
    split
    · rename_i hman
      exact .destroyed hman hzero rfl
    · exact .inl rfl
  · split
    · rename_i hid
      exact .destroyed hid hzero rfl
    · rename_i hid
      rw [vmwResourceUnreference_made sz rfl rfl]
      split
      · exact .destroyed enomem_ne hzero rfl
      · split
        · exact .destroyed enomem_ne hzero rfl
        · exact .inl (Prod.ext (Decidable.not_not.mp hid) rfl)

theorem vmwStreamInit_initialised (c : StreamSteps) :
    Initialised s sz.userStream .userStream
      (vmwStreamInit sz c (s.made sz.userStream ⟨.userStream, 0, 0, 0, none, 0⟩) s.next) := by
  have hzero : (sz.userStream : Int) - sz.destructor ⟨.userStream, 1, 0, 0, none, 0⟩ = 0 := Int.sub_self _
  unfold vmwStreamInit
  simp only [vmwResourceInit_now, setRefs_made, destroy_made]
  split
  · rename_i hid
    exact .destroyed hid hzero rfl
  · rename_i hid
    rw [vmwResourceUnreference_made sz rfl rfl]
    split
    · rename_i hclaim
      exact .destroyed hclaim hzero rfl
    · exact .inl (Prod.ext (Decidable.not_not.mp hid) rfl)

theorem contextDefine_balanced (c : ContextSteps) : Balanced sz s (some (vmwContextDefineIoctl sz c s)) := by
  unfold vmwContextDefineIoctl
  split
  · rename_i hlock
    exact .nothing hlock
  split
  · rename_i halloc
    exact .nothing halloc
  dsimp only
  split
  · rw [ttmMemGlobalFree_alloc]
    exact .nothing enomem_ne
  · rw [kzalloc_eq_made]
    exact (vmwContextInit_initialised c).publish rfl

theorem streamClaim_balanced (c : StreamSteps) : Balanced sz s (some (vmwStreamClaimIoctl sz c s)) := by
  unfold vmwStreamClaimIoctl
  split
  · rename_i hlock
    exact .nothing hlock
  split
  · rename_i halloc
    exact .nothing halloc
  dsimp only
  split
  · rw [ttmMemGlobalFree_alloc]
    exact .nothing enomem_ne
  · rw [kzalloc_eq_made]
    exact (vmwStreamInit_initialised c).publish rfl

/-- The caller holds the buffer it passes. -/
def ShaderSteps.Held (c : ShaderSteps) (s : State) : Prop :=
  ∀ b, c.buffer = some b → b < s.next ∧ (s.obj b).refs ≠ 0

theorem reference_made_of_lt {x : Obj} {b : ObjId} (hb : b < s.next) :
    reference (s.made d x) b = (reference s b).made d x := by
  rw [reference, made_obj_of_lt hb, setRefs, made_modify_of_lt _ hb]
  rfl

/-- A shader that dies gives its buffer back. -/
theorem vmwResourceUnreference_shader (sz : Sizes) {x : Obj} {b : ObjId} (hb : b < s.next) (href : (s.obj b).refs ≠ 0)
    (hx : x.refs = 1) (hback : x.backup = some b) :
    vmwResourceUnreference sz ((reference s b).made d x) s.next =
      s.made (d - sz.destructor x) { x with refs := 0, backup := none, freed := x.freed + 1 } := by
  have hnext : (reference s b).next = s.next := rfl
  have hrelease : releaseBackup sz ((reference s b).made d { x with refs := 0 }) s.next =
      s.made d { x with refs := 0, backup := none } := by
    simp only [releaseBackup, ← hnext, made_obj_self, hback, made_modify_self]
    rw [← reference_made_of_lt hb, unreference_reference]
    rw [made_obj_of_lt hb]
    exact href
  have hdead : (((reference s b).made d x).obj s.next).refs = 1 := by rw [← hnext, made_obj_self, hx]
  have hset : setRefs ((reference s b).made d x) s.next 0 = (reference s b).made d { x with refs := 0 } := by
    rw [← hnext, setRefs_made]
  rw [vmwResourceUnreference, hdead]
  simp only [hset, if_true, Nat.sub_self, hrelease, destroy_made]
  rfl

/-- The shader an init leaves, and the state it was made in. -/
theorem vmwGbShaderInit_made {c : ShaderSteps} {kind : Kind} (h : c.Held s) :
    vmwGbShaderInit sz c.buffer (s.made d ⟨kind, 0, 0, 0, none, 0⟩) s.next =
      (0, (c.buffer.elim s (reference s)).made d ⟨kind, 1, 0, 0, c.buffer, 0⟩) := by
  unfold vmwGbShaderInit
  simp only [vmwResourceInit_delayed, setRefs_made]
  cases hbuf : c.buffer with
  | none => rfl
  | some b =>
    rw [if_neg (Decidable.not_not.mpr rfl)]
    dsimp only
    rw [reference_made_of_lt (h b hbuf).1]
    exact congrArg (Prod.mk 0) (made_modify_self (s := reference s b) _)

theorem userShaderAlloc_balanced {c : ShaderSteps} (h : c.Held s) :
    Balanced sz s (some (vmwUserShaderAlloc sz c s)) := by
  unfold vmwUserShaderAlloc
  split
  · rename_i halloc
    exact .nothing halloc
  dsimp only
  split
  · rw [ttmMemGlobalFree_alloc]
    exact .nothing enomem_ne
  have hnext : (c.buffer.elim s (reference s)).next = s.next := by cases c.buffer <;> rfl
  have hused : (c.buffer.elim s (reference s)).used = s.used := by cases c.buffer <;> rfl
  have hobj := made_obj_self (s := c.buffer.elim s (reference s)) (d := sz.userShader)
    (x := ⟨.userShader, 1, 0, 0, c.buffer, 0⟩)
  rw [hnext] at hobj
  rw [kzalloc_eq_made, show (ttmMemGlobalAlloc s sz.userShader).next = s.next from rfl, vmwGbShaderInit_made h,
    if_neg (Decidable.not_not.mpr rfl), publish_eq c.base (by rw [hobj]; exact Nat.one_ne_zero)]
  by_cases hret : c.base.ret = 0
  · rw [hret, if_pos rfl, ← hnext, addHandle_made]
    exact .ok (remains_made hnext hused rfl (by simp [Sizes.destructor]))
  · rw [if_neg hret]
    refine .failed hret ?_
    cases hbuf : c.buffer with
    | none =>
      have hdead := vmwResourceUnreference_made (s := s) (d := sz.userShader)
        (x := ⟨.userShader, 1, 0, 0, none, 0⟩) sz rfl rfl
      exact hdead ▸ returned_made_iff.mpr ⟨Int.sub_self _, rfl⟩
    | some b =>
      obtain ⟨hb, href⟩ := h b hbuf
      have hdead := vmwResourceUnreference_shader (d := sz.userShader) sz
        (x := ⟨.userShader, 1, 0, 0, some b, 0⟩) hb href rfl rfl
      exact hdead ▸ returned_made_iff.mpr ⟨Int.sub_self _, rfl⟩

theorem shaderAlloc_balanced {c : ShaderSteps} (h : c.Held s) : Balanced sz s (some (vmwShaderAlloc sz c s)) := by
  unfold vmwShaderAlloc
  split
  · rename_i halloc
    exact .nothing halloc
  dsimp only
  split
  · rw [ttmMemGlobalFree_alloc]
    exact .nothing enomem_ne
  rw [kzalloc_eq_made, show (ttmMemGlobalAlloc s sz.shader).next = s.next from rfl, vmwGbShaderInit_made h]
  refine .ok (remains_made ?_ ?_ rfl (by simp [Sizes.destructor])) <;> cases c.buffer <;> rfl

/-- What creating a fence comes to, the slip included: when registering it fails
its charge is given back by the destructor and again by the error path. -/
theorem vmwUserFenceCreate_eq (c : FenceSteps) :
    vmwUserFenceCreate sz c s =
      if c.memAlloc ≠ 0 then (c.memAlloc, s)
      else if c.kzalloc = false then (-ENOMEM, s)
      else if c.fenceInit ≠ 0 then (c.fenceInit, s.made 0 ⟨.userFence, 1, 1, 0, none, 0⟩)
      else if c.base.ret ≠ 0 then (c.base.ret, s.made (-sz.userFence) ⟨.userFence, 0, 1, 0, none, 0⟩)
      else (0, s.made (sz.userFence + sz.refObject) ⟨.userFence, 2, 0, 0, none, 1⟩) := by
  unfold vmwUserFenceCreate
  simp only [kzalloc_eq_made, show (ttmMemGlobalAlloc s sz.userFence).next = s.next from rfl, ttmMemGlobalFree_alloc,
    setRefs_made, kfree_made, ttmMemGlobalFree_made, Int.sub_self, ttmBaseObjectInit_eq]
  have href : reference (s.made sz.userFence ⟨.userFence, 1, 0, 0, none, 0⟩) s.next =
      s.made sz.userFence ⟨.userFence, 2, 0, 0, none, 0⟩ := by simp [reference]
  have hdrop : unreference sz (unreference sz (s.made sz.userFence ⟨.userFence, 2, 0, 0, none, 0⟩) s.next) s.next =
      s.made 0 ⟨.userFence, 0, 1, 0, none, 0⟩ := by
    rw [← href, unreference_reference (by simp), unreference_made rfl]
    simp [Sizes.destructor]
  by_cases hret : c.base.ret = 0
  · simp [hret, href]
  · simp [hret, href, hdrop]

/-- What initialising a buffer returns. -/
def DmabufSteps.initRet (c : DmabufSteps) (size : Nat) : Int :=
  if c.memAlloc ≠ 0 then c.memAlloc
  else if pageAlign size / PAGE_SIZE = 0 then -EINVAL
  else if c.checkPlacement ≠ 0 then c.checkPlacement
  else if c.setupVm ≠ 0 then c.setupVm
  else c.validate

/-- A buffer whose initialisation failed. -/
def DmabufSteps.dead (sz : Sizes) (c : DmabufSteps) (size : Nat) : Obj :=
  ⟨.userDmaBuffer, 0, 1, if c.memAlloc ≠ 0 then 0 else vmwDmabufAccSize sz size, none, 0⟩

theorem vmwDmabufInit_eq (c : DmabufSteps) (size : Nat) :
    vmwDmabufInit sz c size (s.made 0 ⟨.userDmaBuffer, 0, 0, 0, none, 0⟩) s.next =
      (c.initRet size, if c.initRet size ≠ 0 then s.made 0 (c.dead sz size)
        else s.made (vmwDmabufAccSize sz size) ⟨.userDmaBuffer, 1, 0, vmwDmabufAccSize sz size, none, 0⟩) := by
  unfold vmwDmabufInit DmabufSteps.initRet
  by_cases halloc : c.memAlloc = 0
  · have hdrop : unreference sz (s.made (vmwDmabufAccSize sz size)
        ⟨.userDmaBuffer, 1, 0, vmwDmabufAccSize sz size, none, 0⟩) s.next = s.made 0 (c.dead sz size) := by
      rw [unreference_made rfl]
      simp [Sizes.destructor, DmabufSteps.dead, halloc]
    have hzero : s.made (vmwDmabufAccSize sz size - sz.destructor ⟨.userDmaBuffer, 0, 0, vmwDmabufAccSize sz size, none, 0⟩)
        ⟨.userDmaBuffer, 0, 1, vmwDmabufAccSize sz size, none, 0⟩ = s.made 0 (c.dead sz size) := by
      simp [Sizes.destructor, DmabufSteps.dead, halloc]
    simp only [halloc, ttmMemGlobalAlloc_made, made_modify_self, Int.zero_add, ttmBoInit, destroy_made, setRefs_made,
      hdrop, hzero]
    by_cases hpages : pageAlign size / PAGE_SIZE = 0
    · simp [hpages, EINVAL]
    · by_cases hplace : c.checkPlacement = 0
      · by_cases hvm : c.setupVm = 0
        · by_cases hval : c.validate = 0 <;> simp [hpages, hplace, hvm, hval]
        · simp [hpages, hplace, hvm]
      · simp [hpages, hplace]
  · simp [halloc, Sizes.destructor, DmabufSteps.dead]

/-- What creating a buffer comes to, the slip included: when registering it
fails one of its two references stays. -/
theorem vmwUserDmabufAlloc_eq (c : DmabufSteps) (size : Nat) :
    vmwUserDmabufAlloc sz c size s =
      if c.kzalloc = false then (-ENOMEM, s)
      else if c.initRet size ≠ 0 then (c.initRet size, s.made 0 (c.dead sz size))
      else if c.base.ret ≠ 0 then
        (c.base.ret, s.made (vmwDmabufAccSize sz size) ⟨.userDmaBuffer, 1, 0, vmwDmabufAccSize sz size, none, 0⟩)
      else
        (0, s.made (vmwDmabufAccSize sz size + sz.refObject)
          ⟨.userDmaBuffer, 2, 0, vmwDmabufAccSize sz size, none, 1⟩) := by
  unfold vmwUserDmabufAlloc
  simp only [kzalloc_eq_made_zero, vmwDmabufInit_eq, ttmBaseObjectInit_eq]
  by_cases hinit : c.initRet size = 0
  · have href : reference (s.made (vmwDmabufAccSize sz size)
        ⟨.userDmaBuffer, 1, 0, vmwDmabufAccSize sz size, none, 0⟩) s.next =
        s.made (vmwDmabufAccSize sz size) ⟨.userDmaBuffer, 2, 0, vmwDmabufAccSize sz size, none, 0⟩ := by
      simp [reference]
    have hdrop : unreference sz (s.made (vmwDmabufAccSize sz size)
        ⟨.userDmaBuffer, 2, 0, vmwDmabufAccSize sz size, none, 0⟩) s.next =
        s.made (vmwDmabufAccSize sz size) ⟨.userDmaBuffer, 1, 0, vmwDmabufAccSize sz size, none, 0⟩ := by
      rw [← href, unreference_reference (by simp)]
    by_cases hret : c.base.ret = 0
    · simp [hinit, hret, href]
    · simp [hinit, hret, href, hdrop]
  · simp [hinit]

/-- Registering the new fence fails. -/
def FenceSteps.Unregistered (c : FenceSteps) : Prop :=
  c.memAlloc = 0 ∧ c.kzalloc = true ∧ c.fenceInit = 0 ∧ c.base.ret ≠ 0

/-- Registering the new buffer fails. -/
def DmabufSteps.Unregistered (c : DmabufSteps) (size : Nat) : Prop :=
  c.kzalloc = true ∧ c.initRet size = 0 ∧ c.base.ret ≠ 0

theorem userFenceCreate_balanced_iff (c : FenceSteps) :
    Balanced sz s (some (vmwUserFenceCreate sz c s)) ↔ ¬ c.Unregistered := by
  rw [vmwUserFenceCreate_eq, FenceSteps.Unregistered]
  by_cases halloc : c.memAlloc = 0
  · cases hk : c.kzalloc with
    | false => simpa [halloc] using Balanced.nothing enomem_ne
    | true =>
      by_cases hinit : c.fenceInit = 0
      · by_cases hret : c.base.ret = 0
        · simpa [halloc, hinit, hret] using
            Balanced.ok (remains_made rfl rfl rfl (by simp [Sizes.destructor]))
        · simp only [halloc, hinit, hret, ne_eq, not_true, not_false_eq_true, if_true, if_false, and_self, iff_false,
            Bool.true_eq_false]
          intro h
          have hused := (returned_made_iff.mp (h.1 hret)).1
          have hpos := sz.userFence_pos
          omega
      · simpa [halloc, hinit] using Balanced.failed hinit (returned_made_iff.mpr ⟨rfl, rfl⟩)
  · simpa [halloc] using Balanced.nothing halloc

theorem userDmabufAlloc_balanced_iff (c : DmabufSteps) (size : Nat) :
    Balanced sz s (some (vmwUserDmabufAlloc sz c size s)) ↔ ¬ c.Unregistered size := by
  rw [vmwUserDmabufAlloc_eq, DmabufSteps.Unregistered]
  cases hk : c.kzalloc with
  | false => simpa using Balanced.nothing enomem_ne
  | true =>
    by_cases hinit : c.initRet size = 0
    · by_cases hret : c.base.ret = 0
      · simpa [hinit, hret] using Balanced.ok (remains_made rfl rfl rfl (by simp [Sizes.destructor]))
      · simp only [hinit, hret, ne_eq, not_true, not_false_eq_true, if_true, if_false, and_self, iff_false,
          Bool.true_eq_false]
        intro h
        exact absurd (returned_made_iff.mp (h.1 hret)).2 Nat.zero_ne_one
    · simpa [hinit] using Balanced.failed hinit (returned_made_iff.mpr ⟨rfl, rfl⟩)

end Paths

section Surface

variable {s t : State} {sz : Sizes} {d e : Int} {x y : Obj} {o : ObjId}

theorem setRefs_made_of_lt (n : Nat) (h : o < t.next) : setRefs (t.made e y) o n = (setRefs t o n).made e y :=
  made_modify_of_lt _ h

theorem destroy_made_of_lt (h : o < t.next) : destroy sz (t.made e y) o = (destroy sz t o).made e y := by
  unfold destroy kfree
  rw [made_obj_of_lt h, made_modify_of_lt _ h]
  simp only [ttmMemGlobalFree, State.made, State.modify_used, State.mk.injEq, and_self, and_true, State.modify_next]
  omega

theorem releaseBackup_none (h : (t.obj o).backup = none) : releaseBackup sz t o = t := by
  simp only [releaseBackup, h]

theorem releaseBackup_some {b : ObjId} (h : (t.obj o).backup = some b) :
    releaseBackup sz t o = unreference sz (t.modify o fun x => { x with backup := none }) b := by
  simp only [releaseBackup, h]

/-- An older resource without a backup dies beside a new object. -/
theorem vmwResourceUnreference_made_of_lt (h : o < t.next) (hback : (t.obj o).backup = none) :
    vmwResourceUnreference sz (t.made e y) o = (vmwResourceUnreference sz t o).made e y := by
  have hset : ((setRefs t o ((t.obj o).refs - 1)).obj o).backup = none := by simpa [setRefs] using hback
  have hset' : (((setRefs t o ((t.obj o).refs - 1)).made e y).obj o).backup = none := by
    rw [made_obj_of_lt (by exact h)]
    exact hset
  unfold vmwResourceUnreference
  simp only [made_obj_of_lt h, setRefs_made_of_lt _ h, releaseBackup_none hset, releaseBackup_none hset']
  split
  · exact destroy_made_of_lt (by exact h)
  · rfl

/-- A surface that dies drops its reference on the buffer made with it; the
buffer's handle keeps the buffer. -/
theorem vmwResourceUnreference_surface (hx : x.refs = 1) (hback : x.backup = some (s.next + 1)) (hy : y.refs = 2) :
    vmwResourceUnreference sz ((s.made d x).made e y) s.next =
      (s.made (d - sz.destructor x) { x with refs := 0, backup := none, freed := x.freed + 1 }).made e
        { y with refs := 1 } := by
  have hlt : s.next < (s.made d x).next := Nat.lt_succ_self _
  have hobj : ((s.made d x).made e y).obj s.next = x := by rw [made_obj_of_lt hlt, made_obj_self]
  have hdead : setRefs ((s.made d x).made e y) s.next 0 = (s.made d { x with refs := 0 }).made e y := by
    rw [setRefs_made_of_lt _ hlt, setRefs_made]
  have hdead_obj : ((s.made d { x with refs := 0 }).made e y).obj s.next = { x with refs := 0 } := by
    rw [made_obj_of_lt (Nat.lt_succ_self _), made_obj_self]
  have hrelease : releaseBackup sz ((s.made d { x with refs := 0 }).made e y) s.next =
      (s.made d { x with refs := 0, backup := none }).made e { y with refs := 1 } := by
    rw [releaseBackup_some (by rw [hdead_obj]; exact hback), made_modify_of_lt _ (Nat.lt_succ_self _), made_modify_self]
    have hb : (((s.made d { x with refs := 0, backup := none }).made e y).obj (s.next + 1)).refs = 2 := by
      rw [← made_next (s := s) (d := d) (x := { x with refs := 0, backup := none }), made_obj_self, hy]
    have hset : setRefs ((s.made d { x with refs := 0, backup := none }).made e y) (s.next + 1) 1 =
        (s.made d { x with refs := 0, backup := none }).made e { y with refs := 1 } := setRefs_made 1
    simp only [unreference, hb, hset, Nat.add_one_sub_one, Nat.one_ne_zero, if_false]
  unfold vmwResourceUnreference
  simp only [hobj, hx, Nat.sub_self, hdead, if_true, hrelease]
  rw [destroy_made_of_lt (Nat.lt_succ_self _), destroy_made]
  rfl

theorem created_made_made : created s ((s.made d x).made e y) = [s.next, s.next + 1] := by
  have hlen : s.next + 1 + 1 - s.next = 2 := Nat.add_sub_cancel_left s.next 2
  simp only [created, made_next, hlen]
  rfl

theorem made_made_obj : ((s.made d x).made e y).obj s.next = x ∧ ((s.made d x).made e y).obj (s.next + 1) = y := by
  constructor
  · rw [made_obj_of_lt (Nat.lt_succ_self _), made_obj_self]
  · exact made_obj_self (s := s.made d x)

theorem returned_made_made_iff :
    Returned s ((s.made d x).made e y) ↔ d + e = 0 ∧ x.freed = 1 ∧ y.freed = 1 := by
  constructor
  · intro h
    have hused : s.used + d + e = s.used := h.used
    have hx := h.freed s.next (by simp [created_made_made])
    have hy := h.freed (s.next + 1) (by simp [created_made_made])
    rw [made_made_obj.1] at hx
    rw [made_made_obj.2] at hy
    exact ⟨by omega, hx, hy⟩
  · rintro ⟨hused, hx, hy⟩
    constructor
    · show s.used + d + e = s.used
      omega
    · intro o ho
      rw [made_obj_of_lt (Nat.lt_succ_of_lt ho), made_obj_of_lt ho]
    · intro o ho
      rw [created_made_made] at ho
      rcases List.mem_cons.mp ho with rfl | ho
      · rw [made_made_obj.1, hx]
      · cases List.mem_singleton.mp ho
        rw [made_made_obj.2, hy]

theorem remains_made_made (hx : x.freed = 0) (hy : y.freed = 0)
    (hde : d + e = sz.destructor x + sz.refObject * x.handles + (sz.destructor y + sz.refObject * y.handles)) :
    Remains sz s ((s.made d x).made e y) where
  made := Nat.lt_succ_of_lt (Nat.lt_succ_self _)
  live o ho := by
    rw [created_made_made] at ho
    rcases List.mem_cons.mp ho with rfl | ho
    · rw [made_made_obj.1, hx]
    · cases List.mem_singleton.mp ho
      rw [made_made_obj.2, hy]
  used := by
    rw [created_made_made]
    simp only [List.map_cons, List.map_nil, List.sum_cons, List.sum_nil, State.charge, made_made_obj.1,
      made_made_obj.2, Int.add_zero, ← hde]
    exact Int.add_assoc s.used d e

def DmabufSteps.Registered (c : DmabufSteps) (size : Nat) : Prop :=
  c.kzalloc = true ∧ c.initRet size = 0 ∧ c.base.ret = 0

/-- The call gets to the allocation of the surface's arrays. -/
def SurfaceSteps.ReachesArrays (c : SurfaceSteps) : Prop :=
  c.numSizes.toNat ≤ DRM_VMW_MAX_SURFACE_FACES * DRM_VMW_MAX_MIP_LEVELS ∧ c.formatOk = true ∧ c.readLock = 0 ∧
    c.memAlloc = 0 ∧ c.kzalloc = true

/-- The kernel faults on the images, or a backup buffer is left behind: it could
not be registered, or the surface could not after it. -/
def SurfaceSteps.SlipsOnImages (c : SurfaceSteps) : Prop :=
  c.faults = true ∨
    ¬ (c.cursor = true ∧ c.snooper = false) ∧ (c.hasMob = true ∧ c.shareable = true) ∧
      (c.backup.Unregistered c.backupSize ∨ c.backup.Registered c.backupSize ∧ c.base.ret ≠ 0)

def SurfaceSteps.Slips (c : SurfaceSteps) : Prop :=
  c.ReachesArrays ∧ c.sizes = true ∧ c.copyFromUser = true ∧ c.SlipsOnImages

/-- The new surface, charged for, before and after its initialisation. -/
def SurfaceSteps.raw (sz : Sizes) (c : SurfaceSteps) (s : State) : State :=
  s.made (c.size sz) ⟨.userSurface, 0, 0, c.size sz, none, 0⟩

def SurfaceSteps.fresh (sz : Sizes) (c : SurfaceSteps) (s : State) : State :=
  s.made (c.size sz) ⟨.userSurface, 1, 0, c.size sz, none, 0⟩

/-- The surface dies beside a buffer that it was not given. -/
theorem fresh_unreference (c : SurfaceSteps) :
    vmwResourceUnreference sz ((c.fresh sz s).made e y) s.next =
      (s.made 0 ⟨.userSurface, 0, 1, c.size sz, none, 0⟩).made e y := by
  have hdead : vmwResourceUnreference sz (c.fresh sz s) s.next = s.made 0 ⟨.userSurface, 0, 1, c.size sz, none, 0⟩ := by
    rw [SurfaceSteps.fresh, vmwResourceUnreference_made sz rfl rfl]
    simp [Sizes.destructor]
  rw [vmwResourceUnreference_made_of_lt (Nat.lt_succ_self _), hdead]
  rw [SurfaceSteps.fresh, made_obj_self]

/-- The surface and its buffer, registered. -/
def SurfaceSteps.both (sz : Sizes) (c : SurfaceSteps) (s : State) : State :=
  (s.made (c.size sz) ⟨.userSurface, 1, 0, c.size sz, some (s.next + 1), 0⟩).made
    (vmwDmabufAccSize sz c.backupSize + sz.refObject)
    ⟨.userDmaBuffer, 2, 0, vmwDmabufAccSize sz c.backupSize, none, 1⟩

theorem surfaceBackup_eq (c : SurfaceSteps) (hwant : c.hasMob = true ∧ c.shareable = true) :
    surfaceBackup sz c (c.fresh sz s) s.next =
      if c.backup.kzalloc = false then (-ENOMEM, c.fresh sz s)
      else if c.backup.initRet c.backupSize ≠ 0 then
        (c.backup.initRet c.backupSize, (c.fresh sz s).made 0 (c.backup.dead sz c.backupSize))
      else if c.backup.base.ret ≠ 0 then
        (c.backup.base.ret, (c.fresh sz s).made (vmwDmabufAccSize sz c.backupSize)
          ⟨.userDmaBuffer, 1, 0, vmwDmabufAccSize sz c.backupSize, none, 0⟩)
      else (0, c.both sz s) := by
  have hgive : ((c.fresh sz s).made (vmwDmabufAccSize sz c.backupSize + sz.refObject)
      ⟨.userDmaBuffer, 2, 0, vmwDmabufAccSize sz c.backupSize, none, 1⟩).modify s.next
        (fun x => { x with backup := some (s.next + 1) }) = c.both sz s := by
    rw [made_modify_of_lt _ (Nat.lt_succ_self _), SurfaceSteps.fresh, made_modify_self]
    rfl
  have hnext : (c.fresh sz s).next = s.next + 1 := rfl
  have henomem : ¬ -ENOMEM = 0 := enomem_ne
  unfold surfaceBackup
  rw [if_pos hwant]
  simp only [vmwUserDmabufAlloc_eq, hnext]
  cases hk : c.backup.kzalloc with
  | false => simp only [if_true, ne_eq, henomem, not_false_eq_true]
  | true =>
    by_cases hinit : c.backup.initRet c.backupSize = 0
    · by_cases hret : c.backup.base.ret = 0
      · simp [hinit, hret, hgive]
      · simp [hinit, hret]
    · simp [hinit]

theorem publish_both_balanced_iff (c : SurfaceSteps) :
    Balanced sz s (some (publish sz c.base (c.both sz s) s.next)) ↔ c.base.ret = 0 := by
  have hobj : (c.both sz s).obj s.next = ⟨.userSurface, 1, 0, c.size sz, some (s.next + 1), 0⟩ := made_made_obj.1
  rw [publish_eq c.base (by rw [hobj]; exact Nat.one_ne_zero)]
  by_cases hret : c.base.ret = 0
  · have hhandle : (c.both sz s).addHandle sz s.next =
        (s.made (c.size sz) ⟨.userSurface, 1, 0, c.size sz, some (s.next + 1), 1⟩).made
          (vmwDmabufAccSize sz c.backupSize + sz.refObject + sz.refObject)
          ⟨.userDmaBuffer, 2, 0, vmwDmabufAccSize sz c.backupSize, none, 1⟩ := by
      rw [SurfaceSteps.both, State.addHandle, ttmMemGlobalAlloc_made, made_modify_of_lt _ (Nat.lt_succ_self _),
        made_modify_self]
    simp only [hret, if_true, iff_true, hhandle]
    refine .ok (remains_made_made rfl rfl ?_)
    simp only [Sizes.destructor, Nat.cast_one, Int.mul_one]
    omega
  · simp only [hret, if_false, iff_false]
    intro h
    have hreturned := h.1 hret
    rw [SurfaceSteps.both, vmwResourceUnreference_surface rfl rfl rfl] at hreturned
    exact absurd (returned_made_made_iff.mp hreturned).2.2 Nat.zero_ne_one

theorem surfaceFinish_balanced_iff (c : SurfaceSteps) :
    Balanced sz s (some (surfaceFinish sz c (c.fresh sz s) s.next)) ↔
      ¬ ((c.hasMob = true ∧ c.shareable = true) ∧
        (c.backup.Unregistered c.backupSize ∨ c.backup.Registered c.backupSize ∧ c.base.ret ≠ 0)) := by
  by_cases hwant : c.hasMob = true ∧ c.shareable = true
  · simp only [surfaceFinish, surfaceBackup_eq c hwant, DmabufSteps.Unregistered, DmabufSteps.Registered, hwant,
      and_self, true_and]
    cases hk : c.backup.kzalloc with
    | false =>
      have hdead : Returned s (vmwResourceUnreference sz (c.fresh sz s) s.next) := by
        rw [SurfaceSteps.fresh, vmwResourceUnreference_made sz rfl rfl]
        exact returned_made_iff.mpr ⟨Int.sub_self _, rfl⟩
      simpa [ENOMEM] using Balanced.failed enomem_ne hdead
    | true =>
      by_cases hinit : c.backup.initRet c.backupSize = 0
      · by_cases hreg : c.backup.base.ret = 0
        · simpa [hinit, hreg] using publish_both_balanced_iff (s := s) c
        · have hleft : ¬ Returned s (vmwResourceUnreference sz ((c.fresh sz s).made
              (vmwDmabufAccSize sz c.backupSize) ⟨.userDmaBuffer, 1, 0, vmwDmabufAccSize sz c.backupSize, none, 0⟩)
              s.next) := by
            rw [fresh_unreference]
            exact fun h => absurd (returned_made_made_iff.mp h).2.2 Nat.zero_ne_one
          simpa [hinit, hreg] using fun h : Balanced sz s (some (c.backup.base.ret, _)) => hleft (h.1 hreg)
      · have hdead : Returned s (vmwResourceUnreference sz ((c.fresh sz s).made 0 (c.backup.dead sz c.backupSize))
            s.next) := by
          rw [fresh_unreference]
          exact returned_made_made_iff.mpr ⟨rfl, rfl, rfl⟩
        simpa [hinit] using Balanced.failed hinit hdead
  · have hnone : surfaceBackup sz c (c.fresh sz s) s.next = (0, c.fresh sz s) := if_neg hwant
    simp only [surfaceFinish, hnone, hwant, false_and, not_false_eq_true, iff_true, ne_eq, not_true, if_false]
    exact .publish_made rfl rfl rfl rfl rfl

/-- The surface with its memory released by hand. -/
theorem outNoCopy_returned (c : SurfaceSteps) : Returned s (ttmMemGlobalFree (kfree (c.raw sz s) s.next) (c.size sz)) := by
  rw [SurfaceSteps.raw, kfree_made, ttmMemGlobalFree_made]
  exact returned_made_iff.mpr ⟨Int.sub_self _, rfl⟩

theorem surfaceDefineArrays_balanced_iff (c : SurfaceSteps) :
    Balanced sz s (surfaceDefineArrays sz c (c.raw sz s) s.next) ↔
      ¬ (c.sizes = true ∧ c.copyFromUser = true ∧ c.SlipsOnImages) := by
  have hefault : -EFAULT ≠ 0 := by decide
  have hfresh : setRefs (c.raw sz s) s.next 1 = c.fresh sz s := by
    rw [SurfaceSteps.raw, setRefs_made]
    rfl
  unfold surfaceDefineArrays SurfaceSteps.SlipsOnImages
  cases hsizes : c.sizes with
  | false => exact iff_of_true (.failed enomem_ne (outNoCopy_returned c)) fun h => Bool.false_ne_true h.1
  | true =>
    cases hcopy : c.copyFromUser with
    | false => exact iff_of_true (.failed hefault (outNoCopy_returned c)) fun h => Bool.false_ne_true h.2.1
    | true =>
      cases hfault : c.faults with
      | true => exact iff_of_false id fun h => h ⟨rfl, rfl, .inl rfl⟩
      | false =>
        by_cases hcursor : c.cursor = true ∧ c.snooper = false
        · simp only [hcursor, and_self, if_true, not_true, false_and, or_false, Bool.false_eq_true, and_false,
            not_false_eq_true, iff_true, if_false, Bool.true_eq_false]
          exact .failed enomem_ne (outNoCopy_returned c)
        · simp only [hcursor, if_false, not_false_eq_true, true_and, false_or, Bool.false_eq_true, Bool.true_eq_false,
            vmwResourceInit_delayed, hfresh, ne_eq, not_true]
          exact surfaceFinish_balanced_iff c

theorem surfaceDefine_balanced_iff (c : SurfaceSteps) :
    Balanced sz s (vmwSurfaceDefineIoctl sz c s) ↔ ¬ c.Slips := by
  have heinval : -EINVAL ≠ 0 := by decide
  unfold vmwSurfaceDefineIoctl SurfaceSteps.Slips SurfaceSteps.ReachesArrays
  split
  · rename_i hnum
    exact iff_of_true (.nothing heinval) fun h => absurd h.1.1 (Nat.not_le.mpr hnum)
  rename_i hnum
  split
  · rename_i hformat
    exact iff_of_true (.nothing heinval) fun h => Bool.false_ne_true (hformat.symm.trans h.1.2.1)
  rename_i hformat
  split
  · rename_i hlock
    exact iff_of_true (.nothing hlock) fun h => hlock h.1.2.2.1
  rename_i hlock
  split
  · rename_i halloc
    exact iff_of_true (.nothing halloc) fun h => halloc h.1.2.2.2.1
  rename_i halloc
  dsimp only
  split
  · rename_i hk
    rw [ttmMemGlobalFree_alloc]
    exact iff_of_true (.nothing enomem_ne) fun h => Bool.false_ne_true (hk.symm.trans h.1.2.2.2.2)
  rename_i hk
  rw [kzalloc_eq_made, show (ttmMemGlobalAlloc s (c.size sz)).next = s.next from rfl, made_modify_self]
  have hreach : c.ReachesArrays := ⟨Nat.not_lt.mp hnum, Bool.eq_true_of_not_eq_false hformat,
    Decidable.not_not.mp hlock, Decidable.not_not.mp halloc, Bool.eq_true_of_not_eq_false hk⟩
  refine (surfaceDefineArrays_balanced_iff c).trans (not_congr ⟨fun h => ⟨hreach, h⟩, fun h => h.2⟩)

end Surface

/-- Steps at which the charge or the memory of a creation goes astray. -/
def Creation.Slips : Creation → Prop
  | contextDefine _ | streamClaim _ | userShaderAlloc _ | shaderAlloc _ => False
  | userFenceCreate c => c.Unregistered
  | userDmabufAlloc c size => c.Unregistered size
  | surfaceDefine c => c.Slips

/-- A buffer passed by the caller is one the caller holds. -/
def Creation.Held (s : State) : Creation → Prop
  | userShaderAlloc c | shaderAlloc c => c.Held s
  | _ => True

section Runs

def someSizes : Sizes := ⟨512, 256, 512, 384, 128, 512, 512, 64, false, 64, by decide⟩

def emptyState : State := ⟨0, fun _ => ⟨.userFence, 0, 0, 0, none, 0⟩, 0⟩

end Runs

end Vmwgfx.Account
