import Vmwgfx.Kernel

/-! The sizes of framebuffers and of dumb buffers: `vmw_kms_fb_create` and `vmw_dumb_create`. -/

namespace Vmwgfx.Kms

def ENOSYS : Int := 38

def PAGE_SIZE : Nat := 4096

/-- `struct drm_mode_fb_cmd`. -/
structure DrmModeFbCmd where
  width : UInt32
  height : UInt32
  pitch : UInt32
  bpp : UInt32
  depth : UInt32
  handle : UInt32

structure VmwDmaBuffer where
  numPages : Nat
  deriving DecidableEq

def VmwDmaBuffer.bytes (bo : VmwDmaBuffer) : Nat := bo.numPages * PAGE_SIZE

/-- What a handle of the file names. -/
inductive UserObject
  | surface
  | dmabuf (bo : VmwDmaBuffer)
  | other

structure Device where
  primBbMem : UInt32
  /-- `sou_priv` is there. -/
  sou : Bool
  lookup : UInt32 → Option UserObject

structure VmwFramebufferDmabuf where
  bitsPerPixel : UInt32
  pitch : UInt32
  depth : UInt32
  width : UInt32
  height : UInt32
  /-- `pin` and `unpin` are set. -/
  pins : Bool
  buffer : VmwDmaBuffer
  userHandle : UInt32

inductive VmwFramebuffer
  | surface
  | dmabuf (fb : VmwFramebufferDmabuf)

/-- What the calls of `vmw_kms_fb_create` return. -/
structure FbOutcome where
  /-- `vmw_kms_new_framebuffer_surface`. -/
  surface : Int
  alloc : Bool
  /-- `drm_framebuffer_init`. -/
  init : Int

/-- The color depths that screen objects support. -/
def depthSupported (cmd : DrmModeFbCmd) : Bool :=
  if cmd.depth = 32 ∨ cmd.depth = 24 then cmd.bpp = 32
  else if cmd.depth = 16 ∨ cmd.depth = 15 then cmd.bpp = 16
  else false

def vmwKmsNewFramebufferDmabuf (dev : Device) (dmabuf : VmwDmaBuffer) (cmd : DrmModeFbCmd) (o : FbOutcome) :
    Except Int VmwFramebufferDmabuf :=
  let requestedSize := cmd.height * cmd.pitch
  if dmabuf.bytes < requestedSize.toNat then .error (-EINVAL)
  else if dev.sou ∧ ¬ depthSupported cmd then .error (-EINVAL)
  else if ¬ o.alloc then .error (-ENOMEM)
  else if o.init ≠ 0 then .error o.init
  else
    .ok { bitsPerPixel := cmd.bpp, pitch := cmd.pitch, depth := cmd.depth, width := cmd.width, height := cmd.height
          pins := ! dev.sou, buffer := dmabuf, userHandle := cmd.handle }

def vmwKmsFbCreate (dev : Device) (cmd : DrmModeFbCmd) (o : FbOutcome) : Except Int VmwFramebuffer :=
  let requiredSize : UInt64 := (cmd.pitch * cmd.height).toUInt64
  if dev.primBbMem.toUInt64 < requiredSize then .error (-ENOMEM)
  else
    match dev.lookup cmd.handle with
    | none | some .other => .error (-EINVAL)
    | some (.dmabuf bo) => (vmwKmsNewFramebufferDmabuf dev bo cmd o).map .dmabuf
    | some .surface => if o.surface ≠ 0 then .error o.surface else .ok .surface

/-- `drm_mode_addfb`, with the limits that `vmw_kms_init` sets. -/
def drmModeAddfb (dev : Device) (cmd : DrmModeFbCmd) (o : FbOutcome) : Except Int VmwFramebuffer :=
  if 1 > cmd.width ∨ cmd.width > 8192 then .error (-EINVAL)
  else if 1 > cmd.height ∨ cmd.height > 8192 then .error (-EINVAL)
  else vmwKmsFbCreate dev cmd o

/-- `struct drm_mode_create_dumb`. -/
structure DrmModeCreateDumb where
  height : UInt32
  width : UInt32
  bpp : UInt32
  handle : UInt32
  pitch : UInt32
  size : UInt64
  deriving DecidableEq

/-- What the calls of `vmw_dumb_create` return. -/
structure DumbOutcome where
  readLock : Int
  alloc : Bool
  memGlobal : Int
  boInit : Int
  /-- `ttm_prime_object_init`. -/
  prime : Int
  handle : UInt32

/-- `ttm_bo_init`. -/
def ttmBoInit (size : Nat) (ret : Int) : Except Int VmwDmaBuffer :=
  let numPages := (size + PAGE_SIZE - 1) / PAGE_SIZE
  if numPages = 0 then .error (-EINVAL)
  else if ret ≠ 0 then .error ret
  else .ok { numPages }

def vmwDmabufInit (size : Nat) (o : DumbOutcome) : Except Int VmwDmaBuffer :=
  if o.memGlobal ≠ 0 then .error o.memGlobal else ttmBoInit size o.boInit

def vmwUserDmabufAlloc (size : UInt32) (o : DumbOutcome) : Except Int (UInt32 × VmwDmaBuffer) :=
  if ¬ o.alloc then .error (-ENOMEM)
  else
    match vmwDmabufInit size.toNat o with
    | .error ret => .error ret
    | .ok bo => if o.prime ≠ 0 then .error o.prime else .ok (o.handle, bo)

/-- `vmw_dumb_create`, with the buffer behind the handle. -/
def vmwDumbCreate (args : DrmModeCreateDumb) (o : DumbOutcome) : Except Int (DrmModeCreateDumb × VmwDmaBuffer) :=
  let args := { args with pitch := args.width * ((args.bpp + 7) / 8) }
  let args := { args with size := (args.pitch * args.height).toUInt64 }
  if o.readLock ≠ 0 then .error o.readLock
  else
    match vmwUserDmabufAlloc args.size.toUInt32 o with
    | .error ret => .error ret
    | .ok (handle, bo) => .ok ({ args with handle }, bo)

/-- The rows of a framebuffer are in its buffer. -/
structure FbFits (dev : Device) (cmd : DrmModeFbCmd) (bo : VmwDmaBuffer) : Prop where
  primBbMem : cmd.pitch.toNat * cmd.height.toNat ≤ dev.primBbMem.toNat
  bytes : cmd.pitch.toNat * cmd.height.toNat ≤ bo.bytes
  rows : ∀ y < cmd.height.toNat, y * cmd.pitch.toNat + cmd.pitch.toNat ≤ bo.bytes

/-- The sizes of a dumb buffer are the ones asked for. -/
structure DumbFits (args args' : DrmModeCreateDumb) (bo : VmwDmaBuffer) : Prop where
  pitch : args.width.toNat * ((args.bpp.toNat + 7) / 8) ≤ args'.pitch.toNat
  size : args'.size.toNat = args'.pitch.toNat * args.height.toNat
  bytes : args'.size.toNat ≤ bo.bytes

section Fb

variable {dev : Device} {cmd : DrmModeFbCmd} {o : FbOutcome}

/-- What the checks of the sizes compare. -/
structure FbChecked (dev : Device) (cmd : DrmModeFbCmd) (bo : VmwDmaBuffer) : Prop where
  primBbMem : cmd.pitch.toNat * cmd.height.toNat % 2 ^ 32 ≤ dev.primBbMem.toNat
  bytes : cmd.pitch.toNat * cmd.height.toNat % 2 ^ 32 ≤ bo.bytes

theorem newFramebufferDmabuf_ok {bo : VmwDmaBuffer} {fb : VmwFramebufferDmabuf}
    (h : vmwKmsNewFramebufferDmabuf dev bo cmd o = .ok fb) :
    cmd.pitch.toNat * cmd.height.toNat % 2 ^ 32 ≤ bo.bytes ∧ fb.buffer = bo := by
  unfold vmwKmsNewFramebufferDmabuf at h
  dsimp only at h
  split at h
  · cases h
  · rename_i hbytes
    rw [Nat.not_lt, UInt32.toNat_mul, Nat.mul_comm] at hbytes
    split at h
    · cases h
    · split at h
      · cases h
      · split at h
        · cases h
        · cases h
          exact ⟨hbytes, rfl⟩

theorem addfb_ok {fb : VmwFramebufferDmabuf} (h : drmModeAddfb dev cmd o = .ok (.dmabuf fb)) :
    FbChecked dev cmd fb.buffer := by
  unfold drmModeAddfb at h
  split at h
  · cases h
  · split at h
    · cases h
    · unfold vmwKmsFbCreate at h
      dsimp only at h
      split at h
      · cases h
      · rename_i hmem
        rw [UInt64.not_lt, UInt64.le_iff_toNat_le, UInt32.toNat_toUInt64, UInt32.toNat_toUInt64, UInt32.toNat_mul] at hmem
        split at h
        · cases h
        · cases h
        · rename_i bo _
          cases hnew : vmwKmsNewFramebufferDmabuf dev bo cmd o with
          | error ret =>
            rw [hnew] at h
            cases h
          | ok fb' =>
            rw [hnew] at h
            cases h
            obtain ⟨hbytes, hbuffer⟩ := newFramebufferDmabuf_ok hnew
            exact ⟨hmem, hbuffer ▸ hbytes⟩
        · split at h <;> cases h

theorem fbFits_iff {bo : VmwDmaBuffer} (h : FbChecked dev cmd bo) :
    FbFits dev cmd bo ↔ cmd.pitch.toNat * cmd.height.toNat < 2 ^ 32 := by
  constructor
  · intro hfits
    exact Nat.lt_of_le_of_lt hfits.primBbMem dev.primBbMem.toNat_lt
  · intro hsmall
    obtain ⟨hmem, hbytes⟩ := h
    rw [Nat.mod_eq_of_lt hsmall] at hmem hbytes
    refine ⟨hmem, hbytes, fun y hy => ?_⟩
    calc y * cmd.pitch.toNat + cmd.pitch.toNat = (y + 1) * cmd.pitch.toNat := (Nat.succ_mul ..).symm
      _ ≤ cmd.height.toNat * cmd.pitch.toNat := Nat.mul_le_mul_right _ hy
      _ = cmd.pitch.toNat * cmd.height.toNat := Nat.mul_comm ..
      _ ≤ bo.bytes := hbytes

end Fb

section Dumb

variable {args args' : DrmModeCreateDumb} {o : DumbOutcome} {bo : VmwDmaBuffer}

/-- The bytes of `width` pixels, as the source rounds them. -/
def rowBytes (args : DrmModeCreateDumb) : Nat := args.width.toNat * ((args.bpp.toNat + 7) / 8)

structure DumbCreated (args args' : DrmModeCreateDumb) (bo : VmwDmaBuffer) : Prop where
  pitch : args'.pitch = args.width * ((args.bpp + 7) / 8)
  size : args'.size.toNat = args'.pitch.toNat * args.height.toNat % 2 ^ 32
  nonempty : args'.size.toNat ≠ 0
  bytes : args'.size.toNat ≤ bo.bytes

theorem vmwUserDmabufAlloc_ok {size : UInt32} {handle : UInt32} (h : vmwUserDmabufAlloc size o = .ok (handle, bo)) :
    size.toNat ≠ 0 ∧ size.toNat ≤ bo.bytes := by
  unfold vmwUserDmabufAlloc vmwDmabufInit ttmBoInit at h
  split at h
  · cases h
  · split at h
    · cases h
    · rename_i bo' hinit
      split at h
      · cases h
      · cases h
        split at hinit
        · cases hinit
        · dsimp only at hinit
          split at hinit
          · cases hinit
          · rename_i hpages
            split at hinit
            · cases hinit
            · cases hinit
              unfold VmwDmaBuffer.bytes
              unfold PAGE_SIZE at hpages ⊢
              dsimp only
              omega

theorem dumb_created (h : vmwDumbCreate args o = .ok (args', bo)) : DumbCreated args args' bo := by
  unfold vmwDumbCreate at h
  dsimp only at h
  split at h
  · cases h
  · split at h
    · cases h
    · rename_i handle bo' halloc
      cases h
      obtain ⟨hne, hbytes⟩ := vmwUserDmabufAlloc_ok halloc
      have hsize : ((args.width * ((args.bpp + 7) / 8) * args.height).toUInt64).toUInt32.toNat =
          ((args.width * ((args.bpp + 7) / 8) * args.height).toUInt64).toNat := by
        rw [UInt64.toNat_toUInt32, UInt32.toNat_toUInt64]
        exact Nat.mod_eq_of_lt (UInt32.toNat_lt _)
      rw [hsize] at hne hbytes
      refine ⟨rfl, ?_, hne, hbytes⟩
      dsimp only
      rw [UInt32.toNat_toUInt64, UInt32.toNat_mul]

/-- The rounding does not wrap when there is something to allocate. -/
theorem pitch_toNat (h : DumbCreated args args' bo) : args'.pitch.toNat = rowBytes args % 2 ^ 32 := by
  have hbpp := args.bpp.toNat_lt
  have hpitch := congrArg UInt32.toNat h.pitch
  rw [UInt32.toNat_mul, UInt32.toNat_div, UInt32.toNat_add] at hpitch
  by_cases hwrap : args.bpp.toNat + 7 < 2 ^ 32
  · rw [hpitch, rowBytes]
    have hsum : (args.bpp.toNat + UInt32.toNat 7) % 2 ^ 32 = args.bpp.toNat + 7 := Nat.mod_eq_of_lt hwrap
    rw [hsum]
    rfl
  · have hzero : (args.bpp.toNat + UInt32.toNat 7) % 2 ^ 32 / UInt32.toNat 8 = 0 := by
      show (args.bpp.toNat + 7) % 2 ^ 32 / 8 = 0
      omega
    rw [hzero, Nat.mul_zero, Nat.zero_mod] at hpitch
    refine absurd ?_ h.nonempty
    rw [h.size, hpitch, Nat.zero_mul, Nat.zero_mod]

theorem dumbFits_iff (h : DumbCreated args args' bo) :
    DumbFits args args' bo ↔ rowBytes args * args.height.toNat < 2 ^ 32 := by
  have hpitch := pitch_toNat h
  have hsize := h.size
  have hheight : 0 < args.height.toNat := by
    refine Nat.pos_of_ne_zero fun hzero => h.nonempty ?_
    rw [hsize, hzero, Nat.mul_zero, Nat.zero_mod]
  constructor
  · intro hfits
    have hrow : rowBytes args = args'.pitch.toNat := by
      have hle : rowBytes args ≤ args'.pitch.toNat := hfits.pitch
      have hmod := Nat.mod_le (rowBytes args) (2 ^ 32)
      omega
    rw [hrow, ← hfits.size, hsize]
    exact Nat.mod_lt _ (by decide)
  · intro hsmall
    have hrow : rowBytes args < 2 ^ 32 :=
      Nat.lt_of_le_of_lt (Nat.le_mul_of_pos_right _ hheight) hsmall
    rw [Nat.mod_eq_of_lt hrow] at hpitch
    rw [hpitch, Nat.mod_eq_of_lt hsmall] at hsize
    refine ⟨?_, ?_, h.bytes⟩
    · rw [hpitch]
      exact Nat.le_refl _
    · rw [hpitch, hsize]

end Dumb

/-- The sizes are exact when their products fit in 32 bits. -/
theorem sizes_exact (dev : Device) (cmd : DrmModeFbCmd) (fo : FbOutcome) (args : DrmModeCreateDumb) (o : DumbOutcome) :
    (∀ fb, drmModeAddfb dev cmd fo = .ok (.dmabuf fb) →
      (FbFits dev cmd fb.buffer ↔ cmd.pitch.toNat * cmd.height.toNat < 2 ^ 32)) ∧
    ∀ args' bo, vmwDumbCreate args o = .ok (args', bo) →
      (DumbFits args args' bo ↔ rowBytes args * args.height.toNat < 2 ^ 32) := by
  constructor
  · intro fb h
    exact fbFits_iff (addfb_ok h)
  · intro args' bo h
    exact dumbFits_iff (dumb_created h)

section Example

private def onePage : Device := ⟨0x1000000, false, fun _ => some (.dmabuf ⟨1⟩)⟩

private def fbCmd (height pitch : UInt32) : DrmModeFbCmd := ⟨16, height, pitch, 32, 24, 1⟩

private def fbOf (height pitch : UInt32) : VmwFramebufferDmabuf := ⟨32, pitch, 24, 16, height, true, ⟨1⟩, 1⟩

private def dumb (height : UInt32) : DrmModeCreateDumb := ⟨height, 32768, 32, 0, 0, 0⟩

theorem sizes_exact_page :
    FbFits onePage (fbCmd 16 64) ⟨1⟩ ∧ ∃ args' bo, DumbFits (dumb 2) args' bo := by
  have hfb : drmModeAddfb onePage (fbCmd 16 64) ⟨0, true, 0⟩ = .ok (.dmabuf (fbOf 16 64)) := rfl
  have hdumb : vmwDumbCreate (dumb 2) ⟨0, true, 0, 0, 0, 7⟩ = .ok (⟨2, 32768, 32, 7, 131072, 262144⟩, ⟨64⟩) := by
    decide +kernel
  exact ⟨((sizes_exact _ _ _ (dumb 2) ⟨0, true, 0, 0, 0, 7⟩).1 _ hfb).mpr (by decide), _, _,
    ((sizes_exact onePage (fbCmd 16 64) ⟨0, true, 0⟩ _ _).2 _ _ hdumb).mpr (by decide)⟩

/-- Two rows of half the address space need nothing, and a dumb buffer has one row for each 32768 that
are asked for. -/
theorem sizes_wrap :
    (drmModeAddfb onePage (fbCmd 2 0x80000000) ⟨0, true, 0⟩ = .ok (.dmabuf (fbOf 2 0x80000000)) ∧
      ¬ FbFits onePage (fbCmd 2 0x80000000) ⟨1⟩) ∧
    ∃ args' bo, vmwDumbCreate (dumb 32769) ⟨0, true, 0, 0, 0, 7⟩ = .ok (args', bo) ∧ ¬ DumbFits (dumb 32769) args' bo := by
  refine ⟨⟨rfl, fun hfits => absurd hfits.bytes (by decide)⟩,
    ⟨32769, 32768, 32, 7, 131072, 131072⟩, ⟨32⟩, by decide +kernel, fun hfits => absurd hfits.size (by decide)⟩

end Example

end Vmwgfx.Kms
