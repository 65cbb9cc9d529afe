import Vmwgfx.Lib.Uint
import Vmwgfx.Resource.Defs

/-! `vmw_surface_define_ioctl` with its two arrays. -/

namespace Vmwgfx.Surface

open Lib Resource

def EFAULT : Int := 14

def DRM_VMW_MAX_SURFACE_FACES : Nat := 6

def DRM_VMW_MAX_MIP_LEVELS : Nat := 24

/-- `struct drm_vmw_surface_create_req`. -/
structure CreateReq where
  mipLevels : List UInt32
  faces : mipLevels.length = DRM_VMW_MAX_SURFACE_FACES
  /-- The descriptor of the format; `none` is `SVGA3DBLOCKDESC_NONE`. -/
  desc : Option Svga3dSurfaceDesc
  /-- The format is `SVGA3D_A8R8G8B8`. -/
  argb : Bool
  scanout : Bool
  shareable : Bool
  /-- What user space has at `size_addr`. -/
  userSizes : Nat → DrmVmwSize

/-- How the steps end that ask something of the rest of the kernel. -/
structure DefineSteps where
  readLock : Int
  memGlobalAlloc : Int
  userSrf : Bool
  sizes : Bool
  offsets : Bool
  copyFromUser : Bool
  snooperImage : Bool
  surfaceInit : Int
  hasMob : Bool
  userDmabufAlloc : Int
  primeObjectInit : Int

/-- `struct vmw_surface_offset`. -/
structure SurfaceOffset where
  face : Nat
  mip : Nat
  boOffset : Nat
  deriving DecidableEq, Repr

/-- `struct vmw_surface`, and the `backup_size` of its resource. -/
structure VmwSurface where
  desc : Svga3dSurfaceDesc
  mipLevels : List UInt32
  numSizes : Nat
  sizes : List DrmVmwSize
  offsets : List SurfaceOffset
  baseSize : DrmVmwSize
  backupSize : Nat

/-- The bytes of an image, with the pitch that is computed for it. -/
def imageSize (desc : Svga3dSurfaceDesc) (size : DrmVmwSize) : Nat :=
  svga3dsurfaceGetImageBufferSize desc size (svga3dsurfaceCalculatePitch desc size)

/-- `cur_bo_offset` and the offsets written so far; the next image is the one behind them. -/
abbrev Cursor := Nat × List SurfaceOffset

section Loop

variable (desc : Svga3dSurfaceDesc) (sizes : List DrmVmwSize) (room : Nat)

/-- One image. There is no outcome where an array is left: `room` is what the offsets have. -/
def imageStep (face : Nat) (c : Cursor) (mip : Nat) : Option Cursor :=
  (sizes[c.2.length]?).bind fun size =>
    if room ≤ c.2.length then none
    else some (add32 c.1 (imageSize desc size), c.2 ++ [⟨face, mip, c.1⟩])

def levelLoop (face : Nat) (mips : Nat) (c : Cursor) : Option Cursor :=
  (List.range mips).foldlM (imageStep desc sizes room face) c

def faceLoop : (face : Nat) → List UInt32 → Cursor → Option Cursor
  | _, [], c => some c
  | face, mips :: mipLevels, c => (levelLoop desc sizes room face mips.toNat c).bind (faceLoop (face + 1) mipLevels)

end Loop

/-- `num_sizes`, a `uint32_t`. -/
def CreateReq.numSizes (req : CreateReq) : Nat := req.mipLevels.foldl (fun n mips => add32 n mips.toNat) 0

/-- The images that the loops go over. -/
def CreateReq.images (req : CreateReq) : Nat := (req.mipLevels.map UInt32.toNat).sum

/-- The end of the ioctl, from the surface that the loops leave. -/
def defineFinish (req : CreateReq) (k : DefineSteps) (srf : VmwSurface) : Option (Except Int VmwSurface) :=
  -- `srf->sizes[0]` is read for a scanout surface of one image
  (if req.scanout ∧ srf.numSizes = 1 then srf.sizes.head? else some srf.baseSize).bind fun size =>
    if req.scanout ∧ srf.numSizes = 1 ∧ size.width = 64 ∧ size.height = 64 ∧ req.argb ∧ ¬ k.snooperImage then
      some (.error (-ENOMEM))
    else if k.surfaceInit ≠ 0 then some (.error k.surfaceInit)
    else if k.hasMob ∧ req.shareable ∧ k.userDmabufAlloc ≠ 0 then some (.error k.userDmabufAlloc)
    else if k.primeObjectInit ≠ 0 then some (.error k.primeObjectInit)
    else some (.ok srf)

/-- The ioctl from `srf->base_size = *srf->sizes` on. The arrays have `num_sizes` elements; the
offsets may be `NULL`, as the check behind their allocation is of the sizes. -/
def defineArrays (req : CreateReq) (k : DefineSteps) (desc : Svga3dSurfaceDesc) : Option (Except Int VmwSurface) :=
  let numSizes := req.numSizes
  let sizes := (List.range numSizes).map req.userSizes
  (sizes.head?).bind fun baseSize =>
    (faceLoop desc sizes (if k.offsets then numSizes else 0) 0 req.mipLevels (0, [])).bind fun (curBoOffset, offsets) =>
      defineFinish req k
        { desc, mipLevels := req.mipLevels, numSizes, sizes, offsets, baseSize, backupSize := curBoOffset }

/-- `vmw_surface_define_ioctl`. There is no outcome where it reads or writes through `NULL` or next
to an array. -/
def vmwSurfaceDefineIoctl (req : CreateReq) (k : DefineSteps) : Option (Except Int VmwSurface) :=
  if DRM_VMW_MAX_SURFACE_FACES * DRM_VMW_MAX_MIP_LEVELS < req.numSizes then some (.error (-EINVAL))
  else
    match req.desc with
    | none => some (.error (-EINVAL))
    | some desc =>
      if k.readLock ≠ 0 then some (.error k.readLock)
      else if k.memGlobalAlloc ≠ 0 then some (.error k.memGlobalAlloc)
      else if ¬ k.userSrf then some (.error (-ENOMEM))
      else if ¬ k.sizes then some (.error (-ENOMEM))
      else if ¬ k.copyFromUser then some (.error (-EFAULT))
      else defineArrays req k desc

/-- The ioctl gets past its checks. -/
structure Proceeds (req : CreateReq) (k : DefineSteps) : Prop where
  numSizes : req.numSizes ≤ DRM_VMW_MAX_SURFACE_FACES * DRM_VMW_MAX_MIP_LEVELS
  desc : req.desc ≠ none
  readLock : k.readLock = 0
  memGlobalAlloc : k.memGlobalAlloc = 0
  userSrf : k.userSrf = true
  sizes : k.sizes = true
  copyFromUser : k.copyFromUser = true

/-- The count is the sum of the levels and not zero, and no access leaves its array. -/
structure InBounds (req : CreateReq) (k : DefineSteps) : Prop where
  exact : req.numSizes = req.images
  pos : 1 ≤ req.numSizes
  accesses : vmwSurfaceDefineIoctl req k ≠ none

section Count

theorem foldl_add32 (mipLevels : List UInt32) (n : Nat) :
    mipLevels.foldl (fun n mips => add32 n mips.toNat) (n % 2 ^ 32) = (n + (mipLevels.map UInt32.toNat).sum) % 2 ^ 32 := by
  induction mipLevels generalizing n with
  | nil => rfl
  | cons mips mipLevels ih =>
    have hadd : add32 (n % 2 ^ 32) mips.toNat = (n + mips.toNat) % 2 ^ 32 := Nat.mod_add_mod _ _ _
    rw [List.foldl_cons, hadd, ih, List.map_cons, List.sum_cons, Nat.add_assoc]

theorem numSizes_eq (req : CreateReq) : req.numSizes = req.images % 2 ^ 32 := by
  have h := foldl_add32 req.mipLevels 0
  rw [Nat.zero_add] at h
  exact h

end Count

section Loop

variable {desc : Svga3dSurfaceDesc} {sizes : List DrmVmwSize} {room face mip : Nat} {c c' : Cursor}

theorem imageStep_eq (h : imageStep desc sizes room face c mip = some c') :
    c'.2.length = c.2.length + 1 ∧ c.2.length < sizes.length ∧ c.2.length < room := by
  unfold imageStep at h
  obtain ⟨size, hsize, h⟩ := Option.bind_eq_some_iff.mp h
  split at h
  · cases h
  · rename_i hroom
    cases h
    exact ⟨by simp, (List.getElem?_eq_some_iff.mp hsize).1, Nat.lt_of_not_le hroom⟩

theorem imageStep_isSome (hsizes : c.2.length < sizes.length) (hroom : c.2.length < room) :
    ∃ c', imageStep desc sizes room face c mip = some c' := by
  unfold imageStep
  rw [List.getElem?_eq_getElem hsizes, Option.bind_some, if_neg (Nat.not_le.mpr hroom)]
  exact ⟨_, rfl⟩

/-- The levels of a face take as many elements of the arrays. -/
theorem levels_eq {mips : List Nat} (h : mips.foldlM (imageStep desc sizes room face) c = some c') :
    c'.2.length = c.2.length + mips.length ∧ (mips ≠ [] → c'.2.length ≤ sizes.length ∧ c'.2.length ≤ room) := by
  induction mips generalizing c with
  | nil =>
    cases h
    exact ⟨rfl, fun h => absurd rfl h⟩
  | cons mip mips ih =>
    rw [List.foldlM_cons] at h
    obtain ⟨c₁, hstep, h⟩ := Option.bind_eq_some_iff.mp h
    obtain ⟨hlen, hsizes, hroom⟩ := imageStep_eq hstep
    obtain ⟨hlen', hrest⟩ := ih h
    refine ⟨by rw [hlen', hlen, List.length_cons]; omega, fun _ => ?_⟩
    cases mips with
    | nil =>
      rw [List.length_nil] at hlen'
      omega
    | cons _ _ => exact hrest (List.cons_ne_nil _ _)

theorem levels_isSome {mips : List Nat} (hsizes : c.2.length + mips.length ≤ sizes.length)
    (hroom : c.2.length + mips.length ≤ room) :
    ∃ c', mips.foldlM (imageStep desc sizes room face) c = some c' := by
  induction mips generalizing c with
  | nil => exact ⟨c, rfl⟩
  | cons mip mips ih =>
    rw [List.length_cons] at hsizes hroom
    obtain ⟨c₁, hstep⟩ := @imageStep_isSome desc sizes room face mip c (by omega) (by omega)
    obtain ⟨hlen, -, -⟩ := imageStep_eq hstep
    obtain ⟨c', hrest⟩ := @ih c₁ (by omega) (by omega)
    exact ⟨c', by rw [List.foldlM_cons, hstep]; exact hrest⟩

theorem faceLoop_eq {mipLevels : List UInt32} (h : faceLoop desc sizes room face mipLevels c = some c') :
    c'.2.length = c.2.length + (mipLevels.map UInt32.toNat).sum ∧
      ((mipLevels.map UInt32.toNat).sum ≠ 0 → c'.2.length ≤ sizes.length ∧ c'.2.length ≤ room) := by
  induction mipLevels generalizing face c with
  | nil =>
    cases h
    exact ⟨rfl, fun h => absurd rfl h⟩
  | cons mips mipLevels ih =>
    unfold faceLoop at h
    obtain ⟨c₁, hlevel, h⟩ := Option.bind_eq_some_iff.mp h
    obtain ⟨hlen, hlevels⟩ := levels_eq hlevel
    obtain ⟨hlen', hrest⟩ := ih h
    rw [List.length_range] at hlen
    rw [List.map_cons, List.sum_cons]
    refine ⟨by omega, fun hne => ?_⟩
    by_cases hzero : (mipLevels.map UInt32.toNat).sum = 0
    · have hmips : List.range mips.toNat ≠ [] := by
        rw [Ne, List.range_eq_nil]
        omega
      have := hlevels hmips
      omega
    · exact hrest hzero

theorem faceLoop_isSome {mipLevels : List UInt32}
    (hsizes : c.2.length + (mipLevels.map UInt32.toNat).sum ≤ sizes.length)
    (hroom : c.2.length + (mipLevels.map UInt32.toNat).sum ≤ room) :
    ∃ c', faceLoop desc sizes room face mipLevels c = some c' := by
  induction mipLevels generalizing face c with
  | nil => exact ⟨c, rfl⟩
  | cons mips mipLevels ih =>
    rw [List.map_cons, List.sum_cons] at hsizes hroom
    obtain ⟨c₁, hlevel⟩ := @levels_isSome desc sizes room face c (List.range mips.toNat)
      (by rw [List.length_range]; omega) (by rw [List.length_range]; omega)
    obtain ⟨hlen, -⟩ := levels_eq hlevel
    rw [List.length_range] at hlen
    obtain ⟨c', hrest⟩ := @ih (face + 1) c₁ (by omega) (by omega)
    exact ⟨c', by unfold faceLoop levelLoop; rw [hlevel]; exact hrest⟩

end Loop

section Bounds

variable {req : CreateReq} {k : DefineSteps}

theorem defineFinish_isSome {srf : VmwSurface} (h : srf.sizes ≠ []) : defineFinish req k srf ≠ none := by
  have hsize : ∃ size, (if req.scanout ∧ srf.numSizes = 1 then srf.sizes.head? else some srf.baseSize) = some size := by
    split
    · exact ⟨_, List.head?_eq_some_head h⟩
    · exact ⟨_, rfl⟩
  obtain ⟨size, hsize⟩ := hsize
  unfold defineFinish
  rw [hsize, Option.bind_some]
  repeat' split
  all_goals exact Option.some_ne_none _

theorem proceeds_eq {desc : Svga3dSurfaceDesc} (h : Proceeds req k) (hdesc : req.desc = some desc) :
    vmwSurfaceDefineIoctl req k = defineArrays req k desc := by
  unfold vmwSurfaceDefineIoctl
  rw [if_neg (Nat.not_lt.mpr h.numSizes), hdesc]
  simp [h.readLock, h.memGlobalAlloc, h.userSrf, h.sizes, h.copyFromUser]

/-- Past its checks the ioctl is right about its arrays exactly when the levels do not wrap, are not
all zero, and the offsets could be allocated. -/
theorem define_in_bounds_iff (h : Proceeds req k) :
    InBounds req k ↔ req.images < 2 ^ 32 ∧ 1 ≤ req.images ∧ k.offsets = true := by
  obtain ⟨desc, hdesc⟩ := Option.ne_none_iff_exists'.mp h.desc
  have heq := proceeds_eq h hdesc
  have hnum := numSizes_eq req
  constructor
  · rintro ⟨hexact, hpos, haccess⟩
    refine ⟨by omega, by omega, ?_⟩
    rw [heq] at haccess
    by_contra hoffsets
    apply haccess
    unfold defineArrays
    dsimp only
    rw [if_neg hoffsets]
    cases hloop : faceLoop desc ((List.range req.numSizes).map req.userSizes) 0 0 req.mipLevels (0, []) with
    | none => simp
    | some c =>
      obtain ⟨hlen, hbound⟩ := faceLoop_eq hloop
      have himages : (req.mipLevels.map UInt32.toNat).sum = req.images := rfl
      have := hbound (by omega)
      dsimp only [List.length_nil] at hlen
      omega
  · rintro ⟨hlt, hpos, hoffsets⟩
    have hexact : req.numSizes = req.images := by rw [hnum, Nat.mod_eq_of_lt hlt]
    refine ⟨hexact, by omega, ?_⟩
    have hlen : ((List.range req.numSizes).map req.userSizes).length = req.images := by
      rw [List.length_map, List.length_range, hexact]
    have hne : (List.range req.numSizes).map req.userSizes ≠ [] := by
      intro hnil
      rw [hnil, List.length_nil] at hlen
      omega
    obtain ⟨c, hloop⟩ := @faceLoop_isSome desc ((List.range req.numSizes).map req.userSizes) req.numSizes 0 (0, [])
      req.mipLevels (by rw [hlen]; exact Nat.le_of_eq (Nat.zero_add _))
      (by rw [hexact]; exact Nat.le_of_eq (Nat.zero_add _))
    rw [heq]
    unfold defineArrays
    dsimp only
    rw [if_pos hoffsets, List.head?_eq_some_head hne, Option.bind_some, hloop, Option.bind_some]
    exact defineFinish_isSome hne

end Bounds

section Example

/-- `SVGA3D_A8R8G8B8`. -/
def argb : Svga3dSurfaceDesc :=
  { planar := false, blockSize := ⟨1, 1, 1⟩, bytesPerBlock := 4, pitchBytesPerBlock := 4
    width_pos := Nat.one_pos, height_pos := Nat.one_pos, depth_pos := Nat.one_pos }

def argbRequest (mipLevels : List UInt32) (faces : mipLevels.length = DRM_VMW_MAX_SURFACE_FACES)
    (userSizes : Nat → DrmVmwSize) : CreateReq :=
  { mipLevels, faces, desc := some argb, argb := true, scanout := false, shareable := false, userSizes }

def granted (offsets : Bool) : DefineSteps :=
  { readLock := 0, memGlobalAlloc := 0, userSrf := true, sizes := true, offsets, copyFromUser := true
    snooperImage := true, surfaceInit := 0, hasMob := false, userDmabufAlloc := 0, primeObjectInit := 0 }

private theorem proceeds_granted {mipLevels : List UInt32} {faces : mipLevels.length = DRM_VMW_MAX_SURFACE_FACES}
    {userSizes : Nat → DrmVmwSize} {offsets : Bool} (h : (argbRequest mipLevels faces userSizes).numSizes ≤ 144) :
    Proceeds (argbRequest mipLevels faces userSizes) (granted offsets) :=
  ⟨h, Option.some_ne_none _, rfl, rfl, rfl, rfl, rfl⟩

/-- Two counts of 2^31 and one of 1 add up to 1; no levels at all are none to read; and one level
is written through `NULL` when its offset could not be allocated. -/
theorem define_out_of_bounds :
    (Proceeds (argbRequest [2147483648, 2147483648, 1, 0, 0, 0] rfl fun _ => ⟨16, 16, 1⟩) (granted true) ∧
        ¬ InBounds (argbRequest [2147483648, 2147483648, 1, 0, 0, 0] rfl fun _ => ⟨16, 16, 1⟩) (granted true)) ∧
      (Proceeds (argbRequest [0, 0, 0, 0, 0, 0] rfl fun _ => ⟨16, 16, 1⟩) (granted true) ∧
        ¬ InBounds (argbRequest [0, 0, 0, 0, 0, 0] rfl fun _ => ⟨16, 16, 1⟩) (granted true)) ∧
      (Proceeds (argbRequest [1, 0, 0, 0, 0, 0] rfl fun _ => ⟨16, 16, 1⟩) (granted false) ∧
        vmwSurfaceDefineIoctl (argbRequest [1, 0, 0, 0, 0, 0] rfl fun _ => ⟨16, 16, 1⟩) (granted false) = none) := by
  refine ⟨⟨proceeds_granted (by decide), fun h => ?_⟩, ⟨proceeds_granted (by decide), fun h => ?_⟩,
    proceeds_granted (by decide), by decide⟩
  · exact absurd h.exact (by decide)
  · exact absurd h.pos (by decide)

theorem define_in_bounds_mips : InBounds (argbRequest [3, 0, 0, 0, 0, 0] rfl fun _ => ⟨16, 16, 1⟩) (granted true) :=
  (define_in_bounds_iff (proceeds_granted (by decide))).mpr ⟨by decide, by decide, rfl⟩

end Example

end Vmwgfx.Surface
