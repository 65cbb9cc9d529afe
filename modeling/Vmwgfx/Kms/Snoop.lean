import Vmwgfx.Kms.Size

/-! What `vmw_kms_cursor_snoop` reads and writes, for the commands that `vmw_cmd_dma` passes to it. -/

namespace Vmwgfx.Kms

def SVGA3D_A8R8G8B8 : UInt32 := 2

def DRM_VMW_MAX_SURFACE_FACES : Nat := 6

structure DrmVmwSize where
  width : UInt32
  height : UInt32

/-- The part of `vmw_surface_define_ioctl` that decides on a snooper: the bytes of its image. -/
def snooperImage (scanout : Bool) (sizes : List DrmVmwSize) (format : UInt32) (alloc : Bool) :
    Except Int (Option Nat) :=
  match sizes with
  | [size] =>
    if scanout ∧ size.width = 64 ∧ size.height = 64 ∧ format = SVGA3D_A8R8G8B8 then
      if alloc then .ok (some (64 * 64 * 4)) else .error (-ENOMEM)
    else .ok none
  | _ => .ok none

structure SVGA3dCopyBox where
  x : UInt32
  y : UInt32
  z : UInt32
  w : UInt32
  h : UInt32
  d : UInt32
  srcx : UInt32
  srcy : UInt32
  srcz : UInt32

/-- `struct vmw_dma_cmd`, with the first box and the suffix. -/
structure VmwDmaCmd where
  headerSize : UInt32
  offset : UInt32
  pitch : UInt32
  face : UInt32
  mipmap : UInt32
  box : SVGA3dCopyBox
  suffixSize : UInt32
  maximumOffset : UInt32

/-- The bytes of `SVGA3dCmdSurfaceDMA`, of a box and of the suffix. -/
def SURFACE_DMA_SIZE : Nat := 28
def COPY_BOX_SIZE : Nat := 36
def SUFFIX_SIZE : UInt32 := 12

/-- One `memcpy` from the mapping to the image. -/
structure Copy where
  dst : Nat
  src : Nat
  len : Nat
  deriving DecidableEq

/-- What `vmw_kms_cursor_snoop` maps and copies. -/
structure Snooped where
  kmapOffset : Nat
  kmapNum : Nat
  copies : List Copy
  deriving DecidableEq

/-- `ttm_bo_kmap`; the pages need not all be in the buffer. -/
def ttmBoKmap (bo : VmwDmaBuffer) (startPage numPages : Nat) (ret : Int) : Int :=
  if bo.numPages < numPages then -EINVAL
  else if bo.numPages < startPage then -EINVAL
  else ret

/-- The pitch is in bytes, and the image is one of words. -/
def snoopCopies (box : SVGA3dCopyBox) (pitch : UInt32) : List Copy :=
  if box.w = 64 ∧ pitch = 64 * 4 then [⟨0, 0, 64 * 64 * 4⟩]
  else (List.range box.h.toNat).map fun i => ⟨i * 64 * 4, (UInt32.ofNat i * pitch).toNat, (box.w * 4).toNat⟩

def snoopPages (box : SVGA3dCopyBox) (pitch : UInt32) : Nat :=
  ((pitch * box.h * 4).toNat + PAGE_SIZE - 1) / PAGE_SIZE

/-- `vmw_kms_cursor_snoop`; `none` when it copies nothing. -/
def vmwKmsCursorSnoop (image : Option Nat) (bo : VmwDmaBuffer) (cmd : VmwDmaCmd) (reserve kmap : Int) :
    Option Snooped :=
  let box := cmd.box
  if image.isNone then none
  else if cmd.face ≠ 0 ∨ cmd.mipmap ≠ 0 then none
  else if cmd.headerSize < 64 then none
  else if cmd.offset.toNat % PAGE_SIZE ≠ 0 ∨ box.x ≠ 0 ∨ box.y ≠ 0 ∨ box.z ≠ 0 ∨
      box.srcx ≠ 0 ∨ box.srcy ≠ 0 ∨ box.srcz ≠ 0 ∨ box.d ≠ 1 ∨
      (cmd.headerSize.toNat - SURFACE_DMA_SIZE) / COPY_BOX_SIZE ≠ 1 then none
  else
    let kmapOffset := cmd.offset.toNat / PAGE_SIZE
    let kmapNum := snoopPages box cmd.pitch
    if reserve ≠ 0 then none
    else if ttmBoKmap bo kmapOffset kmapNum kmap ≠ 0 then none
    else some { kmapOffset, kmapNum, copies := snoopCopies box cmd.pitch }

/-- What the calls of `vmw_cmd_dma` return. -/
structure DmaOutcome where
  /-- `vmw_translate_guest_ptr`. -/
  guestPtr : Except Int VmwDmaBuffer
  /-- `vmw_cmd_res_check`. -/
  surface : Except Int (Option Nat)
  reserve : Int
  kmap : Int

/-- `vmw_cmd_dma`; a surface is looked up with its snooper. -/
def vmwCmdDma (cmd : VmwDmaCmd) (o : DmaOutcome) : Int × Option Snooped :=
  if cmd.suffixSize ≠ SUFFIX_SIZE then (-EINVAL, none)
  else
    match o.guestPtr with
    | .error ret => (ret, none)
    | .ok bo =>
      let boSize := UInt32.ofNat bo.bytes
      if boSize < cmd.offset then (-EINVAL, none)
      else
        let maximumOffset := if boSize - cmd.offset < cmd.maximumOffset then boSize - cmd.offset else cmd.maximumOffset
        match o.surface with
        | .error ret => (ret, none)
        | .ok image => (0, vmwKmsCursorSnoop image bo { cmd with maximumOffset } o.reserve o.kmap)

/-- Every byte that is written is in the image, and every byte that is read is mapped. -/
def Snooped.InBounds (image : Nat) (s : Snooped) : Prop :=
  ∀ c ∈ s.copies, ∀ k < c.len, c.dst + k < image ∧ c.src + k < s.kmapNum * PAGE_SIZE

/-- A box that fits the image, with rows of the guest that the pages cover. -/
structure RowsFit (w h pitch : Nat) : Prop where
  image : (h - 1) * 64 + w % 2 ^ 30 ≤ 64 * 64
  pages : ∀ i < h, i * pitch % 2 ^ 32 + 4 * (w % 2 ^ 30) ≤ (4 * (h * pitch) % 2 ^ 32 + 4095) / 4096 * 4096

def SnoopFits (w h pitch : Nat) : Prop :=
  if w = 64 ∧ pitch = 256 then 13 ≤ h % 2 ^ 22 else w % 2 ^ 30 = 0 ∨ h = 0 ∨ RowsFit w h pitch

section Snoop

variable {box : SVGA3dCopyBox} {pitch : UInt32} {image : Option Nat} {snooped : Snooped}

theorem snoopPages_eq (box : SVGA3dCopyBox) (pitch : UInt32) :
    snoopPages box pitch = (4 * (box.h.toNat * pitch.toNat) % 2 ^ 32 + 4095) / 4096 := by
  unfold snoopPages PAGE_SIZE
  rw [UInt32.toNat_mul, UInt32.toNat_mul, Nat.mod_mul_mod, Nat.mul_comm, Nat.mul_comm pitch.toNat]
  rfl

theorem copyLen_eq (box : SVGA3dCopyBox) : (box.w * 4).toNat = 4 * (box.w.toNat % 2 ^ 30) := by
  rw [UInt32.toNat_mul]
  have hfour : UInt32.toNat 4 = 4 := rfl
  rw [hfour]
  omega

/-- The whole image at once. -/
theorem fast_inBounds_iff (hfast : box.w = 64 ∧ pitch = 64 * 4) (offset : Nat) :
    (Snooped.mk offset (snoopPages box pitch) (snoopCopies box pitch)).InBounds (64 * 64 * 4) ↔
      13 ≤ box.h.toNat % 2 ^ 22 := by
  have hpitch : pitch.toNat = 256 := by rw [hfast.2]; rfl
  have hpages : 64 * 64 * 4 ≤ snoopPages box pitch * PAGE_SIZE ↔ 13 ≤ box.h.toNat % 2 ^ 22 := by
    rw [snoopPages_eq, hpitch]
    unfold PAGE_SIZE
    omega
  rw [← hpages]
  unfold Snooped.InBounds snoopCopies
  rw [if_pos hfast]
  constructor
  · intro h
    have hlast := (h _ List.mem_cons_self (64 * 64 * 4 - 1) (by decide)).2
    dsimp only at hlast
    omega
  · intro h c hc k hk
    cases List.mem_singleton.mp hc
    dsimp only at hk ⊢
    omega

/-- Row by row. -/
theorem slow_inBounds_iff (hslow : ¬ (box.w = 64 ∧ pitch = 64 * 4)) (offset : Nat) :
    (Snooped.mk offset (snoopPages box pitch) (snoopCopies box pitch)).InBounds (64 * 64 * 4) ↔
      box.w.toNat % 2 ^ 30 = 0 ∨ box.h.toNat = 0 ∨ RowsFit box.w.toNat box.h.toNat pitch.toNat := by
  have hrow : ∀ i < box.h.toNat, (UInt32.ofNat i * pitch).toNat = i * pitch.toNat % 2 ^ 32 := by
    intro i hi
    have hlt := Nat.lt_trans hi box.h.toNat_lt
    rw [UInt32.toNat_mul, UInt32.toNat_ofNat_of_lt' hlt]
  unfold Snooped.InBounds snoopCopies
  rw [if_neg hslow]
  constructor
  · intro h
    by_cases hlen : box.w.toNat % 2 ^ 30 = 0
    · exact .inl hlen
    · by_cases hheight : box.h.toNat = 0
      · exact .inr (.inl hheight)
      · -- the last byte of a row
        have hlast : ∀ i < box.h.toNat, i * 64 * 4 + 4 * (box.w.toNat % 2 ^ 30) ≤ 64 * 64 * 4 ∧
            i * pitch.toNat % 2 ^ 32 + 4 * (box.w.toNat % 2 ^ 30) ≤ snoopPages box pitch * PAGE_SIZE := by
          intro i hi
          have hbyte := h _ (List.mem_map.mpr ⟨i, List.mem_range.mpr hi, rfl⟩) (4 * (box.w.toNat % 2 ^ 30) - 1)
            (by dsimp only; rw [copyLen_eq]; omega)
          dsimp only at hbyte
          rw [hrow i hi] at hbyte
          omega
        refine .inr (.inr ⟨?_, fun i hi => ?_⟩)
        · have := (hlast (box.h.toNat - 1) (by omega)).1
          omega
        · have := (hlast i hi).2
          rwa [snoopPages_eq] at this
  · intro h c hc k hk
    obtain ⟨i, hi, rfl⟩ := List.mem_map.mp hc
    have hi := List.mem_range.mp hi
    dsimp only at hk ⊢
    rw [copyLen_eq] at hk
    rw [hrow i hi]
    rcases h with hlen | hheight | hfits
    · rw [hlen] at hk
      exact absurd hk (Nat.not_lt_zero k)
    · rw [hheight] at hi
      exact absurd hi (Nat.not_lt_zero i)
    · have himage := hfits.image
      have hpages := hfits.pages i hi
      rw [snoopPages_eq]
      unfold PAGE_SIZE
      omega

theorem inBounds_iff (box : SVGA3dCopyBox) (pitch : UInt32) (offset : Nat) :
    (Snooped.mk offset (snoopPages box pitch) (snoopCopies box pitch)).InBounds (64 * 64 * 4) ↔
      SnoopFits box.w.toNat box.h.toNat pitch.toNat := by
  have hsame : (box.w = 64 ∧ pitch = 64 * 4) ↔ (box.w.toNat = 64 ∧ pitch.toNat = 256) :=
    and_congr UInt32.toNat_inj.symm UInt32.toNat_inj.symm
  unfold SnoopFits
  by_cases hfast : box.w = 64 ∧ pitch = 64 * 4
  · rw [if_pos (hsame.mp hfast)]
    exact fast_inBounds_iff hfast offset
  · rw [if_neg (mt hsame.mpr hfast)]
    exact slow_inBounds_iff hfast offset

theorem vmwKmsCursorSnoop_some {bo : VmwDmaBuffer} {cmd : VmwDmaCmd} {reserve kmap : Int}
    (h : vmwKmsCursorSnoop image bo cmd reserve kmap = some snooped) : image.isSome = true ∧
      snooped = ⟨cmd.offset.toNat / PAGE_SIZE, snoopPages cmd.box cmd.pitch, snoopCopies cmd.box cmd.pitch⟩ := by
  unfold vmwKmsCursorSnoop at h
  dsimp only at h
  split at h
  · cases h
  · rename_i himage
    iterate 5
      split at h
      · cases h
    cases h
    exact ⟨Option.isSome_iff_ne_none.mpr (by simpa using himage), rfl⟩

theorem vmwCmdDma_snooped {cmd : VmwDmaCmd} {o : DmaOutcome} {ret : Int}
    (h : vmwCmdDma cmd o = (ret, some snooped)) : ∃ image, o.surface = .ok image ∧ image.isSome = true ∧
      snooped = ⟨cmd.offset.toNat / PAGE_SIZE, snoopPages cmd.box cmd.pitch, snoopCopies cmd.box cmd.pitch⟩ := by
  unfold vmwCmdDma at h
  split at h
  · cases h
  · split at h
    · cases h
    · dsimp only at h
      split at h
      · cases h
      · split at h
        · cases h
        · rename_i image himage
          injection h with _ h
          exact ⟨image, himage, vmwKmsCursorSnoop_some h⟩

theorem snooperImage_bytes {scanout alloc : Bool} {sizes : List DrmVmwSize} {format : UInt32} {bytes : Nat}
    (h : snooperImage scanout sizes format alloc = .ok (some bytes)) : bytes = 64 * 64 * 4 := by
  unfold snooperImage at h
  split at h
  · split at h
    · split at h <;> cases h
      rfl
    · cases h
  · cases h

end Snoop

/-- The snooper stays in the image and the mapping when the box fits. -/
theorem snoop_in_bounds {scanout alloc : Bool} {sizes : List DrmVmwSize} {format : UInt32} {image : Nat}
    {cmd : VmwDmaCmd} {o : DmaOutcome} {ret : Int} {snooped : Snooped}
    (hsurface : snooperImage scanout sizes format alloc = .ok (some image)) (hres : o.surface = .ok (some image))
    (hdma : vmwCmdDma cmd o = (ret, some snooped)) :
    snooped.InBounds image ↔ SnoopFits cmd.box.w.toNat cmd.box.h.toNat cmd.pitch.toNat := by
  obtain ⟨_, _, _, rfl⟩ := vmwCmdDma_snooped hdma
  rw [snooperImage_bytes hsurface]
  exact inBounds_iff cmd.box cmd.pitch _

section Example

/-- An upload of one box from the start of the buffer. -/
private def upload (w h pitch : UInt32) : VmwDmaCmd :=
  ⟨76, 0, pitch, 0, 0, ⟨0, 0, 0, w, h, 1, 0, 0, 0⟩, 12, 0xffffffff⟩

private def cursorDma (numPages : Nat) : DmaOutcome := ⟨.ok ⟨numPages⟩, .ok (some (64 * 64 * 4)), 0, 0⟩

theorem snoop_in_bounds_cursor : ∃ snooped : Snooped, snooped.kmapNum = 16 ∧ snooped.InBounds (64 * 64 * 4) := by
  have hsurface : snooperImage true [⟨64, 64⟩] SVGA3D_A8R8G8B8 true = .ok (some (64 * 64 * 4)) := rfl
  have hdma : vmwCmdDma (upload 64 64 256) (cursorDma 16) = (0, some ⟨0, 16, [⟨0, 0, 64 * 64 * 4⟩]⟩) := by
    decide +kernel
  have hfits : SnoopFits 64 64 256 := by
    rw [SnoopFits, if_pos ⟨rfl, rfl⟩]
    decide
  exact ⟨_, rfl, (snoop_in_bounds hsurface rfl hdma).mpr hfits⟩

/-- One row is mapped and the whole image read; a row is written behind the image. -/
theorem snoop_out_of_bounds :
    (∃ snooped, vmwCmdDma (upload 64 1 256) (cursorDma 1) = (0, some snooped) ∧ ¬ snooped.InBounds (64 * 64 * 4)) ∧
    ∃ snooped, vmwCmdDma (upload 64 65 260) (cursorDma 17) = (0, some snooped) ∧ ¬ snooped.InBounds (64 * 64 * 4) := by
  constructor
  · refine ⟨⟨0, 1, [⟨0, 0, 64 * 64 * 4⟩]⟩, by decide +kernel, fun h => ?_⟩
    have hread := (h ⟨0, 0, 64 * 64 * 4⟩ (List.mem_singleton.mpr rfl) 4096 (by decide)).2
    exact absurd hread (by decide)
  · refine ⟨⟨0, 17, snoopCopies (upload 64 65 260).box 260⟩, by decide +kernel, fun h => ?_⟩
    have hwritten := (h ⟨64 * 64 * 4, 64 * 260, 256⟩ (List.mem_map.mpr ⟨64, List.mem_range.mpr (by decide), rfl⟩)
      0 (by decide)).1
    exact absurd hwritten (by decide)

end Example

end Vmwgfx.Kms
