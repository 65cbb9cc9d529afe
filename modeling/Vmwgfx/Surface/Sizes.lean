import Mathlib.Tactic.Ring
import Vmwgfx.Lib.Layout
import Vmwgfx.Resource.Size
import Vmwgfx.Surface.Define

/-! The sizes and offsets of `svga3d_surfacedefs.h` against the numbers that no 32 bits cut off. -/

namespace Vmwgfx.Surface

open Lib Resource

variable {desc : Svga3dSurfaceDesc} {size : DrmVmwSize}

section Blocks

theorem clampedUmul32_eq_min (a b : Nat) : clampedUmul32 a b = min (2 ^ 32 - 1) (a * b) := by
  unfold clampedUmul32
  split <;> omega

/-- A saturated factor saturates the product, unless the other one is zero. -/
theorem min_mul_min (m a c : Nat) : min m (min m a * c) = min m (a * c) := by
  rcases Nat.le_total a m with ha | ha
  · rw [Nat.min_eq_right ha]
  · rw [Nat.min_eq_left ha]
    rcases Nat.eq_zero_or_pos c with rfl | hc
    · simp
    · rw [Nat.min_eq_left (Nat.le_mul_of_pos_right m hc), Nat.min_eq_left (ha.trans (Nat.le_mul_of_pos_right a hc))]

/-- `DIV_ROUND_UP` of integers. -/
def blocks (x y : Nat) : Nat := (x + y - 1) / y

/-- In 32 bits a sum that wraps leaves no block at all. -/
theorem divRoundUp32_eq {x y : Nat} (hx : x < 2 ^ 32) (hy : 0 < y) :
    divRoundUp32 x y = if x + y ≤ 2 ^ 32 then blocks x y else 0 := by
  split
  · rename_i h
    exact divRoundUp32_of_le h
  · rename_i h
    unfold divRoundUp32
    apply Nat.div_eq_of_lt
    rcases Nat.lt_or_ge (2 ^ 32) y with hlt | hge
    · exact (Nat.mod_lt _ (by decide)).trans hlt
    · have hmod : (x + y - 1) % 2 ^ 32 = x + y - 1 - 2 ^ 32 := by omega
      omega

theorem divRoundUp32_le (x y : Nat) : divRoundUp32 x y ≤ blocks x y :=
  Nat.div_le_div_right (Nat.mod_le _ _)

end Blocks

/-- The three dimensions are `uint32_t`. -/
structure IsU32 (size : DrmVmwSize) : Prop where
  width : size.width < 2 ^ 32
  height : size.height < 2 ^ 32
  depth : size.depth < 2 ^ 32

/-- The blocks of a row, of a column and of the depth. -/
def across (desc : Svga3dSurfaceDesc) (size : DrmVmwSize) : Nat := blocks size.width desc.blockSize.width

def down (desc : Svga3dSurfaceDesc) (size : DrmVmwSize) : Nat := blocks size.height desc.blockSize.height

def deep (desc : Svga3dSurfaceDesc) (size : DrmVmwSize) : Nat := blocks size.depth desc.blockSize.depth

theorem imageBytes_planar (h : desc.planar = true) :
    imageBytes desc size = across desc size * down desc size * deep desc size * desc.bytesPerBlock := by
  simp [imageBytes, h, across, down, deep, blocks]

theorem imageBytes_pitch (h : ¬ desc.planar = true) :
    imageBytes desc size =
      down desc size * (across desc size * desc.pitchBytesPerBlock) * deep desc size := by
  simp only [imageBytes, h, across, down, deep, blocks, Bool.false_eq_true, if_false]
  ring

/-- As documented: the exact number of bytes, or the largest number of 32 bits. -/
def ImageSafe (desc : Svga3dSurfaceDesc) (size : DrmVmwSize) : Prop :=
  svga3dsurfaceGetImageBufferSize desc size 0 = min (2 ^ 32 - 1) (imageBytes desc size)

/-- No rounding up wraps, and the pitch does not either, or the product is too large all the same;
or there are no bytes. -/
def ImageFits (desc : Svga3dSurfaceDesc) (size : DrmVmwSize) : Prop :=
  imageBytes desc size = 0 ∨ NoWrap desc size ∧
    (desc.planar = true ∨ across desc size * desc.pitchBytesPerBlock < 2 ^ 32 ∨
      2 ^ 32 - 1 ≤ down desc size * (across desc size * desc.pitchBytesPerBlock % 2 ^ 32) * deep desc size)

section Image

/-- The size in the blocks that 32 bits leave. -/
theorem imageBufferSize_eq (desc : Svga3dSurfaceDesc) (size : DrmVmwSize) :
    svga3dsurfaceGetImageBufferSize desc size 0 =
      let b := svga3dsurfaceGetSizeInBlocks desc size
      min (2 ^ 32 - 1)
        (if desc.planar then b.width * b.height * b.depth * desc.bytesPerBlock
         else b.height * (b.width * desc.pitchBytesPerBlock % 2 ^ 32) * b.depth) := by
  unfold svga3dsurfaceGetImageBufferSize
  dsimp only
  split
  · simp only [clampedUmul32_eq_min, min_mul_min]
  · rw [if_pos rfl]
    simp only [clampedUmul32_eq_min, min_mul_min]
    rfl

theorem imageBufferSize_le (desc : Svga3dSurfaceDesc) (size : DrmVmwSize) :
    svga3dsurfaceGetImageBufferSize desc size 0 ≤ imageBytes desc size := by
  have hw : (svga3dsurfaceGetSizeInBlocks desc size).width ≤ across desc size := divRoundUp32_le _ _
  have hh : (svga3dsurfaceGetSizeInBlocks desc size).height ≤ down desc size := divRoundUp32_le _ _
  have hd : (svga3dsurfaceGetSizeInBlocks desc size).depth ≤ deep desc size := divRoundUp32_le _ _
  rw [imageBufferSize_eq]
  dsimp only
  refine (Nat.min_le_right _ _).trans ?_
  split
  · rename_i hplanar
    rw [imageBytes_planar hplanar]
    exact Nat.mul_le_mul_right _ (Nat.mul_le_mul (Nat.mul_le_mul hw hh) hd)
  · rename_i hplanar
    rw [imageBytes_pitch hplanar]
    exact Nat.mul_le_mul (Nat.mul_le_mul hh ((Nat.mod_le _ _).trans (Nat.mul_le_mul_right _ hw))) hd

/-- Without a wrap in the rounding the blocks are exact. -/
theorem sizeInBlocks_exact (h : NoWrap desc size) :
    svga3dsurfaceGetSizeInBlocks desc size = ⟨across desc size, down desc size, deep desc size⟩ := by
  obtain ⟨hw, hh, hd⟩ := h
  unfold svga3dsurfaceGetSizeInBlocks
  rw [divRoundUp32_of_le hw, divRoundUp32_of_le hh, divRoundUp32_of_le hd]
  rfl

/-- With one there are none in some direction, and no bytes. -/
theorem imageBufferSize_wrapped (hsize : IsU32 size) (h : ¬ NoWrap desc size) :
    svga3dsurfaceGetImageBufferSize desc size 0 = 0 := by
  have hw := divRoundUp32_eq hsize.width desc.width_pos
  have hh := divRoundUp32_eq hsize.height desc.height_pos
  have hd := divRoundUp32_eq hsize.depth desc.depth_pos
  rw [imageBufferSize_eq]
  unfold svga3dsurfaceGetSizeInBlocks
  unfold NoWrap at h
  dsimp only
  by_cases hw' : size.width + desc.blockSize.width ≤ 2 ^ 32
  · by_cases hh' : size.height + desc.blockSize.height ≤ 2 ^ 32
    · have hd' : ¬ size.depth + desc.blockSize.depth ≤ 2 ^ 32 := fun hd' => h ⟨hw', hh', hd'⟩
      rw [if_neg hd'] at hd
      simp [hd]
    · rw [if_neg hh'] at hh
      simp [hh]
  · rw [if_neg hw'] at hw
    simp [hw]

instance : Decidable (NoWrap desc size) := inferInstanceAs (Decidable (_ ∧ _))

/-- The bytes where the pitch, and the result, are cut to 32 bits; none where a rounding up wraps. -/
def cutBytes (desc : Svga3dSurfaceDesc) (size : DrmVmwSize) : Nat :=
  if NoWrap desc size then
    min (2 ^ 32 - 1)
      (if desc.planar then across desc size * down desc size * deep desc size * desc.bytesPerBlock
       else down desc size * (across desc size * desc.pitchBytesPerBlock % 2 ^ 32) * deep desc size)
  else 0

theorem imageBufferSize_cut (hsize : IsU32 size) :
    svga3dsurfaceGetImageBufferSize desc size 0 = cutBytes desc size := by
  unfold cutBytes
  split
  · rename_i hwrap
    rw [imageBufferSize_eq, sizeInBlocks_exact hwrap]
  · rename_i hwrap
    exact imageBufferSize_wrapped hsize hwrap

theorem imageSafe_iff (hsize : IsU32 size) : ImageSafe desc size ↔ ImageFits desc size := by
  unfold ImageSafe ImageFits
  rcases Nat.eq_zero_or_pos (imageBytes desc size) with hzero | hpos
  · have hle := imageBufferSize_le desc size
    rw [hzero] at hle ⊢
    simp [Nat.le_zero.mp hle]
  · have hne : imageBytes desc size ≠ 0 := Nat.pos_iff_ne_zero.mp hpos
    by_cases hwrap : NoWrap desc size
    · rw [imageBufferSize_eq, sizeInBlocks_exact hwrap]
      dsimp only
      by_cases hplanar : desc.planar = true
      · simp [hplanar, hwrap, imageBytes_planar hplanar]
      · rw [if_neg hplanar, imageBytes_pitch hplanar]
        rw [imageBytes_pitch hplanar] at hpos hne
        generalize hpitch : across desc size * desc.pitchBytesPerBlock = pitch at hpos hne ⊢
        rw [or_iff_right hne, and_iff_right hwrap, or_iff_right hplanar]
        rcases Nat.lt_or_ge pitch (2 ^ 32) with hlt | hge
        · rw [Nat.mod_eq_of_lt hlt]
          exact ⟨fun _ => .inl hlt, fun _ => rfl⟩
        · -- the exact product is too large, and so must the other be
          have hdown : 0 < down desc size := by
            rcases Nat.eq_zero_or_pos (down desc size) with h | h
            · simp [h] at hpos
            · exact h
          have hdeep : 0 < deep desc size := by
            rcases Nat.eq_zero_or_pos (deep desc size) with h | h
            · simp [h] at hpos
            · exact h
          have hlarge : 2 ^ 32 ≤ down desc size * pitch * deep desc size :=
            hge.trans ((Nat.le_mul_of_pos_left _ hdown).trans (Nat.le_mul_of_pos_right _ hdeep))
          rw [Nat.min_eq_left (by omega : 2 ^ 32 - 1 ≤ down desc size * pitch * deep desc size)]
          constructor
          · exact fun h => .inr (by omega)
          · rintro (h | h)
            · omega
            · exact Nat.min_eq_left h
    · rw [imageBufferSize_wrapped hsize hwrap]
      have hmin : 0 < min (2 ^ 32 - 1) (imageBytes desc size) := Nat.lt_min.mpr ⟨by decide, hpos⟩
      simp only [hne, hwrap, false_or, false_and, iff_false]
      omega

end Image

section Serialized

variable {base : DrmVmwSize} {numMipLevels : Nat} {cubemap : Bool}

/-- The bytes of the levels, as they are computed. -/
def chainBytes (desc : Svga3dSurfaceDesc) (base : DrmVmwSize) (numMipLevels : Nat) : Nat :=
  ((List.range numMipLevels).map fun mip => svga3dsurfaceGetImageBufferSize desc (svga3dsurfaceGetMipSize base mip) 0).sum

/-- And as they are. -/
def exactChain (desc : Svga3dSurfaceDesc) (base : DrmVmwSize) (numMipLevels : Nat) : Nat :=
  ((List.range numMipLevels).map fun mip => imageBytes desc (svga3dsurfaceGetMipSize base mip)).sum

def numFaces (cubemap : Bool) : Nat := if cubemap then SVGA3D_MAX_SURFACE_FACES else 1

theorem foldl_mod (f : Nat → Nat) (l : List Nat) (n : Nat) :
    l.foldl (fun total mip => (total + f mip) % 2 ^ 32) (n % 2 ^ 32) = (n + (l.map f).sum) % 2 ^ 32 := by
  induction l generalizing n with
  | nil => rfl
  | cons mip l ih => rw [List.foldl_cons, Nat.mod_add_mod, ih, List.map_cons, List.sum_cons, Nat.add_assoc]

theorem serializedSize_eq :
    svga3dsurfaceGetSerializedSize desc base numMipLevels cubemap =
      numFaces cubemap * chainBytes desc base numMipLevels % 2 ^ 32 := by
  have hsum := foldl_mod (fun mip => svga3dsurfaceGetImageBufferSize desc (svga3dsurfaceGetMipSize base mip) 0)
    (List.range numMipLevels) 0
  rw [Nat.zero_mod, Nat.zero_add] at hsum
  unfold svga3dsurfaceGetSerializedSize
  dsimp only
  rw [hsum]
  cases cubemap with
  | false => simp [numFaces, chainBytes]
  | true =>
    rw [if_pos rfl, Nat.mod_mul_mod, Nat.mul_comm]
    rfl

/-- The size of the whole surface is not too small, or the largest number of 32 bits. -/
def SerializedSafe (desc : Svga3dSurfaceDesc) (base : DrmVmwSize) (numMipLevels : Nat) (cubemap : Bool) : Prop :=
  numFaces cubemap * exactChain desc base numMipLevels ≤ svga3dsurfaceGetSerializedSize desc base numMipLevels cubemap ∨
    svga3dsurfaceGetSerializedSize desc base numMipLevels cubemap = 2 ^ 32 - 1

/-- The bytes of the levels, each cut to 32 bits. -/
def cutChain (desc : Svga3dSurfaceDesc) (base : DrmVmwSize) (numMipLevels : Nat) : Nat :=
  ((List.range numMipLevels).map fun mip => cutBytes desc (svga3dsurfaceGetMipSize base mip)).sum

/-- All bytes fit in 32 bits and so does what every level is computed from; or the levels of one
face, each cut, add up to the largest number all the same. -/
def SerializedFits (desc : Svga3dSurfaceDesc) (base : DrmVmwSize) (numMipLevels : Nat) (cubemap : Bool) : Prop :=
  (numFaces cubemap * exactChain desc base numMipLevels < 2 ^ 32 ∧
      ∀ mip < numMipLevels, ImageFits desc (svga3dsurfaceGetMipSize base mip)) ∨
    cubemap = false ∧ cutChain desc base numMipLevels % 2 ^ 32 = 2 ^ 32 - 1

theorem IsU32.mipSize (h : IsU32 base) (mip : Nat) : IsU32 (svga3dsurfaceGetMipSize base mip) := by
  have hle (x : Nat) (hx : x < 2 ^ 32) : max (x >>> mip) 1 < 2 ^ 32 :=
    Nat.max_lt.mpr ⟨lt_of_le_of_lt (Nat.shiftRight_le _ _) hx, by decide⟩
  exact ⟨hle _ h.width, hle _ h.height, hle _ h.depth⟩

theorem chainBytes_cut (h : IsU32 base) : chainBytes desc base numMipLevels = cutChain desc base numMipLevels := by
  unfold chainBytes cutChain
  congr 1
  exact List.map_congr_left fun mip _ => imageBufferSize_cut (h.mipSize mip)

theorem chainBytes_le : chainBytes desc base numMipLevels ≤ exactChain desc base numMipLevels :=
  List.sum_le_sum fun _ _ => imageBufferSize_le _ _

theorem chainBytes_exact (h : ∀ mip < numMipLevels, imageBytes desc (svga3dsurfaceGetMipSize base mip) < 2 ^ 32)
    (hsafe : ∀ mip < numMipLevels, ImageSafe desc (svga3dsurfaceGetMipSize base mip)) :
    chainBytes desc base numMipLevels = exactChain desc base numMipLevels := by
  unfold chainBytes exactChain
  congr 1
  apply List.map_congr_left
  intro mip hmip
  have hlt := List.mem_range.mp hmip
  have hbytes := h mip hlt
  rw [hsafe mip hlt, Nat.min_eq_right (by omega)]

/-- A level is part of the chain. -/
theorem imageBytes_le_exactChain {mip : Nat} (h : mip < numMipLevels) :
    imageBytes desc (svga3dsurfaceGetMipSize base mip) ≤ exactChain desc base numMipLevels :=
  List.le_sum_of_mem (List.mem_map_of_mem (f := fun mip => imageBytes desc (svga3dsurfaceGetMipSize base mip))
    (List.mem_range.mpr h))

/-- A level that is too small makes the chain too small. -/
theorem chainBytes_lt {mip : Nat} (h : mip < numMipLevels)
    (hlt : svga3dsurfaceGetImageBufferSize desc (svga3dsurfaceGetMipSize base mip) 0 <
      imageBytes desc (svga3dsurfaceGetMipSize base mip)) :
    chainBytes desc base numMipLevels < exactChain desc base numMipLevels :=
  List.sum_lt_sum _ _ (fun _ _ => imageBufferSize_le _ _) ⟨mip, List.mem_range.mpr h, hlt⟩

theorem numFaces_pos (cubemap : Bool) : 0 < numFaces cubemap := by
  cases cubemap <;> decide

theorem serializedSafe_iff (hbase : IsU32 base) :
    SerializedSafe desc base numMipLevels cubemap ↔ SerializedFits desc base numMipLevels cubemap := by
  have hle := @chainBytes_le desc base numMipLevels
  have hfaces := numFaces_pos cubemap
  unfold SerializedSafe SerializedFits
  rw [serializedSize_eq, ← chainBytes_cut hbase]
  constructor
  · rintro (h | h)
    · left
      have hlt : numFaces cubemap * exactChain desc base numMipLevels < 2 ^ 32 :=
        lt_of_le_of_lt h (Nat.mod_lt _ (by decide))
      refine ⟨hlt, fun mip hmip => ?_⟩
      rw [← imageSafe_iff (hbase.mipSize mip)]
      have hbytes := (@imageBytes_le_exactChain desc base _ _ hmip).trans (Nat.le_mul_of_pos_left _ hfaces)
      unfold ImageSafe
      rw [Nat.min_eq_right (by omega)]
      by_contra hne
      have hless := chainBytes_lt hmip (lt_of_le_of_ne (imageBufferSize_le _ _) hne)
      have hprod := Nat.mul_lt_mul_of_pos_left hless hfaces
      rw [Nat.mod_eq_of_lt (hprod.trans hlt)] at h
      omega
    · right
      cases cubemap with
      | false =>
        rw [show numFaces false = 1 from rfl, Nat.one_mul] at h
        exact ⟨rfl, h⟩
      | true =>
        -- six times a number is even
        rw [show numFaces true = 6 from rfl] at h
        omega
  · rintro (⟨hlt, hfits⟩ | ⟨rfl, h⟩)
    · left
      have hexact := chainBytes_exact
        (fun mip hmip => lt_of_le_of_lt ((imageBytes_le_exactChain hmip).trans (Nat.le_mul_of_pos_left _ hfaces)) hlt)
        (fun mip hmip => (imageSafe_iff (hbase.mipSize mip)).mpr (hfits mip hmip))
      rw [hexact, Nat.mod_eq_of_lt hlt]
    · right
      rw [show numFaces false = 1 from rfl, Nat.one_mul]
      exact h

end Serialized

section Offsets

variable {base : DrmVmwSize} {numMipLevels : Nat}

/-- The loop of `svga3dsurface_get_image_offset`: the bytes of the chain, and those of the levels
below `mip`. -/
def offsetLoop (desc : Svga3dSurfaceDesc) (base : DrmVmwSize) (mip numMipLevels : Nat) : Nat × Nat :=
  (List.range numMipLevels).foldl (fun (chain, toLevel) i =>
    let bytes := svga3dsurfaceGetImageBufferSize desc (svga3dsurfaceGetMipSize base i) 0
    (add32 chain bytes, if i < mip then add32 toLevel bytes else toLevel)) (0, 0)

def svga3dsurfaceGetImageOffset (desc : Svga3dSurfaceDesc) (base : DrmVmwSize) (numMipLevels face mip : Nat) : Nat :=
  let (mipChainBytes, mipChainBytesToLevel) := offsetLoop desc base mip numMipLevels
  add32 (mipChainBytes * face % 2 ^ 32) mipChainBytesToLevel

/-- The bytes of the levels of one face. -/
def levelBytes (desc : Svga3dSurfaceDesc) (base : DrmVmwSize) (numMipLevels : Nat) : List Nat :=
  (List.range numMipLevels).map fun mip => svga3dsurfaceGetImageBufferSize desc (svga3dsurfaceGetMipSize base mip) 0

/-- The images of one face at their offsets. -/
def faceBlocks (desc : Svga3dSurfaceDesc) (base : DrmVmwSize) (numMipLevels face : Nat) : List Block :=
  (List.range numMipLevels).map fun mip =>
    ⟨svga3dsurfaceGetImageOffset desc base numMipLevels face mip,
      svga3dsurfaceGetImageBufferSize desc (svga3dsurfaceGetMipSize base mip) 0⟩

/-- Those of a number of faces, face by face. -/
def imageBlocks (desc : Svga3dSurfaceDesc) (base : DrmVmwSize) (numMipLevels faces : Nat) : List Block :=
  (List.range faces).flatMap (faceBlocks desc base numMipLevels)

theorem chainBytes_succ (desc : Svga3dSurfaceDesc) (base : DrmVmwSize) (n : Nat) :
    chainBytes desc base (n + 1) =
      chainBytes desc base n + svga3dsurfaceGetImageBufferSize desc (svga3dsurfaceGetMipSize base n) 0 := by
  simp [chainBytes, List.range_succ]

theorem chainBytes_mono {m n : Nat} (h : m ≤ n) : chainBytes desc base m ≤ chainBytes desc base n := by
  induction h with
  | refl => exact le_rfl
  | step _ ih =>
    rw [chainBytes_succ]
    exact Nat.le_add_right_of_le ih

theorem offsetLoop_eq (mip n : Nat) :
    offsetLoop desc base mip n = (chainBytes desc base n % 2 ^ 32, chainBytes desc base (min n mip) % 2 ^ 32) := by
  induction n with
  | zero => simp [offsetLoop, chainBytes]
  | succ n ih =>
    unfold offsetLoop at ih ⊢
    rw [List.range_succ, List.foldl_append, ih, List.foldl_cons, List.foldl_nil]
    dsimp only
    rw [chainBytes_succ]
    unfold add32
    rw [Nat.mod_add_mod]
    split
    · rename_i hlt
      rw [Nat.min_eq_left hlt.le, Nat.min_eq_left hlt, chainBytes_succ, Nat.mod_add_mod]
    · rename_i hge
      rw [Nat.min_eq_right (by omega), Nat.min_eq_right (by omega)]

/-- The offset of an image, where the bytes of all fit: the chains of the faces before it, and the
levels before it. -/
theorem imageOffset_eq {faces face mip : Nat} (hfits : faces * chainBytes desc base numMipLevels < 2 ^ 32)
    (hface : face < faces) (hmip : mip ≤ numMipLevels) :
    svga3dsurfaceGetImageOffset desc base numMipLevels face mip =
      face * chainBytes desc base numMipLevels + chainBytes desc base mip := by
  have hle : chainBytes desc base mip ≤ chainBytes desc base numMipLevels := chainBytes_mono hmip
  have hsum : (face + 1) * chainBytes desc base numMipLevels ≤ faces * chainBytes desc base numMipLevels :=
    Nat.mul_le_mul_right _ hface
  rw [Nat.succ_mul] at hsum
  unfold svga3dsurfaceGetImageOffset
  rw [offsetLoop_eq, Nat.min_eq_right hmip]
  dsimp only
  rw [Nat.mod_eq_of_lt (by omega : chainBytes desc base numMipLevels < 2 ^ 32), Nat.mul_comm _ face,
    Nat.mod_eq_of_lt (by omega), Nat.mod_eq_of_lt (by omega), add32_of_lt (by omega)]

theorem levelBytes_take {n : Nat} (h : n ≤ numMipLevels) :
    ((levelBytes desc base numMipLevels).take n).sum = chainBytes desc base n := by
  unfold levelBytes chainBytes
  rw [← List.map_take, List.take_range, Nat.min_eq_left h]

theorem faceBlocks_eq {faces face : Nat} (hfits : faces * chainBytes desc base numMipLevels < 2 ^ 32)
    (hface : face < faces) :
    faceBlocks desc base numMipLevels face =
      stack (face * chainBytes desc base numMipLevels) (levelBytes desc base numMipLevels) := by
  apply List.ext_getElem?
  intro i
  rw [getElem?_stack]
  unfold faceBlocks
  rcases Nat.lt_or_ge i numMipLevels with hlt | hge
  · rw [levelBytes_take hlt.le]
    simp [levelBytes, hlt, imageOffset_eq hfits hface hlt.le]
  · simp [levelBytes, hge]

end Offsets

end Vmwgfx.Surface
