import Vmwgfx.Lib.Layout
import Vmwgfx.Surface.Define

/-! The images of a surface in its backup buffer, and the copies that eviction and validation make. -/

universe u

namespace Vmwgfx.Surface

open Lib Resource

/-- `SVGA3dCmdSurfaceDMA` with its box and its suffix. -/
structure SurfaceDma where
  guestOffset : Nat
  pitch : Nat
  sid : Nat
  face : Nat
  mipmap : Nat
  toSurface : Bool
  box : DrmVmwSize
  maximumOffset : Nat
  deriving DecidableEq, Repr

/-- `vmw_surface_dma_encode`, for a buffer at `ptr`. -/
def vmwSurfaceDmaEncode (srf : VmwSurface) (sid ptr : Nat) (toSurface : Bool) : List SurfaceDma :=
  List.zipWith (fun offset size =>
    { guestOffset := add32 ptr offset.boOffset
      pitch := svga3dsurfaceCalculatePitch srf.desc size
      sid
      face := offset.face
      mipmap := offset.mip
      toSurface
      box := size
      maximumOffset := imageSize srf.desc size }) srf.offsets srf.sizes

/-- The bytes of the backup buffer that the images use. -/
def VmwSurface.ranges (srf : VmwSurface) : List Block :=
  List.zipWith (fun offset size => ⟨offset.boOffset, imageSize srf.desc size⟩) srf.offsets srf.sizes

section Device

variable {α : Type u}

/-- The images of the surfaces, by face and level, and guest memory. -/
structure DmaState (α : Type u) where
  host : Nat → Nat → Nat → α
  guest : Nat → α

/-- What the device does for a command: it copies `maximumOffset` bytes. -/
def SurfaceDma.run (s : DmaState α) (cmd : SurfaceDma) : DmaState α :=
  if cmd.toSurface then
    { s with
      host := Function.update s.host cmd.face (Function.update (s.host cmd.face) cmd.mipmap fun i =>
        if i < cmd.maximumOffset then s.guest (cmd.guestOffset + i) else s.host cmd.face cmd.mipmap i) }
  else { s with guest := put s.guest ⟨cmd.guestOffset, cmd.maximumOffset⟩ (s.host cmd.face cmd.mipmap) }

def runAll (s : DmaState α) (cmds : List SurfaceDma) : DmaState α := cmds.foldl SurfaceDma.run s

/-- An eviction, the loss of the device's images, and a validation. -/
def evictValidate (srf : VmwSurface) (ptr : Nat) (s : DmaState α) (host : Nat → Nat → Nat → α) : DmaState α :=
  runAll { runAll s (vmwSurfaceDmaEncode srf 0 ptr false) with host } (vmwSurfaceDmaEncode srf 0 ptr true)

/-- No two images share a byte, none leaves the buffer, and each is restored. -/
structure ImagesKept (srf : VmwSurface) : Prop where
  apart : srf.ranges.Pairwise Block.Apart
  inside : ∀ b ∈ srf.ranges, ∀ x, b.Has x → x < srf.backupSize
  restored : ∀ (ptr : Nat), ptr + srf.backupSize < 2 ^ 32 → ∀ (s : DmaState Nat) (host : Nat → Nat → Nat → Nat),
    ∀ cmd ∈ vmwSurfaceDmaEncode srf 0 ptr true, ∀ i < cmd.maximumOffset,
      (evictValidate srf ptr s host).host cmd.face cmd.mipmap i = s.host cmd.face cmd.mipmap i

end Device

section Offsets

variable {desc : Svga3dSurfaceDesc} {sizes : List DrmVmwSize} {room face mip : Nat} {c c' : Cursor}

/-- The sizes of the first images. -/
def imageSizes (desc : Svga3dSurfaceDesc) (sizes : List DrmVmwSize) (n : Nat) : List Nat :=
  (sizes.take n).map (imageSize desc)

theorem imageSizes_succ {n : Nat} {size : DrmVmwSize} (h : sizes[n]? = some size) :
    imageSizes desc sizes (n + 1) = imageSizes desc sizes n ++ [imageSize desc size] := by
  unfold imageSizes
  rw [List.take_add_one, h, List.map_append]
  rfl

/-- Every offset is the sum of the sizes before it, and the cursor that of all so far, in 32 bits. -/
structure Summed (desc : Svga3dSurfaceDesc) (sizes : List DrmVmwSize) (c : Cursor) : Prop where
  cursor : c.1 = (imageSizes desc sizes c.2.length).sum % 2 ^ 32
  offsets : ∀ (i : Nat) o, c.2[i]? = some o → o.boOffset = (imageSizes desc sizes i).sum % 2 ^ 32

theorem Summed.nil (desc : Svga3dSurfaceDesc) (sizes : List DrmVmwSize) : Summed desc sizes (0, []) :=
  ⟨rfl, fun i o h => by simp at h⟩

theorem Summed.step (h : Summed desc sizes c) (hstep : imageStep desc sizes room face c mip = some c') :
    Summed desc sizes c' := by
  unfold imageStep at hstep
  obtain ⟨size, hsize, hstep⟩ := Option.bind_eq_some_iff.mp hstep
  split at hstep
  · cases hstep
  cases hstep
  refine ⟨?_, fun i o ho => ?_⟩
  · rw [h.cursor]
    dsimp only
    rw [List.length_append, List.length_singleton, imageSizes_succ hsize, List.sum_append, List.sum_singleton]
    exact Nat.mod_add_mod _ _ _
  · dsimp only at ho
    rcases Nat.lt_or_ge i c.2.length with hlt | hge
    · rw [List.getElem?_append_left hlt] at ho
      exact h.offsets i o ho
    · rw [List.getElem?_append_right hge] at ho
      obtain rfl : i = c.2.length := by
        have hlt := (List.getElem?_eq_some_iff.mp ho).1
        rw [List.length_singleton] at hlt
        omega
      rw [Nat.sub_self] at ho
      cases ho
      exact h.cursor

theorem Summed.levels {mips : List Nat} (h : Summed desc sizes c)
    (hloop : mips.foldlM (imageStep desc sizes room face) c = some c') : Summed desc sizes c' := by
  induction mips generalizing c with
  | nil =>
    cases hloop
    exact h
  | cons mip mips ih =>
    rw [List.foldlM_cons] at hloop
    obtain ⟨c₁, hstep, hloop⟩ := Option.bind_eq_some_iff.mp hloop
    exact ih (h.step hstep) hloop

theorem Summed.faces {mipLevels : List UInt32} (h : Summed desc sizes c)
    (hloop : faceLoop desc sizes room face mipLevels c = some c') : Summed desc sizes c' := by
  induction mipLevels generalizing face c with
  | nil =>
    cases hloop
    exact h
  | cons mips mipLevels ih =>
    unfold faceLoop at hloop
    obtain ⟨c₁, hlevel, hloop⟩ := Option.bind_eq_some_iff.mp hloop
    exact ih (h.levels hlevel) hloop

end Offsets

section Keys

variable {desc : Svga3dSurfaceDesc} {sizes : List DrmVmwSize} {room face : Nat} {c c' : Cursor}

def SurfaceOffset.key (o : SurfaceOffset) : Nat × Nat := (o.face, o.mip)

/-- The faces and levels that the loops go over. -/
def facePairs : Nat → List UInt32 → List (Nat × Nat)
  | _, [] => []
  | face, mips :: mipLevels => (List.range mips.toNat).map (Prod.mk face) ++ facePairs (face + 1) mipLevels

theorem levels_keys {mips : List Nat} (h : mips.foldlM (imageStep desc sizes room face) c = some c') :
    c'.2.map SurfaceOffset.key = c.2.map SurfaceOffset.key ++ mips.map (Prod.mk face) := by
  induction mips generalizing c with
  | nil =>
    cases h
    simp
  | cons mip mips ih =>
    rw [List.foldlM_cons] at h
    obtain ⟨c₁, hstep, h⟩ := Option.bind_eq_some_iff.mp h
    rw [ih h]
    unfold imageStep at hstep
    obtain ⟨size, -, hstep⟩ := Option.bind_eq_some_iff.mp hstep
    split at hstep
    · cases hstep
    · cases hstep
      simp [SurfaceOffset.key]

theorem faceLoop_keys {mipLevels : List UInt32} (h : faceLoop desc sizes room face mipLevels c = some c') :
    c'.2.map SurfaceOffset.key = c.2.map SurfaceOffset.key ++ facePairs face mipLevels := by
  induction mipLevels generalizing face c with
  | nil =>
    cases h
    simp [facePairs]
  | cons mips mipLevels ih =>
    unfold faceLoop at h
    obtain ⟨c₁, hlevel, h⟩ := Option.bind_eq_some_iff.mp h
    rw [ih h, levels_keys hlevel, List.append_assoc]
    rfl

theorem facePairs_ge {mipLevels : List UInt32} {p : Nat × Nat} (h : p ∈ facePairs face mipLevels) : face ≤ p.1 := by
  induction mipLevels generalizing face with
  | nil => cases h
  | cons mips mipLevels ih =>
    rcases List.mem_append.mp h with h | h
    · obtain ⟨mip, -, rfl⟩ := List.mem_map.mp h
      exact le_rfl
    · exact (Nat.le_succ _).trans (ih h)

theorem facePairs_nodup (face : Nat) (mipLevels : List UInt32) : (facePairs face mipLevels).Nodup := by
  induction mipLevels generalizing face with
  | nil => exact List.nodup_nil
  | cons mips mipLevels ih =>
    refine List.Nodup.append (List.Nodup.map (fun _ _ h => (Prod.mk.inj h).2) List.nodup_range) (ih _) ?_
    intro p hp hp'
    obtain ⟨mip, -, rfl⟩ := List.mem_map.mp hp
    have := facePairs_ge hp'
    dsimp only at this
    omega

end Keys

/-- What the ioctl makes of a surface it accepts. -/
structure Defined (srf : VmwSurface) : Prop where
  lengths : srf.offsets.length = srf.sizes.length
  offsets : ∀ (i : Nat) o, srf.offsets[i]? = some o →
    o.boOffset = (imageSizes srf.desc srf.sizes i).sum % 2 ^ 32
  backupSize : srf.backupSize = (srf.sizes.map (imageSize srf.desc)).sum % 2 ^ 32
  keys : (srf.offsets.map SurfaceOffset.key).Nodup

theorem defineFinish_ok {req : CreateReq} {k : DefineSteps} {srf srf' : VmwSurface}
    (h : defineFinish req k srf = some (.ok srf')) : srf' = srf := by
  unfold defineFinish at h
  obtain ⟨size, -, h⟩ := Option.bind_eq_some_iff.mp h
  repeat' split at h
  all_goals cases h
  rfl

theorem vmwSurfaceDefineIoctl_defined {req : CreateReq} {k : DefineSteps} {srf : VmwSurface}
    (h : vmwSurfaceDefineIoctl req k = some (.ok srf)) : Defined srf := by
  unfold vmwSurfaceDefineIoctl at h
  split at h
  · cases h
  split at h
  · cases h
  rename_i desc _
  iterate 5
    split at h
    · cases h
  unfold defineArrays at h
  obtain ⟨baseSize, hbase, h⟩ := Option.bind_eq_some_iff.mp h
  obtain ⟨c, hloop, h⟩ := Option.bind_eq_some_iff.mp h
  obtain rfl := defineFinish_ok h
  have hsummed := (Summed.nil desc ((List.range req.numSizes).map req.userSizes)).faces hloop
  obtain ⟨hlen, hbound⟩ := faceLoop_eq hloop
  have hnum := numSizes_eq req
  have himages : (req.mipLevels.map UInt32.toNat).sum = req.images := rfl
  have hsizes : ((List.range req.numSizes).map req.userSizes).length = req.numSizes := by
    rw [List.length_map, List.length_range]
  have hpos : 0 < req.numSizes := by
    by_contra hzero
    obtain hzero : req.numSizes = 0 := by omega
    rw [hzero] at hbase
    cases hbase
  have hlengths : c.2.length = ((List.range req.numSizes).map req.userSizes).length := by
    have := hbound (by omega)
    rw [List.length_nil] at hlen
    omega
  refine ⟨hlengths, hsummed.offsets, ?_, ?_⟩
  · rw [hsummed.cursor, hlengths]
    unfold imageSizes
    rw [List.take_length]
  · rw [faceLoop_keys hloop]
    exact facePairs_nodup 0 req.mipLevels

section Ranges

variable {srf : VmwSurface}

theorem getElem?_ranges (srf : VmwSurface) (i : Nat) :
    srf.ranges[i]? = (srf.offsets[i]?).bind fun o => srf.sizes[i]?.map fun size => ⟨o.boOffset, imageSize srf.desc size⟩ := by
  unfold VmwSurface.ranges
  rw [List.getElem?_zipWith]
  cases srf.offsets[i]? <;> cases srf.sizes[i]? <;> rfl

theorem map_len_ranges (h : Defined srf) : srf.ranges.map Block.len = srf.sizes.map (imageSize srf.desc) := by
  apply List.ext_getElem?
  intro i
  rw [List.getElem?_map, getElem?_ranges, List.getElem?_map]
  rcases Nat.lt_or_ge i srf.sizes.length with hlt | hge
  · rw [List.getElem?_eq_getElem hlt, List.getElem?_eq_getElem (by rw [h.lengths]; exact hlt)]
    rfl
  · rw [List.getElem?_eq_none hge, List.getElem?_eq_none (by rw [h.lengths]; exact hge)]
    rfl

/-- The image sizes add up without a wrap. -/
def Fits (srf : VmwSurface) : Prop := (srf.sizes.map (imageSize srf.desc)).sum < 2 ^ 32

theorem boOffset_eq (h : Defined srf) (hfits : Fits srf) {i : Nat} {o : SurfaceOffset} (ho : srf.offsets[i]? = some o) :
    o.boOffset = ((srf.sizes.map (imageSize srf.desc)).take i).sum := by
  have htake : imageSizes srf.desc srf.sizes i = (srf.sizes.map (imageSize srf.desc)).take i := by
    unfold imageSizes
    rw [List.map_take]
  have hle : ((srf.sizes.map (imageSize srf.desc)).take i).sum ≤ (srf.sizes.map (imageSize srf.desc)).sum := by
    conv_rhs => rw [← List.take_append_drop i (srf.sizes.map (imageSize srf.desc)), List.sum_append]
    exact Nat.le_add_right _ _
  rw [h.offsets i o ho, htake, Nat.mod_eq_of_lt (lt_of_le_of_lt hle hfits)]

/-- Then the images stand one behind the other. -/
theorem ranges_eq_stack (h : Defined srf) (hfits : Fits srf) :
    srf.ranges = stack 0 (srf.sizes.map (imageSize srf.desc)) := by
  apply List.ext_getElem?
  intro i
  rw [getElem?_ranges, getElem?_stack, List.getElem?_map]
  rcases Nat.lt_or_ge i srf.sizes.length with hlt | hge
  · have hlt' : i < srf.offsets.length := by
      rw [h.lengths]
      exact hlt
    have ho : srf.offsets[i]? = some srf.offsets[i] := List.getElem?_eq_getElem hlt'
    rw [ho, List.getElem?_eq_getElem hlt, Option.bind_some, boOffset_eq h hfits ho]
    simp
  · rw [List.getElem?_eq_none hge, List.getElem?_eq_none (by rw [h.lengths]; exact hge)]
    rfl

theorem backupSize_eq (h : Defined srf) (hfits : Fits srf) :
    srf.backupSize = (srf.sizes.map (imageSize srf.desc)).sum := by
  rw [h.backupSize, Nat.mod_eq_of_lt hfits]

/-- Ranges that are apart and inside leave no room for a wrap. -/
theorem fits_of_apart (h : Defined srf) (hapart : srf.ranges.Pairwise Block.Apart)
    (hinside : ∀ b ∈ srf.ranges, ∀ x, b.Has x → x < srf.backupSize) : Fits srf := by
  have hle := sum_len_le hapart hinside
  rw [map_len_ranges h, h.backupSize] at hle
  unfold Fits
  omega

end Ranges

section Restore

variable {srf : VmwSurface} {ptr : Nat}

/-- The blocks of guest memory that the commands use. -/
def SurfaceDma.block (cmd : SurfaceDma) : Block := ⟨cmd.guestOffset, cmd.maximumOffset⟩

theorem encode_blocks (h : Defined srf) (hfits : Fits srf) (hptr : ptr + srf.backupSize < 2 ^ 32) (toSurface : Bool) :
    (vmwSurfaceDmaEncode srf 0 ptr toSurface).map SurfaceDma.block =
      stack ptr (srf.sizes.map (imageSize srf.desc)) := by
  have hback := backupSize_eq h hfits
  apply List.ext_getElem?
  intro i
  unfold vmwSurfaceDmaEncode
  rw [List.getElem?_map, List.getElem?_zipWith, getElem?_stack, List.getElem?_map]
  rcases Nat.lt_or_ge i srf.sizes.length with hlt | hge
  · have hlt' : i < srf.offsets.length := by
      rw [h.lengths]
      exact hlt
    have ho : srf.offsets[i]? = some srf.offsets[i] := List.getElem?_eq_getElem hlt'
    have hoffset := boOffset_eq h hfits ho
    have hle : ((srf.sizes.map (imageSize srf.desc)).take i).sum ≤ srf.backupSize := by
      rw [hback]
      conv_rhs => rw [← List.take_append_drop i (srf.sizes.map (imageSize srf.desc)), List.sum_append]
      exact Nat.le_add_right _ _
    rw [ho, List.getElem?_eq_getElem hlt]
    simp only [Option.map_some, SurfaceDma.block, Option.some.injEq, Block.mk.injEq, and_true]
    rw [hoffset, add32_of_lt (by omega)]
  · rw [List.getElem?_eq_none hge, List.getElem?_eq_none (by rw [h.lengths]; exact hge)]
    rfl

variable {α : Type u}

/-- What a command copies out of the surface. -/
def SurfaceDma.readback (s : DmaState α) (cmd : SurfaceDma) : Block × (Nat → α) :=
  (cmd.block, s.host cmd.face cmd.mipmap)

theorem runAll_readback {cmds : List SurfaceDma} (s : DmaState α) (h : ∀ cmd ∈ cmds, cmd.toSurface = false) :
    runAll s cmds = { s with guest := putAll s.guest (cmds.map (SurfaceDma.readback s)) } := by
  induction cmds generalizing s with
  | nil => rfl
  | cons cmd cmds ih =>
    obtain ⟨hhead, htail⟩ := List.forall_mem_cons.mp h
    have hstep : SurfaceDma.run s cmd = { s with guest := put s.guest cmd.block (s.host cmd.face cmd.mipmap) } := by
      unfold SurfaceDma.run
      rw [hhead]
      rfl
    show runAll (SurfaceDma.run s cmd) cmds = _
    rw [hstep, ih _ htail]
    rfl

def SurfaceDma.key (cmd : SurfaceDma) : Nat × Nat := (cmd.face, cmd.mipmap)

theorem run_guest {s : DmaState α} {cmd : SurfaceDma} (h : cmd.toSurface = true) : (SurfaceDma.run s cmd).guest = s.guest := by
  unfold SurfaceDma.run
  rw [if_pos h]

theorem run_host_of_ne {s : DmaState α} {cmd : SurfaceDma} (h : cmd.toSurface = true) {face mip : Nat}
    (hne : cmd.key ≠ (face, mip)) : (SurfaceDma.run s cmd).host face mip = s.host face mip := by
  unfold SurfaceDma.run
  rw [if_pos h]
  dsimp only
  by_cases hface : face = cmd.face
  · subst hface
    rw [Function.update_self, Function.update_of_ne]
    rintro rfl
    exact hne rfl
  · rw [Function.update_of_ne hface]

theorem runAll_host_of_notMem {cmds : List SurfaceDma} {s : DmaState α} (h : ∀ cmd ∈ cmds, cmd.toSurface = true)
    {face mip : Nat} (hne : (face, mip) ∉ cmds.map SurfaceDma.key) :
    (runAll s cmds).host face mip = s.host face mip := by
  induction cmds generalizing s with
  | nil => rfl
  | cons cmd cmds ih =>
    obtain ⟨hhead, htail⟩ := List.forall_mem_cons.mp h
    rw [List.map_cons, List.mem_cons, not_or] at hne
    exact (ih htail hne.2).trans (run_host_of_ne hhead (Ne.symm hne.1))

/-- Each image is written from its block. -/
theorem runAll_write {cmds : List SurfaceDma} {s : DmaState α} (h : ∀ cmd ∈ cmds, cmd.toSurface = true)
    (hkeys : (cmds.map SurfaceDma.key).Nodup) {cmd : SurfaceDma} (hcmd : cmd ∈ cmds) {i : Nat}
    (hi : i < cmd.maximumOffset) : (runAll s cmds).host cmd.face cmd.mipmap i = s.guest (cmd.guestOffset + i) := by
  induction cmds generalizing s with
  | nil => cases hcmd
  | cons c cmds ih =>
    obtain ⟨hhead, htail⟩ := List.forall_mem_cons.mp h
    obtain ⟨hfirst, hrest⟩ := List.nodup_cons.mp hkeys
    show (runAll (SurfaceDma.run s c) cmds).host cmd.face cmd.mipmap i = _
    rcases List.mem_cons.mp hcmd with rfl | hcmd
    · rw [runAll_host_of_notMem htail hfirst]
      unfold SurfaceDma.run
      rw [if_pos hhead]
      simp [hi]
    · rw [ih htail hrest hcmd, run_guest hhead]

/-- The commands by image. -/
theorem getElem?_encode (toSurface : Bool) (i : Nat) {cmd : SurfaceDma}
    (h : (vmwSurfaceDmaEncode srf 0 ptr toSurface)[i]? = some cmd) :
    ∃ o size, srf.offsets[i]? = some o ∧ srf.sizes[i]? = some size ∧ cmd =
      { guestOffset := add32 ptr o.boOffset, pitch := svga3dsurfaceCalculatePitch srf.desc size, sid := 0
        face := o.face, mipmap := o.mip, toSurface, box := size, maximumOffset := imageSize srf.desc size } := by
  unfold vmwSurfaceDmaEncode at h
  rw [List.getElem?_zipWith] at h
  cases ho : srf.offsets[i]? with
  | none =>
    rw [ho] at h
    cases h
  | some o =>
    cases hsize : srf.sizes[i]? with
    | none =>
      rw [ho, hsize] at h
      cases h
    | some size =>
      rw [ho, hsize] at h
      cases h
      exact ⟨o, size, rfl, rfl, rfl⟩

theorem encode_toSurface {toSurface : Bool} {cmd : SurfaceDma} (h : cmd ∈ vmwSurfaceDmaEncode srf 0 ptr toSurface) :
    cmd.toSurface = toSurface := by
  obtain ⟨i, hi⟩ := List.mem_iff_getElem?.mp h
  obtain ⟨o, size, -, -, rfl⟩ := getElem?_encode toSurface i hi
  rfl

theorem encode_keys (h : Defined srf) (toSurface : Bool) :
    ((vmwSurfaceDmaEncode srf 0 ptr toSurface).map SurfaceDma.key).Nodup := by
  have heq : (vmwSurfaceDmaEncode srf 0 ptr toSurface).map SurfaceDma.key = srf.offsets.map SurfaceOffset.key := by
    apply List.ext_getElem?
    intro i
    unfold vmwSurfaceDmaEncode
    rw [List.getElem?_map, List.getElem?_map, List.getElem?_zipWith]
    rcases Nat.lt_or_ge i srf.sizes.length with hlt | hge
    · rw [List.getElem?_eq_getElem hlt, List.getElem?_eq_getElem (by rw [h.lengths]; exact hlt)]
      rfl
    · rw [List.getElem?_eq_none hge, List.getElem?_eq_none (by rw [h.lengths]; exact hge)]
      rfl
  rw [heq]
  exact h.keys

/-- The two directions differ in nothing else. -/
theorem mem_encode_false {cmd : SurfaceDma} (h : cmd ∈ vmwSurfaceDmaEncode srf 0 ptr true) :
    { cmd with toSurface := false } ∈ vmwSurfaceDmaEncode srf 0 ptr false := by
  obtain ⟨i, hi⟩ := List.mem_iff_getElem?.mp h
  obtain ⟨o, size, ho, hsize, rfl⟩ := getElem?_encode true i hi
  refine List.mem_iff_getElem?.mpr ⟨i, ?_⟩
  unfold vmwSurfaceDmaEncode
  rw [List.getElem?_zipWith, ho, hsize]

theorem evictValidate_restores (h : Defined srf) (hfits : Fits srf) (hptr : ptr + srf.backupSize < 2 ^ 32)
    (s : DmaState α) (host : Nat → Nat → Nat → α) {cmd : SurfaceDma} (hcmd : cmd ∈ vmwSurfaceDmaEncode srf 0 ptr true)
    {i : Nat} (hi : i < cmd.maximumOffset) :
    (evictValidate srf ptr s host).host cmd.face cmd.mipmap i = s.host cmd.face cmd.mipmap i := by
  have hblocks := encode_blocks h hfits hptr false
  have hread := @runAll_readback α (vmwSurfaceDmaEncode srf 0 ptr false) s fun c hc => encode_toSurface hc
  have hapart : (((vmwSurfaceDmaEncode srf 0 ptr false).map (SurfaceDma.readback s)).map Prod.fst).Pairwise Block.Apart := by
    rw [List.map_map]
    exact hblocks ▸ stack_apart ptr _
  unfold evictValidate
  rw [runAll_write (fun c hc => encode_toSurface hc) (encode_keys h true) hcmd hi, hread]
  exact putAll_of_mem hapart (List.mem_map_of_mem (mem_encode_false hcmd)) hi

end Restore

/-- The images of an accepted surface are kept apart, inside the backup, and through an eviction
exactly when their sizes add up below 2^32. -/
theorem images_kept_iff {req : CreateReq} {k : DefineSteps} {srf : VmwSurface}
    (h : vmwSurfaceDefineIoctl req k = some (.ok srf)) : ImagesKept srf ↔ Fits srf := by
  have hdef := vmwSurfaceDefineIoctl_defined h
  refine ⟨fun hkept => fits_of_apart hdef hkept.apart hkept.inside, fun hfits => ⟨?_, ?_, ?_⟩⟩
  · rw [ranges_eq_stack hdef hfits]
    exact stack_apart 0 _
  · intro b hb x hx
    rw [ranges_eq_stack hdef hfits] at hb
    have hend := stack_end_le hb
    rw [Nat.zero_add] at hend
    rw [backupSize_eq hdef hfits]
    exact lt_of_lt_of_le hx.2 hend
  · intro ptr hptr s host cmd hcmd i hi
    exact evictValidate_restores hdef hfits hptr s host hcmd hi

section Example

private def levels (first : DrmVmwSize) : CreateReq :=
  argbRequest [3, 0, 0, 0, 0, 0] rfl fun i => if i < 2 then first else ⟨1, 1, 1⟩

private def layout (req : CreateReq) : Option (Nat × List Block) :=
  (vmwSurfaceDefineIoctl req (granted true)).bind fun
  | .ok srf => some (srf.backupSize, srf.ranges)
  | .error _ => none

private theorem of_layout {req : CreateReq} {n : Nat} {bs : List Block} (h : layout req = some (n, bs)) :
    ∃ srf, vmwSurfaceDefineIoctl req (granted true) = some (.ok srf) ∧ srf.backupSize = n ∧ srf.ranges = bs := by
  obtain ⟨r, hr, hlayout⟩ := Option.bind_eq_some_iff.mp h
  cases r with
  | error ret => cases hlayout
  | ok srf =>
    cases hlayout
    exact ⟨srf, hr, rfl, rfl⟩

/-- Two images of 2 GiB and one of 4 bytes have a backup of 4 bytes, and the third is where the
first is. -/
theorem images_overlap : ∃ srf, vmwSurfaceDefineIoctl (levels ⟨32768, 16384, 1⟩) (granted true) = some (.ok srf) ∧
    srf.backupSize = 4 ∧ ¬ ImagesKept srf := by
  obtain ⟨srf, hsrf, hsize, hranges⟩ := @of_layout (levels ⟨32768, 16384, 1⟩) 4
    [⟨0, 2147483648⟩, ⟨2147483648, 2147483648⟩, ⟨0, 4⟩] (by decide)
  refine ⟨srf, hsrf, hsize, fun h => ?_⟩
  have hapart := h.apart
  rw [hranges] at hapart
  have hhead := (List.pairwise_cons.mp hapart).1 ⟨0, 4⟩ (by simp)
  exact hhead 0 ⟨⟨by decide, by decide⟩, ⟨by decide, by decide⟩⟩

theorem images_kept_small : ∃ srf, vmwSurfaceDefineIoctl (levels ⟨16, 16, 1⟩) (granted true) = some (.ok srf) ∧
    ImagesKept srf := by
  obtain ⟨srf, hsrf, -, hranges⟩ := @of_layout (levels ⟨16, 16, 1⟩) 2052 [⟨0, 1024⟩, ⟨1024, 1024⟩, ⟨2048, 4⟩] (by decide)
  refine ⟨srf, hsrf, (images_kept_iff hsrf).mpr ?_⟩
  unfold Fits
  rw [← map_len_ranges (vmwSurfaceDefineIoctl_defined hsrf), hranges]
  decide

end Example

end Vmwgfx.Surface
