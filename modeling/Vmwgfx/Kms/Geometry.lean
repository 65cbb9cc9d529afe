import Vmwgfx.Kms.Legacy
import Vmwgfx.Kms.ScreenObject

/-! The rectangles that the checks of layouts, mode sets and framebuffer consoles accept. -/

namespace Vmwgfx.Kms.Geometry

open Lib

def EFAULT : Int := 14

/-- `struct drm_vmw_rect`. -/
structure DrmVmwRect where
  x : Int32
  y : Int32
  w : UInt32
  h : UInt32
  deriving DecidableEq

/-- `mode_config.max_width` and `max_height`, as `vmw_kms_init` sets them. -/
def maxSize : UInt32 := 8192

/-- `struct drm_vmw_update_layout_arg` with the memory of user space behind it; `alloc` and `copy` say how the
allocation and the copy end. -/
structure UpdateLayoutArg where
  numOutputs : UInt32
  user : Nat → DrmVmwRect
  alloc : Bool
  copy : Bool

/-- The rectangles in the zeroed array.  The number of bytes that are copied is an `unsigned`. -/
def UpdateLayoutArg.rects (arg : UpdateLayoutArg) : List DrmVmwRect :=
  let rectsSize := arg.numOutputs * 16
  (List.range arg.numOutputs.toNat).map fun i => if i < rectsSize.toNat / 16 then arg.user i else ⟨0, 0, 0, 0⟩

/-- The check of `vmw_kms_update_layout_ioctl`. -/
def invalid (rect : DrmVmwRect) : Bool :=
  rect.x < 0 || rect.y < 0 || maxSize < rect.x.toUInt32 + rect.w || maxSize < rect.y.toUInt32 + rect.h

/-- `vmw_kms_update_layout_ioctl`, with the layout that `vmw_du_update_layout` is given. -/
def vmwKmsUpdateLayoutIoctl (arg : UpdateLayoutArg) : Int × Option (List DrmVmwRect) :=
  if arg.numOutputs = 0 then (0, some [⟨0, 0, 800, 600⟩])
  else if ¬ arg.alloc then (-ENOMEM, none)
  else if ¬ arg.copy then (-EFAULT, none)
  else if arg.rects.any invalid then (-EINVAL, none)
  else (0, some arg.rects)

/-- `struct fb_bitfield`. -/
structure FbBitfield where
  offset : UInt32
  length : UInt32
  deriving DecidableEq

/-- What `vmw_fb_check_var` reads and writes of a `struct fb_var_screeninfo`. -/
structure FbVarScreeninfo where
  xres : UInt32
  yres : UInt32
  xoffset : UInt32
  yoffset : UInt32
  bitsPerPixel : UInt32
  red : FbBitfield
  green : FbBitfield
  blue : FbBitfield
  transp : FbBitfield
  deriving DecidableEq

/-- What `vmw_fb_check_var` reads of the framebuffer console and of the device. -/
structure FbInfo where
  maxWidth : UInt32
  maxHeight : UInt32
  lineLength : UInt32
  /-- `SVGA_CAP_DISPLAY_TOPOLOGY` -/
  topology : Bool
  primBbMem : UInt32
  deriving DecidableEq

def vmwKmsValidateModeVram (primBbMem pitch height : UInt32) : Bool :=
  pitch.toUInt64 * height.toUInt64 < primBbMem.toUInt64

/-- The part of `vmw_fb_check_var` after the colors. -/
def checkGeometry (info : FbInfo) (var : FbVarScreeninfo) : Int :=
  if info.topology = false ∧ (var.xoffset ≠ 0 ∨ var.yoffset ≠ 0) then -EINVAL
  else if info.maxWidth < var.xoffset + var.xres ∨ info.maxHeight < var.yoffset + var.yres then -EINVAL
  else if ¬ vmwKmsValidateModeVram info.primBbMem info.lineLength (var.yoffset + var.yres) then -EINVAL
  else 0

def vmwFbCheckVar (info : FbInfo) (var : FbVarScreeninfo) : Int × FbVarScreeninfo :=
  if var.bitsPerPixel ≠ 32 then (-EINVAL, var)
  else
    let transp : FbBitfield := if 0 < var.transp.length then ⟨24, 8⟩ else ⟨0, 0⟩
    let var := { var with red := ⟨16, 8⟩, green := ⟨8, 8⟩, blue := ⟨0, 8⟩, transp }
    (checkGeometry info var, var)

/-- What the user gives for a mode set; the sizes of a mode are 16 bits wide. -/
structure UserSet where
  numConnectors : Nat
  connector : Bool
  mode : Option (UInt16 × UInt16)
  fb : Option (Nat × UInt32 × UInt32)
  x : UInt32
  y : UInt32
  deriving DecidableEq

def UserSet.sou (set : UserSet) : Sou.ModeSet where
  numConnectors := set.numConnectors
  connector := set.connector
  mode := set.mode.map fun (h, v) => ⟨h.toNat, v.toNat⟩
  fb := set.fb.map fun (id, w, h) => ⟨id, w.toNat, h.toNat⟩
  x := set.x.toNat
  y := set.y.toNat

/-- The inputs of the checks. -/
inductive Input
  | layout (arg : UpdateLayoutArg)
  | sou (ld : Sou.Display) (unit : Sou.Unit) (set : UserSet)
  | ldu (s : Ldu.State) (i : Nat) (set : Ldu.ModeSet)
  | fb (info : FbInfo) (var : FbVarScreeninfo)

/-- `vmw_sou_crtc_set_config` does not refuse the input, however its steps end. -/
def SouAccepts (ld : Sou.Display) (unit : Sou.Unit) (set : Sou.ModeSet) : Prop :=
  ∃ env, Sou.vmwSouCrtcSetConfig env ld unit set ≠ some (-EINVAL, ld, unit)

/-- What is accepted fits, as integers. -/
def Exact : Input → Prop
  | .layout arg => ∀ rects, vmwKmsUpdateLayoutIoctl arg = (0, some rects) → ∀ rect ∈ rects,
      rect.x.toInt + rect.w.toNat ≤ maxSize.toNat ∧ rect.y.toInt + rect.h.toNat ≤ maxSize.toNat
  | .sou ld unit set => SouAccepts ld unit set.sou → set.numConnectors ≠ 0 →
      ∀ h v id w height, set.mode = some (h, v) → set.fb = some (id, w, height) →
        set.x.toNat + h.toNat ≤ w.toNat ∧ set.y.toNat + v.toNat ≤ height.toNat
  | .ldu s i set => Ldu.change s i set ≠ some .refused → set.numConnectors ≠ 0 →
      ∀ mode fb, set.mode = some mode → set.fb = some fb →
        set.x.toNat + mode.hdisplay.toInt ≤ fb.width.toNat ∧ set.y.toNat + mode.vdisplay.toInt ≤ fb.height.toNat
  | .fb info var => (vmwFbCheckVar info var).1 = 0 →
      var.xoffset.toNat + var.xres.toNat ≤ info.maxWidth.toNat ∧
        var.yoffset.toNat + var.yres.toNat ≤ info.maxHeight.toNat ∧
        info.lineLength.toNat * (var.yoffset.toNat + var.yres.toNat) < info.primBbMem.toNat

/-- The sums stay below 2^32 in what the other checks let pass. -/
def NoWrap : Input → Prop
  | .layout arg => arg.numOutputs ≠ 0 → arg.alloc = true → arg.copy = true → (∀ rect ∈ arg.rects, invalid rect = false) →
      ∀ rect ∈ arg.rects, rect.x.toInt + rect.w.toNat < 4294967296 ∧ rect.y.toInt + rect.h.toNat < 4294967296
  | .sou ld unit set => ¬ Sou.Refused ld unit set.sou → set.numConnectors ≠ 0 →
      ∀ h v id w height, set.mode = some (h, v) → set.fb = some (id, w, height) →
        Sou.outside ⟨h.toNat, v.toNat⟩ ⟨id, w.toNat, height.toNat⟩ set.x.toNat set.y.toNat = false →
        set.x.toNat + h.toNat < 4294967296 ∧ set.y.toNat + v.toNat < 4294967296
  | .ldu s i set => ¬ Ldu.Refused s i set → set.numConnectors ≠ 0 → ∀ mode fb, set.mode = some mode → set.fb = some fb →
      set.x.toNat + mode.hdisplay.toInt < 4294967296 ∧ set.y.toNat + mode.vdisplay.toInt < 4294967296
  | .fb info var => var.bitsPerPixel = 32 → ¬ (info.topology = false ∧ (var.xoffset ≠ 0 ∨ var.yoffset ≠ 0)) →
      ¬ (info.maxWidth < var.xoffset + var.xres ∨ info.maxHeight < var.yoffset + var.yres) →
      vmwKmsValidateModeVram info.primBbMem info.lineLength (var.yoffset + var.yres) = true →
      var.xoffset.toNat + var.xres.toNat < 4294967296 ∧ var.yoffset.toNat + var.yres.toNat < 4294967296

section Sum

theorem toNat_toUInt32 (x : Int32) : (x.toUInt32.toNat : Int) = x.toInt % 4294967296 := by
  have hint : x.toInt = (x.toUInt32.toNat : Int).bmod 4294967296 := by
    rw [← Int32.toNat_toBitVec]
    exact BitVec.toInt_eq_toNat_bmod _
  have hlt := x.toUInt32.toNat_lt
  rw [hint]
  unfold Int.bmod
  dsimp only
  split <;> omega

theorem toNat_add_toUInt32 (x : UInt32) (w : Int32) :
    ((x + w.toUInt32).toNat : Int) = (x.toNat + w.toInt) % 4294967296 := by
  rw [UInt32.toNat_add, Int.natCast_emod, Int.natCast_add, toNat_toUInt32 w]
  exact Int.add_emod_emod ..

/-- A sum that is checked modulo 2^32 fits if and only if it does not wrap. -/
theorem fits_iff {sum : Int} {max : Nat} (hmax : max < 4294967296) (hpass : sum % 4294967296 ≤ max) :
    sum ≤ max ↔ sum < 4294967296 := by
  omega

theorem fits_iff_nat {sum max : Nat} (hmax : max < 4294967296) (hpass : sum % 4294967296 ≤ max) :
    sum ≤ max ↔ sum < 4294967296 := by
  omega

end Sum

section Layout

variable {arg : UpdateLayoutArg} {rect : DrmVmwRect}

theorem rect_fits_iff (h : invalid rect = false) :
    (rect.x.toInt + rect.w.toNat ≤ maxSize.toNat ∧ rect.y.toInt + rect.h.toNat ≤ maxSize.toNat) ↔
      rect.x.toInt + rect.w.toNat < 4294967296 ∧ rect.y.toInt + rect.h.toNat < 4294967296 := by
  simp only [invalid, Bool.or_eq_false_iff, decide_eq_false_iff_not, UInt32.not_lt] at h
  obtain ⟨⟨-, hx⟩, hy⟩ := h
  have hwidth : (rect.x.toInt + rect.w.toNat) % 4294967296 ≤ maxSize.toNat := by
    rw [Int.add_comm, ← toNat_add_toUInt32, UInt32.add_comm]
    exact Int.ofNat_le.mpr hx
  have hheight : (rect.y.toInt + rect.h.toNat) % 4294967296 ≤ maxSize.toNat := by
    rw [Int.add_comm, ← toNat_add_toUInt32, UInt32.add_comm]
    exact Int.ofNat_le.mpr hy
  exact and_congr (fits_iff maxSize.toNat_lt hwidth) (fits_iff maxSize.toNat_lt hheight)

theorem layout_exact_iff : Exact (.layout arg) ↔ NoWrap (.layout arg) := by
  unfold Exact NoWrap vmwKmsUpdateLayoutIoctl
  dsimp only
  by_cases hnum : arg.numOutputs = 0
  · refine iff_of_true ?_ fun hne => absurd hnum hne
    rw [if_pos hnum]
    intro rects hrects rect hrect
    cases hrects
    cases List.mem_singleton.mp hrect
    decide
  · rw [if_neg hnum]
    cases halloc : arg.alloc with
    | false => exact iff_of_true (fun _ hrects => absurd hrects (by simp)) fun _ hfalse => Bool.noConfusion hfalse
    | true =>
      cases hcopy : arg.copy with
      | false => exact iff_of_true (fun _ hrects => absurd hrects (by simp)) fun _ _ hfalse => Bool.noConfusion hfalse
      | true =>
        rw [if_neg (not_not.mpr rfl), if_neg (not_not.mpr rfl)]
        by_cases hany : arg.rects.any invalid = true
        · rw [if_pos hany]
          obtain ⟨bad, hbad, hinvalid⟩ := List.any_eq_true.mp hany
          refine iff_of_true (fun _ hrects => absurd hrects (by simp)) fun _ _ _ hpass => ?_
          rw [hpass bad hbad] at hinvalid
          cases hinvalid
        · rw [if_neg hany]
          have hpass : ∀ rect ∈ arg.rects, invalid rect = false :=
            fun rect hrect => Bool.eq_false_iff.mpr fun hinvalid => hany (List.any_eq_true.mpr ⟨rect, hrect, hinvalid⟩)
          constructor
          · intro hexact _ _ _ _ rect hrect
            exact (rect_fits_iff (hpass rect hrect)).mp (hexact arg.rects rfl rect hrect)
          · intro hno rects hrects rect hrect
            cases hrects
            exact (rect_fits_iff (hpass rect hrect)).mpr (hno hnum rfl rfl hpass rect hrect)

end Layout

section ModeSet

/-- The device does not answer and no memory is left. -/
def stuck : Sou.Env := ⟨false, false, false, none, false⟩

theorem backScreen_stuck (unit : Sou.Unit) (mode : Sou.Mode) :
    (Sou.backScreen stuck unit mode).1 = 0 ∨ (Sou.backScreen stuck unit mode).1 = -ENOMEM := by
  unfold Sou.backScreen Sou.vmwSouBackingAlloc
  split
  · split
    · exact .inl rfl
    · exact .inr rfl
  · exact .inl rfl

theorem fifoDestroy_stuck (unit : Sou.Unit) :
    Sou.vmwSouFifoDestroy stuck unit = (0, unit) ∨ Sou.vmwSouFifoDestroy stuck unit = (-ENOMEM, unit) := by
  unfold Sou.vmwSouFifoDestroy
  split
  · exact .inl rfl
  · exact .inr rfl

theorem clearScreen_stuck (unit : Sou.Unit) (mode : Sou.Mode) :
    (Sou.clearScreen stuck unit mode).1 = 0 ∨ (Sou.clearScreen stuck unit mode).1 = -ENOMEM := by
  unfold Sou.clearScreen
  split
  · rcases fifoDestroy_stuck unit with heq | heq
    · rw [heq]
      exact .inl rfl
    · rw [heq]
      exact .inr rfl
  · exact .inl rfl

theorem prepare_stuck (unit : Sou.Unit) (mode : Sou.Mode) :
    (Sou.prepare stuck unit mode).1 = 0 ∨ (Sou.prepare stuck unit mode).1 = -ENOMEM := by
  unfold Sou.prepare
  dsimp only
  split
  · exact clearScreen_stuck unit mode
  · exact backScreen_stuck ..

theorem setMode_stuck {ld : Sou.Display} {unit : Sou.Unit} {mode : Sou.Mode} {fb : Sou.Fb} {x y : Nat}
    {r : Int × Sou.Display × Sou.Unit} (h : Sou.setMode stuck ld unit mode fb x y = some r) : r.1 = -ENOMEM := by
  rw [Sou.setMode_eq] at h
  dsimp only at h
  split at h
  case isTrue hret =>
    cases h
    exact (prepare_stuck unit mode).resolve_left hret
  case isFalse =>
    unfold Sou.create Sou.vmwSouFifoCreate at h
    split at h
    · cases h
    · cases h
      rfl

theorem neg_ENOMEM_ne : -ENOMEM ≠ -EINVAL := by decide

theorem souAccepts_iff {ld : Sou.Display} {unit : Sou.Unit} {set : Sou.ModeSet} (hnum : set.numConnectors ≠ 0)
    {mode : Sou.Mode} (hmode : set.mode = some mode) {fb : Sou.Fb} (hfb : set.fb = some fb) :
    SouAccepts ld unit set ↔ ¬ Sou.Refused ld unit set ∧ Sou.outside mode fb set.x set.y = false := by
  constructor
  · rintro ⟨env, hne⟩
    have hok : ¬ Sou.Refused ld unit set := fun hrefused => hne (Sou.vmwSouCrtcSetConfig_refused hrefused)
    refine ⟨hok, ?_⟩
    by_contra hout
    rw [Sou.vmwSouCrtcSetConfig_on hok hnum hmode hfb, if_pos (Bool.not_eq_false _ ▸ hout)] at hne
    exact hne rfl
  · rintro ⟨hok, hout⟩
    refine ⟨stuck, ?_⟩
    rw [Sou.vmwSouCrtcSetConfig_on hok hnum hmode hfb, hout, if_neg Bool.false_ne_true]
    exact fun heq => neg_ENOMEM_ne (setMode_stuck heq).symm

end ModeSet

section Accepted

theorem sou_exact_iff (ld : Sou.Display) (unit : Sou.Unit) (set : UserSet) :
    Exact (.sou ld unit set) ↔ NoWrap (.sou ld unit set) := by
  unfold Exact NoWrap
  dsimp only
  have hfits : ∀ h v id w height, Sou.outside ⟨h, v⟩ ⟨id, UInt32.toNat w, UInt32.toNat height⟩ set.x.toNat set.y.toNat = false →
      ((set.x.toNat + h ≤ w.toNat ∧ set.y.toNat + v ≤ height.toNat) ↔
        set.x.toNat + h < 4294967296 ∧ set.y.toNat + v < 4294967296) := by
    intro h v id w height hout
    simp only [Sou.outside, Bool.or_eq_false_iff, decide_eq_false_iff_not, Nat.not_lt] at hout
    exact and_congr (fits_iff_nat w.toNat_lt hout.1) (fits_iff_nat height.toNat_lt hout.2)
  constructor
  · intro hexact hok hnum h v id w height hmode hfb hout
    have haccepts : SouAccepts ld unit set.sou :=
      (souAccepts_iff hnum (congrArg (Option.map _) hmode) (congrArg (Option.map _) hfb)).mpr ⟨hok, hout⟩
    exact (hfits _ _ _ _ _ hout).mp (hexact haccepts hnum h v id w height hmode hfb)
  · intro hno haccepts hnum h v id w height hmode hfb
    obtain ⟨hok, hout⟩ :=
      (souAccepts_iff hnum (congrArg (Option.map _) hmode) (congrArg (Option.map _) hfb)).mp haccepts
    exact (hfits _ _ _ _ _ hout).mpr (hno hok hnum h v id w height hmode hfb hout)

section Ldu

variable {s : Ldu.State} {i : Nat} {set : Ldu.ModeSet} {mode : Ldu.Mode} {fb : Ldu.Fb}

theorem not_off (hnum : set.numConnectors ≠ 0) (hmode : set.mode = some mode) (hfb : set.fb = some fb) : ¬ set.Off := by
  unfold Ldu.ModeSet.Off
  rw [hmode, hfb]
  simp [hnum]

theorem change_ne_refused (hnum : set.numConnectors ≠ 0) (hmode : set.mode = some mode) (hfb : set.fb = some fb) :
    Ldu.change s i set ≠ some .refused ↔ ¬ Ldu.Refused s i set := by
  by_cases hpass : Ldu.Passed s i set
  · rw [Ldu.change_on hpass hnum hmode hfb]
    cases hout : Ldu.outside mode fb set.x set.y with
    | true =>
      refine iff_of_false (fun hne => hne rfl) (not_not.mpr ?_)
      exact .inr (.inr (.inr ⟨not_off hnum hmode hfb, mode, fb, hmode, hfb, hout⟩))
    | false =>
      rw [if_neg Bool.false_ne_true]
      refine iff_of_true ?_ ?_
      · intro heq
        obtain ⟨s', -, hs'⟩ := Option.map_eq_some_iff.mp heq
        cases hs'
      · obtain ⟨hmany, hwrong, hother⟩ := hpass
        rintro (hmany' | hwrong' | hother' | ⟨-, mode', fb', hmode', hfb', hout'⟩)
        · exact hmany hmany'
        · exact hwrong hwrong'
        · rw [hother] at hother'
          cases hother'
        · cases hmode.symm.trans hmode'
          cases hfb.symm.trans hfb'
          rw [hout] at hout'
          cases hout'
  · obtain ⟨hrefused, heq⟩ := Ldu.change_refused hpass
    exact iff_of_false (not_not.mpr heq) (not_not.mpr hrefused)

theorem ldu_exact_iff (s : Ldu.State) (i : Nat) (set : Ldu.ModeSet) : Exact (.ldu s i set) ↔ NoWrap (.ldu s i set) := by
  have hfits : ¬ Ldu.Refused s i set → set.numConnectors ≠ 0 → ∀ mode fb, set.mode = some mode → set.fb = some fb →
      ((set.x.toNat + mode.hdisplay.toInt ≤ fb.width.toNat ∧ set.y.toNat + mode.vdisplay.toInt ≤ fb.height.toNat) ↔
        set.x.toNat + mode.hdisplay.toInt < 4294967296 ∧ set.y.toNat + mode.vdisplay.toInt < 4294967296) := by
    intro hok hnum mode fb hmode hfb
    have hout : Ldu.outside mode fb set.x set.y = false := by
      by_contra hout
      have hout' := (Bool.not_eq_false _).mp hout
      exact hok (.inr (.inr (.inr ⟨not_off hnum hmode hfb, mode, fb, hmode, hfb, hout'⟩)))
    simp only [Ldu.outside, Bool.or_eq_false_iff, decide_eq_false_iff_not, UInt32.not_lt] at hout
    have hwidth : (set.x.toNat + mode.hdisplay.toInt) % 4294967296 ≤ fb.width.toNat := by
      rw [← toNat_add_toUInt32]
      exact Int.ofNat_le.mpr hout.1
    have hheight : (set.y.toNat + mode.vdisplay.toInt) % 4294967296 ≤ fb.height.toNat := by
      rw [← toNat_add_toUInt32]
      exact Int.ofNat_le.mpr hout.2
    exact and_congr (fits_iff fb.width.toNat_lt hwidth) (fits_iff fb.height.toNat_lt hheight)
  constructor
  · intro hexact hok hnum mode fb hmode hfb
    exact (hfits hok hnum mode fb hmode hfb).mp
      (hexact ((change_ne_refused hnum hmode hfb).mpr hok) hnum mode fb hmode hfb)
  · intro hno haccepts hnum mode fb hmode hfb
    have hok := (change_ne_refused hnum hmode hfb).mp haccepts
    exact (hfits hok hnum mode fb hmode hfb).mpr (hno hok hnum mode fb hmode hfb)

end Ldu

section Console

variable {info : FbInfo} {var : FbVarScreeninfo}

theorem checkGeometry_eq_zero_iff :
    checkGeometry info var = 0 ↔ ¬ (info.topology = false ∧ (var.xoffset ≠ 0 ∨ var.yoffset ≠ 0)) ∧
      ¬ (info.maxWidth < var.xoffset + var.xres ∨ info.maxHeight < var.yoffset + var.yres) ∧
      vmwKmsValidateModeVram info.primBbMem info.lineLength (var.yoffset + var.yres) = true := by
  have hne : -EINVAL ≠ 0 := by decide
  unfold checkGeometry
  split
  case isTrue h => exact iff_of_false hne fun hall => hall.1 h
  case isFalse h =>
    rw [and_iff_right h]
    split
    case isTrue h => exact iff_of_false hne fun hall => hall.1 h
    case isFalse h =>
      rw [and_iff_right h]
      split
      case isTrue h => exact iff_of_false hne h
      case isFalse h => exact iff_of_true rfl (not_not.mp h)

theorem vram_iff (mem pitch height : UInt32) :
    vmwKmsValidateModeVram mem pitch height = true ↔ pitch.toNat * height.toNat < mem.toNat := by
  have hlt : pitch.toNat * height.toNat < 4294967296 * 4294967296 :=
    Nat.mul_lt_mul'' pitch.toNat_lt height.toNat_lt
  unfold vmwKmsValidateModeVram
  rw [decide_eq_true_iff, UInt64.lt_iff_toNat_lt, UInt64.toNat_mul]
  simp only [UInt32.toNat_toUInt64]
  rw [Nat.mod_eq_of_lt hlt]

theorem vmwFbCheckVar_eq_zero_iff :
    (vmwFbCheckVar info var).1 = 0 ↔ var.bitsPerPixel = 32 ∧ checkGeometry info var = 0 := by
  unfold vmwFbCheckVar
  by_cases hbpp : var.bitsPerPixel = 32
  · rw [if_neg (not_not.mpr hbpp)]
    exact (and_iff_right hbpp).symm
  · rw [if_pos hbpp]
    exact iff_of_false (show -EINVAL ≠ 0 from by decide) fun hboth => hbpp hboth.1

theorem fb_exact_iff (info : FbInfo) (var : FbVarScreeninfo) : Exact (.fb info var) ↔ NoWrap (.fb info var) := by
  unfold Exact NoWrap
  dsimp only
  rw [vmwFbCheckVar_eq_zero_iff, checkGeometry_eq_zero_iff]
  have hfits : ¬ (info.maxWidth < var.xoffset + var.xres ∨ info.maxHeight < var.yoffset + var.yres) →
      ((var.xoffset.toNat + var.xres.toNat ≤ info.maxWidth.toNat ∧
          var.yoffset.toNat + var.yres.toNat ≤ info.maxHeight.toNat) ↔
        var.xoffset.toNat + var.xres.toNat < 4294967296 ∧ var.yoffset.toNat + var.yres.toNat < 4294967296) := by
    intro hsize
    rw [not_or, UInt32.not_lt, UInt32.not_lt, UInt32.le_iff_toNat_le, UInt32.le_iff_toNat_le] at hsize
    rw [UInt32.toNat_add, UInt32.toNat_add] at hsize
    exact and_congr (fits_iff_nat info.maxWidth.toNat_lt hsize.1) (fits_iff_nat info.maxHeight.toNat_lt hsize.2)
  constructor
  · intro hexact hbpp htop hsize hvram
    obtain ⟨hwidth, hheight, -⟩ := hexact ⟨hbpp, htop, hsize, hvram⟩
    exact (hfits hsize).mp ⟨hwidth, hheight⟩
  · rintro hno ⟨hbpp, htop, hsize, hvram⟩
    have hnowrap := hno hbpp htop hsize hvram
    obtain ⟨hwidth, hheight⟩ := (hfits hsize).mpr hnowrap
    refine ⟨hwidth, hheight, ?_⟩
    have hmem := (vram_iff ..).mp hvram
    rw [UInt32.toNat_add, Nat.mod_eq_of_lt hnowrap.2] at hmem
    exact hmem

end Console

/-- What the checks accept fits if and only if no sum wraps in what they let pass. -/
theorem accepted_exact_iff (input : Input) : Exact input ↔ NoWrap input := by
  cases input with
  | layout arg => exact layout_exact_iff
  | sou ld unit set => exact sou_exact_iff ld unit set
  | ldu s i set => exact ldu_exact_iff s i set
  | fb info var => exact fb_exact_iff info var

end Accepted

/-- A layout, a mode set of each kind and a framebuffer console whose first sum is 2^32. -/
theorem accepted_wraps :
    ¬ Exact (.layout ⟨1, fun _ => ⟨1, 0, 0xFFFFFFFF, 600⟩, true, true⟩) ∧
      ¬ Exact (.sou ⟨0, none⟩ Sou.vmwSouInit ⟨1, true, some (1, 1), some (0, 64, 64), 0xFFFFFFFF, 0⟩) ∧
      ¬ Exact (.ldu Ldu.init 0 ⟨1, true, some ⟨1, 1⟩, some ⟨0, 64, 64, 256, 32, 24, true⟩, 0xFFFFFFFF, 0⟩) ∧
      ¬ Exact (.fb ⟨64, 64, 256, true, 65536⟩ ⟨1, 1, 0xFFFFFFFF, 0, 32, ⟨0, 0⟩, ⟨0, 0⟩, ⟨0, 0⟩, ⟨0, 0⟩⟩) := by
  refine ⟨fun h => ?_, fun h => ?_, fun h => ?_, fun h => ?_⟩
  · exact absurd (h _ rfl _ (List.mem_singleton.mpr rfl)).1 (by decide)
  · have haccepts : SouAccepts ⟨0, none⟩ Sou.vmwSouInit (UserSet.sou ⟨1, true, some (1, 1), some (0, 64, 64), 0xFFFFFFFF, 0⟩) :=
      ⟨stuck, by decide⟩
    exact absurd (h haccepts (by decide) _ _ _ _ _ rfl rfl).1 (by decide)
  · refine absurd (h (fun heq => ?_) (by decide) _ _ rfl rfl).1 (by decide)
    cases heq
  · exact absurd (h (by decide)).1 (by decide)

end Vmwgfx.Kms.Geometry
