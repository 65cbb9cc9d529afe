import Vmwgfx.Kernel
import Vmwgfx.Kms.Geometry
import Vmwgfx.Lib.Rect

/-! Blits of surfaces to screens: `do_surface_dirty_sou` and `vmw_kms_present`. -/

namespace Vmwgfx.Kms.Blit

open Lib Kms.Geometry

/-- An `int`. -/
def int32 (x : Int) : Int := (x + 2147483648) % 4294967296 - 2147483648

/-- An `int` that is stored as an `unsigned short`. -/
def uint16 (x : Int) : UInt16 := UInt16.ofNat (x % 65536).toNat

abbrev SVGASignedRect := Rect

/-- `struct drm_clip_rect`. -/
structure DrmClipRect where
  x1 : UInt16
  y1 : UInt16
  x2 : UInt16
  y2 : UInt16
  deriving DecidableEq

def DrmClipRect.edges (c : DrmClipRect) : Rect := ⟨c.x1.toNat, c.y1.toNat, c.x2.toNat, c.y2.toNat⟩

/-- `struct vmw_clip_rect`. -/
structure VmwClipRect where
  x1 : Int
  x2 : Int
  y1 : Int
  y2 : Int

/-- The loop of `vmw_clip_cliprects` over one rectangle. -/
def clipOne (clip : VmwClipRect) (rect : DrmClipRect) : Option SVGASignedRect :=
  let x1 := max clip.x1 rect.x1.toNat
  let y1 := max clip.y1 rect.y1.toNat
  let x2 := min clip.x2 rect.x2.toNat
  let y2 := min clip.y2 rect.y2.toNat
  if x1 ≥ x2 then none else if y1 ≥ y2 then none else some ⟨x1, y1, x2, y2⟩

def vmwClipCliprects (rects : List DrmClipRect) (clip : VmwClipRect) : List SVGASignedRect :=
  rects.filterMap (clipOne clip)

/-- What a blit reads of a display unit and its crtc. -/
structure DisplayUnit where
  unit : Nat
  fb : Option Nat
  x : Int32
  y : Int32
  hdisplay : UInt16
  vdisplay : UInt16

/-- The units; no two have one number. -/
structure Display where
  units : List DisplayUnit
  nodup : (units.map DisplayUnit.unit).Nodup

/-- The units that show the framebuffer. -/
def Display.shows (display : Display) (fb : Nat) : List DisplayUnit := display.units.filter fun unit => unit.fb = some fb

/-- `SVGA3dCmdBlitSurfaceToScreen` and its clip rectangles. -/
structure BlitSurfaceToScreen where
  sid : UInt32
  srcRect : SVGASignedRect
  destScreenId : Nat
  destRect : SVGASignedRect
  clips : List SVGASignedRect
  deriving DecidableEq

/-- The blit misses the unit. -/
def misses (dest : Rect) (unit : DisplayUnit) : Bool :=
  dest.left ≥ unit.hdisplay.toNat || dest.top ≥ unit.vdisplay.toNat || dest.right ≤ 0 || dest.bottom ≤ 0

/-- The bounding box at its place on the unit. -/
def destOf (box : Rect) (destX destY : Int) (unit : DisplayUnit) : Rect :=
  ⟨int32 (box.left + destX - unit.x.toInt), int32 (box.top + destY - unit.y.toInt),
    int32 (box.right + destX - unit.x.toInt), int32 (box.bottom + destY - unit.y.toInt)⟩

/-- The loop over the units, for one unit. -/
def blitUnit (sid : UInt32) (box : Rect) (tmp : List DrmClipRect) (destX destY : Int) (unit : DisplayUnit) :
    Option BlitSurfaceToScreen :=
  let dest := destOf box destX destY unit
  if misses dest unit then none
  else
    let clip := ⟨int32 (0 - dest.left), int32 (unit.hdisplay.toNat - dest.left), int32 (0 - dest.top),
      int32 (unit.vdisplay.toNat - dest.top)⟩
    match vmwClipCliprects tmp clip with
    | [] => none
    | c :: cs => some ⟨sid, box, unit.unit, dest, c :: cs⟩

/-- A rectangle relative to the bounding box, in a `struct drm_clip_rect`. -/
def relative (box rect : Rect) : DrmClipRect :=
  ⟨uint16 (rect.left - box.left), uint16 (rect.top - box.top), uint16 (rect.right - box.left),
    uint16 (rect.bottom - box.top)⟩

/-- What the two functions share.  `none` is a `BUG`, also below. -/
def blitSurface (sid : UInt32) (units : List DisplayUnit) (destX destY : Int) (rects : List Rect) :
    Option (List BlitSurfaceToScreen) :=
  match rects with
  | [] => none
  | first :: rest =>
    let box := Rect.box first rest
    some (units.filterMap (blitUnit sid box (rects.map (relative box)) destX destY))

/-- What a dirty update reads of a framebuffer.  `drm_mode_addfb` takes no more than 8192. -/
structure Framebuffer where
  id : Nat
  userHandle : UInt32
  width : UInt32
  height : UInt32
  width_le : width ≤ 8192
  height_le : height ≤ 8192

section Dirty

variable (display : Display) (fb : Framebuffer)

/-- `do_surface_dirty_sou`, on the rectangles that it goes to. -/
def doSurfaceDirtySou (clips : List DrmClipRect) : Option (List BlitSurfaceToScreen) :=
  blitSurface fb.userHandle (display.shows fb.id) 0 0 (clips.map DrmClipRect.edges)

/-- The first one of each pair. -/
def firsts : List DrmClipRect → List DrmClipRect
  | c :: _ :: cs => c :: firsts cs
  | _ => []

def seconds : List DrmClipRect → List DrmClipRect
  | _ :: c :: cs => c :: seconds cs
  | _ => []

def norect : DrmClipRect := ⟨0, 0, fb.width.toUInt16, fb.height.toUInt16⟩

/-- The rectangles that `vmw_framebuffer_surface_dirty` makes `do_surface_dirty_sou` go to; `annotateCopy` is
`DRM_MODE_FB_DIRTY_ANNOTATE_COPY`. -/
def usedClips (annotateCopy : Bool) (clips : List DrmClipRect) : List DrmClipRect :=
  if clips = [] then [norect fb] else if annotateCopy then firsts clips else clips

/-- `vmw_framebuffer_surface_dirty` from the lock on. -/
def vmwFramebufferSurfaceDirty (annotateCopy : Bool) (clips : List DrmClipRect) : Option (List BlitSurfaceToScreen) :=
  doSurfaceDirtySou display fb (usedClips fb annotateCopy clips)

/-- The regions that are to be updated, which come second in the pairs of an annotated copy. -/
def updated (annotateCopy : Bool) (clips : List DrmClipRect) : List Rect :=
  if clips = [] then [⟨0, 0, fb.width.toNat, fb.height.toNat⟩]
  else (if annotateCopy then seconds clips else clips).map DrmClipRect.edges

end Dirty

/-- The edges of a `struct drm_vmw_rect` as the code computes them. -/
def edges (rect : DrmVmwRect) : Rect :=
  ⟨rect.x.toInt, rect.y.toInt, int32 (rect.x.toInt + rect.w.toNat), int32 (rect.y.toInt + rect.h.toNat)⟩

def vmwKmsPresent (display : Display) (fb : Nat) (sid : UInt32) (destX destY : Int32) (clips : List DrmVmwRect) :
    Option (List BlitSurfaceToScreen) :=
  blitSurface sid (display.shows fb) destX.toInt destY.toInt (clips.map edges)

/-- The region of a `struct drm_vmw_rect`. -/
def region (rect : DrmVmwRect) : Rect :=
  ⟨rect.x.toInt, rect.y.toInt, rect.x.toInt + rect.w.toNat, rect.y.toInt + rect.h.toNat⟩

/-- The edges fit in an `int`. -/
def EdgesFit (rect : DrmVmwRect) : Prop :=
  rect.x.toInt + rect.w.toNat < 2147483648 ∧ rect.y.toInt + rect.h.toNat < 2147483648

/-- The command draws the pixel of its screen from a pixel of the surface; the clip rectangles are measured from
the top left corner of `destRect`, and no clip rectangle means all of it. -/
def BlitSurfaceToScreen.Draws (cmd : BlitSurfaceToScreen) (x y sx sy : Int) : Prop :=
  cmd.destRect.Has x y ∧
    (cmd.clips = [] ∨ ∃ c ∈ cmd.clips, c.Has (x - cmd.destRect.left) (y - cmd.destRect.top)) ∧
    sx = cmd.srcRect.left + (x - cmd.destRect.left) ∧ sy = cmd.srcRect.top + (y - cmd.destRect.top)

instance (cmd : BlitSurfaceToScreen) (x y sx sy : Int) : Decidable (cmd.Draws x y sx sy) :=
  inferInstanceAs (Decidable (_ ∧ _))

/-- The two rectangles of the command are of one size. -/
def BlitSurfaceToScreen.Unscaled (cmd : BlitSurfaceToScreen) : Prop :=
  cmd.destRect.right - cmd.destRect.left = cmd.srcRect.right - cmd.srcRect.left ∧
    cmd.destRect.bottom - cmd.destRect.top = cmd.srcRect.bottom - cmd.srcRect.top

/-- The area of a unit, in its own coordinates. -/
def DisplayUnit.area (unit : DisplayUnit) : Rect := ⟨0, 0, unit.hdisplay.toNat, unit.vdisplay.toNat⟩

/-- The calls, with what `drm_mode_dirtyfb_ioctl` and the callers of `vmw_kms_present` make sure of. -/
inductive Input
  | dirty (display : Display) (fb : Framebuffer) (annotateCopy : Bool) (clips : List DrmClipRect)
      (pairs : annotateCopy = true → clips.length % 2 = 0)
  | present (display : Display) (fb : Nat) (sid : UInt32) (destX destY : Int32) (clips : List DrmVmwRect)
      (some : clips ≠ []) (fit : ∀ clip ∈ clips, EdgesFit clip)

namespace Input

def display : Input → Display
  | .dirty display .. | .present display .. => display

def fb : Input → Nat
  | .dirty _ fb .. => fb.id
  | .present _ fb .. => fb

/-- The commands of the call. -/
def cmds : Input → Option (List BlitSurfaceToScreen)
  | .dirty display fb annotateCopy clips _ => vmwFramebufferSurfaceDirty display fb annotateCopy clips
  | .present display fb sid destX destY clips _ _ => vmwKmsPresent display fb sid destX destY clips

/-- The regions of the source that are asked for. -/
def regions : Input → List Rect
  | .dirty _ fb annotateCopy clips _ => updated fb annotateCopy clips
  | .present _ _ _ _ _ clips _ _ => clips.map region

/-- How far the destination is from the source, in the framebuffer. -/
def offset : Input → Int × Int
  | .dirty .. => (0, 0)
  | .present _ _ _ destX destY _ _ _ => (destX.toInt, destY.toInt)

end Input

/-- The commands for the unit draw what is asked for, from where it is asked for. -/
def ExactOn (input : Input) (cmds : List BlitSurfaceToScreen) (unit : DisplayUnit) : Prop :=
  (∀ cmd ∈ cmds, cmd.destScreenId = unit.unit → cmd.Unscaled) ∧
    ∀ x y sx sy,
      (∃ cmd ∈ cmds, cmd.destScreenId = unit.unit ∧ cmd.Draws x y sx sy) ↔
        unit.area.Has x y ∧ (∃ r ∈ input.regions, r.Has sx sy) ∧ sx = x + unit.x.toInt - input.offset.1 ∧
          sy = y + unit.y.toInt - input.offset.2

def Exact (input : Input) : Prop :=
  ∃ cmds, input.cmds = some cmds ∧ ∀ unit ∈ input.display.shows input.fb, ExactOn input cmds unit

section Unit

variable {sid : UInt32} {box dest : Rect} {rects : List Rect} {destX destY : Int} {unit : DisplayUnit}
  {cmd : BlitSurfaceToScreen} {rect : Rect} {x y sx sy : Int}

theorem int32_bounds (x : Int) : -2147483648 ≤ int32 x ∧ int32 x < 2147483648 := by
  unfold int32
  omega

theorem int32_of_mem {x : Int} (h : -2147483648 ≤ x) (h' : x < 2147483648) : int32 x = x := by
  unfold int32
  omega

theorem uint16_toNat (x : Int) : ((uint16 x).toNat : Int) = x % 65536 := by
  unfold uint16
  rw [UInt16.toNat_ofNat']
  omega

/-- One axis of a clip rectangle, moved to the unit. -/
theorem clip_axis {d size t₁ t₂ x : Int} (hd : -2147483648 ≤ d) (hsize : 0 ≤ size) (hsize' : size ≤ 65535)
    (hmiss : d < size) (ht₁ : 0 ≤ t₁) (ht₂ : t₂ ≤ 65535) :
    (max (int32 (0 - d)) t₁ ≤ x - d ∧ x - d < min (int32 (size - d)) t₂) ↔
      (0 ≤ x ∧ x < size) ∧ t₁ ≤ x - d ∧ x - d < t₂ := by
  unfold int32
  omega

/-- A rectangle of the list, as its relative edges tell of it, has the pixel. -/
def StandsAt (box dest rect : Rect) (x y : Int) : Prop :=
  ((rect.left - box.left) % 65536 ≤ x - dest.left ∧ x - dest.left < (rect.right - box.left) % 65536) ∧
    (rect.top - box.top) % 65536 ≤ y - dest.top ∧ y - dest.top < (rect.bottom - box.top) % 65536

def Stands (box dest : Rect) (rects : List Rect) (x y : Int) : Prop := ∃ rect ∈ rects, StandsAt box dest rect x y

theorem mem_vmwClipCliprects {clip : VmwClipRect} {tmp : List DrmClipRect} :
    (∃ c ∈ vmwClipCliprects tmp clip, c.Has x y) ↔
      ∃ t ∈ tmp, (max clip.x1 t.x1.toNat ≤ x ∧ x < min clip.x2 t.x2.toNat) ∧
        max clip.y1 t.y1.toNat ≤ y ∧ y < min clip.y2 t.y2.toNat := by
  unfold vmwClipCliprects
  constructor
  · rintro ⟨c, hc, hhas⟩
    obtain ⟨t, ht, hclip⟩ := List.mem_filterMap.mp hc
    unfold clipOne at hclip
    dsimp only at hclip
    split at hclip
    case isTrue => cases hclip
    case isFalse =>
      split at hclip
      case isTrue => cases hclip
      case isFalse =>
        cases hclip
        exact ⟨t, ht, hhas⟩
  · rintro ⟨t, ht, hx, hy⟩
    refine ⟨⟨_, _, _, _⟩, List.mem_filterMap.mpr ⟨t, ht, ?_⟩, hx, hy⟩
    unfold clipOne
    dsimp only
    rw [if_neg (by omega), if_neg (by omega)]

theorem misses_eq_false_iff :
    misses dest unit = false ↔
      (dest.left < unit.hdisplay.toNat ∧ dest.top < unit.vdisplay.toNat) ∧ 0 < dest.right ∧ 0 < dest.bottom := by
  unfold misses
  simp only [Bool.or_eq_false_iff, decide_eq_false_iff_not]
  omega

theorem destOf_bounds (box : Rect) (destX destY : Int) (unit : DisplayUnit) :
    -2147483648 ≤ (destOf box destX destY unit).left ∧ -2147483648 ≤ (destOf box destX destY unit).top :=
  ⟨(int32_bounds _).1, (int32_bounds _).1⟩

/-- The clip rectangles that are written, as pixels of the unit. -/
theorem clips_iff (hmiss : misses dest unit = false) (hd : -2147483648 ≤ dest.left ∧ -2147483648 ≤ dest.top) :
    (∃ c ∈ vmwClipCliprects (rects.map (relative box)) ⟨int32 (0 - dest.left), int32 (unit.hdisplay.toNat - dest.left),
        int32 (0 - dest.top), int32 (unit.vdisplay.toNat - dest.top)⟩, c.Has (x - dest.left) (y - dest.top)) ↔
      unit.area.Has x y ∧ Stands box dest rects x y := by
  obtain ⟨⟨hleft, htop⟩, -⟩ := misses_eq_false_iff.mp hmiss
  have hw := unit.hdisplay.toNat_lt
  have hh := unit.vdisplay.toNat_lt
  rw [mem_vmwClipCliprects]
  have hone : ∀ rect : Rect,
      ((max (int32 (0 - dest.left)) (relative box rect).x1.toNat ≤ x - dest.left ∧
          x - dest.left < min (int32 (unit.hdisplay.toNat - dest.left)) (relative box rect).x2.toNat) ∧
        max (int32 (0 - dest.top)) (relative box rect).y1.toNat ≤ y - dest.top ∧
          y - dest.top < min (int32 (unit.vdisplay.toNat - dest.top)) (relative box rect).y2.toNat) ↔
      unit.area.Has x y ∧ StandsAt box dest rect x y := by
    intro rect
    unfold relative
    dsimp only
    rw [uint16_toNat, uint16_toNat, uint16_toNat, uint16_toNat]
    rw [clip_axis hd.1 (by omega) (by omega) hleft (by omega) (by omega),
      clip_axis hd.2 (by omega) (by omega) htop (by omega) (by omega)]
    unfold Rect.Has StandsAt DisplayUnit.area
    dsimp only
    omega
  constructor
  · rintro ⟨t, ht, hhas⟩
    obtain ⟨rect, hrect, rfl⟩ := List.mem_map.mp ht
    obtain ⟨harea, hstands⟩ := (hone rect).mp hhas
    exact ⟨harea, rect, hrect, hstands⟩
  · rintro ⟨harea, rect, hrect, hstands⟩
    exact ⟨relative box rect, List.mem_map.mpr ⟨rect, hrect, rfl⟩, (hone rect).mpr ⟨harea, hstands⟩⟩

/-- The clip rectangles of the command for a unit. -/
def unitClips (box dest : Rect) (rects : List Rect) (unit : DisplayUnit) : List SVGASignedRect :=
  vmwClipCliprects (rects.map (relative box)) ⟨int32 (0 - dest.left), int32 (unit.hdisplay.toNat - dest.left),
    int32 (0 - dest.top), int32 (unit.vdisplay.toNat - dest.top)⟩

theorem blitUnit_eq_some_iff (hdest : destOf box destX destY unit = dest) :
    blitUnit sid box (rects.map (relative box)) destX destY unit = some cmd ↔
      misses dest unit = false ∧ unitClips box dest rects unit ≠ [] ∧
        cmd = ⟨sid, box, unit.unit, dest, unitClips box dest rects unit⟩ := by
  unfold blitUnit
  rw [hdest]
  dsimp only
  cases hmiss : misses dest unit with
  | true => exact iff_of_false (Option.some_ne_none cmd).symm fun h => Bool.noConfusion h.1
  | false =>
    rw [if_neg Bool.false_ne_true]
    change (match unitClips box dest rects unit with
      | [] => none
      | c :: cs => some (⟨sid, box, unit.unit, dest, c :: cs⟩ : BlitSurfaceToScreen)) = some cmd ↔ _
    cases hclips : unitClips box dest rects unit with
    | nil => exact iff_of_false (Option.some_ne_none cmd).symm fun h => h.2.1 rfl
    | cons c cs =>
      constructor
      · intro h
        exact ⟨rfl, List.cons_ne_nil c cs, (Option.some.inj h).symm⟩
      · rintro ⟨-, -, rfl⟩
        rfl

theorem stands_left (hrect : StandsAt box dest rect x y) : dest.left ≤ x ∧ dest.top ≤ y := by
  unfold StandsAt at hrect
  omega

theorem misses_of_stands (harea : unit.area.Has x y) (hstands : Stands box dest rects x y)
    (hlt : x < dest.right ∧ y < dest.bottom) : misses dest unit = false := by
  obtain ⟨rect, -, hat⟩ := hstands
  have hle := stands_left hat
  rw [misses_eq_false_iff]
  unfold DisplayUnit.area Rect.Has at harea
  dsimp only at harea
  omega

/-- What the command for a unit draws. -/
theorem blitUnit_draws (sid : UInt32) (hdest : destOf box destX destY unit = dest) :
    (∃ cmd, blitUnit sid box (rects.map (relative box)) destX destY unit = some cmd ∧ cmd.Draws x y sx sy) ↔
      (unit.area.Has x y ∧ Stands box dest rects x y) ∧ (x < dest.right ∧ y < dest.bottom) ∧
        sx = box.left + (x - dest.left) ∧ sy = box.top + (y - dest.top) := by
  have hd : -2147483648 ≤ dest.left ∧ -2147483648 ≤ dest.top := hdest ▸ destOf_bounds box destX destY unit
  constructor
  · rintro ⟨cmd, hcmd, hhas, hclip, hsrc⟩
    obtain ⟨hmiss, hne, rfl⟩ := (blitUnit_eq_some_iff hdest).mp hcmd
    exact ⟨(clips_iff hmiss hd).mp (hclip.resolve_left hne), ⟨hhas.1.2, hhas.2.2⟩, hsrc⟩
  · rintro ⟨⟨harea, hstands⟩, hlt, hsrc⟩
    obtain ⟨rect, hrect, hat⟩ := hstands
    have hle := stands_left hat
    have hmiss := misses_of_stands harea ⟨rect, hrect, hat⟩ hlt
    have hclip := (clips_iff hmiss hd).mpr ⟨harea, rect, hrect, hat⟩
    have hne : unitClips box dest rects unit ≠ [] := by
      obtain ⟨c, hc, -⟩ := hclip
      exact List.ne_nil_of_mem hc
    exact ⟨_, (blitUnit_eq_some_iff hdest).mpr ⟨hmiss, hne, rfl⟩, ⟨⟨hle.1, hlt.1⟩, hle.2, hlt.2⟩, .inr hclip, hsrc⟩

theorem clipOne_proper {clip : VmwClipRect} {t : DrmClipRect} {c : SVGASignedRect} (h : clipOne clip t = some c) :
    c.Proper := by
  unfold clipOne at h
  dsimp only at h
  split at h
  case isTrue => cases h
  case isFalse hx =>
    split at h
    case isTrue => cases h
    case isFalse hy =>
      cases h
      exact ⟨Int.not_le.mp hx, Int.not_le.mp hy⟩

/-- A command is written if and only if a rectangle has a pixel of a unit that is not missed. -/
theorem blitUnit_isSome_iff (hdest : destOf box destX destY unit = dest) :
    (∃ cmd, blitUnit sid box (rects.map (relative box)) destX destY unit = some cmd) ↔
      misses dest unit = false ∧ ∃ x y, unit.area.Has x y ∧ Stands box dest rects x y := by
  have hd : -2147483648 ≤ dest.left ∧ -2147483648 ≤ dest.top := hdest ▸ destOf_bounds box destX destY unit
  constructor
  · rintro ⟨cmd, hcmd⟩
    obtain ⟨hmiss, hne, -⟩ := (blitUnit_eq_some_iff hdest).mp hcmd
    obtain ⟨c, hc⟩ := List.exists_mem_of_ne_nil _ hne
    obtain ⟨t, -, hclip⟩ := List.mem_filterMap.mp hc
    obtain ⟨x, y, hhas⟩ := Rect.proper_iff.mp (clipOne_proper hclip)
    refine ⟨hmiss, x + dest.left, y + dest.top, (clips_iff hmiss hd).mp ⟨c, hc, ?_⟩⟩
    rw [Int.add_sub_cancel, Int.add_sub_cancel]
    exact hhas
  · rintro ⟨hmiss, x, y, hstands⟩
    obtain ⟨c, hc, -⟩ := (clips_iff hmiss hd).mpr hstands
    exact ⟨_, (blitUnit_eq_some_iff hdest).mpr ⟨hmiss, List.ne_nil_of_mem hc, rfl⟩⟩

end Unit

end Vmwgfx.Kms.Blit
