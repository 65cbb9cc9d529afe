import Vmwgfx.Kms.BlitTruth

/-! Blits between buffers and screens: `do_dmabuf_dirty_sou` and `vmw_kms_readback`. -/

namespace Vmwgfx.Kms.Gmrfb

open Lib Kms.Geometry Blit

/-- What the description of a framebuffer in a buffer is made of. -/
structure Framebuffer where
  id : Nat
  userHandle : UInt32
  bitsPerPixel : UInt32
  depth : UInt32
  pitch : UInt32

/-- `SVGAFifoCmdDefineGMRFB`; the fields of the format are 8 bits wide. -/
structure DefineGMRFB where
  gmrId : UInt32
  offset : UInt32
  bytesPerLine : UInt32
  bitsPerPixel : UInt8
  colorDepth : UInt8
  deriving DecidableEq

/-- `do_dmabuf_define_gmrfb`; alpha is emulated. -/
def doDmabufDefineGmrfb (fb : Framebuffer) : DefineGMRFB :=
  let depth := if fb.depth = 32 then 24 else fb.depth
  ⟨fb.userHandle, 0, fb.pitch, fb.bitsPerPixel.toUInt8, depth.toUInt8⟩

/-- The description that `vmw_kms_readback` writes. -/
def readbackDefineGmrfb (fb : Framebuffer) : DefineGMRFB :=
  ⟨fb.userHandle, 0, fb.pitch, fb.bitsPerPixel.toUInt8, fb.depth.toUInt8⟩

/-- `SVGAFifoCmdBlitGMRFBToScreen` and `SVGAFifoCmdBlitScreenToGMRFB`: a rectangle of a screen and its origin in the
framebuffer. -/
structure GmrfbBlit where
  screenId : Nat
  originX : Int
  originY : Int
  rect : SVGASignedRect
  deriving DecidableEq

section Loops

variable (unit : DisplayUnit)

/-- The edges of a clip rectangle on the unit. -/
def dirtyClip (clip : DrmClipRect) : Rect :=
  ⟨int32 (clip.x1.toNat - unit.x.toInt), int32 (clip.y1.toNat - unit.y.toInt), int32 (clip.x2.toNat - unit.x.toInt),
    int32 (clip.y2.toNat - unit.y.toInt)⟩

/-- The loop of `do_dmabuf_dirty_sou` over one clip rectangle. -/
def dirtyBlit (clip : DrmClipRect) : Option GmrfbBlit :=
  let c := dirtyClip unit clip
  if misses c unit then none
  else
    let right := min c.right unit.hdisplay.toNat
    let bottom := min c.bottom unit.vdisplay.toNat
    let moveX := min c.left 0
    let moveY := min c.top 0
    some ⟨unit.unit, int32 (clip.x1.toNat - moveX), int32 (clip.y1.toNat - moveY),
      ⟨c.left - moveX, c.top - moveY, right, bottom⟩⟩

/-- The edges of a rectangle on the unit. -/
def readbackClip (clip : DrmVmwRect) : Rect :=
  ⟨int32 (clip.x.toInt - unit.x.toInt), int32 (clip.y.toInt - unit.y.toInt),
    int32 (clip.x.toInt - unit.x.toInt + clip.w.toNat), int32 (clip.y.toInt - unit.y.toInt + clip.h.toNat)⟩

/-- The loop of `vmw_kms_readback` over one rectangle. -/
def readbackBlit (clip : DrmVmwRect) : Option GmrfbBlit :=
  let c := readbackClip unit clip
  let destX := if c.left < 0 then int32 (clip.x.toInt + -c.left) else clip.x.toInt
  let destY := if c.top < 0 then int32 (clip.y.toInt + -c.top) else clip.y.toInt
  let r : Rect := c.inter unit.area
  if misses r unit then none else some ⟨unit.unit, destX, destY, r⟩

end Loops

section Calls

variable (display : Display) (fb : Framebuffer)

/-- The commands of `do_dmabuf_dirty_sou`. -/
def doDmabufDirtySou (clips : List DrmClipRect) : DefineGMRFB × List GmrfbBlit :=
  (doDmabufDefineGmrfb fb, (display.shows fb.id).flatMap fun unit => clips.filterMap (dirtyBlit unit))

/-- The commands of `vmw_kms_readback`. -/
def vmwKmsReadback (clips : List DrmVmwRect) : DefineGMRFB × List GmrfbBlit :=
  (readbackDefineGmrfb fb, (display.shows fb.id).flatMap fun unit => clips.filterMap (readbackBlit unit))

end Calls

/-- The region of the framebuffer on the unit. -/
def onUnit (unit : DisplayUnit) (region : Rect) : Rect :=
  (Rect.mk (region.left - unit.x.toInt) (region.top - unit.y.toInt) (region.right - unit.x.toInt)
    (region.bottom - unit.y.toInt)).inter unit.area

/-- The blit of a region: its part on the unit, when there is one. -/
def blitOf (unit : DisplayUnit) (region : Rect) : Option GmrfbBlit :=
  let r := onUnit unit region
  if r.Proper then some ⟨unit.unit, r.left + unit.x.toInt, r.top + unit.y.toInt, r⟩ else none

section Device

variable {α : Type}

/-- The device draws a rectangle of a screen from the framebuffer. -/
def GmrfbBlit.draw (content : Int → Int → α) (screen : Nat → Int → Int → α) (b : GmrfbBlit) : Nat → Int → Int → α :=
  fun id x y =>
    if id = b.screenId ∧ b.rect.Has x y then content (x - b.rect.left + b.originX) (y - b.rect.top + b.originY)
    else screen id x y

/-- The device reads a rectangle of a screen back into the framebuffer. -/
def GmrfbBlit.read (screen : Nat → Int → Int → α) (content : Int → Int → α) (b : GmrfbBlit) : Int → Int → α :=
  fun x y =>
    if b.rect.Has (x - b.originX + b.rect.left) (y - b.originY + b.rect.top) then
      screen b.screenId (x - b.originX + b.rect.left) (y - b.originY + b.rect.top)
    else content x y

def drawAll (content : Int → Int → α) (screen : Nat → Int → Int → α) (bs : List GmrfbBlit) : Nat → Int → Int → α :=
  bs.foldl (GmrfbBlit.draw content) screen

def readAll (screen : Nat → Int → Int → α) (content : Int → Int → α) (bs : List GmrfbBlit) : Int → Int → α :=
  bs.foldl (GmrfbBlit.read screen) content

end Device

structure Input where
  display : Display
  fb : Framebuffer
  clips : List DrmClipRect
  rects : List DrmVmwRect

/-- A readback of the regions of a dirty update, after it, leaves the buffer as it is. -/
def RoundTrip (input : Input) : Prop :=
  input.clips.map DrmClipRect.edges = input.rects.map region → ∀ (α : Type) (content : Int → Int → α) (screen : Nat → Int → Int → α),
    readAll (drawAll content screen (doDmabufDirtySou input.display input.fb input.clips).2) content
      (vmwKmsReadback input.display input.fb input.rects).2 = content

/-- Both calls blit the parts of the regions on the units, and agree. -/
structure Exact (input : Input) : Prop where
  dirty : ∀ unit ∈ input.display.shows input.fb.id, ∀ clip ∈ input.clips, dirtyBlit unit clip = blitOf unit clip.edges
  readback : ∀ unit ∈ input.display.shows input.fb.id, ∀ rect ∈ input.rects,
    readbackBlit unit rect = blitOf unit (region rect)
  define : (doDmabufDirtySou input.display input.fb input.clips).1 =
    (vmwKmsReadback input.display input.fb input.rects).1
  roundTrip : RoundTrip input

/-- The edges of the rectangle on the unit are `int`s. -/
def EdgesOn (unit : DisplayUnit) (clip : DrmVmwRect) : Prop :=
  (-2147483648 ≤ clip.x.toInt - unit.x.toInt ∧ clip.x.toInt - unit.x.toInt + clip.w.toNat < 2147483648) ∧
    -2147483648 ≤ clip.y.toInt - unit.y.toInt ∧ clip.y.toInt - unit.y.toInt + clip.h.toNat < 2147483648

/-- `dirty`: a rectangle that is empty or inverted is missed by the unit, and a unit without pixels misses all.  `readback`: a rectangle is missed where it
has no part on the unit, and else its edges on the unit are `int`s. -/
structure Agrees (input : Input) : Prop where
  dirty : ∀ unit ∈ input.display.shows input.fb.id, ∀ clip ∈ input.clips,
    ¬ (clip.edges.Proper ∧ unit.area.Proper) → misses (dirtyClip unit clip) unit = true
  readback : ∀ unit ∈ input.display.shows input.fb.id, ∀ rect ∈ input.rects,
    misses ((readbackClip unit rect).inter unit.area) unit = true ∧ ¬ (onUnit unit (region rect)).Proper ∨
      (onUnit unit (region rect)).Proper ∧ EdgesOn unit rect
  depth : input.fb.depth ≠ 32

section Dirty

variable {unit : DisplayUnit} {clip : DrmClipRect}

theorem dirty_axis_missed {x₁ x₂ X W : Int} (hx₁ : 0 ≤ x₁) (hx₂ : x₂ ≤ 65535) (hX : -2147483648 ≤ X)
    (hX' : X < 2147483648) (hx₁' : x₁ ≤ 65535) (hx₂' : 0 ≤ x₂) (hW : 0 ≤ W) (hW' : W ≤ 65535)
    (hmiss : W ≤ int32 (x₁ - X) ∨ int32 (x₂ - X) ≤ 0) : ¬ max (x₁ - X) 0 < min (x₂ - X) W := by
  unfold int32 at hmiss
  omega

theorem dirty_axis_hit {x₁ x₂ X W : Int} (hx₁ : 0 ≤ x₁) (hx₂ : x₂ ≤ 65535) (hX : -2147483648 ≤ X)
    (hX' : X < 2147483648) (hlt : x₁ < x₂) (hW : 0 < W) (hW' : W ≤ 65535) (hleft : int32 (x₁ - X) < W)
    (hright : 0 < int32 (x₂ - X)) :
    max (x₁ - X) 0 < min (x₂ - X) W ∧ int32 (x₁ - min (int32 (x₁ - X)) 0) = max (x₁ - X) 0 + X ∧
      int32 (x₁ - X) - min (int32 (x₁ - X)) 0 = max (x₁ - X) 0 ∧ min (int32 (x₂ - X)) W = min (x₂ - X) W := by
  unfold int32 at *
  omega

theorem blitOf_eq_none {region : Rect} (h : ¬ (onUnit unit region).Proper) : blitOf unit region = none := if_neg h

theorem onUnit_proper {region : Rect} (h : (onUnit unit region).Proper) : region.Proper ∧ unit.area.Proper := by
  obtain ⟨x, y, hxy⟩ := Rect.proper_iff.mp h
  obtain ⟨hregion, harea⟩ := Rect.has_inter.mp hxy
  refine ⟨Rect.proper_iff.mpr ⟨x + unit.x.toInt, y + unit.y.toInt, ?_⟩, Rect.proper_iff.mpr ⟨x, y, harea⟩⟩
  unfold Rect.Has at *
  dsimp only at *
  omega

theorem dirty_missed (hmiss : misses (dirtyClip unit clip) unit = true) : ¬ (onUnit unit clip.edges).Proper := by
  have h1 := clip.x1.toNat_lt
  have h2 := clip.y1.toNat_lt
  have h3 := clip.x2.toNat_lt
  have h4 := clip.y2.toNat_lt
  have hw := unit.hdisplay.toNat_lt
  have hh := unit.vdisplay.toNat_lt
  have hnot : ¬ misses (dirtyClip unit clip) unit = false := by
    rw [hmiss]
    exact Bool.noConfusion
  rw [misses_eq_false_iff] at hnot
  rintro ⟨hx, hy⟩
  have hxaxis := mt (dirty_axis_missed (Int.natCast_nonneg _) (by omega) unit.x.le_toInt unit.x.toInt_lt (by omega)
    (Int.natCast_nonneg _) (Int.natCast_nonneg _) (by omega)) (not_not.mpr hx)
  have hyaxis := mt (dirty_axis_missed (Int.natCast_nonneg _) (by omega) unit.y.le_toInt unit.y.toInt_lt (by omega)
    (Int.natCast_nonneg _) (Int.natCast_nonneg _) (by omega)) (not_not.mpr hy)
  obtain ⟨hleft, hright⟩ := not_or.mp hxaxis
  obtain ⟨htop, hbottom⟩ := not_or.mp hyaxis
  exact hnot ⟨⟨Int.not_le.mp hleft, Int.not_le.mp htop⟩, Int.not_le.mp hright, Int.not_le.mp hbottom⟩

theorem dirty_hit (hmiss : misses (dirtyClip unit clip) unit = false) (hclip : clip.edges.Proper)
    (harea : unit.area.Proper) : dirtyBlit unit clip = blitOf unit clip.edges := by
  have h1 := clip.x1.toNat_lt
  have h2 := clip.y1.toNat_lt
  have h3 := clip.x2.toNat_lt
  have h4 := clip.y2.toNat_lt
  have hw := unit.hdisplay.toNat_lt
  have hh := unit.vdisplay.toNat_lt
  have hltx : (clip.x1.toNat : Int) < clip.x2.toNat := hclip.1
  have hlty : (clip.y1.toNat : Int) < clip.y2.toNat := hclip.2
  have hwidth : (0 : Int) < unit.hdisplay.toNat := harea.1
  have hheight : (0 : Int) < unit.vdisplay.toNat := harea.2
  obtain ⟨⟨hleft, htop⟩, hright, hbottom⟩ := misses_eq_false_iff.mp hmiss
  obtain ⟨hx, hox, hlx, hrx⟩ := dirty_axis_hit (Int.natCast_nonneg _) (by omega) unit.x.le_toInt unit.x.toInt_lt hltx
    hwidth (by omega) hleft hright
  obtain ⟨hy, hoy, hly, hry⟩ := dirty_axis_hit (Int.natCast_nonneg _) (by omega) unit.y.le_toInt unit.y.toInt_lt hlty
    hheight (by omega) htop hbottom
  have hproper : (onUnit unit clip.edges).Proper := ⟨hx, hy⟩
  unfold dirtyBlit blitOf
  dsimp only
  rw [hmiss, if_neg Bool.false_ne_true, if_pos hproper]
  unfold dirtyClip
  dsimp only
  rw [hox, hoy, hlx, hly, hrx, hry]
  rfl

theorem dirty_eq_iff :
    dirtyBlit unit clip = blitOf unit clip.edges ↔
      (¬ (clip.edges.Proper ∧ unit.area.Proper) → misses (dirtyClip unit clip) unit = true) := by
  cases hmiss : misses (dirtyClip unit clip) unit with
  | true =>
    refine iff_of_true ?_ fun _ => rfl
    rw [blitOf_eq_none (dirty_missed hmiss)]
    unfold dirtyBlit
    dsimp only
    rw [hmiss]
    rfl
  | false =>
    constructor
    · intro heq hnot
      have hsome : (dirtyBlit unit clip).isSome = true := by
        unfold dirtyBlit
        dsimp only
        rw [hmiss]
        rfl
      rw [heq, blitOf_eq_none fun h => hnot (onUnit_proper h)] at hsome
      exact hsome
    · intro h
      have hboth : clip.edges.Proper ∧ unit.area.Proper := by
        by_contra hnot
        exact Bool.noConfusion (h hnot)
      exact dirty_hit hmiss hboth.1 hboth.2

end Dirty

section Readback

variable {unit : DisplayUnit} {clip : DrmVmwRect}

/-- One axis of a readback: the part that is read and its origin are right if and only if the edges are `int`s. -/
theorem readback_axis {x X w W : Int} (hX : -2147483648 ≤ X) (hX' : X < 2147483648) (hx : -2147483648 ≤ x)
    (hx' : x < 2147483648) (hw : 0 ≤ w) (hw' : w < 4294967296) (hW' : W ≤ 65535)
    (hproper : max (x - X) 0 < min (x - X + w) W) :
    ((if int32 (x - X) < 0 then int32 (x + -int32 (x - X)) else x) = max (x - X) 0 + X ∧
        max (int32 (x - X)) 0 = max (x - X) 0 ∧ min (int32 (x - X + w)) W = min (x - X + w) W) ↔
      -2147483648 ≤ x - X ∧ x - X + w < 2147483648 := by
  unfold int32
  split <;> omega

theorem readback_axis_hit {x X w W : Int} (hw : 0 ≤ w) (hW' : W ≤ 65535)
    (hproper : max (x - X) 0 < min (x - X + w) W) (hl : -2147483648 ≤ x - X) (hr : x - X + w < 2147483648) :
    max (int32 (x - X)) 0 < W ∧ 0 < min (int32 (x - X + w)) W := by
  unfold int32
  omega

theorem onUnit_region (unit : DisplayUnit) (clip : DrmVmwRect) :
    onUnit unit (region clip) =
      ⟨max (clip.x.toInt - unit.x.toInt) 0, max (clip.y.toInt - unit.y.toInt) 0,
        min (clip.x.toInt - unit.x.toInt + clip.w.toNat) unit.hdisplay.toNat,
        min (clip.y.toInt - unit.y.toInt + clip.h.toNat) unit.vdisplay.toNat⟩ := by
  unfold onUnit region Rect.inter DisplayUnit.area
  dsimp only
  rw [add_sub_right_comm, add_sub_right_comm clip.y.toInt]

theorem readback_hit (hproper : (onUnit unit (region clip)).Proper) (hedges : EdgesOn unit clip) :
    misses ((readbackClip unit clip).inter unit.area) unit = false := by
  have hw := unit.hdisplay.toNat_lt
  have hh := unit.vdisplay.toNat_lt
  rw [onUnit_region] at hproper
  obtain ⟨hleft, hright⟩ := readback_axis_hit (Int.natCast_nonneg _) (by omega) hproper.1 hedges.1.1 hedges.1.2
  obtain ⟨htop, hbottom⟩ := readback_axis_hit (Int.natCast_nonneg _) (by omega) hproper.2 hedges.2.1 hedges.2.2
  exact misses_eq_false_iff.mpr ⟨⟨hleft, htop⟩, hright, hbottom⟩

theorem readback_eq_of_hit (hmiss : misses ((readbackClip unit clip).inter unit.area) unit = false)
    (hproper : (onUnit unit (region clip)).Proper) :
    readbackBlit unit clip = blitOf unit (region clip) ↔ EdgesOn unit clip := by
  have hw := unit.hdisplay.toNat_lt
  have hh := unit.vdisplay.toNat_lt
  have hcw := clip.w.toNat_lt
  have hch := clip.h.toNat_lt
  have hproper' := hproper
  rw [onUnit_region] at hproper'
  have hx := readback_axis unit.x.le_toInt unit.x.toInt_lt clip.x.le_toInt clip.x.toInt_lt (Int.natCast_nonneg _)
    (by omega) (by omega) hproper'.1
  have hy := readback_axis unit.y.le_toInt unit.y.toInt_lt clip.y.le_toInt clip.y.toInt_lt (Int.natCast_nonneg _)
    (by omega) (by omega) hproper'.2
  unfold EdgesOn
  rw [← hx, ← hy]
  unfold readbackBlit blitOf
  dsimp only
  rw [hmiss, if_neg Bool.false_ne_true, if_pos hproper, onUnit_region, Option.some_inj, GmrfbBlit.mk.injEq]
  unfold readbackClip Rect.inter DisplayUnit.area
  dsimp only
  rw [Rect.mk.injEq]
  constructor
  · rintro ⟨-, hox, hoy, hl, ht, hr, hb⟩
    exact ⟨⟨hox, hl, hr⟩, hoy, ht, hb⟩
  · rintro ⟨⟨hox, hl, hr⟩, hoy, ht, hb⟩
    exact ⟨rfl, hox, hoy, hl, ht, hr, hb⟩

theorem readback_eq_iff :
    readbackBlit unit clip = blitOf unit (region clip) ↔
      misses ((readbackClip unit clip).inter unit.area) unit = true ∧ ¬ (onUnit unit (region clip)).Proper ∨
        (onUnit unit (region clip)).Proper ∧ EdgesOn unit clip := by
  by_cases hproper : (onUnit unit (region clip)).Proper
  · rw [and_iff_right hproper, or_iff_right fun h => h.2 hproper]
    cases hmiss : misses ((readbackClip unit clip).inter unit.area) unit with
    | true =>
      refine iff_of_false (fun heq => ?_) fun hedges => ?_
      · unfold readbackBlit blitOf at heq
        dsimp only at heq
        rw [hmiss, if_pos rfl, if_pos hproper] at heq
        cases heq
      · rw [readback_hit hproper hedges] at hmiss
        cases hmiss
    | false => exact readback_eq_of_hit hmiss hproper
  · rw [blitOf_eq_none hproper, or_iff_left fun h => hproper h.1, and_iff_left hproper]
    unfold readbackBlit
    dsimp only
    cases hmiss : misses ((readbackClip unit clip).inter unit.area) unit with
    | true => exact iff_of_true rfl rfl
    | false => exact iff_of_false (fun heq => Option.some_ne_none _ heq) Bool.false_ne_true

end Readback

section RoundTrip

variable {α : Type} {content : Int → Int → α} {screen : Nat → Int → Int → α} {pos : Nat → Int × Int}
  {b : GmrfbBlit} {bs : List GmrfbBlit}

/-- The origin of the blit is where its rectangle is in the framebuffer. -/
def GmrfbBlit.At (pos : Nat → Int × Int) (b : GmrfbBlit) : Prop :=
  b.originX = b.rect.left + (pos b.screenId).1 ∧ b.originY = b.rect.top + (pos b.screenId).2

/-- The pixels of the screens that show the framebuffer. -/
def Shown (pos : Nat → Int × Int) (content : Int → Int → α) (screen : Nat → Int → Int → α) (b : GmrfbBlit) : Prop :=
  ∀ x y, b.rect.Has x y → screen b.screenId x y = content (x + (pos b.screenId).1) (y + (pos b.screenId).2)

/-- A blit shows its pixels, and keeps those that are shown. -/
theorem draw_shown (hb : b.At pos) : Shown pos content (b.draw content screen) b := by
  intro x y hxy
  unfold GmrfbBlit.draw
  rw [if_pos ⟨rfl, hxy⟩, hb.1, hb.2]
  congr 1 <;> omega

theorem Shown.draw {b' : GmrfbBlit} (hb : b.At pos) (h : Shown pos content screen b') :
    Shown pos content (b.draw content screen) b' := by
  intro x y hxy
  unfold GmrfbBlit.draw
  split
  case isTrue hboth =>
    rw [hb.1, hb.2, hboth.1]
    congr 1 <;> omega
  case isFalse => exact h x y hxy

theorem drawAll_shown (hbs : ∀ b ∈ bs, b.At pos) : ∀ b ∈ bs, Shown pos content (drawAll content screen bs) b := by
  have hkeep : ∀ (bs : List GmrfbBlit) (screen : Nat → Int → Int → α) (b : GmrfbBlit), (∀ b ∈ bs, b.At pos) →
      Shown pos content screen b → Shown pos content (drawAll content screen bs) b := by
    intro bs
    induction bs with
    | nil => exact fun _ _ _ h => h
    | cons c cs ih =>
      intro screen b hcs h
      exact ih _ b (fun b hb => hcs b (List.mem_cons_of_mem c hb)) (h.draw (hcs c List.mem_cons_self))
  unfold drawAll at *
  induction bs generalizing screen with
  | nil => exact fun b hb => absurd hb List.not_mem_nil
  | cons c cs ih =>
    intro b hb
    have hcs : ∀ b ∈ cs, b.At pos := fun b hb => hbs b (List.mem_cons_of_mem c hb)
    rcases List.mem_cons.mp hb with rfl | hb
    · exact hkeep cs _ b hcs (draw_shown (hbs b List.mem_cons_self))
    · exact ih hcs b hb

theorem read_shown (hb : b.At pos) (h : Shown pos content screen b) : b.read screen content = content := by
  funext x y
  unfold GmrfbBlit.read
  split
  case isTrue hxy =>
    rw [h _ _ hxy, hb.1, hb.2]
    congr 1 <;> omega
  case isFalse => rfl

theorem readAll_shown (hbs : ∀ b ∈ bs, b.At pos) (h : ∀ b ∈ bs, Shown pos content screen b) :
    readAll screen content bs = content := by
  unfold readAll
  induction bs with
  | nil => rfl
  | cons c cs ih =>
    rw [List.foldl_cons, read_shown (hbs c List.mem_cons_self) (h c List.mem_cons_self)]
    exact ih (fun b hb => hbs b (List.mem_cons_of_mem c hb)) fun b hb => h b (List.mem_cons_of_mem c hb)

end RoundTrip

section Truth

variable {input : Input}

/-- Where the unit of the number is in the framebuffer. -/
def posOf (display : Display) (id : Nat) : Int × Int :=
  ((display.units.find? fun unit => unit.unit = id).map fun unit => (unit.x.toInt, unit.y.toInt)).getD (0, 0)

theorem posOf_unit {display : Display} {unit : DisplayUnit} (hunit : unit ∈ display.units) :
    posOf display unit.unit = (unit.x.toInt, unit.y.toInt) := by
  obtain ⟨found, hfound⟩ : ∃ found, (display.units.find? fun u => u.unit = unit.unit) = some found := by
    apply Option.isSome_iff_exists.mp
    rw [List.find?_isSome]
    exact ⟨unit, hunit, by simp⟩
  have hid : found.unit = unit.unit := by simpa using List.find?_some hfound
  have heq : found = unit := List.inj_on_of_nodup_map display.nodup (List.mem_of_find?_eq_some hfound) hunit hid
  unfold posOf
  rw [hfound, heq]
  rfl

/-- The blits of regions on the units that show a framebuffer. -/
def blitsOf (display : Display) (fb : Nat) (regions : List Rect) : List GmrfbBlit :=
  (display.shows fb).flatMap fun unit => regions.filterMap (blitOf unit)

theorem blitsOf_at {display : Display} {fb : Nat} {regions : List Rect} :
    ∀ b ∈ blitsOf display fb regions, b.At (posOf display) := by
  intro b hb
  obtain ⟨unit, hunit, hb⟩ := List.mem_flatMap.mp hb
  obtain ⟨region, -, hb⟩ := List.mem_filterMap.mp hb
  unfold blitOf at hb
  dsimp only at hb
  split at hb
  case isFalse => cases hb
  case isTrue =>
    cases hb
    unfold GmrfbBlit.At
    dsimp only
    rw [posOf_unit (List.mem_of_mem_filter hunit)]
    exact ⟨rfl, rfl⟩

theorem dirty_blits (h : ∀ unit ∈ input.display.shows input.fb.id, ∀ clip ∈ input.clips,
    dirtyBlit unit clip = blitOf unit clip.edges) :
    (doDmabufDirtySou input.display input.fb input.clips).2 =
      blitsOf input.display input.fb.id (input.clips.map DrmClipRect.edges) := by
  apply List.flatMap_congr
  intro unit hunit
  rw [List.filterMap_map]
  exact List.filterMap_congr fun clip hclip => h unit hunit clip hclip

theorem readback_blits (h : ∀ unit ∈ input.display.shows input.fb.id, ∀ rect ∈ input.rects,
    readbackBlit unit rect = blitOf unit (region rect)) :
    (vmwKmsReadback input.display input.fb input.rects).2 =
      blitsOf input.display input.fb.id (input.rects.map region) := by
  apply List.flatMap_congr
  intro unit hunit
  rw [List.filterMap_map]
  exact List.filterMap_congr fun rect hrect => h unit hunit rect hrect

theorem roundTrip (hdirty : ∀ unit ∈ input.display.shows input.fb.id, ∀ clip ∈ input.clips,
    dirtyBlit unit clip = blitOf unit clip.edges) (hreadback : ∀ unit ∈ input.display.shows input.fb.id,
      ∀ rect ∈ input.rects, readbackBlit unit rect = blitOf unit (region rect)) : RoundTrip input := by
  intro hsame α content screen
  rw [dirty_blits hdirty, readback_blits hreadback, ← hsame]
  exact readAll_shown blitsOf_at (drawAll_shown blitsOf_at)

theorem define_eq_iff (fb : Framebuffer) : doDmabufDefineGmrfb fb = readbackDefineGmrfb fb ↔ fb.depth ≠ 32 := by
  unfold doDmabufDefineGmrfb readbackDefineGmrfb
  by_cases hdepth : fb.depth = 32
  · rw [if_pos hdepth, hdepth]
    refine iff_of_false (fun heq => ?_) (not_not.mpr rfl)
    exact absurd (congrArg DefineGMRFB.colorDepth heq) (show (24 : UInt32).toUInt8 ≠ (32 : UInt32).toUInt8 from by decide)
  · rw [if_neg hdepth]
    exact iff_of_true rfl hdepth

/-- The calls blit the parts of the regions on the units, and agree, if and only if no empty rectangle hits a unit,
the edges of a rectangle do not wrap, and the framebuffer has no alpha. -/
theorem gmrfb_exact_iff (input : Input) : Exact input ↔ Agrees input := by
  constructor
  · intro h
    exact {
      dirty := fun unit hunit clip hclip => dirty_eq_iff.mp (h.dirty unit hunit clip hclip)
      readback := fun unit hunit rect hrect => readback_eq_iff.mp (h.readback unit hunit rect hrect)
      depth := (define_eq_iff input.fb).mp h.define }
  · intro h
    have hdirty := fun unit hunit clip hclip => dirty_eq_iff.mpr (h.dirty unit hunit clip hclip)
    have hreadback := fun unit hunit rect hrect => readback_eq_iff.mpr (h.readback unit hunit rect hrect)
    exact {
      dirty := hdirty
      readback := hreadback
      define := (define_eq_iff input.fb).mpr h.depth
      roundTrip := roundTrip hdirty hreadback }

end Truth

/-- A framebuffer of the depth. -/
def fbOf (depth : UInt32) : Framebuffer := ⟨1, 7, 32, depth, 2560⟩

/-- An empty rectangle is blitted; a rectangle whose right edge is 2^32 is not read back; the depth 32 is described in
two ways. -/
theorem gmrfb_wrong :
    ¬ Exact ⟨oneUnit, fbOf 24, [⟨10, 10, 10, 20⟩], []⟩ ∧ ¬ Exact ⟨oneUnit, fbOf 24, [], [⟨1, 0, 0xFFFFFFFF, 10⟩]⟩ ∧
      ¬ Exact ⟨oneUnit, fbOf 32, [], []⟩ := by
  refine ⟨fun h => ?_, fun h => ?_, fun h => ?_⟩
  · exact absurd (h.dirty ⟨0, some 1, 0, 0, 640, 480⟩ (List.mem_singleton.mpr rfl) _ (List.mem_singleton.mpr rfl))
      (by decide)
  · exact absurd (h.readback ⟨0, some 1, 0, 0, 640, 480⟩ (List.mem_singleton.mpr rfl) _ (List.mem_singleton.mpr rfl))
      (by decide)
  · exact absurd h.define (by decide)

end Vmwgfx.Kms.Gmrfb
