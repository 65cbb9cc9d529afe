import Vmwgfx.Kms.Blit

/-! When the blits of a surface draw exactly what is asked for. -/

namespace Vmwgfx.Kms.Blit

open Lib Kms.Geometry

/-- The bounding box of the rectangles. -/
def boxOf : List Rect → Rect
  | [] => ⟨0, 0, 0, 0⟩
  | first :: rest => Rect.box first rest

/-- What a rectangle of the list stands for: one that ends left of the box is taken to end with the box, as is one
that ends above it. -/
def stretched (box rect : Rect) : Rect where
  left := rect.left
  top := rect.top
  right := if rect.right < box.left then box.right else rect.right
  bottom := if rect.bottom < box.top then box.bottom else rect.bottom

/-- The box at its place on the unit, as integers. -/
def placed (box : Rect) (destX destY : Int) (unit : DisplayUnit) : Rect :=
  ⟨box.left + destX - unit.x.toInt, box.top + destY - unit.y.toInt, box.right + destX - unit.x.toInt,
    box.bottom + destY - unit.y.toInt⟩

/-- The rectangle is one of `int`s. -/
def Fits (r : Rect) : Prop := r.Within ⟨-2147483648, -2147483648, 2147483647, 2147483647⟩

namespace Input

/-- The rectangles as the code computes them. -/
def rects : Input → List Rect
  | .dirty _ fb annotateCopy clips _ => (usedClips fb annotateCopy clips).map DrmClipRect.edges
  | .present _ _ _ _ _ clips _ _ => clips.map edges

def box (input : Input) : Rect := boxOf input.rects

/-- The pixel of the unit is asked for. -/
def Asked (input : Input) (unit : DisplayUnit) (x y : Int) : Prop :=
  ∃ r ∈ input.regions, r.Has (x + unit.x.toInt - input.offset.1) (y + unit.y.toInt - input.offset.2)

/-- On the unit the rectangles that the code goes to stand for what is asked for. -/
def StretchedAgree (input : Input) (unit : DisplayUnit) : Prop :=
  ∀ x y, unit.area.Has x y →
    ((∃ r ∈ input.rects, (stretched input.box r).Has (x + unit.x.toInt) (y + unit.y.toInt)) ↔ input.Asked unit x y)

/-- Where the box fits on the unit, what is left of the rectangles in 16 bits stands for what is asked for; elsewhere
nothing is asked for, and the box in 32 bits shows nothing. -/
def TruncatedAgree (input : Input) (unit : DisplayUnit) : Prop :=
  Fits (placed input.box input.offset.1 input.offset.2 unit) ∧
      (∀ x y, unit.area.Has x y →
        (Stands input.box (placed input.box input.offset.1 input.offset.2 unit) input.rects x y ↔
          input.Asked unit x y)) ∨
    (∀ x y, unit.area.Has x y → ¬ input.Asked unit x y) ∧
      (misses (destOf input.box input.offset.1 input.offset.2 unit) unit = false → ∀ x y, unit.area.Has x y →
        ¬ Stands input.box (destOf input.box input.offset.1 input.offset.2 unit) input.rects x y)

/-- The rectangles, as a dirty update and a present take them, agree with what is asked for. -/
def Agrees (input : Input) : Prop :=
  ∀ unit ∈ input.display.shows input.fb,
    match input with
    | .dirty .. => input.StretchedAgree unit
    | .present .. => input.TruncatedAgree unit

end Input

section Cmds

variable {sid : UInt32} {display : Display} {fb : Nat} {box : Rect} {rects : List Rect} {destX destY : Int}
  {unit : DisplayUnit} {cmd : BlitSurfaceToScreen}

/-- A command for the screen of a unit is the one for the unit. -/
theorem mem_cmds_iff (hunit : unit ∈ display.shows fb) :
    (cmd ∈ (display.shows fb).filterMap (blitUnit sid box (rects.map (relative box)) destX destY) ∧
        cmd.destScreenId = unit.unit) ↔
      blitUnit sid box (rects.map (relative box)) destX destY unit = some cmd := by
  have hscreen : ∀ u cmd, blitUnit sid box (rects.map (relative box)) destX destY u = some cmd →
      cmd.destScreenId = u.unit := by
    intro u cmd hcmd
    obtain ⟨-, -, rfl⟩ := (blitUnit_eq_some_iff rfl).mp hcmd
    rfl
  constructor
  · rintro ⟨hmem, hid⟩
    obtain ⟨u, hu, hcmd⟩ := List.mem_filterMap.mp hmem
    have heq : u = unit := by
      apply List.inj_on_of_nodup_map display.nodup (List.mem_of_mem_filter hu) (List.mem_of_mem_filter hunit)
      exact (hscreen u cmd hcmd).symm.trans hid
    exact heq ▸ hcmd
  · intro hcmd
    exact ⟨List.mem_filterMap.mpr ⟨unit, hunit, hcmd⟩, hscreen unit cmd hcmd⟩

end Cmds

section Axis

variable {L R l r d X x : Int}

/-- One axis of a dirty update. -/
theorem dirty_axis (hL : 0 ≤ L) (hl : L ≤ l) (hl' : l ≤ 65535) (hr : 0 ≤ r) (hr' : r ≤ R) (hR : R ≤ 65535)
    (hX : -2147483648 ≤ X) (hX' : X < 2147483648) (hx : 0 ≤ x) (hx' : x ≤ 65535) :
    (((l - L) % 65536 ≤ x - int32 (L + 0 - X) ∧ x - int32 (L + 0 - X) < (r - L) % 65536) ∧ x < int32 (R + 0 - X)) ↔
      l ≤ x + X ∧ x + X < if r < L then R else r := by
  unfold int32
  by_cases hlt : r < L
  · rw [if_pos hlt]
    omega
  · rw [if_neg hlt]
    omega

end Axis

/-- The command for a unit draws what is asked for, by its rectangles. -/
def UnitExact (sid : UInt32) (box : Rect) (rects : List Rect) (input : Input) (unit : DisplayUnit) : Prop :=
  (∀ cmd, blitUnit sid box (rects.map (relative box)) input.offset.1 input.offset.2 unit = some cmd → cmd.Unscaled) ∧
    ∀ x y sx sy,
      ((unit.area.Has x y ∧ Stands box (destOf box input.offset.1 input.offset.2 unit) rects x y) ∧
          (x < (destOf box input.offset.1 input.offset.2 unit).right ∧
            y < (destOf box input.offset.1 input.offset.2 unit).bottom) ∧
            sx = box.left + (x - (destOf box input.offset.1 input.offset.2 unit).left) ∧
              sy = box.top + (y - (destOf box input.offset.1 input.offset.2 unit).top)) ↔
        unit.area.Has x y ∧ (∃ r ∈ input.regions, r.Has sx sy) ∧ sx = x + unit.x.toInt - input.offset.1 ∧
          sy = y + unit.y.toInt - input.offset.2

theorem exactOn_iff {sid : UInt32} {display : Display} {fb : Nat} {box : Rect} {rects : List Rect} {unit : DisplayUnit}
    (input : Input) (hunit : unit ∈ display.shows fb) :
    ExactOn input ((display.shows fb).filterMap
        (blitUnit sid box (rects.map (relative box)) input.offset.1 input.offset.2)) unit ↔
      UnitExact sid box rects input unit := by
  unfold ExactOn UnitExact
  apply and_congr
  · constructor
    · intro h cmd hcmd
      obtain ⟨hmem, hid⟩ := (mem_cmds_iff hunit).mpr hcmd
      exact h cmd hmem hid
    · intro h cmd hmem hid
      exact h cmd ((mem_cmds_iff hunit).mp ⟨hmem, hid⟩)
  · apply forall_congr' fun x => forall_congr' fun y => forall_congr' fun sx => forall_congr' fun sy => ?_
    rw [← blitUnit_draws sid rfl]
    apply iff_congr _ Iff.rfl
    apply exists_congr fun cmd => ?_
    rw [← and_assoc, mem_cmds_iff hunit]

section Dirty

variable {box : Rect} {rects : List Rect} {unit : DisplayUnit} {x y : Int}

/-- The edges of the rectangles are 16 bits wide. -/
def Short (r : Rect) : Prop := r.Within ⟨0, 0, 65535, 65535⟩ ∧ (0 ≤ r.right ∧ 0 ≤ r.bottom) ∧ r.left ≤ 65535 ∧ r.top ≤ 65535

theorem DrmClipRect.short (c : DrmClipRect) : Short c.edges := by
  have h1 := c.x1.toNat_lt
  have h2 := c.y1.toNat_lt
  have h3 := c.x2.toNat_lt
  have h4 := c.y2.toNat_lt
  unfold Short Rect.Within DrmClipRect.edges
  dsimp only
  omega

theorem Short.hull (r s : Rect) (hr : Short r) (hs : Short s) : Short (r.hull s) := by
  unfold Short Rect.Within Rect.hull at *
  dsimp only at *
  omega

variable (hbox : Short box)

include hbox

theorem dirty_place (harea : unit.area.Has x y) (hstands : Stands box (destOf box 0 0 unit) rects x y) :
    (destOf box 0 0 unit).left = box.left - unit.x.toInt ∧ (destOf box 0 0 unit).top = box.top - unit.y.toInt := by
  have hw := unit.hdisplay.toNat_lt
  have hh := unit.vdisplay.toNat_lt
  have hX := unit.x.le_toInt
  have hX' := unit.x.toInt_lt
  have hY := unit.y.le_toInt
  have hY' := unit.y.toInt_lt
  obtain ⟨r, hr, hat⟩ := hstands
  unfold StandsAt destOf int32 at hat
  unfold DisplayUnit.area Rect.Has at harea
  unfold Short Rect.Within at hbox
  unfold destOf int32
  dsimp only at *
  omega

/-- A command that is written is not scaled. -/
theorem dirty_unscaled {sid : UInt32} {cmd : BlitSurfaceToScreen}
    (hcmd : blitUnit sid box (rects.map (relative box)) 0 0 unit = some cmd) : cmd.Unscaled := by
  obtain ⟨hmiss, x, y, harea, hstands⟩ := (blitUnit_isSome_iff rfl).mp ⟨cmd, hcmd⟩
  obtain ⟨hleft, htop⟩ := dirty_place hbox harea hstands
  obtain ⟨-, -, rfl⟩ := (blitUnit_eq_some_iff rfl).mp hcmd
  obtain ⟨-, hright, hbottom⟩ := misses_eq_false_iff.mp hmiss
  have hX := unit.x.le_toInt
  have hX' := unit.x.toInt_lt
  have hY := unit.y.le_toInt
  have hY' := unit.y.toInt_lt
  unfold BlitSurfaceToScreen.Unscaled
  unfold destOf int32 at *
  unfold Short Rect.Within at hbox
  dsimp only at *
  omega

variable (hrects : ∀ r ∈ rects, Short r ∧ r.Within box)

include hrects

theorem dirty_stands (harea : unit.area.Has x y) :
    (Stands box (destOf box 0 0 unit) rects x y ∧ x < (destOf box 0 0 unit).right ∧ y < (destOf box 0 0 unit).bottom) ↔
      ∃ r ∈ rects, (stretched box r).Has (x + unit.x.toInt) (y + unit.y.toInt) := by
  have hw := unit.hdisplay.toNat_lt
  have hh := unit.vdisplay.toNat_lt
  obtain ⟨hx, hy⟩ := harea
  unfold DisplayUnit.area at hx hy
  dsimp only at hx hy
  obtain ⟨⟨⟨hl0, hr1⟩, ht0, hb1⟩, -, -⟩ := hbox
  have hone : ∀ r ∈ rects,
      (StandsAt box (destOf box 0 0 unit) r x y ∧ x < (destOf box 0 0 unit).right ∧ y < (destOf box 0 0 unit).bottom) ↔
        (stretched box r).Has (x + unit.x.toInt) (y + unit.y.toInt) := by
    intro r hr
    obtain ⟨⟨-, ⟨hr0, hb0⟩, hl, ht⟩, ⟨hle, hri⟩, hto, hbo⟩ := hrects r hr
    have haxis := dirty_axis hl0 hle hl hr0 hri hr1 unit.x.le_toInt unit.x.toInt_lt hx.1 (by omega)
    have haxis' := dirty_axis ht0 hto ht hb0 hbo hb1 unit.y.le_toInt unit.y.toInt_lt hy.1 (by omega)
    unfold Rect.Has stretched
    dsimp only
    rw [← haxis, ← haxis']
    unfold StandsAt destOf
    exact and_and_and_comm
  constructor
  · rintro ⟨⟨r, hr, hstands⟩, hlt⟩
    exact ⟨r, hr, (hone r hr).mp ⟨hstands, hlt⟩⟩
  · rintro ⟨r, hr, hhas⟩
    obtain ⟨hstands, hlt⟩ := (hone r hr).mpr hhas
    exact ⟨⟨r, hr, hstands⟩, hlt⟩

/-- The pixels that the command of a unit draws, with where they come from. -/
theorem dirty_draws {sx sy : Int} :
    ((unit.area.Has x y ∧ Stands box (destOf box 0 0 unit) rects x y) ∧
        (x < (destOf box 0 0 unit).right ∧ y < (destOf box 0 0 unit).bottom) ∧
          sx = box.left + (x - (destOf box 0 0 unit).left) ∧ sy = box.top + (y - (destOf box 0 0 unit).top)) ↔
      unit.area.Has x y ∧ (∃ r ∈ rects, (stretched box r).Has (x + unit.x.toInt) (y + unit.y.toInt)) ∧
        sx = x + unit.x.toInt ∧ sy = y + unit.y.toInt := by
  constructor
  · rintro ⟨⟨harea, hstands⟩, hlt, hsx, hsy⟩
    obtain ⟨hleft, htop⟩ := dirty_place hbox harea hstands
    refine ⟨harea, (dirty_stands hbox hrects harea).mp ⟨hstands, hlt⟩, ?_, ?_⟩
    · rw [hsx, hleft]
      omega
    · rw [hsy, htop]
      omega
  · rintro ⟨harea, hshown, rfl, rfl⟩
    obtain ⟨hstands, hlt⟩ := (dirty_stands hbox hrects harea).mpr hshown
    obtain ⟨hleft, htop⟩ := dirty_place hbox harea hstands
    refine ⟨⟨harea, hstands⟩, hlt, ?_, ?_⟩
    · rw [hleft]
      omega
    · rw [htop]
      omega

/-- A unit is drawn to exactly if and only if the rectangles stand for what is asked for. -/
theorem dirty_exactOn_iff (sid : UInt32) {display : Display} {fb : Nat} (input : Input) (hoffset : input.offset = (0, 0))
    (hunit : unit ∈ display.shows fb) :
    ExactOn input ((display.shows fb).filterMap
        (blitUnit sid box (rects.map (relative box)) input.offset.1 input.offset.2)) unit ↔
      ∀ x y, unit.area.Has x y →
        ((∃ r ∈ rects, (stretched box r).Has (x + unit.x.toInt) (y + unit.y.toInt)) ↔ input.Asked unit x y) := by
  have hasked : ∀ x y, input.Asked unit x y ↔ ∃ r ∈ input.regions, r.Has (x + unit.x.toInt) (y + unit.y.toInt) := by
    intro x y
    unfold Input.Asked
    rw [hoffset, Int.sub_zero, Int.sub_zero]
  rw [exactOn_iff input hunit]
  unfold UnitExact
  rw [hoffset]
  constructor
  · rintro ⟨-, hdraws⟩ x y harea
    have hxy := hdraws x y (x + unit.x.toInt) (y + unit.y.toInt)
    rw [dirty_draws hbox hrects, Int.sub_zero, Int.sub_zero] at hxy
    rw [hasked]
    constructor
    · intro hshown
      exact (hxy.mp ⟨harea, hshown, rfl, rfl⟩).2.1
    · intro hregion
      exact (hxy.mpr ⟨harea, hregion, rfl, rfl⟩).2.1
  · intro h
    refine ⟨fun cmd hcmd => dirty_unscaled hbox hcmd, fun x y sx sy => ?_⟩
    rw [dirty_draws hbox hrects, Int.sub_zero, Int.sub_zero]
    constructor
    · rintro ⟨harea, hshown, rfl, rfl⟩
      exact ⟨harea, (hasked x y).mp ((h x y harea).mp hshown), rfl, rfl⟩
    · rintro ⟨harea, hregion, rfl, rfl⟩
      exact ⟨harea, (h x y harea).mpr ((hasked x y).mpr hregion), rfl, rfl⟩

end Dirty

section Dirty

variable (display : Display) (fb : Framebuffer) (annotateCopy : Bool) (clips : List DrmClipRect)
  (pairs : annotateCopy = true → clips.length % 2 = 0)

theorem usedClips_ne_nil (fb : Framebuffer) {annotateCopy : Bool} {clips : List DrmClipRect}
    (pairs : annotateCopy = true → clips.length % 2 = 0) : usedClips fb annotateCopy clips ≠ [] := by
  unfold usedClips
  cases clips with
  | nil => exact List.cons_ne_nil _ _
  | cons c cs =>
    rw [if_neg (List.cons_ne_nil c cs)]
    cases annotateCopy with
    | false => exact List.cons_ne_nil c cs
    | true =>
      cases cs with
      | nil => exact absurd (pairs rfl) (show ¬ 1 % 2 = 0 from by decide)
      | cons d ds => exact List.cons_ne_nil _ _

theorem dirty_exact_iff :
    Exact (.dirty display fb annotateCopy clips pairs) ↔ Input.Agrees (.dirty display fb annotateCopy clips pairs) := by
  obtain ⟨first, rest, hused⟩ := List.exists_cons_of_ne_nil (usedClips_ne_nil fb pairs)
  have hrects : Input.rects (.dirty display fb annotateCopy clips pairs) = first.edges :: rest.map DrmClipRect.edges := by
    change (usedClips fb annotateCopy clips).map DrmClipRect.edges = _
    rw [hused]
    rfl
  have hbox : Input.box (.dirty display fb annotateCopy clips pairs) =
      Rect.box first.edges (rest.map DrmClipRect.edges) := by
    unfold Input.box
    rw [hrects]
    rfl
  have hshort : ∀ r ∈ first.edges :: rest.map DrmClipRect.edges, Short r := by
    intro r hr
    obtain ⟨c, -, rfl⟩ := List.mem_map.mp (List.map_cons ▸ hr : r ∈ (first :: rest).map DrmClipRect.edges)
    exact c.short
  have hcmds : Input.cmds (.dirty display fb annotateCopy clips pairs) =
      some ((display.shows fb.id).filterMap (blitUnit fb.userHandle (Rect.box first.edges (rest.map DrmClipRect.edges))
        ((first.edges :: rest.map DrmClipRect.edges).map (relative (Rect.box first.edges (rest.map DrmClipRect.edges))))
        0 0)) := by
    change blitSurface fb.userHandle (display.shows fb.id) 0 0 ((usedClips fb annotateCopy clips).map DrmClipRect.edges) = _
    rw [hused]
    rfl
  have hunit : ∀ unit ∈ display.shows fb.id, ExactOn _ _ unit ↔ _ := fun unit hunit =>
    dirty_exactOn_iff (Rect.box_induction Short.hull hshort)
      (fun r hr => ⟨hshort r hr, Rect.within_box hr⟩) fb.userHandle (.dirty display fb annotateCopy clips pairs) rfl hunit
  unfold Exact Input.Agrees
  dsimp only
  unfold Input.StretchedAgree
  rw [hcmds, hrects, hbox]
  constructor
  · rintro ⟨cmds, heq, hexact⟩ unit hshows
    cases heq
    exact (hunit unit hshows).mp (hexact unit hshows)
  · intro h
    exact ⟨_, rfl, fun unit hshows => (hunit unit hshows).mpr (h unit hshows)⟩

end Dirty

section Present

variable {box : Rect} {rects : List Rect} {unit : DisplayUnit} {destX destY x y : Int}

/-- The edges are `int`s, in order. -/
def Long (r : Rect) : Prop := Fits r ∧ r.left ≤ r.right ∧ r.top ≤ r.bottom

theorem Long.hull (r s : Rect) (hr : Long r) (hs : Long s) : Long (r.hull s) := by
  unfold Long Fits Rect.Within Rect.hull at *
  dsimp only at *
  omega

theorem edges_of_fit {clip : DrmVmwRect} (h : EdgesFit clip) : edges clip = region clip := by
  have hx := clip.x.le_toInt
  have hy := clip.y.le_toInt
  unfold EdgesFit at h
  unfold edges region
  rw [int32_of_mem (by omega) h.1, int32_of_mem (by omega) h.2]

theorem long_edges {clip : DrmVmwRect} (h : EdgesFit clip) : Long (edges clip) := by
  have hx := clip.x.le_toInt
  have hy := clip.y.le_toInt
  rw [edges_of_fit h]
  unfold EdgesFit at h
  unfold Long Fits Rect.Within region
  dsimp only
  omega

theorem placed_size (box : Rect) (destX destY : Int) (unit : DisplayUnit) :
    (placed box destX destY unit).right - (placed box destX destY unit).left = box.right - box.left ∧
      (placed box destX destY unit).bottom - (placed box destX destY unit).top = box.bottom - box.top := by
  unfold placed
  dsimp only
  omega

variable (hbox : Long box)

include hbox

theorem destOf_of_fits (hfits : Fits (placed box destX destY unit)) :
    destOf box destX destY unit = placed box destX destY unit := by
  obtain ⟨⟨hl, hr⟩, ht, hb⟩ := hfits
  obtain ⟨-, hle, hle'⟩ := hbox
  unfold placed at hl hr ht hb
  dsimp only at hl hr ht hb
  unfold destOf placed
  rw [int32_of_mem hl (by omega), int32_of_mem ht (by omega), int32_of_mem (by omega) (by omega),
    int32_of_mem (by omega) (by omega)]

omit hbox

variable (hrects : ∀ r ∈ rects, Long r ∧ r.Within box)

include hrects

/-- The pixels that the rectangles stand for are on the box. -/
theorem stands_right {dest : Rect} (hstands : Stands box dest rects x y)
    (hsize : dest.right - dest.left = box.right - box.left ∧ dest.bottom - dest.top = box.bottom - box.top) :
    x < dest.right ∧ y < dest.bottom := by
  obtain ⟨r, hr, hat⟩ := hstands
  obtain ⟨⟨-, hle, hle'⟩, hwithin⟩ := hrects r hr
  unfold Rect.Within at hwithin
  unfold StandsAt at hat
  omega

/-- Where the box does not fit on the unit. -/
theorem present_of_not_fits (sid : UInt32) (input : Input)
    (hfits : ¬ Fits (placed box input.offset.1 input.offset.2 unit)) :
    UnitExact sid box rects input unit ↔
      (∀ x y, unit.area.Has x y → ¬ input.Asked unit x y) ∧
        (misses (destOf box input.offset.1 input.offset.2 unit) unit = false → ∀ x y, unit.area.Has x y →
          ¬ Stands box (destOf box input.offset.1 input.offset.2 unit) rects x y) := by
  constructor
  · rintro ⟨hunscaled, hdraws⟩
    have hnone : misses (destOf box input.offset.1 input.offset.2 unit) unit = false → ∀ x y, unit.area.Has x y →
        ¬ Stands box (destOf box input.offset.1 input.offset.2 unit) rects x y := by
      intro hmiss x y harea hstands
      obtain ⟨cmd, hcmd⟩ := (blitUnit_isSome_iff rfl).mpr ⟨hmiss, x, y, harea, hstands⟩
      have hsize := hunscaled cmd hcmd
      obtain ⟨-, -, rfl⟩ := (blitUnit_eq_some_iff rfl).mp hcmd
      have hsrc := ((hdraws x y _ _).mp ⟨⟨harea, hstands⟩, stands_right hrects hstands hsize, rfl, rfl⟩).2.2
      have hl := int32_bounds (box.left + input.offset.1 - unit.x.toInt)
      have ht := int32_bounds (box.top + input.offset.2 - unit.y.toInt)
      have hr := int32_bounds (box.right + input.offset.1 - unit.x.toInt)
      have hb := int32_bounds (box.bottom + input.offset.2 - unit.y.toInt)
      apply hfits
      unfold BlitSurfaceToScreen.Unscaled at hsize
      unfold destOf at hsize hsrc
      unfold Fits Rect.Within placed
      dsimp only at hsize hsrc ⊢
      omega
    refine ⟨fun x y harea hasked => ?_, hnone⟩
    obtain ⟨⟨-, hstands⟩, hlt, -⟩ := (hdraws x y _ _).mpr ⟨harea, hasked, rfl, rfl⟩
    exact hnone (misses_of_stands harea hstands hlt) x y harea hstands
  · rintro ⟨hnothing, hnone⟩
    refine ⟨fun cmd hcmd => ?_, fun x y sx sy => iff_of_false ?_ ?_⟩
    · obtain ⟨hmiss, x, y, harea, hstands⟩ := (blitUnit_isSome_iff rfl).mp ⟨cmd, hcmd⟩
      exact absurd hstands (hnone hmiss x y harea)
    · rintro ⟨⟨harea, hstands⟩, hlt, -⟩
      exact hnone (misses_of_stands harea hstands hlt) x y harea hstands
    · rintro ⟨harea, hasked, rfl, rfl⟩
      exact hnothing x y harea hasked

include hbox

/-- Where the box fits on the unit. -/
theorem present_of_fits (sid : UInt32) (input : Input) (hfits : Fits (placed box input.offset.1 input.offset.2 unit)) :
    UnitExact sid box rects input unit ↔
      ∀ x y, unit.area.Has x y →
        (Stands box (placed box input.offset.1 input.offset.2 unit) rects x y ↔ input.Asked unit x y) := by
  have hdest := destOf_of_fits hbox hfits
  have hsize := placed_size box input.offset.1 input.offset.2 unit
  have hsrc : ∀ x y : Int,
      box.left + (x - (placed box input.offset.1 input.offset.2 unit).left) = x + unit.x.toInt - input.offset.1 ∧
        box.top + (y - (placed box input.offset.1 input.offset.2 unit).top) = y + unit.y.toInt - input.offset.2 := by
    intro x y
    unfold placed
    dsimp only
    omega
  unfold UnitExact
  rw [hdest]
  constructor
  · rintro ⟨-, hdraws⟩ x y harea
    have hxy := hdraws x y (x + unit.x.toInt - input.offset.1) (y + unit.y.toInt - input.offset.2)
    constructor
    · intro hstands
      exact (hxy.mp ⟨⟨harea, hstands⟩, stands_right hrects hstands hsize, (hsrc x y).1.symm, (hsrc x y).2.symm⟩).2.1
    · intro hasked
      exact (hxy.mpr ⟨harea, hasked, rfl, rfl⟩).1.2
  · intro h
    refine ⟨fun cmd hcmd => ?_, fun x y sx sy => ?_⟩
    · obtain ⟨-, -, rfl⟩ := (blitUnit_eq_some_iff hdest).mp hcmd
      exact hsize
    · rw [(hsrc x y).1, (hsrc x y).2]
      constructor
      · rintro ⟨⟨harea, hstands⟩, -, rfl, rfl⟩
        exact ⟨harea, (h x y harea).mp hstands, rfl, rfl⟩
      · rintro ⟨harea, hasked, rfl, rfl⟩
        have hstands := (h x y harea).mpr hasked
        exact ⟨⟨harea, hstands⟩, stands_right hrects hstands hsize, rfl, rfl⟩

/-- A unit is drawn to exactly if and only if what is left of the rectangles agrees with what is asked for. -/
theorem present_exactOn_iff (sid : UInt32) {display : Display} {fb : Nat} (input : Input)
    (hunit : unit ∈ display.shows fb) (hinput : input.box = box ∧ input.rects = rects) :
    ExactOn input ((display.shows fb).filterMap
        (blitUnit sid box (rects.map (relative box)) input.offset.1 input.offset.2)) unit ↔
      input.TruncatedAgree unit := by
  rw [exactOn_iff input hunit]
  unfold Input.TruncatedAgree
  rw [hinput.1, hinput.2]
  by_cases hfits : Fits (placed box input.offset.1 input.offset.2 unit)
  · rw [present_of_fits hbox hrects sid input hfits, and_iff_right hfits]
    constructor
    · exact .inl
    · rintro (h | ⟨hnothing, hnone⟩) x y harea
      · exact h x y harea
      · refine iff_of_false (fun hstands => ?_) (hnothing x y harea)
        have hlt := stands_right hrects hstands (placed_size ..)
        rw [destOf_of_fits hbox hfits] at hnone
        exact hnone (misses_of_stands harea hstands hlt) x y harea hstands
  · rw [present_of_not_fits hrects sid input hfits]
    exact (or_iff_right fun h => hfits h.1).symm

end Present

section Present

variable (display : Display) (fb : Nat) (sid : UInt32) (destX destY : Int32) (clips : List DrmVmwRect)
  (some : clips ≠ []) (fit : ∀ clip ∈ clips, EdgesFit clip)

theorem present_exact_iff :
    Exact (.present display fb sid destX destY clips some fit) ↔
      Input.Agrees (.present display fb sid destX destY clips some fit) := by
  obtain ⟨first, rest, hclips⟩ := List.exists_cons_of_ne_nil some
  have hrects : Input.rects (.present display fb sid destX destY clips some fit) = edges first :: rest.map edges := by
    change clips.map edges = _
    rw [hclips]
    rfl
  have hbox : Input.box (.present display fb sid destX destY clips some fit) =
      Rect.box (edges first) (rest.map edges) := by
    unfold Input.box
    rw [hrects]
    rfl
  have hlong : ∀ r ∈ edges first :: rest.map edges, Long r := by
    intro r hr
    obtain ⟨clip, hclip, rfl⟩ := List.mem_map.mp (List.map_cons ▸ hr : r ∈ (first :: rest).map edges)
    exact long_edges (fit clip (hclips ▸ hclip))
  have hcmds : Input.cmds (.present display fb sid destX destY clips some fit) =
      Option.some ((display.shows fb).filterMap (blitUnit sid (Rect.box (edges first) (rest.map edges))
        ((edges first :: rest.map edges).map (relative (Rect.box (edges first) (rest.map edges))))
        destX.toInt destY.toInt)) := by
    change blitSurface sid (display.shows fb) destX.toInt destY.toInt (clips.map edges) = _
    rw [hclips]
    rfl
  have hunit : ∀ unit ∈ display.shows fb, ExactOn _ _ unit ↔ _ := fun unit hunit =>
    present_exactOn_iff (Rect.box_induction Long.hull hlong) (fun r hr => ⟨hlong r hr, Rect.within_box hr⟩) sid
      (.present display fb sid destX destY clips some fit) hunit ⟨hbox, hrects⟩
  unfold Exact Input.Agrees
  dsimp only
  rw [hcmds]
  constructor
  · rintro ⟨cmds, heq, hexact⟩ unit hshows
    cases heq
    exact (hunit unit hshows).mp (hexact unit hshows)
  · intro h
    exact ⟨_, rfl, fun unit hshows => (hunit unit hshows).mpr (h unit hshows)⟩

end Present

/-- The pixels that are drawn are those that are asked for if and only if the rectangles agree with the regions. -/
theorem blit_exact_iff (input : Input) : Exact input ↔ input.Agrees := by
  cases input with
  | dirty display fb annotateCopy clips pairs => exact dirty_exact_iff display fb annotateCopy clips pairs
  | present display fb sid destX destY clips some fit => exact present_exact_iff display fb sid destX destY clips some fit

theorem within_boxOf {rects : List Rect} {r : Rect} (hr : r ∈ rects) : r.Within (boxOf rects) := by
  cases rects with
  | nil => cases hr
  | cons first rest => exact Rect.within_box hr

theorem used_eq_updated (fb : Framebuffer) (clips : List DrmClipRect) :
    (usedClips fb false clips).map DrmClipRect.edges = updated fb false clips := by
  unfold usedClips updated
  cases clips with
  | nil =>
    have hwidth := UInt32.le_iff_toNat_le.mp fb.width_le
    have hheight := UInt32.le_iff_toNat_le.mp fb.height_le
    have h8192 : (8192 : UInt32).toNat = 8192 := rfl
    have hw : fb.width.toUInt16.toNat = fb.width.toNat := by
      rw [UInt32.toNat_toUInt16]
      omega
    have hh : fb.height.toUInt16.toNat = fb.height.toNat := by
      rw [UInt32.toNat_toUInt16]
      omega
    rw [if_pos rfl, if_pos rfl]
    unfold norect
    rw [List.map_singleton]
    unfold DrmClipRect.edges
    rw [hw, hh]
    rfl
  | cons c cs => rfl

/-- A list of rectangles that end behind their start is drawn exactly, but for annotated copies. -/
theorem dirty_exact_of_ordered (display : Display) (fb : Framebuffer) {clips : List DrmClipRect}
    (hclips : ∀ r ∈ updated fb false clips, r.left ≤ r.right ∧ r.top ≤ r.bottom) :
    Exact (.dirty display fb false clips Bool.noConfusion) := by
  rw [dirty_exact_iff]
  intro unit _ x y _
  have hrects : Input.rects (.dirty display fb false clips Bool.noConfusion) = updated fb false clips :=
    used_eq_updated fb clips
  unfold Input.Asked Input.box
  rw [hrects]
  change _ ↔ ∃ r ∈ updated fb false clips, r.Has (x + unit.x.toInt - 0) (y + unit.y.toInt - 0)
  rw [Int.sub_zero, Int.sub_zero]
  apply exists_congr fun r => and_congr_right fun hr => ?_
  obtain ⟨hle, hle'⟩ := hclips r hr
  obtain ⟨⟨hleft, -⟩, htop, -⟩ := within_boxOf hr
  unfold stretched
  rw [if_neg (by omega), if_neg (by omega)]

theorem standsAt_iff_of_small {box r : Rect} {destX destY x y : Int} {unit : DisplayUnit} (hwithin : r.Within box)
    (hle : r.left ≤ r.right ∧ r.top ≤ r.bottom) (hsmall : box.right - box.left < 65536 ∧ box.bottom - box.top < 65536) :
    StandsAt box (placed box destX destY unit) r x y ↔
      r.Has (x + unit.x.toInt - destX) (y + unit.y.toInt - destY) := by
  unfold Rect.Within at hwithin
  unfold StandsAt placed Rect.Has
  dsimp only
  omega

/-- A present whose box is less than 2^16 wide and high, and fits on every unit, is drawn exactly. -/
theorem present_exact_of_small (display : Display) (fb : Nat) (sid : UInt32) (destX destY : Int32) (clips : List DrmVmwRect)
    (some : clips ≠ []) (fit : ∀ clip ∈ clips, EdgesFit clip)
    (hsmall : (boxOf (clips.map region)).right - (boxOf (clips.map region)).left < 65536 ∧
      (boxOf (clips.map region)).bottom - (boxOf (clips.map region)).top < 65536)
    (hfits : ∀ unit ∈ display.shows fb, Fits (placed (boxOf (clips.map region)) destX.toInt destY.toInt unit)) :
    Exact (.present display fb sid destX destY clips some fit) := by
  rw [present_exact_iff]
  intro unit hunit
  have hrects : Input.rects (.present display fb sid destX destY clips some fit) = clips.map region :=
    List.map_congr_left fun clip hclip => edges_of_fit (fit clip hclip)
  left
  unfold Input.box
  rw [hrects]
  refine ⟨hfits unit hunit, fun x y _ => ?_⟩
  change _ ↔ ∃ r ∈ clips.map region, r.Has (x + unit.x.toInt - destX.toInt) (y + unit.y.toInt - destY.toInt)
  unfold Stands
  apply exists_congr fun r => and_congr_right fun hr => ?_
  apply standsAt_iff_of_small (within_boxOf hr) _ hsmall
  obtain ⟨clip, -, rfl⟩ := List.mem_map.mp hr
  unfold region
  dsimp only
  omega

/-- One unit of 640x480 at the origin, which shows the framebuffer. -/
def oneUnit : Display := ⟨[⟨0, some 1, 0, 0, 640, 480⟩], List.nodup_singleton 0⟩

theorem width_le_8192 : (640 : UInt32) ≤ 8192 := by decide

def fullFb : Framebuffer := ⟨1, 7, 640, 640, width_le_8192, width_le_8192⟩

theorem edgesFit_wide : ∀ clip ∈ [(⟨0, 0, 65537, 1⟩ : DrmVmwRect)], EdgesFit clip := by
  intro clip hclip
  rw [List.mem_singleton.mp hclip]
  unfold EdgesFit
  decide

/-- A square is copied to another place, and the square that is updated is the first one; a rectangle that ends left
of all others is drawn up to the right edge; of a row of 65537 pixels only the first is left. -/
theorem blit_wrong :
    ¬ Exact (.dirty oneUnit fullFb true [⟨0, 0, 10, 10⟩, ⟨20, 20, 30, 30⟩] fun _ => rfl) ∧
      ¬ Exact (.dirty oneUnit fullFb false [⟨10, 10, 20, 12⟩, ⟨15, 10, 5, 20⟩] Bool.noConfusion) ∧
      ¬ Exact (.present oneUnit 1 7 0 0 [⟨0, 0, 65537, 1⟩] (List.cons_ne_nil _ _) edgesFit_wide) := by
  refine ⟨?_, ?_, ?_⟩
  · rintro ⟨cmds, hcmds, hexact⟩
    cases hcmds
    have hdraws := ((hexact ⟨0, some 1, 0, 0, 640, 480⟩ (List.mem_singleton.mpr rfl)).2 20 20 20 20).mpr (by decide)
    exact absurd hdraws (by decide)
  · rintro ⟨cmds, hcmds, hexact⟩
    cases hcmds
    have hasked := ((hexact ⟨0, some 1, 0, 0, 640, 480⟩ (List.mem_singleton.mpr rfl)).2 16 15 16 15).mp (by decide)
    exact absurd hasked (by decide)
  · rintro ⟨cmds, hcmds, hexact⟩
    cases hcmds
    have hdraws := ((hexact ⟨0, some 1, 0, 0, 640, 480⟩ (List.mem_singleton.mpr rfl)).2 5 0 5 0).mpr (by decide)
    exact absurd hdraws (by decide)

end Vmwgfx.Kms.Blit
