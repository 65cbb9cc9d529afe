import Vmwgfx.Kms.Legacy

/-! Saving and restoring the VGA state (`vmwgfx_kms.c`), with the mode settings in between. -/

namespace Vmwgfx.Kms.Ldu.Vga

def VMWGFX_MAX_DISPLAYS : Nat := 16

/-- `struct vmw_vga_topology_state`, and what the device has of a display. -/
structure Topology where
  width : UInt32
  height : UInt32
  primary : UInt32
  posX : UInt32
  posY : UInt32
  deriving DecidableEq

/-- The registers of the device; `displayId` is the index of the `DISPLAY` registers. -/
structure Regs where
  width : UInt32
  height : UInt32
  bitsPerPixel : UInt32
  pitchlock : UInt32
  fifoPitchlock : UInt32
  numGuestDisplays : UInt32
  displayId : UInt32
  displays : UInt32 → Topology

/-- The `DISPLAY` registers. -/
def Regs.display (regs : Regs) : Topology := regs.displays regs.displayId

def Regs.setDisplay (regs : Regs) (t : Topology) : Regs :=
  { regs with displays := Function.update regs.displays regs.displayId t }

def vmwWrite (regs : Regs) (w : Reg × UInt32) : Regs :=
  match w.1 with
  | .pitchlock => { regs with pitchlock := w.2 }
  | .fifoPitchlock => { regs with fifoPitchlock := w.2 }
  | .width => { regs with width := w.2 }
  | .height => { regs with height := w.2 }
  | .bitsPerPixel => { regs with bitsPerPixel := w.2 }
  | .numGuestDisplays => { regs with numGuestDisplays := w.2 }
  | .displayId => { regs with displayId := w.2 }
  | .displayIsPrimary => regs.setDisplay { regs.display with primary := w.2 }
  | .displayPositionX => regs.setDisplay { regs.display with posX := w.2 }
  | .displayPositionY => regs.setDisplay { regs.display with posY := w.2 }
  | .displayWidth => regs.setDisplay { regs.display with width := w.2 }
  | .displayHeight => regs.setDisplay { regs.display with height := w.2 }

def Regs.writes (regs : Regs) (ws : Writes) : Regs := ws.foldl vmwWrite regs

/-- Of `struct vmw_private`. -/
structure Saved where
  vgaWidth : UInt32
  vgaHeight : UInt32
  vgaBpp : UInt32
  vgaPitchlock : UInt32
  numDisplays : UInt32
  vgaSave : Vector Topology VMWGFX_MAX_DISPLAYS

section Save

variable (dev : Device)

/-- What the loop of the save keeps of the display `i`. -/
def fullScreen (saved : Saved) (i : Nat) (t : Topology) : Topology :=
  if i = 0 ∧ saved.numDisplays = 1 ∧ t.width = 0 ∧ t.height = 0 then
    { t with width := saved.vgaWidth - t.posX, height := saved.vgaHeight - t.posY }
  else t

/-- One round of the loop; `none` is a write past `vga_save`, also below. -/
def saveDisplay (i : Nat) (saved : Saved) (regs : Regs) : Option (Saved × Regs) :=
  if h : i < VMWGFX_MAX_DISPLAYS then
    let regs := vmwWrite regs (.displayId, i.toUInt32)
    let t := regs.display
    let regs := vmwWrite regs (.displayId, SVGA_ID_INVALID)
    some ({ saved with vgaSave := saved.vgaSave.set i (fullScreen saved i t) h }, regs)
  else none

/-- `n` rounds from `i` on. -/
def saveDisplays : Nat → Nat → Saved → Regs → Option (Saved × Regs)
  | 0, _, saved, regs => some (saved, regs)
  | n + 1, i, saved, regs => (saveDisplay i saved regs).bind fun r => saveDisplays n (i + 1) r.1 r.2

def vmwKmsSaveVga (saved : Saved) (regs : Regs) : Option (Saved × Regs) :=
  let saved := { saved with vgaWidth := regs.width, vgaHeight := regs.height, vgaBpp := regs.bitsPerPixel }
  let saved :=
    if dev.pitchlock then { saved with vgaPitchlock := regs.pitchlock }
    else if dev.fifoPitchlock then { saved with vgaPitchlock := regs.fifoPitchlock }
    else saved
  if dev.topology then
    let num := if regs.numGuestDisplays = 0 then 1 else regs.numGuestDisplays
    saveDisplays num.toNat 0 { saved with numDisplays := num } regs
  else some (saved, regs)

/-- The writes of the display `i`, in every loop over displays. -/
def displayWrites (i : UInt32) (t : Topology) : Writes :=
  [(.displayId, i), (.displayIsPrimary, t.primary), (.displayPositionX, t.posX),
    (.displayPositionY, t.posY), (.displayWidth, t.width), (.displayHeight, t.height),
    (.displayId, SVGA_ID_INVALID)]

/-- `n` rounds from `i` on; `none` is a read past `vga_save`. -/
def restoreDisplays (saved : Saved) : Nat → Nat → Option Writes
  | 0, _ => some []
  | n + 1, i =>
    match saved.vgaSave[i]? with
    | none => none
    | some t => (restoreDisplays saved n (i + 1)).map fun ws => displayWrites i.toUInt32 t ++ ws

def vmwKmsRestoreVga (saved : Saved) : Option Writes :=
  let lock :=
    if dev.pitchlock then [(Reg.pitchlock, saved.vgaPitchlock)]
    else if dev.fifoPitchlock then [(Reg.fifoPitchlock, saved.vgaPitchlock)]
    else []
  let mode :=
    [(Reg.width, saved.vgaWidth), (.height, saved.vgaHeight), (.bitsPerPixel, saved.vgaBpp)] ++ lock
  if dev.topology then (restoreDisplays saved saved.numDisplays.toNat 0).map fun ws => mode ++ ws
  else some mode

end Save

/-- What `vmw_fb_set_par` reads of the framebuffer device. -/
structure FbPar where
  xres : UInt32
  yres : UInt32
  xoffset : UInt32
  yoffset : UInt32
  lineLength : UInt32
  bpp : UInt32
  depth : UInt32

def vmwFbSetPar (dev : Device) (env : Env) (par : FbPar) : Int × Writes :=
  let (ret, svga) := vmwKmsWriteSvga dev env par.xres par.yres par.lineLength par.bpp par.depth
  if ret ≠ 0 then (ret, svga)
  else if dev.topology then
    (0, svga ++ (.numGuestDisplays, 1) ::
      displayWrites 0 ⟨par.xres, par.yres, 1, par.xoffset, par.yoffset⟩)
  else (0, svga)

/-- The mode settings, with what the device answers. -/
inductive Op
  | writeSvga (env : Env) (width height pitch bpp depth : UInt32)
  | commitList (env : Env) (s : State)
  | setPar (env : Env) (par : FbPar)

/-- `none` is a commit that ends in a `BUG` or an oops. -/
def Op.writes (dev : Device) : Op → Option Writes
  | .writeSvga env width height pitch bpp depth =>
    some (vmwKmsWriteSvga dev env width height pitch bpp depth).2
  | .commitList env s => (vmwLduCommitList dev env s).map Prod.snd
  | .setPar env par => some (vmwFbSetPar dev env par).2

def modeSet (dev : Device) : List Op → Regs → Option Regs
  | [], regs => some regs
  | op :: ops, regs => (op.writes dev).bind fun ws => modeSet dev ops (regs.writes ws)

end Vmwgfx.Kms.Ldu.Vga
