import Vmwgfx.Kernel
import Vmwgfx.Lib.Machine
import Vmwgfx.Lib.Shared
import Vmwgfx.Lib.Uint
import Vmwgfx.Overlay.Defs

/-! The screen object display units of `vmwgfx_scrn.c`. -/

namespace Vmwgfx.Kms.Sou

open Lib Overlay

/-- What a unit reads of a `struct drm_display_mode`. -/
structure Mode where
  hdisplay : Nat
  vdisplay : Nat
  deriving DecidableEq

/-- A framebuffer; the driver's structure around it has the same identity. -/
structure Fb where
  id : Nat
  width : Nat
  height : Nat
  deriving DecidableEq

structure Crtc where
  fb : Option Fb
  mode : Mode
  x : Nat
  y : Nat
  enabled : Bool
  deriving DecidableEq

/-- `SVGAFifoCmdDefineScreen`. -/
structure DefineScreen where
  width : Nat
  height : Nat
  rootX : Int
  rootY : Int
  pitch : Nat
  deriving DecidableEq

/-- A screen on the device; `leaving` is one that the device was told to destroy and has not been seen
to be done with. -/
inductive Screen
  | absent
  | defined (cmd : DefineScreen)
  | leaving (cmd : DefineScreen)
  deriving DecidableEq

/-- `struct vmw_screen_object_unit`, and the unit's screen on the device.  A `buffer` is given by the size
it was made with. -/
structure Unit where
  crtc : Crtc
  isImplicit : Bool
  guiX : Int
  guiY : Int
  bufferSize : Nat
  buffer : Option Nat
  defined : Bool
  activeImplicit : Bool
  screen : Screen
  deriving DecidableEq

/-- `struct vmw_screen_object_display`. -/
structure Display where
  numImplicit : Nat
  implicitFb : Option Fb
  deriving DecidableEq

/-- How the steps of a call end. -/
structure Env where
  destroyReserve : Bool
  /-- The device gets idle while `vmw_sou_fifo_destroy` waits. -/
  synced : Bool
  kzalloc : Bool
  dmabufInit : Option Errno
  createReserve : Bool
  deriving DecidableEq

def vmwSouDelActive (ld : Display) (sou : Unit) : Display × Unit :=
  if sou.activeImplicit then
    let numImplicit := ld.numImplicit - 1
    (⟨numImplicit, if numImplicit = 0 then none else ld.implicitFb⟩, { sou with activeImplicit := false })
  else (ld, sou)

/-- `none` is a `BUG`, also below. -/
def vmwSouAddActive (ld : Display) (sou : Unit) (vfb : Fb) : Option (Display × Unit) :=
  if ld.numImplicit = 0 ∧ ld.implicitFb.isSome then none
  else if sou.activeImplicit = false ∧ sou.isImplicit = true then
    some (⟨ld.numImplicit + 1, some vfb⟩, { sou with activeImplicit := true })
  else some (ld, sou)

section Unit

variable (env : Env) (sou : Unit)

def vmwSouFifoCreate (x y : Nat) (mode : Mode) : Option (Int × Unit) :=
  if sou.buffer.isNone then none
  else if ¬ env.createReserve then some (-ENOMEM, sou)
  else
    let root := if sou.isImplicit then ((x : Int), (y : Int)) else (sou.guiX, sou.guiY)
    let cmd := ⟨mode.hdisplay, mode.vdisplay, root.1, root.2, mode.hdisplay * 4⟩
    some (0, { sou with screen := .defined cmd, defined := true })

/-- The screen after the device was told to destroy it. -/
def Screen.destroy (synced : Bool) : Screen → Screen
  | .absent => .absent
  | .defined cmd | .leaving cmd => if synced then .absent else .leaving cmd

/-- The wait cannot be interrupted, and a wait that times out returns 0. -/
def vmwSouFifoDestroy : Int × Unit :=
  if ¬ sou.defined then (0, sou)
  else if ¬ env.destroyReserve then (-ENOMEM, sou)
  else
    let sou := { sou with screen := sou.screen.destroy env.synced }
    let ret := vmwFallbackWait false false
    if ret ≠ 0 then (ret, sou) else (ret, { sou with defined := false })

def vmwSouBackingFree : Unit :=
  if sou.buffer.isNone then sou else { sou with buffer := none, bufferSize := 0 }

def vmwSouBackingAlloc (size : Nat) : Int × Unit :=
  if sou.bufferSize = size then (0, sou)
  else
    let sou := vmwSouBackingFree sou
    if ¬ env.kzalloc then (-ENOMEM, sou)
    else match env.dmabufInit with
      | some e => (e.val, sou)
      | none => (0, { sou with buffer := some size, bufferSize := size })

/-- `mode->hdisplay * mode->vdisplay * 4`, an `int` that is assigned to a `size_t`. -/
def backingSize (mode : Mode) : Nat :=
  let size := mode.hdisplay * mode.vdisplay * 4 % 4294967296
  if size < 2147483648 then size else 18446744069414584320 + size

/-- The unit is turned off on the driver's side. -/
def turnOff : Unit :=
  { sou with crtc := { sou.crtc with fb := none, x := 0, y := 0, enabled := false } }

end Unit

/-- `struct drm_mode_set`; `connector` says that its one connector is the unit's. -/
structure ModeSet where
  numConnectors : Nat
  connector : Bool
  mode : Option Mode
  fb : Option Fb
  x : Nat
  y : Nat
  deriving DecidableEq

section SetConfig

variable (env : Env) (ld : Display) (sou : Unit)

/-- The framebuffer is not the one that the implicit units show. -/
def otherFb (fb : Option Fb) : Bool :=
  sou.isImplicit && ld.implicitFb.isSome && fb.isSome && !(ld.numImplicit = 1 && sou.activeImplicit) &&
    ld.implicitFb ≠ fb

/-- The path that turns the unit off. -/
def setOff : Int × Display × Unit :=
  let (ret, sou) := vmwSouFifoDestroy env sou
  if ret ≠ 0 then (ret, ld, sou)
  else
    let (ld, sou) := vmwSouDelActive ld (turnOff sou)
    (0, ld, vmwSouBackingFree sou)

/-- A mode of another size needs another screen. -/
def clearScreen (mode : Mode) : Int × Unit :=
  if mode.hdisplay ≠ sou.crtc.mode.hdisplay ∨ mode.vdisplay ≠ sou.crtc.mode.vdisplay then
    let (ret, sou) := vmwSouFifoDestroy env sou
    if ret ≠ 0 then (ret, sou) else (0, vmwSouBackingFree sou)
  else (0, sou)

def backScreen (mode : Mode) : Int × Unit :=
  if sou.buffer.isNone then vmwSouBackingAlloc env sou (backingSize mode) else (0, sou)

/-- The path that sets a mode. -/
def setMode (mode : Mode) (fb : Fb) (x y : Nat) : Option (Int × Display × Unit) :=
  let (ret, sou) := clearScreen env sou mode
  if ret ≠ 0 then some (ret, ld, sou)
  else
    let (ret, sou) := backScreen env sou mode
    if ret ≠ 0 then some (ret, ld, sou)
    else
      (vmwSouFifoCreate env sou x y mode).bind fun (ret, sou) =>
        if ret ≠ 0 then some (ret, ld, if sou.defined then sou else turnOff sou)
        else
          (vmwSouAddActive ld sou fb).map fun (ld, sou) =>
            (0, ld, { sou with crtc := ⟨some fb, mode, x, y, true⟩ })

/-- The rectangle is outside of the framebuffer. -/
def outside (mode : Mode) (fb : Fb) (x y : Nat) : Bool :=
  fb.width < add32 x mode.hdisplay || fb.height < add32 y mode.vdisplay

/-- `vmw_sou_crtc_set_config`. -/
def vmwSouCrtcSetConfig (set : ModeSet) : Option (Int × Display × Unit) :=
  if 1 < set.numConnectors then some (-EINVAL, ld, sou)
  else if set.numConnectors = 1 ∧ set.connector = false then some (-EINVAL, ld, sou)
  else if otherFb ld sou set.fb then some (-EINVAL, ld, sou)
  else
    match set.numConnectors, set.mode, set.fb with
    | 0, _, _ | _, none, _ | _, _, none => some (setOff env ld sou)
    | _, some mode, some fb =>
      if outside mode fb set.x set.y then some (-EINVAL, ld, sou)
      else setMode env ld sou mode fb set.x set.y

end SetConfig

section Flip

/-- How the steps of a page flip end: the dirty update, the fence it gives and the event. -/
structure FlipEnv where
  dirty : Option Errno
  fence : Bool
  event : Option Errno
  deriving DecidableEq

variable (ld : Display) (sou : Unit)

def vmwKmsScreenObjectFlippable : Bool := if ¬ sou.isImplicit then true else ld.numImplicit = 1

def vmwKmsScreenObjectUpdateImplicitFb : Option Display :=
  if ¬ sou.isImplicit then none else some { ld with implicitFb := sou.crtc.fb }

/-- `vmw_du_page_flip`. -/
def vmwDuPageFlip (env : FlipEnv) (fb : Fb) : Option (Int × Display × Unit) :=
  if ¬ vmwKmsScreenObjectFlippable ld sou then some (-EINVAL, ld, sou)
  else
    let flipped := { sou with crtc := { sou.crtc with fb := some fb } }
    match env.dirty, env.fence with
    | some e, _ => some (e.val, ld, sou)
    | none, false => some (-EINVAL, ld, sou)
    | none, true =>
      let ret := errnoVal env.event
      if flipped.isImplicit then
        (vmwKmsScreenObjectUpdateImplicitFb ld flipped).map fun ld => (ret, ld, flipped)
      else some (ret, ld, flipped)

end Flip

variable {ι : Type} [DecidableEq ι]

/-- The units, and what they share. -/
structure State (ι : Type) where
  ld : Display
  unit : ι → Unit

inductive Action (ι : Type)
  | setConfig (i : ι) (set : ModeSet) (env : Env)
  | pageFlip (i : ι) (fb : Fb) (env : FlipEnv)

def State.put (s : State ι) (i : ι) (ld : Display) (sou : Unit) : State ι :=
  ⟨ld, Function.update s.unit i sou⟩

/-- DRM flips the pages of a unit that shows a framebuffer. -/
def step (s : State ι) : Action ι → Option (State ι)
  | .setConfig i set env => (vmwSouCrtcSetConfig env s.ld (s.unit i) set).map fun (_, ld, sou) => s.put i ld sou
  | .pageFlip i fb env =>
    if (s.unit i).crtc.fb.isSome then
      (vmwDuPageFlip s.ld (s.unit i) env fb).map fun (_, ld, sou) => s.put i ld sou
    else none

/-- `vmw_sou_init`. -/
def vmwSouInit : Unit where
  crtc := ⟨none, ⟨0, 0⟩, 0, 0, false⟩
  isImplicit := true
  guiX := 0
  guiY := 0
  bufferSize := 0
  buffer := none
  defined := false
  activeImplicit := false
  screen := .absent

/-- `vmw_kms_init_screen_object_display`. -/
def init (ι : Type) : State ι := ⟨⟨0, none⟩, fun _ => vmwSouInit⟩

/-- The `SVGAFifoCmdDefineScreen` that the device may still follow. -/
def Screen.cmd : Screen → Option DefineScreen
  | .absent => none
  | .defined cmd | .leaving cmd => some cmd

section Truth

/-- Four bytes a pixel. -/
def Mode.bytes (mode : Mode) : Nat := mode.hdisplay * mode.vdisplay * 4

variable [Fintype ι]

/-- What the display and its units keep true of each other and of the device. -/
structure Sound (s : State ι) : Prop where
  count : s.ld.numImplicit = (Finset.univ.filter fun i => (s.unit i).activeImplicit = true).card
  null : s.ld.implicitFb = none ↔ s.ld.numImplicit = 0
  shared : ∀ i, (s.unit i).activeImplicit = true → (s.unit i).crtc.fb = s.ld.implicitFb
  backed : ∀ i cmd, (s.unit i).screen.cmd = some cmd → (s.unit i).buffer = some (cmd.width * cmd.height * 4)
  defined : ∀ i, (s.unit i).crtc.fb.isSome = true → ∃ cmd, (s.unit i).screen = .defined cmd

end Truth

section Safe

variable (env : Env) (ld : Display) (sou : Unit)

/-- The mode is of another size than the one that the unit was last set to. -/
def Resized (mode : Mode) : Prop :=
  mode.hdisplay ≠ sou.crtc.mode.hdisplay ∨ mode.vdisplay ≠ sou.crtc.mode.vdisplay

/-- The device is done with the screen that it is told to destroy. -/
def DestroySafe : Prop := sou.defined = true → env.destroyReserve = true → env.synced = true

/-- `carried`: a unit that shows a framebuffer gets a screen of the new size.  `same`: an active unit keeps
to the framebuffer that is shared.  `leftover`: the buffer that an earlier call left has the size of the
mode. -/
structure ModeSafe (mode : Mode) (fb : Fb) : Prop where
  synced : Resized sou mode → DestroySafe env sou
  carried : Resized sou mode → sou.crtc.fb.isSome = true → env.destroyReserve = true →
    env.kzalloc = true ∧ env.dmabufInit = none ∧ env.createReserve = true
  same : sou.activeImplicit = true → (Resized sou mode → env.destroyReserve = true) → env.createReserve = true →
    ld.implicitFb = some fb
  leftover : ¬ Resized sou mode → sou.crtc.fb = none → env.createReserve = true →
    ∀ n, sou.buffer = some n → n = mode.bytes
  fits : sou.buffer = none ∨ Resized sou mode → env.kzalloc = true → env.dmabufInit = none →
    env.createReserve = true → mode.bytes < 2147483648

def Refused (set : ModeSet) : Prop :=
  1 < set.numConnectors ∨ set.numConnectors = 1 ∧ set.connector = false ∨ otherFb ld sou set.fb = true

/-- The unit is to be turned off. -/
def ModeSet.Off (set : ModeSet) : Prop := set.numConnectors = 0 ∨ set.mode = none ∨ set.fb = none

structure SetSafe (set : ModeSet) : Prop where
  off : ¬ Refused ld sou set → set.Off → DestroySafe env sou
  on : ¬ Refused ld sou set → set.numConnectors ≠ 0 → ∀ mode fb, set.mode = some mode → set.fb = some fb →
    outside mode fb set.x set.y = false → ModeSafe env ld sou mode fb

end Safe

def Safe (s : State ι) : Action ι → Prop
  | .setConfig i set env => SetSafe env s.ld (s.unit i) set
  | .pageFlip _ _ _ => True

section Unit

/-- What a call keeps of its unit. -/
structure UnitOk (sou : Unit) : Prop where
  implicit : sou.isImplicit = true
  active : sou.activeImplicit = sou.crtc.fb.isSome
  defined : sou.defined = sou.crtc.fb.isSome
  shows : sou.defined = true → ∃ cmd, sou.screen = .defined cmd ∧ cmd.width = sou.crtc.mode.hdisplay ∧
    cmd.height = sou.crtc.mode.vdisplay
  backed : sou.defined = true → sou.buffer = some sou.crtc.mode.bytes
  gone : sou.defined = false → sou.screen = .absent
  size : sou.bufferSize = sou.buffer.getD 0

variable {env : Env} {ld : Display} {sou : Unit} {mode : Mode} {fb : Fb}

theorem UnitOk.init : UnitOk vmwSouInit where
  implicit := rfl
  active := rfl
  defined := rfl
  shows := fun h => Bool.noConfusion h
  backed := fun h => Bool.noConfusion h
  gone := fun _ => rfl
  size := rfl

/-- The unit without a screen. -/
def undefine (sou : Unit) : Unit := { sou with screen := .absent, defined := false }

/-- The unit without a screen and without a backing. -/
def cleared (sou : Unit) : Unit := { undefine sou with buffer := none, bufferSize := 0 }

theorem vmwSouBackingFree_eq (h : UnitOk sou) : vmwSouBackingFree (undefine sou) = cleared sou := by
  unfold vmwSouBackingFree cleared
  cases hbuf : sou.buffer with
  | none =>
    have hsize : sou.bufferSize = 0 := by
      rw [h.size, hbuf]
      rfl
    rw [if_pos (show (undefine sou).buffer.isNone = true from hbuf ▸ rfl)]
    unfold undefine
    rw [← hbuf, ← hsize]
  | some n => exact if_neg (show ¬ (undefine sou).buffer.isNone = true from by simp [undefine, hbuf])

theorem vmwSouFifoDestroy_cases (h : UnitOk sou) (hsafe : DestroySafe env sou) :
    vmwSouFifoDestroy env sou = (-ENOMEM, sou) ∧ env.destroyReserve = false ∨
      vmwSouFifoDestroy env sou = (0, undefine sou) ∧ (sou.defined = true → env.destroyReserve = true) := by
  unfold vmwSouFifoDestroy
  cases hdef : sou.defined with
  | false =>
    refine .inr ⟨?_, fun hdef => Bool.noConfusion hdef⟩
    rw [if_pos Bool.false_ne_true]
    unfold undefine
    rw [← hdef, ← h.gone hdef]
  | true =>
    rw [if_neg (not_not.mpr rfl)]
    cases hres : env.destroyReserve with
    | false => exact .inl ⟨if_pos Bool.false_ne_true, rfl⟩
    | true =>
      refine .inr ⟨?_, fun _ => rfl⟩
      rw [if_neg (not_not.mpr rfl), hsafe hdef hres]
      obtain ⟨cmd, hcmd, -⟩ := h.shows hdef
      rw [hcmd]
      rfl

theorem clearScreen_cases (h : UnitOk sou) (hsafe : Resized sou mode → DestroySafe env sou) :
    clearScreen env sou mode = (-ENOMEM, sou) ∨
      Resized sou mode ∧ (sou.defined = true → env.destroyReserve = true) ∧
        clearScreen env sou mode = (0, cleared sou) ∨
      ¬ Resized sou mode ∧ clearScreen env sou mode = (0, sou) := by
  by_cases hres : Resized sou mode
  · have hclear : clearScreen env sou mode = (fun r : Int × Unit => if r.1 ≠ 0 then r else (0, vmwSouBackingFree r.2))
        (vmwSouFifoDestroy env sou) := if_pos hres
    rw [hclear]
    rcases vmwSouFifoDestroy_cases h (hsafe hres) with ⟨heq, -⟩ | ⟨heq, hreserve⟩
    · rw [heq]
      exact .inl rfl
    · rw [heq]
      refine .inr (.inl ⟨hres, hreserve, ?_⟩)
      dsimp only
      rw [if_neg (not_not.mpr rfl), vmwSouBackingFree_eq h]
  · exact .inr (.inr ⟨hres, if_neg hres⟩)

/-- The unit with a new backing. -/
def backed (sou : Unit) (size : Nat) : Unit := { sou with buffer := some size, bufferSize := size }

theorem backScreen_cases (env : Env) (mode : Mode) (hbuf : sou.buffer = none) (hsize : sou.bufferSize = 0) :
    (∃ ret, ret ≠ 0 ∧ backScreen env sou mode = (ret, sou) ∧ ¬ (env.kzalloc = true ∧ env.dmabufInit = none)) ∨
      backScreen env sou mode = (0, sou) ∨
      env.kzalloc = true ∧ env.dmabufInit = none ∧ backScreen env sou mode = (0, backed sou (backingSize mode)) := by
  have hfree : vmwSouBackingFree sou = sou := if_pos (hbuf ▸ rfl)
  unfold backScreen vmwSouBackingAlloc
  rw [if_pos (show sou.buffer.isNone = true from hbuf ▸ rfl), hfree, hsize]
  by_cases hzero : 0 = backingSize mode
  · rw [if_pos hzero]
    exact .inr (.inl rfl)
  · rw [if_neg hzero]
    cases halloc : env.kzalloc with
    | false => exact .inl ⟨-ENOMEM, by decide, if_pos Bool.false_ne_true, fun hboth => Bool.noConfusion hboth.1⟩
    | true =>
      cases hinit : env.dmabufInit with
      | some e => exact .inl ⟨e.val, errnoVal_ne_zero e, rfl, fun hboth => absurd hboth.2 (Option.some_ne_none e)⟩
      | none => exact .inr (.inr ⟨rfl, rfl, rfl⟩)

theorem backScreen_some {n : Nat} (hbuf : sou.buffer = some n) : backScreen env sou mode = (0, sou) := by
  unfold backScreen
  exact if_neg (by simp [hbuf])

/-- A unit that is about to get its screen; `old` is what the call found. -/
structure Ready (env : Env) (old sou : Unit) (mode : Mode) : Prop where
  crtc : sou.crtc = old.crtc
  implicit : sou.isImplicit = true
  active : sou.activeImplicit = old.activeImplicit
  size : sou.bufferSize = sou.buffer.getD 0
  kept : sou.defined = true → sou = old
  gone : sou.defined = false → sou.screen = .absent
  carried : sou.defined = false → old.crtc.fb.isSome = true → env.createReserve = true
  buffer : env.createReserve = true → sou.buffer = none ∨ sou.buffer = some mode.bytes
  destroyed : Resized old mode → old.crtc.fb.isSome = true → env.destroyReserve = true

theorem backingSize_of_lt (hlt : mode.bytes < 2147483648) : backingSize mode = mode.bytes := by
  unfold backingSize
  have hmod : mode.hdisplay * mode.vdisplay * 4 % 4294967296 = mode.bytes := Nat.mod_eq_of_lt (by unfold Mode.bytes at hlt; omega)
  rw [hmod]
  exact if_pos hlt

/-- The steps of a mode set up to the creation of the screen. -/
def prepare (env : Env) (sou : Unit) (mode : Mode) : Int × Unit :=
  let (ret, sou) := clearScreen env sou mode
  if ret ≠ 0 then (ret, sou) else backScreen env sou mode

/-- The steps from the creation of the screen on. -/
def create (env : Env) (ld : Display) (sou : Unit) (mode : Mode) (fb : Fb) (x y : Nat) :
    Option (Int × Display × Unit) :=
  (vmwSouFifoCreate env sou x y mode).bind fun (ret, sou) =>
    if ret ≠ 0 then some (ret, ld, if sou.defined then sou else turnOff sou)
    else (vmwSouAddActive ld sou fb).map fun (ld, sou) => (0, ld, { sou with crtc := ⟨some fb, mode, x, y, true⟩ })

theorem setMode_eq (x y : Nat) :
    setMode env ld sou mode fb x y =
      (fun r : Int × Unit => if r.1 ≠ 0 then some (r.1, ld, r.2) else create env ld r.2 mode fb x y)
        (prepare env sou mode) := by
  unfold setMode prepare
  dsimp only
  by_cases hret : (clearScreen env sou mode).1 = 0
  · rw [if_neg (not_not.mpr hret), if_neg (not_not.mpr hret)]
    rfl
  · rw [if_pos hret, if_pos hret, if_pos hret]

theorem UnitOk.fb_of_undefined (h : UnitOk sou) (hdef : sou.defined = false) : sou.crtc.fb = none := by
  apply Option.isNone_iff_eq_none.mp
  rw [← Option.not_isSome, ← h.defined, hdef]
  rfl

theorem UnitOk.cleared (h : UnitOk sou) (hfb : sou.crtc.fb = none) : UnitOk (cleared sou) where
  implicit := h.implicit
  active := h.active
  defined := by
    change false = sou.crtc.fb.isSome
    rw [hfb]
    rfl
  shows := fun hdef => Bool.noConfusion hdef
  backed := fun hdef => Bool.noConfusion hdef
  gone := fun _ => rfl
  size := rfl

theorem same_bytes (hres : ¬ Resized sou mode) : sou.crtc.mode.bytes = mode.bytes := by
  obtain ⟨hwidth, hheight⟩ := not_or.mp hres
  unfold Mode.bytes
  rw [not_not.mp hwidth, not_not.mp hheight]

section Prepare

variable (h : UnitOk sou) (hsafe : ModeSafe env ld sou mode fb)

include h hsafe

theorem prepare_resized (hres : Resized sou mode) (hreserve : sou.defined = true → env.destroyReserve = true) :
    (∃ ret, ret ≠ 0 ∧ backScreen env (cleared sou) mode = (ret, cleared sou) ∧ sou.crtc.fb = none) ∨
      ∃ sou', backScreen env (cleared sou) mode = (0, sou') ∧ Ready env sou sou' mode := by
  have hdestroyed : sou.crtc.fb.isSome = true → env.destroyReserve = true := by
    intro hfb
    exact hreserve (h.defined.trans hfb)
  rcases backScreen_cases env mode (show (cleared sou).buffer = none from rfl) rfl with
    ⟨ret, hret, heq, hnot⟩ | heq | ⟨halloc, hinit, heq⟩
  · refine .inl ⟨ret, hret, heq, ?_⟩
    by_contra hfb
    obtain ⟨halloc, hinit, -⟩ := hsafe.carried hres (Option.isSome_iff_ne_none.mpr hfb)
      (hdestroyed (Option.isSome_iff_ne_none.mpr hfb))
    exact hnot ⟨halloc, hinit⟩
  · refine .inr ⟨cleared sou, heq, ?_⟩
    exact {
      crtc := rfl
      implicit := h.implicit
      active := rfl
      size := rfl
      kept := fun hdef => Bool.noConfusion hdef
      gone := fun _ => rfl
      carried := fun _ hfb => (hsafe.carried hres hfb (hdestroyed hfb)).2.2
      buffer := fun _ => .inl rfl
      destroyed := fun _ => hdestroyed }
  · refine .inr ⟨backed (cleared sou) (backingSize mode), heq, ?_⟩
    exact {
      crtc := rfl
      implicit := h.implicit
      active := rfl
      size := rfl
      kept := fun hdef => Bool.noConfusion hdef
      gone := fun _ => rfl
      carried := fun _ hfb => (hsafe.carried hres hfb (hdestroyed hfb)).2.2
      buffer := fun hcreate =>
        .inr (congrArg some (backingSize_of_lt (hsafe.fits (.inr hres) halloc hinit hcreate)))
      destroyed := fun _ => hdestroyed }

theorem prepare_same (hres : ¬ Resized sou mode) :
    (∃ ret, ret ≠ 0 ∧ backScreen env sou mode = (ret, sou)) ∨
      ∃ sou', backScreen env sou mode = (0, sou') ∧ Ready env sou sou' mode := by
  cases hbuf : sou.buffer with
  | some n =>
    refine .inr ⟨sou, backScreen_some hbuf, ?_⟩
    exact {
      crtc := rfl
      implicit := h.implicit
      active := rfl
      size := h.size
      kept := fun _ => rfl
      gone := h.gone
      carried := fun hdef hfb => absurd (h.defined.trans hfb) (by simp [hdef])
      buffer := by
        intro hcreate
        right
        cases hdef : sou.defined with
        | true => rw [h.backed hdef, same_bytes hres]
        | false => rw [hbuf, hsafe.leftover hres (h.fb_of_undefined hdef) hcreate n hbuf]
      destroyed := fun hres' => absurd hres' hres }
  | none =>
    have hdef : sou.defined = false := by
      cases hdef : sou.defined with
      | false => rfl
      | true =>
        have hbacked := h.backed hdef
        rw [hbuf] at hbacked
        cases hbacked
    have hsize : sou.bufferSize = 0 := by
      rw [h.size, hbuf]
      rfl
    have hcarried : sou.crtc.fb.isSome = true → env.createReserve = true := by
      intro hfb
      rw [h.fb_of_undefined hdef] at hfb
      cases hfb
    rcases backScreen_cases env mode hbuf hsize with ⟨ret, hret, heq, -⟩ | heq | ⟨halloc, hinit, heq⟩
    · exact .inl ⟨ret, hret, heq⟩
    · refine .inr ⟨sou, heq, ?_⟩
      exact {
        crtc := rfl
        implicit := h.implicit
        active := rfl
        size := h.size
        kept := fun _ => rfl
        gone := h.gone
        carried := fun _ => hcarried
        buffer := fun _ => .inl hbuf
        destroyed := fun hres' => absurd hres' hres }
    · refine .inr ⟨backed sou (backingSize mode), heq, ?_⟩
      exact {
        crtc := rfl
        implicit := h.implicit
        active := rfl
        size := rfl
        kept := fun hdef' => absurd (hdef.symm.trans hdef') Bool.false_ne_true
        gone := h.gone
        carried := fun _ => hcarried
        buffer := fun hcreate =>
          .inr (congrArg some (backingSize_of_lt (hsafe.fits (.inl hbuf) halloc hinit hcreate)))
        destroyed := fun hres' => absurd hres' hres }

/-- A mode set fails and the unit still shows what it showed, or its screen can be created. -/
theorem prepare_cases :
    (∃ ret sou', ret ≠ 0 ∧ prepare env sou mode = (ret, sou') ∧ UnitOk sou' ∧ sou'.crtc.fb = sou.crtc.fb) ∨
      ∃ sou', prepare env sou mode = (0, sou') ∧ Ready env sou sou' mode := by
  unfold prepare
  rcases clearScreen_cases h hsafe.synced with heq | ⟨hres, hreserve, heq⟩ | ⟨hres, heq⟩
  · rw [heq]
    exact .inl ⟨-ENOMEM, sou, by decide, rfl, h, rfl⟩
  · rw [heq]
    rcases prepare_resized h hsafe hres hreserve with ⟨ret, hret, hback, hfb⟩ | ⟨sou', hback, hready⟩
    · exact .inl ⟨ret, cleared sou, hret, hback, h.cleared hfb, rfl⟩
    · exact .inr ⟨sou', hback, hready⟩
  · rw [heq]
    rcases prepare_same h hsafe hres with ⟨ret, hret, hback⟩ | ⟨sou', hback, hready⟩
    · exact .inl ⟨ret, sou, hret, hback, h, rfl⟩
    · exact .inr ⟨sou', hback, hready⟩

end Prepare

section Create

variable {old : Unit} {x y : Nat}

/-- The unit with its new screen, set to the mode. -/
def screened (sou : Unit) (mode : Mode) (fb : Fb) (x y : Nat) : Unit :=
  { sou with
    crtc := ⟨some fb, mode, x, y, true⟩
    screen := .defined ⟨mode.hdisplay, mode.vdisplay, x, y, mode.hdisplay * 4⟩
    defined := true
    activeImplicit := true }

/-- What the display becomes when an implicit unit is set to a mode. -/
def Display.activate (ld : Display) (active : Bool) (fb : Fb) : Display :=
  if active then ld else ⟨ld.numImplicit + 1, some fb⟩

theorem create_cases (h : Ready env old sou mode) {r : Int × Display × Unit} (hr : create env ld sou mode fb x y = some r) :
    (env.createReserve = false ∧ r = (-ENOMEM, ld, if sou.defined then sou else turnOff sou)) ∨
      env.createReserve = true ∧ sou.buffer = some mode.bytes ∧
        r = (0, ld.activate old.activeImplicit fb, screened sou mode fb x y) := by
  unfold create vmwSouFifoCreate at hr
  cases hbuf : sou.buffer with
  | none =>
    rw [hbuf] at hr
    cases hr
  | some n =>
    rw [hbuf, if_neg (show ¬ (some n).isNone = true from Bool.false_ne_true)] at hr
    cases hres : env.createReserve with
    | false =>
      rw [hres, if_pos Bool.false_ne_true] at hr
      exact .inl ⟨rfl, (Option.some.inj hr).symm⟩
    | true =>
      have hbytes : n = mode.bytes := by
        rcases h.buffer hres with hnone | hsome
        · rw [hbuf] at hnone
          cases hnone
        · exact Option.some.inj (hbuf.symm.trans hsome)
      refine .inr ⟨rfl, by rw [hbytes], ?_⟩
      rw [hres, if_neg (not_not.mpr rfl), h.implicit] at hr
      unfold vmwSouAddActive at hr
      obtain ⟨q, hq, rfl⟩ := Option.map_eq_some_iff.mp hr
      dsimp only at hq
      split at hq
      · cases hq
      · rw [h.active] at hq
        cases hact : old.activeImplicit with
        | true =>
          rw [hact, if_neg fun hand => Bool.noConfusion hand.1] at hq
          rw [← Option.some.inj hq]
          unfold screened
          rw [h.implicit, hbuf]
          rfl
        | false =>
          rw [hact, if_pos ⟨rfl, rfl⟩] at hq
          rw [← Option.some.inj hq]
          unfold screened
          rw [h.implicit, hbuf]
          rfl

theorem UnitOk.screened (h : Ready env old sou mode) (hbuf : sou.buffer = some mode.bytes) :
    UnitOk (screened sou mode fb x y) where
  implicit := h.implicit
  active := rfl
  defined := rfl
  shows := fun _ => ⟨_, rfl, rfl, rfl⟩
  backed := fun _ => hbuf
  gone := fun hdef => Bool.noConfusion hdef
  size := h.size

theorem UnitOk.turnOff (hold : UnitOk old) (h : Ready env old sou mode) (hfb : old.crtc.fb = none)
    (hdef : sou.defined = false) : UnitOk (turnOff sou) where
  implicit := h.implicit
  active := by
    change sou.activeImplicit = false
    rw [h.active, hold.active, hfb]
    rfl
  defined := hdef
  shows := fun hdef' => absurd (hdef.symm.trans hdef') Bool.false_ne_true
  backed := fun hdef' => absurd (hdef.symm.trans hdef') Bool.false_ne_true
  gone := h.gone
  size := h.size

/-- A mode set leaves what the unit shows, or shows the framebuffer on it. -/
theorem setMode_cases (h : UnitOk sou) (hsafe : ModeSafe env ld sou mode fb) {r : Int × Display × Unit}
    (hr : setMode env ld sou mode fb x y = some r) :
    (∃ ret sou', r = (ret, ld, sou') ∧ UnitOk sou' ∧ sou'.crtc.fb = sou.crtc.fb) ∨
      ∃ sou', r = (0, ld.activate sou.activeImplicit fb, sou') ∧ UnitOk sou' ∧ sou'.crtc.fb = some fb ∧
        (sou.activeImplicit = true → ld.implicitFb = some fb) := by
  rw [setMode_eq] at hr
  rcases prepare_cases h hsafe with ⟨ret, sou', hret, heq, hok, hfb⟩ | ⟨sou', heq, hready⟩
  · rw [heq] at hr
    dsimp only at hr
    rw [if_pos hret] at hr
    exact .inl ⟨ret, sou', (Option.some.inj hr).symm, hok, hfb⟩
  · rw [heq] at hr
    rcases create_cases hready hr with ⟨hcreate, hr⟩ | ⟨hcreate, hbuf, hr⟩
    · cases hdef : sou'.defined with
      | true =>
        rw [hdef, if_pos rfl] at hr
        refine .inl ⟨-ENOMEM, sou', hr, ?_, congrArg (fun sou => sou.crtc.fb) (hready.kept hdef)⟩
        rw [hready.kept hdef]
        exact h
      | false =>
        rw [hdef, if_neg Bool.false_ne_true] at hr
        have hfb : sou.crtc.fb = none := by
          by_contra hfb
          have hcreate' := hready.carried hdef (Option.isSome_iff_ne_none.mpr hfb)
          rw [hcreate] at hcreate'
          cases hcreate'
        exact .inl ⟨-ENOMEM, Sou.turnOff sou', hr, h.turnOff hready hfb hdef, hfb.symm⟩
    · refine .inr ⟨_, hr, UnitOk.screened hready hbuf, rfl, ?_⟩
      intro hact
      exact hsafe.same hact (fun hres => hready.destroyed hres (h.active.symm.trans hact)) hcreate

end Create

section Off

/-- What the display becomes when an implicit unit is turned off. -/
def Display.deactivate (ld : Display) (active : Bool) : Display :=
  if active then ⟨ld.numImplicit - 1, if ld.numImplicit - 1 = 0 then none else ld.implicitFb⟩ else ld

theorem vmwSouDelActive_eq (ld : Display) (sou : Unit) :
    vmwSouDelActive ld sou = (ld.deactivate sou.activeImplicit, { sou with activeImplicit := false }) := by
  unfold vmwSouDelActive Display.deactivate
  cases hact : sou.activeImplicit with
  | true => rfl
  | false =>
    rw [if_neg Bool.false_ne_true, if_neg Bool.false_ne_true, ← hact]

/-- The unit that is off. -/
def blank (sou : Unit) : Unit := { cleared (turnOff sou) with activeImplicit := false }

theorem UnitOk.blank (h : UnitOk sou) : UnitOk (blank sou) where
  implicit := h.implicit
  active := rfl
  defined := rfl
  shows := fun hdef => Bool.noConfusion hdef
  backed := fun hdef => Bool.noConfusion hdef
  gone := fun _ => rfl
  size := rfl

theorem setOff_cases (h : UnitOk sou) (hsafe : DestroySafe env sou) :
    (∃ ret, setOff env ld sou = (ret, ld, sou)) ∨
      setOff env ld sou = (0, ld.deactivate sou.activeImplicit, blank sou) := by
  unfold setOff
  rcases vmwSouFifoDestroy_cases h hsafe with ⟨heq, -⟩ | ⟨heq, -⟩
  · rw [heq]
    exact .inl ⟨-ENOMEM, rfl⟩
  · rw [heq]
    right
    dsimp only
    rw [if_neg (not_not.mpr rfl), vmwSouDelActive_eq]
    have hfree : vmwSouBackingFree { turnOff (undefine sou) with activeImplicit := false } = blank sou := by
      unfold vmwSouBackingFree blank cleared
      cases hbuf : sou.buffer with
      | none =>
        have hsize : sou.bufferSize = 0 := by
          rw [h.size, hbuf]
          rfl
        unfold turnOff undefine
        rw [hbuf, hsize]
        rfl
      | some n =>
        unfold turnOff undefine
        rw [hbuf]
        rfl
    exact congrArg (fun sou' => ((0 : Int), ld.deactivate sou.activeImplicit, sou')) hfree

end Off

variable {set : ModeSet}

theorem vmwSouCrtcSetConfig_refused (hrefused : Refused ld sou set) :
    vmwSouCrtcSetConfig env ld sou set = some (-EINVAL, ld, sou) := by
  unfold vmwSouCrtcSetConfig
  rcases hrefused with hmany | hwrong | hother
  · exact if_pos hmany
  · rw [if_pos hwrong]
    exact ite_self _
  · rw [if_pos hother]
    exact (congrArg _ (ite_self _)).trans (ite_self _)

theorem vmwSouCrtcSetConfig_off (hok : ¬ Refused ld sou set) (hoff : set.Off) :
    vmwSouCrtcSetConfig env ld sou set = some (setOff env ld sou) := by
  simp only [Refused, not_or] at hok
  unfold vmwSouCrtcSetConfig
  rw [if_neg hok.1, if_neg hok.2.1, if_neg hok.2.2]
  cases hnum : set.numConnectors with
  | zero => rfl
  | succ n =>
    cases hmode : set.mode with
    | none => rfl
    | some mode =>
      cases hfb : set.fb with
      | none => rfl
      | some fb =>
        simp only [ModeSet.Off, hnum, hmode, hfb, Nat.succ_ne_zero, Option.some_ne_none, or_self] at hoff

theorem vmwSouCrtcSetConfig_on (hok : ¬ Refused ld sou set) (hnum : set.numConnectors ≠ 0)
    (hmode : set.mode = some mode) (hfb : set.fb = some fb) :
    vmwSouCrtcSetConfig env ld sou set =
      if outside mode fb set.x set.y then some (-EINVAL, ld, sou) else setMode env ld sou mode fb set.x set.y := by
  simp only [Refused, not_or] at hok
  unfold vmwSouCrtcSetConfig
  rw [if_neg hok.1, if_neg hok.2.1, if_neg hok.2.2]
  obtain ⟨n, hn⟩ := Nat.exists_eq_succ_of_ne_zero hnum
  rw [hn, hmode, hfb]
  rfl

section Flip

/-- The unit with another framebuffer. -/
def flipped (sou : Unit) (fb : Fb) : Unit := { sou with crtc := { sou.crtc with fb := some fb } }

theorem vmwDuPageFlip_cases (himplicit : sou.isImplicit = true) (env : FlipEnv) (fb : Fb) :
    (∃ ret, vmwDuPageFlip ld sou env fb = some (ret, ld, sou)) ∨
      ld.numImplicit = 1 ∧
        vmwDuPageFlip ld sou env fb = some (errnoVal env.event, { ld with implicitFb := some fb }, flipped sou fb) := by
  unfold vmwDuPageFlip vmwKmsScreenObjectFlippable
  rw [himplicit, if_neg (show ¬ ¬ true = true from not_not.mpr rfl)]
  by_cases hone : ld.numImplicit = 1
  · rw [decide_eq_true hone, if_neg (not_not.mpr rfl)]
    cases env.dirty with
    | some e => exact .inl ⟨e.val, rfl⟩
    | none =>
      cases env.fence with
      | false => exact .inl ⟨-EINVAL, rfl⟩
      | true =>
        refine .inr ⟨hone, ?_⟩
        unfold vmwKmsScreenObjectUpdateImplicitFb flipped
        rw [himplicit]
        rfl
  · rw [decide_eq_false hone, if_pos Bool.false_ne_true]
    exact .inl ⟨-EINVAL, rfl⟩

theorem UnitOk.flipped (h : UnitOk sou) (hfb : sou.crtc.fb.isSome = true) : UnitOk (flipped sou fb) where
  implicit := h.implicit
  active := h.active.trans hfb
  defined := h.defined.trans hfb
  shows := h.shows
  backed := h.backed
  gone := h.gone
  size := h.size

end Flip

end Unit

section Run

variable [Fintype ι] {s s' : State ι} {i : ι} {ld : Display} {sou : Unit}

structure Inv (s : State ι) : Prop where
  unit : ∀ i, UnitOk (s.unit i)
  shared : Shared (fun i => (s.unit i).crtc.fb) s.ld.numImplicit s.ld.implicitFb

omit [DecidableEq ι] in
theorem Inv.init : Inv (init ι) where
  unit := fun _ => UnitOk.init
  shared := Shared.nothing

omit [Fintype ι] in
theorem put_self (s : State ι) (i : ι) (ld : Display) (sou : Unit) : (s.put i ld sou).unit i = sou := by
  unfold State.put
  exact Function.update_self ..

omit [Fintype ι] in
theorem put_of_ne (s : State ι) {i j : ι} (hji : j ≠ i) (ld : Display) (sou : Unit) :
    (s.put i ld sou).unit j = s.unit j := by
  unfold State.put
  exact Function.update_of_ne hji ..

omit [Fintype ι] in
theorem put_fb (s : State ι) (i : ι) (ld : Display) (sou : Unit) :
    (fun j => ((s.put i ld sou).unit j).crtc.fb) = Function.update (fun j => (s.unit j).crtc.fb) i sou.crtc.fb := by
  funext j
  exact Function.apply_update (fun _ (sou : Unit) => sou.crtc.fb) s.unit i sou j

namespace Inv

theorem put (h : Inv s) (hunit : UnitOk sou)
    (hshared : Shared (Function.update (fun j => (s.unit j).crtc.fb) i sou.crtc.fb) ld.numImplicit ld.implicitFb) :
    Inv (s.put i ld sou) where
  unit := by
    intro j
    by_cases hji : j = i
    · subst hji
      rw [put_self]
      exact hunit
    · rw [put_of_ne s hji]
      exact h.unit j
  shared := by
    rw [put_fb]
    exact hshared

/-- The unit shows what it showed. -/
theorem keep (h : Inv s) (hunit : UnitOk sou) (hfb : sou.crtc.fb = (s.unit i).crtc.fb) : Inv (s.put i s.ld sou) := by
  apply h.put hunit
  rw [hfb, Function.update_eq_self]
  exact h.shared

theorem off (h : Inv s) (hunit : UnitOk sou) (hfb : sou.crtc.fb = none) :
    Inv (s.put i (s.ld.deactivate (s.unit i).activeImplicit) sou) := by
  have hactive := (h.unit i).active
  cases hact : (s.unit i).activeImplicit with
  | true =>
    apply h.put hunit
    rw [hfb]
    exact h.shared.leave (hactive.symm.trans hact)
  | false =>
    apply h.keep hunit
    rw [hfb]
    exact (Option.not_isSome_iff_eq_none.mp (by simp [← hactive, hact])).symm

theorem on (h : Inv s) {fb : Fb} (hunit : UnitOk sou) (hfb : sou.crtc.fb = some fb)
    (hother : otherFb s.ld (s.unit i) (some fb) = false)
    (hsame : (s.unit i).activeImplicit = true → s.ld.implicitFb = some fb) :
    Inv (s.put i (s.ld.activate (s.unit i).activeImplicit fb) sou) := by
  apply h.put hunit
  rw [hfb]
  have hactive := (h.unit i).active
  cases hact : (s.unit i).activeImplicit with
  | true =>
    have hshared := h.shared.replace (hactive.symm.trans hact) (.inr (hsame hact))
    unfold Display.activate
    rw [if_pos rfl, hsame hact]
    exact hshared
  | false =>
    apply h.shared.join
    · exact Option.not_isSome_iff_eq_none.mp (by simp [← hactive, hact])
    · unfold otherFb at hother
      cases hfb' : s.ld.implicitFb with
      | none => exact .inl (h.shared.eq_none_iff.mp hfb')
      | some fb' =>
        right
        rw [(h.unit i).implicit, hact, hfb'] at hother
        simpa using hother

theorem setConfig (h : Inv s) {set : ModeSet} {env : Env} (hsafe : SetSafe env s.ld (s.unit i) set)
    {ret : Int} (hr : vmwSouCrtcSetConfig env s.ld (s.unit i) set = some (ret, ld, sou)) : Inv (s.put i ld sou) := by
  have hkeep : Inv (s.put i s.ld (s.unit i)) := h.keep (h.unit i) rfl
  by_cases hrefused : Refused s.ld (s.unit i) set
  · rw [vmwSouCrtcSetConfig_refused hrefused] at hr
    cases hr
    exact hkeep
  · have hother : otherFb s.ld (s.unit i) set.fb = false := by
      simp only [Refused, not_or] at hrefused
      exact Bool.eq_false_iff.mpr hrefused.2.2
    by_cases hoff : set.Off
    · rw [vmwSouCrtcSetConfig_off hrefused hoff] at hr
      rcases setOff_cases (h.unit i) (hsafe.off hrefused hoff) with ⟨ret', heq⟩ | heq
      · rw [heq] at hr
        cases hr
        exact hkeep
      · rw [heq] at hr
        cases hr
        exact h.off (h.unit i).blank rfl
    · obtain ⟨hnum, hmode, hfb⟩ := (not_or.trans (and_congr_right fun _ => not_or)).mp hoff
      obtain ⟨mode, hmode⟩ := Option.ne_none_iff_exists'.mp hmode
      obtain ⟨fb, hfb⟩ := Option.ne_none_iff_exists'.mp hfb
      rw [vmwSouCrtcSetConfig_on hrefused hnum hmode hfb] at hr
      cases hout : outside mode fb set.x set.y with
      | true =>
        rw [hout, if_pos rfl] at hr
        cases hr
        exact hkeep
      | false =>
        rw [hout, if_neg Bool.false_ne_true] at hr
        rcases setMode_cases (h.unit i) (hsafe.on hrefused hnum mode fb hmode hfb hout) hr with
          ⟨ret', sou', heq, hok, hfb'⟩ | ⟨sou', heq, hok, hfb', hsame⟩
        · cases heq
          exact h.keep hok hfb'
        · cases heq
          exact h.on hok hfb' (hfb ▸ hother) hsame

theorem pageFlip (h : Inv s) {fb : Fb} {env : FlipEnv} (hfb : (s.unit i).crtc.fb.isSome = true)
    {ret : Int} (hr : vmwDuPageFlip s.ld (s.unit i) env fb = some (ret, ld, sou)) : Inv (s.put i ld sou) := by
  rcases vmwDuPageFlip_cases (h.unit i).implicit env fb with ⟨ret', heq⟩ | ⟨hone, heq⟩
  · rw [heq] at hr
    cases hr
    exact h.keep (h.unit i) rfl
  · rw [heq] at hr
    cases hr
    apply h.put ((h.unit i).flipped hfb)
    exact h.shared.replace hfb (.inl hone)

theorem step (h : Inv s) {a : Action ι} (hsafe : Safe s a) (hstep : step s a = some s') : Inv s' := by
  cases a with
  | setConfig i set env =>
    obtain ⟨⟨ret, ld, sou⟩, hr, rfl⟩ := Option.map_eq_some_iff.mp hstep
    exact h.setConfig hsafe hr
  | pageFlip i fb env =>
    unfold Sou.step at hstep
    dsimp only at hstep
    split at hstep
    case isFalse => cases hstep
    case isTrue hfb =>
      obtain ⟨⟨ret, ld, sou⟩, hr, rfl⟩ := Option.map_eq_some_iff.mp hstep
      exact h.pageFlip hfb hr

omit [DecidableEq ι] in
theorem sound (h : Inv s) : Sound s where
  count := by
    rw [h.shared.count]
    unfold showing
    congr 1
    apply Finset.filter_congr
    intro i _
    rw [(h.unit i).active]
  null := h.shared.eq_none_iff
  shared := fun i hact => h.shared.same_of_isSome ((h.unit i).active.symm.trans hact)
  backed := by
    intro i cmd hcmd
    cases hdef : (s.unit i).defined with
    | true =>
      obtain ⟨cmd', hscreen, hwidth, hheight⟩ := (h.unit i).shows hdef
      rw [hscreen] at hcmd
      rw [(h.unit i).backed hdef, ← Option.some.inj hcmd, hwidth, hheight]
      rfl
    | false =>
      rw [(h.unit i).gone hdef] at hcmd
      cases hcmd
  defined := by
    intro i hfb
    obtain ⟨cmd, hscreen, -⟩ := (h.unit i).shows ((h.unit i).defined.trans hfb)
    exact ⟨cmd, hscreen⟩

end Inv

/-- The units, the display and the device agree after every run of mode sets and page flips in which no call
takes a screen away that it cannot give back, and none leaves the framebuffer that is shared. -/
theorem sou_sound {as : List (Action ι)} (hrun : Run Sou.step Safe (init ι) as s) : Sound s :=
  (hrun.invariant (fun _ _ _ hsafe hstep h => h.step hsafe hstep) Inv.init).sound

end Run

/-- Every step goes well. -/
def Env.well : Env := ⟨true, true, true, none, true⟩

/-- A framebuffer set on one connector, at the origin. -/
def ModeSet.of (mode : Mode) (fb : Fb) : ModeSet := ⟨1, true, some mode, some fb, 0, 0⟩

/-- A mode is set on the first unit, and another framebuffer by a page flip. -/
def flipping : List (Action (Fin 8)) :=
  [.setConfig 0 (.of ⟨64, 32⟩ ⟨1, 64, 32⟩) .well, .pageFlip 0 ⟨2, 64, 32⟩ ⟨none, true, none⟩]

theorem sou_sound_flipped :
    ∃ s, Run step Safe (init (Fin 8)) flipping s ∧ s.ld = ⟨1, some ⟨2, 64, 32⟩⟩ ∧ Sound s := by
  have hsafe : Safe (init (Fin 8)) (.setConfig 0 (.of ⟨64, 32⟩ ⟨1, 64, 32⟩) .well) := {
    off := fun _ hoff => absurd hoff (by simp [ModeSet.Off, ModeSet.of])
    on := by
      intro _ _ mode fb hmode _ _
      cases hmode
      exact {
        synced := fun _ hdef => Bool.noConfusion hdef
        carried := fun _ hfb => Bool.noConfusion hfb
        same := fun hact => Bool.noConfusion hact
        leftover := fun _ _ _ n hbuf => absurd hbuf (Option.some_ne_none n).symm
        fits := fun _ _ _ _ => by decide } }
  obtain ⟨s, hld, hrun⟩ : ∃ s, s.ld = ⟨1, some ⟨2, 64, 32⟩⟩ ∧ Run step Safe (init (Fin 8)) flipping s :=
    ⟨_, by rfl, .cons hsafe rfl (.single trivial rfl)⟩
  exact ⟨s, hrun, hld, sou_sound hrun⟩

/-- The unit alone is set to another framebuffer, of which the display does not learn. -/
theorem sou_replace_stale :
    ¬ ∀ (as : List (Action (Fin 8))) (s : State (Fin 8)), Run step (fun _ _ => True) (init (Fin 8)) as s → Sound s := by
  intro h
  have hrun : Run step (fun _ _ => True) (init (Fin 8)) _ _ :=
    .cons (a := .setConfig 0 (.of ⟨64, 32⟩ ⟨1, 64, 32⟩) .well) trivial rfl
      (.cons (a := .setConfig 0 (.of ⟨64, 32⟩ ⟨2, 64, 32⟩) .well) trivial rfl (.nil _))
  exact absurd ((h _ _ hrun).shared 0 rfl) (by decide)

end Vmwgfx.Kms.Sou
