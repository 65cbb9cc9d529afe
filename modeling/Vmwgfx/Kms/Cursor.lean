import Vmwgfx.Kms.Snoop

/-! Cursors of display units: what is sent to the device, and when. -/

namespace Vmwgfx.Kms.Cursor

abbrev UnitId := Nat
abbrev SurfId := Nat
abbrev BufId := Nat

structure DisplayUnit where
  cursorSurface : Option SurfId
  cursorDmabuf : Option BufId
  cursorAge : UInt64
  cursorX : Int
  cursorY : Int
  hotspotX : Int
  hotspotY : Int

/-- `struct vmw_cursor_snooper`, with the image as a whole. -/
structure Snooper (α : Type) where
  crtc : Option UnitId
  age : UInt64
  image : Option α

/-- The cursor as the device shows it. -/
structure Device (α : Type) where
  image : Option α
  hotspotX : Int
  hotspotY : Int
  on : Bool
  x : Int
  y : Int

inductive CursorObj
  | surface (srf : SurfId)
  | dmabuf (b : BufId)
  deriving DecidableEq

inductive CursorEvent
  | sent (u : UnitId) (obj : CursorObj)
  | snooped (srf : SurfId)
  deriving DecidableEq

structure State (α : Type) where
  units : List UnitId
  unit : UnitId → DisplayUnit
  snooper : SurfId → Snooper α
  buf : BufId → VmwDmaBuffer
  data : BufId → α
  surfRef : SurfId → Nat
  bufRef : BufId → Nat
  /-- The references that are not those of display units. -/
  surfHandle : SurfId → Nat
  bufHandle : BufId → Nat
  device : Device α
  /-- The snoops into the cursor surface of a unit since its age was last recorded. -/
  since : UnitId → Nat
  /-- The latest first. -/
  log : List CursorEvent

variable {α : Type}

namespace State

variable (s : State α)

def modify (u : UnitId) (f : DisplayUnit → DisplayUnit) : State α :=
  { s with unit := Function.update s.unit u (f (s.unit u)) }

def modifySnooper (srf : SurfId) (f : Snooper α → Snooper α) : State α :=
  { s with snooper := Function.update s.snooper srf (f (s.snooper srf)) }

def surfGet (srf : SurfId) : State α := { s with surfRef := Function.update s.surfRef srf (s.surfRef srf + 1) }

def surfPut (srf : SurfId) : State α := { s with surfRef := Function.update s.surfRef srf (s.surfRef srf - 1) }

def bufGet (b : BufId) : State α := { s with bufRef := Function.update s.bufRef b (s.bufRef b + 1) }

def bufPut (b : BufId) : State α := { s with bufRef := Function.update s.bufRef b (s.bufRef b - 1) }

/-- `du->cursor_age = du->cursor_surface->snooper.age`. -/
def recordAge (u : UnitId) (srf : SurfId) : State α :=
  { s.modify u (fun du => { du with cursorAge := (s.snooper srf).age }) with since := Function.update s.since u 0 }

end State

section Send

/-- `vmw_cursor_update_image`; there is `room` in the FIFO or not. -/
def vmwCursorUpdateImage (s : State α) (u : UnitId) (obj : CursorObj) (image : Option α) (room : Bool) :
    Int × State α :=
  if image.isNone then (-EINVAL, s)
  else if ¬ room then (-ENOMEM, s)
  else
    (0, { s with device := { s.device with image, hotspotX := (s.unit u).hotspotX, hotspotY := (s.unit u).hotspotY }
                 log := .sent u obj :: s.log })

/-- What `ttm_bo_reserve`, `ttm_bo_kmap` and the FIFO say. -/
structure SendOutcome where
  reserve : Int
  kmap : Int
  room : Bool

/-- The pages of an image of 64 by 64. -/
def CURSOR_PAGES : Nat := (64 * 64 * 4 + PAGE_SIZE - 1) / PAGE_SIZE

def vmwCursorUpdateDmabuf (s : State α) (u : UnitId) (b : BufId) (o : SendOutcome) : Int × State α :=
  let ret := ttmBoKmap (s.buf b) 0 CURSOR_PAGES o.kmap
  if o.reserve ≠ 0 then (-EINVAL, s)
  else if ret ≠ 0 then (ret, s)
  else vmwCursorUpdateImage s u (.dmabuf b) (some (s.data b)) o.room

def vmwCursorUpdatePosition (s : State α) (on : Bool) (x y : Int) : State α :=
  { s with device := { s.device with on, x, y } }

end Send

section Set

/-- What a handle is looked up as. -/
structure Lookups where
  surface : Except Int SurfId
  dmabuf : Except Int BufId

/-- `vmw_user_lookup_handle`; the object comes with a reference. -/
def vmwUserLookupHandle (s : State α) (l : Lookups) : Except Int (CursorObj × State α) :=
  match l.surface with
  | .ok srf => .ok (.surface srf, s.surfGet srf)
  | .error _ =>
    match l.dmabuf with
    | .ok b => .ok (.dmabuf b, s.bufGet b)
    | .error ret => .error ret

def dropSurface (s : State α) (u : UnitId) : State α :=
  match (s.unit u).cursorSurface with
  | none => s
  | some srf =>
    ((s.modifySnooper srf fun snooper => { snooper with crtc := none }).surfPut srf).modify u fun du =>
      { du with cursorSurface := none }

def dropDmabuf (s : State α) (u : UnitId) : State α :=
  match (s.unit u).cursorDmabuf with
  | none => s
  | some b => (s.bufPut b).modify u fun du => { du with cursorDmabuf := none }

/-- The old cursor is taken down. -/
def takedown (s : State α) (u : UnitId) : State α := dropDmabuf (dropSurface s u) u

/-- The new image is set up. What sending it returns is not looked at. -/
def setupCursor (s : State α) (u : UnitId) (o : SendOutcome) : CursorObj → State α
  | .surface srf =>
    let s := s.modify u fun du => { du with cursorSurface := some srf }
    let s := (s.modifySnooper srf fun snooper => { snooper with crtc := some u }).recordAge u srf
    (vmwCursorUpdateImage s u (.surface srf) (s.snooper srf).image o.room).2
  | .dmabuf b =>
    let s := s.modify u fun du => { du with cursorDmabuf := some b }
    (vmwCursorUpdateDmabuf s u b o).2

def showCursor (s : State α) (u : UnitId) : State α :=
  let du := s.unit u
  vmwCursorUpdatePosition s true (du.cursorX + du.hotspotX) (du.cursorY + du.hotspotY)

def vmwDuCrtcCursorSet (s : State α) (u : UnitId) (handle width height : UInt32) (l : Lookups) (o : SendOutcome) :
    Int × State α :=
  if handle ≠ 0 ∧ (width ≠ 64 ∨ height ≠ 64) then (-EINVAL, s)
  else if handle = 0 then (0, vmwCursorUpdatePosition (takedown s u) false 0 0)
  else
    match vmwUserLookupHandle s l with
    | .error _ => (-EINVAL, s)
    | .ok (.surface srf, s) =>
      if (s.snooper srf).image.isNone then (-EINVAL, s.surfPut srf)
      else (0, showCursor (setupCursor (takedown s u) u o (.surface srf)) u)
    | .ok (.dmabuf b, s) => (0, showCursor (setupCursor (takedown s u) u o (.dmabuf b)) u)

/-- `vmw_du_crtc_cursor_move`; `x` and `y` are from the origin of the crtc. -/
def vmwDuCrtcCursorMove (s : State α) (u : UnitId) (x y : Int) : State α :=
  let shown := (s.unit u).cursorSurface.isSome || (s.unit u).cursorDmabuf.isSome
  let s := s.modify u fun du => { du with cursorX := x, cursorY := y }
  let du := s.unit u
  vmwCursorUpdatePosition s shown (du.cursorX + du.hotspotX) (du.cursorY + du.hotspotY)

end Set

section Snoop

/-- A DMA command that is snooped; the image becomes `image` when there is a copy. -/
def snoop (s : State α) (srf : SurfId) (bo : VmwDmaBuffer) (cmd : VmwDmaCmd) (reserve kmap : Int) (image : α) : State α :=
  match vmwKmsCursorSnoop ((s.snooper srf).image.map fun _ => 64 * 64 * 4) bo cmd reserve kmap with
  | none => s
  | some _ =>
    { s.modifySnooper srf (fun snooper => { snooper with age := snooper.age + 1, image := some image }) with
      since := fun u => if (s.unit u).cursorSurface = some srf then s.since u + 1 else s.since u
      log := .snooped srf :: s.log }

/-- The turn of a unit in `vmw_kms_cursor_post_execbuf`. -/
def updateUnit (s : State α) (u : UnitId) (room : Bool) : State α :=
  match (s.unit u).cursorSurface with
  | none => s
  | some srf =>
    if (s.unit u).cursorAge = (s.snooper srf).age then s
    else
      let s := s.recordAge u srf
      (vmwCursorUpdateImage s u (.surface srf) (s.snooper srf).image room).2

def vmwKmsCursorPostExecbuf (s : State α) (room : UnitId → Bool) : State α :=
  s.units.foldl (fun s u => updateUnit s u (room u)) s

end Snoop

inductive Act (α : Type)
  | cursorSet (u : UnitId) (handle width height : UInt32) (l : Lookups) (o : SendOutcome)
  | cursorMove (u : UnitId) (x y : Int)
  | snoop (srf : SurfId) (bo : VmwDmaBuffer) (cmd : VmwDmaCmd) (reserve kmap : Int) (image : α)
  | postExecbuf (room : UnitId → Bool)
  | write (b : BufId) (image : α)
  | surfGet (srf : SurfId)
  | surfPut (srf : SurfId)
  | bufGet (b : BufId)
  | bufPut (b : BufId)

/-- What is returned, and the state after. -/
def step (s : State α) : Act α → Int × State α
  | .cursorSet u handle width height l o => vmwDuCrtcCursorSet s u handle width height l o
  | .cursorMove u x y => (0, vmwDuCrtcCursorMove s u x y)
  | .snoop srf bo cmd reserve kmap image => (0, Cursor.snoop s srf bo cmd reserve kmap image)
  | .postExecbuf room => (0, vmwKmsCursorPostExecbuf s room)
  | .write b image => (0, { s with data := Function.update s.data b image })
  | .surfGet srf => (0, { s.surfGet srf with surfHandle := Function.update s.surfHandle srf (s.surfHandle srf + 1) })
  | .surfPut srf => (0, { s.surfPut srf with surfHandle := Function.update s.surfHandle srf (s.surfHandle srf - 1) })
  | .bufGet b => (0, { s.bufGet b with bufHandle := Function.update s.bufHandle b (s.bufHandle b + 1) })
  | .bufPut b => (0, { s.bufPut b with bufHandle := Function.update s.bufHandle b (s.bufHandle b - 1) })

/-- Lookups find what has a handle, handles are dropped by who has them, and there are fewer than 2^32 snoops
between two updates. -/
def Enabled (s : State α) : Act α → Prop
  | .cursorSet u _ _ _ l _ => u ∈ s.units ∧ (∀ srf, l.surface = .ok srf → 0 < s.surfHandle srf) ∧
      ∀ b, l.dmabuf = .ok b → 0 < s.bufHandle b
  | .cursorMove u _ _ => u ∈ s.units
  | .snoop srf _ _ _ _ _ => ∀ u ∈ s.units, (s.unit u).cursorSurface = some srf → s.since u + 1 < 2 ^ 32
  | .surfPut srf => 0 < s.surfHandle srf
  | .bufPut b => 0 < s.bufHandle b
  | _ => True

def State.init (units : List UnitId) (image : SurfId → Option α) (buf : BufId → VmwDmaBuffer) (data : BufId → α) :
    State α where
  units
  unit _ := ⟨none, none, 0, 0, 0, 0, 0⟩
  snooper srf := ⟨none, 0, image srf⟩
  buf
  data
  surfRef _ := 0
  bufRef _ := 0
  surfHandle _ := 0
  bufHandle _ := 0
  device := ⟨none, 0, 0, false, 0, 0⟩
  since _ := 0
  log := []

/-- The image of the surface was sent for the unit, and has not changed since. -/
def SentSince (u : UnitId) (srf : SurfId) : List CursorEvent → Prop
  | [] => False
  | .sent u' obj :: log => u' = u ∧ obj = .surface srf ∨ SentSince u srf log
  | .snooped srf' :: log => srf' ≠ srf ∧ SentSince u srf log

def State.image (s : State α) : CursorObj → Option α
  | .surface srf => (s.snooper srf).image
  | .dmabuf b => some (s.data b)

/-- The cursors of units and the references are as they should be, and an age that is current says that the image
has been sent. -/
structure Truthful (s : State α) : Prop where
  one : ∀ u ∈ s.units, (s.unit u).cursorSurface = none ∨ (s.unit u).cursorDmabuf = none
  surfRefs : ∀ srf, s.surfRef srf = s.surfHandle srf + s.units.countP fun u => (s.unit u).cursorSurface = some srf
  bufRefs : ∀ b, s.bufRef b = s.bufHandle b + s.units.countP fun u => (s.unit u).cursorDmabuf = some b
  sent : ∀ u ∈ s.units, ∀ srf, (s.unit u).cursorSurface = some srf → (s.unit u).cursorAge = (s.snooper srf).age →
    SentSince u srf s.log

/-- What a handle names. -/
def Lookups.Names (l : Lookups) : CursorObj → Prop
  | .surface srf => l.surface = .ok srf
  | .dmabuf b => (∀ srf, l.surface ≠ .ok srf) ∧ l.dmabuf = .ok b

/-- An error changes nothing, and a cursor that is accepted has been sent. -/
def Kept (s : State α) (a : Act α) : Prop :=
  Truthful (step s a).2 ∧
    match a with
    | .cursorSet u handle _ _ l _ =>
      ((step s a).1 ≠ 0 → (step s a).2.unit u = s.unit u ∧ (step s a).2.device = s.device) ∧
        ((step s a).1 = 0 → handle ≠ 0 → ∃ obj, l.Names obj ∧ (step s a).2.log = .sent u obj :: s.log ∧
          (step s a).2.device.image = s.image obj)
    | _ => True

/-- Whatever is to be sent gets to the device. -/
def Sends (s : State α) : Act α → Prop
  | .cursorSet _ handle width height l o => handle ≠ 0 → width = 64 → height = 64 →
      (∀ srf, l.Names (.surface srf) → (s.snooper srf).image.isSome → o.room = true) ∧
        ∀ b, l.Names (.dmabuf b) → o.reserve = 0 ∧ ttmBoKmap (s.buf b) 0 CURSOR_PAGES o.kmap = 0 ∧ o.room = true
  | .postExecbuf room => ∀ u ∈ s.units, ∀ srf, (s.unit u).cursorSurface = some srf →
      (s.unit u).cursorAge ≠ (s.snooper srf).age → room u = true
  | _ => True

end Vmwgfx.Kms.Cursor
