import Vmwgfx.Kernel
import Vmwgfx.Lib.Ends
import Vmwgfx.Lib.Unwind

/-! Loading the driver: `vmw_driver_load`, with the first reference to the 3D resources. -/

namespace Vmwgfx.Load

open Lib

def ENOSYS : Int := 38

theorem neg_ENOSYS : -ENOSYS < 0 := by decide

def SVGA_ID_2 : BitVec 32 := 0x90000002

def SVGA_CAP_EXTENDED_FIFO : BitVec 32 := 0x00008000
def SVGA_CAP_PITCHLOCK : BitVec 32 := 0x00020000
def SVGA_CAP_IRQMASK : BitVec 32 := 0x00040000
def SVGA_CAP_DISPLAY_TOPOLOGY : BitVec 32 := 0x00080000
def SVGA_CAP_GMR : BitVec 32 := 0x00100000
def SVGA_CAP_GMR2 : BitVec 32 := 0x00400000
def SVGA_CAP_SCREEN_OBJECT_2 : BitVec 32 := 0x00800000
def SVGA_CAP_GBOBJECTS : BitVec 32 := 0x08000000

def SVGA_FIFO_CAP_PITCHLOCK : BitVec 32 := 0x00000004

inductive Display
  | screenObject
  | legacy
  deriving DecidableEq

/-- What the driver holds once it is loaded, in part or as a whole. -/
inductive Res
  | devPriv | idrs | hwMutex
  /-- the two references of `vmw_ttm_global_init` -/
  | memGlobal | boGlobal
  | bdev | mtrr | mmio | tdev
  /-- all regions, or that of the stealth mode -/
  | regions | region
  | irq | fman | vram | gmr | mob | vga
  /-- with the display system, if there is one -/
  | kms (display : Option Display)
  | overlay
  /-- the static buffer of the FIFO and the device switched on -/
  | fifo
  | fenceFifo | otables | queryBo
  | fb | pmNotifier
  deriving DecidableEq

/-- How the steps end; `none` is success of those that return an error. -/
structure Env where
  /-- `enable_fbdev && !force_stealth` -/
  enableFb : Bool
  /-- `VMWGFX_STANDALONE` without `VMWGFX_HANDOVER` -/
  standalone : Bool
  devPriv : Bool
  svgaId : BitVec 32
  capabilities : BitVec 32
  fifoCapabilities : BitVec 32
  dmaMode : Option Errno
  memGlobal : Option Errno
  boGlobal : Option Errno
  bdev : Option Errno
  /-- the handle of `drm_mtrr_add`, negative for an error -/
  mtrr : Int
  /-- an MTRR of someone else has the base and the size of the MMIO area -/
  foreignMtrr : Bool
  mmio : Bool
  tdev : Bool
  regions : Option Errno
  region : Option Errno
  irq : Option Errno
  fman : Bool
  vram : Option Errno
  gmr : Option Errno
  mob : Option Errno
  /-- the allocations of the display systems -/
  screenObject : Bool
  legacy : Bool
  overlay : Bool
  staticBuffer : Bool
  /-- `vmw_fifo_send_fence` -/
  fence : Option Errno
  otables : Option Errno
  queryBo : Option Errno
  fb : Bool

/-- Of `struct vmw_private`, with the local variables. -/
structure Private where
  ret : Int
  capabilities : BitVec 32
  refuseDma : Bool
  enableFb : Bool
  mmioMtrr : Int
  stealth : Bool
  hasGmr : Bool
  hasMob : Bool
  souPriv : Bool
  lduPriv : Bool
  overlayPriv : Bool
  log : List (Event Res)

/-- The labels at which the unwinding begins. -/
inductive Label
  | outNoFifo | outNoKms | outNoVram | outNoFman | outNoIrq | outNoDevice
  | outErr4 | outErr3 | outErr1 | outErr0
  deriving DecidableEq

abbrev M := EStateM Label Private

def acquire (r : Res) (d : Private) : Private := { d with log := d.log ++ [.acquire r] }

def release (r : Res) (d : Private) : Private := { d with log := d.log ++ [.release r] }

/-- A call that acquires `r` where it succeeds. -/
def call (o : Option Errno) (r : Res) (d : Private) : Private :=
  match o with
  | none => acquire r { d with ret := 0 }
  | some e => { d with ret := e.val }

/-- `if (ret != 0) goto l;` -/
def gotoIfFailed (l : Label) : M PUnit := do
  let d ← get
  if d.ret ≠ 0 then throw l else pure PUnit.unit

/-- A call with the test of its result. -/
def attempt (l : Label) (o : Option Errno) (r : Res) : M PUnit := do
  modify (call o r)
  gotoIfFailed l

/-- An allocation, whose failure is told by the result. -/
def allocate (l : Label) (ok : Bool) (ret : Int) (r : Res) : M PUnit :=
  if ok then modify (acquire r)
  else do
    modify fun d => { d with ret := ret }
    throw l

def Private.has (d : Private) (cap : BitVec 32) : Bool := d.capabilities &&& cap ≠ 0

section Request

variable (env : Env)

/-- `vmw_fence_fifo_down` and `vmw_fifo_release`. -/
def outNoMob (d : Private) : Private := release .fifo (release .fenceFifo d)

def outNoQueryBo (d : Private) : Private := outNoMob (if d.hasMob then release .otables d else d)

def vmwFifoInit (d : Private) : Private :=
  if env.staticBuffer then { acquire .fifo d with ret := errnoVal env.fence }
  else { d with ret := -ENOMEM }

def vmwDummyQueryBoCreate (d : Private) : Private :=
  let d := call env.queryBo .queryBo d
  if d.ret ≠ 0 then outNoQueryBo d else d

/-- The part of `vmw_request_device` behind `vmw_fence_fifo_up`. -/
def requestObjects (d : Private) : Private :=
  if d.hasMob then
    let d := call env.otables .otables d
    if d.ret ≠ 0 then outNoMob d else vmwDummyQueryBoCreate env d
  else vmwDummyQueryBoCreate env d

def vmwRequestDevice (d : Private) : Private :=
  let d := vmwFifoInit env d
  if d.ret ≠ 0 then d else requestObjects env (acquire .fenceFifo d)

end Request

section Forward

variable (env : Env)

/-- The part with `hw_mutex` held. -/
def probe : M PUnit := do
  modify (acquire .hwMutex)
  if env.svgaId ≠ SVGA_ID_2 then
    modify fun d => release .hwMutex { d with ret := -ENOSYS }
    throw .outErr0
  else
    modify fun d => release .hwMutex { d with
      capabilities := env.capabilities
      ret := errnoVal env.dmaMode
      refuseDma := env.dmaMode.isSome }

def vmwTtmGlobalInit (d : Private) : Private :=
  let d := call env.memGlobal .memGlobal d
  if d.ret ≠ 0 then d
  else
    let d := call env.boGlobal .boGlobal d
    if d.ret ≠ 0 then release .memGlobal d else d

def ttmGlobals : M PUnit := do
  modify (vmwTtmGlobalInit env)
  gotoIfFailed .outErr0

def addMtrr : M PUnit :=
  modify fun d =>
    let d := { d with mmioMtrr := env.mtrr }
    if 0 ≤ env.mtrr then acquire .mtrr d else d

def vmwFifoHavePitchlock (d : Private) : Bool :=
  d.has SVGA_CAP_EXTENDED_FIFO && env.fifoCapabilities &&& SVGA_FIFO_CAP_PITCHLOCK ≠ 0

def checkPitchlock : M PUnit := do
  let d ← get
  if !d.has SVGA_CAP_DISPLAY_TOPOLOGY && !d.has SVGA_CAP_PITCHLOCK && !vmwFifoHavePitchlock env d then
    modify fun d => { d with ret := -ENOSYS }
    throw .outErr4
  else pure PUnit.unit

/-- The PCI regions, or at least that of the MMIO area. -/
def requestRegions : M PUnit :=
  match env.regions with
  | none => modify fun d => acquire .regions { d with ret := 0, stealth := false }
  | some _ => do
    modify fun d => { d with stealth := true }
    attempt .outNoDevice env.region .region
    modify fun d => if env.standalone then { d with enableFb := false } else d

def installIrq : M PUnit := do
  let d ← get
  if d.has SVGA_CAP_IRQMASK then attempt .outNoIrq env.irq .irq else pure PUnit.unit

def vmwFenceManagerInit : M PUnit := if env.fman then modify (acquire .fman) else throw .outNoFman

/-- The GMR and MOB managers, whose failure is no error. -/
def initManagers (d : Private) : Private :=
  let d :=
    if !d.has (SVGA_CAP_GMR ||| SVGA_CAP_GMR2) || d.refuseDma || env.gmr ≠ none then
      { d with hasGmr := false }
    else acquire .gmr { d with hasGmr := true }
  if d.has SVGA_CAP_GBOBJECTS then
    if env.mob ≠ none then { d with hasMob := false } else acquire .mob { d with hasMob := true }
  else d

/-- The display system is that of `dev_priv->sou_priv`, else that of `dev_priv->ldu_priv`. -/
def display (d : Private) : Option Display :=
  if d.souPriv then some .screenObject else if d.lduPriv then some .legacy else none

def vmwKmsInit (d : Private) : Private :=
  let d :=
    if d.has SVGA_CAP_SCREEN_OBJECT_2 && env.screenObject then { d with souPriv := true }
    else { d with lduPriv := env.legacy }
  acquire (.kms (display d)) { d with ret := 0 }

def vmwOverlayInit (d : Private) : Private :=
  if env.overlay then acquire .overlay { d with overlayPriv := true } else d

/-- `vmw_kms_save_vga`, `vmw_kms_init` and `vmw_overlay_init`. -/
def initDisplay : M PUnit := do
  modify (acquire .vga)
  modify (vmwKmsInit env)
  gotoIfFailed .outNoKms
  modify (vmwOverlayInit env)

/-- `vmw_3d_resource_inc` at its first call, and `vmw_fb_init`, whose result is not looked at. -/
def initFb : M PUnit := do
  let d ← get
  if d.enableFb then
    modify (vmwRequestDevice env)
    gotoIfFailed .outNoFifo
    modify fun d => if env.fb then acquire .fb d else d
  else pure PUnit.unit

/-- From `idr_init` to the return. -/
def body : M PUnit := do
  modify (acquire .idrs)
  probe env
  ttmGlobals env
  attempt .outErr1 env.bdev .bdev
  addMtrr env
  allocate .outErr3 env.mmio (-ENOMEM) .mmio
  checkPitchlock env
  allocate .outErr4 env.tdev (-ENOMEM) .tdev
  requestRegions env
  installIrq env
  vmwFenceManagerInit env
  attempt .outNoVram env.vram .vram
  modify (initManagers env)
  initDisplay env
  initFb env
  modify fun d => acquire .pmNotifier { d with ret := 0 }

end Forward

section Ladder

variable (env : Env) (d : Private)

/-- Without a handle the region is looked for by its base and size. -/
def drmMtrrDel : List (Event Res) :=
  if 0 ≤ d.mmioMtrr ∨ env.foreignMtrr then [.release .mtrr] else []

def outErr0 : List (Event Res) := [.release .idrs, .release .devPriv]

def outErr1 : List (Event Res) := .release .boGlobal :: .release .memGlobal :: outErr0

def outErr3 : List (Event Res) := drmMtrrDel env d ++ .release .bdev :: outErr1

def outErr4 : List (Event Res) := .release .mmio :: outErr3 env d

def outNoDevice : List (Event Res) := .release .tdev :: outErr4 env d

def outNoIrq : List (Event Res) :=
  (if d.stealth then .release .region else .release .regions) :: outNoDevice env d

def outNoFman : List (Event Res) :=
  (if d.has SVGA_CAP_IRQMASK then [.release .irq] else []) ++ outNoIrq env d

def outNoVram : List (Event Res) := .release .fman :: outNoFman env d

def outNoKms : List (Event Res) :=
  .release .vga ::
    ((if d.hasMob then [.release .mob] else []) ++
      ((if d.hasGmr then [.release .gmr] else []) ++ .release .vram :: outNoVram env d))

def outNoFifo : List (Event Res) :=
  (if d.overlayPriv then [.release .overlay] else []) ++
    .release (.kms (display d)) :: outNoKms env d

/-- The releases behind a label. -/
def unwind : Label → List (Event Res)
  | .outNoFifo => outNoFifo env d
  | .outNoKms => outNoKms env d
  | .outNoVram => outNoVram env d
  | .outNoFman => outNoFman env d
  | .outNoIrq => outNoIrq env d
  | .outNoDevice => outNoDevice env d
  | .outErr4 => outErr4 env d
  | .outErr3 => outErr3 env d
  | .outErr1 => outErr1
  | .outErr0 => outErr0

end Ladder

/-- The driver's state behind `kzalloc`. -/
def fresh (env : Env) : Private where
  ret := 0
  capabilities := 0
  refuseDma := false
  enableFb := env.enableFb
  mmioMtrr := 0
  stealth := false
  hasGmr := false
  hasMob := false
  souPriv := false
  lduPriv := false
  overlayPriv := false
  log := [.acquire .devPriv]

/-- The result, and everything acquired and released. -/
def vmwDriverLoad (env : Env) : Int × List (Event Res) :=
  if env.devPriv then
    match body env (fresh env) with
    | .ok _ d => (d.ret, d.log)
    | .error l d => (d.ret, d.log ++ unwind env d l)
  else (-ENOMEM, [])

end Vmwgfx.Load
