import Vmwgfx.Execbuf.Frame
import Vmwgfx.Execbuf.Structure
import Vmwgfx.Lib.Machine
import Vmwgfx.Pins.Defs

/-! Buffer relocations over batches: where validation puts the buffers, and what
`vmw_apply_relocations` writes. -/

namespace Vmwgfx.Execbuf.Relocs

open Vmwgfx.Cmdbuf (ShaderWorld)
open Vmwgfx.Hashtab Vmwgfx.Lib
open Vmwgfx.Pins (MemType Place Placement vmwMobPlacement vmwVramGmrPlacement vmwVramPlacement ERESTARTSYS)

variable {hashLong : HashLong}

def svgaGmrFramebuffer : Nat := 2 ^ 32 - 2

/-- `dev_priv` and the buffers, between the batches. -/
structure Device where
  hasMob : Bool
  dummyQueryBo : BufId
  place : BufId → Place
  pinnedBo : Option BufId
  dummyQueryBoPinned : Bool
  queryCidValid : Bool

namespace Device

variable (dev : Device)

/-- The buffers that `vmw_validate_single_buffer` passes by. -/
def Skips (bo : BufId) : Prop :=
  dev.pinnedBo = some bo ∨ bo = dev.dummyQueryBo ∧ dev.dummyQueryBoPinned = true

instance (bo : BufId) : Decidable (dev.Skips bo) := inferInstanceAs (Decidable (_ ∨ _))

def setPlace (bo : BufId) (place : Place) : Device := { dev with place := Function.update dev.place bo place }

/-- `__vmw_execbuf_release_pinned_bo`; it may have to go through `vmw_execbuf_unpin_panic`. -/
def releasePinnedBo (panic : Bool) : Device :=
  if dev.pinnedBo = none then dev
  else { dev with pinnedBo := none, dummyQueryBoPinned := false, queryCidValid := dev.queryCidValid && panic }

def vmwExecbufReleasePinnedBo (panic : Bool) : Device :=
  if dev.queryCidValid then dev.releasePinnedBo panic else dev

/-- What is left to do for a pinned buffer whose context is gone. -/
def releaseInvalid (panic : Bool) : Device := if dev.queryCidValid then dev else dev.releasePinnedBo panic

/-- The buffers are in system memory when they are made. -/
def init (hasMob : Bool) (dummyQueryBo : BufId) : Device where
  hasMob := hasMob
  dummyQueryBo := dummyQueryBo
  place _ := ⟨.system, 0⟩
  pinnedBo := none
  dummyQueryBoPinned := false
  queryCidValid := false

end Device

/-- There is a manager for the MOBs of the device only if it has some. -/
def Manages (hasMob : Bool) (place : Place) : Prop := place.memType = .mob → hasMob = true

instance (hasMob : Bool) (place : Place) : Decidable (Manages hasMob place) :=
  inferInstanceAs (Decidable (_ → _))

/-- A call of `vmw_execbuf_process`, with how the calls it makes turn out. -/
structure Batch (hashLong : HashLong) where
  env : Env
  mem : Mem
  size : Nat
  shaders : ShaderWorld hashLong
  fuel : Nat
  /-- `vmw_resource_reserve`: an error, or the backup of the resource. -/
  reserve : ResId → Bool → Except Int (Option BufId)
  needsBackup : ResId → Bool
  /-- `ttm_eu_reserve_buffers` -/
  reserveBuffers : Int
  /-- The first and the second `ttm_bo_validate` of a buffer. -/
  validate : BufId → Except Int Place × Except Int Place
  /-- The context of the pinned buffer is evicted to make room. -/
  evictsQueryContext : Bool
  /-- How the steps from there to the reservation of FIFO space end. -/
  ret : Int
  panic : Bool

namespace Batch

variable (b : Batch hashLong) (dev : Device)

def envOn : Env := { b.env with hasMob := dev.hasMob, dummyQueryBo := dev.dummyQueryBo }

/-- The software context as `vmw_execbuf_process` sets it up. -/
def start : State hashLong := { State.start hashLong b.mem with curQueryBo := dev.pinnedBo, shaders := b.shaders }

end Batch

section Validate

variable (dev : Device)

/-- `ttm_bo_validate`: a buffer that fits the placement stays. `none` is an answer that TTM cannot give. -/
def ttmBoValidate (p : Placement) (place : Place) (answer : Except Int Place) : Option (Except Int Place) :=
  if place.memType ∈ p.placement then some (.ok place)
  else
    match answer with
    | .error ret => if ret = 0 then none else some (.error ret)
    | .ok place' =>
      if place'.memType ∈ p.placement ++ p.busyPlacement ∧ Manages dev.hasMob place' then some (.ok place') else none

def vmwValidateSingleBuffer (place : Place) (bo : BufId) (validateAsMob : Bool)
    (answers : Except Int Place × Except Int Place) : Option (Except Int Place) :=
  if dev.Skips bo then some (.ok place)
  else if validateAsMob then ttmBoValidate dev vmwMobPlacement place answers.1
  else
    match ttmBoValidate dev vmwVramGmrPlacement place answers.1 with
    | some (.error ret) =>
      if ret = -ERESTARTSYS then some (.error ret) else ttmBoValidate dev vmwVramPlacement place answers.2
    | r => r

/-- The buffers that are not validated may be evicted meanwhile; that is left to the steps between
the batches. -/
def vmwValidateBuffers (answers : BufId → Except Int Place × Except Int Place) :
    List ValidateBuffer → (BufId → Place) → Option (Int × (BufId → Place))
  | [], place => some (0, place)
  | v :: rest, place =>
    match vmwValidateSingleBuffer dev (place v.bo) v.bo v.validateAsMob (answers v.bo) with
    | none => none
    | some (.error ret) => some (ret, place)
    | some (.ok place') => vmwValidateBuffers answers rest (Function.update place v.bo place')

end Validate

section Apply

variable (place : BufId → Place) (valBufs : List ValidateBuffer)

/-- `bo->offset`: every memory type starts at 0. -/
def boOffset (bo : BufId) : Nat := (place bo).start * pageSize

/-- One round of `vmw_apply_relocations`; without memory after it, it is an oops. -/
def applyRelocation (m : Mem) (reloc : Relocation) : Option Mem :=
  match valBufs[reloc.index]? with
  | none => none
  | some validate =>
    match (place validate.bo).memType with
    | .vram => reloc.location.map fun ptr =>
      (m.write32 (ptr + 4) (add32 (m.read32 (ptr + 4)) (boOffset place validate.bo))).write32 ptr svgaGmrFramebuffer
    | .gmr => reloc.location.map fun ptr => m.write32 ptr (place validate.bo).start
    | .mob => if reloc.mobLoc = 0 then none else some (m.write32 reloc.mobLoc (place validate.bo).start)
    | .system => none

def vmwApplyRelocations : List Relocation → Mem → Option Mem
  | [], m => some m
  | reloc :: rest, m => (applyRelocation place valBufs m reloc).bind (vmwApplyRelocations rest)

end Apply

/-- A batch up to its submission. -/
inductive Prepared (hashLong : HashLong)
  | failed (dev : Device)
  /-- What `vmw_apply_relocations` finds. -/
  | ready (dev : Device) (sw : State hashLong)

section Process

variable (dev : Device) (b : Batch hashLong)

/-- The batch may evict the context of the pinned buffer. -/
def Batch.evicts (dev : Device) : Device :=
  { dev with queryCidValid := dev.queryCidValid && !b.evictsQueryContext }

/-- `vmw_execbuf_process` up to `vmw_apply_relocations`. -/
def vmwExecbufPrepare : Option (Prepared hashLong) :=
  match vmwCmdCheckAll (b.envOn dev) b.fuel b.size (b.start dev) with
  | none => none
  | some (.error .oops _) => none
  | some (.error (.errno _) _) => some (.failed dev)
  | some (.ok () sw) =>
    match vmwResourcesReserve b.reserve b.needsBackup sw.resourceList sw with
    | .error _ _ => some (.failed dev)
    | .ok () sw =>
      if b.reserveBuffers ≠ 0 then some (.failed dev)
      else
        (vmwValidateBuffers dev b.validate sw.valBufs dev.place).map fun (ret, place) =>
          if ret ≠ 0 then .failed { dev with place := place }
          else if b.ret ≠ 0 then .failed (b.evicts { dev with place := place })
          else .ready (b.evicts { dev with place := place }) sw

/-- `vmw_query_bo_switch_commit`; it does not move a buffer. -/
def vmwQueryBoSwitchCommit (sw : State hashLong) : Option Device :=
  if sw.needsPostQueryBarrier ∧ sw.resCache .context = none then none
  else if dev.pinnedBo = sw.curQueryBo then some dev
  else if sw.needsPostQueryBarrier then some { dev with pinnedBo := none }
  else
    match sw.curQueryBo, sw.lastQueryCtx with
    | some bo, some _ => some { dev with pinnedBo := some bo, dummyQueryBoPinned := true, queryCidValid := true }
    | _, _ => none

def vmwExecbufProcess : Option Device :=
  (vmwExecbufPrepare dev b).bind fun
    | .failed dev => some (dev.releaseInvalid b.panic)
    | .ready dev sw =>
      (vmwApplyRelocations dev.place sw.valBufs sw.relocs sw.mem).bind fun _ =>
        (vmwQueryBoSwitchCommit dev sw).map (·.releaseInvalid b.panic)

end Process

inductive Act (hashLong : HashLong)
  | batch (b : Batch hashLong)
  /-- TTM moves a buffer that may be evicted. -/
  | evict (bo : BufId) (place : Place)
  /-- `vmw_dmabuf_to_placement`, for overlays and display units. -/
  | dmabufToPlacement (bo : BufId) (place : Place) (panic : Bool)
  | vmwExecbufReleasePinnedBo (panic : Bool)
  /-- The context of the pinned buffer is destroyed. -/
  | contextDestroy
  | releaseInvalid (panic : Bool)

def step (dev : Device) : Act hashLong → Option Device
  | .batch b => vmwExecbufProcess dev b
  | .evict bo place =>
    if dev.Skips bo ∨ ¬ Manages dev.hasMob place then none else some (dev.setPlace bo place)
  | .dmabufToPlacement bo place panic =>
    if Manages dev.hasMob place then some ((dev.vmwExecbufReleasePinnedBo panic).setPlace bo place) else none
  | .vmwExecbufReleasePinnedBo panic => some (dev.vmwExecbufReleasePinnedBo panic)
  | .contextDestroy => some { dev with queryCidValid := false }
  | .releaseInvalid panic => some (dev.releaseInvalid panic)

/-- An overlay or a display unit does not move a buffer that stays pinned for queries. -/
def Undisturbed (dev : Device) : Act hashLong → Prop
  | .dmabufToPlacement bo _ panic => ¬ (dev.vmwExecbufReleasePinnedBo panic).Skips bo
  | _ => True

/-- The entry is applied where its command has asked for it, to the buffer that the command has named. -/
def Applied (place : BufId → Place) (valBufs : List ValidateBuffer) (reloc : Relocation) : Event → Prop
  | .mobReloc a bo => (place bo).memType = .mob ∧
    ∀ m, applyRelocation place valBufs m reloc = some (m.write32 a (place bo).start)
  | .guestReloc a bo => ((place bo).memType = .vram ∨ (place bo).memType = .gmr) ∧
    ∀ m, ∃ m', applyRelocation place valBufs m reloc = some m' ∧
      m'.read32 a = (if (place bo).memType = .vram then svgaGmrFramebuffer else (place bo).start % 2 ^ 32) ∧
      m'.read32 (a + 4) = (if (place bo).memType = .vram then add32 (m.read32 (a + 4)) (boOffset place bo)
        else m.read32 (a + 4)) ∧
      ∀ x, x < a ∨ a + 8 ≤ x → m' x = m x
  | _ => False

/-- The relocations of a batch that is ready agree with where its buffers are. -/
structure PlacementsAgree (dev : Device) (sw : State hashLong) : Prop where
  entries : List.Forall₂ (Applied dev.place sw.valBufs) sw.relocs (sw.events.filter Event.isBufReloc)
  applies : vmwApplyRelocations dev.place sw.valBufs sw.relocs sw.mem ≠ none

/-- A buffer that is not validated is named by a MOB id if the device has MOBs, and by a guest pointer if not. -/
def NamesPinned (dev : Device) (events : List Event) : Prop :=
  (∀ a bo, .mobReloc a bo ∈ events → dev.Skips bo → dev.hasMob = true) ∧
    ∀ a bo, .guestReloc a bo ∈ events → dev.Skips bo → dev.hasMob = false

end Vmwgfx.Execbuf.Relocs
