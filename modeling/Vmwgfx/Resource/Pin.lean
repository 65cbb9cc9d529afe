import Vmwgfx.Resource.Backup

/-! Pin references on resources: `vmw_resource_pin` and `vmw_resource_unpin`. -/

namespace Vmwgfx.Resource

open Lib

/-- How the calls of a `vmw_resource_pin` turn out. -/
structure PinOutcome where
  alloc : Option BufId
  moves : List (BufId × List Unbind)
  /-- `ttm_bo_validate`. -/
  validate : Int
  /-- The rounds of `vmw_resource_validate`. -/
  attempts : List Attempt

structure PinState where
  dev : State
  /-- `TTM_PL_FLAG_NO_EVICT` of a buffer. -/
  noEvict : BufId → Bool
  /-- The buffer that was pinned for a resource and has not been unpinned since. -/
  pinnedFor : ResId → Option BufId

namespace PinState

variable (s : PinState) (r : ResId)

/-- `vmw_bo_pin(bo, true)`, on behalf of a resource. -/
def vmwBoPin (b : BufId) : PinState :=
  { s with
    noEvict := Function.update s.noEvict b true
    pinnedFor := Function.update s.pinnedFor r (some b) }

/-- `vmw_bo_pin(bo, false)`. -/
def vmwBoUnpin (b : BufId) : PinState :=
  { s with
    noEvict := Function.update s.noEvict b false
    pinnedFor := if s.pinnedFor r = some b then Function.update s.pinnedFor r none else s.pinnedFor }

def setPinCount (n : Nat) : PinState :=
  { s with dev := s.dev.modify r (fun res => { res with pinCount := n }) }

/-- `vmw_resource_unreserve(res, NULL, 0UL)`. -/
def unreserve : PinState :=
  { s with dev := vmwResourceUnreserve (s.dev.setPhase r .idle) r none 0 }

end PinState

/-- The part of `vmw_resource_pin` that pins the backup. -/
def pinBackup (s : PinState) (r : ResId) (o : PinOutcome) : Option (Int × PinState) :=
  match (s.dev.res r).backup with
  | none => some (0, s)
  | some b =>
    (moveOut s.dev b o.moves).map fun dev =>
      if o.validate ≠ 0 then (o.validate, { s with dev })
      else (0, PinState.vmwBoPin { s with dev } r b)

/-- `vmw_resource_reserve`, as the start of a pin or an unpin. -/
def pinReserve (s : PinState) (r : ResId) (noBackup : Bool) (alloc : Option BufId) :
    Option (Int × PinState) :=
  (vmwResourceReserve s.dev r noBackup alloc).map fun (ret, dev) =>
    (ret, { s with dev := if ret = 0 then dev.setPhase r .reserved else dev })

def vmwResourcePin (s : PinState) (r : ResId) (o : PinOutcome) : Option (Int × PinState) :=
  (pinReserve s r false o.alloc).bind fun (ret, s) =>
    -- out_no_reserve
    if ret ≠ 0 then some (ret, s)
    else if (s.dev.res r).pinCount ≠ 0 then
      some (0, (s.setPinCount r ((s.dev.res r).pinCount + 1)).unreserve r)
    else
      (pinBackup s r o).bind fun (ret, s) =>
        if ret ≠ 0 then some (ret, s.unreserve r)
        else
          (vmwResourceValidate s.dev r o.attempts).map fun (ret, dev) =>
            let s := { s with dev }
            if ret ≠ 0 then (ret, s.unreserve r)
            else (0, (s.setPinCount r ((s.dev.res r).pinCount + 1)).unreserve r)

/-- The reservation is without a backup, and does not fail. -/
def vmwResourceUnpin (s : PinState) (r : ResId) : Option PinState :=
  (pinReserve s r true none).map fun (_, s) =>
    let s := s.setPinCount r ((s.dev.res r).pinCount - 1)
    let s :=
      if (s.dev.res r).pinCount = 0 then
        match (s.dev.res r).backup with
        | none => s
        | some b => s.vmwBoUnpin r b
      else s
    s.unreserve r

inductive PinAction
  | res (a : Action)
  | pin (r : ResId) (o : PinOutcome)
  | unpin (r : ResId)

/-- Pins come from `vmw_resource_pin` alone, and who has one holds a reference. A submission of
the resource keeps `vmw_resource_pin` out: both take `cmdbuf_mutex`. -/
def pinStep (hasMob : Bool) (s : PinState) : PinAction → Option PinState
  | .res (.pin _ _) => none
  | .res (.release r u) =>
    if (s.dev.res r).pinCount ≠ 0 then none
    else (step hasMob s.dev (.release r u)).map fun dev => { s with dev }
  | .res a => (step hasMob s.dev a).map fun dev => { s with dev }
  | .pin r o => if (s.dev.res r).phase ≠ .idle then none else (vmwResourcePin s r o).map (·.2)
  | .unpin r =>
    if (s.dev.res r).phase ≠ .idle ∨ (s.dev.res r).pinCount = 0 then none else vmwResourceUnpin s r

def PinState.init : PinState where
  dev := .init
  noEvict _ := false
  pinnedFor _ := none

end Vmwgfx.Resource
