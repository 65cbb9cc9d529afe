import Vmwgfx.Kernel
import Vmwgfx.Lib.Machine

/-! The buffer pinned for query results: what `vmwgfx_execbuf.c` and `vmwgfx_context.c` do to it, to the
dummy query buffer and to the context remembered for the query barrier. -/

namespace Vmwgfx.Query

abbrev BufId := Nat

/-- What goes into the FIFO, as far as queries are concerned. -/
inductive FifoCmd
  | endQuery (cid : Nat) (bo : BufId)
  | dummyQuery (cid : Nat)
  | fence
  deriving DecidableEq

/-- The part of `struct vmw_sw_context` about queries. -/
structure SwContext where
  curQueryBo : Option BufId
  lastQueryCtx : Option ResId
  needsPostQueryBarrier : Bool
  /-- The resource of a valid `res_cache[vmw_res_context]`. -/
  ctxEntry : Option ResId

/-- A query buffer that was unpinned, with what the FIFO got from the batch that pinned it on, up to
the fence that protects the unpin. -/
structure Unpin where
  bo : BufId
  fifo : List FifoCmd

/-- The part of `struct vmw_private` about queries. -/
structure State where
  pinnedBo : Option BufId
  dummyQueryBoPinned : Bool
  queryCid : Nat
  queryCidValid : Bool
  /-- `TTM_PL_FLAG_NO_EVICT` of a buffer. -/
  noEvict : BufId → Bool
  /-- The `id` of a context; `none` is -1. -/
  ctxId : ResId → Option Nat
  fifo : List FifoCmd
  /-- The length of `fifo` before the batch that pinned `pinned_bo`. -/
  pinnedAt : Nat
  unpins : List Unpin

/-- The driver's `dummy_query_bo` and the sizes of buffers. -/
structure Env where
  dummyQueryBo : BufId
  numPages : BufId → Nat

section Check

/-- A command of a batch: one that names a context, a query end, with what `vmw_bo_to_validate_list`
returns for the old buffer and for the dummy, or another one. -/
inductive Command
  | context (r : ResId)
  | endQuery (r : ResId) (bo : BufId) (oldRet dummyRet : Int)
  | other (ret : Int)

variable (env : Env)

def vmwQueryBoSwitchPrepare (newQueryBo : BufId) (oldRet dummyRet : Int) (sw : SwContext) :
    Option (Int × SwContext) :=
  match sw.ctxEntry with
  | none => none
  | some res =>
    let sw := { sw with lastQueryCtx := some res }
    if sw.curQueryBo = some newQueryBo then some (0, sw)
    else if env.numPages newQueryBo > 4 then some (-EINVAL, sw)
    else
      let sw := { sw with needsPostQueryBarrier := sw.needsPostQueryBarrier || sw.curQueryBo.isSome }
      if sw.curQueryBo.isSome ∧ oldRet ≠ 0 then some (oldRet, sw)
      else some (dummyRet, { sw with curQueryBo := some newQueryBo })

def vmwCmdCheck : Command → SwContext → Option (Int × SwContext)
  | .context r, sw => some (0, { sw with ctxEntry := some r })
  | .endQuery r bo oldRet dummyRet, sw =>
    vmwQueryBoSwitchPrepare env bo oldRet dummyRet { sw with ctxEntry := some r }
  | .other ret, sw => some (ret, sw)

def vmwCmdCheckAll : List Command → SwContext → Option (Int × SwContext)
  | [], sw => some (0, sw)
  | c :: cs, sw => (vmwCmdCheck env c sw).bind fun (ret, sw) =>
    if ret ≠ 0 then some (ret, sw) else vmwCmdCheckAll cs sw

/-- The contexts that a command names. -/
def Command.names : Command → Option ResId
  | .context r | .endQuery r _ _ _ => some r
  | .other _ => none

end Check

namespace State

variable (s : State)

/-- `vmw_bo_pin`. -/
def vmwBoPin (bo : BufId) (pin : Bool) : State := { s with noEvict := Function.update s.noEvict bo pin }

def emit (cmds : List FifoCmd) : State := { s with fifo := s.fifo ++ cmds }

/-- The pinned buffer is let go of, to be protected by a fence that follows `upTo`. -/
def unpinQuery (bo : BufId) (upTo : List FifoCmd) : State :=
  { s.vmwBoPin bo false with unpins := s.unpins ++ [⟨bo, upTo.drop s.pinnedAt⟩] }

/-- The query ends of a batch, relocated. -/
def queryEnds (cmds : List Command) : List FifoCmd :=
  cmds.filterMap fun
    | .endQuery r bo _ _ => (s.ctxId r).map (.endQuery · bo)
    | _ => none

end State

/-- How the calls of `__vmw_execbuf_release_pinned_bo` turn out. -/
structure Release where
  /-- `ttm_eu_reserve_buffers`. -/
  reserve : Int
  /-- There is room in the FIFO for the dummy query. -/
  room : Bool

section Submit

variable (env : Env)

/-- `vmw_fifo_emit_dummy_query`. -/
def vmwFifoEmitDummyQuery (s : State) (cid : Nat) (room : Bool) : State :=
  if room then s.emit [.dummyQuery cid] else s

/-- `start` is the length of the FIFO before the batch. -/
def vmwQueryBoSwitchCommit (s : State) (start : Nat) (sw : SwContext) (room : Bool) : Option State :=
  (if sw.needsPostQueryBarrier then
    (sw.ctxEntry.bind s.ctxId).map fun cid => vmwFifoEmitDummyQuery s cid room
  else some s).bind fun s =>
    if s.pinnedBo = sw.curQueryBo then some s
    else
      let s := match s.pinnedBo with
        | none => s
        | some bo => { s.unpinQuery bo s.fifo with pinnedBo := none }
      if sw.needsPostQueryBarrier then some s
      else
        match sw.curQueryBo, sw.lastQueryCtx.bind s.ctxId with
        | some bo, some cid =>
          some { (s.vmwBoPin bo true).vmwBoPin env.dummyQueryBo true with
            dummyQueryBoPinned := true, queryCid := cid, queryCidValid := true, pinnedBo := some bo
            pinnedAt := start }
        | _, _ => none

/-- `vmw_execbuf_unpin_panic`, with `pinned_bo` cleared on the way out. -/
def vmwExecbufUnpinPanic (s : State) (bo : BufId) : State :=
  { (s.unpinQuery bo s.fifo).vmwBoPin env.dummyQueryBo false with
    dummyQueryBoPinned := false, pinnedBo := none }

/-- `__vmw_execbuf_release_pinned_bo`; `fence` is what precedes the fence, if there is one. -/
def vmwExecbufReleasePinnedBoLocked (s : State) (o : Release) (fence : Option (List FifoCmd)) : State :=
  match s.pinnedBo with
  | none => s
  | some bo =>
    if o.reserve ≠ 0 then vmwExecbufUnpinPanic env s bo
    else if s.queryCidValid ∧ ¬ o.room then vmwExecbufUnpinPanic env s bo
    else
      let s := if s.queryCidValid then
        { vmwFifoEmitDummyQuery s s.queryCid o.room with queryCidValid := false } else s
      let s := { (s.unpinQuery bo (fence.getD s.fifo)).vmwBoPin env.dummyQueryBo false with
        dummyQueryBoPinned := false, pinnedBo := none }
      if fence.isNone then s.emit [.fence] else s

def vmwExecbufReleasePinnedBo (s : State) (o : Release) : State :=
  if s.queryCidValid then vmwExecbufReleasePinnedBoLocked env s o none else s

/-- What is left to do for a pinned buffer whose context is gone. -/
def releaseInvalid (s : State) (o : Release) (fence : Option (List FifoCmd)) : State :=
  if s.pinnedBo.isSome ∧ ¬ s.queryCidValid then vmwExecbufReleasePinnedBoLocked env s o fence else s

def vmwGbContextDestroy (s : State) (r : ResId) (room : Bool) : State :=
  match s.ctxId r with
  | none => s
  | some cid =>
    if ¬ room then s
    else { s with
      queryCidValid := if s.queryCid = cid then false else s.queryCidValid
      ctxId := Function.update s.ctxId r none }

/-- The guest-backed branch of `vmw_hw_context_destroy`. -/
def vmwHwContextDestroy (s : State) (r : ResId) (room : Bool) (o : Release) : State :=
  releaseInvalid env (vmwGbContextDestroy s r room) o none

/-- What a validation does to contexts: it creates those of the batch and evicts others. -/
inductive ContextEvent
  | create (r : ResId) (cid : Nat)
  | evict (r : ResId) (room : Bool)

/-- The contexts of the batch are reserved, and not evicted. -/
def vmwResourcesValidate (cmds : List Command) : List ContextEvent → State → Option State
  | [], s => some s
  | .create r cid :: es, s =>
    if s.ctxId r ≠ none then none
    else vmwResourcesValidate cmds es { s with ctxId := Function.update s.ctxId r (some cid) }
  | .evict r room :: es, s =>
    if cmds.any (fun c => c.names = some r) then none
    else vmwResourcesValidate cmds es (vmwGbContextDestroy s r room)

structure Batch where
  cmds : List Command
  contexts : List ContextEvent
  /-- How the steps between the check and the submission end. -/
  ret : Int
  /-- There is room in the FIFO for the dummy query of the switch. -/
  room : Bool
  release : Release

/-- `vmw_execbuf_process`, from `vmw_cmd_check_all` on. Buffers of users are not the dummy. -/
def vmwExecbufProcess (s : State) (b : Batch) : Option State :=
  if b.cmds.any (fun | .endQuery _ bo _ _ => bo = env.dummyQueryBo | _ => false) then none
  else
    (vmwCmdCheckAll env b.cmds ⟨s.pinnedBo, none, false, none⟩).bind fun (ret, sw) =>
      if ret ≠ 0 then some (releaseInvalid env s b.release none)
      else
        (vmwResourcesValidate b.cmds b.contexts s).bind fun s =>
          if b.ret ≠ 0 then some (releaseInvalid env s b.release none)
          -- a batch whose contexts have no ids is not submitted
          else if b.cmds.any (fun c => c.names.any (fun r => s.ctxId r = none)) then none
          else
            (vmwQueryBoSwitchCommit env (s.emit (s.queryEnds b.cmds)) s.fifo.length sw b.room).map fun s =>
              releaseInvalid env (s.emit [.fence]) b.release (some s.fifo)

inductive Action
  | batch (b : Batch)
  | release (o : Release)
  | contextDestroy (r : ResId) (room : Bool) (o : Release)

def step (s : State) : Action → Option State
  | .batch b => vmwExecbufProcess env s b
  | .release o => some (vmwExecbufReleasePinnedBo env s o)
  | .contextDestroy r room o => some (vmwHwContextDestroy env s r room o)

def State.init : State where
  pinnedBo := none
  dummyQueryBoPinned := false
  queryCid := 0
  queryCidValid := false
  noEvict _ := false
  ctxId _ := none
  fifo := []
  pinnedAt := 0
  unpins := []

end Submit

end Vmwgfx.Query
