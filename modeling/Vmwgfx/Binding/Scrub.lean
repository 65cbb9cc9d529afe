import Mathlib.Data.List.Infix
import Vmwgfx.Binding.Transfer
import Vmwgfx.Execbuf.Defs
import Vmwgfx.Lib.Machine

/-! Scrubbing and rebinding: how `vmwgfx_context.c` takes bindings off the device when a context
or a resource goes away, and puts them back with the next batch. -/

namespace Vmwgfx.Binding

open Vmwgfx.Execbuf (ResType svga3dInvalidId)
open Vmwgfx.Lib

/-- The commands of the FIFO, as far as they define, destroy and bind. -/
inductive Cmd
  | setShader (cid type shid : Nat)
  | setRenderTarget (cid type sid face mipmap : Nat)
  /-- SVGA_3D_CMD_SETTEXTURESTATE of SVGA3D_TS_BIND_TEXTURE -/
  | bindTexture (cid stage value : Nat)
  | defineGb (ty : ResType) (id : Nat)
  | destroyGb (ty : ResType) (id : Nat)
  /-- SVGA_3D_CMD_BIND_GB_CONTEXT, with the readback that may precede it -/
  | bindGbContext (cid : Nat)
  deriving DecidableEq

section Device

/-- What a slot of the device is bound to. -/
structure Target where
  id : Nat
  face : Nat
  mipmap : Nat
  deriving DecidableEq

/-- The device's map from contexts and slots to targets, and the ids it knows. -/
structure Device where
  bound : Nat → Slot → Option Target
  live : ResType → Nat → Bool

namespace Device

def init : Device := ⟨fun _ _ => none, fun _ _ => false⟩

def bind (d : Device) (cid : Nat) (loc : Slot) (tgt : Target) : Device :=
  { d with bound := Function.update d.bound cid (Function.update (d.bound cid) loc
      (if tgt.id = svga3dInvalidId then none else some tgt)) }

def forget (d : Device) : ResType → Nat → Device
  | .context, id => { d with bound := Function.update d.bound id (fun _ => none) }
  | _, _ => d

def setLive (d : Device) (ty : ResType) (id : Nat) (b : Bool) : Device :=
  { d with live := Function.update d.live ty (Function.update (d.live ty) id b) }

def exec (d : Device) : Cmd → Device
  | .setShader cid type shid => d.bind cid ⟨.shader, type⟩ ⟨shid, 0, 0⟩
  | .setRenderTarget cid type sid face mipmap => d.bind cid ⟨.rt, type⟩ ⟨sid, face, mipmap⟩
  | .bindTexture cid stage value => d.bind cid ⟨.tex, stage⟩ ⟨value, 0, 0⟩
  | .defineGb ty id => (d.forget ty id).setLive ty id true
  | .destroyGb ty id => (d.forget ty id).setLive ty id false
  | .bindGbContext _ => d

def run (fifo : List Cmd) : Device := fifo.foldl exec init

end Device

/-- The ids a slot is bound to are those of shaders or of surfaces. -/
def BindingType.resType : BindingType → ResType
  | .shader => .shader
  | .rt => .surface
  | .tex => .surface

/-- No slot is bound to an id that has been destroyed. -/
def Device.NoDangling (d : Device) : Prop :=
  ∀ cid loc tgt, d.bound cid loc = some tgt → d.live loc.bt.resType tgt.id = true

end Device

/-- How far `vmw_resource_release` has come with a resource. -/
inductive Phase
  | live | doomed | destroyed | freed
  deriving DecidableEq

structure Env where
  /-- `res->func->res_type` -/
  ty : ResId → ResType
  /-- whether the FIFO has space, each time it is asked -/
  fifo : Nat → Bool

structure State where
  tracker : Tracker
  /-- `res->id`, where -1 reads SVGA3D_INVALID_ID -/
  id : ResId → Nat
  idr : ResType → List Nat
  /-- contexts with `mob_head` on the list of their backup buffer -/
  mobHead : ResId → Bool
  phase : ResId → Phase
  /-- all that has been committed to the FIFO -/
  fifo : List Cmd
  tick : Nat

def State.init : State where
  tracker := .empty
  id _ := svga3dInvalidId
  idr _ := []
  mobHead _ := false
  phase _ := .live
  fifo := []
  tick := 0

def State.device (s : State) : Device := Device.run s.fifo

def State.idOf (s : State) (res : Option ResId) : Nat := res.elim svga3dInvalidId s.id

@[simp] theorem State.idOf_some (s : State) (r : ResId) : s.idOf (some r) = s.id r := rfl

@[simp] theorem State.idOf_none (s : State) : s.idOf none = svga3dInvalidId := rfl

/-- `vmw_fifo_reserve`, filling in the commands, and `vmw_fifo_commit`. -/
def State.emit (env : Env) (cmds : List Cmd) (s : State) : Int × State :=
  if env.fifo s.tick then (0, { s with fifo := s.fifo ++ cmds, tick := s.tick + 1 })
  else (-ENOMEM, { s with tick := s.tick + 1 })

section Scrub

variable (env : Env)

def vmwContextScrubShader (bi : Bindinfo) (rebind : Bool) (s : State) : Int × State :=
  s.emit env [.setShader (s.idOf bi.ctx) bi.i1 (if rebind then s.idOf bi.res else svga3dInvalidId)]

def vmwContextScrubRenderTarget (bi : Bindinfo) (rebind : Bool) (s : State) : Int × State :=
  s.emit env [.setRenderTarget (s.idOf bi.ctx) bi.i1
    (if rebind then s.idOf bi.res else svga3dInvalidId) 0 0]

def vmwContextScrubTexture (bi : Bindinfo) (rebind : Bool) (s : State) : Int × State :=
  s.emit env [.bindTexture (s.idOf bi.ctx) bi.i1
    (if rebind then s.idOf bi.res else svga3dInvalidId)]

def vmwScrubFuncs : BindingType → Bindinfo → Bool → State → Int × State
  | .shader => vmwContextScrubShader env
  | .rt => vmwContextScrubRenderTarget env
  | .tex => vmwContextScrubTexture env

def Tracker.setScrubbed (t : Tracker) (c : ResId) (loc : Slot) (scrubbed : Bool) : Tracker :=
  { t with cbs := Function.update t.cbs c { t.cbs c with
      binding := Function.update (t.cbs c).binding loc
        { (t.cbs c).binding loc with scrubbed := scrubbed } } }

def State.setScrubbed (s : State) (entry : ResId × Slot) (scrubbed : Bool) : State :=
  { s with tracker := s.tracker.setScrubbed entry.1 entry.2 scrubbed }

/-- What the loops that scrub do to an entry. -/
def scrubEntry (s : State) (entry : ResId × Slot) : State :=
  let bi := (s.tracker.cbs entry.1).binding entry.2
  if bi.scrubbed then s
  else State.setScrubbed (vmwScrubFuncs env bi.bt bi false s).2 entry true

def vmwContextBindingKill (s : State) (entry : ResId × Slot) : State :=
  let s := scrubEntry env s entry
  { s with tracker := s.tracker.vmwContextBindingDrop entry.1 entry.2 }

/-- `&cbs->list` of a context. -/
def State.ctxList (s : State) (ctx : ResId) : List (ResId × Slot) :=
  (s.tracker.cbs ctx).list.map (fun loc => (ctx, loc))

def vmwContextBindingStateKill (ctx : ResId) (s : State) : State :=
  (s.ctxList ctx).foldl (vmwContextBindingKill env) s

def vmwContextBindingStateScrub (ctx : ResId) (s : State) : State :=
  (s.ctxList ctx).foldl (scrubEntry env) s

def vmwContextBindingResListKill (res : ResId) (s : State) : State :=
  (s.tracker.bindingHead res).foldl (vmwContextBindingKill env) s

def vmwContextBindingResListScrub (res : ResId) (s : State) : State :=
  (s.tracker.bindingHead res).foldl (scrubEntry env) s

/-- What `vmw_context_rebind_all` does to an entry. -/
def rebindEntry (entry : ResId × Slot) (s : State) : Int × State :=
  let bi := (s.tracker.cbs entry.1).binding entry.2
  if !bi.scrubbed then (0, s)
  else if s.idOf bi.res = svga3dInvalidId then (0, s)
  else match vmwScrubFuncs env bi.bt bi true s with
    | (0, s) => (0, s.setScrubbed entry false)
    | r => r

/-- Goes through a list up to the first error. -/
def whileOk {ι : Type} (f : ι → State → Int × State) : List ι → State → Int × State
  | [], s => (0, s)
  | x :: xs, s => match f x s with
    | (0, s) => whileOk f xs s
    | r => r

def vmwContextRebindAll (ctx : ResId) (s : State) : Int × State :=
  whileOk (rebindEntry env) (s.ctxList ctx) s

end Scrub

section Resource

variable (env : Env)

/-- VMWGFX_NUM_GB_CONTEXT, VMWGFX_NUM_GB_SURFACE and VMWGFX_NUM_GB_SHADER. -/
def vmwgfxNumGb : ResType → Nat
  | .context => 256
  | .surface => 32768
  | .shader => 20000

/-- The id `idr_alloc` takes: the lowest free one from 1 on. -/
def lowestFree (used : List Nat) : Nat :=
  ((List.range' 1 (used.length + 1)).find? (fun i => i ∉ used)).getD 0

def vmwResourceAllocId (res : ResId) (s : State) : State :=
  let id := lowestFree (s.idr (env.ty res))
  { s with
    id := Function.update s.id res id
    idr := Function.update s.idr (env.ty res) (id :: s.idr (env.ty res)) }

def vmwResourceReleaseId (res : ResId) (s : State) : State :=
  { s with
    id := Function.update s.id res svga3dInvalidId
    idr := Function.update s.idr (env.ty res) ((s.idr (env.ty res)).filter (· ≠ s.id res)) }

/-- `vmw_gb_context_create`, `vmw_gb_surface_create` and `vmw_gb_shader_create`. -/
def gbCreate (res : ResId) (s : State) : Int × State :=
  if s.id res ≠ svga3dInvalidId then (0, s)
  else
    let s := vmwResourceAllocId env res s
    if s.id res ≥ vmwgfxNumGb (env.ty res) then (-EBUSY, vmwResourceReleaseId env res s)
    else match s.emit env [.defineGb (env.ty res) (s.id res)] with
      | (0, s) => (0, s)
      | (ret, s) => (ret, vmwResourceReleaseId env res s)

/-- Emits the destroy command and gives the id back. -/
def gbDestroy (res : ResId) (s : State) : Int × State :=
  match s.emit env [.destroyGb (env.ty res) (s.id res)] with
  | (0, s) => (0, vmwResourceReleaseId env res s)
  | r => r

def vmwGbSurfaceDestroy (res : ResId) (s : State) : Int × State :=
  if s.id res = svga3dInvalidId then (0, s)
  else gbDestroy env res (vmwContextBindingResListScrub env res s)

def vmwGbShaderDestroy (res : ResId) (s : State) : Int × State :=
  if s.id res = svga3dInvalidId then (0, s)
  else gbDestroy env res (vmwContextBindingResListScrub env res s)

def vmwGbContextDestroy (res : ResId) (s : State) : Int × State :=
  if s.id res = svga3dInvalidId then (0, s) else gbDestroy env res s

def vmwGbContextUnbind (res : ResId) (s : State) : Int × State :=
  let s := vmwContextBindingStateScrub env res s
  s.emit env [.bindGbContext (s.id res)]

/-- `res->func->destroy`. -/
def funcDestroy (res : ResId) : State → Int × State :=
  match env.ty res with
  | .context => vmwGbContextDestroy env res
  | .surface => vmwGbSurfaceDestroy env res
  | .shader => vmwGbShaderDestroy env res

/-- `res->hw_destroy`. -/
def hwDestroy (res : ResId) (s : State) : State :=
  match env.ty res with
  | .context => (vmwGbContextDestroy env res (vmwContextBindingStateKill env res s)).2
  | .surface => (vmwGbSurfaceDestroy env res s).2
  | .shader => (vmwGbShaderDestroy env res s).2

/-- The part of `vmw_resource_do_validate` that concerns bindings: a context that is not bound to
its backup buffer gets bound, a failure destroys it. -/
def vmwResourceDoValidate (res : ResId) (s : State) : Int × State :=
  match gbCreate env res s with
  | (0, s) =>
    if env.ty res ≠ .context ∨ s.mobHead res then (0, s)
    else match s.emit env [.bindGbContext (s.id res)] with
      | (0, s) => (0, { s with mobHead := Function.update s.mobHead res true })
      | (ret, s) => (ret, (funcDestroy env res s).2)
  | r => r

/-- `func->unbind` and `list_del_init(&res->mob_head)` of a context that is bound to its
backup buffer. -/
def unbindCtx (res : ResId) (s : State) : Int × State :=
  match vmwGbContextUnbind env res s with
  | (0, s) => (0, { s with mobHead := Function.update s.mobHead res false })
  | r => r

/-- The part of `vmw_resource_do_evict` that concerns bindings. -/
def vmwResourceDoEvict (res : ResId) (s : State) : Int × State :=
  if env.ty res = .context ∧ s.mobHead res then
    match unbindCtx env res s with
    | (0, s) => funcDestroy env res s
    | r => r
  else funcDestroy env res s

end Resource

section Batch

/-- A node of the resource list that is a context, and whether it has staged bindings. -/
structure CtxNode where
  ctx : ResId
  staged : Bool

/-- A binding command of a batch: what is recorded about it, and the face and mip level of a
render target. -/
structure BindCmd where
  ctx : ResId
  res : Option ResId
  bt : BindingType
  i1 : Nat
  face : Nat
  mipmap : Nat

def BindCmd.bi (cmd : BindCmd) : Bindinfo := ⟨some cmd.ctx, cmd.res, cmd.bt, false, cmd.i1⟩

def BindCmd.slot (cmd : BindCmd) : Slot := ⟨cmd.bt, cmd.i1⟩

/-- What is left of a verified batch: the contexts, which stand first on the resource list, and
the commands that bind. -/
structure Batch where
  ctxs : List CtxNode
  cmds : List BindCmd

variable (env : Env)

/-- A binding command as the batch commits it, with the ids that the relocations put in. -/
def BindCmd.relocated (s : State) (cmd : BindCmd) : Cmd :=
  match cmd.bt with
  | .shader => .setShader (s.id cmd.ctx) cmd.i1 (s.idOf cmd.res)
  | .rt => .setRenderTarget (s.id cmd.ctx) cmd.i1 (s.idOf cmd.res) cmd.face cmd.mipmap
  | .tex => .bindTexture (s.id cmd.ctx) cmd.i1 (s.idOf cmd.res)

def vmwRebindContexts (ctxs : List CtxNode) : State → Int × State :=
  whileOk (fun node => vmwContextRebindAll env node.ctx) (ctxs.takeWhile CtxNode.staged)

/-- The staged bindings of a context after verification. -/
def Batch.stagedBindings (b : Batch) (ctx : ResId) : CtxBindingState :=
  stage ((b.cmds.filter (fun cmd => cmd.ctx = ctx)).map BindCmd.bi)

/-- The part of `vmw_resource_list_unreserve` that concerns bindings. -/
def Batch.unreserve (b : Batch) (s : State) : State :=
  { s with
    tracker := (b.ctxs.filter CtxNode.staged).foldl
      (fun t node => t.vmwContextBindingStateTransfer node.ctx (b.stagedBindings node.ctx))
      s.tracker }

/-- `vmw_execbuf_process` while it holds `binding_mutex`. -/
def vmwExecbufSubmit (b : Batch) (s : State) : Int × State :=
  match vmwRebindContexts env b.ctxs s with
  | (0, s) => match s.emit env (b.cmds.map (BindCmd.relocated s)) with
    | (0, s) => (0, b.unreserve s)
    | r => r
  | r => r

/-- What verification and validation have seen to: every context of the batch exists on the
device and is bound to its backup buffer, every resource that is bound to it or that the batch
binds exists on the device, the resources being released apart. -/
structure Batch.Ready (b : Batch) (s : State) : Prop where
  nodup : (b.ctxs.map CtxNode.ctx).Nodup
  ctx : ∀ node ∈ b.ctxs, env.ty node.ctx = .context ∧ s.phase node.ctx = .live ∧
    s.id node.ctx ≠ svga3dInvalidId ∧ s.mobHead node.ctx
  validated : ∀ node ∈ b.ctxs, ∀ loc ∈ (s.tracker.cbs node.ctx).list,
    ∀ r ∈ ((s.tracker.cbs node.ctx).binding loc).res,
      s.phase r = .live → s.id r ≠ svga3dInvalidId
  cmdCtx : ∀ cmd ∈ b.cmds, ∃ node ∈ b.ctxs, node.staged ∧ node.ctx = cmd.ctx
  cmdRes : ∀ cmd ∈ b.cmds, ∀ r ∈ cmd.res, env.ty r = cmd.bt.resType ∧ s.phase r = .live ∧
    s.id r ≠ svga3dInvalidId

instance (b : Batch) (s : State) : Decidable (b.Ready env s) :=
  decidable_of_iff
    ((b.ctxs.map CtxNode.ctx).Nodup ∧
      (∀ node ∈ b.ctxs, env.ty node.ctx = .context ∧ s.phase node.ctx = .live ∧
        s.id node.ctx ≠ svga3dInvalidId ∧ s.mobHead node.ctx) ∧
      (∀ node ∈ b.ctxs, ∀ loc ∈ (s.tracker.cbs node.ctx).list,
        ∀ r ∈ ((s.tracker.cbs node.ctx).binding loc).res,
          s.phase r = .live → s.id r ≠ svga3dInvalidId) ∧
      (∀ cmd ∈ b.cmds, ∃ node ∈ b.ctxs, node.staged ∧ node.ctx = cmd.ctx) ∧
      (∀ cmd ∈ b.cmds, ∀ r ∈ cmd.res, env.ty r = cmd.bt.resType ∧ s.phase r = .live ∧
        s.id r ≠ svga3dInvalidId))
    ⟨fun h => ⟨h.1, h.2.1, h.2.2.1, h.2.2.2.1, h.2.2.2.2⟩,
      fun h => ⟨h.nodup, h.ctx, h.validated, h.cmdCtx, h.cmdRes⟩⟩

end Batch

/-- What happens to contexts and resources while batches are run. -/
inductive Action
  /-- `vmw_resource_do_validate` -/
  | validate (res : ResId)
  /-- `vmw_resource_move_notify` for the backup buffer of a context -/
  | moveNotify (ctx : ResId)
  | evict (res : ResId)
  | submit (b : Batch)
  /-- the last reference goes -/
  | doom (res : ResId)
  /-- `vmw_resource_release` up to `hw_destroy` -/
  | hwDestroy (res : ResId)
  /-- the rest of `vmw_resource_release` -/
  | kill (res : ResId)

section Step

variable (env : Env)

/-- `vmw_resource_release` up to `hw_destroy`: the result of unbinding a context is ignored. -/
def releaseHw (res : ResId) (s : State) : State :=
  let s := if env.ty res = .context ∧ s.mobHead res then
      let s := (vmwGbContextUnbind env res s).2
      { s with mobHead := Function.update s.mobHead res false }
    else s
  let s := hwDestroy env res s
  { s with phase := Function.update s.phase res .destroyed }

/-- `vmw_resource_release` from `vmw_context_binding_res_list_kill` on. -/
def releaseKill (res : ResId) (s : State) : State :=
  let s := vmwContextBindingResListKill env res s
  let s := { s with phase := Function.update s.phase res .freed }
  if s.id res ≠ svga3dInvalidId then vmwResourceReleaseId env res s else s

def step (s : State) : Action → Option State
  | .validate res => if s.phase res = .live then some (vmwResourceDoValidate env res s).2 else none
  | .moveNotify ctx =>
    if env.ty ctx = .context ∧ s.mobHead ctx then
      let s := (vmwGbContextUnbind env ctx s).2
      some { s with mobHead := Function.update s.mobHead ctx false }
    else none
  | .evict res => if s.phase res = .live then some (vmwResourceDoEvict env res s).2 else none
  | .submit b => if b.Ready env s then some (vmwExecbufSubmit env b s).2 else none
  | .doom res =>
    if s.phase res = .live then some { s with phase := Function.update s.phase res .doomed } else none
  | .hwDestroy res => if s.phase res = .doomed then some (releaseHw env res s) else none
  | .kill res => if s.phase res = .destroyed then some (releaseKill env res s) else none

end Step

end Vmwgfx.Binding
