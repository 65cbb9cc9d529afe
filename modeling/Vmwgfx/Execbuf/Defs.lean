import Vmwgfx.Binding.Tracker
import Vmwgfx.Cmdbuf.Compat
import Vmwgfx.Lib.Bytes
import Vmwgfx.Lib.Outcome
import Vmwgfx.Lib.Uint

/-! The software context of `vmwgfx_execbuf.c`: what the command verifier collects while it
walks a command buffer. -/

namespace Vmwgfx.Execbuf

open Vmwgfx.Binding (BindingType Slot Bindinfo CtxBindingState)
open Vmwgfx.Cmdbuf (ManId AddOutcome ShaderWorld)
open Vmwgfx.Hashtab Vmwgfx.Lib

/-- A `struct vmw_dma_buffer *`. -/
abbrev BufId := Nat

/-- `enum vmw_res_type`, as far as command buffers name resources. -/
inductive ResType
  | context | surface | shader
  deriving DecidableEq

def svga3dInvalidId : Nat := 2 ^ 32 - 1
def vmwgfxMaxRelocations : Nat := 2048
def vmwgfxMaxValidations : Nat := 2048

/-- `struct vmw_resource_relocation`. -/
structure ResourceRelocation where
  res : Option ResId
  offset : Nat

/-- `struct vmw_relocation`. -/
structure Relocation where
  mobLoc : Nat
  location : Option Nat
  index : Nat

/-- `struct vmw_validate_buffer`. -/
structure ValidateBuffer where
  bo : BufId
  validateAsMob : Bool

/-- `struct vmw_resource_val_node`. -/
structure ValNode where
  newBackup : Option BufId
  stagedBindings : Option CtxBindingState
  newBackupOffset : Nat
  firstUsage : Bool
  noBufferNeeded : Bool

/-- A valid `struct vmw_res_cache_entry`. -/
structure ResCacheEntry where
  handle : Nat
  res : ResId
  node : Option ResId

/-- What a handler does to the buffer it checks and records about it, in order. -/
inductive Event
  | read (a len : Nat)
  | write (a v : Nat)
  | resReloc (rel : ResourceRelocation)
  | mobReloc (a : Nat) (bo : BufId)
  | guestReloc (a : Nat) (bo : BufId)
  | bind (bi : Bindinfo)

/-- How a check ends early: with an error code, or in an oops. -/
inductive Stop
  | errno (ret : Int)
  | oops

/-- The device and the rest of the kernel.  What may change while a batch is checked is asked
of an oracle, at the time it is asked. -/
structure Env where
  hasMob : Bool
  /-- SVGA_CAP_GBOBJECTS -/
  gb : Bool
  kernel : Bool
  capSysAdmin : Bool
  bufStart : Nat
  kmalloc : Nat → Bool
  /-- `vmw_user_resource_lookup_handle`, whose only error is `-EINVAL` -/
  lookup : Nat → ResType → Nat → Option ResId
  /-- `vmw_user_dmabuf_lookup` -/
  dmabuf : Nat → Nat → Option BufId
  numPages : BufId → Nat
  dummyQueryBo : BufId
  /-- the resources bound to a context, less the doomed ones -/
  bindingList : Nat → ResId → List ResId
  resMan : ResId → ManId
  addOutcome : Nat → AddOutcome
  /-- the surfaces with a cursor image -/
  snooper : ResId → Bool
  /-- `mob_loc` of the relocation array, as earlier batches left it -/
  staleMobLoc : Nat → Nat

/-- `struct vmw_sw_context`, with the memory it checks, the compat shaders and the reference
counts of buffers. -/
structure State (hashLong : HashLong) where
  mem : Mem
  resRelocations : List ResourceRelocation
  /-- the first `cur_reloc` entries -/
  relocs : List Relocation
  /-- the first `cur_val_buf` entries -/
  valBufs : List ValidateBuffer
  resourceList : List ResId
  node : ResId → Option ValNode
  resCache : ResType → Option ResCacheEntry
  curQueryBo : Option BufId
  lastQueryCtx : Option ResId
  needsPostQueryBarrier : Bool
  errorResource : Option ResId
  shaders : ShaderWorld hashLong
  bufRef : BufId → Int
  tick : Nat
  events : List Event

variable {hashLong : HashLong}

abbrev Verify (hashLong : HashLong) := EStateM Stop (State hashLong)

section Primitives

def update (f : State hashLong → State hashLong) : Verify hashLong Unit := fun s => .ok () (f s)

def ask {α : Type} (f : Nat → α) : Verify hashLong α :=
  fun s => .ok (f s.tick) { s with tick := s.tick + 1 }

def log (e : Event) : Verify hashLong Unit := update fun s => { s with events := s.events ++ [e] }

def peek (a : Nat) : Verify hashLong Nat := fun s => .ok (s.mem.read32 a) s

/-- Reads a word of a command. -/
def load (a : Nat) : Verify hashLong Nat := do
  log (.read a 4)
  peek a

/-- Rewrites a word of a command. -/
def store (a v : Nat) : Verify hashLong Unit := do
  log (.write a v)
  update fun s => { s with mem := s.mem.write32 a v }

def fail {α : Type} (ret : Int) : Verify hashLong α := throw (.errno ret)

def oops {α : Type} : Verify hashLong α := throw .oops

/-- `if (ret != 0) return ret;` -/
def check (ret : Int) : Verify hashLong Unit := if ret ≠ 0 then fail ret else pure ()

/-- An error path that cleans up before it returns. -/
def onError {α : Type} (x : Verify hashLong α) (undo : State hashLong → State hashLong) :
    Verify hashLong α :=
  fun s =>
    match x s with
    | .ok a s => .ok a s
    | .error e s => .error e (undo s)

end Primitives

namespace State

variable (s : State hashLong)

def setNode (r : ResId) (n : ValNode) : State hashLong :=
  { s with node := Function.update s.node r (some n) }

def setCache (resType : ResType) (rcache : ResCacheEntry) : State hashLong :=
  { s with resCache := Function.update s.resCache resType (some rcache) }

def reference (r : ResId) : State hashLong :=
  { s with shaders.world.kref := vmwResourceReference s.shaders.world.kref r }

def unreference (r : ResId) : State hashLong :=
  { s with shaders.world.kref := vmwResourceUnreference s.shaders.world.kref r }

def addBufRef (bo : BufId) (n : Int) : State hashLong :=
  { s with bufRef := Function.update s.bufRef bo (s.bufRef bo + n) }

end State

section Services

variable (env : Env)

def Env.offset (idLoc : Nat) : Nat := (idLoc - env.bufStart) / 4

def vmwResourceRelocationAdd (res : Option ResId) (offset : Nat) : Verify hashLong Unit := do
  if ← ask env.kmalloc then
    log (.resReloc ⟨res, offset⟩)
    update fun s => { s with resRelocations := s.resRelocations ++ [⟨res, offset⟩] }
  else fail (-ENOMEM)

def findNode (res : ResId) : Verify hashLong (Option ValNode) := fun s => .ok (s.node res) s

/-- The node is the one of the resource: nodes are found by their resource. -/
def vmwResourceValAdd (res : ResId) : Verify hashLong Unit := do
  match ← findNode res with
  | some n => update (·.setNode res { n with firstUsage := false })
  | none =>
    if ← ask env.kmalloc then
      update fun s => { (s.setNode res ⟨none, none, 0, true, false⟩).reference res with
        resourceList := s.resourceList ++ [res] }
    else fail (-ENOMEM)

def valAddAll : List ResId → Verify hashLong Unit
  | [] => pure ()
  | res :: rest => do
    vmwResourceValAdd env res
    valAddAll rest

def vmwResourceContextResAdd (ctx : ResId) : Verify hashLong Unit := do
  let bound ← ask (env.bindingList · ctx)
  valAddAll env bound

def isFirstUsage (res : ResId) : Verify hashLong Bool :=
  fun s => .ok ((s.node res).any (·.firstUsage)) s

def setStaged (ctx : ResId) (cbs : CtxBindingState) : State hashLong → State hashLong :=
  fun s => match s.node ctx with
    | some n => s.setNode ctx { n with stagedBindings := some cbs }
    | none => s

/-- Returns `*p_val`.  Without memory for the staged bindings it is NULL, and the call
still returns 0. -/
def vmwCmdResRelocAdd (resType : ResType) (idLoc : Nat) (res : ResId) :
    Verify hashLong (Option ResId) := do
  vmwResourceRelocationAdd env (some res) (env.offset idLoc)
  vmwResourceValAdd env res
  if resType = .context ∧ env.hasMob ∧ (← isFirstUsage res) then
    update fun s => { s with resourceList := res :: s.resourceList.erase res }
    vmwResourceContextResAdd env res
    if ← ask env.kmalloc then
      update (setStaged res .empty)
      return some res
    else return none
  else return some res

/-- The cached resource of a handle. -/
def cachedEntry (resType : ResType) (id : Nat) : Verify hashLong (Option ResCacheEntry) :=
  fun s => .ok ((s.resCache resType).filter (fun rcache => id = rcache.handle)) s

def clearFirstUsage (res : ResId) : State hashLong → State hashLong :=
  fun s => match s.node res with
    | some n => s.setNode res { n with firstUsage := false }
    | none => s

def setErrorResource (res : ResId) (x : Verify hashLong (Option ResId)) :
    Verify hashLong (Option ResId) :=
  onError x (fun s => { s with errorResource := some res })

/-- Returns `*p_val`. -/
def vmwCmdResCheck (resType : ResType) (idLoc : Nat) : Verify hashLong (Option ResId) := do
  let id ← load idLoc
  if id = svga3dInvalidId then
    if resType = .context then fail (-EINVAL) else return none
  else
    match ← cachedEntry resType id with
    | some rcache =>
      match rcache.node with
      | none => oops
      | some node => do
        update (clearFirstUsage node)
        vmwResourceRelocationAdd env (some rcache.res) (env.offset idLoc)
        return some node
    | none =>
      match ← ask (env.lookup · resType id) with
      | none => fail (-EINVAL)
      | some res => do
        update (·.reference res)
        update (·.setCache resType ⟨id, res, none⟩)
        let node ← setErrorResource res (vmwCmdResRelocAdd env resType idLoc res)
        update (·.setCache resType ⟨id, res, node⟩)
        update (·.unreference res)
        return node

def findBuf (bo : BufId) : Verify hashLong (Option Nat) :=
  fun s => .ok (s.valBufs.findIdx? (fun v => v.bo = bo)) s

def curValBuf : Verify hashLong Nat := fun s => .ok s.valBufs.length s

def curReloc : Verify hashLong Nat := fun s => .ok s.relocs.length s

def bufAsMob (i : Nat) : Verify hashLong (Option Bool) :=
  fun s => .ok (s.valBufs[i]?.map (·.validateAsMob)) s

/-- Returns `*p_val_node`. -/
def vmwBoToValidateList (bo : BufId) (validateAsMob : Bool) : Verify hashLong Nat := do
  match ← findBuf bo with
  | some i =>
    if (← bufAsMob i) ≠ some validateAsMob then fail (-EINVAL) else return i
  | none =>
    let valNode ← curValBuf
    if valNode ≥ vmwgfxMaxValidations then fail (-EINVAL)
    else
      update fun s => { s.addBufRef bo 1 with valBufs := s.valBufs ++ [⟨bo, validateAsMob⟩] }
      return valNode

/-- Takes the next relocation entry for a buffer; the batch fails with it if the buffer cannot
be validated. -/
def relocAdd (handle : Nat) (asMob : Bool) (reloc : Nat → Nat → Relocation) :
    Verify hashLong BufId := do
  match ← ask (env.dmabuf · handle) with
  | none => fail (-EINVAL)
  | some bo =>
    update (·.addBufRef bo 1)
    let cur ← curReloc
    if cur ≥ vmwgfxMaxRelocations then
      onError (fail (-EINVAL)) (·.addBufRef bo (-1))
    else
      let index ← onError (vmwBoToValidateList bo asMob) (·.addBufRef bo (-1))
      update fun s => { s with relocs := s.relocs ++ [reloc cur index] }
      return bo

def vmwTranslateMobPtr (id : Nat) : Verify hashLong BufId := do
  let handle ← load id
  let bo ← relocAdd env handle true (fun _ index => ⟨id, none, index⟩)
  log (.mobReloc id bo)
  return bo

/-- `mob_loc` keeps what the entry held before. -/
def vmwTranslateGuestPtr (ptr : Nat) : Verify hashLong BufId := do
  let handle ← load ptr
  let bo ← relocAdd env handle false (fun cur index => ⟨env.staleMobLoc cur, some ptr, index⟩)
  log (.guestReloc ptr bo)
  return bo

def contextEntry : Verify hashLong (Option ResCacheEntry) := fun s => .ok (s.resCache .context) s

def queryBo : Verify hashLong (Option BufId) := fun s => .ok s.curQueryBo s

/-- The buffer the queries are switched away from stays for the barrier. -/
def keepQueryBo : Option BufId → Verify hashLong Unit
  | none => pure ()
  | some old => do
    update fun s => { s with needsPostQueryBarrier := true }
    let _ ← vmwBoToValidateList old env.hasMob

def vmwQueryBoSwitchPrepare (newQueryBo : BufId) : Verify hashLong Unit := do
  match ← contextEntry with
  | none => oops
  | some ctxEntry =>
    update fun s => { s with lastQueryCtx := some ctxEntry.res }
    let cur ← queryBo
    if cur = some newQueryBo then pure ()
    else if env.numPages newQueryBo > 4 then fail (-EINVAL)
    else
      keepQueryBo env cur
      update fun s => { s with curQueryBo := some newQueryBo }
      let _ ← vmwBoToValidateList env.dummyQueryBo env.hasMob

def stagedBindings (ctx : ResId) : Verify hashLong (Option CtxBindingState) :=
  fun s => .ok ((s.node ctx).bind (·.stagedBindings)) s

/-- `vmw_context_binding_add` on a context's staged bindings, with the `bi` its callers set
up.  It returns `ret`. -/
def vmwContextBindingAdd (ctxNode resNode : Option ResId) (bt : BindingType) (i1 : Nat) :
    Verify hashLong Int := do
  match ctxNode with
  | none => oops
  | some ctx =>
    let bi : Bindinfo := ⟨some ctx, resNode, bt, false, i1⟩
    log (.bind bi)
    if bi.i1 ≥ bi.bt.max then return -EINVAL
    else
      match ← stagedBindings ctx with
      | none => oops
      | some cbs =>
        update (setStaged ctx (cbs.track bi))
        return 0

end Services

end Vmwgfx.Execbuf
