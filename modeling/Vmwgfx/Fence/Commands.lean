import Vmwgfx.Irq.Wait
import Vmwgfx.Lib.Outcome

/-! `vmw_execbuf_fence_commands`, with the creation of fence objects and the callers that go on with
the fence. -/

namespace Vmwgfx.Fence.Commands

open Lib Irq

abbrev FenceId := Nat
abbrev BoId := Nat

/-- `struct vmw_fence_obj`; `base` counts the references on its base object, which holds one on the
fence as long as there are any. -/
structure FenceObj where
  seqno : Nat
  kref : Nat
  base : Nat
  deriving DecidableEq

/-- What a `struct vmw_fence_obj *` of a caller holds. -/
inductive Pointer
  | unassigned
  | null
  | fence (i : FenceId)
  deriving DecidableEq

/-- A `vmw_fallback_wait` that came back. -/
structure Wait where
  fifoIdle : Bool
  seqno : Nat
  last : Reading
  deriving DecidableEq

structure State where
  dev : VmwPrivate
  fence : FenceId → FenceObj
  next : FenceId
  fifoDown : Bool
  syncObj : BoId → Option FenceId
  waits : List Wait

/-- How a call ends when it does not return. -/
inductive Stop
  | bug
  /-- A pointer is followed that was never assigned. -/
  | wild
  | waiting
  deriving DecidableEq

abbrev M := EStateM Stop State

/-- A wait is for so many jiffies. -/
structure Readings where
  list : List Reading
  timesOut : ∃ r ∈ list, r.left = 0

/-- What the steps of a call to `vmw_execbuf_fence_commands` meet: the FIFO, the allocations, and
`base` as `ttm_base_object_init` returns it. -/
structure Env where
  reserve : Bool
  /-- `SVGA_FIFO_FENCE` after the commit. -/
  fifoFence : Nat
  memAlloc : Int
  kzalloc : Bool
  base : Int
  idle : Readings
  passed : Readings

section Program

def vmwFallbackWait (fifoIdle : Bool) (seqno : Nat) (rs : Readings) : M Unit := do
  let s ← get
  match Irq.vmwFallbackWait s.dev.capFence seqno fifoIdle false s.dev.markerSeq rs.list with
  | none => throw .waiting
  | some w => set { s with dev := w.dev, waits := ⟨fifoIdle, seqno, w.last⟩ :: s.waits }

def vmwFifoSendFence (e : Env) : M (Int × Nat) := do
  let s ← get
  if e.reserve then
    let seqno := nextSeqno s.dev.markerSeq
    let dev := { s.dev with markerSeq := seqno }
    -- without fences `vmw_fallback_wait` emulates them
    set { s with dev := if dev.capFence then vmwUpdateSeqno { dev with fifoFence := e.fifoFence } else dev }
    return (0, seqno)
  else
    let seqno := s.dev.markerSeq
    vmwFallbackWait true seqno e.idle
    return (-ENOMEM, seqno)

def State.setFence (s : State) (i : FenceId) (f : FenceObj) : State :=
  { s with fence := Function.update s.fence i f }

def vmwFenceObjReference (i : FenceId) : M Unit :=
  modify fun s => s.setFence i { s.fence i with kref := (s.fence i).kref + 1 }

def vmwFenceObjUnreference (i : FenceId) : M Unit :=
  modify fun s => s.setFence i { s.fence i with kref := (s.fence i).kref - 1 }

/-- `ttm_ref_object_base_unref`, with `vmw_user_fence_base_release` at the last reference. -/
def ttmRefObjectBaseUnref (i : FenceId) : M Unit := do
  let s ← get
  let base := (s.fence i).base - 1
  set (s.setFence i { s.fence i with base := base })
  if base = 0 then vmwFenceObjUnreference i else return

/-- `kzalloc` and `vmw_fence_obj_init`; the caller frees the fence when this fails. -/
def vmwFenceObjInit (seqno : Nat) : M (Int × FenceId) := do
  let s ← get
  set { s.setFence s.next ⟨seqno, 1, 0⟩ with next := s.next + 1 }
  return (if s.fifoDown then -EBUSY else 0, s.next)

def kfree (i : FenceId) : M Unit := modify fun s => s.setFence i { s.fence i with kref := 0 }

/-- `vmw_fence_create`; the fence is what it stores to `*p_fence`. -/
def vmwFenceCreate (e : Env) (seqno : Nat) : M (Int × Option FenceId) := do
  if e.kzalloc = false then return (-ENOMEM, none)
  else
    let (ret, fence) ← vmwFenceObjInit seqno
    if ret ≠ 0 then
      kfree fence
      return (ret, none)
    else return (0, some fence)

def vmwUserFenceCreate (e : Env) (seqno : Nat) : M (Int × Option FenceId) := do
  if e.memAlloc ≠ 0 then return (e.memAlloc, none)
  else if e.kzalloc = false then return (-ENOMEM, none)
  else
    let (ret, ufence) ← vmwFenceObjInit seqno
    if ret ≠ 0 then
      kfree ufence
      return (ret, none)
    else
      vmwFenceObjReference ufence
      if e.base ≠ 0 then
        vmwFenceObjUnreference ufence
        vmwFenceObjUnreference ufence
        return (e.base, none)
      else
        modify fun s => s.setFence ufence { s.fence ufence with base := 1 }
        return (0, some ufence)

/-- `vmw_execbuf_fence_commands`.  Beside its return value stands what it stores to `*p_fence`: a fence or
NULL, or nothing at all. -/
def vmwExecbufFenceCommands (e : Env) (filePriv pHandle : Bool) : M (Int × Option (Option FenceId)) := do
  if pHandle ∧ filePriv = false then throw .bug
  else
    let (ret, sequence) ← vmwFifoSendFence e
    let synced := ret ≠ 0
    let create := if pHandle then vmwUserFenceCreate e sequence else vmwFenceCreate e sequence
    let (ret, fence) ← create
    if ret ≠ 0 ∧ ¬ synced then
      vmwFallbackWait false sequence e.passed
      return (0, some none)
    else return (0, fence.map some)

end Program

section Callers

/-- A caller's variable after what was stored to it. -/
def Pointer.assign (p : Pointer) : Option (Option FenceId) → Pointer
  | none => p
  | some none => .null
  | some (some i) => .fence i

/-- `sync_obj_ref`. -/
def syncObjRef : Pointer → M (Option FenceId)
  | .unassigned => throw .wild
  | .null => return none
  | .fence i => do
    vmwFenceObjReference i
    return some i

/-- `if (fence != NULL) vmw_fence_obj_unreference(&fence)`. -/
def unreferenceUnlessNull : Pointer → M Unit
  | .unassigned => throw .wild
  | .null => return
  | .fence i => vmwFenceObjUnreference i

/-- The buffer's old fence is replaced. -/
def setSyncObj (bo : BoId) (fence : Option FenceId) : M Unit := do
  let s ← get
  set { s with syncObj := Function.update s.syncObj bo fence }
  match s.syncObj bo with
  | none => return
  | some old => vmwFenceObjUnreference old

def ttmEuFenceBufferObjects (fence : Pointer) : List BoId → M Unit
  | [] => return
  | bo :: bos => do
    setSyncObj bo (← syncObjRef fence)
    ttmEuFenceBufferObjects fence bos

/-- `vmw_fence_single_bo`; `e` is for the fence that it creates itself. -/
def vmwFenceSingleBo (e : Env) (bo : BoId) (fence : Pointer) : M Unit := do
  if fence = .null then
    let (_, stored) ← vmwExecbufFenceCommands e false false
    match fence.assign stored with
    | .unassigned => throw .wild
    | .null => setSyncObj bo none
    | .fence i => setSyncObj bo (some i)
  else setSyncObj bo (← syncObjRef fence)

/-- What the unbinding of a resource meets. -/
structure Unbind where
  reserve : Bool
  bo : BoId
  env : Env
  /-- For `vmw_fence_single_bo`. -/
  again : Env

/-- The commands go to the FIFO, then the backup buffer is fenced. -/
def Unbind.run (c : Unbind) : M Int := do
  if c.reserve = false then return -ENOMEM
  else
    let (_, stored) ← vmwExecbufFenceCommands c.env false false
    let fence := Pointer.unassigned.assign stored
    vmwFenceSingleBo c.again c.bo fence
    unreferenceUnlessNull fence
    return 0

def vmwGbContextUnbind (c : Unbind) : M Int := c.run

def vmwGbShaderUnbind (c : Unbind) : M Int := c.run

def vmwLegacySrfDma (c : Unbind) : M Int := c.run

def vmwGbSurfaceUnbind (c : Unbind) : M Int := c.run

/-- What `__vmw_execbuf_release_pinned_bo` meets.  `pinned` and `query` are the buffers, none without a
pinned one; `emit` is for the dummy query. -/
structure ReleasePinned where
  bos : Option (BoId × BoId)
  reserve : Bool
  queryCidValid : Bool
  emit : Bool
  env : Env

def vmwExecbufReleasePinnedBo (c : ReleasePinned) (fence : Pointer) : M Unit := do
  match c.bos with
  | none => return
  | some (pinned, query) =>
    if c.reserve = false then return
    else if c.queryCidValid ∧ fence ≠ .null then throw .bug
    else if c.queryCidValid ∧ c.emit = false then return
    else if fence = .null then
      let (_, stored) ← vmwExecbufFenceCommands c.env false false
      let lfence := Pointer.null.assign stored
      ttmEuFenceBufferObjects lfence [pinned, query]
      unreferenceUnlessNull lfence
    else ttmEuFenceBufferObjects fence [pinned, query]

/-- `vmw_execbuf_copy_fence_user`; `copy` tells that `copy_to_user` copies everything. -/
def vmwExecbufCopyFenceUser (copy : Bool) (ret : Int) (userFenceRep : Bool) (fence : Pointer) : M Unit := do
  if userFenceRep = false ∨ ret ≠ 0 then return
  else
    match fence with
    | .unassigned => throw .wild
    | .null => throw .bug
    | .fence i =>
      modify fun s => { s with dev := vmwUpdateSeqno s.dev }
      if copy = false then ttmRefObjectBaseUnref i else return

/-- What `vmw_execbuf_process` meets once its commands are in the FIFO. -/
structure Process where
  userFenceRep : Bool
  filePriv : Bool
  /-- The replies go to a client. -/
  file_of_rep : userFenceRep = true → filePriv = true
  outFence : Bool
  copy : Bool
  validateNodes : List BoId
  release : ReleasePinned
  env : Env

/-- `vmw_execbuf_process` from `vmw_execbuf_fence_commands` on, with what it stores to `*out_fence`. -/
def vmwExecbufProcess (c : Process) : M (Int × Option Pointer) := do
  let (ret, stored) ← vmwExecbufFenceCommands c.env c.filePriv c.userFenceRep
  let fence := Pointer.null.assign stored
  ttmEuFenceBufferObjects fence c.validateNodes
  let release := if c.release.queryCidValid = false then vmwExecbufReleasePinnedBo c.release fence else pure ()
  release
  vmwExecbufCopyFenceUser c.copy ret c.userFenceRep fence
  if c.outFence then return (0, some fence)
  else
    unreferenceUnlessNull fence
    return (0, none)

/-- What `vmw_fence_event_ioctl` meets: the look-up when there is a handle, `ttm_ref_object_add` and
`vmw_event_fence_action_create`. -/
structure FenceEvent where
  handle : Option (Option FenceId)
  userFenceRep : Bool
  refObjectAdd : Int
  actionCreate : Int
  copy : Bool
  env : Env

/-- `vmw_fence_event_ioctl` from its `BUG_ON` on. -/
def FenceEvent.attach (c : FenceEvent) : Pointer → M Int
  | .unassigned => throw .wild
  | .null => throw .bug
  | .fence i => do
    if c.actionCreate ≠ 0 then
      let drop := if c.userFenceRep then ttmRefObjectBaseUnref i else pure ()
      drop
      vmwFenceObjUnreference i
      return c.actionCreate
    else
      vmwExecbufCopyFenceUser c.copy 0 c.userFenceRep (.fence i)
      vmwFenceObjUnreference i
      return 0

def baseReference (i : FenceId) : M Unit :=
  modify fun s => s.setFence i { s.fence i with base := (s.fence i).base + 1 }

def vmwFenceEventIoctl (c : FenceEvent) : M Int := do
  match c.handle with
  | some none => return -EINVAL
  | some (some i) =>
    baseReference i
    vmwFenceObjReference i
    if c.userFenceRep ∧ c.refObjectAdd ≠ 0 then
      -- the reference of the look-up stays
      vmwFenceObjUnreference i
      return c.refObjectAdd
    else
      let keep := if c.userFenceRep then baseReference i else pure ()
      keep
      ttmRefObjectBaseUnref i
      c.attach (.fence i)
  | none =>
    let (ret, stored) ← vmwExecbufFenceCommands c.env true c.userFenceRep
    if ret ≠ 0 then return ret else c.attach (Pointer.null.assign stored)

end Callers

section Runs

variable {α β : Type}

/-- Wherever it is called, it returns. -/
def Returns (x : M α) : Prop := ∀ s, ∃ a t, x s = .ok a t

/-- Wherever it is called, it does not return. -/
def Stops (x : M α) : Prop := ∀ s, ∃ e t, x s = .error e t

theorem Returns.bind {x : M α} {f : α → M β} (hx : Returns x) (hf : ∀ a, Returns (f a)) : Returns (x >>= f) := by
  intro s
  obtain ⟨a, t, ha⟩ := hx s
  rw [bind_of_ok ha]
  exact hf a t

theorem Stops.bind {x : M α} {f : α → M β} (hx : Returns x) (hf : ∀ a, Stops (f a)) : Stops (x >>= f) := by
  intro s
  obtain ⟨a, t, ha⟩ := hx s
  rw [bind_of_ok ha]
  exact hf a t

theorem returns_pure (a : α) : Returns (pure a : M α) := fun s => ⟨a, s, rfl⟩

theorem returns_modify (f : State → State) : Returns (modify f : M PUnit) := fun s => ⟨_, f s, rfl⟩

theorem returns_set (t : State) : Returns (set t : M PUnit) := fun _ => ⟨_, t, rfl⟩

theorem returns_get : Returns (get : M State) := fun s => ⟨s, s, rfl⟩

theorem Returns.ite {c : Prop} [Decidable c] {x y : M α} (hx : c → Returns x) (hy : ¬ c → Returns y) :
    Returns (if c then x else y) := by
  by_cases h : c
  · rw [if_pos h]
    exact hx h
  · rw [if_neg h]
    exact hy h

end Runs

section Waits

/-- The wait was long enough for all that was submitted before. -/
def Wait.Covers (w : Wait) (d : VmwPrivate) : Prop :=
  w.fifoIdle = true ∧ w.last.idle = true ∨ w.seqno = nextSeqno d.markerSeq ∧ w.last.Done d.capFence w.seqno

theorem capFence_vmwFallbackWait {capFence fifoIdle : Bool} {seqno signalSeq : Nat} {rs : List Reading} {w : Waited}
    (h : Irq.vmwFallbackWait capFence seqno fifoIdle false signalSeq rs = some w) : w.dev.capFence = capFence := by
  obtain ⟨⟨exit, r⟩, -, heq⟩ := Option.map_eq_some_iff.mp h
  have hpassed : (vmwSeqnoPassed (r.dev capFence) r.idle seqno).2.capFence = capFence := by
    rcases Tracks.vmwSeqnoPassed_cases (r.dev capFence) r.idle seqno with hsame | hsame <;> rw [hsame] <;> rfl
  subst heq
  cases exit <;> cases fifoIdle <;> first | rfl | exact hpassed

/-- No signal ends these waits. -/
theorem exit_ne_signal {condition : Reading → Bool} {rs : List Reading} {exit : Exit} {r : Reading}
    (h : waitLoop condition false rs = some (exit, r)) : exit ≠ .signal := by
  obtain ⟨before, after, -, -, hleaves, rfl⟩ := waitLoop_eq_some_iff.mp h
  rcases hleaves with hcond | hleft | ⟨hfalse, -⟩
  · simp [hcond]
  · rw [if_pos hleft]
    split <;> decide
  · cases hfalse

/-- A wait returns, and has read what it is to just when it is on time. -/
theorem vmwFallbackWait_ok (fifoIdle : Bool) (seqno : Nat) (rs : Readings) (s : State) :
    ∃ r dev, vmwFallbackWait fifoIdle seqno rs s =
        .ok PUnit.unit { s with dev := dev, waits := ⟨fifoIdle, seqno, r⟩ :: s.waits } ∧
      dev.capFence = s.dev.capFence ∧
      ∀ good : Reading → Prop, (∀ q, fallbackCondition s.dev.capFence fifoIdle seqno q = true → good q) →
        (good r ↔ OnTime (fallbackCondition s.dev.capFence fifoIdle seqno) false good rs.list) := by
  have hsome : (waitLoop (fallbackCondition s.dev.capFence fifoIdle seqno) false rs.list).isSome = true :=
    waitLoop_isSome rs.timesOut
  obtain ⟨⟨exit, r⟩, hwait⟩ := Option.isSome_iff_exists.mp hsome
  obtain ⟨w, hw, rfl, -, -⟩ := @vmwFallbackWait_of_waitLoop _ _ _ _ s.dev.markerSeq _ _ _ hwait
  refine ⟨w.last, w.dev, ?_, capFence_vmwFallbackWait hw, fun good hgood => ?_⟩
  · change (match Irq.vmwFallbackWait s.dev.capFence seqno fifoIdle false s.dev.markerSeq rs.list with
      | none => throw Stop.waiting
      | some w => set { s with dev := w.dev, waits := ⟨fifoIdle, seqno, w.last⟩ :: s.waits } : M PUnit) s = _
    rw [hw]
    rfl
  · rw [← waitLoop_good_iff hgood]
    constructor
    · intro hlast exit' r' hwait' _
      rw [hwait] at hwait'
      cases hwait'
      exact hlast
    · intro hall
      exact hall _ _ hwait (exit_ne_signal hwait)

end Waits

section Steps

variable {e : Env} {s : State} {pHandle : Bool}

/-- The FIFO has no room for a fence, or the fence has the next seqno. -/
theorem vmwFifoSendFence_ok (e : Env) (s : State) :
    ∃ ret seqno t, vmwFifoSendFence e s = .ok (ret, seqno) t ∧ (ret = 0 ↔ e.reserve = true) ∧
      t.next = s.next ∧ t.fifoDown = s.fifoDown ∧ t.dev.capFence = s.dev.capFence ∧
      (e.reserve = true → seqno = nextSeqno s.dev.markerSeq ∧ t.waits = s.waits) := by
  unfold vmwFifoSendFence
  rw [bind_of_ok (show (get : M State) s = .ok s s from rfl)]
  cases e.reserve with
  | true =>
    refine ⟨0, nextSeqno s.dev.markerSeq, _, rfl, by simp, rfl, rfl, ?_, fun _ => ⟨rfl, rfl⟩⟩
    dsimp only
    split
    · exact (vmwUpdateSeqno_words _).2
    · rfl
  | false =>
    obtain ⟨r, dev, hwait, hdev, -⟩ := vmwFallbackWait_ok true s.dev.markerSeq e.idle s
    refine ⟨-ENOMEM, s.dev.markerSeq, _, bind_of_ok hwait, by decide, rfl, rfl, hdev, fun h => Bool.noConfusion h⟩

theorem enomem_ne_zero : -ENOMEM ≠ 0 := by decide

theorem ebusy_ne_zero : -EBUSY ≠ 0 := by decide

/-- The fence object can be made. -/
def Env.Creates (e : Env) (pHandle fifoDown : Bool) : Prop :=
  e.kzalloc = true ∧ fifoDown = false ∧ (pHandle = true → e.memAlloc = 0 ∧ e.base = 0)

/-- The new fence, with a reference for its creator and one for its base object. -/
def State.Made (s t : State) (pHandle : Bool) : Prop :=
  t.next = s.next + 1 ∧ (t.fence s.next).kref = pHandle.toNat + 1 ∧ (t.fence s.next).base = pHandle.toNat

/-- The state with the new fence. -/
def State.withFence (s : State) (f : FenceObj) : State := { s.setFence s.next f with next := s.next + 1 }

theorem vmwFenceObjInit_ok (seqno : Nat) (s : State) :
    vmwFenceObjInit seqno s = .ok (if s.fifoDown then -EBUSY else 0, s.next) (s.withFence ⟨seqno, 1, 0⟩) := rfl

theorem State.withFence_fence (s : State) (f : FenceObj) : (s.withFence f).fence s.next = f := Function.update_self ..

theorem modify_withFence (s : State) (f : FenceObj) (g : FenceObj → FenceObj) :
    (modify fun t => t.setFence s.next (g (t.fence s.next)) : M PUnit) (s.withFence f) =
      .ok PUnit.unit (s.withFence (g f)) := by
  change EStateM.Result.ok PUnit.unit ((s.withFence f).setFence s.next (g ((s.withFence f).fence s.next))) = _
  rw [s.withFence_fence]
  simp [State.withFence, State.setFence]

theorem kfree_withFence (s : State) (seqno kref base : Nat) :
    kfree s.next (s.withFence ⟨seqno, kref, base⟩) = .ok PUnit.unit (s.withFence ⟨seqno, 0, base⟩) :=
  modify_withFence s _ fun f => { f with kref := 0 }

theorem reference_withFence (s : State) (seqno kref base : Nat) :
    vmwFenceObjReference s.next (s.withFence ⟨seqno, kref, base⟩) =
      .ok PUnit.unit (s.withFence ⟨seqno, kref + 1, base⟩) :=
  modify_withFence s _ fun f => { f with kref := f.kref + 1 }

theorem unreference_withFence (s : State) (seqno kref base : Nat) :
    vmwFenceObjUnreference s.next (s.withFence ⟨seqno, kref, base⟩) =
      .ok PUnit.unit (s.withFence ⟨seqno, kref - 1, base⟩) :=
  modify_withFence s _ fun f => { f with kref := f.kref - 1 }

theorem State.made_withFence (s : State) (seqno : Nat) (pHandle : Bool) :
    s.Made (s.withFence ⟨seqno, pHandle.toNat + 1, pHandle.toNat⟩) pHandle := by
  unfold State.Made
  rw [s.withFence_fence]
  exact ⟨rfl, rfl, rfl⟩

/-- A creation makes the fence when it can, and else stores nothing. -/
def Creates (x : M (Int × Option FenceId)) (s : State) (ok : Prop) (pHandle : Bool) : Prop :=
  ∃ ret fence t, x s = .ok (ret, fence) t ∧ t.dev = s.dev ∧ t.waits = s.waits ∧
    (ok ∧ ret = 0 ∧ fence = some s.next ∧ s.Made t pHandle ∨ ¬ ok ∧ ret ≠ 0 ∧ fence = none)

theorem Creates.fails {x : M (Int × Option FenceId)} {ok : Prop} {ret : Int} (t : State) (hok : ¬ ok) (hret : ret ≠ 0)
    (h : x s = .ok (ret, none) t) (hdev : t.dev = s.dev) (hwaits : t.waits = s.waits) : Creates x s ok pHandle :=
  ⟨ret, none, t, h, hdev, hwaits, .inr ⟨hok, hret, rfl⟩⟩

theorem Creates.made {x : M (Int × Option FenceId)} {ok : Prop} (seqno : Nat) (hok : ok)
    (h : x s = .ok (0, some s.next) (s.withFence ⟨seqno, pHandle.toNat + 1, pHandle.toNat⟩)) : Creates x s ok pHandle :=
  ⟨0, some s.next, _, h, rfl, rfl, .inl ⟨hok, rfl, rfl, s.made_withFence seqno pHandle⟩⟩

theorem vmwFenceCreate_creates (e : Env) (seqno : Nat) (s : State) :
    Creates (vmwFenceCreate e seqno) s (e.Creates false s.fifoDown) false := by
  unfold vmwFenceCreate
  cases hk : e.kzalloc with
  | false => exact .fails s (fun h => Bool.noConfusion (hk.symm.trans h.1)) enomem_ne_zero rfl rfl rfl
  | true =>
    rw [if_neg Bool.noConfusion]
    cases hd : s.fifoDown with
    | true =>
      refine .fails (s.withFence ⟨seqno, 0, 0⟩) (fun h => Bool.noConfusion h.2.1) ebusy_ne_zero ?_ rfl rfl
      rw [bind_of_ok (vmwFenceObjInit_ok seqno s), hd]
      exact bind_of_ok (kfree_withFence s seqno 1 0)
    | false =>
      refine .made seqno ⟨hk, rfl, fun h => Bool.noConfusion h⟩ ?_
      rw [bind_of_ok (vmwFenceObjInit_ok seqno s), hd]
      rfl

theorem vmwUserFenceCreate_creates (e : Env) (seqno : Nat) (s : State) :
    Creates (vmwUserFenceCreate e seqno) s (e.Creates true s.fifoDown) true := by
  unfold vmwUserFenceCreate
  by_cases hm : e.memAlloc = 0
  · rw [if_neg (not_not_intro hm)]
    cases hk : e.kzalloc with
    | false => exact .fails s (fun h => Bool.noConfusion (hk.symm.trans h.1)) enomem_ne_zero rfl rfl rfl
    | true =>
      rw [if_neg Bool.noConfusion]
      cases hd : s.fifoDown with
      | true =>
        refine .fails (s.withFence ⟨seqno, 0, 0⟩) (fun h => Bool.noConfusion h.2.1) ebusy_ne_zero ?_ rfl rfl
        rw [bind_of_ok (vmwFenceObjInit_ok seqno s), hd]
        exact bind_of_ok (kfree_withFence s seqno 1 0)
      | false =>
        by_cases hb : e.base = 0
        · refine .made seqno ⟨hk, rfl, fun _ => ⟨hm, hb⟩⟩ ?_
          rw [bind_of_ok (vmwFenceObjInit_ok seqno s), hd]
          dsimp only
          rw [if_neg (not_not_intro (if_neg Bool.noConfusion)), bind_of_ok (reference_withFence s seqno 1 0),
            if_neg (not_not_intro hb)]
          exact bind_of_ok (modify_withFence s _ fun f => { f with base := 1 })
        · refine .fails (s.withFence ⟨seqno, 0, 0⟩) (fun h => hb (h.2.2 rfl).2) hb ?_ rfl rfl
          rw [bind_of_ok (vmwFenceObjInit_ok seqno s), hd]
          dsimp only
          rw [if_neg (not_not_intro (if_neg Bool.noConfusion)), bind_of_ok (reference_withFence s seqno 1 0),
            if_pos hb, bind_of_ok (unreference_withFence s seqno 2 0)]
          exact bind_of_ok (unreference_withFence s seqno 1 0)
  · rw [if_pos hm]
    exact .fails s (fun h => hm (h.2.2 rfl).1) hm rfl rfl rfl

/-- What `vmw_execbuf_fence_commands` is to come back with: a new fence with a reference for the caller,
or NULL after a wait. -/
def Delivered (s t : State) (stored : Option (Option FenceId)) : Prop :=
  (∃ i, stored = some (some i) ∧ s.next ≤ i ∧ i < t.next ∧
      (t.fence i).kref = (if 0 < (t.fence i).base then 1 else 0) + 1) ∨
    stored = some none ∧ ∃ new, t.waits = new ++ s.waits ∧ ∃ w ∈ new, w.Covers s.dev

/-- The wait after a fence object could not be made sees its seqno. -/
def Env.OnTime (e : Env) (d : VmwPrivate) : Prop :=
  Irq.OnTime (fallbackCondition d.capFence false (nextSeqno d.markerSeq)) false
    (·.Done d.capFence (nextSeqno d.markerSeq)) e.passed.list

/-- The four combinations of a fence and its object. -/
theorem vmwExecbufFenceCommands_ok (e : Env) {filePriv : Bool} (hfile : pHandle = true → filePriv = true) (s : State) :
    ∃ stored t, vmwExecbufFenceCommands e filePriv pHandle s = .ok (0, stored) t ∧
      (e.Creates pHandle s.fifoDown ∧ stored = some (some s.next) ∧ s.Made t pHandle ∨
        ¬ e.Creates pHandle s.fifoDown ∧ e.reserve = true ∧ stored = some none ∧
          (∃ w, t.waits = w :: s.waits ∧ (w.Covers s.dev ↔ e.OnTime s.dev)) ∨
        ¬ e.Creates pHandle s.fifoDown ∧ e.reserve = false ∧ stored = none) := by
  have hcreate (seqno : Nat) (u : State) :
      Creates (if pHandle then vmwUserFenceCreate e seqno else vmwFenceCreate e seqno) u
        (e.Creates pHandle u.fifoDown) pHandle := by
    cases pHandle with
    | false => exact vmwFenceCreate_creates e seqno u
    | true => exact vmwUserFenceCreate_creates e seqno u
  obtain ⟨sent, seqno, u, hsend, hsent, hnext, hdown, hcap, hseqno⟩ := vmwFifoSendFence_ok e s
  obtain ⟨ret, fence, v, hrun, hdev, hwaits, hcases⟩ := hcreate seqno u
  have hbug : ¬ (pHandle = true ∧ filePriv = false) := fun h => Bool.noConfusion ((hfile h.1).symm.trans h.2)
  unfold vmwExecbufFenceCommands
  rw [if_neg hbug, bind_of_ok hsend]
  dsimp only
  rw [bind_of_ok hrun]
  dsimp only
  rcases hcases with ⟨hok, rfl, rfl, hmade⟩ | ⟨hok, hret, rfl⟩
  · rw [hdown] at hok
    rw [if_neg fun h => h.1 rfl]
    refine ⟨_, v, rfl, .inl ⟨hok, congrArg (fun i => some (some i)) hnext, ?_⟩⟩
    unfold State.Made at hmade ⊢
    rwa [hnext] at hmade
  · rw [hdown] at hok
    cases hreserve : e.reserve with
    | true =>
      obtain ⟨rfl, hw⟩ := hseqno hreserve
      obtain ⟨r, dev, hwait, -, hgood⟩ := vmwFallbackWait_ok false (nextSeqno s.dev.markerSeq) e.passed v
      rw [hdev, hcap] at hgood
      rw [if_pos ⟨hret, not_not_intro (hsent.mpr hreserve)⟩, bind_of_ok hwait]
      refine ⟨_, _, rfl, .inr (.inl ⟨hok, rfl, rfl, _, congrArg _ (hwaits.trans hw), ?_⟩)⟩
      unfold Wait.Covers Env.OnTime
      rw [← hgood _ fun q hq => seqnoPassed_iff_done.mp hq]
      simp
    | false =>
      have hsynced : ¬ (ret ≠ 0 ∧ ¬ sent ≠ 0) := fun h =>
        Bool.noConfusion (hreserve.symm.trans (hsent.mp (not_not.mp h.2)))
      rw [if_neg hsynced]
      exact ⟨_, v, rfl, .inr (.inr ⟨hok, rfl, rfl⟩)⟩

end Steps

section Safe

variable {p : Pointer}

theorem vmwExecbufFenceCommands_returns (e : Env) {filePriv pHandle : Bool} (hfile : pHandle = true → filePriv = true) :
    Returns (vmwExecbufFenceCommands e filePriv pHandle) := by
  intro s
  obtain ⟨stored, t, hrun, -⟩ := vmwExecbufFenceCommands_ok e hfile s
  exact ⟨_, t, hrun⟩

theorem vmwFenceObjUnreference_returns (i : FenceId) : Returns (vmwFenceObjUnreference i) := returns_modify _

theorem ttmRefObjectBaseUnref_returns (i : FenceId) : Returns (ttmRefObjectBaseUnref i) :=
  returns_get.bind fun _ => (returns_set _).bind fun _ =>
    .ite (fun _ => vmwFenceObjUnreference_returns i) fun _ => returns_pure _

theorem setSyncObj_returns (bo : BoId) (fence : Option FenceId) : Returns (setSyncObj bo fence) := by
  refine returns_get.bind fun s => (returns_set _).bind fun _ => ?_
  cases s.syncObj bo with
  | none => exact returns_pure _
  | some old => exact vmwFenceObjUnreference_returns old

theorem syncObjRef_returns (h : p ≠ .unassigned) : Returns (syncObjRef p) := by
  cases p with
  | unassigned => exact absurd rfl h
  | null => exact returns_pure _
  | fence i => exact (returns_modify _).bind fun _ => returns_pure _

theorem unreferenceUnlessNull_returns (h : p ≠ .unassigned) : Returns (unreferenceUnlessNull p) := by
  cases p with
  | unassigned => exact absurd rfl h
  | null => exact returns_pure _
  | fence i => exact vmwFenceObjUnreference_returns i

theorem ttmEuFenceBufferObjects_returns (h : p ≠ .unassigned) (bos : List BoId) :
    Returns (ttmEuFenceBufferObjects p bos) := by
  induction bos with
  | nil => exact returns_pure _
  | cons bo bos ih =>
    exact (syncObjRef_returns h).bind fun fence => (setSyncObj_returns bo fence).bind fun _ => ih

theorem Pointer.assign_ne (h : p ≠ .unassigned) (stored : Option (Option FenceId)) : p.assign stored ≠ .unassigned := by
  match stored with
  | none => exact h
  | some none => exact Pointer.noConfusion
  | some (some i) => exact Pointer.noConfusion

theorem vmwFenceSingleBo_returns (e : Env) (bo : BoId) (h : p ≠ .unassigned) : Returns (vmwFenceSingleBo e bo p) := by
  refine .ite (fun hnull => ?_) fun _ => (syncObjRef_returns h).bind (setSyncObj_returns bo)
  refine (vmwExecbufFenceCommands_returns e Bool.noConfusion).bind fun r => ?_
  have hne := Pointer.assign_ne h r.2
  dsimp only
  cases hp : p.assign r.2 with
  | unassigned => exact absurd hp hne
  | null => exact setSyncObj_returns bo none
  | fence i => exact setSyncObj_returns bo (some i)

theorem vmwExecbufReleasePinnedBo_returns (c : ReleasePinned) (h : p ≠ .unassigned)
    (hvalid : c.queryCidValid = true → p = .null) : Returns (vmwExecbufReleasePinnedBo c p) := by
  unfold vmwExecbufReleasePinnedBo
  cases c.bos with
  | none => exact returns_pure _
  | some bos =>
    refine .ite (fun _ => returns_pure _) fun _ => .ite (fun hbug => absurd (hvalid hbug.1) hbug.2) fun _ =>
      .ite (fun _ => returns_pure _) fun _ => .ite (fun _ => ?_) fun _ => ttmEuFenceBufferObjects_returns h _
    refine (vmwExecbufFenceCommands_returns c.env Bool.noConfusion).bind fun r => ?_
    have hne : Pointer.null.assign r.2 ≠ .unassigned := Pointer.assign_ne Pointer.noConfusion r.2
    exact (ttmEuFenceBufferObjects_returns hne _).bind fun _ => unreferenceUnlessNull_returns hne

theorem vmwExecbufCopyFenceUser_returns (copy : Bool) (ret : Int) {rep : Bool} (h : rep = true → ∃ i, p = .fence i) :
    Returns (vmwExecbufCopyFenceUser copy ret rep p) := by
  refine .ite (fun _ => returns_pure _) fun hrep => ?_
  obtain ⟨i, rfl⟩ := h (Bool.not_eq_false _ ▸ fun hfalse => hrep (.inl hfalse))
  exact (returns_modify _).bind fun _ => .ite (fun _ => ttmRefObjectBaseUnref_returns i) fun _ => returns_pure _

theorem FenceEvent.attach_returns (c : FenceEvent) (i : FenceId) : Returns (c.attach (.fence i)) := by
  refine .ite (fun _ => ?_) fun _ => ?_
  · refine Returns.bind (.ite (fun _ => ttmRefObjectBaseUnref_returns i) fun _ => returns_pure _) fun _ => ?_
    exact (vmwFenceObjUnreference_returns i).bind fun _ => returns_pure _
  · refine (vmwExecbufCopyFenceUser_returns c.copy 0 fun _ => ⟨i, rfl⟩).bind fun _ => ?_
    exact (vmwFenceObjUnreference_returns i).bind fun _ => returns_pure _

end Safe

section Claim

/-- The functions that fence the backup buffer of a resource. -/
inductive Unbinder
  | context
  | shader
  | legacySrf
  | surface

def Unbinder.unbind : Unbinder → Unbind → M Int
  | .context => vmwGbContextUnbind
  | .shader => vmwGbShaderUnbind
  | .legacySrf => vmwLegacySrfDma
  | .surface => vmwGbSurfaceUnbind

/-- The callers of `vmw_execbuf_fence_commands`. -/
inductive Caller
  | process (c : Process)
  | fenceEvent (c : FenceEvent)
  | unbind (f : Unbinder) (c : Unbind)
  | singleBo (e : Env) (bo : BoId)
  | releasePinned (c : ReleasePinned)

/-- The arguments of a call. -/
structure Call where
  env : Env
  filePriv : Bool
  pHandle : Bool
  file_of_handle : pHandle = true → filePriv = true

namespace Caller

def run : Caller → M Unit
  | .process c => do let _ ← vmwExecbufProcess c; return
  | .fenceEvent c => do let _ ← vmwFenceEventIoctl c; return
  | .unbind f c => do let _ ← f.unbind c; return
  | .singleBo e bo => vmwFenceSingleBo e bo .null
  | .releasePinned c => vmwExecbufReleasePinnedBo c .null

/-- The call it makes, if it gets there. -/
def call : Caller → Option Call
  | .process c => some ⟨c.env, c.filePriv, c.userFenceRep, c.file_of_rep⟩
  | .fenceEvent c => if c.handle = none then some ⟨c.env, true, c.userFenceRep, fun _ => rfl⟩ else none
  | .unbind _ c => if c.reserve then some ⟨c.env, false, false, Bool.noConfusion⟩ else none
  | .singleBo e _ => some ⟨e, false, false, Bool.noConfusion⟩
  | .releasePinned c =>
    if c.bos.isSome ∧ c.reserve ∧ ¬ (c.queryCidValid ∧ c.emit = false) then
      some ⟨c.env, false, false, Bool.noConfusion⟩
    else none

/-- It asserts that the fence is not NULL, or hands it to `vmw_execbuf_copy_fence_user` for a client. -/
def needsFence : Caller → Bool
  | .process c => c.userFenceRep
  | .fenceEvent _ => true
  | _ => false

end Caller

/-- The call comes back with a fence or with NULL after a wait, and nothing that follows in the caller
stops at a fence that is not there. -/
structure Caller.WellDefined (c : Caller) (s : State) : Prop where
  delivered : ∀ k, c.call = some k →
    ∃ r t, vmwExecbufFenceCommands k.env k.filePriv k.pHandle s = .ok r t ∧ Delivered s t r.2
  returns : ∃ t, c.run s = .ok () t

/-- The fence object can be made; or the fence was sent, its seqno is seen in time, and the caller can do
without the object. -/
def Caller.Fenced (c : Caller) (s : State) : Prop :=
  ∀ k, c.call = some k → k.env.Creates k.pHandle s.fifoDown ∨
    k.env.reserve = true ∧ k.env.OnTime s.dev ∧ c.needsFence = false

namespace Caller

variable {c : Caller} {k : Call} {s : State}

/-- The caller after its call. -/
def rest : Caller → Int × Option (Option FenceId) → M Unit
  | .process c, r => do
    let fence := Pointer.null.assign r.2
    ttmEuFenceBufferObjects fence c.validateNodes
    let release := if c.release.queryCidValid = false then vmwExecbufReleasePinnedBo c.release fence else pure ()
    release
    vmwExecbufCopyFenceUser c.copy r.1 c.userFenceRep fence
    if c.outFence then return else unreferenceUnlessNull fence
  | .fenceEvent c, r => do
    if r.1 ≠ 0 then return
    else
      let _ ← c.attach (Pointer.null.assign r.2)
      return
  | .unbind _ c, r => do
    let fence := Pointer.unassigned.assign r.2
    vmwFenceSingleBo c.again c.bo fence
    unreferenceUnlessNull fence
  | .singleBo _ bo, r =>
    match Pointer.null.assign r.2 with
    | .unassigned => throw .wild
    | .null => setSyncObj bo none
    | .fence i => setSyncObj bo (some i)
  | .releasePinned c, r => do
    let lfence := Pointer.null.assign r.2
    ttmEuFenceBufferObjects lfence (c.bos.elim [] fun p => [p.1, p.2])
    unreferenceUnlessNull lfence

theorem run_of_call (h : c.call = some k) :
    c.run = vmwExecbufFenceCommands k.env k.filePriv k.pHandle >>= c.rest := by
  cases c with
  | process c =>
    cases h
    simp only [run, vmwExecbufProcess, bind_assoc]
    congr 1
    funext r
    congr 1
    funext _
    congr 1
    funext _
    congr 1
    funext _
    cases c.outFence <;> simp
  | fenceEvent c =>
    simp only [call] at h
    split at h
    · rename_i hhandle
      cases h
      simp only [run, vmwFenceEventIoctl, hhandle, bind_assoc]
      congr 1
      funext r
      simp only [rest]
      split
      · rfl
      · rfl
    · cases h
  | unbind f c =>
    simp only [call] at h
    split at h
    · rename_i hreserve
      cases h
      have hrun : f.unbind c = c.run := by cases f <;> rfl
      simp only [run, hrun, Unbind.run, hreserve, Bool.true_eq_false, if_false, bind_assoc, pure_bind]
      congr 1
      funext r
      simp [rest]
    · cases h
  | singleBo e bo =>
    cases h
    rfl
  | releasePinned c =>
    simp only [call] at h
    split at h
    · rename_i hmakes
      cases h
      obtain ⟨hsome, hreserve, hemit⟩ := hmakes
      obtain ⟨⟨pinned, query⟩, hbos⟩ := Option.isSome_iff_exists.mp hsome
      simp only [run, vmwExecbufReleasePinnedBo, hbos]
      rw [if_neg (by simp [hreserve]), if_neg fun h => h.2 rfl, if_neg hemit, if_pos trivial]
      congr 1
      funext r
      simp only [rest, hbos]
      rfl
    · cases h

theorem run_of_no_call (h : c.call = none) : Returns c.run := by
  cases c with
  | process c => cases h
  | fenceEvent c =>
    simp only [call] at h
    split at h
    · cases h
    · rename_i hhandle
      refine Returns.bind ?_ fun _ => returns_pure _
      unfold vmwFenceEventIoctl
      split
      · exact returns_pure _
      · rename_i i _
        refine (returns_modify _).bind fun _ => (returns_modify _).bind fun _ => .ite (fun _ => ?_) fun _ => ?_
        · exact (vmwFenceObjUnreference_returns i).bind fun _ => returns_pure _
        · refine Returns.bind (.ite (fun _ => returns_modify _) fun _ => returns_pure _) fun _ => ?_
          exact (ttmRefObjectBaseUnref_returns i).bind fun _ => c.attach_returns i
      · rename_i hnone
        exact absurd hnone hhandle
  | unbind f c =>
    simp only [call] at h
    split at h
    · cases h
    · rename_i hreserve
      have hrun : f.unbind c = c.run := by cases f <;> rfl
      rw [Bool.not_eq_true] at hreserve
      simp only [run, hrun, Unbind.run, hreserve]
      exact (returns_pure _).bind fun _ => returns_pure _
  | singleBo e bo => cases h
  | releasePinned c => exact vmwExecbufReleasePinnedBo_returns c Pointer.noConfusion fun _ => rfl

theorem rest_fence (c : Caller) (i : FenceId) : Returns (c.rest (0, some (some i))) := by
  have hne : Pointer.fence i ≠ .unassigned := Pointer.noConfusion
  cases c with
  | process c =>
    refine (ttmEuFenceBufferObjects_returns hne _).bind fun _ => ?_
    refine Returns.bind (.ite (fun hvalid => ?_) fun _ => returns_pure _) fun _ => ?_
    · exact vmwExecbufReleasePinnedBo_returns c.release hne fun hcid => Bool.noConfusion (hvalid.symm.trans hcid)
    · refine (vmwExecbufCopyFenceUser_returns c.copy 0 fun _ => ⟨i, rfl⟩).bind fun _ => ?_
      exact .ite (fun _ => returns_pure _) fun _ => unreferenceUnlessNull_returns hne
  | fenceEvent c => exact (c.attach_returns i).bind fun _ => returns_pure _
  | unbind f c => exact (vmwFenceSingleBo_returns c.again c.bo hne).bind fun _ => unreferenceUnlessNull_returns hne
  | singleBo e bo => exact setSyncObj_returns bo (some i)
  | releasePinned c => exact (ttmEuFenceBufferObjects_returns hne _).bind fun _ => unreferenceUnlessNull_returns hne

theorem rest_null (h : c.needsFence = false) : Returns (c.rest (0, some none)) := by
  have hne : Pointer.null ≠ .unassigned := Pointer.noConfusion
  cases c with
  | process c =>
    have hrep : c.userFenceRep = false := h
    refine (ttmEuFenceBufferObjects_returns hne _).bind fun _ => ?_
    refine Returns.bind (.ite (fun _ => ?_) fun _ => returns_pure _) fun _ => ?_
    · exact vmwExecbufReleasePinnedBo_returns c.release hne fun _ => rfl
    · rw [hrep]
      refine (vmwExecbufCopyFenceUser_returns c.copy 0 Bool.noConfusion).bind fun _ => ?_
      exact .ite (fun _ => returns_pure _) fun _ => unreferenceUnlessNull_returns hne
  | fenceEvent c => cases h
  | unbind f c => exact (vmwFenceSingleBo_returns c.again c.bo hne).bind fun _ => unreferenceUnlessNull_returns hne
  | singleBo e bo => exact setSyncObj_returns bo none
  | releasePinned c => exact (ttmEuFenceBufferObjects_returns hne _).bind fun _ => unreferenceUnlessNull_returns hne

theorem rest_stops (h : c.needsFence = true) : Stops (c.rest (0, some none)) := by
  have hne : Pointer.null ≠ .unassigned := Pointer.noConfusion
  cases c with
  | process c =>
    have hrep : c.userFenceRep = true := h
    refine Stops.bind (ttmEuFenceBufferObjects_returns hne _) fun _ => ?_
    refine Stops.bind (.ite (fun _ => ?_) fun _ => returns_pure _) fun _ => ?_
    · exact vmwExecbufReleasePinnedBo_returns c.release hne fun _ => rfl
    · rw [hrep]
      exact fun s => ⟨.bug, s, rfl⟩
  | fenceEvent c => exact fun s => ⟨.bug, s, rfl⟩
  | unbind f c => cases h
  | singleBo e bo => cases h
  | releasePinned c => cases h

end Caller

theorem delivered_of_made {s t : State} {pHandle : Bool} (h : s.Made t pHandle) : Delivered s t (some (some s.next)) := by
  obtain ⟨hnext, hkref, hbase⟩ := h
  refine .inl ⟨s.next, rfl, le_rfl, hnext ▸ Nat.lt_succ_self _, ?_⟩
  rw [hkref, hbase]
  cases pHandle <;> rfl

/-- The only wait of the call is the one that counts. -/
theorem delivered_null_iff {s t : State} {w : Wait} (h : t.waits = w :: s.waits) :
    Delivered s t (some none) ↔ w.Covers s.dev := by
  constructor
  · rintro (⟨i, hi, -⟩ | ⟨-, new, hnew, w', hw', hcovers⟩)
    · cases hi
    · have hone : new = [w] := List.append_cancel_right (hnew.symm.trans h)
      rw [hone, List.mem_singleton] at hw'
      exact hw' ▸ hcovers
  · intro hcovers
    exact .inr ⟨rfl, [w], h, w, List.mem_singleton_self w, hcovers⟩

/-- Whatever happens to the fence and to its object, the result is well defined just when the object can be
made, or the fence was sent, its wait is on time and nobody has to have the object. -/
theorem fence_result_iff (c : Caller) (s : State) : c.WellDefined s ↔ c.Fenced s := by
  cases hcall : c.call with
  | none =>
    refine ⟨fun _ k hk => ?_, fun _ => ⟨fun k hk => ?_, ?_⟩⟩
    · rw [hcall] at hk
      cases hk
    · rw [hcall] at hk
      cases hk
    · obtain ⟨a, t, hrun⟩ := Caller.run_of_no_call hcall s
      exact ⟨t, hrun⟩
  | some k =>
    obtain ⟨stored, t, hrun, hcases⟩ := vmwExecbufFenceCommands_ok k.env k.file_of_handle s
    have hrest : c.run s = c.rest (0, stored) t := by
      rw [Caller.run_of_call hcall]
      exact bind_of_ok hrun
    have hfenced : c.Fenced s ↔ k.env.Creates k.pHandle s.fifoDown ∨
        k.env.reserve = true ∧ k.env.OnTime s.dev ∧ c.needsFence = false := by
      unfold Caller.Fenced
      rw [hcall]
      simp
    have hdelivered (h : c.WellDefined s) : Delivered s t stored := by
      obtain ⟨r, t', hrun', hd⟩ := h.delivered k hcall
      rw [hrun] at hrun'
      cases hrun'
      exact hd
    have hwell (hd : Delivered s t stored) (hreturns : ∃ u, c.rest (0, stored) t = .ok () u) : c.WellDefined s := by
      refine ⟨fun k' hk' => ?_, hrest ▸ hreturns⟩
      rw [hcall] at hk'
      cases hk'
      exact ⟨_, t, hrun, hd⟩
    rw [hfenced]
    rcases hcases with ⟨hok, rfl, hmade⟩ | ⟨hok, hreserve, rfl, w, hwaits, hcovers⟩ | ⟨hok, hreserve, rfl⟩
    · refine ⟨fun _ => .inl hok, fun _ => hwell (delivered_of_made hmade) ?_⟩
      obtain ⟨a, u, hu⟩ := c.rest_fence s.next t
      exact ⟨u, hu⟩
    · have hwaited : Delivered s t (some none) ↔ w.Covers s.dev := delivered_null_iff hwaits
      constructor
      · intro h
        refine .inr ⟨hreserve, hcovers.mp (hwaited.mp (hdelivered h)), ?_⟩
        by_contra hneeds
        obtain ⟨e, u, hstop⟩ := Caller.rest_stops (Bool.not_eq_false _ ▸ hneeds) t
        obtain ⟨u', hu'⟩ := h.returns
        rw [hrest, hstop] at hu'
        cases hu'
      · rintro (hok' | ⟨-, hontime, hneeds⟩)
        · exact absurd hok' hok
        · obtain ⟨a, u, hu⟩ := Caller.rest_null hneeds t
          exact hwell (hwaited.mpr (hcovers.mpr hontime)) ⟨u, hu⟩
    · constructor
      · intro h
        rcases hdelivered h with ⟨i, hi, -⟩ | ⟨hnull, -⟩
        · cases hi
        · cases hnull
      · rintro (hok' | ⟨hreserve', -⟩)
        · exact absurd hok' hok
        · exact Bool.noConfusion (hreserve.symm.trans hreserve')

end Claim

section Example

/-- An idle device; its waits end at once. -/
def quiet : State := ⟨⟨7, 7, 7, true⟩, fun _ => ⟨0, 0, 0⟩, 0, false, fun _ => none, []⟩

def atOnce : Readings := ⟨[⟨7, 7, 7, true, 0, false⟩], _, List.mem_singleton_self _, rfl⟩

/-- No memory for a fence object. -/
def noObject (reserve : Bool) : Env := ⟨reserve, 7, 0, false, 0, atOnce, atOnce⟩

/-- Without room in the FIFO nothing is stored, and the unbinding of a context follows its unassigned pointer;
with room, a client's reply is asked of NULL. -/
theorem no_object :
    (∃ t, vmwExecbufFenceCommands (noObject false) false false quiet = .ok (0, none) t) ∧
      (∃ t, (Caller.unbind .context ⟨true, 0, noObject false, noObject true⟩).run quiet = .error .wild t) ∧
      ∃ t, (Caller.process ⟨true, true, fun h => h, false, true, [], ⟨none, true, false, true, noObject true⟩,
        noObject true⟩).run quiet = .error .bug t :=
  ⟨⟨_, rfl⟩, ⟨_, rfl⟩, _, rfl⟩

end Example

end Vmwgfx.Fence.Commands
