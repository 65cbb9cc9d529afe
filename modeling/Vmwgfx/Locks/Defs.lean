import Vmwgfx.Binding.Tracker
import Vmwgfx.Fifo.Defs
import Vmwgfx.Lib.Triple
import Vmwgfx.Resource.Defs

/-! The mutexes of command submission, held by one thread, around the FIFO. -/

namespace Vmwgfx.Locks

open Lib Binding Resource

inductive Mutex
  | cmdbuf
  | binding
  deriving DecidableEq

/-- The callers of `vmw_fifo_reserve`; the scrub functions rebind too. -/
inductive Site
  | hwContextDestroy
  | contextInit
  | gbContextCreate
  | gbContextBind
  | gbContextUnbind
  | gbContextDestroy
  | contextScrub (bt : BindingType) (rebind : Bool)
  | execbufProcess
  | fbDirtyFlush
  | fifoSendFence
  | emitDummyLegacyQuery
  | emitDummyGbQuery
  | gmr2Bind
  | gmr2Unbind
  | cursorUpdateImage
  | dmabufDirtyLdu
  | setupOtableBase
  | takedownOtableBase
  | mobUnbind
  | mobBind
  | overlaySendPut
  | overlaySendStop
  | souFifoCreate
  | souFifoDestroy
  | gbShaderCreate
  | gbShaderBind
  | gbShaderUnbind
  | gbShaderDestroy
  | hwSurfaceDestroy
  | legacySrfCreate
  | legacySrfDma
  | legacySrfDestroy
  | gbSurfaceCreate
  | gbSurfaceBind
  | gbSurfaceUnbind
  | gbSurfaceDestroy
  deriving DecidableEq

/-- What a function asks of its data and of the rest of the kernel. -/
inductive Question
  /-- `mutex_lock_interruptible` is interrupted. -/
  | interrupted (m : Mutex)
  | hasMob
  /-- `res->id` is `-1`. -/
  | noId
  | allocId
  /-- The id is past the end of its table. -/
  | idTooLarge
  | memoryFull
  | resourceInit
  | guestBacked
  | readback
  | backupDirty
  | scrubbed
  /-- The binding's resource has no id. -/
  | unbound
  | bindingType (bt : BindingType)
  | capFence
  | capGmr2
  | fenceCreated
  /-- `num_3d_resources` was, or becomes, zero. -/
  | lastHolder
  | negativeCount
  | dataPages
  | mobPrepared
  /-- What a variable that was not set holds. -/
  | unset
  | ptBo
  | pageTable
  | staticBuffer
  | otableBo
  | otableBoMapped
  | dummyQueryBo
  | lastReference
  | bufferBound
  | bufferIsMob
  | backup
  | mobHead
  | activated
  | pinnedBo
  | queryCidValid
  | buffersReserved
  | hasImage
  | suspended
  | dirty
  | fallbackWait
  | signalPending
  | souDefined
  | screenObjects
  | streamActive
  /-- The commands are in kernel memory and there is a hash table. -/
  | prepared
  | verified
  | resourcesReserved
  | buffersValidated
  | resourcesValidated
  | notThrottled
  | postQueryBarrier
  | queryBoChanges
  /-- `vmw_resource_reference_unless_doomed` finds no reference. -/
  | doomed
  | isContext
  | errorResource
  deriving DecidableEq

/-- The lists a function walks. -/
inductive Walk
  | bindings
  | contexts
  | managed
  | otables
  | validations
  | resources
  /-- The rounds of a loop that ends when the FIFO has room. -/
  | rounds
  deriving DecidableEq

/-- The parts of `vmw_execbuf_process` in which other functions run. -/
inductive Stage
  | check
  | reserve
  | validateBuffers
  | validateResources
  | unreserve
  | commitStaged
  | revertStaged
  deriving DecidableEq

/-- What runs in them. -/
inductive Call
  | resourceContextResAdd
  | resourceUnreference (type : ResType)
  | boUnref
  | ttmBind
  | ttmUnbind
  | create (func : VmwResFunc)
  | bind (func : VmwResFunc)
  | unbind (func : VmwResFunc)
  | destroy (func : VmwResFunc)

/-- Whatever the device and the rest of the kernel do; the number counts the questions before. -/
structure Env where
  /-- What happens in the FIFO during one call. -/
  acts : Site → Nat → List Fifo.Act
  /-- What happens in it before the thread gets `fifo_mutex`. -/
  others : Nat → List Fifo.Act
  answer : Question → Nat → Bool
  length : Walk → Nat → Nat
  calls : Stage → Nat → List Call
  /-- The bytes of a command whose size depends on data. -/
  size : Site → Nat → Nat

structure State where
  held : Mutex → Bool
  /-- `fifo_mutex` is free when this is idle. -/
  fifo : Fifo.State
  clock : Nat

/-- Where a thread does not come back from. -/
inductive Stop
  /-- It waits for a mutex that it holds. -/
  | deadlock
  /-- It gives back a mutex that it does not hold. -/
  | notHeld
  /-- It writes through a NULL pointer that `vmw_fifo_reserve` returned. -/
  | nullWrite
  /-- It commits without a reservation. -/
  | nullCommit
  /-- It reads through another NULL pointer. -/
  | oops
  | bug
  /-- It has not come back yet. -/
  | running
  deriving DecidableEq

abbrev M := EStateM Stop State

section Primitives

def onlyIf (c : Bool) (x : M Unit) : M Unit := if c then x else pure ()

def mutexLock (m : Mutex) : M Unit := do
  let s ← get
  if s.held m then throw .deadlock else set { s with held := Function.update s.held m true }

def mutexUnlock (m : Mutex) : M Unit := do
  let s ← get
  if s.held m then set { s with held := Function.update s.held m false } else throw .notHeld

variable (env : Env)

def tick : M Nat := do
  let s ← get
  set { s with clock := s.clock + 1 }
  return s.clock

def ask (q : Question) : M Bool := do
  let n ← tick
  return env.answer q n

def length (w : Walk) : M Nat := do
  let n ← tick
  return env.length w n

def size (site : Site) : M Nat := do
  let n ← tick
  return env.size site n

def mutexLockInterruptible (m : Mutex) : M Bool := do
  if ← ask env (.interrupted m) then
    return false
  else
    mutexLock m
    return true

end Primitives

section Fifo

variable (env : Env)

/-- What can happen while a thread is in `vmw_fifo_reserve`, once it has the mutex. -/
def inReserve : Fifo.Act → Bool
  | .loop _ | .isFull _ | .wait _ | .device => true
  | _ => false

/-- While it fills the buffer. -/
def inFill : Fifo.Act → Bool
  | .fill _ _ | .device => true
  | _ => false

/-- While it is in `vmw_fifo_commit`. -/
def inCommit : Fifo.Act → Bool
  | .copy | .publish | .device => true
  | _ => false

/-- Lets the FIFO run from `f`; where it is then. -/
def runFifo (phase : Fifo.Act → Bool) (site : Site) (f : Fifo.State) : M Fifo.Pc := do
  let n ← tick
  match exec Fifo.step (fun _ => phase) f (env.acts site n) with
  | none => throw .running
  | some f =>
    modify fun s => { s with fifo := f }
    return f.pc

/-- Takes `fifo_mutex` when the other threads have given it back. -/
def lockFifo : M Unit := do
  let s ← get
  if s.fifo.pc = .idle then
    let n ← tick
    match exec Fifo.step (fun _ _ => true) s.fifo (env.others n) with
    | none => throw .running
    | some f => if f.pc = .idle then modify fun s => { s with fifo := f } else throw .running
  else throw .deadlock

/-- Whether what `vmw_fifo_reserve` returns is not NULL. -/
def vmwFifoReserve (site : Site) (bytes : Nat) : M Bool := do
  lockFifo env
  let s ← get
  match ← runFifo env inReserve site (s.fifo.reserveStart bytes) with
  | .reserved _ => return true
  | .idle | .stuck => return false
  | .bug => throw .bug
  | _ => throw .running

/-- The caller writes through what `vmw_fifo_reserve` returned. -/
def fill (site : Site) (cmd : Bool) : M Unit := do
  if cmd then
    let s ← get
    discard (runFifo env inFill site s.fifo)
  else throw .nullWrite

def vmwFifoCommit (site : Site) (bytes : Nat) : M Unit := do
  let s ← get
  match s.fifo.pc with
  | .reserved nextCmd =>
    match ← runFifo env inCommit site (s.fifo.commitStart nextCmd bytes) with
    | .idle => return ()
    | .bug => throw .bug
    | _ => throw .running
  | _ => throw .nullCommit

/-- What most callers do. -/
def command (site : Site) (bytes : Nat) : M Bool := do
  let cmd ← vmwFifoReserve env site bytes
  if cmd then
    fill env site cmd
    vmwFifoCommit env site bytes
    return true
  else return false

end Fifo

end Vmwgfx.Locks
