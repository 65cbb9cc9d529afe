import Mathlib.Data.Finset.Basic
import Mathlib.Data.Finset.Insert
import Mathlib.Logic.Function.Basic
import Vmwgfx.Lib.Machine

/-! The lock of `ttm_lock.c`, and threads that take it, wait for it and give it back. -/

universe u

namespace Vmwgfx.TtmLock

/-- The bits of `flags`. -/
inductive Flag
  | writeLockPending
  | vtLockPending
  | suspendLockPending
  | vtLock
  | suspendLock
  deriving DecidableEq

/-- `struct ttm_lock`, less the object that releases the lock when its client dies. -/
structure Lock where
  rw : Int
  flags : Finset Flag
  killTakers : Bool

inductive Mode
  | read
  | write
  | vt
  | suspend
  deriving DecidableEq

/-- What an evaluation of the condition in `wait_event` gives: whether the lock is taken, and whether
the thread is sent the signal instead. -/
structure Attempt where
  locked : Bool
  killed : Bool
  lock : Lock

namespace Lock

variable (l : Lock)

/-- `__ttm_lock_init`. -/
def init : Lock := ⟨0, ∅, false⟩

def addFlag (f : Flag) : Lock := { l with flags := insert f l.flags }

def clearFlag (f : Flag) : Lock := { l with flags := l.flags.erase f }

/-- `__ttm_read_lock`. -/
def ttmReadLock : Attempt :=
  if l.killTakers then ⟨false, true, l⟩
  else if l.rw ≥ 0 ∧ l.flags = ∅ then ⟨true, false, { l with rw := l.rw + 1 }⟩
  else ⟨false, false, l⟩

/-- `__ttm_write_lock`. -/
def ttmWriteLock : Attempt :=
  if l.killTakers then ⟨false, true, l⟩
  else if l.rw = 0 ∧ l.flags.erase .writeLockPending = ∅ then
    ⟨true, false, { l with rw := -1 }.clearFlag .writeLockPending⟩
  else ⟨false, false, l.addFlag .writeLockPending⟩

/-- What `__ttm_vt_lock` and `__ttm_suspend_lock` do. -/
def specialLock (pending taken : Flag) : Attempt :=
  if l.rw = 0 then ⟨true, false, (l.clearFlag pending).addFlag taken⟩ else ⟨false, false, l.addFlag pending⟩

def ttmVtLock : Attempt := l.specialLock .vtLockPending .vtLock

def ttmSuspendLock : Attempt := l.specialLock .suspendLockPending .suspendLock

def attempt : Mode → Attempt
  | .read => l.ttmReadLock
  | .write => l.ttmWriteLock
  | .vt => l.ttmVtLock
  | .suspend => l.ttmSuspendLock

/-- What a thread does whose wait was interrupted; it wakes the others if it has a bit to clear. -/
def giveUp : Mode → Lock × Bool
  | .write => (l.clearFlag .writeLockPending, true)
  | .vt => (l.clearFlag .vtLockPending, true)
  | .read | .suspend => (l, false)

/-- `ttm_read_unlock`, `ttm_write_unlock`, `__ttm_vt_unlock` and `ttm_suspend_unlock`: the lock, and whether
everyone is woken. -/
def unlock : Mode → Lock × Bool
  | .read => ({ l with rw := l.rw - 1 }, decide (l.rw - 1 = 0))
  | .write => ({ l with rw := 0 }, true)
  | .vt => (l.clearFlag .vtLock, true)
  | .suspend => (l.clearFlag .suspendLock, true)

/-- `ttm_write_lock_downgrade`; it wakes everyone. -/
def ttmWriteLockDowngrade : Lock := { l with rw := 1 }

end Lock

/-- Where a thread is. -/
inductive Thread
  | idle
  /-- About to evaluate the condition, before or after `prepare_to_wait`. -/
  | trying (mode : Mode) (interruptible signal queued : Bool)
  /-- In `schedule`; the last evaluation may have been cut short by `kill_takers`. -/
  | asleep (mode : Mode) (interruptible killed : Bool)
  /-- The wait was interrupted. -/
  | interrupted (mode : Mode)
  | holds (mode : Mode)
  deriving DecidableEq

namespace Thread

/-- `wake_up_all`. -/
def wake : Thread → Thread
  | .asleep mode interruptible _ => .trying mode interruptible false true
  | x => x

def held : Thread → Option Mode
  | .holds mode => some mode
  | _ => none

def waits : Thread → Option Mode
  | .trying mode _ _ _ => some mode
  | .asleep mode _ _ => some mode
  | .interrupted mode => some mode
  | _ => none

/-- The mode that a thread has to do with. -/
def engaged (x : Thread) : Option Mode := x.held <|> x.waits

end Thread

structure State (ι : Type u) where
  lock : Lock
  thread : ι → Thread

variable {ι : Type u} [DecidableEq ι]

namespace State

variable (s : State ι)

def set (t : ι) (x : Thread) (lock : Lock) : State ι := ⟨lock, Function.update s.thread t x⟩

def wakeIf (wake : Bool) : State ι := if wake then { s with thread := fun t => (s.thread t).wake } else s

end State

inductive Act (ι : Type u)
  | start (t : ι) (mode : Mode) (interruptible signal : Bool)
  | attempt (t : ι)
  | signal (t : ι)
  | giveUp (t : ι)
  | unlock (t : ι)
  | downgrade (t : ι)
  | setKill (val : Bool)

/-- What an evaluation leaves of a thread. -/
def Attempt.thread (mode : Mode) (interruptible signal queued : Bool) (a : Attempt) : Thread :=
  if a.locked then .holds mode
  else if queued = false then .trying mode interruptible (signal || a.killed) true
  else if interruptible ∧ (signal ∨ a.killed) then .interrupted mode
  else .asleep mode interruptible a.killed

/-- `none` is a step that the thread cannot take. -/
def step (s : State ι) : Act ι → Option (State ι)
  | .start t mode interruptible signal =>
    -- `ttm_suspend_lock` is not interruptible
    if s.thread t = .idle ∧ (mode = .suspend → interruptible = false) then
      some (s.set t (.trying mode interruptible signal false) s.lock)
    else none
  | .attempt t =>
    match s.thread t with
    | .trying mode interruptible signal queued =>
      let a := s.lock.attempt mode
      some (s.set t (a.thread mode interruptible signal queued) a.lock)
    | _ => none
  | .signal t =>
    match s.thread t with
    | .trying mode interruptible _ queued => some (s.set t (.trying mode interruptible true queued) s.lock)
    | .asleep mode true _ => some (s.set t (.trying mode true true true) s.lock)
    | _ => none
  | .giveUp t =>
    match s.thread t with
    | .interrupted mode => some ((s.set t .idle (s.lock.giveUp mode).1).wakeIf (s.lock.giveUp mode).2)
    | _ => none
  | .unlock t =>
    match s.thread t with
    | .holds mode => some ((s.set t .idle (s.lock.unlock mode).1).wakeIf (s.lock.unlock mode).2)
    | _ => none
  | .downgrade t =>
    match s.thread t with
    | .holds .write => some ((s.set t (.holds .read) s.lock.ttmWriteLockDowngrade).wakeIf true)
    | _ => none
  | .setKill val => some { s with lock := { s.lock with killTakers := val } }

/-- The lock is not asked for in VT or suspend mode by a thread while another one has to do with it in
that mode. -/
def Ok (s : State ι) : Act ι → Prop
  | .start _ mode _ _ => mode = .vt ∨ mode = .suspend → ∀ t, (s.thread t).engaged ≠ some mode
  | _ => True

def init (ι : Type u) : State ι := ⟨.init, fun _ => .idle⟩

end Vmwgfx.TtmLock
