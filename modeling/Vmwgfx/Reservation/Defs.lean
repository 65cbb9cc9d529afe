import Mathlib.Data.List.Basic
import Vmwgfx.Kernel
import Vmwgfx.Lib.Machine
import Vmwgfx.Lib.Sweep
import Vmwgfx.Lib.Uint

/-! Reserving buffers: `ttm_bo_reserve`, and lists of buffers in `ttm_execbuf_util.c`. -/

universe u v

namespace Vmwgfx.Reservation

open Lib

def EAGAIN : Int := 11

def EDEADLK : Int := 35

def ERESTARTSYS : Int := 512

/-- What of `struct ttm_buffer_object` reservations have to do with. -/
structure Buffer where
  reserved : Bool
  /-- Kept modulo 2^32 by the code, and only compared modulo 2^32 here. -/
  valSeq : Nat
  seqValid : Bool
  lru : Bool
  swap : Bool
  listKref : Int
  noEvict : Bool
  hasTtm : Bool
  cpuWriters : Nat
  /-- A `BUG_ON` about the buffer was hit. -/
  bug : Bool

namespace Buffer

variable (bo : Buffer)

def ttmBoAddToLru : Buffer :=
  let bo := { bo with bug := bo.bug || !bo.reserved }
  if bo.noEvict then bo
  else
    let bo := { bo with bug := bo.bug || bo.lru, lru := true, listKref := bo.listKref + 1 }
    if bo.hasTtm then { bo with swap := true, listKref := bo.listKref + 1 } else bo

/-- The buffer, and how many references the lists had. -/
def ttmBoDelFromLru : Buffer × Nat := ({ bo with lru := false, swap := false }, bo.swap.toNat + bo.lru.toNat)

/-- `never_free`: the last reference must not go. -/
def ttmBoListRefSub (count : Nat) : Buffer :=
  { bo with listKref := bo.listKref - count, bug := bo.bug || decide (bo.listKref - count = 0) }

/-- One turn of the loop in `ttm_bo_reserve_locked`, with `no_wait`. -/
def ttmBoReserveLocked (sequence : Option Nat) : Except Int Buffer :=
  if bo.reserved then
    match sequence with
    | some sequence =>
      if bo.seqValid then
        if sequence % 2 ^ 32 = bo.valSeq % 2 ^ 32 then .error (-EDEADLK)
        else if sub32 sequence bo.valSeq < 2 ^ 31 then .error (-EAGAIN)
        else .error (-EBUSY)
      else .error (-EBUSY)
    | none => .error (-EBUSY)
  else
    -- the waiters that are woken wait for `reserved` to go down, and sleep on
    match sequence with
    | some sequence => .ok { bo with reserved := true, valSeq := sequence, seqValid := true }
    | none => .ok { bo with reserved := true, seqValid := false }

def ttmBoUnreserveLocked : Buffer := { bo.ttmBoAddToLru with reserved := false }

end Buffer

variable {ι : Type u} {β : Type v}

/-- `struct ttm_validate_buffer`, less the fences. -/
structure Entry (β : Type v) where
  bo : β
  reserved : Bool
  removed : Bool
  putCount : Nat

namespace Entry

variable (bo : Buffer) (entry : Entry β)

/-- A turn of `ttm_eu_backoff_reservation_locked`. -/
def backoff : Buffer × Entry β :=
  if entry.reserved then
    let r := if entry.removed then (bo.ttmBoAddToLru, { entry with removed := false }) else (bo, entry)
    ({ r.1 with reserved := false }, { r.2 with reserved := false })
  else (bo, entry)

/-- A turn of `ttm_eu_del_from_lru_locked`. -/
def delFromLru : Buffer × Entry β :=
  if entry.reserved ∧ ¬ entry.removed then
    (bo.ttmBoDelFromLru.1, { entry with putCount := bo.ttmBoDelFromLru.2, removed := true })
  else (bo, entry)

/-- A turn of `ttm_eu_list_ref_sub`. -/
def listRefSub : Buffer × Entry β :=
  if entry.putCount ≠ 0 then (bo.ttmBoListRefSub entry.putCount, { entry with putCount := 0 }) else (bo, entry)

/-- A turn of `ttm_eu_fence_buffer_objects`, less the fences. -/
def fence : Buffer × Entry β := (bo.ttmBoUnreserveLocked, { entry with reserved := false })

end Entry

/-- What follows on `ttm_eu_list_ref_sub`. -/
inductive Next (β : Type v)
  | ret (ret : Int)
  | waitUnreserved (bo : β)
  | waitCpu (bo : β)

/-- Where a thread is. -/
inductive Thread (β : Type v)
  | idle
  /-- At `retry`. -/
  | retry (list : List (Entry β))
  /-- At `retry_this_bo` for the entry `i`, with the `lru_lock`. -/
  | scan (list : List (Entry β)) (i : Nat) (valSeq : Nat)
  /-- In `ttm_eu_wait_unreserved_locked`. -/
  | busy (list : List (Entry β)) (i : Nat) (valSeq : Nat)
  | relock (list : List (Entry β)) (i : Nat) (valSeq : Nat) (ret : Int)
  /-- In `ttm_eu_list_ref_sub`, at the entry `i`. -/
  | put (list : List (Entry β)) (i : Nat) (next : Next β)
  | waitUnreserved (list : List (Entry β)) (bo : β)
  | waitCpu (list : List (Entry β)) (bo : β)
  /-- The list, or the one buffer of `ttm_bo_reserve`, is reserved. -/
  | holds (list : List (Entry β))
  /-- In `ttm_bo_reserve`. -/
  | one (bo : β) (interruptible noWait : Bool)
  | oneBusy (bo : β) (interruptible : Bool)
  | onePut (bo : β) (putCount : Nat)

structure State (ι : Type u) (β : Type v) where
  /-- Who has the `lru_lock` from one step to the next. -/
  lruLock : Option ι
  /-- `bdev->val_seq`, which the code keeps modulo 2^32. -/
  valSeq : Nat
  buffer : β → Buffer
  thread : ι → Thread β

inductive Act (ι : Type u) (β : Type v)
  /-- `ttm_eu_reserve_buffers`. -/
  | reserveBuffers (t : ι) (bos : List β)
  /-- `ttm_bo_reserve` without a sequence. -/
  | reserve (t : ι) (bo : β) (interruptible noWait : Bool)
  /-- The next step of the thread in one of these. -/
  | run (t : ι)
  | signal (t : ι)
  /-- `ttm_eu_fence_buffer_objects`, or `ttm_bo_unreserve`. -/
  | fence (t : ι)
  /-- `ttm_eu_backoff_reservation`. -/
  | backoff (t : ι)
  /-- Who has a buffer reserved changes its placement. -/
  | validate (t : ι) (bo : β) (noEvict hasTtm : Bool)
  | cpuWriters (bo : β) (n : Nat)

variable [DecidableEq ι] [DecidableEq β]

def ttmEuBackoffReservationLocked (m : β → Buffer) (list : List (Entry β)) := sweep Entry.bo Entry.backoff m list

def ttmEuDelFromLruLocked (m : β → Buffer) (list : List (Entry β)) := sweep Entry.bo Entry.delFromLru m list

def ttmEuFenceBufferObjects (m : β → Buffer) (list : List (Entry β)) := sweep Entry.bo Entry.fence m list

namespace State

variable (s : State ι β) (t : ι)

/-- The thread moves, and the buffers with it. -/
def move (m : β → Buffer) (x : Thread β) : State ι β := { s with buffer := m, thread := Function.update s.thread t x }

def lock : State ι β := { s with lruLock := some t }

def unlock : State ι β := { s with lruLock := none }

def update (bo : β) (x : Buffer) : β → Buffer := Function.update s.buffer bo x

/-- Everything is given back, and the lock too. -/
def giveUp (m : β → Buffer) (list : List (Entry β)) (next : Next β) : State ι β :=
  let r := ttmEuBackoffReservationLocked m list
  s.unlock.move t r.1 (.put r.2 0 next)

/-- The loop over the entries of `ttm_eu_reserve_buffers`. -/
def scan (list : List (Entry β)) (i valSeq : Nat) : State ι β :=
  match list[i]? with
  | none =>
    let r := ttmEuDelFromLruLocked s.buffer list
    s.unlock.move t r.1 (.put r.2 0 (.ret 0))
  | some entry =>
    match (s.buffer entry.bo).ttmBoReserveLocked (some valSeq) with
    | .ok bo =>
      let list := list.set i { entry with reserved := true }
      if 0 < bo.cpuWriters then s.giveUp t (s.update entry.bo bo) list (.waitCpu entry.bo)
      else s.move t (s.update entry.bo bo) (.scan list (i + 1) valSeq)
    | .error ret =>
      if ret = -EBUSY then
        let r := ttmEuDelFromLruLocked s.buffer list
        s.unlock.move t r.1 (.busy r.2 i valSeq)
      else if ret = -EAGAIN then s.giveUp t s.buffer list (.waitUnreserved entry.bo)
      else s.giveUp t s.buffer list (.ret ret)

/-- `none`: the thread waits. -/
def run : Option (State ι β) :=
  match s.thread t with
  | .idle | .holds _ => none
  | .retry list =>
    if s.lruLock = none then some ({ s with valSeq := s.valSeq + 1 }.lock t |>.move t s.buffer (.scan list 0 s.valSeq))
    else none
  | .scan list i valSeq => some (s.scan t list i valSeq)
  | .busy list i valSeq =>
    match list[i]? with
    | some entry =>
      if (s.buffer entry.bo).reserved then none else some (s.move t s.buffer (.relock list i valSeq 0))
    | none => none
  | .relock list i valSeq ret =>
    if s.lruLock = none then
      if ret = 0 then some ((s.lock t).move t s.buffer (.scan list i valSeq)) else some (s.giveUp t s.buffer list (.ret ret))
    else none
  | .put list i next =>
    match list[i]? with
    | some entry =>
      let r := entry.listRefSub (s.buffer entry.bo)
      some (s.move t (s.update entry.bo r.1) (.put (list.set i r.2) (i + 1) next))
    | none =>
      match next with
      | .ret ret => some (s.move t s.buffer (if ret = 0 then .holds list else .idle))
      | .waitUnreserved bo => some (s.move t s.buffer (.waitUnreserved list bo))
      | .waitCpu bo => some (s.move t s.buffer (.waitCpu list bo))
  | .waitUnreserved list bo =>
    if (s.buffer bo).reserved then none else some (s.move t s.buffer (.retry list))
  | .waitCpu list bo => if (s.buffer bo).cpuWriters = 0 then some (s.move t s.buffer (.retry list)) else none
  | .one bo interruptible noWait =>
    if s.lruLock = none then
      match (s.buffer bo).ttmBoReserveLocked none with
      | .ok x => some (s.move t (s.update bo x.ttmBoDelFromLru.1) (.onePut bo x.ttmBoDelFromLru.2))
      | .error _ =>
        if noWait then some (s.move t (s.update bo ((s.buffer bo).ttmBoListRefSub 0)) .idle)
        else some (s.move t s.buffer (.oneBusy bo interruptible))
    else none
  | .oneBusy bo interruptible =>
    if (s.buffer bo).reserved then none else some (s.move t s.buffer (.one bo interruptible false))
  | .onePut bo putCount =>
    some (s.move t (s.update bo ((s.buffer bo).ttmBoListRefSub putCount)) (.holds [⟨bo, true, true, 0⟩]))

/-- A wait that can be interrupted is. -/
def signal : Option (State ι β) :=
  match s.thread t with
  | .busy list i valSeq => some (s.move t s.buffer (.relock list i valSeq (-ERESTARTSYS)))
  | .waitUnreserved _ _ | .waitCpu _ _ => some (s.move t s.buffer .idle)
  | .oneBusy bo true => some (s.move t (s.update bo ((s.buffer bo).ttmBoListRefSub 0)) .idle)
  | _ => none

/-- Who has reserved buffers gives them back. -/
def release (f : (β → Buffer) → List (Entry β) → (β → Buffer) × List (Entry β)) : Option (State ι β) :=
  match s.thread t with
  | .holds list => if s.lruLock = none then some (s.move t (f s.buffer list).1 .idle) else none
  | _ => none

def start (x : Thread β) : Option (State ι β) :=
  match s.thread t with
  | .idle => some (s.move t s.buffer x)
  | _ => none

end State

def step (s : State ι β) : Act ι β → Option (State ι β)
  -- nothing happens for an empty list
  | .reserveBuffers t bos => if bos = [] then none else s.start t (.retry (bos.map fun bo => ⟨bo, false, false, 0⟩))
  | .reserve t bo interruptible noWait => s.start t (.one bo interruptible noWait)
  | .run t => s.run t
  | .signal t => s.signal t
  | .fence t => s.release t ttmEuFenceBufferObjects
  | .backoff t => s.release t ttmEuBackoffReservationLocked
  | .validate t bo noEvict hasTtm =>
    match s.thread t with
    | .holds list =>
      if bo ∈ list.map Entry.bo then some { s with buffer := s.update bo { s.buffer bo with noEvict, hasTtm } } else none
    | _ => none
  | .cpuWriters bo n => some { s with buffer := s.update bo { s.buffer bo with cpuWriters := n } }

/-- Nobody has reserved anything, and each buffer has its own reference and those of the lists that it is on. -/
structure Initial (s : State ι β) : Prop where
  lruLock : s.lruLock = none
  thread : ∀ t, s.thread t = .idle
  reserved : ∀ bo, (s.buffer bo).reserved = false
  listKref : ∀ bo, (s.buffer bo).listKref = 1 + (s.buffer bo).lru.toNat + (s.buffer bo).swap.toNat
  bug : ∀ bo, (s.buffer bo).bug = false

end Vmwgfx.Reservation
