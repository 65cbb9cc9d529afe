import Vmwgfx.Lib.Machine
import Vmwgfx.Lib.Ring
import Vmwgfx.Lib.Uint

/-! The command FIFO of `vmwgfx_fifo.c`: the driver under `fifo_mutex`, one memory
access at a time, beside a device that reads words from STOP up to NEXT_CMD. -/

namespace Vmwgfx.Fifo

open Vmwgfx.Lib

abbrev Word := UInt32

/-- Where the holder of `fifo_mutex` is, with its local variables. -/
inductive Pc
  | idle
  /-- at the top of the loop of `vmw_fifo_reserve` -/
  | reserve (bytes nextCmd : Nat)
  /-- before the loop's `vmw_fifo_is_full` -/
  | full (bytes nextCmd : Nat)
  /-- in `vmw_fifo_wait` -/
  | wait (bytes nextCmd : Nat)
  /-- back in the caller, which fills the buffer -/
  | reserved (nextCmd : Nat)
  /-- in `vmw_fifo_res_copy`, with `i` words copied -/
  | resCopy (nextCmd bytes i : Nat)
  /-- in `vmw_fifo_slow_copy`, with `i` words copied -/
  | slowCopy (nextCmd bytes cur i : Nat)
  /-- in `vmw_fifo_slow_copy`, before it writes `cur` to NEXT_CMD -/
  | slowNext (nextCmd bytes cur i : Nat)
  /-- in `vmw_fifo_commit`, at its `down_write` -/
  | publish (nextCmd bytes : Nat)
  /-- `vmalloc` failed: NULL was returned with the mutex held -/
  | stuck
  /-- a `BUG_ON` -/
  | bug
  deriving DecidableEq

/-- The FIFO registers and memory, `struct vmw_fifo_state`, and what the FIFO has
carried so far.  `unread` counts the words the device had not read when the last
commit began and has not read since. -/
structure State where
  max : Nat
  min : Nat
  nextCmd : Nat
  stop : Nat
  reserved : Nat
  mem : Nat → Word
  reserveable : Bool
  staticBufferSize : Nat
  staticBuffer : Nat → Word
  dynamicBuffer : Option (Nat → Word)
  reservedSize : Nat
  usingBounceBuffer : Bool
  pc : Pc
  committed : List Word
  consumed : List Word
  unread : Nat

/-- What happens next.  `buf` is what `vmalloc` returns. -/
inductive Act
  | reserve (bytes : Nat)
  | loop (buf : Option (Nat → Word))
  | isFull (buf : Option (Nat → Word))
  | wait (timeout : Bool)
  | fill (k : Nat) (w : Word)
  | commit (bytes : Nat)
  | copy
  | publish
  | device

namespace State

variable (s : State)

def ring : Ring := ⟨s.min / 4, s.max / 4⟩

/-- The words the device can read. -/
def used : Nat := s.ring.dist (s.stop / 4) (s.nextCmd / 4)

def buffer : Nat → Word := s.dynamicBuffer.getD s.staticBuffer

def write (a : Nat) (w : Word) : State := { s with mem := Function.update s.mem a w }

def vmwFifoIsFull (bytes : Nat) : Bool :=
  add32 (sub32 s.max s.nextCmd) (sub32 s.stop s.min) ≤ bytes

def reserveStart (bytes : Nat) : State :=
  if bytes ≥ sub32 s.max s.min then { s with reservedSize := 0 }
  else if s.reservedSize ≠ 0 then { s with pc := .bug }
  else if s.dynamicBuffer.isSome then { s with pc := .bug }
  else { s with reservedSize := bytes, pc := .reserve bytes s.nextCmd }

/-- The loop's test that the request fits without wrapping. -/
def fits (bytes nextCmd : Nat) : Bool :=
  if nextCmd ≥ s.stop then
    add32 nextCmd bytes < s.max || (add32 nextCmd bytes = s.max && s.stop > s.min)
  else add32 nextCmd bytes < s.stop

def bounce (bytes nextCmd : Nat) (buf : Option (Nat → Word)) : State :=
  if bytes < s.staticBufferSize then
    { s with usingBounceBuffer := true, pc := .reserved nextCmd }
  else
    { s with
      usingBounceBuffer := true
      dynamicBuffer := buf
      pc := if buf.isSome then .reserved nextCmd else .stuck }

def reserveLoop (bytes nextCmd : Nat) (buf : Option (Nat → Word)) : State :=
  if s.fits bytes nextCmd then
    if s.reserveable || bytes ≤ 4 then
      { s with
        usingBounceBuffer := false
        reserved := if s.reserveable then bytes else s.reserved
        pc := .reserved nextCmd }
    else s.bounce bytes nextCmd buf
  else if nextCmd ≥ s.stop then { s with pc := .full bytes nextCmd }
  else { s with pc := .wait bytes nextCmd }

def reserveFull (bytes nextCmd : Nat) (buf : Option (Nat → Word)) : State :=
  if s.vmwFifoIsFull bytes then { s with pc := .wait bytes nextCmd }
  else s.bounce bytes nextCmd buf

/-- The caller writes word `k` of the buffer it was given. -/
def fill (nextCmd k : Nat) (w : Word) : State :=
  if s.usingBounceBuffer then
    match s.dynamicBuffer with
    | some buf => { s with dynamicBuffer := some (Function.update buf k w) }
    | none => { s with staticBuffer := Function.update s.staticBuffer k w }
  else s.write (nextCmd / 4 + k) w

/-- The first `bytes` of the buffer the caller was given. -/
def words (nextCmd bytes : Nat) : List Word :=
  (List.range (bytes / 4)).map
    (if s.usingBounceBuffer then s.buffer else fun k => s.mem (nextCmd / 4 + k))

def commitStart (ptr bytes : Nat) : State :=
  if bytes % 4 ≠ 0 then { s with pc := .bug }
  else if bytes > s.reservedSize then { s with pc := .bug }
  else
    { s with
      reservedSize := 0
      committed := s.committed ++ s.words ptr bytes
      reserved := if s.usingBounceBuffer && s.reserveable then bytes else s.reserved
      pc :=
        if s.usingBounceBuffer then
          if s.reserveable then .resCopy s.nextCmd bytes 0
          else .slowCopy s.nextCmd bytes s.nextCmd 0
        else .publish s.nextCmd bytes }

/-- Where `vmw_fifo_res_copy` puts word `i`. -/
def resCopyAddr (nextCmd bytes i : Nat) : Nat :=
  let chunkSize := if bytes < sub32 s.max nextCmd then bytes else sub32 s.max nextCmd
  if i < chunkSize / 4 then nextCmd / 4 + i else s.min / 4 + (i - chunkSize / 4)

def resCopy (nextCmd bytes i : Nat) : State :=
  if i < bytes / 4 then
    { s.write (s.resCopyAddr nextCmd bytes i) (s.buffer i) with
      pc := .resCopy nextCmd bytes (i + 1) }
  else { s with dynamicBuffer := none, pc := .publish nextCmd bytes }

def slowCopy (nextCmd bytes cur i : Nat) : State :=
  if i < bytes / 4 then
    { s.write (cur / 4) (s.buffer i) with
      pc := .slowNext nextCmd bytes
        (if add32 cur 4 = s.max then s.min else add32 cur 4) (i + 1) }
  else { s with dynamicBuffer := none, pc := .publish nextCmd bytes }

def slowNext (nextCmd bytes cur i : Nat) : State :=
  { s with nextCmd := cur, pc := .slowCopy nextCmd bytes cur i }

/-- The NEXT_CMD that `vmw_fifo_commit` computes. -/
def advanced (nextCmd bytes : Nat) : Nat :=
  if add32 nextCmd bytes ≥ s.max then
    sub32 (add32 nextCmd bytes) (sub32 s.max s.min)
  else add32 nextCmd bytes

def finish (nextCmd bytes : Nat) : State :=
  let next :=
    if s.usingBounceBuffer || s.reserveable then s.advanced nextCmd bytes else s.nextCmd
  { s with
    nextCmd := next
    reserved := if s.reserveable then 0 else s.reserved
    pc := .idle
    unread := s.ring.dist (s.stop / 4) (next / 4) }

/-- The device reads the word at STOP. -/
def consume : State :=
  { s with
    consumed := s.consumed ++ [s.mem (s.stop / 4)]
    stop := if s.stop + 4 = s.max then s.min else s.stop + 4
    unread := s.unread - 1 }

end State

def step (s : State) : Act → Option State
  | .reserve bytes => if s.pc = .idle then some (s.reserveStart bytes) else none
  | .loop buf =>
    match s.pc with
    | .reserve bytes nextCmd => some (s.reserveLoop bytes nextCmd buf)
    | _ => none
  | .isFull buf =>
    match s.pc with
    | .full bytes nextCmd => some (s.reserveFull bytes nextCmd buf)
    | _ => none
  | .wait timeout =>
    match s.pc with
    | .wait bytes nextCmd =>
      if timeout then some { s with reservedSize := 0, pc := .idle }
      else if s.vmwFifoIsFull bytes then none
      else some { s with pc := .reserve bytes nextCmd }
    | _ => none
  | .fill k w =>
    match s.pc with
    | .reserved nextCmd => if 4 * k + 4 ≤ s.reservedSize then some (s.fill nextCmd k w) else none
    | _ => none
  | .commit bytes =>
    match s.pc with
    | .reserved nextCmd => some (s.commitStart nextCmd bytes)
    | _ => none
  | .copy =>
    match s.pc with
    | .resCopy nextCmd bytes i => some (s.resCopy nextCmd bytes i)
    | .slowCopy nextCmd bytes cur i => some (s.slowCopy nextCmd bytes cur i)
    | .slowNext nextCmd bytes cur i => some (s.slowNext nextCmd bytes cur i)
    | _ => none
  | .publish =>
    match s.pc with
    | .publish nextCmd bytes => some (s.finish nextCmd bytes)
    | _ => none
  | .device => if s.stop ≠ s.nextCmd then some s.consume else none

end Vmwgfx.Fifo
