import Vmwgfx.Fifo.Geometry
import Vmwgfx.Kernel

/-! `vmw_fifo_reserve` on a device that never moves STOP. -/

namespace Vmwgfx.Fifo

open Vmwgfx.Lib

/-- Registers that lie in the ring. -/
structure InRing (s : State) : Prop where
  max_lt : s.max < 2 ^ 32
  next_ge : s.min ≤ s.nextCmd
  next_lt : s.nextCmd < s.max
  stop_ge : s.min ≤ s.stop
  stop_lt : s.stop < s.max

section Wait

variable (s : State) (bytes : Nat)

/-- `vmw_fifo_wait_noirq`; every round sleeps for a tick. -/
def vmwFifoWaitNoirq : Nat → Int
  | 0 => if s.vmwFifoIsFull bytes then -EBUSY else 0
  | timeout + 1 => if s.vmwFifoIsFull bytes then vmwFifoWaitNoirq timeout else 0

/-- `wait_event_timeout` on a condition that does not change. -/
def waitEventTimeout (condition : Bool) (timeout : Nat) : Int :=
  if condition then max timeout 1 else 0

/-- `vmw_fifo_wait`. -/
def vmwFifoWait (irqmask : Bool) (timeout : Nat) : Int :=
  if !s.vmwFifoIsFull bytes then 0
  else if !irqmask then vmwFifoWaitNoirq s bytes timeout
  else
    let ret := waitEventTimeout (!s.vmwFifoIsFull bytes) timeout
    if ret = 0 then -EBUSY else if ret > 0 then 0 else ret

theorem vmwFifoWaitNoirq_ne_zero_iff (timeout : Nat) :
    vmwFifoWaitNoirq s bytes timeout ≠ 0 ↔ s.vmwFifoIsFull bytes = true := by
  induction timeout with
  | zero =>
    unfold vmwFifoWaitNoirq
    cases s.vmwFifoIsFull bytes <;> decide
  | succ timeout ih =>
    unfold vmwFifoWaitNoirq
    cases hfull : s.vmwFifoIsFull bytes with
    | true => simpa [hfull] using ih
    | false => simp

/-- It times out just when the FIFO looks full. -/
theorem vmwFifoWait_ne_zero_iff (irqmask : Bool) (timeout : Nat) :
    vmwFifoWait s bytes irqmask timeout ≠ 0 ↔ s.vmwFifoIsFull bytes = true := by
  have hnoirq := vmwFifoWaitNoirq_ne_zero_iff s bytes timeout
  unfold vmwFifoWait
  cases hfull : s.vmwFifoIsFull bytes with
  | false => simp
  | true =>
    rw [hfull] at hnoirq
    cases irqmask with
    | true => simp [waitEventTimeout, EBUSY]
    | false => simpa using hnoirq

end Wait

section Alone

/-- The outcomes that do not depend on the ring. -/
structure Outcome where
  /-- `SVGA_CAP_IRQMASK`. -/
  irqmask : Bool
  timeout : Nat
  /-- `vmalloc`. -/
  buf : Option (Nat → Word)

/-- What `vmw_fifo_reserve` does next while the device stands still. -/
def alone (o : Outcome) (s : State) : State :=
  match s.pc with
  | .reserve bytes nextCmd => s.reserveLoop bytes nextCmd o.buf
  | .full bytes nextCmd => s.reserveFull bytes nextCmd o.buf
  | .wait bytes nextCmd =>
    if vmwFifoWait s bytes o.irqmask o.timeout ≠ 0 then { s with reservedSize := 0, pc := .idle }
    else { s with pc := .reserve bytes nextCmd }
  | _ => s

/-- It returned a buffer, or NULL. -/
def Pc.returned : Pc → Bool
  | .idle | .reserved _ | .stuck => true
  | _ => false

variable {o : Outcome} {s t : State} {bytes nextCmd : Nat}

theorem alone_of_returned (h : s.pc.returned = true) : alone o s = s := by
  unfold alone
  split <;> simp_all [Pc.returned]

/-- While the function runs, its steps are those of the FIFO. -/
theorem step_alone (hpc : (∃ b n, s.pc = .reserve b n) ∨ (∃ b n, s.pc = .full b n) ∨ ∃ b n, s.pc = .wait b n) :
    ∃ a, a ≠ .device ∧ step s a = some (alone o s) := by
  rcases hpc with ⟨b, n, hpc⟩ | ⟨b, n, hpc⟩ | ⟨b, n, hpc⟩
  · exact ⟨.loop o.buf, by simp, by simp [step, alone, hpc]⟩
  · exact ⟨.isFull o.buf, by simp, by simp [step, alone, hpc]⟩
  · refine ⟨.wait (s.vmwFifoIsFull b), by simp, ?_⟩
    have hwait := vmwFifoWait_ne_zero_iff s b o.irqmask o.timeout
    simp only [step, alone, hpc, hwait]
    cases s.vmwFifoIsFull b with
    | true => rfl
    | false => rfl

end Alone

section Ends

variable (o : Outcome) (s : State)

/-- The bytes between NEXT_CMD and STOP, the way the driver writes. -/
def State.free : Nat :=
  if s.nextCmd < s.stop then s.stop - s.nextCmd else (s.max - s.nextCmd) + (s.stop - s.min)

/-- It is a timed wait for what the ring lacks, and NULL follows. -/
def WaitsRight (bytes : Nat) : Prop :=
  (s.vmwFifoIsFull bytes = true ↔ s.free ≤ bytes) ∧ (alone o s).pc = .idle

/-- From here on the function comes to its end, and waits only for what the ring lacks. -/
structure Ends : Prop where
  returns : ∃ k, ((alone o)^[k] s).pc.returned = true
  waits : ∀ k bytes nextCmd, ((alone o)^[k] s).pc = .wait bytes nextCmd →
    WaitsRight o ((alone o)^[k] s) bytes

/-- The request does not fit before STOP, but the ring looks as if it had room at its end. -/
def Spins (bytes : Nat) : Prop :=
  bytes < s.max - s.min ∧ s.nextCmd < s.stop ∧ s.stop ≤ add32 s.nextCmd bytes ∧
    (s.max - s.min) + (s.stop - s.nextCmd) < 2 ^ 32

variable {o s} {bytes nextCmd : Nat}

theorem Ends.of_returned (h : s.pc.returned = true) : Ends o s := by
  have hsame (k : Nat) : (alone o)^[k] s = s := Function.iterate_fixed (alone_of_returned h) k
  refine ⟨⟨0, h⟩, ?_⟩
  intro k b n hpc
  rw [hsame] at hpc
  rw [hpc] at h
  cases h

theorem Ends.of_step (h : Ends o (alone o s)) (hwait : ∀ b n, s.pc = .wait b n → WaitsRight o s b) :
    Ends o s := by
  obtain ⟨k, hk⟩ := h.returns
  refine ⟨⟨k + 1, hk⟩, ?_⟩
  intro k b n hpc
  cases k with
  | zero => exact hwait b n hpc
  | succ k => exact h.waits k b n hpc

theorem Ends.of_wait (hpc : s.pc = .wait bytes nextCmd) (hfull : s.vmwFifoIsFull bytes = true)
    (hfree : s.free ≤ bytes) : Ends o s := by
  have hwait := (vmwFifoWait_ne_zero_iff s bytes o.irqmask o.timeout).mpr hfull
  have hidle : (alone o s).pc = .idle := by
    unfold alone
    rw [hpc]
    dsimp only
    rw [if_pos hwait]
  refine .of_step (.of_returned (by rw [hidle]; rfl)) ?_
  intro b n hpc'
  rw [hpc] at hpc'
  cases hpc'
  exact ⟨⟨fun _ => hfree, fun _ => hfull⟩, hidle⟩

theorem pc_bounce_returned (buf : Option (Nat → Word)) : (s.bounce bytes nextCmd buf).pc.returned = true := by
  unfold State.bounce
  split
  · rfl
  · cases buf <;> rfl

theorem reserveLoop_returned (hfits : s.fits bytes nextCmd = true) (buf : Option (Nat → Word)) :
    (s.reserveLoop bytes nextCmd buf).pc.returned = true := by
  unfold State.reserveLoop
  rw [if_pos hfits]
  split
  · rfl
  · exact pc_bounce_returned buf

/-- With STOP behind NEXT_CMD the sum of `vmw_fifo_is_full` is the free space. -/
theorem isFull_iff_behind (h : InRing s) (hle : s.stop ≤ s.nextCmd) (bytes : Nat) :
    s.vmwFifoIsFull bytes = true ↔ s.free ≤ bytes := by
  obtain ⟨_, _, _, _, _⟩ := h
  unfold State.vmwFifoIsFull State.free
  rw [sub32_of_le (by omega) (by omega), sub32_of_le (by omega) (by omega), add32_of_lt (by omega),
    if_neg (by omega), decide_eq_true_eq]

/-- With STOP ahead of NEXT_CMD it is the free space and the whole ring, modulo 2^32. -/
theorem isFull_iff_ahead (h : InRing s) (hlt : s.nextCmd < s.stop) (bytes : Nat) :
    s.vmwFifoIsFull bytes = true ↔ ((s.max - s.min) + (s.stop - s.nextCmd)) % 2 ^ 32 ≤ bytes := by
  have hsum : (s.max - s.nextCmd) + (s.stop - s.min) = (s.max - s.min) + (s.stop - s.nextCmd) := by
    obtain ⟨_, _, _, _, _⟩ := h
    omega
  obtain ⟨_, _, _, _, _⟩ := h
  unfold State.vmwFifoIsFull
  rw [sub32_of_le (by omega) (by omega), sub32_of_le (by omega) (by omega), decide_eq_true_eq]
  unfold add32
  rw [hsum]

/-- The top of the loop. -/
theorem Ends.of_reserve (h : InRing s) (hpc : s.pc = .reserve bytes s.nextCmd)
    (hlt : bytes < s.max - s.min) (hspins : ¬ Spins s bytes) : Ends o s := by
  have hnext : alone o s = s.reserveLoop bytes s.nextCmd o.buf := by
    unfold alone
    rw [hpc]
  have hnowait (b n : Nat) (hpc' : s.pc = .wait b n) : WaitsRight o s b := by
    rw [hpc] at hpc'
    cases hpc'
  refine .of_step ?_ hnowait
  rw [hnext]
  by_cases hfits : s.fits bytes s.nextCmd = true
  · exact .of_returned (reserveLoop_returned hfits o.buf)
  · unfold State.reserveLoop
    rw [if_neg hfits]
    split
    · rename_i hle
      -- STOP is behind: `vmw_fifo_is_full` decides between the wait and the bounce buffer
      refine .of_step ?_ (fun b n hpc' => by cases hpc')
      change Ends o (State.reserveFull { s with pc := .full bytes s.nextCmd } bytes s.nextCmd o.buf)
      unfold State.reserveFull
      split
      · rename_i hfull
        exact .of_wait rfl hfull ((isFull_iff_behind h hle bytes).mp hfull)
      · exact .of_returned (pc_bounce_returned o.buf)
    · rename_i hahead
      have hstop : s.nextCmd < s.stop := Nat.lt_of_not_le hahead
      have hroom : s.stop ≤ add32 s.nextCmd bytes := by
        unfold State.fits at hfits
        rw [if_neg hahead, decide_eq_true_eq] at hfits
        exact Nat.le_of_not_lt hfits
      have hfree : s.stop - s.nextCmd ≤ bytes := by
        have hadd : add32 s.nextCmd bytes ≤ s.nextCmd + bytes := Nat.mod_le _ _
        omega
      have hwrap : 2 ^ 32 ≤ (s.max - s.min) + (s.stop - s.nextCmd) := by
        by_contra hsmall
        exact hspins ⟨hlt, hstop, hroom, Nat.lt_of_not_le hsmall⟩
      refine .of_wait rfl ((isFull_iff_ahead h hstop bytes).mpr ?_) ?_
      · obtain ⟨_, _, _, _, _⟩ := h
        omega
      · change (if s.nextCmd < s.stop then s.stop - s.nextCmd else _) ≤ bytes
        rw [if_pos hstop]
        exact hfree

/-- In such a ring the wait returns at once, and the loop looks again. -/
theorem Spins.round (h : InRing s) (hspins : Spins s bytes) (hpc : s.pc = .reserve bytes s.nextCmd) :
    alone o s = { s with pc := .wait bytes s.nextCmd } ∧ alone o (alone o s) = s := by
  obtain ⟨hlt, hstop, hroom, hsmall⟩ := hspins
  have hfits : ¬ s.fits bytes s.nextCmd = true := by
    unfold State.fits
    rw [if_neg (by omega), decide_eq_true_eq]
    exact Nat.not_lt_of_le hroom
  have hfirst : alone o s = { s with pc := .wait bytes s.nextCmd } := by
    unfold alone
    rw [hpc]
    dsimp only
    unfold State.reserveLoop
    rw [if_neg hfits, if_neg (by omega)]
  have hfull : ¬ s.vmwFifoIsFull bytes = true := by
    rw [isFull_iff_ahead h hstop, Nat.mod_eq_of_lt hsmall]
    omega
  have hwait : ¬ vmwFifoWait { s with pc := .wait bytes s.nextCmd } bytes o.irqmask o.timeout ≠ 0 := by
    rw [vmwFifoWait_ne_zero_iff]
    exact hfull
  refine ⟨hfirst, ?_⟩
  rw [hfirst]
  unfold alone
  dsimp only
  rw [if_neg hwait, ← hpc]

theorem Spins.not_ends (h : InRing s) (hspins : Spins s bytes) (hpc : s.pc = .reserve bytes s.nextCmd) :
    ¬ Ends o s := by
  intro hends
  obtain ⟨k, hk⟩ := hends.returns
  obtain ⟨hfirst, hagain⟩ := hspins.round (o := o) h hpc
  have hround : ((alone o)^[k] s) = s ∨ (alone o)^[k] s = alone o s := by
    clear hk
    induction k with
    | zero => exact .inl rfl
    | succ k ih =>
      rw [Function.iterate_succ_apply']
      rcases ih with hk | hk
      · exact .inr (by rw [hk])
      · exact .inl (by rw [hk, hagain])
  rcases hround with hs | hs
  · rw [hs, hpc] at hk
    cases hk
  · rw [hs, hfirst] at hk
    cases hk

/-- A reservation on a device that stands still comes to its end, waiting only for what the ring
lacks and then giving up, unless it spins. -/
theorem reserve_ends_iff (h : InRing s) (hreserved : s.reservedSize = 0) (hdynamic : s.dynamicBuffer = none)
    (hpc : s.pc = .idle) (bytes : Nat) (o : Outcome) :
    Ends o (s.reserveStart bytes) ↔ ¬ Spins s bytes := by
  have hsize : sub32 s.max s.min = s.max - s.min := by
    obtain ⟨_, _, _, _, _⟩ := h
    exact sub32_of_le (by omega) (by omega)
  unfold State.reserveStart
  rw [hsize]
  by_cases hlarge : bytes ≥ s.max - s.min
  · rw [if_pos hlarge]
    exact ⟨fun _ hspins => absurd hspins.1 (Nat.not_lt_of_le hlarge), fun _ => .of_returned (by simp [hpc, Pc.returned])⟩
  · rw [if_neg hlarge, if_neg (not_not_intro hreserved), if_neg (by simp [hdynamic])]
    have hring : InRing { s with reservedSize := bytes, pc := .reserve bytes s.nextCmd } := { h with }
    exact ⟨fun hends hspins => Spins.not_ends hring hspins rfl hends,
      fun hspins => .of_reserve hring rfl (Nat.lt_of_not_le hlarge) hspins⟩

end Ends

section Example

/-- The device has read all but the last word of a full ring. -/
def wrappedRing : State :=
  { max := 8192, min := 4096, nextCmd := 4096, stop := 8188, reserved := 0, mem := fun _ => 0
    reserveable := false, staticBufferSize := 1024 * 1024, staticBuffer := fun _ => 0
    dynamicBuffer := none, reservedSize := 0, usingBounceBuffer := false, pc := .idle
    committed := [], consumed := [], unread := 1 }

theorem wrappedRing_inRing : InRing wrappedRing :=
  ⟨by decide, by decide, by decide, by decide, by decide⟩

/-- A small command finds room, whatever else is asked for. -/
theorem reserve_ends_small : Ends ⟨true, 3000, none⟩ (wrappedRing.reserveStart 8) :=
  (reserve_ends_iff wrappedRing_inRing rfl rfl rfl 8 _).mpr fun hspins => absurd hspins.2.2.1 (by decide)

/-- A command of all the free bytes goes round the loop for ever. -/
theorem reserve_spins : InRing wrappedRing ∧ wrappedRing.pc = .idle ∧
    ¬ Ends ⟨true, 3000, none⟩ (wrappedRing.reserveStart 4092) := by
  refine ⟨wrappedRing_inRing, rfl, ?_⟩
  have hspins : Spins (wrappedRing.reserveStart 4092) 4092 :=
    ⟨by decide, by decide, by decide, by decide⟩
  exact hspins.not_ends { wrappedRing_inRing with } rfl

end Example

end Vmwgfx.Fifo
