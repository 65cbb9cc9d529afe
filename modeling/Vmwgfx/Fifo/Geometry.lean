import Vmwgfx.Fifo.Defs

/-! Registers, in bytes, and the ring they span, in words. -/

namespace Vmwgfx.Fifo

open Vmwgfx.Lib

/-- Word-aligned registers, with NEXT_CMD and STOP inside the ring. -/
structure Valid (s : State) : Prop where
  max_lt : s.max < 2 ^ 32
  min_dvd : 4 ∣ s.min
  max_dvd : 4 ∣ s.max
  next_dvd : 4 ∣ s.nextCmd
  stop_dvd : 4 ∣ s.stop
  next_ge : s.min ≤ s.nextCmd
  next_lt : s.nextCmd < s.max
  stop_ge : s.min ≤ s.stop
  stop_lt : s.stop < s.max

namespace Valid

variable {s : State}

theorem mem_of_bounds (h : Valid s) {a : Nat} (hd : 4 ∣ a) (hge : s.min ≤ a)
    (hlt : a < s.max) : s.ring.Mem (a / 4) := by
  have := h.min_dvd
  have := h.max_dvd
  simp only [Ring.Mem, State.ring]
  omega

theorem mem_next (h : Valid s) : s.ring.Mem (s.nextCmd / 4) :=
  h.mem_of_bounds h.next_dvd h.next_ge h.next_lt

theorem mem_stop (h : Valid s) : s.ring.Mem (s.stop / 4) :=
  h.mem_of_bounds h.stop_dvd h.stop_ge h.stop_lt

theorem size_eq (h : Valid s) : 4 * s.ring.size = s.max - s.min := by
  have := h.min_dvd
  have := h.max_dvd
  simp only [Ring.size, State.ring]
  omega

theorem used_lt (h : Valid s) : s.used < s.ring.size := Ring.dist_lt h.mem_stop h.mem_next

theorem advance_used (h : Valid s) : s.ring.advance (s.stop / 4) s.used = s.nextCmd / 4 :=
  Ring.advance_dist h.mem_stop h.mem_next

theorem four_mul_used (h : Valid s) :
    4 * s.used = if s.stop ≤ s.nextCmd then s.nextCmd - s.stop
      else (s.max - s.stop) + (s.nextCmd - s.min) := by
  obtain ⟨_, _, _, _, _, _, _, _, _⟩ := h
  simp only [State.used, Ring.dist, State.ring]
  split_ifs <;> omega

theorem sub_max_min (h : Valid s) : sub32 s.max s.min = s.max - s.min := by
  have := h.next_ge
  have := h.next_lt
  exact sub32_of_le (by omega) h.max_lt

/-- With STOP behind NEXT_CMD the test for a full ring is exact. -/
theorem isFull_eq (h : Valid s) (hle : s.stop ≤ s.nextCmd) (bytes : Nat) :
    s.vmwFifoIsFull bytes = decide (s.max - s.min ≤ 4 * s.used + bytes) := by
  have hused := h.four_mul_used
  obtain ⟨_, _, _, _, _, _, _, _, _⟩ := h
  rw [if_pos hle] at hused
  rw [State.vmwFifoIsFull, sub32_of_le (by omega) (by omega), sub32_of_le (by omega) (by omega),
    add32_of_lt (by omega), hused]
  congr 1
  apply propext
  omega

/-- What the loop's test promises of a request that does not wrap. -/
theorem room_of_fits (h : Valid s) {bytes : Nat} (hlt : s.nextCmd + bytes < 2 ^ 32)
    (hfits : s.fits bytes s.nextCmd) :
    4 * s.used + bytes < s.max - s.min ∧ s.nextCmd + bytes ≤ s.max := by
  have hused := h.four_mul_used
  obtain ⟨_, _, _, _, _, _, _, _, _⟩ := h
  rw [State.fits, add32_of_lt hlt] at hfits
  split_ifs at hfits hused with hle
  · simp only [Bool.or_eq_true, Bool.and_eq_true, decide_eq_true_eq] at hfits
    omega
  · simp only [decide_eq_true_eq] at hfits
    omega

/-- A request that does not fit before the end of the ring reaches it. -/
theorem max_le_of_not_fits {bytes : Nat} (hlt : s.nextCmd + bytes < 2 ^ 32)
    (hle : s.stop ≤ s.nextCmd) (hfits : ¬ s.fits bytes s.nextCmd) :
    s.max ≤ s.nextCmd + bytes := by
  rw [State.fits, add32_of_lt hlt, if_pos hle] at hfits
  simp only [Bool.or_eq_true, Bool.and_eq_true, decide_eq_true_eq] at hfits
  omega

/-- The NEXT_CMD of a commit that does not wrap past 2^32 is the ring's. -/
theorem advanced_eq (h : Valid s) {n bytes : Nat} (hd : 4 ∣ n) (hge : s.min ≤ n)
    (hlt : n < s.max) (hb : 4 ∣ bytes) (hsize : bytes < s.max - s.min)
    (hadd : n + bytes < 2 ^ 32) :
    s.advanced n bytes / 4 = s.ring.advance (n / 4) (bytes / 4) ∧ 4 ∣ s.advanced n bytes ∧
      s.min ≤ s.advanced n bytes ∧ s.advanced n bytes < s.max := by
  have hadv : s.ring.advance (n / 4) (bytes / 4) =
      if n / 4 + bytes / 4 < s.max / 4 then n / 4 + bytes / 4
      else n / 4 + bytes / 4 - (s.max / 4 - s.min / 4) := rfl
  obtain ⟨_, _, _, _, _, _, _, _, _⟩ := h
  rw [hadv, State.advanced, add32_of_lt hadd, sub32_of_le (b := s.min) (by omega) (by omega)]
  by_cases hwrap : n + bytes ≥ s.max
  · rw [if_pos hwrap, if_neg (by omega), sub32_of_le (by omega) (by omega)]
    omega
  · rw [if_neg hwrap, if_pos (by omega)]
    omega

/-- One word on, as `vmw_fifo_slow_copy` counts. -/
theorem next_word (h : Valid s) {n : Nat} (hd : 4 ∣ n) (hge : s.min ≤ n) (hlt : n < s.max) :
    (if add32 n 4 = s.max then s.min else add32 n 4) / 4 = s.ring.succ (n / 4) ∧
      4 ∣ (if add32 n 4 = s.max then s.min else add32 n 4) ∧
      s.min ≤ (if add32 n 4 = s.max then s.min else add32 n 4) ∧
      (if add32 n 4 = s.max then s.min else add32 n 4) < s.max := by
  have hsucc : s.ring.succ (n / 4) = if n / 4 + 1 = s.max / 4 then s.min / 4 else n / 4 + 1 :=
    rfl
  obtain ⟨_, _, _, _, _, _, _, _, _⟩ := h
  rw [hsucc, add32_of_lt (by omega)]
  by_cases hwrap : n + 4 = s.max
  · rw [if_pos hwrap, if_pos (by omega)]
    omega
  · rw [if_neg hwrap, if_neg (by omega)]
    omega

/-- Word `i` of `vmw_fifo_res_copy` goes to the `i`th word of the ring after NEXT_CMD. -/
theorem resCopyAddr_eq (h : Valid s) {n bytes i : Nat} (hd : 4 ∣ n) (hge : s.min ≤ n)
    (hlt : n < s.max) (hb : 4 ∣ bytes) (hi : i < bytes / 4) :
    s.resCopyAddr n bytes i = s.ring.advance (n / 4) i := by
  have hadv : s.ring.advance (n / 4) i = if n / 4 + i < s.max / 4 then n / 4 + i
      else n / 4 + i - (s.max / 4 - s.min / 4) := rfl
  obtain ⟨_, _, _, _, _, _, _, _, _⟩ := h
  rw [hadv, State.resCopyAddr, sub32_of_le (by omega) (by omega)]
  split_ifs <;> omega

section Consume

theorem consume (h : Valid s) : Valid s.consume := by
  obtain ⟨_, _, _, _, _, _, _, _, _⟩ := h
  refine ⟨‹_›, ‹_›, ‹_›, ‹_›, ?_, ‹_›, ‹_›, ?_, ?_⟩
  all_goals
    simp only [State.consume]
    split_ifs <;> omega

theorem consume_stop (h : Valid s) : s.consume.stop / 4 = s.ring.succ (s.stop / 4) := by
  have hsucc : s.ring.succ (s.stop / 4) =
      if s.stop / 4 + 1 = s.max / 4 then s.min / 4 else s.stop / 4 + 1 := rfl
  have hstop : s.consume.stop = if s.stop + 4 = s.max then s.min else s.stop + 4 := rfl
  obtain ⟨_, _, _, _, _, _, _, _, _⟩ := h
  rw [hsucc, hstop]
  by_cases hwrap : s.stop + 4 = s.max
  · rw [if_pos hwrap, if_pos (by omega)]
  · rw [if_neg hwrap, if_neg (by omega)]
    omega

theorem ne_of_stop_ne (h : Valid s) (hne : s.stop ≠ s.nextCmd) :
    s.stop / 4 ≠ s.nextCmd / 4 := by
  have := h.stop_dvd
  have := h.next_dvd
  omega

theorem used_consume (h : Valid s) (hne : s.stop ≠ s.nextCmd) :
    s.consume.used + 1 = s.used := by
  rw [State.used, h.consume_stop]
  exact Ring.dist_succ_left h.mem_stop h.mem_next (h.ne_of_stop_ne hne)

end Consume

end Valid

end Vmwgfx.Fifo
