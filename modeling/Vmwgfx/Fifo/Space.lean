import Vmwgfx.Fifo.Flow

/-! Where the driver writes in the FIFO, and where NEXT_CMD ends up. -/

namespace Vmwgfx.Fifo

open Vmwgfx.Lib

/-- The word of FIFO memory a step writes. -/
def writeAddr (s : State) : Act → Option Nat
  | .fill k _ =>
    match s.pc with
    | .reserved nextCmd => if s.usingBounceBuffer then none else some (nextCmd / 4 + k)
    | _ => none
  | .copy =>
    match s.pc with
    | .resCopy nextCmd bytes i =>
      if i < bytes / 4 then some (s.resCopyAddr nextCmd bytes i) else none
    | .slowCopy _ bytes cur i => if i < bytes / 4 then some (cur / 4) else none
    | _ => none
  | _ => none

/-- A step writes in the ring, and over no word the device has yet to read. -/
def Safe (s : State) (a : Act) : Prop :=
  ∀ addr, writeAddr s a = some addr →
    s.ring.Mem addr ∧ ∀ i < s.unread, s.ring.advance (s.stop / 4) i ≠ addr

/-- What can happen while one thread is in `vmw_fifo_reserve`. -/
def reserving (bytes : Nat) : Act → Prop
  | .reserve b => b = bytes
  | .loop _ | .isFull _ | .wait _ | .device => True
  | _ => False

/-- What can happen from there to the end of its `vmw_fifo_commit`. -/
def committing (bytes : Nat) : Act → Prop
  | .commit b => b = bytes
  | .fill _ _ | .copy | .publish | .device => True
  | _ => False

/-- Filling and committing `bytes` of the buffer returned in `s` is safe however the
device gets on, and leaves NEXT_CMD in the ring and off the STOP of the reservation. -/
def Contained (s : State) (bytes : Nat) : Prop :=
  ∀ as s', Run step (fun _ a => committing bytes a) s as s' → s'.pc = .idle →
    Run step Safe s as s' ∧ s'.min ≤ s'.nextCmd ∧ s'.nextCmd < s'.max ∧ s'.nextCmd ≠ s.stop

/-- The requests for which `vmw_fifo_reserve`, about to return a buffer in `s`, has
made sure there is room. -/
def RoomFor (s : State) (bytes : Nat) : Prop :=
  (s.nextCmd + bytes < 2 ^ 32 ∧
    ¬ (s.pc = .reserve bytes s.nextCmd ∧ s.reserveable = false ∧ bytes = 4 ∧
      s.nextCmd = s.stop)) ∨
  (2 ^ 32 ≤ s.nextCmd + bytes ∧ s.reserveable = false ∧
    4 * s.used + bytes ≤ s.max - s.min ∧ s.min ≤ s.nextCmd + bytes - 2 ^ 32 ∧
    s.nextCmd + bytes - 2 ^ 32 ≠ s.stop)

/-- What a step does to FIFO memory. -/
theorem mem_of_step {s s' : State} {a : Act} (h : step s a = some s') :
    s'.mem = s.mem ∨
      ∃ addr w, writeAddr s a = some addr ∧ s'.mem = Function.update s.mem addr w := by
  cases a with
  | fill k w =>
    simp only [step] at h
    split at h
    case h_2 => cases h
    case h_1 n hpc =>
      split_ifs at h
      cases h
      by_cases hbounce : s.usingBounceBuffer = true
      · rw [State.fill, if_pos hbounce]
        split
        all_goals exact .inl rfl
      · rw [State.fill, if_neg hbounce]
        exact .inr ⟨n / 4 + k, w, by simp [writeAddr, hpc, hbounce], rfl⟩
  | copy =>
    simp only [step] at h
    split at h
    case h_4 => cases h
    case h_1 n bytes i hpc =>
      cases h
      by_cases hi : i < bytes / 4
      · rw [State.resCopy, if_pos hi]
        exact .inr ⟨s.resCopyAddr n bytes i, s.buffer i, by simp [writeAddr, hpc, hi], rfl⟩
      · rw [State.resCopy, if_neg hi]
        exact .inl rfl
    case h_2 n bytes cur i hpc =>
      cases h
      by_cases hi : i < bytes / 4
      · rw [State.slowCopy, if_pos hi]
        exact .inr ⟨cur / 4, s.buffer i, by simp [writeAddr, hpc, hi], rfl⟩
      · rw [State.slowCopy, if_neg hi]
        exact .inl rfl
    case h_3 n bytes cur i hpc =>
      cases h
      exact .inl rfl
  | reserve bytes =>
    simp only [step, State.reserveStart] at h
    split_ifs at h <;> cases h <;> exact .inl rfl
  | loop buf =>
    simp only [step] at h
    split at h
    case h_2 => cases h
    case h_1 =>
      cases h
      unfold State.reserveLoop State.bounce
      split_ifs <;> exact .inl rfl
  | isFull buf =>
    simp only [step] at h
    split at h
    case h_2 => cases h
    case h_1 =>
      cases h
      unfold State.reserveFull State.bounce
      split_ifs <;> exact .inl rfl
  | wait timeout =>
    simp only [step] at h
    split at h
    case h_2 => cases h
    case h_1 => split_ifs at h <;> cases h <;> exact .inl rfl
  | commit bytes =>
    simp only [step, State.commitStart] at h
    split at h
    case h_2 => cases h
    case h_1 => split_ifs at h <;> cases h <;> exact .inl rfl
  | publish =>
    simp only [step] at h
    split at h
    case h_2 => cases h
    case h_1 =>
      cases h
      exact .inl rfl
  | device =>
    simp only [step] at h
    split_ifs at h
    cases h
    exact .inl rfl

section Reserve

variable {s s' : State} {bytes : Nat}

/-- What a running `vmw_fifo_reserve` knows. -/
def ReserveOk (s : State) (bytes : Nat) : Pc → Prop
  | .idle => s.reservedSize = 0 ∧ s.dynamicBuffer = none
  | .reserve b n | .wait b n =>
    b = bytes ∧ n = s.nextCmd ∧ s.reservedSize = bytes ∧ s.dynamicBuffer = none
  | .full b n =>
    b = bytes ∧ n = s.nextCmd ∧ s.reservedSize = bytes ∧ s.dynamicBuffer = none ∧
      s.stop ≤ s.nextCmd ∧ s.max ≤ n + b ∧ n + b < 2 ^ 32
  | .reserved _ | .stuck => True
  | _ => False

structure Reserve (bytes : Nat) (s : State) : Prop where
  valid : Valid s
  unread : s.unread = s.used
  lt : bytes < s.max - s.min
  pcOk : ReserveOk s bytes s.pc

theorem Reserve.pcOk_at (h : Reserve bytes s) {pc : Pc} (hpc : s.pc = pc) :
    ReserveOk s bytes pc :=
  hpc ▸ h.pcOk

theorem Valid.consume_le (h : Valid s) (hle : s.stop ≤ s.nextCmd) (hne : s.stop ≠ s.nextCmd) :
    s.consume.stop ≤ s.consume.nextCmd := by
  obtain ⟨_, _, _, _, _, _, _, _, _⟩ := h
  simp only [State.consume]
  split_ifs <;> omega

/-- A sum that wraps lands before the end of the ring, where the loop takes it to fit. -/
theorem Valid.fits_of_wrap (h : Valid s) (hlt : bytes < s.max - s.min)
    (hwrap : 2 ^ 32 ≤ s.nextCmd + bytes) (hle : s.stop ≤ s.nextCmd) :
    s.fits bytes s.nextCmd := by
  obtain ⟨_, _, _, _, _, _, _, _, _⟩ := h
  rw [State.fits, if_pos hle, add32_of_le hwrap (by omega) (by omega)]
  simp only [Bool.or_eq_true, decide_eq_true_eq]
  exact .inl (by omega)

theorem Reserve.step (h : Reserve bytes s) {a : Act} (ha : reserving bytes a)
    (hstep : step s a = some s') : Reserve bytes s' := by
  cases a with
  | reserve b =>
    cases ha
    simp only [Fifo.step] at hstep
    split_ifs at hstep with hpc
    cases hstep
    obtain ⟨hsize, hdyn⟩ : s.reservedSize = 0 ∧ s.dynamicBuffer = none := h.pcOk_at hpc
    have hlt := h.lt
    rw [State.reserveStart, h.valid.sub_max_min, if_neg (by omega), if_neg (not_not_intro hsize),
      if_neg (by simp [hdyn])]
    exact ⟨{ h.valid with }, h.unread, h.lt, rfl, rfl, rfl, hdyn⟩
  | loop buf =>
    simp only [Fifo.step] at hstep
    split at hstep
    case h_2 => cases hstep
    case h_1 b n hpc =>
      cases hstep
      obtain ⟨rfl, rfl, hsize, hdyn⟩ := h.pcOk_at hpc
      by_cases hfits : s.fits b s.nextCmd
      · rw [State.reserveLoop, if_pos hfits]
        by_cases hplace : s.reserveable || b ≤ 4
        · rw [if_pos hplace]
          exact ⟨{ h.valid with }, h.unread, h.lt, trivial⟩
        · rw [if_neg hplace, State.bounce]
          split_ifs
          all_goals exact ⟨{ h.valid with }, h.unread, h.lt, trivial⟩
      · rw [State.reserveLoop, if_neg hfits]
        by_cases hle : s.nextCmd ≥ s.stop
        · have hadd : s.nextCmd + b < 2 ^ 32 := by
            apply Nat.lt_of_not_le
            intro hwrap
            exact hfits (h.valid.fits_of_wrap h.lt hwrap hle)
          rw [if_pos hle]
          exact ⟨{ h.valid with }, h.unread, h.lt, rfl, rfl, hsize, hdyn, hle,
            Valid.max_le_of_not_fits hadd hle hfits, hadd⟩
        · rw [if_neg hle]
          exact ⟨{ h.valid with }, h.unread, h.lt, rfl, rfl, hsize, hdyn⟩
  | isFull buf =>
    simp only [Fifo.step] at hstep
    split at hstep
    case h_2 => cases hstep
    case h_1 b n hpc =>
      cases hstep
      obtain ⟨rfl, rfl, hsize, hdyn, -⟩ := h.pcOk_at hpc
      rw [State.reserveFull]
      by_cases hfull : s.vmwFifoIsFull b
      · rw [if_pos hfull]
        exact ⟨{ h.valid with }, h.unread, h.lt, rfl, rfl, hsize, hdyn⟩
      · rw [if_neg hfull, State.bounce]
        split_ifs
        all_goals exact ⟨{ h.valid with }, h.unread, h.lt, trivial⟩
  | wait timeout =>
    simp only [Fifo.step] at hstep
    split at hstep
    case h_2 => cases hstep
    case h_1 b n hpc =>
      obtain ⟨rfl, rfl, hsize, hdyn⟩ := h.pcOk_at hpc
      split_ifs at hstep
      · cases hstep
        exact ⟨{ h.valid with }, h.unread, h.lt, rfl, hdyn⟩
      · cases hstep
        exact ⟨{ h.valid with }, h.unread, h.lt, rfl, rfl, hsize, hdyn⟩
  | device =>
    simp only [Fifo.step] at hstep
    split_ifs at hstep with hne
    cases hstep
    have hused := h.valid.used_consume hne
    refine ⟨h.valid.consume, ?_, h.lt, ?_⟩
    · have hunread : s.consume.unread = s.unread - 1 := rfl
      rw [hunread, h.unread, ← hused, Nat.add_sub_cancel]
    · have hok := h.pcOk
      change ReserveOk s.consume bytes s.pc
      cases hpc : s.pc <;> rw [hpc] at hok <;> try exact hok
      obtain ⟨hb, hn, hsize, hdyn, hle, hend⟩ := hok
      exact ⟨hb, hn, hsize, hdyn, h.valid.consume_le hle hne, hend⟩
  | fill k w => cases ha
  | commit b => cases ha
  | copy => cases ha
  | publish => cases ha

/-- The two ways a buffer is returned: out of the loop's own test, in place or for a
request that fits in place, and after `vmw_fifo_is_full`, for one that wraps. -/
structure Returned (s s' : State) (bytes : Nat) : Prop where
  pc : s'.pc = .reserved s.nextCmd
  reservedSize : s'.reservedSize = bytes
  max : s'.max = s.max
  min : s'.min = s.min
  nextCmd : s'.nextCmd = s.nextCmd
  stop : s'.stop = s.stop
  reserveable : s'.reserveable = s.reserveable
  unread : s'.unread = s.unread
  place :
    (s.pc = .reserve bytes s.nextCmd ∧ s.fits bytes s.nextCmd ∧
      s'.usingBounceBuffer = !(s.reserveable || bytes ≤ 4)) ∨
    (s.pc = .full bytes s.nextCmd ∧ ¬ s.vmwFifoIsFull bytes ∧ s.stop ≤ s.nextCmd ∧
      s.nextCmd + bytes < 2 ^ 32 ∧ s'.usingBounceBuffer = true)

theorem bounce_returned {n m : Nat} {buf : Option (Nat → Word)}
    (hpc : (s.bounce bytes n buf).pc = .reserved m) :
    (s.bounce bytes n buf).pc = .reserved n ∧
      (s.bounce bytes n buf).reservedSize = s.reservedSize ∧
      (s.bounce bytes n buf).max = s.max ∧ (s.bounce bytes n buf).min = s.min ∧
      (s.bounce bytes n buf).nextCmd = s.nextCmd ∧ (s.bounce bytes n buf).stop = s.stop ∧
      (s.bounce bytes n buf).reserveable = s.reserveable ∧
      (s.bounce bytes n buf).unread = s.unread ∧
      (s.bounce bytes n buf).usingBounceBuffer = true := by
  unfold State.bounce at hpc ⊢
  split_ifs at hpc ⊢ with hstatic hbuf
  · exact ⟨rfl, rfl, rfl, rfl, rfl, rfl, rfl, rfl, rfl⟩
  · exact ⟨rfl, rfl, rfl, rfl, rfl, rfl, rfl, rfl, rfl⟩

theorem Reserve.returned (h : Reserve bytes s) {a : Act} (ha : reserving bytes a)
    (hne : ∀ n, s.pc ≠ .reserved n) (hstep : Fifo.step s a = some s') {m : Nat}
    (hpc' : s'.pc = .reserved m) : Returned s s' bytes := by
  cases a with
  | reserve b =>
    simp only [Fifo.step] at hstep
    split_ifs at hstep with hpc
    cases hstep
    unfold State.reserveStart at hpc'
    split_ifs at hpc'
    exact absurd hpc' (hne m)
  | loop buf =>
    simp only [Fifo.step] at hstep
    split at hstep
    case h_2 => cases hstep
    case h_1 b n hpc =>
      cases hstep
      obtain ⟨rfl, rfl, hsize, hdyn⟩ := h.pcOk_at hpc
      by_cases hfits : s.fits b s.nextCmd
      · rw [State.reserveLoop, if_pos hfits] at hpc' ⊢
        by_cases hplace : s.reserveable || b ≤ 4
        · rw [if_pos hplace]
          exact ⟨rfl, hsize, rfl, rfl, rfl, rfl, rfl, rfl, .inl ⟨hpc, hfits, by simp [hplace]⟩⟩
        · rw [if_neg hplace] at hpc' ⊢
          obtain ⟨hp, hs, hmax, hmin, hn, hstop, hres, hun, hbounce⟩ := bounce_returned hpc'
          exact ⟨hp, hs.trans hsize, hmax, hmin, hn, hstop, hres, hun,
            .inl ⟨hpc, hfits, by rw [hbounce]; simp [hplace]⟩⟩
      · rw [State.reserveLoop, if_neg hfits] at hpc'
        split_ifs at hpc'
  | isFull buf =>
    simp only [Fifo.step] at hstep
    split at hstep
    case h_2 => cases hstep
    case h_1 b n hpc =>
      cases hstep
      obtain ⟨rfl, rfl, hsize, hdyn, hle, -, hadd⟩ := h.pcOk_at hpc
      rw [State.reserveFull] at hpc' ⊢
      by_cases hfull : s.vmwFifoIsFull b
      · rw [if_pos hfull] at hpc'
        cases hpc'
      · rw [if_neg hfull] at hpc' ⊢
        obtain ⟨hp, hs, hmax, hmin, hn, hstop, hres, hun, hbounce⟩ := bounce_returned hpc'
        exact ⟨hp, hs.trans hsize, hmax, hmin, hn, hstop, hres, hun,
          .inr ⟨hpc, hfull, hle, hadd, hbounce⟩⟩
  | wait timeout =>
    simp only [Fifo.step] at hstep
    split at hstep
    case h_2 => cases hstep
    case h_1 b n hpc =>
      split_ifs at hstep
      · cases hstep
        cases hpc'
      · cases hstep
        cases hpc'
  | device =>
    simp only [Fifo.step] at hstep
    split_ifs at hstep
    cases hstep
    exact absurd hpc' (hne m)
  | fill k w => cases ha
  | commit b => cases ha
  | copy => cases ha
  | publish => cases ha

end Reserve

section Commit

variable {s s' : State} {n bytes v : Nat}

/-- The words the device has yet to read end at `n`, and `bytes` more fit behind them. -/
def Clear (s : State) (n bytes : Nat) : Prop :=
  s.unread = 0 ∨
    (s.ring.advance (s.stop / 4) s.unread = n / 4 ∧ 4 * s.unread + bytes ≤ s.max - s.min)

/-- What a thread knows on its way to the end of `vmw_fifo_commit`. -/
def CommitOk (s : State) (n bytes : Nat) : Pc → Prop
  | .reserved m =>
    m = n ∧ s.nextCmd = n ∧ s.reservedSize = bytes ∧
      (s.usingBounceBuffer = false → n + bytes ≤ s.max) ∧ Clear s n bytes
  | .resCopy m b i =>
    m = n ∧ b = bytes ∧ i ≤ bytes / 4 ∧ s.usingBounceBuffer = true ∧ Clear s n bytes
  | .slowCopy m b cur i =>
    m = n ∧ b = bytes ∧ i ≤ bytes / 4 ∧ cur / 4 = s.ring.advance (n / 4) i ∧ 4 ∣ cur ∧
      s.min ≤ cur ∧ cur < s.max ∧ s.usingBounceBuffer = true ∧ Clear s n bytes
  | .slowNext m b cur i =>
    m = n ∧ b = bytes ∧ i ≤ bytes / 4 ∧ cur / 4 = s.ring.advance (n / 4) i ∧ 4 ∣ cur ∧
      s.min ≤ cur ∧ cur < s.max ∧ s.usingBounceBuffer = true ∧ Clear s n bytes
  | .publish m b =>
    m = n ∧ b = bytes ∧
      (s.usingBounceBuffer = false → s.reserveable = false → s.nextCmd = n)
  | .idle => s.nextCmd = if s.usingBounceBuffer || s.reserveable then s.advanced n bytes else n
  | _ => False

/-- A commit of `bytes` reserved at `n`, which is to leave NEXT_CMD at `v`. -/
structure Commit (n bytes v : Nat) (s : State) : Prop where
  valid : Valid s
  bytes_dvd : 4 ∣ bytes
  next_dvd : 4 ∣ n
  next_ge : s.min ≤ n
  next_lt : n < s.max
  lt : bytes < s.max - s.min
  advanced_dvd : 4 ∣ s.advanced n bytes
  advanced_ge : s.min ≤ s.advanced n bytes
  advanced_lt : s.advanced n bytes < s.max
  final : (if s.usingBounceBuffer || s.reserveable then s.advanced n bytes else n) = v
  pcOk : CommitOk s n bytes s.pc

namespace Commit

theorem pcOk_at (h : Commit n bytes v s) {pc : Pc} (hpc : s.pc = pc) : CommitOk s n bytes pc :=
  hpc ▸ h.pcOk

theorem mem_n (h : Commit n bytes v s) : s.ring.Mem (n / 4) :=
  h.valid.mem_of_bounds h.next_dvd h.next_ge h.next_lt

/-- Word `k` of the commit is no word the device has yet to read. -/
theorem clear_ne (h : Commit n bytes v s) (hclear : Clear s n bytes) {k : Nat}
    (hk : k < bytes / 4) :
    s.ring.Mem (s.ring.advance (n / 4) k) ∧
      ∀ i < s.unread, s.ring.advance (s.stop / 4) i ≠ s.ring.advance (n / 4) k := by
  have hsize := h.valid.size_eq
  have hlt := h.lt
  refine ⟨Ring.mem_advance h.mem_n (by omega), ?_⟩
  intro i hi
  cases hclear with
  | inl hzero => omega
  | inr hc =>
    rw [← hc.1, Ring.advance_advance h.valid.mem_stop (by omega)]
    exact Ring.advance_ne h.valid.mem_stop (by omega) (by omega)

/-- The device reading on leaves what is clear clear. -/
theorem clear_consume (h : Commit n bytes v s) (hclear : Clear s n bytes) :
    Clear s.consume n bytes := by
  have hsize := h.valid.size_eq
  have hstop := h.valid.consume_stop
  have hunread : s.consume.unread = s.unread - 1 := rfl
  cases hclear with
  | inl hzero => exact .inl (by omega)
  | inr hc =>
    by_cases hone : s.unread - 1 = 0
    · exact .inl hone
    · refine .inr ⟨?_, ?_⟩
      · change s.ring.advance (s.consume.stop / 4) (s.unread - 1) = n / 4
        rw [hstop, ← Ring.advance_succ_left h.valid.mem_stop (by omega), ← hc.1]
        congr 1
        omega
      · change 4 * (s.unread - 1) + bytes ≤ s.max - s.min
        omega

/-- A step that only moves the driver on. -/
theorem of_frame (h : Commit n bytes v s) (pc : Pc) (hmin : s'.min = s.min) (hmax : s'.max = s.max)
    (hbounce : s'.usingBounceBuffer = s.usingBounceBuffer)
    (hcap : s'.reserveable = s.reserveable) (hvalid : Valid s') (hpc : s'.pc = pc) (hok : CommitOk s' n bytes pc) :
    Commit n bytes v s' := by
  have hadv : s'.advanced n bytes = s.advanced n bytes := by
    simp only [State.advanced, hmin, hmax]
  exact
    { valid := hvalid
      bytes_dvd := h.bytes_dvd
      next_dvd := h.next_dvd
      next_ge := hmin ▸ h.next_ge
      next_lt := hmax ▸ h.next_lt
      lt := by
        rw [hmin, hmax]
        exact h.lt
      advanced_dvd := hadv ▸ h.advanced_dvd
      advanced_ge := by
        rw [hadv, hmin]
        exact h.advanced_ge
      advanced_lt := by
        rw [hadv, hmax]
        exact h.advanced_lt
      final := by
        rw [hadv, hbounce, hcap]
        exact h.final
      pcOk := hpc ▸ hok }

theorem safe_of_writeAddr_eq_none {a : Act} (h : writeAddr s a = none) : Safe s a := by
  intro addr haddr
  rw [h] at haddr
  cases haddr

theorem fill (h : Commit n bytes v s) {m k : Nat} (hpc : s.pc = .reserved m)
    (hk : 4 * k + 4 ≤ s.reservedSize) (w : Word) :
    Safe s (.fill k w) ∧ Commit n bytes v (s.fill m k w) := by
  obtain ⟨rfl, hn, hsize, hplace, hclear⟩ := h.pcOk_at hpc
  have hdvd := h.bytes_dvd
  by_cases hbounce : s.usingBounceBuffer = true
  · refine ⟨safe_of_writeAddr_eq_none (by simp [writeAddr, hpc, hbounce]), ?_⟩
    have hnp : s.usingBounceBuffer ≠ false := by simp [hbounce]
    rw [State.fill, if_pos hbounce]
    split
    · exact h.of_frame _ rfl rfl rfl rfl { h.valid with } hpc
        ⟨rfl, hn, hsize, fun hp => absurd hp hnp, hclear⟩
    · exact h.of_frame _ rfl rfl rfl rfl { h.valid with } hpc
        ⟨rfl, hn, hsize, fun hp => absurd hp hnp, hclear⟩
  · have hend := hplace (by simpa using hbounce)
    refine ⟨?_, ?_⟩
    · intro addr haddr
      have heq : m / 4 + k = s.ring.advance (m / 4) k := by
        have hlt : m / 4 + k < s.max / 4 := by
          have := h.valid.max_dvd
          have := h.next_dvd
          omega
        rw [Ring.advance]
        exact (if_pos hlt).symm
      simp only [writeAddr, hpc, if_neg hbounce, Option.some.injEq] at haddr
      rw [← haddr, heq]
      exact h.clear_ne hclear (by omega)
    · rw [State.fill, if_neg hbounce]
      exact h.of_frame _ rfl rfl rfl rfl { h.valid with } hpc ⟨rfl, hn, hsize, hplace, hclear⟩

theorem commitStart (h : Commit n bytes v s) {m : Nat} (hpc : s.pc = .reserved m) :
    Commit n bytes v (s.commitStart m bytes) := by
  obtain ⟨rfl, rfl, hsize, hplace, hclear⟩ := h.pcOk_at hpc
  have hdvd := h.bytes_dvd
  rw [State.commitStart, if_neg (by omega), if_neg (by omega)]
  by_cases hbounce : s.usingBounceBuffer = true
  · by_cases hcap : s.reserveable = true
    · exact h.of_frame (.resCopy s.nextCmd bytes 0) rfl rfl rfl rfl { h.valid with }
        (by simp [hbounce, hcap]) ⟨rfl, rfl, Nat.zero_le _, hbounce, hclear⟩
    · exact h.of_frame (.slowCopy s.nextCmd bytes s.nextCmd 0) rfl rfl rfl rfl { h.valid with }
        (by simp [hbounce, hcap])
        ⟨rfl, rfl, Nat.zero_le _, (Ring.advance_zero h.mem_n).symm, h.next_dvd, h.next_ge,
          h.next_lt, hbounce, hclear⟩
  · exact h.of_frame (.publish s.nextCmd bytes) rfl rfl rfl rfl { h.valid with }
      (by simp [hbounce]) ⟨rfl, rfl, fun _ _ => rfl⟩

theorem copy (h : Commit n bytes v s) (hstep : step s .copy = some s') :
    Safe s .copy ∧ Commit n bytes v s' := by
  have hsize := h.valid.size_eq
  have hlt := h.lt
  simp only [step] at hstep
  split at hstep
  case h_4 => cases hstep
  case h_1 m b i hpc =>
    cases hstep
    obtain ⟨rfl, rfl, hi, hbounce, hclear⟩ := h.pcOk_at hpc
    by_cases hword : i < b / 4
    · have haddr := h.valid.resCopyAddr_eq h.next_dvd h.next_ge h.next_lt h.bytes_dvd hword
      refine ⟨?_, ?_⟩
      · intro addr ha
        simp only [writeAddr, hpc, if_pos hword, Option.some.injEq] at ha
        rw [← ha, haddr]
        exact h.clear_ne hclear hword
      · rw [State.resCopy, if_pos hword]
        exact h.of_frame _ rfl rfl rfl rfl { h.valid with } rfl ⟨rfl, rfl, hword, hbounce, hclear⟩
    · refine ⟨safe_of_writeAddr_eq_none (by simp [writeAddr, hpc, hword]), ?_⟩
      rw [State.resCopy, if_neg hword]
      exact h.of_frame _ rfl rfl rfl rfl { h.valid with } rfl
        ⟨rfl, rfl, fun hb => absurd hbounce (Bool.eq_false_iff.mp hb)⟩
  case h_2 m b cur i hpc =>
    cases hstep
    obtain ⟨rfl, rfl, hi, hcur, hdvd, hge, hlt', hbounce, hclear⟩ := h.pcOk_at hpc
    by_cases hword : i < b / 4
    · refine ⟨?_, ?_⟩
      · intro addr ha
        simp only [writeAddr, hpc, if_pos hword, Option.some.injEq] at ha
        rw [← ha, hcur]
        exact h.clear_ne hclear hword
      · obtain ⟨hsucc, hdvd', hge', hlt''⟩ := h.valid.next_word hdvd hge hlt'
        rw [State.slowCopy, if_pos hword]
        refine h.of_frame _ rfl rfl rfl rfl { h.valid with } rfl
          ⟨rfl, rfl, hword, ?_, hdvd', hge', hlt'', hbounce, hclear⟩
        rw [hsucc, hcur]
        exact (Ring.advance_succ h.mem_n (by omega)).symm
    · refine ⟨safe_of_writeAddr_eq_none (by simp [writeAddr, hpc, hword]), ?_⟩
      rw [State.slowCopy, if_neg hword]
      exact h.of_frame _ rfl rfl rfl rfl { h.valid with } rfl
        ⟨rfl, rfl, fun hb => absurd hbounce (Bool.eq_false_iff.mp hb)⟩
  case h_3 m b cur i hpc =>
    cases hstep
    obtain ⟨rfl, rfl, hi, hcur, hdvd, hge, hlt', hbounce, hclear⟩ := h.pcOk_at hpc
    refine ⟨safe_of_writeAddr_eq_none (by simp [writeAddr, hpc]), ?_⟩
    exact h.of_frame _ rfl rfl rfl rfl
      { h.valid with next_dvd := hdvd, next_ge := hge, next_lt := hlt' } rfl
      ⟨rfl, rfl, hi, hcur, hdvd, hge, hlt', hbounce, hclear⟩

theorem finish (h : Commit n bytes v s) {m b : Nat} (hpc : s.pc = .publish m b) :
    Commit n bytes v (s.finish m b) := by
  obtain ⟨rfl, rfl, hnone⟩ := h.pcOk_at hpc
  have hnext : (s.finish m b).nextCmd =
      if s.usingBounceBuffer || s.reserveable then s.advanced m b else m := by
    cases hbounce : s.usingBounceBuffer <;> cases hcap : s.reserveable
    · simp [State.finish, hbounce, hcap, hnone hbounce hcap]
    all_goals simp [State.finish, hbounce, hcap]
  refine h.of_frame _ rfl rfl rfl rfl ?_ rfl hnext
  by_cases hmoves : s.usingBounceBuffer || s.reserveable
  · rw [if_pos hmoves] at hnext
    exact
      { h.valid with
        next_dvd := by
          rw [hnext]
          exact h.advanced_dvd
        next_ge := by
          rw [hnext]
          exact h.advanced_ge
        next_lt := by
          rw [hnext]
          exact h.advanced_lt }
  · rw [if_neg hmoves] at hnext
    exact
      { h.valid with
        next_dvd := by
          rw [hnext]
          exact h.next_dvd
        next_ge := by
          rw [hnext]
          exact h.next_ge
        next_lt := by
          rw [hnext]
          exact h.next_lt }

theorem consume (h : Commit n bytes v s) : Commit n bytes v s.consume := by
  have hok := h.pcOk
  refine h.of_frame s.pc rfl rfl rfl rfl h.valid.consume rfl ?_
  cases hpc : s.pc <;> rw [hpc] at hok
  case idle => exact hok
  case publish => exact hok
  case reserved =>
    exact ⟨hok.1, hok.2.1, hok.2.2.1, hok.2.2.2.1, h.clear_consume hok.2.2.2.2⟩
  case resCopy =>
    obtain ⟨hm, hb, hi, hbounce, hclear⟩ := hok
    exact ⟨hm, hb, hi, hbounce, h.clear_consume hclear⟩
  case slowCopy =>
    obtain ⟨hm, hb, hi, hcur, hdvd, hge, hlt, hbounce, hclear⟩ := hok
    exact ⟨hm, hb, hi, hcur, hdvd, hge, hlt, hbounce, h.clear_consume hclear⟩
  case slowNext =>
    obtain ⟨hm, hb, hi, hcur, hdvd, hge, hlt, hbounce, hclear⟩ := hok
    exact ⟨hm, hb, hi, hcur, hdvd, hge, hlt, hbounce, h.clear_consume hclear⟩
  all_goals exact hok.elim

theorem step (h : Commit n bytes v s) {a : Act} (ha : committing bytes a)
    (hstep : step s a = some s') : Safe s a ∧ Commit n bytes v s' := by
  cases a with
  | fill k w =>
    simp only [Fifo.step] at hstep
    split at hstep
    case h_1 m hpc =>
      split_ifs at hstep with hk
      cases hstep
      exact h.fill hpc hk w
    case h_2 => cases hstep
  | commit b =>
    cases ha
    simp only [Fifo.step] at hstep
    split at hstep
    case h_1 m hpc =>
      cases hstep
      exact ⟨safe_of_writeAddr_eq_none rfl, h.commitStart hpc⟩
    case h_2 => cases hstep
  | copy => exact h.copy hstep
  | publish =>
    simp only [Fifo.step] at hstep
    split at hstep
    case h_1 m b hpc =>
      cases hstep
      exact ⟨safe_of_writeAddr_eq_none rfl, h.finish hpc⟩
    case h_2 => cases hstep
  | device =>
    simp only [Fifo.step] at hstep
    split_ifs at hstep with hne
    cases hstep
    exact ⟨safe_of_writeAddr_eq_none rfl, h.consume⟩
  | reserve b => cases ha
  | loop buf => cases ha
  | isFull buf => cases ha
  | wait timeout => cases ha

/-- The whole commit is safe, and NEXT_CMD ends where it should. -/
theorem contained (h : Commit n bytes v s) (hstop : v ≠ s.stop) : Contained s bytes := by
  intro as s' hrun hpc
  obtain ⟨hsafe, h'⟩ := hrun.strengthen (fun _ _ _ ha hstep h => h.step ha hstep) h
  have hnext : s'.nextCmd = v := (h'.pcOk_at hpc).trans h'.final
  refine ⟨hsafe, h'.valid.next_ge, h'.valid.next_lt, ?_⟩
  rw [hnext]
  exact hstop

end Commit

end Commit

section Room

variable {s s' : State} {bytes : Nat}

theorem advanced_congr {n : Nat} (hmax : s'.max = s.max) (hmin : s'.min = s.min) :
    s'.advanced n bytes = s.advanced n bytes := by
  simp only [State.advanced, hmax, hmin]

/-- A sum that wraps is taken for the new NEXT_CMD as it is. -/
theorem advanced_of_wrap (hv : Valid s) (hlt : bytes < s.max - s.min)
    (hwrap : 2 ^ 32 ≤ s.nextCmd + bytes) :
    s.advanced s.nextCmd bytes = s.nextCmd + bytes - 2 ^ 32 := by
  obtain ⟨_, _, _, _, _, _, _, _, _⟩ := hv
  rw [State.advanced, add32_of_le hwrap (by omega) (by omega), if_neg (by omega)]

theorem four_lt_of_wrap (hv : Valid s) (hwrap : 2 ^ 32 ≤ s.nextCmd + bytes) : 4 < bytes := by
  obtain ⟨_, _, _, _, _, _, _, _, _⟩ := hv
  omega

/-- The space a returned buffer has been promised. -/
theorem Returned.room (h : Reserve bytes s) (hr : Returned s s' bytes)
    (hadd : s.nextCmd + bytes < 2 ^ 32) :
    4 * s.used + bytes < s.max - s.min ∧
      (s'.usingBounceBuffer = false → s.nextCmd + bytes ≤ s.max) := by
  rcases hr.place with ⟨-, hfits, -⟩ | ⟨-, hfull, hle, -, hbounce⟩
  · exact ⟨(h.valid.room_of_fits hadd hfits).1, fun _ => (h.valid.room_of_fits hadd hfits).2⟩
  · rw [h.valid.isFull_eq hle, decide_eq_true_eq, Nat.not_le] at hfull
    exact ⟨hfull, fun hp => by simp [hbounce] at hp⟩

theorem Returned.place_of_wrap (hr : Returned s s' bytes)
    (hwrap : 2 ^ 32 ≤ s.nextCmd + bytes) :
    s.fits bytes s.nextCmd ∧ s'.usingBounceBuffer = !(s.reserveable || bytes ≤ 4) := by
  rcases hr.place with ⟨-, hfits, hplace⟩ | ⟨-, -, -, hadd, -⟩
  · exact ⟨hfits, hplace⟩
  · omega

/-- A commit starts where the reservation left off. -/
theorem Returned.start (h : Reserve bytes s) (h' : Reserve bytes s') (hdvd : 4 ∣ bytes)
    (hr : Returned s s' bytes) (hroom : 4 * s.used + bytes ≤ s.max - s.min)
    (hplace : s'.usingBounceBuffer = false → s.nextCmd + bytes ≤ s.max)
    (hadv : 4 ∣ s.advanced s.nextCmd bytes ∧ s.min ≤ s.advanced s.nextCmd bytes ∧
      s.advanced s.nextCmd bytes < s.max) :
    Commit s.nextCmd bytes (if s'.usingBounceBuffer || s.reserveable then
      s.advanced s.nextCmd bytes else s.nextCmd) s' := by
  have hsame : s'.advanced s.nextCmd bytes = s.advanced s.nextCmd bytes :=
    advanced_congr hr.max hr.min
  have hring : s'.ring = s.ring := by simp only [State.ring, hr.max, hr.min]
  have hclear : Clear s' s.nextCmd bytes := by
    refine .inr ⟨?_, ?_⟩
    · rw [hring, hr.stop, hr.unread, h.unread]
      exact h.valid.advance_used
    · rw [hr.unread, h.unread, hr.max, hr.min]
      exact hroom
  exact
    { valid := h'.valid
      bytes_dvd := hdvd
      next_dvd := h.valid.next_dvd
      next_ge := hr.min ▸ h.valid.next_ge
      next_lt := hr.max ▸ h.valid.next_lt
      lt := h'.lt
      advanced_dvd := hsame ▸ hadv.1
      advanced_ge := by
        rw [hsame, hr.min]
        exact hadv.2.1
      advanced_lt := by
        rw [hsame, hr.max]
        exact hadv.2.2
      final := by rw [hsame, hr.reserveable]
      pcOk := by
        rw [hr.pc]
        exact ⟨rfl, hr.nextCmd, hr.reservedSize, fun hp => hr.max ▸ hplace hp, hclear⟩ }

/-- With the room it takes for granted, a commit goes through. -/
theorem Returned.contained (h : Reserve bytes s) (h' : Reserve bytes s') (hdvd : 4 ∣ bytes)
    (hpos : 0 < bytes) (hr : Returned s s' bytes) (hroom : RoomFor s bytes) :
    Contained s' bytes := by
  have hv := h.valid
  have hlt := h.lt
  have hsize := hv.size_eq
  rcases hroom with ⟨hadd, hword⟩ | ⟨hwrap, hcap, hspace, hge, hne⟩
  · obtain ⟨hspace, hplace⟩ := hr.room h hadd
    obtain ⟨hadv, hrest⟩ := hv.advanced_eq hv.next_dvd hv.next_ge hv.next_lt hdvd hlt hadd
    refine (hr.start h h' hdvd (Nat.le_of_lt hspace) hplace hrest).contained ?_
    rw [hr.stop]
    split_ifs with hmoves
    · -- NEXT_CMD is `used + bytes / 4` words ahead of STOP, less than once round
      intro heq
      rw [heq, ← hv.advance_used, Ring.advance_advance hv.mem_stop (by omega)] at hadv
      refine Ring.advance_ne hv.mem_stop (i := 0) (k := s.used + bytes / 4) (by omega) (by omega) ?_
      rw [Ring.advance_zero hv.mem_stop]
      exact hadv
    · simp only [Bool.or_eq_true, not_or, Bool.not_eq_true] at hmoves
      intro hstop
      rcases hr.place with ⟨hpc, -, hp⟩ | ⟨-, -, -, -, hbounce⟩
      · rw [hmoves.1, hmoves.2] at hp
        have hfour : bytes ≤ 4 := by simpa using hp.symm
        exact hword ⟨hpc, hmoves.2, by omega, hstop⟩
      · simp [hbounce] at hmoves
  · obtain ⟨-, hp⟩ := hr.place_of_wrap hwrap
    have hfour := four_lt_of_wrap hv hwrap
    have hbounce : s'.usingBounceBuffer = true := by
      rw [hp, hcap]
      simp [hfour]
    have hadv := advanced_of_wrap hv hlt hwrap
    have hrest : 4 ∣ s.advanced s.nextCmd bytes ∧ s.min ≤ s.advanced s.nextCmd bytes ∧
        s.advanced s.nextCmd bytes < s.max := by
      obtain ⟨_, _, _, _, _, _, _, _, _⟩ := hv
      rw [hadv]
      omega
    refine (hr.start h h' hdvd hspace (fun hb => by simp [hbounce] at hb) hrest).contained ?_
    rw [hr.stop, if_pos (by simp [hbounce]), hadv]
    exact hne

section Slow

variable {n : Nat}

/-- `i` rounds of `vmw_fifo_slow_copy` with the device standing still. -/
theorem slow_run (hv : Valid s) (hdvd : 4 ∣ n) (hge : s.min ≤ n) (hlt : n < s.max)
    (hsize : bytes / 4 < s.ring.size) (hpc : s.pc = .slowCopy n bytes n 0) {i : Nat}
    (hi : i ≤ bytes / 4) :
    ∃ t cur, Run step (fun _ a => committing bytes a) s (List.replicate (2 * i) .copy) t ∧
      Valid t ∧ t.pc = .slowCopy n bytes cur i ∧ cur / 4 = s.ring.advance (n / 4) i ∧ 4 ∣ cur ∧
      s.min ≤ cur ∧ cur < s.max ∧ t.max = s.max ∧ t.min = s.min ∧ t.stop = s.stop ∧
      t.unread = s.unread ∧ t.usingBounceBuffer = s.usingBounceBuffer ∧
      t.reserveable = s.reserveable := by
  have hmem : s.ring.Mem (n / 4) := hv.mem_of_bounds hdvd hge hlt
  induction i with
  | zero =>
    exact ⟨s, n, .nil s, hv, hpc, (Ring.advance_zero hmem).symm, hdvd, hge, hlt,
      rfl, rfl, rfl, rfl, rfl, rfl⟩
  | succ i ih =>
    obtain ⟨t, cur, hrun, htv, htpc, hcur, hd, hg, hl, hmax, hmin, hstop, hun, hb, hc⟩ :=
      ih (by omega)
    obtain ⟨hsucc, hd', hg', hl'⟩ := htv.next_word hd (hmin ▸ hg) (hmax ▸ hl)
    have hword : i < bytes / 4 := by omega
    have hring : t.ring = s.ring := by simp only [State.ring, hmax, hmin]
    let next := if add32 cur 4 = t.max then t.min else add32 cur 4
    let t₁ : State :=
      { t.write (cur / 4) (t.buffer i) with pc := .slowNext n bytes next (i + 1) }
    have hcopy : step t .copy = some t₁ := by
      simp only [step, htpc, State.slowCopy, if_pos hword]
      rfl
    have hround : Run step (fun _ a => committing bytes a) t [.copy, .copy]
        (t₁.slowNext n bytes next (i + 1)) :=
      .cons trivial hcopy (.cons trivial rfl (.nil _))
    refine ⟨t₁.slowNext n bytes next (i + 1), next, ?_,
      { htv with next_dvd := hd', next_ge := hg', next_lt := hl' }, rfl, ?_, hd', ?_, ?_, hmax,
      hmin, hstop, hun, hb, hc⟩
    · rw [Nat.mul_succ, ← List.replicate_append_replicate]
      exact hrun.append hround
    · rw [hsucc, hring, hcur, Ring.advance_succ hmem (by omega)]
    · rw [← hmin]
      exact hg'
    · rw [← hmax]
      exact hl'

/-- The steps of a commit through the bounce buffer without SVGA_FIFO_CAP_RESERVE. -/
def slowActs (bytes i : Nat) : List Act := .commit bytes :: List.replicate (2 * i) .copy

/-- Such a commit, with the device standing still, after `i` rounds of its copy. -/
theorem slow_commit (hv : Valid s) (hpc : s.pc = .reserved s.nextCmd)
    (hres : s.reservedSize = bytes) (hdvd : 4 ∣ bytes) (hlt : bytes < s.max - s.min)
    (hbounce : s.usingBounceBuffer = true) (hcap : s.reserveable = false) {i : Nat}
    (hi : i ≤ bytes / 4) :
    ∃ t cur, Run step (fun _ a => committing bytes a) s (slowActs bytes i) t ∧
      t.pc = .slowCopy s.nextCmd bytes cur i ∧
      cur / 4 = s.ring.advance (s.nextCmd / 4) i ∧ t.ring = s.ring ∧ t.stop = s.stop ∧
      t.unread = s.unread ∧ t.max = s.max ∧ t.min = s.min ∧ t.usingBounceBuffer = true := by
  have hsize := hv.size_eq
  let s₁ : State :=
    { s with
      reservedSize := 0
      committed := s.committed ++ s.words s.nextCmd bytes
      pc := .slowCopy s.nextCmd bytes s.nextCmd 0 }
  have hcommit : step s (.commit bytes) = some s₁ := by
    simp only [step, hpc, State.commitStart]
    rw [if_neg (by omega), if_neg (by omega)]
    simp [hbounce, hcap, s₁]
  have hv₁ : Valid s₁ := { hv with }
  have hsize₁ : bytes / 4 < s₁.ring.size := by
    change bytes / 4 < s.ring.size
    omega
  obtain ⟨t, cur, hrun, -, htpc, hcur, -, -, -, hmax, hmin, hstop, hun, hb, -⟩ :=
    slow_run hv₁ hv.next_dvd hv.next_ge hv.next_lt hsize₁ rfl hi
  refine ⟨t, cur, .cons rfl hcommit hrun, htpc, hcur, ?_, hstop, hun, hmax, hmin, ?_⟩
  · simp only [State.ring, hmax, hmin]
    rfl
  · rw [hb]
    exact hbounce

/-- It comes to an end. -/
theorem slow_finish (hv : Valid s) (hpc : s.pc = .reserved s.nextCmd)
    (hres : s.reservedSize = bytes) (hdvd : 4 ∣ bytes) (hlt : bytes < s.max - s.min)
    (hbounce : s.usingBounceBuffer = true) (hcap : s.reserveable = false) :
    ∃ s', Run step (fun _ a => committing bytes a) s
        (slowActs bytes (bytes / 4) ++ [.copy, .publish]) s' ∧
      s'.pc = .idle ∧ s'.nextCmd = s.advanced s.nextCmd bytes ∧ s'.min = s.min := by
  obtain ⟨t, cur, hrun, htpc, -, -, -, -, hmax, hmin, hb⟩ :=
    slow_commit hv hpc hres hdvd hlt hbounce hcap (le_refl (bytes / 4))
  let t₁ : State := { t with dynamicBuffer := none, pc := .publish s.nextCmd bytes }
  have hcopy : step t .copy = some t₁ := by
    simp only [step, htpc, State.slowCopy, if_neg (lt_irrefl (bytes / 4))]
    rfl
  refine ⟨t₁.finish s.nextCmd bytes, hrun.append (.cons trivial hcopy (.cons trivial rfl (.nil _))),
    rfl, ?_, hmin⟩
  have hb₁ : t₁.usingBounceBuffer = true := hb
  have hadv : t₁.advanced s.nextCmd bytes = s.advanced s.nextCmd bytes :=
    advanced_congr hmax hmin
  simp only [State.finish, hb₁, Bool.true_or, if_true, hadv]

end Slow

/-- A word in place, without the capability, on an empty ring. -/
theorem Returned.not_contained_oneWord (hr : Returned s s' bytes) (hdvd : 4 ∣ bytes)
    (hpc : s.pc = .reserve bytes s.nextCmd) (hcap : s.reserveable = false) (hfour : bytes = 4)
    (hstop : s.nextCmd = s.stop) : ¬ Contained s' bytes := by
  intro hcon
  have hpc' : s'.pc = .reserved s'.nextCmd := by rw [hr.pc, hr.nextCmd]
  have hbounce : s'.usingBounceBuffer = false := by
    rcases hr.place with ⟨-, -, hp⟩ | ⟨hfull, -⟩
    · rw [hp, hfour]
      simp
    · rw [hpc] at hfull
      cases hfull
  let s₁ : State :=
    { s' with
      reservedSize := 0
      committed := s'.committed ++ s'.words s'.nextCmd bytes
      pc := .publish s'.nextCmd bytes }
  have hcommit : step s' (.commit bytes) = some s₁ := by
    have hres := hr.reservedSize
    simp only [step, hpc', State.commitStart]
    rw [if_neg (by omega), if_neg (by omega)]
    simp [hbounce, s₁]
  have hnext : (s₁.finish s'.nextCmd bytes).nextCmd = s'.nextCmd := by
    have hcap' := hr.reserveable.trans hcap
    simp [State.finish, s₁, hbounce, hcap']
  obtain ⟨-, -, -, hne⟩ := hcon [.commit bytes, .publish] (s₁.finish s'.nextCmd bytes)
    (.cons rfl hcommit (.cons trivial rfl (.nil _))) rfl
  rw [hnext, hr.nextCmd, hr.stop] at hne
  exact hne hstop

/-- In place, a request that wraps past 2^32 lets the caller write past the ring. -/
theorem Returned.not_contained_inPlace (hv : Valid s) (hr : Returned s s' bytes)
    (hdvd : 4 ∣ bytes) (hwrap : 2 ^ 32 ≤ s.nextCmd + bytes) (hcap : s.reserveable = true) :
    ¬ Contained s' bytes := by
  intro hcon
  have hpc' : s'.pc = .reserved s'.nextCmd := by rw [hr.pc, hr.nextCmd]
  obtain ⟨-, hplace⟩ := hr.place_of_wrap hwrap
  have hbounce : s'.usingBounceBuffer = false := by
    rw [hplace, hcap]
    rfl
  have hres := hr.reservedSize
  let k := s.max / 4 - s.nextCmd / 4
  let s₁ : State := s'.fill s'.nextCmd k 0
  let s₂ : State :=
    { s₁ with
      reservedSize := 0
      committed := s₁.committed ++ s₁.words s'.nextCmd bytes
      pc := .publish s'.nextCmd bytes }
  have hk : 4 * k + 4 ≤ s'.reservedSize := by
    obtain ⟨_, _, _, _, _, _, _, _, _⟩ := hv
    simp only [k, hres]
    omega
  have hs₁ : s₁ = s'.write (s'.nextCmd / 4 + k) 0 := by
    simp only [s₁, State.fill, hbounce]
    rfl
  have hfill : step s' (.fill k 0) = some s₁ := by
    simp only [step, hpc', if_pos hk]
    rfl
  have hcommit : step s₁ (.commit bytes) = some s₂ := by
    have hpc₁ : s₁.pc = .reserved s'.nextCmd := by rw [hs₁, ← hpc']; rfl
    have hres₁ : s₁.reservedSize = bytes := by rw [hs₁, ← hres]; rfl
    have hbounce₁ : s₁.usingBounceBuffer = false := by rw [hs₁, ← hbounce]; rfl
    have hnext₁ : s₁.nextCmd = s'.nextCmd := by rw [hs₁]; rfl
    simp only [step, hpc₁, State.commitStart]
    rw [if_neg (by omega), if_neg (by omega)]
    simp [hbounce₁, hnext₁, s₂]
  obtain ⟨hsafe, -⟩ := hcon [.fill k 0, .commit bytes, .publish] (s₂.finish s'.nextCmd bytes)
    (.cons trivial hfill (.cons rfl hcommit (.cons trivial rfl (.nil _)))) rfl
  cases hsafe with
  | cons hsafe _ _ =>
    have hout := (hsafe (s'.nextCmd / 4 + k) (by simp [writeAddr, hpc', hbounce])).1
    have hlt' := hout.2
    have hnext := hr.nextCmd
    have hmax : s'.ring.hi = s.max / 4 := by simp only [State.ring, hr.max]
    rw [hmax] at hlt'
    simp only [k] at hlt'
    omega

/-- Through the bounce buffer, it leaves NEXT_CMD wrong or comes round to the first
word the device has yet to read. -/
theorem Returned.not_contained_slow (h : Reserve bytes s) (h' : Reserve bytes s')
    (hdvd : 4 ∣ bytes) (hr : Returned s s' bytes) (hwrap : 2 ^ 32 ≤ s.nextCmd + bytes)
    (hcap' : s.reserveable = false) (hroom : ¬ (4 * s.used + bytes ≤ s.max - s.min ∧
      s.min ≤ s.nextCmd + bytes - 2 ^ 32 ∧ s.nextCmd + bytes - 2 ^ 32 ≠ s.stop)) :
    ¬ Contained s' bytes := by
  intro hcon
  have hv := h.valid
  have hlt := h.lt
  have hsize := hv.size_eq
  have hpc' : s'.pc = .reserved s'.nextCmd := by rw [hr.pc, hr.nextCmd]
  have hfour := four_lt_of_wrap hv hwrap
  obtain ⟨-, hplace⟩ := hr.place_of_wrap hwrap
  have hbounce : s'.usingBounceBuffer = true := by
    rw [hplace, hcap']
    simp [hfour]
  obtain ⟨s'', hrun, hidle, hnext, hmin⟩ := slow_finish h'.valid hpc' hr.reservedSize hdvd
    h'.lt hbounce (hr.reserveable.trans hcap')
  obtain ⟨hsafe, hge, -, hne⟩ := hcon _ _ hrun hidle
  rw [hnext, hr.nextCmd, advanced_congr hr.max hr.min, advanced_of_wrap hv hlt hwrap] at hge hne
  rw [hmin, hr.min] at hge
  rw [hr.stop] at hne
  have hspace : s.max - s.min < 4 * s.used + bytes := by
    apply Nat.lt_of_not_le
    intro hle
    exact hroom ⟨hle, hge, hne⟩
  -- the copy comes round to the first word the device has yet to read
  have hused := hv.used_lt
  have hi : s.ring.size - s.used < bytes / 4 := by omega
  obtain ⟨t, cur, hrun', htpc, hcur, hring, hstop, hun, -⟩ := slow_commit h'.valid hpc'
    hr.reservedSize hdvd h'.lt hbounce (hr.reserveable.trans hcap') (Nat.le_of_lt hi)
  have hacts : slowActs bytes (bytes / 4) ++ [.copy, .publish] =
      slowActs bytes (s.ring.size - s.used) ++ .copy ::
        (List.replicate (2 * (bytes / 4) - 2 * (s.ring.size - s.used) - 1) .copy ++
          [.copy, .publish]) := by
    have hcount : 2 * (bytes / 4) = 2 * (s.ring.size - s.used) +
        (2 * (bytes / 4) - 2 * (s.ring.size - s.used) - 1 + 1) := by omega
    rw [slowActs, slowActs, hcount, ← List.replicate_append_replicate, List.replicate_succ]
    simp
  rw [hacts] at hsafe
  obtain ⟨t', hfirst, hrest⟩ := hsafe.split
  cases hrun'.deterministic hfirst
  cases hrest with
  | cons hs _ _ =>
    have hring' : s'.ring = s.ring := by simp only [State.ring, hr.max, hr.min]
    have hwhere : cur / 4 = s.stop / 4 := by
      rw [hcur, hring', hr.nextCmd, ← hv.advance_used,
        Ring.advance_advance hv.mem_stop (by omega), Nat.add_sub_cancel' (Nat.le_of_lt hused),
        Ring.advance_size hv.mem_stop]
    have hover := (hs (cur / 4) (by simp [writeAddr, htpc, hi])).2 0
      (by rw [hun, hr.unread, h.unread]; omega)
    rw [hring, hring', hstop, hr.stop, Ring.advance_zero hv.mem_stop] at hover
    exact hover hwhere.symm

/-- Without the room, some way to fill and commit the buffer goes wrong. -/
theorem Returned.not_contained (h : Reserve bytes s) (h' : Reserve bytes s') (hdvd : 4 ∣ bytes)
    (hr : Returned s s' bytes) (hroom : ¬ RoomFor s bytes) : ¬ Contained s' bytes := by
  rw [RoomFor, not_or] at hroom
  by_cases hadd : s.nextCmd + bytes < 2 ^ 32
  · obtain ⟨hpc, hcap, hfour, hstop⟩ := not_not.mp (fun hn => hroom.1 ⟨hadd, hn⟩)
    exact hr.not_contained_oneWord hdvd hpc hcap hfour hstop
  · have hwrap : 2 ^ 32 ≤ s.nextCmd + bytes := by omega
    by_cases hcap : s.reserveable = true
    · exact hr.not_contained_inPlace h.valid hdvd hwrap hcap
    · have hcap' : s.reserveable = false := by simpa using hcap
      exact hr.not_contained_slow h h' hdvd hwrap hcap' (fun hn => hroom.2 ⟨hwrap, hcap', hn⟩)

end Room

theorem Idle.reserve {s : State} {bytes : Nat} (h : Idle s) (hlt : bytes < s.max - s.min) :
    Reserve bytes s where
  valid := h.valid
  unread := h.unread
  lt := hlt
  pcOk := by
    rw [h.pc]
    exact ⟨h.reservedSize, h.dynamicBuffer⟩

/-- A returned buffer is safe to fill and commit, whatever the device does meanwhile,
exactly when there was room for it. -/
theorem vmwFifoReserve_contained_iff {s₀ s₁ s₂ : State} {bytes m : Nat} {as : List Act} {a : Act}
    (h : Idle s₀) (hpos : 0 < bytes) (hdvd : 4 ∣ bytes) (hlt : bytes < s₀.max - s₀.min)
    (hrun : Run step (fun _ a => reserving bytes a) s₀ as s₁) (hne : ∀ n, s₁.pc ≠ .reserved n)
    (ha : reserving bytes a) (hstep : step s₁ a = some s₂) (hpc : s₂.pc = .reserved m) :
    Contained s₂ bytes ↔ RoomFor s₁ bytes := by
  have h₁ : Reserve bytes s₁ :=
    hrun.invariant (fun _ _ _ ha hstep h => h.step ha hstep) (h.reserve hlt)
  have h₂ := h₁.step ha hstep
  have hr := h₁.returned ha hne hstep hpc
  constructor
  · intro hcon
    by_contra hroom
    exact hr.not_contained h₁ h₂ hdvd hroom hcon
  · exact hr.contained h₁ h₂ hdvd hpos

/-- Without SVGA_FIFO_CAP_RESERVE a command of one word on an empty ring leaves the
ring empty. -/
theorem oneWord_leaves_ring_empty :
    ∃ s₂ s', Run step (fun _ a => reserving 4 a) (onePage false) [.reserve 4, .loop none] s₂ ∧
      s₂.pc = .reserved 4096 ∧
      Run step (fun _ a => committing 4 a) s₂ [.fill 0 7, .commit 4, .publish] s' ∧
      s'.pc = .idle ∧ s'.nextCmd = s₂.stop ∧ ¬ Contained s₂ 4 := by
  refine ⟨_, _, .cons rfl rfl (.cons trivial rfl (.nil _)), rfl,
    .cons trivial rfl (.cons rfl rfl (.cons trivial rfl (.nil _))), rfl, rfl, ?_⟩
  intro hcon
  exact (hcon [.fill 0 7, .commit 4, .publish] _
    (.cons trivial rfl (.cons rfl rfl (.cons trivial rfl (.nil _)))) rfl).2.2.2 rfl

theorem vmwFifoReserve_contained_iff_twoWords :
    ∃ s₁ s₂, Run step (fun _ a => reserving 8 a) (onePage false) [.reserve 8] s₁ ∧
      step s₁ (.loop none) = some s₂ ∧ (Contained s₂ 8 ↔ RoomFor s₁ 8) := by
  have hrun : Run step (fun _ a => reserving 8 a) (onePage false) [.reserve 8] _ :=
    .cons rfl rfl (.nil _)
  exact ⟨_, _, hrun, rfl, vmwFifoReserve_contained_iff (a := .loop none)
    (start_onePage false).toIdle (by decide) (by decide) (by decide) hrun
    (fun _ hn => nomatch hn) trivial rfl rfl⟩

end Vmwgfx.Fifo
