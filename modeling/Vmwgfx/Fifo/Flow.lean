import Vmwgfx.Fifo.Geometry

/-! What the device reads is what the driver committed. -/

namespace Vmwgfx.Fifo

open Vmwgfx.Lib

namespace State

variable (s : State)

/-- The command in the bounce buffer. -/
def bounced (bytes : Nat) : List Word := (List.range (bytes / 4)).map s.buffer

/-- The words of the running commit that NEXT_CMD has not passed. -/
def pending : Pc → List Word
  | .resCopy _ bytes _ => s.bounced bytes
  | .slowCopy _ bytes _ i => (s.bounced bytes).drop i
  | .slowNext _ bytes _ i => (s.bounced bytes).drop (i - 1)
  | .publish _ bytes =>
    if s.reserveable then s.ring.read s.mem (s.nextCmd / 4) (bytes / 4) else []
  | _ => []

end State

/-- The request of a running commit. -/
structure Request (s : State) (nextCmd bytes : Nat) : Prop where
  bytes_dvd : 4 ∣ bytes
  next_dvd : 4 ∣ nextCmd
  next_ge : s.min ≤ nextCmd
  next_lt : nextCmd < s.max
  lt : bytes < s.max - s.min
  add_lt : nextCmd + bytes < 2 ^ 32
  reservedSize : s.reservedSize = 0

/-- The request of a running `vmw_fifo_reserve`. -/
structure Reserving (s : State) (bytes nextCmd : Nat) : Prop where
  next : nextCmd = s.nextCmd
  size : bytes = s.reservedSize
  lt : bytes < s.max - s.min
  add_lt : nextCmd + bytes < 2 ^ 32
  dynamic : s.dynamicBuffer = none

/-- What the driver knows at each of its points. -/
def PcOk (s : State) : Pc → Prop
  | .idle => s.reservedSize = 0 ∧ s.dynamicBuffer = none
  | .reserve bytes nextCmd => Reserving s bytes nextCmd
  | .full bytes nextCmd => Reserving s bytes nextCmd ∧ s.stop ≤ s.nextCmd
  | .wait bytes nextCmd => Reserving s bytes nextCmd
  | .reserved nextCmd =>
    nextCmd = s.nextCmd ∧ 4 * s.used + s.reservedSize < s.max - s.min ∧
      nextCmd + s.reservedSize < 2 ^ 32 ∧
      (s.usingBounceBuffer = false → nextCmd + s.reservedSize ≤ s.max ∧ s.dynamicBuffer = none)
  | .resCopy nextCmd bytes i =>
    Request s nextCmd bytes ∧ s.usingBounceBuffer = true ∧ s.reserveable = true ∧
      nextCmd = s.nextCmd ∧ 4 * s.used + bytes < s.max - s.min ∧ i ≤ bytes / 4 ∧
      s.ring.read s.mem (s.nextCmd / 4) i = (s.bounced bytes).take i
  | .slowCopy nextCmd bytes cur i =>
    Request s nextCmd bytes ∧ s.usingBounceBuffer = true ∧ s.reserveable = false ∧
      cur = s.nextCmd ∧ i ≤ bytes / 4 ∧ s.nextCmd / 4 = s.ring.advance (nextCmd / 4) i ∧
      4 * (s.used + (bytes / 4 - i)) < s.max - s.min
  | .slowNext nextCmd bytes cur i =>
    Request s nextCmd bytes ∧ s.usingBounceBuffer = true ∧ s.reserveable = false ∧
      0 < i ∧ i ≤ bytes / 4 ∧ s.nextCmd / 4 = s.ring.advance (nextCmd / 4) (i - 1) ∧
      cur / 4 = s.ring.succ (s.nextCmd / 4) ∧ 4 ∣ cur ∧ s.min ≤ cur ∧ cur < s.max ∧
      s.mem (s.nextCmd / 4) = s.buffer (i - 1) ∧
      4 * (s.used + (bytes / 4 - (i - 1))) < s.max - s.min
  | .publish nextCmd bytes =>
    Request s nextCmd bytes ∧ s.dynamicBuffer = none ∧
      (s.reserveable = true → nextCmd = s.nextCmd ∧ 4 * s.used + bytes < s.max - s.min) ∧
      (s.reserveable = false → s.usingBounceBuffer = true →
        s.nextCmd / 4 = s.ring.advance (nextCmd / 4) (bytes / 4)) ∧
      (s.reserveable = false → s.usingBounceBuffer = false → bytes = 0)
  | .stuck => True
  | .bug => True

structure Inv (s : State) : Prop where
  valid : Valid s
  flow : s.committed = s.consumed ++ s.ring.read s.mem (s.stop / 4) s.used ++ s.pending s.pc
  pcOk : PcOk s s.pc

/-- The calls whose commands reach the device: requests that do not wrap past
2^32, and commits of whole words of what was reserved that are not, on a device
without SVGA_FIFO_CAP_RESERVE, of a reservation in place. -/
def Delivered (s : State) : Act → Prop
  | .reserve bytes => bytes < s.max - s.min → s.nextCmd + bytes < 2 ^ 32
  | .commit bytes =>
    bytes % 4 = 0 ∧ bytes ≤ s.reservedSize ∧
      (s.reserveable = true ∨ s.usingBounceBuffer = true ∨ bytes = 0)
  | _ => True

instance (s : State) : (a : Act) → Decidable (Delivered s a)
  | .reserve bytes => 
    inferInstanceAs (Decidable (bytes < s.max - s.min → s.nextCmd + bytes < 2 ^ 32))
  | .commit bytes => inferInstanceAs (Decidable (bytes % 4 = 0 ∧ bytes ≤ s.reservedSize ∧
      (s.reserveable = true ∨ s.usingBounceBuffer = true ∨ bytes = 0)))
  | .loop _ | .isFull _ | .wait _ | .fill _ _ | .copy | .publish | .device => .isTrue trivial

namespace Inv

variable {s s' : State} {bytes n i : Nat}

theorem of_pc (pc : Pc) (hpc : s.pc = pc) (hvalid : Valid s)
    (hflow : s.committed =
      s.consumed ++ s.ring.read s.mem (s.stop / 4) s.used ++ s.pending pc)
    (hok : PcOk s pc) : Inv s := by
  subst hpc
  exact ⟨hvalid, hflow, hok⟩

theorem flow_at (h : Inv s) {pc : Pc} (hpc : s.pc = pc) : s.committed =
    s.consumed ++ s.ring.read s.mem (s.stop / 4) s.used ++ s.pending pc :=
  hpc ▸ h.flow

theorem pcOk_at (h : Inv s) {pc : Pc} (hpc : s.pc = pc) : PcOk s pc :=
  hpc ▸ h.pcOk

theorem reserveStart (h : Inv s) (hpc : s.pc = .idle)
    (hok : bytes < s.max - s.min → s.nextCmd + bytes < 2 ^ 32) : Inv (s.reserveStart bytes) := by
  obtain ⟨hsize, hdyn⟩ : s.reservedSize = 0 ∧ s.dynamicBuffer = none := h.pcOk_at hpc
  rw [State.reserveStart, h.valid.sub_max_min]
  by_cases hlarge : bytes ≥ s.max - s.min
  · have hsame : { s with reservedSize := 0 } = s := by rw [← hsize]
    rw [if_pos hlarge, hsame]
    exact h
  · rw [if_neg hlarge, if_neg (not_not_intro hsize), if_neg (by simp [hdyn])]
    have hlt : bytes < s.max - s.min := Nat.lt_of_not_le hlarge
    exact ⟨{ h.valid with }, h.flow_at hpc, rfl, rfl, hlt, hok hlt, hdyn⟩

theorem bounce (h : Inv s) (hr : Reserving s bytes n) (hpend : s.pending s.pc = [])
    (hroom : 4 * s.used + bytes < s.max - s.min) (buf : Option (Nat → Word)) :
    Inv (s.bounce bytes n buf) := by
  have hflow := h.flow
  rw [hpend] at hflow
  obtain ⟨hn, hb, -, hadd, -⟩ := hr
  subst hb
  unfold State.bounce
  split_ifs with hstatic hbuf
  · exact ⟨{ h.valid with }, hflow, hn, hroom, hadd, nofun⟩
  · exact ⟨{ h.valid with }, hflow, hn, hroom, hadd, nofun⟩
  · exact ⟨{ h.valid with }, hflow, trivial⟩

theorem reserveLoop (h : Inv s) (hpc : s.pc = .reserve bytes n) (buf : Option (Nat → Word)) :
    Inv (s.reserveLoop bytes n buf) := by
  have hflow := h.flow_at hpc
  have hr : Reserving s bytes n := h.pcOk_at hpc
  have hn := hr.next
  subst hn
  by_cases hfits : s.fits bytes s.nextCmd
  · obtain ⟨hroom, hle⟩ := h.valid.room_of_fits hr.add_lt hfits
    rw [State.reserveLoop, if_pos hfits]
    by_cases hplace : s.reserveable || bytes ≤ 4
    · rw [if_pos hplace]
      refine ⟨{ h.valid with }, hflow, rfl, ?_⟩
      rw [hr.size] at hroom hle
      exact ⟨hroom, hr.size ▸ hr.add_lt, fun _ => ⟨hle, hr.dynamic⟩⟩
    · rw [if_neg hplace]
      exact h.bounce hr (by rw [hpc]; rfl) hroom buf
  · rw [State.reserveLoop, if_neg hfits]
    split_ifs with hstop
    · exact ⟨{ h.valid with }, hflow, { hr with }, hstop⟩
    · exact ⟨{ h.valid with }, hflow, { hr with }⟩

theorem reserveFull (h : Inv s) (hpc : s.pc = .full bytes n) (buf : Option (Nat → Word)) :
    Inv (s.reserveFull bytes n buf) := by
  obtain ⟨hr, hle⟩ : Reserving s bytes n ∧ s.stop ≤ s.nextCmd := h.pcOk_at hpc
  unfold State.reserveFull
  split_ifs with hfull
  · exact ⟨{ h.valid with }, h.flow_at hpc, { hr with }⟩
  · rw [h.valid.isFull_eq hle, decide_eq_true_eq, Nat.not_le] at hfull
    exact h.bounce hr (by rw [hpc]; rfl) hfull buf

theorem waitDone (h : Inv s) (hpc : s.pc = .wait bytes n) :
    Inv { s with pc := .reserve bytes n } := by
  have hr : Reserving s bytes n := h.pcOk_at hpc
  exact ⟨{ h.valid with }, h.flow_at hpc, { hr with }⟩

theorem waitTimeout (h : Inv s) (hpc : s.pc = .wait bytes n) :
    Inv { s with reservedSize := 0, pc := .idle } := by
  have hr : Reserving s bytes n := h.pcOk_at hpc
  exact ⟨{ h.valid with }, h.flow_at hpc, rfl, hr.dynamic⟩

/-- A word written after NEXT_CMD, in the free part of the ring, is not read. -/
theorem read_write_free (hv : Valid s) {k : Nat} (hk : s.used + k < s.ring.size) (w : Word) :
    s.ring.read (Function.update s.mem (s.ring.advance (s.nextCmd / 4) k) w) (s.stop / 4) s.used =
      s.ring.read s.mem (s.stop / 4) s.used := by
  rw [← hv.advance_used, Ring.advance_advance hv.mem_stop (Nat.le_of_lt hk)]
  exact Ring.read_update_advance hv.mem_stop (Nat.le_add_right _ _) hk

theorem fill (h : Inv s) (hpc : s.pc = .reserved n) {k : Nat} (hk : 4 * k + 4 ≤ s.reservedSize)
    (w : Word) : Inv (s.fill n k w) := by
  have hflow := h.flow_at hpc
  obtain ⟨hn, hroom, hadd, hplace⟩ := h.pcOk_at hpc
  unfold State.fill
  split_ifs with hbounce
  · have hnp : s.usingBounceBuffer ≠ false := by simp [hbounce]
    split
    · exact of_pc _ hpc { h.valid with } hflow ⟨hn, hroom, hadd, fun hp => absurd hp hnp⟩
    · exact of_pc _ hpc { h.valid with } hflow ⟨hn, hroom, hadd, fun hp => absurd hp hnp⟩
  · obtain ⟨hle, hdyn⟩ := hplace (by simpa using hbounce)
    have hsize := h.valid.size_eq
    have haddr : n / 4 + k = s.ring.advance (s.nextCmd / 4) k := by
      have hlt : s.nextCmd / 4 + k < s.max / 4 := by
        have := h.valid.max_dvd
        have := h.valid.next_dvd
        omega
      rw [hn, Ring.advance]
      exact (if_pos hlt).symm
    refine of_pc _ hpc { h.valid with } ?_ ⟨hn, hroom, hadd, hplace⟩
    rw [haddr]
    exact hflow.trans (congrArg (s.consumed ++ · ++ _)
      (read_write_free h.valid (by omega) w).symm)

theorem commitStart (h : Inv s) (hpc : s.pc = .reserved n) (hdvd : bytes % 4 = 0)
    (hle : bytes ≤ s.reservedSize)
    (hok : s.reserveable = true ∨ s.usingBounceBuffer = true ∨ bytes = 0) :
    Inv (s.commitStart n bytes) := by
  have hflow : s.committed = s.consumed ++ s.ring.read s.mem (s.stop / 4) s.used :=
    (h.flow_at hpc).trans (List.append_nil _)
  obtain ⟨hn, hroom, hadd, hplace⟩ := h.pcOk_at hpc
  have hreq : ∀ s' : State, s'.min = s.min → s'.max = s.max → s'.reservedSize = 0 →
      Request s' s.nextCmd bytes := by
    intro s' hmin hmax hsize
    exact
      { bytes_dvd := Nat.dvd_of_mod_eq_zero hdvd
        next_dvd := h.valid.next_dvd
        next_ge := hmin ▸ h.valid.next_ge
        next_lt := hmax ▸ h.valid.next_lt
        lt := by
          rw [hmin, hmax]
          omega
        add_lt := by omega
        reservedSize := hsize }
  rw [State.commitStart, if_neg (by omega), if_neg (by omega)]
  have hdiv : 4 * (bytes / 4) = bytes := Nat.mul_div_cancel' (Nat.dvd_of_mod_eq_zero hdvd)
  by_cases hbounce : s.usingBounceBuffer = true
  · have hwords : s.words n bytes = s.bounced bytes := by
      rw [State.words, if_pos hbounce, State.bounced]
    by_cases hcap : s.reserveable = true
    · refine of_pc (.resCopy s.nextCmd bytes 0) (by simp [hbounce, hcap])
        { h.valid with } ?_ ⟨hreq _ rfl rfl rfl, hbounce, hcap, rfl, ?_, Nat.zero_le _, rfl⟩
      · change s.committed ++ s.words n bytes =
          s.consumed ++ s.ring.read s.mem (s.stop / 4) s.used ++ s.bounced bytes
        rw [hwords, hflow]
      · change 4 * s.used + bytes < s.max - s.min
        omega
    · have hcap' : s.reserveable = false := by simpa using hcap
      refine of_pc (.slowCopy s.nextCmd bytes s.nextCmd 0) (by simp [hbounce, hcap'])
        { h.valid with } ?_ ⟨hreq _ rfl rfl rfl, hbounce, hcap', rfl, Nat.zero_le _,
          (Ring.advance_zero h.valid.mem_next).symm, ?_⟩
      · change s.committed ++ s.words n bytes =
          s.consumed ++ s.ring.read s.mem (s.stop / 4) s.used ++ s.bounced bytes
        rw [hwords, hflow]
      · change 4 * (s.used + (bytes / 4 - 0)) < s.max - s.min
        omega
  · have hbounce' : s.usingBounceBuffer = false := by simpa using hbounce
    obtain ⟨hend, hdyn⟩ := hplace hbounce'
    have hwords : s.words n bytes = s.ring.read s.mem (s.nextCmd / 4) (bytes / 4) := by
      rw [State.words, if_neg hbounce, hn, Ring.read_of_le h.valid.mem_next]
      change s.nextCmd / 4 + bytes / 4 ≤ s.max / 4
      omega
    refine of_pc (.publish s.nextCmd bytes) (by simp [hbounce]) { h.valid with } ?_
      ⟨hreq _ rfl rfl rfl, hdyn, fun _ => ⟨rfl, ?_⟩,
        fun _ hb => absurd hb hbounce, fun hcap _ => ?_⟩
    · change s.committed ++ s.words n bytes =
        s.consumed ++ s.ring.read s.mem (s.stop / 4) s.used ++
          if s.reserveable then s.ring.read s.mem (s.nextCmd / 4) (bytes / 4) else []
      rw [hwords, hflow]
      by_cases hcap : s.reserveable = true
      · rw [if_pos hcap]
      · have hzero : bytes = 0 := (hok.resolve_left hcap).resolve_left hbounce
        rw [if_neg hcap, hzero]
        rfl
    · change 4 * s.used + bytes < s.max - s.min
      omega
    · exact (hok.resolve_left (Bool.eq_false_iff.mp hcap)).resolve_left hbounce

theorem length_bounced (s : State) (bytes : Nat) : (s.bounced bytes).length = bytes / 4 := by
  simp [State.bounced]

theorem getElem_bounced (bytes : Nat) (hi : i < (s.bounced bytes).length) :
    (s.bounced bytes)[i] = s.buffer i := by
  simp [State.bounced]

theorem resCopy (h : Inv s) (hpc : s.pc = .resCopy n bytes i) : Inv (s.resCopy n bytes i) := by
  have hflow := h.flow_at hpc
  obtain ⟨hreq, hbounce, hcap, hn, hroom, hi, hread⟩ := h.pcOk_at hpc
  have hsize := h.valid.size_eq
  unfold State.resCopy
  split_ifs with hlt
  · have haddr : s.resCopyAddr n bytes i = s.ring.advance (s.nextCmd / 4) i := by
      rw [h.valid.resCopyAddr_eq hreq.next_dvd hreq.next_ge hreq.next_lt hreq.bytes_dvd hlt, hn]
    refine ⟨{ h.valid with }, ?_, { hreq with }, hbounce, hcap, hn, hroom, hlt, ?_⟩
    · rw [haddr]
      exact hflow.trans (congrArg (s.consumed ++ · ++ _)
        (read_write_free h.valid (by omega) _).symm)
    · rw [haddr]
      change s.ring.read (Function.update s.mem _ _) (s.nextCmd / 4) (i + 1) = _
      rw [Ring.read_succ h.valid.mem_next (by omega),
        Ring.read_update_advance h.valid.mem_next (le_refl i) (by omega), Function.update_self,
        hread, ← getElem_bounced bytes (by rwa [length_bounced])]
      exact List.take_append_getElem _
  · have hfull : i = bytes / 4 := by omega
    refine ⟨{ h.valid with }, ?_, { hreq with }, rfl, fun _ => ⟨hn, hroom⟩,
      fun hc => absurd hcap (Bool.eq_false_iff.mp hc), fun hc => absurd hcap (Bool.eq_false_iff.mp hc)⟩
    rw [hflow]
    simp only [State.pending, hcap, if_true]
    rw [hfull, ← length_bounced s bytes, List.take_length] at hread
    rw [← hread, length_bounced]
    rfl

theorem slowCopy (h : Inv s) {cur : Nat} (hpc : s.pc = .slowCopy n bytes cur i) :
    Inv (s.slowCopy n bytes cur i) := by
  have hflow := h.flow_at hpc
  obtain ⟨hreq, hbounce, hcap, hcur, hi, hnext, hroom⟩ := h.pcOk_at hpc
  have hsize := h.valid.size_eq
  subst hcur
  by_cases hlt : i < bytes / 4
  · rw [State.slowCopy, if_pos hlt]
    have hzero := Ring.advance_zero h.valid.mem_next
    obtain ⟨hsucc, hdvd, hge, hlt'⟩ :=
      h.valid.next_word h.valid.next_dvd h.valid.next_ge h.valid.next_lt
    refine ⟨{ h.valid with }, ?_, { hreq with }, hbounce, hcap, Nat.succ_pos i, hlt, hnext, hsucc,
      hdvd, hge, hlt', Function.update_self _ _ _, hroom⟩
    have hfree := read_write_free h.valid (k := 0) (by omega) (s.buffer i)
    rw [hzero] at hfree
    exact hflow.trans (congrArg (s.consumed ++ · ++ _) hfree.symm)
  · rw [State.slowCopy, if_neg hlt]
    have hfull : i = bytes / 4 := by omega
    refine ⟨{ h.valid with }, ?_, { hreq with }, rfl,
      fun hc => absurd hc (Bool.eq_false_iff.mp hcap), fun _ _ => hfull ▸ hnext,
      fun _ hb => absurd hbounce (Bool.eq_false_iff.mp hb)⟩
    rw [hflow]
    simp only [State.pending, hcap]
    rw [hfull, List.drop_of_length_le (by rw [length_bounced])]
    rfl

theorem slowNext (h : Inv s) {cur : Nat} (hpc : s.pc = .slowNext n bytes cur i) :
    Inv (s.slowNext n bytes cur i) := by
  have hflow := h.flow_at hpc
  obtain ⟨hreq, hbounce, hcap, hpos, hi, hnext, hcur, hdvd, hge, hlt, hmem, hroom⟩ :=
    h.pcOk_at hpc
  have hsize := h.valid.size_eq
  have hadv : cur / 4 = s.ring.advance (s.nextCmd / 4) 1 := by
    rw [Ring.advance_succ h.valid.mem_next (by omega), Ring.advance_zero h.valid.mem_next, hcur]
  have hused : s.ring.dist (s.stop / 4) (cur / 4) = s.used + 1 := by
    rw [hadv]
    refine Ring.dist_advance_right h.valid.mem_stop h.valid.mem_next ?_
    change s.used + 1 < _
    omega
  refine ⟨{ h.valid with next_dvd := hdvd, next_ge := hge, next_lt := hlt }, ?_, { hreq with },
    hbounce, hcap, rfl, hi, ?_, ?_⟩
  · change s.committed = s.consumed ++ s.ring.read s.mem (s.stop / 4)
      (s.ring.dist (s.stop / 4) (cur / 4)) ++ (s.bounced bytes).drop i
    have hlen : i - 1 < (s.bounced bytes).length := by
      rw [length_bounced]
      omega
    rw [hused, Ring.read_succ h.valid.mem_stop h.valid.used_lt, h.valid.advance_used, hmem, hflow,
      State.pending, List.drop_eq_getElem_cons hlen, getElem_bounced, Nat.sub_add_cancel hpos]
    simp
  · change cur / 4 = s.ring.advance (n / 4) i
    have hsz := hreq.lt
    rw [hcur, hnext, ← Ring.advance_succ
      (h.valid.mem_of_bounds hreq.next_dvd hreq.next_ge hreq.next_lt) (by omega),
      Nat.sub_add_cancel hpos]
  · change 4 * (s.ring.dist (s.stop / 4) (cur / 4) + (bytes / 4 - i)) < s.max - s.min
    omega

theorem finish (h : Inv s) (hpc : s.pc = .publish n bytes) : Inv (s.finish n bytes) := by
  have hflow := h.flow_at hpc
  obtain ⟨hreq, hdyn, hres, hslow, hnone⟩ := h.pcOk_at hpc
  have hsize := h.valid.size_eq
  obtain ⟨hadv, hdvd, hge, hlt⟩ := h.valid.advanced_eq hreq.next_dvd hreq.next_ge hreq.next_lt
    hreq.bytes_dvd hreq.lt hreq.add_lt
  have hbytes : 4 * (bytes / 4) = bytes := Nat.mul_div_cancel' hreq.bytes_dvd
  by_cases hcap : s.reserveable = true
  · obtain ⟨hn, hroom⟩ := hres hcap
    subst hn
    simp only [State.pending, hcap, if_true] at hflow
    have hused : s.ring.dist (s.stop / 4) (s.advanced s.nextCmd bytes / 4) =
        s.used + bytes / 4 := by
      rw [hadv]
      refine Ring.dist_advance_right h.valid.mem_stop h.valid.mem_next ?_
      change s.used + bytes / 4 < _
      omega
    have hnext : (s.finish s.nextCmd bytes).nextCmd = s.advanced s.nextCmd bytes := by
      simp [State.finish, hcap]
    refine of_pc _ rfl { h.valid with
      next_dvd := hnext ▸ hdvd, next_ge := hnext ▸ hge, next_lt := hnext ▸ hlt } ?_
      ⟨hreq.reservedSize, hdyn⟩
    change s.committed = s.consumed ++ s.ring.read s.mem (s.stop / 4)
      (s.ring.dist (s.stop / 4) ((s.finish s.nextCmd bytes).nextCmd / 4)) ++ []
    rw [hnext, hused, Ring.read_append h.valid.mem_stop (by omega), h.valid.advance_used, hflow]
    simp
  · have hcap' : s.reserveable = false := by simpa using hcap
    have hsame : (s.finish n bytes).nextCmd = s.nextCmd := by
      by_cases hbounce : s.usingBounceBuffer = true
      · have heq := hslow hcap' hbounce
        have := h.valid.next_dvd
        simp only [State.finish, hbounce, Bool.true_or, if_true]
        omega
      · simp [State.finish, hbounce, hcap']
    simp only [State.pending, hcap'] at hflow
    refine of_pc _ rfl { h.valid with
      next_dvd := hsame ▸ h.valid.next_dvd, next_ge := hsame ▸ h.valid.next_ge,
      next_lt := hsame ▸ h.valid.next_lt } ?_ ⟨hreq.reservedSize, hdyn⟩
    change s.committed = s.consumed ++ s.ring.read s.mem (s.stop / 4)
      (s.ring.dist (s.stop / 4) ((s.finish n bytes).nextCmd / 4)) ++ []
    rw [hsame]
    exact hflow

theorem consume (h : Inv s) (hne : s.stop ≠ s.nextCmd) : Inv s.consume := by
  have hflow := h.flow
  have hused := h.valid.used_consume hne
  have hpc : s.consume.pc = s.pc := rfl
  refine of_pc _ hpc h.valid.consume ?_ ?_
  · change s.committed = s.consumed ++ [s.mem (s.stop / 4)] ++
      s.ring.read s.mem (s.consume.stop / 4) s.consume.used ++ s.pending s.pc
    rw [h.valid.consume_stop, hflow, ← hused, Ring.read_cons]
    simp
  · have hok := h.pcOk
    cases hcase : s.pc with
    | full bytes n =>
      rw [hcase] at hok
      refine ⟨{ hok.1 with }, ?_⟩
      have hle : s.stop ≤ s.nextCmd := hok.2
      obtain ⟨_, _, _, _, _, _, _, _, _⟩ := h.valid
      simp only [State.consume]
      split_ifs <;> omega
    | reserve bytes n =>
      rw [hcase] at hok
      exact { hok with }
    | wait bytes n =>
      rw [hcase] at hok
      exact { hok with }
    | idle =>
      rw [hcase] at hok
      exact hok
    | reserved n =>
      rw [hcase] at hok
      obtain ⟨hn, hroom, hrest⟩ := hok
      refine ⟨hn, ?_, hrest⟩
      change 4 * s.consume.used + s.reservedSize < s.max - s.min
      omega
    | resCopy n bytes i =>
      rw [hcase] at hok
      obtain ⟨hreq, hbounce, hcap, hn, hroom, hrest⟩ := hok
      refine ⟨{ hreq with }, hbounce, hcap, hn, ?_, hrest⟩
      change 4 * s.consume.used + bytes < s.max - s.min
      omega
    | slowCopy n bytes cur i =>
      rw [hcase] at hok
      obtain ⟨hreq, hbounce, hcap, hcur, hi, hnext, hroom⟩ := hok
      refine ⟨{ hreq with }, hbounce, hcap, hcur, hi, hnext, ?_⟩
      change 4 * (s.consume.used + (bytes / 4 - i)) < s.max - s.min
      omega
    | slowNext n bytes cur i =>
      rw [hcase] at hok
      obtain ⟨hreq, hbounce, hcap, hpos, hi, hnext, hcur, hdvd, hge, hlt, hmem, hroom⟩ := hok
      refine ⟨{ hreq with }, hbounce, hcap, hpos, hi, hnext, hcur, hdvd, hge, hlt, hmem, ?_⟩
      change 4 * (s.consume.used + (bytes / 4 - (i - 1))) < s.max - s.min
      omega
    | publish n bytes =>
      rw [hcase] at hok
      obtain ⟨hreq, hdyn, hres, hrest⟩ := hok
      refine ⟨{ hreq with }, hdyn, fun hcap => ⟨(hres hcap).1, ?_⟩, hrest⟩
      have hroom := (hres hcap).2
      change 4 * s.consume.used + bytes < s.max - s.min
      omega
    | stuck => trivial
    | bug => trivial

/-- What one step preserves. -/
theorem step (h : Inv s) {a : Act} (hok : Delivered s a) (hstep : step s a = some s') : Inv s' := by
  cases a with
  | reserve bytes =>
    simp only [Fifo.step] at hstep
    split_ifs at hstep with hpc
    cases hstep
    exact h.reserveStart hpc hok
  | loop buf =>
    simp only [Fifo.step] at hstep
    split at hstep
    case h_1 bytes n hpc =>
      cases hstep
      exact h.reserveLoop hpc buf
    case h_2 => cases hstep
  | isFull buf =>
    simp only [Fifo.step] at hstep
    split at hstep
    case h_1 bytes n hpc =>
      cases hstep
      exact h.reserveFull hpc buf
    case h_2 => cases hstep
  | wait timeout =>
    simp only [Fifo.step] at hstep
    split at hstep
    case h_1 bytes n hpc =>
      split_ifs at hstep
      · cases hstep
        exact h.waitTimeout hpc
      · cases hstep
        exact h.waitDone hpc
    case h_2 => cases hstep
  | fill k w =>
    simp only [Fifo.step] at hstep
    split at hstep
    case h_1 n hpc =>
      split_ifs at hstep with hk
      cases hstep
      exact h.fill hpc hk w
    case h_2 => cases hstep
  | commit bytes =>
    simp only [Fifo.step] at hstep
    split at hstep
    case h_1 n hpc =>
      cases hstep
      exact h.commitStart hpc hok.1 hok.2.1 hok.2.2
    case h_2 => cases hstep
  | copy =>
    simp only [Fifo.step] at hstep
    split at hstep
    case h_1 n bytes i hpc =>
      cases hstep
      exact h.resCopy hpc
    case h_2 n bytes cur i hpc =>
      cases hstep
      exact h.slowCopy hpc
    case h_3 n bytes cur i hpc =>
      cases hstep
      exact h.slowNext hpc
    case h_4 => cases hstep
  | publish =>
    simp only [Fifo.step] at hstep
    split at hstep
    case h_1 n bytes hpc =>
      cases hstep
      exact h.finish hpc
    case h_2 => cases hstep
  | device =>
    simp only [Fifo.step] at hstep
    split_ifs at hstep with hne
    cases hstep
    exact h.consume hne

theorem run (h : Inv s) {as : List Act} (hrun : Run Fifo.step Delivered s as s') : Inv s' :=
  hrun.invariant (fun _ _ _ hok hstep h => h.step hok hstep) h

end Inv

/-- A FIFO nobody holds. -/
structure Idle (s : State) : Prop where
  valid : Valid s
  pc : s.pc = .idle
  reservedSize : s.reservedSize = 0
  dynamicBuffer : s.dynamicBuffer = none
  unread : s.unread = s.used

/-- A FIFO nobody holds, with what is in its ring counted as committed. -/
structure Start (s : State) : Prop extends Idle s where
  consumed : s.consumed = []
  committed : s.committed = s.ring.read s.mem (s.stop / 4) s.used

theorem Start.inv {s : State} (h : Start s) : Inv s :=
  Inv.of_pc _ h.pc h.valid (by simp [h.consumed, h.committed, State.pending])
    ⟨h.reservedSize, h.dynamicBuffer⟩

/-- The device reads the committed words in order, and what it has not read of them
is in the ring whenever the driver is out of `vmw_fifo_commit`. -/
theorem consumed_prefix_committed {s s' : State} {as : List Act} (h : Start s)
    (hrun : Run step Delivered s as s') :
    s'.consumed <+: s'.committed ∧
      (s'.pc = .idle →
        s'.committed = s'.consumed ++ s'.ring.read s'.mem (s'.stop / 4) s'.used) := by
  have hinv := h.inv.run hrun
  constructor
  · rw [hinv.flow, List.append_assoc]
    exact List.prefix_append _ _
  · intro hpc
    exact (hinv.flow_at hpc).trans (List.append_nil _)

/-- An empty FIFO of one page, as `vmw_fifo_init` leaves it. -/
def onePage (reserveable : Bool) : State where
  max := 8192
  min := 4096
  nextCmd := 4096
  stop := 4096
  reserved := 0
  mem := fun _ => 0
  reserveable := reserveable
  staticBufferSize := 1024 * 1024
  staticBuffer := fun _ => 0
  dynamicBuffer := none
  reservedSize := 0
  usingBounceBuffer := false
  pc := .idle
  committed := []
  consumed := []
  unread := 0

theorem start_onePage (reserveable : Bool) : Start (onePage reserveable) where
  valid := by constructor <;> simp only [onePage] <;> omega
  pc := rfl
  reservedSize := rfl
  dynamicBuffer := rfl
  consumed := rfl
  committed := by simp [onePage, State.used]
  unread := by simp [onePage, State.used]

/-- Commits of whole words of what was reserved. -/
def legal (s : State) : Act → Bool
  | .commit bytes => bytes % 4 = 0 && bytes ≤ s.reservedSize
  | _ => true

/-- Without SVGA_FIFO_CAP_RESERVE a command of one word is reserved in place, and its
commit leaves NEXT_CMD alone: the next command overwrites it. -/
theorem oneWord_lost :
    ∃ s', Run step (fun s a => legal s a) (onePage false)
      [.reserve 4, .loop none, .fill 0 7, .commit 4, .publish,
        .reserve 8, .loop none, .fill 0 1, .fill 1 2, .commit 8,
        .copy, .copy, .copy, .copy, .copy, .publish, .device] s' ∧
      s'.committed = [7, 1, 2] ∧ s'.consumed = [1] ∧ ¬ s'.consumed <+: s'.committed := by
  have h : ((exec step legal (onePage false)
      [.reserve 4, .loop none, .fill 0 7, .commit 4, .publish,
        .reserve 8, .loop none, .fill 0 1, .fill 1 2, .commit 8,
        .copy, .copy, .copy, .copy, .copy, .publish, .device]).map
          (fun s' => (s'.committed, s'.consumed))) = some ([7, 1, 2], [1]) := by
    decide +kernel
  obtain ⟨s', hexec, hs'⟩ := Option.map_eq_some_iff.mp h
  obtain ⟨hcommitted, hconsumed⟩ := Prod.mk.inj hs'
  refine ⟨s', Run.of_exec hexec, hcommitted, hconsumed, ?_⟩
  rw [hcommitted, hconsumed]
  decide

/-- With the capability the word arrives. -/
theorem consumed_prefix_committed_oneWord :
    ∃ s', Run step Delivered (onePage true)
      [.reserve 4, .loop none, .fill 0 7, .commit 4, .publish, .device] s' ∧
      s'.consumed = [7] ∧ s'.consumed <+: s'.committed := by
  have h : ((exec step (fun s a => decide (Delivered s a)) (onePage true)
      [.reserve 4, .loop none, .fill 0 7, .commit 4, .publish, .device]).map
          (fun s' => s'.consumed)) = some [7] := by
    decide +kernel
  obtain ⟨s', hexec, hs'⟩ := Option.map_eq_some_iff.mp h
  have hrun : Run step Delivered (onePage true) _ s' :=
    (Run.of_exec hexec).mono (fun _ _ hok => of_decide_eq_true hok)
  exact ⟨s', hrun, hs', (consumed_prefix_committed (start_onePage true) hrun).1⟩

end Vmwgfx.Fifo
