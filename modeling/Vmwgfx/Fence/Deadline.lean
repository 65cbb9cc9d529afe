import Vmwgfx.Object.Entry

/-! The deadline of `vmw_fence_obj_wait_ioctl` over restarts.  Time is counted in ticks without
wrap; the code sees it modulo the size of an `unsigned long`. -/

namespace Vmwgfx.Fence.Deadline

open Vmwgfx.Object (FenceWaitArg waitTimeout DRM_VMW_WAIT_OPTION_UNREF)

def ERESTARTSYS : Int := 512

structure Machine where
  /-- `ULONG_MAX + 1` -/
  size : Nat
  hz : BitVec 64
  size_eq : size = 2 ^ 32 ∨ size = 2 ^ 64

/-- Also `MAX_SCHEDULE_TIMEOUT`, a wait without a limit. -/
def Machine.longMax (m : Machine) : Nat := m.size / 2 - 1

/-- How `wait_event_interruptible_timeout` ends. -/
inductive Waited
  | signaled
  | elapsed
  | interrupted
  deriving DecidableEq

/-- What a call meets. -/
structure Call where
  /-- the tick at which `kernel_cookie` is set, if it is -/
  first : Nat
  /-- the tick of the test -/
  now : Nat
  /-- the file has the handle -/
  found : Bool
  /-- `vmw_fence_obj_signaled` at the test -/
  signaled : Bool
  waited : Waited
  /-- the tick at the end of the wait -/
  finish : Nat
  /-- the file has still the handle when it is to be unreferenced -/
  held : Bool

structure Outcome where
  ret : Int
  arg : FenceWaitArg
  /-- the `timeout` of `vmw_fence_obj_wait` -/
  timeout : Option Nat
  /-- the last answer of `vmw_fence_obj_signaled` -/
  signaled : Bool
  finish : Nat
  unref : Bool

section Code

variable (m : Machine) (c : Call)

/-- `time_after_eq`. -/
def timeAfterEq (a b : Nat) : Bool := (a + (m.size - b)) % m.size < m.size / 2

/-- `(unsigned long)arg->kernel_cookie`. -/
def truncated (cookie : BitVec 64) : Nat := cookie.toNat % m.size

def startCookie (arg : FenceWaitArg) : FenceWaitArg :=
  if arg.cookieValid = 0 then
    { arg with
      cookieValid := 1
      kernelCookie := BitVec.ofNat 64 (c.first % m.size) + waitTimeout m.hz arg.timeoutUs }
  else arg

/-- `vmw_fence_obj_wait`, interruptible; with its return value the last answer of
`vmw_fence_obj_signaled` and the tick of the return. -/
def vmwFenceObjWait : Int × Bool × Nat :=
  if c.signaled then (0, true, c.now)
  else
    match c.waited with
    | .signaled => (0, true, c.finish)
    | .elapsed => (-EBUSY, false, c.finish)
    | .interrupted => (-ERESTARTSYS, false, c.finish)

/-- The end of the ioctl, with `ttm_ref_object_base_unref`. -/
def finish (arg : FenceWaitArg) (timeout : Option Nat) (r : Int × Bool × Nat) : Outcome :=
  if r.1 = 0 ∧ arg.waitOptions &&& DRM_VMW_WAIT_OPTION_UNREF ≠ 0 then
    ⟨if c.held then 0 else -EINVAL, arg, timeout, r.2.1, r.2.2, c.held⟩
  else ⟨r.1, arg, timeout, r.2.1, r.2.2, false⟩

def vmwFenceObjWaitIoctl (arg : FenceWaitArg) : Outcome :=
  let arg := startCookie m c arg
  if c.found = false then ⟨-EINVAL, arg, none, false, c.now, false⟩
  else
    let now := c.now % m.size
    let cookie := truncated m arg.kernelCookie
    if timeAfterEq m now cookie then
      finish c arg none (if c.signaled then 0 else -EBUSY, c.signaled, c.now)
    else
      finish c arg (some ((cookie + (m.size - now)) % m.size)) (vmwFenceObjWait c)

/-- The argument after some calls, the cookie left in place. -/
def restarted (arg : FenceWaitArg) : List Call → FenceWaitArg
  | [] => arg
  | c :: cs => restarted (vmwFenceObjWaitIoctl m c arg).arg cs

end Code

/-- The tick of the first call: the last one is that where none went before. -/
def firstTick (cs : List Call) (first : Nat) : Nat := (cs.head?.map Call.first).getD first

/-- The number of ticks in place of `timeout_us * HZ / 1000000`. -/
def ticks (m : Machine) (arg : FenceWaitArg) : Nat := (waitTimeout m.hz arg.timeoutUs).toNat

/-- The exact number, times 1000000. -/
def exact (m : Machine) (arg : FenceWaitArg) : Nat := arg.timeoutUs.toNat * m.hz.toNat

/-- Within a percent and three ticks. -/
def Accurate (m : Machine) (arg : FenceWaitArg) : Prop :=
  100 * (10 ^ 6 * ticks m arg) ≤ 101 * exact m arg + 3 * 10 ^ 8 ∧
    99 * exact m arg ≤ 100 * (10 ^ 6 * ticks m arg) + 3 * 10 ^ 8

/-- A wait with a limit elapses when its time is over, and not before. -/
def Call.Documented (m : Machine) (c : Call) (timeout : Nat) : Prop :=
  0 < timeout → timeout < m.longMax → c.waited = .elapsed → c.now + timeout ≤ c.finish

/-- A call behind some restarts keeps to the deadline. -/
structure Keeps (arg : FenceWaitArg) (c : Call) (deadline : Nat) (longMax : Nat) (o : Outcome) :
    Prop where
  notExtended : ∀ timeout, o.timeout = some timeout →
    c.now + timeout = deadline ∧ timeout < longMax
  busy : o.ret = -EBUSY → arg.timeoutUs ≠ 0 ∧ deadline ≤ o.finish ∧ o.signaled = false
  unref : o.unref = true → o.ret = 0

/-- The wait fixed by the first call, for the call that reads `now` from the clock behind any
calls, whatever this call meets besides. -/
def Meets (m : Machine) (arg : FenceWaitArg) (cs : List Call) (first now : Nat) : Prop :=
  Accurate m arg ∧ ∀ c : Call, c.first = first → c.now = now →
    let o := vmwFenceObjWaitIoctl m c (restarted m arg cs)
    (∀ timeout, o.timeout = some timeout → c.Documented m timeout) →
      Keeps arg c (firstTick cs first + ticks m arg) m.longMax o

/-- The shifts. -/
def shifts (w : Nat) : Nat := w / 2 ^ 20 + w / 2 ^ 24 - w / 2 ^ 26

/-- The clock is near enough to the deadline for `time_after_eq` and for a wait with a limit. -/
def Near (m : Machine) (deadline now : Nat) : Prop :=
  (now < deadline → deadline - now < m.longMax) ∧
    (deadline ≤ now → (now - deadline) % m.size < m.size / 2)

theorem ticks_eq (m : Machine) (arg : FenceWaitArg) :
    ticks m arg = shifts (exact m arg % 2 ^ 64) := by
  unfold ticks waitTimeout shifts exact
  simp only [BitVec.toNat_sub, BitVec.toNat_add, BitVec.toNat_ushiftRight, BitVec.toNat_mul,
    Nat.shiftRight_eq_div_pow]
  omega

/-- The shifts lose less than two ticks a thousand, but not a product over 64 bits. -/
theorem accurate_iff (m : Machine) (arg : FenceWaitArg) : Accurate m arg ↔ exact m arg < 2 ^ 64 := by
  unfold Accurate
  rw [ticks_eq]
  generalize exact m arg = w
  unfold shifts
  constructor
  · rintro ⟨-, hlow⟩
    by_contra hlarge
    omega
  · intro hsmall
    rw [Nat.mod_eq_of_lt hsmall]
    omega

theorem zero_ne_busy : (0 : Int) ≠ -EBUSY := by decide

theorem einval_ne_busy : -EINVAL ≠ -EBUSY := by decide

theorem restart_ne_busy : -ERESTARTSYS ≠ -EBUSY := by decide

section Cookie

variable {m : Machine} {arg : FenceWaitArg} {c : Call}

variable (c arg) in
theorem finish_eq (timeout : Option Nat) (r : Int × Bool × Nat) :
    (finish c arg timeout r).arg = arg ∧ (finish c arg timeout r).timeout = timeout ∧
      (finish c arg timeout r).signaled = r.2.1 ∧ (finish c arg timeout r).finish = r.2.2 := by
  unfold finish
  split <;> exact ⟨rfl, rfl, rfl, rfl⟩

theorem finish_busy {timeout : Option Nat} {r : Int × Bool × Nat}
    (h : (finish c arg timeout r).ret = -EBUSY) : r.1 = -EBUSY := by
  unfold finish at h
  split at h
  · change (if c.held = true then (0 : Int) else -EINVAL) = -EBUSY at h
    split at h
    · exact absurd h zero_ne_busy
    · exact absurd h einval_ne_busy
  · exact h

theorem finish_ret {timeout : Option Nat} {r : Int × Bool × Nat} (h : r.1 ≠ 0) :
    (finish c arg timeout r).ret = r.1 := by
  unfold finish
  rw [if_neg (fun hc => h hc.1)]

theorem finish_unref {timeout : Option Nat} {r : Int × Bool × Nat}
    (h : (finish c arg timeout r).unref = true) : (finish c arg timeout r).ret = 0 := by
  unfold finish at h ⊢
  split at h
  case isTrue hc =>
    rw [if_pos hc]
    exact if_pos h
  case isFalse => cases h

theorem ioctl_arg : (vmwFenceObjWaitIoctl m c arg).arg = startCookie m c arg := by
  unfold vmwFenceObjWaitIoctl
  dsimp only
  split
  · rfl
  · split <;> exact (finish_eq _ _ _ _).1

theorem startCookie_eq (h : arg.cookieValid ≠ 0) : startCookie m c arg = arg := if_neg h

theorem restarted_eq (cs : List Call) (h : arg.cookieValid ≠ 0) : restarted m arg cs = arg := by
  induction cs with
  | nil => rfl
  | cons c cs ih =>
    unfold restarted
    rw [ioctl_arg, startCookie_eq h, ih]

/-- The cookie is that of the first call. -/
theorem startCookie_restarted (h : arg.cookieValid = 0) (cs : List Call) (c : Call) :
    startCookie m c (restarted m arg cs) =
      { arg with
        cookieValid := 1
        kernelCookie := BitVec.ofNat 64 (firstTick cs c.first % m.size) + waitTimeout m.hz arg.timeoutUs } := by
  cases cs with
  | nil =>
    unfold restarted startCookie
    rw [if_pos h]
    rfl
  | cons c' cs =>
    have hstart : startCookie m c' arg =
        { arg with
          cookieValid := 1
          kernelCookie := BitVec.ofNat 64 (c'.first % m.size) + waitTimeout m.hz arg.timeoutUs } :=
      if_pos h
    unfold restarted
    rw [ioctl_arg, restarted_eq cs (by rw [hstart]; exact Int.one_ne_zero), startCookie_eq, hstart]
    · rfl
    · rw [hstart]
      exact Int.one_ne_zero

theorem truncated_cookie (m : Machine) (first : Nat) (w : BitVec 64) :
    truncated m (BitVec.ofNat 64 (first % m.size) + w) = (first + w.toNat) % m.size := by
  unfold truncated
  rw [BitVec.toNat_add, BitVec.toNat_ofNat]
  rcases m.size_eq with hsize | hsize <;> rw [hsize] <;> omega

end Cookie

section Test

variable {m : Machine} {deadline now : Nat}

theorem timeAfterEq_of_le (h : deadline ≤ now) :
    timeAfterEq m (now % m.size) (deadline % m.size) = true ↔ (now - deadline) % m.size < m.size / 2 := by
  unfold timeAfterEq
  rw [decide_eq_true_eq]
  rcases m.size_eq with hsize | hsize <;> rw [hsize] <;> omega

theorem timeAfterEq_of_lt (h : now < deadline) (hnear : deadline - now < m.longMax) :
    ¬ timeAfterEq m (now % m.size) (deadline % m.size) = true := by
  unfold timeAfterEq
  unfold Machine.longMax at hnear
  rw [decide_eq_true_eq]
  rcases m.size_eq with hsize | hsize <;> rw [hsize] at hnear ⊢ <;> omega

theorem timeout_of_lt (h : now < deadline) (hnear : deadline - now < m.longMax) :
    (deadline % m.size + (m.size - now % m.size)) % m.size = deadline - now := by
  unfold Machine.longMax at hnear
  rcases m.size_eq with hsize | hsize <;> rw [hsize] at hnear ⊢ <;> omega

theorem timeout_zero (h : deadline ≤ now)
    (hzero : (deadline % m.size + (m.size - now % m.size)) % m.size = 0) :
    (now - deadline) % m.size = 0 := by
  rcases m.size_eq with hsize | hsize <;> rw [hsize] at hzero ⊢ <;> omega

end Test

section Call

variable {m : Machine} {arg : FenceWaitArg} {cs : List Call} {c : Call}

variable (m cs c) in
/-- The call with the cookie of the first one. -/
theorem ioctl_restarted (h : arg.cookieValid = 0) (hfound : c.found = true) :
    ∃ arg' : FenceWaitArg, vmwFenceObjWaitIoctl m c (restarted m arg cs) =
      let deadline := firstTick cs c.first + ticks m arg
      if timeAfterEq m (c.now % m.size) (deadline % m.size) then
        finish c arg' none (if c.signaled then 0 else -EBUSY, c.signaled, c.now)
      else
        finish c arg' (some ((deadline % m.size + (m.size - c.now % m.size)) % m.size))
          (vmwFenceObjWait c) := by
  unfold vmwFenceObjWaitIoctl
  rw [startCookie_restarted h]
  dsimp only
  rw [if_neg (fun hnone => Bool.false_ne_true (hnone.symm.trans hfound)), truncated_cookie]
  exact ⟨_, rfl⟩

theorem vmwFenceObjWait_busy (h : (vmwFenceObjWait c).1 = -EBUSY) :
    c.waited = .elapsed ∧ (vmwFenceObjWait c).2 = (false, c.finish) := by
  unfold vmwFenceObjWait at h ⊢
  cases hsig : c.signaled with
  | true =>
    rw [hsig, if_pos rfl] at h
    exact absurd h zero_ne_busy
  | false =>
    rw [hsig, if_neg Bool.false_ne_true] at h
    rw [if_neg Bool.false_ne_true]
    cases hwait : c.waited with
    | elapsed => exact ⟨rfl, rfl⟩
    | signaled =>
      rw [hwait] at h
      exact absurd h zero_ne_busy
    | interrupted =>
      rw [hwait] at h
      exact absurd h restart_ne_busy

theorem keeps_of_near (h : arg.cookieValid = 0) (htimeout : arg.timeoutUs ≠ 0)
    (hnear : Near m (firstTick cs c.first + ticks m arg) c.now)
    (hdoc : ∀ timeout, (vmwFenceObjWaitIoctl m c (restarted m arg cs)).timeout = some timeout →
      c.Documented m timeout) :
    Keeps arg c (firstTick cs c.first + ticks m arg) m.longMax
      (vmwFenceObjWaitIoctl m c (restarted m arg cs)) := by
  by_cases hfound : c.found = true
  case neg =>
    have hnone : c.found = false := Bool.eq_false_iff.mpr hfound
    unfold vmwFenceObjWaitIoctl
    dsimp only
    rw [if_pos hnone]
    exact
    { notExtended := by
        intro timeout ht
        cases ht
      busy := fun hb => absurd hb einval_ne_busy
      unref := Bool.noConfusion }
  case pos =>
    obtain ⟨arg', hcall⟩ := ioctl_restarted m cs c h hfound
    rw [hcall] at hdoc ⊢
    generalize firstTick cs c.first + ticks m arg = deadline at hnear hdoc ⊢
    dsimp only at hdoc ⊢
    by_cases hpassed : deadline ≤ c.now
    · have htest := (timeAfterEq_of_le hpassed).mpr (hnear.2 hpassed)
      rw [if_pos htest]
      obtain ⟨-, htime, hsig, hfinish⟩ := finish_eq arg' c none
        (if c.signaled then 0 else -EBUSY, c.signaled, c.now)
      exact
      { notExtended := by
          intro timeout ht
          rw [htime] at ht
          cases ht
        busy := by
          intro hb
          refine ⟨htimeout, hfinish ▸ hpassed, hsig.trans ?_⟩
          have hret := finish_busy hb
          cases hs : c.signaled with
          | true =>
            rw [hs] at hret
            exact absurd hret zero_ne_busy
          | false => rfl
        unref := finish_unref }
    · have hlt : c.now < deadline := Nat.lt_of_not_le hpassed
      have hlimit := hnear.1 hlt
      rw [if_neg (timeAfterEq_of_lt hlt hlimit), timeout_of_lt hlt hlimit] at hdoc ⊢
      obtain ⟨-, htime, hsig, hfinish⟩ := finish_eq arg' c (some (deadline - c.now))
        (vmwFenceObjWait c)
      exact
      { notExtended := by
          intro timeout ht
          cases htime.symm.trans ht
          exact ⟨Nat.add_sub_cancel' (Nat.le_of_lt hlt), hlimit⟩
        busy := by
          intro hb
          obtain ⟨helapsed, hrest⟩ := vmwFenceObjWait_busy (finish_busy hb)
          have hover := hdoc _ htime (Nat.sub_pos_of_lt hlt) hlimit helapsed
          rw [hfinish, hsig, hrest]
          refine ⟨htimeout, ?_, rfl⟩
          show deadline ≤ c.finish
          omega
        unref := finish_unref }

end Call

section Exact

variable {m : Machine} {arg : FenceWaitArg} {cs : List Call} {first now : Nat}

/-- A call that finds the fence unsignaled and is interrupted in its wait. -/
def unsignaled (first now : Nat) : Call := ⟨first, now, true, false, .interrupted, now, true⟩

/-- What such a call shows of the test. -/
theorem keeps_unsignaled (h : arg.cookieValid = 0) (hmeets : Meets m arg cs first now) :
    let deadline := firstTick cs first + ticks m arg
    (timeAfterEq m (now % m.size) (deadline % m.size) = true →
      arg.timeoutUs ≠ 0 ∧ deadline ≤ now) ∧
    (¬ timeAfterEq m (now % m.size) (deadline % m.size) = true →
      now + (deadline % m.size + (m.size - now % m.size)) % m.size = deadline ∧
        (deadline % m.size + (m.size - now % m.size)) % m.size < m.longMax) := by
  have hkeeps := hmeets.2 (unsignaled first now) rfl rfl
    (fun timeout _ _ _ helapsed => by cases helapsed)
  obtain ⟨arg', hcall⟩ := ioctl_restarted m cs (unsignaled first now) h rfl
  rw [hcall] at hkeeps
  dsimp only
  change Keeps arg _ (firstTick cs first + ticks m arg) _ (if timeAfterEq m (now % m.size)
    ((firstTick cs first + ticks m arg) % m.size) = true then finish _ arg' none (-EBUSY, false, now)
    else finish _ arg' (some (((firstTick cs first + ticks m arg) % m.size +
      (m.size - now % m.size)) % m.size)) _) at hkeeps
  generalize firstTick cs first + ticks m arg = deadline at hkeeps ⊢
  constructor
  · intro htest
    rw [if_pos htest] at hkeeps
    obtain ⟨htimeout, hpassed, -⟩ := hkeeps.busy (finish_ret zero_ne_busy.symm)
    rw [(finish_eq _ _ _ _).2.2.2] at hpassed
    exact ⟨htimeout, hpassed⟩
  · intro htest
    rw [if_neg htest] at hkeeps
    exact hkeeps.notExtended _ (finish_eq _ _ _ _).2.1

theorem near_of_meets (h : arg.cookieValid = 0) (hmeets : Meets m arg cs first now) :
    Near m (firstTick cs first + ticks m arg) now := by
  obtain ⟨hpassed, hwaits⟩ := keeps_unsignaled h hmeets
  generalize firstTick cs first + ticks m arg = deadline at hpassed hwaits ⊢
  by_cases htest : timeAfterEq m (now % m.size) (deadline % m.size) = true
  · have hle := (hpassed htest).2
    exact ⟨fun hlt => absurd hle (Nat.not_le.mpr hlt), fun _ => (timeAfterEq_of_le hle).mp htest⟩
  · obtain ⟨hdeadline, hlimit⟩ := hwaits htest
    refine ⟨fun _ => by omega, fun hle => ?_⟩
    have hzero := timeout_zero (m := m) hle (by omega)
    exact absurd ((timeAfterEq_of_le hle).mpr (by rw [hzero]; rcases m.size_eq with hs | hs <;> rw [hs] <;> decide))
      htest

end Exact

/-- The wait is right where the product fits, the timeout is not 0 and the clock is near. -/
theorem fence_wait_deadline_iff (m : Machine) (arg : FenceWaitArg) (h : arg.cookieValid = 0)
    (cs : List Call) (first now : Nat) (hclock : firstTick cs first ≤ now) :
    Meets m arg cs first now ↔
      arg.timeoutUs ≠ 0 ∧ exact m arg < 2 ^ 64 ∧
        Near m (firstTick cs first + shifts (exact m arg)) now := by
  constructor
  · intro hmeets
    have hfits := (accurate_iff m arg).mp hmeets.1
    have hnear := near_of_meets h hmeets
    have hticks : ticks m arg = shifts (exact m arg) := by rw [ticks_eq, Nat.mod_eq_of_lt hfits]
    refine ⟨?_, hfits, hticks ▸ hnear⟩
    intro hzero
    have hexact : exact m arg = 0 := by rw [exact, hzero]; exact Nat.zero_mul _
    rw [hexact] at hticks
    have hle : firstTick cs first + ticks m arg ≤ now := by
      rw [hticks]
      exact hclock
    exact ((keeps_unsignaled h hmeets).1 ((timeAfterEq_of_le hle).mpr (hnear.2 hle))).1 hzero
  · rintro ⟨htimeout, hfits, hnear⟩
    refine ⟨(accurate_iff m arg).mpr hfits, ?_⟩
    rintro c rfl rfl o hdoc
    have hticks : ticks m arg = shifts (exact m arg) := by rw [ticks_eq, Nat.mod_eq_of_lt hfits]
    exact keeps_of_near h htimeout (hticks.symm ▸ hnear) hdoc

section Example

private def anyMachine : Machine := ⟨2 ^ 64, 1000, .inr rfl⟩

/-- One second, with 1000 ticks a second; the call is restarted after half of it. -/
theorem fence_wait_second :
    Meets anyMachine ⟨1, 0, 0, 1000000, 0, 1, 0⟩ [unsignaled 5 5] 505 505 :=
  (fence_wait_deadline_iff anyMachine ⟨1, 0, 0, 1000000, 0, 1, 0⟩ rfl [unsignaled 5 5] 505 505
    (by decide)).mpr ⟨by decide, by decide, by decide, by decide⟩

/-- A timeout of 0 does not wait. -/
theorem fence_wait_zero : ¬ ∀ m arg cs first now, arg.cookieValid = 0 → firstTick cs first ≤ now →
    Meets m arg cs first now := by
  intro h
  have hmeets := h anyMachine ⟨1, 0, 0, 0, 0, 1, 0⟩ [] 5 5 rfl (by decide)
  exact ((keeps_unsignaled rfl hmeets).1 (by decide)).1 rfl

end Example

end Vmwgfx.Fence.Deadline
