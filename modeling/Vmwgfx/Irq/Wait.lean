import Vmwgfx.Irq.Seqno
import Vmwgfx.Kernel

/-! Waiting for a seqno: the three strategies of `vmw_wait_seqno`. -/

namespace Vmwgfx.Irq

open Lib

def ERESTARTSYS : Int := 512

/-- What one round of a wait reads.  `left` is the time left, in jiffies. -/
structure Reading where
  markerSeq : Nat
  lastReadSeqno : Nat
  fifoFence : Nat
  /-- `SVGA_REG_BUSY` is 0. -/
  idle : Bool
  left : Nat
  signal : Bool
  deriving DecidableEq

/-- The words the driver works with. -/
def Reading.dev (r : Reading) (capFence : Bool) : VmwPrivate :=
  ⟨r.markerSeq, r.lastReadSeqno, r.fifoFence, capFence⟩

inductive Exit
  | condition | timeout | signal
  deriving DecidableEq

/-- The rounds of a wait; `none` is a wait that goes on. -/
def waitLoop (condition : Reading → Bool) (interruptible : Bool) : List Reading → Option (Exit × Reading)
  | [] => none
  | r :: rs =>
    if condition r then some (.condition, r)
    else if r.left = 0 then some (.timeout, r)
    else if interruptible && r.signal then some (.signal, r)
    else waitLoop condition interruptible rs

/-- How a wait ends: its return value, the words after it, what it stored to `SVGA_FIFO_FENCE`,
and what its last round had read. -/
structure Waited where
  ret : Int
  dev : VmwPrivate
  stored : Option Nat
  last : Reading
  deriving DecidableEq

section Strategies

variable (capFence : Bool) (seqno : Nat)

def seqnoPassed (r : Reading) : Bool := (vmwSeqnoPassed (r.dev capFence) r.idle seqno).1

/-- `vmw_fallback_wait`; `signalSeq` is `marker_seq` at its start.  How it sleeps between two
rounds makes no difference here. -/
def vmwFallbackWait (fifoIdle interruptible : Bool) (signalSeq : Nat) (rs : List Reading) : Option Waited :=
  let condition := if fifoIdle then Reading.idle else seqnoPassed capFence seqno
  (waitLoop condition interruptible rs).map fun (exit, r) =>
    let ret := if exit = .signal then -ERESTARTSYS else 0
    let dev := if fifoIdle then r.dev capFence else (vmwSeqnoPassed (r.dev capFence) r.idle seqno).2
    if ret = 0 ∧ fifoIdle then ⟨ret, { dev with fifoFence := signalSeq }, some signalSeq, r⟩
    else ⟨ret, dev, none, r⟩

/-- What `wait_event_timeout` and `wait_event_interruptible_timeout` return. -/
def waitEventTimeout (interruptible : Bool) (rs : List Reading) : Option (Int × Reading) :=
  (waitLoop (seqnoPassed capFence seqno) interruptible rs).map fun (exit, r) =>
    match exit with
    | .condition => (max r.left 1, r)
    | .timeout => (0, r)
    | .signal => (-ERESTARTSYS, r)

/-- `vmw_wait_seqno`; `r₀` and `r₁` are what its first two tests read, and `irqMask` is
`SVGA_CAP_IRQMASK`. -/
def vmwWaitSeqno (irqMask interruptible : Bool) (signalSeq : Nat) (r₀ r₁ : Reading) (rs : List Reading) :
    Option Waited :=
  if sub32 r₀.lastReadSeqno seqno < VMW_FENCE_WRAP then some ⟨0, r₀.dev capFence, none, r₀⟩
  else if seqnoPassed capFence seqno r₁ then
    some ⟨0, (vmwSeqnoPassed (r₁.dev capFence) r₁.idle seqno).2, none, r₁⟩
  else if ¬ capFence then vmwFallbackWait capFence seqno true interruptible signalSeq rs
  else if ¬ irqMask then vmwFallbackWait capFence seqno false interruptible signalSeq rs
  else
    (waitEventTimeout capFence seqno interruptible rs).map fun (ret, r) =>
      let dev := (vmwSeqnoPassed (r.dev capFence) r.idle seqno).2
      ⟨if ret = 0 then -EBUSY else if ret > 0 then 0 else ret, dev, none, r⟩

end Strategies

section Passed

/-- The device or the driver has read a seqno from the window, or the seqno was never emitted. -/
def Reading.Passed (r : Reading) (seqno : Nat) : Prop :=
  sub32 r.lastReadSeqno seqno < VMW_FENCE_WRAP ∨ sub32 r.fifoFence seqno < VMW_FENCE_WRAP ∨
    VMW_FENCE_WRAP < sub32 r.markerSeq seqno

/-- What a wait that returns 0 is to have seen. -/
def Reading.Done (capFence : Bool) (seqno : Nat) (r : Reading) : Prop :=
  r.Passed seqno ∨ capFence = false ∧ r.idle = true

variable {capFence : Bool} {seqno : Nat} {r : Reading}

theorem lastReadSeqno_vmwUpdateSeqno (d : VmwPrivate) : (vmwUpdateSeqno d).lastReadSeqno = d.fifoFence := by
  unfold vmwUpdateSeqno
  split
  · rfl
  · rename_i heq
    exact Classical.not_not.mp heq

theorem vmwUpdateSeqno_words (d : VmwPrivate) :
    (vmwUpdateSeqno d).markerSeq = d.markerSeq ∧ (vmwUpdateSeqno d).capFence = d.capFence := by
  unfold vmwUpdateSeqno
  split <;> exact ⟨rfl, rfl⟩

theorem seqnoPassed_iff_done : seqnoPassed capFence seqno r = true ↔ r.Done capFence seqno := by
  obtain ⟨hmarker, hcap⟩ := vmwUpdateSeqno_words (r.dev capFence)
  unfold seqnoPassed vmwSeqnoPassed
  dsimp only
  rw [lastReadSeqno_vmwUpdateSeqno, hmarker, hcap]
  unfold Reading.Done Reading.Passed Reading.dev
  dsimp only
  split
  · rename_i hread
    simp [hread]
  · rename_i hread
    split
    · rename_i hfence
      simp [hfence]
    · rename_i hfence
      split
      · rename_i hidle
        simp only [Bool.not_eq_true] at hidle
        simp [hidle]
      · rename_i hidle
        simp only [Bool.not_eq_true] at hidle
        simp [hread, hfence, hidle]

end Passed

section Loop

variable {condition : Reading → Bool} {interruptible : Bool} {rs : List Reading} {r : Reading} {exit : Exit}

/-- The round is the last one. -/
def Leaves (condition : Reading → Bool) (interruptible : Bool) (r : Reading) : Prop :=
  condition r = true ∨ r.left = 0 ∨ interruptible = true ∧ r.signal = true

/-- When the time runs out on the wait, that round has read what `good` says. -/
def OnTime (condition : Reading → Bool) (interruptible : Bool) (good : Reading → Prop) (rs : List Reading) :
    Prop :=
  ∀ before r after, rs = before ++ r :: after → (∀ q ∈ before, ¬ Leaves condition interruptible q) →
    r.left = 0 → good r

theorem waitLoop_cons_of_leaves (h : Leaves condition interruptible r) (rs : List Reading) :
    waitLoop condition interruptible (r :: rs) =
      some (if condition r then .condition else if r.left = 0 then .timeout else .signal, r) := by
  unfold waitLoop
  split
  · rfl
  · split
    · rfl
    · rename_i hcond htime
      rw [if_pos]
      rw [Bool.and_eq_true]
      rcases h with h | h | h
      · exact absurd h hcond
      · exact absurd h htime
      · exact h

theorem waitLoop_cons_of_not_leaves (h : ¬ Leaves condition interruptible r) (rs : List Reading) :
    waitLoop condition interruptible (r :: rs) = waitLoop condition interruptible rs := by
  unfold Leaves at h
  push Not at h
  conv_lhs => unfold waitLoop
  rw [if_neg h.1, if_neg h.2.1, if_neg]
  rw [Bool.and_eq_true]
  exact fun hs => h.2.2 hs.1 hs.2

/-- The wait ends in its first round that leaves. -/
theorem waitLoop_eq_some_iff :
    waitLoop condition interruptible rs = some (exit, r) ↔
      ∃ before after, rs = before ++ r :: after ∧ (∀ q ∈ before, ¬ Leaves condition interruptible q) ∧
        Leaves condition interruptible r ∧
        exit = if condition r then .condition else if r.left = 0 then .timeout else .signal := by
  induction rs with
  | nil => simp [waitLoop]
  | cons q rs ih =>
    by_cases hq : Leaves condition interruptible q
    · rw [waitLoop_cons_of_leaves hq]
      constructor
      · intro h
        cases h
        exact ⟨[], rs, rfl, by simp, hq, rfl⟩
      · rintro ⟨before, after, heq, hbefore, -, rfl⟩
        cases before with
        | nil =>
          cases heq
          rfl
        | cons q' before =>
          cases heq
          exact absurd hq (hbefore q List.mem_cons_self)
    · rw [waitLoop_cons_of_not_leaves hq, ih]
      constructor
      · rintro ⟨before, after, rfl, hbefore, hr, hexit⟩
        refine ⟨q :: before, after, rfl, ?_, hr, hexit⟩
        intro q' hq'
        cases hq' with
        | head => exact hq
        | tail _ hmem => exact hbefore q' hmem
      · rintro ⟨before, after, heq, hbefore, hr, hexit⟩
        cases before with
        | nil =>
          cases heq
          exact absurd hr hq
        | cons q' before =>
          cases heq
          exact ⟨before, after, rfl, fun q' hq' => hbefore q' (List.mem_cons_of_mem _ hq'), hr, hexit⟩

theorem waitLoop_isSome (h : ∃ r ∈ rs, r.left = 0) : (waitLoop condition interruptible rs).isSome = true := by
  induction rs with
  | nil =>
    obtain ⟨r, hr, -⟩ := h
    cases hr
  | cons q rs ih =>
    by_cases hq : Leaves condition interruptible q
    · rw [waitLoop_cons_of_leaves hq]
      rfl
    · rw [waitLoop_cons_of_not_leaves hq]
      obtain ⟨r, hr, hleft⟩ := h
      apply ih
      cases hr with
      | head => exact absurd (.inr (.inl hleft)) hq
      | tail _ hmem => exact ⟨r, hmem, hleft⟩

/-- A wait that does not end by a signal has read what it is to, just when it is on time. -/
theorem waitLoop_good_iff {good : Reading → Prop} (hgood : ∀ r, condition r = true → good r) :
    (∀ exit r, waitLoop condition interruptible rs = some (exit, r) → exit ≠ .signal → good r) ↔
      OnTime condition interruptible good rs := by
  constructor
  · intro h before r after heq hbefore hleft
    have hexit := h _ r (waitLoop_eq_some_iff.mpr ⟨before, after, heq, hbefore, .inr (.inl hleft), rfl⟩)
    apply hexit
    rw [if_pos hleft]
    split <;> decide
  · intro h exit r hwait hexit
    obtain ⟨before, after, heq, hbefore, hr, rfl⟩ := waitLoop_eq_some_iff.mp hwait
    by_cases hcond : condition r = true
    · exact hgood r hcond
    · by_cases hleft : r.left = 0
      · exact h before r after heq hbefore hleft
      · rw [if_neg hcond, if_neg hleft] at hexit
        exact absurd rfl hexit

end Loop

section Claim

variable (capFence irqMask fifoIdle interruptible : Bool) (seqno signalSeq : Nat) (rs : List Reading)

/-- Nothing is stored to `SVGA_FIFO_FENCE` before the FIFO was seen idle. -/
def StoresWhenIdle : Prop :=
  ∀ w, vmwFallbackWait capFence seqno fifoIdle interruptible signalSeq rs = some w →
    w.stored ≠ none → w.last.idle = true

/-- A wait returns 0 only when the seqno has passed, or without fences when the FIFO was idle. -/
def ReturnsWhenDone (r₀ r₁ : Reading) : Prop :=
  ∀ w, vmwWaitSeqno capFence seqno irqMask interruptible signalSeq r₀ r₁ rs = some w →
    w.ret = 0 → w.last.Done capFence seqno

/-- The condition that `vmw_fallback_wait` polls. -/
def fallbackCondition : Reading → Bool := if fifoIdle then Reading.idle else seqnoPassed capFence seqno

variable {capFence irqMask fifoIdle interruptible seqno signalSeq rs} {w : Waited}

theorem vmwFallbackWait_eq_some
    (h : vmwFallbackWait capFence seqno fifoIdle interruptible signalSeq rs = some w) :
    ∃ exit, waitLoop (fallbackCondition capFence fifoIdle seqno) interruptible rs = some (exit, w.last) ∧
      (w.ret = 0 ↔ exit ≠ .signal) ∧ (w.stored ≠ none ↔ exit ≠ .signal ∧ fifoIdle = true) := by
  obtain ⟨⟨exit, r⟩, hwait, heq⟩ := Option.map_eq_some_iff.mp h
  subst heq
  refine ⟨exit, ?_, ?_⟩
  · cases exit <;> cases fifoIdle <;> exact hwait
  · cases exit <;> cases fifoIdle <;> simp [ERESTARTSYS]

theorem vmwFallbackWait_of_waitLoop {exit : Exit} {r : Reading}
    (h : waitLoop (fallbackCondition capFence fifoIdle seqno) interruptible rs = some (exit, r)) :
    ∃ w, vmwFallbackWait capFence seqno fifoIdle interruptible signalSeq rs = some w ∧ w.last = r ∧
      (w.ret = 0 ↔ exit ≠ .signal) ∧ (w.stored ≠ none ↔ exit ≠ .signal ∧ fifoIdle = true) := by
  have hsome : (vmwFallbackWait capFence seqno fifoIdle interruptible signalSeq rs).isSome = true := by
    unfold vmwFallbackWait
    change (Option.map _ (waitLoop (fallbackCondition capFence fifoIdle seqno) interruptible rs)).isSome = true
    rw [h]
    rfl
  obtain ⟨w, hw⟩ := Option.isSome_iff_exists.mp hsome
  obtain ⟨exit', hwait, hret, hstored⟩ := vmwFallbackWait_eq_some hw
  rw [h] at hwait
  cases hwait
  exact ⟨w, hw, rfl, hret, hstored⟩

theorem storesWhenIdle_iff : StoresWhenIdle capFence fifoIdle interruptible seqno signalSeq rs ↔
    (fifoIdle = true → OnTime Reading.idle interruptible (·.idle = true) rs) := by
  cases fifoIdle with
  | false =>
    refine ⟨fun _ h => Bool.noConfusion h, fun _ w hw hstored => ?_⟩
    obtain ⟨exit, -, -, hiff⟩ := vmwFallbackWait_eq_some hw
    exact Bool.noConfusion (hiff.mp hstored).2
  | true =>
    rw [← waitLoop_good_iff fun _ h => h]
    constructor
    · intro h _ exit r hwait hexit
      have hfallback : waitLoop (fallbackCondition capFence true seqno) interruptible rs = some (exit, r) := hwait
      obtain ⟨w, hw, rfl, -, hstored⟩ := vmwFallbackWait_of_waitLoop hfallback
      exact h w hw (hstored.mpr ⟨hexit, rfl⟩)
    · intro h w hw hstored
      obtain ⟨exit, hwait, -, hiff⟩ := vmwFallbackWait_eq_some hw
      exact h rfl exit w.last hwait (hiff.mp hstored).1

/-- The first two tests fail, and interrupts cannot be waited for. -/
def FallsBack (capFence irqMask : Bool) (seqno : Nat) (r₀ r₁ : Reading) : Prop :=
  ¬ sub32 r₀.lastReadSeqno seqno < VMW_FENCE_WRAP ∧ seqnoPassed capFence seqno r₁ = false ∧
    (capFence && irqMask) = false

variable {r₀ r₁ : Reading}

theorem vmwWaitSeqno_of_fallsBack (h : FallsBack capFence irqMask seqno r₀ r₁) :
    vmwWaitSeqno capFence seqno irqMask interruptible signalSeq r₀ r₁ rs =
      vmwFallbackWait capFence seqno (!capFence) interruptible signalSeq rs := by
  obtain ⟨hread, hpassed, hirq⟩ := h
  unfold vmwWaitSeqno
  rw [if_neg hread, if_neg (by simp [hpassed])]
  cases capFence with
  | false => rfl
  | true =>
    have hmask : irqMask = false := hirq
    rw [hmask]
    rfl

/-- Interrupts wait for the seqno, and say so when they have not seen it. -/
theorem waitEventTimeout_ret {ret : Int} {r : Reading}
    (h : waitEventTimeout capFence seqno interruptible rs = some (ret, r)) (hret : 0 < ret) :
    r.Done capFence seqno := by
  obtain ⟨⟨exit, r'⟩, hwait, heq⟩ := Option.map_eq_some_iff.mp h
  obtain ⟨before, after, -, -, -, hexit⟩ := waitLoop_eq_some_iff.mp hwait
  cases exit with
  | condition =>
    cases heq
    apply seqnoPassed_iff_done.mp
    by_contra hcond
    rw [if_neg hcond] at hexit
    split at hexit <;> cases hexit
  | timeout =>
    cases heq
    exact absurd hret (by decide)
  | signal =>
    cases heq
    exact absurd hret (by decide)

theorem returnsWhenDone_of_not_fallsBack (h : ¬ FallsBack capFence irqMask seqno r₀ r₁) :
    ReturnsWhenDone capFence irqMask interruptible seqno signalSeq rs r₀ r₁ := by
  intro w hw hret
  unfold vmwWaitSeqno at hw
  split at hw
  · rename_i hread
    cases hw
    exact .inl (.inl hread)
  · rename_i hread
    split at hw
    · rename_i hpassed
      cases hw
      exact seqnoPassed_iff_done.mp hpassed
    · rename_i hpassed
      have hboth : capFence = true ∧ irqMask = true := by
        by_contra hnot
        apply h
        refine ⟨hread, Bool.eq_false_iff.mpr hpassed, ?_⟩
        rw [← Bool.not_eq_true, Bool.and_eq_true]
        exact hnot
      rw [if_neg (not_not_intro hboth.1), if_neg (not_not_intro hboth.2)] at hw
      obtain ⟨⟨ret, r⟩, hwait, heq⟩ := Option.map_eq_some_iff.mp hw
      subst heq
      apply waitEventTimeout_ret hwait
      by_contra hle
      dsimp only at hret
      split at hret
      · exact absurd hret (by decide)
      · rename_i hne
        exact hne hret

theorem returnsWhenDone_iff_of_fallsBack (h : FallsBack capFence irqMask seqno r₀ r₁) :
    ReturnsWhenDone capFence irqMask interruptible seqno signalSeq rs r₀ r₁ ↔
      OnTime (fallbackCondition capFence (!capFence) seqno) interruptible (·.Done capFence seqno) rs := by
  have hgood (r : Reading) (hr : fallbackCondition capFence (!capFence) seqno r = true) :
      r.Done capFence seqno := by
    cases capFence with
    | false => exact .inr ⟨rfl, hr⟩
    | true => exact seqnoPassed_iff_done.mp hr
  rw [← waitLoop_good_iff hgood]
  unfold ReturnsWhenDone
  rw [vmwWaitSeqno_of_fallsBack h]
  constructor
  · intro hright exit r hwait hexit
    obtain ⟨w, hw, rfl, hret, -⟩ := vmwFallbackWait_of_waitLoop hwait
    exact hright w hw (hret.mpr hexit)
  · intro hright w hw hret
    obtain ⟨exit, hwait, hiff, -⟩ := vmwFallbackWait_eq_some hw
    exact hright exit w.last hwait (hiff.mp hret)

/-- Waiting means passed, as long as no fallback wait runs out of time without having read what it
waits for in that round. -/
theorem wait_means_passed_iff (capFence irqMask fifoIdle interruptible : Bool) (seqno signalSeq : Nat)
    (r₀ r₁ : Reading) (rs : List Reading) :
    (ReturnsWhenDone capFence irqMask interruptible seqno signalSeq rs r₀ r₁ ∧
        StoresWhenIdle capFence fifoIdle interruptible seqno signalSeq rs) ↔
      (FallsBack capFence irqMask seqno r₀ r₁ →
          OnTime (fallbackCondition capFence (!capFence) seqno) interruptible (·.Done capFence seqno) rs) ∧
        (fifoIdle = true → OnTime Reading.idle interruptible (·.idle = true) rs) := by
  rw [storesWhenIdle_iff]
  refine and_congr_left' ?_
  by_cases h : FallsBack capFence irqMask seqno r₀ r₁
  · rw [returnsWhenDone_iff_of_fallsBack h]
    exact ⟨fun hright _ => hright, fun hright => hright h⟩
  · exact ⟨fun _ hfalls => absurd hfalls h, fun _ => returnsWhenDone_of_not_fallsBack h⟩

end Claim

section Example

/-- A busy device that has got as far as seqno 4, of 5 emitted. -/
def busy (left : Nat) : Reading := ⟨5, 4, 4, false, left, false⟩

/-- The wait for seqno 5 times out, returns 0 and stores 5; from then on the seqno counts as passed. -/
theorem timeout_signals : ∃ w,
    vmwWaitSeqno false 5 false true 5 (busy 2) (busy 2) [busy 2, busy 1, busy 0] = some w ∧
      w.ret = 0 ∧ ¬ w.last.Done false 5 ∧ w.stored = some 5 ∧ w.last.idle = false ∧
      (vmwSeqnoPassed w.dev false 5).1 = true := by
  refine ⟨⟨0, ⟨5, 4, 5, false⟩, some 5, busy 0⟩, by decide, rfl, ?_, rfl, rfl, by decide⟩
  rw [← seqnoPassed_iff_done]
  decide

end Example

end Vmwgfx.Irq
