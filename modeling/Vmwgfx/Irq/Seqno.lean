import Vmwgfx.Lib.Machine
import Vmwgfx.Lib.Uint

/-! Whether a seqno has passed: `vmwgfx_irq.c`, with `vmw_fifo_send_fence` of `vmwgfx_fifo.c`. -/

namespace Vmwgfx.Irq

open Lib

def VMW_FENCE_WRAP : Nat := 2 ^ 24

/-- The 32-bit words; `fifoFence` is `SVGA_FIFO_FENCE`, which the device writes. -/
structure VmwPrivate where
  markerSeq : Nat
  lastReadSeqno : Nat
  fifoFence : Nat
  /-- `SVGA_FIFO_CAP_FENCE`. -/
  capFence : Bool
  deriving DecidableEq

def vmwUpdateSeqno (d : VmwPrivate) : VmwPrivate :=
  if d.lastReadSeqno ≠ d.fifoFence then { d with lastReadSeqno := d.fifoFence } else d

/-- `vmw_seqno_passed`; `idle` is what `vmw_fifo_idle` reads. -/
def vmwSeqnoPassed (d : VmwPrivate) (idle : Bool) (seqno : Nat) : Bool × VmwPrivate :=
  if sub32 d.lastReadSeqno seqno < VMW_FENCE_WRAP then (true, d)
  else
    let d := vmwUpdateSeqno d
    if sub32 d.lastReadSeqno seqno < VMW_FENCE_WRAP then (true, d)
    else if ¬ d.capFence ∧ idle then (true, d)
    else (VMW_FENCE_WRAP < sub32 d.markerSeq seqno, d)

/-- The next seqno of `vmw_fifo_send_fence`; zero is left out. -/
def nextSeqno (markerSeq : Nat) : Nat :=
  let seqno := add32 markerSeq 1
  if seqno = 0 then add32 seqno 1 else seqno

/-- The seqnos counted without wrap. -/
structure Seqnos where
  dev : VmwPrivate
  emitted : Nat
  reported : Nat
  read : Nat

inductive Act
  /-- `vmw_fifo_send_fence` up to its commit. -/
  | sendFence
  /-- The device has got as far as `n`. -/
  | report (n : Nat)
  | updateSeqno
  | seqnoPassed (idle : Bool) (seqno : Nat)

namespace Seqnos

variable (q : Seqnos)

/-- The driver may have read the register. -/
def setDev (d : VmwPrivate) : Seqnos :=
  { q with dev := d, read := if d.lastReadSeqno = q.dev.lastReadSeqno then q.read else q.reported }

def passed (idle : Bool) (s : Nat) : Bool := (vmwSeqnoPassed q.dev idle (s % 2 ^ 32)).1

def step : Act → Option Seqnos
  | .sendFence =>
    some { q with
      dev := { q.dev with markerSeq := nextSeqno q.dev.markerSeq }
      emitted := if (q.emitted + 1) % 2 ^ 32 = 0 then q.emitted + 2 else q.emitted + 1 }
  | .report n =>
    if q.reported ≤ n ∧ n ≤ q.emitted then
      some { q with dev := { q.dev with fifoFence := n % 2 ^ 32 }, reported := n }
    else none
  | .updateSeqno => some (q.setDev (vmwUpdateSeqno q.dev))
  | .seqnoPassed idle seqno => some (q.setDev (vmwSeqnoPassed q.dev idle seqno).2)

/-- `vmw_fifo_init`, for a device with fences; `n` is where the last one stopped. -/
def init (n : Nat) : Seqnos := ⟨⟨n % 2 ^ 32, n % 2 ^ 32, n % 2 ^ 32, true⟩, n, n, n⟩

/-- At most `VMW_FENCE_WRAP` seqnos are outstanding, and neither the last one read nor `s` is far behind. -/
structure InRange (s : Nat) : Prop where
  emitted : s ≤ q.emitted
  outstanding : q.emitted ≤ q.reported + VMW_FENCE_WRAP
  read : q.emitted < q.read + 2 ^ 31
  recent : q.emitted < s + 2 ^ 31

/-- Neither window of `vmw_seqno_passed` has `s` in it. -/
def Seam (s : Nat) : Prop :=
  q.reported = q.emitted ∧ s + VMW_FENCE_WRAP = q.emitted ∧ (q.read = q.emitted ∨ q.read < s)

end Seqnos

/-- The words are the counts, truncated. -/
structure Tracks (q : Seqnos) : Prop where
  markerSeq : q.dev.markerSeq = q.emitted % 2 ^ 32
  fifoFence : q.dev.fifoFence = q.reported % 2 ^ 32
  lastReadSeqno : q.dev.lastReadSeqno = q.read % 2 ^ 32
  capFence : q.dev.capFence = true
  read_le : q.read ≤ q.reported
  reported_le : q.reported ≤ q.emitted

namespace Tracks

variable {q q' : Seqnos}

theorem init (n : Nat) : Tracks (Seqnos.init n) :=
  ⟨rfl, rfl, rfl, rfl, Nat.le_refl n, Nat.le_refl n⟩

theorem nextSeqno_eq (n : Nat) :
    nextSeqno (n % 2 ^ 32) = (if (n + 1) % 2 ^ 32 = 0 then n + 2 else n + 1) % 2 ^ 32 := by
  have hnext : add32 (n % 2 ^ 32) 1 = (n + 1) % 2 ^ 32 := Nat.mod_add_mod ..
  unfold nextSeqno
  rw [hnext]
  dsimp only
  split
  · rename_i hzero
    rw [hzero]
    unfold add32
    omega
  · rfl

/-- Reading the register changes nothing else. -/
theorem setDev {d : VmwPrivate} (h : Tracks q) (hd : d = q.dev ∨ d = { q.dev with lastReadSeqno := q.dev.fifoFence }) :
    Tracks (q.setDev d) := by
  rcases hd with rfl | rfl
  · have hsame : q.setDev q.dev = q := by
      unfold Seqnos.setDev
      rw [if_pos rfl]
    rwa [hsame]
  · constructor
    case markerSeq => exact h.markerSeq
    case fifoFence => exact h.fifoFence
    case capFence => exact h.capFence
    case reported_le => exact h.reported_le
    all_goals
      unfold Seqnos.setDev
      dsimp only
      split
    case lastReadSeqno.isTrue heq => exact heq.trans h.lastReadSeqno
    case lastReadSeqno.isFalse => exact h.fifoFence
    case read_le.isTrue => exact h.read_le
    case read_le.isFalse => exact Nat.le_refl q.reported

theorem vmwUpdateSeqno_cases (d : VmwPrivate) :
    vmwUpdateSeqno d = d ∨ vmwUpdateSeqno d = { d with lastReadSeqno := d.fifoFence } := by
  unfold vmwUpdateSeqno
  split
  · exact .inr rfl
  · exact .inl rfl

theorem vmwSeqnoPassed_cases (d : VmwPrivate) (idle : Bool) (seqno : Nat) :
    (vmwSeqnoPassed d idle seqno).2 = d ∨ (vmwSeqnoPassed d idle seqno).2 = { d with lastReadSeqno := d.fifoFence } := by
  unfold vmwSeqnoPassed
  split
  · exact .inl rfl
  · have hupdate := vmwUpdateSeqno_cases d
    dsimp only
    split
    · exact hupdate
    · split <;> exact hupdate

theorem step {a : Act} (h : Tracks q) (hs : q.step a = some q') :
    Tracks q' ∧ q.emitted ≤ q'.emitted ∧ q.reported ≤ q'.reported := by
  cases a with
  | sendFence =>
    cases hs
    have hle : q.emitted ≤ if (q.emitted + 1) % 2 ^ 32 = 0 then q.emitted + 2 else q.emitted + 1 := by
      split <;> omega
    refine ⟨{ h with markerSeq := ?_, reported_le := h.reported_le.trans hle }, hle, Nat.le_refl _⟩
    dsimp only
    rw [h.markerSeq]
    exact nextSeqno_eq q.emitted
  | report n =>
    simp only [Seqnos.step] at hs
    split at hs
    · rename_i hn
      cases hs
      exact ⟨{ h with fifoFence := rfl, read_le := h.read_le.trans hn.1, reported_le := hn.2 }, Nat.le_refl _, hn.1⟩
    · cases hs
  | updateSeqno =>
    cases hs
    exact ⟨h.setDev (vmwUpdateSeqno_cases _), Nat.le_refl _, Nat.le_refl _⟩
  | seqnoPassed idle seqno =>
    cases hs
    exact ⟨h.setDev (vmwSeqnoPassed_cases _ idle seqno), Nat.le_refl _, Nat.le_refl _⟩

theorem run {acts : List Act} (h : Tracks q) (hrun : Run Seqnos.step (fun _ _ => True) q acts q') :
    Tracks q' ∧ q.emitted ≤ q'.emitted ∧ q.reported ≤ q'.reported := by
  induction hrun with
  | nil => exact ⟨h, Nat.le_refl _, Nat.le_refl _⟩
  | cons _ hs _ ih =>
    obtain ⟨h', hemitted, hreported⟩ := h.step hs
    obtain ⟨h'', hemitted', hreported'⟩ := ih h'
    exact ⟨h'', hemitted.trans hemitted', hreported.trans hreported'⟩

end Tracks

section Windows

variable {q : Seqnos} {s : Nat}

/-- A difference of words, for counts that are not far apart. -/
theorem sub32_mod (a s : Nat) (h : s ≤ a) (ha : a < s + 2 ^ 31) : sub32 (a % 2 ^ 32) (s % 2 ^ 32) = a - s := by
  unfold sub32
  omega

/-- The window behind a seqno that was read. -/
theorem behind_iff {a : Nat} (hs : s < a + 2 ^ 31) (ha : a < s + 2 ^ 31) :
    sub32 (a % 2 ^ 32) (s % 2 ^ 32) < VMW_FENCE_WRAP ↔ s ≤ a ∧ a < s + VMW_FENCE_WRAP := by
  unfold sub32 VMW_FENCE_WRAP
  omega

theorem passed_iff (h : Tracks q) (hr : q.InRange s) (idle : Bool) :
    q.passed idle s = true ↔ (s ≤ q.read ∧ q.read < s + VMW_FENCE_WRAP) ∨
      (s ≤ q.reported ∧ q.reported < s + VMW_FENCE_WRAP) ∨ s + VMW_FENCE_WRAP < q.emitted := by
  obtain ⟨hemitted, houtstanding, hread, hrecent⟩ := hr
  have hread_le := h.read_le
  have hreported_le := h.reported_le
  have hfirst : sub32 q.dev.lastReadSeqno (s % 2 ^ 32) < VMW_FENCE_WRAP ↔ s ≤ q.read ∧ q.read < s + VMW_FENCE_WRAP := by
    rw [h.lastReadSeqno]
    exact behind_iff (by omega) (by omega)
  have hfresh : (vmwUpdateSeqno q.dev).lastReadSeqno = q.reported % 2 ^ 32 := by
    unfold vmwUpdateSeqno
    split
    · exact h.fifoFence
    · rename_i hsame
      exact (not_not.mp hsame).trans h.fifoFence
  have hkept : (vmwUpdateSeqno q.dev).capFence = true ∧ (vmwUpdateSeqno q.dev).markerSeq = q.emitted % 2 ^ 32 := by
    unfold vmwUpdateSeqno
    split <;> exact ⟨h.capFence, h.markerSeq⟩
  have hsecond : sub32 (vmwUpdateSeqno q.dev).lastReadSeqno (s % 2 ^ 32) < VMW_FENCE_WRAP ↔
      s ≤ q.reported ∧ q.reported < s + VMW_FENCE_WRAP := by
    rw [hfresh]
    refine behind_iff ?_ (by omega)
    unfold VMW_FENCE_WRAP at houtstanding
    omega
  have hthird : VMW_FENCE_WRAP < sub32 (vmwUpdateSeqno q.dev).markerSeq (s % 2 ^ 32) ↔
      s + VMW_FENCE_WRAP < q.emitted := by
    rw [hkept.2, sub32_mod _ _ hemitted hrecent]
    omega
  unfold Seqnos.passed vmwSeqnoPassed
  split
  · rename_i hlast
    exact ⟨fun _ => .inl (hfirst.mp hlast), fun _ => rfl⟩
  · rename_i hlast
    rw [hfirst] at hlast
    dsimp only
    split
    · rename_i hnew
      exact ⟨fun _ => .inr (.inl (hsecond.mp hnew)), fun _ => rfl⟩
    · rename_i hnew
      rw [hsecond] at hnew
      rw [if_neg (by rw [hkept.1]; exact fun hc => hc.1 rfl), decide_eq_true_eq, hthird]
      exact ⟨fun hstale => .inr (.inr hstale), fun hall => (hall.resolve_left hlast).resolve_left hnew⟩

/-- The two windows meet but for one seqno. -/
theorem passed_exact_iff (h : Tracks q) (hr : q.InRange s) (idle : Bool) :
    (q.passed idle s = true ↔ s ≤ q.reported) ↔ ¬ q.Seam s := by
  rw [passed_iff h hr idle]
  obtain ⟨hemitted, houtstanding, -, -⟩ := hr
  have hread_le := h.read_le
  have hreported_le := h.reported_le
  unfold Seqnos.Seam
  omega

theorem reported_of_passed (h : Tracks q) (hr : q.InRange s) {idle : Bool} (hpassed : q.passed idle s = true) :
    s ≤ q.reported := by
  have hread_le := h.read_le
  have houtstanding := hr.outstanding
  rcases (passed_iff h hr idle).mp hpassed with hread | hreported | hstale
  · exact hread.1.trans hread_le
  · exact hreported.1
  · omega

end Windows

/-- A seqno has passed when the device reported it, and stays so. -/
theorem seqno_passed_exact {n : Nat} {acts : List Act} {q : Seqnos}
    (hrun : Run Seqnos.step (fun _ _ => True) (Seqnos.init n) acts q) {s : Nat} (hr : q.InRange s) (idle : Bool) :
    ((q.passed idle s = true ↔ s ≤ q.reported) ↔ ¬ q.Seam s) ∧
      ∀ acts' q' idle', Run Seqnos.step (fun _ _ => True) q acts' q' → q'.InRange s → q.passed idle s = true →
        (q'.passed idle' s = true ↔ ¬ q'.Seam s) := by
  have h := (Tracks.init n).run hrun
  refine ⟨passed_exact_iff h.1 hr idle, fun acts' q' idle' hrun' hr' hpassed => ?_⟩
  obtain ⟨h', -, hreported⟩ := h.1.run hrun'
  have hs : s ≤ q'.reported := (reported_of_passed h.1 hr hpassed).trans hreported
  rw [← passed_exact_iff h' hr' idle']
  exact ⟨fun hnow => ⟨fun _ => hs, fun _ => hnow⟩, fun hiff => hiff.mpr hs⟩

section Example

private def reportedOne : List Act := [.sendFence, .report 1, .updateSeqno]

/-- The first fence has passed, and has for as long as the second one is out. -/
theorem seqno_passed_first : ∃ q : Seqnos, q.passed false 1 = true ∧
    ∀ acts' q' idle', Run Seqnos.step (fun _ _ => True) q acts' q' → q'.InRange 1 → q.passed false 1 = true →
      (q'.passed idle' 1 = true ↔ ¬ q'.Seam 1) := by
  have hrun : Run Seqnos.step (fun _ _ => True) (Seqnos.init 0) reportedOne ⟨⟨1, 1, 1, true⟩, 1, 1, 1⟩ :=
    .cons trivial rfl (.cons trivial rfl (.cons trivial rfl (.nil _)))
  exact ⟨_, by decide, (seqno_passed_exact hrun ⟨by decide, by decide, by decide, by decide⟩ false).2⟩

theorem sendFence_run (k : Nat) (hk : k < 2 ^ 32) :
    Run Seqnos.step (fun _ _ => True) (Seqnos.init 0) (List.replicate k .sendFence)
      ⟨⟨k, 0, 0, true⟩, k, 0, 0⟩ := by
  induction k with
  | zero => exact .nil _
  | succ k ih =>
    rw [List.replicate_succ']
    refine (ih (by omega)).append (.single trivial ?_)
    have hne' : (k + 1) % 2 ^ 32 ≠ 0 := by omega
    simp only [Seqnos.step, nextSeqno, add32_of_lt hk, if_neg hne', if_neg (Nat.succ_ne_zero k)]

/-- Everything has been reported and read, but the fence at the seam does not pass. -/
theorem seqno_passed_seam : ∃ q : Seqnos,
    Run Seqnos.step (fun _ _ => True) (Seqnos.init 0)
      (List.replicate (VMW_FENCE_WRAP + 1) .sendFence ++ [.report (VMW_FENCE_WRAP + 1), .updateSeqno]) q ∧
    q.read = q.reported ∧ q.InRange 1 ∧ 1 ≤ q.reported ∧ q.passed false 1 = false := by
  refine ⟨_, (sendFence_run (VMW_FENCE_WRAP + 1) (by decide)).append (.cons trivial rfl (.cons trivial rfl (.nil _))), ?_⟩
  exact ⟨rfl, ⟨by decide, by decide, by decide, by decide⟩, by decide, by decide⟩

end Example

end Vmwgfx.Irq
