import Vmwgfx.Kernel
import Vmwgfx.Lib.Loop
import Vmwgfx.Lib.Machine
import Vmwgfx.Lib.Uint

/-! The buffer that `vmw_execbuf_process` copies a command stream into: `vmw_resize_cmd_bounce`. -/

namespace Vmwgfx.Execbuf

open Vmwgfx.Lib

/-- `cmd_bounce` and `cmd_bounce_size` of `struct vmw_sw_context`; the buffer is given by its
length in bytes. -/
structure CmdBounce where
  cmdBounce : Option Nat
  cmdBounceSize : Nat
  deriving DecidableEq

def vmwgfxCmdBounceInitSize : Nat := 32768

/-- `PAGE_ALIGN` of a 32-bit word. -/
def pageAlign32 (x : Nat) : Nat := add32 x 4095 / 4096 * 4096

/-- One round of the growth loop. -/
def growCmdBounce (cmdBounceSize : Nat) : Nat :=
  pageAlign32 (add32 cmdBounceSize (cmdBounceSize >>> 1))

/-- `vmw_resize_cmd_bounce`, with the outcome of its `vmalloc`; `none` while the loop has not
come to an end in `rounds` rounds. -/
def vmwResizeCmdBounce (rounds : Nat) (c : CmdBounce) (size : Nat) (vmalloc : Bool) :
    Option (Int × CmdBounce) :=
  if size ≤ c.cmdBounceSize then some (0, c)
  else
    let init := if c.cmdBounceSize = 0 then vmwgfxCmdBounceInitSize else c.cmdBounceSize
    (loopUntil (fun cmdBounceSize => size ≤ cmdBounceSize) growCmdBounce rounds init).map
      fun cmdBounceSize =>
        if vmalloc then (0, ⟨some cmdBounceSize, cmdBounceSize⟩) else (-ENOMEM, ⟨none, 0⟩)

namespace CmdBounce

structure Call where
  size : Nat
  vmalloc : Bool
  rounds : Nat

/-- A call that returns. -/
def step (c : CmdBounce) (a : Call) : Option CmdBounce :=
  (vmwResizeCmdBounce a.rounds c a.size a.vmalloc).map (·.2)

/-- Before the first submission. -/
def init : CmdBounce := ⟨none, 0⟩

/-- The call returns, with a buffer of `cmd_bounce_size` bytes that is long enough, or without a
buffer. -/
def Resized (c : CmdBounce) (size : Nat) (vmalloc : Bool) : Prop :=
  ∃ rounds ret c', vmwResizeCmdBounce rounds c size vmalloc = some (ret, c') ∧
    (ret = 0 → c'.cmdBounce.getD 0 = c'.cmdBounceSize ∧ size ≤ c'.cmdBounceSize) ∧
    (ret ≠ 0 → c'.cmdBounce = none ∧ c'.cmdBounceSize = 0)

end CmdBounce

section Growth

/-- The largest size the loop ever reaches; the next one wraps past 2^32. -/
def maxCmdBounceSize : Nat := 4277940224

theorem growCmdBounce_reaches_max : growCmdBounce^[539] vmwgfxCmdBounceInitSize = maxCmdBounceSize := by
  decide +kernel

/-- After the wrap the sizes grow back to the same one. -/
theorem maxCmdBounceSize_periodic : Function.IsPeriodicPt growCmdBounce 812 maxCmdBounceSize := by
  decide +kernel

def inReach (cmdBounceSize : Nat) : Bool := cmdBounceSize ≤ maxCmdBounceSize

theorem growCmdBounce_le_max (k : Nat) :
    growCmdBounce^[k] vmwgfxCmdBounceInitSize ≤ maxCmdBounceSize := by
  have hstart : allIterates inReach growCmdBounce 539 vmwgfxCmdBounceInitSize = true := by
    decide +kernel
  have hround : allIterates inReach growCmdBounce 812 maxCmdBounceSize = true := by
    decide +kernel
  have hreach : inReach (growCmdBounce^[k] vmwgfxCmdBounceInitSize) = true := by
    by_cases hk : k < 539
    · exact of_allIterates hstart hk
    · obtain ⟨j, rfl⟩ := Nat.exists_eq_add_of_le' (Nat.le_of_not_lt hk)
      rw [Function.iterate_add_apply, growCmdBounce_reaches_max]
      exact of_allIterates_periodic maxCmdBounceSize_periodic (by decide) hround j
  exact of_decide_eq_true hreach

/-- From every size on the way the largest one is reached. -/
theorem growCmdBounce_reaches_max_from (k : Nat) :
    ∃ j, growCmdBounce^[j] (growCmdBounce^[k] vmwgfxCmdBounceInitSize) = maxCmdBounceSize := by
  refine ⟨812 * k + 539 - k, ?_⟩
  have hsum : 812 * k + 539 - k + k = 812 * k + 539 := by omega
  rw [← Function.iterate_add_apply, hsum, Function.iterate_add_apply, growCmdBounce_reaches_max]
  exact (maxCmdBounceSize_periodic.mul_const k).eq

end Growth

namespace CmdBounce

variable {c c' : CmdBounce} {size : Nat}

/-- The sizes are those the loop goes through from the initial one, and the buffer is as long. -/
structure Grown (c : CmdBounce) : Prop where
  bytes : c.cmdBounce.getD 0 = c.cmdBounceSize
  size : c.cmdBounceSize = 0 ∨ ∃ k, c.cmdBounceSize = growCmdBounce^[k] vmwgfxCmdBounceInitSize

theorem Grown.init : Grown init := ⟨rfl, .inl rfl⟩

/-- Where the loop starts. -/
theorem Grown.start (h : Grown c) :
    ∃ k, (if c.cmdBounceSize = 0 then vmwgfxCmdBounceInitSize else c.cmdBounceSize) =
      growCmdBounce^[k] vmwgfxCmdBounceInitSize := by
  split
  · exact ⟨0, rfl⟩
  · rename_i hsize
    exact h.size.resolve_left hsize

theorem Grown.step {a : Call} (h : Grown c) (hstep : step c a = some c') : Grown c' := by
  obtain ⟨r, hr, rfl⟩ := Option.map_eq_some_iff.mp hstep
  unfold vmwResizeCmdBounce at hr
  split at hr
  · cases hr
    exact h
  · obtain ⟨n, hloop, rfl⟩ := Option.map_eq_some_iff.mp hr
    obtain ⟨k, hk⟩ := h.start
    obtain ⟨j, hj⟩ := iterate_of_loopUntil hloop
    rw [hk, ← Function.iterate_add_apply] at hj
    cases a.vmalloc with
    | true => exact ⟨rfl, .inr ⟨j + k, hj⟩⟩
    | false => exact .init

theorem Grown.size_le (h : Grown c) : c.cmdBounceSize ≤ maxCmdBounceSize := by
  rcases h.size with hzero | ⟨k, hk⟩
  · rw [hzero]
    exact Nat.zero_le _
  · rw [hk]
    exact growCmdBounce_le_max k

theorem Grown.resized (h : Grown c) (hsize : size ≤ maxCmdBounceSize) (vmalloc : Bool) :
    Resized c size vmalloc := by
  by_cases hlong : size ≤ c.cmdBounceSize
  · refine ⟨0, 0, c, ?_, fun _ => ⟨h.bytes, hlong⟩, fun hret => absurd rfl hret⟩
    unfold vmwResizeCmdBounce
    rw [if_pos hlong]
  · obtain ⟨k, hk⟩ := h.start
    obtain ⟨j, hj⟩ := growCmdBounce_reaches_max_from k
    have hreach : decide (size ≤ growCmdBounce^[j] (growCmdBounce^[k] vmwgfxCmdBounceInitSize)) = true := by
      rw [hj]
      exact decide_eq_true hsize
    have hterm : ∃ rounds n, loopUntil (fun n => decide (size ≤ n)) growCmdBounce rounds
        (growCmdBounce^[k] vmwgfxCmdBounceInitSize) = some n :=
      loopUntil_terminates_iff.mpr ⟨j, hreach⟩
    obtain ⟨rounds, n, hloop⟩ := hterm
    have hstop := stop_of_loopUntil hloop
    have hn : size ≤ n := of_decide_eq_true hstop
    have hcall : vmwResizeCmdBounce rounds c size vmalloc =
        some (if vmalloc then (0, ⟨some n, n⟩) else (-ENOMEM, ⟨none, 0⟩)) := by
      unfold vmwResizeCmdBounce
      rw [if_neg hlong, hk]
      dsimp only
      rw [hloop]
      rfl
    cases vmalloc with
    | true => exact ⟨rounds, 0, _, hcall, fun _ => ⟨rfl, hn⟩, fun hret => absurd rfl hret⟩
    | false => exact ⟨rounds, -ENOMEM, _, hcall, (fun hret => by cases hret), fun _ => ⟨rfl, rfl⟩⟩

/-- Past the largest size the loop goes round for ever. -/
theorem Grown.not_resized (h : Grown c) (hsize : maxCmdBounceSize < size) (vmalloc : Bool) :
    ¬ Resized c size vmalloc := by
  rintro ⟨rounds, ret, c', hcall, -⟩
  have hshort : ¬ size ≤ c.cmdBounceSize := Nat.not_le_of_lt (lt_of_le_of_lt h.size_le hsize)
  unfold vmwResizeCmdBounce at hcall
  rw [if_neg hshort] at hcall
  obtain ⟨n, hloop, -⟩ := Option.map_eq_some_iff.mp hcall
  obtain ⟨k, hk⟩ := h.start
  obtain ⟨j, hj⟩ := iterate_of_loopUntil hloop
  have hstop := stop_of_loopUntil hloop
  have hn : size ≤ n := of_decide_eq_true hstop
  rw [hk, ← Function.iterate_add_apply] at hj
  have hle : n ≤ maxCmdBounceSize := hj ▸ growCmdBounce_le_max (j + k)
  omega

/-- Whatever was submitted before, the buffer is resized for every size the loop can reach, and
the call does not return for a larger one. -/
theorem cmd_bounce_resized_iff {calls : List Call} (hrun : Run step (fun _ _ => True) init calls c)
    (size : Nat) (vmalloc : Bool) : Resized c size vmalloc ↔ size ≤ maxCmdBounceSize := by
  have h : Grown c := hrun.invariant (fun _ _ _ _ hs hg => hg.step hs) .init
  constructor
  · intro hresized
    by_contra hlarge
    exact h.not_resized (Nat.lt_of_not_le hlarge) vmalloc hresized
  · intro hsize
    exact h.resized hsize vmalloc

/-- The second call, for a page more, keeps the buffer. -/
theorem cmd_bounce_resized_twice : ∃ c, Run step (fun _ _ => True) init [⟨4096, true, 0⟩, ⟨8192, true, 0⟩] c ∧
    (Resized c 40000 true ↔ 40000 ≤ maxCmdBounceSize) := by
  have hrun : Run step (fun _ _ => True) init [⟨4096, true, 0⟩, ⟨8192, true, 0⟩] ⟨some 32768, 32768⟩ :=
    .cons trivial rfl (.cons trivial rfl (.nil _))
  exact ⟨_, hrun, cmd_bounce_resized_iff hrun 40000 true⟩

/-- A first submission of 2^32 - 1 bytes is stuck in the loop. -/
theorem cmd_bounce_stuck : ¬ ∀ (calls : List Call) (c : CmdBounce) (size : Nat) (vmalloc : Bool),
    size < 2 ^ 32 → Run step (fun _ _ => True) init calls c → Resized c size vmalloc := by
  intro h
  exact Grown.init.not_resized (by decide) true (h [] init (2 ^ 32 - 1) true (by decide) (.nil _))

end CmdBounce

end Vmwgfx.Execbuf
