import Mathlib.Algebra.Ring.Int.Defs
import Mathlib.Algebra.Ring.Nat
import Mathlib.Order.Lattice

/-! 32-bit and 64-bit unsigned arithmetic on natural numbers. -/

namespace Vmwgfx.Lib

def add32 (a b : Nat) : Nat := (a + b) % 2 ^ 32

def sub32 (a b : Nat) : Nat := (a + (2 ^ 32 - b % 2 ^ 32)) % 2 ^ 32

def sub64 (a b : Nat) : Nat := (a + (2 ^ 64 - b % 2 ^ 64)) % 2 ^ 64

theorem add32_of_lt {a b : Nat} (h : a + b < 2 ^ 32) : add32 a b = a + b := Nat.mod_eq_of_lt h

theorem add32_of_le {a b : Nat} (h : 2 ^ 32 ≤ a + b) (ha : a < 2 ^ 32) (hb : b < 2 ^ 32) :
    add32 a b = a + b - 2 ^ 32 := by
  unfold add32
  omega

theorem sub32_of_le {a b : Nat} (h : b ≤ a) (ha : a < 2 ^ 32) : sub32 a b = a - b := by
  unfold sub32
  omega

/-- Serial number comparison: within a window of 2^31 the difference tells the order. -/
theorem sub32_lt_half_iff {a b : Nat} (hab : a < b + 2 ^ 31) (hba : b < a + 2 ^ 31) :
    sub32 a b < 2 ^ 31 ↔ b ≤ a := by
  unfold sub32
  omega

theorem sub64_of_le {a b : Nat} (h : b ≤ a) (ha : a < 2 ^ 64) : sub64 a b = a - b := by
  unfold sub64
  omega

end Vmwgfx.Lib
