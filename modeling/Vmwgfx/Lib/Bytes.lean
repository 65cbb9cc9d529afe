import Mathlib.Algebra.Ring.Int.Defs
import Mathlib.Algebra.Ring.Nat
import Mathlib.Order.Lattice

/-! Byte memory and its little-endian 32-bit words. -/

namespace Vmwgfx.Lib

abbrev Mem := Nat → UInt8

namespace Mem

def read32 (m : Mem) (a : Nat) : Nat :=
  (m a).toNat + 2 ^ 8 * (m (a + 1)).toNat + 2 ^ 16 * (m (a + 2)).toNat +
    2 ^ 24 * (m (a + 3)).toNat

def write32 (m : Mem) (a v : Nat) : Mem := fun x =>
  if x = a then UInt8.ofNat v
  else if x = a + 1 then UInt8.ofNat (v / 2 ^ 8)
  else if x = a + 2 then UInt8.ofNat (v / 2 ^ 16)
  else if x = a + 3 then UInt8.ofNat (v / 2 ^ 24)
  else m x

variable {m m' : Mem} {a b v : Nat}

theorem read32_lt (m : Mem) (a : Nat) : m.read32 a < 2 ^ 32 := by
  have h := (m a).toNat_lt
  have h₁ := (m (a + 1)).toNat_lt
  have h₂ := (m (a + 2)).toNat_lt
  have h₃ := (m (a + 3)).toNat_lt
  unfold read32
  omega

theorem read32_congr (h : ∀ x, a ≤ x → x < a + 4 → m x = m' x) : m.read32 a = m'.read32 a := by
  unfold read32
  rw [h a (by omega) (by omega), h (a + 1) (by omega) (by omega), h (a + 2) (by omega) (by omega),
    h (a + 3) (by omega) (by omega)]

theorem write32_apply (h : b < a ∨ a + 4 ≤ b) : m.write32 a v b = m b := by
  unfold write32
  rw [if_neg (by omega), if_neg (by omega), if_neg (by omega), if_neg (by omega)]

theorem read32_write32_self (h : v < 2 ^ 32) : (m.write32 a v).read32 a = v := by
  have h₁ : a + 1 ≠ a := by omega
  have h₂ : a + 2 ≠ a ∧ a + 2 ≠ a + 1 := by omega
  have h₃ : a + 3 ≠ a ∧ a + 3 ≠ a + 1 ∧ a + 3 ≠ a + 2 := by omega
  simp only [read32, write32, if_true, if_neg h₁, if_neg h₂.1, if_neg h₂.2, if_neg h₃.1,
    if_neg h₃.2.1, if_neg h₃.2.2, UInt8.toNat_ofNat']
  omega

/-- What is written is cut to its word. -/
theorem read32_write32_mod (m : Mem) (a v : Nat) : (m.write32 a v).read32 a = v % 2 ^ 32 := by
  have h₁ : a + 1 ≠ a := by omega
  have h₂ : a + 2 ≠ a ∧ a + 2 ≠ a + 1 := by omega
  have h₃ : a + 3 ≠ a ∧ a + 3 ≠ a + 1 ∧ a + 3 ≠ a + 2 := by omega
  simp only [read32, write32, if_true, if_neg h₁, if_neg h₂.1, if_neg h₂.2, if_neg h₃.1,
    if_neg h₃.2.1, if_neg h₃.2.2, UInt8.toNat_ofNat']
  omega

theorem read32_write32_of_disjoint (h : b + 4 ≤ a ∨ a + 4 ≤ b) :
    (m.write32 a v).read32 b = m.read32 b := by
  apply read32_congr
  intro x hx hx'
  exact write32_apply (by omega)

/-- Writing back what was read changes nothing. -/
theorem write32_read32 (m : Mem) (a : Nat) : m.write32 a (m.read32 a) = m := by
  have hbyte : ∀ (x : UInt8) (n : Nat), n % 2 ^ 8 = x.toNat → UInt8.ofNat n = x := by
    intro x n hn
    apply UInt8.toNat_inj.mp
    rw [UInt8.toNat_ofNat', hn]
  have h := (m a).toNat_lt
  have h₁ := (m (a + 1)).toNat_lt
  have h₂ := (m (a + 2)).toNat_lt
  have h₃ := (m (a + 3)).toNat_lt
  funext x
  unfold write32 read32
  split
  · next hx => rw [hx]; exact hbyte _ _ (by omega)
  · split
    · next hx => rw [hx]; exact hbyte _ _ (by omega)
    · split
      · next hx => rw [hx]; exact hbyte _ _ (by omega)
      · split
        · next hx => rw [hx]; exact hbyte _ _ (by omega)
        · rfl

/-- Writes one word after the other. -/
def writeAll (m : Mem) (ws : List (Nat × Nat)) : Mem := ws.foldl (fun m w => m.write32 w.1 w.2) m

@[simp] theorem writeAll_nil (m : Mem) : m.writeAll [] = m := rfl

@[simp] theorem writeAll_cons (m : Mem) (w : Nat × Nat) (ws : List (Nat × Nat)) :
    m.writeAll (w :: ws) = (m.write32 w.1 w.2).writeAll ws := rfl

theorem writeAll_append (m : Mem) (ws ws' : List (Nat × Nat)) :
    m.writeAll (ws ++ ws') = (m.writeAll ws).writeAll ws' := List.foldl_append

end Mem

end Vmwgfx.Lib
