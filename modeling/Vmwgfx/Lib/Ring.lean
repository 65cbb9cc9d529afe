import Mathlib.Algebra.Ring.Int.Defs
import Mathlib.Algebra.Ring.Nat
import Mathlib.Logic.Function.Basic
import Mathlib.Order.Lattice
import Mathlib.Tactic.SplitIfs

/-! A ring of words: the addresses from `lo` up to `hi`, where `hi` is `lo` again. -/

universe u

namespace Vmwgfx.Lib

structure Ring where
  lo : Nat
  hi : Nat

namespace Ring

variable (R : Ring)

def size : Nat := R.hi - R.lo

def Mem (p : Nat) : Prop := R.lo ≤ p ∧ p < R.hi

instance (p : Nat) : Decidable (R.Mem p) := inferInstanceAs (Decidable (_ ∧ _))

def succ (p : Nat) : Nat := if p + 1 = R.hi then R.lo else p + 1

/-- The address `k` words after `p`, for `k` up to the size of the ring. -/
def advance (p k : Nat) : Nat := if p + k < R.hi then p + k else p + k - R.size

/-- How many words lie from `p` up to `q`. -/
def dist (p q : Nat) : Nat := if p ≤ q then q - p else (R.hi - p) + (q - R.lo)

/-- The `k` words from `p` on. -/
def read {α : Type u} (mem : Nat → α) : Nat → Nat → List α
  | _, 0 => []
  | p, k + 1 => mem p :: read mem (R.succ p) k

/-- Writes `k` words from `p` on, the first of them word `i` of the source. -/
def store {α : Type u} (src : Nat → α) : Nat → Nat → Nat → (Nat → α) → Nat → α
  | _, _, 0, mem => mem
  | p, i, k + 1, mem => store src (R.succ p) (i + 1) k (Function.update mem p (src i))

variable {R : Ring} {p q k i : Nat}

theorem mem_succ (h : R.Mem p) : R.Mem (R.succ p) := by
  unfold Mem succ at *
  split_ifs <;> omega

theorem mem_advance (h : R.Mem p) (hk : k ≤ R.size) : R.Mem (R.advance p k) := by
  unfold Mem advance size at *
  split_ifs <;> omega

@[simp]
theorem advance_zero (h : R.Mem p) : R.advance p 0 = p := by
  unfold Mem advance at *
  split_ifs <;> omega

theorem advance_size (h : R.Mem p) : R.advance p R.size = p := by
  unfold Mem advance size at *
  split_ifs <;> omega

theorem advance_succ (h : R.Mem p) (hk : k < R.size) :
    R.advance p (k + 1) = R.succ (R.advance p k) := by
  unfold Mem advance succ size at *
  split_ifs <;> omega

theorem advance_succ_left (h : R.Mem p) (hk : k < R.size) :
    R.advance p (k + 1) = R.advance (R.succ p) k := by
  unfold Mem advance succ size at *
  split_ifs <;> omega

theorem advance_advance (h : R.Mem p) (hk : k + i ≤ R.size) :
    R.advance (R.advance p k) i = R.advance p (k + i) := by
  unfold Mem advance size at *
  split_ifs <;> omega

theorem advance_ne (h : R.Mem p) (hi : i < k) (hk : k < R.size) :
    R.advance p i ≠ R.advance p k := by
  unfold Mem advance size at *
  split_ifs <;> omega

@[simp]
theorem dist_self : R.dist p p = 0 := by
  simp [dist]

theorem dist_lt (hp : R.Mem p) (hq : R.Mem q) : R.dist p q < R.size := by
  unfold Mem dist size at *
  split_ifs <;> omega

theorem advance_dist (hp : R.Mem p) (hq : R.Mem q) : R.advance p (R.dist p q) = q := by
  unfold Mem dist advance size at *
  split_ifs <;> omega

theorem dist_advance (hp : R.Mem p) (hk : k < R.size) : R.dist p (R.advance p k) = k := by
  unfold Mem dist advance size at *
  split_ifs <;> omega

theorem dist_advance_right (hp : R.Mem p) (hq : R.Mem q) (hk : R.dist p q + k < R.size) :
    R.dist p (R.advance q k) = R.dist p q + k := by
  unfold Mem dist advance size at *
  split_ifs at * <;> omega

/-- Taking the first word off. -/
theorem dist_succ_left (hp : R.Mem p) (hq : R.Mem q) (hne : p ≠ q) :
    R.dist (R.succ p) q + 1 = R.dist p q := by
  unfold Mem dist succ at *
  split_ifs <;> omega

section Read

variable {α : Type u} {mem : Nat → α} {w : α}

@[simp] theorem read_zero (p : Nat) : R.read mem p 0 = [] := rfl

theorem read_cons (p k : Nat) : R.read mem p (k + 1) = mem p :: R.read mem (R.succ p) k := rfl

@[simp]
theorem length_read (p k : Nat) : (R.read mem p k).length = k := by
  induction k generalizing p with
  | zero => rfl
  | succ k ih => rw [read_cons, List.length_cons, ih]

theorem read_append (h : R.Mem p) (hk : k + i ≤ R.size) :
    R.read mem p (k + i) = R.read mem p k ++ R.read mem (R.advance p k) i := by
  induction k generalizing p with
  | zero => simp [advance_zero h]
  | succ k ih =>
    have hk' : k + i ≤ R.size := by omega
    rw [Nat.add_right_comm, read_cons, read_cons, ih (mem_succ h) hk',
      advance_succ_left h (by omega), List.cons_append]

theorem read_succ (h : R.Mem p) (hk : k < R.size) :
    R.read mem p (k + 1) = R.read mem p k ++ [mem (R.advance p k)] := by
  rw [read_append h hk, read_cons, read_zero]

/-- A word written outside what is read. -/
theorem read_update_of_ne {a : Nat} (h : R.Mem p) (hk : k ≤ R.size)
    (ha : ∀ i < k, R.advance p i ≠ a) :
    R.read (Function.update mem a w) p k = R.read mem p k := by
  induction k generalizing p with
  | zero => rfl
  | succ k ih =>
    have hp : p ≠ a := by
      have := ha 0 (by omega)
      rwa [advance_zero h] at this
    rw [read_cons, read_cons, Function.update_of_ne hp, ih (mem_succ h) (by omega)]
    intro i hi
    rw [← advance_succ_left h (by omega)]
    exact ha (i + 1) (by omega)

theorem read_update_advance (h : R.Mem p) (hk : k ≤ i) (hi : i < R.size) :
    R.read (Function.update mem (R.advance p i) w) p k = R.read mem p k :=
  read_update_of_ne h (by omega) (fun _ hj => advance_ne h (by omega) hi)

/-- Words that do not reach the end of the ring are read in place. -/
theorem read_of_le (h : R.Mem p) (hk : p + k ≤ R.hi) :
    R.read mem p k = (List.range k).map (fun i => mem (p + i)) := by
  induction k generalizing p with
  | zero => rfl
  | succ k ih =>
    rw [List.range_succ_eq_map, List.map_cons, List.map_map, read_cons]
    cases k with
    | zero => rfl
    | succ k =>
      have hs : R.succ p = p + 1 := by
        unfold succ
        split_ifs <;> omega
      have hm : R.Mem (p + 1) := by
        unfold Mem at *
        omega
      rw [hs, ih hm (by omega)]
      congr 1
      apply List.map_congr_left
      intro i _
      simp only [Function.comp_apply]
      congr 1
      omega

end Read

section Store

variable {α : Type u} {src mem : Nat → α}

@[simp] theorem store_zero (p i : Nat) : R.store src p i 0 mem = mem := rfl

theorem store_succ (p i k : Nat) :
    R.store src p i (k + 1) mem = R.store src (R.succ p) (i + 1) k (Function.update mem p (src i)) :=
  rfl

/-- What is where after the words are written. -/
theorem store_apply (h : R.Mem p) (hk : k ≤ R.size) (a : Nat) :
    R.store src p i k mem a =
      if R.Mem a ∧ R.dist p a < k then src (i + R.dist p a) else mem a := by
  induction k generalizing p i mem with
  | zero => rw [store_zero, if_neg (by omega)]
  | succ k ih =>
    rw [store_succ, ih (mem_succ h) (by omega)]
    by_cases ha : a = p
    · subst ha
      have hround : ¬ R.dist (R.succ a) a < k := by
        unfold Mem size dist succ at *
        split_ifs <;> omega
      rw [if_neg (fun hmem => hround hmem.2), dist_self, if_pos ⟨h, Nat.succ_pos k⟩,
        Function.update_self, Nat.add_zero]
    · rw [Function.update_of_ne ha]
      by_cases hmem : R.Mem a
      · have hdist := dist_succ_left h hmem (Ne.symm ha)
        by_cases hlt : R.dist (R.succ p) a < k
        · rw [if_pos ⟨hmem, hlt⟩, if_pos ⟨hmem, by omega⟩, ← hdist, Nat.add_right_comm]
          rfl
        · rw [if_neg (fun hm => hlt hm.2), if_neg (fun hm => hlt (by omega))]
      · rw [if_neg (fun hm => hmem hm.1), if_neg (fun hm => hmem hm.1)]

end Store

end Ring

end Vmwgfx.Lib
