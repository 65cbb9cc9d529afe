import Mathlib.Algebra.Ring.Int.Defs
import Mathlib.Algebra.Ring.Nat
import Mathlib.Data.List.Basic
import Mathlib.Order.Lattice
import Mathlib.Tactic.Common

/-! Radix tables: every node has up to `r` entries, each naming a node one
level below; the names at level 0 are the leaves. -/

universe u

namespace Vmwgfx.Lib.Radix

variable {N : Type u} {read read' : N → Nat → Option N} {r d : Nat}

def walk (read : N → Nat → Option N) (r : Nat) : Nat → N → Nat → Option N
  | 0, node, i => if i = 0 then some node else none
  | d + 1, node, i => (read node (i / r ^ d)).bind (fun n => walk read r d n (i % r ^ d))

/-- The node at the end of a path of entries. -/
def descend (read : N → Nat → Option N) : List Nat → N → Option N
  | [], node => some node
  | i :: path, node => (read node i).bind (descend read path)

/-- No two paths that end above the leaves end at the same node. -/
def NodesOnce (read : N → Nat → Option N) (d : Nat) (root : N) : Prop :=
  ∀ path path' n, path.length < d → path'.length < d → descend read path root = some n →
    descend read path' root = some n → path = path'

/-- Every leaf is found, at its own index, below the root its index selects. -/
def Covers (read : N → Nat → Option N) (r d : Nat) (roots leaves : List N) : Prop :=
  ∀ i v, leaves[i]? = some v →
    ∃ root, roots[i / r ^ d]? = some root ∧ walk read r d root (i % r ^ d) = some v

theorem walk_mono (h : ∀ n i v, read n i = some v → read' n i = some v) {n : N} {i : Nat} {v : N}
    (hw : walk read r d n i = some v) : walk read' r d n i = some v := by
  induction d generalizing n i with
  | zero => exact hw
  | succ d ih =>
    obtain ⟨m, hm, hrest⟩ := Option.bind_eq_some_iff.mp hw
    exact Option.bind_eq_some_iff.mpr ⟨m, h _ _ _ hm, ih hrest⟩

theorem Covers.mono (h : ∀ n i v, read n i = some v → read' n i = some v) {roots leaves : List N}
    (hc : Covers read r d roots leaves) : Covers read' r d roots leaves := by
  intro i v hi
  obtain ⟨root, hroot, hw⟩ := hc i v hi
  exact ⟨root, hroot, walk_mono h hw⟩

theorem covers_zero (leaves : List N) : Covers read r 0 leaves leaves := by
  intro i v hi
  exact ⟨v, by simpa using hi, by simp [walk, Nat.mod_one]⟩

/-- One more level: the nodes of the level below are the entries of the new roots. -/
theorem Covers.succ {roots nodes leaves : List N} (hc : Covers read r d nodes leaves)
    (hentry : ∀ j n, nodes[j]? = some n →
      ∃ root, roots[j / r]? = some root ∧ read root (j % r) = some n) :
    Covers read r (d + 1) roots leaves := by
  intro i v hi
  obtain ⟨n, hn, hw⟩ := hc i v hi
  obtain ⟨root, hroot, hread⟩ := hentry _ n hn
  have hdiv : i / r ^ d / r = i / r ^ (d + 1) := by rw [Nat.div_div_eq_div_mul, Nat.pow_succ]
  have hidx : i % r ^ (d + 1) / r ^ d = i / r ^ d % r := by
    rw [Nat.pow_succ, Nat.mod_mul_right_div_self]
  have hrest : i % r ^ (d + 1) % r ^ d = i % r ^ d := by
    rw [Nat.pow_succ, Nat.mod_mul_right_mod]
  rw [hdiv] at hroot
  refine ⟨root, hroot, ?_⟩
  rw [walk, hidx, hrest, hread]
  exact hw

/-- A single root finds every leaf. -/
theorem Covers.walk_root {root : N} {leaves : List N} (hc : Covers read r d [root] leaves) {i : Nat}
    (hi : i < leaves.length) : walk read r d root i = some leaves[i] := by
  obtain ⟨root', hroot, hw⟩ := hc i _ (List.getElem?_eq_getElem hi)
  have hzero : i / r ^ d = 0 := by
    have hlt := (List.getElem?_eq_some_iff.mp hroot).1
    simpa using hlt
  have hmod : i % r ^ d = i := by
    rcases Nat.div_eq_zero_iff.mp hzero with hpow | hlt
    · rw [hpow, Nat.mod_zero]
    · exact Nat.mod_eq_of_lt hlt
  rw [hzero] at hroot
  cases hroot
  rw [hmod] at hw
  exact hw

end Vmwgfx.Lib.Radix
