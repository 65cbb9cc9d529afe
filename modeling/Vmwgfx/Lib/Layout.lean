import Mathlib.Algebra.Order.BigOperators.Group.List
import Mathlib.Algebra.BigOperators.Group.Finset.Basic
import Mathlib.Algebra.Ring.Int.Defs
import Mathlib.Algebra.Ring.Nat
import Mathlib.Data.Finset.Card
import Mathlib.Data.List.Pairwise
import Mathlib.Order.Interval.Finset.Nat

/-! Blocks of a memory: when they are apart, how much room they need, and what is read back after
all of them were written. -/

universe u

namespace Vmwgfx.Lib

structure Block where
  start : Nat
  len : Nat
  deriving DecidableEq, Repr

namespace Block

/-- The addresses of a block. -/
def Has (b : Block) (x : Nat) : Prop := b.start ≤ x ∧ x < b.start + b.len

def Apart (b c : Block) : Prop := ∀ x, ¬ (b.Has x ∧ c.Has x)

theorem apart_of_le {b c : Block} (h : b.start + b.len ≤ c.start) : b.Apart c := by
  rintro x ⟨⟨-, hlt⟩, hle, -⟩
  omega

instance (b : Block) (x : Nat) : Decidable (b.Has x) := inferInstanceAs (Decidable (_ ∧ _))

end Block

/-- Blocks that are apart and below `n` have no more than `n` addresses. -/
theorem sum_len_le {bs : List Block} {n : Nat} (hapart : bs.Pairwise Block.Apart)
    (hbelow : ∀ b ∈ bs, ∀ x, b.Has x → x < n) : (bs.map Block.len).sum ≤ n := by
  -- the addresses of all blocks, as a set below `n`
  suffices h : ∃ s : Finset Nat, (∀ x, x ∈ s ↔ ∃ b ∈ bs, b.Has x) ∧ s.card = (bs.map Block.len).sum by
    obtain ⟨s, hs, hcard⟩ := h
    rw [← hcard, ← Finset.card_range n]
    apply Finset.card_le_card
    intro x hx
    obtain ⟨b, hb, hhas⟩ := (hs x).mp hx
    exact Finset.mem_range.mpr (hbelow b hb x hhas)
  clear hbelow
  induction bs with
  | nil => exact ⟨∅, by simp, rfl⟩
  | cons b bs ih =>
    obtain ⟨hhead, htail⟩ := List.pairwise_cons.mp hapart
    obtain ⟨s, hs, hcard⟩ := ih htail
    have hdisj : Disjoint (Finset.Ico b.start (b.start + b.len)) s := by
      rw [Finset.disjoint_left]
      intro x hx hxs
      obtain ⟨c, hc, hhas⟩ := (hs x).mp hxs
      exact hhead c hc x ⟨Finset.mem_Ico.mp hx, hhas⟩
    refine ⟨Finset.Ico b.start (b.start + b.len) ∪ s, fun x => ?_, ?_⟩
    · rw [Finset.mem_union, Finset.mem_Ico, hs, List.exists_mem_cons_iff]
      rfl
    · rw [Finset.card_union_of_disjoint hdisj, hcard, Nat.card_Ico, List.map_cons, List.sum_cons,
        Nat.add_sub_cancel_left]

/-- Blocks of the given lengths, one behind the other. -/
def stack : Nat → List Nat → List Block
  | _, [] => []
  | start, n :: ns => ⟨start, n⟩ :: stack (start + n) ns

theorem stack_start_le {start : Nat} {ns : List Nat} {b : Block} (h : b ∈ stack start ns) : start ≤ b.start := by
  induction ns generalizing start with
  | nil => cases h
  | cons n ns ih =>
    rcases List.mem_cons.mp h with rfl | h
    · exact le_rfl
    · exact (Nat.le_add_right _ _).trans (ih h)

theorem stack_end_le {start : Nat} {ns : List Nat} {b : Block} (h : b ∈ stack start ns) :
    b.start + b.len ≤ start + ns.sum := by
  induction ns generalizing start with
  | nil => cases h
  | cons n ns ih =>
    rw [List.sum_cons, ← Nat.add_assoc]
    rcases List.mem_cons.mp h with rfl | h
    · exact Nat.le_add_right _ _
    · exact ih h

theorem stack_apart (start : Nat) (ns : List Nat) : (stack start ns).Pairwise Block.Apart := by
  induction ns generalizing start with
  | nil => exact .nil
  | cons n ns ih => exact .cons (fun b hb => Block.apart_of_le (stack_start_le hb)) (ih _)

/-- A block starts at the sum of the lengths before it. -/
theorem getElem?_stack (start : Nat) (ns : List Nat) (i : Nat) :
    (stack start ns)[i]? = ns[i]?.map fun n => ⟨start + (ns.take i).sum, n⟩ := by
  induction ns generalizing start i with
  | nil => rfl
  | cons n ns ih =>
    cases i with
    | zero => rfl
    | succ i => simp [stack, ih, Nat.add_assoc]

theorem stack_append (start : Nat) (ns ms : List Nat) : stack start (ns ++ ms) = stack start ns ++ stack (start + ns.sum) ms := by
  induction ns generalizing start with
  | nil => rfl
  | cons n ns ih =>
    rw [List.cons_append, stack, ih, List.sum_cons, Nat.add_assoc]
    rfl

/-- The last block ends where the stack does. -/
theorem stack_last {start : Nat} {ns : List Nat} {b : Block} (h : (stack start ns).getLast? = some b) :
    b.start + b.len = start + ns.sum := by
  induction ns generalizing start with
  | nil => cases h
  | cons n ns ih =>
    rw [List.sum_cons, ← Nat.add_assoc]
    cases ns with
    | nil =>
      cases h
      rfl
    | cons m ns =>
      rw [stack, stack, List.getLast?_cons_cons] at h
      exact ih h

section Memory

variable {α : Type u}

/-- Copies `data` into a block. -/
def put (m : Nat → α) (b : Block) (data : Nat → α) : Nat → α := fun x =>
  if b.Has x then data (x - b.start) else m x

theorem put_of_has {m : Nat → α} {b : Block} {data : Nat → α} {i : Nat} (h : i < b.len) :
    put m b data (b.start + i) = data i := by
  have hhas : b.Has (b.start + i) := ⟨Nat.le_add_right _ _, Nat.add_lt_add_left h _⟩
  rw [put, if_pos hhas, Nat.add_sub_cancel_left]

theorem put_of_not_has {m : Nat → α} {b : Block} {data : Nat → α} {x : Nat} (h : ¬ b.Has x) :
    put m b data x = m x := if_neg h

/-- Copies into one block after the other. -/
def putAll (m : Nat → α) (l : List (Block × (Nat → α))) : Nat → α := l.foldl (fun m w => put m w.1 w.2) m

theorem putAll_of_not_has {m : Nat → α} {l : List (Block × (Nat → α))} {x : Nat} (h : ∀ w ∈ l, ¬ w.1.Has x) :
    putAll m l x = m x := by
  induction l generalizing m with
  | nil => rfl
  | cons w l ih =>
    obtain ⟨hhead, htail⟩ := List.forall_mem_cons.mp h
    exact (ih htail).trans (put_of_not_has hhead)

/-- Blocks that are apart keep what was copied into each. -/
theorem putAll_of_mem {m : Nat → α} {l : List (Block × (Nat → α))} (hapart : (l.map Prod.fst).Pairwise Block.Apart)
    {w : Block × (Nat → α)} (hw : w ∈ l) {i : Nat} (hi : i < w.1.len) : putAll m l (w.1.start + i) = w.2 i := by
  induction l generalizing m with
  | nil => cases hw
  | cons v l ih =>
    obtain ⟨hhead, htail⟩ := List.pairwise_cons.mp hapart
    rcases List.mem_cons.mp hw with rfl | hw
    · show putAll (put m w.1 w.2) l (w.1.start + i) = w.2 i
      rw [putAll_of_not_has, put_of_has hi]
      intro v hv hhas
      exact hhead v.1 (List.mem_map_of_mem hv) _ ⟨⟨Nat.le_add_right _ _, Nat.add_lt_add_left hi _⟩, hhas⟩
    · exact ih htail hw

end Memory

end Vmwgfx.Lib
