import Mathlib.Data.Set.Insert
import Vmwgfx.Lib.Layout
import Vmwgfx.Lib.Machine

/-! What an allocator of address ranges is for: the blocks it has handed out, by name. -/

universe u

namespace Vmwgfx.Lib.Allocator

variable {κ : Type u}

/-- A block of a size, at a multiple of the alignment if there is one, between two addresses. -/
structure Request where
  size : Nat
  alignment : Nat
  start : Nat
  stop : Nat

def Request.Fits (r : Request) (b : Block) : Prop :=
  b.len = r.size ∧ (r.alignment ≠ 0 → r.alignment ∣ b.start) ∧ r.start ≤ b.start ∧ b.start + b.len ≤ r.stop

inductive Call (κ : Type u)
  | get (r : Request) (answer : Option (κ × Block))
  | put (name : κ)

/-- The addresses of the block are in range and nobody has them. -/
def Unused (lo hi : Nat) (owned : Set (κ × Block)) (b : Block) : Prop :=
  lo ≤ b.start ∧ b.start + b.len ≤ hi ∧ ∀ x ∈ owned, b.Apart x.2

/-- A gap: unused addresses with used ones, or the end of the range, on both sides. -/
structure Gap (lo hi : Nat) (owned : Set (κ × Block)) (g : Block) : Prop where
  unused : Unused lo hi owned g
  pos : 0 < g.len
  left : g.start = lo ∨ ∃ x ∈ owned, x.2.start + x.2.len = g.start
  right : g.start + g.len = hi ∨ ∃ x ∈ owned, x.2.start = g.start + g.len

def Within (b g : Block) : Prop := g.start ≤ b.start ∧ b.start + b.len ≤ g.start + g.len

/-- The block is at the lowest address of the smallest gap that has room for it. -/
def BestFit (lo hi : Nat) (owned : Set (κ × Block)) (r : Request) (b : Block) : Prop :=
  ∃ g, Gap lo hi owned g ∧ Within b g ∧
    (∀ c, Within c g → r.Fits c → b.start ≤ c.start) ∧
    ∀ g' c, Gap lo hi owned g' → Within c g' → r.Fits c → g.len ≤ g'.len

section Spec

variable (lo hi : Nat)

/-- What may happen: a block that is handed out is unused and the one to `pick`, and a request fails
only if no block fits it. -/
def Legal (pick : Set (κ × Block) → Request → Block → Prop) (owned : Set (κ × Block)) : Call κ → Prop
  | .get r none => ∀ b, Unused lo hi owned b → ¬ r.Fits b
  | .get r (some (name, b)) => Unused lo hi owned b ∧ r.Fits b ∧ pick owned r b ∧ ∀ c, (name, c) ∉ owned
  | .put name => ∃ b, (name, b) ∈ owned

def after (owned : Set (κ × Block)) : Call κ → Set (κ × Block)
  | .get _ none => owned
  | .get _ (some x) => insert x owned
  | .put name => {x ∈ owned | x.1 ≠ name}

/-- A history of an allocator that starts with nothing handed out. -/
abbrev History (pick : Set (κ × Block) → Request → Block → Prop) (events : List (Call κ)) (owned : Set (κ × Block)) :
    Prop :=
  Run (fun owned e => some (after owned e)) (Legal lo hi pick) ∅ events owned

/-- Every name stands for one block, the blocks are in range, and no two share an address. -/
structure Exclusive (owned : Set (κ × Block)) : Prop where
  bounds : ∀ x ∈ owned, lo ≤ x.2.start ∧ x.2.start + x.2.len ≤ hi
  name : ∀ x ∈ owned, ∀ y ∈ owned, x.1 = y.1 → x = y
  apart : ∀ x ∈ owned, ∀ y ∈ owned, x ≠ y → x.2.Apart y.2

end Spec

variable {lo hi : Nat} {pick : Set (κ × Block) → Request → Block → Prop} {owned : Set (κ × Block)}

theorem Unused.within {b g : Block} (h : Unused lo hi owned g) (hb : Within b g) : Unused lo hi owned b :=
  ⟨h.1.trans hb.1, hb.2.trans h.2.1, fun x hx a ha =>
    h.2.2 x hx a ⟨⟨hb.1.trans ha.1.1, Nat.lt_of_lt_of_le ha.1.2 hb.2⟩, ha.2⟩⟩

theorem exclusive_empty : Exclusive lo hi (∅ : Set (κ × Block)) where
  bounds _ h := h.elim
  name _ h := h.elim
  apart _ h := h.elim

theorem Exclusive.after {e : Call κ} (hlegal : Legal lo hi pick owned e) (h : Exclusive lo hi owned) :
    Exclusive lo hi (Allocator.after owned e) := by
  cases e with
  | get r answer =>
    cases answer with
    | none => exact h
    | some x =>
      obtain ⟨hunused, -, -, hfresh⟩ := hlegal
      refine ⟨?_, ?_, ?_⟩
      · rintro y (rfl | hy)
        · exact ⟨hunused.1, hunused.2.1⟩
        · exact h.bounds y hy
      · rintro y (rfl | hy) z (rfl | hz) heq
        · rfl
        · refine absurd ?_ (hfresh z.2)
          rw [heq]
          exact hz
        · refine absurd ?_ (hfresh y.2)
          rw [← heq]
          exact hy
        · exact h.name y hy z hz heq
      · rintro y (rfl | hy) z (rfl | hz) hne
        · exact absurd rfl hne
        · exact hunused.2.2 z hz
        · exact fun a ha => hunused.2.2 y hy a ⟨ha.2, ha.1⟩
        · exact h.apart y hy z hz hne
  | put name =>
    exact ⟨fun x hx => h.bounds x hx.1, fun x hx y hy => h.name x hx.1 y hy.1, fun x hx y hy => h.apart x hx.1 y hy.1⟩

theorem History.exclusive {events : List (Call κ)} (h : History lo hi pick events owned) : Exclusive lo hi owned :=
  Run.invariant (fun _ _ _ hok hstep hex => Option.some.inj hstep ▸ hex.after hok) h exclusive_empty

theorem History.snoc {events : List (Call κ)} {e : Call κ} (h : History lo hi pick events owned)
    (hlegal : Legal lo hi pick owned e) : History lo hi pick (events ++ [e]) (Allocator.after owned e) :=
  Run.append h (.single hlegal rfl)

end Vmwgfx.Lib.Allocator
