import Mathlib.Algebra.Ring.Int.Defs
import Mathlib.Algebra.Ring.Nat
import Mathlib.Data.List.Basic
import Mathlib.Logic.Function.Basic
import Mathlib.Order.Lattice

/-! A loop over a list whose entries point into a table: each turn changes an entry and what it points to. -/

universe u v w

namespace Vmwgfx.Lib

variable {α : Type u} {β : Type v} {ε : Type w} [DecidableEq β]

/-- The table and the list after the loop. -/
def sweep (key : ε → β) (f : α → ε → α × ε) : (β → α) → List ε → (β → α) × List ε
  | m, [] => (m, [])
  | m, e :: es =>
    let r := f (m (key e)) e
    let rest := sweep key f (Function.update m (key e) r.1) es
    (rest.1, r.2 :: rest.2)

section Sweep

variable {key : ε → β} {f : α → ε → α × ε} {m : β → α} {e : ε} {es : List ε}

theorem sweep_cons : sweep key f m (e :: es) =
    ((sweep key f (Function.update m (key e) (f (m (key e)) e).1) es).1,
      (f (m (key e)) e).2 :: (sweep key f (Function.update m (key e) (f (m (key e)) e).1) es).2) := rfl

/-- The turns of the entries that are not active do nothing, and no two active entries point to the same place. -/
structure Apart (key : ε → β) (f : α → ε → α × ε) (active : ε → Prop) (es : List ε) : Prop where
  idle : ∀ x e, ¬ active e → f x e = (x, e)
  apart : es.Pairwise fun e e' => active e → active e' → key e ≠ key e'

namespace Apart

variable {active : ε → Prop}

omit [DecidableEq β] in
theorem tail (h : Apart key f active (e :: es)) : Apart key f active es := ⟨h.idle, h.apart.of_cons⟩

/-- What no active entry points to stays as it is. -/
theorem other (h : Apart key f active es) {b : β} (hb : ∀ e ∈ es, active e → key e ≠ b) :
    (sweep key f m es).1 b = m b := by
  induction es generalizing m with
  | nil => rfl
  | cons e es ih =>
    rw [sweep_cons]
    dsimp only
    rw [ih h.tail fun e' he' => hb e' (List.mem_cons_of_mem e he')]
    by_cases he : active e
    · exact Function.update_of_ne (hb e List.mem_cons_self he).symm ..
    · rw [h.idle _ e he]
      exact congrFun (Function.update_eq_self ..) b

/-- Each entry sees what it points to as it was before the loop. -/
theorem entries (h : Apart key f active es) : (sweep key f m es).2 = es.map fun e => (f (m (key e)) e).2 := by
  induction es generalizing m with
  | nil => rfl
  | cons e es ih =>
    rw [sweep_cons, List.map_cons]
    dsimp only
    rw [ih h.tail]
    refine congrArg _ (List.map_congr_left fun e' he' => ?_)
    by_cases he' : active e'
    · by_cases he : active e
      · have hne := (List.pairwise_cons.mp h.apart).1 e' ‹_› he he'
        rw [Function.update_of_ne hne.symm]
      · rw [h.idle _ e he, Function.update_eq_self]
    · rw [h.idle _ e' he', h.idle _ e' he']

/-- What an active entry points to is changed by its turn alone. -/
theorem own (h : Apart key f active es) (he : e ∈ es) (ha : active e) :
    (sweep key f m es).1 (key e) = (f (m (key e)) e).1 := by
  induction es generalizing m with
  | nil => cases he
  | cons e' es ih =>
    rw [sweep_cons]
    obtain ⟨hhead, -⟩ := List.pairwise_cons.mp h.apart
    rcases List.mem_cons.mp he with rfl | he
    · have hother : ∀ e' ∈ es, active e' → key e' ≠ key e := fun e' he' ha' => (hhead e' he' ha ha').symm
      dsimp only
      rw [h.tail.other hother, Function.update_self]
    · dsimp only
      rw [ih h.tail he]
      by_cases he' : active e'
      · rw [Function.update_of_ne (hhead e he he' ha).symm]
      · rw [h.idle _ e' he', Function.update_eq_self]

/-- What becomes of each place. -/
theorem place (h : Apart key f active es) (b : β) :
    (∃ e ∈ es, active e ∧ key e = b ∧ (sweep key f m es).1 b = (f (m b) e).1) ∨
      (∀ e ∈ es, active e → key e ≠ b) ∧ (sweep key f m es).1 b = m b := by
  by_cases hb : ∃ e ∈ es, active e ∧ key e = b
  · obtain ⟨e, he, ha, rfl⟩ := hb
    exact .inl ⟨e, he, ha, rfl, h.own he ha⟩
  · have hnone : ∀ e ∈ es, active e → key e ≠ b := fun e he ha heq => hb ⟨e, he, ha, heq⟩
    exact .inr ⟨hnone, h.other hnone⟩

end Apart

end Sweep

/-- An entry of a list with a new entry at `i`. -/
theorem getElem?_set_of_get {l : List ε} {i : Nat} {e e' : ε} (hget : l[i]? = some e) (j : Nat) :
    (l.set i e')[j]? = if j = i then some e' else l[j]? := by
  rw [List.getElem?_set]
  obtain ⟨hlt, -⟩ := List.getElem?_eq_some_iff.mp hget
  by_cases h : i = j
  · rw [if_pos h, if_pos hlt, if_pos h.symm]
  · rw [if_neg h, if_neg (Ne.symm h)]

section Tally

/-- The weights of the entries that point to `b`. -/
def tally (key : ε → β) (weight : ε → Int) (es : List ε) (b : β) : Int :=
  (es.map fun e => if key e = b then weight e else 0).sum

variable {key : ε → β} {weight weight' : ε → Int} {e e' : ε} {es : List ε} {b : β}

@[simp] theorem tally_nil : tally key weight [] b = 0 := rfl

@[simp] theorem tally_cons :
    tally key weight (e :: es) b = (if key e = b then weight e else 0) + tally key weight es b := by
  simp [tally]

theorem tally_map {g : ε → ε} (hkey : ∀ e, key (g e) = key e) (hweight : ∀ e ∈ es, weight (g e) = weight e) :
    tally key weight (es.map g) b = tally key weight es b := by
  unfold tally
  rw [List.map_map]
  refine congrArg _ (List.map_congr_left fun e he => ?_)
  simp only [Function.comp_apply, hkey, hweight e he]

theorem tally_eq_zero (h : ∀ e ∈ es, weight e = 0) : tally key weight es b = 0 := by
  induction es with
  | nil => rfl
  | cons e es ih =>
    rw [tally_cons, ih fun e' he' => h e' (List.mem_cons_of_mem e he'), h e List.mem_cons_self]
    split <;> rfl

theorem tally_set {i : Nat} (hget : es[i]? = some e) (hkey : key e' = key e) :
    tally key weight (es.set i e') b + (if key e = b then weight e else 0) =
      tally key weight es b + if key e = b then weight e' else 0 := by
  induction es generalizing i with
  | nil => cases hget
  | cons a es ih =>
    cases i with
    | zero =>
      cases hget
      rw [List.set_cons_zero, tally_cons, tally_cons, hkey]
      omega
    | succ i =>
      rw [List.set_cons_succ, tally_cons, tally_cons]
      have := ih (i := i) (by simpa using hget)
      omega

/-- What every turn of a loop leaves in balance with the weight of its entry is in balance after the loop. -/
theorem sweep_balance {α : Type u} {f : α → ε → α × ε} {value : α → Int} {m : β → α} (P : ε → Prop)
    (hkey : ∀ x e, key (f x e).2 = key e)
    (hbal : ∀ x e, P e → value (f x e).1 + weight e = value x + weight (f x e).2) (hP : ∀ e ∈ es, P e) (b : β) :
    value ((sweep key f m es).1 b) + tally key weight es b =
      value (m b) + tally key weight (sweep key f m es).2 b := by
  induction es generalizing m with
  | nil => rfl
  | cons e es ih =>
    rw [sweep_cons]
    dsimp only
    rw [tally_cons, tally_cons, hkey]
    have hrest := ih (m := Function.update m (key e) (f (m (key e)) e).1) fun e' he' => hP e' (List.mem_cons_of_mem e he')
    have hturn := hbal (m (key e)) e (hP e List.mem_cons_self)
    by_cases heq : key e = b
    · subst heq
      rw [Function.update_self] at hrest
      simp only [if_true]
      omega
    · rw [Function.update_of_ne (Ne.symm heq)] at hrest
      simp only [heq, if_false]
      omega

end Tally

end Vmwgfx.Lib
