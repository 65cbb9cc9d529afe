import Mathlib.Order.Lattice
import Mathlib.Order.MinMax
import Mathlib.Algebra.Order.Group.Int

/-! Rectangles of integers, open on the right and at the bottom. -/

namespace Vmwgfx.Lib

structure Rect where
  left : Int
  top : Int
  right : Int
  bottom : Int
  deriving DecidableEq

namespace Rect

def Has (r : Rect) (x y : Int) : Prop := (r.left ≤ x ∧ x < r.right) ∧ r.top ≤ y ∧ y < r.bottom

instance (r : Rect) (x y : Int) : Decidable (r.Has x y) := inferInstanceAs (Decidable (_ ∧ _))

/-- The rectangle has a point. -/
def Proper (r : Rect) : Prop := r.left < r.right ∧ r.top < r.bottom

instance (r : Rect) : Decidable r.Proper := inferInstanceAs (Decidable (_ ∧ _))

theorem proper_iff {r : Rect} : r.Proper ↔ ∃ x y, r.Has x y := by
  constructor
  · rintro ⟨hx, hy⟩
    exact ⟨r.left, r.top, ⟨Int.le_refl _, hx⟩, Int.le_refl _, hy⟩
  · rintro ⟨x, y, hx, hy⟩
    exact ⟨Int.lt_of_le_of_lt hx.1 hx.2, Int.lt_of_le_of_lt hy.1 hy.2⟩

def inter (r s : Rect) : Rect := ⟨max r.left s.left, max r.top s.top, min r.right s.right, min r.bottom s.bottom⟩

@[simp] theorem has_inter {r s : Rect} {x y : Int} : (r.inter s).Has x y ↔ r.Has x y ∧ s.Has x y := by
  unfold Has inter
  dsimp only
  omega

/-- The smallest rectangle around two. -/
def hull (r s : Rect) : Rect := ⟨min r.left s.left, min r.top s.top, max r.right s.right, max r.bottom s.bottom⟩

/-- The edges of one rectangle are within those of the other; a rectangle may be inverted. -/
def Within (r s : Rect) : Prop := (s.left ≤ r.left ∧ r.right ≤ s.right) ∧ s.top ≤ r.top ∧ r.bottom ≤ s.bottom

theorem Within.refl (r : Rect) : r.Within r := ⟨⟨Int.le_refl _, Int.le_refl _⟩, Int.le_refl _, Int.le_refl _⟩

theorem Within.trans {r s t : Rect} (h : r.Within s) (h' : s.Within t) : r.Within t := by
  unfold Within at *
  omega

theorem within_hull_left (r s : Rect) : r.Within (r.hull s) := by
  unfold Within hull
  dsimp only
  omega

theorem within_hull_right (r s : Rect) : s.Within (r.hull s) := by
  unfold Within hull
  dsimp only
  omega

/-- The smallest rectangle around a list. -/
def box (first : Rect) (rest : List Rect) : Rect := rest.foldl hull first

theorem within_box {first : Rect} {rest : List Rect} {r : Rect} (hr : r ∈ first :: rest) : r.Within (box first rest) := by
  unfold box
  induction rest generalizing first r with
  | nil =>
    rw [List.mem_singleton.mp hr]
    exact Within.refl first
  | cons s rest ih =>
    have hhull : (first.hull s).Within (rest.foldl hull (first.hull s)) := ih List.mem_cons_self
    rcases List.mem_cons.mp hr with rfl | hr
    · exact (within_hull_left r s).trans hhull
    · rcases List.mem_cons.mp hr with rfl | hr
      · exact (within_hull_right first r).trans hhull
      · exact ih (List.mem_cons_of_mem _ hr)

/-- A property of the edges that `min` and `max` keep. -/
theorem box_induction {P : Rect → Prop} (hhull : ∀ r s, P r → P s → P (r.hull s)) {first : Rect} {rest : List Rect}
    (h : ∀ r ∈ first :: rest, P r) : P (box first rest) := by
  unfold box
  induction rest generalizing first with
  | nil => exact h first List.mem_cons_self
  | cons s rest ih =>
    apply ih
    intro r hr
    rcases List.mem_cons.mp hr with rfl | hr
    · exact hhull first s (h first List.mem_cons_self) (h s (by simp))
    · exact h r (by simp [hr])

end Rect

end Vmwgfx.Lib
