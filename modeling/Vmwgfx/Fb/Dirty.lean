import Mathlib.Data.List.Basic
import Vmwgfx.Fb.Defs

/-! What the console still has to show. -/

namespace Vmwgfx.Fb

open Vmwgfx.Lib

variable {info : Info} {s t : State} {x y k : Nat}

section Geometry

@[simp] theorem Info.stride_eq (info : Info) : info.stride = info.maxWidth := by
  unfold Info.stride Info.lineLength
  omega

theorem Info.lineLength_eq (info : Info) : info.lineLength = 4 * info.maxWidth := by
  unfold Info.lineLength
  omega

theorem Info.smemLen_eq (info : Info) : info.smemLen = 4 * (info.maxWidth * info.maxHeight) := by
  unfold Info.smemLen
  rw [info.lineLength_eq, Nat.mul_assoc]

theorem Info.limit_eq (info : Info) : info.smemLen / 4 = info.maxWidth * info.maxHeight := by
  rw [info.smemLen_eq]
  exact Nat.mul_div_cancel_left _ (by decide)

theorem Info.Visible.x_lt (h : info.Visible x y) : x < info.maxWidth := Nat.lt_of_lt_of_le h.1 info.xres_le

theorem Info.Visible.y_lt (h : info.Visible x y) : y < info.maxHeight := Nat.lt_of_lt_of_le h.2 info.yres_le

theorem Info.Visible.word_mod (h : info.Visible x y) : info.word x y % info.stride = x := by
  unfold Info.word
  rw [info.stride_eq, Nat.mul_add_mod_self_right]
  exact Nat.mod_eq_of_lt h.x_lt

theorem Info.Visible.word_div (h : info.Visible x y) : info.word x y / info.stride = y := by
  unfold Info.word
  have hpos : 0 < info.maxWidth := Nat.zero_lt_of_lt h.x_lt
  rw [info.stride_eq, Nat.mul_comm, Nat.mul_add_div hpos, Nat.div_eq_of_lt h.x_lt, Nat.add_zero]

theorem Info.Visible.word_lt (h : info.Visible x y) : info.word x y < info.smemLen / 4 := by
  rw [info.limit_eq]
  unfold Info.word
  rw [info.stride_eq]
  have hx := h.x_lt
  have hy : (y + 1) * info.maxWidth ≤ info.maxHeight * info.maxWidth := Nat.mul_le_mul_right _ h.y_lt
  rw [Nat.mul_comm info.maxWidth]
  rw [Nat.add_mul, Nat.one_mul] at hy
  omega

end Geometry

section Copy

theorem mem_copyRow {limit stop fuel k j : Nat} (hfuel : limit ≤ k + fuel) :
    j ∈ copyRow limit stop fuel k ↔ k ≤ j ∧ j < stop ∧ j < limit := by
  induction fuel generalizing k with
  | zero =>
    unfold copyRow
    simp only [List.not_mem_nil, false_iff]
    omega
  | succ fuel ih =>
    unfold copyRow
    split
    case isTrue hk =>
      simp only [Bool.and_eq_true, decide_eq_true_eq] at hk
      rw [List.mem_cons, ih (by omega)]
      omega
    case isFalse hk =>
      simp only [Bool.and_eq_true, decide_eq_true_eq] at hk
      simp only [List.not_mem_nil, false_iff]
      omega

theorem copyRows_lt {limit stride : Nat} {u : Update} {fuel i j : Nat} (hj : j ∈ copyRows limit stride u fuel i) :
    j < limit := by
  induction fuel generalizing i with
  | zero => cases hj
  | succ fuel ih =>
    unfold copyRows at hj
    split at hj
    case isTrue =>
      rcases List.mem_append.mp hj with hrow | hrest
      · exact ((mem_copyRow (by omega)).mp hrow).2.2
      · exact ih hrest
    case isFalse => cases hj

/-- The rows are `stride` apart. -/
theorem mem_copyRows {limit stride : Nat} {u : Update} {fuel i j n : Nat} (hfuel : n < fuel)
    (hn : i + n * stride < limit) (hj : i + n * stride + u.x ≤ j) (hstop : j < (i + n * stride + u.x + u.width) % 2 ^ 32)
    (hlimit : j < limit) : j ∈ copyRows limit stride u fuel i := by
  induction fuel generalizing i n with
  | zero => omega
  | succ fuel ih =>
    have hi : i < limit := by omega
    unfold copyRows
    rw [if_pos hi, List.mem_append]
    cases n with
    | zero =>
      rw [Nat.zero_mul, Nat.add_zero] at hj hstop
      exact .inl ((mem_copyRow (by omega)).mpr ⟨hj, hstop, hlimit⟩)
    | succ n =>
      have hstep : i + (n + 1) * stride = i + stride + n * stride := by
        rw [Nat.add_mul, Nat.one_mul]
        omega
      rw [hstep] at hn hj hstop
      exact .inr (ih (by omega) hn hj hstop)

theorem copyWords_lt {u : Update} (hk : k ∈ copyWords info u) : k < info.smemLen / 4 := copyRows_lt hk

/-- The rectangle is not empty and on the visible screen. -/
structure Update.Within (info : Info) (u : Update) : Prop where
  width : 0 < u.width
  height : 0 < u.height
  right : u.x + u.width ≤ info.xres
  bottom : u.y + u.height ≤ info.yres

theorem Update.Within.visible {u : Update} (h : u.Within info) (hu : u.Has x y) : info.Visible x y := by
  have hright := h.right
  have hbottom := h.bottom
  obtain ⟨⟨-, hx⟩, -, hy⟩ := hu
  exact ⟨by omega, by omega⟩

/-- The copy reaches all of the rectangle. -/
theorem Update.Within.copied {u : Update} (h : u.Within info) (hu : u.Has x y) : info.word x y ∈ copyWords info u := by
  have hvis := h.visible hu
  have hlt := hvis.word_lt
  have hright := h.right
  have hpos : 0 < info.maxWidth := Nat.zero_lt_of_lt hvis.x_lt
  obtain ⟨⟨hx, hx'⟩, hy, -⟩ := hu
  have hrow : u.y * info.stride + (y - u.y) * info.stride = y * info.stride := by
    rw [← Nat.add_mul]
    congr 1
    omega
  have hle : (y - u.y) ≤ y * info.stride := by
    rw [info.stride_eq]
    exact Nat.le_trans (Nat.sub_le _ _) (Nat.le_mul_of_pos_right y hpos)
  have hsmall : info.smemLen / 4 ≤ 2048 * 2048 := by
    rw [info.limit_eq]
    exact Nat.mul_le_mul info.maxWidth_le info.maxHeight_le
  have hwidth := info.maxWidth_le
  have hxres := info.xres_le
  unfold Info.word at hlt ⊢
  refine mem_copyRows (n := y - u.y) (by omega) (by omega) (by omega) ?_ hlt
  rw [hrow, Nat.mod_eq_of_lt (by omega)]
  omega

end Copy

section Pages

theorem mem_addPage {p q : Nat} {pages : List Nat} : q ∈ addPage p pages ↔ q = p ∨ q ∈ pages := by
  induction pages with
  | nil => simp [addPage]
  | cons cur rest ih =>
    unfold addPage
    split
    case isTrue hcur =>
      subst hcur
      simp
    case isFalse =>
      split
      case isTrue => rw [List.mem_cons]
      case isFalse =>
        rw [List.mem_cons, ih, List.mem_cons]
        exact or_left_comm

theorem addPage_ne_nil (p : Nat) (pages : List Nat) : addPage p pages ≠ [] :=
  List.ne_nil_of_mem (mem_addPage.mpr (.inl rfl))

/-- The fold over the pages takes in every one of them. -/
theorem pageRange_foldl (pages : List Nat) (r : Nat × Nat) :
    let r' := pages.foldl (fun r p => (min r.1 (p * PAGE_SIZE), max r.2 (p * PAGE_SIZE + PAGE_SIZE - 1))) r
    (r'.1 ≤ r.1 ∧ r.2 ≤ r'.2) ∧
      ∀ p ∈ pages, r'.1 ≤ p * PAGE_SIZE ∧ p * PAGE_SIZE + PAGE_SIZE - 1 ≤ r'.2 := by
  induction pages generalizing r with
  | nil => exact ⟨⟨Nat.le_refl _, Nat.le_refl _⟩, fun p hp => by cases hp⟩
  | cons p pages ih =>
    obtain ⟨hle, hall⟩ := ih (min r.1 (p * PAGE_SIZE), max r.2 (p * PAGE_SIZE + PAGE_SIZE - 1))
    dsimp only at hle
    refine ⟨⟨Nat.le_trans hle.1 (Nat.min_le_left _ _), Nat.le_trans (Nat.le_max_left _ _) hle.2⟩, ?_⟩
    intro q hq
    rcases List.mem_cons.mp hq with rfl | hq
    · exact ⟨Nat.le_trans hle.1 (Nat.min_le_right _ _), Nat.le_trans (Nat.le_max_right _ _) hle.2⟩
    · exact hall q hq

theorem pageRange_mem {pages : List Nat} {p : Nat} (hp : p ∈ pages) :
    (pageRange pages).1 ≤ p * PAGE_SIZE ∧ p * PAGE_SIZE + PAGE_SIZE - 1 ≤ (pageRange pages).2 :=
  (pageRange_foldl pages (2 ^ 64 - 1, 0)).2 p hp

theorem pageRange_lt {pages : List Nat} {p : Nat} (hp : p ∈ pages) : (pageRange pages).1 < (pageRange pages).2 := by
  obtain ⟨hmin, hmax⟩ := pageRange_mem hp
  unfold PAGE_SIZE at *
  omega

theorem pageRange_nil : ¬ (pageRange []).1 < (pageRange []).2 := by decide

/-- The rows of the pages on the list hold all their pixels. -/
theorem mem_pageRows {pages : List Nat} (hvis : info.Visible x y) (hp : pageOf (info.word x y) ∈ pages) :
    (pageRows info pages).1 ≤ y ∧ y < (pageRows info pages).2 := by
  obtain ⟨hmin, hmax⟩ := pageRange_mem hp
  have hpos : 0 < info.lineLength := by
    rw [info.lineLength_eq]
    have hx := hvis.x_lt
    omega
  have hbyte : 4 * info.word x y / info.lineLength = y := by
    rw [info.lineLength_eq, Nat.mul_div_mul_left _ _ (by decide), ← info.stride_eq]
    exact hvis.word_div
  have hpage : pageOf (info.word x y) * PAGE_SIZE ≤ 4 * info.word x y ∧
      4 * info.word x y ≤ pageOf (info.word x y) * PAGE_SIZE + PAGE_SIZE - 1 := by
    unfold pageOf PAGE_SIZE
    omega
  unfold pageRows
  constructor
  · refine Nat.le_trans (Nat.div_le_div_right (Nat.le_trans hmin hpage.1)) (Nat.le_of_eq hbyte)
  · refine Nat.lt_succ_of_le (Nat.le_trans (Nat.le_of_eq hbyte.symm) ?_)
    exact Nat.div_le_div_right (Nat.le_trans hpage.2 hmax)

end Pages

section Mark

theorem Dirty.has_mark_left {d : Dirty} {x1 y1 x2 y2 : Nat} (h : d.Has x y) : (d.mark x1 y1 x2 y2).Has x y := by
  obtain ⟨⟨hx, hx'⟩, hy, hy'⟩ := h
  have hne : d.x1 ≠ d.x2 := by omega
  unfold Dirty.mark
  rw [if_neg hne]
  unfold Dirty.Has
  dsimp only
  refine ⟨⟨?_, ?_⟩, ?_, ?_⟩
  all_goals split <;> omega

theorem Dirty.has_mark_right {d : Dirty} {x1 y1 x2 y2 : Nat} (hx : x1 ≤ x ∧ x < x2) (hy : y1 ≤ y ∧ y < y2) :
    (d.mark x1 y1 x2 y2).Has x y := by
  unfold Dirty.mark
  split
  case isTrue => exact ⟨hx, hy⟩
  case isFalse =>
    unfold Dirty.Has
    dsimp only
    refine ⟨⟨?_, ?_⟩, ?_, ?_⟩
    all_goals split <;> omega

end Mark

section Tracked

/-- Between the taking of the rectangle and its announcement. -/
def Work.flushing : Work → Bool
  | .taken _ | .copied _ => true
  | .idle | .begun | .called | .flushed => false

/-- Every visible pixel that is not yet shown lies in the dirty rectangle or on a page of the list. -/
def Covered (info : Info) (s : State) : Prop :=
  ∀ x y, info.Visible x y → (s.pixel (info.word x y)).Stale →
    s.dirty.Has x y ∨ pageOf (info.word x y) ∈ s.pagelist

/-- There is something to flush. -/
def Due (s : State) : Prop := s.dirty.x1 ≠ s.dirty.x2 ∨ s.pagelist ≠ []

structure Tracked (info : Info) (s : State) : Prop where
  covered : s.work.flushing = false → Covered info s
  scheduled : s.active = true → s.suspended = false → Due s → s.pending = true ∨ s.work ≠ .idle
  stores : ∀ k ∈ s.stores, 4 * k + 4 ≤ info.smemLen
  updates : ∀ u ∈ s.updates, u.Within info
  /-- What has been shown is what has been drawn. -/
  shown : ∀ k, s.pixel k = .shown → s.vram k = s.screen k
  mapped : s.work.flushing = true → s.mapped = true

/-- When a flush goes right: the callback does not overwrite a rectangle of which something is not on its pages' rows, the
rectangle that is taken meets the visible screen, there is room for the command, and nothing is left behind by a suspend
without work that is scheduled. -/
def Safe (info : Info) (s : State) : Action → Prop
  | .deferredIo => s.pagelist ≠ [] → ∀ x y, info.Visible x y → (s.pixel (info.word x y)).Stale → s.dirty.Has x y →
    (pageRows info s.pagelist).1 ≤ y ∧ y < (pageRows info s.pagelist).2
  | .flushTake => s.active = true → s.suspended = false →
    (s.dirty.x1 < s.dirty.x2 ∧ s.dirty.x1 < info.xres) ∧ s.dirty.y1 < s.dirty.y2 ∧ s.dirty.y1 < info.yres
  | .flushUpdate room => room = true
  | .resume => s.active = true → s.dirty.x1 ≠ s.dirty.x2 → s.pending = true ∨ s.work = .begun ∨ s.work = .called
  | _ => True

end Tracked

section Invariant

/-- Where a pixel that is not yet shown is remembered: in the dirty rectangle, on a page of the list, or by the flush. -/
def Work.Holds (work : Work) (x y : Nat) (dirty listed copied : Prop) : Prop :=
  match work with
  | .idle | .begun => dirty ∨ listed
  | .called | .flushed => dirty
  | .taken u => dirty ∨ u.Has x y
  | .copied u => dirty ∨ u.Has x y ∧ copied

def Held (info : Info) (s : State) (x y : Nat) : Prop :=
  s.work.Holds x y (s.dirty.Has x y) (pageOf (info.word x y) ∈ s.pagelist) (s.pixel (info.word x y) = .copied)

/-- The rectangle under way. -/
def Work.update : Work → Option Update
  | .taken u | .copied u => some u
  | .idle | .begun | .called | .flushed => none

/-- The invariant, the pixels in `P` aside. -/
structure Inv (info : Info) (P : Nat → Nat → Prop) (s : State) : Prop where
  held : ∀ x y, info.Visible x y → (s.pixel (info.word x y)).Stale → ¬ P x y → Held info s x y
  truth : ∀ k, s.pixel k = .copied ∨ s.pixel k = .shown → s.vram k = s.screen k
  within : ∀ u, s.work.update = some u → u.Within info
  due : s.active = true → s.suspended = false → s.dirty.x1 ≠ s.dirty.x2 →
    s.pending = true ∨ s.work = .begun ∨ s.work = .called
  listed : s.pagelist ≠ [] → s.pending = true ∨ s.work ≠ .idle
  stores : ∀ k ∈ s.stores, k < info.smemLen / 4
  updates : ∀ u ∈ s.updates, u.Within info
  mapped : s.active = true ∨ s.work.flushing = true → s.mapped = true

def Nowhere (_ _ : Nat) : Prop := False

variable {P : Nat → Nat → Prop}

theorem Work.Holds.of_dirty {w : Work} {dirty listed copied : Prop} (h : dirty) : w.Holds x y dirty listed copied := by
  cases w with
  | idle => exact .inl h
  | begun => exact .inl h
  | called => exact h
  | taken u => exact .inl h
  | copied u => exact .inl h
  | flushed => exact h

theorem Work.Holds.mono {w : Work} {dirty dirty' listed listed' copied copied' : Prop}
    (h : w.Holds x y dirty listed copied) (hdirty : dirty → dirty') (hlisted : listed → listed')
    (hcopied : copied → copied') : w.Holds x y dirty' listed' copied' := by
  cases w with
  | idle => exact h.imp hdirty hlisted
  | begun => exact h.imp hdirty hlisted
  | called => exact hdirty h
  | taken u => exact h.imp_left hdirty
  | copied u => exact h.imp hdirty (And.imp_right hcopied)
  | flushed => exact hdirty h

theorem Inv.init (info : Info) (screen vram : Nat → Nat) : Inv info Nowhere (State.init screen vram) := by
  refine { held := ?_, truth := ?_, within := ?_, due := ?_, listed := ?_, stores := ?_, updates := ?_, mapped := ?_ }
  · rintro x y - (h | h) <;> cases h
  · rintro k (h | h) <;> cases h
  · intro u h
    cases h
  · intro _ _ h
    exact absurd rfl h
  · intro h
    exact absurd rfl h
  · intro k h
    cases h
  · intro u h
    cases h
  · intro _
    rfl

theorem Inv.tracked (h : Inv info Nowhere s) : Tracked info s where
  covered := by
    intro hwork x y hvis hstale
    have hheld := h.held x y hvis hstale id
    unfold Held at hheld
    cases hw : s.work with
    | idle =>
      rw [hw] at hheld
      exact hheld
    | begun =>
      rw [hw] at hheld
      exact hheld
    | called =>
      rw [hw] at hheld
      exact .inl hheld
    | flushed =>
      rw [hw] at hheld
      exact .inl hheld
    | taken u =>
      rw [hw] at hwork
      cases hwork
    | copied u =>
      rw [hw] at hwork
      cases hwork
  scheduled := by
    rintro hactive hsuspended (hdirty | hpages)
    · refine (h.due hactive hsuspended hdirty).imp_right fun hwork => ?_
      rcases hwork with hwork | hwork
      · rw [hwork]
        exact Work.noConfusion
      · rw [hwork]
        exact Work.noConfusion
    · exact h.listed hpages
  stores := by
    intro k hk
    have hlt := h.stores k hk
    omega
  updates := h.updates
  shown := fun k hk => h.truth k (.inr hk)
  mapped := fun hwork => h.mapped (.inr hwork)

section Draw

variable {x1 y1 width height : Nat}

/-- The pixels of a rectangle. -/
def Inside (x1 y1 width height x y : Nat) : Prop := (x1 ≤ x ∧ x < x1 + width) ∧ y1 ≤ y ∧ y < y1 + height

theorem Inv.mark (h : Inv info (Inside x1 y1 width height) s) : Inv info Nowhere (vmwFbDirtyMark s x1 y1 width height) := by
  have hheld (x y : Nat) (hvis : info.Visible x y) (hstale : (s.pixel (info.word x y)).Stale) :
      s.work.Holds x y ((s.dirty.mark x1 y1 (x1 + width) (y1 + height)).Has x y)
        (pageOf (info.word x y) ∈ s.pagelist) (s.pixel (info.word x y) = .copied) := by
    by_cases hin : Inside x1 y1 width height x y
    · exact .of_dirty (Dirty.has_mark_right hin.1 hin.2)
    · exact (h.held x y hvis hstale hin).mono Dirty.has_mark_left id id
  unfold vmwFbDirtyMark
  dsimp only
  split
  case isTrue hempty =>
    exact { h with held := fun x y hvis hstale _ => hheld x y hvis hstale, due := fun _ _ _ => .inl rfl
                   listed := fun _ => .inl rfl }
  case isFalse hempty =>
    refine { h with held := fun x y hvis hstale _ => hheld x y hvis hstale, due := ?_ }
    intro hactive hsuspended _
    refine h.due hactive hsuspended fun heq => hempty ?_
    rw [heq, hactive]
    simp

theorem Inv.except (h : Inv info Nowhere s) : Inv info P s :=
  { h with held := fun x y hvis hstale _ => h.held x y hvis hstale id }

theorem Inv.draw (h : Inv info Nowhere s) (value : Nat → Nat → Nat) :
    Inv info (Inside x1 y1 width height) (draw info s x1 y1 width height value) := by
  refine { h with held := ?_, truth := ?_ }
  · intro x y hvis hstale hin
    have hword : ¬ (x1 ≤ info.word x y % info.stride ∧ info.word x y % info.stride < x1 + width ∧
        y1 ≤ info.word x y / info.stride ∧ info.word x y / info.stride < y1 + height) := by
      rw [hvis.word_mod, hvis.word_div]
      exact fun hall => hin ⟨⟨hall.1, hall.2.1⟩, hall.2.2⟩
    have hpixel : (Fb.draw info s x1 y1 width height value).pixel (info.word x y) = s.pixel (info.word x y) := by
      exact if_neg fun hall => hword (of_decide_eq_true hall)
    rw [hpixel] at hstale
    refine (h.held x y hvis hstale id).mono id id fun hcopied => ?_
    rw [hpixel]
    exact hcopied
  · intro k hk
    unfold Fb.draw at hk ⊢
    dsimp only at hk ⊢
    split at hk
    case isTrue => rcases hk with hk | hk <;> cases hk
    case isFalse hin =>
      rw [if_neg hin]
      exact h.truth k hk

theorem Inv.pageWrite (h : Inv info Nowhere s) (hwork : s.work = .idle) {value : Nat} {fault : Bool}
    (hpage : fault = true ∨ pageOf k ∈ s.pagelist) : Inv info Nowhere (pageWrite s k value fault) := by
  have hpixel {j : Nat} (hj : j ≠ k) : (Function.update s.pixel k .drawn) j = s.pixel j := Function.update_of_ne hj ..
  have htruth (j : Nat) (hj : Function.update s.pixel k .drawn j = .copied ∨ Function.update s.pixel k .drawn j = .shown) :
      s.vram j = Function.update s.screen k value j := by
    have hne : j ≠ k := by
      rintro rfl
      rw [Function.update_self] at hj
      rcases hj with hj | hj <;> cases hj
    rw [hpixel hne] at hj
    rw [Function.update_of_ne hne]
    exact h.truth j hj
  have hheld {pages : List Nat} (hk : pageOf k ∈ pages) (hpages : ∀ p ∈ s.pagelist, p ∈ pages) (x y : Nat)
      (hvis : info.Visible x y) (hstale : (Function.update s.pixel k .drawn (info.word x y)).Stale) :
      s.work.Holds x y (s.dirty.Has x y) (pageOf (info.word x y) ∈ pages)
        (Function.update s.pixel k .drawn (info.word x y) = .copied) := by
    rw [hwork]
    by_cases hword : info.word x y = k
    · rw [hword]
      exact .inr hk
    · rw [hpixel hword] at hstale
      have hold := h.held x y hvis hstale id
      unfold Held at hold
      rw [hwork] at hold
      exact hold.imp_right (hpages _)
  unfold Fb.pageWrite
  cases fault with
  | true =>
    exact { h with
      held := fun x y hvis hstale _ =>
        hheld (mem_addPage.mpr (.inl rfl)) (fun p hp => mem_addPage.mpr (.inr hp)) x y hvis hstale
      truth := htruth, due := fun _ _ _ => .inl rfl, listed := fun _ => .inl rfl }
  | false =>
    have hmem : pageOf k ∈ s.pagelist := hpage.resolve_left Bool.false_ne_true
    exact { h with
      held := fun x y hvis hstale _ => hheld hmem (fun p hp => hp) x y hvis hstale
      truth := htruth }

end Draw

section Flush

theorem Inv.begin (h : Inv info Nowhere s) (hwork : s.work = .idle) :
    Inv info Nowhere { s with pending := false, work := .begun } := by
  refine { h with held := ?_, within := ?_, due := fun _ _ _ => .inr (.inl rfl), listed := ?_, mapped := ?_ }
  · intro x y hvis hstale hin
    have hold := h.held x y hvis hstale hin
    unfold Held at hold
    rw [hwork] at hold
    exact hold
  · intro u hu
    cases hu
  · intro _
    exact .inr Work.noConfusion
  · rintro (hactive | hflushing)
    · exact h.mapped (.inl hactive)
    · cases hflushing

theorem Inv.deferredIo (h : Inv info Nowhere s) (hwork : s.work = .begun) (hsafe : Safe info s .deferredIo) :
    Inv info Nowhere (vmwDeferredIo info s) := by
  have hheld (x y : Nat) (hvis : info.Visible x y) (hstale : (s.pixel (info.word x y)).Stale) :
      s.dirty.Has x y ∨ pageOf (info.word x y) ∈ s.pagelist := by
    have hold := h.held x y hvis hstale id
    unfold Held at hold
    rw [hwork] at hold
    exact hold
  have hcalled {d : Dirty} (hd : ∀ x y, info.Visible x y → (s.pixel (info.word x y)).Stale → d.Has x y) :
      Inv info Nowhere { s with work := .called, dirty := d } := by
    refine { h with held := fun x y hvis hstale _ => hd x y hvis hstale, within := ?_
                    due := fun _ _ _ => .inr (.inr rfl), listed := fun _ => .inr Work.noConfusion, mapped := ?_ }
    · intro u hu
      cases hu
    · rintro (hactive | hflushing)
      · exact h.mapped (.inl hactive)
      · cases hflushing
  unfold vmwDeferredIo
  dsimp only
  split
  case isTrue hrange =>
    apply hcalled
    intro x y hvis hstale
    have hne : s.pagelist ≠ [] := by
      intro hnil
      rw [hnil] at hrange
      exact pageRange_nil hrange
    refine ⟨⟨Nat.zero_le _, hvis.1⟩, ?_⟩
    rcases hheld x y hvis hstale with hdirty | hpage
    · exact hsafe hne x y hvis hstale hdirty
    · exact mem_pageRows hvis hpage
  case isFalse hrange =>
    apply hcalled
    intro x y hvis hstale
    refine (hheld x y hvis hstale).resolve_right fun hpage => ?_
    exact hrange (pageRange_lt hpage)

/-- The subtraction does not wrap when the rectangle meets the screen. -/
theorem take_sub {lo hi size : Nat} (hlo : lo < size) (hlt : lo < hi) (hsize : size ≤ 2048) :
    (min hi size + 2 ^ 32 - lo) % 2 ^ 32 = min hi size - lo := by
  have hle : lo ≤ min hi size := Nat.le_min.mpr ⟨Nat.le_of_lt hlt, Nat.le_of_lt hlo⟩
  have hmin : min hi size ≤ size := Nat.min_le_right _ _
  have hadd : min hi size + 2 ^ 32 - lo = (min hi size - lo) + 2 ^ 32 := by omega
  rw [hadd, Nat.add_mod_right]
  exact Nat.mod_eq_of_lt (by omega)

theorem Inv.flushTake (h : Inv info Nowhere s) (hwork : s.work = .called) (hsafe : Safe info s .flushTake) :
    Inv info Nowhere (flushTake info s) := by
  have hheld (x y : Nat) (hvis : info.Visible x y) (hstale : (s.pixel (info.word x y)).Stale) : s.dirty.Has x y := by
    have hold := h.held x y hvis hstale id
    unfold Held at hold
    rw [hwork] at hold
    exact hold
  have hskip (hoff : ¬ (s.active = true ∧ s.suspended = false)) : Inv info Nowhere { s with work := .flushed } := by
    refine { h with held := fun x y hvis hstale _ => hheld x y hvis hstale, within := ?_, due := ?_
                    listed := fun _ => .inr Work.noConfusion, mapped := ?_ }
    · intro u hu
      cases hu
    · exact fun hactive hsuspended => absurd ⟨hactive, hsuspended⟩ hoff
    · rintro (hactive | hflushing)
      · exact h.mapped (.inl hactive)
      · cases hflushing
  unfold Fb.flushTake
  split
  case isTrue hsuspended =>
    exact hskip fun hon => Bool.false_ne_true (hon.2.symm.trans hsuspended)
  case isFalse hsuspended =>
    split
    case isTrue hinactive =>
      refine hskip fun hon => ?_
      rw [hon.1] at hinactive
      cases hinactive
    case isFalse hinactive =>
      have hactive : s.active = true := by simpa using hinactive
      have hsuspended : s.suspended = false := by simpa using hsuspended
      obtain ⟨⟨hx, hx'⟩, hy, hy'⟩ := hsafe hactive hsuspended
      have hxres := Nat.le_trans info.xres_le info.maxWidth_le
      have hyres := Nat.le_trans info.yres_le info.maxHeight_le
      dsimp only
      rw [take_sub hx' hx hxres, take_sub hy' hy hyres]
      refine { h with held := ?_, within := ?_, due := fun _ _ hne => absurd rfl hne
                      listed := fun _ => .inr Work.noConfusion, mapped := fun _ => h.mapped (.inl hactive) }
      · intro x y hvis hstale _
        obtain ⟨⟨hlx, hrx⟩, hly, hry⟩ := hheld x y hvis hstale
        have hvx := hvis.1
        have hvy := hvis.2
        refine .inr ⟨⟨hlx, ?_⟩, hly, ?_⟩
        · dsimp only
          omega
        · dsimp only
          omega
      · intro u hu
        cases hu
        constructor
        · dsimp only
          omega
        · dsimp only
          omega
        · dsimp only
          omega
        · dsimp only
          omega

theorem Inv.flushCopy {u : Update} (h : Inv info Nowhere s) (hwork : s.work = .taken u) :
    Inv info Nowhere (flushCopy info s u) := by
  have hwithin : u.Within info := h.within u (by rw [hwork]; rfl)
  have hmapped := h.mapped (.inr (by rw [hwork]; rfl))
  unfold Fb.flushCopy
  refine { h with held := ?_, truth := ?_, within := ?_, due := ?_, listed := fun _ => .inr Work.noConfusion
                  stores := ?_, mapped := fun _ => hmapped }
  · intro x y hvis hstale _
    dsimp only at hstale ⊢
    have hold (hstale : (s.pixel (info.word x y)).Stale) : s.dirty.Has x y ∨ u.Has x y := by
      have hold := h.held x y hvis hstale id
      unfold Held at hold
      rw [hwork] at hold
      exact hold
    have hcopied (hu : u.Has x y) (hstale : (s.pixel (info.word x y)).Stale) :
        (if info.word x y ∈ copyWords info u && s.pixel (info.word x y) = .drawn then Pixel.copied
          else s.pixel (info.word x y)) = .copied := by
      have hmem := hwithin.copied hu
      rcases hstale with hpixel | hpixel
      · rw [if_pos]
        simp [hmem, hpixel]
      · rw [hpixel]
        exact ite_self _
    have hstale' : (s.pixel (info.word x y)).Stale := by
      split at hstale
      case isTrue hword =>
        simp only [Bool.and_eq_true, decide_eq_true_eq] at hword
        exact .inl hword.2
      case isFalse => exact hstale
    exact (hold hstale').imp_right fun hu => ⟨hu, hcopied hu hstale'⟩
  · intro k hk
    dsimp only at hk ⊢
    split
    case isTrue => rfl
    case isFalse hword =>
      rw [if_neg (by simp [hword])] at hk
      exact h.truth k hk
  · intro v hv
    cases hv
    exact hwithin
  · intro hactive hsuspended hne
    refine (h.due hactive hsuspended hne).imp_right fun hearly => ?_
    rw [hwork] at hearly
    rcases hearly with hearly | hearly <;> cases hearly
  · intro k hk
    rcases List.mem_append.mp hk with hk | hk
    · exact h.stores k hk
    · exact copyWords_lt hk

theorem Inv.flushUpdate {u : Update} (h : Inv info Nowhere s) (hwork : s.work = .copied u) :
    Inv info Nowhere (flushUpdate info s u true) := by
  have hwithin : u.Within info := h.within u (by rw [hwork]; rfl)
  unfold Fb.flushUpdate
  refine { h with held := ?_, truth := ?_, within := ?_, due := ?_, listed := fun _ => .inr Work.noConfusion
                  updates := ?_, mapped := ?_ }
  · intro x y hvis hstale _
    change s.dirty.Has x y
    rw [Bool.not_true, if_neg Bool.false_ne_true] at hstale
    dsimp only at hstale
    rw [hvis.word_mod, hvis.word_div] at hstale
    split at hstale
    case isTrue => rcases hstale with hstale | hstale <;> cases hstale
    case isFalse hshown =>
      have hold := h.held x y hvis hstale id
      unfold Held at hold
      rw [hwork] at hold
      refine hold.resolve_right fun hcopied => hshown ?_
      obtain ⟨⟨⟨hx, hx'⟩, hy, hy'⟩, hpixel⟩ := hcopied
      simp [hx, hx', hy, hy', hpixel]
  · intro k hk
    refine h.truth k ?_
    rw [Bool.not_true, if_neg Bool.false_ne_true] at hk
    dsimp only at hk
    split at hk
    case isTrue hshown =>
      simp only [Bool.and_eq_true, decide_eq_true_eq] at hshown
      exact .inl hshown.2
    case isFalse => exact hk
  · intro v hv
    cases hv
  · intro hactive hsuspended hne
    refine (h.due hactive hsuspended hne).imp_right fun hearly => ?_
    rw [hwork] at hearly
    rcases hearly with hearly | hearly <;> cases hearly
  · intro v hv
    rcases List.mem_cons.mp hv with rfl | hv
    · exact hwithin
    · exact h.updates v hv
  · rintro (hactive | hflushing)
    · exact h.mapped (.inl hactive)
    · cases hflushing

theorem Inv.workEnd (h : Inv info Nowhere s) (hwork : s.work = .flushed) :
    Inv info Nowhere { s with pagelist := [], work := .idle } := by
  refine { h with held := ?_, within := ?_, due := ?_, listed := fun hne => absurd rfl hne, mapped := ?_ }
  · intro x y hvis hstale hin
    have hold := h.held x y hvis hstale hin
    unfold Held at hold
    rw [hwork] at hold
    exact .inl hold
  · intro u hu
    cases hu
  · intro hactive hsuspended hne
    refine (h.due hactive hsuspended hne).imp_right fun hearly => ?_
    rw [hwork] at hearly
    rcases hearly with hearly | hearly <;> cases hearly
  · rintro (hactive | hflushing)
    · exact h.mapped (.inl hactive)
    · cases hflushing

end Flush

section OnOff

/-- Marking and scheduling, in either order. -/
theorem scheduled_mark (s : State) (x1 y1 width height : Nat) :
    (vmwFbDirtyMark s x1 y1 width height).scheduleDelayedWork = vmwFbDirtyMark s.scheduleDelayedWork x1 y1 width height := by
  unfold vmwFbDirtyMark State.scheduleDelayedWork
  dsimp only
  split <;> rfl

theorem Inv.fbOn (h : Inv info Nowhere s) (pinned : Bool) : Inv info Nowhere (vmwFbOn info s pinned) := by
  unfold vmwFbOn
  split
  case isTrue => exact h
  case isFalse =>
    rw [scheduled_mark]
    apply Inv.mark
    split
    case isTrue =>
      exact { h.except with due := fun _ _ _ => .inl rfl, listed := fun _ => .inl rfl, mapped := fun _ => rfl }
    case isFalse => exact { h.except with due := fun _ _ _ => .inl rfl, listed := fun _ => .inl rfl }

end OnOff

section Step

variable {a : Action}

theorem Inv.step (h : Inv info Nowhere s) (hsafe : Safe info s a) (hstep : step info s a = some t) : Inv info Nowhere t := by
  unfold Fb.step at hstep
  split at hstep
  case h_1 =>
    split at hstep
    case isTrue =>
      cases hstep
      exact (h.draw _).mark
    case isFalse => cases hstep
  case h_2 =>
    split at hstep
    case isTrue =>
      cases hstep
      exact (h.draw _).mark
    case isFalse => cases hstep
  case h_3 =>
    split at hstep
    case isTrue =>
      cases hstep
      exact (h.draw _).mark
    case isFalse => cases hstep
  case h_4 =>
    split at hstep
    case h_1 hwork =>
      split at hstep
      case isTrue hin =>
        cases hstep
        simp only [Bool.and_eq_true, Bool.or_eq_true, decide_eq_true_eq] at hin
        exact h.pageWrite hwork hin.2
      case isFalse => cases hstep
    case h_2 => cases hstep
  case h_5 =>
    split at hstep
    case h_1 hwork =>
      split at hstep
      case isTrue =>
        cases hstep
        exact h.begin hwork
      case isFalse => cases hstep
    case h_2 => cases hstep
  case h_6 =>
    split at hstep
    case h_1 hwork =>
      cases hstep
      exact h.deferredIo hwork hsafe
    case h_2 => cases hstep
  case h_7 =>
    split at hstep
    case h_1 hwork =>
      cases hstep
      exact h.flushTake hwork hsafe
    case h_2 => cases hstep
  case h_8 =>
    split at hstep
    case h_1 u hwork =>
      cases hstep
      exact h.flushCopy hwork
    case h_2 => cases hstep
  case h_9 room =>
    split at hstep
    case h_1 u hwork =>
      cases hstep
      have hroom : room = true := hsafe
      rw [hroom]
      exact h.flushUpdate hwork
    case h_2 => cases hstep
  case h_10 =>
    split at hstep
    case h_1 hwork =>
      cases hstep
      exact h.workEnd hwork
    case h_2 => cases hstep
  case h_11 =>
    split at hstep
    case isTrue =>
      cases hstep
      refine { h with due := fun hactive => absurd hactive Bool.false_ne_true, mapped := ?_ }
      rintro (hactive | hflushing)
      · cases hactive
      · exact h.mapped (.inr hflushing)
    case isFalse => cases hstep
  case h_12 =>
    split at hstep
    case h_1 hwork =>
      split at hstep
      case isTrue hoff =>
        cases hstep
        refine { h with mapped := ?_ }
        rintro (hactive | hflushing)
        · change s.active = true at hactive
          rw [hactive] at hoff
          cases hoff
        · change s.work.flushing = true at hflushing
          rw [hwork] at hflushing
          cases hflushing
      case isFalse => cases hstep
    case h_2 => cases hstep
  case h_13 =>
    split at hstep
    case isTrue =>
      cases hstep
      exact h.fbOn _
    case isFalse => cases hstep
  case h_14 =>
    split at hstep
    case isTrue =>
      cases hstep
      exact { h with due := fun _ hsuspended => absurd hsuspended Bool.false_ne_true.symm }
    case isFalse => cases hstep
  case h_15 =>
    split at hstep
    case isTrue =>
      cases hstep
      exact { h with due := fun hactive _ => hsafe hactive }
    case isFalse => cases hstep

/-- In any run whose flushes go right, nothing that has been drawn is lost. -/
theorem dirty_tracked (info : Info) (screen vram : Nat → Nat) {as : List Action} {s : State}
    (hrun : Run (step info) (Safe info) (State.init screen vram) as s) : Tracked info s :=
  (hrun.invariant (fun _ _ _ hsafe hstep h => h.step hsafe hstep) (Inv.init info screen vram)).tracked

end Step

end Invariant

section Example

def onePixel : Info where
  xres := 1
  yres := 1
  maxWidth := 1
  maxHeight := 1
  xres_le := Nat.le_refl 1
  yres_le := Nat.le_refl 1
  maxWidth_le := Nat.le_of_ble_eq_true rfl
  maxHeight_le := Nat.le_of_ble_eq_true rfl

/-- A pixel is drawn and flushed. -/
def drawAndFlush (room : Bool) : List Action :=
  [.fillrect 0 0 1 1 7, .workBegin, .deferredIo, .flushTake, .flushCopy, .flushUpdate room, .workEnd]

def black (_ : Nat) : Nat := 0

theorem dirty_tracked_pixel : ∃ s, Run (step onePixel) (Safe onePixel) (State.init black black) (drawAndFlush true) s ∧
    s.pixel 0 = .shown ∧ Tracked onePixel s := by
  have hrun : Run (step onePixel) (Safe onePixel) (State.init black black) (drawAndFlush true) _ :=
    .cons trivial rfl <| .cons trivial rfl <| .cons (fun hne => absurd rfl hne) rfl <|
      .cons (fun _ _ => ⟨⟨Nat.one_pos, Nat.one_pos⟩, Nat.one_pos, Nat.one_pos⟩) rfl <| .cons trivial rfl <|
        .cons rfl rfl <| .cons trivial rfl <| .nil _
  exact ⟨_, hrun, rfl, dirty_tracked onePixel black black hrun⟩

/-- Without room for the command the pixel is copied, but never announced. -/
theorem dirty_lost : ¬ ∀ (info : Info) (screen vram : Nat → Nat) (as : List Action) (s : State),
    Run (step info) (fun _ _ => True) (State.init screen vram) as s → Tracked info s := by
  intro h
  have hrun : Run (step onePixel) (fun _ _ => True) (State.init black black) (drawAndFlush false) _ :=
    .cons trivial rfl <| .cons trivial rfl <| .cons trivial rfl <| .cons trivial rfl <| .cons trivial rfl <|
      .cons trivial rfl <| .cons trivial rfl <| .nil _
  have hcovered := (h onePixel black black _ _ hrun).covered rfl 0 0 ⟨Nat.one_pos, Nat.one_pos⟩ (.inr rfl)
  rcases hcovered with hdirty | hpage
  · exact Nat.lt_irrefl _ hdirty.1.2
  · cases hpage

end Example

end Vmwgfx.Fb
