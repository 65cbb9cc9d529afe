import Mathlib.Data.List.Basic
import Vmwgfx.Kernel
import Vmwgfx.Lib.Uint

/-! The queue of command markers (`vmwgfx_marker.c`) and the times in it. -/

namespace Vmwgfx.Marker

open Vmwgfx.Lib

def NSEC_PER_SEC : Nat := 1000000000

structure Timespec where
  tvSec : Int
  tvNsec : Nat
  tvNsec_lt : tvNsec < NSEC_PER_SEC
  deriving DecidableEq

/-- The time in nanoseconds. -/
def Timespec.ns (t : Timespec) : Int := t.tvSec * NSEC_PER_SEC + t.tvNsec

theorem carry_lt {a b : Nat} (ha : a < NSEC_PER_SEC) (hb : b < NSEC_PER_SEC) :
    a + b - NSEC_PER_SEC < NSEC_PER_SEC := by
  omega

theorem borrow_lt {a b : Nat} (h : a < b) (hb : b < NSEC_PER_SEC) :
    a + (NSEC_PER_SEC - b) < NSEC_PER_SEC := by
  omega

def nsToTimespec (ns : Nat) : Timespec :=
  ⟨ns / NSEC_PER_SEC, ns % NSEC_PER_SEC, Nat.mod_lt _ (Nat.succ_pos 999999999)⟩

def vmwTimespecSub (t1 t2 : Timespec) : Timespec :=
  if h : t1.tvNsec < t2.tvNsec then
    ⟨t1.tvSec - t2.tvSec - 1, t1.tvNsec + (NSEC_PER_SEC - t2.tvNsec), borrow_lt h t2.tvNsec_lt⟩
  else ⟨t1.tvSec - t2.tvSec, t1.tvNsec - t2.tvNsec, Nat.lt_of_le_of_lt (Nat.sub_le _ _) t1.tvNsec_lt⟩

def vmwTimespecAdd (t1 t2 : Timespec) : Timespec :=
  if h : NSEC_PER_SEC ≤ t1.tvNsec + t2.tvNsec then
    ⟨t1.tvSec + t2.tvSec + 1, t1.tvNsec + t2.tvNsec - NSEC_PER_SEC, carry_lt t1.tvNsec_lt t2.tvNsec_lt⟩
  else ⟨t1.tvSec + t2.tvSec, t1.tvNsec + t2.tvNsec, Nat.lt_of_not_le h⟩

def timespecCompare (lhs rhs : Timespec) : Int :=
  if lhs.tvSec < rhs.tvSec then -1
  else if rhs.tvSec < lhs.tvSec then 1
  else lhs.tvNsec - rhs.tvNsec

@[simp] theorem ns_nsToTimespec (n : Nat) : (nsToTimespec n).ns = n := by
  simp only [Timespec.ns, nsToTimespec, NSEC_PER_SEC]
  omega

@[simp] theorem ns_sub (t1 t2 : Timespec) : (vmwTimespecSub t1 t2).ns = t1.ns - t2.ns := by
  have h2 := t2.tvNsec_lt
  unfold vmwTimespecSub Timespec.ns NSEC_PER_SEC at *
  split <;> simp only [] <;> omega

@[simp] theorem ns_add (t1 t2 : Timespec) : (vmwTimespecAdd t1 t2).ns = t1.ns + t2.ns := by
  unfold vmwTimespecAdd Timespec.ns NSEC_PER_SEC
  split <;> simp only [] <;> omega

theorem timespecCompare_lt_one_iff (t1 t2 : Timespec) :
    timespecCompare t1 t2 < 1 ↔ t1.ns ≤ t2.ns := by
  have h1 := t1.tvNsec_lt
  have h2 := t2.tvNsec_lt
  unfold timespecCompare Timespec.ns NSEC_PER_SEC at *
  split
  case isTrue => omega
  case isFalse => split <;> omega

structure VmwMarker where
  seqno : Nat
  submitted : Timespec
  deriving DecidableEq

structure VmwMarkerQueue where
  markers : List VmwMarker
  lag : Timespec
  lagTime : Timespec

def vmwMarkerQueueInit (now : Timespec) : VmwMarkerQueue := ⟨[], nsToTimespec 0, now⟩

/-- `vmw_marker_push` with the lock held. -/
def addTail (queue : VmwMarkerQueue) (marker : VmwMarker) : VmwMarkerQueue :=
  { queue with markers := queue.markers ++ [marker] }

section Pull

variable (signaledSeqno : Nat) (now : Timespec)

/-- The marker stays. -/
def later (marker : VmwMarker) : Bool := 2 ^ 30 < sub32 signaledSeqno marker.seqno

/-- The loop of the pull: the queue as passed so far, and `updated`. -/
def pullEach : List VmwMarker → VmwMarkerQueue × Bool → VmwMarkerQueue × Bool
  | [], r => r
  | marker :: rest, (queue, updated) =>
    if later signaledSeqno marker then pullEach rest (addTail queue marker, updated)
    else
      pullEach rest
        ({ queue with lag := vmwTimespecSub now marker.submitted, lagTime := now }, true)

def vmwMarkerPull (queue : VmwMarkerQueue) : VmwMarkerQueue × Int :=
  match queue.markers with
  | [] => ({ queue with lag := nsToTimespec 0, lagTime := now }, 0)
  | markers =>
    let r := pullEach signaledSeqno now markers ({ queue with markers := [] }, false)
    (r.1, if r.2 then 0 else -EBUSY)

/-- The markers that go. -/
def removed (markers : List VmwMarker) : List VmwMarker :=
  markers.filter (fun marker => !later signaledSeqno marker)

variable {signaledSeqno}

theorem removed_cons_of_later {marker : VmwMarker} (rest : List VmwMarker)
    (h : later signaledSeqno marker = true) :
    removed signaledSeqno (marker :: rest) = removed signaledSeqno rest :=
  List.filter_cons_of_neg (by simp [h])

theorem removed_cons_of_not_later {marker : VmwMarker} (rest : List VmwMarker)
    (h : ¬later signaledSeqno marker = true) :
    removed signaledSeqno (marker :: rest) = marker :: removed signaledSeqno rest :=
  List.filter_cons_of_pos (by simp [h])

variable (signaledSeqno)

theorem pullEach_markers (rest : List VmwMarker) (r : VmwMarkerQueue × Bool) :
    (pullEach signaledSeqno now rest r).1.markers =
      r.1.markers ++ rest.filter (later signaledSeqno) := by
  induction rest generalizing r with
  | nil => simp [pullEach]
  | cons marker rest ih =>
    unfold pullEach
    split
    case isTrue h => simp [ih, addTail, h]
    case isFalse h => simp [ih, h]

/-- The last marker that goes decides on the lag. -/
theorem pullEach_lag (rest : List VmwMarker) (r : VmwMarkerQueue × Bool) :
    (pullEach signaledSeqno now rest r).1.lag =
      match (removed signaledSeqno rest).getLast? with
      | none => r.1.lag
      | some marker => vmwTimespecSub now marker.submitted := by
  induction rest generalizing r with
  | nil => rfl
  | cons marker rest ih =>
    unfold pullEach
    split
    case isTrue h => rw [ih, removed_cons_of_later rest h, addTail]
    case isFalse h =>
      rw [ih, removed_cons_of_not_later rest h, List.getLast?_cons]
      cases (removed signaledSeqno rest).getLast? <;> rfl

theorem pullEach_lagTime (rest : List VmwMarker) (r : VmwMarkerQueue × Bool) :
    (pullEach signaledSeqno now rest r).1.lagTime =
      if removed signaledSeqno rest = [] then r.1.lagTime else now := by
  induction rest generalizing r with
  | nil => rfl
  | cons marker rest ih =>
    unfold pullEach
    split
    case isTrue h => rw [ih, removed_cons_of_later rest h, addTail]
    case isFalse h =>
      rw [ih, removed_cons_of_not_later rest h]
      split <;> rfl

variable (queue : VmwMarkerQueue)

theorem pull_of_empty (h : queue.markers = []) :
    vmwMarkerPull signaledSeqno now queue = (⟨[], nsToTimespec 0, now⟩, 0) := by
  simp [vmwMarkerPull, h]

theorem pull_of_ne (h : queue.markers ≠ []) :
    vmwMarkerPull signaledSeqno now queue =
      let r := pullEach signaledSeqno now queue.markers ({ queue with markers := [] }, false)
      (r.1, if r.2 then 0 else -EBUSY) := by
  unfold vmwMarkerPull
  split
  case h_1 h' => exact absurd h' h
  case h_2 => rfl

theorem pull_markers :
    (vmwMarkerPull signaledSeqno now queue).1.markers =
      queue.markers.filter (later signaledSeqno) := by
  by_cases h : queue.markers = []
  · rw [pull_of_empty signaledSeqno now queue h, h]
    rfl
  · rw [pull_of_ne signaledSeqno now queue h, pullEach_markers]
    rfl

end Pull

section Window

variable {seqno x base : Nat}

/-- Within the window of the comparison a marker stays when its seqno lies behind that of the
pull. -/
theorem sub32_gt_window_iff (hs : sub32 seqno base ≤ 2 ^ 30) (hx : sub32 x base ≤ 2 ^ 30) :
    2 ^ 30 < sub32 seqno x ↔ sub32 seqno base < sub32 x base := by
  unfold sub32 at *
  omega

theorem sub32_self : sub32 x x = 0 := by
  unfold sub32
  omega

end Window

end Vmwgfx.Marker
