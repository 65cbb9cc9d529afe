import Vmwgfx.TtmLock.Exclusion

/-! No thread sleeps through the moment at which it could take the lock. -/

universe u

namespace Vmwgfx.TtmLock

open Lib

namespace Thread

/-- `ttm_suspend_lock` is not interrupted. -/
def Firm : Thread → Prop
  | .trying .suspend interruptible _ _ => interruptible = false
  | .asleep .suspend interruptible _ => interruptible = false
  | .interrupted mode => mode ≠ .suspend
  | _ => True

/-- The thread holds the lock, or is going to evaluate its condition or to take its bit back. -/
def Active : Thread → Prop
  | .idle | .asleep .. => False
  | .trying .. | .interrupted _ | .holds _ => True

/-- `kill_takers` has turned the thread away, and it could not be interrupted. -/
def turnedAway : Thread → Bool
  | .asleep _ _ killed => killed
  | _ => false

@[simp] theorem wake_held (x : Thread) : x.wake.held = x.held := by cases x <;> rfl

@[simp] theorem wake_waits (x : Thread) : x.wake.waits = x.waits := by cases x <;> rfl

@[simp] theorem wake_engaged (x : Thread) : x.wake.engaged = x.engaged := by cases x <;> rfl

theorem wake_not_asleep (x : Thread) (mode : Mode) (interruptible killed : Bool) :
    x.wake ≠ .asleep mode interruptible killed := by
  cases x <;> intro h <;> cases h

theorem Firm.wake {x : Thread} (h : x.Firm) : x.wake.Firm := by
  cases x with
  | asleep mode interruptible killed => cases mode <;> exact h
  | _ => exact h

theorem held_engaged {x : Thread} {mode : Mode} (h : x.held = some mode) : x.engaged = some mode := by
  cases x <;> first | exact h | cases h

theorem waits_engaged {x : Thread} {mode : Mode} (h : x.waits = some mode) : x.engaged = some mode := by
  cases x <;> first | exact h | cases h

end Thread

variable {ι : Type u} [DecidableEq ι]

namespace State

variable (s : State ι) (t : ι) (x : Thread) (l : Lock)

def held (t : ι) : Option Mode := (s.thread t).held

def waits (t : ι) : Option Mode := (s.thread t).waits

def engaged (t : ι) : Option Mode := (s.thread t).engaged

theorem held_set : (s.set t x l).held = Function.update s.held t x.held := by
  funext u
  by_cases h : u = t
  · simp [held, set, h]
  · simp [held, set, h]

theorem thread_set_of_ne {u : ι} (h : u ≠ t) : (s.set t x l).thread u = s.thread u := Function.update_of_ne h ..

theorem thread_set_self : (s.set t x l).thread t = x := Function.update_self ..

end State

variable [Fintype ι]

/-- What holds between any two steps of the threads, those who sleep aside. -/
structure Base (s : State ι) : Prop where
  sound : Sound s.lock s.held
  once : Once s.engaged
  pending : ∀ (m : Mode) f, m.pending = some f → f ∈ s.lock.flags → ∃ t, s.waits t = some m
  firm : ∀ t, (s.thread t).Firm

structure Inv (s : State ι) : Prop extends Base s where
  /-- A thread sleeps only while it could not take the lock, unless `kill_takers` has turned it away. -/
  missed : ∀ t m i, s.thread t = .asleep m i false → ¬ s.lock.Ready m

variable {s s' : State ι} {t : ι} {x : Thread} {l : Lock} {m : Mode}

namespace Base

omit [DecidableEq ι] in
theorem once_held (h : Base s) : Once s.held := by
  intro t u m f hm ht hu
  exact h.once t u m f hm (Thread.held_engaged ht) (Thread.held_engaged hu)

omit [DecidableEq ι] in
/-- Everyone who slept evaluates its condition again. -/
theorem wake (h : Base s) : Inv (s.wakeIf true) where
  sound := by
    have hheld : (s.wakeIf true).held = s.held := by
      funext t
      exact (s.thread t).wake_held
    rw [hheld]
    exact h.sound
  once := by
    intro t u m f hm ht hu
    exact h.once t u m f hm ((s.thread t).wake_engaged.symm.trans ht) ((s.thread u).wake_engaged.symm.trans hu)
  pending := by
    intro m f hm hf
    obtain ⟨t, ht⟩ := h.pending m f hm hf
    exact ⟨t, ((s.thread t).wake_waits).trans ht⟩
  missed := by
    intro t m i ht
    exact absurd ht ((s.thread t).wake_not_asleep m i false)
  firm t := (h.firm t).wake

/-- One thread moves, and changes the lock. -/
theorem set (h : Base s) (hsound : Sound l (Function.update s.held t x.held))
    (honce : ∀ (m : Mode) f, m.special = some f → x.engaged = some m →
      (s.thread t).engaged = some m ∨ ∀ u, s.engaged u ≠ some m)
    (hpending : ∀ (m : Mode) f, m.pending = some f → f ∈ l.flags →
      x.waits = some m ∨ f ∈ s.lock.flags ∧ s.waits t ≠ some m)
    (hfirm : x.Firm) : Base (s.set t x l) where
  sound := by
    rw [s.held_set]
    exact hsound
  once := by
    -- whom the step names is the thread itself or was named before
    have hold : ∀ u v (m : Mode) f, m.special = some f → u ≠ t → (s.set t x l).engaged u = some m →
        (s.set t x l).engaged v = some m → u = v := by
      intro u v m f hm hne hu hv
      unfold State.engaged at hu hv
      rw [s.thread_set_of_ne t x l hne] at hu
      by_cases hvt : v = t
      · rw [hvt, s.thread_set_self] at hv
        rcases honce m f hm hv with hsame | hnone
        · exact (h.once u t m f hm hu hsame).trans hvt.symm
        · exact absurd hu (hnone u)
      · rw [s.thread_set_of_ne t x l hvt] at hv
        exact h.once u v m f hm hu hv
    intro u v m f hm hu hv
    by_cases hut : u = t
    · by_cases hvt : v = t
      · exact hut.trans hvt.symm
      · exact (hold v u m f hm hvt hv hu).symm
    · exact hold u v m f hm hut hu hv
  pending := by
    intro m f hm hf
    rcases hpending m f hm hf with hx | ⟨hf, hnot⟩
    · refine ⟨t, ?_⟩
      unfold State.waits
      rw [s.thread_set_self]
      exact hx
    · obtain ⟨u, hu⟩ := h.pending m f hm hf
      refine ⟨u, ?_⟩
      have hne : u ≠ t := fun heq => hnot (heq ▸ hu)
      unfold State.waits
      rw [s.thread_set_of_ne t x l hne]
      exact hu
  firm u := by
    by_cases hu : u = t
    · rw [hu, s.thread_set_self]
      exact hfirm
    · rw [s.thread_set_of_ne t x l hu]
      exact h.firm u

end Base

namespace Inv

/-- The step makes no condition true, so that nobody needs to be woken. -/
theorem set (h : Inv s) (hbase : Base (s.set t x l)) (hready : ∀ m, l.Ready m → s.lock.Ready m)
    (hx : ∀ m i, x = .asleep m i false → ¬ l.Ready m) : Inv (s.set t x l) where
  toBase := hbase
  missed := by
    intro u m i hu hr
    by_cases hut : u = t
    · rw [hut, s.thread_set_self] at hu
      exact hx m i hu hr
    · rw [s.thread_set_of_ne t x l hut] at hu
      exact h.missed u m i hu (hready m hr)

end Inv

namespace Lock

theorem ready_taken {m' : Mode} (h : l.Ready m) (hr : (l.taken m).Ready m') : l.Ready m' := by
  cases m with
  | read =>
    obtain ⟨hrw, hflags⟩ := h
    cases m' with
    | read => exact ⟨hrw, hflags⟩
    | write =>
      have hzero : l.rw + 1 = 0 := hr.1
      omega
    | vt | suspend =>
      have hzero : l.rw + 1 = 0 := hr
      omega
  | write =>
    cases m' with
    | read =>
      have hneg : (0 : Int) ≤ -1 := hr.1
      omega
    | write =>
      have hzero : (-1 : Int) = 0 := hr.1
      omega
    | vt | suspend =>
      have hzero : (-1 : Int) = 0 := hr
      omega
  | vt | suspend =>
    cases m' with
    | read => exact absurd hr.2 (Finset.insert_nonempty ..).ne_empty
    | write =>
      have hflags := hr.2
      simp only [taken, Finset.erase_insert_of_ne, ne_eq, reduceCtorEq, not_false_eq_true] at hflags
      exact absurd hflags (Finset.insert_nonempty ..).ne_empty
    | vt | suspend => exact h

theorem awaited_rw (l : Lock) (m : Mode) : (l.awaited m).rw = l.rw := by cases m <;> rfl

theorem mem_awaited {f : Flag} : f ∈ (l.awaited m).flags ↔ f ∈ l.flags ∨ m.pending = some f := by
  cases m <;> simp [awaited, Mode.pending, addFlag, or_comm, eq_comm]

theorem ready_awaited {m' : Mode} (hr : (l.awaited m).Ready m') : l.Ready m' := by
  have hsub : l.flags ⊆ (l.awaited m).flags := fun f hf => mem_awaited.mpr (.inl hf)
  cases m' with
  | read =>
    refine ⟨(l.awaited_rw m).symm ▸ hr.1, ?_⟩
    exact Finset.subset_empty.mp (hr.2 ▸ hsub)
  | write =>
    refine ⟨(l.awaited_rw m).symm.trans hr.1, ?_⟩
    exact Finset.subset_empty.mp (hr.2 ▸ Finset.erase_subset_erase _ hsub)
  | vt | suspend => exact (l.awaited_rw m).symm.trans hr

/-- The bits that stand for waiting threads. -/
theorem mem_taken {f : Flag} {m' : Mode} (hf : m'.pending = some f) :
    f ∈ (l.taken m).flags ↔ f ∈ l.flags ∧ m ≠ m' := by
  cases m <;> cases m' <;> cases hf <;> simp [taken]

end Lock

section Steps

variable {i signal queued killed : Bool}

/-- A thread that did not get the lock goes on to wait for it, or gives up. -/
theorem Attempt.thread_of_failed (m : Mode) (i signal queued killed : Bool) (l : Lock) :
    Attempt.thread m i signal queued ⟨false, killed, l⟩ = .trying m i (signal || killed) true ∨
      i = true ∧ Attempt.thread m i signal queued ⟨false, killed, l⟩ = .interrupted m ∨
      Attempt.thread m i signal queued ⟨false, killed, l⟩ = .asleep m i killed := by
  unfold Attempt.thread
  cases queued
  · exact .inl rfl
  · by_cases h : i = true ∧ (signal = true ∨ killed = true)
    · exact .inr (.inl ⟨h.1, by simp [h]⟩)
    · exact .inr (.inr (by simp [h]))

/-- A thread still waits after a step in which only bits for those who wait have gone up. -/
theorem Base.waiting (h : Base s) (ht : (s.thread t).waits = some m) (hx : x.waits = some m) (hfirm : x.Firm)
    (hrw : l.rw = s.lock.rw) (hold : ∀ f ∈ s.lock.flags, f ∈ l.flags)
    (hnew : ∀ f ∈ l.flags, f ∈ s.lock.flags ∨ m.pending = some f) :
    Base (s.set t x l) := by
  have hheld : ∀ {y : Thread}, y.waits = some m → y.held = none := by
    intro y hy
    cases y <;> first | rfl | cases hy
  refine h.set ?_ ?_ ?_ hfirm
  · rw [hheld hx, ← hheld ht]
    have hsame : Function.update s.held t (s.thread t).held = s.held := Function.update_eq_self ..
    rw [hsame]
    refine h.sound.congr hrw ?_
    intro m' f hm'
    refine ⟨fun hf => (hnew f hf).resolve_right ?_, hold f⟩
    intro hf
    cases m <;> cases m' <;> cases hf <;> cases hm'
  · intro m' f _ hm'
    rw [Thread.waits_engaged hx] at hm'
    exact .inl ((Thread.waits_engaged ht).trans hm')
  · intro m' f hm' hf
    by_cases heq : m' = m
    · exact .inl (heq ▸ hx)
    · right
      constructor
      · refine (hnew f hf).resolve_right ?_
        intro hm
        cases m <;> cases m' <;> cases hm <;> first | exact absurd rfl heq | cases hm'
      · intro hs
        exact heq (Option.some.inj (hs.symm.trans ht))

/-- A step of the thread that leaves the lock alone. -/
theorem Inv.waiting (h : Inv s) (ht : (s.thread t).waits = some m) (hx : x.waits = some m) (hfirm : x.Firm)
    (hasleep : ∀ m i, x ≠ .asleep m i false) : Inv (s.set t x s.lock) :=
  h.set (h.toBase.waiting ht hx hfirm rfl (fun _ hf => hf) fun _ hf => .inl hf) (fun _ hr => hr)
    fun m i heq => absurd heq (hasleep m i)

/-- A thread evaluates its condition. -/
theorem Inv.attempt (h : Inv s) (ht : s.thread t = .trying m i signal queued) :
    Inv (s.set t ((s.lock.attempt m).thread m i signal queued) (s.lock.attempt m).lock) := by
  have hwaits : s.waits t = some m := congrArg Thread.waits ht
  have hfirm : m = .suspend → i = false := by
    rintro rfl
    have hfirm := h.firm t
    rw [ht] at hfirm
    exact hfirm
  -- what becomes of a thread that goes on waiting
  have hfailed : ∀ killed l', ((Attempt.mk false killed l').thread m i signal queued).waits = some m ∧
      ((Attempt.mk false killed l').thread m i signal queued).Firm := by
    intro killed l'
    rcases Attempt.thread_of_failed m i signal queued killed l' with heq | ⟨hi, heq⟩ | heq
    · rw [heq]
      refine ⟨rfl, ?_⟩
      cases m <;> first | exact hfirm rfl | trivial
    · rw [heq]
      refine ⟨rfl, ?_⟩
      rintro rfl
      rw [hfirm rfl] at hi
      cases hi
    · rw [heq]
      refine ⟨rfl, ?_⟩
      cases m <;> first | exact hfirm rfl | trivial
  rcases s.lock.attempt_cases m with ⟨hready, heq⟩ | heq | ⟨hready, heq⟩
  · rw [heq]
    have hheld : s.held t = none := congrArg Thread.held ht
    refine h.set (h.toBase.set (h.sound.take hready hheld) ?_ ?_ trivial) (fun m' hr => Lock.ready_taken hready hr)
      fun m' i' hx => by cases hx
    · intro m' f _ hm'
      exact .inl ((Thread.waits_engaged hwaits).trans hm')
    · intro m' f hm' hf
      obtain ⟨hf, hne⟩ := (Lock.mem_taken hm').mp hf
      exact .inr ⟨hf, fun hs => hne (Option.some.inj (hwaits.symm.trans hs))⟩
  · rw [heq]
    obtain ⟨hx, hxfirm⟩ := hfailed true s.lock
    refine h.waiting hwaits hx hxfirm ?_
    intro m' i' hasleep
    rcases Attempt.thread_of_failed m i signal queued true s.lock with hx | ⟨-, hx⟩ | hx <;> rw [hx] at hasleep <;>
      cases hasleep
  · rw [heq]
    obtain ⟨hx, hxfirm⟩ := hfailed false (s.lock.awaited m)
    refine h.set (h.toBase.waiting hwaits hx hxfirm (s.lock.awaited_rw m) (fun f hf => Lock.mem_awaited.mpr (.inl hf))
      fun f hf => Lock.mem_awaited.mp hf) (fun m' hr => Lock.ready_awaited hr) ?_
    intro m' i' hasleep hr
    rcases Attempt.thread_of_failed m i signal queued false (s.lock.awaited m) with hx | ⟨-, hx⟩ | hx <;>
      rw [hx] at hasleep <;> cases hasleep
    exact hready (Lock.ready_awaited hr)

/-- A thread stops to have to do with the lock. -/
theorem Base.leave (h : Base s) (hsound : Sound l (Function.update s.held t none))
    (hflags : ∀ (m : Mode) f, m.pending = some f → f ∈ l.flags → f ∈ s.lock.flags ∧ s.waits t ≠ some m) :
    Base (s.set t .idle l) :=
  h.set hsound (fun m f _ hm => by cases hm) (fun m f hm hf => .inr (hflags m f hm hf)) trivial

/-- A thread whose wait was interrupted takes its bit with it. -/
theorem Inv.giveUp (h : Inv s) (ht : s.thread t = .interrupted m) :
    Inv ((s.set t .idle (s.lock.giveUp m).1).wakeIf (s.lock.giveUp m).2) := by
  have hheld : Function.update s.held t none = s.held := by
    have hnone : s.held t = none := congrArg Thread.held ht
    rw [← hnone]
    exact Function.update_eq_self ..
  have hwaits : s.waits t = some m := congrArg Thread.waits ht
  -- the bit goes, and nobody else's does
  have hclear : ∀ f, m.pending = some f → Base (s.set t .idle (s.lock.clearFlag f)) := by
    intro f hf
    refine h.toBase.leave ?_ ?_
    · rw [hheld]
      refine h.sound.congr rfl ?_
      intro m' f' hm'
      refine Finset.mem_erase.trans (and_iff_right ?_)
      rintro rfl
      cases m <;> cases m' <;> cases hf <;> cases hm'
    · intro m' f' hm' hf'
      obtain ⟨hne, hmem⟩ := Finset.mem_erase.mp hf'
      refine ⟨hmem, fun hs => hne ?_⟩
      obtain rfl := Option.some.inj (hwaits.symm.trans hs)
      exact Option.some.inj (hm'.symm.trans hf)
  cases m with
  | read =>
    refine h.set (h.toBase.leave (hheld.symm ▸ h.sound : Sound s.lock _) ?_) (fun _ hr => hr) fun m i hx => by cases hx
    intro m' f hm' hf
    refine ⟨hf, fun hs => ?_⟩
    obtain rfl := Option.some.inj (hwaits.symm.trans hs)
    cases hm'
  | write => exact (hclear _ rfl).wake
  | vt => exact (hclear _ rfl).wake
  | suspend =>
    have hfirm := h.firm t
    rw [ht] at hfirm
    exact absurd rfl hfirm

theorem Lock.unlock_flags (l : Lock) (m : Mode) : (l.unlock m).1.flags ⊆ l.flags := by
  cases m with
  | read | write => exact subset_rfl
  | vt | suspend => exact Finset.erase_subset ..

theorem Inv.unlock (h : Inv s) (ht : s.thread t = .holds m) :
    Inv ((s.set t .idle (s.lock.unlock m).1).wakeIf (s.lock.unlock m).2) := by
  have hheld : s.held t = some m := congrArg Thread.held ht
  have hbase : Base (s.set t .idle (s.lock.unlock m).1) := by
    refine h.toBase.leave (h.sound.release h.once_held hheld) ?_
    intro m' f hm' hf
    refine ⟨s.lock.unlock_flags m hf, fun hs => ?_⟩
    cases (congrArg Thread.waits ht).symm.trans hs
  cases m with
  | read =>
    by_cases hlast : s.lock.rw - 1 = 0
    · have hwake : (s.lock.unlock .read).2 = true := decide_eq_true hlast
      rw [hwake]
      exact hbase.wake
    · have hwake : (s.lock.unlock .read).2 = false := decide_eq_false hlast
      rw [hwake]
      refine h.set hbase ?_ fun m i hx => by cases hx
      -- other readers are left, so that only a reader could take the lock, and could before
      intro m' hr
      cases m' with
      | read =>
        have hrw : (0 : Int) ≤ s.lock.rw - 1 := hr.1
        exact ⟨by omega, hr.2⟩
      | write => exact absurd hr.1 hlast
      | vt | suspend => exact absurd hr hlast
  | write => exact hbase.wake
  | vt => exact hbase.wake
  | suspend => exact hbase.wake

theorem Inv.downgrade (h : Inv s) (ht : s.thread t = .holds .write) :
    Inv ((s.set t (.holds .read) s.lock.ttmWriteLockDowngrade).wakeIf true) := by
  have hheld : s.held t = some .write := congrArg Thread.held ht
  refine (h.toBase.set (x := .holds .read) (h.sound.downgrade hheld) ?_ ?_ trivial).wake
  · intro m f hm hx
    cases hx
    cases hm
  · intro m f _ hf
    refine .inr ⟨hf, fun hs => ?_⟩
    cases (congrArg Thread.waits ht).symm.trans hs

/-- A thread that had nothing to do with the lock asks for it. -/
theorem Inv.start (h : Inv s) (ht : s.thread t = .idle) (hfirm : m = .suspend → i = false)
    (hok : m = .vt ∨ m = .suspend → ∀ u, (s.thread u).engaged ≠ some m) :
    Inv (s.set t (.trying m i signal false) s.lock) := by
  have hheld : Function.update s.held t none = s.held := by
    have hnone : s.held t = none := congrArg Thread.held ht
    rw [← hnone]
    exact Function.update_eq_self ..
  refine h.set (h.toBase.set (hheld.symm ▸ h.sound : Sound s.lock _) ?_ ?_ ?_) (fun _ hr => hr) fun m i hx => by cases hx
  · intro m' f hm' hx
    cases hx
    right
    refine hok ?_
    cases m <;> first | exact .inl rfl | exact .inr rfl | cases hm'
  · intro m' f _ hf
    refine .inr ⟨hf, fun hs => ?_⟩
    cases (congrArg Thread.waits ht).symm.trans hs
  · cases m <;> first | exact hfirm rfl | trivial

end Steps

omit [DecidableEq ι] in
theorem Inv.init : Inv (TtmLock.init ι) where
  sound := by
    refine ⟨?_, ?_, ?_, ?_⟩
    · intro _
      exact congrArg Nat.cast (readers_eq_zero.mpr fun t ht => by cases ht).symm
    · intro t ht
      cases ht
    · intro m f _
      refine ⟨fun hf => absurd hf (Finset.notMem_empty f), ?_⟩
      rintro ⟨t, ht⟩
      cases ht
    · intro t m f _ ht
      cases ht
  once := by
    intro t u m f _ ht
    cases ht
  pending m f _ hf := absurd hf (Finset.notMem_empty f)
  missed := by
    intro t m i ht
    cases ht
  firm _ := trivial

theorem Inv.step {a : Act ι} (h : Inv s) (hok : Ok s a) (hstep : step s a = some s') : Inv s' := by
  cases a with
  | start t m i signal =>
    simp only [TtmLock.step] at hstep
    split at hstep
    case isTrue hidle =>
      cases hstep
      exact h.start hidle.1 hidle.2 hok
    case isFalse => cases hstep
  | attempt t =>
    simp only [TtmLock.step] at hstep
    split at hstep
    case h_1 ht =>
      cases hstep
      exact h.attempt ht
    case h_2 => cases hstep
  | signal t =>
    have hfirm := h.firm t
    simp only [TtmLock.step] at hstep
    split at hstep
    case h_1 m i _ queued ht =>
      cases hstep
      rw [ht] at hfirm
      refine h.waiting (congrArg Thread.waits ht) rfl ?_ fun m i hx => by cases hx
      cases m <;> exact hfirm
    case h_2 m _ ht =>
      cases hstep
      rw [ht] at hfirm
      refine h.waiting (congrArg Thread.waits ht) rfl ?_ fun m i hx => by cases hx
      cases m <;> exact hfirm
    case h_3 => cases hstep
  | giveUp t =>
    simp only [TtmLock.step] at hstep
    split at hstep
    case h_1 ht =>
      cases hstep
      exact h.giveUp ht
    case h_2 => cases hstep
  | unlock t =>
    simp only [TtmLock.step] at hstep
    split at hstep
    case h_1 ht =>
      cases hstep
      exact h.unlock ht
    case h_2 => cases hstep
  | downgrade t =>
    simp only [TtmLock.step] at hstep
    split at hstep
    case h_1 ht =>
      cases hstep
      exact h.downgrade ht
    case h_2 => cases hstep
  | setKill val =>
    cases hstep
    exact ⟨⟨h.sound.congr rfl (fun _ _ _ => Iff.rfl), h.once, h.pending, h.firm⟩, fun t m i ht hr =>
      h.missed t m i ht (by cases m <;> exact hr)⟩

section Runs

instance (s : State ι) (a : Act ι) : Decidable (Ok s a) :=
  match a with
  | .start _ mode _ _ => inferInstanceAs (Decidable (mode = .vt ∨ mode = .suspend → ∀ t, (s.thread t).engaged ≠ some mode))
  | .attempt _ | .signal _ | .giveUp _ | .unlock _ | .downgrade _ | .setKill _ => .isTrue trivial

def play (as : List (Act (Fin 2))) : Option (State (Fin 2)) :=
  exec step (fun s a => decide (Ok s a)) (TtmLock.init (Fin 2)) as

theorem play_run {as : List (Act (Fin 2))} {s : State (Fin 2)} (h : play as = some s) :
    Run step Ok (TtmLock.init (Fin 2)) as s :=
  (Run.of_exec h).mono fun _ _ h => of_decide_eq_true h

variable {as : List (Act ι)}

theorem Inv.run (hrun : Run TtmLock.step Ok (TtmLock.init ι) as s) : Inv s :=
  hrun.invariant (fun _ _ _ hok hstep h => h.step hok hstep) .init

/-- Two threads hold the lock at once only if both read, or one has switched the VT and the other suspends. -/
theorem holders_compatible (hrun : Run step Ok (TtmLock.init ι) as s) {t u : ι} {m m' : Mode} (hne : t ≠ u)
    (ht : s.thread t = .holds m) (hu : s.thread u = .holds m') : m.Compatible m' := by
  have h := Inv.run hrun
  exact h.sound.compatible h.once_held hne (congrArg Thread.held ht) (congrArg Thread.held hu)

/-- One thread holds the lock for the VT and the other for a suspend. -/
def switched : List (Act (Fin 2)) :=
  [.start 0 .vt false false, .attempt 0, .start 1 .suspend false false, .attempt 1]

theorem holders_compatible_switched : ∃ s, play switched = some s ∧ s.thread 0 = .holds .vt ∧ Mode.vt.Compatible .suspend := by
  have hplay : play switched = some ((play switched).get (by decide)) := (Option.some_get _).symm
  refine ⟨_, hplay, by decide, ?_⟩
  exact holders_compatible (t := 0) (u := 1) (play_run hplay) (by decide) (by decide) (by decide)

/-- A reader is inside while a writer sleeps. -/
def contended : List (Act (Fin 2)) :=
  [.start 0 .read false false, .attempt 0, .start 1 .write true false, .attempt 1, .attempt 1]

/-- A writer that cannot be interrupted is turned away by `kill_takers` and not woken when this goes: its bit then
keeps a reader out for good. -/
example : (play [.start 0 .read false false, .attempt 0, .start 1 .write false false, .attempt 1, .attempt 1,
    .setKill true, .unlock 0, .attempt 1, .setKill false, .start 0 .read false false, .attempt 0, .attempt 0]).map
      (fun s => (s.thread 0, s.thread 1)) = some (.asleep .read false false, .asleep .write false true) := by
  decide

end Runs

end Vmwgfx.TtmLock
