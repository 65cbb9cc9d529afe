import Mathlib.Logic.Function.Basic
import Vmwgfx.Lib.Machine
import Vmwgfx.Lib.Uint

/-! The fence manager of `vmwgfx_fence.c`, with the threads that emit and list fences,
attach actions to them and update them.  Sequence numbers are counted without wrap; the
code sees them, and its registers hold them, modulo 2^32. -/

namespace Vmwgfx.Fence

open Vmwgfx.Lib

abbrev FenceId := Nat
abbrev ActionId := Nat
abbrev ThreadId := Nat

/-- `struct vmw_fence_obj`. -/
structure FenceObj where
  seqno : Nat
  /-- `DRM_VMW_FENCE_FLAG_EXEC` of `signaled` -/
  signaled : Bool
  seqPassedActions : List ActionId

/-- Where a thread is; `mutex` says that it holds `goal_irq_mutex`. -/
inductive Pc
  | idle
  /-- between `vmw_fifo_send_fence` and the creation of the fence object -/
  | emitted (seqno : Nat)
  /-- at the top of `vmw_fences_update` -/
  | update (mutex : Bool)
  /-- before its `spin_lock` -/
  | lock (seqno : Nat) (mutex : Bool)
  /-- after its `spin_unlock`, with `needs_rerun` -/
  | rerun (seqno : Nat) (mutex : Bool)
  deriving DecidableEq

/-- `struct vmw_fence_manager`, its device and its threads.  The fence objects are
those below `nextFence`. -/
structure State where
  fence : FenceId → FenceObj
  nextFence : FenceId
  fenceList : List FenceId
  cleanupList : List ActionId
  pendingActions : Nat
  /-- SVGA_FIFO_FENCE_GOAL -/
  goal : Nat
  seqnoValid : Bool
  goalIrqOn : Bool
  goalIrqMutex : Bool
  /-- SVGA_FIFO_FENCE -/
  passed : Nat
  markerSeq : Nat
  pc : ThreadId → Pc

inductive Act
  | emit (t : ThreadId)
  | create (t : ThreadId) (ok : Bool)
  | addAction (t : ThreadId) (i : FenceId) (action : ActionId)
  | update (t : ThreadId)
  | read (t : ThreadId)
  | lock (t : ThreadId)
  | reread (t : ThreadId)
  | work
  | device (seqno : Nat)

/-- The thread that takes a step; the worker and the device are none. -/
def Act.thread : Act → Option ThreadId
  | .emit t | .create t _ | .addAction t _ _ | .update t | .read t | .lock t | .reread t => some t
  | .work | .device _ => none

def vmwFenceWrap : Nat := 2 ^ 31

/-- `seqno - fence->seqno < VMW_FENCE_WRAP`. -/
def seqnoPassed (seqno fenceSeqno : Nat) : Bool := sub32 seqno fenceSeqno < vmwFenceWrap

namespace State

variable (s : State)

def setFence (i : FenceId) (f : FenceObj) : State :=
  { s with fence := Function.update s.fence i f }

@[simp] theorem setFence_fence_self (i : FenceId) (f : FenceObj) : (s.setFence i f).fence i = f := by
  simp [setFence]

theorem setFence_fence_of_ne {i j : FenceId} (f : FenceObj) (h : j ≠ i) :
    (s.setFence i f).fence j = s.fence j := by
  simp [setFence, h]

def setPc (t : ThreadId) (pc : Pc) : State :=
  { s with pc := Function.update s.pc t pc }

@[simp] theorem setPc_pc_self (t : ThreadId) (pc : Pc) : (s.setPc t pc).pc t = pc := by
  simp [setPc]

theorem setPc_pc_of_ne {t t' : ThreadId} (pc : Pc) (h : t' ≠ t) :
    (s.setPc t pc).pc t' = s.pc t' := by
  simp [setPc, h]

def vmwFencesPerformActions (actions : List ActionId) : State :=
  { s with
    pendingActions := s.pendingActions - actions.length
    cleanupList := s.cleanupList ++ actions }

/-- `vmw_fence_obj_init`, outside `vmw_fence_fifo_down`. -/
def vmwFenceObjInit (seqno : Nat) : State :=
  { s.setFence s.nextFence ⟨seqno, false, []⟩ with
    nextFence := s.nextFence + 1
    fenceList := s.fenceList ++ [s.nextFence] }

/-- The number `vmw_fifo_send_fence` draws: zero is skipped. -/
def nextSeqno : Nat :=
  if (s.markerSeq + 1) % 2 ^ 32 = 0 then s.markerSeq + 2 else s.markerSeq + 1

def hasActions (i : FenceId) : Bool := !(s.fence i).seqPassedActions.isEmpty

def vmwFenceGoalNewLocked (passedSeqno : Nat) : Bool × State :=
  if !s.seqnoValid then (false, s)
  else if sub32 passedSeqno s.goal ≥ vmwFenceWrap then (false, s)
  else
    match s.fenceList.find? s.hasActions with
    | none => (true, { s with seqnoValid := false })
    | some i => (true, { s with seqnoValid := true, goal := (s.fence i).seqno })

def vmwFenceGoalCheckLocked (i : FenceId) : Bool × State :=
  if (s.fence i).signaled then (false, s)
  else if s.seqnoValid && decide (sub32 s.goal (s.fence i).seqno < vmwFenceWrap) then (false, s)
  else (true, { s with goal := (s.fence i).seqno, seqnoValid := true })

/-- One round of the loop of `vmw_fences_update` that signals a fence. -/
def signal (i : FenceId) : State :=
  let actions := (s.fence i).seqPassedActions
  ({ s.setFence i ⟨(s.fence i).seqno, true, []⟩ with
    fenceList := s.fenceList.erase i }).vmwFencesPerformActions actions

/-- The loop of `vmw_fences_update`. -/
def signalPassed (seqno : Nat) : List FenceId → State → State
  | [], s => s
  | i :: rest, s =>
    if seqnoPassed seqno (s.fence i).seqno then signalPassed seqno rest (s.signal i) else s

/-- What `vmw_fences_update` does under the lock, and its `needs_rerun`. -/
def vmwFencesUpdateLocked (seqno : Nat) : Bool × State :=
  (signalPassed seqno s.fenceList s).vmwFenceGoalNewLocked seqno

/-- The end of `vmw_fences_update`, and of the `vmw_fence_obj_add_action` around it. -/
def finishUpdate (t : ThreadId) (mutex : Bool) : State :=
  { s.setPc t .idle with goalIrqMutex := if mutex then false else s.goalIrqMutex }

/-- `list_add_tail(&action->head, &fence->seq_passed_actions)`. -/
def attach (i : FenceId) (action : ActionId) : State :=
  s.setFence i { s.fence i with seqPassedActions := (s.fence i).seqPassedActions ++ [action] }

/-- `vmw_fence_obj_add_action`, up to its `vmw_fences_update`. -/
def vmwFenceObjAddAction (t : ThreadId) (i : FenceId) (action : ActionId) : State :=
  let s := { s with pendingActions := s.pendingActions + 1 }
  if (s.fence i).signaled then s.vmwFencesPerformActions [action]
  else
    let (runUpdate, s) := (s.attach i action).vmwFenceGoalCheckLocked i
    if runUpdate then
      { s.setPc t (.update true) with goalIrqOn := true, goalIrqMutex := true }
    else s

/-- One round of `vmw_fence_work_func`, which runs the cleanups it takes off the list.  It
holds `goal_irq_mutex`, without which `seqno_valid` is not set. -/
def vmwFenceWorkFunc : State :=
  { s with cleanupList := [], goalIrqOn := s.goalIrqOn && s.seqnoValid }

end State

def step (s : State) : Act → Option State
  | .emit t =>
    if s.pc t = .idle then
      some { s.setPc t (.emitted s.nextSeqno) with markerSeq := s.nextSeqno }
    else none
  | .create t ok =>
    match s.pc t with
    | .emitted seqno =>
      some (if ok then (s.vmwFenceObjInit seqno).setPc t .idle else s.setPc t .idle)
    | _ => none
  | .addAction t i action =>
    if s.pc t = .idle ∧ s.goalIrqMutex = false ∧ i < s.nextFence then
      some (s.vmwFenceObjAddAction t i action)
    else none
  | .update t => if s.pc t = .idle then some (s.setPc t (.update false)) else none
  | .read t =>
    match s.pc t with
    | .update mutex => some (s.setPc t (.lock s.passed mutex))
    | _ => none
  | .lock t =>
    match s.pc t with
    | .lock seqno mutex =>
      let (needsRerun, s) := s.vmwFencesUpdateLocked seqno
      some (if needsRerun then s.setPc t (.rerun seqno mutex) else s.finishUpdate t mutex)
    | _ => none
  | .reread t =>
    match s.pc t with
    | .rerun seqno mutex =>
      some (if s.passed % 2 ^ 32 ≠ seqno % 2 ^ 32 then s.setPc t (.lock s.passed mutex)
        else s.finishUpdate t mutex)
    | _ => none
  | .work => if s.goalIrqMutex = false then some s.vmwFenceWorkFunc else none
  | .device seqno =>
    if s.passed < seqno ∧ seqno ≤ s.markerSeq then some { s with passed := seqno } else none

/-- A fence manager that has just been set up, on a device that has passed what was
emitted before. -/
def init (seqno : Nat) : State where
  fence := fun _ => ⟨0, false, []⟩
  nextFence := 0
  fenceList := []
  cleanupList := []
  pendingActions := 0
  goal := 0
  seqnoValid := false
  goalIrqOn := false
  goalIrqMutex := false
  passed := seqno
  markerSeq := seqno
  pc := fun _ => .idle

/-- The sequence numbers in play. -/
inductive Live (s : State) : Nat → Prop
  | passed : Live s s.passed
  | marker : Live s s.markerSeq
  | listed {i : FenceId} : i ∈ s.fenceList → Live s (s.fence i).seqno
  | goal : s.seqnoValid = true → Live s s.goal
  | emitted {t : ThreadId} {seqno : Nat} : s.pc t = .emitted seqno → Live s seqno
  | lock {t : ThreadId} {seqno : Nat} {mutex : Bool} : s.pc t = .lock seqno mutex → Live s seqno
  | rerun {t : ThreadId} {seqno : Nat} {mutex : Bool} :
    s.pc t = .rerun seqno mutex → Live s seqno

/-- They lie in a window of 2^31. -/
def Window (s : State) : Prop := ∀ a b, Live s a → Live s b → a < b + 2 ^ 31

theorem seqnoPassed_iff {a b : Nat} (hab : a < b + 2 ^ 31) (hba : b < a + 2 ^ 31) :
    seqnoPassed a b = true ↔ b ≤ a := by
  rw [seqnoPassed, decide_eq_true_eq, vmwFenceWrap]
  exact sub32_lt_half_iff hab hba

theorem Window.seqnoPassed_iff {s : State} (h : Window s) {a b : Nat} (ha : Live s a)
    (hb : Live s b) : seqnoPassed a b = true ↔ b ≤ a :=
  Fence.seqnoPassed_iff (h a b ha hb) (h b a hb ha)

section Signal

variable {s : State} {seqno : Nat}

/-- The fences an update takes off the list. -/
def State.due (s : State) (seqno : Nat) : List FenceId :=
  s.fenceList.takeWhile (fun i => seqnoPassed seqno (s.fence i).seqno)

/-- The fences it leaves there. -/
def State.left (s : State) (seqno : Nat) : List FenceId :=
  s.fenceList.dropWhile (fun i => seqnoPassed seqno (s.fence i).seqno)

theorem signalPassed_frame (seqno : Nat) (l : List FenceId) (s : State) :
    (State.signalPassed seqno l s).nextFence = s.nextFence ∧
      (State.signalPassed seqno l s).goal = s.goal ∧
      (State.signalPassed seqno l s).seqnoValid = s.seqnoValid ∧
      (State.signalPassed seqno l s).goalIrqOn = s.goalIrqOn ∧
      (State.signalPassed seqno l s).goalIrqMutex = s.goalIrqMutex ∧
      (State.signalPassed seqno l s).passed = s.passed ∧
      (State.signalPassed seqno l s).markerSeq = s.markerSeq ∧
      (State.signalPassed seqno l s).pc = s.pc := by
  induction l generalizing s with
  | nil => exact ⟨rfl, rfl, rfl, rfl, rfl, rfl, rfl, rfl⟩
  | cons i l ih =>
    unfold State.signalPassed
    split
    · exact ih (s.signal i)
    · exact ⟨rfl, rfl, rfl, rfl, rfl, rfl, rfl, rfl⟩

theorem signalPassed_spec (seqno : Nat) {l : List FenceId} (hl : s.fenceList = l) (hnodup : l.Nodup) :
    (State.signalPassed seqno l s).fenceList = s.left seqno ∧
      ∀ i, (State.signalPassed seqno l s).fence i =
        if i ∈ s.due seqno then ⟨(s.fence i).seqno, true, []⟩ else s.fence i := by
  unfold State.left State.due
  induction l generalizing s with
  | nil => simp [hl, State.signalPassed]
  | cons j l ih =>
    obtain ⟨hj, hnodup⟩ := List.nodup_cons.mp hnodup
    unfold State.signalPassed
    split
    case isFalse hp => simp [hl, hp]
    case isTrue hp =>
      have hlist : (s.signal j).fenceList = l := by
        simp [State.signal, State.vmwFencesPerformActions, hl]
      have hself : (s.signal j).fence j = ⟨(s.fence j).seqno, true, []⟩ := by
        simp [State.signal, State.vmwFencesPerformActions, State.setFence]
      have hother : ∀ i, i ≠ j → (s.signal j).fence i = s.fence i := by
        intro i hi
        simp [State.signal, State.vmwFencesPerformActions, State.setFence, hi]
      have hseq : ∀ i, ((s.signal j).fence i).seqno = (s.fence i).seqno := by
        intro i
        by_cases hi : i = j
        · rw [hi, hself]
        · rw [hother i hi]
      obtain ⟨hrest, hfence⟩ := ih hlist hnodup
      rw [hlist] at hrest hfence
      simp only [hseq] at hrest hfence
      simp only [hl, List.takeWhile_cons, List.dropWhile_cons, hp, if_true]
      refine ⟨hrest, ?_⟩
      intro i
      rw [hfence]
      by_cases hi : i = j
      · subst hi
        have hnot : i ∉ l.takeWhile (fun i => seqnoPassed seqno (s.fence i).seqno) :=
          fun hm => hj ((List.takeWhile_prefix _).subset hm)
        rw [if_neg hnot, if_pos (by simp), hself]
      · simp [hother i hi, hi]

end Signal

end Vmwgfx.Fence
