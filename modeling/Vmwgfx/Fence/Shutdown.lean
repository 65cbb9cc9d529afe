import Mathlib.Data.List.Nodup
import Mathlib.Logic.Function.Basic
import Vmwgfx.Lib.Machine
import Vmwgfx.Lib.Uint
import Vmwgfx.Fence.Defs

/-! `vmw_fence_fifo_down` among the threads that create, update and drop fences.  It lets
other threads run wherever it does not hold `fman->lock`. -/

namespace Vmwgfx.Fence.Shutdown

open Vmwgfx.Lib

/-- The holder of a reference to a fence. -/
inductive Ref
  /-- A user space object, a buffer or a caller. -/
  | owner
  /-- `fence` of a `struct vmw_event_fence_action`. -/
  | action (a : ActionId)
  /-- The loop of `vmw_fence_fifo_down`. -/
  | down
  deriving DecidableEq

/-- `struct vmw_fence_obj`.  `kref` counts the holders; a fence without one is freed. -/
structure Obj where
  seqno : Nat
  /-- `DRM_VMW_FENCE_FLAG_EXEC` of `signaled` -/
  signaled : Bool
  seqPassedActions : List ActionId
  refs : List Ref

/-- Where `vmw_fence_fifo_down` is. -/
inductive Pc
  | idle
  /-- in `vmw_fence_obj_wait` -/
  | wait (i : FenceId)
  /-- at the `list_del_init` behind a failed wait -/
  | unlink (i : FenceId)
  /-- at `signaled |= DRM_VMW_FENCE_FLAG_EXEC` -/
  | mark (i : FenceId)
  /-- at `list_splice_init` -/
  | splice (i : FenceId)
  /-- at `vmw_fences_perform_actions` -/
  | perform (i : FenceId) (actionList : List ActionId)
  /-- at the `spin_lock_irq` behind the wait -/
  | relock (i : FenceId)
  /-- behind the `spin_unlock_irq` of `vmw_fence_obj_destroy_locked` -/
  | destroyed
  | done
  /-- in `BUG_ON` -/
  | bug
  deriving DecidableEq

namespace Pc

/-- The fence the loop holds a reference to. -/
def fence? : Pc → Option FenceId
  | .wait i | .unlink i | .mark i | .splice i | .perform i _ | .relock i => some i
  | .idle | .destroyed | .done | .bug => none

/-- Its `action_list`. -/
def actionList : Pc → List ActionId
  | .perform _ l => l
  | .idle | .wait _ | .unlink _ | .mark _ | .splice _ | .relock _ | .destroyed | .done | .bug => []

/-- The call has not returned. -/
def Running : Pc → Prop
  | .idle | .done => False
  | .wait _ | .unlink _ | .mark _ | .splice _ | .perform _ _ | .relock _ | .destroyed | .bug => True

/-- The steps the call can still take while `rest` other fences are listed. -/
def rank (rest : Nat) : Pc → Nat
  | .wait _ => 7 * rest + 7
  | .unlink _ => 7 * rest + 6
  | .mark _ => 7 * rest + 5
  | .splice _ => 7 * rest + 4
  | .perform _ _ => 7 * rest + 3
  | .relock _ => 7 * rest + 2
  | .destroyed => 7 * rest + 1
  | .idle | .done | .bug => 0

end Pc

/-- `struct vmw_fence_manager`, the worker and the thread in `vmw_fence_fifo_down`. -/
structure State where
  fence : FenceId → Obj
  nextFence : FenceId
  fenceList : List FenceId
  fifoDown : Bool
  cleanupList : List ActionId
  /-- the private list of `vmw_fence_work_func` -/
  work : List ActionId
  nextAction : ActionId
  actionFence : ActionId → FenceId
  /-- the calls of `seq_passed` -/
  runs : ActionId → Nat
  /-- the times an action was put on the cleanup list -/
  handed : ActionId → Nat
  /-- `fman->lock` -/
  locked : Bool
  /-- for each change to the list, the flags and the actions, whether the lock was held -/
  changes : List Bool
  pc : Pc
  /-- the fence list at the start of the last `vmw_fence_fifo_down` -/
  wasListed : List FenceId
  /-- the steps this call has taken since -/
  steps : Nat

inductive Act
  | create (seqno : Nat)
  | reference (i : FenceId)
  | unreference (i : FenceId)
  | addAction (i : FenceId)
  /-- `vmw_fences_update`, which has read `seqno` -/
  | update (seqno : Nat)
  /-- `vmw_fence_work_func` takes the cleanup list -/
  | workSplice
  /-- and runs the cleanup of an action -/
  | workCleanup
  | fifoDown
  /-- the wait of `vmw_fence_fifo_down` succeeds -/
  | signaled
  /-- the wait times out -/
  | timeout
  /-- the next statement of `vmw_fence_fifo_down` without the lock -/
  | force
  | relock
  /-- the loop condition after a fence has been destroyed -/
  | test
  | fifoUp
  deriving DecidableEq

/-- The steps of `vmw_fence_fifo_down` after its start. -/
def Act.ofDown : Act → Bool
  | .signaled | .timeout | .force | .relock | .test => true
  | .create _ | .reference _ | .unreference _ | .addAction _ | .update _ | .workSplice
  | .workCleanup | .fifoDown | .fifoUp => false

namespace State

variable (s : State)

/-- A change to the list, the flags or the actions is made. -/
def note : State := { s with changes := s.locked :: s.changes }

def setFence (i : FenceId) (f : Obj) : State :=
  { s with fence := Function.update s.fence i f }

@[simp] theorem setFence_self (i : FenceId) (f : Obj) : (s.setFence i f).fence i = f := by
  simp [setFence]

@[simp] theorem setFence_actionFence (i : FenceId) (f : Obj) :
    (s.setFence i f).actionFence = s.actionFence := rfl

theorem setFence_of_ne {i j : FenceId} (f : Obj) (h : j ≠ i) :
    (s.setFence i f).fence j = s.fence j := by
  simp [setFence, h]

/-- What an update of a fence leaves as it is. -/
theorem setFence_field {β : Type} {i : FenceId} (f : Obj) (field : Obj → β)
    (h : field f = field (s.fence i)) (j : FenceId) :
    field ((s.setFence i f).fence j) = field (s.fence j) := by
  simp only [setFence, Function.update_apply]
  split
  case isTrue hj => rw [hj, h]
  case isFalse hj => rfl

def listDelInit (i : FenceId) : State := { s with fenceList := s.fenceList.erase i }.note

/-- `fence->signaled |= DRM_VMW_FENCE_FLAG_EXEC`. -/
def setSignaled (i : FenceId) : State :=
  (s.setFence i { s.fence i with signaled := true }).note

/-- `list_splice_init(&fence->seq_passed_actions, &action_list)`. -/
def spliceActions (i : FenceId) : State :=
  (s.setFence i { s.fence i with seqPassedActions := [] }).note

/-- One round of the loop of `vmw_fences_perform_actions`. -/
def performAction (a : ActionId) : State :=
  { s with
    runs := Function.update s.runs a (s.runs a + 1)
    handed := Function.update s.handed a (s.handed a + 1)
    cleanupList := s.cleanupList ++ [a] }.note

def vmwFencesPerformActions : List ActionId → State → State
  | [], s => s
  | a :: rest, s => vmwFencesPerformActions rest (s.performAction a)

/-- One round of the loop of `vmw_fences_update` that signals a fence. -/
def signal (i : FenceId) : State :=
  let actions := (s.fence i).seqPassedActions
  vmwFencesPerformActions actions (((s.listDelInit i).setSignaled i).spliceActions i)

/-- The loop of `vmw_fences_update`. -/
def signalPassed (seqno : Nat) : List FenceId → State → State
  | [], s => s
  | i :: rest, s =>
    if seqnoPassed seqno (s.fence i).seqno then signalPassed seqno rest (s.signal i) else s

/-- `kref_get`. -/
def get (i : FenceId) (r : Ref) : State :=
  s.setFence i { s.fence i with refs := r :: (s.fence i).refs }

/-- `kref_put` with `vmw_fence_obj_destroy_locked`. -/
def put (i : FenceId) (r : Ref) : State :=
  let refs := (s.fence i).refs.erase r
  let s := s.setFence i { s.fence i with refs := refs }
  if refs.isEmpty then s.listDelInit i else s

/-- What is done between `spin_lock` and `spin_unlock`. -/
def withLock (f : State → State) : State := { f { s with locked := true } with locked := false }

/-- `vmw_fence_obj_init`, with the reference of the caller. -/
def vmwFenceObjInit (seqno : Nat) : State :=
  s.withLock fun s =>
    if s.fifoDown then s
    else
      { s.setFence s.nextFence ⟨seqno, false, [], [.owner]⟩ with
        nextFence := s.nextFence + 1
        fenceList := s.fenceList ++ [s.nextFence] }.note

/-- `vmw_event_fence_action_create` sets up an action, with a reference to its fence. -/
def actionCreate (i : FenceId) : State :=
  { s.get i (.action s.nextAction) with
    nextAction := s.nextAction + 1
    actionFence := Function.update s.actionFence s.nextAction i }

/-- `list_add_tail(&action->head, &fence->seq_passed_actions)`. -/
def attach (i : FenceId) (a : ActionId) : State :=
  (s.setFence i
    { s.fence i with seqPassedActions := (s.fence i).seqPassedActions ++ [a] }).note

def vmwFenceObjAddAction (i : FenceId) (a : ActionId) : State :=
  s.withLock fun s =>
    if (s.fence i).signaled then vmwFencesPerformActions [a] s else s.attach i a

def vmwFencesUpdate (seqno : Nat) : State :=
  s.withLock fun s => signalPassed seqno s.fenceList s

def vmwFenceObjUnreference (i : FenceId) (r : Ref) : State := s.withLock fun s => s.put i r

/-- The loop condition of `vmw_fence_fifo_down`, up to the wait of the next round. -/
def loopTest : State :=
  match s.fenceList.getLast? with
  | none => { s with pc := .done }
  | some i => { s.get i .down with pc := .wait i }

/-- `vmw_fence_fifo_down` up to its first wait. -/
def vmwFenceFifoDown : State :=
  s.withLock fun s =>
    { s with fifoDown := true, wasListed := s.fenceList, steps := 0 }.loopTest

/-- The end of a round: destroying the fence lets go of the lock. -/
def endRound (i : FenceId) : State :=
  s.withLock fun s =>
    if i ∈ s.fenceList then { s with pc := .bug }
    else
      let s := s.put i .down
      if (s.fence i).refs.isEmpty then { s with pc := .destroyed } else s.loopTest

/-- The statements behind a wait that has timed out. -/
def force : Option State :=
  match s.pc with
  | .unlink i => some { s.listDelInit i with pc := .mark i }
  | .mark i => some { s.setSignaled i with pc := .splice i }
  | .splice i => some { s.spliceActions i with pc := .perform i (s.fence i).seqPassedActions }
  | .perform i actionList =>
    some { vmwFencesPerformActions actionList s with pc := .relock i }
  | .idle | .wait _ | .relock _ | .destroyed | .done | .bug => none

/-- A step of `vmw_fence_fifo_down` is counted. -/
def count : State := { s with steps := s.steps + 1 }

end State

/-- Callers work on fences they have a reference to. -/
def step (s : State) : Act → Option State
  | .create seqno => some (s.vmwFenceObjInit seqno)
  | .reference i => if .owner ∈ (s.fence i).refs then some (s.get i .owner) else none
  | .unreference i =>
    if .owner ∈ (s.fence i).refs then some (s.vmwFenceObjUnreference i .owner) else none
  | .addAction i =>
    if .owner ∈ (s.fence i).refs then
      some ((s.actionCreate i).vmwFenceObjAddAction i s.nextAction)
    else none
  | .update seqno => some (s.vmwFencesUpdate seqno)
  | .workSplice =>
    if s.work = [] then
      some (s.withLock fun s => { s with work := s.cleanupList, cleanupList := [] }.note)
    else none
  | .workCleanup =>
    match s.work with
    | [] => none
    | a :: rest =>
      some ({ s with work := rest }.vmwFenceObjUnreference (s.actionFence a) (.action a))
  | .fifoDown => if s.pc = .idle ∨ s.pc = .done then some s.vmwFenceFifoDown else none
  | .signaled =>
    match s.pc with
    | .wait i => if (s.fence i).signaled then some { s.count with pc := .relock i } else none
    | _ => none
  | .timeout =>
    match s.pc with
    | .wait i => if (s.fence i).signaled then none else some { s.count with pc := .unlink i }
    | _ => none
  | .force => s.count.force
  | .relock =>
    match s.pc with
    | .relock i => some (s.count.endRound i)
    | _ => none
  | .test => if s.pc = .destroyed then some (s.count.withLock State.loopTest) else none
  | .fifoUp => if s.pc = .done then some { s with fifoDown := false, pc := .idle } else none

/-- `vmw_fence_manager_init`. -/
def init : State where
  fence := fun _ => ⟨0, false, [], []⟩
  nextFence := 0
  fenceList := []
  fifoDown := true
  cleanupList := []
  work := []
  nextAction := 0
  actionFence := fun _ => 0
  runs := fun _ => 0
  handed := fun _ => 0
  locked := false
  changes := []
  pc := .done
  wasListed := []
  steps := 0

/-- What `vmw_fence_fifo_down` is for, the lock aside. -/
structure Drains (s : State) : Prop where
  bounded : s.steps ≤ 7 * s.wasListed.length
  progress : s.pc.Running → ∃ a, a.ofDown = true ∧ (step s a).isSome = true
  noBug : s.pc ≠ .bug
  /-- It touches no fence that is freed. -/
  held : ∀ i, s.pc.fence? = some i → (s.fence i).refs ≠ []
  closed : s.pc ≠ .idle → ∀ seqno, (s.vmwFenceObjInit seqno).fenceList = s.fenceList
  empty : s.pc = .done → s.fenceList = []
  signaled : s.pc = .done →
    ∀ i ∈ s.wasListed, (s.fence i).refs ≠ [] → (s.fence i).signaled = true
  ran : s.pc = .done →
    ∀ a < s.nextAction, s.actionFence a ∈ s.wasListed → s.runs a = 1 ∧ s.handed a = 1

structure Drained (s : State) : Prop extends Drains s where
  locked : ∀ c ∈ s.changes, c = true

/-- What every thread finds under the lock.  `U` are the fences the forced path has taken off
the list and not signaled yet, `A` those whose actions it has not taken yet, and `P` are the
actions it has taken and not performed yet. -/
structure Inv (U A : FenceId → Prop) (P : List ActionId) (s : State) : Prop where
  nodup : s.fenceList.Nodup
  listed : ∀ i ∈ s.fenceList, (s.fence i).signaled = false ∧ (s.fence i).refs ≠ []
  unlisted : ∀ i < s.nextFence, i ∉ s.fenceList →
    (s.fence i).signaled = true ∨ (s.fence i).refs = [] ∨ U i
  exhausted : ∀ i, (s.fence i).signaled = true → (s.fence i).seqPassedActions = [] ∨ A i
  born : ∀ i, (s.fence i).refs ≠ [] → i < s.nextFence
  attached : ∀ i, ∀ a ∈ (s.fence i).seqPassedActions, a < s.nextAction ∧ s.actionFence a = i
  target : ∀ a < s.nextAction, s.actionFence a < s.nextFence
  taken : ∀ a ∈ P, a < s.nextAction
  waiting : ∀ a, a ∈ s.cleanupList ∨ a ∈ s.work → a < s.nextAction
  once : ∀ a < s.nextAction,
    (s.fence (s.actionFence a)).seqPassedActions.count a + P.count a + s.runs a = 1
  fresh : ∀ a, s.nextAction ≤ a → s.runs a = 0
  handed : ∀ a, s.handed a = s.runs a
  holder : ∀ i a, .action a ∈ (s.fence i).refs → a < s.nextAction ∧ s.actionFence a = i
  refs : ∀ a < s.nextAction, (s.fence (s.actionFence a)).refs.count (.action a) =
    (s.fence (s.actionFence a)).seqPassedActions.count a + P.count a + s.cleanupList.count a +
      s.work.count a

namespace Inv

variable {U A : FenceId → Prop} {P : List ActionId} {s : State}

theorem mono {U' A' : FenceId → Prop} (h : Inv U A P s) (hU : ∀ i, U i → U' i)
    (hA : ∀ i, A i → A' i) : Inv U' A' P s :=
  { h with
    unlisted := by
      intro i hi hnot
      rcases h.unlisted i hi hnot with hsig | hnil | hu
      · exact .inl hsig
      · exact .inr (.inl hnil)
      · exact .inr (.inr (hU i hu))
    exhausted := by
      intro i hi
      rcases h.exhausted i hi with hnil | ha
      · exact .inl hnil
      · exact .inr (hA i ha) }

theorem listDelInit (h : Inv U A P s) (i : FenceId) :
    Inv (fun j => j = i ∨ U j) A P (s.listDelInit i) :=
  { h with
    nodup := h.nodup.erase i
    listed := fun j hj => h.listed j (List.mem_of_mem_erase hj)
    unlisted := by
      intro j hj hnot
      by_cases hij : j = i
      · exact .inr (.inr (.inl hij))
      · have := h.unlisted j hj (fun hm => hnot ((List.mem_erase_of_ne hij).mpr hm))
        tauto }

theorem setSignaled {i : FenceId} (h : Inv (fun j => j = i ∨ U j) A P s) (hi : i ∉ s.fenceList) :
    Inv U (fun j => j = i ∨ A j) P (s.setSignaled i) := by
  have hrefs : ∀ j, ((s.setSignaled i).fence j).refs = (s.fence j).refs :=
    State.setFence_field s _ Obj.refs rfl
  have hactions : ∀ j,
      ((s.setSignaled i).fence j).seqPassedActions = (s.fence j).seqPassedActions :=
    State.setFence_field s _ Obj.seqPassedActions rfl
  have hself : ((s.setSignaled i).fence i).signaled = true := by
    simp [State.setSignaled, State.note, State.setFence]
  have hother : ∀ j, j ≠ i → ((s.setSignaled i).fence j).signaled = (s.fence j).signaled := by
    intro j hj
    simp [State.setSignaled, State.note, State.setFence, hj]
  exact
  { h with
    listed := by
      intro j hj
      have hne : j ≠ i := fun heq => hi (heq ▸ hj)
      rw [hrefs, hother j hne]
      exact h.listed j hj
    unlisted := by
      intro j hj hnot
      rw [hrefs]
      by_cases hji : j = i
      · exact .inl (hji ▸ hself)
      · rw [hother j hji]
        have := h.unlisted j hj hnot
        tauto
    exhausted := by
      intro j hj
      rw [hactions]
      by_cases hji : j = i
      · exact .inr (.inl hji)
      · rw [hother j hji] at hj
        have := h.exhausted j hj
        tauto
    born := by
      intro j hj
      exact h.born j (hrefs j ▸ hj)
    attached := by
      intro j
      rw [hactions]
      exact h.attached j
    once := by
      intro a ha
      exact (hactions _).symm ▸ h.once a ha
    holder := by
      intro j
      rw [hrefs]
      exact h.holder j
    refs := by
      intro a ha
      exact (hactions _).symm ▸ (hrefs _).symm ▸ h.refs a ha }

/-- The actions of a fence go to a private list. -/
theorem spliceActions {i : FenceId} (h : Inv U (fun j => j = i ∨ A j) P s) :
    Inv U A ((s.fence i).seqPassedActions ++ P) (s.spliceActions i) := by
  have hrefs : ∀ j, ((s.spliceActions i).fence j).refs = (s.fence j).refs :=
    State.setFence_field s _ Obj.refs rfl
  have hsignaled : ∀ j, ((s.spliceActions i).fence j).signaled = (s.fence j).signaled :=
    State.setFence_field s _ Obj.signaled rfl
  have hself : ((s.spliceActions i).fence i).seqPassedActions = [] := by
    simp [State.spliceActions, State.note, State.setFence]
  have hother : ∀ j, j ≠ i →
      ((s.spliceActions i).fence j).seqPassedActions = (s.fence j).seqPassedActions := by
    intro j hj
    simp [State.spliceActions, State.note, State.setFence, hj]
  -- what leaves the fence is found in the private list
  have hmoved : ∀ a, a < s.nextAction →
      ((s.spliceActions i).fence (s.actionFence a)).seqPassedActions.count a +
          ((s.fence i).seqPassedActions ++ P).count a =
        (s.fence (s.actionFence a)).seqPassedActions.count a + P.count a := by
    intro a ha
    rw [List.count_append]
    by_cases hai : s.actionFence a = i
    · rw [hai, hself, List.count_nil]
      omega
    · have hnot : (s.fence i).seqPassedActions.count a = 0 :=
        List.count_eq_zero.mpr fun hm => hai (h.attached i a hm).2
      rw [hother _ hai, hnot]
      omega
  exact
  { h with
    listed := by
      intro j hj
      rw [hrefs, hsignaled]
      exact h.listed j hj
    unlisted := by
      intro j hj hnot
      rw [hrefs, hsignaled]
      exact h.unlisted j hj hnot
    exhausted := by
      intro j hj
      by_cases hji : j = i
      · exact .inl (hji ▸ hself)
      · rw [hsignaled] at hj
        rw [hother j hji]
        have := h.exhausted j hj
        tauto
    born := by
      intro j hj
      exact h.born j (hrefs j ▸ hj)
    attached := by
      intro j a ha
      by_cases hji : j = i
      · rw [hji, hself] at ha
        cases ha
      · rw [hother j hji] at ha
        exact h.attached j a ha
    taken := by
      intro a ha
      rcases List.mem_append.mp ha with ha | ha
      · exact (h.attached i a ha).1
      · exact h.taken a ha
    once := by
      intro a ha
      have := h.once a ha
      have := hmoved a ha
      show List.count a ((s.spliceActions i).fence (s.actionFence a)).seqPassedActions + _ + s.runs a = 1
      omega
    holder := by
      intro j
      rw [hrefs]
      exact h.holder j
    refs := by
      intro a ha
      rw [show (s.spliceActions i).actionFence a = s.actionFence a from rfl, hrefs, hmoved a ha]
      exact h.refs a ha }

theorem performAction {a : ActionId} (h : Inv U A (a :: P) s) : Inv U A P (s.performAction a) :=
  { h with
    taken := fun b hb => h.taken b (List.mem_cons_of_mem a hb)
    waiting := by
      intro b hb
      simp only [State.performAction, State.note, List.mem_append, List.mem_singleton] at hb
      rcases hb with (hb | hb) | hb
      · exact h.waiting b (.inl hb)
      · exact hb ▸ h.taken a List.mem_cons_self
      · exact h.waiting b (.inr hb)
    once := by
      intro b hb
      have := h.once b hb
      simp only [State.performAction, State.note, Function.update_apply]
      grind
    fresh := by
      intro b hb
      have hne : b ≠ a := fun heq => absurd (h.taken a List.mem_cons_self) (by
        rw [← heq]
        exact Nat.not_lt.mpr hb)
      simp only [State.performAction, State.note, Function.update_apply, if_neg hne]
      exact h.fresh b hb
    handed := by
      intro b
      have := h.handed b
      simp only [State.performAction, State.note, Function.update_apply]
      split
      case isTrue hb => rw [h.handed a]
      case isFalse hb => exact this
    refs := by
      intro b hb
      have := h.refs b hb
      simp only [State.performAction, State.note]
      grind }

theorem performActions {l : List ActionId} (h : Inv U A (l ++ P) s) :
    Inv U A P (State.vmwFencesPerformActions l s) := by
  induction l generalizing s with
  | nil => exact h
  | cons a l ih => exact ih (performAction h)

theorem signal (h : Inv U A P s) (i : FenceId) : Inv U A P (s.signal i) := by
  have hmarked := (h.listDelInit i).setSignaled (h.nodup.not_mem_erase)
  have hactions :
      (((s.listDelInit i).setSignaled i).fence i).seqPassedActions =
        (s.fence i).seqPassedActions := by
    simp [State.setSignaled, State.note, State.setFence, State.listDelInit]
  have hspliced := hmarked.spliceActions
  rw [hactions] at hspliced
  exact hspliced.performActions

theorem signalPassed (seqno : Nat) (l : List FenceId) (h : Inv U A P s) :
    Inv U A P (State.signalPassed seqno l s) := by
  induction l generalizing s with
  | nil => exact h
  | cons i l ih =>
    unfold State.signalPassed
    split
    · exact ih (h.signal i)
    · exact h

/-- The lock itself is no part of it. -/
theorem withLock {f : State → State} (hf : ∀ s, Inv U A P s → Inv U A P (f s))
    (h : Inv U A P s) : Inv U A P (s.withLock f) :=
  { hf { s with locked := true } { h with } with }

theorem get {i : FenceId} {r : Ref} (h : Inv U A P s) (hi : (s.fence i).refs ≠ [])
    (hr : ∀ a, r ≠ .action a) : Inv U A P (s.get i r) := by
  have hsignaled : ∀ j, ((s.get i r).fence j).signaled = (s.fence j).signaled :=
    State.setFence_field s _ Obj.signaled rfl
  have hactions : ∀ j, ((s.get i r).fence j).seqPassedActions = (s.fence j).seqPassedActions :=
    State.setFence_field s _ Obj.seqPassedActions rfl
  have hnil : ∀ j, ((s.get i r).fence j).refs = [] ↔ (s.fence j).refs = [] := by
    intro j
    by_cases hji : j = i
    · subst hji
      simp [State.get, hi]
    · rw [State.get, State.setFence_of_ne s _ hji]
  have hcount : ∀ j a,
      ((s.get i r).fence j).refs.count (.action a) = (s.fence j).refs.count (.action a) := by
    intro j a
    by_cases hji : j = i
    · subst hji
      simp [State.get, hr a]
    · rw [State.get, State.setFence_of_ne s _ hji]
  exact
  { h with
    listed := by
      intro j hj
      rw [hsignaled, ne_eq, hnil]
      exact h.listed j hj
    unlisted := by
      intro j hj hnot
      rw [hsignaled, hnil]
      exact h.unlisted j hj hnot
    exhausted := by
      intro j
      rw [hsignaled, hactions]
      exact h.exhausted j
    born := by
      intro j hj
      exact h.born j (mt (hnil j).mpr hj)
    attached := by
      intro j
      rw [hactions]
      exact h.attached j
    once := by
      intro a ha
      exact (hactions _).symm ▸ h.once a ha
    holder := by
      intro j a ha
      apply h.holder j a
      rw [← List.count_pos_iff, ← hcount]
      exact List.count_pos_iff.mpr ha
    refs := by
      intro a ha
      exact (hactions _).symm ▸ (hcount _ a).symm ▸ h.refs a ha }

/-- The holder of a reference drops it; an action that does leaves the worker. -/
theorem put {i : FenceId} {r : Ref} {work : List ActionId} (h : Inv U A P s)
    (hr : r ∈ (s.fence i).refs)
    (hwork : ∀ a, work.count a + (if r = .action a then 1 else 0) = s.work.count a) :
    Inv U A P ({ s with work := work }.put i r) := by
  generalize hs' : ({ s with work := work } : State).put i r = s'
  have hfence : s'.fence =
      (s.setFence i { s.fence i with refs := (s.fence i).refs.erase r }).fence := by
    rw [← hs', State.put]
    split <;> rfl
  have hsignaled : ∀ j, (s'.fence j).signaled = (s.fence j).signaled := by
    rw [hfence]
    exact State.setFence_field s _ Obj.signaled rfl
  have hactions : ∀ j, (s'.fence j).seqPassedActions = (s.fence j).seqPassedActions := by
    rw [hfence]
    exact State.setFence_field s _ Obj.seqPassedActions rfl
  have hself : (s'.fence i).refs = (s.fence i).refs.erase r := by
    rw [hfence, State.setFence_self]
  have hother : ∀ j, j ≠ i → (s'.fence j).refs = (s.fence j).refs := by
    intro j hj
    rw [hfence, State.setFence_of_ne s _ hj]
  have hlist : s'.fenceList =
      if (s.fence i).refs.erase r = [] then s.fenceList.erase i else s.fenceList := by
    rw [← hs', State.put]
    simp only [List.isEmpty_iff]
    split <;> rfl
  have hframe : s'.nextFence = s.nextFence ∧ s'.nextAction = s.nextAction ∧
      s'.actionFence = s.actionFence ∧ s'.cleanupList = s.cleanupList ∧ s'.work = work ∧
      s'.runs = s.runs ∧ s'.handed = s.handed := by
    rw [← hs', State.put]
    split <;> exact ⟨rfl, rfl, rfl, rfl, rfl, rfl, rfl⟩
  obtain ⟨hnextFence, hnextAction, hactionFence, hcleanup, hwork', hruns, hhanded⟩ := hframe
  have hsub : ∀ j, ∀ x ∈ (s'.fence j).refs, x ∈ (s.fence j).refs := by
    intro j x hx
    by_cases hji : j = i
    · subst hji
      rw [hself] at hx
      exact List.mem_of_mem_erase hx
    · rwa [hother j hji] at hx
  have hmem : ∀ j ∈ s'.fenceList, j ∈ s.fenceList := by
    intro j hj
    rw [hlist] at hj
    split at hj
    · exact List.mem_of_mem_erase hj
    · exact hj
  exact
  { nodup := by
      rw [hlist]
      split
      · exact h.nodup.erase i
      · exact h.nodup
    listed := by
      intro j hj
      obtain ⟨hsig, href⟩ := h.listed j (hmem j hj)
      rw [hsignaled]
      refine ⟨hsig, ?_⟩
      by_cases hji : j = i
      · subst hji
        rw [hself]
        intro hnil
        rw [hlist, if_pos hnil] at hj
        exact h.nodup.not_mem_erase hj
      · rwa [hother j hji]
    unlisted := by
      intro j hj hnot
      rw [hnextFence] at hj
      rw [hsignaled]
      by_cases hnil : (s'.fence j).refs = []
      · exact .inr (.inl hnil)
      · have hj' : j ∉ s.fenceList := by
          intro hm
          apply hnot
          rw [hlist]
          split
          case isTrue hempty =>
            apply (List.mem_erase_of_ne ?_).mpr hm
            intro hji
            subst hji
            exact hnil (hself.trans hempty)
          case isFalse => exact hm
        have hnil' : (s.fence j).refs ≠ [] := by
          intro hempty
          apply hnil
          apply List.eq_nil_iff_forall_not_mem.mpr
          intro x hx
          have := hsub j x hx
          rw [hempty] at this
          cases this
        have := h.unlisted j hj hj'
        tauto
    exhausted := by
      intro j
      rw [hsignaled, hactions]
      exact h.exhausted j
    born := by
      intro j hj
      rw [hnextFence]
      apply h.born j
      obtain ⟨x, hx⟩ := List.exists_mem_of_ne_nil _ hj
      exact List.ne_nil_of_mem (hsub j x hx)
    attached := by
      intro j
      rw [hactions, hnextAction, hactionFence]
      exact h.attached j
    target := by
      rw [hnextAction, hactionFence, hnextFence]
      exact h.target
    taken := by
      rw [hnextAction]
      exact h.taken
    waiting := by
      intro a ha
      rw [hcleanup, hwork'] at ha
      rw [hnextAction]
      rcases ha with ha | ha
      · exact h.waiting a (.inl ha)
      · apply h.waiting a (.inr (List.count_pos_iff.mp _))
        have := List.count_pos_iff.mpr ha
        have := hwork a
        omega
    once := by
      intro a ha
      rw [hactions, hactionFence, hruns]
      exact h.once a (hnextAction ▸ ha)
    fresh := by
      intro a ha
      rw [hruns]
      exact h.fresh a (hnextAction ▸ ha)
    handed := by
      rw [hruns, hhanded]
      exact h.handed
    holder := by
      intro j a ha
      rw [hnextAction, hactionFence]
      exact h.holder j a (hsub j _ ha)
    refs := by
      intro a ha
      rw [hnextAction] at ha
      rw [hactionFence, hactions, hcleanup, hwork']
      have hcount := h.refs a ha
      have hw := hwork a
      by_cases hai : s.actionFence a = i
      · rw [hai, hself, ← hai]
        by_cases hra : r = .action a
        · rw [hra, hai, List.count_erase_self, ← hai, hcount]
          rw [if_pos hra] at hw
          omega
        · rw [List.count_erase_of_ne (fun heq => hra heq.symm), hcount]
          rw [if_neg hra] at hw
          omega
      · rw [hother _ hai, hcount]
        have hra : r ≠ .action a := by
          intro heq
          exact hai (h.holder i a (heq ▸ hr)).2
        rw [if_neg hra] at hw
        omega }

theorem create {seqno : Nat} (h : Inv U A P s) : Inv U A P (s.vmwFenceObjInit seqno) := by
  apply h.withLock
  intro s h
  split
  case isTrue => exact h
  case isFalse =>
    have hnot : s.nextFence ∉ s.fenceList := fun hm =>
      Nat.lt_irrefl _ (h.born _ (h.listed _ hm).2)
    have hother : ∀ j, j ≠ s.nextFence →
        (s.setFence s.nextFence ⟨seqno, false, [], [.owner]⟩).fence j = s.fence j :=
      fun j hj => s.setFence_of_ne _ hj
    have htarget : ∀ a < s.nextAction,
        (s.setFence s.nextFence ⟨seqno, false, [], [.owner]⟩).fence (s.actionFence a) =
          s.fence (s.actionFence a) :=
      fun a ha => hother _ (Nat.ne_of_lt (h.target a ha))
    exact
    { h with
      nodup := List.nodup_append.mpr ⟨h.nodup, List.nodup_singleton _, by
        intro j hj k hk hjk
        exact hnot (List.mem_singleton.mp hk ▸ hjk ▸ hj)⟩
      listed := by
        intro j hj
        by_cases hji : j = s.nextFence
        · subst hji
          simp [State.note]
        · have hm : j ∈ s.fenceList := by
            rcases List.mem_append.mp hj with hm | hm
            · exact hm
            · exact absurd (List.mem_singleton.mp hm) hji
          simp only [State.note, hother j hji]
          exact h.listed j hm
      unlisted := by
        intro j hj hm
        have hji : j ≠ s.nextFence := fun heq =>
          hm (List.mem_append_right _ (heq ▸ List.mem_singleton_self _))
        simp only [State.note, hother j hji]
        apply h.unlisted j (Nat.lt_of_le_of_ne (Nat.lt_succ_iff.mp hj) hji)
        exact fun hm' => hm (List.mem_append_left _ hm')
      exhausted := by
        intro j hj
        by_cases hji : j = s.nextFence
        · subst hji
          simp [State.note]
        · simp only [State.note, hother j hji] at hj ⊢
          exact h.exhausted j hj
      born := by
        intro j hj
        by_cases hji : j = s.nextFence
        · exact hji ▸ Nat.lt_succ_self _
        · simp only [State.note, hother j hji] at hj
          exact Nat.lt_succ_of_lt (h.born j hj)
      attached := by
        intro j a ha
        by_cases hji : j = s.nextFence
        · subst hji
          simp [State.note] at ha
        · simp only [State.note, hother j hji] at ha
          exact h.attached j a ha
      target := fun a ha => Nat.lt_succ_of_lt (h.target a ha)
      once := by
        intro a ha
        simp only [State.note, State.setFence_actionFence, htarget a ha]
        exact h.once a ha
      holder := by
        intro j a ha
        by_cases hji : j = s.nextFence
        · subst hji
          simp [State.note] at ha
        · simp only [State.note, hother j hji] at ha
          exact h.holder j a ha
      refs := by
        intro a ha
        simp only [State.note, State.setFence_actionFence, htarget a ha]
        exact h.refs a ha }

theorem actionCreate {i : FenceId} (h : Inv U A P s) (hi : (s.fence i).refs ≠ []) :
    Inv U A (s.nextAction :: P) (s.actionCreate i) := by
  unfold State.actionCreate
  generalize hs' : s.get i (.action s.nextAction) = s'
  have hsignaled : ∀ j, (s'.fence j).signaled = (s.fence j).signaled :=
    hs' ▸ State.setFence_field s _ Obj.signaled rfl
  have hactions : ∀ j, (s'.fence j).seqPassedActions = (s.fence j).seqPassedActions :=
    hs' ▸ State.setFence_field s _ Obj.seqPassedActions rfl
  have hself : (s'.fence i).refs = .action s.nextAction :: (s.fence i).refs := by
    rw [← hs', State.get, State.setFence_self]
  have hother : ∀ j, j ≠ i → (s'.fence j).refs = (s.fence j).refs := by
    intro j hj
    rw [← hs', State.get, State.setFence_of_ne s _ hj]
  have hframe : s'.fenceList = s.fenceList ∧ s'.nextFence = s.nextFence ∧
      s'.cleanupList = s.cleanupList ∧ s'.work = s.work ∧ s'.runs = s.runs ∧
      s'.handed = s.handed := by
    rw [← hs']
    exact ⟨rfl, rfl, rfl, rfl, rfl, rfl⟩
  obtain ⟨hlist, hnextFence, hcleanup, hwork, hruns, hhanded⟩ := hframe
  have hnil : ∀ j, (s'.fence j).refs = [] ↔ (s.fence j).refs = [] := by
    intro j
    by_cases hji : j = i
    · subst hji
      simp [hself, hi]
    · rw [hother j hji]
  have hold : ∀ a < s.nextAction,
      Function.update s.actionFence s.nextAction i a = s.actionFence a :=
    fun a ha => Function.update_of_ne (Nat.ne_of_lt ha) _ _
  have hnew : ∀ j, s.nextAction ∉ (s.fence j).seqPassedActions :=
    fun j hm => Nat.lt_irrefl _ (h.attached j _ hm).1
  have htaken : s.nextAction ∉ P := fun hm => Nat.lt_irrefl _ (h.taken _ hm)
  have hwaiting : s.nextAction ∉ s.cleanupList ∧ s.nextAction ∉ s.work :=
    ⟨fun hm => Nat.lt_irrefl _ (h.waiting _ (.inl hm)),
      fun hm => Nat.lt_irrefl _ (h.waiting _ (.inr hm))⟩
  have hholder : ∀ j, .action s.nextAction ∉ (s.fence j).refs :=
    fun j hm => Nat.lt_irrefl _ (h.holder j _ hm).1
  exact
  { nodup := hlist.symm ▸ h.nodup
    listed := by
      intro j hj
      rw [hsignaled, ne_eq, hnil]
      exact h.listed j (hlist ▸ hj)
    unlisted := by
      intro j hj hnot
      rw [hsignaled, hnil]
      exact h.unlisted j (hnextFence ▸ hj) (hlist ▸ hnot)
    exhausted := by
      intro j
      rw [hsignaled, hactions]
      exact h.exhausted j
    born := by
      intro j hj
      exact hnextFence.symm ▸ h.born j (mt (hnil j).mpr hj)
    attached := by
      intro j a ha
      rw [hactions] at ha
      obtain ⟨hlt, heq⟩ := h.attached j a ha
      exact ⟨Nat.lt_succ_of_lt hlt, (hold a hlt).trans heq⟩
    target := by
      intro a ha
      show Function.update s.actionFence s.nextAction i a < s'.nextFence
      rw [hnextFence]
      rcases Nat.lt_succ_iff_lt_or_eq.mp ha with hlt | heq
      · rw [hold a hlt]
        exact h.target a hlt
      · rw [heq, Function.update_self]
        exact h.born i hi
    taken := by
      intro a ha
      rcases List.mem_cons.mp ha with heq | ha
      · exact heq ▸ Nat.lt_succ_self _
      · exact Nat.lt_succ_of_lt (h.taken a ha)
    waiting := by
      intro a ha
      exact Nat.lt_succ_of_lt (h.waiting a (hcleanup ▸ hwork ▸ ha))
    once := by
      intro a ha
      show List.count a (s'.fence (Function.update s.actionFence s.nextAction i a)).seqPassedActions + _ +
        s'.runs a = 1
      rw [hactions, hruns]
      rcases Nat.lt_succ_iff_lt_or_eq.mp ha with hlt | heq
      · rw [hold a hlt, List.count_cons_of_ne (Nat.ne_of_gt hlt)]
        exact h.once a hlt
      · subst heq
        rw [List.count_eq_zero_of_not_mem (hnew _), List.count_cons_self,
          List.count_eq_zero_of_not_mem htaken, h.fresh _ (Nat.le_refl _)]
    fresh := by
      intro a ha
      show s'.runs a = 0
      rw [hruns]
      exact h.fresh a (Nat.le_of_succ_le ha)
    handed := by
      intro a
      show s'.handed a = s'.runs a
      rw [hruns, hhanded]
      exact h.handed a
    holder := by
      intro j a ha
      show a < s.nextAction + 1 ∧ Function.update s.actionFence s.nextAction i a = j
      by_cases han : a = s.nextAction
      · subst han
        refine ⟨Nat.lt_succ_self _, ?_⟩
        rw [Function.update_self]
        by_cases hji : j = i
        · exact hji.symm
        · exact absurd (hother j hji ▸ ha) (hholder j)
      · have hm : .action a ∈ (s.fence j).refs := by
          by_cases hji : j = i
          · subst hji
            change _ ∈ (s'.fence j).refs at ha
            rw [hself] at ha
            rcases List.mem_cons.mp ha with heq | hm
            · cases heq
              exact absurd rfl han
            · exact hm
          · exact hother j hji ▸ ha
        obtain ⟨hlt, heq⟩ := h.holder j a hm
        exact ⟨Nat.lt_succ_of_lt hlt, (hold a hlt).trans heq⟩
    refs := by
      intro a ha
      show List.count (.action a) (s'.fence (Function.update s.actionFence s.nextAction i a)).refs =
        List.count a (s'.fence (Function.update s.actionFence s.nextAction i a)).seqPassedActions + _ +
          s'.cleanupList.count a + s'.work.count a
      rw [hactions, hcleanup, hwork]
      rcases Nat.lt_succ_iff_lt_or_eq.mp ha with hlt | heq
      · rw [hold a hlt, List.count_cons_of_ne (Nat.ne_of_gt hlt), ← h.refs a hlt]
        by_cases hai : s.actionFence a = i
        · rw [hai, hself, List.count_cons_of_ne]
          intro heq
          cases heq
          exact Nat.lt_irrefl _ hlt
        · rw [hother _ hai]
      · subst heq
        rw [Function.update_self, hself, List.count_cons_self, List.count_cons_self,
          List.count_eq_zero_of_not_mem (hholder i), List.count_eq_zero_of_not_mem (hnew i),
          List.count_eq_zero_of_not_mem htaken, List.count_eq_zero_of_not_mem hwaiting.1,
          List.count_eq_zero_of_not_mem hwaiting.2] }

theorem attach {a : ActionId} {i : FenceId} (h : Inv U A (a :: P) s) (ha : s.actionFence a = i)
    (hi : (s.fence i).signaled = false) : Inv U A P (s.attach i a) := by
  unfold State.attach
  generalize hs' : s.setFence i
    { s.fence i with seqPassedActions := (s.fence i).seqPassedActions ++ [a] } = s'
  have hsignaled : ∀ j, (s'.fence j).signaled = (s.fence j).signaled :=
    hs' ▸ State.setFence_field s _ Obj.signaled rfl
  have hrefs : ∀ j, (s'.fence j).refs = (s.fence j).refs :=
    hs' ▸ State.setFence_field s _ Obj.refs rfl
  have hself : (s'.fence i).seqPassedActions = (s.fence i).seqPassedActions ++ [a] := by
    rw [← hs', State.setFence_self]
  have hother : ∀ j, j ≠ i → (s'.fence j).seqPassedActions = (s.fence j).seqPassedActions := by
    intro j hj
    rw [← hs', State.setFence_of_ne s _ hj]
  have hlt := h.taken a List.mem_cons_self
  -- the action is on the list of its fence instead of on the private one
  have hmoved : ∀ b, (s'.fence (s.actionFence b)).seqPassedActions.count b + P.count b =
      (s.fence (s.actionFence b)).seqPassedActions.count b + (a :: P).count b := by
    intro b
    rw [List.count_cons]
    by_cases hbi : s.actionFence b = i
    · rw [hbi, hself, List.count_append, List.count_singleton]
      omega
    · have hne : a ≠ b := fun heq => hbi (heq ▸ ha)
      rw [hother _ hbi, if_neg]
      · rfl
      · exact fun heq => hne (eq_of_beq heq)
  have hframe : s'.fenceList = s.fenceList ∧ s'.nextFence = s.nextFence ∧
      s'.nextAction = s.nextAction ∧ s'.actionFence = s.actionFence ∧
      s'.cleanupList = s.cleanupList ∧ s'.work = s.work ∧ s'.runs = s.runs ∧
      s'.handed = s.handed := by
    rw [← hs']
    exact ⟨rfl, rfl, rfl, rfl, rfl, rfl, rfl, rfl⟩
  obtain ⟨hlist, hnextFence, hnextAction, hactionFence, hcleanup, hwork, hruns, hhanded⟩ := hframe
  exact
  { nodup := hlist.symm ▸ h.nodup
    listed := by
      intro j hj
      change j ∈ s'.fenceList at hj
      show (s'.fence j).signaled = false ∧ (s'.fence j).refs ≠ []
      rw [hsignaled, hrefs]
      exact h.listed j (hlist ▸ hj)
    unlisted := by
      intro j hj hnot
      show (s'.fence j).signaled = true ∨ (s'.fence j).refs = [] ∨ U j
      rw [hsignaled, hrefs]
      exact h.unlisted j (hnextFence ▸ hj) (hlist ▸ hnot)
    exhausted := by
      intro j hj
      change (s'.fence j).signaled = true at hj
      show (s'.fence j).seqPassedActions = [] ∨ A j
      rw [hsignaled] at hj
      have hne : j ≠ i := by
        intro heq
        rw [heq, hi] at hj
        cases hj
      rw [hother j hne]
      exact h.exhausted j hj
    born := by
      intro j hj
      exact hnextFence.symm ▸ h.born j (hrefs j ▸ hj)
    attached := by
      intro j b hb
      change b ∈ (s'.fence j).seqPassedActions at hb
      show b < s'.nextAction ∧ s'.actionFence b = j
      rw [hnextAction, hactionFence]
      by_cases hji : j = i
      · subst hji
        rw [hself] at hb
        rcases List.mem_append.mp hb with hb | hb
        · exact h.attached j b hb
        · rw [List.mem_singleton.mp hb]
          exact ⟨hlt, ha⟩
      · rw [hother j hji] at hb
        exact h.attached j b hb
    target := by
      intro b hb
      show s'.actionFence b < s'.nextFence
      rw [hactionFence, hnextFence]
      exact h.target b (hnextAction ▸ hb)
    taken := fun b hb => hnextAction.symm ▸ h.taken b (List.mem_cons_of_mem a hb)
    waiting := by
      intro b hb
      exact hnextAction.symm ▸ h.waiting b (hcleanup ▸ hwork ▸ hb)
    once := by
      intro b hb
      show List.count b (s'.fence (s'.actionFence b)).seqPassedActions + _ + s'.runs b = 1
      rw [hactionFence, hruns, hmoved]
      exact h.once b (hnextAction ▸ hb)
    fresh := by
      intro b hb
      show s'.runs b = 0
      rw [hruns]
      exact h.fresh b (hnextAction ▸ hb)
    handed := by
      intro b
      show s'.handed b = s'.runs b
      rw [hruns, hhanded]
      exact h.handed b
    holder := by
      intro j b hb
      show b < s'.nextAction ∧ s'.actionFence b = j
      rw [hnextAction, hactionFence]
      exact h.holder j b (hrefs j ▸ hb)
    refs := by
      intro b hb
      show List.count (.action b) (s'.fence (s'.actionFence b)).refs =
        List.count b (s'.fence (s'.actionFence b)).seqPassedActions + P.count b +
          s'.cleanupList.count b + s'.work.count b
      rw [hactionFence, hcleanup, hwork, hrefs, hmoved]
      exact h.refs b (hnextAction ▸ hb) }

theorem addAction {i : FenceId} (h : Inv U A P s) (hi : (s.fence i).refs ≠ []) :
    Inv U A P ((s.actionCreate i).vmwFenceObjAddAction i s.nextAction) := by
  have hcreated : Inv U A (s.nextAction :: P) { s.actionCreate i with locked := true } :=
    { h.actionCreate hi with }
  unfold State.vmwFenceObjAddAction State.withLock
  dsimp only
  split
  case isTrue => exact { hcreated.performActions (l := [s.nextAction]) with }
  case isFalse hsig =>
    exact { hcreated.attach (Function.update_self _ _ _) (Bool.eq_false_iff.mpr hsig) with }

theorem workSplice (h : Inv U A P s) (hwork : s.work = []) :
    Inv U A P (s.withLock fun s => { s with work := s.cleanupList, cleanupList := [] }.note) :=
  { h with
    waiting := by
      intro a ha
      rcases ha with ha | ha
      · cases ha
      · exact h.waiting a (.inl ha)
    refs := by
      intro a ha
      have := h.refs a ha
      rw [hwork, List.count_nil] at this
      simp only [State.withLock, State.note, List.count_nil]
      omega }

end Inv

end Vmwgfx.Fence.Shutdown
