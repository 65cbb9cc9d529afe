import Vmwgfx.Fence.Listed
import Vmwgfx.Lib.Mutex

/-! Fence events. The steps of `vmw_event_fence_action_queue` and
`vmw_fence_obj_add_action`, of the cleanup worker and of a file that goes away, each
between two acquisitions of a lock, run beside the updates of the fence manager. -/

namespace Vmwgfx.Fence.Events

open Vmwgfx.Lib

abbrev FileId := Nat

/-- `struct vmw_event_fence_action`. `event` says that its event pointer is not NULL;
an event is known by the action it came with. -/
structure EAction where
  event : Bool
  fence : FenceId
  file : FileId

inductive FileState
  | opened
  /-- in `vmw_event_fence_fpriv_gone`, with the event taken off the list and not yet
  destroyed -/
  | closing (event : Option ActionId)
  | gone
  deriving DecidableEq

/-- Actions and the lists of the files. `eventList` keeps what was ever appended to the
`event_list` of a file, `destroyed` the events destroyed. -/
structure Files where
  eaction : ActionId → EAction
  nextAction : ActionId
  fenceEvents : FileId → List ActionId
  eventList : FileId → List ActionId
  destroyed : List ActionId
  file : FileId → FileState

namespace Files

/-- The event is linked to its file by `vmw_event_fence_action_queue`. -/
def queueEvent (f : Files) (fence : FenceId) (file : FileId) : Files :=
  { f with
    eaction := Function.update f.eaction f.nextAction ⟨true, fence, file⟩
    nextAction := f.nextAction + 1
    fenceEvents := Function.update f.fenceEvents file (f.fenceEvents file ++ [f.nextAction]) }

def vmwEventFenceActionSeqPassed (f : Files) (a : ActionId) : Files :=
  let e := f.eaction a
  if e.event = false then f
  else
    { f with
      eaction := Function.update f.eaction a { e with event := false }
      fenceEvents := Function.update f.fenceEvents e.file ((f.fenceEvents e.file).erase a)
      eventList := Function.update f.eventList e.file (f.eventList e.file ++ [a]) }

/-- The callbacks of the actions performed, in their order. -/
def seqPassed (f : Files) (actions : List ActionId) : Files :=
  actions.foldl vmwEventFenceActionSeqPassed f

def setFile (f : Files) (file : FileId) (fs : FileState) : Files :=
  { f with file := Function.update f.file file fs }

/-- `vmw_event_fence_fpriv_gone` under the lock: the first event is taken, or the list
is empty. -/
def fprivUnlink (f : Files) (file : FileId) : Files :=
  match f.fenceEvents file with
  | [] => f.setFile file .gone
  | a :: rest =>
    { f.setFile file (.closing (some a)) with
      fenceEvents := Function.update f.fenceEvents file rest
      eaction := Function.update f.eaction a { f.eaction a with event := false } }

def fprivDestroy (f : Files) (file : FileId) (a : ActionId) : Files :=
  { f.setFile file (.closing none) with destroyed := f.destroyed ++ [a] }

/-- `list_del(&eaction->fpriv_head)` of the cleanup. -/
def listDel (f : Files) (a : ActionId) : Files :=
  let file := (f.eaction a).file
  { f with fenceEvents := Function.update f.fenceEvents file ((f.fenceEvents file).erase a) }

end Files

/-- Where a thread is in posting an event. -/
inductive Adder
  | idle
  /-- before the `mutex_lock` of `vmw_fence_obj_add_action` -/
  | queued (action : ActionId)
  /-- after it, before the `spin_lock` -/
  | locked (action : ActionId)
  /-- after the `spin_unlock`, with `run_update` -/
  | goal
  /-- after the `spin_unlock`, without it -/
  | unlock
  deriving DecidableEq

/-- Where `vmw_fence_work_func` is. -/
inductive Worker
  | idle
  /-- at the top of the loop -/
  | waiting
  /-- after its `mutex_lock` -/
  | locked
  /-- after its `spin_unlock` -/
  | spliced (list : List ActionId) (seqnoValid : Bool)
  /-- after its `mutex_unlock`, with actions left to clean up -/
  | cleaning (list : List ActionId)
  deriving DecidableEq

/-- The fence manager with its events, threads and worker. `added`, `called` and
`cleaned` are the actions taken by `vmw_fence_obj_add_action`, those whose callback has
run and those cleaned up; `users` counts the references on a fence that are not an
action's. -/
structure State where
  fman : Fence.State
  files : Files
  adder : ThreadId → Adder
  worker : Worker
  added : List ActionId
  called : List ActionId
  cleaned : List ActionId
  kref : FenceId → Nat
  users : FenceId → Nat
  goalQueueWaiters : Int
  /-- `SVGA_IRQFLAG_FENCE_GOAL` of `irq_mask` -/
  goalIrqMask : Bool
  goalWaiterAdds : Nat
  goalWaiterRemoves : Nat

/-- The actions an update performs, in their order. -/
def performed (s : Fence.State) (seqno : Nat) : List ActionId :=
  (s.due seqno).flatMap fun i => (s.fence i).seqPassedActions

namespace State

variable (s : State)

def setAdder (t : ThreadId) (pc : Adder) : State := { s with adder := Function.update s.adder t pc }

def setMutex (held : Bool) : State := { s with fman := { s.fman with goalIrqMutex := held } }

def perform (actions : List ActionId) : State :=
  { s with files := s.files.seqPassed actions, called := s.called ++ actions }

def vmwFenceObjReference (i : FenceId) : State :=
  { s with kref := Function.update s.kref i (s.kref i + 1) }

/-- `vmw_fence_obj_unreference`, with `vmw_fence_obj_destroy_locked` at the last
reference. -/
def vmwFenceObjUnreference (i : FenceId) : State :=
  let n := s.kref i - 1
  { s with
    kref := Function.update s.kref i n
    fman := if n = 0 then { s.fman with fenceList := s.fman.fenceList.erase i } else s.fman }

def vmwGoalWaiterAdd : State :=
  { s with
    goalQueueWaiters := s.goalQueueWaiters + 1
    goalIrqMask := if s.goalQueueWaiters = 0 then true else s.goalIrqMask
    goalWaiterAdds := s.goalWaiterAdds + 1 }

def vmwGoalWaiterRemove : State :=
  { s with
    goalQueueWaiters := s.goalQueueWaiters - 1
    goalIrqMask := if s.goalQueueWaiters - 1 = 0 then false else s.goalIrqMask
    goalWaiterRemoves := s.goalWaiterRemoves + 1 }

def setGoalIrqOn (on : Bool) : State := { s with fman := { s.fman with goalIrqOn := on } }

/-- What `vmw_fence_obj_add_action` does under the spin lock. -/
def addActionLocked (t : ThreadId) (a : ActionId) : State :=
  let i := (s.files.eaction a).fence
  let s := { s with added := s.added ++ [a] }
  let fman := { s.fman with pendingActions := s.fman.pendingActions + 1 }
  if (fman.fence i).signaled then
    ({ s with fman := fman.vmwFencesPerformActions [a] }.perform [a]).setAdder t .unlock
  else
    let (runUpdate, fman) := (fman.attach i a).vmwFenceGoalCheckLocked i
    { s with fman := fman }.setAdder t (if runUpdate then .goal else .unlock)

/-- The goal interrupt is turned on before the update. -/
def addGoal (t : ThreadId) : State :=
  let s := if s.fman.goalIrqOn then s else (s.setGoalIrqOn true).vmwGoalWaiterAdd
  { s.setAdder t .idle with fman := s.fman.setPc t (.update true) }

/-- The worker takes the cleanup list under the spin lock. -/
def workSplice : State :=
  { s with
    worker := .spliced s.fman.cleanupList s.fman.seqnoValid
    fman := { s.fman with cleanupList := [] } }

/-- The worker drops the goal interrupt and the mutex, and returns if it took nothing. -/
def workIrq (list : List ActionId) (seqnoValid : Bool) : State :=
  let s := if !seqnoValid && s.fman.goalIrqOn then (s.setGoalIrqOn false).vmwGoalWaiterRemove else s
  { s.setMutex false with worker := if list.isEmpty then .idle else .cleaning list }

/-- `vmw_event_fence_action_cleanup`. -/
def vmwEventFenceActionCleanup (a : ActionId) : State :=
  { s with files := s.files.listDel a, cleaned := s.cleaned ++ [a] }.vmwFenceObjUnreference (s.files.eaction a).fence

end State

inductive Act
  /-- a step of the fence manager that adds no action and cleans up nothing -/
  | fence (act : Fence.Act)
  | get (i : FenceId)
  | put (i : FenceId)
  | queue (t : ThreadId) (i : FenceId) (file : FileId)
  | addLock (t : ThreadId)
  | addSpin (t : ThreadId)
  | addGoal (t : ThreadId)
  | addUnlock (t : ThreadId)
  | workStart
  | workLock
  | workSplice
  | workIrq
  | workClean
  | close (file : FileId)
  | goneUnlink (file : FileId)
  | goneDestroy (file : FileId)

/-- The fence manager's own steps. The callbacks of an update run under its lock. -/
def fenceStep (s : State) : Fence.Act → Option State
  | .addAction .. | .work => none
  | .emit t => if s.adder t = .idle then (Fence.step s.fman (.emit t)).map ({ s with fman := · }) else none
  | .create t ok =>
    (Fence.step s.fman (.create t ok)).map fun fman =>
      if ok then
        { s with
          fman := fman
          kref := Function.update s.kref s.fman.nextFence 1
          users := Function.update s.users s.fman.nextFence 1 }
      else { s with fman := fman }
  | .update t => if s.adder t = .idle then (Fence.step s.fman (.update t)).map ({ s with fman := · }) else none
  | .lock t =>
    match s.fman.pc t with
    | .lock seqno _ =>
      (Fence.step s.fman (.lock t)).map fun fman => { s with fman := fman }.perform (performed s.fman seqno)
    | _ => none
  | .read t => (Fence.step s.fman (.read t)).map ({ s with fman := · })
  | .reread t => (Fence.step s.fman (.reread t)).map ({ s with fman := · })
  | .device seqno => (Fence.step s.fman (.device seqno)).map ({ s with fman := · })

def step (s : State) : Act → Option State
  | .fence act => fenceStep s act
  | .get i =>
    if 0 < s.users i then
      some { s.vmwFenceObjReference i with users := Function.update s.users i (s.users i + 1) }
    else none
  | .put i =>
    if 0 < s.users i then
      some { s.vmwFenceObjUnreference i with users := Function.update s.users i (s.users i - 1) }
    else none
  | .queue t i file =>
    if s.fman.pc t = .idle ∧ s.adder t = .idle ∧ 0 < s.users i ∧ s.files.file file = .opened then
      some { (s.vmwFenceObjReference i).setAdder t (.queued s.files.nextAction) with
        files := s.files.queueEvent i file }
    else none
  | .addLock t =>
    match s.adder t with
    | .queued a => if s.fman.goalIrqMutex = false then some ((s.setMutex true).setAdder t (.locked a)) else none
    | _ => none
  | .addSpin t =>
    match s.adder t with
    | .locked a => some (s.addActionLocked t a)
    | _ => none
  | .addGoal t => if s.adder t = .goal then some (s.addGoal t) else none
  | .addUnlock t => if s.adder t = .unlock then some ((s.setMutex false).setAdder t .idle) else none
  | .workStart =>
    match s.worker with
    | .idle => some { s with worker := .waiting }
    | _ => none
  | .workLock =>
    match s.worker with
    | .waiting => if s.fman.goalIrqMutex = false then some { s.setMutex true with worker := .locked } else none
    | _ => none
  | .workSplice =>
    match s.worker with
    | .locked => some s.workSplice
    | _ => none
  | .workIrq =>
    match s.worker with
    | .spliced list seqnoValid => some (s.workIrq list seqnoValid)
    | _ => none
  | .workClean =>
    match s.worker with
    | .cleaning [] => some { s with worker := .waiting }
    | .cleaning (a :: rest) => some { s.vmwEventFenceActionCleanup a with worker := .cleaning rest }
    | _ => none
  | .close file =>
    if s.files.file file = .opened then some { s with files := s.files.setFile file (.closing none) } else none
  | .goneUnlink file =>
    if s.files.file file = .closing none then some { s with files := s.files.fprivUnlink file } else none
  | .goneDestroy file =>
    match s.files.file file with
    | .closing (some a) => some { s with files := s.files.fprivDestroy file a }
    | _ => none

def init (seqno : Nat) : State where
  fman := Fence.init seqno
  files := ⟨fun _ => ⟨false, 0, 0⟩, 0, fun _ => [], fun _ => [], [], fun _ => .opened⟩
  adder := fun _ => .idle
  worker := .idle
  added := []
  called := []
  cleaned := []
  kref := fun _ => 0
  users := fun _ => 0
  goalQueueWaiters := 0
  goalIrqMask := false
  goalWaiterAdds := 0
  goalWaiterRemoves := 0

end Vmwgfx.Fence.Events
