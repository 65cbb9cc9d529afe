import Mathlib.Data.Finset.Card
import Mathlib.Data.List.Perm.Subperm
import Vmwgfx.Fence.Files
import Vmwgfx.Fence.GoalIrq

/-! Each fence event is consumed once, whatever the order of updates, cleanups and files
that go away. -/

namespace Vmwgfx.Fence

/-- The two states have the same fences, lists and count of actions. -/
structure SameActions (s s' : State) : Prop where
  fence : s'.fence = s.fence
  next : s'.nextFence = s.nextFence
  list : s'.fenceList = s.fenceList
  cleanup : s'.cleanupList = s.cleanupList
  pending : s'.pendingActions = s.pendingActions

/-- What a step that adds no action and cleans up nothing does to the actions. -/
inductive ActionStep (s s' : State) : Act → Prop
  | emit (t : ThreadId) (e : SameActions s s') : ActionStep s s' (.emit t)
  | create (t : ThreadId) (seqno : Nat) (e : SameActions (s.vmwFenceObjInit seqno) s') :
    ActionStep s s' (.create t true)
  | noObject (t : ThreadId) (e : SameActions s s') : ActionStep s s' (.create t false)
  | update (t : ThreadId) (e : SameActions s s') : ActionStep s s' (.update t)
  | read (t : ThreadId) (e : SameActions s s') : ActionStep s s' (.read t)
  | lock (t : ThreadId) (seqno : Nat) (mutex : Bool) (hpc : s.pc t = .lock seqno mutex)
    (e : SameActions (s.vmwFencesUpdateLocked seqno).2 s') : ActionStep s s' (.lock t)
  | reread (t : ThreadId) (e : SameActions s s') : ActionStep s s' (.reread t)
  | device (seqno : Nat) (e : SameActions s s') : ActionStep s s' (.device seqno)

section Step

variable {s s' : State}

theorem step_actions {act : Act} (hs : step s act = some s') (hadd : ∀ t i a, act ≠ .addAction t i a)
    (hwork : act ≠ .work) : ActionStep s s' act := by
  cases act with
  | emit t =>
    simp only [step] at hs
    split at hs
    · cases hs
      exact .emit t ⟨rfl, rfl, rfl, rfl, rfl⟩
    · cases hs
  | create t ok =>
    simp only [step] at hs
    split at hs
    · rename_i seqno hpc
      cases hs
      cases ok with
      | true => exact .create t seqno ⟨rfl, rfl, rfl, rfl, rfl⟩
      | false => exact .noObject t ⟨rfl, rfl, rfl, rfl, rfl⟩
    · cases hs
  | addAction t i a => exact absurd rfl (hadd t i a)
  | update t =>
    simp only [step] at hs
    split at hs
    · cases hs
      exact .update t ⟨rfl, rfl, rfl, rfl, rfl⟩
    · cases hs
  | read t =>
    simp only [step] at hs
    split at hs
    · cases hs
      exact .read t ⟨rfl, rfl, rfl, rfl, rfl⟩
    · cases hs
  | lock t =>
    simp only [step] at hs
    split at hs
    · rename_i seqno mutex hpc
      cases hs
      refine .lock t seqno mutex hpc ?_
      split <;> exact ⟨rfl, rfl, rfl, rfl, rfl⟩
    · cases hs
  | reread t =>
    simp only [step] at hs
    split at hs
    · cases hs
      refine .reread t ?_
      split <;> exact ⟨rfl, rfl, rfl, rfl, rfl⟩
    · cases hs
  | work => exact absurd rfl hwork
  | device seqno =>
    simp only [step] at hs
    split at hs
    · cases hs
      exact .device seqno ⟨rfl, rfl, rfl, rfl, rfl⟩
    · cases hs

/-- The goal is all that a search for it changes. -/
theorem vmwFenceGoalNewLocked_actions (s : State) (seqno : Nat) : SameActions s (s.vmwFenceGoalNewLocked seqno).2 := by
  cases vmwFenceGoalNewLocked_cases s seqno with
  | inl hold =>
    rw [hold.2]
    exact ⟨rfl, rfl, rfl, rfl, rfl⟩
  | inr hnew =>
    cases hnew.2 with
    | inl hnone =>
      rw [hnone.2]
      exact ⟨rfl, rfl, rfl, rfl, rfl⟩
    | inr hsome =>
      obtain ⟨i, -, hi⟩ := hsome
      rw [hi]
      exact ⟨rfl, rfl, rfl, rfl, rfl⟩

theorem vmwFenceGoalCheckLocked_actions (s : State) (i : FenceId) : SameActions s (s.vmwFenceGoalCheckLocked i).2 := by
  unfold State.vmwFenceGoalCheckLocked
  split
  · exact ⟨rfl, rfl, rfl, rfl, rfl⟩
  · split <;> exact ⟨rfl, rfl, rfl, rfl, rfl⟩

/-- The actions of the fences at the front of a list that have passed. -/
def passedActions (fence : FenceId → FenceObj) (seqno : Nat) (l : List FenceId) : List ActionId :=
  (l.takeWhile fun i => seqnoPassed seqno (fence i).seqno).flatMap fun i => (fence i).seqPassedActions

theorem signal_passedActions (s : State) {j : FenceId} {l : List FenceId} (hj : j ∉ l) (seqno : Nat) :
    passedActions (s.signal j).fence seqno l = passedActions s.fence seqno l := by
  have hseqno : ∀ i, ((s.signal j).fence i).seqno = (s.fence i).seqno := by
    intro i
    by_cases hi : i = j
    · subst hi
      have hself : (s.signal i).fence i = ⟨(s.fence i).seqno, true, []⟩ := Function.update_self ..
      rw [hself]
    · exact congrArg FenceObj.seqno (Function.update_of_ne hi ..)
  unfold passedActions
  simp only [hseqno]
  refine List.flatMap_congr fun i hi => ?_
  have hne : i ≠ j := fun heq => hj (heq ▸ (List.takeWhile_prefix _).subset hi)
  exact congrArg FenceObj.seqPassedActions (Function.update_of_ne hne ..)

/-- The actions of the fences that an update signals go to the cleanup list. -/
theorem signalPassed_actions (seqno : Nat) {l : List FenceId} (hnodup : l.Nodup) (s : State) :
    (State.signalPassed seqno l s).cleanupList = s.cleanupList ++ passedActions s.fence seqno l ∧
      (State.signalPassed seqno l s).pendingActions =
        s.pendingActions - (passedActions s.fence seqno l).length := by
  induction l generalizing s with
  | nil => exact ⟨(List.append_nil _).symm, rfl⟩
  | cons j l ih =>
    obtain ⟨hj, hnodup⟩ := List.nodup_cons.mp hnodup
    unfold State.signalPassed
    split
    case isFalse hp => simp [passedActions, hp]
    case isTrue hp =>
      obtain ⟨hcleanup, hpending⟩ := ih hnodup (s.signal j)
      rw [signal_passedActions s hj] at hcleanup hpending
      have hcons : passedActions s.fence seqno (j :: l) =
          (s.fence j).seqPassedActions ++ passedActions s.fence seqno l := by
        simp [passedActions, hp]
      rw [hcons, hcleanup, hpending, List.length_append, ← Nat.sub_sub, ← List.append_assoc]
      exact ⟨rfl, rfl⟩

end Step

namespace Events

open Vmwgfx.Lib

theorem vmwFencesUpdateLocked_performed {s : Fence.State} (hnodup : s.fenceList.Nodup) (seqno : Nat) :
    (s.vmwFencesUpdateLocked seqno).2.cleanupList = s.cleanupList ++ performed s seqno ∧
      (s.vmwFencesUpdateLocked seqno).2.pendingActions = s.pendingActions - (performed s seqno).length := by
  have hnew := vmwFenceGoalNewLocked_actions (Fence.State.signalPassed seqno s.fenceList s) seqno
  obtain ⟨hcleanup, hpending⟩ := signalPassed_actions seqno hnodup s
  exact ⟨hnew.cleanup.trans hcleanup, hnew.pending.trans hpending⟩

/-- The action a thread is about to add. -/
def Adder.action : Adder → Option ActionId
  | .queued a | .locked a => some a
  | .idle | .goal | .unlock => none

/-- The actions the worker has taken off the cleanup list. -/
def Worker.list : Worker → List ActionId
  | .spliced l _ | .cleaning l => l
  | .idle | .waiting | .locked => []

/-- Every action that is added and not called is counted, and every one that is called is
cleaned up or waits for it. -/
structure Counts (s : State) : Prop where
  added : s.added.Nodup
  addedLt : ∀ a ∈ s.added, a < s.files.nextAction
  called : s.called.Nodup
  calledAdded : ∀ a ∈ s.called, a ∈ s.added
  event : ∀ a ∈ s.called, (s.files.eaction a).event = false
  pending : s.fman.pendingActions + s.called.length = s.added.length
  cleanup : ∀ a, s.fman.cleanupList.count a + s.worker.list.count a + s.cleaned.count a = s.called.count a

/-- What waits on a fence has been added to it and not been called. -/
structure Attached (s : State) : Prop where
  list : s.fman.fenceList.Nodup
  lt : ∀ i ∈ s.fman.fenceList, i < s.fman.nextFence
  nodup : ∀ i, (s.fman.fence i).seqPassedActions.Nodup
  here : ∀ i, ∀ a ∈ (s.fman.fence i).seqPassedActions, (s.files.eaction a).fence = i ∧ a ∈ s.added ∧ a ∉ s.called

/-- An action is added, or a thread is about to add it. -/
structure Adders (s : State) : Prop where
  fresh : ∀ t a, (s.adder t).action = some a → a < s.files.nextAction ∧ a ∉ s.added
  unique : ∀ t t' a, (s.adder t).action = some a → (s.adder t').action = some a → t = t'
  taken : ∀ a < s.files.nextAction, a ∈ s.added ∨ ∃ t, (s.adder t).action = some a

/-- The actions on a fence that are not cleaned up. -/
def holders (s : State) (i : FenceId) : Finset ActionId :=
  (Finset.range s.files.nextAction).filter fun a => (s.files.eaction a).fence = i ∧ a ∉ s.cleaned

structure Refs (s : State) : Prop where
  kref : ∀ i, s.kref i = s.users i + (holders s i).card
  users : ∀ i, 0 < s.users i → i < s.fman.nextFence
  fence : ∀ a < s.files.nextAction, (s.files.eaction a).fence < s.fman.nextFence

structure ConsumeInv (s : State) : Prop where
  files : FilesInv s.files
  counts : Counts s
  attached : Attached s
  adders : Adders s
  refs : Refs s

theorem init_consumeInv (n : Nat) : ConsumeInv (init n) where
  files := by
    constructor
    case listed => exact fun a file => iff_of_false List.not_mem_nil (fun h => Bool.noConfusion h.1)
    case nodup => exact fun _ => List.nodup_nil
    case fresh => exact fun _ h => Bool.noConfusion h
    case delivered => exact fun _ _ h => absurd h List.not_mem_nil
    case closing =>
      intro _ _ h
      cases h
    case destroyed => exact fun _ h => absurd h List.not_mem_nil
    case once => exact fun _ h => absurd h (Nat.not_lt_zero _)
    case gone => exact fun _ _ => rfl
  counts :=
    ⟨List.nodup_nil, fun _ h => absurd h List.not_mem_nil, List.nodup_nil, fun _ h => absurd h List.not_mem_nil,
      fun _ h => absurd h List.not_mem_nil, rfl, fun _ => rfl⟩
  attached :=
    ⟨List.nodup_nil, fun _ h => absurd h List.not_mem_nil, fun _ => List.nodup_nil,
      fun _ _ h => absurd h List.not_mem_nil⟩
  adders := by
    refine ⟨fun t a h => ?_, fun t t' a h => ?_, fun _ h => absurd h (Nat.not_lt_zero _)⟩
    · cases h
    · cases h
  refs :=
    ⟨fun _ => rfl, fun _ h => absurd h (Nat.lt_irrefl 0), fun _ h => absurd h (Nat.not_lt_zero _)⟩

section Counts

variable {s s' : State}

theorem Counts.congr (h : Counts s) (hk : FilesInv.Kept s.files s'.files) (hadded : s'.added = s.added)
    (hcalled : s'.called = s.called) (hcleaned : s'.cleaned = s.cleaned)
    (hpending : s'.fman.pendingActions = s.fman.pendingActions)
    (hwaiting : ∀ a, s'.fman.cleanupList.count a + s'.worker.list.count a =
      s.fman.cleanupList.count a + s.worker.list.count a) : Counts s' where
  added := by
    rw [hadded]
    exact h.added
  addedLt := by
    rw [hadded]
    exact fun a ha => Nat.lt_of_lt_of_le (h.addedLt a ha) hk.next
  called := by
    rw [hcalled]
    exact h.called
  calledAdded := by
    rw [hcalled, hadded]
    exact h.calledAdded
  event := by
    rw [hcalled]
    exact fun a ha => hk.event a (h.addedLt a (h.calledAdded a ha)) (h.event a ha)
  pending := by
    rw [hpending, hcalled, hadded]
    exact h.pending
  cleanup a := by
    rw [hwaiting, hcleaned, hcalled]
    exact h.cleanup a

/-- An action is counted when it is added. -/
theorem Counts.add {a : ActionId} (h : Counts s) (ha : a ∉ s.added) (hlt : a < s.files.nextAction) :
    Counts { s with
      added := s.added ++ [a]
      fman := { s.fman with pendingActions := s.fman.pendingActions + 1 } } where
  added := by
    rw [← List.concat_eq_append]
    exact h.added.concat ha
  addedLt b hb := by
    cases List.mem_append.mp hb with
    | inl hb => exact h.addedLt b hb
    | inr hb => exact List.mem_singleton.mp hb ▸ hlt
  called := h.called
  calledAdded b hb := List.mem_append_left _ (h.calledAdded b hb)
  event := h.event
  pending := by
    have hpending := h.pending
    dsimp only
    rw [List.length_append, List.length_singleton]
    omega
  cleanup := h.cleanup

/-- Actions that are performed have been counted, and wait for their cleanup. -/
theorem Counts.perform {actions : List ActionId} (h : Counts s) (hf : FilesInv s.files) (hnodup : actions.Nodup)
    (hadded : ∀ a ∈ actions, a ∈ s.added) (hnot : ∀ a ∈ actions, a ∉ s.called) :
    Counts ({ s with fman := s.fman.vmwFencesPerformActions actions }.perform actions) := by
  have hk := hf.kept_seqPassed actions
  have hcalled : (s.called ++ actions).Nodup := h.called.append hnodup fun a ha hb => hnot a hb ha
  have hsub : ∀ a ∈ s.called ++ actions, a ∈ s.added := fun a ha =>
    (List.mem_append.mp ha).elim (h.calledAdded a) (hadded a)
  constructor
  case added => exact h.added
  case addedLt => exact fun a ha => Nat.lt_of_lt_of_le (h.addedLt a ha) hk.next
  case called => exact hcalled
  case calledAdded => exact hsub
  case event =>
    intro a ha
    cases List.mem_append.mp ha with
    | inl ha => exact hk.event a (h.addedLt a (h.calledAdded a ha)) (h.event a ha)
    | inr ha => exact hf.seqPassed_event (fun b hb => h.addedLt b (hadded b hb)) a ha
  case pending =>
    have hpending := h.pending
    have hle := (hcalled.subperm hsub).length_le
    rw [List.length_append] at hle
    show s.fman.pendingActions - actions.length + (s.called ++ actions).length = s.added.length
    rw [List.length_append]
    omega
  case cleanup =>
    intro a
    have hcleanup := h.cleanup a
    show (s.fman.cleanupList ++ actions).count a + s.worker.list.count a + s.cleaned.count a =
      (s.called ++ actions).count a
    rw [List.count_append, List.count_append]
    omega

theorem Attached.congr (h : Attached s) (hc : Counts s) (hk : FilesInv.Kept s.files s'.files)
    (hfence : s'.fman.fence = s.fman.fence) (hnext : s'.fman.nextFence = s.fman.nextFence)
    (hlist : s'.fman.fenceList.Sublist s.fman.fenceList) (hadded : ∀ a ∈ s.added, a ∈ s'.added)
    (hcalled : ∀ a ∈ s.added, a ∈ s'.called → a ∈ s.called) : Attached s' where
  list := hlist.nodup h.list
  lt := by
    rw [hnext]
    exact fun i hi => h.lt i (hlist.subset hi)
  nodup := by
    rw [hfence]
    exact h.nodup
  here i a ha := by
    rw [hfence] at ha
    obtain ⟨hi, ha, hnot⟩ := h.here i a ha
    exact ⟨(hk.fence a (hc.addedLt a ha)).trans hi, hadded a ha, fun hm => hnot (hcalled a ha hm)⟩

theorem Adders.congr (h : Adders s) (hadder : ∀ t, (s'.adder t).action = (s.adder t).action)
    (hnext : s'.files.nextAction = s.files.nextAction) (hadded : s'.added = s.added) : Adders s' where
  fresh t a ha := by
    rw [hnext, hadded]
    exact h.fresh t a (hadder t ▸ ha)
  unique t t' a ha ha' := h.unique t t' a (hadder t ▸ ha) (hadder t' ▸ ha')
  taken a ha := by
    rw [hadded]
    exact (h.taken a (hnext ▸ ha)).imp_right fun ⟨t, ht⟩ => ⟨t, (hadder t).trans ht⟩

theorem holders_congr (hk : FilesInv.Kept s.files s'.files) (hnext : s'.files.nextAction = s.files.nextAction)
    (hcleaned : s'.cleaned = s.cleaned) : holders s' = holders s := by
  funext i
  unfold holders
  rw [hnext]
  refine Finset.filter_congr fun a ha => ?_
  rw [hk.fence a (Finset.mem_range.mp ha), hcleaned]

theorem Refs.congr (h : Refs s) (hk : FilesInv.Kept s.files s'.files)
    (hnext : s'.files.nextAction = s.files.nextAction) (hcleaned : s'.cleaned = s.cleaned) (hkref : s'.kref = s.kref)
    (husers : s'.users = s.users) (hfences : s'.fman.nextFence = s.fman.nextFence) : Refs s' where
  kref i := by
    rw [hkref, husers, holders_congr hk hnext hcleaned]
    exact h.kref i
  users := by
    rw [husers, hfences]
    exact h.users
  fence a ha := by
    rw [hnext] at ha
    rw [hk.fence a ha, hfences]
    exact h.fence a ha

end Counts

section Steps

variable {s s' : State} {t : ThreadId}

/-- Only flags have changed, and where the worker keeps the actions to clean up. -/
structure Still (s s' : State) : Prop where
  files : s'.files = s.files
  adder : ∀ t, (s'.adder t).action = (s.adder t).action
  added : s'.added = s.added
  called : s'.called = s.called
  cleaned : s'.cleaned = s.cleaned
  kref : s'.kref = s.kref
  users : s'.users = s.users
  fence : s'.fman.fence = s.fman.fence
  next : s'.fman.nextFence = s.fman.nextFence
  list : s'.fman.fenceList.Sublist s.fman.fenceList
  pending : s'.fman.pendingActions = s.fman.pendingActions
  waiting : ∀ a, s'.fman.cleanupList.count a + s'.worker.list.count a =
    s.fman.cleanupList.count a + s.worker.list.count a

theorem ConsumeInv.still (h : ConsumeInv s) (e : Still s s') : ConsumeInv s' := by
  have hk : FilesInv.Kept s.files s'.files := by
    rw [e.files]
    exact .refl _
  have hnext : s'.files.nextAction = s.files.nextAction := congrArg Files.nextAction e.files
  constructor
  case files =>
    rw [e.files]
    exact h.files
  case counts => exact h.counts.congr hk e.added e.called e.cleaned e.pending e.waiting
  case attached =>
    exact h.attached.congr h.counts hk e.fence e.next e.list (fun _ ha => e.added ▸ ha) fun _ _ ha => e.called ▸ ha
  case adders => exact h.adders.congr e.adder hnext e.added
  case refs => exact h.refs.congr hk hnext e.cleaned e.kref e.users e.next

/-- Only the events of files have changed. -/
theorem ConsumeInv.setFiles {f : Files} (h : ConsumeInv s) (hf : FilesInv f) (hk : FilesInv.Kept s.files f)
    (hnext : f.nextAction = s.files.nextAction) : ConsumeInv { s with files := f } where
  files := hf
  counts := h.counts.congr hk rfl rfl rfl rfl fun _ => rfl
  attached := h.attached.congr h.counts hk rfl rfl (.refl _) (fun _ => id) fun _ _ => id
  adders := h.adders.congr (fun _ => rfl) hnext rfl
  refs := h.refs.congr hk hnext rfl rfl rfl rfl

theorem mem_performed {f : Fence.State} {seqno : Nat} {a : ActionId} (ha : a ∈ performed f seqno) :
    ∃ i ∈ f.due seqno, a ∈ (f.fence i).seqPassedActions :=
  List.mem_flatMap.mp ha

theorem performed_nodup (h : Attached s) (seqno : Nat) : (performed s.fman seqno).Nodup := by
  refine List.nodup_flatMap.mpr ⟨fun i _ => h.nodup i, ?_⟩
  have hdue : (s.fman.due seqno).Nodup := (List.takeWhile_sublist _).nodup h.list
  refine hdue.imp fun {i j} hne a hi hj => ?_
  exact hne ((h.here i a hi).1.symm.trans (h.here j a hj).1)

/-- An update performs the actions of the fences it signals. -/
theorem ConsumeInv.lock {seqno : Nat} {fman : Fence.State} (h : ConsumeInv s)
    (e : SameActions (s.fman.vmwFencesUpdateLocked seqno).2 fman) :
    ConsumeInv ({ s with fman := fman }.perform (performed s.fman seqno)) := by
  obtain ⟨hcleanup, hpending⟩ := vmwFencesUpdateLocked_performed h.attached.list seqno
  obtain ⟨hlist, hfence, hnext, -⟩ := vmwFencesUpdateLocked_frame h.attached.list seqno
  have hk := h.files.kept_seqPassed (performed s.fman seqno)
  have hsame : (s.files.seqPassed (performed s.fman seqno)).nextAction = s.files.nextAction :=
    seqPassed_next s.files _
  have hnodup := performed_nodup h.attached seqno
  have hadded : ∀ a ∈ performed s.fman seqno, a ∈ s.added := fun a ha => by
    obtain ⟨i, -, hi⟩ := mem_performed ha
    exact (h.attached.here i a hi).2.1
  have hnot : ∀ a ∈ performed s.fman seqno, a ∉ s.called := fun a ha => by
    obtain ⟨i, -, hi⟩ := mem_performed ha
    exact (h.attached.here i a hi).2.2
  constructor
  case files => exact h.files.seqPassed _
  case counts =>
    refine (h.counts.perform h.files hnodup hadded hnot).congr (.refl _) rfl rfl rfl (e.pending.trans hpending) fun a => ?_
    exact congrArg (fun l => List.count a l + s.worker.list.count a) (e.cleanup.trans hcleanup)
  case attached =>
    constructor
    case list =>
      show fman.fenceList.Nodup
      rw [e.list, hlist]
      exact (List.dropWhile_sublist _).nodup h.attached.list
    case lt =>
      show ∀ i ∈ fman.fenceList, i < fman.nextFence
      rw [e.list, hlist, e.next, hnext]
      exact fun i hi => h.attached.lt i (mem_of_mem_left hi)
    case nodup =>
      intro i
      show (fman.fence i).seqPassedActions.Nodup
      rw [e.fence, hfence]
      split
      · exact List.nodup_nil
      · exact h.attached.nodup i
    case here =>
      intro i a ha
      change a ∈ (fman.fence i).seqPassedActions at ha
      rw [e.fence, hfence] at ha
      split at ha
      · exact absurd ha List.not_mem_nil
      · rename_i hi
        obtain ⟨hfi, hadd, hcalled⟩ := h.attached.here i a ha
        refine ⟨(hk.fence a (h.counts.addedLt a hadd)).trans hfi, hadd, fun hm => ?_⟩
        cases List.mem_append.mp hm with
        | inl hm => exact hcalled hm
        | inr hm =>
          obtain ⟨j, hj, ha'⟩ := mem_performed hm
          exact hi ((h.attached.here j a ha').1.symm.trans hfi ▸ hj)
  case adders => exact h.adders.congr (fun _ => rfl) hsame rfl
  case refs => exact h.refs.congr hk hsame rfl rfl rfl (e.next.trans hnext)

/-- A new fence has one reference and no action. -/
theorem ConsumeInv.create {seqno : Nat} {fman : Fence.State} (h : ConsumeInv s)
    (e : SameActions (s.fman.vmwFenceObjInit seqno) fman) :
    ConsumeInv { s with
      fman := fman
      kref := Function.update s.kref s.fman.nextFence 1
      users := Function.update s.users s.fman.nextFence 1 } := by
  have hfence : ∀ i, (fman.fence i).seqPassedActions = if i = s.fman.nextFence then [] else (s.fman.fence i).seqPassedActions := by
    intro i
    rw [e.fence]
    by_cases hi : i = s.fman.nextFence
    · have hself : (s.fman.vmwFenceObjInit seqno).fence s.fman.nextFence = ⟨seqno, false, []⟩ :=
        Function.update_self ..
      rw [if_pos hi, hi, hself]
    · rw [if_neg hi]
      exact congrArg FenceObj.seqPassedActions (Function.update_of_ne hi ..)
  have hlist : fman.fenceList = s.fman.fenceList ++ [s.fman.nextFence] := e.list
  have hnext : fman.nextFence = s.fman.nextFence + 1 := e.next
  constructor
  case files => exact h.files
  case counts =>
    refine h.counts.congr (.refl _) rfl rfl rfl e.pending fun a => ?_
    exact congrArg (fun l => List.count a l + s.worker.list.count a) e.cleanup
  case attached =>
    constructor
    case list =>
      show fman.fenceList.Nodup
      rw [hlist, ← List.concat_eq_append]
      exact h.attached.list.concat fun hm => Nat.lt_irrefl _ (h.attached.lt _ hm)
    case lt =>
      intro i hi
      change i ∈ fman.fenceList at hi
      show i < fman.nextFence
      rw [hlist, List.mem_append, List.mem_singleton] at hi
      rw [hnext]
      cases hi with
      | inl hi => exact Nat.lt_succ_of_lt (h.attached.lt i hi)
      | inr hi => exact hi ▸ Nat.lt_succ_self _
    case nodup =>
      intro i
      show (fman.fence i).seqPassedActions.Nodup
      rw [hfence]
      split
      · exact List.nodup_nil
      · exact h.attached.nodup i
    case here =>
      intro i a ha
      change a ∈ (fman.fence i).seqPassedActions at ha
      rw [hfence] at ha
      split at ha
      · exact absurd ha List.not_mem_nil
      · exact h.attached.here i a ha
  case adders => exact h.adders.congr (fun _ => rfl) rfl rfl
  case refs =>
    constructor
    case kref =>
      intro i
      show Function.update s.kref s.fman.nextFence 1 i = Function.update s.users s.fman.nextFence 1 i + (holders s i).card
      by_cases hi : i = s.fman.nextFence
      · subst hi
        have hnone : holders s s.fman.nextFence = ∅ := by
          refine Finset.filter_eq_empty_iff.mpr fun a ha hm => ?_
          have hlt := h.refs.fence a (Finset.mem_range.mp ha)
          rw [hm.1] at hlt
          exact Nat.lt_irrefl _ hlt
        rw [Function.update_self, Function.update_self, hnone]
        rfl
      · rw [Function.update_of_ne hi, Function.update_of_ne hi]
        exact h.refs.kref i
    case users =>
      intro i hi
      show i < fman.nextFence
      rw [hnext]
      by_cases hn : i = s.fman.nextFence
      · exact hn ▸ Nat.lt_succ_self _
      · change 0 < Function.update s.users s.fman.nextFence 1 i at hi
        rw [Function.update_of_ne hn] at hi
        exact Nat.lt_succ_of_lt (h.refs.users i hi)
    case fence =>
      intro a ha
      show (s.files.eaction a).fence < fman.nextFence
      rw [hnext]
      exact Nat.lt_succ_of_lt (h.refs.fence a ha)

theorem vmwFenceObjUnreference_actions (s : State) (i : FenceId) :
    (s.vmwFenceObjUnreference i).fman.fence = s.fman.fence ∧
      (s.vmwFenceObjUnreference i).fman.nextFence = s.fman.nextFence ∧
      (s.vmwFenceObjUnreference i).fman.fenceList.Sublist s.fman.fenceList ∧
      (s.vmwFenceObjUnreference i).fman.cleanupList = s.fman.cleanupList ∧
      (s.vmwFenceObjUnreference i).fman.pendingActions = s.fman.pendingActions := by
  unfold State.vmwFenceObjUnreference
  dsimp only
  split
  · exact ⟨rfl, rfl, List.erase_sublist, rfl, rfl⟩
  · exact ⟨rfl, rfl, .refl _, rfl, rfl⟩

theorem ConsumeInv.get (h : ConsumeInv s) (i : FenceId) (hi : 0 < s.users i) :
    ConsumeInv { s.vmwFenceObjReference i with users := Function.update s.users i (s.users i + 1) } where
  files := h.files
  counts := h.counts.congr (.refl _) rfl rfl rfl rfl fun _ => rfl
  attached := h.attached.congr h.counts (.refl _) rfl rfl (.refl _) (fun _ => id) fun _ _ => id
  adders := h.adders.congr (fun _ => rfl) rfl rfl
  refs := by
    constructor
    case kref =>
      intro j
      show Function.update s.kref i (s.kref i + 1) j = Function.update s.users i (s.users i + 1) j + (holders s j).card
      by_cases hj : j = i
      · subst hj
        rw [Function.update_self, Function.update_self, h.refs.kref j, Nat.add_right_comm]
      · rw [Function.update_of_ne hj, Function.update_of_ne hj]
        exact h.refs.kref j
    case users =>
      intro j hj
      by_cases hji : j = i
      · exact hji ▸ h.refs.users i hi
      · change 0 < Function.update s.users i (s.users i + 1) j at hj
        exact h.refs.users j (by rwa [Function.update_of_ne hji] at hj)
    case fence => exact h.refs.fence

theorem ConsumeInv.put (h : ConsumeInv s) (i : FenceId) (hi : 0 < s.users i) :
    ConsumeInv { s.vmwFenceObjUnreference i with users := Function.update s.users i (s.users i - 1) } := by
  obtain ⟨hfence, hnext, hlist, hcleanup, hpending⟩ := vmwFenceObjUnreference_actions s i
  constructor
  case files => exact h.files
  case counts =>
    refine h.counts.congr (.refl _) rfl rfl rfl hpending fun a => ?_
    exact congrArg (fun l => List.count a l + s.worker.list.count a) hcleanup
  case attached => exact h.attached.congr h.counts (.refl _) hfence hnext hlist (fun _ => id) fun _ _ => id
  case adders => exact h.adders.congr (fun _ => rfl) rfl rfl
  case refs =>
    constructor
    case kref =>
      intro j
      show Function.update s.kref i (s.kref i - 1) j = Function.update s.users i (s.users i - 1) j + (holders s j).card
      by_cases hj : j = i
      · subst hj
        rw [Function.update_self, Function.update_self, h.refs.kref j]
        omega
      · rw [Function.update_of_ne hj, Function.update_of_ne hj]
        exact h.refs.kref j
    case users =>
      intro j hj
      show j < (s.vmwFenceObjUnreference i).fman.nextFence
      rw [hnext]
      by_cases hji : j = i
      · exact hji ▸ h.refs.users i hi
      · change 0 < Function.update s.users i (s.users i - 1) j at hj
        exact h.refs.users j (by rwa [Function.update_of_ne hji] at hj)
    case fence =>
      intro a ha
      show (s.files.eaction a).fence < (s.vmwFenceObjUnreference i).fman.nextFence
      rw [hnext]
      exact h.refs.fence a ha

/-- The worker cleans up an action, and drops its reference on the fence. -/
theorem ConsumeInv.clean {a : ActionId} {rest : List ActionId} (h : ConsumeInv s)
    (hw : s.worker = .cleaning (a :: rest)) :
    ConsumeInv { s.vmwEventFenceActionCleanup a with worker := .cleaning rest } := by
  have hcount := h.counts.cleanup a
  rw [hw, show (Worker.cleaning (a :: rest)).list = a :: rest from rfl, List.count_cons_self] at hcount
  have hcalled : a ∈ s.called := List.count_pos_iff.mp (by omega)
  have honce : s.called.count a ≤ 1 := List.nodup_iff_count_le_one.mp h.counts.called a
  have hnot : a ∉ s.cleaned := List.count_eq_zero.mp (by omega)
  have hlt := h.counts.addedLt a (h.counts.calledAdded a hcalled)
  have hdel : s.files.listDel a = s.files := h.files.listDel_eq (h.counts.event a hcalled)
  unfold State.vmwEventFenceActionCleanup
  rw [hdel]
  obtain ⟨hfence, hnext, hlist, hcleanup, hpending⟩ :=
    vmwFenceObjUnreference_actions { s with cleaned := s.cleaned ++ [a] } (s.files.eaction a).fence
  constructor
  case files => exact h.files
  case counts =>
    constructor
    case added => exact h.counts.added
    case addedLt => exact h.counts.addedLt
    case called => exact h.counts.called
    case calledAdded => exact h.counts.calledAdded
    case event => exact h.counts.event
    case pending => exact hpending ▸ h.counts.pending
    case cleanup =>
      intro b
      have hb := h.counts.cleanup b
      rw [hw, show (Worker.cleaning (a :: rest)).list = a :: rest from rfl, List.count_cons] at hb
      show List.count b (State.vmwFenceObjUnreference _ _).fman.cleanupList + rest.count b + (s.cleaned ++ [a]).count b =
        s.called.count b
      rw [hcleanup, List.count_append, List.count_singleton]
      dsimp only
      omega
  case attached => exact h.attached.congr h.counts (.refl _) hfence hnext hlist (fun _ => id) fun _ _ => id
  case adders => exact h.adders.congr (fun _ => rfl) rfl rfl
  case refs =>
    have hmem : a ∈ holders s (s.files.eaction a).fence :=
      Finset.mem_filter.mpr ⟨Finset.mem_range.mpr hlt, rfl, hnot⟩
    have hholders : ∀ i, (Finset.range s.files.nextAction).filter (fun b => (s.files.eaction b).fence = i ∧
        b ∉ s.cleaned ++ [a]) = (holders s i).erase a := by
      intro i
      ext b
      simp only [holders, Finset.mem_filter, Finset.mem_erase, List.mem_append, List.mem_singleton, not_or]
      exact ⟨fun hb => ⟨hb.2.2.2, hb.1, hb.2.1, hb.2.2.1⟩, fun hb => ⟨hb.2.1, hb.2.2.1, hb.2.2.2, hb.1⟩⟩
    constructor
    case kref =>
      intro i
      show Function.update s.kref (s.files.eaction a).fence (s.kref (s.files.eaction a).fence - 1) i =
        s.users i + ((Finset.range s.files.nextAction).filter (fun b => (s.files.eaction b).fence = i ∧
          b ∉ s.cleaned ++ [a])).card
      rw [hholders]
      by_cases hi : i = (s.files.eaction a).fence
      · subst hi
        have hpos := Finset.card_pos.mpr ⟨a, hmem⟩
        rw [Function.update_self, Finset.card_erase_of_mem hmem, h.refs.kref]
        omega
      · have hout : a ∉ holders s i := fun hm => hi (Finset.mem_filter.mp hm).2.1.symm
        rw [Function.update_of_ne hi, Finset.erase_eq_of_notMem hout]
        exact h.refs.kref i
    case users => exact fun i hi => hnext ▸ h.refs.users i hi
    case fence => exact fun b hb => hnext ▸ h.refs.fence b hb

/-- A new action is linked to its file, and refers to its fence. -/
theorem ConsumeInv.queue {i : FenceId} {file : FileId} (h : ConsumeInv s) (ha : s.adder t = .idle)
    (hi : 0 < s.users i) (hopen : s.files.file file = .opened) :
    ConsumeInv { (s.vmwFenceObjReference i).setAdder t (.queued s.files.nextAction) with
      files := s.files.queueEvent i file } := by
  have hk := FilesInv.kept_queueEvent s.files i file
  have hadder : ∀ t', t' ≠ t → Function.update s.adder t (.queued s.files.nextAction) t' = s.adder t' :=
    fun t' hne => Function.update_of_ne hne ..
  have hself : Function.update s.adder t (.queued s.files.nextAction) t = .queued s.files.nextAction :=
    Function.update_self ..
  have hnew : ∀ t', (s.adder t').action ≠ some s.files.nextAction := fun t' ht' =>
    Nat.lt_irrefl _ (h.adders.fresh t' _ ht').1
  constructor
  case files => exact h.files.queueEvent hopen i
  case counts => exact h.counts.congr hk rfl rfl rfl rfl fun _ => rfl
  case attached => exact h.attached.congr h.counts hk rfl rfl (.refl _) (fun _ => id) fun _ _ => id
  case adders =>
    constructor
    case fresh =>
      intro t' a ht'
      change (Function.update s.adder t (.queued s.files.nextAction) t').action = some a at ht'
      by_cases hne : t' = t
      · rw [hne, hself] at ht'
        injection ht' with ht'
        subst ht'
        exact ⟨Nat.lt_succ_self _, fun hm => Nat.lt_irrefl _ (h.counts.addedLt _ hm)⟩
      · rw [hadder t' hne] at ht'
        obtain ⟨hlt, hnot⟩ := h.adders.fresh t' a ht'
        exact ⟨Nat.lt_succ_of_lt hlt, hnot⟩
    case unique =>
      intro t₁ t₂ a h₁ h₂
      change (Function.update s.adder t (.queued s.files.nextAction) t₁).action = some a at h₁
      change (Function.update s.adder t (.queued s.files.nextAction) t₂).action = some a at h₂
      by_cases hne₁ : t₁ = t
      · by_cases hne₂ : t₂ = t
        · rw [hne₁, hne₂]
        · rw [hne₁, hself] at h₁
          rw [hadder t₂ hne₂, ← h₁] at h₂
          exact absurd h₂ (hnew t₂)
      · rw [hadder t₁ hne₁] at h₁
        by_cases hne₂ : t₂ = t
        · rw [hne₂, hself] at h₂
          rw [← h₂] at h₁
          exact absurd h₁ (hnew t₁)
        · rw [hadder t₂ hne₂] at h₂
          exact h.adders.unique t₁ t₂ a h₁ h₂
    case taken =>
      intro a hlt
      rcases Nat.lt_succ_iff_lt_or_eq.mp hlt with hlt | heq
      · refine (h.adders.taken a hlt).imp_right fun ⟨t', ht'⟩ => ⟨t', ?_⟩
        have hne : t' ≠ t := by
          rintro rfl
          rw [ha] at ht'
          cases ht'
        show (Function.update s.adder t (.queued s.files.nextAction) t').action = some a
        rw [hadder t' hne]
        exact ht'
      · refine .inr ⟨t, ?_⟩
        show (Function.update s.adder t (.queued s.files.nextAction) t).action = some a
        rw [hself, heq]
        rfl
  case refs =>
    have hlast : (s.files.queueEvent i file).eaction s.files.nextAction = ⟨true, i, file⟩ := Function.update_self ..
    have hcleaned : s.files.nextAction ∉ s.cleaned := by
      intro hm
      have hcount := h.counts.cleanup s.files.nextAction
      have hpos := List.count_pos_iff.mpr hm
      have hcalled : s.files.nextAction ∈ s.called := List.count_pos_iff.mp (by omega)
      exact Nat.lt_irrefl _ (h.counts.addedLt _ (h.counts.calledAdded _ hcalled))
    have hold : ∀ j, (Finset.range s.files.nextAction).filter (fun a =>
        ((s.files.queueEvent i file).eaction a).fence = j ∧ a ∉ s.cleaned) = holders s j := by
      intro j
      refine Finset.filter_congr fun a ha => ?_
      rw [hk.fence a (Finset.mem_range.mp ha)]
    have hcard : ∀ j, ((Finset.range (s.files.nextAction + 1)).filter (fun a =>
        ((s.files.queueEvent i file).eaction a).fence = j ∧ a ∉ s.cleaned)).card =
          (holders s j).card + if i = j then 1 else 0 := by
      intro j
      rw [Finset.range_add_one, Finset.filter_insert, hold, hlast]
      by_cases hj : i = j
      · rw [if_pos ⟨hj, hcleaned⟩, if_pos hj]
        exact Finset.card_insert_of_notMem fun hm =>
          Nat.lt_irrefl _ (Finset.mem_range.mp (Finset.mem_filter.mp hm).1)
      · rw [if_neg fun hc => hj hc.1, if_neg hj, Nat.add_zero]
    constructor
    case kref =>
      intro j
      show Function.update s.kref i (s.kref i + 1) j = s.users j + ((Finset.range (s.files.nextAction + 1)).filter
        (fun a => ((s.files.queueEvent i file).eaction a).fence = j ∧ a ∉ s.cleaned)).card
      rw [hcard]
      by_cases hj : j = i
      · subst hj
        rw [Function.update_self, if_pos rfl, h.refs.kref, Nat.add_assoc]
      · rw [Function.update_of_ne hj, if_neg (Ne.symm hj), Nat.add_zero]
        exact h.refs.kref j
    case users => exact h.refs.users
    case fence =>
      intro a hlt
      rcases Nat.lt_succ_iff_lt_or_eq.mp hlt with hlt | rfl
      · exact (hk.fence a hlt).symm ▸ h.refs.fence a hlt
      · show ((s.files.queueEvent i file).eaction s.files.nextAction).fence < s.fman.nextFence
        rw [hlast]
        exact h.refs.users i hi

theorem Adders.add {a : ActionId} {pc : Adder} (h : Adders s) (ha : (s.adder t).action = some a)
    (hpc : pc.action = none) (hadder : s'.adder = Function.update s.adder t pc)
    (hnext : s'.files.nextAction = s.files.nextAction) (hadded : s'.added = s.added ++ [a]) : Adders s' := by
  have hold : ∀ t' b, (s'.adder t').action = some b → t' ≠ t ∧ (s.adder t').action = some b := by
    intro t' b ht'
    rw [hadder] at ht'
    by_cases hne : t' = t
    · rw [hne, Function.update_self, hpc] at ht'
      cases ht'
    · rw [Function.update_of_ne hne] at ht'
      exact ⟨hne, ht'⟩
  constructor
  case fresh =>
    intro t' b ht'
    obtain ⟨hne, hb⟩ := hold t' b ht'
    obtain ⟨hlt, hnot⟩ := h.fresh t' b hb
    rw [hnext, hadded, List.mem_append, List.mem_singleton]
    refine ⟨hlt, fun hm => hm.elim hnot fun heq => ?_⟩
    exact hne (h.unique t' t b hb (heq ▸ ha))
  case unique => exact fun t₁ t₂ b h₁ h₂ => h.unique t₁ t₂ b (hold t₁ b h₁).2 (hold t₂ b h₂).2
  case taken =>
    intro b hb
    rw [hadded, List.mem_append, List.mem_singleton]
    rcases h.taken b (hnext ▸ hb) with hm | ⟨t', ht'⟩
    · exact .inl (.inl hm)
    · by_cases hne : t' = t
      · rw [hne, ha] at ht'
        injection ht' with ht'
        exact .inl (.inr ht'.symm)
      · refine .inr ⟨t', ?_⟩
        rw [hadder, Function.update_of_ne hne]
        exact ht'

/-- An action is added, and performed at once if its fence is signaled. -/
theorem ConsumeInv.addSpin {a : ActionId} (h : ConsumeInv s) (ha : s.adder t = .locked a) :
    ConsumeInv (s.addActionLocked t a) := by
  have haction : (s.adder t).action = some a := by rw [ha]; rfl
  obtain ⟨hlt, hnot⟩ := h.adders.fresh t a haction
  have hcalled : a ∉ s.called := fun hm => hnot (h.counts.calledAdded a hm)
  have hadd := h.counts.add hnot hlt
  have hmem : ∀ b ∈ s.added, b ∈ s.added ++ [a] := fun b hb => List.mem_append_left _ hb
  unfold State.addActionLocked
  dsimp only
  split
  · have hk := h.files.kept_seqPassed [a]
    have hnext := seqPassed_next s.files [a]
    constructor
    case files => exact h.files.seqPassed [a]
    case counts =>
      have hperform := hadd.perform h.files (List.nodup_singleton a)
        (fun b hb => List.mem_append_right _ hb) fun b hb => List.mem_singleton.mp hb ▸ hcalled
      exact hperform.congr (.refl _) rfl rfl rfl rfl fun _ => rfl
    case attached =>
      refine h.attached.congr h.counts hk rfl rfl (.refl _) hmem fun b hb hm => ?_
      cases List.mem_append.mp hm with
      | inl hm => exact hm
      | inr hm => exact absurd (List.mem_singleton.mp hm ▸ hb) hnot
    case adders => exact h.adders.add haction rfl rfl hnext rfl
    case refs => exact h.refs.congr hk hnext rfl rfl rfl rfl
  · generalize hi : (s.files.eaction a).fence = i
    have e := vmwFenceGoalCheckLocked_actions
      (Fence.State.attach { s.fman with pendingActions := s.fman.pendingActions + 1 } i a) i
    generalize Fence.State.vmwFenceGoalCheckLocked
      (Fence.State.attach { s.fman with pendingActions := s.fman.pendingActions + 1 } i a) i = checked at e
    have hpc : (if checked.1 = true then Adder.goal else .unlock).action = none := by split <;> rfl
    constructor
    case files => exact h.files
    case counts =>
      refine hadd.congr (.refl _) rfl rfl rfl e.pending fun b => ?_
      exact congrArg (fun l => List.count b l + s.worker.list.count b) e.cleanup
    case attached =>
      have hself : checked.2.fence i = { s.fman.fence i with
          seqPassedActions := (s.fman.fence i).seqPassedActions ++ [a] } := by
        rw [e.fence]
        exact Function.update_self ..
      have hother : ∀ j, j ≠ i → checked.2.fence j = s.fman.fence j := by
        intro j hj
        rw [e.fence]
        exact Function.update_of_ne hj ..
      have hhere : a ∉ (s.fman.fence i).seqPassedActions := fun hm => hnot (h.attached.here i a hm).2.1
      constructor
      case list =>
        show checked.2.fenceList.Nodup
        rw [e.list]
        exact h.attached.list
      case lt =>
        show ∀ j ∈ checked.2.fenceList, j < checked.2.nextFence
        rw [e.list, e.next]
        exact h.attached.lt
      case nodup =>
        intro j
        show (checked.2.fence j).seqPassedActions.Nodup
        by_cases hj : j = i
        · rw [hj, hself, ← List.concat_eq_append]
          exact (h.attached.nodup i).concat hhere
        · rw [hother j hj]
          exact h.attached.nodup j
      case here =>
        intro j b hb
        change b ∈ (checked.2.fence j).seqPassedActions at hb
        by_cases hj : j = i
        · rw [hj, hself] at hb
          cases List.mem_append.mp hb with
          | inl hb =>
            obtain ⟨hfence, hadded, hno⟩ := h.attached.here i b hb
            exact ⟨hfence.trans hj.symm, hmem b hadded, hno⟩
          | inr hb =>
            rw [List.mem_singleton] at hb
            subst hb
            exact ⟨hi.trans hj.symm, List.mem_append_right _ (List.mem_singleton_self _), hcalled⟩
        · rw [hother j hj] at hb
          obtain ⟨hfence, hadded, hno⟩ := h.attached.here j b hb
          exact ⟨hfence, hmem b hadded, hno⟩
    case adders => exact h.adders.add haction hpc rfl rfl rfl
    case refs => exact h.refs.congr (.refl _) rfl rfl rfl rfl e.next

/-- The step keeps the invariant, and what is settled about the events. -/
def Consumes (s s' : State) : Prop := ConsumeInv s' ∧ FilesInv.Kept s.files s'.files

theorem ConsumeInv.stay (h : ConsumeInv s) (e : Still s s') : Consumes s s' :=
  ⟨h.still e, by rw [e.files]; exact .refl _⟩

theorem ConsumeInv.fence {fman : Fence.State} (h : ConsumeInv s) (e : SameActions s.fman fman) :
    Consumes s { s with fman := fman } :=
  h.stay ⟨rfl, fun _ => rfl, rfl, rfl, rfl, rfl, rfl, e.fence, e.next, by rw [e.list], e.pending,
    fun a => congrArg (fun l => List.count a l + s.worker.list.count a) e.cleanup⟩

theorem fenceStep_consumes {act : Fence.Act} (h : ConsumeInv s) (hs : fenceStep s act = some s') : Consumes s s' := by
  have hc := fenceStep_cases hs
  have hstep := step_actions hc.fman hc.noAdd hc.noWork
  cases act with
  | emit t =>
    simp only [fenceStep] at hs
    split at hs
    · obtain ⟨fman, hf, rfl⟩ := Option.map_eq_some_iff.mp hs
      cases hstep with
      | emit _ e => exact h.fence e
    · cases hs
  | create t ok =>
    obtain ⟨fman, hf, rfl⟩ := Option.map_eq_some_iff.mp hs
    cases hstep with
    | create _ seqno e => exact ⟨h.create e, .refl _⟩
    | noObject _ e => exact h.fence e
  | addAction => cases hs
  | update t =>
    simp only [fenceStep] at hs
    split at hs
    · obtain ⟨fman, hf, rfl⟩ := Option.map_eq_some_iff.mp hs
      cases hstep with
      | update _ e => exact h.fence e
    · cases hs
  | read t =>
    obtain ⟨fman, hf, rfl⟩ := Option.map_eq_some_iff.mp hs
    cases hstep with
    | read _ e => exact h.fence e
  | lock t =>
    simp only [fenceStep] at hs
    split at hs
    · rename_i seqno mutex hpc
      obtain ⟨fman, hf, rfl⟩ := Option.map_eq_some_iff.mp hs
      cases hstep with
      | lock _ seqno' mutex' hpc' e =>
        rw [hpc] at hpc'
        cases hpc'
        exact ⟨h.lock e, h.files.kept_seqPassed _⟩
    · cases hs
  | reread t =>
    obtain ⟨fman, hf, rfl⟩ := Option.map_eq_some_iff.mp hs
    cases hstep with
    | reread _ e => exact h.fence e
  | work => cases hs
  | device seqno =>
    obtain ⟨fman, hf, rfl⟩ := Option.map_eq_some_iff.mp hs
    cases hstep with
    | device _ e => exact h.fence e

theorem setAdder_action {pc : Adder} (h : pc.action = (s.adder t).action) (t' : ThreadId) :
    (Function.update s.adder t pc t').action = (s.adder t').action := by
  by_cases hne : t' = t
  · rw [hne, Function.update_self, h]
  · rw [Function.update_of_ne hne]

theorem ConsumeInv.addGoal (h : ConsumeInv s) (ha : s.adder t = .goal) : Consumes s (s.addGoal t) := by
  have hnone : Adder.idle.action = (s.adder t).action := by
    rw [ha]
    rfl
  unfold State.addGoal
  dsimp only
  split
  · exact h.stay ⟨rfl, setAdder_action hnone, rfl, rfl, rfl, rfl, rfl, rfl, rfl, .refl _, rfl, fun _ => rfl⟩
  · exact h.stay ⟨rfl, setAdder_action hnone, rfl, rfl, rfl, rfl, rfl, rfl, rfl, .refl _, rfl, fun _ => rfl⟩

theorem ConsumeInv.workIrq {list : List ActionId} {seqnoValid : Bool} (h : ConsumeInv s)
    (hw : s.worker = .spliced list seqnoValid) : Consumes s (s.workIrq list seqnoValid) := by
  have hlist : (if list.isEmpty then Worker.idle else .cleaning list).list = list := by
    cases list with
    | nil => rfl
    | cons a list => rfl
  unfold State.workIrq
  dsimp only
  split
  all_goals
    refine h.stay ⟨rfl, fun _ => rfl, rfl, rfl, rfl, rfl, rfl, rfl, rfl, .refl _, rfl, fun a => ?_⟩
    dsimp only [State.setMutex, State.setGoalIrqOn, State.vmwGoalWaiterRemove]
    rw [hlist, hw]
    rfl

theorem step_consumes {act : Act} (h : ConsumeInv s) (hs : step s act = some s') : Consumes s s' := by
  cases act with
  | fence act => exact fenceStep_consumes h hs
  | get i =>
    simp only [step] at hs
    split at hs
    · rename_i hi
      cases hs
      exact ⟨h.get i hi, .refl _⟩
    · cases hs
  | put i =>
    simp only [step] at hs
    split at hs
    · rename_i hi
      cases hs
      exact ⟨h.put i hi, .refl _⟩
    · cases hs
  | queue t i file =>
    simp only [step] at hs
    split at hs
    · rename_i hguard
      cases hs
      exact ⟨h.queue hguard.2.1 hguard.2.2.1 hguard.2.2.2, FilesInv.kept_queueEvent s.files i file⟩
    · cases hs
  | addLock t =>
    simp only [step] at hs
    split at hs
    · rename_i a ha
      split at hs
      · cases hs
        have hsame : (Adder.locked a).action = (s.adder t).action := by
          rw [ha]
          rfl
        exact h.stay ⟨rfl, setAdder_action hsame, rfl, rfl, rfl, rfl, rfl, rfl, rfl, .refl _, rfl, fun _ => rfl⟩
      · cases hs
    · cases hs
  | addSpin t =>
    simp only [step] at hs
    split at hs
    · rename_i a ha
      cases hs
      refine ⟨h.addSpin ha, ?_⟩
      unfold State.addActionLocked
      dsimp only
      split
      · exact h.files.kept_seqPassed [a]
      · exact .refl _
    · cases hs
  | addGoal t =>
    simp only [step] at hs
    split at hs
    · rename_i ha
      cases hs
      exact h.addGoal ha
    · cases hs
  | addUnlock t =>
    simp only [step] at hs
    split at hs
    · rename_i ha
      cases hs
      have hsame : Adder.idle.action = (s.adder t).action := by
        rw [ha]
        rfl
      exact h.stay ⟨rfl, setAdder_action hsame, rfl, rfl, rfl, rfl, rfl, rfl, rfl, .refl _, rfl, fun _ => rfl⟩
    · cases hs
  | workStart =>
    simp only [step] at hs
    split at hs
    · rename_i hw
      cases hs
      refine h.stay ⟨rfl, fun _ => rfl, rfl, rfl, rfl, rfl, rfl, rfl, rfl, .refl _, rfl, fun a => ?_⟩
      rw [hw]
      rfl
    · cases hs
  | workLock =>
    simp only [step] at hs
    split at hs
    · rename_i hw
      split at hs
      · cases hs
        refine h.stay ⟨rfl, fun _ => rfl, rfl, rfl, rfl, rfl, rfl, rfl, rfl, .refl _, rfl, fun a => ?_⟩
        rw [hw]
        rfl
      · cases hs
    · cases hs
  | workSplice =>
    simp only [step] at hs
    split at hs
    · rename_i hw
      cases hs
      refine h.stay ⟨rfl, fun _ => rfl, rfl, rfl, rfl, rfl, rfl, rfl, rfl, .refl _, rfl, fun a => ?_⟩
      rw [hw]
      exact Nat.add_comm _ _
    · cases hs
  | workIrq =>
    simp only [step] at hs
    split at hs
    · rename_i hw
      cases hs
      exact h.workIrq hw
    · cases hs
  | workClean =>
    simp only [step] at hs
    split at hs
    · rename_i hw
      cases hs
      refine h.stay ⟨rfl, fun _ => rfl, rfl, rfl, rfl, rfl, rfl, rfl, rfl, .refl _, rfl, fun a => ?_⟩
      rw [hw]
      rfl
    · rename_i a rest hw
      cases hs
      have hclean := h.clean hw
      refine ⟨hclean, ?_⟩
      have hcalled : a ∈ s.called := by
        have hcount := h.counts.cleanup a
        rw [hw, show (Worker.cleaning (a :: rest)).list = a :: rest from rfl, List.count_cons_self] at hcount
        exact List.count_pos_iff.mp (by omega)
      show FilesInv.Kept s.files (s.files.listDel a)
      rw [h.files.listDel_eq (h.counts.event a hcalled)]
      exact .refl _
    · cases hs
  | close file =>
    simp only [step] at hs
    split at hs
    · rename_i hopen
      cases hs
      have hk := FilesInv.kept_close hopen
      exact ⟨h.setFiles (h.files.close hopen) hk rfl, hk⟩
    · cases hs
  | goneUnlink file =>
    simp only [step] at hs
    split at hs
    · rename_i hclosing
      cases hs
      have hk := h.files.kept_fprivUnlink hclosing
      refine ⟨h.setFiles (h.files.fprivUnlink hclosing) hk ?_, hk⟩
      unfold Files.fprivUnlink
      split <;> rfl
    · cases hs
  | goneDestroy file =>
    simp only [step] at hs
    split at hs
    · rename_i a hclosing
      cases hs
      have hk := h.files.kept_fprivDestroy hclosing
      exact ⟨h.setFiles (h.files.fprivDestroy hclosing) hk rfl, hk⟩
    · cases hs

end Steps

/-- Events are delivered or destroyed once, actions performed and cleaned up once, and
counts and references follow them. -/
structure EventsConsumed (s : State) : Prop where
  atMostOnce : ∀ a < s.files.nextAction, s.files.deliveries a + s.files.destructions a ≤ 1
  /-- An event that has left its action, and is not in the hands of its file, is consumed. -/
  once : ∀ a < s.files.nextAction, (s.files.eaction a).event = false → s.files.inClosing a = false →
    s.files.deliveries a + s.files.destructions a = 1
  own : ∀ a file, a ∈ s.files.eventList file → (s.files.eaction a).file = file
  called : ∀ a ∈ s.called, (s.files.eaction a).event = false
  gone : ∀ a < s.files.nextAction, s.files.file (s.files.eaction a).file = .gone →
    s.files.deliveries a + s.files.destructions a = 1
  calledOnce : s.called.Nodup
  /-- Every queued action is added, or a thread is still in `vmw_event_fence_action_queue`. -/
  added : ∀ a < s.files.nextAction, a ∈ s.added ∨ ∃ t, s.adder t = .queued a ∨ s.adder t = .locked a
  pending : s.fman.pendingActions = (s.added.filter (· ∉ s.called)).length
  cleanedOnce : s.cleaned.Nodup
  cleanedCalled : ∀ a ∈ s.cleaned, a ∈ s.called
  /-- The references on a fence are its users' and those of the actions not cleaned up. -/
  refs : ∀ i, s.kref i = s.users i + (holders s i).card

theorem Adder.action_eq_some {pc : Adder} {a : ActionId} (h : pc.action = some a) : pc = .queued a ∨ pc = .locked a := by
  cases pc with
  | queued b =>
    injection h with h
    exact .inl (congrArg Adder.queued h)
  | locked b =>
    injection h with h
    exact .inr (congrArg Adder.locked h)
  | idle => cases h
  | goal => cases h
  | unlock => cases h

theorem length_filter_not_mem {l m : List ActionId} (hl : l.Nodup) (hm : m.Nodup) (hsub : ∀ a ∈ m, a ∈ l) :
    (l.filter (· ∉ m)).length + m.length = l.length := by
  have hperm : (l.filter (· ∈ m)).Perm m := by
    refine (List.perm_ext_iff_of_nodup (hl.filter _) hm).mpr fun a => ?_
    rw [List.mem_filter, decide_eq_true_eq]
    exact ⟨And.right, fun ha => ⟨hsub a ha, ha⟩⟩
  have hsplit := List.length_eq_length_filter_add (l := l) fun a => decide (a ∈ m)
  have hnot : (l.filter fun a => !decide (a ∈ m)) = l.filter (· ∉ m) :=
    List.filter_congr fun a _ => decide_not.symm
  rw [hnot, hperm.length_eq] at hsplit
  omega

theorem ConsumeInv.consumed {s : State} (h : ConsumeInv s) : EventsConsumed s := by
  have hcount := h.counts.cleanup
  have hcalled : ∀ a, s.called.count a ≤ 1 := List.nodup_iff_count_le_one.mp h.counts.called
  have hsettled : ∀ a < s.files.nextAction, (s.files.eaction a).event = false → s.files.inClosing a = false →
      s.files.deliveries a + s.files.destructions a = 1 := by
    intro a ha hevent hclosing
    have honce := h.files.once a ha
    rw [hevent, hclosing] at honce
    simpa using honce
  constructor
  case atMostOnce =>
    intro a ha
    have honce := h.files.once a ha
    omega
  case once => exact hsettled
  case own => exact fun a file hm => (h.files.delivered a file hm).2
  case called => exact h.counts.event
  case gone =>
    intro a ha hgone
    have hempty := h.files.gone _ hgone
    refine hsettled a ha ?_ ?_
    · cases hevent : (s.files.eaction a).event with
      | false => rfl
      | true =>
        have hm := (h.files.listed a _).mpr ⟨hevent, rfl⟩
        rw [hempty] at hm
        cases hm
    · unfold Files.inClosing
      rw [hgone]
      rfl
  case calledOnce => exact h.counts.called
  case added =>
    exact fun a ha => (h.adders.taken a ha).imp_right fun ⟨t, ht⟩ => ⟨t, Adder.action_eq_some ht⟩
  case pending =>
    have hlength := length_filter_not_mem h.counts.added h.counts.called h.counts.calledAdded
    have hpending := h.counts.pending
    omega
  case cleanedOnce =>
    refine List.nodup_iff_count_le_one.mpr fun a => ?_
    have ha := hcount a
    have hle := hcalled a
    omega
  case cleanedCalled =>
    intro a ha
    have hpos := List.count_pos_iff.mpr ha
    have hsum := hcount a
    exact List.count_pos_iff.mp (by omega)
  case refs => exact h.refs.kref

theorem run_consumes {s s' : State} {acts : List Act} (hrun : Run step (fun _ _ => True) s acts s') (h : ConsumeInv s) :
    Consumes s s' := by
  apply hrun.invariant (I := Consumes s)
  · intro t act t' _ hs ht
    obtain ⟨hinv, hk⟩ := step_consumes ht.1 hs
    exact ⟨hinv, ht.2.trans hk⟩
  · exact ⟨h, .refl _⟩

end Events

end Vmwgfx.Fence
