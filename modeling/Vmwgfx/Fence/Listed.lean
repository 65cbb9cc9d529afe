import Mathlib.Data.List.Nodup
import Mathlib.Data.List.TakeWhile
import Vmwgfx.Fence.Defs

/-! What is on the fence list, and where the sequence numbers of a run lie. -/

namespace Vmwgfx.Fence

open Vmwgfx.Lib

/-- The list holds the fences that are not signaled, each of them once. -/
structure Listed (s : State) : Prop where
  nodup : s.fenceList.Nodup
  lt : ∀ i ∈ s.fenceList, i < s.nextFence
  unsignaled : ∀ i ∈ s.fenceList, (s.fence i).signaled = false
  signaled : ∀ i < s.nextFence, i ∉ s.fenceList → (s.fence i).signaled = true

theorem Listed.mem {s : State} (h : Listed s) {i : FenceId} (hi : i < s.nextFence)
    (hs : (s.fence i).signaled = false) : i ∈ s.fenceList := by
  by_contra hmem
  have := h.signaled i hi hmem
  rw [hs] at this
  cases this

theorem init_listed (n : Nat) : Listed (init n) where
  nodup := List.nodup_nil
  lt := by
    intro i hi
    cases hi
  unsignaled := by
    intro i hi
    cases hi
  signaled := by
    intro i hi
    cases hi

section Create

variable {s : State} {seqno : Nat}

theorem vmwFenceObjInit_fence_of_lt (seqno : Nat) {i : FenceId} (hi : i < s.nextFence) :
    (s.vmwFenceObjInit seqno).fence i = s.fence i :=
  Function.update_of_ne (Nat.ne_of_lt hi) _ _

theorem vmwFenceObjInit_fence_new :
    (s.vmwFenceObjInit seqno).fence s.nextFence = ⟨seqno, false, []⟩ :=
  Function.update_self _ _ _

theorem mem_vmwFenceObjInit {i : FenceId} :
    i ∈ (s.vmwFenceObjInit seqno).fenceList ↔ i ∈ s.fenceList ∨ i = s.nextFence := by
  change i ∈ s.fenceList ++ [s.nextFence] ↔ _
  rw [List.mem_append, List.mem_singleton]

theorem vmwFenceObjInit_listed (h : Listed s) : Listed (s.vmwFenceObjInit seqno) where
  nodup := by
    apply List.Nodup.append h.nodup (List.nodup_singleton _)
    intro i hi hnew
    rw [List.mem_singleton] at hnew
    exact Nat.lt_irrefl _ (hnew ▸ h.lt i hi)
  lt := by
    intro i hi
    cases mem_vmwFenceObjInit.mp hi with
    | inl hold => exact Nat.lt_succ_of_lt (h.lt i hold)
    | inr hnew => exact hnew ▸ Nat.lt_succ_self _
  unsignaled := by
    intro i hi
    cases mem_vmwFenceObjInit.mp hi with
    | inl hold =>
      rw [vmwFenceObjInit_fence_of_lt seqno (h.lt i hold)]
      exact h.unsignaled i hold
    | inr hnew => rw [hnew, vmwFenceObjInit_fence_new]
  signaled := by
    intro i hi hoff
    rw [mem_vmwFenceObjInit, not_or] at hoff
    have hlt : i < s.nextFence := Nat.lt_of_le_of_ne (Nat.le_of_lt_succ hi) hoff.2
    rw [vmwFenceObjInit_fence_of_lt seqno hlt]
    exact h.signaled i hlt hoff.1

end Create

section AddAction

variable {s : State} {t : ThreadId} {i : FenceId} {action : ActionId}

theorem attach_seqno (action : ActionId) (j : FenceId) : ((s.attach i action).fence j).seqno = (s.fence j).seqno := by
  unfold State.attach
  by_cases hj : j = i
  · rw [hj, State.setFence_fence_self]
  · rw [State.setFence_fence_of_ne s _ hj]

theorem attach_signaled (action : ActionId) (j : FenceId) :
    ((s.attach i action).fence j).signaled = (s.fence j).signaled := by
  unfold State.attach
  by_cases hj : j = i
  · rw [hj, State.setFence_fence_self]
  · rw [State.setFence_fence_of_ne s _ hj]

theorem attach_hasActions {j : FenceId} (h : (s.attach i action).hasActions j = true) :
    s.hasActions j = true ∨ j = i := by
  by_cases hj : j = i
  · exact .inr hj
  · apply Or.inl
    unfold State.hasActions State.attach at h
    rwa [State.setFence_fence_of_ne s _ hj] at h

/-- An action goes to the cleanup list, or to its fence; then the goal may be set to that
fence. -/
theorem vmwFenceObjAddAction_cases (s : State) (t : ThreadId) (i : FenceId) (action : ActionId) :
    ((s.fence i).signaled = true ∧ s.vmwFenceObjAddAction t i action =
      { s with pendingActions := s.pendingActions, cleanupList := s.cleanupList ++ [action] }) ∨
    ((s.fence i).signaled = false ∧
      (s.seqnoValid = true ∧ seqnoPassed s.goal (s.fence i).seqno = true) ∧
      s.vmwFenceObjAddAction t i action =
        { s.attach i action with pendingActions := s.pendingActions + 1 }) ∨
    ((s.fence i).signaled = false ∧
      ¬ (s.seqnoValid = true ∧ seqnoPassed s.goal (s.fence i).seqno = true) ∧
      s.vmwFenceObjAddAction t i action =
        { s.attach i action with
          pendingActions := s.pendingActions + 1
          goal := (s.fence i).seqno
          seqnoValid := true
          goalIrqOn := true
          goalIrqMutex := true
          pc := Function.update s.pc t (.update true) }) := by
  cases hs : (s.fence i).signaled with
  | true =>
    apply Or.inl
    simp [State.vmwFenceObjAddAction, hs, State.vmwFencesPerformActions]
  | false =>
    apply Or.inr
    have hs' : (({ s with pendingActions := s.pendingActions + 1 } : State).attach i
        action).vmwFenceGoalCheckLocked i =
        if s.seqnoValid && seqnoPassed s.goal (s.fence i).seqno then
          (false, { s.attach i action with pendingActions := s.pendingActions + 1 })
        else (true, { s.attach i action with
          pendingActions := s.pendingActions + 1, goal := (s.fence i).seqno,
          seqnoValid := true }) := by
      unfold State.vmwFenceGoalCheckLocked
      simp only [attach_seqno, attach_signaled, hs]
      rfl
    unfold State.vmwFenceObjAddAction
    simp only [hs, Bool.false_eq_true, if_false, hs']
    cases hg : s.seqnoValid && seqnoPassed s.goal (s.fence i).seqno with
    | true => exact .inl ⟨trivial, Bool.and_eq_true_iff.mp hg, rfl⟩
    | false =>
      apply Or.inr
      refine ⟨trivial, ?_, rfl⟩
      rw [← Bool.and_eq_true, hg]
      exact Bool.false_ne_true

/-- Nothing about sequence numbers, flags and the list changes but the goal. -/
theorem vmwFenceObjAddAction_frame (t : ThreadId) (i : FenceId) (action : ActionId) :
    (s.vmwFenceObjAddAction t i action).fenceList = s.fenceList ∧
      (s.vmwFenceObjAddAction t i action).nextFence = s.nextFence ∧
      (s.vmwFenceObjAddAction t i action).passed = s.passed ∧
      (s.vmwFenceObjAddAction t i action).markerSeq = s.markerSeq ∧
      ∀ j, ((s.vmwFenceObjAddAction t i action).fence j).seqno = (s.fence j).seqno ∧
        ((s.vmwFenceObjAddAction t i action).fence j).signaled = (s.fence j).signaled := by
  cases vmwFenceObjAddAction_cases s t i action with
  | inl h =>
    rw [h.2]
    exact ⟨rfl, rfl, rfl, rfl, fun _ => ⟨rfl, rfl⟩⟩
  | inr h =>
    cases h with
    | inl h =>
      rw [h.2.2]
      exact ⟨rfl, rfl, rfl, rfl, fun j => ⟨attach_seqno action j, attach_signaled action j⟩⟩
    | inr h =>
      rw [h.2.2]
      exact ⟨rfl, rfl, rfl, rfl, fun j => ⟨attach_seqno action j, attach_signaled action j⟩⟩

theorem vmwFenceObjAddAction_listed (h : Listed s) :
    Listed (s.vmwFenceObjAddAction t i action) := by
  obtain ⟨hlist, hnext, _, _, hfence⟩ := vmwFenceObjAddAction_frame (s := s) t i action
  constructor
  case nodup => exact hlist ▸ h.nodup
  case lt => exact hlist ▸ hnext ▸ h.lt
  case unsignaled =>
    intro j hj
    rw [(hfence j).2]
    exact h.unsignaled j (hlist ▸ hj)
  case signaled =>
    intro j hj hoff
    rw [(hfence j).2]
    exact h.signaled j (hnext ▸ hj) (hlist ▸ hoff)

end AddAction

section Update

variable {s : State} {seqno : Nat}

theorem due_append_left (s : State) (seqno : Nat) : s.due seqno ++ s.left seqno = s.fenceList :=
  List.takeWhile_append_dropWhile

theorem mem_of_mem_left {i : FenceId} (hi : i ∈ s.left seqno) : i ∈ s.fenceList :=
  (List.dropWhile_suffix _).subset hi

theorem left_nodup (h : Listed s) : (s.left seqno).Nodup :=
  (List.dropWhile_sublist _).nodup h.nodup

theorem not_mem_due_of_mem_left (h : Listed s) {i : FenceId} (hi : i ∈ s.left seqno) :
    i ∉ s.due seqno := by
  intro hdue
  have hnodup := h.nodup
  rw [← due_append_left s seqno] at hnodup
  exact (List.disjoint_of_nodup_append hnodup) hdue hi

theorem mem_due {i : FenceId} (hi : i ∈ s.due seqno) :
    seqnoPassed seqno (s.fence i).seqno = true :=
  List.mem_takeWhile_imp (p := fun i => seqnoPassed seqno (s.fence i).seqno) hi

/-- What the new goal search changes. -/
theorem vmwFenceGoalNewLocked_cases (s : State) (seqno : Nat) :
    (¬ (s.seqnoValid = true ∧ seqnoPassed seqno s.goal = true) ∧
      s.vmwFenceGoalNewLocked seqno = (false, s)) ∨
    ((s.seqnoValid = true ∧ seqnoPassed seqno s.goal = true) ∧
      ((s.fenceList.find? s.hasActions = none ∧
        s.vmwFenceGoalNewLocked seqno = (true, { s with seqnoValid := false })) ∨
      ∃ i, s.fenceList.find? s.hasActions = some i ∧
        s.vmwFenceGoalNewLocked seqno =
          (true, { s with seqnoValid := true, goal := (s.fence i).seqno }))) := by
  unfold State.vmwFenceGoalNewLocked
  cases hv : s.seqnoValid with
  | false => simp
  | true =>
    cases hp : seqnoPassed seqno s.goal with
    | false =>
      apply Or.inl
      have : sub32 seqno s.goal ≥ vmwFenceWrap := by
        rw [seqnoPassed, decide_eq_false_iff_not] at hp
        exact Nat.le_of_not_lt hp
      simp [this]
    | true =>
      apply Or.inr
      have : ¬ sub32 seqno s.goal ≥ vmwFenceWrap :=
        Nat.not_le_of_lt (of_decide_eq_true hp)
      simp only [this, Bool.not_true, Bool.false_eq_true, if_false, and_self, true_and]
      cases hfind : s.fenceList.find? s.hasActions with
      | none => exact .inl ⟨rfl, rfl⟩
      | some i => exact .inr ⟨i, rfl, rfl⟩

/-- The state after an update, up to the goal. -/
theorem vmwFencesUpdateLocked_frame (h : s.fenceList.Nodup) (seqno : Nat) :
    (s.vmwFencesUpdateLocked seqno).2.fenceList = s.left seqno ∧
      (∀ i, (s.vmwFencesUpdateLocked seqno).2.fence i =
        if i ∈ s.due seqno then ⟨(s.fence i).seqno, true, []⟩ else s.fence i) ∧
      (s.vmwFencesUpdateLocked seqno).2.nextFence = s.nextFence ∧
      (s.vmwFencesUpdateLocked seqno).2.passed = s.passed ∧
      (s.vmwFencesUpdateLocked seqno).2.markerSeq = s.markerSeq ∧
      (s.vmwFencesUpdateLocked seqno).2.pc = s.pc := by
  obtain ⟨hlist, hfence⟩ := signalPassed_spec (s := s) seqno rfl h
  obtain ⟨hnext, _, _, _, _, hpassed, hmarker, hpc⟩ :=
    signalPassed_frame seqno s.fenceList s
  unfold State.vmwFencesUpdateLocked
  cases vmwFenceGoalNewLocked_cases (State.signalPassed seqno s.fenceList s) seqno with
  | inl hold =>
    rw [hold.2]
    exact ⟨hlist, hfence, hnext, hpassed, hmarker, hpc⟩
  | inr hnew =>
    cases hnew.2 with
    | inl hnone =>
      rw [hnone.2]
      exact ⟨hlist, hfence, hnext, hpassed, hmarker, hpc⟩
    | inr hsome =>
      obtain ⟨i, -, hi⟩ := hsome
      rw [hi]
      exact ⟨hlist, hfence, hnext, hpassed, hmarker, hpc⟩

theorem vmwFencesUpdateLocked_seqno (h : Listed s) (i : FenceId) :
    ((s.vmwFencesUpdateLocked seqno).2.fence i).seqno = (s.fence i).seqno := by
  rw [(vmwFencesUpdateLocked_frame h.nodup seqno).2.1 i]
  split
  · rfl
  · rfl

theorem vmwFencesUpdateLocked_listed (h : Listed s) :
    Listed (s.vmwFencesUpdateLocked seqno).2 := by
  obtain ⟨hlist, hfence, hnext, _⟩ := vmwFencesUpdateLocked_frame h.nodup seqno
  constructor
  case nodup => exact hlist ▸ left_nodup h
  case lt =>
    intro i hi
    rw [hnext]
    exact h.lt i (mem_of_mem_left (hlist ▸ hi))
  case unsignaled =>
    intro i hi
    rw [hlist] at hi
    rw [hfence, if_neg (not_mem_due_of_mem_left h hi)]
    exact h.unsignaled i (mem_of_mem_left hi)
  case signaled =>
    intro i hi hoff
    rw [hfence]
    split
    · rfl
    · rename_i hdue
      apply h.signaled i (hnext ▸ hi)
      rw [← due_append_left s seqno, List.mem_append, not_or]
      exact ⟨hdue, hlist ▸ hoff⟩

end Update

theorem step_listed {s s' : State} {a : Act} (hs : step s a = some s') (h : Listed s) :
    Listed s' := by
  cases a with
  | emit t =>
    simp only [step] at hs
    split at hs
    · cases hs
      exact { h with }
    · cases hs
  | create t ok =>
    simp only [step] at hs
    split at hs
    · cases hs
      split
      · exact { vmwFenceObjInit_listed h with }
      · exact { h with }
    · cases hs
  | addAction t i action =>
    simp only [step] at hs
    split at hs
    · cases hs
      exact vmwFenceObjAddAction_listed h
    · cases hs
  | update t =>
    simp only [step] at hs
    split at hs
    · cases hs
      exact { h with }
    · cases hs
  | read t =>
    simp only [step] at hs
    split at hs
    · cases hs
      exact { h with }
    · cases hs
  | lock t =>
    simp only [step] at hs
    split at hs
    · cases hs
      split
      · exact { vmwFencesUpdateLocked_listed h with }
      · exact { vmwFencesUpdateLocked_listed h with }
    · cases hs
  | reread t =>
    simp only [step] at hs
    split at hs
    · cases hs
      split
      · exact { h with }
      · exact { h with }
    · cases hs
  | work =>
    simp only [step] at hs
    split at hs
    · cases hs
      exact { h with }
    · cases hs
  | device seqno =>
    simp only [step] at hs
    split at hs
    · cases hs
      exact { h with }
    · cases hs

section Bounded

def Pc.Bounded (n passed markerSeq : Nat) : Pc → Prop
  | .emitted seqno => n ≤ seqno ∧ seqno ≤ markerSeq
  | .lock seqno _ => n ≤ seqno ∧ seqno ≤ passed
  | .rerun seqno _ => n ≤ seqno ∧ seqno ≤ passed
  | _ => True

/-- Everything in play lies between what the device had passed at the start and the last
number drawn; what a thread has read is no later than what the device has passed. -/
structure Bounded (n : Nat) (s : State) : Prop where
  le_passed : n ≤ s.passed
  passed_le : s.passed ≤ s.markerSeq
  fence : ∀ i < s.nextFence, n ≤ (s.fence i).seqno ∧ (s.fence i).seqno ≤ s.markerSeq
  goal : s.seqnoValid = true → n ≤ s.goal ∧ s.goal ≤ s.markerSeq
  pc : ∀ t, (s.pc t).Bounded n s.passed s.markerSeq

variable {n : Nat} {s s' : State}

theorem Pc.Bounded.mono {passed passed' m m' : Nat} (hp : passed ≤ passed') (hm : m ≤ m')
    {pc : Pc} (h : pc.Bounded n passed m) : pc.Bounded n passed' m' := by
  cases pc with
  | emitted seqno => exact ⟨h.1, Nat.le_trans h.2 hm⟩
  | lock seqno mutex => exact ⟨h.1, Nat.le_trans h.2 hp⟩
  | rerun seqno mutex => exact ⟨h.1, Nat.le_trans h.2 hp⟩
  | idle => trivial
  | update mutex => trivial

theorem forall_setPc {P : Pc → Prop} {t : ThreadId} (pc : Pc) (h : ∀ t, P (s.pc t)) (hpc : P pc) :
    ∀ t', P ((s.setPc t pc).pc t') := by
  intro t'
  by_cases ht : t' = t
  · rwa [ht, State.setPc_pc_self]
  · rw [State.setPc_pc_of_ne s pc ht]
    exact h t'

theorem init_bounded (n : Nat) : Bounded n (init n) where
  le_passed := Nat.le_refl _
  passed_le := Nat.le_refl _
  fence := by
    intro i hi
    cases hi
  goal := by
    intro hv
    cases hv
  pc := fun _ => trivial

theorem Bounded.live (h : Bounded n s) (hl : Listed s) {a : Nat} (ha : Live s a) :
    n ≤ a ∧ a ≤ s.markerSeq := by
  cases ha with
  | passed => exact ⟨h.le_passed, h.passed_le⟩
  | marker => exact ⟨Nat.le_trans h.le_passed h.passed_le, Nat.le_refl _⟩
  | listed hi => exact h.fence _ (hl.lt _ hi)
  | goal hv => exact h.goal hv
  | @emitted t _ ht =>
    have := h.pc t
    rw [ht] at this
    exact this
  | @lock t _ _ ht =>
    have := h.pc t
    rw [ht] at this
    exact ⟨this.1, Nat.le_trans this.2 h.passed_le⟩
  | @rerun t _ _ ht =>
    have := h.pc t
    rw [ht] at this
    exact ⟨this.1, Nat.le_trans this.2 h.passed_le⟩

theorem Bounded.window (h : Bounded n s) (hl : Listed s) (hm : s.markerSeq < n + 2 ^ 31) :
    Window s := by
  intro a b ha hb
  have hale := (h.live hl ha).2
  have hble := (h.live hl hb).1
  omega

theorem lt_nextSeqno (s : State) : s.markerSeq < s.nextSeqno := by
  unfold State.nextSeqno
  split
  · omega
  · omega

theorem vmwFencesUpdateLocked_goal (s : State) (seqno : Nat) :
    (s.vmwFencesUpdateLocked seqno).2.seqnoValid = false ∨
      ((s.vmwFencesUpdateLocked seqno).2.seqnoValid = s.seqnoValid ∧
        (s.vmwFencesUpdateLocked seqno).2.goal = s.goal) ∨
      ∃ i ∈ (State.signalPassed seqno s.fenceList s).fenceList,
        (s.vmwFencesUpdateLocked seqno).2.goal =
          ((State.signalPassed seqno s.fenceList s).fence i).seqno := by
  obtain ⟨_, hgoal, hvalid, _⟩ := signalPassed_frame seqno s.fenceList s
  unfold State.vmwFencesUpdateLocked
  cases vmwFenceGoalNewLocked_cases (State.signalPassed seqno s.fenceList s) seqno with
  | inl hold =>
    rw [hold.2]
    exact .inr (.inl ⟨hvalid, hgoal⟩)
  | inr hnew =>
    cases hnew.2 with
    | inl hnone =>
      rw [hnone.2]
      exact .inl rfl
    | inr hsome =>
      obtain ⟨i, hfind, hi⟩ := hsome
      rw [hi]
      exact .inr (.inr ⟨i, List.mem_of_find?_eq_some hfind, rfl⟩)

theorem vmwFencesUpdateLocked_bounded (h : Bounded n s) (hl : Listed s) (seqno : Nat) :
    Bounded n (s.vmwFencesUpdateLocked seqno).2 := by
  obtain ⟨hlist, hfence, hnext, hpassed, hmarker, hpc⟩ := vmwFencesUpdateLocked_frame hl.nodup seqno
  constructor
  case le_passed => exact hpassed ▸ h.le_passed
  case passed_le => exact hpassed ▸ hmarker ▸ h.passed_le
  case fence =>
    intro i hi
    rw [vmwFencesUpdateLocked_seqno hl, hmarker]
    exact h.fence i (hnext ▸ hi)
  case goal =>
    intro hv
    rw [hmarker]
    cases vmwFencesUpdateLocked_goal s seqno with
    | inl hinvalid =>
      rw [hinvalid] at hv
      cases hv
    | inr hrest =>
      cases hrest with
      | inl hsame =>
        rw [hsame.2]
        exact h.goal (hsame.1 ▸ hv)
      | inr hnew =>
        obtain ⟨i, hi, hgoal⟩ := hnew
        obtain ⟨hlist', hfence'⟩ := signalPassed_spec (s := s) seqno rfl hl.nodup
        rw [hlist'] at hi
        rw [hgoal, hfence' i, if_neg (not_mem_due_of_mem_left hl hi)]
        exact h.fence i (hl.lt i (mem_of_mem_left hi))
  case pc =>
    rw [hpc, hpassed, hmarker]
    exact h.pc

theorem vmwFenceObjAddAction_bounded {t : ThreadId} {i : FenceId} {action : ActionId}
    (h : Bounded n s) (hi : i < s.nextFence) :
    Bounded n (s.vmwFenceObjAddAction t i action) := by
  have hattach : ∀ j < s.nextFence,
      n ≤ ((s.attach i action).fence j).seqno ∧
        ((s.attach i action).fence j).seqno ≤ s.markerSeq := by
    intro j hj
    rw [attach_seqno]
    exact h.fence j hj
  cases vmwFenceObjAddAction_cases s t i action with
  | inl hold =>
    rw [hold.2]
    exact { h with }
  | inr hnew =>
    cases hnew with
    | inl hold =>
      rw [hold.2.2]
      exact ⟨h.le_passed, h.passed_le, hattach, h.goal, h.pc⟩
    | inr hgoal =>
      rw [hgoal.2.2]
      have hpc := forall_setPc (t := t) (.update true) h.pc trivial
      exact ⟨h.le_passed, h.passed_le, hattach, fun _ => h.fence i hi, hpc⟩

theorem step_bounded {a : Act} (hs : step s a = some s') (hl : Listed s) (h : Bounded n s) :
    Bounded n s' := by
  cases a with
  | emit t =>
    simp only [step] at hs
    split at hs
    · cases hs
      have hlt := lt_nextSeqno s
      have hle := Nat.le_trans h.le_passed h.passed_le
      have hpc := forall_setPc (t := t) (.emitted s.nextSeqno)
        (fun t => (h.pc t).mono (Nat.le_refl _) hlt.le) ⟨by omega, Nat.le_refl _⟩
      refine ⟨h.le_passed, Nat.le_trans h.passed_le hlt.le, ?_, ?_, hpc⟩
      · intro i hi
        exact ⟨(h.fence i hi).1, Nat.le_trans (h.fence i hi).2 hlt.le⟩
      · intro hv
        exact ⟨(h.goal hv).1, Nat.le_trans (h.goal hv).2 hlt.le⟩
    · cases hs
  | create t ok =>
    simp only [step] at hs
    split at hs
    · rename_i seqno ht
      cases hs
      have hidle := forall_setPc (t := t) .idle h.pc trivial
      have hseqno := h.pc t
      rw [ht] at hseqno
      split
      · refine ⟨h.le_passed, h.passed_le, ?_, h.goal, hidle⟩
        intro i hi
        cases Nat.lt_succ_iff_lt_or_eq.mp hi with
        | inl hlt =>
          change n ≤ ((s.vmwFenceObjInit seqno).fence i).seqno ∧
            ((s.vmwFenceObjInit seqno).fence i).seqno ≤ s.markerSeq
          rw [vmwFenceObjInit_fence_of_lt seqno hlt]
          exact h.fence i hlt
        | inr hnew =>
          rw [hnew]
          change n ≤ ((s.vmwFenceObjInit seqno).fence s.nextFence).seqno ∧
            ((s.vmwFenceObjInit seqno).fence s.nextFence).seqno ≤ s.markerSeq
          rw [vmwFenceObjInit_fence_new]
          exact hseqno
      · exact ⟨h.le_passed, h.passed_le, h.fence, h.goal, hidle⟩
    · cases hs
  | addAction t i action =>
    simp only [step] at hs
    split at hs
    · rename_i hok
      cases hs
      exact vmwFenceObjAddAction_bounded h hok.2.2
    · cases hs
  | update t =>
    simp only [step] at hs
    split at hs
    · cases hs
      exact { h with pc := forall_setPc (.update false) h.pc trivial }
    · cases hs
  | read t =>
    simp only [step] at hs
    split at hs
    · cases hs
      exact { h with pc := forall_setPc (.lock _ _) h.pc ⟨h.le_passed, Nat.le_refl _⟩ }
    · cases hs
  | lock t =>
    simp only [step] at hs
    split at hs
    · rename_i seqno mutex ht
      cases hs
      have hseqno := h.pc t
      have hnew := vmwFencesUpdateLocked_bounded h hl seqno
      obtain ⟨_, _, _, hpassed, _⟩ := vmwFencesUpdateLocked_frame hl.nodup seqno
      rw [ht] at hseqno
      split
      · exact { hnew with pc := forall_setPc (.rerun _ _) hnew.pc (hpassed ▸ hseqno) }
      · exact { hnew with pc := forall_setPc .idle hnew.pc trivial }
    · cases hs
  | reread t =>
    simp only [step] at hs
    split at hs
    · cases hs
      split
      · exact { h with pc := forall_setPc (.lock _ _) h.pc ⟨h.le_passed, Nat.le_refl _⟩ }
      · exact { h with pc := forall_setPc .idle h.pc trivial }
    · cases hs
  | work =>
    simp only [step] at hs
    split at hs
    · cases hs
      exact { h with }
    · cases hs
  | device seqno =>
    simp only [step] at hs
    split at hs
    · rename_i hok
      cases hs
      have hpc := fun t => (h.pc t).mono hok.1.le (Nat.le_refl s.markerSeq)
      exact ⟨Nat.le_trans h.le_passed hok.1.le, hok.2, h.fence, h.goal, hpc⟩
    · cases hs

end Bounded

end Vmwgfx.Fence
