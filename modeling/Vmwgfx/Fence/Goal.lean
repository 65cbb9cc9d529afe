import Vmwgfx.Fence.Listed

/-! The fence goal: the sequence number at which the device raises the FENCE_GOAL
interrupt, against the first fence that has an action attached. -/

namespace Vmwgfx.Fence

open Vmwgfx.Lib

/-- An unsignaled fence on the list with an action attached. -/
def Pending (s : State) (i : FenceId) : Prop :=
  i ∈ s.fenceList ∧ (s.fence i).signaled = false ∧ s.hasActions i = true

/-- The goal is set, and no later than any pending fence. -/
def GoalCovers (s : State) : Prop :=
  ∀ i, Pending s i → s.seqnoValid = true ∧ s.goal ≤ (s.fence i).seqno

/-- The fence an action is added to. -/
def AddKept (s : State) (i : FenceId) : Prop :=
  (s.fence i).signaled = true ∨ s.seqnoValid = false ∨ (s.fence i).seqno = s.goal ∨
    (s.goal < (s.fence i).seqno ∧
      ∀ j ∈ s.fenceList, s.hasActions j = true → (s.fence i).seqno ≤ (s.fence j).seqno)

/-- Where an update moves the goal, the first fence it finds is the earliest. -/
def SearchKept (s : State) (seqno : Nat) : Prop :=
  s.seqnoValid = true → seqnoPassed seqno s.goal = true →
    ∀ i ∈ (s.left seqno).find? s.hasActions, ∀ j ∈ s.left seqno, s.hasActions j = true →
      (s.fence i).seqno ≤ (s.fence j).seqno

/-- The condition on a step. -/
def GoalKept (s : State) : Act → Prop
  | .addAction _ i _ => AddKept s i
  | .lock t =>
    match s.pc t with
    | .lock seqno _ => SearchKept s seqno
    | _ => True
  | _ => True

theorem GoalCovers.congr {s s' : State} (hpending : ∀ i, Pending s' i → Pending s i)
    (hseqno : ∀ i, (s'.fence i).seqno = (s.fence i).seqno) (hvalid : s'.seqnoValid = s.seqnoValid)
    (hgoal : s'.goal = s.goal) (h : GoalCovers s) : GoalCovers s' := by
  intro i hi
  rw [hseqno, hvalid, hgoal]
  exact h i (hpending i hi)

theorem init_goalCovers (n : Nat) : GoalCovers (init n) := by
  intro i hi
  cases hi.1

theorem vmwFenceObjInit_goalCovers {s : State} {seqno : Nat} (hl : Listed s) (h : GoalCovers s) :
    GoalCovers (s.vmwFenceObjInit seqno) := by
  intro i hi
  cases mem_vmwFenceObjInit.mp hi.1 with
  | inl hold =>
    have hfence := vmwFenceObjInit_fence_of_lt seqno (hl.lt i hold)
    have hactions := hi.2.2
    rw [State.hasActions, hfence] at hactions
    rw [hfence]
    exact h i ⟨hold, hl.unsignaled i hold, hactions⟩
  | inr hnew =>
    -- a new fence has no actions
    have hactions := hi.2.2
    rw [hnew, State.hasActions, vmwFenceObjInit_fence_new] at hactions
    cases hactions

section AddAction

variable {s : State} {t : ThreadId} {i : FenceId} {action : ActionId}

theorem attach_pending {j : FenceId} (hj : Pending (s.attach i action) j) :
    Pending s j ∨ (j = i ∧ j ∈ s.fenceList) := by
  cases attach_hasActions hj.2.2 with
  | inl hold => exact .inl ⟨hj.1, attach_signaled action j ▸ hj.2.1, hold⟩
  | inr hnew => exact .inr ⟨hnew, hj.1⟩

theorem vmwFenceObjAddAction_goalCovers (hl : Listed s) (hw : Window s) (hi : i < s.nextFence)
    (hkept : AddKept s i) (h : GoalCovers s) :
    GoalCovers (s.vmwFenceObjAddAction t i action) := by
  cases vmwFenceObjAddAction_cases s t i action with
  | inl hdone =>
    rw [hdone.2]
    exact h
  | inr hrest =>
    cases hrest with
    | inl hearlier =>
      -- the goal stays: the fence is not later than it
      obtain ⟨hs, ⟨hv, hle⟩, hres⟩ := hearlier
      have hmem := hl.mem hi hs
      rw [hw.seqnoPassed_iff (.goal hv) (.listed hmem)] at hle
      have hge : s.goal ≤ (s.fence i).seqno := by
        unfold AddKept at hkept
        rw [hs, hv] at hkept
        simp only [Bool.false_eq_true, Bool.true_eq_false, false_or] at hkept
        omega
      rw [hres]
      intro j hj
      change s.seqnoValid = true ∧ s.goal ≤ ((s.attach i action).fence j).seqno
      rw [attach_seqno]
      have hj : Pending (s.attach i action) j := hj
      cases attach_pending hj with
      | inl hold => exact h j hold
      | inr hnew => exact ⟨hv, hnew.1 ▸ hge⟩
    | inr hset =>
      -- the goal becomes the fence's number
      obtain ⟨hs, hgoal, hres⟩ := hset
      have hmem := hl.mem hi hs
      rw [hres]
      intro j hj
      change true = true ∧ (s.fence i).seqno ≤ ((s.attach i action).fence j).seqno
      rw [attach_seqno]
      refine ⟨rfl, ?_⟩
      have hj : Pending (s.attach i action) j := hj
      cases attach_pending hj with
      | inr hnew => rw [hnew.1]
      | inl hold =>
        obtain ⟨hv, hle⟩ := h j hold
        rw [hw.seqnoPassed_iff (.goal hv) (.listed hmem)] at hgoal
        unfold AddKept at hkept
        rw [hs, hv] at hkept
        simp only [Bool.false_eq_true, Bool.true_eq_false, false_or] at hkept
        cases hkept with
        | inl heq => exact absurd ⟨hv, heq.le⟩ hgoal
        | inr hfirst => exact hfirst.2 j hold.1 hold.2.2

end AddAction

section Update

variable {s : State} {seqno : Nat}

theorem signalPassed_pending (hl : Listed s) {i : FenceId}
    (hi : Pending (State.signalPassed seqno s.fenceList s) i) :
    i ∈ s.left seqno ∧ Pending s i ∧
      (State.signalPassed seqno s.fenceList s).fence i = s.fence i := by
  obtain ⟨hlist, hfence⟩ := signalPassed_spec (s := s) seqno rfl hl.nodup
  have hleft := hi.1
  rw [hlist] at hleft
  have hsame := hfence i
  rw [if_neg (not_mem_due_of_mem_left hl hleft)] at hsame
  have hactions := hi.2.2
  have hsignaled := hi.2.1
  rw [State.hasActions, hsame] at hactions
  rw [hsame] at hsignaled
  exact ⟨hleft, ⟨mem_of_mem_left hleft, hsignaled, hactions⟩, hsame⟩

theorem find?_congr_mem {p q : FenceId → Bool} {l : List FenceId} (h : ∀ i ∈ l, p i = q i) :
    l.find? p = l.find? q := by
  induction l with
  | nil => rfl
  | cons i l ih =>
    rw [List.find?_cons, List.find?_cons, h i (List.mem_cons_self),
      ih (fun j hj => h j (List.mem_cons_of_mem i hj))]

theorem find?_signalPassed (hl : Listed s) :
    (State.signalPassed seqno s.fenceList s).fenceList.find?
      (State.signalPassed seqno s.fenceList s).hasActions =
        (s.left seqno).find? s.hasActions := by
  obtain ⟨hlist, hfence⟩ := signalPassed_spec (s := s) seqno rfl hl.nodup
  rw [hlist]
  apply find?_congr_mem
  intro i hi
  unfold State.hasActions
  rw [hfence, if_neg (not_mem_due_of_mem_left hl hi)]

theorem vmwFencesUpdateLocked_goalCovers (hl : Listed s) (hkept : SearchKept s seqno)
    (h : GoalCovers s) : GoalCovers (s.vmwFencesUpdateLocked seqno).2 := by
  obtain ⟨_, hgoal, hvalid, _⟩ := signalPassed_frame seqno s.fenceList s
  unfold State.vmwFencesUpdateLocked
  cases vmwFenceGoalNewLocked_cases (State.signalPassed seqno s.fenceList s) seqno with
  | inl hold =>
    rw [hold.2]
    intro i hi
    obtain ⟨_, hpending, hfence⟩ := signalPassed_pending hl hi
    rw [hvalid, hgoal, hfence]
    exact h i hpending
  | inr hnew =>
    obtain ⟨⟨hv, hp⟩, hcases⟩ := hnew
    rw [hvalid] at hv
    rw [hgoal] at hp
    cases hcases with
    | inl hnone =>
      -- no pending fence is left
      rw [hnone.2]
      intro i hi
      have := List.find?_eq_none.mp hnone.1 i hi.1
      exact absurd hi.2.2 this
    | inr hsome =>
      obtain ⟨i, hfind, hres⟩ := hsome
      rw [hres]
      intro j hj
      obtain ⟨hjleft, hjpending, hjfence⟩ := signalPassed_pending hl hj
      rw [find?_signalPassed hl] at hfind
      have hileft := List.mem_of_find?_eq_some hfind
      obtain ⟨_, hfence⟩ := signalPassed_spec (s := s) seqno rfl hl.nodup
      refine ⟨rfl, ?_⟩
      change ((State.signalPassed seqno s.fenceList s).fence i).seqno ≤
        ((State.signalPassed seqno s.fenceList s).fence j).seqno
      rw [hjfence, hfence i, if_neg (not_mem_due_of_mem_left hl hileft)]
      exact hkept hv hp i hfind j hjleft hjpending.2.2

end Update

theorem step_goalCovers {s s' : State} {a : Act} (hs : step s a = some s') (hl : Listed s)
    (hw : Window s) (hkept : GoalKept s a) (h : GoalCovers s) : GoalCovers s' := by
  cases a with
  | emit t =>
    simp only [step] at hs
    split at hs
    · cases hs
      exact h
    · cases hs
  | create t ok =>
    simp only [step] at hs
    split at hs
    · cases hs
      split
      · exact vmwFenceObjInit_goalCovers hl h
      · exact h
    · cases hs
  | addAction t i action =>
    simp only [step] at hs
    split at hs
    · rename_i hok
      cases hs
      exact vmwFenceObjAddAction_goalCovers hl hw hok.2.2 hkept h
    · cases hs
  | update t =>
    simp only [step] at hs
    split at hs
    · cases hs
      exact h
    · cases hs
  | read t =>
    simp only [step] at hs
    split at hs
    · cases hs
      exact h
    · cases hs
  | lock t =>
    simp only [step] at hs
    split at hs
    · rename_i seqno mutex ht
      cases hs
      have hsearch : SearchKept s seqno := by
        simp only [GoalKept, ht] at hkept
        exact hkept
      have hcovers := vmwFencesUpdateLocked_goalCovers hl hsearch h
      split
      · exact hcovers
      · exact hcovers
    · cases hs
  | reread t =>
    simp only [step] at hs
    split at hs
    · cases hs
      split
      · exact h
      · exact h
    · cases hs
  | work =>
    simp only [step] at hs
    split at hs
    · cases hs
      exact h
    · cases hs
  | device seqno =>
    simp only [step] at hs
    split at hs
    · cases hs
      exact h
    · cases hs

/-- In a run that meets the condition the goal is no later than the first pending fence, as
numbers and as the device compares them. -/
theorem goal_covers_pending {n : Nat} {as : List Act} {s' : State}
    (hrun : Run step (fun s a => Window s ∧ GoalKept s a) (init n) as s') :
    GoalCovers s' ∧
      (Window s' → ∀ i, Pending s' i → seqnoPassed (s'.fence i).seqno s'.goal = true) := by
  have hinv : Listed s' ∧ GoalCovers s' := by
    apply hrun.invariant (I := fun s => Listed s ∧ GoalCovers s)
    · intro s a s' hok hs h
      exact ⟨step_listed hs h.1, step_goalCovers hs h.1 hok.1 hok.2 h.2⟩
    · exact ⟨init_listed n, init_goalCovers n⟩
  refine ⟨hinv.2, ?_⟩
  intro hw i hi
  obtain ⟨hv, hle⟩ := hinv.2 i hi
  exact (hw.seqnoPassed_iff (.listed hi.1) (.goal hv)).mpr hle

section Runs

/-- While fewer than 2^31 numbers are drawn, everything in play is in the window. -/
theorem run_window {n : Nat} (ok : State → Act → Prop) {as : List Act} {s' : State}
    (hrun : Run step (fun s a => s.markerSeq < n + 2 ^ 31 ∧ ok s a) (init n) as s') :
    Run step (fun s a => Window s ∧ ok s a) (init n) as s' ∧
      (s'.markerSeq < n + 2 ^ 31 → Window s') := by
  have h : Run step (fun s a => Window s ∧ ok s a) (init n) as s' ∧ Listed s' ∧ Bounded n s' := by
    apply hrun.strengthen (I := fun s => Listed s ∧ Bounded n s)
    · intro s a s' hok hs h
      exact ⟨⟨h.2.window h.1 hok.1, hok.2⟩, step_listed hs h.1, step_bounded hs h.1 h.2⟩
    · exact ⟨init_listed n, init_bounded n⟩
  exact ⟨h.1, fun hm => h.2.2.window h.2.1 hm⟩

instance (s : State) (i : FenceId) : Decidable (AddKept s i) :=
  inferInstanceAs (Decidable (_ ∨ _ ∨ _ ∨ _))

instance (s : State) (seqno : Nat) : Decidable (SearchKept s seqno) :=
  inferInstanceAs (Decidable (_ → _ → ∀ i ∈ (s.left seqno).find? s.hasActions,
    ∀ j ∈ s.left seqno, s.hasActions j = true → (s.fence i).seqno ≤ (s.fence j).seqno))

instance (s : State) (a : Act) : Decidable (GoalKept s a) :=
  match a with
  | .addAction _ i _ => inferInstanceAs (Decidable (AddKept s i))
  | .lock t =>
    match h : s.pc t with
    | .lock seqno _ =>
      decidable_of_iff (SearchKept s seqno) (by simp only [GoalKept, h])
    | .idle | .emitted _ | .update _ | .rerun _ _ => .isTrue (by simp only [GoalKept, h])
  | .emit _ | .create _ _ | .update _ | .read _ | .reread _ | .work | .device _ =>
    .isTrue trivial

theorem step_pc_of_ne {s s' : State} {a : Act} {t' : ThreadId} (hl : Listed s)
    (hs : step s a = some s') (ha : ∀ t ∈ a.thread, t' ≠ t) : s'.pc t' = s.pc t' := by
  cases a with
  | emit t =>
    simp only [step] at hs
    split at hs
    · cases hs
      exact State.setPc_pc_of_ne _ _ (ha t rfl)
    · cases hs
  | create t ok =>
    simp only [step] at hs
    split at hs
    · cases hs
      split
      · exact State.setPc_pc_of_ne _ _ (ha t rfl)
      · exact State.setPc_pc_of_ne _ _ (ha t rfl)
    · cases hs
  | addAction t i action =>
    simp only [step] at hs
    split at hs
    · cases hs
      cases vmwFenceObjAddAction_cases s t i action with
      | inl h =>
        rw [h.2]
      | inr h =>
        cases h with
        | inl h =>
          rw [h.2.2]
          rfl
        | inr h =>
          rw [h.2.2]
          exact State.setPc_pc_of_ne _ _ (ha t rfl)
    · cases hs
  | update t =>
    simp only [step] at hs
    split at hs
    · cases hs
      exact State.setPc_pc_of_ne _ _ (ha t rfl)
    · cases hs
  | read t =>
    simp only [step] at hs
    split at hs
    · cases hs
      exact State.setPc_pc_of_ne _ _ (ha t rfl)
    · cases hs
  | lock t =>
    simp only [step] at hs
    split at hs
    · rename_i seqno mutex _
      cases hs
      have hpc := (vmwFencesUpdateLocked_frame hl.nodup seqno).2.2.2.2.2
      rw [← hpc]
      split
      · exact State.setPc_pc_of_ne _ _ (ha t rfl)
      · exact State.setPc_pc_of_ne _ _ (ha t rfl)
    · cases hs
  | reread t =>
    simp only [step] at hs
    split at hs
    · cases hs
      split
      · exact State.setPc_pc_of_ne _ _ (ha t rfl)
      · exact State.setPc_pc_of_ne _ _ (ha t rfl)
    · cases hs
  | work =>
    simp only [step] at hs
    split at hs
    · cases hs
      rfl
    · cases hs
  | device seqno =>
    simp only [step] at hs
    split at hs
    · cases hs
      rfl
    · cases hs

theorem run_pc_of_ne {n : Nat} (ok : State → Act → Prop) {as : List Act} {s' : State}
    {t' : ThreadId} (hrun : Run step (fun s a => ok s a ∧ ∀ t ∈ a.thread, t' ≠ t) (init n) as s') :
    s'.pc t' = .idle := by
  have h : Listed s' ∧ s'.pc t' = .idle := by
    apply hrun.invariant (I := fun s => Listed s ∧ s.pc t' = .idle)
    · intro s a s' hok hs h
      exact ⟨step_listed hs h.1, (step_pc_of_ne h.1 hs hok.2).trans h.2⟩
    · exact ⟨init_listed n, rfl⟩
  exact h.2

end Runs

/-- The comparison of `vmw_fence_goal_check_locked` is the wrong way round: an action on an
earlier fence leaves the goal at a later one. -/
theorem goal_left_behind :
    ∃ s', Run step (fun s _ => Window s) (init 0)
        [.emit 0, .create 0 true, .emit 0, .create 0 true, .addAction 0 1 7, .read 0, .lock 0,
          .addAction 0 0 8] s' ∧
      Window s' ∧ (∀ t, s'.pc t = .idle) ∧ Pending s' 0 ∧ (s'.fence 0).seqno = 1 ∧
      s'.goal = 2 ∧ seqnoPassed (s'.fence 0).seqno s'.goal = false := by
  have h : ((exec step (fun s a => decide ((s.markerSeq < 0 + 2 ^ 31 ∧ True)) &&
      decide (∀ t ∈ a.thread, t = 0)) (init 0)
        [.emit 0, .create 0 true, .emit 0, .create 0 true, .addAction 0 1 7, .read 0, .lock 0,
          .addAction 0 0 8]).map (fun s' =>
        ((s'.markerSeq, s'.pc 0, s'.fenceList), ((s'.fence 0).signaled, s'.hasActions 0),
          (s'.fence 0).seqno, s'.goal))) = some ((2, .idle, [0, 1]), (false, true), 1, 2) := by
    decide +kernel
  obtain ⟨s', hexec, hs'⟩ := Option.map_eq_some_iff.mp h
  simp only [Prod.mk.injEq] at hs'
  obtain ⟨⟨hmarker, hpc, hlist⟩, ⟨hsignaled, hactions⟩, hseqno, hgoal⟩ := hs'
  have hrun := (Run.of_exec hexec).mono
    (fun _ _ hok => And.imp of_decide_eq_true of_decide_eq_true (Bool.and_eq_true_iff.mp hok))
  obtain ⟨hwrun, hw⟩ := run_window (fun _ _ => True) (hrun.mono (fun _ _ hok => hok.1))
  refine ⟨s', hwrun.mono (fun _ _ hok => hok.1), hw (by omega), ?_, ⟨?_, hsignaled, hactions⟩,
    hseqno, hgoal, ?_⟩
  · intro t
    by_cases ht : t = 0
    · rw [ht, hpc]
    · apply run_pc_of_ne (fun _ _ => True)
      exact hrun.mono (fun _ _ hok => ⟨trivial, fun t₀ ht₀ heq => ht (heq.trans (hok.2 t₀ ht₀))⟩)
  · rw [hlist]
    decide
  · rw [hseqno, hgoal]
    decide

/-- One fence at a time with an action: the goal follows. -/
theorem goal_covers_pending_oneByOne :
    ∃ s', Run step (fun s a => Window s ∧ GoalKept s a) (init 0)
        [.emit 0, .create 0 true, .emit 0, .create 0 true, .addAction 0 0 7, .read 0, .lock 0,
          .device 1, .update 1, .read 1, .lock 1, .reread 1, .addAction 0 1 8] s' ∧
      Pending s' 1 ∧ s'.seqnoValid = true ∧ s'.goal ≤ (s'.fence 1).seqno ∧
      seqnoPassed (s'.fence 1).seqno s'.goal = true := by
  have h : ((exec step (fun s a => decide (s.markerSeq < 0 + 2 ^ 31 ∧ GoalKept s a)) (init 0)
        [.emit 0, .create 0 true, .emit 0, .create 0 true, .addAction 0 0 7, .read 0, .lock 0,
          .device 1, .update 1, .read 1, .lock 1, .reread 1, .addAction 0 1 8]).map (fun s' =>
        (s'.markerSeq, s'.fenceList, (s'.fence 1).signaled, s'.hasActions 1))) =
          some (2, [1], false, true) := by
    decide +kernel
  obtain ⟨s', hexec, hs'⟩ := Option.map_eq_some_iff.mp h
  simp only [Prod.mk.injEq] at hs'
  obtain ⟨hmarker, hlist, hsignaled, hactions⟩ := hs'
  obtain ⟨hrun, hw⟩ := run_window _ ((Run.of_exec hexec).mono (fun _ _ hok => of_decide_eq_true hok))
  have hpending : Pending s' 1 := ⟨by rw [hlist]; decide, hsignaled, hactions⟩
  obtain ⟨hcovers, hpassed⟩ := goal_covers_pending hrun
  obtain ⟨hv, hle⟩ := hcovers 1 hpending
  exact ⟨s', hrun, hpending, hv, hle, hpassed (hw (by omega)) 1 hpending⟩

end Vmwgfx.Fence
