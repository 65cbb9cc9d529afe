import Vmwgfx.Fence.Events

/-! The goal interrupt is on while the fence goal is valid, and its waiters are
counted. `goal_irq_mutex` is what lets the flags be set apart. -/

namespace Vmwgfx.Fence

def Pc.holds : Pc → Bool
  | .idle | .emitted _ => false
  | .update mutex | .lock _ mutex | .rerun _ mutex => mutex

/-- The locked part of an update leaves the goal interrupt alone and does not make the
goal valid. -/
theorem vmwFencesUpdateLocked_goalIrq (s : State) (seqno : Nat) :
    (s.vmwFencesUpdateLocked seqno).2.goalIrqOn = s.goalIrqOn ∧
      (s.vmwFencesUpdateLocked seqno).2.goalIrqMutex = s.goalIrqMutex ∧
      (s.vmwFencesUpdateLocked seqno).2.pc = s.pc ∧
      ((s.vmwFencesUpdateLocked seqno).2.seqnoValid = true → s.seqnoValid = true) := by
  obtain ⟨_, _, hvalid, hon, hmutex, _, _, hpc⟩ := signalPassed_frame seqno s.fenceList s
  unfold State.vmwFencesUpdateLocked
  cases vmwFenceGoalNewLocked_cases (State.signalPassed seqno s.fenceList s) seqno with
  | inl hold =>
    rw [hold.2]
    exact ⟨hon, hmutex, hpc, fun h => hvalid ▸ h⟩
  | inr hnew =>
    have hwas : s.seqnoValid = true := hvalid ▸ hnew.1.1
    cases hnew.2 with
    | inl hnone =>
      rw [hnone.2]
      exact ⟨hon, hmutex, hpc, fun _ => hwas⟩
    | inr hsome =>
      obtain ⟨i, -, hi⟩ := hsome
      rw [hi]
      exact ⟨hon, hmutex, hpc, fun _ => hwas⟩

/-- The check of a fence with an action asks for an update exactly when it sets the
goal. -/
theorem vmwFenceGoalCheckLocked_goalIrq (s : State) (i : FenceId) :
    (s.vmwFenceGoalCheckLocked i).2.goalIrqOn = s.goalIrqOn ∧
      (s.vmwFenceGoalCheckLocked i).2.goalIrqMutex = s.goalIrqMutex ∧
      (s.vmwFenceGoalCheckLocked i).2.pc = s.pc ∧
      ((s.vmwFenceGoalCheckLocked i).1 = true → (s.vmwFenceGoalCheckLocked i).2.seqnoValid = true) ∧
      ((s.vmwFenceGoalCheckLocked i).1 = false → (s.vmwFenceGoalCheckLocked i).2.seqnoValid = s.seqnoValid) := by
  unfold State.vmwFenceGoalCheckLocked
  split
  · exact ⟨rfl, rfl, rfl, fun h => Bool.noConfusion h, fun _ => rfl⟩
  · split
    · exact ⟨rfl, rfl, rfl, fun h => Bool.noConfusion h, fun _ => rfl⟩
    · exact ⟨rfl, rfl, rfl, fun _ => rfl, fun h => Bool.noConfusion h⟩

/-- What a step of the fence manager does to the flags and to the mutex: thread `t`
takes it, and may let the mutex go. -/
structure Beside (t : ThreadId) (s s' : State) : Prop where
  on : s'.goalIrqOn = s.goalIrqOn
  valid : s'.seqnoValid = true → s.seqnoValid = true
  other : ∀ t', t' ≠ t → s'.pc t' = s.pc t'
  mutex : (s'.goalIrqMutex = s.goalIrqMutex ∧ ((s'.pc t).holds = true → (s.pc t).holds = true)) ∨
    ((s.pc t).holds = true ∧ s'.pc t = .idle)

theorem Beside.setPc {s : State} {t : ThreadId} {pc : Pc} (h : pc.holds = true → (s.pc t).holds = true) :
    Beside t s (s.setPc t pc) where
  on := rfl
  valid := id
  other _ hne := s.setPc_pc_of_ne pc hne
  mutex := .inl ⟨rfl, by rwa [s.setPc_pc_self]⟩

theorem Beside.finishUpdate {s : State} {t : ThreadId} {mutex : Bool} (h : (s.pc t).holds = mutex) :
    Beside t s (s.finishUpdate t mutex) where
  on := rfl
  valid := id
  other _ hne := s.setPc_pc_of_ne .idle hne
  mutex := by
    have hidle : (s.finishUpdate t mutex).pc t = .idle := s.setPc_pc_self t .idle
    cases mutex with
    | true => exact .inr ⟨h, hidle⟩
    | false =>
      refine .inl ⟨rfl, ?_⟩
      rw [hidle]
      exact fun hf => Bool.noConfusion hf

/-- The step goes on from a state with the same threads, flags and mutex. -/
theorem Beside.after {s s₁ s' : State} {t : ThreadId} (h : Beside t s₁ s') (hon : s₁.goalIrqOn = s.goalIrqOn)
    (hmutex : s₁.goalIrqMutex = s.goalIrqMutex) (hpc : s₁.pc = s.pc)
    (hvalid : s₁.seqnoValid = true → s.seqnoValid = true) : Beside t s s' where
  on := h.on.trans hon
  valid hv := hvalid (h.valid hv)
  other t' hne := (h.other t' hne).trans (congrFun hpc t')
  mutex := by
    have hm := h.mutex
    rwa [hmutex, hpc] at hm

theorem step_beside {s s' : State} {a : Act} {t : ThreadId} (ht : a.thread = some t)
    (hadd : ∀ t i action, a ≠ .addAction t i action) (hs : step s a = some s') : Beside t s s' := by
  cases a with
  | emit t₁ =>
    cases ht
    simp only [step] at hs
    split at hs
    · cases hs
      have hpc : Beside t { s with markerSeq := s.nextSeqno } _ :=
        @Beside.setPc _ t (.emitted s.nextSeqno) fun h => Bool.noConfusion h
      exact hpc.after rfl rfl rfl id
    · cases hs
  | create t₁ ok =>
    cases ht
    simp only [step] at hs
    split at hs
    · rename_i seqno hpc
      cases hs
      cases ok with
      | true =>
        have hidle : Beside t (s.vmwFenceObjInit seqno) _ := @Beside.setPc _ t .idle fun h => Bool.noConfusion h
        exact hidle.after rfl rfl rfl id
      | false => exact @Beside.setPc _ t .idle fun h => Bool.noConfusion h
    · cases hs
  | addAction t₁ i action => exact absurd rfl (hadd t₁ i action)
  | update t₁ =>
    cases ht
    simp only [step] at hs
    split at hs
    · cases hs
      exact .setPc fun h => Bool.noConfusion h
    · cases hs
  | read t₁ =>
    cases ht
    simp only [step] at hs
    split at hs
    · rename_i mutex hpc
      cases hs
      exact .setPc fun h => by rw [hpc]; exact h
    · cases hs
  | lock t₁ =>
    cases ht
    simp only [step] at hs
    split at hs
    · rename_i seqno mutex hpc
      cases hs
      obtain ⟨hon, hmutex, hthreads, hvalid⟩ := vmwFencesUpdateLocked_goalIrq s seqno
      have hhere : ((s.vmwFencesUpdateLocked seqno).2.pc t).holds = mutex := by rw [hthreads, hpc]; rfl
      refine .after ?_ hon hmutex hthreads hvalid
      split
      · exact .setPc fun h => hhere.trans h
      · exact .finishUpdate hhere
    · cases hs
  | reread t₁ =>
    cases ht
    simp only [step] at hs
    split at hs
    · rename_i seqno mutex hpc
      cases hs
      split
      · exact .setPc fun h => by rw [hpc]; exact h
      · exact .finishUpdate (by rw [hpc]; rfl)
    · cases hs
  | work => cases ht
  | device seqno => cases ht

end Vmwgfx.Fence

namespace Vmwgfx.Fence.Events

open Vmwgfx.Lib

def Adder.holds : Adder → Bool
  | .idle | .queued _ => false
  | .locked _ | .goal | .unlock => true

def Worker.holds : Worker → Bool
  | .locked | .spliced .. => true
  | .idle | .waiting | .cleaning _ => false

/-- Who holds `goal_irq_mutex`: a thread, or the worker. -/
def Holds (s : State) : Option ThreadId → Prop
  | some t => (s.adder t).holds = true ∨ (s.fman.pc t).holds = true
  | none => s.worker.holds = true

/-- The waiters on the goal, which are none or one. -/
structure Counted (s : State) : Prop where
  adds : s.goalWaiterAdds = s.goalWaiterRemoves + s.fman.goalIrqOn.toNat
  queue : s.goalQueueWaiters = s.fman.goalIrqOn.toNat
  mask : s.goalIrqMask = s.fman.goalIrqOn

structure GoalInv (s : State) : Prop where
  mutex : Mutex (Holds s) s.fman.goalIrqMutex
  /-- A thread that posts an event is not updating. -/
  phase : ∀ t, s.adder t ≠ .idle → s.fman.pc t = .idle
  /-- The goal may be valid before the interrupt is on, under the mutex. -/
  valid : s.fman.seqnoValid = true → s.fman.goalIrqOn = true ∨ ∃ t, s.adder t = .goal
  /-- What the worker has read still holds. -/
  spliced : ∀ l, s.worker = .spliced l false → s.fman.seqnoValid = false
  counted : Counted s

theorem init_goalInv (n : Nat) : GoalInv (init n) where
  mutex := .empty (fun x hx => by
    cases x with
    | none => exact Bool.noConfusion hx
    | some t => exact hx.elim (fun h => Bool.noConfusion h) fun h => Bool.noConfusion h) _
  phase _ h := absurd rfl h
  valid h := Bool.noConfusion h
  spliced _ h := nomatch h
  counted := ⟨rfl, rfl, rfl⟩

section Steps

variable {s s' : State} {t : ThreadId}

/-- What a step of the fence manager's own leaves alone. -/
structure FenceStep (s s' : State) (act : Fence.Act) : Prop where
  fman : Fence.step s.fman act = some s'.fman
  noAdd : ∀ t i a, act ≠ .addAction t i a
  noWork : act ≠ .work
  idle : ∀ t, act = .emit t ∨ act = .update t → s.adder t = .idle
  adder : s'.adder = s.adder
  worker : s'.worker = s.worker
  adds : s'.goalWaiterAdds = s.goalWaiterAdds
  removes : s'.goalWaiterRemoves = s.goalWaiterRemoves
  queue : s'.goalQueueWaiters = s.goalQueueWaiters
  mask : s'.goalIrqMask = s.goalIrqMask

theorem fenceStep_cases {act : Fence.Act} (h : fenceStep s act = some s') : FenceStep s s' act := by
  cases act with
  | emit t =>
    simp only [fenceStep] at h
    split at h
    · rename_i hidle
      obtain ⟨fman, hf, rfl⟩ := Option.map_eq_some_iff.mp h
      refine ⟨hf, fun _ _ _ => nofun, nofun, fun t' ht => ?_, rfl, rfl, rfl, rfl, rfl, rfl⟩
      cases ht with
      | inl ht => exact Fence.Act.emit.inj ht ▸ hidle
      | inr ht => cases ht
    · cases h
  | create t ok =>
    obtain ⟨fman, hf, rfl⟩ := Option.map_eq_some_iff.mp h
    cases ok <;>
      exact ⟨hf, fun _ _ _ => nofun, nofun, fun _ ht => ht.elim nofun nofun,
        rfl, rfl, rfl, rfl, rfl, rfl⟩
  | addAction => cases h
  | update t =>
    simp only [fenceStep] at h
    split at h
    · rename_i hidle
      obtain ⟨fman, hf, rfl⟩ := Option.map_eq_some_iff.mp h
      refine ⟨hf, fun _ _ _ => nofun, nofun, fun t' ht => ?_, rfl, rfl, rfl, rfl, rfl, rfl⟩
      cases ht with
      | inl ht => cases ht
      | inr ht => exact Fence.Act.update.inj ht ▸ hidle
    · cases h
  | read t =>
    obtain ⟨fman, hf, rfl⟩ := Option.map_eq_some_iff.mp h
    exact ⟨hf, fun _ _ _ => nofun, nofun, fun _ ht => ht.elim nofun nofun,
      rfl, rfl, rfl, rfl, rfl, rfl⟩
  | lock t =>
    simp only [fenceStep] at h
    split at h
    · obtain ⟨fman, hf, rfl⟩ := Option.map_eq_some_iff.mp h
      exact ⟨hf, fun _ _ _ => nofun, nofun, fun _ ht => ht.elim nofun nofun,
        rfl, rfl, rfl, rfl, rfl, rfl⟩
    · cases h
  | reread t =>
    obtain ⟨fman, hf, rfl⟩ := Option.map_eq_some_iff.mp h
    exact ⟨hf, fun _ _ _ => nofun, nofun, fun _ ht => ht.elim nofun nofun,
      rfl, rfl, rfl, rfl, rfl, rfl⟩
  | work => cases h
  | device seqno =>
    obtain ⟨fman, hf, rfl⟩ := Option.map_eq_some_iff.mp h
    exact ⟨hf, fun _ _ _ => nofun, nofun, fun _ ht => ht.elim nofun nofun,
      rfl, rfl, rfl, rfl, rfl, rfl⟩

theorem Counted.congr (h : Counted s) (hon : s'.fman.goalIrqOn = s.fman.goalIrqOn)
    (hadds : s'.goalWaiterAdds = s.goalWaiterAdds) (hremoves : s'.goalWaiterRemoves = s.goalWaiterRemoves)
    (hqueue : s'.goalQueueWaiters = s.goalQueueWaiters) (hmask : s'.goalIrqMask = s.goalIrqMask) : Counted s' where
  adds := by rw [hadds, hremoves, hon]; exact h.adds
  queue := by rw [hqueue, hon]; exact h.queue
  mask := by rw [hmask, hon]; exact h.mask

theorem Counted.vmwGoalWaiterAdd (h : Counted s) (hoff : s.fman.goalIrqOn = false) :
    Counted (s.setGoalIrqOn true).vmwGoalWaiterAdd where
  adds := by
    have hadds := h.adds
    rw [hoff] at hadds
    show s.goalWaiterAdds + 1 = s.goalWaiterRemoves + 1
    rw [hadds]
    rfl
  queue := by
    have hqueue := h.queue
    rw [hoff] at hqueue
    show s.goalQueueWaiters + 1 = 1
    rw [hqueue]
    rfl
  mask := by
    have hqueue := h.queue
    rw [hoff] at hqueue
    exact if_pos hqueue

theorem Counted.vmwGoalWaiterRemove (h : Counted s) (hon : s.fman.goalIrqOn = true) :
    Counted (s.setGoalIrqOn false).vmwGoalWaiterRemove where
  adds := by
    have hadds := h.adds
    rw [hon] at hadds
    exact hadds
  queue := by
    have hqueue := h.queue
    rw [hon] at hqueue
    show s.goalQueueWaiters - 1 = 0
    rw [hqueue]
    rfl
  mask := by
    have hqueue := h.queue
    rw [hon] at hqueue
    exact if_pos (by show s.goalQueueWaiters - 1 = 0; rw [hqueue]; rfl)

/-- An idle thread takes a step of its own only to emit or to update. -/
theorem step_of_idle {f f' : Fence.State} {act : Fence.Act} (hs : Fence.step f act = some f')
    (ht : act.thread = some t) (hadd : ∀ t i a, act ≠ .addAction t i a) (hidle : f.pc t = .idle) :
    act = .emit t ∨ act = .update t := by
  cases act with
  | emit => cases ht; exact .inl rfl
  | update => cases ht; exact .inr rfl
  | addAction t' i a => exact absurd rfl (hadd t' i a)
  | work => cases ht
  | device => cases ht
  | create => cases ht; simp [Fence.step, hidle] at hs
  | read => cases ht; simp [Fence.step, hidle] at hs
  | lock => cases ht; simp [Fence.step, hidle] at hs
  | reread => cases ht; simp [Fence.step, hidle] at hs

theorem Holds.congr (hadder : s'.adder = s.adder) (hpc : s'.fman.pc = s.fman.pc) (hworker : s'.worker = s.worker) :
    Holds s' = Holds s := by
  funext x
  cases x with
  | none => simp only [Holds, hworker]
  | some t => simp only [Holds, hadder, hpc]

/-- Nothing the invariant looks at has changed. -/
theorem GoalInv.congr (h : GoalInv s) (hadder : s'.adder = s.adder) (hworker : s'.worker = s.worker)
    (hpc : s'.fman.pc = s.fman.pc) (hmutex : s'.fman.goalIrqMutex = s.fman.goalIrqMutex)
    (hvalid : s'.fman.seqnoValid = s.fman.seqnoValid) (hon : s'.fman.goalIrqOn = s.fman.goalIrqOn)
    (hc : Counted s') : GoalInv s' where
  mutex := by
    rw [Holds.congr hadder hpc hworker, hmutex]
    exact h.mutex
  phase := by
    rw [hadder, hpc]
    exact h.phase
  valid := by
    rw [hadder, hon, hvalid]
    exact h.valid
  spliced := by
    rw [hworker, hvalid]
    exact h.spliced
  counted := hc

theorem fenceStep_goalInv {act : Fence.Act} (h : GoalInv s) (hs : fenceStep s act = some s') : GoalInv s' := by
  have hc := fenceStep_cases hs
  cases ht : act.thread with
  | none =>
    cases act with
    | device seqno =>
      have hf := hc.fman
      simp only [Fence.step] at hf
      split at hf
      · have hfman := Option.some.inj hf
        exact h.congr hc.adder hc.worker (by rw [← hfman]) (by rw [← hfman]) (by rw [← hfman]) (by rw [← hfman])
          (h.counted.congr (by rw [← hfman]) hc.adds hc.removes hc.queue hc.mask)
      · cases hf
    | work => exact absurd rfl hc.noWork
    | _ => cases ht
  | some t =>
    have hb := step_beside ht hc.noAdd hc.fman
    have hphase : ∀ t', s'.adder t' ≠ .idle → s'.fman.pc t' = .idle ∧ s.fman.pc t' = .idle := by
      intro t' ha
      rw [hc.adder] at ha
      have hidle := h.phase t' ha
      have hne : t' ≠ t := by
        intro heq
        subst heq
        exact ha (hc.idle t' (step_of_idle hc.fman ht hc.noAdd hidle))
      exact ⟨(hb.other t' hne).trans hidle, hidle⟩
    refine ⟨?_, fun t' ha => (hphase t' ha).1, ?_, ?_, h.counted.congr hb.on hc.adds hc.removes hc.queue hc.mask⟩
    · cases hb.mutex with
      | inl hm =>
        rw [hm.1]
        refine h.mutex.mono fun x hx => ?_
        cases x with
        | none => exact (congrArg Worker.holds hc.worker).symm.trans hx
        | some t' =>
          cases hx with
          | inl ha => exact .inl (hc.adder ▸ ha)
          | inr hp =>
            by_cases hne : t' = t
            · subst hne
              exact .inr (hm.2 hp)
            · exact .inr ((congrArg Pc.holds (hb.other t' hne)).symm.trans hp)
      | inr hm =>
        have hheld : Holds s (some t) := .inr hm.1
        refine h.mutex.release hheld fun x hx => ?_
        cases x with
        | none => exact ⟨(congrArg Worker.holds hc.worker).symm.trans hx, (Option.some_ne_none t).symm⟩
        | some t' =>
          have hne : t' ≠ t := by
            intro heq
            subst heq
            cases hx with
            | inl ha =>
              have hidle := (hphase t' fun h0 => by rw [h0] at ha; exact Bool.noConfusion ha).2
              have hhere := hm.1
              rw [hidle] at hhere
              exact Bool.noConfusion hhere
            | inr hp =>
              rw [hm.2] at hp
              exact Bool.noConfusion hp
          refine ⟨?_, fun heq => hne (Option.some.inj heq)⟩
          cases hx with
          | inl ha => exact .inl (hc.adder ▸ ha)
          | inr hp => exact .inr ((congrArg Pc.holds (hb.other t' hne)).symm.trans hp)
    · intro hv
      rw [hb.on, hc.adder]
      exact h.valid (hb.valid hv)
    · intro l hl
      rw [hc.worker] at hl
      have hfalse := h.spliced l hl
      cases hv : s'.fman.seqnoValid with
      | false => rfl
      | true =>
        rw [hb.valid hv] at hfalse
        exact hfalse

theorem vmwFenceObjUnreference_frame (s : State) (i : FenceId) :
    (s.vmwFenceObjUnreference i).fman.pc = s.fman.pc ∧
      (s.vmwFenceObjUnreference i).fman.goalIrqMutex = s.fman.goalIrqMutex ∧
      (s.vmwFenceObjUnreference i).fman.seqnoValid = s.fman.seqnoValid ∧
      (s.vmwFenceObjUnreference i).fman.goalIrqOn = s.fman.goalIrqOn := by
  unfold State.vmwFenceObjUnreference
  dsimp only
  split <;> exact ⟨rfl, rfl, rfl, rfl⟩

theorem GoalInv.unreference (h : GoalInv s) (i : FenceId) : GoalInv (s.vmwFenceObjUnreference i) := by
  obtain ⟨hpc, hmutex, hvalid, hon⟩ := vmwFenceObjUnreference_frame s i
  exact h.congr rfl rfl hpc hmutex hvalid hon (h.counted.congr hon rfl rfl rfl rfl)

/-- Thread `t` goes on to `pc` in posting its event. -/
structure Moved (t : ThreadId) (pc : Adder) (s s' : State) : Prop where
  adder : s'.adder = Function.update s.adder t pc
  worker : s'.worker = s.worker
  threads : s'.fman.pc = s.fman.pc
  on : s'.fman.goalIrqOn = s.fman.goalIrqOn
  adds : s'.goalWaiterAdds = s.goalWaiterAdds
  removes : s'.goalWaiterRemoves = s.goalWaiterRemoves
  queue : s'.goalQueueWaiters = s.goalQueueWaiters
  mask : s'.goalIrqMask = s.goalIrqMask

section Moved

variable {pc : Adder}

theorem Moved.self (m : Moved t pc s s') : s'.adder t = pc := by
  rw [m.adder]
  exact Function.update_self t pc s.adder

theorem Moved.other (m : Moved t pc s s') {t' : ThreadId} (hne : t' ≠ t) : s'.adder t' = s.adder t' := by
  rw [m.adder]
  exact Function.update_of_ne hne pc s.adder

theorem Moved.holds (m : Moved t pc s s') {x : Option ThreadId} (hx : Holds s' x) : Holds s x ∨ x = some t := by
  cases x with
  | none => exact .inl ((congrArg Worker.holds m.worker).symm.trans hx)
  | some t' =>
    by_cases hne : t' = t
    · exact .inr (congrArg some hne)
    · left
      rw [Holds, m.other hne, m.threads] at hx
      exact hx

theorem Moved.phase (m : Moved t pc s s') (h : GoalInv s) (hidle : s.fman.pc t = .idle) (t' : ThreadId)
    (ha : s'.adder t' ≠ .idle) : s'.fman.pc t' = .idle := by
  rw [m.threads]
  by_cases hne : t' = t
  · rw [hne]
    exact hidle
  · exact h.phase t' (m.other hne ▸ ha)

/-- The move does not touch the goal. -/
theorem GoalInv.move (h : GoalInv s) (m : Moved t pc s s') (hidle : s.fman.pc t = .idle) (hgoal : s.adder t ≠ .goal)
    (hvalid : s'.fman.seqnoValid = s.fman.seqnoValid) (hm : Mutex (Holds s') s'.fman.goalIrqMutex) : GoalInv s' where
  mutex := hm
  phase := m.phase h hidle
  valid hv := by
    rw [m.on]
    cases h.valid (hvalid ▸ hv) with
    | inl hon => exact .inl hon
    | inr hsome =>
      obtain ⟨t', ht'⟩ := hsome
      have hne : t' ≠ t := fun heq => hgoal (heq ▸ ht')
      exact .inr ⟨t', (m.other hne).trans ht'⟩
  spliced := by
    rw [m.worker, hvalid]
    exact h.spliced
  counted := h.counted.congr m.on m.adds m.removes m.queue m.mask

theorem GoalInv.queue {a : ActionId} (h : GoalInv s) (m : Moved t (.queued a) s s') (hidle : s.fman.pc t = .idle)
    (ha : s.adder t = .idle) (hvalid : s'.fman.seqnoValid = s.fman.seqnoValid)
    (hmutex : s'.fman.goalIrqMutex = s.fman.goalIrqMutex) : GoalInv s' := by
  refine h.move m hidle (by rw [ha]; nofun) hvalid ?_
  rw [hmutex]
  refine h.mutex.mono fun x hx => ?_
  cases m.holds hx with
  | inl hs => exact hs
  | inr ht =>
    subst ht
    rw [Holds, m.self, m.threads, hidle] at hx
    exact hx.elim (fun h0 => Bool.noConfusion h0) fun h0 => Bool.noConfusion h0

theorem GoalInv.addLock {a : ActionId} (h : GoalInv s) (ha : s.adder t = .queued a)
    (hfree : s.fman.goalIrqMutex = false) : GoalInv ((s.setMutex true).setAdder t (.locked a)) := by
  have hne : s.adder t ≠ .idle := by rw [ha]; nofun
  have m : Moved t (.locked a) s ((s.setMutex true).setAdder t (.locked a)) :=
    ⟨rfl, rfl, rfl, rfl, rfl, rfl, rfl, rfl⟩
  have hm := h.mutex
  rw [hfree] at hm
  exact h.move m (h.phase t hne) (by rw [ha]; nofun) rfl (hm.acquire fun x hx => m.holds hx)

theorem GoalInv.addUnlock (h : GoalInv s) (ha : s.adder t = .unlock) :
    GoalInv ((s.setMutex false).setAdder t .idle) := by
  have hne : s.adder t ≠ .idle := by rw [ha]; nofun
  have m : Moved t .idle s ((s.setMutex false).setAdder t .idle) := ⟨rfl, rfl, rfl, rfl, rfl, rfl, rfl, rfl⟩
  have hhere : Holds s (some t) := .inl (by rw [ha]; rfl)
  refine h.move m (h.phase t hne) (by rw [ha]; nofun) rfl (h.mutex.release hhere fun x hx => ?_)
  have hxt : x ≠ some t := by
    rintro rfl
    rw [Holds, m.self, m.threads, h.phase t hne] at hx
    exact hx.elim (fun h0 => Bool.noConfusion h0) fun h0 => Bool.noConfusion h0
  exact ⟨(m.holds hx).resolve_right hxt, hxt⟩

end Moved

/-- The locked part of adding an action asks for the update when it makes the goal
valid. -/
theorem addActionLocked_moved (s : State) (t : ThreadId) (a : ActionId) :
    (s.addActionLocked t a).fman.goalIrqMutex = s.fman.goalIrqMutex ∧
      (Moved t .goal s (s.addActionLocked t a) ∧ (s.addActionLocked t a).fman.seqnoValid = true ∨
        Moved t .unlock s (s.addActionLocked t a) ∧
          (s.addActionLocked t a).fman.seqnoValid = s.fman.seqnoValid) := by
  unfold State.addActionLocked
  dsimp only
  split
  · exact ⟨rfl, .inr ⟨⟨rfl, rfl, rfl, rfl, rfl, rfl, rfl, rfl⟩, rfl⟩⟩
  · obtain ⟨hon, hmutex, hpc, htrue, hfalse⟩ := vmwFenceGoalCheckLocked_goalIrq
      (State.attach { s.fman with pendingActions := s.fman.pendingActions + 1 } (s.files.eaction a).fence a)
      (s.files.eaction a).fence
    refine ⟨hmutex, ?_⟩
    split
    · rename_i hrun
      exact .inl ⟨⟨rfl, rfl, hpc, hon, rfl, rfl, rfl, rfl⟩, htrue hrun⟩
    · rename_i hrun
      exact .inr ⟨⟨rfl, rfl, hpc, hon, rfl, rfl, rfl, rfl⟩, hfalse (Bool.eq_false_of_not_eq_true hrun)⟩

theorem GoalInv.addSpin {a : ActionId} (h : GoalInv s) (ha : s.adder t = .locked a) :
    GoalInv (s.addActionLocked t a) := by
  have hne : s.adder t ≠ .idle := by rw [ha]; nofun
  have hhere : Holds s (some t) := .inl (by rw [ha]; rfl)
  obtain ⟨hmutex, hgoal | hunlock⟩ := addActionLocked_moved s t a
  · obtain ⟨m, hv⟩ := hgoal
    refine ⟨?_, m.phase h (h.phase t hne), fun _ => .inr ⟨t, m.self⟩, ?_,
      h.counted.congr m.on m.adds m.removes m.queue m.mask⟩
    · rw [hmutex]
      exact h.mutex.mono fun x hx => (m.holds hx).elim id fun hx => hx ▸ hhere
    · intro l hl
      rw [m.worker] at hl
      have hworker : Holds s none := by rw [Holds, hl]; rfl
      exact absurd hworker (h.mutex.alone hhere nofun)
  · obtain ⟨m, hv⟩ := hunlock
    refine h.move m (h.phase t hne) (by rw [ha]; nofun) hv ?_
    rw [hmutex]
    exact h.mutex.mono fun x hx => (m.holds hx).elim id fun hx => hx ▸ hhere

theorem addGoal_on (s : State) (t : ThreadId) : (s.addGoal t).fman.goalIrqOn = true := by
  unfold State.addGoal
  dsimp only
  split
  · assumption
  · rfl

theorem addGoal_frame (s : State) (t : ThreadId) :
    (s.addGoal t).adder = Function.update s.adder t .idle ∧ (s.addGoal t).worker = s.worker ∧
      (s.addGoal t).fman.pc = Function.update s.fman.pc t (.update true) ∧
      (s.addGoal t).fman.goalIrqMutex = s.fman.goalIrqMutex ∧
      (s.addGoal t).fman.seqnoValid = s.fman.seqnoValid := by
  unfold State.addGoal
  dsimp only
  split <;> exact ⟨rfl, rfl, rfl, rfl, rfl⟩

theorem Counted.addGoal (h : Counted s) (t : ThreadId) : Counted (s.addGoal t) := by
  unfold State.addGoal
  dsimp only
  split
  · exact { h with }
  · rename_i hoff
    have hc := h.vmwGoalWaiterAdd (Bool.eq_false_of_not_eq_true hoff)
    exact { hc with }

theorem GoalInv.addGoal (h : GoalInv s) (ha : s.adder t = .goal) : GoalInv (s.addGoal t) := by
  obtain ⟨hadder, hworker, hpc, hmutex, -⟩ := addGoal_frame s t
  have hhere : Holds s (some t) := .inl (by rw [ha]; rfl)
  refine ⟨?_, ?_, fun _ => .inl (addGoal_on s t), ?_, h.counted.addGoal t⟩
  · rw [hmutex]
    refine h.mutex.mono fun x hx => ?_
    cases x with
    | none => exact (congrArg Worker.holds hworker).symm.trans hx
    | some t' =>
      by_cases hne : t' = t
      · rw [hne]
        exact hhere
      · rwa [Holds, hadder, hpc, Function.update_of_ne hne, Function.update_of_ne hne] at hx
  · intro t' ha'
    have hne : t' ≠ t := by
      rintro rfl
      rw [hadder, Function.update_self] at ha'
      exact ha' rfl
    rw [hadder, Function.update_of_ne hne] at ha'
    rw [hpc, Function.update_of_ne hne]
    exact h.phase t' ha'
  · intro l hl
    rw [hworker] at hl
    have hw : Holds s none := by rw [Holds, hl]; rfl
    exact absurd hw (h.mutex.alone hhere nofun)

section Worker

variable {w : Worker}

/-- The worker goes on, and the threads stay where they are. -/
theorem GoalInv.work (h : GoalInv s) (hadder : s'.adder = s.adder) (hpc : s'.fman.pc = s.fman.pc)
    (hvalid : s'.fman.seqnoValid = s.fman.seqnoValid) (hm : Mutex (Holds s') s'.fman.goalIrqMutex)
    (hon : s.fman.seqnoValid = true → s.fman.goalIrqOn = true → s'.fman.goalIrqOn = true)
    (hl : ∀ l, s'.worker = .spliced l false → s.fman.seqnoValid = false) (hc : Counted s') : GoalInv s' where
  mutex := hm
  phase := by
    rw [hadder, hpc]
    exact h.phase
  valid hv := by
    rw [hvalid] at hv
    rw [hadder]
    exact (h.valid hv).imp_left (hon hv)
  spliced := by
    rw [hvalid]
    exact hl
  counted := hc

theorem GoalInv.workLock (h : GoalInv s) (hfree : s.fman.goalIrqMutex = false) :
    GoalInv { s.setMutex true with worker := .locked } := by
  have hm := h.mutex
  rw [hfree] at hm
  refine h.work rfl rfl rfl (hm.acquire (a := none) fun x hx => ?_) (fun _ hon => hon) nofun { h.counted with }
  cases x with
  | none => exact .inr rfl
  | some t => exact .inl hx

theorem GoalInv.workSplice (h : GoalInv s) (hw : s.worker = .locked) : GoalInv s.workSplice := by
  refine h.work rfl rfl rfl (h.mutex.mono fun x hx => ?_) (fun _ hon => hon) ?_ { h.counted with }
  · cases x with
    | none =>
      rw [Holds, hw]
      rfl
    | some t => exact hx
  · intro l hl
    injection hl

theorem workIrq_frame (s : State) (list : List ActionId) (seqnoValid : Bool) :
    (s.workIrq list seqnoValid).adder = s.adder ∧ (s.workIrq list seqnoValid).fman.pc = s.fman.pc ∧
      (s.workIrq list seqnoValid).fman.seqnoValid = s.fman.seqnoValid ∧
      (s.workIrq list seqnoValid).worker = (if list.isEmpty then .idle else .cleaning list) ∧
      (s.workIrq list seqnoValid).fman.goalIrqOn = (seqnoValid && s.fman.goalIrqOn) := by
  unfold State.workIrq
  dsimp only
  split
  · rename_i hc
    rw [Bool.and_eq_true, Bool.not_eq_true'] at hc
    refine ⟨rfl, rfl, rfl, rfl, ?_⟩
    rw [hc.1]
    rfl
  · rename_i hc
    refine ⟨rfl, rfl, rfl, rfl, ?_⟩
    show s.fman.goalIrqOn = _
    cases seqnoValid with
    | true => rfl
    | false => simpa using hc

theorem Counted.workIrq (h : Counted s) (list : List ActionId) (seqnoValid : Bool) :
    Counted (s.workIrq list seqnoValid) := by
  unfold State.workIrq
  dsimp only
  split
  · rename_i hc
    rw [Bool.and_eq_true] at hc
    have hremove := h.vmwGoalWaiterRemove hc.2
    exact { hremove with }
  · exact { h with }

theorem GoalInv.workIrq {list : List ActionId} {seqnoValid : Bool} (h : GoalInv s)
    (hw : s.worker = .spliced list seqnoValid) : GoalInv (s.workIrq list seqnoValid) := by
  obtain ⟨hadder, hpc, hvalid, hworker, hon⟩ := workIrq_frame s list seqnoValid
  have hhere : Holds s none := by rw [Holds, hw]; rfl
  have hout : (s.workIrq list seqnoValid).worker.holds = false := by
    rw [hworker]
    split <;> rfl
  refine h.work hadder hpc hvalid (h.mutex.release hhere fun x hx => ?_) ?_ ?_ (h.counted.workIrq list seqnoValid)
  · cases x with
    | none => exact absurd hx (by rw [Holds, hout]; exact Bool.false_ne_true)
    | some t =>
      rw [Holds, hadder, hpc] at hx
      exact ⟨hx, nofun⟩
  · intro hv hwas
    rw [hon, hwas, Bool.and_true]
    cases hs : seqnoValid with
    | true => rfl
    | false =>
      rw [hs] at hw
      rw [h.spliced list hw] at hv
      exact hv
  · intro l hl
    rw [hl] at hout
    cases hout

end Worker

theorem step_goalInv {act : Act} (h : GoalInv s) (hs : step s act = some s') : GoalInv s' := by
  cases act with
  | fence act => exact fenceStep_goalInv h hs
  | get i =>
    simp only [step] at hs
    split at hs
    · cases hs
      exact h.congr rfl rfl rfl rfl rfl rfl { h.counted with }
    · cases hs
  | put i =>
    simp only [step] at hs
    split at hs
    · cases hs
      have hput := h.unreference i
      exact hput.congr rfl rfl rfl rfl rfl rfl { hput.counted with }
    · cases hs
  | queue t i file =>
    simp only [step] at hs
    split at hs
    · rename_i hguard
      cases hs
      exact h.queue ⟨rfl, rfl, rfl, rfl, rfl, rfl, rfl, rfl⟩ hguard.1 hguard.2.1 rfl rfl
    · cases hs
  | addLock t =>
    simp only [step] at hs
    split at hs
    · rename_i a ha
      split at hs
      · rename_i hfree
        cases hs
        exact h.addLock ha hfree
      · cases hs
    · cases hs
  | addSpin t =>
    simp only [step] at hs
    split at hs
    · rename_i a ha
      cases hs
      exact h.addSpin ha
    · cases hs
  | addGoal t =>
    simp only [step] at hs
    split at hs
    · rename_i ha
      cases hs
      exact h.addGoal ha
    · cases hs
  | addUnlock t =>
    simp only [step] at hs
    split at hs
    · rename_i ha
      cases hs
      exact h.addUnlock ha
    · cases hs
  | workStart =>
    simp only [step] at hs
    split at hs
    · rename_i hw
      cases hs
      refine h.work rfl rfl rfl (h.mutex.mono fun x hx => ?_) (fun _ hon => hon) nofun { h.counted with }
      cases x with
      | none => exact Bool.noConfusion hx
      | some t => exact hx
    · cases hs
  | workLock =>
    simp only [step] at hs
    split at hs
    · split at hs
      · rename_i hfree
        cases hs
        exact h.workLock hfree
      · cases hs
    · cases hs
  | workSplice =>
    simp only [step] at hs
    split at hs
    · rename_i hw
      cases hs
      exact h.workSplice hw
    · cases hs
  | workIrq =>
    simp only [step] at hs
    split at hs
    · rename_i hw
      cases hs
      exact h.workIrq hw
    · cases hs
  | workClean =>
    have hout : ∀ w, Worker.holds w = false → (∀ l, w ≠ .spliced l false) → GoalInv { s with worker := w } := by
      intro w hw hl
      refine h.work rfl rfl rfl (h.mutex.mono fun x hx => ?_) (fun _ hon => hon) (fun l hl' => absurd hl' (hl l))
        { h.counted with }
      cases x with
      | none => exact absurd hx (by rw [Holds, hw]; exact Bool.false_ne_true)
      | some t => exact hx
    simp only [step] at hs
    split at hs
    · cases hs
      exact hout _ rfl nofun
    · rename_i a rest hw
      cases hs
      have hclean := (hout (.cleaning rest) rfl nofun).unreference (s.files.eaction a).fence
      exact hclean.congr rfl rfl rfl rfl rfl rfl { hclean.counted with }
    · cases hs
  | close file =>
    simp only [step] at hs
    split at hs
    · cases hs
      exact h.congr rfl rfl rfl rfl rfl rfl { h.counted with }
    · cases hs
  | goneUnlink file =>
    simp only [step] at hs
    split at hs
    · cases hs
      exact h.congr rfl rfl rfl rfl rfl rfl { h.counted with }
    · cases hs
  | goneDestroy file =>
    simp only [step] at hs
    split at hs
    · cases hs
      exact h.congr rfl rfl rfl rfl rfl rfl { h.counted with }
    · cases hs

theorem fenceStep_on {act : Fence.Act} (hs : fenceStep s act = some s') : s'.fman.goalIrqOn = s.fman.goalIrqOn := by
  have hc := fenceStep_cases hs
  cases ht : act.thread with
  | some t => exact (step_beside ht hc.noAdd hc.fman).on
  | none =>
    cases act with
    | device seqno =>
      have hf := hc.fman
      simp only [Fence.step] at hf
      split at hf
      · rw [← Option.some.inj hf]
      · cases hf
    | work => exact absurd rfl hc.noWork
    | _ => cases ht

/-- Since the worker started, the goal has not been valid. -/
structure WorkerOff (s : State) : Prop where
  invalid : s.fman.seqnoValid = false
  spliced : ∀ l v, s.worker = .spliced l v → v = false
  /-- Out of the mutex, the worker has turned the interrupt off. -/
  off : (s.worker = .idle ∨ ∃ l, s.worker = .cleaning l) → s.fman.goalIrqOn = false ∧ ∀ t, s.adder t ≠ .goal

/-- The worker stays where it is, and no thread comes to the update. -/
theorem WorkerOff.stay (h : WorkerOff s) (hinvalid : s'.fman.seqnoValid = false) (hworker : s'.worker = s.worker)
    (hon : s'.fman.goalIrqOn = s.fman.goalIrqOn) (hadder : ∀ t, s'.adder t = .goal → s.adder t = .goal) :
    WorkerOff s' where
  invalid := hinvalid
  spliced := by
    rw [hworker]
    exact h.spliced
  off := by
    rw [hworker, hon]
    intro hw
    exact ⟨(h.off hw).1, fun t ht => (h.off hw).2 t (hadder t ht)⟩

theorem Moved.goal {pc : Adder} (m : Moved t pc s s') (hpc : pc ≠ .goal) (t' : ThreadId) (ht : s'.adder t' = .goal) :
    s.adder t' = .goal := by
  by_cases hne : t' = t
  · subst hne
    exact absurd (m.self.symm.trans ht) hpc
  · exact (m.other hne).symm.trans ht

/-- The worker is under the mutex, or about to take it. -/
theorem WorkerOff.under (hinvalid : s.fman.seqnoValid = false) (hw : s.worker = .waiting ∨ s.worker = .locked) :
    WorkerOff s where
  invalid := hinvalid
  spliced l v hl := by
    rw [hl] at hw
    exact hw.elim nofun nofun
  off hout := by
    cases hw with
    | inl hw =>
      rw [hw] at hout
      exact hout.elim nofun nofun
    | inr hw =>
      rw [hw] at hout
      exact hout.elim nofun nofun

theorem WorkerOff.workIrq {list : List ActionId} {seqnoValid : Bool} (h : WorkerOff s) (hi : GoalInv s)
    (hw : s.worker = .spliced list seqnoValid) : WorkerOff (s.workIrq list seqnoValid) := by
  obtain ⟨hadder, -, hvalid, hworker, hon⟩ := workIrq_frame s list seqnoValid
  have hhere : Holds s none := by rw [Holds, hw]; rfl
  have hread : seqnoValid = false := h.spliced list seqnoValid hw
  refine ⟨hvalid.trans h.invalid, ?_, fun _ => ⟨by rw [hon, hread]; rfl, ?_⟩⟩
  · intro l v hl
    rw [hworker] at hl
    split at hl <;> cases hl
  · intro t ht
    rw [hadder] at ht
    have hheld : Holds s (some t) := .inl (by rw [ht]; rfl)
    exact hi.mutex.alone hhere (x := some t) nofun hheld

theorem step_workerOff {act : Act} (h : WorkerOff s) (hi : GoalInv s) (hs : step s act = some s')
    (hinvalid : s'.fman.seqnoValid = false) : WorkerOff s' := by
  cases act with
  | fence act =>
    have hc := fenceStep_cases hs
    exact h.stay hinvalid hc.worker (fenceStep_on hs) fun t ht => hc.adder ▸ ht
  | get i =>
    simp only [step] at hs
    split at hs
    · cases hs
      exact h.stay hinvalid rfl rfl fun _ => id
    · cases hs
  | put i =>
    simp only [step] at hs
    split at hs
    · cases hs
      exact h.stay hinvalid rfl (vmwFenceObjUnreference_frame s i).2.2.2 fun _ => id
    · cases hs
  | queue t i file =>
    simp only [step] at hs
    split at hs
    · cases hs
      have m : Moved t (.queued s.files.nextAction) s
          { (s.vmwFenceObjReference i).setAdder t (.queued s.files.nextAction) with
            files := s.files.queueEvent i file } := ⟨rfl, rfl, rfl, rfl, rfl, rfl, rfl, rfl⟩
      exact h.stay hinvalid rfl rfl (m.goal nofun)
    · cases hs
  | addLock t =>
    simp only [step] at hs
    split at hs
    · rename_i a ha
      split at hs
      · cases hs
        have m : Moved t (.locked a) s ((s.setMutex true).setAdder t (.locked a)) :=
          ⟨rfl, rfl, rfl, rfl, rfl, rfl, rfl, rfl⟩
        exact h.stay hinvalid rfl rfl (m.goal nofun)
      · cases hs
    · cases hs
  | addSpin t =>
    simp only [step] at hs
    split at hs
    · rename_i a ha
      cases hs
      obtain ⟨-, hgoal | hunlock⟩ := addActionLocked_moved s t a
      · rw [hgoal.2] at hinvalid
        cases hinvalid
      · exact h.stay hinvalid hunlock.1.worker hunlock.1.on (hunlock.1.goal nofun)
    · cases hs
  | addGoal t =>
    simp only [step] at hs
    split at hs
    · rename_i ha
      cases hs
      obtain ⟨hadder, hworker, -⟩ := addGoal_frame s t
      refine ⟨hinvalid, by rw [hworker]; exact h.spliced, fun hw => ?_⟩
      rw [hworker] at hw
      exact absurd ha ((h.off hw).2 t)
    · cases hs
  | addUnlock t =>
    simp only [step] at hs
    split at hs
    · cases hs
      have m : Moved t .idle s ((s.setMutex false).setAdder t .idle) := ⟨rfl, rfl, rfl, rfl, rfl, rfl, rfl, rfl⟩
      exact h.stay hinvalid rfl rfl (m.goal nofun)
    · cases hs
  | workStart =>
    simp only [step] at hs
    split at hs
    · cases hs
      exact .under hinvalid (.inl rfl)
    · cases hs
  | workLock =>
    simp only [step] at hs
    split at hs
    · split at hs
      · cases hs
        exact .under hinvalid (.inr rfl)
      · cases hs
    · cases hs
  | workSplice =>
    simp only [step] at hs
    split at hs
    · cases hs
      refine ⟨hinvalid, fun l v hl => ?_, fun hw => hw.elim nofun nofun⟩
      injection hl with hl hv
      exact hv.symm.trans h.invalid
    · cases hs
  | workIrq =>
    simp only [step] at hs
    split at hs
    · rename_i hw
      cases hs
      exact h.workIrq hi hw
    · cases hs
  | workClean =>
    simp only [step] at hs
    split at hs
    · cases hs
      exact .under hinvalid (.inl rfl)
    · rename_i a rest hw
      cases hs
      obtain ⟨-, -, -, hon⟩ := vmwFenceObjUnreference_frame s (s.files.eaction a).fence
      exact ⟨hinvalid, nofun, fun _ => ⟨hon.trans (h.off (.inr ⟨_, hw⟩)).1, (h.off (.inr ⟨_, hw⟩)).2⟩⟩
    · cases hs
  | close file =>
    simp only [step] at hs
    split at hs
    · cases hs
      exact h.stay hinvalid rfl rfl fun _ => id
    · cases hs
  | goneUnlink file =>
    simp only [step] at hs
    split at hs
    · cases hs
      exact h.stay hinvalid rfl rfl fun _ => id
    · cases hs
  | goneDestroy file =>
    simp only [step] at hs
    split at hs
    · cases hs
      exact h.stay hinvalid rfl rfl fun _ => id
    · cases hs

end Steps

/-- The goal interrupt and its waiters, out of the mutex. -/
structure GoalBalanced (s : State) : Prop where
  on : s.fman.seqnoValid = true → s.fman.goalIrqOn = true
  waiters : s.fman.goalIrqOn = true ↔ s.goalWaiterAdds = s.goalWaiterRemoves + 1

theorem GoalInv.balanced {s : State} (h : GoalInv s) (hfree : s.fman.goalIrqMutex = false) : GoalBalanced s where
  on hv := by
    cases h.valid hv with
    | inl hon => exact hon
    | inr hgoal =>
      obtain ⟨t, ht⟩ := hgoal
      have hheld : Holds s (some t) := .inl (by rw [ht]; rfl)
      have hm := h.mutex.held _ hheld
      rw [hfree] at hm
      cases hm
  waiters := by
    rw [h.counted.adds]
    cases s.fman.goalIrqOn with
    | true => exact ⟨fun _ => rfl, fun _ => rfl⟩
    | false => exact ⟨fun h0 => Bool.noConfusion h0, fun h0 => absurd h0 (Nat.ne_of_lt (Nat.lt_succ_self _))⟩

/-- The step does not make the goal valid. -/
def NotSet (s : State) (act : Act) : Prop := ∀ s', step s act = some s' → s'.fman.seqnoValid = false

theorem run_workerOff {s s' : State} {acts : List Act} (hrun : Run step NotSet s acts s') (hi : GoalInv s)
    (h : WorkerOff s) : WorkerOff s' := by
  have hall : GoalInv s' ∧ WorkerOff s' := by
    apply hrun.invariant (I := fun s => GoalInv s ∧ WorkerOff s)
    · intro s a s' hok hs hinv
      exact ⟨step_goalInv hinv.1 hs, step_workerOff hinv.2 hinv.1 hs (hok s' hs)⟩
    · exact ⟨hi, h⟩
  exact hall.2

/-- While `goal_irq_mutex` is free the goal interrupt is balanced, and a run of the worker
turns it off when the goal stays invalid. -/
theorem goal_irq_balance {n : Nat} {acts : List Act} {s : State}
    (hrun : Run step (fun _ _ => True) (init n) acts s) :
    (s.fman.goalIrqMutex = false → GoalBalanced s) ∧
      ∀ acts' s', s.worker = .idle → s.fman.seqnoValid = false →
        Run step NotSet s (.workStart :: acts') s' → s'.worker = .idle → s'.fman.goalIrqOn = false := by
  have hi : GoalInv s := by
    apply hrun.invariant
    · intro s a s' _ hs hinv
      exact step_goalInv hinv hs
    · exact init_goalInv n
  refine ⟨hi.balanced, ?_⟩
  intro acts' s' hw hv hwork hidle
  cases hwork with
  | cons hok hs hrest =>
    have hstart := step_goalInv hi hs
    simp only [step, hw] at hs
    cases hs
    have hoff := run_workerOff hrest hstart (.under hv (.inl rfl))
    exact (hoff.off (.inl hidle)).1

/-- An event is posted on a fence and the fence passes: the goal becomes invalid, and the
worker turns the interrupt off. -/
theorem goal_irq_balance_oneEvent :
    ∃ s s', Run step (fun _ _ => True) (init 0)
        [.fence (.emit 0), .fence (.create 0 true), .queue 0 0 5, .addLock 0, .addSpin 0, .addGoal 0,
          .fence (.read 0), .fence (.lock 0), .fence (.device 1), .fence (.update 1), .fence (.read 1),
          .fence (.lock 1), .fence (.reread 1)] s ∧
      s.fman.goalIrqOn = true ∧ GoalBalanced s ∧
      Run step NotSet s
        [.workStart, .workLock, .workSplice, .workIrq, .workClean, .workClean, .workLock, .workSplice, .workIrq] s' ∧
      s'.fman.goalIrqOn = false := by
  have h : ((exec step (fun _ _ => true) (init 0)
        [.fence (.emit 0), .fence (.create 0 true), .queue 0 0 5, .addLock 0, .addSpin 0, .addGoal 0,
          .fence (.read 0), .fence (.lock 0), .fence (.device 1), .fence (.update 1), .fence (.read 1),
          .fence (.lock 1), .fence (.reread 1)]).bind fun s =>
      (exec step (fun s act => (step s act).all fun s' => !s'.fman.seqnoValid) s
        [.workStart, .workLock, .workSplice, .workIrq, .workClean, .workClean, .workLock, .workSplice, .workIrq]).map
      fun s' => ((s.fman.goalIrqOn, s.fman.seqnoValid, s.fman.goalIrqMutex),
        decide (s.worker = .idle), decide (s'.worker = .idle))) = some ((true, false, false), true, true) := by
    decide +kernel
  obtain ⟨s, hs, h⟩ := Option.bind_eq_some_iff.mp h
  obtain ⟨s', hs', h⟩ := Option.map_eq_some_iff.mp h
  simp only [Prod.mk.injEq, decide_eq_true_eq] at h
  obtain ⟨⟨hon, hvalid, hfree⟩, hidle, hidle'⟩ := h
  have hrun := (Run.of_exec hs).mono (fun _ _ _ => trivial)
  have hwork : Run step NotSet s _ s' := (Run.of_exec hs').mono (fun s act hok t ht => by simpa [ht] using hok)
  obtain ⟨hbalanced, hoff⟩ := goal_irq_balance hrun
  exact ⟨s, s', hrun, hon, hbalanced hfree, hwork, hoff _ _ hidle hvalid hwork hidle'⟩

end Vmwgfx.Fence.Events
