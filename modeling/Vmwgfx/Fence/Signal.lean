import Vmwgfx.Fence.Goal

/-! Which fences are signaled when an update has finished.  The loop of `vmw_fences_update`
stops at the first fence that has not passed, so it relies on the order of the list. -/

namespace Vmwgfx.Fence

open Vmwgfx.Lib

/-- The list is in the order of the sequence numbers. -/
def InOrder (s : State) : Prop :=
  s.fenceList.Pairwise (fun i j => (s.fence i).seqno ≤ (s.fence j).seqno)

/-- Every fence up to `seqno` is signaled. -/
def SignaledUpTo (s : State) (seqno : Nat) : Prop :=
  ∀ i < s.nextFence, (s.fence i).seqno ≤ seqno → (s.fence i).signaled = true

/-- No fence is signaled before the device has passed it. -/
def SignaledPassed (s : State) : Prop :=
  ∀ i < s.nextFence, (s.fence i).signaled = true → (s.fence i).seqno ≤ s.passed

/-- A fence is listed after those emitted before it, and not behind the back of an update
that has already scanned the list for its number. -/
def ListedInOrder (s : State) : Act → Prop
  | .create t true =>
    match s.pc t with
    | .emitted seqno => (∀ i ∈ s.fenceList, (s.fence i).seqno ≤ seqno) ∧
        ∀ t' read mutex, s.pc t' = .rerun read mutex → read < seqno
    | _ => True
  | _ => True

/-- The step with which a `vmw_fences_update` that last read `seqno` returns. -/
inductive Finishes (s : State) (seqno : Nat) (s' : State) : Act → Prop
  | lock {t : ThreadId} {mutex : Bool} (hpc : s.pc t = .lock seqno mutex)
    (hs : step s (.lock t) = some s') (hidle : s'.pc t = .idle) : Finishes s seqno s' (.lock t)
  | reread {t : ThreadId} {mutex : Bool} (hpc : s.pc t = .rerun seqno mutex)
    (hs : step s (.reread t) = some s') (hidle : s'.pc t = .idle) :
    Finishes s seqno s' (.reread t)

/-- What holds along a run that meets the condition. -/
structure Inv (n : Nat) (s : State) : Prop where
  listed : Listed s
  bounded : Bounded n s
  inOrder : InOrder s
  passed : SignaledPassed s
  scanned : ∀ t seqno mutex, s.pc t = .rerun seqno mutex → SignaledUpTo s seqno

theorem init_inv (n : Nat) : Inv n (init n) where
  listed := init_listed n
  bounded := init_bounded n
  inOrder := List.Pairwise.nil
  passed := by
    intro i hi
    cases hi
  scanned := by
    intro t seqno mutex hpc
    cases hpc

section Frame

variable {n : Nat} {s s' : State}

/-- What a step may do to fences it does not signal. -/
structure Kept (s s' : State) : Prop where
  fenceList : s'.fenceList = s.fenceList
  nextFence : s'.nextFence = s.nextFence
  passed : s.passed ≤ s'.passed
  fence : ∀ i, (s'.fence i).seqno = (s.fence i).seqno ∧
    (s'.fence i).signaled = (s.fence i).signaled

theorem Kept.of_fence (hfence : s'.fence = s.fence) (hlist : s'.fenceList = s.fenceList)
    (hnext : s'.nextFence = s.nextFence) (hpassed : s.passed ≤ s'.passed) : Kept s s' where
  fenceList := hlist
  nextFence := hnext
  passed := hpassed
  fence := by
    intro i
    rw [hfence]
    exact ⟨rfl, rfl⟩

theorem Kept.inOrder (hk : Kept s s') (h : InOrder s) : InOrder s' := by
  unfold InOrder
  rw [hk.fenceList]
  simp only [hk.fence]
  exact h

theorem Kept.signaledPassed (hk : Kept s s') (h : SignaledPassed s) : SignaledPassed s' := by
  intro i hi hs
  rw [(hk.fence i).1]
  rw [(hk.fence i).2] at hs
  exact Nat.le_trans (h i (hk.nextFence ▸ hi) hs) hk.passed

theorem Kept.signaledUpTo (hk : Kept s s') {seqno : Nat} (h : SignaledUpTo s seqno) :
    SignaledUpTo s' seqno := by
  intro i hi hle
  rw [(hk.fence i).2]
  rw [(hk.fence i).1] at hle
  exact h i (hk.nextFence ▸ hi) hle

theorem Kept.scanned (hk : Kept s s')
    (hpc : ∀ t seqno mutex, s'.pc t = .rerun seqno mutex → s.pc t = .rerun seqno mutex)
    (h : ∀ t seqno mutex, s.pc t = .rerun seqno mutex → SignaledUpTo s seqno) :
    ∀ t seqno mutex, s'.pc t = .rerun seqno mutex → SignaledUpTo s' seqno := by
  intro t seqno mutex ht
  exact hk.signaledUpTo (h t seqno mutex (hpc t seqno mutex ht))

/-- A thread that is given another place to be is not about to read again. -/
theorem rerun_of_setPc {t t' : ThreadId} (pc : Pc) {seqno : Nat} {mutex : Bool}
    (hpc : pc ≠ .rerun seqno mutex) (h : (s.setPc t pc).pc t' = .rerun seqno mutex) :
    s.pc t' = .rerun seqno mutex := by
  by_cases ht : t' = t
  · rw [ht, State.setPc_pc_self] at h
    exact absurd h hpc
  · rwa [State.setPc_pc_of_ne s pc ht] at h

end Frame

section Create

variable {s : State} {seqno : Nat}

theorem vmwFenceObjInit_inOrder (hl : Listed s) (hnew : ∀ i ∈ s.fenceList, (s.fence i).seqno ≤ seqno)
    (h : InOrder s) : InOrder (s.vmwFenceObjInit seqno) := by
  have hold : ∀ i ∈ s.fenceList, (s.vmwFenceObjInit seqno).fence i = s.fence i :=
    fun i hi => vmwFenceObjInit_fence_of_lt seqno (hl.lt i hi)
  change (s.fenceList ++ [s.nextFence]).Pairwise _
  apply List.pairwise_append.mpr
  refine ⟨?_, List.pairwise_singleton _ _, ?_⟩
  · apply List.Pairwise.imp_of_mem _ h
    intro i j hi hj hle
    rw [hold i hi, hold j hj]
    exact hle
  · intro i hi j hj
    rw [List.mem_singleton.mp hj, hold i hi, vmwFenceObjInit_fence_new]
    exact hnew i hi

theorem vmwFenceObjInit_signaledPassed (seqno : Nat) (h : SignaledPassed s) :
    SignaledPassed (s.vmwFenceObjInit seqno) := by
  intro i hi hs
  cases Nat.lt_succ_iff_lt_or_eq.mp hi with
  | inl hlt =>
    rw [vmwFenceObjInit_fence_of_lt seqno hlt] at hs ⊢
    exact h i hlt hs
  | inr hnew =>
    rw [hnew, vmwFenceObjInit_fence_new] at hs
    cases hs

theorem vmwFenceObjInit_signaledUpTo {read : Nat} (hread : read < seqno)
    (h : SignaledUpTo s read) : SignaledUpTo (s.vmwFenceObjInit seqno) read := by
  intro i hi hle
  cases Nat.lt_succ_iff_lt_or_eq.mp hi with
  | inl hlt =>
    rw [vmwFenceObjInit_fence_of_lt seqno hlt] at hle ⊢
    exact h i hlt hle
  | inr hnew =>
    rw [hnew, vmwFenceObjInit_fence_new] at hle
    exact absurd hle (Nat.not_le_of_lt hread)

end Create

section Update

variable {n : Nat} {s : State} {seqno : Nat}

/-- What an ordered list leaves behind has not passed. -/
theorem lt_of_mem_left (hlive : Live s seqno) (hw : Window s) (h : InOrder s)
    {i : FenceId} (hi : i ∈ s.left seqno) : seqno < (s.fence i).seqno := by
  have hsub : (s.left seqno).Pairwise (fun i j => (s.fence i).seqno ≤ (s.fence j).seqno) :=
    h.sublist (List.dropWhile_sublist _)
  cases hleft : s.left seqno with
  | nil =>
    rw [hleft] at hi
    cases hi
  | cons j rest =>
    have hne : s.left seqno ≠ [] := by
      rw [hleft]
      exact List.cons_ne_nil j rest
    have hhead : (s.left seqno).head hne = j := by
      simp only [hleft, List.head_cons]
    have hjnot : seqnoPassed seqno (s.fence j).seqno = false := by
      rw [← hhead]
      exact List.head_dropWhile_not (fun i => seqnoPassed seqno (s.fence i).seqno) hne
    have hjmem : j ∈ s.fenceList := mem_of_mem_left (hleft ▸ List.mem_cons_self)
    have hj : seqno < (s.fence j).seqno := by
      apply Nat.lt_of_not_le
      intro hle
      rw [(hw.seqnoPassed_iff hlive (.listed hjmem)).mpr hle] at hjnot
      cases hjnot
    rw [hleft] at hi hsub
    cases hi with
    | head => exact hj
    | tail _ hrest => exact Nat.lt_of_lt_of_le hj (List.rel_of_pairwise_cons hsub hrest)

theorem vmwFencesUpdateLocked_inOrder (hl : Listed s) (h : InOrder s) :
    InOrder (s.vmwFencesUpdateLocked seqno).2 := by
  unfold InOrder
  rw [(vmwFencesUpdateLocked_frame hl.nodup seqno).1]
  simp only [vmwFencesUpdateLocked_seqno hl]
  exact h.sublist (List.dropWhile_sublist _)

theorem vmwFencesUpdateLocked_signaledPassed (hl : Listed s) (hlive : Live s seqno)
    (hw : Window s) (hread : seqno ≤ s.passed) (h : SignaledPassed s) :
    SignaledPassed (s.vmwFencesUpdateLocked seqno).2 := by
  obtain ⟨_, hfence, hnext, hpassed, _⟩ := vmwFencesUpdateLocked_frame hl.nodup seqno
  intro i hi hs
  rw [vmwFencesUpdateLocked_seqno hl, hpassed]
  rw [hfence] at hs
  split at hs
  · rename_i hdue
    have hmem : i ∈ s.fenceList := (List.takeWhile_prefix _).subset hdue
    have hle := (hw.seqnoPassed_iff hlive (.listed hmem)).mp (mem_due hdue)
    exact Nat.le_trans hle hread
  · exact h i (hnext ▸ hi) hs

/-- Every fence the update has passed is signaled. -/
theorem vmwFencesUpdateLocked_signaledUpTo (hl : Listed s) (hlive : Live s seqno)
    (hw : Window s) (h : InOrder s) :
    SignaledUpTo (s.vmwFencesUpdateLocked seqno).2 seqno := by
  obtain ⟨_, hfence, hnext, _⟩ := vmwFencesUpdateLocked_frame hl.nodup seqno
  intro i hi hle
  rw [vmwFencesUpdateLocked_seqno hl] at hle
  rw [hfence]
  split
  · rfl
  · rename_i hdue
    apply hl.signaled i (hnext ▸ hi)
    intro hmem
    rw [← due_append_left s seqno, List.mem_append] at hmem
    cases hmem with
    | inl h' => exact hdue h'
    | inr hleft => exact absurd hle (Nat.not_le_of_lt (lt_of_mem_left hlive hw h hleft))

/-- An update signals more fences, never fewer. -/
theorem vmwFencesUpdateLocked_keeps (hl : Listed s) {read : Nat} (h : SignaledUpTo s read) :
    SignaledUpTo (s.vmwFencesUpdateLocked seqno).2 read := by
  obtain ⟨_, hfence, hnext, _⟩ := vmwFencesUpdateLocked_frame hl.nodup seqno
  intro i hi hle
  rw [vmwFencesUpdateLocked_seqno hl] at hle
  rw [hfence]
  split
  · rfl
  · exact h i (hnext ▸ hi) hle

end Update

section Step

variable {n : Nat} {s s' : State}

theorem Inv.live_lock (h : Inv n s) {t : ThreadId} {seqno : Nat} {mutex : Bool}
    (ht : s.pc t = .lock seqno mutex) : Live s seqno ∧ seqno ≤ s.passed := by
  have hpc := h.bounded.pc t
  rw [ht] at hpc
  exact ⟨.lock ht, hpc.2⟩

theorem step_scanned {a : Act} (hs : step s a = some s') (hw : Window s)
    (hok : ListedInOrder s a) (h : Inv n s) :
    ∀ t seqno mutex, s'.pc t = .rerun seqno mutex → SignaledUpTo s' seqno := by
  intro t' read mutex' hread
  cases a with
  | emit t =>
    simp only [step] at hs
    split at hs
    · cases hs
      exact h.scanned t' read mutex' (rerun_of_setPc (.emitted _) (by simp) hread)
    · cases hs
  | create t ok =>
    simp only [step] at hs
    split at hs
    · rename_i seqno ht
      cases hs
      cases ok with
      | true =>
        have hread : s.pc t' = .rerun read mutex' := rerun_of_setPc .idle (by simp) hread
        simp only [ListedInOrder, ht] at hok
        exact vmwFenceObjInit_signaledUpTo (hok.2 t' read mutex' hread)
          (h.scanned t' read mutex' hread)
      | false => exact h.scanned t' read mutex' (rerun_of_setPc .idle (by simp) hread)
    · cases hs
  | addAction t i action =>
    simp only [step] at hs
    split at hs
    · cases hs
      obtain ⟨hlist, hnext, hpassed, _, hfence⟩ := vmwFenceObjAddAction_frame (s := s) t i action
      have hk : Kept s (s.vmwFenceObjAddAction t i action) := ⟨hlist, hnext, hpassed.ge, hfence⟩
      apply hk.signaledUpTo
      apply h.scanned t' read mutex'
      cases vmwFenceObjAddAction_cases s t i action with
      | inl hres =>
        rw [hres.2] at hread
        exact hread
      | inr hrest =>
        cases hrest with
        | inl hres =>
          rw [hres.2.2] at hread
          exact hread
        | inr hres =>
          rw [hres.2.2] at hread
          exact rerun_of_setPc (s := s) (t := t) (.update true) (by simp) hread
    · cases hs
  | update t =>
    simp only [step] at hs
    split at hs
    · cases hs
      exact h.scanned t' read mutex' (rerun_of_setPc (.update _) (by simp) hread)
    · cases hs
  | read t =>
    simp only [step] at hs
    split at hs
    · cases hs
      exact h.scanned t' read mutex' (rerun_of_setPc (.lock _ _) (by simp) hread)
    · cases hs
  | lock t =>
    simp only [step] at hs
    split at hs
    · rename_i seqno mutex ht
      cases hs
      obtain ⟨hlive, _⟩ := h.live_lock ht
      have hpc := (vmwFencesUpdateLocked_frame h.listed.nodup seqno).2.2.2.2.2
      have hnow := vmwFencesUpdateLocked_signaledUpTo h.listed hlive hw h.inOrder
      have hold : s.pc t' = .rerun read mutex' →
          SignaledUpTo (s.vmwFencesUpdateLocked seqno).2 read :=
        fun hpc' => vmwFencesUpdateLocked_keeps h.listed (h.scanned t' read mutex' hpc')
      split at hread
      · by_cases ht' : t' = t
        · -- the thread that has just scanned the list
          rw [ht', State.setPc_pc_self] at hread
          cases hread
          rw [if_pos ‹_›]
          exact hnow
        · rw [State.setPc_pc_of_ne _ _ ht', hpc] at hread
          rw [if_pos ‹_›]
          exact hold hread
      · have hread := rerun_of_setPc .idle (by simp) hread
        rw [hpc] at hread
        rw [if_neg ‹_›]
        exact hold hread
    · cases hs
  | reread t =>
    simp only [step] at hs
    split at hs
    · cases hs
      split at hread
      · rw [if_pos ‹_›]
        exact h.scanned t' read mutex' (rerun_of_setPc (.lock _ _) (by simp) hread)
      · rw [if_neg ‹_›]
        exact h.scanned t' read mutex' (rerun_of_setPc .idle (by simp) hread)
    · cases hs
  | work =>
    simp only [step] at hs
    split at hs
    · cases hs
      exact h.scanned t' read mutex' hread
    · cases hs
  | device seqno =>
    simp only [step] at hs
    split at hs
    · cases hs
      exact h.scanned t' read mutex' hread
    · cases hs

/-- What a step does to the fences. -/
theorem step_fences {a : Act} (hs : step s a = some s') :
    Kept s s' ∨
    (∃ t seqno, a = .create t true ∧ s.pc t = .emitted seqno ∧
      s' = (s.vmwFenceObjInit seqno).setPc t .idle) ∨
    (∃ t seqno mutex, a = .lock t ∧ s.pc t = .lock seqno mutex ∧
      s'.fence = (s.vmwFencesUpdateLocked seqno).2.fence ∧
      s'.fenceList = (s.vmwFencesUpdateLocked seqno).2.fenceList ∧
      s'.nextFence = (s.vmwFencesUpdateLocked seqno).2.nextFence ∧
      s'.passed = (s.vmwFencesUpdateLocked seqno).2.passed) := by
  cases a with
  | emit t =>
    simp only [step] at hs
    split at hs
    · cases hs
      exact .inl (.of_fence rfl rfl rfl (Nat.le_refl _))
    · cases hs
  | create t ok =>
    simp only [step] at hs
    split at hs
    · rename_i seqno ht
      cases hs
      cases ok with
      | true => exact .inr (.inl ⟨t, seqno, rfl, ht, rfl⟩)
      | false => exact .inl (.of_fence rfl rfl rfl (Nat.le_refl _))
    · cases hs
  | addAction t i action =>
    simp only [step] at hs
    split at hs
    · cases hs
      obtain ⟨hlist, hnext, hpassed, _, hfence⟩ := vmwFenceObjAddAction_frame (s := s) t i action
      exact .inl ⟨hlist, hnext, hpassed.ge, hfence⟩
    · cases hs
  | update t =>
    simp only [step] at hs
    split at hs
    · cases hs
      exact .inl (.of_fence rfl rfl rfl (Nat.le_refl _))
    · cases hs
  | read t =>
    simp only [step] at hs
    split at hs
    · cases hs
      exact .inl (.of_fence rfl rfl rfl (Nat.le_refl _))
    · cases hs
  | lock t =>
    simp only [step] at hs
    split at hs
    · rename_i seqno mutex ht
      cases hs
      refine .inr (.inr ⟨t, seqno, mutex, rfl, ht, ?_⟩)
      split
      · exact ⟨rfl, rfl, rfl, rfl⟩
      · exact ⟨rfl, rfl, rfl, rfl⟩
    · cases hs
  | reread t =>
    simp only [step] at hs
    split at hs
    · cases hs
      split
      · exact .inl (.of_fence rfl rfl rfl (Nat.le_refl _))
      · exact .inl (.of_fence rfl rfl rfl (Nat.le_refl _))
    · cases hs
  | work =>
    simp only [step] at hs
    split at hs
    · cases hs
      exact .inl (.of_fence rfl rfl rfl (Nat.le_refl _))
    · cases hs
  | device seqno =>
    simp only [step] at hs
    split at hs
    · rename_i hok
      cases hs
      exact .inl (.of_fence rfl rfl rfl hok.1.le)
    · cases hs

theorem step_inv {a : Act} (hs : step s a = some s') (hw : Window s)
    (hok : ListedInOrder s a) (h : Inv n s) : Inv n s' := by
  have hscanned := step_scanned hs hw hok h
  have hlisted := step_listed hs h.listed
  have hbounded := step_bounded hs h.listed h.bounded
  cases step_fences hs with
  | inl hk => exact ⟨hlisted, hbounded, hk.inOrder h.inOrder, hk.signaledPassed h.passed, hscanned⟩
  | inr hrest =>
    cases hrest with
    | inl hcreate =>
      obtain ⟨t, seqno, rfl, ht, rfl⟩ := hcreate
      simp only [ListedInOrder, ht] at hok
      have hinOrder := vmwFenceObjInit_inOrder h.listed hok.1 h.inOrder
      have hpassed := vmwFenceObjInit_signaledPassed seqno h.passed
      exact ⟨hlisted, hbounded, hinOrder, hpassed, hscanned⟩
    | inr hlock =>
      obtain ⟨t, seqno, mutex, rfl, ht, hfence, hlist, hnext, hpassed⟩ := hlock
      obtain ⟨hlive, hread⟩ := h.live_lock ht
      have hk : Kept (s.vmwFencesUpdateLocked seqno).2 s' := .of_fence hfence hlist hnext hpassed.ge
      refine ⟨hlisted, hbounded, hk.inOrder ?_, hk.signaledPassed ?_, hscanned⟩
      · exact vmwFencesUpdateLocked_inOrder h.listed h.inOrder
      · exact vmwFencesUpdateLocked_signaledPassed h.listed hlive hw hread h.passed

theorem finishes_signaledUpTo {a : Act} {seqno : Nat} (hf : Finishes s seqno s' a)
    (hw : Window s) (h : Inv n s) : SignaledUpTo s' seqno := by
  cases hf with
  | @lock t mutex hpc hs _ =>
    simp only [step, hpc] at hs
    cases hs
    have hnow :=
      vmwFencesUpdateLocked_signaledUpTo h.listed (h.live_lock hpc).1 hw h.inOrder
    split
    · exact hnow
    · exact hnow
  | @reread t mutex hpc hs hidle =>
    have hscanned := h.scanned t seqno mutex hpc
    simp only [step, hpc] at hs
    cases hs
    split
    · exact hscanned
    · exact hscanned

end Step

/-- When an update that last read `seqno` has finished, the fences up to it are signaled,
and none is that the device has not passed. -/
structure Exact (s : State) (seqno : Nat) : Prop where
  signaled : SignaledUpTo s seqno
  passed : SignaledPassed s

/-- As the code compares the numbers, where they lie in a window. -/
structure ExactMod (s : State) (seqno : Nat) : Prop where
  signaled : ∀ i < s.nextFence,
    (s.fence i).seqno < seqno + 2 ^ 31 → seqno < (s.fence i).seqno + 2 ^ 31 →
    seqnoPassed seqno (s.fence i).seqno = true → (s.fence i).signaled = true
  unsignaled : ∀ i < s.nextFence,
    (s.fence i).seqno < s.passed + 2 ^ 31 → s.passed < (s.fence i).seqno + 2 ^ 31 →
    seqnoPassed s.passed (s.fence i).seqno = false → (s.fence i).signaled = false

theorem Exact.mod {s : State} {seqno : Nat} (h : Exact s seqno) : ExactMod s seqno where
  signaled := by
    intro i hi hlt hlt' hp
    exact h.signaled i hi ((seqnoPassed_iff hlt' hlt).mp hp)
  unsignaled := by
    intro i hi hlt hlt' hp
    cases hs : (s.fence i).signaled with
    | false => rfl
    | true =>
      rw [(seqnoPassed_iff hlt' hlt).mpr (h.passed i hi hs)] at hp
      cases hp

theorem signalling_exact {n seqno : Nat} {as : List Act} {a : Act} {s s' : State}
    (hrun : Run step (fun s a => Window s ∧ ListedInOrder s a) (init n) as s)
    (hw : Window s) (hf : Finishes s seqno s' a) : Exact s' seqno ∧ ExactMod s' seqno := by
  have hinv : Inv n s := by
    apply hrun.invariant (I := Inv n)
    · intro s a s' hok hs h
      exact step_inv hs hok.1 hok.2 h
    · exact init_inv n
  have hpassed : SignaledPassed s' := by
    cases hf with
    | lock hpc hs _ => exact (step_inv hs hw trivial hinv).passed
    | reread hpc hs _ => exact (step_inv hs hw trivial hinv).passed
  have hexact : Exact s' seqno := ⟨finishes_signaledUpTo hf hw hinv, hpassed⟩
  exact ⟨hexact, hexact.mod⟩

/-- Two threads list their fences in the other order than they emitted them.  The update
stops at the later fence and leaves the earlier one, which has passed, unsignaled. -/
theorem listed_late_unsignaled :
    ∃ s s', Run step (fun s _ => Window s) (init 0)
        [.emit 0, .emit 1, .create 1 true, .create 0 true, .device 1, .update 2, .read 2] s ∧
      Window s ∧ Finishes s 1 s' (.lock 2) ∧ 1 < s'.nextFence ∧ (s'.fence 1).seqno = 1 ∧
      seqnoPassed 1 (s'.fence 1).seqno = true ∧ (s'.fence 1).signaled = false := by
  have h : ((exec step (fun s _ => decide (s.markerSeq < 0 + 2 ^ 31 ∧ True)) (init 0)
        [.emit 0, .emit 1, .create 1 true, .create 0 true, .device 1, .update 2, .read 2]).bind
        (fun s => (step s (.lock 2)).map (fun s' => ((s.markerSeq, s.pc 2, s'.pc 2), s'.nextFence,
          (s'.fence 1).seqno, (s'.fence 1).signaled)))) =
      some ((2, .lock 1 false, .idle), 2, 1, false) := by
    decide +kernel
  obtain ⟨s, hexec, hrest⟩ := Option.bind_eq_some_iff.mp h
  obtain ⟨s', hs, hs'⟩ := Option.map_eq_some_iff.mp hrest
  simp only [Prod.mk.injEq] at hs'
  obtain ⟨⟨hmarker, hpc, hidle⟩, hnext, hseqno, hsignaled⟩ := hs'
  obtain ⟨hrun, hw⟩ := run_window (fun _ _ => True)
    ((Run.of_exec hexec).mono (fun _ _ hok => of_decide_eq_true hok))
  refine ⟨s, s', hrun.mono (fun _ _ hok => hok.1), hw (by omega), .lock hpc hs hidle, ?_, hseqno,
    ?_, hsignaled⟩
  · rw [hnext]
    decide
  · rw [hseqno]
    decide

section Alone

/-- What a thread that runs alone has to see to list a fence in order. -/
def listsInOrder (s : State) : Act → Bool
  | .create t _ =>
    match s.pc t with
    | .emitted seqno => s.fenceList.all (fun i => decide ((s.fence i).seqno ≤ seqno))
    | _ => true
  | _ => true

theorem listedInOrder_of_alone {s : State} {a : Act} {t : ThreadId}
    (hidle : ∀ t', t' ≠ t → s.pc t' = .idle) (ha : ∀ t' ∈ a.thread, t' = t)
    (h : listsInOrder s a = true) : ListedInOrder s a := by
  cases a with
  | create t₀ ok =>
    cases ok with
    | false => exact trivial
    | true =>
      have ht₀ : t₀ = t := ha t₀ rfl
      subst ht₀
      cases hpc : s.pc t₀ with
      | emitted seqno =>
        simp only [listsInOrder, hpc, List.all_eq_true, decide_eq_true_eq] at h
        simp only [ListedInOrder, hpc]
        refine ⟨h, ?_⟩
        intro t' read mutex hread
        by_cases ht' : t' = t₀
        · rw [ht', hpc] at hread
          cases hread
        · rw [hidle t' ht'] at hread
          cases hread
      | idle => simp only [ListedInOrder, hpc]
      | update mutex => simp only [ListedInOrder, hpc]
      | lock seqno mutex => simp only [ListedInOrder, hpc]
      | rerun seqno mutex => simp only [ListedInOrder, hpc]
  | _ => exact trivial

theorem run_alone {n : Nat} {t : ThreadId} {as : List Act} {s : State}
    (hrun : Run step (fun s a => (s.markerSeq < n + 2 ^ 31 ∧ listsInOrder s a = true) ∧
      ∀ t' ∈ a.thread, t' = t) (init n) as s) :
    Run step (fun s a => Window s ∧ ListedInOrder s a) (init n) as s ∧
      (s.markerSeq < n + 2 ^ 31 → Window s) := by
  have h : Run step (fun s a => s.markerSeq < n + 2 ^ 31 ∧ ListedInOrder s a) (init n) as s ∧
      Listed s ∧ ∀ t', t' ≠ t → s.pc t' = .idle := by
    apply hrun.strengthen (I := fun s => Listed s ∧ ∀ t', t' ≠ t → s.pc t' = .idle)
    · intro s a s' hok hs h
      refine ⟨⟨hok.1.1, listedInOrder_of_alone h.2 hok.2 hok.1.2⟩, step_listed hs h.1, ?_⟩
      intro t' ht'
      rw [step_pc_of_ne h.1 hs (fun t₀ ht₀ => hok.2 t₀ ht₀ ▸ ht')]
      exact h.2 t' ht'
    · exact ⟨init_listed n, fun _ _ => rfl⟩
  exact run_window _ h.1

end Alone

/-- Of two fences listed in order the one that has passed is signaled. -/
theorem signalling_exact_twoFences :
    ∃ s s', Run step (fun s a => Window s ∧ ListedInOrder s a) (init 0)
        [.emit 0, .create 0 true, .emit 0, .create 0 true, .device 1, .update 0, .read 0] s ∧
      Finishes s 1 s' (.lock 0) ∧ s'.nextFence = 2 ∧ (s'.fence 0).seqno = 1 ∧
      (s'.fence 1).seqno = 2 ∧ s'.passed = 1 ∧ Exact s' 1 ∧ ExactMod s' 1 := by
  have h : ((exec step (fun s a => decide (s.markerSeq < 0 + 2 ^ 31 ∧ listsInOrder s a = true) &&
      decide (∀ t ∈ a.thread, t = 0)) (init 0)
        [.emit 0, .create 0 true, .emit 0, .create 0 true, .device 1, .update 0, .read 0]).bind
        (fun s => (step s (.lock 0)).map (fun s' => ((s.markerSeq, s.pc 0, s'.pc 0), s'.nextFence,
          (s'.fence 0).seqno, (s'.fence 1).seqno, s'.passed)))) =
      some ((2, .lock 1 false, .idle), 2, 1, 2, 1) := by
    decide +kernel
  obtain ⟨s, hexec, hrest⟩ := Option.bind_eq_some_iff.mp h
  obtain ⟨s', hs, hs'⟩ := Option.map_eq_some_iff.mp hrest
  simp only [Prod.mk.injEq] at hs'
  obtain ⟨⟨hmarker, hpc, hidle⟩, hnext, hseqno, hseqno', hpassed⟩ := hs'
  obtain ⟨hrun, hw⟩ := run_alone ((Run.of_exec hexec).mono
    (fun _ _ hok => And.imp of_decide_eq_true of_decide_eq_true (Bool.and_eq_true_iff.mp hok)))
  have hf : Finishes s 1 s' (.lock 0) := .lock hpc hs hidle
  exact ⟨s, s', hrun, hf, hnext, hseqno, hseqno', hpassed, signalling_exact hrun (hw (by omega)) hf⟩

end Vmwgfx.Fence
