import Vmwgfx.Lib.Machine
import Vmwgfx.Fence.Shutdown

/-! `vmw_fence_fifo_down` drains the fence list in every run. -/

namespace Vmwgfx.Fence.Shutdown

open Vmwgfx.Lib

/-- What a thread other than the one in `vmw_fence_fifo_down` leaves as it is. -/
structure Frame (s s' : State) : Prop where
  pc : s'.pc = s.pc
  fifoDown : s'.fifoDown = s.fifoDown
  wasListed : s'.wasListed = s.wasListed
  steps : s'.steps = s.steps
  nextFence : s.nextFence ≤ s'.nextFence
  fenceList : s'.fenceList.Sublist s.fenceList
  down : ∀ i, .down ∈ (s.fence i).refs → .down ∈ (s'.fence i).refs

/-- The changes from `s` to `s'` are made as the lock is in `s`. -/
structure Notes (s s' : State) : Prop where
  locked : s'.locked = s.locked
  changes : ∀ c ∈ s'.changes, c ∈ s.changes ∨ c = s.locked

namespace Notes

variable {s s' s'' : State}

theorem refl (s : State) : Notes s s := ⟨rfl, fun _ => .inl⟩

theorem trans (h : Notes s s') (h' : Notes s' s'') : Notes s s'' where
  locked := h'.locked.trans h.locked
  changes := by
    intro c hc
    rcases h'.changes c hc with hc | hc
    · exact h.changes c hc
    · exact .inr (hc.trans h.locked)

theorem note (h : Notes s s') : Notes s s'.note where
  locked := h.locked
  changes := by
    intro c hc
    rcases List.mem_cons.mp hc with hc | hc
    · exact .inr (hc.trans h.locked)
    · exact h.changes c hc

theorem setFence (s : State) (i : FenceId) (f : Obj) : Notes s (s.setFence i f) := ⟨rfl, fun _ => .inl⟩

theorem performActions (l : List ActionId) (s : State) :
    Notes s (State.vmwFencesPerformActions l s) := by
  induction l generalizing s with
  | nil => exact .refl s
  | cons a l ih =>
    have h : Notes s (s.performAction a) := note ⟨rfl, fun _ => .inl⟩
    exact h.trans (ih _)

theorem listDelInit (s : State) (i : FenceId) : Notes s (s.listDelInit i) :=
  note ⟨rfl, fun _ => .inl⟩

theorem setSignaled (s : State) (i : FenceId) : Notes s (s.setSignaled i) := (setFence s i _).note

theorem spliceActions (s : State) (i : FenceId) : Notes s (s.spliceActions i) :=
  (setFence s i _).note

theorem signal (s : State) (i : FenceId) : Notes s (s.signal i) := by
  apply trans (listDelInit s i)
  apply trans (setSignaled _ i)
  apply trans (spliceActions _ i)
  exact performActions _ _

theorem signalPassed (seqno : Nat) (l : List FenceId) (s : State) :
    Notes s (State.signalPassed seqno l s) := by
  induction l generalizing s with
  | nil => exact .refl s
  | cons i l ih =>
    unfold State.signalPassed
    split
    · exact (signal s i).trans (ih _)
    · exact .refl s

theorem put (s : State) (i : FenceId) (r : Ref) : Notes s (s.put i r) := by
  unfold State.put
  dsimp only
  split
  · exact (setFence s i _).trans (listDelInit _ i)
  · exact setFence s i _

theorem loopTest (s : State) : Notes s s.loopTest := by
  unfold State.loopTest
  split
  · exact ⟨rfl, fun _ => .inl⟩
  · exact ⟨rfl, fun _ => .inl⟩

/-- A critical section adds only changes under the lock. -/
theorem withLock {f : State → State} (hf : ∀ s, Notes s (f s)) (h : ∀ c ∈ s.changes, c = true) :
    ∀ c ∈ (s.withLock f).changes, c = true := by
  intro c hc
  rcases (hf { s with locked := true }).changes c hc with hc | hc
  · exact h c hc
  · exact hc

end Notes

namespace Frame

variable {s s' s'' : State}

theorem refl (s : State) : Frame s s :=
  ⟨rfl, rfl, rfl, rfl, Nat.le_refl _, .refl _, fun _ => id⟩

theorem trans (h : Frame s s') (h' : Frame s' s'') : Frame s s'' where
  pc := h'.pc.trans h.pc
  fifoDown := h'.fifoDown.trans h.fifoDown
  wasListed := h'.wasListed.trans h.wasListed
  steps := h'.steps.trans h.steps
  nextFence := h.nextFence.trans h'.nextFence
  fenceList := h'.fenceList.trans h.fenceList
  down := fun i hi => h'.down i (h.down i hi)

theorem setFence (s : State) (i : FenceId) (f : Obj)
    (h : .down ∈ (s.fence i).refs → .down ∈ f.refs) : Frame s (s.setFence i f) :=
  { refl s with
    down := by
      intro j hj
      by_cases hji : j = i
      · subst hji
        rw [State.setFence_self]
        exact h hj
      · rwa [State.setFence_of_ne s f hji] }

theorem listDelInit (s : State) (i : FenceId) : Frame s (s.listDelInit i) :=
  { refl s with fenceList := List.erase_sublist }

theorem performActions (l : List ActionId) (s : State) :
    Frame s (State.vmwFencesPerformActions l s) := by
  induction l generalizing s with
  | nil => exact .refl s
  | cons a l ih =>
    have h : Frame s (s.performAction a) := { refl s with }
    exact h.trans (ih _)

theorem setSignaled (s : State) (i : FenceId) : Frame s (s.setSignaled i) :=
  { setFence s i { s.fence i with signaled := true } id with }

theorem spliceActions (s : State) (i : FenceId) : Frame s (s.spliceActions i) :=
  { setFence s i { s.fence i with seqPassedActions := [] } id with }

theorem signal (s : State) (i : FenceId) : Frame s (s.signal i) := by
  apply trans (listDelInit s i)
  apply trans (setSignaled _ i)
  apply trans (spliceActions _ i)
  exact performActions _ _

theorem signalPassed (seqno : Nat) (l : List FenceId) (s : State) :
    Frame s (State.signalPassed seqno l s) := by
  induction l generalizing s with
  | nil => exact .refl s
  | cons i l ih =>
    unfold State.signalPassed
    split
    · exact (signal s i).trans (ih _)
    · exact .refl s

theorem get (s : State) (i : FenceId) (r : Ref) : Frame s (s.get i r) :=
  setFence s i _ (List.mem_cons_of_mem r)

theorem put (s : State) (i : FenceId) {r : Ref} (hr : r ≠ .down) : Frame s (s.put i r) := by
  have h : Frame s (s.setFence i { s.fence i with refs := (s.fence i).refs.erase r }) :=
    setFence s i _ (fun hm => (List.mem_erase_of_ne (fun heq => hr heq.symm)).mpr hm)
  unfold State.put
  dsimp only
  split
  · exact h.trans (listDelInit _ i)
  · exact h

theorem withLock {f : State → State} (hf : ∀ s, Frame s (f s)) : Frame s (s.withLock f) := by
  have h : Frame s { s with locked := true } := { refl s with }
  have h' := h.trans (hf { s with locked := true })
  exact { h' with }

theorem actionCreate (s : State) (i : FenceId) : Frame s (s.actionCreate i) :=
  { get s i (.action s.nextAction) with }

theorem addAction (s : State) (i : FenceId) (a : ActionId) :
    Frame s (s.vmwFenceObjAddAction i a) := by
  apply withLock
  intro s
  split
  · exact performActions _ s
  · exact { setFence s i
      { s.fence i with seqPassedActions := (s.fence i).seqPassedActions ++ [a] } id with }

end Frame

/-- The fence `vmw_fence_fifo_down` knows to be off the list. -/
def Pc.off? : Pc → Option FenceId
  | .mark i | .splice i | .perform i _ | .relock i => some i
  | .idle | .wait _ | .unlink _ | .destroyed | .done | .bug => none

/-- The fences it has still to wait for, after the present one. -/
def State.rest (s : State) : Nat :=
  match s.pc.fence? with
  | some i => (s.fenceList.erase i).length
  | none => s.fenceList.length

/-- What `vmw_fence_fifo_down` relies on from step to step. -/
structure Loop (s : State) : Prop where
  closed : s.pc ≠ .idle → s.fifoDown = true
  held : ∀ i, s.pc.fence? = some i → .down ∈ (s.fence i).refs
  off : ∀ i, s.pc.off? = some i → i ∉ s.fenceList
  noBug : s.pc ≠ .bug
  empty : s.pc = .done → s.fenceList = []
  were : ∀ i ∈ s.wasListed, i < s.nextFence
  bounded : s.steps + s.pc.rank s.rest ≤ 7 * s.wasListed.length

theorem Pc.rank_mono {m n : Nat} (h : m ≤ n) (pc : Pc) : pc.rank m ≤ pc.rank n := by
  cases pc <;> simp only [Pc.rank] <;> omega

/-- The exceptions the forced path makes are those of its place. -/
def Sound (s : State) : Prop :=
  Inv (fun i => s.pc = .mark i) (fun i => s.pc = .splice i) s.pc.actionList s

theorem Sound.at {s : State} {pc : Pc} (h : Sound s) (hpc : s.pc = pc) :
    Inv (fun i => pc = .mark i) (fun i => pc = .splice i) pc.actionList s := by
  subst hpc
  exact h

section Steps

variable {s s' : State}

theorem Frame.rest (h : Frame s s') : s'.rest ≤ s.rest := by
  unfold State.rest
  rw [h.pc]
  split
  · exact (h.fenceList.erase _).length_le
  · exact h.fenceList.length_le

theorem Loop.frame (h : Loop s) (hf : Frame s s') : Loop s' where
  closed := by
    rw [hf.pc, hf.fifoDown]
    exact h.closed
  held := by
    intro i hi
    exact hf.down i (h.held i (hf.pc ▸ hi))
  off := by
    intro i hi hm
    exact h.off i (hf.pc ▸ hi) (hf.fenceList.subset hm)
  noBug := hf.pc.symm ▸ h.noBug
  empty := by
    intro hpc
    have hnil := h.empty (hf.pc ▸ hpc)
    exact List.sublist_nil.mp (hnil ▸ hf.fenceList)
  were := by
    intro i hi
    exact Nat.lt_of_lt_of_le (h.were i (hf.wasListed ▸ hi)) hf.nextFence
  bounded := by
    have := Pc.rank_mono hf.rest s.pc
    have := h.bounded
    rw [hf.pc, hf.steps, hf.wasListed]
    omega

theorem Sound.frame (h : Inv (fun i => s.pc = .mark i) (fun i => s.pc = .splice i) s.pc.actionList s')
    (hf : Frame s s') : Sound s' := by
  unfold Sound
  rw [hf.pc]
  exact h

/-- Between two rounds. -/
theorem loopTest_spec (h : Inv (fun _ => False) (fun _ => False) [] s) (hclosed : s.fifoDown = true)
    (hwere : ∀ i ∈ s.wasListed, i < s.nextFence)
    (hbounded : s.steps + 7 * s.fenceList.length ≤ 7 * s.wasListed.length) :
    Sound s.loopTest ∧ Loop s.loopTest := by
  unfold State.loopTest
  split
  case h_1 hnone =>
    have hnil := List.getLast?_eq_none_iff.mp hnone
    constructor
    · exact { h.mono (fun _ => False.elim) (fun _ => False.elim) with }
    · exact
      { closed := fun _ => hclosed
        held := by
          intro i hi
          cases hi
        off := by
          intro i hi
          cases hi
        noBug := Pc.noConfusion
        empty := fun _ => hnil
        were := hwere
        bounded := by
          simp only [Pc.rank]
          omega }
  case h_2 i hi =>
    have hm := List.mem_of_getLast? hi
    have hpos := List.length_pos_of_mem hm
    constructor
    · exact
      { (h.get (h.listed i hm).2 (fun _ => Ref.noConfusion)).mono (fun _ => False.elim)
          (fun _ => False.elim) with }
    · exact
      { closed := fun _ => hclosed
        held := by
          intro j hj
          cases hj
          simp [State.get]
        off := by
          intro j hj
          cases hj
        noBug := Pc.noConfusion
        empty := by
          intro hpc
          cases hpc
        were := hwere
        bounded := by
          show s.steps + (7 * (s.fenceList.erase i).length + 7) ≤ _
          rw [List.length_erase_of_mem hm]
          show _ ≤ 7 * s.wasListed.length
          omega }

theorem create_spec {seqno : Nat} (h : Sound s) (hl : Loop s) :
    Sound (s.vmwFenceObjInit seqno) ∧ Loop (s.vmwFenceObjInit seqno) := by
  have hpc : (s.vmwFenceObjInit seqno).pc = s.pc := by
    unfold State.vmwFenceObjInit State.withLock
    dsimp only
    split <;> rfl
  constructor
  · unfold Sound
    rw [hpc]
    exact h.create
  · unfold State.vmwFenceObjInit State.withLock
    dsimp only
    split
    case isTrue =>
      exact { hl with }
    case isFalse hdown =>
      have hidle : s.pc = .idle := by
        by_contra hne
        exact hdown (hl.closed hne)
      exact
      { closed := fun hne => absurd hidle hne
        held := by
          intro i hi
          change s.pc.fence? = some i at hi
          rw [hidle] at hi
          cases hi
        off := by
          intro i hi
          change s.pc.off? = some i at hi
          rw [hidle] at hi
          cases hi
        noBug := hl.noBug
        empty := by
          intro hdone
          change s.pc = .done at hdone
          rw [hidle] at hdone
          cases hdone
        were := fun i hi => Nat.lt_succ_of_lt (hl.were i hi)
        bounded := by
          have := hl.bounded
          rw [hidle] at this
          show s.steps + s.pc.rank _ ≤ 7 * s.wasListed.length
          rw [hidle]
          exact this }

theorem down_spec (h : Sound s) (hpc : s.pc = .idle ∨ s.pc = .done) :
    Sound s.vmwFenceFifoDown ∧ Loop s.vmwFenceFifoDown := by
  have hi : Inv (fun _ => False) (fun _ => False) []
      { s with locked := true, fifoDown := true, wasListed := s.fenceList, steps := 0 } := by
    rcases hpc with hpc | hpc
    · exact { (h.at hpc).mono (fun _ => Pc.noConfusion) (fun _ => Pc.noConfusion) with }
    · exact { (h.at hpc).mono (fun _ => Pc.noConfusion) (fun _ => Pc.noConfusion) with }
  obtain ⟨hsound, hloop⟩ := loopTest_spec hi rfl
    (fun i hi' => hi.born i (hi.listed i hi').2) (by simp)
  exact ⟨{ hsound with }, { hloop with }⟩

theorem State.put_fenceList {i : FenceId} (r : Ref) (hi : i ∉ s.fenceList) :
    (s.put i r).fenceList = s.fenceList := by
  unfold State.put
  dsimp only
  split
  · exact List.erase_of_not_mem hi
  · rfl

theorem State.put_frame (s : State) (i : FenceId) (r : Ref) :
    (s.put i r).nextFence = s.nextFence ∧ (s.put i r).fifoDown = s.fifoDown ∧
      (s.put i r).wasListed = s.wasListed ∧ (s.put i r).steps = s.steps := by
  unfold State.put
  dsimp only
  split <;> exact ⟨rfl, rfl, rfl, rfl⟩

theorem endRound_spec {i : FenceId} (h : Sound s) (hl : Loop s) (hpc : s.pc = .relock i) :
    Sound (s.count.endRound i) ∧ Loop (s.count.endRound i) := by
  have hoff : i ∉ s.fenceList := hl.off i (by rw [hpc]; rfl)
  have hheld : .down ∈ (s.fence i).refs := hl.held i (by rw [hpc]; rfl)
  have hi : Inv (fun _ => False) (fun _ => False) [] { s.count with locked := true } := by
    exact { (h.at hpc).mono (fun _ => Pc.noConfusion) (fun _ => Pc.noConfusion) with }
  have hput : Inv (fun _ => False) (fun _ => False) []
      (({ s.count with locked := true } : State).put i .down) :=
    hi.put hheld (fun _ => rfl)
  obtain ⟨hnextFence, hdown, hwasListed, hsteps⟩ :=
    State.put_frame { s.count with locked := true } i .down
  have hlist := State.put_fenceList (s := { s.count with locked := true }) .down hoff
  have hclosed := hl.closed (by rw [hpc]; exact Pc.noConfusion)
  have hbounded : s.steps + 1 + (7 * s.fenceList.length + 1) ≤ 7 * s.wasListed.length := by
    have hb := hl.bounded
    rw [State.rest, hpc] at hb
    simp only [Pc.rank, Pc.fence?, List.erase_of_not_mem hoff] at hb
    omega
  unfold State.endRound State.withLock
  dsimp only
  rw [if_neg (show i ∉ s.count.fenceList from hoff)]
  generalize ({ s.count with locked := true } : State).put i .down = t at *
  split
  case isTrue =>
    constructor
    · exact { hput.mono (fun _ => False.elim) (fun _ => False.elim) with }
    · exact
      { closed := fun _ => hdown.trans hclosed
        held := by
          intro j hj
          cases hj
        off := by
          intro j hj
          cases hj
        noBug := Pc.noConfusion
        empty := Pc.noConfusion
        were := by
          intro j hj
          change j ∈ t.wasListed at hj
          show j < t.nextFence
          rw [hnextFence]
          exact hl.were j (hwasListed ▸ hj)
        bounded := by
          show t.steps + (7 * t.fenceList.length + 1) ≤ 7 * t.wasListed.length
          rw [hsteps, hwasListed, hlist]
          exact hbounded }
  case isFalse =>
    obtain ⟨hsound, hloop⟩ := loopTest_spec hput (hdown.trans hclosed)
      (by
        rw [hwasListed, hnextFence]
        exact hl.were)
      (by
        rw [hsteps, hwasListed, hlist]
        show s.steps + 1 + 7 * s.fenceList.length ≤ 7 * s.wasListed.length
        omega)
    exact ⟨{ hsound with }, { hloop with }⟩

theorem test_spec (h : Sound s) (hl : Loop s) (hpc : s.pc = .destroyed) :
    Sound (s.count.withLock State.loopTest) ∧ Loop (s.count.withLock State.loopTest) := by
  have hi : Inv (fun _ => False) (fun _ => False) [] { s.count with locked := true } := by
    exact { (h.at hpc).mono (fun _ => Pc.noConfusion) (fun _ => Pc.noConfusion) with }
  have hbounded : s.steps + 1 + 7 * s.fenceList.length ≤ 7 * s.wasListed.length := by
    have hb := hl.bounded
    rw [State.rest, hpc] at hb
    simp only [Pc.rank, Pc.fence?] at hb
    omega
  obtain ⟨hsound, hloop⟩ := loopTest_spec hi (hl.closed (by rw [hpc]; exact Pc.noConfusion)) hl.were
    hbounded
  exact ⟨{ hsound with }, { hloop with }⟩

/-- A step of the call between two critical sections. -/
theorem Loop.move (hl : Loop s) (pc : Pc) {i : FenceId} (hpc : s.pc.fence? = some i)
    (hpc' : pc.fence? = some i) (hs' : Frame { s.count with pc := pc } s')
    (hoff : pc.off? = some i → i ∉ s'.fenceList) (hrank : ∀ n, pc.rank n + 1 ≤ s.pc.rank n) :
    Loop s' := by
  have hne : pc ≠ .idle ∧ pc ≠ .done ∧ pc ≠ .bug := by
    refine ⟨?_, ?_, ?_⟩ <;> intro heq <;> rw [heq] at hpc' <;> cases hpc'
  have hrest : (s.fenceList.erase i).length = s.rest := by
    rw [State.rest, hpc]
  have hclosed : s.fifoDown = true := by
    apply hl.closed
    intro heq
    rw [heq] at hpc
    cases hpc
  exact
  { closed := fun _ => hs'.fifoDown.trans hclosed
    held := by
      intro j hj
      apply hs'.down j
      rw [hs'.pc] at hj
      cases hpc'.symm.trans hj
      exact hl.held i hpc
    off := by
      intro j hj
      rw [hs'.pc] at hj
      have hfence : pc.fence? = some j := by
        cases pc <;> cases hj <;> rfl
      cases hpc'.symm.trans hfence
      exact hoff hj
    noBug := hs'.pc.symm ▸ hne.2.2
    empty := fun hdone => absurd (hs'.pc.symm.trans hdone) hne.2.1
    were := by
      intro j hj
      exact Nat.lt_of_lt_of_le (hl.were j (hs'.wasListed ▸ hj)) hs'.nextFence
    bounded := by
      have hmono := Pc.rank_mono hs'.rest pc
      have hdrop : State.rest { s.count with pc := pc } = s.rest := by
        rw [← hrest]
        simp only [State.rest, State.count, hpc']
      have := hrank s.rest
      have := hl.bounded
      rw [hdrop] at hmono
      rw [hs'.pc, hs'.steps, hs'.wasListed]
      show s.steps + 1 + pc.rank s'.rest ≤ 7 * s.wasListed.length
      omega }

theorem force_spec (h : Sound s) (hl : Loop s) (hstep : s.count.force = some s') :
    Sound s' ∧ Loop s' := by
  unfold State.force at hstep
  split at hstep
  case h_1 i hpc =>
    change s.pc = _ at hpc
    cases hstep
    have hi : Inv (fun j => Pc.unlink i = .mark j) (fun j => Pc.unlink i = .splice j) [] s.count :=
      { h.at hpc with }
    constructor
    · exact
      { (hi.listDelInit i).mono
          (by
            rintro j (heq | heq)
            · exact congrArg Pc.mark heq.symm
            · cases heq)
          (fun _ => Pc.noConfusion) with }
    · apply hl.move (.mark i) (by rw [hpc]; rfl) rfl
      · exact Frame.listDelInit { s.count with pc := .mark i } i
      · exact fun _ => h.nodup.not_mem_erase
      · intro n
        rw [hpc]
        exact Nat.le_refl _
  case h_2 i hpc =>
    change s.pc = _ at hpc
    cases hstep
    have hoff : i ∉ s.fenceList := hl.off i (by rw [hpc]; rfl)
    have hi : Inv (fun j => j = i ∨ False) (fun _ => False) [] s :=
      (h.at hpc).mono (fun j heq => .inl (Pc.mark.inj heq).symm) (fun _ => Pc.noConfusion)
    have hi : Inv (fun j => j = i ∨ False) (fun _ => False) [] s.count := { hi with }
    constructor
    · exact
      { (hi.setSignaled hoff).mono (fun _ => False.elim)
          (by
            rintro j (heq | heq)
            · exact congrArg Pc.splice heq.symm
            · cases heq) with }
    · apply hl.move (.splice i) (by rw [hpc]; rfl) rfl
      · exact Frame.setSignaled { s.count with pc := .splice i } i
      · exact fun _ => hoff
      · intro n
        rw [hpc]
        exact Nat.le_refl _
  case h_3 i hpc =>
    change s.pc = _ at hpc
    cases hstep
    have hoff : i ∉ s.fenceList := hl.off i (by rw [hpc]; rfl)
    have hi : Inv (fun _ => False) (fun j => j = i ∨ False) [] s :=
      (h.at hpc).mono (fun _ => Pc.noConfusion) (fun j heq => .inl (Pc.splice.inj heq).symm)
    have hi : Inv (fun _ => False) (fun j => j = i ∨ False) [] s.count := { hi with }
    have hspliced := hi.spliceActions
    rw [List.append_nil] at hspliced
    constructor
    · exact { hspliced.mono (fun _ => False.elim) (fun _ => False.elim) with }
    · apply hl.move (.perform i (s.fence i).seqPassedActions) (by rw [hpc]; rfl) rfl
      · exact Frame.spliceActions
          { s.count with pc := .perform i (s.fence i).seqPassedActions } i
      · exact fun _ => hoff
      · intro n
        rw [hpc]
        exact Nat.le_refl _
  case h_4 i l hpc =>
    change s.pc = _ at hpc
    cases hstep
    have hoff : i ∉ s.fenceList := hl.off i (by rw [hpc]; rfl)
    have hi : Inv (fun _ => False) (fun _ => False) l s :=
      (h.at hpc).mono (fun _ => Pc.noConfusion) (fun _ => Pc.noConfusion)
    have hi : Inv (fun _ => False) (fun _ => False) (l ++ []) s.count := by
      rw [List.append_nil]
      exact { hi with }
    constructor
    · exact { hi.performActions.mono (fun _ => False.elim) (fun _ => False.elim) with }
    · have hframe := Frame.performActions l s.count
      apply hl.move (.relock i) (by rw [hpc]; rfl) rfl
      · exact { hframe with pc := rfl }
      · exact fun _ hm => hoff (hframe.fenceList.subset hm)
      · intro n
        rw [hpc]
        exact Nat.le_refl _
  all_goals cases hstep

/-- One step of any thread. -/
theorem step_spec {a : Act} (hstep : step s a = some s') (h : Sound s ∧ Loop s) :
    Sound s' ∧ Loop s' := by
  obtain ⟨h, hl⟩ := h
  have other : ∀ {t}, Inv (fun i => s.pc = .mark i) (fun i => s.pc = .splice i) s.pc.actionList t →
      Frame s t → Sound t ∧ Loop t := fun hi hf => ⟨.frame hi hf, hl.frame hf⟩
  cases a with
  | create seqno =>
    cases hstep
    exact create_spec h hl
  | reference i =>
    obtain ⟨hi, hstep⟩ := Option.ite_none_right_eq_some.mp hstep
    cases hstep
    exact other (h.get (List.ne_nil_of_mem hi) (fun _ => Ref.noConfusion)) (.get s i _)
  | unreference i =>
    obtain ⟨hi, hstep⟩ := Option.ite_none_right_eq_some.mp hstep
    cases hstep
    apply other _ (.withLock fun s => .put s i Ref.noConfusion)
    have hput : Inv _ _ _ (({ s with locked := true } : State).put i .owner) :=
      Inv.put (s := { s with locked := true }) { h with } hi (fun _ => rfl)
    exact { hput with }
  | addAction i =>
    obtain ⟨hi, hstep⟩ := Option.ite_none_right_eq_some.mp hstep
    cases hstep
    exact other (h.addAction (List.ne_nil_of_mem hi)) (.trans (.actionCreate s i) (.addAction _ i _))
  | update seqno =>
    cases hstep
    apply other
    · exact h.withLock fun s h => h.signalPassed seqno s.fenceList
    · exact .withLock fun s => .signalPassed seqno s.fenceList s
  | workSplice =>
    obtain ⟨hwork, hstep⟩ := Option.ite_none_right_eq_some.mp hstep
    cases hstep
    exact other (h.workSplice hwork) { Frame.refl s with }
  | workCleanup =>
    dsimp only [step] at hstep
    split at hstep
    case h_1 => cases hstep
    case h_2 a rest hwork =>
      cases hstep
      have hlt := h.waiting a (.inr (by rw [hwork]; exact List.mem_cons_self))
      have hheld : .action a ∈ (s.fence (s.actionFence a)).refs := by
        apply List.count_pos_iff.mp
        rw [h.refs a hlt, hwork, List.count_cons_self]
        omega
      have hput : Inv _ _ _ (({ s with locked := true, work := rest } : State).put _ (.action a)) :=
        Inv.put (s := { s with locked := true }) { h with } hheld (by
          intro b
          show rest.count b + _ = s.work.count b
          rw [hwork, List.count_cons]
          simp only [Ref.action.injEq, beq_iff_eq])
      have hframe : Frame s { s with work := rest } := { Frame.refl s with }
      exact other { hput with } (hframe.trans (.withLock fun s => .put s _ Ref.noConfusion))
  | fifoDown =>
    obtain ⟨hpc, hstep⟩ := Option.ite_none_right_eq_some.mp hstep
    cases hstep
    exact down_spec h hpc
  | signaled =>
    dsimp only [step] at hstep
    split at hstep
    case h_1 i hpc =>
      obtain ⟨hsig, hstep⟩ := Option.ite_none_right_eq_some.mp hstep
      cases hstep
      have hoff : i ∉ s.fenceList := by
        intro hm
        rw [(h.listed i hm).1] at hsig
        cases hsig
      constructor
      · exact { (h.at hpc).mono (fun _ => Pc.noConfusion) (fun _ => Pc.noConfusion) with }
      · apply hl.move (.relock i) (by rw [hpc]; rfl) rfl (.refl _) (fun _ => hoff)
        intro n
        rw [hpc]
        simp only [Pc.rank]
        omega
    case h_2 => cases hstep
  | timeout =>
    dsimp only [step] at hstep
    split at hstep
    case h_1 i hpc =>
      obtain ⟨-, hstep⟩ := Option.ite_none_left_eq_some.mp hstep
      cases hstep
      constructor
      · exact { (h.at hpc).mono (fun _ => Pc.noConfusion) (fun _ => Pc.noConfusion) with }
      · apply hl.move (.unlink i) (by rw [hpc]; rfl) rfl (.refl _)
        · intro hoff
          cases hoff
        · intro n
          rw [hpc]
          exact Nat.le_refl _
    case h_2 => cases hstep
  | force => exact force_spec h hl hstep
  | relock =>
    dsimp only [step] at hstep
    split at hstep
    case h_1 i hpc =>
      cases hstep
      exact endRound_spec h hl hpc
    case h_2 => cases hstep
  | test =>
    obtain ⟨hpc, hstep⟩ := Option.ite_none_right_eq_some.mp hstep
    cases hstep
    exact test_spec h hl hpc
  | fifoUp =>
    obtain ⟨hpc, hstep⟩ := Option.ite_none_right_eq_some.mp hstep
    cases hstep
    constructor
    · exact { (h.at hpc).mono (fun _ => Pc.noConfusion) (fun _ => Pc.noConfusion) with }
    · have hb := hl.bounded
      rw [hpc] at hb
      exact
      { hl with
        closed := fun hne => absurd rfl hne
        held := by
          intro i hi
          cases hi
        off := by
          intro i hi
          cases hi
        noBug := Pc.noConfusion
        empty := Pc.noConfusion
        bounded := hb }

theorem drains (h : Sound s) (hl : Loop s) : Drains s where
  bounded := by
    have := hl.bounded
    omega
  progress := by
    intro hrun
    cases hpc : s.pc with
    | wait i =>
      by_cases hsig : (s.fence i).signaled = true
      · exact ⟨.signaled, rfl, by simp [step, hpc, hsig]⟩
      · exact ⟨.timeout, rfl, by simp [step, hpc, hsig]⟩
    | unlink | mark | splice | perform =>
      exact ⟨.force, rfl, by simp [step, State.force, State.count, hpc]⟩
    | relock => exact ⟨.relock, rfl, by simp [step, hpc]⟩
    | destroyed => exact ⟨.test, rfl, by simp [step, hpc]⟩
    | bug => exact absurd hpc hl.noBug
    | idle | done =>
      rw [hpc] at hrun
      cases hrun
  noBug := hl.noBug
  held := fun i hi => List.ne_nil_of_mem (hl.held i hi)
  closed := by
    intro hpc seqno
    simp only [State.vmwFenceObjInit, State.withLock, hl.closed hpc, if_true]
  empty := hl.empty
  signaled := by
    intro hpc i hi href
    have hnot : i ∉ s.fenceList := by
      rw [hl.empty hpc]
      exact List.not_mem_nil
    rcases (h.at hpc).unlisted i (hl.were i hi) hnot with hsig | hnil | hu
    · exact hsig
    · exact absurd hnil href
    · cases hu
  ran := by
    intro hpc a ha hi
    have hdone := h.at hpc
    have hnot : s.actionFence a ∉ s.fenceList := by
      rw [hl.empty hpc]
      exact List.not_mem_nil
    have hnone : (s.fence (s.actionFence a)).seqPassedActions.count a = 0 := by
      rcases hdone.unlisted _ (hdone.target a ha) hnot with hsig | hnil | hu
      · rcases hdone.exhausted _ hsig with hnil | hA
        · rw [hnil, List.count_nil]
        · cases hA
      · -- an action that has not run holds a reference to its fence
        have := hdone.refs a ha
        rw [hnil, List.count_nil] at this
        omega
      · cases hu
    have hruns : s.runs a = 1 := by
      have := hdone.once a ha
      rw [hnone, Pc.actionList, List.count_nil] at this
      omega
    exact ⟨hruns, (hdone.handed a).trans hruns⟩

theorem init_spec : Sound init ∧ Loop init := by
  constructor
  · exact
    { nodup := List.nodup_nil
      listed := fun _ => List.not_mem_nil.elim
      unlisted := fun _ hi => absurd hi (Nat.not_lt_zero _)
      exhausted := fun _ hi => Bool.noConfusion hi
      born := fun _ hi => absurd rfl hi
      attached := fun _ _ => List.not_mem_nil.elim
      target := fun _ ha => absurd ha (Nat.not_lt_zero _)
      taken := fun _ => List.not_mem_nil.elim
      waiting := by
        rintro a (ha | ha)
        · cases ha
        · cases ha
      once := fun _ ha => absurd ha (Nat.not_lt_zero _)
      fresh := fun _ _ => rfl
      handed := fun _ => rfl
      holder := fun _ _ => List.not_mem_nil.elim
      refs := fun _ ha => absurd ha (Nat.not_lt_zero _) }
  · exact
    { closed := fun _ => rfl
      held := by
        intro i hi
        cases hi
      off := by
        intro i hi
        cases hi
      noBug := Pc.noConfusion
      empty := fun _ => rfl
      were := fun _ => List.not_mem_nil.elim
      bounded := Nat.le_refl _ }

/-- Also where waits time out. -/
theorem Run.drains {ok : State → Act → Prop} {as : List Act} (hrun : Run step ok init as s) :
    Drains s := by
  obtain ⟨h, hl⟩ := hrun.invariant (fun _ _ _ _ hstep h => step_spec hstep h) init_spec
  exact Shutdown.drains h hl

/-- `vmw_fence_fifo_down` is in the statements behind a wait that has timed out. -/
def Pc.Forced : Pc → Prop
  | .unlink _ | .mark _ | .splice _ | .perform _ _ => True
  | .idle | .wait _ | .relock _ | .destroyed | .done | .bug => False

/-- No change has been made without the lock, and none is about to be. -/
structure Quiet (s : State) : Prop where
  forced : ¬ s.pc.Forced
  changes : ∀ c ∈ s.changes, c = true

theorem loopTest_forced (s : State) : ¬ s.loopTest.pc.Forced := by
  unfold State.loopTest
  split <;> exact id

theorem Quiet.section {f : State → State} (h : Quiet s) (hf : ∀ s, Notes s (f s))
    (hpc : (s.withLock f).pc = s.pc) : Quiet (s.withLock f) where
  forced := hpc.symm ▸ h.forced
  changes := Notes.withLock hf h.changes

theorem step_quiet {a : Act} (hstep : step s a = some s') (ha : a ≠ .timeout) (h : Quiet s) :
    Quiet s' := by
  cases a with
  | create seqno =>
    cases hstep
    apply h.section
    · intro s
      split
      · exact .refl s
      · exact .note ⟨rfl, fun _ => .inl⟩
    · unfold State.withLock
      dsimp only
      split <;> rfl
  | reference i =>
    obtain ⟨-, hstep⟩ := Option.ite_none_right_eq_some.mp hstep
    cases hstep
    exact { h with }
  | unreference i =>
    obtain ⟨-, hstep⟩ := Option.ite_none_right_eq_some.mp hstep
    cases hstep
    exact h.section (fun s => .put s i _) (Frame.withLock fun s => .put s i Ref.noConfusion).pc
  | addAction i =>
    obtain ⟨-, hstep⟩ := Option.ite_none_right_eq_some.mp hstep
    cases hstep
    have h : Quiet (s.actionCreate i) := { h with }
    apply h.section _ (Frame.addAction _ i _).pc
    intro s
    split
    · exact .performActions _ s
    · exact .note (.setFence s i _)
  | update seqno =>
    cases hstep
    exact h.section (fun s => .signalPassed seqno s.fenceList s)
      (Frame.withLock fun s => .signalPassed seqno s.fenceList s).pc
  | workSplice =>
    obtain ⟨-, hstep⟩ := Option.ite_none_right_eq_some.mp hstep
    cases hstep
    exact h.section (fun s => .note ⟨rfl, fun _ => .inl⟩) rfl
  | workCleanup =>
    dsimp only [step] at hstep
    split at hstep
    case h_1 => cases hstep
    case h_2 a rest hwork =>
      cases hstep
      have h : Quiet { s with work := rest } := { h with }
      exact h.section (fun s => .put s _ _) (Frame.withLock fun s => .put s _ Ref.noConfusion).pc
  | fifoDown =>
    obtain ⟨-, hstep⟩ := Option.ite_none_right_eq_some.mp hstep
    cases hstep
    refine ⟨loopTest_forced _, Notes.withLock ?_ h.changes⟩
    intro s
    have hstart : Notes s { s with fifoDown := true, wasListed := s.fenceList, steps := 0 } :=
      ⟨rfl, fun _ => .inl⟩
    exact hstart.trans (.loopTest _)
  | signaled =>
    dsimp only [step] at hstep
    split at hstep
    case h_1 i hpc =>
      obtain ⟨-, hstep⟩ := Option.ite_none_right_eq_some.mp hstep
      cases hstep
      exact ⟨id, h.changes⟩
    case h_2 => cases hstep
  | timeout => exact absurd rfl ha
  | force =>
    dsimp only [step, State.force] at hstep
    have hnot := h.forced
    split at hstep
    case h_1 i hpc | h_2 i hpc | h_3 i hpc | h_4 i l hpc =>
      change s.pc = _ at hpc
      rw [hpc] at hnot
      exact absurd trivial hnot
    all_goals cases hstep
  | relock =>
    dsimp only [step] at hstep
    split at hstep
    case h_1 i hpc =>
      cases hstep
      constructor
      · unfold State.endRound State.withLock
        dsimp only
        split
        · exact id
        · split
          · exact id
          · exact loopTest_forced _
      · refine Notes.withLock (s := s.count) ?_ h.changes
        intro s
        split
        · exact ⟨rfl, fun _ => .inl⟩
        · dsimp only
          split
          · exact { Notes.put s i .down with }
          · exact (Notes.put s i .down).trans (.loopTest _)
    case h_2 => cases hstep
  | test =>
    obtain ⟨-, hstep⟩ := Option.ite_none_right_eq_some.mp hstep
    cases hstep
    exact ⟨loopTest_forced _, Notes.withLock (fun s => .loopTest s) h.changes⟩
  | fifoUp =>
    obtain ⟨-, hstep⟩ := Option.ite_none_right_eq_some.mp hstep
    cases hstep
    exact ⟨id, h.changes⟩

/-- The list is drained under the lock wherever the fences that are waited for signal. -/
theorem fifo_down_drained {as : List Act} (hrun : Run step (fun _ a => a ≠ .timeout) init as s) :
    Drained s := by
  have hquiet : Quiet s :=
    hrun.invariant (fun _ _ _ ha hstep h => step_quiet hstep ha h)
      ⟨id, fun _ => List.not_mem_nil.elim⟩
  exact { Run.drains hrun with locked := hquiet.changes }

theorem fifo_down_drained_one :
    ∃ s, Run step (fun _ a => a ≠ .timeout) init
        [.fifoUp, .create 1, .addAction 0, .fifoDown, .update 1, .signaled, .relock] s ∧
      s.pc = .done ∧ Drained s := by
  have hrun : Run step (fun _ a => a ≠ .timeout) init
      [.fifoUp, .create 1, .addAction 0, .fifoDown, .update 1, .signaled, .relock] _ :=
    .cons Act.noConfusion rfl <| .cons Act.noConfusion rfl <| .cons Act.noConfusion rfl <|
      .cons Act.noConfusion rfl <| .cons Act.noConfusion rfl <| .cons Act.noConfusion rfl <|
      .cons Act.noConfusion rfl <| .nil _
  exact ⟨_, hrun, rfl, fifo_down_drained hrun⟩

/-- The fence of a wait that times out is taken off the list without the lock. -/
theorem fifo_down_unlocked :
    ¬ ∀ as s, Run step (fun _ _ => True) init as s → Drained s := by
  intro h
  have hrun : Run step (fun _ _ => True) init [.fifoUp, .create 1, .fifoDown, .timeout, .force] _ :=
    .cons trivial rfl <| .cons trivial rfl <| .cons trivial rfl <| .cons trivial rfl <|
      .cons trivial rfl <| .nil _
  have hmem := (h _ _ hrun).locked false List.mem_cons_self
  cases hmem

end Steps

end Vmwgfx.Fence.Shutdown
