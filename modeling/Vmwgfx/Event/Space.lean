import Vmwgfx.Kernel
import Vmwgfx.Lib.Machine

/-! The space for fence events of an open file: what posting an event takes from
it and what failing to post and reading give back. -/

namespace Vmwgfx.Event

open Lib

def EFAULT : Int := 14

def DRM_VMW_EVENT_FENCE_SIGNALED : BitVec 32 := 0x80000000
def DRM_VMW_FE_FLAG_REQ_TIME : BitVec 32 := 1

/-- `struct drm_event`. -/
structure DrmEvent where
  type : BitVec 32
  length : Nat

/-- `struct drm_vmw_event_fence`. -/
structure DrmVmwEventFence where
  base : DrmEvent
  userData : BitVec 64
  tvSec : BitVec 32
  tvUsec : BitVec 32

def sizeofDrmVmwEventFence : Nat := (4 + 4) + 8 + 4 + 4

/-- Event pointer, list links, file pointer, padded pid and destructor. -/
def sizeofDrmPendingEvent : Nat := 8 + 16 + 8 + 8 + 8

def sizeofVmwEventFencePending : Nat := sizeofDrmPendingEvent + sizeofDrmVmwEventFence

/-- `struct vmw_event_fence_pending`, with whether the action was given the
addresses of the event's time. -/
structure Pending where
  event : DrmVmwEventFence
  timed : Bool

/-- A file's events. `discarded` counts the events destroyed unread and `repaid`
the times space was given back. -/
structure FileState where
  eventSpace : BitVec 32
  fenceEvents : List Pending
  eventList : List Pending
  discarded : Nat
  repaid : Nat

def FileState.opened (space : BitVec 32) : FileState := ⟨space, [], [], 0, 0⟩

/-- The events created and not read. -/
def FileState.unread (s : FileState) : Nat :=
  s.fenceEvents.length + s.eventList.length + s.discarded

def FileState.reserved (s : FileState) : Nat := sizeofDrmVmwEventFence * s.unread

/-- The comparison is of an `int` with a `size_t`. -/
def FileState.room (s : FileState) : Bool :=
  sizeofDrmVmwEventFence ≤ (s.eventSpace.signExtend 64).toNat

def FileState.repay (s : FileState) (size : Nat) : FileState :=
  { s with eventSpace := s.eventSpace + BitVec.ofNat 32 size, repaid := s.repaid + 1 }

def vmwEventFenceActionCreate (s : FileState) (flags : BitVec 32) (userData : BitVec 64) (kzalloc : Bool)
    (queue : Int) : Int × FileState :=
  if s.room = false then (-EBUSY, s)
  else
    let s := { s with eventSpace := s.eventSpace - BitVec.ofNat 32 sizeofDrmVmwEventFence }
    if kzalloc = false then (-ENOMEM, s.repay sizeofVmwEventFencePending)
    else
      let event : DrmVmwEventFence :=
        ⟨⟨DRM_VMW_EVENT_FENCE_SIGNALED, sizeofVmwEventFencePending⟩, userData, 0, 0⟩
      if queue ≠ 0 then (queue, s.repay sizeofVmwEventFencePending)
      else (0, { s with fenceEvents := s.fenceEvents ++ [⟨event, flags &&& DRM_VMW_FE_FLAG_REQ_TIME ≠ 0⟩] })

/-- Delivers the event at position `i` of the file's pending ones. -/
def vmwEventFenceActionSeqPassed (s : FileState) (i : Nat) (tvSec tvUsec : BitVec 32) : Option FileState :=
  s.fenceEvents[i]?.map fun e =>
    let event := if e.timed then { e.event with tvSec := tvSec, tvUsec := tvUsec } else e.event
    { s with fenceEvents := s.fenceEvents.eraseIdx i, eventList := s.eventList ++ [{ e with event := event }] }

def vmwEventFenceFprivGone (s : FileState) : FileState :=
  { s with fenceEvents := [], discarded := s.discarded + s.fenceEvents.length }

def drmEventsRelease (s : FileState) : FileState :=
  { s with eventList := [], discarded := s.discarded + s.eventList.length }

/-- The loop of `drm_read` over `drm_dequeue_event`; `fault` tells at which
offset copying to the client fails. -/
def drmRead (count : Nat) (fault : Nat → Bool) : Nat → List Pending → FileState → Int × FileState
  | total, [], s => (total, s)
  | total, e :: rest, s =>
    let length := e.event.base.length
    if count < length + total then (total, s)
    else
      let s := { s.repay length with eventList := rest }
      if fault total then (-EFAULT, s) else drmRead count fault (total + length) rest s

inductive Action
  | create (flags : BitVec 32) (userData : BitVec 64) (kzalloc : Bool) (queue : Int)
  | deliver (i : Nat) (tvSec tvUsec : BitVec 32)
  | read (count : Nat) (fault : Nat → Bool)
  | fprivGone
  | release

def step (s : FileState) : Action → Option FileState
  | .create flags userData kzalloc queue => some (vmwEventFenceActionCreate s flags userData kzalloc queue).2
  | .deliver i tvSec tvUsec => vmwEventFenceActionSeqPassed s i tvSec tvUsec
  | .read count fault => some (drmRead count fault 0 s.eventList s).2
  | .fprivGone => some (vmwEventFenceFprivGone s)
  | .release => some (drmEventsRelease s)

/-- The space is accounted for and no event announces more than it stores. -/
structure Conserved (space : BitVec 32) (s : FileState) : Prop where
  space : s.eventSpace.toInt + s.reserved = space.toInt
  length : ∀ e ∈ s.fenceEvents ++ s.eventList, e.event.base.length ≤ sizeofDrmVmwEventFence

section Drift

variable {s s' : FileState} {a : Action} {space : BitVec 32}

/-- What is free and what is reserved, and how it drifts: every repayment is of a
whole wrapper. -/
structure Drift (space : BitVec 32) (s : FileState) : Prop where
  length : ∀ e ∈ s.fenceEvents ++ s.eventList, e.event.base.length = sizeofVmwEventFencePending
  balance : s.eventSpace + BitVec.ofNat 32 s.reserved = space + BitVec.ofNat 32 (sizeofDrmPendingEvent * s.repaid)

theorem Drift.opened : Drift space (.opened space) where
  length := fun _ h => nomatch h
  balance := by simp [FileState.opened, FileState.reserved, FileState.unread]

theorem reserved_succ (h : s'.unread = s.unread + 1) :
    BitVec.ofNat 32 s'.reserved = BitVec.ofNat 32 s.reserved + BitVec.ofNat 32 sizeofDrmVmwEventFence := by
  rw [← BitVec.ofNat_add, FileState.reserved, h]
  rfl

/-- Giving a wrapper back for an event's space adds what the wrapper has more. -/
theorem repay_balance (r : Nat) (es res : BitVec 32)
    (h : es + res = space + BitVec.ofNat 32 (sizeofDrmPendingEvent * r)) :
    es - BitVec.ofNat 32 sizeofDrmVmwEventFence + BitVec.ofNat 32 sizeofVmwEventFencePending + res =
      space + BitVec.ofNat 32 (sizeofDrmPendingEvent * (r + 1)) := by
  rw [Nat.mul_succ, BitVec.ofNat_add, sizeofVmwEventFencePending, BitVec.ofNat_add]
  grind

theorem Drift.create (h : Drift space s) (flags : BitVec 32) (userData : BitVec 64) (kzalloc : Bool) (queue : Int) :
    Drift space (vmwEventFenceActionCreate s flags userData kzalloc queue).2 := by
  unfold vmwEventFenceActionCreate
  split
  · exact h
  · have hrepay := repay_balance s.repaid s.eventSpace _ h.balance
    dsimp only
    split
    · exact ⟨h.length, hrepay⟩
    · split
      · exact ⟨h.length, hrepay⟩
      · constructor
        · intro e he
          simp only [List.append_assoc, List.mem_append, List.mem_singleton] at he
          rcases he with he | rfl | he
          · exact h.length e (List.mem_append_left _ he)
          · rfl
          · exact h.length e (List.mem_append_right _ he)
        · rw [reserved_succ (s := s) (by simp only [FileState.unread, List.length_append, List.length_singleton]; omega)]
          have hbal := h.balance
          dsimp only
          grind

theorem Drift.deliver {i : Nat} {tvSec tvUsec : BitVec 32} (h : Drift space s)
    (hstep : vmwEventFenceActionSeqPassed s i tvSec tvUsec = some s') : Drift space s' := by
  obtain ⟨e, he, rfl⟩ := Option.map_eq_some_iff.mp hstep
  obtain ⟨hi, rfl⟩ := List.getElem?_eq_some_iff.mp he
  constructor
  · intro x hx
    simp only [List.mem_append, List.mem_singleton] at hx
    rcases hx with hx | hx | rfl
    · exact h.length x (List.mem_append_left _ (List.mem_of_mem_eraseIdx hx))
    · exact h.length x (List.mem_append_right _ hx)
    · have hlen := h.length _ (List.mem_append_left s.eventList (List.getElem_mem hi))
      dsimp only
      split <;> exact hlen
  · have hres : FileState.reserved { s with
        fenceEvents := s.fenceEvents.eraseIdx i, eventList := s.eventList ++ [s.fenceEvents[i]] } = s.reserved := by
      have hpos : 0 < s.fenceEvents.length := Nat.zero_lt_of_lt hi
      refine congrArg (sizeofDrmVmwEventFence * ·) ?_
      simp only [FileState.unread, List.length_append, List.length_singleton, List.length_eraseIdx, hi, if_true]
      omega
    have hbal := h.balance
    rw [← hres] at hbal
    simpa [FileState.reserved, FileState.unread] using hbal

theorem Drift.read {count : Nat} {fault : Nat → Bool} (h : Drift space s) (total : Nat) :
    ∀ {l : List Pending}, s.eventList = l → Drift space (drmRead count fault total l s).2 := by
  intro l hl
  induction l generalizing s total with
  | nil => exact h
  | cons e rest ih =>
    unfold drmRead
    dsimp only
    split
    · exact h
    · have he : e.event.base.length = sizeofVmwEventFencePending :=
        h.length e (List.mem_append_right _ (hl ▸ List.mem_cons_self))
      have hnext : Drift space { s.repay e.event.base.length with eventList := rest } := by
        constructor
        · intro x hx
          rcases List.mem_append.mp hx with hx | hx
          · exact h.length x (List.mem_append_left _ hx)
          · exact h.length x (List.mem_append_right _ (hl ▸ List.mem_cons_of_mem e hx))
        · have hbal := h.balance
          rw [reserved_succ (s := { s.repay e.event.base.length with eventList := rest })
            (by simp only [FileState.unread, FileState.repay, hl, List.length_cons]; omega)] at hbal
          simp only [FileState.repay, he, sizeofVmwEventFencePending, Nat.mul_succ, BitVec.ofNat_add] at hbal ⊢
          grind
      split
      · exact hnext
      · exact ih hnext _ rfl

theorem Drift.discard {f l : List Pending} {n : Nat} (h : Drift space s)
    (hsub : ∀ e ∈ f ++ l, e ∈ s.fenceEvents ++ s.eventList) (hn : f.length + l.length + n = s.unread) :
    Drift space { s with fenceEvents := f, eventList := l, discarded := n } where
  length e he := h.length e (hsub e he)
  balance := by
    have hres : FileState.reserved { s with fenceEvents := f, eventList := l, discarded := n } = s.reserved :=
      congrArg (sizeofDrmVmwEventFence * ·) hn
    rw [hres]
    exact h.balance

theorem Drift.step (hstep : step s a = some s') (h : Drift space s) : Drift space s' := by
  cases a with
  | create flags userData kzalloc queue =>
    cases hstep
    exact h.create flags userData kzalloc queue
  | deliver i tvSec tvUsec => exact h.deliver hstep
  | read count fault =>
    cases hstep
    exact h.read 0 rfl
  | fprivGone =>
    cases hstep
    exact h.discard (fun e he => List.mem_append_right _ he) (by simp only [FileState.unread, List.length_nil]; omega)
  | release =>
    cases hstep
    refine h.discard (fun e he => ?_) (by simp only [FileState.unread, List.length_nil]; omega)
    rw [List.append_nil] at he
    exact List.mem_append_left _ he

/-- Every failed posting and every read gives back a whole wrapper where an
event's space was taken. -/
theorem event_space_drift {ok : FileState → Action → Prop} {acts : List Action}
    (hrun : Run Event.step ok (.opened space) acts s) : Drift space s :=
  hrun.invariant (fun _ _ _ _ hstep h => h.step hstep) .opened

end Drift

section Conservation

variable {s s' : FileState} {a : Action} {space : BitVec 32} {acts : List Action}

/-- No event is posted: the file has too little space. -/
def NoRoom (s : FileState) : Action → Prop
  | .create .. => s.room = false
  | _ => True

/-- In every state along the run from `s` the space is conserved. -/
def AlwaysConserved (space : BitVec 32) (s : FileState) (acts : List Action) : Prop :=
  ∀ before after t, acts = before ++ after → Run step (fun _ _ => True) s before t → Conserved space t

theorem Conserved.opened : Conserved space (.opened space) where
  space := by simp [FileState.opened, FileState.reserved, FileState.unread]
  length := fun _ h => nomatch h

theorem add_repaid_ne (es : BitVec 32) :
    es - BitVec.ofNat 32 sizeofDrmVmwEventFence + BitVec.ofNat 32 sizeofVmwEventFencePending ≠ es := by
  intro h
  have hzero : BitVec.ofNat 32 sizeofVmwEventFencePending - BitVec.ofNat 32 sizeofDrmVmwEventFence = 0 := by grind
  exact absurd hzero (by decide)

theorem wrapper_longer : ¬ sizeofVmwEventFencePending ≤ sizeofDrmVmwEventFence := by decide

/-- A file that found room for an event accounts for too much or for too long an event. -/
theorem not_conserved_create {flags : BitVec 32} {userData : BitVec 64} {kzalloc : Bool} {queue : Int}
    (h : Conserved space s) (hroom : s.room = true) :
    ¬ Conserved space (vmwEventFenceActionCreate s flags userData kzalloc queue).2 := by
  intro h'
  have hrepaid : (s.eventSpace - BitVec.ofNat 32 sizeofDrmVmwEventFence +
      BitVec.ofNat 32 sizeofVmwEventFencePending).toInt + s.reserved = space.toInt → False := by
    intro heq
    have hsame := heq.trans h.space.symm
    exact add_repaid_ne s.eventSpace (BitVec.eq_of_toInt_eq (by omega))
  unfold vmwEventFenceActionCreate at h'
  rw [if_neg (by simp [hroom])] at h'
  dsimp only at h'
  split at h'
  · exact hrepaid h'.space
  · split at h'
    · exact hrepaid h'.space
    · have hlen := h'.length ⟨⟨⟨DRM_VMW_EVENT_FENCE_SIGNALED, sizeofVmwEventFencePending⟩, userData, 0, 0⟩, _⟩
        (List.mem_append_left _ (List.mem_append_right _ (List.mem_singleton_self _)))
      exact absurd hlen wrapper_longer

/-- Nothing was ever posted. -/
structure Unused (space : BitVec 32) (s : FileState) : Prop where
  space : s.eventSpace = space
  fenceEvents : s.fenceEvents = []
  eventList : s.eventList = []
  discarded : s.discarded = 0

theorem Unused.conserved (h : Unused space s) : Conserved space s where
  space := by simp [FileState.reserved, FileState.unread, h.space, h.fenceEvents, h.eventList, h.discarded]
  length := by simp [h.fenceEvents, h.eventList]

theorem Unused.step (hok : NoRoom s a) (hstep : step s a = some s') (h : Unused space s) : Unused space s' := by
  cases a with
  | create flags userData kzalloc queue =>
    cases hstep
    have hroom : s.room = false := hok
    rw [vmwEventFenceActionCreate, if_pos hroom]
    exact h
  | deliver i tvSec tvUsec =>
    obtain ⟨e, he, -⟩ := Option.map_eq_some_iff.mp hstep
    rw [h.fenceEvents] at he
    cases he
  | read count fault =>
    cases hstep
    rw [h.eventList]
    exact h
  | fprivGone =>
    cases hstep
    exact ⟨h.space, rfl, h.eventList, by simp [vmwEventFenceFprivGone, h.fenceEvents, h.discarded]⟩
  | release =>
    cases hstep
    exact ⟨h.space, h.fenceEvents, rfl, by simp [drmEventsRelease, h.eventList, h.discarded]⟩

theorem noRoom_of_alwaysConserved (hrun : Run Event.step (fun _ _ => True) s acts s')
    (h : AlwaysConserved space s acts) : Run Event.step NoRoom s acts s' := by
  induction hrun with
  | nil s => exact .nil s
  | cons hok hstep hrest ih =>
    rename_i s t u a as
    have hhere : Conserved space s := h [] (a :: as) s rfl (.nil s)
    have hnext : Conserved space t := h [a] as t rfl (.single trivial hstep)
    refine .cons ?_ hstep (ih fun before after w heq hrun => h (a :: before) after w ?_ (.cons trivial hstep hrun))
    · cases a with
      | create flags userData kzalloc queue =>
        cases hstep
        exact Bool.eq_false_iff.mpr fun hroom => not_conserved_create hhere hroom hnext
      | deliver | read | fprivGone | release => trivial
    · rw [heq, List.cons_append]

/-- The space for events is conserved along a run exactly when no call to post
an event in it ever finds room for one. -/
theorem event_space_conserved_iff (hrun : Run Event.step (fun _ _ => True) (.opened space) acts s) :
    AlwaysConserved space (.opened space) acts ↔ Run Event.step NoRoom (.opened space) acts s := by
  constructor
  · exact noRoom_of_alwaysConserved hrun
  · intro hnone before after t heq hbefore
    subst heq
    obtain ⟨u, hpre, -⟩ := hnone.split
    rw [hbefore.deterministic hpre]
    exact (hpre.invariant (fun _ _ _ hok hstep h => Unused.step hok hstep h) ⟨rfl, rfl, rfl, rfl⟩).conserved

/-- A file whose space is used up. -/
theorem event_space_conserved_full :
    AlwaysConserved 16 (.opened 16) [.create 0 7 true 0] :=
  (event_space_conserved_iff (.single trivial rfl)).mpr (.single rfl rfl)

/-- One event posted, delivered and read leaves the file with more space than it had. -/
theorem event_space_not_conserved :
    ¬ ∀ (space : BitVec 32) (acts : List Action) (s : FileState),
      Run Event.step (fun _ _ => True) (.opened space) acts s → Conserved space s := by
  intro h
  have hrun : Run Event.step (fun _ _ => True) (.opened 4096)
      [.create 0 7 true 0, .deliver 0 0 0, .read 4096 fun _ => false] _ :=
    .cons trivial rfl (.cons trivial rfl (.single trivial rfl))
  have hspace := (h _ _ _ hrun).space
  exact absurd hspace (by decide)

end Conservation

end Vmwgfx.Event
