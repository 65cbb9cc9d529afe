import Vmwgfx.Locks.Callers
import Vmwgfx.Locks.Reserve

/-! Calls that give back what they take. -/

namespace Vmwgfx.Locks

open Lib Binding Resource

variable {α β : Type} {env : Env} {m : Mutex}

/-- A call that comes back leaves the mutexes as it found them, and no reservation. -/
def Balanced (x : M α) : Prop := ∀ held, Triple Allowed (Holds held false) x (fun _ => Holds held false)

namespace Balanced

variable {x y : M α} {f : α → M β}

theorem pure (a : α) : Balanced (Pure.pure a : M α) := fun _ => .pure a fun _ hs => hs

theorem throw {e : Stop} (h : Allowed e) : Balanced (MonadExcept.throw e : M α) := fun _ => .throw h

theorem bind (hx : Balanced x) (hf : ∀ a, Balanced (f a)) : Balanced (x >>= f) :=
  fun held => (hx held).bind fun a => hf a held

theorem ite {c : Prop} [Decidable c] (hx : Balanced x) (hy : Balanced y) : Balanced (if c then x else y) :=
  fun held => .ite (hx held) (hy held)

theorem onlyIf (c : Bool) {x : M Unit} (hx : Balanced x) : Balanced (onlyIf c x) := .ite hx (.pure ())

theorem discard (hx : Balanced x) : Balanced (discard x) := fun held => .discard (hx held)

theorem times {x : M Unit} (hx : Balanced x) (n : Nat) : Balanced (times x n) := fun held => .times (hx held) n

theorem each {γ : Type} {f : γ → M Unit} (hf : ∀ c, Balanced (f c)) (cs : List γ) : Balanced (each f cs) :=
  fun held => .each (fun c => hf c held) cs

theorem tick : Balanced tick := fun _ => tick_spec

theorem ask (q : Question) : Balanced (ask env q) := .bind .tick fun _ => .pure _

theorem length (w : Walk) : Balanced (length env w) := .bind .tick fun _ => .pure _

theorem size (site : Site) : Balanced (size env site) := .bind .tick fun _ => .pure _

theorem command (h : env.Meets) (site : Site) (bytes : Nat) : Balanced (command env site bytes) := by
  intro held
  refine (reserve_spec h site bytes).bind ?_
  intro cmd
  cases cmd with
  | true => exact (fill_spec site).bind fun _ => (commit_spec site bytes).bind fun _ => .pure _ fun _ hs => hs
  | false => exact .pure _ fun _ hs => hs

/-- A caller that does not look, where there is room. -/
theorem unchecked (h : env.Meets) {site : Site} (hsite : site.Unchecked) {bytes : Nat} (hbytes : bytes ≤ 28)
    {x : M α} (hx : Balanced x) :
    Balanced (do
      let cmd ← vmwFifoReserve env site bytes
      fill env site cmd
      vmwFifoCommit env site bytes
      x) := by
  intro held
  refine (reserve_unchecked h hsite hbytes).bind ?_
  intro cmd
  cases cmd with
  | true =>
    have hfill : Triple Allowed (fun s => true = true ∧ Holds held true s) (fill env site true)
        (fun _ => Holds held true) := (fill_spec site).mono (fun _ hs => hs.2) (fun _ _ hs => hs)
    exact hfill.bind fun _ => (commit_spec site bytes).bind fun _ => hx held
  | false => exact .absurd fun _ hs => Bool.false_ne_true hs.1

end Balanced

section Mutexes

variable {held : Mutex → Bool}

theorem lock_then {x : M α} {Q : α → State → Prop}
    (hx : held m = false → Triple Allowed (Holds (Function.update held m true) false) x Q) :
    Triple Allowed (Holds held false) (do mutexLock m; x) Q := by
  intro s hs
  unfold mutexLock
  refine ends_bind.mpr (.bind_get (.ite (fun _ => allowed_deadlock) ?_))
  intro hfree
  have hheld : held m = false := by
    rw [← hs.held_eq]
    exact Bool.eq_false_iff.mpr hfree
  refine hx hheld _ ⟨?_, hs.fifo⟩
  rw [← hs.held_eq]

theorem unlock_spec (hm : held m = false) :
    Triple Allowed (Holds (Function.update held m true) false) (mutexUnlock m) (fun _ => Holds held false) := by
  intro s hs
  unfold mutexUnlock
  refine .bind_get (.ite (fun _ => ⟨?_, hs.fifo⟩) (fun _ => allowed_notHeld))
  rw [hs.held_eq, Function.update_idem, ← hm, Function.update_eq_self]

theorem unlock_then {x : M α} {Q : α → State → Prop} (hm : held m = false)
    (hx : Triple Allowed (Holds held false) x Q) :
    Triple Allowed (Holds (Function.update held m true) false) (do mutexUnlock m; x) Q :=
  (unlock_spec hm).bind fun _ => hx

theorem lockInterruptible_then {x y : M α} {Q : α → State → Prop}
    (hx : held m = false → Triple Allowed (Holds (Function.update held m true) false) x Q)
    (hy : Triple Allowed (Holds held false) y Q) :
    Triple Allowed (Holds held false) (do if ← mutexLockInterruptible env m then x else y) Q := by
  intro s hs
  unfold mutexLockInterruptible
  rw [bind_assoc]
  refine ((Balanced.ask (.interrupted m) held).bind ?_) s hs
  intro interrupted
  cases interrupted with
  | true => exact hy
  | false =>
    rw [if_neg Bool.false_ne_true, bind_assoc]
    simp only [pure_bind, if_true]
    exact lock_then hx

/-- Between taking a mutex and giving it back. -/
theorem Balanced.locked (m : Mutex) {x : M Unit} (hx : Balanced x) :
    Balanced (do
      mutexLock m
      x
      mutexUnlock m) :=
  fun _ => lock_then fun hm => (hx _).bind fun _ => unlock_spec hm

end Mutexes

section Callers

variable (h : env.Meets)
include h

theorem vmwFifoSendFence_balanced : Balanced (vmwFifoSendFence env) := by
  intro held
  refine (reserve_spec h .fifoSendFence 8).bind ?_
  intro fm
  cases fm with
  | false => exact .pure _ fun _ hs => hs
  | true =>
    have hask : Triple Allowed (Holds held true) (ask env .capFence) (fun _ => Holds held true) :=
      tick_spec.bind fun _ => .pure _ fun _ hs => hs
    refine hask.bind ?_
    intro cap
    refine .ite ?_ ?_
    · exact (fill_spec _).bind fun _ => (commit_spec _ 8).bind fun _ => .pure _ fun _ hs => hs
    · exact (commit_spec _ 0).bind fun _ => .pure _ fun _ hs => hs

theorem vmwExecbufFenceCommands_balanced : Balanced (vmwExecbufFenceCommands env) :=
  .bind (.discard (vmwFifoSendFence_balanced h)) fun _ => .ask _

theorem vmwFenceSingleBo_balanced (fence : Bool) : Balanced (vmwFenceSingleBo env fence) :=
  .ite (.pure ()) (.discard (vmwExecbufFenceCommands_balanced h))

theorem fenceBackup_balanced : Balanced (fenceBackup env) :=
  .bind (vmwExecbufFenceCommands_balanced h) fun fence => vmwFenceSingleBo_balanced h fence

theorem vmwGmr2Bind_balanced : Balanced (vmwGmr2Bind env) :=
  .bind (.size _) fun bytes => .command h _ bytes

theorem vmwGmr2Unbind_balanced : Balanced (vmwGmr2Unbind env) := .discard (.command h _ 12)

theorem vmwGmrBind_balanced : Balanced (vmwGmrBind env) :=
  .bind (.ask _) fun _ => .ite (vmwGmr2Bind_balanced h) (.pure _)

theorem vmwGmrUnbind_balanced : Balanced (vmwGmrUnbind env) :=
  .bind (.ask _) fun gmr2 => .onlyIf gmr2 (vmwGmr2Unbind_balanced h)

theorem vmwSetupOtableBase_balanced : Balanced (vmwSetupOtableBase env) := by
  refine .bind (.ask _) fun _ => .ite ?_ (.pure _)
  refine .bind (.size _) fun bytes => .bind (.command h _ bytes) fun _ => ?_
  exact .ite (.pure _) (.ask _)

theorem vmwTakedownOtableBase_balanced : Balanced (vmwTakedownOtableBase env) := by
  refine .bind (.ask _) fun _ => .ite ?_ (.throw allowed_oops)
  have hsite : Site.Unchecked .takedownOtableBase := trivial
  refine .unchecked h hsite (by decide) ?_
  exact .bind (.ask _) fun bo => .onlyIf bo (vmwFenceSingleBo_balanced h false)

theorem setupOtables_balanced (n : Nat) : Balanced (setupOtables env n) := by
  induction n with
  | zero => exact .pure _
  | succ n ih => exact .bind (vmwSetupOtableBase_balanced h) fun _ => .ite ih (.pure _)

theorem vmwOtablesSetup_balanced : Balanced (vmwOtablesSetup env) := by
  refine .bind (.length _) fun n => .bind (.ask _) fun _ => .ite ?_ (.pure _)
  refine .bind (.ask _) fun mapped => .bind (.ite (setupOtables_balanced h n) (.pure _)) fun _ => ?_
  exact .ite (.pure _) (.bind (.times (vmwTakedownOtableBase_balanced h) n) fun _ => .pure _)

theorem vmwOtablesTakedown_balanced : Balanced (vmwOtablesTakedown env) := by
  refine .bind (.length _) fun n => .bind (.times (vmwTakedownOtableBase_balanced h) n) fun _ => ?_
  exact vmwFenceSingleBo_balanced h false

theorem vmwFifoInit_balanced : Balanced (vmwFifoInit env) := by
  refine .bind (.ask _) fun _ => .ite ?_ (.pure _)
  refine .bind ?_ fun _ => vmwFifoSendFence_balanced h
  intro held s hs
  have hfree : Free s.fifo := hs.fifo
  exact ⟨hs.held_eq, rfl, rfl, rfl, hfree.room⟩

theorem vmwRequestDevice_balanced : Balanced (vmwRequestDevice env) := by
  refine .bind (vmwFifoInit_balanced h) fun _ => .ite ?_ (.pure _)
  refine .bind (.ask _) fun hasMob => .bind (.ite (vmwOtablesSetup_balanced h) (.pure _)) fun _ => ?_
  refine .ite ?_ (.pure _)
  refine .bind (.ask _) fun _ => .ite (.pure _) ?_
  exact .bind (.onlyIf hasMob (vmwOtablesTakedown_balanced h)) fun _ => .pure _

theorem vmwReleaseDevice_balanced : Balanced (vmwReleaseDevice env) := by
  refine .bind (.ask _) fun _ => .ite (.throw allowed_bug) ?_
  refine .bind (.ask _) fun bound => .bind (.onlyIf bound (vmwGmrUnbind_balanced h)) fun _ => ?_
  exact .bind (.ask _) fun hasMob => .onlyIf hasMob (vmwOtablesTakedown_balanced h)

theorem vmw3dResourceInc_balanced : Balanced (vmw3dResourceInc env) :=
  .bind (.ask _) fun _ => .ite (vmwRequestDevice_balanced h) (.pure _)

theorem vmw3dResourceDec_balanced : Balanced (vmw3dResourceDec env) := by
  refine .bind (.ask _) fun last => .bind (.onlyIf last (vmwReleaseDevice_balanced h)) fun _ => ?_
  exact .bind (.ask _) fun negative => .onlyIf negative (.throw allowed_bug)

theorem vmwMobUnbind_balanced : Balanced (vmwMobUnbind env) := by
  have hsite : Site.Unchecked .mobUnbind := trivial
  refine .bind (.ask _) fun bo => .unchecked h hsite (by decide) ?_
  exact .bind (.onlyIf bo (vmwFenceSingleBo_balanced h false)) fun _ => vmw3dResourceDec_balanced h

theorem vmwMobBind_balanced : Balanced (vmwMobBind env) := by
  refine .bind (.ask _) fun _ => .ite ?_ (.pure _)
  refine .bind (.ask _) fun _ => .ite ?_ (.pure _)
  refine .bind (.discard (vmw3dResourceInc_balanced h)) fun _ => .bind (.size _) fun bytes => ?_
  refine .bind (.command h _ bytes) fun _ => .ite (.pure _) ?_
  exact .bind (vmw3dResourceDec_balanced h) fun _ => .pure _

theorem vmwTtmBind_balanced : Balanced (vmwTtmBind env) :=
  .bind (.ask _) fun _ => .ite (vmwMobBind_balanced h) (vmwGmrBind_balanced h)

theorem vmwTtmUnbind_balanced : Balanced (vmwTtmUnbind env) :=
  .bind (.ask _) fun _ => .ite (vmwMobUnbind_balanced h) (vmwGmrUnbind_balanced h)

theorem ttmBoUnref_balanced : Balanced (ttmBoUnref env) := by
  refine .bind (.ask _) fun _ => .ite ?_ (.pure _)
  exact .bind (.ask _) fun bound => .onlyIf bound (vmwTtmUnbind_balanced h)

theorem vmwScrubFuncs_balanced (rebind : Bool) : Balanced (vmwScrubFuncs env rebind) := by
  refine .bind (.ask _) fun _ => .ite (.command h _ 20) ?_
  exact .bind (.ask _) fun _ => .ite (.command h _ 28) (.command h _ 24)

theorem scrubList_balanced : Balanced (scrubList env) := by
  refine .bind (.length _) fun n => .times ?_ n
  exact .bind (.ask _) fun _ => .ite (.pure _) (.discard (vmwScrubFuncs_balanced h false))

theorem vmwFifoEmitDummyQuery_balanced : Balanced (vmwFifoEmitDummyQuery env) :=
  .bind (.ask _) fun _ => .ite (.command h _ 24) (.command h _ 24)

theorem releasePinnedBoLocked_balanced (fence : Bool) : Balanced (vmwExecbufReleasePinnedBoLocked env fence) := by
  have hunref : Balanced (unrefPinned env) := .times (ttmBoUnref_balanced h) 3
  refine .bind (.ask _) fun _ => .ite ?_ (.pure _)
  refine .bind (.ask _) fun _ => .ite ?_ hunref
  refine .bind (.ask _) fun valid => .ite (.throw allowed_bug) ?_
  refine .bind (.ite (vmwFifoEmitDummyQuery_balanced h) (.pure _)) fun _ => .ite ?_ hunref
  exact .bind (.onlyIf _ (.discard (vmwExecbufFenceCommands_balanced h))) fun _ => hunref

theorem releasePinnedBo_balanced : Balanced (vmwExecbufReleasePinnedBo env) := by
  intro held
  refine lock_then fun hm => ?_
  refine ((Balanced.ask _) _).bind fun valid => ?_
  exact (Balanced.onlyIf valid (releasePinnedBoLocked_balanced h false) _).bind fun _ => unlock_spec hm

theorem releaseInvalidPinned_balanced (fence : Bool) : Balanced (releaseInvalidPinned env fence) := by
  refine .bind (.ask _) fun _ => .ite ?_ (.pure _)
  exact .bind (.ask _) fun valid => .onlyIf _ (releasePinnedBoLocked_balanced h fence)

end Callers

end Vmwgfx.Locks
