import Vmwgfx.Device.Machine

/-! The programs that leave the device ids alone. -/

namespace Vmwgfx.Device

open Vmwgfx.Lib
open Vmwgfx.Resource (ResType VmwResFunc BufId)

section Commands

/-- Defines name ids that are free on the device, destroys ids that are not. -/
def CommandsFit : List Event → Prop
  | [] => True
  | .define type id :: log => live log type id = false ∧ CommandsFit log
  | .destroy type id :: log => live log type id = true ∧ CommandsFit log
  | _ :: log => CommandsFit log

/-- What is defined on the device has its id in the IDR, so that no other resource gets it. -/
def ReturnedUndefined (s : State) : Prop :=
  ∀ type i, live s.log type i = true → i ∈ s.idr type

end Commands

section Quiet

/-- The two states agree on the resources, their ids and what is defined. -/
structure Alike (s t : State) : Prop where
  func : ∀ r, (t.res r).func = (s.res r).func
  id : ∀ r, (t.res r).id = (s.res r).id
  alive : ∀ r, (t.res r).alive = (s.res r).alive
  resources : t.resources = s.resources
  idr : t.idr = s.idr
  lru : t.lru = s.lru
  live : live t.log = live s.log
  fit : CommandsFit s.log → CommandsFit t.log

structure Same (s t : State) : Prop extends Alike s t where
  activated : ∀ r, (t.res r).activated = (s.res r).activated

theorem Same.refl (s : State) : Same s s where
  func _ := rfl
  id _ := rfl
  alive _ := rfl
  activated _ := rfl
  resources := rfl
  idr := rfl
  lru := rfl
  live := rfl
  fit h := h

theorem Same.trans {s t u : State} (h : Same s t) (h' : Same t u) : Same s u where
  func r := (h'.func r).trans (h.func r)
  id r := (h'.id r).trans (h.id r)
  alive r := (h'.alive r).trans (h.alive r)
  activated r := (h'.activated r).trans (h.activated r)
  resources := h'.resources.trans h.resources
  idr := h'.idr.trans h.idr
  lru := h'.lru.trans h.lru
  live := h'.live.trans h.live
  fit hfit := h'.fit (h.fit hfit)

theorem Same.someId {s t : State} (h : Same s t) {r : ResId} (hid : ¬ (s.res r).id.isNone = true) :
    (t.res r).id.isSome = true := by
  rw [h.id]
  simpa [Option.isSome_iff_ne_none] using hid

/-- The program defines and destroys nothing and leaves the ids alone. -/
def Quiet {α : Type} (x : M α) : Prop := ∀ s, Keeps (Same s) x

variable {α β : Type} {x y : M α} {f : α → M β}

theorem Quiet.pure (a : α) : Quiet (Pure.pure a : M α) := fun _ => .pure a

theorem Quiet.throw (e : Stop) : Quiet (MonadExcept.throw e : M α) := fun _ => .throw e

theorem Quiet.get : Quiet (MonadState.get : M State) := fun _ => .get

theorem Quiet.bind (hx : Quiet x) (hf : ∀ a, Quiet (f a)) : Quiet (x >>= f) :=
  fun s => .bind (hx s) fun a => hf a s

theorem Quiet.ite {c : Prop} [Decidable c] (hx : Quiet x) (hy : Quiet y) :
    Quiet (if c then x else y) :=
  fun s => .ite (hx s) (hy s)

theorem Quiet.modify {f : State → State} (hf : ∀ s, Same s (f s)) : Quiet (modify f : M Unit) :=
  fun _ => .modify fun t ht => ht.trans (hf t)

theorem Quiet.ends (hx : Quiet x) (s : State) : Ends x s (fun _ t => Same s t) (fun _ t => Same s t) :=
  hx s s (.refl s)

/-- The events that define or destroy nothing. -/
def Event.plain : Event → Bool
  | .define .. | .destroy .. => false
  | _ => true

theorem live_plain {e : Event} (h : e.plain = true) (log : List Event) : live (e :: log) = live log := by
  cases e with
  | define => cases h
  | destroy => cases h
  | _ => rfl

theorem fit_plain {e : Event} (h : e.plain = true) (log : List Event) :
    CommandsFit (e :: log) = CommandsFit log := by
  cases e with
  | define => cases h
  | destroy => cases h
  | _ => rfl

theorem Quiet.emit {e : Event} (h : e.plain = true) : Quiet (emit e) :=
  .modify fun s => { Same.refl s with live := live_plain h s.log, fit := (fit_plain h s.log).mpr }

theorem Quiet.discard (hx : Quiet x) : Quiet (discard x) := fun s => .discard (hx s)

theorem Quiet.stopIf (c : Bool) (e : Stop) : Quiet (stopIf c e) := .ite (.throw e) (.pure ())

theorem Quiet.onlyIf (c : Bool) {x : M Unit} (hx : Quiet x) : Quiet (onlyIf c x) := .ite hx (.pure ())

theorem Quiet.orZero (c : Bool) {x : M Int} (hx : Quiet x) : Quiet (orZero c x) := .ite hx (.pure 0)

theorem Quiet.lock (l : Lock) : Quiet (lock l) :=
  .bind .get fun _ => .bind (.stopIf _ _) fun _ => .modify fun s => { Same.refl s with }

theorem Quiet.unlock (l : Lock) : Quiet (unlock l) := .modify fun s => { Same.refl s with }

theorem Quiet.setBuf (b : BufId) (g : Buffer → Buffer) : Quiet (setBuf b g) :=
  .modify fun s => { Same.refl s with }

theorem Quiet.setRes (r : ResId) {g : Resource → Resource} (hfunc : ∀ res, (g res).func = res.func)
    (hid : ∀ res, (g res).id = res.id) (halive : ∀ res, (g res).alive = res.alive)
    (hact : ∀ res, (g res).activated = res.activated) : Quiet (setRes r g) := by
  refine .modify fun s => { Same.refl s with func := ?_, id := ?_, alive := ?_, activated := ?_ }
  all_goals
    intro r'
    by_cases hr : r' = r
    · subst hr
      simp [hfunc, hid, halive, hact]
    · simp [hr]

theorem Quiet.vmwFifoReserve (ok : Bool) : Quiet (vmwFifoReserve ok) :=
  .bind .get fun _ => .bind (.emit rfl) fun _ => .pure ok

theorem Quiet.vmwFifoCommit : Quiet vmwFifoCommit := .bind .get fun _ => .emit rfl

theorem Quiet.vmwFifoSendFence (ok : Bool) : Quiet (vmwFifoSendFence ok) :=
  .bind (.vmwFifoReserve ok) fun _ => .ite (.bind .vmwFifoCommit fun _ => .pure _) (.pure _)

theorem Quiet.fence (ok : Bool) : Quiet (vmwExecbufFenceCommands ok) :=
  .bind (.vmwFifoSendFence ok) fun _ => .pure _

theorem Quiet.fifoCommand (ok : Bool) : Quiet (fifoCommand ok) :=
  .bind (.vmwFifoReserve ok) fun _ => .ite (.bind .vmwFifoCommit fun _ => .pure _) (.pure _)

theorem Quiet.vmwFifoInit (o : Request) : Quiet (vmwFifoInit o) :=
  .ite (.pure _) (.bind (.modify fun s => { Same.refl s with }) fun _ => .vmwFifoSendFence _)

theorem Quiet.vmwFifoRelease : Quiet vmwFifoRelease := .modify fun s => { Same.refl s with }

theorem Quiet.vmwOtablesSetup (o : Otables) : Quiet (vmwOtablesSetup o) := by
  cases o with
  | ok => exact .bind (.fifoCommand _) fun _ => .pure _
  | noMemory => exact .pure _
  | fails => exact .throw _

theorem Quiet.vmwOtablesTakedown (ok : Bool) : Quiet (vmwOtablesTakedown ok) :=
  .bind (.fifoCommand ok) fun _ => .stopIf _ _

variable (env : Env)

theorem Quiet.vmwRequestDevice (o : Request) : Quiet (vmwRequestDevice env o) :=
  .bind (.modify fun s => { Same.refl s with }) fun _ => .bind (.vmwFifoInit o) fun _ =>
    .ite (.bind (.modify fun s => { Same.refl s with }) fun _ => .pure _) <|
      .bind (.orZero _ (.vmwOtablesSetup _)) fun _ =>
        .ite (.bind .vmwFifoRelease fun _ => .pure _) <|
          .ite (.bind (.onlyIf _ (.vmwOtablesTakedown _)) fun _ => .bind .vmwFifoRelease fun _ => .pure _)
            (.bind (.modify fun s => { Same.refl s with }) fun _ => .pure _)

theorem Quiet.vmwReleaseDevice (takedown : Bool) : Quiet (vmwReleaseDevice env takedown) :=
  .bind .get fun _ => .bind (.emit rfl) fun _ => .bind (.stopIf _ _) fun _ =>
    .bind (.modify fun s => { Same.refl s with }) fun _ =>
      .bind (.onlyIf _ (.vmwOtablesTakedown _)) fun _ => .vmwFifoRelease

theorem Quiet.inc (h : Holder) (o : Request) : Quiet (vmw3dResourceInc env h o) :=
  .bind (.lock _) fun _ => .bind .get fun _ => .bind (.modify fun s => { Same.refl s with }) fun _ =>
    .bind (.orZero _ (.vmwRequestDevice env o)) fun _ =>
      .bind (.ite (.bind (.modify fun s => { Same.refl s with }) fun _ => .bind .get fun _ => .emit rfl)
          (.emit rfl)) fun _ =>
        .bind (.unlock _) fun _ => .pure _

theorem Quiet.dec (h : Holder) (takedown : Bool) : Quiet (vmw3dResourceDec env h takedown) :=
  .bind (.lock _) fun _ => .bind (.modify fun s => { Same.refl s with }) fun _ =>
    .bind (.emit rfl) fun _ => .bind .get fun _ => .bind (.onlyIf _ (.vmwReleaseDevice env takedown)) fun _ =>
      .bind (.unlock _) fun _ => .bind .get fun _ => .stopIf _ _

theorem Quiet.scrubAll (oks : List Bool) : Quiet (scrubAll oks) := by
  induction oks with
  | nil => exact .pure _
  | cons ok oks ih => exact .bind (.fifoCommand ok) fun _ => ih

theorem Quiet.bugOnNoMob (r : ResId) : Quiet (bugOnNoMob r) := .bind .get fun _ => .stopIf _ _

theorem Quiet.vmwLegacySrfDma (o : Bind) : Quiet (vmwLegacySrfDma o) :=
  .bind (.fifoCommand _) fun _ => .ite (.pure _) (.bind (.fence _) fun _ => .pure _)

theorem Quiet.funcBind (r : ResId) (o : Bind) : Quiet (funcBind r o) := by
  have hgb : Quiet (gbBind r o) :=
    .bind (.bugOnNoMob r) fun _ => .bind (.fifoCommand _) fun _ =>
      .ite (.pure _) (.bind (.setRes r (fun _ => rfl) (fun _ => rfl) (fun _ => rfl) (fun _ => rfl)) fun _ =>
        .pure _)
  exact .bind .get fun _ => .ite hgb (.ite (.vmwLegacySrfDma o) (.pure _))

theorem Quiet.funcUnbind (r : ResId) (readback : Bool) (o : Unbind) : Quiet (funcUnbind r readback o) := by
  have hgb : Quiet (gbUnbind r o) :=
    .bind (.bugOnNoMob r) fun _ => .bind (.fifoCommand _) fun _ =>
      .ite (.pure _) (.bind (.fence _) fun _ => .pure _)
  have hctx : Quiet (vmwGbContextUnbind r o) :=
    .bind (.bugOnNoMob r) fun _ => .bind (.lock _) fun _ => .bind (.scrubAll _) fun _ =>
      .bind (.fifoCommand _) fun _ => .ite (.bind (.unlock _) fun _ => .pure _)
        (.bind (.unlock _) fun _ => .bind (.fence _) fun _ => .pure _)
  refine .bind .get fun s => ?_
  split
  · exact hctx
  · exact hgb
  · exact hgb
  · exact .ite (.vmwLegacySrfDma _) (.pure _)
  · exact .pure _
  · exact .pure _

theorem Quiet.dropPinned (b : BufId) : Quiet (dropPinned b) :=
  .bind (.setBuf b _) fun _ => .modify fun s => { Same.refl s with }

theorem Quiet.releasePinnedLocked (fenced : Bool) (o : ReleasePinned) :
    Quiet (vmwExecbufReleasePinnedBoLocked fenced o) := by
  refine .bind .get fun s => ?_
  split
  · exact .pure _
  · rename_i b _
    exact .ite (.dropPinned b) <|
      .ite (.bind (.stopIf _ _) fun _ => .bind (.fifoCommand _) fun _ =>
          .ite (.dropPinned b) (.bind (.modify fun s => { Same.refl s with }) fun _ =>
            .bind (.onlyIf _ (.fence _)) fun _ => .dropPinned b))
        (.bind (.onlyIf _ (.fence _)) fun _ => .dropPinned b)

theorem Quiet.vmwExecbufReleasePinnedBo (o : ReleasePinned) : Quiet (vmwExecbufReleasePinnedBo o) :=
  .bind (.lock _) fun _ => .bind .get fun _ =>
    .bind (.onlyIf _ (.releasePinnedLocked false o)) fun _ => .unlock _

theorem Quiet.vmwResourceBufAlloc (r : ResId) (alloc : Option BufId) : Quiet (vmwResourceBufAlloc r alloc) := by
  refine .bind .get fun s => .ite (.pure _) ?_
  cases alloc with
  | none => exact .pure _
  | some b =>
    exact .bind (.setRes r (fun _ => rfl) (fun _ => rfl) (fun _ => rfl) (fun _ => rfl)) fun _ => .pure _

theorem Quiet.vmwResourceCheckBuffer (r : ResId) (o : Evict) : Quiet (vmwResourceCheckBuffer r o) :=
  .bind (.vmwResourceBufAlloc r _) fun _ => .ite (.pure _) <| .ite (.pure _) <| .bind .get fun _ =>
    .ite (.pure _) <|
      .bind (.onlyIf _ (.setRes r (fun _ => rfl) (fun _ => rfl) (fun _ => rfl) (fun _ => rfl))) fun _ => .pure _

theorem Quiet.switchBackup (r : ResId) (newBackup : Option BufId) : Quiet (switchBackup r newBackup) := by
  cases newBackup with
  | none => exact .pure _
  | some b =>
    unfold Device.switchBackup
    refine .setRes r ?_ ?_ ?_ ?_
    all_goals
      intro res
      split <;> rfl

theorem Quiet.releaseBackup (r : ResId) (o : Unbind) : Quiet (releaseBackup r o) :=
  .bind .get fun _ => .ite
    (.bind (.onlyIf _ (.discard (.funcUnbind r false o))) fun _ =>
      .setRes r (fun _ => rfl) (fun _ => rfl) (fun _ => rfl) (fun _ => rfl)) (.pure _)

section Moves

theorem Quiet.vmwMobBind (b : BufId) (o : MobBind) : Quiet (vmwMobBind env b o) :=
  .ite (.pure _) <| .bind (.inc env _ _) fun _ => .bind (.fifoCommand _) fun _ =>
    .ite (.bind (.dec env _ _) fun _ => .pure _) (.pure _)

theorem Quiet.vmwMobUnbind (b : BufId) (o : MobUnbind) : Quiet (vmwMobUnbind env b o) :=
  .bind (.fifoCommand _) fun _ => .bind (.stopIf _ _) fun _ => .bind (.onlyIf _ (.fence _)) fun _ =>
    .dec env _ _

theorem Quiet.moveNotifyAll (b : BufId) (o : ResId → Unbind) (rs : List ResId) :
    Quiet (moveNotifyAll b o rs) := by
  induction rs with
  | nil => exact .pure _
  | cons r rs ih =>
    exact .bind .get fun _ => .bind (.onlyIf _ (.bind (.funcUnbind r true (o r)) fun _ =>
      .setRes r (fun _ => rfl) (fun _ => rfl) (fun _ => rfl) (fun _ => rfl))) fun _ => ih

theorem Quiet.vmwTtmUnbind (b : BufId) (o : Move) : Quiet (vmwTtmUnbind env b o) :=
  .bind .get fun _ => .bind (.onlyIf _ (.onlyIf _ (.discard (.fifoCommand _)))) fun _ =>
    .bind (.onlyIf _ (.vmwMobUnbind env b _)) fun _ => .setBuf b _

theorem Quiet.vmwTtmBind (b : BufId) (dest : Placement) (o : Move) : Quiet (vmwTtmBind env b dest o) := by
  cases dest with
  | gmr =>
    exact .ite (.bind (.fifoCommand _) fun _ => .ite (.pure _) (.pure _)) (.ite (.pure _) (.pure _))
  | mob => exact .vmwMobBind env b _
  | system => exact .pure _
  | vram => exact .pure _

theorem Quiet.moveMem (b : BufId) (dest : Placement) (o : Move) : Quiet (moveMem env b dest o) :=
  .bind .get fun _ => .ite (.pure _) <|
    .bind (.bind .get fun _ => .onlyIf _ (.moveNotifyAll b _ _)) fun _ =>
      .bind (.vmwTtmUnbind env b o) fun _ => .bind (.vmwTtmBind env b dest o) fun _ =>
        .bind (.onlyIf _ (.setBuf b _)) fun _ => .pure _

theorem Quiet.ttmBoValidate (b : BufId) (dest : Placement) (pin : Bool) (o : Move) :
    Quiet (ttmBoValidate env b dest pin o) :=
  .bind (.moveMem env b dest o) fun _ => .bind (.onlyIf _ (.setBuf b _)) fun _ => .pure _

theorem Quiet.ttmBoSwapoutAll (o : BufId → Move) (bs : List BufId) : Quiet (ttmBoSwapoutAll env o bs) := by
  induction bs with
  | nil => exact .pure _
  | cons b bs ih =>
    exact .bind .get fun _ => .bind (.onlyIf _ (.discard (.moveMem env b .system _))) fun _ => ih

end Moves

theorem Quiet.vmwExecbufProcess (o : Execbuf) : Quiet (vmwExecbufProcess env o) := by
  have hend (fenced : Bool) : Quiet (execbufEnd fenced o) :=
    .bind .get fun _ => .bind (.onlyIf _ (.releasePinnedLocked fenced _)) fun _ => .unlock _
  have hrebind (oks : List Bool) : Quiet (vmwRebindContexts oks) := by
    induction oks with
    | nil => exact .pure _
    | cons ok oks ih => exact .bind (.fifoCommand ok) fun _ => .ite (.pure _) ih
  have hpin : Quiet (pinQueryBo o.query) := by
    unfold pinQueryBo
    split
    · exact .pure _
    · exact .bind (.setBuf _ _) fun _ => .modify fun s => { Same.refl s with }
  have hunpin (p : Option BufId) : Quiet (unpinQueryBo p) := by
    cases p with
    | none => exact .pure _
    | some b => exact .dropPinned b
  have hcommit : Quiet (vmwQueryBoSwitchCommit o) :=
    .bind .get fun _ => .bind (.onlyIf _ (.discard (.fifoCommand _))) fun _ =>
      .onlyIf _ (.bind (hunpin _) fun _ => .onlyIf _ hpin)
  exact .bind (.lock _) fun _ => .bind (.lock _) fun _ => .bind (.orZero _ (hrebind _)) fun _ =>
    .ite (.bind (hend _) fun _ => .pure _) <| .bind (.fifoCommand _) fun _ =>
      .ite (.bind (.unlock _) fun _ => .bind (hend _) fun _ => .pure _) <|
        .bind hcommit fun _ => .bind (.vmwFifoSendFence _) fun _ => .bind (.unlock _) fun _ =>
          .bind (hend _) fun _ => .pure _

theorem Quiet.vmwMasterSet (o : Request) (vtLock : Int) (takedown : Bool) :
    Quiet (vmwMasterSet env o vtLock takedown) :=
  .bind (.orZero _ (.inc env _ _)) fun _ => .ite (.pure _) <|
    .ite (.bind (.onlyIf _ (.dec env _ _)) fun _ => .pure _)
      (.bind (.modify fun s => { Same.refl s with }) fun _ => .pure _)

theorem Quiet.vmwMasterDrop (o : ReleasePinned) (takedown : Bool) : Quiet (vmwMasterDrop env o takedown) :=
  .bind (.modify fun s => { Same.refl s with }) fun _ => .bind (.vmwExecbufReleasePinnedBo o) fun _ =>
    .onlyIf _ (.dec env _ _)

theorem Quiet.vmwDriverLoad (o : Request) (fb : Option BufId) : Quiet (vmwDriverLoad env o fb) := by
  have hfb : Quiet (fbCreateBo fb) := by
    cases fb with
    | none => exact .pure _
    | some b => exact .bind (.modify fun s => { Same.refl s with }) fun _ => .setBuf b _
  exact .bind (.orZero _ (.inc env _ _)) fun _ => .ite (.pure _)
    (.bind (.modify fun s => { Same.refl s with }) fun _ => .bind hfb fun _ => .pure _)

theorem Quiet.vmwDriverUnload (takedown : Bool) : Quiet (vmwDriverUnload env takedown) := by
  have hfb : Quiet fbClose := by
    refine .bind .get fun s => ?_
    split
    · exact .pure _
    · exact .setBuf _ _
  exact .bind (.modify fun s => { Same.refl s with }) fun _ =>
    .onlyIf _ (.bind hfb fun _ => .dec env _ _)

theorem Quiet.vmwPmPrepare (takedown : Bool) (o : Request) : Quiet (vmwPmPrepare env takedown o) :=
  .bind (.modify fun s => { Same.refl s with }) fun _ => .bind (.onlyIf _ (.dec env _ _)) fun _ =>
    .bind .get fun _ => .ite (.bind (.onlyIf _ (.discard (.inc env _ _))) fun _ =>
      .bind (.modify fun s => { Same.refl s with }) fun _ => .pure _) (.pure _)

theorem Quiet.vmwPmComplete (o : Request) : Quiet (vmwPmComplete env o) :=
  .bind (.onlyIf _ (.discard (.inc env _ _))) fun _ => .modify fun s => { Same.refl s with }

end Quiet

end Vmwgfx.Device
