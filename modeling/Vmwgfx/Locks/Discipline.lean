import Vmwgfx.Fifo.Flow
import Vmwgfx.Locks.Balance
import Vmwgfx.Locks.Process

/-! Submission and destruction give back the mutexes they take. -/

namespace Vmwgfx.Locks

open Lib Binding Resource

variable {α : Type} {env : Env} {held : Mutex → Bool}

section Resources

variable (h : env.Meets)
include h

theorem defineNew_balanced (site : Site) (bytes : Nat) : Balanced (defineNew env site bytes) := by
  refine .bind (.ask _) fun _ => .ite ?_ (.pure _)
  exact .bind (.ask _) fun _ => .ite (.pure _) (.command h site bytes)

/-- `vmw_gb_context_create` and `vmw_gb_shader_create`. -/
theorem gbCreate_balanced (site : Site) (bytes : Nat) : Balanced (do
    if ← ask env .noId then
      if ← defineNew env site bytes then
        discard (vmw3dResourceInc env)
        return true
      else return false
    else return true) := by
  refine .bind (.ask _) fun _ => .ite ?_ (.pure _)
  refine .bind (defineNew_balanced h site bytes) fun _ => .ite ?_ (.pure _)
  exact .bind (.discard (vmw3dResourceInc_balanced h)) fun _ => .pure _

theorem vmwGbSurfaceCreate_balanced : Balanced (vmwGbSurfaceCreate env) := by
  refine .bind (.ask _) fun _ => .ite ?_ (.pure _)
  refine .bind (.discard (vmw3dResourceInc_balanced h)) fun _ => ?_
  refine .bind (defineNew_balanced h _ 44) fun _ => .ite (.pure _) ?_
  exact .bind (vmw3dResourceDec_balanced h) fun _ => .pure _

theorem vmwLegacySrfCreate_balanced : Balanced (vmwLegacySrfCreate env) := by
  refine .bind (.ask _) fun _ => .ite ?_ (.pure _)
  refine .bind (.ask _) fun _ => .ite (.pure _) ?_
  exact .bind (.size _) fun bytes => defineNew_balanced h _ bytes

theorem vmwContextInit_balanced : Balanced (vmwContextInit env) := by
  refine .bind (.ask _) fun _ => .ite (.ask _) ?_
  refine .bind (.ask _) fun _ => .ite ?_ (.pure _)
  refine .bind (.ask _) fun _ => .ite (.pure _) ?_
  refine .bind (.command h _ 12) fun _ => .ite ?_ (.pure _)
  exact .bind (.discard (vmw3dResourceInc_balanced h)) fun _ => .pure _

theorem vmwGbSurfaceBind_balanced : Balanced (vmwGbSurfaceBind env) :=
  .bind (.ask _) fun _ => .command h _ _

/-- The functions that fence the backup buffer after their command. -/
theorem fenced_balanced (site : Site) (bytes : Nat) : Balanced (do
    if ← command env site bytes then
      fenceBackup env
      return true
    else return false) := by
  refine .bind (.command h site bytes) fun _ => .ite ?_ (.pure _)
  exact .bind (fenceBackup_balanced h) fun _ => .pure _

theorem vmwLegacySrfDma_balanced : Balanced (vmwLegacySrfDma env) :=
  .bind (.size _) fun bytes => fenced_balanced h .legacySrfDma bytes

theorem vmwLegacySrfBind_balanced : Balanced (vmwLegacySrfBind env) :=
  .bind (.ask _) fun _ => .ite (vmwLegacySrfDma_balanced h) (.pure _)

theorem vmwLegacySrfUnbind_balanced : Balanced (vmwLegacySrfUnbind env) :=
  .bind (.ask _) fun _ => .ite (vmwLegacySrfDma_balanced h) (.pure _)

theorem vmwGbContextUnbind_balanced : Balanced (vmwGbContextUnbind env) := by
  intro held
  refine lock_then fun hm => (scrubList_balanced h _).bind fun _ => ?_
  refine ((Balanced.ask _) _).bind fun readback => ?_
  refine ((Balanced.command h .gbContextUnbind _) _).bind fun _ => .ite ?_ ?_
  · refine unlock_then hm ((fenceBackup_balanced h _).bind fun _ => ?_)
    exact .pure _ fun _ hs => hs
  · exact unlock_then hm (.pure _ fun _ hs => hs)

theorem vmwGbContextDestroy_balanced : Balanced (vmwGbContextDestroy env) := by
  refine .bind (.ask _) fun _ => .ite (.pure _) ?_
  refine .bind (.command h _ 12) fun _ => .ite ?_ (.pure _)
  exact .bind (vmw3dResourceDec_balanced h) fun _ => .pure _

theorem vmwGbShaderDestroy_balanced : Balanced (vmwGbShaderDestroy env) := by
  refine .bind (.ask _) fun _ => .ite (.pure _) ?_
  intro held
  refine lock_then fun hm => (scrubList_balanced h _).bind fun _ => ?_
  refine ((Balanced.command h .gbShaderDestroy 12) _).bind fun _ => .ite ?_ ?_
  · refine unlock_then hm ((vmw3dResourceDec_balanced h _).bind fun _ => ?_)
    exact .pure _ fun _ hs => hs
  · exact unlock_then hm (.pure _ fun _ hs => hs)

/-- A command of a caller that goes on without room is granted. -/
theorem command_granted {held : Mutex → Bool} {site : Site} (hsite : site.Unchecked) {bytes : Nat} (hbytes : bytes ≤ 28) :
    Triple Allowed (Holds held false) (command env site bytes) (fun ok s => ok = true ∧ Holds held false s) := by
  refine (reserve_unchecked h hsite hbytes).bind ?_
  intro cmd
  cases cmd with
  | false => exact .absurd fun _ hs => Bool.false_ne_true hs.1
  | true =>
    have hfill : Triple Allowed (fun s => true = true ∧ Holds held true s) (fill env site true)
        (fun _ => Holds held true) := (fill_spec site).mono (fun _ hs => hs.2) (fun _ _ hs => hs)
    exact hfill.bind fun _ => (commit_spec site bytes).bind fun _ => .pure _ fun _ hs => ⟨rfl, hs⟩

theorem vmwGbSurfaceDestroy_balanced : Balanced (vmwGbSurfaceDestroy env) := by
  refine .bind (.ask _) fun _ => .ite (.pure _) ?_
  intro held
  refine lock_then fun hm => (scrubList_balanced h _).bind fun _ => ?_
  have hsite : Site.Unchecked .gbSurfaceDestroy := trivial
  refine (command_granted h hsite (by decide)).bind ?_
  intro ok
  cases ok with
  | false => exact .absurd fun _ hs => Bool.false_ne_true hs.1
  | true =>
    have hrest : Triple Allowed (Holds (Function.update held .binding true) false)
        (do
          mutexUnlock .binding
          vmw3dResourceDec env
          return true) (fun _ => Holds held false) := by
      refine unlock_then hm ((vmw3dResourceDec_balanced h _).bind fun _ => ?_)
      exact .pure _ fun _ hs => hs
    exact hrest.mono (fun _ hs => hs.2) (fun _ _ hs => hs)

theorem vmwLegacySrfDestroy_balanced : Balanced (vmwLegacySrfDestroy env) :=
  .bind (.ask _) fun _ => .ite (.pure _) (.command h _ 12)

theorem vmwHwSurfaceDestroy_balanced : Balanced (vmwHwSurfaceDestroy env) := by
  refine .bind (.ask _) fun _ => .ite (.discard (vmwGbSurfaceDestroy_balanced h)) ?_
  refine .bind (.ask _) fun _ => .ite (vmw3dResourceDec_balanced h) ?_
  refine .bind (.command h _ 12) fun _ => .ite ?_ (.pure _)
  intro held
  exact lock_then fun hm => unlock_then hm (vmw3dResourceDec_balanced h held)

end Resources

section Display

variable (h : env.Meets)
include h

theorem vmwFbDirtyFlush_balanced : Balanced (vmwFbDirtyFlush env) := by
  refine .bind (.ask _) fun _ => .ite (.pure _) ?_
  exact .bind (.ask _) fun _ => .ite (.discard (.command h _ 20)) (.pure _)

theorem vmwCursorUpdateImage_balanced : Balanced (vmwCursorUpdateImage env) :=
  .bind (.ask _) fun _ => .ite (.bind (.size _) fun bytes => .command h _ bytes) (.pure _)

theorem doDmabufDirtyLdu_balanced : Balanced (doDmabufDirtyLdu env) :=
  .bind (.size _) fun bytes => .command h _ bytes

theorem vmwSouFifoDestroy_balanced : Balanced (vmwSouFifoDestroy env) := by
  refine .bind (.ask _) fun _ => .ite ?_ (.pure _)
  exact .bind (.command h _ 8) fun _ => .ite (.ask _) (.pure _)

theorem vmwOverlaySendPut_balanced : Balanced (vmwOverlaySendPut env) :=
  .bind (.ask _) fun _ => .command h _ _

theorem sendStopLoop_balanced (n : Nat) : Balanced (sendStopLoop env n) := by
  induction n with
  | zero => exact .throw allowed_running
  | succ n ih =>
    refine .bind (.command h _ 48) fun _ => .ite (.pure _) ?_
    refine .bind (.ask _) fun _ => .ite (.pure _) ?_
    exact .bind (.ask _) fun _ => .ite ih (.throw allowed_bug)

theorem vmwOverlaySendStop_balanced : Balanced (vmwOverlaySendStop env) :=
  .bind (.length _) fun n => sendStopLoop_balanced h n

end Display

section Release

variable (h : env.Meets)
include h

theorem releaseWith_balanced {unbind : M Bool} {hwDestroy : M Unit} (hunbind : Balanced unbind)
    (hdestroy : Balanced hwDestroy) : Balanced (vmwResourceReleaseWith env unbind hwDestroy) := by
  refine .bind (.ask _) fun backup => .bind (.onlyIf backup ?_) fun _ => ?_
  · refine .bind (.ask _) fun mobHead => ?_
    exact .bind (.onlyIf mobHead (.discard hunbind)) fun _ => ttmBoUnref_balanced h
  · refine .bind (.ask _) fun activated => .onlyIf activated ?_
    exact .bind hdestroy fun _ => .locked .binding (scrubList_balanced h)

omit h in
theorem unreference_balanced {release : M Unit} (hrelease : Balanced release) : Balanced (unreference env release) :=
  .bind (.ask _) fun last => .onlyIf last hrelease

theorem releaseShader_balanced : Balanced (releaseShader env) :=
  releaseWith_balanced h (fenced_balanced h .gbShaderUnbind 20) (.discard (vmwGbShaderDestroy_balanced h))

theorem vmwCmdbufResManDestroy_balanced : Balanced (vmwCmdbufResManDestroy env) :=
  .bind (.length _) fun n => .times (unreference_balanced (releaseShader_balanced h)) n

theorem vmwHwContextDestroy_balanced : Balanced (vmwHwContextDestroy env) := by
  refine .bind (.ask _) fun _ => .ite ?_ ?_
  · intro held
    refine lock_then fun hcmdbuf => (vmwCmdbufResManDestroy_balanced h _).bind fun _ => ?_
    refine lock_then fun hbinding => (scrubList_balanced h _).bind fun _ => ?_
    refine (Balanced.discard (vmwGbContextDestroy_balanced h) _).bind fun _ => ?_
    refine (releaseInvalidPinned_balanced h false _).bind fun _ => ?_
    exact unlock_then hbinding (unlock_spec hcmdbuf)
  · refine .bind (releasePinnedBo_balanced h) fun _ => ?_
    exact .bind (.command h _ 12) fun _ => .ite (vmw3dResourceDec_balanced h) (.pure _)

theorem vmwStreamDestroy_balanced : Balanced (vmwStreamDestroy env) := by
  refine .bind (.ask _) fun active => .onlyIf active ?_
  exact .bind (.discard (vmwOverlaySendStop_balanced h)) fun _ => ttmBoUnref_balanced h

theorem surfaceUnbind_balanced : Balanced (surfaceUnbind env) :=
  .bind (.ask _) fun _ => .ite (fenced_balanced h .gbSurfaceUnbind 28) (vmwLegacySrfUnbind_balanced h)

theorem resourceUnreference_balanced (type : ResType) : Balanced (vmwResourceUnreference env type) := by
  refine unreference_balanced ?_
  cases type with
  | context => exact releaseWith_balanced h (vmwGbContextUnbind_balanced h) (vmwHwContextDestroy_balanced h)
  | surface => exact releaseWith_balanced h (surfaceUnbind_balanced h) (vmwHwSurfaceDestroy_balanced h)
  | shader => exact releaseShader_balanced h
  | stream => exact releaseWith_balanced h (.pure _) (vmwStreamDestroy_balanced h)

end Release

section Execbuf

theorem boundType_balanced : Balanced (boundType env) := .bind (.ask _) fun _ => .ite (.pure _) (.pure _)

variable (h : env.Meets)
include h

theorem contextResAdd_balanced : Balanced (vmwResourceContextResAdd env) := by
  have hone : Balanced (contextResAddOne env) := by
    refine .bind (.ask _) fun _ => .ite (.pure _) ?_
    exact .bind boundType_balanced fun type => resourceUnreference_balanced h type
  intro held
  refine lock_then fun hm => ((Balanced.length _) _).bind fun n => ?_
  exact (Balanced.times hone n _).bind fun _ => unlock_spec hm

theorem funcCreate_balanced (func : VmwResFunc) : Balanced (funcCreate env func) := by
  cases func with
  | gbContext => exact gbCreate_balanced h .gbContextCreate 12
  | gbSurface => exact vmwGbSurfaceCreate_balanced h
  | gbShader => exact gbCreate_balanced h .gbShaderCreate 20
  | legacySurface => exact vmwLegacySrfCreate_balanced h
  | legacyContext => exact .pure _
  | stream => exact .pure _

theorem funcBind_balanced (func : VmwResFunc) : Balanced (funcBind env func) := by
  cases func with
  | gbContext => exact .command h _ 20
  | gbSurface => exact vmwGbSurfaceBind_balanced h
  | gbShader => exact .command h _ 20
  | legacySurface => exact vmwLegacySrfBind_balanced h
  | legacyContext => exact .pure _
  | stream => exact .pure _

theorem funcUnbind_balanced (func : VmwResFunc) : Balanced (funcUnbind env func) := by
  cases func with
  | gbContext => exact vmwGbContextUnbind_balanced h
  | gbSurface => exact fenced_balanced h .gbSurfaceUnbind 28
  | gbShader => exact fenced_balanced h .gbShaderUnbind 20
  | legacySurface => exact vmwLegacySrfUnbind_balanced h
  | legacyContext => exact .pure _
  | stream => exact .pure _

theorem funcDestroy_balanced (func : VmwResFunc) : Balanced (funcDestroy env func) := by
  cases func with
  | gbContext => exact vmwGbContextDestroy_balanced h
  | gbSurface => exact vmwGbSurfaceDestroy_balanced h
  | gbShader => exact vmwGbShaderDestroy_balanced h
  | legacySurface => exact vmwLegacySrfDestroy_balanced h
  | legacyContext => exact .pure _
  | stream => exact .pure _

theorem call_balanced (c : Call) : Balanced (c.run env) := by
  cases c with
  | resourceContextResAdd => exact contextResAdd_balanced h
  | resourceUnreference type => exact resourceUnreference_balanced h type
  | boUnref => exact ttmBoUnref_balanced h
  | ttmBind => exact .discard (vmwTtmBind_balanced h)
  | ttmUnbind => exact vmwTtmUnbind_balanced h
  | create func => exact .discard (funcCreate_balanced h func)
  | bind func => exact .discard (funcBind_balanced h func)
  | unbind func => exact .discard (funcUnbind_balanced h func)
  | destroy func => exact .discard (funcDestroy_balanced h func)

theorem runStage_balanced (stage : Stage) : Balanced (runStage env stage) :=
  .bind .tick fun _ => .each (call_balanced h) _

theorem switchCommit_balanced : Balanced (vmwQueryBoSwitchCommit env) := by
  refine .bind (.ask _) fun barrier => .bind (.onlyIf barrier (.discard (vmwFifoEmitDummyQuery_balanced h))) fun _ => ?_
  refine .bind (.ask _) fun _ => .ite ?_ (.pure _)
  exact .bind (.ask _) fun pinned => .onlyIf pinned (ttmBoUnref_balanced h)

theorem clearValidations_balanced : Balanced (vmwClearValidations env) :=
  .bind (.length _) fun n => .times (ttmBoUnref_balanced h) n

theorem unrefOne_balanced : Balanced (unrefOne env) := by
  refine .bind (.ask _) fun _ => .ite (resourceUnreference_balanced h .context) ?_
  exact .bind boundType_balanced fun type => resourceUnreference_balanced h type

theorem listUnreference_balanced : Balanced (vmwResourceListUnreference env) :=
  .bind (.length _) fun n => .times (unrefOne_balanced h) n

theorem validateBatch_balanced : Balanced (validateBatch env) := by
  refine .bind (runStage_balanced h _) fun _ => .bind (.ask _) fun _ => .ite ?_ (.pure _)
  refine .bind (runStage_balanced h _) fun _ => .bind (.ask _) fun _ => .ite ?_ (.pure _)
  refine .bind (.ask _) fun _ => .ite ?_ (.pure _)
  refine .bind (runStage_balanced h _) fun _ => .bind (.ask _) fun _ => .ite ?_ (.pure _)
  refine .bind (runStage_balanced h _) fun _ => .bind (.ask _) fun _ => .ite ?_ (.pure _)
  exact .ask _

/-- A binding is restored where there is room, so that none is left scrubbed. -/
theorem rebind_granted : Triple Allowed (Holds held false) (vmwScrubFuncs env true)
    (fun ok s => ok = true ∧ Holds held false s) := by
  have hsite (bt : BindingType) : Site.Unchecked (.contextScrub bt true) := trivial
  refine ((Balanced.ask _) _).bind fun _ => .ite (command_granted h (hsite .shader) (by decide)) ?_
  refine ((Balanced.ask _) _).bind fun _ => .ite ?_ ?_
  · exact command_granted h (hsite .rt) (by decide)
  · exact command_granted h (hsite .tex) (by decide)

theorem rebindAll_granted (n : Nat) : Triple Allowed (Holds held false) (rebindAll env n)
    (fun ok s => ok = true ∧ Holds held false s) := by
  induction n with
  | zero => exact .pure _ fun _ hs => ⟨rfl, hs⟩
  | succ n ih =>
    refine ((Balanced.ask _) _).bind fun _ => .ite ?_ ih
    refine ((Balanced.ask _) _).bind fun _ => .ite ih ?_
    refine (rebind_granted h).bind ?_
    intro ok
    cases ok with
    | true => exact ih.mono (fun _ hs => hs.2) (fun _ _ hs => hs)
    | false => exact .absurd fun _ hs => Bool.false_ne_true hs.1

theorem rebindContexts_granted (n : Nat) : Triple Allowed (Holds held false) (rebindContexts env n)
    (fun ok s => ok = true ∧ Holds held false s) := by
  induction n with
  | zero => exact .pure _ fun _ hs => ⟨rfl, hs⟩
  | succ n ih =>
    refine ((Balanced.length _) _).bind fun bindings => (rebindAll_granted h bindings).bind ?_
    intro ok
    cases ok with
    | true => exact ih.mono (fun _ hs => hs.2) (fun _ _ hs => hs)
    | false => exact .absurd fun _ hs => Bool.false_ne_true hs.1

variable (hm : held .cmdbuf = false)
include hm

theorem outUnlock_ends :
    Triple Allowed (Holds (Function.update held .cmdbuf true) false) (outUnlock env) (fun _ => Holds held false) := by
  refine (runStage_balanced h _ _).bind fun _ => unlock_then hm ?_
  refine (listUnreference_balanced h _).bind fun _ => ((Balanced.ask _) _).bind fun error => ?_
  exact Balanced.onlyIf error (unrefOne_balanced h) _

theorem outErr_ends :
    Triple Allowed (Holds (Function.update held .cmdbuf true) false) (outErr env) (fun _ => Holds held false) := by
  refine (runStage_balanced h _ _).bind fun _ => (clearValidations_balanced h _).bind fun _ => ?_
  exact (releaseInvalidPinned_balanced h false _).bind fun _ => outUnlock_ends h hm

theorem submitted_ends {held' : Mutex → Bool} (hheld' : held' = Function.update held .cmdbuf true)
    (hbinding : held' .binding = false) :
    Triple Allowed (Holds (Function.update held' .binding true) false) (submitted env) (fun _ => Holds held false) := by
  subst hheld'
  refine (switchCommit_balanced h _).bind fun _ => (vmwExecbufFenceCommands_balanced h _).bind fun fence => ?_
  refine (runStage_balanced h _ _).bind fun _ => unlock_then hbinding ?_
  refine (releaseInvalidPinned_balanced h fence _).bind fun _ => (clearValidations_balanced h _).bind fun _ => ?_
  exact (runStage_balanced h _ _).bind fun _ => unlock_then hm (listUnreference_balanced h held)

omit hm in
theorem vmwExecbufProcess_balanced : Balanced (vmwExecbufProcess env) := by
  intro held
  refine lockInterruptible_then (fun hcmdbuf => ?_) (.pure _ fun _ hs => hs)
  refine ((Balanced.ask _) _).bind fun _ => .ite ?_ ((outUnlock_ends h hcmdbuf).bind fun _ => .pure _ fun _ hs => hs)
  have herr : Triple Allowed (Holds (Function.update held .cmdbuf true) false)
      (do
        outErr env
        return false) (fun _ => Holds held false) :=
    (outErr_ends h hcmdbuf).bind fun _ => .pure _ fun _ hs => hs
  refine (validateBatch_balanced h _).bind fun _ => .ite ?_ herr
  refine lockInterruptible_then (fun hbinding => ?_) herr
  refine ((Balanced.ask _) _).bind fun hasMob => ?_
  have hrebind : Triple Allowed (Holds (Function.update (Function.update held .cmdbuf true) .binding true) false)
      (if hasMob then vmwRebindContexts env else pure true)
      (fun ok s => ok = true ∧
        Holds (Function.update (Function.update held .cmdbuf true) .binding true) false s) :=
    .ite (((Balanced.length _) _).bind fun n => rebindContexts_granted h n) (.pure _ fun _ hs => ⟨rfl, hs⟩)
  refine hrebind.bind ?_
  intro ok
  cases ok with
  | false => exact .absurd fun _ hs => Bool.false_ne_true hs.1
  | true =>
    have hrest : Triple Allowed (Holds (Function.update (Function.update held .cmdbuf true) .binding true) false)
        (do
          let commandSize ← size env .execbufProcess
          if ← command env .execbufProcess commandSize then
            submitted env
            return true
          else
            mutexUnlock .binding
            outErr env
            return false) (fun _ => Holds held false) := by
      refine ((Balanced.size _) _).bind fun bytes => ((Balanced.command h _ bytes) _).bind fun _ => .ite ?_ ?_
      · exact (submitted_ends h hcmdbuf rfl hbinding).bind fun _ => .pure _ fun _ hs => hs
      · exact unlock_then hbinding herr
    exact hrest.mono (fun _ hs => hs.2) (fun _ _ hs => hs)

omit hm in
theorem run_balanced (site : Site) : Balanced (site.run env) := by
  cases site with
  | hwContextDestroy => exact vmwHwContextDestroy_balanced h
  | contextInit => exact .discard (vmwContextInit_balanced h)
  | gbContextCreate => exact .discard (funcCreate_balanced h .gbContext)
  | gbContextBind => exact .discard (funcBind_balanced h .gbContext)
  | gbContextUnbind => exact .discard (vmwGbContextUnbind_balanced h)
  | gbContextDestroy => exact .discard (vmwGbContextDestroy_balanced h)
  | contextScrub bt rebind =>
    cases bt with
    | shader => exact .discard (.command h _ 20)
    | rt => exact .discard (.command h _ 28)
    | tex => exact .discard (.command h _ 24)
  | execbufProcess => exact .discard (vmwExecbufProcess_balanced h)
  | fbDirtyFlush => exact vmwFbDirtyFlush_balanced h
  | fifoSendFence => exact .discard (vmwFifoSendFence_balanced h)
  | emitDummyLegacyQuery => exact .discard (.command h _ 24)
  | emitDummyGbQuery => exact .discard (.command h _ 24)
  | gmr2Bind => exact .discard (vmwGmr2Bind_balanced h)
  | gmr2Unbind => exact vmwGmr2Unbind_balanced h
  | cursorUpdateImage => exact .discard (vmwCursorUpdateImage_balanced h)
  | dmabufDirtyLdu => exact .discard (doDmabufDirtyLdu_balanced h)
  | setupOtableBase => exact .discard (vmwSetupOtableBase_balanced h)
  | takedownOtableBase => exact vmwTakedownOtableBase_balanced h
  | mobUnbind => exact vmwMobUnbind_balanced h
  | mobBind => exact .discard (vmwMobBind_balanced h)
  | overlaySendPut => exact .discard (vmwOverlaySendPut_balanced h)
  | overlaySendStop => exact .discard (vmwOverlaySendStop_balanced h)
  | souFifoCreate => exact .discard (.command h _ 48)
  | souFifoDestroy => exact .discard (vmwSouFifoDestroy_balanced h)
  | gbShaderCreate => exact .discard (funcCreate_balanced h .gbShader)
  | gbShaderBind => exact .discard (funcBind_balanced h .gbShader)
  | gbShaderUnbind => exact .discard (funcUnbind_balanced h .gbShader)
  | gbShaderDestroy => exact .discard (vmwGbShaderDestroy_balanced h)
  | hwSurfaceDestroy => exact vmwHwSurfaceDestroy_balanced h
  | legacySrfCreate => exact .discard (vmwLegacySrfCreate_balanced h)
  | legacySrfDma => exact .discard (vmwLegacySrfDma_balanced h)
  | legacySrfDestroy => exact .discard (vmwLegacySrfDestroy_balanced h)
  | gbSurfaceCreate => exact .discard (vmwGbSurfaceCreate_balanced h)
  | gbSurfaceBind => exact .discard (vmwGbSurfaceBind_balanced h)
  | gbSurfaceUnbind => exact .discard (funcUnbind_balanced h .gbSurface)
  | gbSurfaceDestroy => exact .discard (vmwGbSurfaceDestroy_balanced h)

end Execbuf

section Claim

/-- A call that comes back has both mutexes as it found them and has given back `fifo_mutex`;
one that does not has written or committed nothing without a reservation. -/
def GivesBack (x : M α) (s : State) : Prop :=
  Ends x s (fun _ t => t.held = s.held ∧ t.fifo.pc = .idle ∧ t.fifo.reservedSize = 0)
    (fun e _ => e ≠ .nullWrite ∧ e ≠ .nullCommit)

/-- NULL comes with `fifo_mutex` free and nothing reserved. -/
def NullFree (env : Env) (site : Site) (bytes : Nat) (s : State) : Prop :=
  Ends (vmwFifoReserve env site bytes) s
    (fun cmd t => t.held = s.held ∧ (cmd = false → t.fifo.pc = .idle ∧ t.fifo.reservedSize = 0))
    (fun _ _ => True)

/-- Nothing fails, and nothing is bound or freed; `acts` is what happens in the FIFO. -/
def plainEnv (acts : Nat → List Fifo.Act) : Env where
  acts _ := acts
  others _ := []
  answer _ _ := false
  length _ _ := 0
  calls _ _ := []
  size _ _ := 0

/-- A thread that holds nothing. -/
def atRest (fifo : Fifo.State) : State := ⟨fun _ => false, fifo, 0⟩

/-- The command of `vmw_gb_surface_destroy` is reserved in place and committed. -/
def grantingEnv : Env :=
  plainEnv fun n => if n = 3 then [.loop (some fun _ => 0)] else if n = 5 then [.publish] else []

theorem grantingEnv_meets : grantingEnv.Meets where
  allocates _ n a ha := by
    simp only [grantingEnv, plainEnv] at ha
    split_ifs at ha
    · rw [List.mem_singleton.mp ha]
      exact rfl
    · rw [List.mem_singleton.mp ha]
      exact trivial
    · cases ha
  waits _ n _ ha := by
    simp only [grantingEnv, plainEnv] at ha
    split_ifs at ha
    · cases List.mem_singleton.mp ha
    · cases List.mem_singleton.mp ha
    · cases ha

theorem free_onePage : Free (Fifo.onePage true) := ⟨rfl, rfl, rfl, by decide⟩

/-- STOP stands just ahead of NEXT_CMD. -/
def fullRing : Fifo.State := { Fifo.onePage true with stop := 4104 }

/-- The wait for room fails. -/
def refusingEnv : Env := plainEnv fun n => if n = 3 then [.loop (some fun _ => 0), .wait true] else []

end Claim

end Vmwgfx.Locks
