import Vmwgfx.Query.Defs

/-! What is pinned for queries between the operations. -/

namespace Vmwgfx.Query

open Lib

variable {env : Env} {s s' : State} {bo : BufId}

/-- Apart from the remembered context, the pins fit together at any time. -/
structure Held (env : Env) (s : State) : Prop where
  pinned : ∀ bo, s.pinnedBo = some bo → bo ≠ env.dummyQueryBo ∧ s.dummyQueryBoPinned = true
  noEvict : ∀ bo, bo ≠ env.dummyQueryBo → (s.noEvict bo = true ↔ s.pinnedBo = some bo)
  dummy : s.noEvict env.dummyQueryBo = s.dummyQueryBoPinned

/-- The buffer that was pinned is let go of, with the dummy or without. -/
theorem Held.unpin (h : Held env s) (hbo : s.pinnedBo = some bo) (hnone : s'.pinnedBo = none)
    (hsame : ∀ b, b ≠ env.dummyQueryBo → s'.noEvict b = (Function.update s.noEvict bo false) b)
    (hdummy : s'.noEvict env.dummyQueryBo = s'.dummyQueryBoPinned) : Held env s' := by
  refine ⟨fun b hb => ?_, fun b hb => ?_, hdummy⟩
  · rw [hnone] at hb
    cases hb
  · rw [hsame b hb, hnone]
    by_cases heq : b = bo
    · simp [heq]
    · rw [Function.update_of_ne heq, h.noEvict b hb, hbo]
      simp [Ne.symm heq]

/-- A step that has nothing to do with pins. -/
theorem Held.frame (h : Held env s) (hbo : s'.pinnedBo = s.pinnedBo) (hno : s'.noEvict = s.noEvict)
    (hflag : s'.dummyQueryBoPinned = s.dummyQueryBoPinned) : Held env s' := by
  refine ⟨fun b hb => ?_, fun b hb => ?_, ?_⟩
  · rw [hflag]
    exact h.pinned b (hbo ▸ hb)
  · rw [hno, hbo]
    exact h.noEvict b hb
  · rw [hno, hflag]
    exact h.dummy

/-- What a release leaves. -/
structure Released (env : Env) (s s' : State) (o : Release) : Prop where
  held : Held env s'
  pinnedBo : s'.pinnedBo = none
  dummy : s'.dummyQueryBoPinned = false
  valid : s'.queryCidValid = true → s.queryCidValid = true ∧ (o.reserve ≠ 0 ∨ o.room = false)

theorem vmwExecbufUnpinPanic_held (h : Held env s) (hbo : s.pinnedBo = some bo) :
    Held env (vmwExecbufUnpinPanic env s bo) := by
  have hne := (h.pinned bo hbo).1
  apply h.unpin hbo rfl
  · intro b hb
    exact Function.update_of_ne hb _ _
  · exact Function.update_self _ _ _

theorem vmwExecbufReleasePinnedBoLocked_spec (h : Held env s) (o : Release) (fence : Option (List FifoCmd))
    (hbo : s.pinnedBo = some bo) : Released env s (vmwExecbufReleasePinnedBoLocked env s o fence) o := by
  unfold vmwExecbufReleasePinnedBoLocked
  rw [hbo]
  simp only
  split
  · rename_i hreserve
    exact ⟨vmwExecbufUnpinPanic_held h hbo, rfl, rfl, fun hvalid => ⟨hvalid, .inl hreserve⟩⟩
  · split
    · rename_i hroom
      exact ⟨vmwExecbufUnpinPanic_held h hbo, rfl, rfl,
        fun hvalid => ⟨hvalid, .inr (by simpa using hroom.2)⟩⟩
    · -- the query barrier has nothing to do with the pins
      have hbarrier : ∃ t, (if s.queryCidValid then
          { vmwFifoEmitDummyQuery s s.queryCid o.room with queryCidValid := false } else s) = t ∧
          t.noEvict = s.noEvict ∧ t.queryCidValid = false := by
        split
        · refine ⟨_, rfl, ?_, rfl⟩
          show (vmwFifoEmitDummyQuery s s.queryCid o.room).noEvict = s.noEvict
          unfold vmwFifoEmitDummyQuery
          split
          · rfl
          · rfl
        · rename_i hinvalid
          exact ⟨s, rfl, rfl, by simpa using hinvalid⟩
      obtain ⟨t, ht, hno, hvalid⟩ := hbarrier
      rw [ht]
      have hdone : Held env { (t.unpinQuery bo (fence.getD t.fifo)).vmwBoPin env.dummyQueryBo false with
          dummyQueryBoPinned := false, pinnedBo := none } := by
        apply h.unpin hbo rfl
        · intro b hb
          show Function.update (Function.update t.noEvict bo false) env.dummyQueryBo false b = _
          rw [Function.update_of_ne hb, hno]
        · exact Function.update_self _ _ _
      split
      · exact ⟨hdone.frame rfl rfl rfl, rfl, rfl, fun h => absurd (hvalid.symm.trans h) (by decide)⟩
      · exact ⟨hdone, rfl, rfl, fun h => absurd (hvalid.symm.trans h) (by decide)⟩

/-- Between operations the context of a pinned buffer is remembered. -/
structure PinState (env : Env) (s : State) : Prop where
  held : Held env s
  valid : s.pinnedBo ≠ none → s.queryCidValid = true

theorem releaseInvalid_pinState (h : Held env s) (o : Release) (fence : Option (List FifoCmd)) :
    PinState env (releaseInvalid env s o fence) := by
  unfold releaseInvalid
  split
  · rename_i hinvalid
    obtain ⟨bo, hbo⟩ := Option.isSome_iff_exists.mp hinvalid.1
    have hr := vmwExecbufReleasePinnedBoLocked_spec h o fence hbo
    exact ⟨hr.held, fun hne => absurd hr.pinnedBo hne⟩
  · rename_i hvalid
    refine ⟨h, fun hne => ?_⟩
    by_contra hno
    exact hvalid ⟨Option.isSome_iff_ne_none.mpr hne, hno⟩

/-- What happens to contexts leaves the pins alone, and may only forget the remembered one. -/
structure Framed (s s' : State) : Prop where
  pinnedBo : s'.pinnedBo = s.pinnedBo
  noEvict : s'.noEvict = s.noEvict
  dummy : s'.dummyQueryBoPinned = s.dummyQueryBoPinned
  fifo : s'.fifo = s.fifo
  unpins : s'.unpins = s.unpins
  pinnedAt : s'.pinnedAt = s.pinnedAt
  queryCid : s'.queryCid = s.queryCid
  valid : s'.queryCidValid = true → s.queryCidValid = true

theorem Framed.refl (s : State) : Framed s s := ⟨rfl, rfl, rfl, rfl, rfl, rfl, rfl, id⟩

theorem Framed.trans {s'' : State} (h : Framed s s') (h' : Framed s' s'') : Framed s s'' :=
  ⟨h'.pinnedBo.trans h.pinnedBo, h'.noEvict.trans h.noEvict, h'.dummy.trans h.dummy, h'.fifo.trans h.fifo,
    h'.unpins.trans h.unpins, h'.pinnedAt.trans h.pinnedAt, h'.queryCid.trans h.queryCid,
    fun hv => h.valid (h'.valid hv)⟩

theorem vmwGbContextDestroy_framed (s : State) (r : ResId) (room : Bool) :
    Framed s (vmwGbContextDestroy s r room) := by
  unfold vmwGbContextDestroy
  split
  · exact .refl s
  · split
    · exact .refl s
    · refine ⟨rfl, rfl, rfl, rfl, rfl, rfl, rfl, fun h => ?_⟩
      simp only at h
      split at h
      · cases h
      · exact h

theorem vmwResourcesValidate_framed {cmds : List Command} {es : List ContextEvent}
    (h : vmwResourcesValidate cmds es s = some s') : Framed s s' := by
  induction es generalizing s with
  | nil =>
    cases h
    exact .refl _
  | cons e es ih =>
    cases e with
    | create r cid =>
      unfold vmwResourcesValidate at h
      split at h
      · cases h
      · have hcreate : Framed s { s with ctxId := Function.update s.ctxId r (some cid) } :=
          ⟨rfl, rfl, rfl, rfl, rfl, rfl, rfl, id⟩
        exact hcreate.trans (ih h)
    | evict r room =>
      unfold vmwResourcesValidate at h
      split at h
      · cases h
      · exact (vmwGbContextDestroy_framed s r room).trans (ih h)

theorem Held.framed (h : Held env s) (hf : Framed s s') : Held env s' := h.frame hf.pinnedBo hf.noEvict hf.dummy

section Check

variable {sw sw' : SwContext}

/-- The context and the buffer of a query end. -/
def Command.queryEnd : Command → Option (ResId × BufId)
  | .endQuery r bo _ _ => some (r, bo)
  | _ => none

/-- The query ends of a batch. -/
def ends (cmds : List Command) : List (ResId × BufId) := cmds.filterMap Command.queryEnd

/-- What a check that succeeds makes of the query part of the software context. -/
structure Checked (cmds : List Command) (sw sw' : SwContext) : Prop where
  curQueryBo : sw'.curQueryBo = ((ends cmds).getLast?.map (·.2)).or sw.curQueryBo
  lastQueryCtx : sw'.lastQueryCtx = ((ends cmds).getLast?.map (·.1)).or sw.lastQueryCtx
  ctxEntry : sw'.ctxEntry = (cmds.filterMap Command.names).getLast?.or sw.ctxEntry
  /-- Without a barrier there was no switch. -/
  barrier : sw'.needsPostQueryBarrier = false → sw.needsPostQueryBarrier = false ∧
    (sw.curQueryBo = none ∨ sw.curQueryBo = sw'.curQueryBo) ∧ ∀ e ∈ ends cmds, sw'.curQueryBo = some e.2

theorem endQuery_ok {r : ResId} {oldRet dummyRet : Int}
    (h : vmwCmdCheck env (.endQuery r bo oldRet dummyRet) sw = some (0, sw')) :
    sw'.curQueryBo = some bo ∧ sw'.lastQueryCtx = some r ∧ sw'.ctxEntry = some r ∧
    (sw'.needsPostQueryBarrier = false →
      sw.needsPostQueryBarrier = false ∧ (sw.curQueryBo = none ∨ sw.curQueryBo = some bo)) := by
  simp only [vmwCmdCheck, vmwQueryBoSwitchPrepare] at h
  split at h
  · rename_i hsame
    cases h
    exact ⟨hsame, rfl, rfl, fun hb => ⟨hb, .inr hsame⟩⟩
  · split at h
    · cases h
    · split at h
      · rename_i hfail
        cases h
        exact absurd rfl hfail.2
      · cases h
        refine ⟨rfl, rfl, rfl, fun hb => ?_⟩
        obtain ⟨hb, hnone⟩ := Bool.or_eq_false_iff.mp hb
        exact ⟨hb, .inl (Option.isNone_iff_eq_none.mp (by simpa using hnone))⟩

theorem getLast_or {α : Type} (x : α) (l : List α) (o : Option α) :
    (x :: l).getLast?.or o = l.getLast?.or (some x) := by
  rw [List.getLast?_cons]
  cases l.getLast? <;> rfl

theorem or_getLast {α β : Type} (f : α → β) (x : α) (l : List α) (o : Option β) :
    ((x :: l).getLast?.map f).or o = (l.getLast?.map f).or (some (f x)) := by
  rw [List.getLast?_cons]
  cases l.getLast? <;> rfl

/-- A query end comes before the rest of the batch. -/
theorem Checked.cons_end {cmds : List Command} {sw₁ : SwContext} {r : ResId} {oldRet dummyRet : Int}
    (hfirst : sw₁.curQueryBo = some bo ∧ sw₁.lastQueryCtx = some r ∧ sw₁.ctxEntry = some r ∧
      (sw₁.needsPostQueryBarrier = false →
        sw.needsPostQueryBarrier = false ∧ (sw.curQueryBo = none ∨ sw.curQueryBo = some bo)))
    (hrest : Checked cmds sw₁ sw') : Checked (.endQuery r bo oldRet dummyRet :: cmds) sw sw' := by
  obtain ⟨hcur, hlast, hentry, hbarrier⟩ := hfirst
  have hends : ends (.endQuery r bo oldRet dummyRet :: cmds) = (r, bo) :: ends cmds := rfl
  refine ⟨?_, ?_, ?_, fun hb => ?_⟩
  · rw [hends, or_getLast, hrest.curQueryBo, hcur]
  · rw [hends, or_getLast, hrest.lastQueryCtx, hlast]
  · have hnames : (Command.endQuery r bo oldRet dummyRet :: cmds).filterMap Command.names
        = r :: cmds.filterMap Command.names := rfl
    rw [hnames, getLast_or, hrest.ctxEntry, hentry]
  · obtain ⟨hb₁, hsame, hall⟩ := hrest.barrier hb
    obtain ⟨hb₀, hstart⟩ := hbarrier hb₁
    have hcur' : sw'.curQueryBo = some bo := by
      rcases hsame with hnone | hsame
      · rw [hcur] at hnone
        cases hnone
      · rw [← hsame, hcur]
    refine ⟨hb₀, ?_, fun e he => ?_⟩
    · rw [hcur']
      exact hstart
    · rcases List.mem_cons.mp (hends ▸ he) with rfl | he
      · exact hcur'
      · exact hall e he

theorem vmwCmdCheckAll_ok {cmds : List Command} (h : vmwCmdCheckAll env cmds sw = some (0, sw')) :
    Checked cmds sw sw' := by
  induction cmds generalizing sw with
  | nil =>
    cases h
    exact ⟨rfl, rfl, rfl, fun hb => ⟨hb, .inr rfl, fun _ he => nomatch he⟩⟩
  | cons c cs ih =>
    obtain ⟨⟨ret, sw₁⟩, hcheck, hrest⟩ := Option.bind_eq_some_iff.mp h
    simp only at hrest
    split at hrest
    · rename_i hfail
      cases hrest
      exact absurd rfl hfail
    · rename_i hret
      cases not_not.mp hret
      have hrest := ih hrest
      cases c with
      | context r =>
        cases hcheck
        have hnames : (Command.context r :: cs).filterMap Command.names = r :: cs.filterMap Command.names := rfl
        refine ⟨hrest.curQueryBo, hrest.lastQueryCtx, ?_, hrest.barrier⟩
        rw [hnames, getLast_or, hrest.ctxEntry]
      | endQuery r bo oldRet dummyRet => exact hrest.cons_end (endQuery_ok hcheck)
      | other ret =>
        cases hcheck
        exact ⟨hrest.curQueryBo, hrest.lastQueryCtx, hrest.ctxEntry, hrest.barrier⟩

end Check

section Submit

variable {sw : SwContext} {start : Nat} {room : Bool}

/-- The query barrier of a switch. -/
structure Barrier (s : State) (sw : SwContext) (room : Bool) (l : List FifoCmd) : Prop where
  none : sw.needsPostQueryBarrier = false → l = []
  some : sw.needsPostQueryBarrier = true →
    ∃ cid, sw.ctxEntry.bind s.ctxId = some cid ∧ l = if room then [.dummyQuery cid] else []

/-- Where `vmw_query_bo_switch_commit` ends. -/
inductive Committed (env : Env) (s : State) (start : Nat) (sw : SwContext) (l : List FifoCmd) (s' : State) : Prop
  | same (hcur : s.pinnedBo = sw.curQueryBo) (hs' : s' = s.emit l)
  | through (hbarrier : sw.needsPostQueryBarrier = true) (hpin : s.pinnedBo = none) (hs' : s' = s.emit l)
  | switched (bo : BufId) (hbarrier : sw.needsPostQueryBarrier = true) (hpin : s.pinnedBo = some bo)
      (hcur : sw.curQueryBo ≠ some bo)
      (hs' : s' = { (s.emit l).unpinQuery bo (s.emit l).fifo with pinnedBo := none })
  | pinned (bo : BufId) (cid : Nat) (hbarrier : sw.needsPostQueryBarrier = false) (hpin : s.pinnedBo = none)
      (hcur : sw.curQueryBo = some bo) (hcid : sw.lastQueryCtx.bind s.ctxId = some cid)
      (hs' : s' = { (s.vmwBoPin bo true).vmwBoPin env.dummyQueryBo true with
        dummyQueryBoPinned := true, queryCid := cid, queryCidValid := true, pinnedBo := some bo
        pinnedAt := start })

theorem vmwQueryBoSwitchCommit_cases
    (hswitch : sw.needsPostQueryBarrier = false → s.pinnedBo = none ∨ s.pinnedBo = sw.curQueryBo)
    (h : vmwQueryBoSwitchCommit env s start sw room = some s') :
    ∃ l, Barrier s sw room l ∧ Committed env s start sw l s' := by
  obtain ⟨t, hbarrier, h⟩ := Option.bind_eq_some_iff.mp h
  have hl : ∃ l, Barrier s sw room l ∧ t = s.emit l := by
    have hnil : s = s.emit [] := by simp [State.emit]
    split at hbarrier
    · rename_i hb
      obtain ⟨cid, hcid, rfl⟩ := Option.map_eq_some_iff.mp hbarrier
      refine ⟨if room then [.dummyQuery cid] else [], ⟨fun hb' => ?_, fun _ => ⟨cid, hcid, rfl⟩⟩, ?_⟩
      · rw [hb] at hb'
        cases hb'
      · unfold vmwFifoEmitDummyQuery
        split
        · rfl
        · exact hnil
    · rename_i hb
      cases hbarrier
      exact ⟨[], ⟨fun _ => rfl, fun hb' => absurd hb' hb⟩, hnil⟩
  obtain ⟨l, hl, rfl⟩ := hl
  refine ⟨l, hl, ?_⟩
  have hpinned : (s.emit l).pinnedBo = s.pinnedBo := rfl
  split at h
  · rename_i hcur
    cases h
    exact .same hcur rfl
  · rename_i hcur
    cases hpin : s.pinnedBo with
    | none =>
      rw [hpinned, hpin] at h
      simp only at h
      split at h
      · rename_i hb
        cases h
        exact .through hb hpin rfl
      · rename_i hb
        have hb : sw.needsPostQueryBarrier = false := by simpa using hb
        split at h
        · rename_i bo cid hbo hcid
          cases h
          have hnil : s.emit l = s := by rw [hl.none hb]; simp [State.emit]
          refine .pinned bo cid hb hpin hbo hcid ?_
          rw [hnil]
        · cases h
    | some bo =>
      rw [hpinned, hpin] at h
      simp only at h
      split at h
      · rename_i hb
        cases h
        exact .switched bo hb hpin (fun heq => hcur (hpinned.trans (hpin.trans heq.symm))) rfl
      · rename_i hb
        have hb : sw.needsPostQueryBarrier = false := by simpa using hb
        rcases hswitch hb with hnone | hsame
        · rw [hpin] at hnone
          cases hnone
        · exact absurd hsame hcur

/-- A query buffer of a batch is not the dummy. -/
theorem Held.commit (h : Held env s) {l : List FifoCmd} (hc : Committed env s start sw l s')
    (hcur : ∀ bo, sw.curQueryBo = some bo → bo ≠ env.dummyQueryBo) : Held env s' := by
  cases hc with
  | same _ hs' =>
    rw [hs']
    exact h.frame rfl rfl rfl
  | through _ _ hs' =>
    rw [hs']
    exact h.frame rfl rfl rfl
  | switched bo _ hpin _ hs' =>
    rw [hs']
    refine h.unpin hpin rfl (fun b _ => rfl) ?_
    show Function.update s.noEvict bo false env.dummyQueryBo = s.dummyQueryBoPinned
    rw [Function.update_of_ne (Ne.symm (h.pinned bo hpin).1)]
    exact h.dummy
  | pinned bo cid _ hpin hbo _ hs' =>
    have hne := hcur bo hbo
    rw [hs']
    refine ⟨fun b hb => ?_, fun b hb => ?_, ?_⟩
    · cases hb
      exact ⟨hne, rfl⟩
    · show Function.update (Function.update s.noEvict bo true) env.dummyQueryBo true b = true ↔ some bo = some b
      rw [Function.update_of_ne hb]
      by_cases heq : b = bo
      · simp [heq]
      · rw [Function.update_of_ne heq, h.noEvict b hb, hpin]
        simp [Ne.symm heq]
    · exact Function.update_self _ _ _

/-- Where a batch ends. -/
inductive Processed (env : Env) (s : State) (b : Batch) (s' : State) : Prop
  | noCheck (hs' : s' = releaseInvalid env s b.release none)
  | failed (t : State) (hval : vmwResourcesValidate b.cmds b.contexts s = some t)
      (hs' : s' = releaseInvalid env t b.release none)
  | submitted (sw : SwContext) (hcheck : Checked b.cmds ⟨s.pinnedBo, none, false, none⟩ sw) (t u : State)
      (hval : vmwResourcesValidate b.cmds b.contexts s = some t)
      (hids : ∀ c ∈ b.cmds, ∀ r, c.names = some r → t.ctxId r ≠ none)
      (hcommit : vmwQueryBoSwitchCommit env (t.emit (t.queryEnds b.cmds)) t.fifo.length sw b.room = some u)
      (hs' : s' = releaseInvalid env (u.emit [.fence]) b.release (some u.fifo))

theorem vmwExecbufProcess_cases {b : Batch} (h : vmwExecbufProcess env s b = some s') :
    (∀ e ∈ ends b.cmds, e.2 ≠ env.dummyQueryBo) ∧ Processed env s b s' := by
  unfold vmwExecbufProcess at h
  split at h
  · cases h
  · rename_i hdummy
    refine ⟨fun e he heq => hdummy ?_, ?_⟩
    · obtain ⟨c, hc, hce⟩ := List.mem_filterMap.mp he
      refine List.any_eq_true.mpr ⟨c, hc, ?_⟩
      cases c with
      | endQuery r bo oldRet dummyRet =>
        cases hce
        simpa using heq
      | _ => cases hce
    · obtain ⟨⟨ret, sw⟩, hcheck, h⟩ := Option.bind_eq_some_iff.mp h
      simp only at h
      split at h
      · cases h
        exact .noCheck rfl
      · rename_i hret
        cases not_not.mp hret
        obtain ⟨t, hval, h⟩ := Option.bind_eq_some_iff.mp h
        split at h
        · cases h
          exact .failed t hval rfl
        · split at h
          · cases h
          · rename_i hids
            obtain ⟨u, hcommit, rfl⟩ := Option.map_eq_some_iff.mp h
            refine .submitted sw (vmwCmdCheckAll_ok hcheck) t u hval (fun c hc r hr hnone => hids ?_) hcommit rfl
            refine List.any_eq_true.mpr ⟨c, hc, ?_⟩
            rw [hr]
            simpa using hnone

end Submit

section Run

theorem start_cur {cmds : List Command} {sw : SwContext} (hcheck : Checked cmds ⟨s.pinnedBo, none, false, none⟩ sw)
    (hb : sw.needsPostQueryBarrier = false) : s.pinnedBo = none ∨ s.pinnedBo = sw.curQueryBo :=
  (hcheck.barrier hb).2.1

/-- A batch that is submitted leaves the pins in order. -/
theorem Held.submit {b : Batch} {sw : SwContext} {t u : State} (h : Held env s)
    (hdummy : ∀ e ∈ ends b.cmds, e.2 ≠ env.dummyQueryBo)
    (hcheck : Checked b.cmds ⟨s.pinnedBo, none, false, none⟩ sw) (hf : Framed s t) {l : List FifoCmd}
    (hc : Committed env (t.emit (t.queryEnds b.cmds)) t.fifo.length sw l u) : Held env u := by
  have ht : Held env (t.emit (t.queryEnds b.cmds)) := (h.framed hf).frame rfl rfl rfl
  apply ht.commit hc
  intro bo hbo
  rw [hcheck.curQueryBo] at hbo
  rcases Option.or_eq_some_iff.mp hbo with hlast | ⟨-, hpin⟩
  · obtain ⟨e, he, rfl⟩ := Option.map_eq_some_iff.mp hlast
    exact hdummy e (List.mem_of_getLast? he)
  · exact (h.pinned bo hpin).1

theorem PinState.step {a : Action} (h : PinState env s) (hstep : step env s a = some s') : PinState env s' := by
  cases a with
  | batch b =>
    obtain ⟨hdummy, hproc⟩ := vmwExecbufProcess_cases hstep
    cases hproc with
    | noCheck hs' =>
      rw [hs']
      exact releaseInvalid_pinState h.held _ _
    | failed t hval hs' =>
      rw [hs']
      exact releaseInvalid_pinState (h.held.framed (vmwResourcesValidate_framed hval)) _ _
    | submitted sw hcheck t u hval _ hcommit hs' =>
      have hf := vmwResourcesValidate_framed hval
      obtain ⟨l, -, hc⟩ := vmwQueryBoSwitchCommit_cases (fun hb => by
        rw [← (show t.pinnedBo = s.pinnedBo from hf.pinnedBo)] at hcheck
        exact start_cur hcheck hb) hcommit
      have hheld : Held env (u.emit [.fence]) := (h.held.submit hdummy hcheck hf hc).frame rfl rfl rfl
      rw [hs']
      exact releaseInvalid_pinState hheld _ _
  | release o =>
    simp only [Query.step] at hstep
    cases hstep
    unfold vmwExecbufReleasePinnedBo
    split
    · cases hbo : s.pinnedBo with
      | none =>
        unfold vmwExecbufReleasePinnedBoLocked
        rw [hbo]
        exact h
      | some bo =>
        have hr := vmwExecbufReleasePinnedBoLocked_spec h.held o none hbo
        exact ⟨hr.held, fun hne => absurd hr.pinnedBo hne⟩
    · exact h
  | contextDestroy r room o =>
    simp only [Query.step] at hstep
    cases hstep
    exact releaseInvalid_pinState (h.held.framed (vmwGbContextDestroy_framed s r room)) _ _

/-- Nothing is left of a buffer that is no longer pinned. -/
def Clear (s : State) : Prop := s.pinnedBo = none → s.queryCidValid = false ∧ s.dummyQueryBoPinned = false

/-- The queries stay with the pinned buffer, and a release does not panic. -/
def Smooth (s : State) : Action → Prop
  | .batch b => ∀ bo, s.pinnedBo = some bo → ∀ e ∈ (ends b.cmds).getLast?, e.2 = bo
  | .release o => s.pinnedBo ≠ none → o.reserve = 0 ∧ o.room = true
  | .contextDestroy _ _ _ => True

theorem Clear.framed (h : Clear s) (hf : Framed s s') : Clear s' := by
  intro hnone
  obtain ⟨hvalid, hflag⟩ := h (hf.pinnedBo ▸ hnone)
  refine ⟨?_, hf.dummy.trans hflag⟩
  by_contra hv
  rw [hf.valid (by simpa using hv)] at hvalid
  cases hvalid

theorem Clear.releaseInvalid (h : Clear s) (hheld : Held env s) (o : Release) (fence : Option (List FifoCmd)) :
    Clear (releaseInvalid env s o fence) := by
  unfold Query.releaseInvalid
  split
  · rename_i hinvalid
    obtain ⟨bo, hbo⟩ := Option.isSome_iff_exists.mp hinvalid.1
    have hr := vmwExecbufReleasePinnedBoLocked_spec hheld o fence hbo
    refine fun _ => ⟨?_, hr.dummy⟩
    by_contra hv
    exact hinvalid.2 (hr.valid (by simpa using hv)).1
  · exact h

theorem Clear.step {a : Action} (hclear : Clear s) (h : PinState env s) (hok : Smooth s a)
    (hstep : step env s a = some s') : Clear s' := by
  cases a with
  | batch b =>
    obtain ⟨hdummy, hproc⟩ := vmwExecbufProcess_cases hstep
    cases hproc with
    | noCheck hs' =>
      rw [hs']
      exact hclear.releaseInvalid h.held _ _
    | failed t hval hs' =>
      have hf := vmwResourcesValidate_framed hval
      rw [hs']
      exact (hclear.framed hf).releaseInvalid (h.held.framed hf) _ _
    | submitted sw hcheck t u hval _ hcommit hs' =>
      have hf := vmwResourcesValidate_framed hval
      obtain ⟨l, -, hc⟩ := vmwQueryBoSwitchCommit_cases (fun hb => by
        rw [← (show t.pinnedBo = s.pinnedBo from hf.pinnedBo)] at hcheck
        exact start_cur hcheck hb) hcommit
      have hheld : Held env (u.emit [.fence]) := (h.held.submit hdummy hcheck hf hc).frame rfl rfl rfl
      have hclear' : Clear (u.emit [.fence]) := by
        have ht := hclear.framed hf
        cases hc with
        | same _ hs' =>
          rw [hs']
          exact ht
        | through _ _ hs' =>
          rw [hs']
          exact ht
        | switched bo _ hpin hcur _ =>
          -- the last query end is into the pinned buffer
          have hpin : s.pinnedBo = some bo := hf.pinnedBo.symm.trans hpin
          exfalso
          apply hcur
          rw [hcheck.curQueryBo]
          cases hlast : (ends b.cmds).getLast? with
          | none => exact hpin
          | some e => rw [← hok bo hpin e hlast]; rfl
        | pinned bo cid _ _ _ _ hs' =>
          rw [hs']
          intro hnone
          cases hnone
      rw [hs']
      exact Clear.releaseInvalid hclear' hheld _ _
  | release o =>
    simp only [Query.step] at hstep
    cases hstep
    unfold vmwExecbufReleasePinnedBo
    split
    · cases hbo : s.pinnedBo with
      | none =>
        unfold vmwExecbufReleasePinnedBoLocked
        rw [hbo]
        exact hclear
      | some bo =>
        have hr := vmwExecbufReleasePinnedBoLocked_spec h.held o none hbo
        obtain ⟨hreserve, hroom⟩ := hok (by rw [hbo]; exact Option.some_ne_none bo)
        refine fun _ => ⟨?_, hr.dummy⟩
        by_contra hv
        rcases (hr.valid (by simpa using hv)).2 with hfail | hfail
        · exact hfail hreserve
        · rw [hroom] at hfail
          cases hfail
    · exact hclear
  | contextDestroy r room o =>
    simp only [Query.step] at hstep
    cases hstep
    have hf := vmwGbContextDestroy_framed s r room
    exact (hclear.framed hf).releaseInvalid (h.held.framed hf) _ _

end Run

/-- What is pinned for queries between two operations. -/
structure QueryPins (env : Env) (s : State) : Prop where
  pinned : ∀ bo, s.pinnedBo = some bo → s.noEvict bo = true ∧ s.noEvict env.dummyQueryBo = true ∧
    s.dummyQueryBoPinned = true ∧ s.queryCidValid = true
  others : ∀ bo, s.noEvict bo = true → bo = env.dummyQueryBo ∨ s.pinnedBo = some bo
  dummy : s.noEvict env.dummyQueryBo = s.dummyQueryBoPinned

theorem PinState.queryPins (h : PinState env s) : QueryPins env s := by
  refine ⟨fun bo hbo => ?_, fun bo hbo => ?_, h.held.dummy⟩
  · obtain ⟨hne, hflag⟩ := h.held.pinned bo hbo
    exact ⟨(h.held.noEvict bo hne).mpr hbo, h.held.dummy.trans hflag, hflag,
      h.valid (by rw [hbo]; exact Option.some_ne_none bo)⟩
  · by_cases hne : bo = env.dummyQueryBo
    · exact .inl hne
    · exact .inr ((h.held.noEvict bo hne).mp hbo)

theorem pinState_init : PinState env State.init :=
  ⟨⟨fun _ h => (nomatch h), fun _ _ => ⟨fun h => (nomatch h), fun h => (nomatch h)⟩, rfl⟩, fun h => absurd rfl h⟩

section Example

private def small : Env := ⟨0, fun _ => 1⟩

private def ends₁ (bo : BufId) (contexts : List ContextEvent) : Action :=
  .batch ⟨[.endQuery 5 bo 0 0], contexts, 0, true, ⟨0, true⟩⟩

end Example

end Vmwgfx.Query
