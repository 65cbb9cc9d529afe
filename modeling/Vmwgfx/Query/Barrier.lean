import Vmwgfx.Query.Pins

/-! The query barrier: the contexts it waits for before a query buffer is unpinned. -/

namespace Vmwgfx.Query

open Lib

variable {env : Env} {s s' : State} {bo : BufId}

/-- After the last query end of a context into the buffer its queries are waited for. -/
def Unpin.Covered (u : Unpin) : Prop :=
  ∀ cid before after, u.fifo = before ++ .endQuery cid u.bo :: after → .dummyQuery cid ∈ after

/-- One dummy query covers the queries of one context. -/
theorem covered_of_single {l : List FifoCmd} {cid : Nat}
    (h : ∀ cid', .endQuery cid' bo ∈ l → cid' = cid) : Unpin.Covered ⟨bo, l ++ [.dummyQuery cid]⟩ := by
  intro cid' before after hsplit
  have hsplit : l ++ [FifoCmd.dummyQuery cid] = before ++ .endQuery cid' bo :: after := hsplit
  have hmem : FifoCmd.endQuery cid' bo ∈ l ++ [.dummyQuery cid] := by
    rw [hsplit]
    exact List.mem_append_right _ List.mem_cons_self
  have hcid : cid' = cid := by
    rcases List.mem_append.mp hmem with hmem | hmem
    · exact h cid' hmem
    · cases List.mem_singleton.mp hmem
  have hlast := congrArg List.getLast? hsplit
  rw [List.getLast?_append, List.getLast?_append] at hlast
  cases after with
  | nil => simp at hlast
  | cons c cs =>
    rw [hcid]
    apply List.mem_of_getLast?
    simpa [List.getLast?_cons] using hlast.symm

/-- What the context of the barrier has to be: the one whose queries go to the pinned buffer. -/
def OneContext (s : State) : Action → Prop
  | .batch b =>
    match s.pinnedBo with
    | none => (∀ e ∈ ends b.cmds, ∀ e' ∈ ends b.cmds, e.2 = e'.2) → ∀ e ∈ ends b.cmds, ∀ e' ∈ ends b.cmds, e.1 = e'.1
    | some bo => ∀ t, vmwResourcesValidate b.cmds b.contexts s = some t →
      t.queryCidValid = true ∧ (∀ e ∈ ends b.cmds, e.2 = bo → t.ctxId e.1 = some s.queryCid) ∧
      ((∃ e ∈ (ends b.cmds).getLast?, e.2 ≠ bo) →
        b.room = true ∧ ∀ r ∈ (b.cmds.filterMap Command.names).getLast?, t.ctxId r = some s.queryCid)
  | .release o => s.pinnedBo ≠ none → o.reserve = 0 ∧ o.room = true
  | .contextDestroy r room _ => s.pinnedBo ≠ none → s.ctxId r = some s.queryCid → room = false

/-- The query ends in the FIFO since the buffer was pinned are of the remembered context. -/
structure BarrierInv (env : Env) (s : State) : Prop where
  pin : PinState env s
  pinnedAt : s.pinnedAt ≤ s.fifo.length
  ends : ∀ bo, s.pinnedBo = some bo → ∀ cid, .endQuery cid bo ∈ s.fifo.drop s.pinnedAt → cid = s.queryCid
  covered : ∀ u ∈ s.unpins, u.Covered

theorem mem_queryEnds {cmds : List Command} {cid : Nat} :
    .endQuery cid bo ∈ s.queryEnds cmds ↔ ∃ r, (r, bo) ∈ ends cmds ∧ s.ctxId r = some cid := by
  unfold State.queryEnds ends
  constructor
  · intro h
    obtain ⟨c, hc, hce⟩ := List.mem_filterMap.mp h
    cases c with
    | endQuery r bo' oldRet dummyRet =>
      obtain ⟨cid', hcid, heq⟩ := Option.map_eq_some_iff.mp hce
      cases heq
      exact ⟨r, List.mem_filterMap.mpr ⟨_, hc, rfl⟩, hcid⟩
    | _ => cases hce
  · rintro ⟨r, h, hcid⟩
    obtain ⟨c, hc, hce⟩ := List.mem_filterMap.mp h
    cases c with
    | endQuery r' bo' oldRet dummyRet =>
      cases hce
      exact List.mem_filterMap.mpr ⟨_, hc, by simp [hcid]⟩
    | _ => cases hce

theorem releaseInvalid_valid (h : s.pinnedBo ≠ none → s.queryCidValid = true) (o : Release)
    (fence : Option (List FifoCmd)) : releaseInvalid env s o fence = s := by
  unfold releaseInvalid
  rw [if_neg]
  rintro ⟨hsome, hinvalid⟩
  exact hinvalid (h (Option.isSome_iff_ne_none.mp hsome))

theorem BarrierInv.framed (h : BarrierInv env s) (hf : Framed s s')
    (hvalid : s'.pinnedBo ≠ none → s'.queryCidValid = true) : BarrierInv env s' := by
  refine ⟨⟨h.pin.held.framed hf, hvalid⟩, ?_, fun bo hbo cid hcid => ?_, ?_⟩
  · rw [hf.pinnedAt, hf.fifo]
    exact h.pinnedAt
  · rw [hf.fifo, hf.pinnedAt] at hcid
    rw [hf.queryCid]
    exact h.ends bo (hf.pinnedBo ▸ hbo) cid hcid
  · rw [hf.unpins]
    exact h.covered

theorem contextDestroy_valid {r : ResId} {room : Bool} (hvalid : s.queryCidValid = true)
    (h : s.ctxId r = some s.queryCid → room = false) : (vmwGbContextDestroy s r room).queryCidValid = true := by
  unfold vmwGbContextDestroy
  split
  · exact hvalid
  · rename_i cid hcid
    split
    · exact hvalid
    · rename_i hroom
      have hne : s.queryCid ≠ cid := by
        rintro rfl
        exact hroom (by simpa using h hcid)
      simpa [hne] using hvalid

/-- A submission, up to the fence that ends it. -/
theorem BarrierInv.submit {b : Batch} {sw : SwContext} {t u : State} (h : BarrierInv env s)
    (hok : OneContext s (.batch b)) (hval : vmwResourcesValidate b.cmds b.contexts s = some t)
    (hdummy : ∀ e ∈ Query.ends b.cmds, e.2 ≠ env.dummyQueryBo)
    (hcheck : Checked b.cmds ⟨s.pinnedBo, none, false, none⟩ sw) {l : List FifoCmd}
    (hl : Barrier (t.emit (t.queryEnds b.cmds)) sw b.room l)
    (hc : Committed env (t.emit (t.queryEnds b.cmds)) t.fifo.length sw l u) : BarrierInv env u := by
  have hf := vmwResourcesValidate_framed hval
  have hheld := h.pin.held.submit hdummy hcheck hf hc
  have hle : t.pinnedAt ≤ t.fifo.length := by
    rw [hf.pinnedAt, hf.fifo]
    exact h.pinnedAt
  have hdrop : ∀ l', (t.fifo ++ l').drop t.pinnedAt = t.fifo.drop t.pinnedAt ++ l' :=
    fun l' => List.drop_append_of_le_length hle
  have hlen : ∀ l', t.pinnedAt ≤ (t.fifo ++ l').length := by
    intro l'
    rw [List.length_append]
    exact Nat.le_trans hle (Nat.le_add_right _ _)
  have hcovered : ∀ v ∈ t.unpins, v.Covered := by
    rw [hf.unpins]
    exact h.covered
  have hbarrier : ∀ cid bo, .endQuery cid bo ∉ l := by
    intro cid bo hmem
    cases hb : sw.needsPostQueryBarrier with
    | false =>
      rw [hl.none hb] at hmem
      cases hmem
    | true =>
      obtain ⟨cid', -, heq⟩ := hl.some hb
      rw [heq] at hmem
      split at hmem
      · cases List.mem_singleton.mp hmem
      · cases hmem
  -- with the buffer pinned already, the batch adds queries of the same context
  have hsame : ∀ bo, s.pinnedBo = some bo → ∀ cid,
      .endQuery cid bo ∈ t.fifo.drop t.pinnedAt ++ t.queryEnds b.cmds → cid = s.queryCid := by
    intro bo hbo cid hmem
    rcases List.mem_append.mp hmem with hmem | hmem
    · rw [hf.fifo, hf.pinnedAt] at hmem
      exact h.ends bo hbo cid hmem
    · obtain ⟨r, hr, hcid⟩ := mem_queryEnds.mp hmem
      simp only [OneContext, hbo] at hok
      have := (hok t hval).2.1 (r, bo) hr rfl
      rw [hcid] at this
      exact Option.some.inj this
  cases hc with
  | same hcur hs' =>
    rw [hs'] at hheld ⊢
    refine ⟨⟨hheld, fun hne => ?_⟩, ?_, fun bo hbo cid hcid => ?_, hcovered⟩
    · obtain ⟨bo, hbo⟩ := Option.ne_none_iff_exists'.mp hne
      have hbo : s.pinnedBo = some bo := hf.pinnedBo.symm.trans hbo
      simp only [OneContext, hbo] at hok
      exact (hok t hval).1
    · show t.pinnedAt ≤ ((t.fifo ++ t.queryEnds b.cmds) ++ l).length
      rw [List.append_assoc]
      exact hlen _
    · have hcid : .endQuery cid bo ∈ ((t.fifo ++ t.queryEnds b.cmds) ++ l).drop t.pinnedAt := hcid
      rw [List.append_assoc, hdrop, ← List.append_assoc] at hcid
      rcases List.mem_append.mp hcid with hcid | hcid
      · exact (hsame bo (hf.pinnedBo.symm.trans hbo) cid hcid).trans hf.queryCid.symm
      · exact absurd hcid (hbarrier cid bo)
  | through _ hpin hs' =>
    rw [hs'] at hheld ⊢
    refine ⟨⟨hheld, fun hne => absurd hpin hne⟩, ?_, fun bo hbo => ?_, hcovered⟩
    · show t.pinnedAt ≤ ((t.fifo ++ t.queryEnds b.cmds) ++ l).length
      rw [List.append_assoc]
      exact hlen _
    · rw [show (((t.emit (t.queryEnds b.cmds)).emit l).pinnedBo) = none from hpin] at hbo
      cases hbo
  | switched bo hb hpin hcur hs' =>
    have hbo : s.pinnedBo = some bo := hf.pinnedBo.symm.trans hpin
    have hlast : ∃ e ∈ (Query.ends b.cmds).getLast?, e.2 ≠ bo := by
      have hcurs := hcheck.curQueryBo
      cases hgl : (Query.ends b.cmds).getLast? with
      | none =>
        rw [hgl] at hcurs
        exact absurd (hcurs.trans hbo) hcur
      | some e =>
        rw [hgl] at hcurs
        refine ⟨e, rfl, fun heq => hcur ?_⟩
        rw [hcurs, ← heq]
        rfl
    obtain ⟨cid, hcid, hleq⟩ := hl.some hb
    have hbarrierCid : l = [.dummyQuery s.queryCid] := by
      simp only [OneContext, hbo] at hok
      obtain ⟨hroom, hentry⟩ := (hok t hval).2.2 hlast
      obtain ⟨r, hr, hrcid⟩ := Option.bind_eq_some_iff.mp hcid
      rw [hcheck.ctxEntry, Option.or_none] at hr
      have hids := (hentry r hr).symm.trans hrcid
      rw [hleq, if_pos hroom, Option.some.inj hids]
    rw [hs'] at hheld ⊢
    refine ⟨⟨hheld, fun hne => absurd rfl hne⟩, ?_, fun _ hbo' => (nomatch hbo'), fun v hv => ?_⟩
    · show t.pinnedAt ≤ ((t.fifo ++ t.queryEnds b.cmds) ++ l).length
      rw [List.append_assoc]
      exact hlen _
    · rcases List.mem_append.mp hv with hv | hv
      · exact hcovered v hv
      · rw [List.mem_singleton.mp hv]
        show Unpin.Covered ⟨bo, ((t.fifo ++ t.queryEnds b.cmds) ++ l).drop t.pinnedAt⟩
        rw [List.append_assoc, hdrop, ← List.append_assoc, hbarrierCid]
        exact covered_of_single (hsame bo hbo)
  | pinned bo cid hb hpin hcur hcid hs' =>
    have hnone : s.pinnedBo = none := hf.pinnedBo.symm.trans hpin
    rw [hs'] at hheld ⊢
    refine ⟨⟨hheld, fun _ => rfl⟩, ?_, fun bo' hbo' cid' hcid' => ?_, hcovered⟩
    · show t.fifo.length ≤ (t.fifo ++ t.queryEnds b.cmds).length
      rw [List.length_append]
      exact Nat.le_add_right _ _
    · cases hbo'
      have hcid' : .endQuery cid' bo ∈ (t.fifo ++ t.queryEnds b.cmds).drop t.fifo.length := hcid'
      rw [List.drop_left] at hcid'
      obtain ⟨r, hr, hrcid⟩ := mem_queryEnds.mp hcid'
      simp only [OneContext, hnone] at hok
      have hall := (hcheck.barrier hb).2.2
      obtain ⟨r', hr', hrcid'⟩ := Option.bind_eq_some_iff.mp hcid
      rw [hcheck.lastQueryCtx, Option.or_none] at hr'
      obtain ⟨e, he, rfl⟩ := Option.map_eq_some_iff.mp hr'
      have hone := hok (fun e₁ he₁ e₂ he₂ => Option.some.inj ((hall e₁ he₁).symm.trans (hall e₂ he₂))) (r, bo) hr e
        (List.mem_of_getLast? he)
      have hids : t.ctxId r = some cid := by
        rw [show r = e.1 from hone]
        exact hrcid'
      exact Option.some.inj (hrcid.symm.trans hids)

theorem BarrierInv.fence (h : BarrierInv env s) : BarrierInv env (s.emit [.fence]) := by
  refine ⟨⟨h.pin.held.frame rfl rfl rfl, h.pin.valid⟩, ?_, fun bo hbo cid hcid => ?_, h.covered⟩
  · show s.pinnedAt ≤ (s.fifo ++ [FifoCmd.fence]).length
    rw [List.length_append]
    exact Nat.le_trans h.pinnedAt (Nat.le_add_right _ _)
  · have hcid : FifoCmd.endQuery cid bo ∈ (s.fifo ++ [FifoCmd.fence]).drop s.pinnedAt := hcid
    rw [List.drop_append_of_le_length h.pinnedAt] at hcid
    rcases List.mem_append.mp hcid with hcid | hcid
    · exact h.ends bo hbo cid hcid
    · cases List.mem_singleton.mp hcid

/-- A release that goes well waits for the remembered context. -/
theorem BarrierInv.release (h : BarrierInv env s) {o : Release} (hok : OneContext s (.release o)) :
    BarrierInv env (vmwExecbufReleasePinnedBo env s o) := by
  unfold vmwExecbufReleasePinnedBo
  split
  · rename_i hvalid
    cases hbo : s.pinnedBo with
    | none =>
      unfold vmwExecbufReleasePinnedBoLocked
      rw [hbo]
      exact h
    | some bo =>
      obtain ⟨hreserve, hroom⟩ := hok (by rw [hbo]; exact Option.some_ne_none bo)
      have hr := vmwExecbufReleasePinnedBoLocked_spec h.pin.held o none hbo
      have hstate : ∃ t, vmwExecbufReleasePinnedBoLocked env s o none = t ∧ t.pinnedAt = s.pinnedAt ∧
          t.fifo = s.fifo ++ [FifoCmd.dummyQuery s.queryCid] ++ [.fence] ∧
          t.unpins = s.unpins ++ [⟨bo, (s.fifo ++ [FifoCmd.dummyQuery s.queryCid]).drop s.pinnedAt⟩] := by
        refine ⟨_, rfl, ?_⟩
        simp [vmwExecbufReleasePinnedBoLocked, hbo, hreserve, hroom, hvalid, vmwFifoEmitDummyQuery, State.emit,
          State.unpinQuery, State.vmwBoPin]
      obtain ⟨t, ht, hat, hfifo, hunpins⟩ := hstate
      rw [ht] at hr ⊢
      refine ⟨⟨hr.held, fun hne => absurd hr.pinnedBo hne⟩, ?_, fun bo' hbo' => ?_, fun v hv => ?_⟩
      · rw [hat, hfifo, List.append_assoc, List.length_append]
        exact Nat.le_trans h.pinnedAt (Nat.le_add_right _ _)
      · rw [hr.pinnedBo] at hbo'
        cases hbo'
      · rw [hunpins] at hv
        rcases List.mem_append.mp hv with hv | hv
        · exact h.covered v hv
        · rw [List.mem_singleton.mp hv, List.drop_append_of_le_length h.pinnedAt]
          exact covered_of_single (h.ends bo hbo)
  · exact h

theorem BarrierInv.step {a : Action} (h : BarrierInv env s) (hok : OneContext s a)
    (hstep : step env s a = some s') : BarrierInv env s' := by
  cases a with
  | batch b =>
    obtain ⟨hdummy, hproc⟩ := vmwExecbufProcess_cases hstep
    cases hproc with
    | noCheck hs' =>
      rw [hs', releaseInvalid_valid h.pin.valid]
      exact h
    | failed t hval hs' =>
      have hf := vmwResourcesValidate_framed hval
      have ht : t.pinnedBo ≠ none → t.queryCidValid = true := by
        intro hne
        obtain ⟨bo, hbo⟩ := Option.ne_none_iff_exists'.mp hne
        have hbo : s.pinnedBo = some bo := hf.pinnedBo.symm.trans hbo
        simp only [OneContext, hbo] at hok
        exact (hok t hval).1
      rw [hs', releaseInvalid_valid ht]
      exact h.framed hf ht
    | submitted sw hcheck t u hval _ hcommit hs' =>
      have hf := vmwResourcesValidate_framed hval
      obtain ⟨l, hl, hc⟩ := vmwQueryBoSwitchCommit_cases (fun hb => by
        rw [← (show t.pinnedBo = s.pinnedBo from hf.pinnedBo)] at hcheck
        exact start_cur hcheck hb) hcommit
      have hdone := (h.submit hok hval hdummy hcheck hl hc).fence
      rw [hs', releaseInvalid_valid hdone.pin.valid]
      exact hdone
  | release o =>
    cases hstep
    exact h.release hok
  | contextDestroy r room o =>
    simp only [Query.step] at hstep
    cases hstep
    have hvalid : (vmwGbContextDestroy s r room).pinnedBo ≠ none →
        (vmwGbContextDestroy s r room).queryCidValid = true := by
      intro hne
      have hne : s.pinnedBo ≠ none := (vmwGbContextDestroy_framed s r room).pinnedBo ▸ hne
      exact contextDestroy_valid (h.pin.valid hne) (hok hne)
    unfold vmwHwContextDestroy
    rw [releaseInvalid_valid hvalid]
    exact h.framed (vmwGbContextDestroy_framed s r room) hvalid

theorem unpins_covered {env : Env} {acts : List Action} {s : State}
    (hrun : Run (step env) OneContext State.init acts s) : ∀ u ∈ s.unpins, u.Covered := by
  have h : BarrierInv env s := hrun.invariant (fun _ _ _ hok hstep h => h.step hok hstep)
    ⟨pinState_init, Nat.le_refl _, fun _ h => (nomatch h), fun _ h => (nomatch h)⟩
  exact h.covered

section Example

private def tiny : Env := ⟨0, fun _ => 1⟩

/-- Two contexts end a query into the buffer, and the release waits for the second. -/
private def twoContexts : List Action :=
  [.batch ⟨[.endQuery 5 1 0 0, .endQuery 6 1 0 0], [.create 5 8, .create 6 9], 0, true, ⟨0, true⟩⟩,
   .release ⟨0, true⟩]

theorem unpin_not_covered : ∃ s : State, Run (step tiny) (fun _ _ => True) State.init twoContexts s ∧
    s.fifo = [.endQuery 8 1, .endQuery 9 1, .fence, .dummyQuery 9, .fence] ∧ ∃ u ∈ s.unpins, ¬ u.Covered := by
  refine ⟨_, .cons trivial rfl (.cons trivial rfl (.nil _)), rfl, _, List.mem_singleton_self _, fun h => ?_⟩
  have hwait := h 8 [] [.endQuery 9 1, .fence, .dummyQuery 9] rfl
  exact absurd hwait (by decide)

/-- One context does, and a second batch moves its queries to another buffer. -/
theorem unpin_covered : ∃ s : State, s.unpins = [⟨1, [.endQuery 8 1, .fence, .endQuery 8 2, .dummyQuery 8]⟩] ∧
    ∀ u ∈ s.unpins, u.Covered := by
  have hrun : Run (step tiny) OneContext State.init
      [.batch ⟨[.endQuery 5 1 0 0], [.create 5 8], 0, true, ⟨0, true⟩⟩,
       .batch ⟨[.endQuery 5 2 0 0], [], 0, true, ⟨0, true⟩⟩] _ :=
    .cons (fun _ _ he _ he' => by rw [List.mem_singleton.mp he, List.mem_singleton.mp he']) rfl
      (.cons (fun _ ht => by
        cases ht
        refine ⟨rfl, fun e he hbo => ?_, fun _ => ⟨rfl, fun r hr => ?_⟩⟩
        · rw [List.mem_singleton.mp he] at hbo
          cases hbo
        · cases hr
          rfl) rfl (.nil _))
  exact ⟨_, rfl, unpins_covered hrun⟩

end Example

end Vmwgfx.Query
