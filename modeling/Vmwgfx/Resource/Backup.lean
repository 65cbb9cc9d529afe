import Vmwgfx.Resource.Invariant

/-! Every operation on resources keeps the backup binding, and one that fails
keeps the backup buffer and what a dirty one holds. -/

namespace Vmwgfx.Resource

open Lib

/-- What the movement of buffers and the device leave alone. -/
structure Same (a b : VmwResource) : Prop where
  func : b.func = a.func
  data : b.data = a.data
  backup : b.backup = a.backup
  backupOffset : b.backupOffset = a.backupOffset
  backupSize : b.backupSize = a.backupSize
  phase : b.phase = a.phase

structure Steady (s s' : State) : Prop where
  resources : s'.resources = s.resources
  lru : s'.lru = s.lru
  buffers : s'.buffers = s.buffers
  numPages : s'.numPages = s.numPages
  otherRef : s'.otherRef = s.otherRef
  res : ∀ r, Same (s.res r) (s'.res r)

namespace Same

theorem refl (a : VmwResource) : Same a a := ⟨rfl, rfl, rfl, rfl, rfl, rfl⟩

theorem trans {a b c : VmwResource} (h : Same a b) (h' : Same b c) : Same a c :=
  ⟨h'.func.trans h.func, h'.data.trans h.data, h'.backup.trans h.backup,
    h'.backupOffset.trans h.backupOffset, h'.backupSize.trans h.backupSize, h'.phase.trans h.phase⟩

end Same

namespace Steady

theorem refl (s : State) : Steady s s := ⟨rfl, rfl, rfl, rfl, rfl, fun _ => .refl _⟩

theorem trans {s s' s'' : State} (h : Steady s s') (h' : Steady s' s'') : Steady s s'' :=
  ⟨h'.resources.trans h.resources, h'.lru.trans h.lru, h'.buffers.trans h.buffers,
    h'.numPages.trans h.numPages, h'.otherRef.trans h.otherRef, fun r => (h.res r).trans (h'.res r)⟩

theorem modify {s : State} {r : ResId} {f : VmwResource → VmwResource} (h : Same (s.res r) (f (s.res r))) :
    Steady s (s.modify r f) := by
  refine ⟨rfl, rfl, rfl, rfl, rfl, fun r' => ?_⟩
  rw [modify_res]
  split
  · rename_i heq
    exact heq ▸ h
  · exact .refl _

theorem listDelMob (s : State) (r : ResId) : Steady s (s.listDelMob r) := by
  obtain ⟨hresources, hlru, hbuffers, -, hother, -, hpages⟩ := listDelMob_frame s r
  refine ⟨hresources, hlru, hbuffers, hpages, hother, fun r' => ?_⟩
  rw [listDelMob_res]
  exact (modify (s := s) ⟨rfl, rfl, rfl, rfl, rfl, rfl⟩).res r'

theorem listAddMob (s : State) (r : ResId) (b : BufId) : Steady s (s.listAddMob r b) :=
  ⟨rfl, rfl, rfl, rfl, rfl, fun r' =>
    (modify (s := s) (f := fun res => { res with mobHead := some b }) ⟨rfl, rfl, rfl, rfl, rfl, rfl⟩).res r'⟩

theorem funcUnbind (s : State) (b : BufId) (readback : Bool) (u : Unbind) :
    Steady s (funcUnbind s b readback u) := by
  unfold Resource.funcUnbind
  split
  · exact ⟨rfl, rfl, rfl, rfl, rfl, fun _ => .refl _⟩
  · exact refl s

theorem funcDestroy (s : State) (r : ResId) (ret : Int) : Steady s (funcDestroy s r ret) := by
  unfold Resource.funcDestroy
  split
  · exact modify ⟨rfl, rfl, rfl, rfl, rfl, rfl⟩
  · exact refl s

end Steady

section Move

variable {s s' : State} {r : ResId} {b keep : BufId}

theorem Inv.listed (hinv : Inv s) (h : r ∈ s.resList b) :
    r ∈ s.resources ∧ ((s.res r).func.needsBackup = true →
      (s.res r).mobHead = some b ∧ (s.res r).backup = some b) := by
  have hmob : (s.res r).func.needsBackup = true → (s.res r).mobHead = some b := by
    intro hneeds
    have hcount := (hinv.good r hneeds).listed b
    have hpos := List.count_pos_iff.mpr h
    by_contra hne
    rw [if_neg hne] at hcount
    omega
  refine ⟨?_, fun hneeds => ⟨hmob hneeds, (hinv.good r hneeds).backup b (hmob hneeds)⟩⟩
  by_contra hr
  have hblank := hinv.unknown r hr
  have := hmob (by rw [hblank]; rfl)
  rw [hblank] at this
  cases this

theorem not_held (h : s.held b = false) (hr : r ∈ s.resources) (hback : (s.res r).backup = some b) :
    (s.res r).phase ≠ .validated := by
  intro hvalid
  have := List.any_eq_false.mp h r hr
  simp [hvalid, hback] at this

/-- The backup of a resource that is not bound may become dirty. -/
theorem Inv.mark_dirty (hinv : Inv s) (hr : r ∈ s.resources)
    (h : (s.res r).func.needsBackup = true →
      (s.res r).mobHead = none ∧ (s.res r).backup ≠ none ∧ (s.res r).phase ≠ .validated) :
    Inv (s.modify r (fun res => { res with backupDirty := true, resDirty := false })) :=
  hinv.modify hr rfl rfl rfl (.inl rfl) (fun hneeds _ => h hneeds)

theorem mark_dirty_listDelMob (s : State) (r : ResId) :
    (s.modify r (fun res => { res with backupDirty := true, resDirty := false })).listDelMob r
      = (s.listDelMob r).modify r (fun res => { res with backupDirty := true, resDirty := false }) := by
  cases hmob : (s.res r).mobHead with
  | none => simp [State.listDelMob, State.modify, hmob]
  | some b => simp [State.listDelMob, State.modify, hmob]

theorem moveNotifyOne_spec (hinv : Inv s) (u : Unbind) (hr : r ∈ s.resources)
    (h : (s.res r).func.needsBackup = true → (s.res r).backup ≠ none ∧ (s.res r).phase ≠ .validated) :
    Inv (moveNotifyOne b s r u) ∧ Steady s (moveNotifyOne b s r u) ∧
    (∀ r', r' ≠ r → (moveNotifyOne b s r u).res r' = s.res r') ∧
    (∀ b', b' ≠ b → (moveNotifyOne b s r u).contents b' = s.contents b') := by
  unfold moveNotifyOne
  split
  · rw [mark_dirty_listDelMob]
    have hsteady := Steady.funcUnbind s b true u
    have hdel := Steady.listDelMob (funcUnbind s b true u) r
    have hall := hsteady.trans hdel
    have hres : (funcUnbind s b true u).res = s.res := by
      unfold funcUnbind
      split <;> rfl
    refine ⟨?_, hall.trans (.modify ⟨rfl, rfl, rfl, rfl, rfl, rfl⟩), ?_, ?_⟩
    · apply ((hinv.funcUnbind b true u).listDelMob (hsteady.resources ▸ hr)).mark_dirty
        (hall.resources ▸ hr)
      intro hneeds
      rw [(hall.res r).func] at hneeds
      obtain ⟨hback, hphase⟩ := h hneeds
      rw [(hall.res r).backup, (hall.res r).phase, listDelMob_res, modify_res, if_pos rfl]
      exact ⟨rfl, hback, hphase⟩
    · intro r' hne
      rw [modify_res, if_neg hne, listDelMob_res, modify_res, if_neg hne, hres]
    · intro b' hne
      have hcontents := (listDelMob_frame (funcUnbind s b true u) r).2.2.2.2.2.1
      refine (congrFun hcontents b').trans ?_
      unfold funcUnbind
      split
      · simp [hne]
      · rfl
  · exact ⟨hinv, .refl s, fun _ _ => rfl, fun _ _ => rfl⟩

theorem moveNotify_loop (l : List (ResId × Unbind)) (hinv : Inv s)
    (h : ∀ p ∈ l, p.1 ∈ s.resources ∧ ((s.res p.1).func.needsBackup = true →
      (s.res p.1).backup ≠ none ∧ (s.res p.1).phase ≠ .validated)) :
    Inv (l.foldl (fun s p => moveNotifyOne b s p.1 p.2) s) ∧
    Steady s (l.foldl (fun s p => moveNotifyOne b s p.1 p.2) s) ∧
    (∀ r', (∀ p ∈ l, p.1 ≠ r') →
      (l.foldl (fun s p => moveNotifyOne b s p.1 p.2) s).res r' = s.res r') ∧
    (∀ b', b' ≠ b → (l.foldl (fun s p => moveNotifyOne b s p.1 p.2) s).contents b' = s.contents b') := by
  induction l generalizing s with
  | nil => exact ⟨hinv, .refl s, fun _ _ => rfl, fun _ _ => rfl⟩
  | cons p l ih =>
    obtain ⟨hr, hfirst⟩ := h p List.mem_cons_self
    obtain ⟨hinv₁, hsteady, hres, hcontents⟩ := moveNotifyOne_spec hinv p.2 hr hfirst (b := b)
    have hrest : ∀ q ∈ l, q.1 ∈ (moveNotifyOne b s p.1 p.2).resources ∧
        (((moveNotifyOne b s p.1 p.2).res q.1).func.needsBackup = true →
          ((moveNotifyOne b s p.1 p.2).res q.1).backup ≠ none ∧
          ((moveNotifyOne b s p.1 p.2).res q.1).phase ≠ .validated) := by
      intro q hq
      have hsame := hsteady.res q.1
      rw [hsteady.resources, hsame.func, hsame.backup, hsame.phase]
      exact h q (List.mem_cons_of_mem _ hq)
    obtain ⟨hinv₂, hsteady₂, hres₂, hcontents₂⟩ := ih hinv₁ hrest
    refine ⟨hinv₂, hsteady.trans hsteady₂, fun r' hr' => ?_, fun b' hb' => ?_⟩
    · rw [List.foldl_cons, hres₂ r' (fun q hq => hr' q (List.mem_cons_of_mem _ hq)),
        hres r' (Ne.symm (hr' p List.mem_cons_self))]
    · rw [List.foldl_cons, hcontents₂ b' hb', hcontents b' hb']

theorem vmwResourceMoveNotify_spec (hinv : Inv s) (hheld : s.held b = false) (toMob : Bool)
    (us : List Unbind) :
    Inv (vmwResourceMoveNotify s b toMob us) ∧ Steady s (vmwResourceMoveNotify s b toMob us) ∧
    (∀ r, r ∉ s.resList b → (vmwResourceMoveNotify s b toMob us).res r = s.res r) ∧
    (∀ b', b' ≠ b → (vmwResourceMoveNotify s b toMob us).contents b' = s.contents b') := by
  unfold vmwResourceMoveNotify
  split
  · exact ⟨hinv, .refl s, fun _ _ => rfl, fun _ _ => rfl⟩
  · obtain ⟨hinv', hsteady, hres, hcontents⟩ := moveNotify_loop ((s.resList b).zip us) hinv (b := b) (by
      intro p hp
      have hmem := (List.of_mem_zip hp).1
      obtain ⟨hr, hlisted⟩ := hinv.listed hmem
      refine ⟨hr, fun hneeds => ?_⟩
      have hback := (hlisted hneeds).2
      exact ⟨by rw [hback]; simp, not_held hheld hr hback⟩)
    refine ⟨hinv', hsteady, fun r hr => hres r ?_, hcontents⟩
    intro p hp heq
    exact hr (heq ▸ (List.of_mem_zip hp).1)

/-- What `ttm_bo_validate` does to others does not reach the buffer it validates. -/
theorem moveOut_spec {moves : List (BufId × List Unbind)} (hinv : Inv s)
    (h : moveOut s keep moves = some s') :
    Inv s' ∧ Steady s s' ∧
    (∀ r, (s.res r).func.needsBackup = true → (s.res r).backup = some keep → s'.res r = s.res r) ∧
    s'.contents keep = s.contents keep := by
  induction moves generalizing s with
  | nil =>
    cases h
    exact ⟨hinv, .refl _, fun _ _ _ => rfl, rfl⟩
  | cons m moves ih =>
    obtain ⟨b, us⟩ := m
    unfold moveOut at h
    split at h
    · cases h
    · rename_i hcond
      simp only [not_or, Bool.not_eq_true] at hcond
      obtain ⟨hb, hheld, -⟩ := hcond
      obtain ⟨hinv₁, hsteady₁, hres₁, hcontents₁⟩ := vmwResourceMoveNotify_spec hinv hheld false us
      obtain ⟨hinv₂, hsteady₂, hres₂, hcontents₂⟩ := ih hinv₁ h
      refine ⟨hinv₂, hsteady₁.trans hsteady₂, fun r hneeds hback => ?_, ?_⟩
      · have hsame := hsteady₁.res r
        rw [hres₂ r (hsame.func ▸ hneeds) (hsame.backup ▸ hback)]
        apply hres₁
        intro hmem
        have := ((hinv.listed hmem).2 hneeds).2
        rw [hback] at this
        exact hb (Option.some.inj this).symm
      · rw [hcontents₂, hcontents₁ keep (Ne.symm hb)]

end Move

section Evict

variable {s s' : State} {r : ResId} {b : BufId} {ret : Int}

/-- What an operation on one resource leaves of the others, and of its place. -/
structure Placed (s s' : State) : Prop where
  resources : s'.resources = s.resources
  lru : s'.lru = s.lru
  func : ∀ r, (s'.res r).func = (s.res r).func
  phase : ∀ r, (s'.res r).phase = (s.res r).phase

theorem Placed.refl (s : State) : Placed s s := ⟨rfl, rfl, fun _ => rfl, fun _ => rfl⟩

theorem Placed.trans {s'' : State} (h : Placed s s') (h' : Placed s' s'') : Placed s s'' :=
  ⟨h'.resources.trans h.resources, h'.lru.trans h.lru, fun r => (h'.func r).trans (h.func r),
    fun r => (h'.phase r).trans (h.phase r)⟩

theorem Steady.placed (h : Steady s s') : Placed s s' :=
  ⟨h.resources, h.lru, fun r => (h.res r).func, fun r => (h.res r).phase⟩

theorem Placed.modify {f : VmwResource → VmwResource} (hfunc : (f (s.res r)).func = (s.res r).func)
    (hphase : (f (s.res r)).phase = (s.res r).phase) : Placed s (s.modify r f) := by
  refine ⟨rfl, rfl, fun r' => ?_, fun r' => ?_⟩ <;> rw [modify_res] <;> split
  · rename_i heq
    rw [heq, hfunc]
  · rfl
  · rename_i heq
    rw [heq, hphase]
  · rfl

theorem bufGet_placed (s : State) (b : BufId) : Placed s (s.bufGet b) :=
  ⟨rfl, rfl, fun _ => rfl, fun _ => rfl⟩

theorem bufPut_placed (s : State) (b : BufId) : Placed s (s.bufPut b) :=
  ⟨rfl, rfl, fun _ => rfl, fun _ => rfl⟩

theorem bufPut_res (s : State) (b : BufId) : (s.bufPut b).res = s.res := rfl

theorem bufInit_placed (s : State) (b : BufId) (size : Nat) : Placed s (s.bufInit b size) :=
  ⟨rfl, rfl, fun _ => rfl, fun _ => rfl⟩

theorem dropBackup_placed (s : State) (r : ResId) : Placed s (s.dropBackup r) := by
  unfold State.dropBackup
  split
  · exact .refl s
  · exact ⟨rfl, rfl, (Placed.modify (f := fun res => { res with backup := none }) rfl rfl).func,
      (Placed.modify (f := fun res => { res with backup := none }) rfl rfl).phase⟩

theorem setBackup_placed (s : State) (r : ResId) (b : BufId) : Placed s (s.setBackup r b) :=
  ⟨rfl, rfl, (Placed.modify (f := fun res => { res with backup := some b }) rfl rfl).func,
    (Placed.modify (f := fun res => { res with backup := some b }) rfl rfl).phase⟩

theorem vmwResourceBufAlloc_spec {alloc : Option BufId} (hinv : Inv s) (hr : r ∈ s.resources)
    (hnone : (s.res r).backup = none) (h : vmwResourceBufAlloc s r alloc = some (ret, s')) :
    (ret ≠ 0 ∧ s' = s) ∨
    (ret = 0 ∧ ∃ b, b ∉ s.buffers ∧ s' = (s.bufInit b (s.res r).backupSize).setBackup r b ∧ Inv s') := by
  unfold vmwResourceBufAlloc at h
  rw [hnone] at h
  cases alloc with
  | none =>
    cases h
    exact .inl ⟨by decide, rfl⟩
  | some b =>
    simp only at h
    split at h
    · cases h
    · rename_i hfresh
      cases h
      exact .inr ⟨rfl, b, fun hb => hfresh (.inl hb), rfl,
        (hinv.bufInit b _).setBackup hr hnone List.mem_cons_self⟩

/-- The buffer stays, and so does what is in it while it is the only copy. -/
def KeepsBackup (s s' : State) (r : ResId) : Prop :=
  ∀ b, (s.res r).backup = some b → (s'.res r).backup = some b ∧
    ((s.res r).backupDirty = true → (s'.res r).backupDirty = true ∧ s'.contents b = s.contents b)

/-- The outcome of `vmw_resource_check_buffer`: on success the reference of
`val_buf` is held on the backup. -/
structure Checked (s s' : State) (r : ResId) (ret : Int) : Prop where
  inv : Inv s'
  placed : Placed s s'
  ready : ret = 0 → ∃ b, (s'.res r).backup = some b ∧ s'.otherRef b ≠ 0
  kept : (s.res r).func.needsBackup = true → ∀ b, (s.res r).backup = some b →
    s'.res r = s.res r ∧ s'.contents b = s.contents b

theorem checkBuffer_reserved {o : CheckBuffer} (hinv : Inv s) (hr : r ∈ s.resources)
    (hback : (s.res r).backup = some b)
    (h : (if o.reserve ≠ 0 then some (o.reserve, checkBufferFail (s.bufGet b) r b false)
      else if ((s.bufGet b).res r).func.needsBackup ∧ ((s.bufGet b).res r).mobHead.isNone then
        some (0, s.bufGet b)
      else (moveOut (s.bufGet b) b o.moves).map fun t =>
        if o.validate ≠ 0 then (o.validate, checkBufferFail t r b ((s.bufGet b).res r).backupDirty)
        else (0, t)) = some (ret, s')) : Checked s s' r ret := by
  have hbuf : b ∈ s.buffers := by
    by_contra hb
    exact (hinv.buffers b hb).2 r hback
  have hget := hinv.bufGet hbuf
  have hpos : (s.bufGet b).otherRef b ≠ 0 := by simp [State.bufGet]
  split at h
  · rename_i hfail
    cases h
    exact ⟨hget.bufPut hpos, (bufGet_placed s b).trans (bufPut_placed _ b), fun hret => absurd hret hfail, fun _ _ _ => ⟨rfl, rfl⟩⟩
  · split at h
    · cases h
      exact ⟨hget, bufGet_placed s b, fun _ => ⟨b, hback, hpos⟩, fun _ _ _ => ⟨rfl, rfl⟩⟩
    · rename_i hlinked
      obtain ⟨t, hmove, heq⟩ := Option.map_eq_some_iff.mp h
      obtain ⟨hinv', hsteady, hres, hcontents⟩ := moveOut_spec hget hmove
      have hpos' : t.otherRef b ≠ 0 := by
        rw [hsteady.otherRef]
        exact hpos
      have hplaced := (bufGet_placed s b).trans hsteady.placed
      have hplaced' := hplaced.trans (bufPut_placed t b)
      split at heq
      · rename_i hfail
        cases heq
        have hput := hinv'.bufPut hpos'
        -- only a resource without a mob can have a dirty backup here
        cases hneeds : (s.res r).func.needsBackup with
        | true =>
          have hclean : (s.res r).backupDirty = false := by
            apply (hinv.good r hneeds).linked_clean
            intro hmob
            exact hlinked ⟨hneeds, by rw [show (s.bufGet b).res r = s.res r from rfl, hmob]; rfl⟩
          have hdirty : ((s.bufGet b).res r).backupDirty = false := hclean
          rw [hdirty]
          refine ⟨hput, hplaced', fun hret => absurd hret hfail, fun _ b' hb' => ?_⟩
          cases hback.symm.trans hb'
          exact ⟨hres r hneeds hback, hcontents⟩
        | false =>
          have hno : ∀ {P : Prop}, (s.res r).func.needsBackup = true → P := by
            intro P hneeds'
            rw [hneeds] at hneeds'
            cases hneeds'
          have hfunc : (t.res r).func = (s.res r).func := (hsteady.res r).func
          unfold checkBufferFail
          split
          · refine ⟨hput.dropBackup (hsteady.resources ▸ hr) (fun h => hno (hfunc ▸ h)), ?_,
              fun hret => absurd hret hfail, fun h => hno h⟩
            exact hplaced'.trans (dropBackup_placed (t.bufPut b) r)
          · exact ⟨hput, hplaced', fun hret => absurd hret hfail, fun h => hno h⟩
      · cases heq
        refine ⟨hinv', hplaced, fun _ => ⟨b, ?_, hpos'⟩, fun hneeds b' hb' => ?_⟩
        · rw [(hsteady.res r).backup]
          exact hback
        · cases hback.symm.trans hb'
          exact ⟨hres r hneeds hback, hcontents⟩

theorem vmwResourceCheckBuffer_spec {o : CheckBuffer} (hinv : Inv s) (hr : r ∈ s.resources)
    (h : vmwResourceCheckBuffer s r o = some (ret, s')) : Checked s s' r ret := by
  unfold vmwResourceCheckBuffer at h
  cases hback : (s.res r).backup with
  | none =>
    rw [hback] at h
    obtain ⟨⟨ret₁, s₁⟩, halloc, hrest⟩ := Option.bind_eq_some_iff.mp h
    have hkept : ∀ b, none = some b → s'.res r = s.res r ∧ s'.contents b = s.contents b :=
      fun b hb => nomatch hb
    rcases vmwResourceBufAlloc_spec hinv hr hback halloc with ⟨hret, rfl⟩ | ⟨hret, b, -, rfl, hinv₁⟩
    · simp only [hret, ne_eq, not_false_eq_true, if_true] at hrest
      cases hrest
      exact ⟨hinv, .refl _, fun h => absurd h hret, fun _ => hback ▸ hkept⟩
    · have hself : (((s.bufInit b (s.res r).backupSize).setBackup r b).res r).backup = some b := by
        simp [State.setBackup, State.modify]
      simp only [hret, ne_eq, not_true_eq_false, if_false, hself] at hrest
      obtain ⟨hinv', hplaced, hready, -⟩ := checkBuffer_reserved hinv₁ hr hself hrest
      exact ⟨hinv', ((bufInit_placed s b _).trans (setBackup_placed _ r b)).trans hplaced, hready, fun _ => hback ▸ hkept⟩
  | some b =>
    rw [hback] at h
    simp only [Option.isNone_some, Bool.false_eq_true, if_false, Option.bind_some, ne_eq,
      not_true_eq_false, hback] at h
    exact checkBuffer_reserved hinv hr hback h

theorem Checked.keepsBackup (h : Checked s s' r ret) (hneeds : (s.res r).func.needsBackup = true) :
    KeepsBackup s s' r := by
  intro b hb
  obtain ⟨hres, hcontents⟩ := h.kept hneeds b hb
  rw [hres]
  exact ⟨hb, fun hdirty => ⟨hdirty, hcontents⟩⟩

/-- The end of an eviction: the device's copy is gone. -/
theorem evict_done (destroy : Int) (hinv : Inv s) (hr : r ∈ s.resources) (hpos : s.otherRef b ≠ 0)
    (hback : (s.res r).backup = some b) (hphase : (s.res r).phase ≠ .validated)
    (hmob : (s.res r).func.needsBackup = true → (s.res r).mobHead = none) :
    let t := ((funcDestroy s r destroy).modify r
      (fun res => { res with backupDirty := true, resDirty := false })).bufPut b
    Inv t ∧ Placed s t ∧ (t.res r).backup = some b ∧ (t.res r).backupDirty = true ∧
      t.contents = s.contents := by
  have hdestroy := Steady.funcDestroy s r destroy
  have hself := hdestroy.res r
  have hmob' : ((funcDestroy s r destroy).res r).mobHead = (s.res r).mobHead := by
    unfold funcDestroy
    split <;> simp
  have hcontents : (funcDestroy s r destroy).contents = s.contents := by
    unfold funcDestroy
    split <;> rfl
  have hmark := (hinv.funcDestroy hr destroy).mark_dirty (hdestroy.resources ▸ hr) (by
    intro hneeds
    rw [hself.func] at hneeds
    rw [hmob', hself.backup, hself.phase, hback]
    exact ⟨hmob hneeds, by simp, hphase⟩)
  refine ⟨hmark.bufPut ?_, ?_, ?_, ?_, hcontents⟩
  · exact (congrFun hdestroy.otherRef b).trans_ne hpos
  · exact hdestroy.placed.trans ((Placed.modify rfl rfl).trans (bufPut_placed _ b))
  · rw [bufPut_res, modify_res, if_pos rfl]
    exact hself.backup.trans hback
  · rw [bufPut_res, modify_res, if_pos rfl]

theorem vmwResourceDoEvict_spec {o : Evict} (hinv : Inv s) (hr : r ∈ s.resources)
    (hphase : (s.res r).phase ≠ .validated) (h : vmwResourceDoEvict s r o = some (ret, s')) :
    Inv s' ∧ Placed s s' ∧ ((s.res r).func.needsBackup = true → ret ≠ 0 → KeepsBackup s s' r) := by
  unfold vmwResourceDoEvict at h
  split at h
  · cases h
  obtain ⟨⟨ret₁, s₁⟩, hcheck, hrest⟩ := Option.bind_eq_some_iff.mp h
  have hc := vmwResourceCheckBuffer_spec hinv hr hcheck
  simp only at hrest
  split at hrest
  · cases hrest
    exact ⟨hc.inv, hc.placed, fun hneeds _ => hc.keepsBackup hneeds⟩
  rename_i hret
  obtain ⟨b, hback, hpos⟩ := hc.ready (not_not.mp hret)
  have hr₁ : r ∈ s₁.resources := hc.placed.resources ▸ hr
  have hphase₁ : (s₁.res r).phase ≠ .validated := (hc.placed.phase r).trans_ne hphase
  rw [hback] at hrest
  simp only at hrest
  split at hrest
  · split at hrest
    · cases hrest
      exact ⟨hc.inv.bufPut hpos, hc.placed.trans (bufPut_placed s₁ b),
        fun hneeds _ => hc.keepsBackup hneeds⟩
    · rename_i hbound _
      cases hrest
      have hunbind := Steady.funcUnbind s₁ b (s₁.res r).resDirty o.unbind
      have hdel := hunbind.trans (Steady.listDelMob _ r)
      have hself := hdel.res r
      have hmob : (((funcUnbind s₁ b (s₁.res r).resDirty o.unbind).listDelMob r).res r).mobHead = none := by
        rw [listDelMob_res, modify_res, if_pos rfl]
      obtain ⟨hinv', hplaced, hback', -, -⟩ := evict_done o.destroy
        ((hc.inv.funcUnbind b _ o.unbind).listDelMob (hunbind.resources ▸ hr₁)) (hdel.resources ▸ hr₁)
        ((congrFun hdel.otherRef b).trans_ne hpos) (hself.backup.trans hback)
        (hself.phase.trans_ne hphase₁) (fun _ => hmob)
      refine ⟨hinv', hc.placed.trans (hdel.placed.trans hplaced), fun hneeds _ b' hb' => ?_⟩
      obtain ⟨hres, -⟩ := hc.kept hneeds b' hb'
      have hback₁ := hback
      rw [hres] at hback₁
      cases hb'.symm.trans hback₁
      refine ⟨hback', fun hdirty => ?_⟩
      -- a bound resource has no dirty backup
      have hclean := (hinv.good r hneeds).linked_clean (by
        have hfunc := hc.placed.func r
        rw [hres] at hbound
        intro hmob
        rw [hmob] at hbound
        simp [hneeds] at hbound)
      rw [hclean] at hdirty
      cases hdirty
  · rename_i hbound
    cases hrest
    have hmob : (s₁.res r).func.needsBackup = true → (s₁.res r).mobHead = none := by
      intro hneeds
      have hunbind : (s₁.res r).func.hasUnbind = true := by
        revert hneeds
        cases (s₁.res r).func <;> decide
      by_contra hmob
      exact hbound ⟨hunbind, .inr (Option.isSome_iff_ne_none.mpr hmob)⟩
    obtain ⟨hinv', hplaced, hback', hdirty', hcontents⟩ := evict_done o.destroy
      hc.inv hr₁ hpos hback hphase₁ hmob
    refine ⟨hinv', hc.placed.trans hplaced, fun hneeds _ b' hb' => ?_⟩
    obtain ⟨hres, hsame⟩ := hc.kept hneeds b' hb'
    have hback₁ := hback
    rw [hres] at hback₁
    cases hb'.symm.trans hback₁
    refine ⟨hback', fun hdirty => ⟨hdirty', ?_⟩⟩
    rw [congrFun hcontents b]
    exact hsame

end Evict

section Operations

variable {s s' : State} {r : ResId} {b : BufId} {ret : Int}

/-- Entering a phase other than `validated` leaves a clean backup clean. -/
theorem Inv.leave (hinv : Inv s) (hr : r ∈ s.resources) (hout : ∀ type, r ∉ s.lru type) {p : Phase}
    (hp : p ≠ .validated) : Inv (s.setPhase r p) := by
  apply hinv.modify hr rfl rfl rfl (.inr hout)
  intro hneeds hdirty
  have hg := hinv.good r hneeds
  have hdirty : (s.res r).backupDirty = true := hdirty
  refine ⟨?_, fun hempty => ?_, hp⟩
  · by_contra hlinked
    rw [hg.linked_clean hlinked] at hdirty
    cases hdirty
  · rw [hg.empty_clean hempty] at hdirty
    cases hdirty

theorem Inv.setIdle (hinv : Inv s) (hr : r ∈ s.resources) : Inv (s.setPhase r .idle) := by
  by_cases hin : (s.res r).phase = .idle
  · exact hinv.modify_clean hr rfl rfl rfl hin.symm id
  · exact hinv.leave hr (fun type hmem => hin (hinv.lru type r hmem).1) (by decide)

theorem vmwResourceRelease_inv (hinv : Inv s) (hr : r ∈ s.resources) (u : Unbind) :
    Inv (vmwResourceRelease s r u) := by
  have hdel := hinv.lruDel r
  have hout := lruDel_not_mem hinv r
  unfold vmwResourceRelease
  cases hback : ((s.lruDel r).res r).backup with
  | none =>
    simp only [hback]
    exact hdel.leave hr hout (by decide)
  | some b =>
    simp only [hback]
    have hunbind : ∃ t, (if ((s.lruDel r).res r).mobHead.isSome ∧ ((s.lruDel r).res r).func.hasUnbind then
        funcUnbind (s.lruDel r) b false u else s.lruDel r) = t ∧ Inv t ∧ Steady (s.lruDel r) t := by
      split
      · exact ⟨_, rfl, hdel.funcUnbind b false u, Steady.funcUnbind _ b false u⟩
      · exact ⟨_, rfl, hdel, .refl _⟩
    obtain ⟨t, ht, hinv₁, hsteady⟩ := hunbind
    rw [ht]
    have hr₁ : r ∈ t.resources := hsteady.resources ▸ hr
    have hclean : Inv (t.modify r (fun res => { res with backupDirty := false })) :=
      hinv₁.modify_clean hr₁ rfl rfl rfl rfl (fun h => nomatch h)
    have hsteady₂ := Steady.listDelMob (t.modify r (fun res => { res with backupDirty := false })) r
    have hself : ((t.modify r (fun res => { res with backupDirty := false })).listDelMob r).res r
        = { t.res r with backupDirty := false, mobHead := none } := by
      rw [listDelMob_res, modify_res, if_pos rfl, modify_res, if_pos rfl]
    have hr₂ : r ∈ ((t.modify r (fun res => { res with backupDirty := false })).listDelMob r).resources :=
      hsteady₂.resources ▸ hr₁
    have hdrop := (hclean.listDelMob hr₁).dropBackup hr₂ (fun _ => by rw [hself]; exact ⟨rfl, rfl⟩)
    have hplaced := hsteady₂.placed.trans (dropBackup_placed _ r)
    refine hdrop.leave (hplaced.resources ▸ hr₁) (fun type hmem => ?_) (by decide)
    rw [hplaced.lru] at hmem
    have hlru : t.lru = (s.lruDel r).lru := hsteady.lru
    exact hout type (hlru ▸ hmem)

/-- A validation that succeeds leaves no dirty backup behind. -/
theorem vmwResourceDoValidate_spec {o : Attempt} (hinv : Inv s) (hr : r ∈ s.resources)
    (h : vmwResourceDoValidate s r o = (ret, s')) :
    Inv s' ∧ Steady s s' ∧
    (ret = 0 → (s.res r).func.needsBackup = true → (s'.res r).backupDirty = false) := by
  unfold vmwResourceDoValidate at h
  split at h
  · rename_i hfail
    cases h
    exact ⟨hinv, .refl s, fun hret => absurd hret hfail.2⟩
  · have hcreate : ∃ t, (if (s.res r).onDevice then s else s.modify r (fun res => { res with onDevice := true }))
        = t ∧ Inv t ∧ Steady s t ∧ (t.res r).mobHead = (s.res r).mobHead := by
      split
      · exact ⟨_, rfl, hinv, .refl s, rfl⟩
      · refine ⟨_, rfl, hinv.modify_clean hr rfl rfl rfl rfl id, .modify ⟨rfl, rfl, rfl, rfl, rfl, rfl⟩, ?_⟩
        rw [modify_res, if_pos rfl]
    obtain ⟨t, ht, hinv₁, hsteady, -⟩ := hcreate
    rw [ht] at h
    have hr₁ : r ∈ t.resources := hsteady.resources ▸ hr
    have hfunc : (t.res r).func = (s.res r).func := (hsteady.res r).func
    have hdone : ∀ {u : State}, Inv u → r ∈ u.resources →
        Inv (u.modify r (fun res => { res with resDirty := true })) ∧
        Steady u (u.modify r (fun res => { res with resDirty := true })) ∧
        ((u.modify r (fun res => { res with resDirty := true })).res r).backupDirty = (u.res r).backupDirty := by
      intro u hu hru
      refine ⟨hu.modify_clean hru rfl rfl rfl rfl id, .modify ⟨rfl, rfl, rfl, rfl, rfl, rfl⟩, ?_⟩
      rw [modify_res, if_pos rfl]
    simp only at h
    split at h
    · rename_i hbind
      split at h
      · rename_i hfail
        cases h
        exact ⟨hinv₁.funcDestroy hr₁ _, hsteady.trans (.funcDestroy t r _),
          fun hret => absurd hret hfail⟩
      · obtain ⟨b, hback⟩ := Option.isSome_iff_exists.mp hbind.2.1
        cases hneeds : (t.res r).func.needsBackup with
        | true =>
          have hclears : (t.res r).func.bindClearsDirty = true := hneeds
          have hself : (t.modify r (fun res => { res with backupDirty := false })).res r
              = { t.res r with backupDirty := false } := by rw [modify_res, if_pos rfl]
          simp only [hclears, if_true, hself, hback, hneeds] at h
          cases h
          have hclean : Inv (t.modify r (fun res => { res with backupDirty := false })) :=
            hinv₁.modify_clean hr₁ rfl rfl rfl rfl (fun h => nomatch h)
          have hmob : (t.res r).mobHead = none := by
            rcases hbind.2.2 with hno | hnone
            · rw [hneeds] at hno
              simp at hno
            · exact Option.isNone_iff_eq_none.mp hnone
          have hadd := hclean.listAddMob hr₁ (b := b) (fun _ => by rw [hself]; exact ⟨hmob, hback, rfl⟩)
          have hsteady' := Steady.listAddMob (t.modify r (fun res => { res with backupDirty := false })) r b
          obtain ⟨hinv', hlast, hdirty⟩ := hdone hadd hr₁
          refine ⟨hinv', ?_, fun _ _ => ?_⟩
          · exact hsteady.trans ((Steady.modify ⟨rfl, rfl, rfl, rfl, rfl, rfl⟩).trans (hsteady'.trans hlast))
          · rw [hdirty]
            simp [State.listAddMob]
        | false =>
          have hclears : (t.res r).func.bindClearsDirty = false := hneeds
          simp only [hclears, Bool.false_eq_true, if_false, hback, hneeds] at h
          cases h
          obtain ⟨hinv', hlast, -⟩ := hdone hinv₁ hr₁
          refine ⟨hinv', hsteady.trans hlast, fun _ hneeds' => ?_⟩
          rw [hfunc, hneeds'] at hneeds
          cases hneeds
    · rename_i hbind
      cases h
      obtain ⟨hinv', hlast, hdirty⟩ := hdone hinv₁ hr₁
      refine ⟨hinv', hsteady.trans hlast, fun _ hneeds => ?_⟩
      rw [hdirty]
      rw [← hfunc] at hneeds
      have hg := hinv₁.good r hneeds
      have hhas : (t.res r).func.hasBind = true := by
        revert hneeds
        cases (t.res r).func <;> decide
      by_cases hback : (t.res r).backup = none
      · exact hg.empty_clean hback
      · apply hg.linked_clean
        intro hmob
        exact hbind ⟨hhas, Option.isSome_iff_ne_none.mpr hback, .inr (by rw [hmob]; rfl)⟩

theorem validateDone_spec (hinv : Inv s) (hr : r ∈ s.resources) :
    Inv (validateDone s r) ∧ Placed s (validateDone s r) ∧
    ((s.res r).func.needsBackup = true → (validateDone s r).res r = s.res r) := by
  unfold validateDone
  split
  · rename_i hlegacy
    have hno : ∀ {P : Prop}, (s.res r).func.needsBackup = true → P := by
      intro P hneeds
      exact absurd hneeds hlegacy.1
    have hsteady := Steady.listDelMob s r
    refine ⟨(hinv.listDelMob hr).dropBackup (hsteady.resources ▸ hr) (fun h => ?_),
      hsteady.placed.trans (dropBackup_placed _ r), fun h => hno h⟩
    rw [(hsteady.res r).func] at h
    exact hno h
  · exact ⟨hinv, .refl s, fun _ => rfl⟩

theorem vmwResourceReserve_spec {noBackup : Bool} {alloc : Option BufId} (hinv : Inv s)
    (hr : r ∈ s.resources) (h : vmwResourceReserve s r noBackup alloc = some (ret, s')) :
    Inv s' ∧ r ∈ s'.resources ∧ ∀ type, r ∉ s'.lru type := by
  have hdel := hinv.lruDel r
  have hout := lruDel_not_mem hinv r
  unfold vmwResourceReserve at h
  simp only at h
  split at h
  · rename_i hcond
    rcases vmwResourceBufAlloc_spec hdel hr (Option.isNone_iff_eq_none.mp hcond.2.1) h with
      ⟨-, rfl⟩ | ⟨-, b, -, rfl, hinv'⟩
    · exact ⟨hdel, hr, hout⟩
    · exact ⟨hinv', hr, hout⟩
  · cases h
    exact ⟨hdel, hr, hout⟩

/-- A new backup is linked once the old one is out of the way. -/
theorem switch_backup (hinv : Inv s) (hr : r ∈ s.resources) (hb : b ∈ s.buffers)
    (hclean : (s.res r).func.needsBackup = true → (s.res r).backupDirty = false) :
    ∃ t, (((if (s.res r).backup.isSome then (s.listDelMob r).dropBackup r else s).setBackup r b).listAddMob r b)
      = t ∧ Inv t ∧ Placed s t := by
  have hold : ∃ t, (if (s.res r).backup.isSome then (s.listDelMob r).dropBackup r else s) = t ∧ Inv t ∧
      Placed s t ∧ t.buffers = s.buffers ∧ (t.res r).backup = none ∧
      ((s.res r).func.needsBackup = true → (t.res r).mobHead = none ∧ (t.res r).backupDirty = false) := by
    split
    · rename_i hsome
      obtain ⟨b₀, hback⟩ := Option.isSome_iff_exists.mp hsome
      have hsteady := Steady.listDelMob s r
      have hself : (s.listDelMob r).res r = { s.res r with mobHead := none } := by
        rw [listDelMob_res, modify_res, if_pos rfl]
      have hdrop : ((s.listDelMob r).dropBackup r).res r = { s.res r with mobHead := none, backup := none } := by
        simp [State.dropBackup, hself, hback, State.modify]
      refine ⟨_, rfl, ?_, hsteady.placed.trans (dropBackup_placed _ r), ?_, by rw [hdrop], ?_⟩
      · apply (hinv.listDelMob hr).dropBackup (hsteady.resources ▸ hr)
        intro hneeds
        rw [hself] at hneeds ⊢
        exact ⟨rfl, hclean hneeds⟩
      · simp only [State.dropBackup, hself, hback]
        exact hsteady.buffers
      · intro hneeds
        rw [hdrop]
        exact ⟨rfl, hclean hneeds⟩
    · rename_i hnone
      have hnone : (s.res r).backup = none := by simpa using hnone
      refine ⟨s, rfl, hinv, .refl s, rfl, hnone, fun hneeds => ⟨?_, hclean hneeds⟩⟩
      cases hmob : (s.res r).mobHead with
      | none => rfl
      | some b' =>
        have := (hinv.good r hneeds).backup b' hmob
        rw [hnone] at this
        cases this
  obtain ⟨t, ht, hinv₁, hplaced, hbuffers, hnone, hfree⟩ := hold
  rw [ht]
  have hr₁ : r ∈ t.resources := hplaced.resources ▸ hr
  have hset := hinv₁.setBackup hr₁ hnone (hbuffers ▸ hb)
  have hself : (t.setBackup r b).res r = { t.res r with backup := some b } := by
    simp [State.setBackup]
  refine ⟨_, rfl, hset.listAddMob hr₁ (fun hneeds => ?_), ?_⟩
  · rw [hself] at hneeds ⊢
    rw [hplaced.func] at hneeds
    obtain ⟨hmob, hdirty⟩ := hfree hneeds
    exact ⟨hmob, rfl, hdirty⟩
  · exact hplaced.trans ((setBackup_placed t r b).trans (Steady.listAddMob _ r b).placed)

theorem vmwResourceUnreserve_inv {newBackup : Option BufId} {off : Nat} (hinv : Inv s)
    (hr : r ∈ s.resources) (hidle : (s.res r).phase = .idle)
    (hnew : ∀ b, newBackup = some b → b ∈ s.buffers ∧
      ((s.res r).func.needsBackup = true → (s.res r).backupDirty = false)) :
    Inv (vmwResourceUnreserve s r newBackup off) := by
  have hput : ∀ {t : State}, Inv t → Placed s t →
      Inv (if ¬ (t.res r).func.mayEvict ∨ ¬ (t.res r).onDevice ∨ (t.res r).pinCount ≠ 0 then t else t.lruAdd r) := by
    intro t ht hplaced
    split
    · exact ht
    · exact ht.lruAdd ((hplaced.phase r).trans hidle)
  have hoffset : ∀ {t : State}, Inv t → Placed s t →
      Inv (t.modify r (fun res => { res with backupOffset := off })) ∧
      Placed s (t.modify r (fun res => { res with backupOffset := off })) := by
    intro t ht hplaced
    exact ⟨ht.modify_clean (hplaced.resources ▸ hr) rfl rfl rfl rfl id, hplaced.trans (.modify rfl rfl)⟩
  unfold vmwResourceUnreserve
  split
  · exact hinv
  · cases newBackup with
    | none => exact hput hinv (.refl s)
    | some b =>
      obtain ⟨hb, hclean⟩ := hnew b rfl
      simp only
      by_cases hsame : (s.res r).backup = some b
      · rw [if_pos hsame]
        obtain ⟨hinv₁, hplaced⟩ := hoffset hinv (.refl s)
        exact hput hinv₁ hplaced
      · rw [if_neg hsame]
        obtain ⟨t, ht, hinv₁, hplaced⟩ := switch_backup hinv hr hb hclean
        rw [ht]
        obtain ⟨hinv₂, hplaced₂⟩ := hoffset hinv₁ hplaced
        exact hput hinv₂ hplaced₂

/-- What a round of an eviction loop does: the victim is the head of its list, and it goes to the tail
when it cannot be evicted. -/
structure Evicted (s s' : State) (type : ResType) (o : Attempt) (ret : Int) (v : ResId) (t : State) : Prop where
  head : ∃ rest, s.lru type = v :: rest
  evict : vmwResourceDoEvict (s.lruDel v) v o.evict = some (ret, t)
  after : s' = putVictim (if ret = 0 then t else t.lruAdd v) v o
  known : v ∈ s.resources
  idle : (s.res v).phase = .idle
  placed : Placed (s.lruDel v) t
  inv : Inv (if ret = 0 then t else t.lruAdd v)

theorem evictOne_cases {type : ResType} {o : Attempt} (hinv : Inv s)
    (h : evictOne s type o = some (ret, s')) : ∃ v t, Evicted s s' type o ret v t := by
  unfold evictOne at h
  cases hlru : s.lru type with
  | nil =>
    rw [hlru] at h
    cases h
  | cons v rest =>
    rw [hlru] at h
    obtain ⟨⟨ret₁, t⟩, hevict, heq⟩ := Option.map_eq_some_iff.mp h
    have hidle := (hinv.lru type v (hlru ▸ List.mem_cons_self)).1
    have hv : v ∈ s.resources := hinv.known (by rw [hidle]; decide)
    obtain ⟨hinv', hplaced, -⟩ := vmwResourceDoEvict_spec (hinv.lruDel v) hv
      (by show (s.res v).phase ≠ _; rw [hidle]; decide) hevict
    have hback : Inv (if ret₁ = 0 then t else t.lruAdd v) := by
      split
      · exact hinv'
      · exact hinv'.lruAdd ((hplaced.phase v).trans hidle)
    cases heq
    exact ⟨v, t, ⟨rest, hlru⟩, hevict, rfl, hv, hidle, hplaced, hback⟩

theorem evictOne_inv {type : ResType} {o : Attempt} (hinv : Inv s)
    (h : evictOne s type o = some (ret, s')) : Inv s' := by
  obtain ⟨v, t, hv⟩ := evictOne_cases hinv h
  have hknown : v ∈ (if ret = 0 then t else t.lruAdd v).resources := by
    split
    · exact hv.placed.resources ▸ hv.known
    · exact hv.placed.resources ▸ hv.known
  rw [hv.after]
  unfold putVictim
  split
  · exact vmwResourceRelease_inv hv.inv hknown _
  · exact hv.inv

theorem vmwUserDmabufAlloc_inv {size : Nat} (hinv : Inv s) (hr : r ∈ s.resources)
    (hnone : (s.res r).backup = none) (h : vmwUserDmabufAlloc s r b size = some s') : Inv s' := by
  unfold vmwUserDmabufAlloc at h
  split at h
  · cases h
  · cases h
    exact ((hinv.bufInit b size).setBackup hr hnone List.mem_cons_self).bufGet List.mem_cons_self

theorem named_buffer (hinv : Inv s) (h : s.otherRef b ≠ 0) : b ∈ s.buffers := by
  by_contra hb
  exact h (hinv.buffers b hb).1

end Operations

section Run

variable {s s' : State} {hasMob : Bool}

theorem Inv.init : Inv State.init :=
  ⟨fun _ _ => ⟨fun _ => rfl, fun _ h => (nomatch h), fun _ => rfl, fun _ => rfl, fun _ => rfl⟩,
    fun _ => rfl, List.nodup_nil, fun _ _ => rfl, fun _ _ h => (nomatch h),
    fun _ _ => ⟨rfl, fun _ h => nomatch h⟩⟩

theorem Inv.create (hinv : Inv s) {r : ResId} (hr : r ∉ s.resources) (func : VmwResFunc) (data : Contents) :
    Inv (vmwResourceInit s r func data) ∧ r ∈ (vmwResourceInit s r func data).resources ∧
    ((vmwResourceInit s r func data).res r).backup = none :=
  ⟨hinv.init_resource hr func data, List.mem_cons_self, by simp [vmwResourceInit]⟩

theorem Inv.step {a : Action} (hinv : Inv s) (h : step hasMob s a = some s') : Inv s' := by
  cases a with
  | gbSurfaceDefine r desc base mips cubemap backing =>
    simp only [Resource.step, vmwGbSurfaceDefine] at h
    generalize (if hasMob = true then VmwResFunc.gbSurface else VmwResFunc.legacySurface) = func at h
    split at h
    · cases h
    · rename_i hr
      obtain ⟨hinv₁, hr₁, hnone⟩ := hinv.create hr func (.surface desc base mips cubemap)
      cases backing with
      | none =>
        cases h
        exact hinv₁
      | handle b =>
        simp only at h
        split at h
        · cases h
        · rename_i hb
          cases h
          exact hinv₁.setBackup hr₁ hnone (named_buffer hinv₁ hb)
      | create b => exact vmwUserDmabufAlloc_inv hinv₁ hr₁ hnone h
  | surfaceDefine r desc sizes shared =>
    simp only [Resource.step, vmwSurfaceDefine] at h
    generalize (if hasMob = true then VmwResFunc.gbSurface else VmwResFunc.legacySurface) = func at h
    split at h
    · cases h
    · rename_i hr
      obtain ⟨hinv₁, hr₁, hnone⟩ := hinv.create hr func (.images desc sizes)
      cases shared with
      | none =>
        cases h
        exact hinv₁
      | some b =>
        simp only at h
        split at h
        · exact vmwUserDmabufAlloc_inv hinv₁ hr₁ hnone h
        · cases h
  | shaderDefine r size offset handle =>
    simp only [Resource.step, vmwShaderDefine] at h
    split at h
    · cases h
    · rename_i hr
      obtain ⟨hinv₁, hr₁, hnone⟩ := hinv.create hr .gbShader (.shader size)
      cases handle with
      | none =>
        cases h
        exact hinv₁
      | some b =>
        simp only at h
        split at h
        · cases h
        · rename_i hcond
          cases h
          have hb := named_buffer hinv₁ (fun h => hcond (.inl h))
          exact (hinv₁.setBackup hr₁ hnone hb).modify_clean hr₁ rfl rfl rfl rfl id
  | compatShaderAdd r size b =>
    simp only [Resource.step, vmwCompatShaderAdd] at h
    split at h
    · cases h
    · rename_i hr
      split at h
      · cases h
      · cases h
        obtain ⟨hinv₁, hr₁, hnone⟩ := hinv.create hr .gbShader (.shader size)
        exact (hinv₁.bufInit b size).setBackup hr₁ hnone List.mem_cons_self
  | contextDefine r =>
    simp only [Resource.step, vmwContextDefine] at h
    split at h
    · cases h
    · rename_i hr
      cases h
      split
      · exact (hinv.create hr _ _).1
      · exact (hinv.create hr _ _).1
  | reserve r noBackup alloc =>
    simp only [Resource.step] at h
    split at h
    · cases h
    · rename_i hidle
      obtain ⟨⟨ret, t⟩, hreserve, rfl⟩ := Option.map_eq_some_iff.mp h
      have hr := hinv.known (r := r) (by rw [not_not.mp hidle]; decide)
      obtain ⟨hinv₁, hr₁, hout⟩ := vmwResourceReserve_spec hinv hr hreserve
      exact hinv₁.leave hr₁ hout (by decide)
  | validate r o =>
    simp only [Resource.step] at h
    split at h
    · cases h
    rename_i hphase
    have hphase := not_not.mp hphase
    have hr := hinv.known (r := r) (by rw [hphase]; decide)
    have hvalid : ∀ {t : State}, Inv t → Placed s t →
        ((s.res r).func.needsBackup = true → (t.res r).backupDirty = false) → Inv (t.setPhase r .validated) := by
      intro t ht hplaced hclean
      apply ht.modify (hplaced.resources ▸ hr) rfl rfl rfl
      · right
        intro type hmem
        rw [hplaced.lru] at hmem
        have := (hinv.lru type r hmem).1
        rw [hphase] at this
        cases this
      · intro hneeds hdirty
        rw [hplaced.func] at hneeds
        rw [hclean hneeds] at hdirty
        cases hdirty
    split at h
    · rename_i hmay
      cases h
      apply hvalid hinv (.refl s)
      intro hneeds
      exfalso
      revert hneeds hmay
      cases (s.res r).func <;> decide
    · cases hround : vmwResourceDoValidate s r o with
      | mk ret t =>
        obtain ⟨hinv₁, hsteady, hclean⟩ := vmwResourceDoValidate_spec hinv hr hround
        have hplaced := hsteady.placed
        rw [hround] at h
        simp only [Option.some.injEq] at h
        subst h
        split
        · rename_i hret
          obtain ⟨hinv₂, hplaced₂, hsame⟩ := validateDone_spec hinv₁ (hplaced.resources ▸ hr)
          apply hvalid hinv₂ (hplaced.trans hplaced₂)
          intro hneeds
          rw [hsame ((hplaced.func r) ▸ hneeds)]
          exact hclean hret hneeds
        · exact hinv₁
  | unreserve r newBackup off =>
    simp only [Resource.step] at h
    split at h
    · cases h
    · rename_i hcond
      cases h
      simp only [not_or, not_exists, not_and, Option.mem_def, not_not] at hcond
      obtain ⟨hlive, hnew⟩ := hcond
      have hr := hinv.known hlive
      have hidle := hinv.setIdle hr
      have hself : (s.setPhase r .idle).res r = { s.res r with phase := .idle } := by
        rw [State.setPhase, modify_res, if_pos rfl]
      apply vmwResourceUnreserve_inv hidle hr (by rw [hself])
      intro b hb
      obtain ⟨hvalid, hother⟩ := hnew b hb
      refine ⟨(named_buffer hinv hother : b ∈ s.buffers), fun hneeds => ?_⟩
      rw [hself] at hneeds ⊢
      exact (hinv.good r hneeds).validated_clean hvalid
  | evict type o =>
    obtain ⟨⟨ret, t⟩, hevict, rfl⟩ := Option.map_eq_some_iff.mp h
    exact evictOne_inv hinv hevict
  | moveNotify b toMob us =>
    simp only [Resource.step] at h
    split at h
    · cases h
    · rename_i hcond
      cases h
      have hheld : s.held b = false := by
        by_contra hheld
        exact hcond (.inl (by simpa using hheld))
      exact (vmwResourceMoveNotify_spec hinv hheld toMob us).1
  | release r u =>
    simp only [Resource.step] at h
    split at h
    · cases h
    · rename_i hidle
      cases h
      exact vmwResourceRelease_inv hinv (hinv.known (by rw [not_not.mp hidle]; decide)) u
  | pin r count =>
    simp only [Resource.step] at h
    split at h
    · cases h
    · rename_i hlive
      cases h
      exact hinv.modify_clean (hinv.known hlive) rfl rfl rfl rfl id
  | bufCreate b size =>
    simp only [Resource.step] at h
    split at h
    · cases h
    · cases h
      exact (hinv.bufInit b size).bufGet List.mem_cons_self
  | bufGet b =>
    simp only [Resource.step] at h
    split at h
    · cases h
    · rename_i hb
      cases h
      exact hinv.bufGet (named_buffer hinv hb)
  | bufPut b =>
    simp only [Resource.step] at h
    split at h
    · cases h
    · rename_i hb
      cases h
      exact hinv.bufPut hb

theorem Inv.run {acts : List Action} (hrun : Run (Resource.step hasMob) (fun _ _ => True) State.init acts s) :
    Inv s :=
  hrun.invariant (fun _ _ _ _ hstep hinv => hinv.step hstep) Inv.init

end Run

section Validate

variable {s s' : State} {r v : ResId} {hasMob : Bool} {ret : Int}

theorem vmwResourceRelease_other (u : Unbind) (hne : r ≠ v) :
    ((vmwResourceRelease s v u).res r).func = (s.res r).func ∧
    ((vmwResourceRelease s v u).res r).phase = (s.res r).phase := by
  have hphase : ∀ t : State, ((t.modify v (fun res => { res with phase := .released })).res r) = t.res r := by
    intro t
    rw [modify_res, if_neg hne]
  unfold vmwResourceRelease
  simp only [hphase]
  split
  · exact ⟨rfl, rfl⟩
  · rename_i b _
    have hplaced : ∀ t : State, Placed t
        (((t.modify v (fun res => { res with backupDirty := false })).listDelMob v).dropBackup v) := by
      intro t
      exact (Placed.modify rfl rfl).trans ((Steady.listDelMob _ v).placed.trans (dropBackup_placed _ v))
    split
    · have h := (Steady.funcUnbind (s.lruDel v) b false u).placed.trans (hplaced _)
      exact ⟨h.func r, h.phase r⟩
    · exact ⟨(hplaced (s.lruDel v)).func r, (hplaced (s.lruDel v)).phase r⟩

theorem evictOne_other {type : ResType} {o : Attempt} (hinv : Inv s) (hphase : (s.res r).phase ≠ .idle)
    (h : evictOne s type o = some (ret, s')) :
    (s'.res r).func = (s.res r).func ∧ (s'.res r).phase = (s.res r).phase := by
  obtain ⟨v, t, hv⟩ := evictOne_cases hinv h
  have hne : r ≠ v := by
    rintro rfl
    exact hphase hv.idle
  have hres : (if ret = 0 then t else t.lruAdd v).res = t.res := by
    split <;> rfl
  rw [hv.after]
  unfold putVictim
  split
  · obtain ⟨hf, hp⟩ := vmwResourceRelease_other o.release hne (s := if ret = 0 then t else t.lruAdd v)
    rw [hf, hp, hres]
    exact ⟨hv.placed.func r, hv.placed.phase r⟩
  · rw [hres]
    exact ⟨hv.placed.func r, hv.placed.phase r⟩

/-- The steps that a `vmw_resource_validate` consists of. -/
def Round (r : ResId) (_ : State) : Action → Prop
  | .validate r' _ => r' = r
  | .evict _ _ => True
  | _ => False

theorem validateLoop_run {errCount : Nat} {os : List Attempt} (hinv : Inv s)
    (hphase : (s.res r).phase = .reserved) (hmay : (s.res r).func.mayEvict = true)
    (h : vmwResourceValidateLoop r errCount os s = some (ret, s')) :
    ∃ acts, Run (step hasMob) (Round r) s acts
      (if ret = 0 then (validateDone s' r).setPhase r .validated else s') := by
  induction os generalizing s errCount with
  | nil => cases h
  | cons o os ih =>
    rw [vmwResourceValidateLoop] at h
    cases hround : vmwResourceDoValidate s r o with
    | mk ret₁ t =>
      rw [hround] at h
      have hr := hinv.known (r := r) (by rw [hphase]; decide)
      obtain ⟨hinv₁, hsteady, -⟩ := vmwResourceDoValidate_spec hinv hr hround
      have hplaced := hsteady.placed
      have hstep : step hasMob s (.validate r o)
          = some (if ret₁ = 0 then (validateDone t r).setPhase r .validated else t) := by
        simp [step, hphase, hmay, hround]
      have hround₁ : Round r s (.validate r o) := rfl
      simp only at h
      split at h
      · cases h
        exact ⟨_, .single hround₁ hstep⟩
      · rename_i hbusy
        have hbusy : ret₁ = -EBUSY := not_not.mp hbusy
        have hret₁ : ¬ ret₁ = 0 := by rw [hbusy]; decide
        rw [if_neg hret₁] at hstep
        split at h
        · cases h
          exact ⟨_, .single hround₁ hstep⟩
        · obtain ⟨⟨ret₂, u⟩, hevict, hrest⟩ := Option.bind_eq_some_iff.mp h
          have hphase₁ : (t.res r).phase = .reserved := (hplaced.phase r).trans hphase
          have hround₂ : Round r t (.evict (t.res r).func.resType o) := trivial
          have hevictStep : step hasMob t (.evict (t.res r).func.resType o) = some u := by
            simp [step, hevict]
          have hinv₂ := evictOne_inv hinv₁ hevict
          obtain ⟨hfunc₂, hphase₂⟩ := evictOne_other hinv₁ (by rw [hphase₁]; decide) hevict
          have hmay₂ : (u.res r).func.mayEvict = true := by rw [hfunc₂, hplaced.func]; exact hmay
          have hphase₂ := hphase₂.trans hphase₁
          simp only at hrest
          split at hrest
          · obtain ⟨acts, hrun⟩ := ih hinv₂ hphase₂ hmay₂ hrest
            exact ⟨_, .cons hround₁ hstep (.cons hround₂ hevictStep hrun)⟩
          · rename_i hfail
            split at hrest
            · cases hrest
              rw [if_neg hfail]
              exact ⟨_, .cons hround₁ hstep (.single hround₂ hevictStep)⟩
            · obtain ⟨acts, hrun⟩ := ih hinv₂ hphase₂ hmay₂ hrest
              exact ⟨_, .cons hround₁ hstep (.cons hround₂ hevictStep hrun)⟩

/-- A whole `vmw_resource_validate` is a run of its rounds and evictions. -/
theorem vmwResourceValidate_run (hasMob : Bool) {os : List Attempt} (hinv : Inv s) (hphase : (s.res r).phase = .reserved)
    (h : vmwResourceValidate s r os = some (ret, s')) :
    ∃ acts, Run (step hasMob) (Round r) s acts (if ret = 0 then s'.setPhase r .validated else s') := by
  unfold vmwResourceValidate at h
  split at h
  · rename_i hmay
    cases h
    have o : Attempt := ⟨0, 0, 0, ⟨⟨none, 0, [], 0⟩, ⟨0, 0⟩, 0⟩, false, ⟨0, 0⟩⟩
    have hround : Round r s (.validate r o) := rfl
    refine ⟨_, .single hround ?_⟩
    simp [step, hphase, hmay]
  · rename_i hmay
    obtain ⟨⟨ret₁, t⟩, hloop, heq⟩ := Option.map_eq_some_iff.mp h
    obtain ⟨acts, hrun⟩ : ∃ acts, Run (step hasMob) (Round r) s acts
        (if ret₁ = 0 then (validateDone t r).setPhase r .validated else t) :=
      validateLoop_run hinv hphase (by simpa using hmay) hloop
    cases heq
    refine ⟨acts, ?_⟩
    split at hrun
    · rename_i hret
      simpa [hret] using hrun
    · rename_i hret
      simpa [hret] using hrun

end Validate

/-- The backup binding of one guest-backed resource. -/
structure BackupBound (s : State) (r : ResId) : Prop where
  /-- A linked `mob_head` is on the list of the current backup, which is held. -/
  linked : ∀ b, (s.res r).mobHead = some b → (s.res r).backup = some b ∧ 0 < s.bufRef b
  /-- It is on that list once, and on no other. -/
  listed : ∀ b, (s.resList b).count r = if (s.res r).mobHead = some b then 1 else 0
  /-- `vmw_resource_check_buffer` of a victim taken off its lru list. -/
  check : ∀ type o ret s', r ∈ s.lru type → vmwResourceCheckBuffer (s.lruDel r) r o = some (ret, s') →
    KeepsBackup s s' r
  /-- `vmw_resource_do_evict` of a victim, failing at any step. -/
  evict : ∀ type o ret s', r ∈ s.lru type → vmwResourceDoEvict (s.lruDel r) r o = some (ret, s') →
    ret ≠ 0 → KeepsBackup s s' r

theorem backup_bound {hasMob : Bool} {acts : List Action} {s : State}
    (hrun : Run (step hasMob) (fun _ _ => True) State.init acts s) {r : ResId}
    (hneeds : (s.res r).func.needsBackup = true) : BackupBound s r := by
  have hinv := Inv.run hrun
  have hg := hinv.good r hneeds
  have hvictim : ∀ {type}, r ∈ s.lru type → r ∈ s.resources ∧ (s.res r).phase ≠ .validated := by
    intro type hmem
    have hidle := (hinv.lru type r hmem).1
    exact ⟨hinv.known (by rw [hidle]; decide), by rw [hidle]; decide⟩
  refine ⟨fun b hb => ?_, hg.listed, fun type o ret s' hmem h => ?_, fun type o ret s' hmem h hret => ?_⟩
  · have hback := hg.backup b hb
    exact ⟨hback, hinv.ref_pos hback⟩
  · exact (vmwResourceCheckBuffer_spec (hinv.lruDel r) (hvictim hmem).1 h).keepsBackup hneeds
  · exact (vmwResourceDoEvict_spec (hinv.lruDel r) (hvictim hmem).1 (hvictim hmem).2 h).2.2 hneeds hret

section Example

private def created : List Action :=
  [.bufCreate 1 PAGE_SIZE, .shaderDefine 7 64 0 (some 1), .reserve 7 false none,
   .validate 7 ⟨0, 0, 0, ⟨⟨none, 0, [], 0⟩, ⟨0, 0⟩, 0⟩, false, ⟨0, 0⟩⟩, .unreserve 7 none 0]

/-- A shader bound to a user's buffer. -/
theorem backup_bound_shader : ∃ s : State, (s.res 7).mobHead = some 1 ∧ BackupBound s 7 := by
  have hrun : Run (step true) (fun _ _ => True) State.init created _ :=
    .cons trivial rfl (.cons trivial rfl (.cons trivial rfl (.cons trivial rfl (.cons trivial rfl (.nil _)))))
  exact ⟨_, rfl, backup_bound hrun rfl⟩

end Example

end Vmwgfx.Resource
