import Vmwgfx.Resource.Lru

/-! The pins of backup buffers: a buffer is pinned for a resource while the resource is, and
it is the backup. -/

namespace Vmwgfx.Resource

open Lib

/-- What an operation leaves of the backups of pinned resources. -/
structure Stable (s s' : State) : Prop where
  pinCount : ∀ r, (s'.res r).pinCount = 0 ↔ (s.res r).pinCount = 0
  func : ∀ r, (s.res r).pinCount ≠ 0 → (s'.res r).func = (s.res r).func
  backup : ∀ r, (s.res r).pinCount ≠ 0 → (s'.res r).backup = (s.res r).backup

namespace Stable

variable {r : ResId} {s s' s'' : State}

theorem trans (h : Stable s s') (h' : Stable s' s'') : Stable s s'' where
  pinCount r := (h'.pinCount r).trans (h.pinCount r)
  func r hpin := (h'.func r (fun hzero => hpin ((h.pinCount r).mp hzero))).trans (h.func r hpin)
  backup r hpin := (h'.backup r (fun hzero => hpin ((h.pinCount r).mp hzero))).trans (h.backup r hpin)

theorem of_beside (hb : Beside r s s')
    (hself : (s.res r).pinCount ≠ 0 → (s'.res r).backup = (s.res r).backup) : Stable s s' where
  pinCount r' := by rw [hb.pinCount]
  func r' _ := hb.func r'
  backup r' hpin := by
    by_cases hr : r' = r
    · exact hr ▸ hself (hr ▸ hpin)
    · exact hb.backup r' hr

theorem of_kept (hkept : Kept r s s') (hpin : (s.res r).pinCount = 0) : Stable s s' where
  pinCount r' := by rw [hkept.pinCount]
  func r' _ := hkept.func r'
  backup r' hpin' := hkept.backup r' (fun heq => hpin' (heq ▸ hpin)) hpin'

theorem of_res (h : s'.res = s.res) : Stable s s' :=
  .of_beside (.of_res 0 h) (fun _ => by rw [h])

theorem create (hnew : LruCreate s s' r) (hblank : (s.res r).pinCount = 0) : Stable s s' := by
  have hother : ∀ r', (s.res r').pinCount ≠ 0 → s'.res r' = s.res r' := by
    intro r' hpin
    apply hnew.other r'
    rintro rfl
    exact hpin hblank
  refine ⟨fun r' => ?_, fun r' hpin => by rw [hother r' hpin], fun r' hpin => by rw [hother r' hpin]⟩
  by_cases hr : r' = r
  · rw [hr]
    exact iff_of_true hnew.pinCount hblank
  · rw [hnew.other r' hr]

end Stable

/-- What `vmw_resource_unreserve` without a new backup leaves. -/
theorem unreserve_none_res (s : State) (r : ResId) :
    (vmwResourceUnreserve (s.setPhase r .idle) r none 0).res = (s.setPhase r .idle).res := by
  unfold vmwResourceUnreserve
  split
  · rfl
  · simp only
    split
    · rfl
    · rfl

theorem Stable.unreserve (s : State) (r : ResId) : Stable s (vmwResourceUnreserve (s.setPhase r .idle) r none 0) := by
  have hset : ((s.setPhase r .idle).res r).backup = (s.res r).backup := by
    rw [State.setPhase, modify_res, if_pos rfl]
  apply Stable.of_beside ((Beside.setPhase s r .idle).trans (.of_res r (unreserve_none_res s r)))
  intro _
  rw [unreserve_none_res, hset]

/-- The buffers pinned for resources are the backups of the pinned ones; a pinned resource has a
backup if its kind needs one, and none otherwise. -/
structure PinInv (s : PinState) : Prop where
  dev : DevInv (fun _ => True) s.dev
  pinnedFor : ∀ r, s.pinnedFor r = if (s.dev.res r).pinCount = 0 then none else (s.dev.res r).backup
  backed : ∀ r, (s.dev.res r).pinCount ≠ 0 →
    ((s.dev.res r).backup ≠ none ↔ (s.dev.res r).func.needsBackup = true)
  noEvict : ∀ b, s.noEvict b = true ↔ ∃ r, s.pinnedFor r = some b

section Balance

variable {s s' : PinState} {r : ResId} {o : PinOutcome} {hasMob : Bool} {ret : Int}

theorem PinInv.stable (h : PinInv s) (hdev : DevInv (fun _ => True) s'.dev) (hstable : Stable s.dev s'.dev)
    (hno : s'.noEvict = s.noEvict) (hfor : s'.pinnedFor = s.pinnedFor) : PinInv s' := by
  refine ⟨hdev, fun r => ?_, fun r hpin => ?_, fun b => ?_⟩
  · rw [hfor, h.pinnedFor r]
    by_cases hpin : (s.dev.res r).pinCount = 0
    · rw [if_pos hpin, if_pos ((hstable.pinCount r).mpr hpin)]
    · rw [if_neg hpin, if_neg (fun hzero => hpin ((hstable.pinCount r).mp hzero)), hstable.backup r hpin]
  · have hpin : (s.dev.res r).pinCount ≠ 0 := fun hzero => hpin ((hstable.pinCount r).mpr hzero)
    rw [hstable.backup r hpin, hstable.func r hpin]
    exact h.backed r hpin
  · rw [hno, hfor]
    exact h.noEvict b

/-- A pinned resource has the backup that its next validation wants. -/
theorem PinInv.settled (h : PinInv s) (hpin : (s.dev.res r).pinCount ≠ 0) :
    (s.dev.res r).func.needsBackup = true ∨ (s.dev.res r).backup = none := by
  by_cases hback : (s.dev.res r).backup = none
  · exact .inr hback
  · exact .inl ((h.backed r hpin).mp hback)

/-- A reservation allocates a backup only where one is missing. -/
theorem reserve_backup {s s' : State} {noBackup : Bool} {alloc : Option BufId}
    (hres : vmwResourceReserve s r noBackup alloc = some (ret, s'))
    (hthere : (s.res r).func.needsBackup = true → (s.res r).backup ≠ none) :
    (s'.res r).backup = (s.res r).backup := by
  unfold vmwResourceReserve at hres
  simp only at hres
  split at hres
  · rename_i hneed
    exact absurd (Option.isNone_iff_eq_none.mp hneed.2.1) (hthere hneed.1)
  · cases hres
    rfl

theorem reserveStep_backup {s s' : State} {noBackup : Bool} {alloc : Option BufId}
    (hstep : step hasMob s (.reserve r noBackup alloc) = some s')
    (hthere : (s.res r).func.needsBackup = true → (s.res r).backup ≠ none) :
    (s'.res r).backup = (s.res r).backup := by
  simp only [Resource.step] at hstep
  split at hstep
  · cases hstep
  · obtain ⟨⟨ret, t⟩, hres, rfl⟩ := Option.map_eq_some_iff.mp hstep
    rw [State.setPhase, modify_res, if_pos rfl]
    exact reserve_backup hres hthere

theorem reserveStep_beside {s s' : State} {noBackup : Bool} {alloc : Option BufId}
    (hstep : step hasMob s (.reserve r noBackup alloc) = some s') : Beside r s s' := by
  simp only [Resource.step] at hstep
  split at hstep
  · cases hstep
  · obtain ⟨⟨ret, t⟩, hres, rfl⟩ := Option.map_eq_some_iff.mp hstep
    exact (Beside.vmwResourceReserve hres).trans (.setPhase t r .reserved)

theorem PinInv.reserveStep (h : PinInv s) {noBackup : Bool} {alloc : Option BufId} {dev : State}
    (hstep : Resource.step hasMob s.dev (.reserve r noBackup alloc) = some dev) : Stable s.dev dev := by
  apply Stable.of_beside (reserveStep_beside hstep)
  intro hpin
  exact reserveStep_backup hstep (h.backed r hpin).mpr

/-- What a submission must not do, and does not check: change the backup of a pinned resource. -/
def KeepsPinnedBackup (s : State) : Action → Prop
  | .unreserve r (some b) _ => (s.res r).pinCount ≠ 0 → (s.res r).backup = some b
  | _ => True

theorem unreserve_same (s : State) (r : ResId) (newBackup : Option BufId) (off : Nat)
    (hsame : ∀ b, newBackup = some b → (s.res r).backup = some b) :
    ((vmwResourceUnreserve (s.setPhase r .idle) r newBackup off).res r).backup = (s.res r).backup := by
  have hset : ((s.setPhase r .idle).res r).backup = (s.res r).backup := by
    rw [State.setPhase, modify_res, if_pos rfl]
  cases newBackup with
  | none =>
    unfold vmwResourceUnreserve
    split
    · exact hset
    · simp only
      split
      · exact hset
      · exact hset
  | some b =>
    unfold vmwResourceUnreserve
    split
    · exact hset
    · simp only [if_pos (hset.trans (hsame b rfl))]
      have hoff : (((s.setPhase r .idle).modify r (fun res => { res with backupOffset := off })).res r).backup
          = (s.res r).backup := by
        rw [modify_res, if_pos rfl]
        exact hset
      split
      · exact hoff
      · exact hoff

theorem PinInv.step (h : PinInv s) {a : Action} {dev : State} (hpin : ∀ r n, a ≠ .pin r n)
    (hrelease : ∀ r u, a = .release r u → (s.dev.res r).pinCount = 0) (hkeeps : KeepsPinnedBackup s.dev a)
    (hstep : Resource.step hasMob s.dev a = some dev) : Stable s.dev dev := by
  have hcreate : ∀ r, a.creates = some r → Stable s.dev dev := by
    intro r hcreates
    obtain ⟨hr, hnew⟩ := LruCreate.of_step hcreates hstep
    exact .create hnew (by rw [h.dev.inv.unknown r hr]; rfl)
  have hevict : ∀ {type : ResType} {o : Attempt} {ret : Int}, evictOne s.dev type o = some (ret, dev) →
      Stable s.dev dev := by
    intro type o ret hone
    obtain ⟨v, t, hv⟩ := evictOne_cases h.dev.inv hone
    obtain ⟨rest, hhead⟩ := hv.head
    have hspare := (h.dev.lru.spare type v (hhead ▸ List.mem_cons_self)).2
    exact .of_beside (evictOne_beside hv) (fun hpin => absurd hspare hpin)
  cases a with
  | gbSurfaceDefine r => exact hcreate r rfl
  | surfaceDefine r => exact hcreate r rfl
  | shaderDefine r => exact hcreate r rfl
  | compatShaderAdd r => exact hcreate r rfl
  | contextDefine r => exact hcreate r rfl
  | reserve r noBackup alloc => exact h.reserveStep hstep
  | validate r o =>
    have hphase : (s.dev.res r).phase = .reserved := by
      by_contra hno
      simp [Resource.step, hno] at hstep
    obtain ⟨-, -, hkept⟩ := h.dev.round (a := .validate r o) (.inl hphase) rfl hstep
    refine ⟨fun r' => by rw [hkept.pinCount], fun r' _ => hkept.func r', fun r' hpin => ?_⟩
    by_cases hr : r' = r
    · rw [hr]
      exact hkept.self (h.settled (hr ▸ hpin))
    · exact hkept.backup r' hr hpin
  | unreserve r newBackup off =>
    simp only [Resource.step] at hstep
    split at hstep
    · cases hstep
    · cases hstep
      apply Stable.of_beside ((Beside.setPhase s.dev r .idle).trans (.vmwResourceUnreserve _ r newBackup off))
      intro hpinned
      apply unreserve_same
      rintro b rfl
      exact hkeeps hpinned
  | evict type o =>
    obtain ⟨⟨ret, t⟩, hone, rfl⟩ := Option.map_eq_some_iff.mp hstep
    exact hevict hone
  | moveNotify b toMob us =>
    simp only [Resource.step] at hstep
    split at hstep
    · cases hstep
    · cases hstep
      have hb : ∀ r, Beside r s.dev (vmwResourceMoveNotify s.dev b toMob us) :=
        fun r => .vmwResourceMoveNotify r s.dev b toMob us
      exact ⟨fun r => by rw [(hb r).pinCount], fun r _ => (hb r).func r,
        fun r _ => (hb (r + 1)).backup r (Nat.ne_of_lt (Nat.lt_succ_self r))⟩
  | release r u =>
    have hzero := hrelease r u rfl
    simp only [Resource.step] at hstep
    split at hstep
    · cases hstep
    · cases hstep
      exact .of_beside (.vmwResourceRelease s.dev r u) (fun hpin => absurd hzero hpin)
  | pin r n => exact absurd rfl (hpin r n)
  | bufCreate b size =>
    simp only [Resource.step] at hstep
    split at hstep
    · cases hstep
    · cases hstep
      exact .of_res rfl
  | bufGet b =>
    simp only [Resource.step] at hstep
    split at hstep
    · cases hstep
    · cases hstep
      exact .of_res rfl
  | bufPut b =>
    simp only [Resource.step] at hstep
    split at hstep
    · cases hstep
    · cases hstep
      exact .of_res rfl

/-- The validation of a pin that has pinned the backup does not fail. -/
def ValidatesPinned (s : PinState) (r : ResId) (o : PinOutcome) : Prop :=
  ∀ s₁ s₂ ret dev, pinReserve s r false o.alloc = some (0, s₁) → (s₁.dev.res r).backup ≠ none →
    pinBackup s₁ r o = some (0, s₂) → vmwResourceValidate s₂.dev r o.attempts = some (ret, dev) → ret = 0

/-- What keeps the pins of buffers and of resources together. -/
def KeepsBalance (s : PinState) : PinAction → Prop
  | .res a => KeepsPinnedBackup s.dev a
  | .pin r o => (s.dev.res r).pinCount = 0 →
    ((s.dev.res r).func.needsBackup = true ∨ (s.dev.res r).backup = none) ∧ ValidatesPinned s r o
  | .unpin r => (s.dev.res r).pinCount = 1 → ∀ r', r' ≠ r → (s.dev.res r').pinCount ≠ 0 →
    (s.dev.res r').backup = (s.dev.res r).backup → (s.dev.res r).backup = none

/-- The first pin of a resource, whose backup has been pinned. -/
theorem PinInv.first (h : PinInv s) (hpin : (s.dev.res r).pinCount = 0) {t : State}
    (hdev : DevInv (fun _ => True) s'.dev) (hkept : Kept r s.dev t)
    (hback : (s.dev.res r).backup ≠ none ↔ (s.dev.res r).func.needsBackup = true)
    (hres : s'.dev.res = (t.modify r (fun res => { res with pinCount := 1, phase := .idle })).res)
    (hnone : (s.dev.res r).backup = none → s'.noEvict = s.noEvict ∧ s'.pinnedFor = s.pinnedFor)
    (hsome : ∀ b, (s.dev.res r).backup = some b →
      s'.noEvict = Function.update s.noEvict b true ∧ s'.pinnedFor = Function.update s.pinnedFor r (some b)) :
    PinInv s' := by
  have hfree : s.pinnedFor r = none := by rw [h.pinnedFor r, if_pos hpin]
  have hsettled : (s.dev.res r).func.needsBackup = true ∨ (s.dev.res r).backup = none := by
    by_cases hno : (s.dev.res r).backup = none
    · exact .inr hno
    · exact .inl (hback.mp hno)
  have hself : (s'.dev.res r).pinCount = 1 ∧ (s'.dev.res r).backup = (s.dev.res r).backup ∧
      (s'.dev.res r).func = (s.dev.res r).func := by
    rw [hres, modify_res, if_pos rfl]
    exact ⟨rfl, hkept.self hsettled, hkept.func r⟩
  have hother : ∀ r', r' ≠ r → (s'.dev.res r').pinCount = (s.dev.res r').pinCount ∧
      (s'.dev.res r').func = (s.dev.res r').func ∧
      ((s.dev.res r').pinCount ≠ 0 → (s'.dev.res r').backup = (s.dev.res r').backup) := by
    intro r' hne
    rw [hres, modify_res, if_neg hne]
    exact ⟨hkept.pinCount r', hkept.func r', hkept.backup r' hne⟩
  have hfor : s'.pinnedFor r = (s.dev.res r).backup ∧ ∀ r', r' ≠ r → s'.pinnedFor r' = s.pinnedFor r' := by
    cases hb : (s.dev.res r).backup with
    | none =>
      rw [(hnone hb).2]
      exact ⟨hfree, fun _ _ => rfl⟩
    | some b =>
      rw [(hsome b hb).2]
      exact ⟨Function.update_self _ _ _, fun r' hne => Function.update_of_ne hne _ _⟩
  refine ⟨hdev, fun r' => ?_, fun r' hpin' => ?_, fun b => ?_⟩
  · by_cases hr : r' = r
    · rw [hr, hfor.1, hself.1, hself.2.1]
      rfl
    · obtain ⟨hcount, -, hsame⟩ := hother r' hr
      rw [hfor.2 r' hr, h.pinnedFor r', hcount]
      split
      · rfl
      · rename_i hne
        exact (hsame hne).symm
  · by_cases hr : r' = r
    · rw [hr, hself.2.1, hself.2.2]
      exact hback
    · obtain ⟨hcount, hfunc, hsame⟩ := hother r' hr
      rw [hcount] at hpin'
      rw [hsame hpin', hfunc]
      exact h.backed r' hpin'
  · have hthere : (∃ r', s'.pinnedFor r' = some b) ↔
        (s.dev.res r).backup = some b ∨ ∃ r', s.pinnedFor r' = some b := by
      constructor
      · rintro ⟨r', hr'⟩
        by_cases hr : r' = r
        · rw [hr, hfor.1] at hr'
          exact .inl hr'
        · rw [hfor.2 r' hr] at hr'
          exact .inr ⟨r', hr'⟩
      · rintro (hb | ⟨r', hr'⟩)
        · exact ⟨r, hfor.1.trans hb⟩
        · refine ⟨r', ?_⟩
          rw [hfor.2 r' ?_, hr']
          rintro rfl
          rw [hfree] at hr'
          cases hr'
    rw [hthere, ← h.noEvict b]
    cases hb : (s.dev.res r).backup with
    | none =>
      rw [(hnone hb).1]
      simp
    | some b' =>
      rw [(hsome b' hb).1]
      by_cases heq : b = b'
      · simp [heq]
      · simp [Function.update_of_ne heq, Ne.symm heq]

/-- The reservation of a pin leaves a backup where one is needed. -/
theorem reserve_backed {s : PinState} {alloc : Option BufId} {s₁ : PinState}
    (hres : pinReserve s r false alloc = some (0, s₁)) (hneeds : (s₁.dev.res r).func.needsBackup = true) :
    (s₁.dev.res r).backup ≠ none := by
  obtain ⟨⟨ret, dev⟩, hreserve, heq⟩ := Option.map_eq_some_iff.mp hres
  simp only at heq
  split at heq
  · rename_i hret
    cases heq
    have hset : ((dev.setPhase r .reserved).res r).backup = (dev.res r).backup ∧
        ((dev.setPhase r .reserved).res r).func = (dev.res r).func := by
      rw [State.setPhase, modify_res, if_pos rfl]
      exact ⟨rfl, rfl⟩
    simp only [hset.1, hset.2] at hneeds ⊢
    have hfunc := (Beside.vmwResourceReserve hreserve).func r
    unfold vmwResourceReserve at hreserve
    simp only at hreserve
    split at hreserve
    · unfold vmwResourceBufAlloc at hreserve
      rename_i hneed
      rw [Option.isNone_iff_eq_none.mp hneed.2.1] at hreserve
      simp only at hreserve
      split at hreserve
      · cases hreserve
      · split at hreserve
        · cases hreserve
        · cases hreserve
          simp [State.setBackup]
    · rename_i hno
      cases hreserve
      intro hnone
      exact hno ⟨hneeds, by rw [hnone]; rfl, by decide⟩
  · rename_i hfail
    cases heq
    exact absurd rfl hfail

theorem PinInv.pinned (h : PinInv s) (hphase : (s.dev.res r).phase = .reserved)
    (hbacked : (s.dev.res r).func.needsBackup = true → (s.dev.res r).backup ≠ none)
    (hok : (s.dev.res r).pinCount = 0 → (s.dev.res r).func.needsBackup = true ∨ (s.dev.res r).backup = none)
    (hvalid : (s.dev.res r).pinCount = 0 → ∀ s₁ ret dev, (s.dev.res r).backup ≠ none →
      pinBackup s r o = some (0, s₁) → vmwResourceValidate s₁.dev r o.attempts = some (ret, dev) → ret = 0)
    (hpin : Pinned r o s s') : PinInv s' := by
  have hdev := h.dev.pinned hphase hpin
  cases hpin with
  | again hcount hs' =>
    have hmod : Stable s.dev (s.dev.modify r (fun res => { res with pinCount := (s.dev.res r).pinCount + 1 })) := by
      refine ⟨fun r' => ?_, fun r' _ => ?_, fun r' _ => ?_⟩ <;> rw [modify_res] <;> split
      · rename_i heq
        rw [heq]
        exact iff_of_false (Nat.succ_ne_zero _) hcount
      · exact Iff.rfl
      · rename_i heq
        rw [heq]
      · rfl
      · rename_i heq
        rw [heq]
      · rfl
    rw [hs'] at hdev ⊢
    exact h.stable hdev (hmod.trans (.unreserve _ r)) rfl rfl
  | noBuffer hcount s₁ ret hret hbuf hs' =>
    have hb := pinBackup_spec h.dev hbuf
    have hsteady : Stable s.dev s₁.dev :=
      ⟨fun r' => by rw [hb.pinCount], fun r' _ => (hb.steady.res r').func, fun r' _ => (hb.steady.res r').backup⟩
    rw [hs'] at hdev ⊢
    exact h.stable hdev (hsteady.trans (.unreserve _ r)) (hb.fail hret).1 (hb.fail hret).2
  | noValidate hcount s₁ hbuf dev ret hret hval hs' =>
    have hb := pinBackup_spec h.dev hbuf
    by_cases hnone : (s.dev.res r).backup = none
    · have hsame := hb.none hnone
      cases hsame
      obtain ⟨t, ht, -, -, hkept⟩ := vmwResourceValidate_kept h.dev hphase hval
      rw [if_neg hret] at ht
      cases ht
      rw [hs'] at hdev ⊢
      exact h.stable hdev ((Stable.of_kept hkept hcount).trans (.unreserve _ r)) rfl rfl
    · exact absurd (hvalid hcount s₁ ret dev hnone hbuf hval) hret
  | first hcount s₁ hbuf dev hval hs' =>
    have hb := pinBackup_spec h.dev hbuf
    obtain ⟨t, ht, -, -, hkept⟩ := vmwResourceValidate_kept hb.dev ((hb.steady.res r).phase.trans hphase) hval
    rw [if_pos rfl] at ht
    have hsteady : Kept r s.dev s₁.dev :=
      ⟨hb.pinCount, fun r' => (hb.steady.res r').func, fun r' _ _ => (hb.steady.res r').backup,
        fun _ => (hb.steady.res r).backup⟩
    have hzero : (dev.res r).pinCount = 0 := by
      have hcount' := (hsteady.trans hkept).pinCount r
      rw [ht, State.setPhase, modify_res, if_pos rfl] at hcount'
      exact hcount'.trans hcount
    have hres : ∀ n, n = 1 → (vmwResourceUnreserve ((dev.modify r (fun res => { res with pinCount := n })).setPhase r
        .idle) r none 0).res = (t.modify r (fun res => { res with pinCount := 1, phase := .idle })).res := by
      rintro n rfl
      rw [unreserve_none_res, ht]
      simp [State.setPhase, State.modify]
    rw [hs'] at hdev ⊢
    apply h.first hcount hdev (hsteady.trans hkept) ?_ (hres _ (by rw [hzero]))
    · intro hnone
      cases hb.none hnone
      exact ⟨rfl, rfl⟩
    · exact fun b hb' => hb.done b rfl hb'
    · constructor
      · intro hsome
        exact (hok hcount).resolve_right hsome
      · exact hbacked

theorem PinInv.pin (h : PinInv s) (hidle : (s.dev.res r).phase = .idle) (hok : KeepsBalance s (.pin r o))
    (hpin : vmwResourcePin s r o = some (ret, s')) : PinInv s' := by
  obtain ⟨ret₁, s₁, hres, hpin⟩ := vmwResourcePin_cases hpin
  rcases pinReserve_cases true hres hidle with
    ⟨hret, hstep, hno, hfor⟩ | ⟨hret, rfl, -⟩
  · rcases hpin with ⟨hfail, -⟩ | ⟨-, hpin⟩
    · exact absurd hret hfail
    · rw [hret] at hres
      have hstable := h.reserveStep hstep
      have h₁ := h.stable (h.dev.step (fun _ _ => Action.noConfusion) hstep) hstable hno hfor
      have hzero : (s₁.dev.res r).pinCount = 0 → (s.dev.res r).pinCount = 0 := (hstable.pinCount r).mp
      apply h₁.pinned (reserve_phase hstep) (reserve_backed hres) ?_ ?_ hpin
      · intro hcount
        have hfunc := (reserveStep_beside hstep).func r
        rw [hfunc]
        rcases (hok (hzero hcount)).1 with hneeds | hnone
        · exact .inl hneeds
        · by_cases hneeds : (s.dev.res r).func.needsBackup = true
          · exact .inl hneeds
          · exact .inr ((reserveStep_backup hstep (fun h => absurd h hneeds)).trans hnone)
      · intro hcount s₂ ret₂ dev hsome hbuf hval
        exact (hok (hzero hcount)).2 s₁ s₂ ret₂ dev hres hsome hbuf hval
  · rcases hpin with ⟨-, rfl⟩ | ⟨hok', -⟩
    · exact h.stable (h.dev.lruDel (fun _ => trivial)) (.of_res rfl) rfl rfl
    · exact absurd hok' hret

/-- The last unpin of a resource, whose backup has been unpinned. -/
theorem PinInv.last (h : PinInv s) (hpin : (s.dev.res r).pinCount ≠ 0) (hdev : DevInv (fun _ => True) s'.dev)
    (hfree : ∀ r', r' ≠ r → (s.dev.res r').pinCount ≠ 0 → (s.dev.res r').backup = (s.dev.res r).backup →
      (s.dev.res r).backup = none)
    (hres : s'.dev.res = (s.dev.modify r (fun res => { res with pinCount := 0, phase := .idle })).res)
    (hnone : (s.dev.res r).backup = none → s'.noEvict = s.noEvict ∧ s'.pinnedFor = s.pinnedFor)
    (hsome : ∀ b, (s.dev.res r).backup = some b →
      s'.noEvict = Function.update s.noEvict b false ∧ s'.pinnedFor = Function.update s.pinnedFor r none) :
    PinInv s' := by
  have hheld : s.pinnedFor r = (s.dev.res r).backup := by rw [h.pinnedFor r, if_neg hpin]
  have hself : (s'.dev.res r).pinCount = 0 := by rw [hres, modify_res, if_pos rfl]
  have hother : ∀ r', r' ≠ r → s'.dev.res r' = s.dev.res r' := by
    intro r' hne
    rw [hres, modify_res, if_neg hne]
  have hfor : s'.pinnedFor r = none ∧ ∀ r', r' ≠ r → s'.pinnedFor r' = s.pinnedFor r' := by
    cases hb : (s.dev.res r).backup with
    | none =>
      rw [(hnone hb).2]
      exact ⟨hheld.trans hb, fun _ _ => rfl⟩
    | some b =>
      rw [(hsome b hb).2]
      exact ⟨Function.update_self _ _ _, fun r' hne => Function.update_of_ne hne _ _⟩
  refine ⟨hdev, fun r' => ?_, fun r' hpin' => ?_, fun b => ?_⟩
  · by_cases hr : r' = r
    · rw [hr, hfor.1, if_pos hself]
    · rw [hfor.2 r' hr, h.pinnedFor r', hother r' hr]
  · have hr : r' ≠ r := by
      rintro rfl
      exact hpin' hself
    rw [hother r' hr] at hpin' ⊢
    exact h.backed r' hpin'
  · have hthere : (∃ r', s'.pinnedFor r' = some b) ↔
        (s.dev.res r).backup ≠ some b ∧ ∃ r', s.pinnedFor r' = some b := by
      constructor
      · rintro ⟨r', hr'⟩
        have hne : r' ≠ r := by
          rintro rfl
          rw [hfor.1] at hr'
          cases hr'
        rw [hfor.2 r' hne] at hr'
        refine ⟨fun hb => ?_, r', hr'⟩
        -- another resource is pinned with the same backup
        have hfor' := h.pinnedFor r'
        rw [hr'] at hfor'
        split at hfor'
        · cases hfor'
        · rename_i hpin'
          rw [hfree r' hne hpin' (hfor'.symm.trans hb.symm)] at hb
          cases hb
      · rintro ⟨hb, r', hr'⟩
        refine ⟨r', ?_⟩
        rw [hfor.2 r' ?_, hr']
        rintro rfl
        exact hb (hheld.symm.trans hr')
    rw [hthere, ← h.noEvict b]
    cases hb : (s.dev.res r).backup with
    | none =>
      rw [(hnone hb).1]
      simp
    | some b' =>
      rw [(hsome b' hb).1]
      by_cases heq : b = b'
      · simp [heq]
      · simp [Function.update_of_ne heq, Ne.symm heq]

theorem PinInv.unpin (h : PinInv s) (hidle : (s.dev.res r).phase = .idle) (hcount : (s.dev.res r).pinCount ≠ 0)
    (hok : KeepsBalance s (.unpin r)) (hunpin : vmwResourceUnpin s r = some s') : PinInv s' := by
  have hdev := h.dev.unpin hidle hunpin
  obtain ⟨s₁, hstep, hno, hfor, hs'⟩ := vmwResourceUnpin_cases true hunpin hidle
  have hstable := h.reserveStep hstep
  have hb := reserveStep_beside hstep
  have h₁ := h.stable (h.dev.step (fun _ _ => Action.noConfusion) hstep) hstable hno hfor
  have hcount₁ : (s₁.dev.res r).pinCount = (s.dev.res r).pinCount := hb.pinCount r
  have hmod : ∀ n, ((s₁.dev.modify r (fun res => { res with pinCount := n })).res r).pinCount = n := by
    intro n
    rw [modify_res, if_pos rfl]
  rw [hs'] at hdev ⊢
  by_cases hlast : (s.dev.res r).pinCount - 1 = 0
  · have hone : (s.dev.res r).pinCount = 1 := by omega
    have hzero : (s₁.dev.res r).pinCount - 1 = 0 := by rw [hcount₁]; exact hlast
    rw [hzero] at hdev ⊢
    have hback : ((s₁.dev.modify r (fun res => { res with pinCount := 0 })).res r).backup = (s₁.dev.res r).backup := by
      rw [modify_res, if_pos rfl]
    apply h₁.last (by rw [hcount₁, hone]; decide) hdev
    · intro r' hne hpin' hsame
      have hpin : (s.dev.res r').pinCount ≠ 0 := by rw [← hb.pinCount]; exact hpin'
      have hr : (s.dev.res r).pinCount ≠ 0 := hcount
      rw [hstable.backup r' hpin, hstable.backup r hr] at hsame
      rw [hstable.backup r hr]
      exact hok hone r' hne hpin hsame
    · show (vmwResourceUnreserve (State.setPhase (unpinBackup _ r).dev r .idle) r none 0).res = _
      rw [unreserve_none_res, unpinBackup_dev]
      simp [PinState.setPinCount, State.setPhase, State.modify]
    · intro hnone
      simp [unpinBackup, PinState.setPinCount, PinState.unreserve, hnone]
    · intro b hb'
      have hheld : s₁.pinnedFor r = some b := by
        rw [h₁.pinnedFor r, if_neg (by rw [hcount₁]; exact hcount), hb']
      simp [unpinBackup, PinState.setPinCount, PinState.unreserve, PinState.vmwBoUnpin, hb', hheld]
  · have hsame : unpinBackup (s₁.setPinCount r ((s₁.dev.res r).pinCount - 1)) r
        = s₁.setPinCount r ((s₁.dev.res r).pinCount - 1) := by
      unfold unpinBackup
      rw [if_neg]
      intro hzero
      have hzero := (hmod ((s₁.dev.res r).pinCount - 1)).symm.trans hzero
      rw [hcount₁] at hzero
      exact hlast hzero
    rw [hsame] at hdev ⊢
    have hstep' : Stable s₁.dev (s₁.dev.modify r
        (fun res => { res with pinCount := (s₁.dev.res r).pinCount - 1 })) := by
      refine ⟨fun r' => ?_, fun r' _ => ?_, fun r' _ => ?_⟩ <;> rw [modify_res] <;> split
      · rename_i heq
        rw [heq, hcount₁]
        exact iff_of_false hlast hcount
      · exact Iff.rfl
      · rename_i heq
        rw [heq]
      · rfl
      · rename_i heq
        rw [heq]
      · rfl
    exact h₁.stable hdev (hstep'.trans (.unreserve _ r)) rfl rfl

theorem PinInv.pinStep (h : PinInv s) {a : PinAction} (hok : KeepsBalance s a)
    (hstep : pinStep hasMob s a = some s') : PinInv s' := by
  have hdev : DevInv (fun _ => True) s'.dev := h.dev.pinStep (fun _ _ _ _ => trivial) hstep
  cases a with
  | res a =>
    have hmap : (∀ r n, a ≠ .pin r n) → (∀ r u, a = .release r u → (s.dev.res r).pinCount = 0) →
        (Resource.step hasMob s.dev a).map (fun dev => { s with dev }) = some s' → PinInv s' := by
      intro hpin hrelease hmap
      obtain ⟨dev, hres, rfl⟩ := Option.map_eq_some_iff.mp hmap
      exact h.stable hdev (h.step hpin hrelease hok hres) rfl rfl
    cases a with
    | pin r n => cases hstep
    | release r u =>
      simp only [Resource.pinStep] at hstep
      split at hstep
      · cases hstep
      · rename_i hpin
        apply hmap (fun _ _ => Action.noConfusion) ?_ hstep
        intro r' u' heq
        cases heq
        exact not_not.mp hpin
    | _ => exact hmap (fun _ _ => Action.noConfusion) (fun _ _ => Action.noConfusion) hstep
  | pin r o =>
    simp only [Resource.pinStep] at hstep
    split at hstep
    · cases hstep
    · rename_i hidle
      obtain ⟨⟨ret, s₁⟩, hpin, rfl⟩ := Option.map_eq_some_iff.mp hstep
      exact h.pin (not_not.mp hidle) hok hpin
  | unpin r =>
    simp only [Resource.pinStep] at hstep
    split at hstep
    · cases hstep
    · rename_i hguard
      exact h.unpin (not_not.mp (fun hne => hguard (.inl hne))) (fun hzero => hguard (.inr hzero)) hok hstep

end Balance

/-- A buffer is pinned for a resource if the resource is pinned and it is the backup, and a
buffer that cannot be evicted is pinned for one. -/
structure PinBalanced (s : PinState) : Prop where
  pinnedFor : ∀ r b, s.pinnedFor r = some b ↔ 0 < (s.dev.res r).pinCount ∧ (s.dev.res r).backup = some b
  noEvict : ∀ b, s.noEvict b = true ↔ ∃ r, 0 < (s.dev.res r).pinCount ∧ (s.dev.res r).backup = some b

section Example

private def bound : List PinAction :=
  [.res (.bufCreate 1 PAGE_SIZE), .res (.shaderDefine 7 64 0 (some 1))]

private def attempt (create : Int) : Attempt := ⟨create, 0, 0, ⟨⟨none, 0, [], 0⟩, ⟨0, 0⟩, 0⟩, false, ⟨0, 0⟩⟩

end Example

end Vmwgfx.Resource
