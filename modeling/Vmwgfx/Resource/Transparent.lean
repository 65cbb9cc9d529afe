import Vmwgfx.Resource.Copies
import Vmwgfx.Lib.Machine
import Vmwgfx.Resource.Lru

/-! Eviction is transparent to what surfaces store: one of the two copies is current, and the
flags of the resource say which. -/

universe u

namespace Vmwgfx.Resource

open Lib

variable {α : Type u}

section Frame

variable {c : Copies α} {r r' : ResId}

theorem exec_other (hne : r' ≠ r) (cmd : SurfaceCmd) :
    (c.exec r cmd).device r' = c.device r' ∧ (c.exec r cmd).backup r' = c.backup r' := by
  have hdevice : ∀ v, (c.setDevice r v).device r' = c.device r' := fun v => Function.update_of_ne hne ..
  have hbackup : ∀ v, (c.setBackup r v).backup r' = c.backup r' := fun v => Function.update_of_ne hne ..
  cases cmd with
  | define => exact ⟨hdevice _, rfl⟩
  | bind => exact ⟨rfl, rfl⟩
  | update => exact ⟨hdevice _, rfl⟩
  | readback => exact ⟨rfl, hbackup _⟩
  | invalidate => exact ⟨hdevice _, rfl⟩
  | destroy => exact ⟨hdevice _, rfl⟩
  | surfaceDma toSurface =>
    cases toSurface with
    | true => exact ⟨hdevice _, rfl⟩
    | false => exact ⟨rfl, hbackup _⟩

theorem execAll_other (hne : r' ≠ r) (cmds : List SurfaceCmd) :
    (c.execAll r cmds).device r' = c.device r' ∧ (c.execAll r cmds).backup r' = c.backup r' := by
  unfold Copies.execAll
  induction cmds generalizing c with
  | nil => exact ⟨rfl, rfl⟩
  | cons cmd cmds ih =>
    obtain ⟨hdevice, hbackup⟩ := ih (c := c.exec r cmd)
    obtain ⟨hdevice', hbackup'⟩ := exec_other (c := c) hne cmd
    exact ⟨hdevice.trans hdevice', hbackup.trans hbackup'⟩

theorem setDevice_self (v : Option α) : (c.setDevice r v).device r = v := Function.update_self ..

theorem setBackup_self (v : Option α) : (c.setBackup r v).backup r = v := Function.update_self ..

theorem readback_copies (f : VmwResFunc) (hf : f.isSurface = true) :
    (c.execAll r (f.unbindCmds true)).backup r = c.device r ∧
      (c.execAll r (f.unbindCmds true)).device r = c.device r := by
  cases f with
  | gbSurface => exact ⟨setBackup_self _, rfl⟩
  | legacySurface => exact ⟨setBackup_self _, rfl⟩
  | _ => cases hf

theorem destroy_copies (f : VmwResFunc) : (c.execAll r f.destroyCmds).backup r = c.backup r := by
  unfold VmwResFunc.destroyCmds
  split <;> rfl

theorem create_copies (f : VmwResFunc) : (c.execAll r f.createCmds).backup r = c.backup r := by
  unfold VmwResFunc.createCmds
  split <;> rfl

end Frame

/-- What the flags of a surface say of its copies. -/
structure Current (res : VmwResource) (device backup left : Option α) : Prop where
  validated : res.phase = .validated → res.resDirty = true
  onDevice : res.resDirty = true → res.onDevice = true
  bound : res.func = .gbSurface → (res.mobHead.isSome = true ↔ res.resDirty = true)
  unbound : res.func = .legacySurface → res.mobHead = none
  current : res.resDirty = true → left = none ∨ device = left
  stored : res.resDirty = false → left = none ∨ (res.backup.isSome = true ∧ res.backupDirty = true ∧ backup = left)

structure CopyInv (s : State) (c : Copies α) (left : ResId → Option α) : Prop where
  current : ∀ r, (s.res r).func.isSurface = true → (s.res r).phase ≠ .released →
    Current (s.res r) (c.device r) (c.backup r) (left r)
  listed : ∀ b r, r ∈ s.resList b → (s.res r).func.needsBackup = true
  unknown : ∀ r, r ∉ s.resources → left r = none

/-- The step changes at most resource `r`, and links none. -/
structure Only (r : ResId) (s s' : State) : Prop where
  res : ∀ r', r' ≠ r → s'.res r' = s.res r'
  list : ∀ b r', r' ∈ s'.resList b → r' ∈ s.resList b
  resources : s'.resources = s.resources

namespace Only

variable {r : ResId} {s s' s'' : State}

theorem refl (r : ResId) (s : State) : Only r s s := ⟨fun _ _ => rfl, fun _ _ => id, rfl⟩

theorem trans (h : Only r s s') (h' : Only r s' s'') : Only r s s'' :=
  ⟨fun r' hne => (h'.res r' hne).trans (h.res r' hne), fun b r' hr => h.list b r' (h'.list b r' hr),
    h'.resources.trans h.resources⟩

theorem modify (s : State) (r : ResId) (f : VmwResource → VmwResource) : Only r s (s.modify r f) :=
  ⟨fun r' hne => by rw [modify_res, if_neg hne], fun _ _ => id, rfl⟩

theorem listDelMob (s : State) (r : ResId) : Only r s (s.listDelMob r) := by
  refine ⟨fun r' hne => ?_, fun b r' hr => ?_, (listDelMob_frame s r).1⟩
  · rw [listDelMob_res, modify_res, if_neg hne]
  · have hcount := listDelMob_count s r r' b
    have hpos := List.count_pos_iff.mpr hr
    rw [hcount] at hpos
    split at hpos
    · exact absurd hpos (Nat.lt_irrefl 0)
    · exact List.count_pos_iff.mp hpos

theorem funcUnbind (r : ResId) (s : State) (b : BufId) (readback : Bool) (u : Unbind) :
    Only r s (funcUnbind s b readback u) := by
  unfold Resource.funcUnbind
  split <;> exact ⟨fun _ _ => rfl, fun _ _ => id, rfl⟩

theorem funcDestroy (s : State) (r : ResId) (ret : Int) : Only r s (funcDestroy s r ret) := by
  unfold Resource.funcDestroy
  split
  · exact modify s r _
  · exact refl r s

theorem dropBackup (s : State) (r : ResId) : Only r s (s.dropBackup r) := by
  unfold State.dropBackup
  split
  · exact refl r s
  · have h := modify s r fun res => { res with backup := none }
    exact ⟨h.res, fun _ _ => id, rfl⟩

theorem setBackup (s : State) (r : ResId) (b : BufId) : Only r s (s.setBackup r b) := by
  have h := modify s r fun res => { res with backup := some b }
  exact ⟨h.res, fun _ _ => id, rfl⟩

theorem checkBufferFail (s : State) (r : ResId) (b : BufId) (dirty : Bool) : Only r s (checkBufferFail s r b dirty) := by
  have hput : Only r s (s.bufPut b) := ⟨fun _ _ => rfl, fun _ _ => id, rfl⟩
  unfold Resource.checkBufferFail
  split
  · exact hput.trans (dropBackup _ r)
  · exact hput

end Only

/-- The resource that a step creates. -/
structure Created (r : ResId) (s s' : State) : Prop where
  fresh : r ∉ s.resources
  other : ∀ r', r' ≠ r → s'.res r' = s.res r'
  list : s'.resList = s.resList
  resources : ∀ r', r' ∈ s.resources → r' ∈ s'.resources
  idle : (s'.res r).phase = .idle
  clean : (s'.res r).resDirty = false
  unlinked : (s'.res r).mobHead = none

namespace Created

variable {s s' : State} {r : ResId}

theorem init (hr : r ∉ s.resources) (func : VmwResFunc) (data : Contents) :
    Created r s (vmwResourceInit s r func data) := by
  have hself : ∀ v : VmwResource, Function.update s.res r v r = v := fun v => Function.update_self ..
  refine ⟨hr, fun r' hne => Function.update_of_ne hne .., rfl, fun r' => List.mem_cons_of_mem r, ?_, ?_, ?_⟩ <;>
    · unfold vmwResourceInit
      dsimp only
      rw [hself]

theorem congr {s'' : State} (h : Created r s s') (hres : s''.res = s'.res) (hlist : s''.resList = s'.resList)
    (hresources : s''.resources = s'.resources) : Created r s s'' := by
  obtain ⟨hfresh, hother, hlist', hresources', hidle, hclean, hunlinked⟩ := h
  refine ⟨hfresh, ?_, hlist.trans hlist', ?_, ?_, ?_, ?_⟩
  · rwa [hres]
  · rwa [hresources]
  all_goals rwa [hres]

theorem modify (h : Created r s s') {f : VmwResource → VmwResource} (hphase : (f (s'.res r)).phase = (s'.res r).phase)
    (hdirty : (f (s'.res r)).resDirty = (s'.res r).resDirty) (hmob : (f (s'.res r)).mobHead = (s'.res r).mobHead) :
    Created r s (s'.modify r f) := by
  refine ⟨h.fresh, fun r' hne => ?_, h.list, h.resources, ?_, ?_, ?_⟩
  · rw [modify_res, if_neg hne]
    exact h.other r' hne
  all_goals rw [modify_res, if_pos rfl]
  · exact hphase.trans h.idle
  · exact hdirty.trans h.clean
  · exact hmob.trans h.unlinked

theorem setBackup (h : Created r s s') (b : BufId) : Created r s (s'.setBackup r b) := by
  have hset : Created r s (s'.modify r fun res => { res with backup := some b }) := h.modify rfl rfl rfl
  exact hset.congr rfl rfl rfl

theorem vmwUserDmabufAlloc {s'' : State} {b : BufId} {size : Nat} (h : Created r s s')
    (halloc : vmwUserDmabufAlloc s' r b size = some s'') : Created r s s'' := by
  unfold Resource.vmwUserDmabufAlloc at halloc
  split at halloc
  · cases halloc
  · cases halloc
    have hinit : Created r s (s'.bufInit b size) := h.congr rfl rfl rfl
    exact (hinit.setBackup b).congr rfl rfl rfl

end Created

namespace CopyInv

variable {s s' : State} {c c' : Copies α} {left : ResId → Option α} {r : ResId} {b : BufId}

/-- A step on resource `r`, which may link it. -/
theorem touch (h : CopyInv s c left) (hres : ∀ r', r' ≠ r → s'.res r' = s.res r')
    (hlist : ∀ b r', r' ∈ s'.resList b → r' ∈ s.resList b ∨ r' = r ∧ (s.res r).func.needsBackup = true)
    (hresources : s'.resources = s.resources) (hfunc : (s'.res r).func = (s.res r).func)
    (hcopies : ∀ r', r' ≠ r → c'.device r' = c.device r' ∧ c'.backup r' = c.backup r')
    (hself : (s.res r).func.isSurface = true → (s'.res r).phase ≠ .released →
      Current (s'.res r) (c'.device r) (c'.backup r) (left r)) : CopyInv s' c' left where
  current r' hsurface hlive := by
    by_cases hne : r' = r
    · subst hne
      exact hself (hfunc ▸ hsurface) hlive
    · rw [hres r' hne] at hsurface hlive ⊢
      rw [(hcopies r' hne).1, (hcopies r' hne).2]
      exact h.current r' hsurface hlive
  listed b r' hr := by
    cases hlist b r' hr with
    | inl hr =>
      have hneeds := h.listed b r' hr
      by_cases hne : r' = r
      · subst hne
        rwa [hfunc]
      · rwa [hres r' hne]
    | inr hr => rw [hr.1, hfunc, hr.2]
  unknown r' hr := h.unknown r' (hresources ▸ hr)

theorem only (h : CopyInv s c left) (ho : Only r s s') (hfunc : (s'.res r).func = (s.res r).func)
    (hcopies : ∀ r', r' ≠ r → c'.device r' = c.device r' ∧ c'.backup r' = c.backup r')
    (hself : (s.res r).func.isSurface = true → (s'.res r).phase ≠ .released →
      Current (s'.res r) (c'.device r) (c'.backup r) (left r)) : CopyInv s' c' left :=
  h.touch ho.res (fun b r' hr => .inl (ho.list b r' hr)) ho.resources hfunc hcopies hself

/-- Nothing that the invariant looks at changes. -/
theorem congr (h : CopyInv s c left) (hres : s'.res = s.res) (hlist : s'.resList = s.resList)
    (hresources : s'.resources = s.resources) : CopyInv s' c left where
  current := by
    rw [hres]
    exact h.current
  listed := by
    rw [hlist, hres]
    exact h.listed
  unknown := by
    rw [hresources]
    exact h.unknown

theorem unlisted (h : CopyInv s c left) (hf : (s.res r).func = .legacySurface) (b : BufId) : r ∉ s.resList b := by
  intro hr
  have hneeds := h.listed b r hr
  rw [hf] at hneeds
  cases hneeds

section Move

theorem moveNotifyOne_only (s : State) (b : BufId) (r : ResId) (u : Unbind) :
    Only r s (Resource.moveNotifyOne b s r u) := by
  unfold Resource.moveNotifyOne
  split
  · exact (Only.funcUnbind r s b true u).trans ((Only.modify _ r _).trans (Only.listDelMob _ r))
  · exact .refl r s

theorem moveNotifyOne_self (hunbind : (s.res r).func.hasUnbind = true) (b : BufId) (u : Unbind) :
    (Resource.moveNotifyOne b s r u).res r =
      { s.res r with backupDirty := true, resDirty := false, mobHead := none } := by
  have hres : (Resource.funcUnbind s b true u).res = s.res := by
    unfold Resource.funcUnbind
    split <;> rfl
  unfold Resource.moveNotifyOne
  rw [if_pos hunbind, listDelMob_res, modify_res, if_pos rfl, modify_res, if_pos rfl, hres]

theorem hasUnbind_of_needsBackup {f : VmwResFunc} (h : f.needsBackup = true) : f.hasUnbind = true := by
  revert h
  cases f <;> decide

theorem hasUnbind_of_mayEvict {f : VmwResFunc} (h : f.mayEvict = true) : f.hasUnbind = true := by
  revert h
  cases f <;> decide

theorem mayEvict_of_isSurface {f : VmwResFunc} (h : f.isSurface = true) : f.mayEvict = true := by
  revert h
  cases f <;> decide

/-- A surface whose buffer moves is read back. -/
theorem moveNotifyOne (h : CopyInv s c left) {u : Unbind} (hneeds : (s.res r).func.needsBackup = true)
    (hmob : (s.res r).mobHead = some b) (hback : (s.res r).backup = some b) (hphase : (s.res r).phase ≠ .validated) :
    CopyInv (moveNotifyOne b s r u) (c.execAll r ((s.res r).func.unbindCmds true)) left := by
  have hself := moveNotifyOne_self (hasUnbind_of_needsBackup hneeds) b u
  refine h.only (moveNotifyOne_only s b r u) (by rw [hself]) (fun r' hne => execAll_other hne _) fun hsurface hlive => ?_
  have hcur := h.current r hsurface (by rwa [hself] at hlive)
  have hgb : (s.res r).func = .gbSurface := by
    revert hneeds hsurface
    cases (s.res r).func <;> decide
  have hdirty : (s.res r).resDirty = true := (hcur.bound hgb).mp (by rw [hmob]; rfl)
  rw [hself]
  constructor
  case validated => exact fun hv => absurd hv hphase
  case onDevice => exact fun hd => Bool.noConfusion hd
  case bound => exact fun _ => ⟨fun hs => Bool.noConfusion hs, fun hd => Bool.noConfusion hd⟩
  case unbound => exact fun _ => rfl
  case current => exact fun hd => Bool.noConfusion hd
  case stored =>
    intro _
    refine (hcur.current hdirty).imp_right fun hcurrent => ?_
    refine ⟨by rw [hback]; rfl, rfl, ?_⟩
    exact (readback_copies _ hsurface).1.trans hcurrent

theorem moveNotify_loop {l : List (ResId × Unbind)} (h : CopyInv s c left) (hnodup : (l.map Prod.fst).Nodup)
    (hl : ∀ p ∈ l, (s.res p.1).func.needsBackup = true ∧ (s.res p.1).mobHead = some b ∧
      (s.res p.1).backup = some b ∧ (s.res p.1).phase ≠ .validated ∧ p.2.ret = 0)
    {F : ResId → VmwResFunc} (hF : ∀ r, (s.res r).func = F r) :
    CopyInv (l.foldl (fun s p => Resource.moveNotifyOne b s p.1 p.2) s)
      (l.foldl (fun c p => if p.2.ret = 0 then c.execAll p.1 ((F p.1).unbindCmds true) else c) c) left := by
  induction l generalizing s c with
  | nil => exact h
  | cons p l ih =>
    rw [List.map_cons, List.nodup_cons] at hnodup
    obtain ⟨hneeds, hmob, hback, hphase, hret⟩ := hl p List.mem_cons_self
    have hone := h.moveNotifyOne (u := p.2) hneeds hmob hback hphase
    have ho := moveNotifyOne_only s b p.1 p.2
    rw [List.foldl_cons, List.foldl_cons, if_pos hret, ← hF]
    refine ih hone hnodup.2 (fun q hq => ?_) fun r' => ?_
    · have hne : q.1 ≠ p.1 := fun heq => hnodup.1 (heq ▸ List.mem_map_of_mem hq)
      rw [ho.res q.1 hne]
      exact hl q (List.mem_cons_of_mem p hq)
    · by_cases hne : r' = p.1
      · rw [hne, moveNotifyOne_self (hasUnbind_of_needsBackup hneeds)]
        exact hF p.1
      · rw [ho.res r' hne]
        exact hF r'

theorem resList_nodup (h : CopyInv s c left) (hinv : Inv s) (b : BufId) : (s.resList b).Nodup := by
  refine List.nodup_iff_count.mpr fun r => ?_
  by_cases hr : r ∈ s.resList b
  · rw [(hinv.good r (h.listed b r hr)).listed]
    split <;> omega
  · rw [List.count_eq_zero.mpr hr]
    exact Nat.zero_le 1

/-- `vmw_resource_move_notify`, for a buffer that no submission holds. -/
theorem moveNotify (h : CopyInv s c left) (hinv : Inv s) (hheld : s.held b = false) (toMob : Bool)
    {us : List Unbind} (hlen : us.length = (s.resList b).length) (hus : ∀ u ∈ us, u.ret = 0) :
    CopyInv (vmwResourceMoveNotify s b toMob us) (moveNotifyCopies s b toMob us c) left := by
  unfold vmwResourceMoveNotify moveNotifyCopies
  split
  · exact h
  · refine h.moveNotify_loop ?_ (fun p hp => ?_) fun _ => rfl
    · rw [List.map_fst_zip (Nat.le_of_eq hlen.symm)]
      exact h.resList_nodup hinv b
    · obtain ⟨hr, hu⟩ := List.of_mem_zip hp
      obtain ⟨hknown, hlisted⟩ := hinv.listed hr
      have hneeds := h.listed b p.1 hr
      obtain ⟨hmob, hback⟩ := hlisted hneeds
      exact ⟨hneeds, hmob, hback, not_held hheld hknown hback, hus p.2 hu⟩

/-- The buffers that make room. A resource on none of them stays as it is. -/
theorem moveOut {moves : List (BufId × List Unbind)} (h : CopyInv s c left) (hinv : Inv s)
    (hmoves : ∀ m ∈ moves, ∀ u ∈ m.2, u.ret = 0) (hout : Resource.moveOut s b moves = some s') :
    CopyInv s' (moveOutCopies s moves c) left ∧
      ∀ r, (s.res r).func = .legacySurface → s'.res r = s.res r := by
  induction moves generalizing s c with
  | nil =>
    cases hout
    exact ⟨h, fun _ _ => rfl⟩
  | cons m moves ih =>
    obtain ⟨b', us⟩ := m
    unfold Resource.moveOut at hout
    split at hout
    · cases hout
    · rename_i hcond
      simp only [not_or, Bool.not_eq_true] at hcond
      obtain ⟨-, hheld, hlen⟩ := hcond
      obtain ⟨hinv₁, hsteady, hres, -⟩ := vmwResourceMoveNotify_spec hinv hheld false us
      have h₁ := h.moveNotify hinv hheld false (not_not.mp hlen) (hmoves _ List.mem_cons_self)
      obtain ⟨h₂, hsame⟩ := ih h₁ hinv₁ (fun m hm => hmoves m (List.mem_cons_of_mem _ hm)) hout
      refine ⟨h₂, fun r hf => ?_⟩
      rw [hsame r ((hsteady.res r).func.trans hf), hres r (h.unlisted hf b')]

end Move

section Evict

variable {v : ResId} {ret : Int}

theorem bufAlloc_only {alloc : Option BufId} (hbuf : vmwResourceBufAlloc s r alloc = some (ret, s')) : Only r s s' := by
  unfold vmwResourceBufAlloc at hbuf
  split at hbuf
  · split at hbuf
    · cases hbuf
    · cases hbuf
      exact .refl r s
  · split at hbuf
    · cases hbuf
      exact .refl r s
    · rename_i b
      split at hbuf
      · cases hbuf
      · cases hbuf
        have hinit : Only r s (s.bufInit b (s.res r).backupSize) := ⟨fun _ _ => rfl, fun _ _ => id, rfl⟩
        exact hinit.trans (Only.setBackup _ r b)

/-- A new buffer comes where there was none, with which nothing was stored. -/
theorem bufAlloc {alloc : Option BufId} (h : CopyInv s c left) (hinv : Inv s) (hr : r ∈ s.resources)
    (hnone : (s.res r).backup = none) (hbuf : vmwResourceBufAlloc s r alloc = some (ret, s')) :
    CopyInv s' (bufAllocCopies s r alloc c) left ∧ (ret = 0 → (s'.res r).backup.isSome = true) ∧
      ((s.res r).func.isSurface = true → (s.res r).phase ≠ .released →
        (s'.res r).resDirty = true ∨ left r = none) := by
  have hstored : (s.res r).func.isSurface = true → (s.res r).phase ≠ .released →
      (s.res r).resDirty = true ∨ left r = none := by
    intro hsurface hlive
    cases hd : (s.res r).resDirty with
    | true => exact .inl rfl
    | false =>
      refine .inr (((h.current r hsurface hlive).stored hd).resolve_right fun hs => ?_)
      rw [hnone] at hs
      cases hs.1
  rcases vmwResourceBufAlloc_spec hinv hr hnone hbuf with ⟨hret, rfl⟩ | ⟨hret, b, -, rfl, -⟩
  · have hsame : bufAllocCopies s' r alloc c = c := by
      cases alloc with
      | none => exact if_neg fun hc => Bool.noConfusion hc.2
      | some b =>
        unfold vmwResourceBufAlloc at hbuf
        rw [hnone] at hbuf
        dsimp only at hbuf
        split at hbuf
        · cases hbuf
        · injection hbuf with hbuf
          injection hbuf with hzero
          exact absurd hzero.symm hret
    rw [hsame]
    exact ⟨h, fun h0 => absurd h0 hret, hstored⟩
  · have hself : (((s.bufInit b (s.res r).backupSize).setBackup r b).res r) = { s.res r with backup := some b } := by
      have hset := modify_res (s.bufInit b (s.res r).backupSize) r r fun res => { res with backup := some b }
      rw [if_pos rfl] at hset
      exact hset
    refine ⟨?_, fun _ => by rw [hself]; rfl, fun hsurface hlive => by rw [hself]; exact hstored hsurface hlive⟩
    refine h.only (bufAlloc_only hbuf) (by rw [hself]) (fun r' hne => ?_) fun hsurface hlive => ?_
    · unfold bufAllocCopies
      split
      · exact ⟨rfl, Function.update_of_ne hne ..⟩
      · exact ⟨rfl, rfl⟩
    · rw [hself] at hlive ⊢
      have hcur := h.current r hsurface hlive
      have hdevice : (bufAllocCopies s r alloc c).device r = c.device r := by
        unfold bufAllocCopies
        split <;> rfl
      refine ⟨hcur.validated, hcur.onDevice, hcur.bound, hcur.unbound, hdevice ▸ hcur.current, fun hd => .inl ?_⟩
      exact (hstored hsurface hlive).resolve_left fun h0 => by
        change (s.res r).resDirty = false at hd
        rw [hd] at h0
        cases h0

theorem dropBackup_self (s : State) (r : ResId) : (s.dropBackup r).res r = { s.res r with backup := none } := by
  unfold State.dropBackup
  split
  · rename_i hnone
    rw [← hnone]
  · have hset := modify_res s r r fun res => { res with backup := none }
    rw [if_pos rfl] at hset
    exact hset

/-- A legacy surface loses its buffer; what is on the device is current, or nothing is. -/
theorem drop (h : CopyInv s c left) (hlegacy : (s.res r).func.isSurface = true → (s.res r).func = .legacySurface)
    (hleft : (s.res r).func = .legacySurface → (s.res r).phase ≠ .released → (s.res r).resDirty = false → left r = none) :
    CopyInv ((s.bufPut b).dropBackup r) c left := by
  have hself : ((s.bufPut b).dropBackup r).res r = { s.res r with backup := none } := dropBackup_self (s.bufPut b) r
  have ho : Only r s ((s.bufPut b).dropBackup r) := by
    have hput : Only r s (s.bufPut b) := ⟨fun _ _ => rfl, fun _ _ => id, rfl⟩
    exact hput.trans (Only.dropBackup _ r)
  refine h.only ho (by rw [hself]) (fun _ _ => ⟨rfl, rfl⟩) fun hsurface hlive => ?_
  rw [hself] at hlive ⊢
  have hcur := h.current r hsurface hlive
  exact ⟨hcur.validated, hcur.onDevice, hcur.bound, hcur.unbound, hcur.current,
    fun hd => .inl (hleft (hlegacy hsurface) hlive hd)⟩

/-- The part of `vmw_resource_check_buffer` after the allocation. -/
theorem checkReserved {o : CheckBuffer} (h : CopyInv s c left) (hinv : Inv s)
    (hback : (s.res r).backup = some b) (hmoves : ∀ m ∈ o.moves, ∀ u ∈ m.2, u.ret = 0)
    (hdrop : (s.res r).func = .legacySurface → (s.res r).phase ≠ .released → (s.res r).resDirty = false →
      (s.res r).backupDirty = true → o.reserve = 0 → o.validate ≠ 0 → left r = none)
    (hrest : (if o.reserve ≠ 0 then some (o.reserve, checkBufferFail (s.bufGet b) r b false)
      else if (s.res r).func.needsBackup ∧ (s.res r).mobHead.isNone then
        some (0, s.bufGet b)
      else (Resource.moveOut (s.bufGet b) b o.moves).map fun t =>
        if o.validate ≠ 0 then (o.validate, checkBufferFail t r b (s.res r).backupDirty)
        else (0, t)) = some (ret, s')) :
    CopyInv s' (if o.reserve ≠ 0 ∨ (s.res r).func.needsBackup ∧ (s.res r).mobHead.isNone then c
      else moveOutCopies (s.bufGet b) o.moves c) left := by
  have hbuf : b ∈ s.buffers := by
    by_contra hb
    exact (hinv.buffers b hb).2 r hback
  have hget : CopyInv (s.bufGet b) c left := h.congr rfl rfl rfl
  by_cases hreserve : o.reserve ≠ 0
  · rw [if_pos hreserve] at hrest
    rw [if_pos (.inl hreserve)]
    cases hrest
    exact hget.congr rfl rfl rfl
  · rw [if_neg hreserve] at hrest
    by_cases hunbound : (s.res r).func.needsBackup ∧ (s.res r).mobHead.isNone
    · rw [if_pos hunbound] at hrest
      rw [if_pos (.inr hunbound)]
      cases hrest
      exact hget
    · rw [if_neg hunbound] at hrest
      rw [if_neg (not_or.mpr ⟨hreserve, hunbound⟩)]
      obtain ⟨t, hmove, heq⟩ := Option.map_eq_some_iff.mp hrest
      obtain ⟨hmoved, hsame⟩ := hget.moveOut (hinv.bufGet hbuf) hmoves hmove
      have hsteady := (moveOut_spec (hinv.bufGet hbuf) hmove).2.1
      have hfunc : (t.res r).func = (s.res r).func := (hsteady.res r).func
      split at heq
      · rename_i hfail
        cases heq
        unfold checkBufferFail
        split
        · rename_i hdirty
          have hdirty : (s.res r).backupDirty = true := hdirty
          have hlegacy : (t.res r).func.isSurface = true → (t.res r).func = .legacySurface := by
            intro hsurface
            cases hf : (t.res r).func with
            | legacySurface => rfl
            | gbSurface =>
              have hneeds : (s.res r).func.needsBackup = true := by rw [← hfunc, hf]; rfl
              have hclean := (hinv.good r hneeds).linked_clean fun hmob =>
                hunbound ⟨hneeds, by rw [hmob]; rfl⟩
              rw [hclean] at hdirty
              cases hdirty
            | _ => rw [hf] at hsurface; cases hsurface
          refine hmoved.drop hlegacy fun hf hlive hclean => ?_
          have hres : t.res r = s.res r := hsame r (hfunc ▸ hf)
          rw [hres] at hf hlive hclean
          exact hdrop hf hlive hclean hdirty (not_not.mp hreserve) hfail
        · exact hmoved.congr rfl rfl rfl
      · cases heq
        exact hmoved

theorem checkBuffer {o : CheckBuffer} (h : CopyInv s c left) (hinv : Inv s) (hr : r ∈ s.resources)
    (hmoves : ∀ m ∈ o.moves, ∀ u ∈ m.2, u.ret = 0)
    (hkept : (s.res r).func = .legacySurface → (s.res r).resDirty = false → (s.res r).backupDirty = true →
      o.reserve = 0 → o.validate = 0)
    (hcheck : vmwResourceCheckBuffer s r o = some (ret, s')) : CopyInv s' (checkBufferCopies s r o c) left := by
  unfold vmwResourceCheckBuffer at hcheck
  unfold checkBufferCopies
  cases hback : (s.res r).backup with
  | none =>
    rw [hback] at hcheck
    simp only [Option.isNone_none, if_true] at hcheck ⊢
    obtain ⟨⟨ret₁, s₁⟩, halloc, hrest⟩ := Option.bind_eq_some_iff.mp hcheck
    obtain ⟨h₁, hsome, hstored⟩ := h.bufAlloc hinv hr hback halloc
    have hspec := vmwResourceBufAlloc_spec hinv hr hback halloc
    rw [halloc]
    simp only at hrest ⊢
    by_cases hret : ret₁ = 0
    · rw [if_neg (not_not.mpr hret)] at hrest ⊢
      obtain ⟨b, hb⟩ := Option.isSome_iff_exists.mp (hsome hret)
      have hinv₁ : Inv s₁ := by
        rcases hspec with hbad | ⟨-, _, -, -, hinv₁⟩
        · exact absurd hret hbad.1
        · exact hinv₁
      rw [hb] at hrest ⊢
      simp only at hrest ⊢
      refine h₁.checkReserved hinv₁ hb hmoves (fun hf hlive hclean _ _ _ => ?_) hrest
      have ho := bufAlloc_only halloc
      have hfuncs : (s₁.res r).func = (s.res r).func ∧ (s₁.res r).phase = (s.res r).phase := by
        rcases hspec with hbad | ⟨-, b', -, rfl, -⟩
        · exact absurd hret hbad.1
        · have hplaced := (bufInit_placed s b' (s.res r).backupSize).trans (setBackup_placed _ r b')
          exact ⟨hplaced.func r, hplaced.phase r⟩
      rw [hfuncs.1] at hf
      rw [hfuncs.2] at hlive
      refine (hstored (by rw [hf]; rfl) hlive).resolve_left fun hd => ?_
      rw [hclean] at hd
      cases hd
    · rw [if_pos hret] at hrest ⊢
      cases hrest
      exact h₁
  | some b =>
    have hsame : bufAllocCopies s r o.alloc c = c := if_neg (by rw [hback]; exact fun hc => Bool.noConfusion hc.1)
    rw [hback] at hcheck
    simp only [Option.isNone_some, Bool.false_eq_true, if_false, Option.bind_some, ne_eq, not_true_eq_false,
      hback] at hcheck ⊢
    rw [hsame]
    exact h.checkReserved hinv hback hmoves
      (fun hf _ hclean hdirty hreserve hfail => absurd (hkept hf hclean hdirty hreserve) hfail) hcheck

/-- The end of an eviction: what was on the device is in the buffer. -/
theorem evictDone {t : State} {destroy : Int} (h : CopyInv s c left) (ho : Only r s t)
    (hres : t.res r = { s.res r with mobHead := none }) (hback : (s.res r).backup = some b)
    (hphase : (s.res r).phase ≠ .validated)
    (hcopies : ∀ r', r' ≠ r → c'.device r' = c.device r' ∧ c'.backup r' = c.backup r')
    (hstored : (s.res r).func.isSurface = true → (s.res r).phase ≠ .released → left r = none ∨ c'.backup r = left r) :
    CopyInv (((funcDestroy t r destroy).modify r
        (fun res => { res with backupDirty := true, resDirty := false })).bufPut b)
      (if destroy = 0 then c'.execAll r (s.res r).func.destroyCmds else c') left := by
  have hdestroyed : ∃ onDevice, (funcDestroy t r destroy).res r = { s.res r with mobHead := none, onDevice } := by
    unfold funcDestroy
    split
    · exact ⟨false, by rw [modify_res, if_pos rfl, hres]⟩
    · exact ⟨(s.res r).onDevice, hres⟩
  obtain ⟨onDevice, hdestroyed⟩ := hdestroyed
  have hself : (((funcDestroy t r destroy).modify r
      (fun res => { res with backupDirty := true, resDirty := false })).bufPut b).res r =
      { s.res r with mobHead := none, onDevice, backupDirty := true, resDirty := false } := by
    rw [bufPut_res, modify_res, if_pos rfl, hdestroyed]
  have hlast : Only r s (((funcDestroy t r destroy).modify r
      (fun res => { res with backupDirty := true, resDirty := false })).bufPut b) := by
    have hmark := (Only.funcDestroy t r destroy).trans
      (Only.modify _ r (fun res => { res with backupDirty := true, resDirty := false }))
    exact ho.trans ⟨hmark.res, hmark.list, hmark.resources⟩
  have hbackup : (if destroy = 0 then c'.execAll r (s.res r).func.destroyCmds else c').backup r = c'.backup r := by
    split
    · exact destroy_copies _
    · rfl
  refine h.only hlast (by rw [hself]) (fun r' hne => ?_) fun hsurface hlive => ?_
  · split
    · obtain ⟨hd, hb⟩ := execAll_other (c := c') hne (s.res r).func.destroyCmds
      exact ⟨hd.trans (hcopies r' hne).1, hb.trans (hcopies r' hne).2⟩
    · exact hcopies r' hne
  · rw [hself] at hlive ⊢
    rw [hbackup]
    constructor
    case validated => exact fun hv => absurd hv hphase
    case onDevice => exact fun hd => Bool.noConfusion hd
    case bound => exact fun _ => ⟨fun hs => Bool.noConfusion hs, fun hd => Bool.noConfusion hd⟩
    case unbound => exact fun _ => rfl
    case current => exact fun hd => Bool.noConfusion hd
    case stored =>
      exact fun _ => (hstored hsurface hlive).imp_right fun hs => ⟨by dsimp only; rw [hback]; rfl, rfl, hs⟩

/-- What the unbind of an eviction leaves in the buffer. -/
theorem unbind_stored {res : VmwResource} {v : Option α} (hcur : Current res (c.device r) (c.backup r) v)
    (hsurface : res.func.isSurface = true) (hbound : ¬ res.func.needsBackup ∨ res.mobHead.isSome) :
    v = none ∨ (c.execAll r (res.func.unbindCmds res.resDirty)).backup r = v := by
  cases hd : res.resDirty with
  | true =>
    refine (hcur.current hd).imp_right fun hcurrent => ?_
    exact (readback_copies _ hsurface).1.trans hcurrent
  | false =>
    cases hf : res.func with
    | gbSurface =>
      have hmob := hbound.resolve_left (by rw [hf]; exact fun hn => hn rfl)
      rw [(hcur.bound hf).mp hmob] at hd
      cases hd
    | legacySurface => exact (hcur.stored hd).imp_right fun hs => hs.2.2
    | _ => rw [hf] at hsurface; cases hsurface

theorem doEvict {o : Evict} (h : CopyInv s c left) (hinv : Inv s) (hr : r ∈ s.resources)
    (hphase : (s.res r).phase ≠ .validated) (hmoves : ∀ m ∈ o.check.moves, ∀ u ∈ m.2, u.ret = 0)
    (hkept : (s.res r).func = .legacySurface → (s.res r).resDirty = false → (s.res r).backupDirty = true →
      o.check.reserve = 0 → o.check.validate = 0)
    (hevict : vmwResourceDoEvict s r o = some (ret, s')) : CopyInv s' (doEvictCopies s r o c) left := by
  unfold vmwResourceDoEvict at hevict
  split at hevict
  · cases hevict
  rename_i hmay
  obtain ⟨⟨ret₁, s₁⟩, hcheck, hrest⟩ := Option.bind_eq_some_iff.mp hevict
  have h₁ := h.checkBuffer hinv hr hmoves hkept hcheck
  have hc := vmwResourceCheckBuffer_spec hinv hr hcheck
  have hphase₁ : (s₁.res r).phase ≠ .validated := (hc.placed.phase r).trans_ne hphase
  unfold doEvictCopies
  rw [hcheck]
  simp only at hrest ⊢
  by_cases hret : ret₁ = 0
  · rw [if_neg (not_not.mpr hret)] at hrest ⊢
    obtain ⟨b, hback, -⟩ := hc.ready hret
    rw [hback] at hrest
    simp only at hrest
    split at hrest
    · rename_i hbound
      rw [if_pos hbound]
      split at hrest
      · rename_i hfail
        rw [if_pos hfail]
        cases hrest
        exact h₁.congr rfl rfl rfl
      · rename_i hok
        rw [if_neg hok]
        cases hrest
        have hunbind := Only.funcUnbind r s₁ b (s₁.res r).resDirty o.unbind
        have hres : (funcUnbind s₁ b (s₁.res r).resDirty o.unbind).res = s₁.res := by
          unfold funcUnbind
          split <;> rfl
        refine h₁.evictDone (hunbind.trans (Only.listDelMob _ r)) ?_ hback hphase₁
          (fun r' hne => execAll_other hne _) fun hsurface hlive => ?_
        · rw [listDelMob_res, modify_res, if_pos rfl, hres]
        · exact unbind_stored (h₁.current r hsurface hlive) hsurface hbound.2
    · rename_i hbound
      rw [if_neg hbound]
      cases hrest
      have hunbind : (s₁.res r).func.hasUnbind = true := by
        rw [hc.placed.func r]
        exact hasUnbind_of_mayEvict (not_not.mp hmay)
      have hneeds : (s₁.res r).func.needsBackup = true := by
        by_contra hno
        exact hbound ⟨hunbind, .inl hno⟩
      have hmob : (s₁.res r).mobHead = none := by
        by_contra hsome
        exact hbound ⟨hunbind, .inr (Option.isSome_iff_ne_none.mpr hsome)⟩
      refine h₁.evictDone (.refl r s₁) (by rw [← hmob]) hback hphase₁ (fun _ _ => ⟨rfl, rfl⟩)
        fun hsurface hlive => ?_
      have hgb : (s₁.res r).func = .gbSurface := by
        revert hneeds hsurface
        cases (s₁.res r).func <;> decide
      have hcur := h₁.current r hsurface hlive
      have hclean : (s₁.res r).resDirty = false := by
        by_contra hd
        have hlinked := (hcur.bound hgb).mpr (by simpa using hd)
        rw [hmob] at hlinked
        cases hlinked
      exact (hcur.stored hclean).imp_right fun hs => hs.2.2
  · rw [if_pos hret] at hrest ⊢
    cases hrest
    exact h₁

/-- A resource that is gone is of no interest any more. -/
theorem release (h : CopyInv s c left) (u : Unbind) :
    CopyInv (vmwResourceRelease s r u) (releaseCopies s r u c) left := by
  have hdrop : ∀ t : State, Only r t
      (((t.modify r (fun res => { res with backupDirty := false })).listDelMob r).dropBackup r) := fun t =>
    (Only.modify t r _).trans ((Only.listDelMob _ r).trans (Only.dropBackup _ r))
  have hdel : Only r s (s.lruDel r) := ⟨fun _ _ => rfl, fun _ _ => id, rfl⟩
  have hlast : ∀ t : State, Only r t (t.modify r (fun res => { res with phase := .released })) := fun t =>
    Only.modify t r _
  have ho : Only r s (vmwResourceRelease s r u) := by
    unfold vmwResourceRelease
    refine hdel.trans (Only.trans ?_ (hlast _))
    dsimp only
    split
    · exact .refl r _
    · split
      · exact (Only.funcUnbind r _ _ false u).trans (hdrop _)
      · exact hdrop _
  have hphase : ((vmwResourceRelease s r u).res r).phase = .released := by
    unfold vmwResourceRelease
    rw [modify_res, if_pos rfl]
  refine h.only ho ((Beside.vmwResourceRelease s r u).func r) (fun r' hne => ?_) fun _ hlive => absurd hphase hlive
  unfold releaseCopies
  dsimp only
  obtain ⟨hd, hb⟩ := execAll_other (c := if (s.res r).backup.isSome ∧ (s.res r).mobHead.isSome ∧
    (s.res r).func.hasUnbind ∧ u.ret = 0 then c.execAll r ((s.res r).func.unbindCmds false) else c) hne
    (s.res r).func.destroyCmds
  rw [hd, hb]
  split
  · exact execAll_other hne _
  · exact ⟨rfl, rfl⟩

theorem evictOne {type : ResType} {o : Attempt} (h : CopyInv s c left) (hinv : Inv s)
    (hmoves : ∀ m ∈ o.evict.check.moves, ∀ u ∈ m.2, u.ret = 0)
    (hkept : ∀ v ∈ (s.lru type).head?, (s.res v).func = .legacySurface → (s.res v).resDirty = false →
      (s.res v).backupDirty = true → o.evict.check.reserve = 0 → o.evict.check.validate = 0)
    (hevict : Resource.evictOne s type o = some (ret, s')) : CopyInv s' (evictOneCopies s type o c) left := by
  obtain ⟨v, t, hv⟩ := evictOne_cases hinv hevict
  obtain ⟨rest, hlru⟩ := hv.head
  have hdel : CopyInv (s.lruDel v) c left := h.congr rfl rfl rfl
  have hdone := hdel.doEvict (hinv.lruDel v) hv.known (by show (s.res v).phase ≠ _; rw [hv.idle]; decide) hmoves
    (hkept v (by rw [hlru]; rfl)) hv.evict
  have hback : CopyInv (if ret = 0 then t else t.lruAdd v) (doEvictCopies (s.lruDel v) v o.evict c) left := by
    split
    · exact hdone
    · exact hdone.congr rfl rfl rfl
  have hsame : (if ret = 0 then t else t.lruAdd v).res = t.res := by split <;> rfl
  unfold evictOneCopies
  rw [hlru, hv.after]
  simp only [hv.evict]
  unfold putVictim
  split
  · have hrelease := hback.release (r := v) o.release
    have hcopies : releaseCopies (if ret = 0 then t else t.lruAdd v) v o.release
        (doEvictCopies (s.lruDel v) v o.evict c) = releaseCopies t v o.release (doEvictCopies (s.lruDel v) v o.evict c) := by
      unfold releaseCopies
      rw [hsame]
    rwa [hcopies] at hrelease
  · exact hback

end Evict

section Validate

variable {ret : Int}

/-- A surface that is bound anew is not current on the device. -/
theorem clean_of_bind {o : Attempt} (h : CopyInv s c left) (hkept : LegacyKept s (.validate r o))
    (hsurface : (s.res r).func.isSurface = true) (hlive : (s.res r).phase ≠ .released)
    (hback : (s.res r).backup.isSome = true) (hfree : ¬ (s.res r).func.needsBackup ∨ (s.res r).mobHead.isNone) :
    (s.res r).resDirty = false ∨ (s.res r).func = .legacySurface ∧ (s.res r).backupDirty = false := by
  have hcur := h.current r hsurface hlive
  cases hd : (s.res r).resDirty with
  | false => exact .inl rfl
  | true =>
    cases hf : (s.res r).func with
    | gbSurface =>
      have hmob := (hcur.bound hf).mpr hd
      have hnone := hfree.resolve_left (by rw [hf]; exact fun hn => hn rfl)
      rw [Option.isNone_iff_eq_none.mp hnone] at hmob
      cases hmob
    | legacySurface =>
      refine .inr ⟨rfl, ?_⟩
      by_contra hdirty
      have hnone := hkept hf (hcur.onDevice hd) hd (by simpa using hdirty)
      rw [hnone] at hback
      cases hback
    | _ => rw [hf] at hsurface; cases hsurface

/-- The bind copies the buffer to the device when the buffer is current. -/
theorem bind_current {res : VmwResource} {v : Option α} {c₁ : Copies α}
    (hcur : Current res (c.device r) (c.backup r) v) (hsurface : res.func.isSurface = true)
    (hbackup : c₁.backup r = c.backup r) (hdevice : res.onDevice = true → c₁.device r = c.device r)
    (hclean : res.resDirty = false ∨ res.func = .legacySurface ∧ res.backupDirty = false) :
    v = none ∨ (c₁.execAll r (res.func.bindCmds res.backupDirty)).device r = v := by
  cases hd : res.resDirty with
  | true =>
    obtain ⟨hf, hdirty⟩ := hclean.resolve_left (by rw [hd]; exact Bool.noConfusion)
    refine (hcur.current hd).imp_right fun hcurrent => ?_
    rw [hf, hdirty]
    exact (hdevice (hcur.onDevice hd)).trans hcurrent
  | false =>
    refine (hcur.stored hd).imp_right fun hs => ?_
    rw [hs.2.1]
    have hcopied : (c₁.execAll r (res.func.bindCmds true)).device r = c₁.backup r := by
      cases hf : res.func with
      | gbSurface => exact setDevice_self _
      | legacySurface => exact setDevice_self _
      | _ => rw [hf] at hsurface; cases hsurface
    rw [hcopied, hbackup]
    exact hs.2.2

theorem doValidate {o : Attempt} (h : CopyInv s c left) (hlive : (s.res r).phase = .reserved)
    (hbuffer : (s.res r).func.needsBackup = true → (s.res r).backup.isSome = true)
    (hkept : LegacyKept s (.validate r o)) (hbind : LegacyBind s (.validate r o))
    (hdo : vmwResourceDoValidate s r o = (ret, s')) :
    CopyInv s' (doValidateCopies s r o c) left ∧ (ret = 0 → (s'.res r).resDirty = true) := by
  have hphase : (s.res r).phase ≠ .validated ∧ (s.res r).phase ≠ .released := by rw [hlive]; decide
  unfold vmwResourceDoValidate at hdo
  unfold doValidateCopies
  dsimp only
  split at hdo
  · rename_i hfail
    rw [if_pos hfail]
    cases hdo
    exact ⟨h, fun h0 => absurd h0 hfail.2⟩
  rename_i hcreate
  rw [if_neg hcreate]
  -- the surface is defined first
  obtain ⟨t, ht, hot, hself⟩ : ∃ t, (if (s.res r).onDevice then s else s.modify r (fun res => { res with onDevice := true }))
      = t ∧ Only r s t ∧ t.res r = { s.res r with onDevice := true } := by
    split
    · rename_i hon
      exact ⟨s, rfl, .refl r s, by rw [← hon]⟩
    · exact ⟨_, rfl, Only.modify s r _, by rw [modify_res, if_pos rfl]⟩
  rw [ht] at hdo
  obtain ⟨c₁, hc₁, hother, hbackup, hdevice⟩ : ∃ c₁, (if (s.res r).onDevice then c else
      c.execAll r (s.res r).func.createCmds) = c₁ ∧
      (∀ r', r' ≠ r → c₁.device r' = c.device r' ∧ c₁.backup r' = c.backup r') ∧ c₁.backup r = c.backup r ∧
      ((s.res r).onDevice = true → c₁.device r = c.device r) := by
    split
    · exact ⟨c, rfl, fun _ _ => ⟨rfl, rfl⟩, rfl, fun _ => rfl⟩
    · rename_i hoff
      exact ⟨_, rfl, fun r' hne => execAll_other hne _, create_copies _, fun hon => absurd hon hoff⟩
  rw [hc₁]
  simp only [hself] at hdo
  split at hdo
  · rename_i hcond
    rw [if_pos hcond]
    have hclean := fun hsurface => h.clean_of_bind hkept hsurface hphase.2 hcond.2.1 hcond.2.2
    split at hdo
    · rename_i hfail
      rw [if_pos hfail]
      cases hdo
      refine ⟨?_, fun h0 => absurd h0 hfail⟩
      obtain ⟨onDevice, hdestroyed⟩ : ∃ onDevice, (funcDestroy t r o.destroy).res r = { s.res r with onDevice } := by
        unfold funcDestroy
        split
        · exact ⟨false, by rw [modify_res, if_pos rfl, hself]⟩
        · exact ⟨true, hself⟩
      refine h.only (hot.trans (Only.funcDestroy t r _)) (by rw [hdestroyed]) (fun r' hne => ?_) fun hsurface _ => ?_
      · split
        · obtain ⟨hd, hb⟩ := execAll_other (c := c₁) hne (s.res r).func.destroyCmds
          exact ⟨hd.trans (hother r' hne).1, hb.trans (hother r' hne).2⟩
        · exact hother r' hne
      · have hcur := h.current r hsurface hphase.2
        have hd : (s.res r).resDirty = false :=
          (hclean hsurface).resolve_right fun hl => hfail (hbind hl.1 hl.2)
        have hkeeps : (if o.destroy = 0 then c₁.execAll r (s.res r).func.destroyCmds else c₁).backup r = c.backup r := by
          split
          · exact (destroy_copies _).trans hbackup
          · exact hbackup
        rw [hdestroyed, hkeeps]
        refine ⟨fun hv => absurd hv hphase.1, fun h0 => ?_, hcur.bound, hcur.unbound, fun h0 => ?_, hcur.stored⟩ <;>
        · change (s.res r).resDirty = true at h0
          rw [hd] at h0
          cases h0
    · rename_i hok
      rw [if_neg hok]
      have hcurrent := fun hsurface =>
        bind_current (h.current r hsurface hphase.2) hsurface hbackup hdevice (hclean hsurface)
      have hcopies : ∀ r', r' ≠ r → (c₁.execAll r ((s.res r).func.bindCmds (s.res r).backupDirty)).device r' = c.device r' ∧
          (c₁.execAll r ((s.res r).func.bindCmds (s.res r).backupDirty)).backup r' = c.backup r' := by
        intro r' hne
        obtain ⟨hd, hb⟩ := execAll_other (c := c₁) hne ((s.res r).func.bindCmds (s.res r).backupDirty)
        exact ⟨hd.trans (hother r' hne).1, hb.trans (hother r' hne).2⟩
      obtain ⟨b, hback⟩ := Option.isSome_iff_exists.mp hcond.2.1
      cases hneeds : (s.res r).func.needsBackup with
      | true =>
        have hclears : (s.res r).func.bindClearsDirty = true := hneeds
        have hself' : (t.modify r (fun res => { res with backupDirty := false })).res r =
            { s.res r with onDevice := true, backupDirty := false } := by rw [modify_res, if_pos rfl, hself]
        simp only [hclears, if_true, hself', hback, hneeds] at hdo
        cases hdo
        have hlast : ((((t.modify r (fun res => { res with backupDirty := false })).listAddMob r b).modify r
            (fun res => { res with resDirty := true })).res r) =
            { s.res r with onDevice := true, backupDirty := false, mobHead := some b, resDirty := true } := by
          rw [modify_res, if_pos rfl, show ((t.modify r (fun res => { res with backupDirty := false })).listAddMob r b).res =
            ((t.modify r (fun res => { res with backupDirty := false })).modify r
              (fun res => { res with mobHead := some b })).res from rfl, modify_res, if_pos rfl, hself']
        have hmark : Only r s (t.modify r (fun res => { res with backupDirty := false })) := hot.trans (Only.modify t r _)
        refine ⟨h.touch (fun r' hne => ?_) (fun b' r' hr' => ?_) hmark.resources (by rw [hlast]) hcopies
          fun hsurface _ => ?_, fun _ => by rw [hlast]⟩
        · rw [modify_res, if_neg hne, show ((t.modify r (fun res => { res with backupDirty := false })).listAddMob r b).res =
            ((t.modify r (fun res => { res with backupDirty := false })).modify r
              (fun res => { res with mobHead := some b })).res from rfl, modify_res, if_neg hne]
          exact hmark.res r' hne
        · change r' ∈ Function.update t.resList b (t.resList b ++ [r]) b' at hr'
          by_cases hb' : b' = b
          · subst hb'
            rw [Function.update_self, List.mem_append, List.mem_singleton] at hr'
            exact hr'.imp (hmark.list b' r') fun heq => ⟨heq, hneeds⟩
          · rw [Function.update_of_ne hb'] at hr'
            exact .inl (hmark.list b' r' hr')
        · have hcur := h.current r hsurface hphase.2
          rw [hlast]
          refine ⟨fun _ => rfl, fun _ => rfl, fun _ => ⟨fun _ => rfl, fun _ => rfl⟩, fun hf => ?_,
            fun _ => hcurrent hsurface, fun hd => Bool.noConfusion hd⟩
          change (s.res r).func = .legacySurface at hf
          rw [hf] at hneeds
          cases hneeds
      | false =>
        have hclears : (s.res r).func.bindClearsDirty = false := hneeds
        simp only [hclears, Bool.false_eq_true, if_false, hself, hback, hneeds] at hdo
        cases hdo
        have hlast : (t.modify r (fun res => { res with resDirty := true })).res r =
            { s.res r with onDevice := true, resDirty := true } := by rw [modify_res, if_pos rfl, hself]
        refine ⟨h.only (hot.trans (Only.modify t r _)) (by rw [hlast]) hcopies fun hsurface _ => ?_,
          fun _ => by rw [hlast]⟩
        have hcur := h.current r hsurface hphase.2
        rw [hlast]
        refine ⟨fun _ => rfl, fun _ => rfl, fun hf => ?_, hcur.unbound, fun _ => hcurrent hsurface,
          fun hd => Bool.noConfusion hd⟩
        change (s.res r).func = .gbSurface at hf
        rw [hf] at hneeds
        cases hneeds
  · rename_i hcond
    rw [if_neg hcond]
    cases hdo
    refine ⟨?_, fun _ => by rw [modify_res, if_pos rfl]⟩
    refine h.only (hot.trans (Only.modify t r _)) (by rw [modify_res, if_pos rfl, hself]) hother fun hsurface _ => ?_
    have hcur := h.current r hsurface hphase.2
    rw [modify_res, if_pos rfl, hself]
    have hfree : (s.res r).func = .gbSurface → (s.res r).mobHead.isSome = true := by
      intro hf
      by_contra hmob
      refine hcond ⟨by rw [hf]; rfl, hbuffer (by rw [hf]; rfl), .inr ?_⟩
      rwa [Option.isNone_iff_eq_none, ← Option.not_isSome_iff_eq_none]
    refine ⟨fun _ => rfl, fun _ => rfl, fun hf => ⟨fun _ => rfl, fun _ => hfree hf⟩, hcur.unbound, fun _ => ?_,
      fun hd => Bool.noConfusion hd⟩
    cases hd : (s.res r).resDirty with
    | true => exact (hcur.current hd).imp_right (hdevice (hcur.onDevice hd)).trans
    | false =>
      refine .inl ((hcur.stored hd).resolve_right fun hs => ?_)
      cases hf : (s.res r).func with
      | gbSurface =>
        rw [(hcur.bound hf).mp (hfree hf)] at hd
        cases hd
      | legacySurface => exact hcond ⟨by rw [hf]; rfl, hs.1, .inl (by rw [hf]; exact Bool.false_ne_true)⟩
      | _ => rw [hf] at hsurface; cases hsurface

/-- A surface that is validated is current on the device. -/
theorem validated (h : CopyInv s c left) (hlive : (s.res r).phase ≠ .released) (hd : (s.res r).resDirty = true) :
    CopyInv ((validateDone s r).setPhase r .validated) c left := by
  obtain ⟨backup, mobHead, hself, hmob⟩ : ∃ backup mobHead, (validateDone s r).res r = { s.res r with backup, mobHead } ∧
      ((s.res r).func.needsBackup = true → mobHead = (s.res r).mobHead) ∧ (mobHead = none ∨ mobHead = (s.res r).mobHead) := by
    unfold validateDone
    split
    · rename_i hdrop
      refine ⟨none, none, ?_, fun hneeds => absurd hneeds hdrop.1, .inl rfl⟩
      rw [dropBackup_self, listDelMob_res, modify_res, if_pos rfl]
    · exact ⟨_, _, rfl, fun _ => rfl, .inr rfl⟩
  have ho : Only r s (validateDone s r) := by
    unfold validateDone
    split
    · exact (Only.listDelMob s r).trans (Only.dropBackup _ r)
    · exact .refl r s
  have hlast : ((validateDone s r).setPhase r .validated).res r = { s.res r with backup, mobHead, phase := .validated } := by
    unfold State.setPhase
    rw [modify_res, if_pos rfl, hself]
  refine h.only (ho.trans (Only.modify _ r _)) (by rw [hlast]) (fun _ _ => ⟨rfl, rfl⟩) fun hsurface _ => ?_
  have hcur := h.current r hsurface hlive
  rw [hlast]
  refine ⟨fun _ => hd, hcur.onDevice, fun hf => ?_, fun hf => ?_, hcur.current, fun hno => ?_⟩
  · change (s.res r).func = .gbSurface at hf
    have hsame := hmob.1 (by rw [hf]; rfl)
    subst hsame
    exact hcur.bound hf
  · rcases hmob.2 with hnone | hsame
    · exact hnone
    · exact hsame.trans (hcur.unbound hf)
  · change (s.res r).resDirty = false at hno
    rw [hd] at hno
    cases hno

end Validate

section Step

variable {ret : Int}

theorem setPhase (h : CopyInv s c left) (hlive : (s.res r).phase ≠ .released) {p : Phase} (hp : p ≠ .validated) :
    CopyInv (s.setPhase r p) c left := by
  have hself : (s.setPhase r p).res r = { s.res r with phase := p } := by
    unfold State.setPhase
    rw [modify_res, if_pos rfl]
  refine h.only (Only.modify s r _) (by rw [hself]) (fun _ _ => ⟨rfl, rfl⟩) fun hsurface _ => ?_
  have hcur := h.current r hsurface hlive
  rw [hself]
  exact ⟨fun hv => absurd hv hp, hcur.onDevice, hcur.bound, hcur.unbound, hcur.current, hcur.stored⟩

theorem reserve {noBackup : Bool} {alloc : Option BufId} (h : CopyInv s c left) (hinv : Inv s)
    (hidle : (s.res r).phase = .idle) (hreserve : vmwResourceReserve s r noBackup alloc = some (ret, s')) :
    CopyInv (s'.setPhase r .reserved)
      (if (s.res r).func.needsBackup ∧ ¬ noBackup then bufAllocCopies s r alloc c else c) left := by
  have hr := hinv.known (r := r) (by rw [hidle]; decide)
  have hdel : CopyInv (s.lruDel r) c left := h.congr rfl rfl rfl
  unfold vmwResourceReserve at hreserve
  dsimp only at hreserve
  split at hreserve
  · rename_i hcond
    obtain ⟨hneeds, hnone, hbackup⟩ := hcond
    have hnone : ((s.lruDel r).res r).backup = none := Option.isNone_iff_eq_none.mp hnone
    obtain ⟨h₁, -, -⟩ := hdel.bufAlloc (hinv.lruDel r) hr hnone hreserve
    have hphase : (s'.res r).phase = (s.res r).phase := by
      rcases vmwResourceBufAlloc_spec (hinv.lruDel r) hr hnone hreserve with ⟨-, rfl⟩ | ⟨-, b, -, rfl, -⟩
      · rfl
      · exact ((bufInit_placed (s.lruDel r) b _).trans (setBackup_placed _ r b)).phase r
    have hset := h₁.setPhase (r := r) (by rw [hphase, hidle]; decide) (p := .reserved) (by decide)
    rw [if_pos ⟨hneeds, hbackup⟩]
    exact hset
  · rename_i hcond
    cases hreserve
    have hcopies : (if (s.res r).func.needsBackup ∧ ¬ noBackup then bufAllocCopies s r alloc c else c) = c := by
      split
      · rename_i hneeds
        refine if_neg fun hnone => hcond ⟨hneeds.1, hnone.1, hneeds.2⟩
      · rfl
    rw [hcopies]
    exact hdel.setPhase (by show (s.res r).phase ≠ _; rw [hidle]; decide) (by decide)

theorem unreserve (h : CopyInv s c left) (hlive : (s.res r).phase ≠ .released) (off : Nat) :
    CopyInv (vmwResourceUnreserve (s.setPhase r .idle) r none off) c left := by
  have hidle := h.setPhase hlive (p := .idle) (by decide)
  unfold vmwResourceUnreserve
  split
  · exact hidle
  · dsimp only
    split
    · exact hidle
    · exact hidle.congr rfl rfl rfl

/-- A resource that is created stores nothing. -/
theorem create (h : CopyInv s c left) (hinv : Inv s) (hr : r ∉ s.resources)
    (hres : ∀ r', r' ≠ r → s'.res r' = s.res r') (hlist : s'.resList = s.resList)
    (hresources : ∀ r', r' ∈ s.resources → r' ∈ s'.resources)
    (hnew : (s'.res r).phase = .idle ∧ (s'.res r).resDirty = false ∧ (s'.res r).mobHead = none) :
    CopyInv s' c left := by
  obtain ⟨hphase, hdirty, hmob⟩ := hnew
  have hleft := h.unknown r hr
  constructor
  case current =>
    intro r' hsurface hlive
    by_cases hne : r' = r
    · subst hne
      refine ⟨fun hv => ?_, fun hd => ?_, fun _ => ?_, fun _ => hmob, fun _ => .inl hleft, fun _ => .inl hleft⟩
      · rw [hphase] at hv
        cases hv
      · rw [hdirty] at hd
        cases hd
      · rw [hmob, hdirty]
        exact ⟨fun h0 => Bool.noConfusion h0, fun h0 => Bool.noConfusion h0⟩
    · rw [hres r' hne] at hsurface hlive ⊢
      exact h.current r' hsurface hlive
  case listed =>
    rw [hlist]
    intro b r' hr'
    have hne : r' ≠ r := fun heq => hr (heq ▸ (hinv.listed hr').1)
    rw [hres r' hne]
    exact h.listed b r' hr'
  case unknown => exact fun r' hr' => h.unknown r' fun hm => hr' (hresources r' hm)

theorem created (h : CopyInv s c left) (hinv : Inv s) (hnew : Created r s s') : CopyInv s' c left :=
  h.create hinv hnew.fresh hnew.other hnew.list hnew.resources ⟨hnew.idle, hnew.clean, hnew.unlinked⟩

theorem validateStep {o : Attempt} (h : CopyInv s c left) (hinv : Inv s) (hlive : (s.res r).phase = .reserved)
    (hbuffer : (s.res r).func.needsBackup = true → (s.res r).backup.isSome = true)
    (hkept : LegacyKept s (.validate r o)) (hbind : LegacyBind s (.validate r o)) :
    CopyInv (if (vmwResourceDoValidate s r o).1 = 0 then
      (validateDone (vmwResourceDoValidate s r o).2 r).setPhase r .validated else (vmwResourceDoValidate s r o).2)
      (doValidateCopies s r o c) left := by
  have hr := hinv.known (r := r) (by rw [hlive]; decide)
  obtain ⟨h', hdirty⟩ := h.doValidate hlive hbuffer hkept hbind rfl
  split
  · rename_i hok
    refine h'.validated ?_ (hdirty hok)
    have hspec := vmwResourceDoValidate_spec hinv hr (o := o) rfl
    rw [(hspec.2.1.res r).phase, hlive]
    decide
  · exact h'

/-- A step on the resources and their buffers. -/
theorem step {hasMob : Bool} {a : Action} (h : CopyInv s c left) (hinv : Inv s) (hbind : LegacyBind s a)
    (hundisturbed : Undisturbed s a) (hkept : LegacyKept s a) (hs : Resource.step hasMob s a = some s') :
    CopyInv s' (stepCopies s c a) left := by
  cases a with
  | gbSurfaceDefine r desc base mips cubemap backing =>
    simp only [Resource.step] at hs
    split at hs
    · cases hs
    · rename_i hr
      refine h.created hinv (r := r) ?_
      unfold vmwGbSurfaceDefine at hs
      generalize (if hasMob = true then VmwResFunc.gbSurface else VmwResFunc.legacySurface) = func at hs
      have hnew := Created.init hr func (.surface desc base mips cubemap)
      cases backing with
      | none =>
        cases hs
        exact hnew
      | handle b =>
        dsimp only at hs
        split at hs
        · cases hs
        · cases hs
          exact hnew.setBackup b
      | create b => exact hnew.vmwUserDmabufAlloc hs
  | surfaceDefine r desc sizes shared =>
    simp only [Resource.step] at hs
    split at hs
    · cases hs
    · rename_i hr
      refine h.created hinv (r := r) ?_
      unfold vmwSurfaceDefine at hs
      generalize (if hasMob = true then VmwResFunc.gbSurface else VmwResFunc.legacySurface) = func at hs
      have hnew := Created.init hr func (.images desc sizes)
      cases shared with
      | none =>
        cases hs
        exact hnew
      | some b =>
        dsimp only at hs
        split at hs
        · exact hnew.vmwUserDmabufAlloc hs
        · cases hs
  | shaderDefine r size offset handle =>
    simp only [Resource.step] at hs
    split at hs
    · cases hs
    · rename_i hr
      refine h.created hinv (r := r) ?_
      unfold vmwShaderDefine at hs
      have hnew := Created.init hr .gbShader (.shader size)
      cases handle with
      | none =>
        cases hs
        exact hnew
      | some b =>
        dsimp only at hs
        split at hs
        · cases hs
        · cases hs
          exact (hnew.setBackup b).modify rfl rfl rfl
  | compatShaderAdd r size b =>
    simp only [Resource.step] at hs
    split at hs
    · cases hs
    · rename_i hr
      refine h.created hinv (r := r) ?_
      unfold vmwCompatShaderAdd at hs
      split at hs
      · cases hs
      · cases hs
        have hinit : Created r s ((vmwResourceInit s r .gbShader (.shader size)).bufInit b size) :=
          (Created.init hr .gbShader (.shader size)).congr rfl rfl rfl
        exact hinit.setBackup b
  | contextDefine r =>
    simp only [Resource.step] at hs
    split at hs
    · cases hs
    · rename_i hr
      cases hs
      refine h.created hinv (r := r) ?_
      unfold vmwContextDefine
      split <;> exact Created.init hr ..
  | reserve r noBackup alloc =>
    simp only [Resource.step] at hs
    split at hs
    · cases hs
    · rename_i hidle
      obtain ⟨⟨ret, t⟩, hreserve, rfl⟩ := Option.map_eq_some_iff.mp hs
      exact h.reserve hinv (not_not.mp hidle) hreserve
  | validate r o =>
    simp only [Resource.step] at hs
    split at hs
    · cases hs
    rename_i hlive
    have hlive := not_not.mp hlive
    unfold stepCopies
    dsimp only
    split at hs
    · rename_i hmay
      cases hs
      rw [if_neg hmay]
      have hself : (s.setPhase r .validated).res r = { s.res r with phase := .validated } := by
        unfold State.setPhase
        rw [modify_res, if_pos rfl]
      exact h.only (Only.modify s r _) (by rw [hself]) (fun _ _ => ⟨rfl, rfl⟩) fun hsurface _ =>
        absurd (mayEvict_of_isSurface hsurface) hmay
    · rename_i hmay
      cases hs
      rw [if_pos (not_not.mp hmay)]
      exact h.validateStep hinv hlive hundisturbed hkept hbind
  | unreserve r newBackup off =>
    simp only [Resource.step] at hs
    split at hs
    · cases hs
    · rename_i hcond
      cases hs
      have hsame : newBackup = none := hundisturbed
      subst hsame
      exact h.unreserve (fun hp => hcond (.inl hp)) off
  | evict type o =>
    simp only [Resource.step] at hs
    obtain ⟨⟨ret, t⟩, hevict, rfl⟩ := Option.map_eq_some_iff.mp hs
    exact h.evictOne hinv hundisturbed hkept hevict
  | moveNotify b toMob us =>
    simp only [Resource.step] at hs
    split at hs
    · cases hs
    · rename_i hcond
      cases hs
      have hheld : s.held b = false := by
        cases hb : s.held b with
        | false => rfl
        | true => exact absurd (.inl hb) hcond
      exact h.moveNotify hinv hheld toMob (not_not.mp fun hlen => hcond (.inr hlen)) hundisturbed
  | release r u =>
    simp only [Resource.step] at hs
    split at hs
    · cases hs
    · cases hs
      exact h.release u
  | pin r count =>
    simp only [Resource.step] at hs
    split at hs
    · cases hs
    · rename_i hlive
      cases hs
      have hself : (s.modify r fun res => { res with pinCount := count }).res r = { s.res r with pinCount := count } := by
        rw [modify_res, if_pos rfl]
      refine h.only (Only.modify s r _) (by rw [hself]) (fun _ _ => ⟨rfl, rfl⟩) fun hsurface _ => ?_
      have hcur := h.current r hsurface hlive
      rw [hself]
      exact { hcur with }
  | bufCreate b size =>
    simp only [Resource.step] at hs
    split at hs
    · cases hs
    · cases hs
      exact h.congr rfl rfl rfl
  | bufGet b =>
    simp only [Resource.step] at hs
    split at hs
    · cases hs
    · cases hs
      exact h.congr rfl rfl rfl
  | bufPut b =>
    simp only [Resource.step] at hs
    split at hs
    · cases hs
    · cases hs
      exact h.congr rfl rfl rfl

/-- A batch leaves what it wrote on the device. -/
theorem submit (h : CopyInv s c left) (hinv : Inv s) (hphase : (s.res r).phase = .validated) (v : α) :
    CopyInv s (c.setDevice r (some v)) (Function.update left r (some v)) := by
  have hr := hinv.known (r := r) (by rw [hphase]; decide)
  refine ⟨fun r' hsurface hlive => ?_, h.listed, fun r' hr' => ?_⟩
  · have hcur := h.current r' hsurface hlive
    by_cases hne : r' = r
    · subst hne
      rw [setDevice_self, Function.update_self]
      refine { hcur with current := fun _ => .inr rfl, stored := fun hd => ?_ }
      rw [hcur.validated hphase] at hd
      cases hd
    · have hdevice : (c.setDevice r (some v)).device r' = c.device r' := Function.update_of_ne hne ..
      rw [hdevice, Function.update_of_ne hne]
      exact hcur
  · have hne : r' ≠ r := fun heq => hr' (heq ▸ hr)
    rw [Function.update_of_ne hne]
    exact h.unknown r' hr'

theorem init : CopyInv (α := α) State.init ⟨fun _ => none, fun _ => none⟩ fun _ => none where
  current _ _ hlive := absurd rfl hlive
  listed _ _ hr := absurd hr List.not_mem_nil
  unknown _ _ := rfl

end Step

end CopyInv

section Run

variable {hasMob : Bool}

theorem history_step {h h' : History α} {act : HistoryAct α}
    (hok : act.Meets Undisturbed h) (hkept : act.Meets LegacyKept h)
    (hs : History.step hasMob h act = some h') (hinv : Inv h.state) (hc : CopyInv h.state h.copies h.left) :
    Inv h'.state ∧ CopyInv h'.state h'.copies h'.left := by
  cases act with
  | resource a =>
    simp only [History.step] at hs
    split at hs
    · rename_i hbind
      obtain ⟨s, hstep, rfl⟩ := Option.map_eq_some_iff.mp hs
      exact ⟨hinv.step hstep, hc.step hinv hbind hok hkept hstep⟩
    · cases hs
  | submit r v =>
    simp only [History.step] at hs
    split at hs
    · rename_i hphase
      cases hs
      exact ⟨hinv, hc.submit hinv hphase v⟩
    · cases hs

/-- Surfaces are evicted, and their buffers moved, behind the back of the batches. -/
theorem eviction_transparent {acts : List (HistoryAct α)} {h : History α}
    (hrun : Run (History.step hasMob) (fun h act => act.Meets Undisturbed h ∧ act.Meets LegacyKept h) History.init acts h) : h.Transparent := by
  have hall : Inv h.state ∧ CopyInv h.state h.copies h.left :=
    hrun.invariant (I := fun h => Inv h.state ∧ CopyInv h.state h.copies h.left)
      (fun _ _ _ hok hs hI => history_step hok.1 hok.2 hs hI.1 hI.2) ⟨Inv.init, CopyInv.init⟩
  intro r v hsurface hphase hleft
  have hcur := hall.2.current r hsurface (by rw [hphase]; decide)
  have hcurrent := (hcur.current (hcur.validated hphase)).resolve_left (by rw [hleft]; exact Option.some_ne_none v)
  rw [hcurrent, hleft]

end Run

section Example

private def pixels : Svga3dSurfaceDesc := ⟨false, ⟨1, 1, 1⟩, 4, 4, Nat.one_pos, Nat.one_pos, Nat.one_pos⟩

private def attempt' (alloc : Option BufId) (unbind : Int) : Attempt :=
  ⟨0, 0, 0, ⟨⟨alloc, 0, [], 0⟩, ⟨unbind, 0⟩, 0⟩, false, ⟨0, 0⟩⟩

/-- A batch with the surface. -/
private def drawBatch (v : ℕ) : List (HistoryAct ℕ) :=
  [.resource (.reserve 7 false (some 3)), .resource (.validate 7 (attempt' none 0)), .submit 7 v,
    .resource (.unreserve 7 none 0)]

private def surfaceDefined : HistoryAct ℕ := .resource (.gbSurfaceDefine 7 pixels ⟨1, 1, 1⟩ 1 false .none)

private def evicted (alloc : Option BufId) (unbind : Int) : HistoryAct ℕ :=
  .resource (.evict .surface (attempt' alloc unbind))

private def staleHistory : List (HistoryAct ℕ) :=
  surfaceDefined :: drawBatch 5 ++ evicted (some 1) 0 :: drawBatch 6 ++ [evicted (some 2) (-ENOMEM),
    .resource (.reserve 7 false none), .resource (.validate 7 (attempt' none 0))]

/-- An eviction that fails leaves a buffer that holds nothing, and the next batch gets it. -/
theorem eviction_stale : ∃ h : History ℕ,
    Run (History.step false) (fun h act => act.Meets Undisturbed h) History.init staleHistory h ∧ ¬ h.Transparent := by
  have hsees : ((exec (History.step false) (fun h act => decide (act.Meets Undisturbed h)) History.init
      staleHistory).map fun h => ((h.state.res 7).func, (h.state.res 7).phase, h.left 7, h.copies.device 7)) =
      some (.legacySurface, .validated, some 6, none) := by decide +kernel
  obtain ⟨h, hexec, hsees⟩ := Option.map_eq_some_iff.mp hsees
  injection hsees with hfunc hsees
  injection hsees with hphase hsees
  injection hsees with hleft hdevice
  refine ⟨h, (Run.of_exec hexec).mono fun _ _ hok => of_decide_eq_true hok, fun htransparent => ?_⟩
  have hsame := htransparent 7 6 (by rw [hfunc]; rfl) hphase hleft
  rw [hdevice] at hsame
  cases hsame

private def freshHistory : List (HistoryAct ℕ) :=
  surfaceDefined :: drawBatch 5 ++ [evicted (some 1) 0, .resource (.reserve 7 false none), .resource (.validate 7 (attempt' none 0))]

/-- What is evicted comes back. -/
theorem eviction_transparent_once : ∃ h : History ℕ, h.left 7 = some 5 ∧ h.Transparent := by
  have hleft : ((exec (History.step true) (fun h act => decide (act.Meets Undisturbed h ∧ act.Meets LegacyKept h))
      History.init freshHistory).map fun h => h.left 7) = some (some 5) := by decide +kernel
  obtain ⟨h, hexec, hleft⟩ := Option.map_eq_some_iff.mp hleft
  exact ⟨h, hleft, eviction_transparent ((Run.of_exec hexec).mono fun _ _ hok => of_decide_eq_true hok)⟩

end Example

end Vmwgfx.Resource
