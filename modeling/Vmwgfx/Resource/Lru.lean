import Vmwgfx.Resource.Pin

/-! The lru lists of evictable resources. -/

namespace Vmwgfx.Resource

open Lib

/-- What an operation on one resource leaves of the others, on the device and off it. -/
structure Beside (r : ResId) (s s' : State) : Prop where
  pinCount : ∀ r', (s'.res r').pinCount = (s.res r').pinCount
  func : ∀ r', (s'.res r').func = (s.res r').func
  onDevice : ∀ r', r' ≠ r → (s'.res r').onDevice = (s.res r').onDevice
  backup : ∀ r', r' ≠ r → (s'.res r').backup = (s.res r').backup

namespace Beside

variable {r v : ResId} {s s' s'' : State} {b : BufId}

theorem refl (r : ResId) (s : State) : Beside r s s :=
  ⟨fun _ => rfl, fun _ => rfl, fun _ _ => rfl, fun _ _ => rfl⟩

theorem trans (h : Beside r s s') (h' : Beside r s' s'') : Beside r s s'' :=
  ⟨fun r' => (h'.pinCount r').trans (h.pinCount r'), fun r' => (h'.func r').trans (h.func r'),
    fun r' hne => (h'.onDevice r' hne).trans (h.onDevice r' hne),
    fun r' hne => (h'.backup r' hne).trans (h.backup r' hne)⟩

theorem of_res (r : ResId) (h : s'.res = s.res) : Beside r s s' :=
  ⟨fun _ => by rw [h], fun _ => by rw [h], fun _ _ => by rw [h], fun _ _ => by rw [h]⟩

/-- A change of the resource itself. -/
theorem modify {f : VmwResource → VmwResource} (hpin : (f (s.res r)).pinCount = (s.res r).pinCount)
    (hfunc : (f (s.res r)).func = (s.res r).func) : Beside r s (s.modify r f) := by
  refine ⟨fun r' => ?_, fun r' => ?_, fun r' hne => ?_, fun r' hne => ?_⟩
  · rw [modify_res]
    split
    · rename_i heq
      rw [heq, hpin]
    · rfl
  · rw [modify_res]
    split
    · rename_i heq
      rw [heq, hfunc]
    · rfl
  · rw [modify_res, if_neg hne]
  · rw [modify_res, if_neg hne]

/-- A change of any resource's flags. -/
theorem flags (r : ResId) {f : VmwResource → VmwResource}
    (hpin : (f (s.res v)).pinCount = (s.res v).pinCount) (hfunc : (f (s.res v)).func = (s.res v).func)
    (hdevice : (f (s.res v)).onDevice = (s.res v).onDevice)
    (hbackup : (f (s.res v)).backup = (s.res v).backup) : Beside r s (s.modify v f) := by
  refine ⟨(modify hpin hfunc).pinCount, (modify hpin hfunc).func, fun r' _ => ?_, fun r' _ => ?_⟩
  · rw [modify_res]
    split
    · rename_i heq
      rw [heq, hdevice]
    · rfl
  · rw [modify_res]
    split
    · rename_i heq
      rw [heq, hbackup]
    · rfl

theorem listDelMob (r : ResId) (s : State) (v : ResId) : Beside r s (s.listDelMob v) := by
  have h : Beside r s (s.modify v (fun res => { res with mobHead := none })) := flags r rfl rfl rfl rfl
  refine ⟨fun r' => ?_, fun r' => ?_, fun r' hne => ?_, fun r' hne => ?_⟩
  · rw [listDelMob_res]
    exact h.pinCount r'
  · rw [listDelMob_res]
    exact h.func r'
  · rw [listDelMob_res]
    exact h.onDevice r' hne
  · rw [listDelMob_res]
    exact h.backup r' hne

theorem funcUnbind (r : ResId) (s : State) (b : BufId) (readback : Bool) (u : Unbind) :
    Beside r s (funcUnbind s b readback u) := by
  unfold Resource.funcUnbind
  split
  · exact of_res r rfl
  · exact refl r s

theorem funcDestroy (s : State) (r : ResId) (ret : Int) : Beside r s (funcDestroy s r ret) := by
  unfold Resource.funcDestroy
  split
  · exact modify rfl rfl
  · exact refl r s

theorem dropBackup (s : State) (r : ResId) : Beside r s (s.dropBackup r) := by
  unfold State.dropBackup
  split
  · exact refl r s
  · have h : Beside r s (s.modify r (fun res => { res with backup := none })) := modify rfl rfl
    exact ⟨h.pinCount, h.func, h.onDevice, h.backup⟩

theorem setBackup (s : State) (r : ResId) (b : BufId) : Beside r s (s.setBackup r b) := by
  have h : Beside r s (s.modify r (fun res => { res with backup := some b })) := modify rfl rfl
  exact ⟨h.pinCount, h.func, h.onDevice, h.backup⟩

theorem listAddMob (s : State) (r : ResId) (b : BufId) : Beside r s (s.listAddMob r b) := by
  have h : Beside r s (s.modify r (fun res => { res with mobHead := some b })) := modify rfl rfl
  exact ⟨h.pinCount, h.func, h.onDevice, h.backup⟩

theorem setPhase (s : State) (r : ResId) (p : Phase) : Beside r s (s.setPhase r p) := modify rfl rfl

theorem vmwResourceMoveNotify (r : ResId) (s : State) (b : BufId) (toMob : Bool) (us : List Unbind) :
    Beside r s (vmwResourceMoveNotify s b toMob us) := by
  have hone : ∀ (s : State) (v : ResId) (u : Unbind), Beside r s (moveNotifyOne b s v u) := by
    intro s v u
    unfold moveNotifyOne
    split
    · exact (funcUnbind r s b true u).trans ((flags r rfl rfl rfl rfl).trans (listDelMob r _ v))
    · exact refl r s
  have hall : ∀ (l : List (ResId × Unbind)) (s : State),
      Beside r s (l.foldl (fun s p => moveNotifyOne b s p.1 p.2) s) := by
    intro l
    induction l with
    | nil => exact refl r
    | cons p l ih =>
      intro s
      exact (hone s p.1 p.2).trans (ih _)
  unfold Resource.vmwResourceMoveNotify
  split
  · exact refl r s
  · exact hall _ s

theorem moveOut (r : ResId) {keep : BufId} {moves : List (BufId × List Unbind)}
    (h : moveOut s keep moves = some s') : Beside r s s' := by
  induction moves generalizing s with
  | nil =>
    cases h
    exact refl r _
  | cons m moves ih =>
    unfold Resource.moveOut at h
    split at h
    · cases h
    · exact (vmwResourceMoveNotify r s m.1 false m.2).trans (ih h)

theorem vmwResourceBufAlloc {alloc : Option BufId} {ret : Int}
    (h : vmwResourceBufAlloc s r alloc = some (ret, s')) : Beside r s s' := by
  unfold Resource.vmwResourceBufAlloc at h
  split at h
  · split at h
    · cases h
    · cases h
      exact refl r s
  · split at h
    · cases h
      exact refl r s
    · rename_i b
      split at h
      · cases h
      · cases h
        have hinit : Beside r s (s.bufInit b (s.res r).backupSize) := of_res r rfl
        exact hinit.trans (setBackup _ r b)

theorem checkBufferFail (s : State) (r : ResId) (b : BufId) (dirty : Bool) :
    Beside r s (checkBufferFail s r b dirty) := by
  have hput : Beside r s (s.bufPut b) := of_res r rfl
  unfold Resource.checkBufferFail
  split
  · exact hput.trans (dropBackup _ r)
  · exact hput

theorem vmwResourceCheckBuffer {o : CheckBuffer} {ret : Int}
    (h : vmwResourceCheckBuffer s r o = some (ret, s')) : Beside r s s' := by
  unfold Resource.vmwResourceCheckBuffer at h
  obtain ⟨⟨ret₁, t⟩, halloc, hrest⟩ := Option.bind_eq_some_iff.mp h
  have hst : Beside r s t := by
    split at halloc
    · exact vmwResourceBufAlloc halloc
    · cases halloc
      exact refl r s
  simp only at hrest
  split at hrest
  · cases hrest
    exact hst
  · split at hrest
    · cases hrest
    · rename_i b _
      have hget : Beside r t (t.bufGet b) := of_res r rfl
      split at hrest
      · cases hrest
        exact hst.trans (hget.trans (checkBufferFail _ r b false))
      · split at hrest
        · cases hrest
          exact hst.trans hget
        · obtain ⟨u, hmove, heq⟩ := Option.map_eq_some_iff.mp hrest
          have hmoved := hst.trans (hget.trans (moveOut r hmove))
          split at heq
          · cases heq
            exact hmoved.trans (checkBufferFail _ r b _)
          · cases heq
            exact hmoved

/-- The end of an eviction. -/
theorem evictDone (s : State) (r : ResId) (b : BufId) (destroy : Int) :
    Beside r s (((Resource.funcDestroy s r destroy).modify r
      (fun res => { res with backupDirty := true, resDirty := false })).bufPut b) := by
  have hmark : Beside r (Resource.funcDestroy s r destroy) ((Resource.funcDestroy s r destroy).modify r
      (fun res => { res with backupDirty := true, resDirty := false })) := modify rfl rfl
  exact (funcDestroy s r destroy).trans (hmark.trans (of_res r rfl))

theorem vmwResourceDoEvict {o : Evict} {ret : Int}
    (h : vmwResourceDoEvict s r o = some (ret, s')) : Beside r s s' := by
  unfold Resource.vmwResourceDoEvict at h
  split at h
  · cases h
  · obtain ⟨⟨ret₁, t⟩, hcheck, hrest⟩ := Option.bind_eq_some_iff.mp h
    have hst := vmwResourceCheckBuffer hcheck
    simp only at hrest
    split at hrest
    · cases hrest
      exact hst
    · split at hrest
      · cases hrest
      · rename_i b _
        split at hrest
        · split at hrest
          · cases hrest
            exact hst.trans (of_res r rfl)
          · cases hrest
            exact hst.trans ((funcUnbind r t b _ _).trans ((listDelMob r _ r).trans (evictDone _ r b _)))
        · cases hrest
          exact hst.trans (evictDone _ r b _)

theorem vmwResourceRelease (s : State) (r : ResId) (u : Unbind) :
    Beside r s (vmwResourceRelease s r u) := by
  have hdel : Beside r s (s.lruDel r) := of_res r rfl
  have hclean : ∀ t : State, Beside r t
      (((t.modify r (fun res => { res with backupDirty := false })).listDelMob r).dropBackup r) :=
    fun t => (modify rfl rfl).trans ((listDelMob r _ r).trans (dropBackup _ r))
  unfold Resource.vmwResourceRelease
  cases hback : ((s.lruDel r).res r).backup with
  | none =>
    simp only [hback]
    exact hdel.trans (modify rfl rfl)
  | some b =>
    simp only [hback]
    split
    · exact hdel.trans ((funcUnbind r _ b false u).trans ((hclean _).trans (modify rfl rfl)))
    · exact hdel.trans ((hclean _).trans (modify rfl rfl))

theorem vmwResourceDoValidate {o : Attempt} {ret : Int}
    (h : vmwResourceDoValidate s r o = (ret, s')) : Beside r s s' := by
  have hdirty : ∀ t : State, Beside r t (t.modify r (fun res => { res with resDirty := true })) :=
    fun t => modify rfl rfl
  unfold Resource.vmwResourceDoValidate at h
  split at h
  · cases h
    exact refl r s
  · have hcreate : Beside r s
        (if (s.res r).onDevice then s else s.modify r (fun res => { res with onDevice := true })) := by
      split
      · exact refl r s
      · exact modify rfl rfl
    revert h hcreate
    generalize (if (s.res r).onDevice then s else s.modify r (fun res => { res with onDevice := true })) = t
    intro h hcreate
    simp only at h
    split at h
    · split at h
      · cases h
        exact hcreate.trans (funcDestroy t r _)
      · have hclean : Beside r t (if (t.res r).func.bindClearsDirty then
            t.modify r (fun res => { res with backupDirty := false }) else t) := by
          split
          · exact modify rfl rfl
          · exact refl r t
        revert h hclean
        generalize (if (t.res r).func.bindClearsDirty then
            t.modify r (fun res => { res with backupDirty := false }) else t) = u
        intro h hclean
        cases h
        refine hcreate.trans (hclean.trans (Beside.trans ?_ (hdirty _)))
        split
        · split
          · exact listAddMob u r _
          · exact refl r u
        · exact refl r u
    · cases h
      exact hcreate.trans (hdirty t)

theorem validateDone (s : State) (r : ResId) : Beside r s (validateDone s r) := by
  unfold Resource.validateDone
  split
  · exact (listDelMob r s r).trans (dropBackup _ r)
  · exact refl r s

theorem vmwResourceReserve {noBackup : Bool} {alloc : Option BufId} {ret : Int}
    (h : vmwResourceReserve s r noBackup alloc = some (ret, s')) : Beside r s s' := by
  have hdel : Beside r s (s.lruDel r) := of_res r rfl
  unfold Resource.vmwResourceReserve at h
  simp only at h
  split at h
  · exact hdel.trans (vmwResourceBufAlloc h)
  · cases h
    exact hdel

/-- The switch to a new backup. -/
theorem switch (s : State) (r : ResId) (b : BufId) : Beside r s
    (((if (s.res r).backup.isSome then (s.listDelMob r).dropBackup r else s).setBackup r b).listAddMob r b) := by
  refine Beside.trans ?_ ((setBackup _ r b).trans (listAddMob _ r b))
  split
  · exact (listDelMob r s r).trans (dropBackup _ r)
  · exact refl r s

theorem vmwResourceUnreserve (s : State) (r : ResId) (newBackup : Option BufId) (off : Nat) :
    Beside r s (vmwResourceUnreserve s r newBackup off) := by
  have hput : ∀ t : State, Beside r t
      (if ¬ (t.res r).func.mayEvict ∨ ¬ (t.res r).onDevice ∨ (t.res r).pinCount ≠ 0 then t else t.lruAdd r) := by
    intro t
    split
    · exact refl r t
    · exact of_res r rfl
  have hoff : ∀ t : State, Beside r t (t.modify r (fun res => { res with backupOffset := off })) :=
    fun t => modify rfl rfl
  unfold Resource.vmwResourceUnreserve
  split
  · exact refl r s
  · cases newBackup with
    | none => exact hput s
    | some b =>
      simp only
      by_cases hsame : (s.res r).backup = some b
      · rw [if_pos hsame]
        exact (hoff s).trans (hput _)
      · rw [if_neg hsame]
        exact (switch s r b).trans ((hoff _).trans (hput _))

end Beside

theorem switch_placed (s : State) (r : ResId) (b : BufId) : Placed s
    (((if (s.res r).backup.isSome then (s.listDelMob r).dropBackup r else s).setBackup r b).listAddMob r b) := by
  refine Placed.trans ?_ ((setBackup_placed _ r b).trans (Steady.listAddMob _ r b).placed)
  split
  · exact (Steady.listDelMob s r).placed.trans (dropBackup_placed _ r)
  · exact .refl s

section Lists

variable {s : State} {r r' : ResId} {type : ResType}

theorem lruDel_lru (s : State) (r : ResId) : (s.lruDel r).lru = Function.update s.lru (s.res r).func.resType
    ((s.lru (s.res r).func.resType).filter (· ≠ r)) := rfl

theorem lruAdd_lru (s : State) (r : ResId) : (s.lruAdd r).lru = Function.update s.lru (s.res r).func.resType
    (s.lru (s.res r).func.resType ++ [r]) := rfl

theorem mem_lruDel : r' ∈ (s.lruDel r).lru type ↔
    r' ∈ s.lru type ∧ ¬ (r' = r ∧ type = (s.res r).func.resType) := by
  rw [lruDel_lru]
  by_cases htype : type = (s.res r).func.resType
  · rw [htype, Function.update_self]
    simp
  · rw [Function.update_of_ne htype]
    simp [htype]

theorem mem_lruAdd : r' ∈ (s.lruAdd r).lru type ↔
    r' ∈ s.lru type ∨ (r' = r ∧ type = (s.res r).func.resType) := by
  rw [lruAdd_lru]
  by_cases htype : type = (s.res r).func.resType
  · rw [htype, Function.update_self]
    simp
  · rw [Function.update_of_ne htype]
    simp [htype]

theorem nodup_lruDel (h : (s.lru type).Nodup) : ((s.lruDel r).lru type).Nodup := by
  rw [lruDel_lru]
  by_cases htype : type = (s.res r).func.resType
  · rw [htype, Function.update_self]
    exact (htype ▸ h).filter _
  · rw [Function.update_of_ne htype]
    exact h

theorem nodup_lruAdd (h : (s.lru type).Nodup) (hr : r ∉ s.lru type) : ((s.lruAdd r).lru type).Nodup := by
  rw [lruAdd_lru]
  by_cases htype : type = (s.res r).func.resType
  · rw [htype] at h hr ⊢
    rw [Function.update_self]
    refine List.nodup_append.mpr ⟨h, by simp, fun x hx y hy heq => ?_⟩
    rw [heq, List.mem_singleton.mp hy] at hx
    exact hr hx
  · rw [Function.update_of_ne htype]
    exact h

end Lists

/-- What `vmw_resource_unreserve` asks for before it puts a resource on its list. -/
def VmwResource.Evictable (res : VmwResource) : Prop :=
  res.func.mayEvict = true ∧ res.onDevice = true ∧ res.pinCount = 0

/-- Outside of its submissions an evictable resource is on its list, but for lost ones. -/
structure LruInv (lost : ResId → Prop) (s : State) : Prop where
  listed : ∀ r, ¬ lost r → (s.res r).phase = .idle → (s.res r).Evictable → r ∈ s.lru (s.res r).func.resType
  spare : ∀ type r, r ∈ s.lru type → (s.res r).func.mayEvict = true ∧ (s.res r).pinCount = 0
  nodup : ∀ type, (s.lru type).Nodup

section LruInv

variable {lost : ResId → Prop} {s s' : State} {r v : ResId} {type : ResType}

theorem lruInv_init : LruInv lost State.init where
  listed _ _ hidle := nomatch hidle
  spare _ _ h := absurd h (List.not_mem_nil)
  nodup _ := List.nodup_nil

/-- An operation on one resource, which may move on its list. -/
theorem LruInv.beside (h : LruInv lost s) (hb : Beside r s s')
    (hphase : ∀ r', r' ≠ r → (s'.res r').phase = (s.res r').phase)
    (hlru : ∀ type r', r' ≠ r → (r' ∈ s'.lru type ↔ r' ∈ s.lru type))
    (hnodup : ∀ type, (s'.lru type).Nodup)
    (hlisted : (s'.res r).phase = .idle → (s'.res r).Evictable → r ∈ s'.lru (s'.res r).func.resType)
    (hspare : ∀ type, r ∈ s'.lru type → (s.res r).func.mayEvict = true ∧ (s.res r).pinCount = 0) : LruInv lost s' where
  listed r' hlost hidle hev := by
    by_cases hr : r' = r
    · exact hr ▸ hlisted (hr ▸ hidle) (hr ▸ hev)
    · rw [hphase r' hr] at hidle
      unfold VmwResource.Evictable at hev
      rw [hb.func, hb.onDevice r' hr, hb.pinCount] at hev
      rw [hb.func, hlru _ r' hr]
      exact h.listed r' hlost hidle hev
  spare type r' hmem := by
    rw [hb.pinCount, hb.func]
    by_cases hr : r' = r
    · exact hr ▸ hspare type (hr ▸ hmem)
    · exact h.spare type r' ((hlru type r' hr).mp hmem)
  nodup := hnodup

/-- An operation that leaves the lists alone, on a resource that is not idle. -/
theorem LruInv.busy (h : LruInv lost s) (hinv : Inv s) (hb : Beside r s s') (hlru : s'.lru = s.lru)
    (hphase : ∀ r', r' ≠ r → (s'.res r').phase = (s.res r').phase)
    (hbusy : (s.res r).phase ≠ .idle) (hbusy' : (s'.res r).phase ≠ .idle) : LruInv lost s' := by
  apply h.beside hb hphase
  · intro type r' _
    rw [hlru]
  · rw [hlru]
    exact h.nodup
  · intro hidle
    exact absurd hidle hbusy'
  · intro type hmem
    rw [hlru] at hmem
    exact absurd (hinv.lru type r hmem).1 hbusy

/-- An operation on no resource. -/
theorem LruInv.frame (h : LruInv lost s) (hb : ∀ r, Beside r s s') (hlru : s'.lru = s.lru)
    (hphase : ∀ r, (s'.res r).phase = (s.res r).phase) : LruInv lost s' where
  listed r hlost hidle hev := by
    have hr := hb (r + 1)
    rw [hphase] at hidle
    unfold VmwResource.Evictable at hev
    rw [hr.func, hr.onDevice r (Nat.ne_of_lt (Nat.lt_succ_self r)), hr.pinCount] at hev
    rw [hr.func, hlru]
    exact h.listed r hlost hidle hev
  spare type r hmem := by
    rw [(hb r).pinCount, (hb r).func]
    exact h.spare type r (hlru ▸ hmem)
  nodup := by
    rw [hlru]
    exact h.nodup

/-- A new resource, which the device does not know. -/
structure LruCreate (s s' : State) (r : ResId) : Prop where
  lru : s'.lru = s.lru
  other : ∀ r', r' ≠ r → s'.res r' = s.res r'
  onDevice : (s'.res r).onDevice = false
  pinCount : (s'.res r).pinCount = 0

namespace LruCreate

variable {b : BufId} {size : Nat}

theorem init (s : State) (r : ResId) (func : VmwResFunc) (data : Contents) :
    LruCreate s (vmwResourceInit s r func data) r where
  lru := rfl
  other r' hne := Function.update_of_ne hne _ _
  onDevice := by simp [vmwResourceInit]
  pinCount := by simp [vmwResourceInit]

theorem modify (h : LruCreate s s' r) {f : VmwResource → VmwResource}
    (hf : (f (s'.res r)).onDevice = (s'.res r).onDevice)
    (hpin : (f (s'.res r)).pinCount = (s'.res r).pinCount) : LruCreate s (s'.modify r f) r where
  lru := h.lru
  other r' hne := by
    rw [modify_res, if_neg hne]
    exact h.other r' hne
  onDevice := by
    rw [modify_res, if_pos rfl, hf]
    exact h.onDevice
  pinCount := by
    rw [modify_res, if_pos rfl, hpin]
    exact h.pinCount

theorem setBackup (h : LruCreate s s' r) (b : BufId) : LruCreate s (s'.setBackup r b) r :=
  have hmod : LruCreate s (s'.modify r (fun res => { res with backup := some b })) r := h.modify rfl rfl
  ⟨hmod.lru, hmod.other, hmod.onDevice, hmod.pinCount⟩

theorem bufInit (h : LruCreate s s' r) (b : BufId) (size : Nat) : LruCreate s (s'.bufInit b size) r :=
  ⟨h.lru, h.other, h.onDevice, h.pinCount⟩

theorem vmwUserDmabufAlloc (h : LruCreate s s' r) {s'' : State}
    (halloc : vmwUserDmabufAlloc s' r b size = some s'') : LruCreate s s'' r := by
  unfold Resource.vmwUserDmabufAlloc at halloc
  split at halloc
  · cases halloc
  · cases halloc
    have hset := (h.bufInit b size).setBackup b
    exact ⟨hset.lru, hset.other, hset.onDevice, hset.pinCount⟩

end LruCreate

theorem LruInv.create (h : LruInv lost s) (hinv : Inv s) (hr : r ∉ s.resources) (hnew : LruCreate s s' r) :
    LruInv lost s' := by
  have hne : ∀ type r', r' ∈ s.lru type → r' ≠ r := by
    intro type r' hmem heq
    have hidle := (hinv.lru type r' hmem).1
    rw [heq, hinv.unknown r hr] at hidle
    cases hidle
  refine ⟨fun r' hlost hidle hev => ?_, fun type r' hmem => ?_, fun type => ?_⟩
  · have hr' : r' ≠ r := by
      intro heq
      have hon := hev.2.1
      rw [heq, hnew.onDevice] at hon
      cases hon
    rw [hnew.other r' hr'] at hidle hev ⊢
    rw [hnew.lru]
    exact h.listed r' hlost hidle hev
  · rw [hnew.lru] at hmem
    rw [hnew.other r' (hne type r' hmem)]
    exact h.spare type r' hmem
  · rw [hnew.lru]
    exact h.nodup type

/-- The end of a use of a resource, which goes back on its list if it can be evicted. -/
theorem LruInv.putBack (h : LruInv lost s) (hout : ∀ type, r ∉ s.lru type) (hb : Beside r s s')
    (hlru : s'.lru = s.lru) (hphase : ∀ r', r' ≠ r → (s'.res r').phase = (s.res r').phase) :
    LruInv lost (if ¬ (s'.res r).func.mayEvict ∨ ¬ (s'.res r).onDevice ∨ (s'.res r).pinCount ≠ 0 then s'
      else s'.lruAdd r) := by
  split
  · rename_i hno
    apply h.beside hb hphase
    · intro type r' _
      rw [hlru]
    · rw [hlru]
      exact h.nodup
    · rintro - ⟨hmay, hon, hpin⟩
      simp [hmay, hon, hpin] at hno
    · intro type hmem
      rw [hlru] at hmem
      exact absurd hmem (hout type)
  · rename_i hput
    have hadd : Beside r s (s'.lruAdd r) := hb.trans (.of_res r rfl)
    apply h.beside hadd hphase
    · intro type r' hne
      rw [mem_lruAdd, hlru]
      simp [hne]
    · intro type
      apply nodup_lruAdd
      · rw [hlru]
        exact h.nodup type
      · rw [hlru]
        exact hout type
    · intro _ _
      exact mem_lruAdd.mpr (.inr ⟨rfl, rfl⟩)
    · intro _ _
      rw [← hb.pinCount, ← hb.func]
      simpa using (not_or.mp hput).imp_right (fun hout => (not_or.mp hout).2)

/-- `vmw_resource_unreserve`, of a resource that has become idle. -/
theorem LruInv.unreserve (h : LruInv lost s) (hinv : Inv s) (newBackup : Option BufId) (off : Nat) :
    LruInv lost (vmwResourceUnreserve (s.setPhase r .idle) r newBackup off) := by
  have hidle := Beside.setPhase s r .idle
  have hphase : ∀ r', r' ≠ r → ((s.setPhase r .idle).res r').phase = (s.res r').phase := by
    intro r' hne
    rw [State.setPhase, modify_res, if_neg hne]
  unfold vmwResourceUnreserve
  split
  · -- still on its list: nobody has taken it off
    rename_i hmem
    have hmem' : r ∈ s.lru ((s.setPhase r .idle).res r).func.resType := hmem
    apply h.beside hidle hphase
    · intro type r' _
      exact Iff.rfl
    · exact h.nodup
    · intro _ _
      exact hmem
    · intro _ _
      exact h.spare _ r hmem'
  · rename_i hout
    have hfunc := hidle.func r
    have hout : ∀ type, r ∉ s.lru type := by
      intro type hmem
      rw [hfunc, (hinv.lru type r hmem).2] at hout
      exact hout hmem
    have hoffset : ∀ t : State, Beside r t (t.modify r (fun res => { res with backupOffset := off })) :=
      fun t => .modify rfl rfl
    have hoffsetPhase : ∀ (t : State) r', r' ≠ r →
        ((t.modify r (fun res => { res with backupOffset := off })).res r').phase = (t.res r').phase := by
      intro t r' hne
      rw [modify_res, if_neg hne]
    cases newBackup with
    | none => exact h.putBack hout hidle rfl hphase
    | some b =>
      simp only
      by_cases hsame : ((s.setPhase r .idle).res r).backup = some b
      · rw [if_pos hsame]
        apply h.putBack hout (hidle.trans (hoffset _)) rfl
        intro r' hne
        rw [hoffsetPhase _ r' hne, hphase r' hne]
      · rw [if_neg hsame]
        have hswitch := Beside.switch (s.setPhase r .idle) r b
        have hplaced := switch_placed (s.setPhase r .idle) r b
        revert hswitch hplaced
        generalize (((if ((s.setPhase r .idle).res r).backup.isSome then
          ((s.setPhase r .idle).listDelMob r).dropBackup r else s.setPhase r .idle).setBackup r b).listAddMob
            r b) = t
        intro hswitch hplaced
        apply h.putBack hout (hidle.trans (hswitch.trans (hoffset t))) hplaced.lru
        intro r' hne
        rw [hoffsetPhase _ r' hne, hplaced.phase, hphase r' hne]

theorem vmwResourceRelease_lru (s : State) (r : ResId) (u : Unbind) :
    (vmwResourceRelease s r u).lru = (s.lruDel r).lru ∧ ((vmwResourceRelease s r u).res r).phase = .released := by
  have hself : ∀ t : State, ((t.modify r (fun res => { res with phase := .released })).res r).phase = .released := by
    intro t
    rw [modify_res, if_pos rfl]
  have hclean : ∀ t : State,
      (((t.modify r (fun res => { res with backupDirty := false })).listDelMob r).dropBackup r).lru = t.lru := by
    intro t
    exact ((Steady.listDelMob _ r).placed.trans (dropBackup_placed _ r)).lru
  unfold vmwResourceRelease
  refine ⟨?_, hself _⟩
  cases hback : ((s.lruDel r).res r).backup with
  | none =>
    simp only [hback]
    rfl
  | some b =>
    simp only [hback]
    split
    · exact (hclean _).trans (Steady.funcUnbind _ b false u).lru
    · exact hclean _

theorem LruInv.release (h : LruInv lost s) (hinv : Inv s) (u : Unbind) : LruInv lost (vmwResourceRelease s r u) := by
  obtain ⟨hlru, hphase⟩ := vmwResourceRelease_lru s r u
  apply h.beside (Beside.vmwResourceRelease s r u)
  · intro r' hne
    exact (vmwResourceRelease_other u hne).2
  · intro type r' hne
    rw [hlru, mem_lruDel]
    simp [hne]
  · intro type
    rw [hlru]
    exact nodup_lruDel (h.nodup type)
  · intro hidle
    rw [hphase] at hidle
    cases hidle
  · intro type hmem
    rw [hlru] at hmem
    exact absurd hmem (lruDel_not_mem hinv r type)

/-- An eviction that succeeds takes the resource off the device. -/
theorem vmwResourceDoEvict_off {o : Evict} {ret : Int} (h : vmwResourceDoEvict s r o = some (ret, s'))
    (hret : ret = 0) : (s'.res r).onDevice = false := by
  have hdone : ∀ (t : State) (b : BufId), ((((funcDestroy t r 0).modify r
      (fun res => { res with backupDirty := true, resDirty := false })).bufPut b).res r).onDevice = false := by
    intro t b
    rw [bufPut_res, modify_res, if_pos rfl]
    simp [funcDestroy]
  unfold vmwResourceDoEvict at h
  split at h
  · cases h
  · obtain ⟨⟨ret₁, t⟩, -, hrest⟩ := Option.bind_eq_some_iff.mp h
    simp only at hrest
    split at hrest
    · rename_i hfail
      cases hrest
      exact absurd hret hfail
    · split at hrest
      · cases hrest
      · rename_i b _
        split at hrest
        · split at hrest
          · rename_i hfail
            cases hrest
            exact absurd hret hfail
          · cases hrest
            rw [hret]
            exact hdone _ b
        · cases hrest
          rw [hret]
          exact hdone _ b

theorem LruInv.evictOne (h : LruInv lost s) (hinv : Inv s) {o : Attempt} {ret : Int}
    (hstep : evictOne s type o = some (ret, s')) : LruInv lost s' := by
  obtain ⟨v, t, hv⟩ := evictOne_cases hinv hstep
  obtain ⟨rest, hhead⟩ := hv.head
  have hspare := h.spare type v (hhead ▸ List.mem_cons_self)
  have hlru : t.lru = (s.lruDel v).lru := hv.placed.lru
  have hdel : Beside v s (s.lruDel v) := .of_res v rfl
  have hevict : Beside v s t := hdel.trans (.vmwResourceDoEvict hv.evict)
  have hphase : ∀ r', r' ≠ v → (t.res r').phase = (s.res r').phase := fun r' _ => hv.placed.phase r'
  have hback : LruInv lost (if ret = 0 then t else t.lruAdd v) := by
    split
    · rename_i hret
      have hoff : (t.res v).onDevice = false := vmwResourceDoEvict_off hv.evict hret
      apply h.beside hevict hphase
      · intro type' r' hne
        rw [hlru, mem_lruDel]
        simp [hne]
      · intro type'
        rw [hlru]
        exact nodup_lruDel (h.nodup type')
      · rintro - ⟨-, hon, -⟩
        rw [hoff] at hon
        cases hon
      · intro _ _
        exact hspare
    · have hadd : Beside v s (t.lruAdd v) := hevict.trans (.of_res v rfl)
      apply h.beside hadd hphase
      · intro type' r' hne
        rw [mem_lruAdd, hlru, mem_lruDel]
        simp [hne]
      · intro type'
        apply nodup_lruAdd
        · rw [hlru]
          exact nodup_lruDel (h.nodup type')
        · rw [hlru]
          exact lruDel_not_mem hinv v type'
      · intro _ _
        exact mem_lruAdd.mpr (.inr ⟨rfl, rfl⟩)
      · intro _ _
        exact hspare
  rw [hv.after]
  unfold putVictim
  split
  · exact hback.release hv.inv _
  · exact hback

theorem LruInv.reserve (h : LruInv lost s) (hinv : Inv s) {noBackup : Bool} {alloc : Option BufId} {ret : Int}
    (hstep : vmwResourceReserve s r noBackup alloc = some (ret, s')) : LruInv lost (s'.setPhase r .reserved) := by
  have hlru : s'.lru = (s.lruDel r).lru ∧ ∀ r', (s'.res r').phase = (s.res r').phase := by
    unfold vmwResourceReserve at hstep
    simp only at hstep
    split at hstep
    · rename_i hneed
      unfold vmwResourceBufAlloc at hstep
      rw [Option.isNone_iff_eq_none.mp hneed.2.1] at hstep
      simp only at hstep
      split at hstep
      · cases hstep
        exact ⟨rfl, fun _ => rfl⟩
      · split at hstep
        · cases hstep
        · cases hstep
          exact ⟨(setBackup_placed _ r _).lru, (setBackup_placed _ r _).phase⟩
    · cases hstep
      exact ⟨rfl, fun _ => rfl⟩
  have hb := (Beside.vmwResourceReserve hstep).trans (.setPhase s' r .reserved)
  apply h.beside hb
  · intro r' hne
    rw [State.setPhase, modify_res, if_neg hne]
    exact hlru.2 r'
  · intro type r' hne
    show r' ∈ s'.lru type ↔ _
    rw [hlru.1, mem_lruDel]
    simp [hne]
  · intro type
    show (s'.lru type).Nodup
    rw [hlru.1]
    exact nodup_lruDel (h.nodup type)
  · intro hidle
    rw [State.setPhase, modify_res, if_pos rfl] at hidle
    cases hidle
  · intro type hmem
    have hmem : r ∈ s'.lru type := hmem
    rw [hlru.1] at hmem
    exact absurd hmem (lruDel_not_mem hinv r type)

theorem LruInv.validate (h : LruInv lost s) (hinv : Inv s) {o : Attempt} {hasMob : Bool}
    (hstep : step hasMob s (.validate r o) = some s') : LruInv lost s' := by
  simp only [step] at hstep
  split at hstep
  · cases hstep
  · rename_i hphase
    have hphase : (s.res r).phase = .reserved := not_not.mp hphase
    have hbusy : (s.res r).phase ≠ .idle := by rw [hphase]; decide
    have hset : ∀ t : State, ((t.setPhase r .validated).res r).phase ≠ .idle := by
      intro t
      rw [State.setPhase, modify_res, if_pos rfl]
      intro hidle
      cases hidle
    have hother : ∀ (t : State) r', r' ≠ r → ((t.setPhase r .validated).res r').phase = (t.res r').phase := by
      intro t r' hne
      rw [State.setPhase, modify_res, if_neg hne]
    split at hstep
    · cases hstep
      exact h.busy hinv (.setPhase s r _) rfl (hother s) hbusy (hset s)
    · cases hround : vmwResourceDoValidate s r o with
      | mk ret t =>
        rw [hround] at hstep
        have hr := hinv.known (r := r) (by rw [hphase]; decide)
        obtain ⟨hinv₁, hsteady, -⟩ := vmwResourceDoValidate_spec hinv hr hround
        have hb := Beside.vmwResourceDoValidate hround
        have hphase₁ : ∀ r', (t.res r').phase = (s.res r').phase := hsteady.placed.phase
        cases hstep
        split
        · have hdone := (validateDone_spec hinv₁ (hsteady.resources ▸ hr)).2.1
          apply h.busy hinv ((hb.trans (.validateDone t r)).trans (.setPhase _ r _))
            (hdone.lru.trans hsteady.lru) ?_ hbusy (hset _)
          intro r' hne
          rw [hother _ r' hne, hdone.phase, hphase₁]
        · apply h.busy hinv hb hsteady.lru (fun r' _ => hphase₁ r') hbusy
          rw [hphase₁]
          exact hbusy

/-- The resource that an action makes. -/
def Action.creates : Action → Option ResId
  | .gbSurfaceDefine r _ _ _ _ _ | .surfaceDefine r _ _ _ | .shaderDefine r _ _ _ | .compatShaderAdd r _ _
  | .contextDefine r => some r
  | _ => none

theorem LruCreate.of_step {a : Action} {hasMob : Bool} (hcreates : a.creates = some r)
    (hstep : step hasMob s a = some s') : r ∉ s.resources ∧ LruCreate s s' r := by
  cases a with
  | gbSurfaceDefine r' desc base mips cubemap backing =>
    cases hcreates
    simp only [Resource.step, vmwGbSurfaceDefine] at hstep
    generalize (if hasMob = true then VmwResFunc.gbSurface else VmwResFunc.legacySurface) = func at hstep
    split at hstep
    · cases hstep
    · rename_i hr
      refine ⟨hr, ?_⟩
      have hnew := LruCreate.init s r func (.surface desc base mips cubemap)
      cases backing with
      | none =>
        cases hstep
        exact hnew
      | handle b =>
        simp only at hstep
        split at hstep
        · cases hstep
        · cases hstep
          exact hnew.setBackup b
      | create b => exact hnew.vmwUserDmabufAlloc hstep
  | surfaceDefine r' desc sizes shared =>
    cases hcreates
    simp only [Resource.step, vmwSurfaceDefine] at hstep
    split at hstep
    · cases hstep
    · rename_i hr
      refine ⟨hr, ?_⟩
      cases shared with
      | none =>
        cases hstep
        exact .init s r _ _
      | some b =>
        simp only at hstep
        split at hstep
        · exact (LruCreate.init s r _ _).vmwUserDmabufAlloc hstep
        · cases hstep
  | shaderDefine r' size offset handle =>
    cases hcreates
    simp only [Resource.step, vmwShaderDefine] at hstep
    split at hstep
    · cases hstep
    · rename_i hr
      refine ⟨hr, ?_⟩
      have hnew := LruCreate.init s r .gbShader (.shader size)
      cases handle with
      | none =>
        cases hstep
        exact hnew
      | some b =>
        simp only at hstep
        split at hstep
        · cases hstep
        · cases hstep
          exact (hnew.setBackup b).modify rfl rfl
  | compatShaderAdd r' size b =>
    cases hcreates
    simp only [Resource.step, vmwCompatShaderAdd] at hstep
    split at hstep
    · cases hstep
    · rename_i hr
      refine ⟨hr, ?_⟩
      split at hstep
      · cases hstep
      · cases hstep
        exact ((LruCreate.init s r .gbShader (.shader size)).bufInit b size).setBackup b
  | contextDefine r' =>
    cases hcreates
    simp only [Resource.step, vmwContextDefine] at hstep
    split at hstep
    · cases hstep
    · rename_i hr
      refine ⟨hr, ?_⟩
      cases hstep
      split
      · exact .init s r _ _
      · exact .init s r _ _
  | _ => cases hcreates

/-- `vmw_resource_pin` apart, every step keeps the lists. -/
theorem LruInv.step (h : LruInv lost s) (hinv : Inv s) {a : Action} {hasMob : Bool} (hpin : ∀ r n, a ≠ .pin r n)
    (hstep : step hasMob s a = some s') : LruInv lost s' := by
  have hcreate : ∀ r, a.creates = some r → LruInv lost s' := by
    intro r hcreates
    obtain ⟨hr, hnew⟩ := LruCreate.of_step hcreates hstep
    exact h.create hinv hr hnew
  cases a with
  | gbSurfaceDefine r => exact hcreate r rfl
  | surfaceDefine r => exact hcreate r rfl
  | shaderDefine r => exact hcreate r rfl
  | compatShaderAdd r => exact hcreate r rfl
  | contextDefine r => exact hcreate r rfl
  | reserve r noBackup alloc =>
    simp only [Resource.step] at hstep
    split at hstep
    · cases hstep
    · obtain ⟨⟨ret, t⟩, hres, rfl⟩ := Option.map_eq_some_iff.mp hstep
      exact h.reserve hinv hres
  | validate r o => exact h.validate hinv hstep
  | unreserve r newBackup off =>
    simp only [Resource.step] at hstep
    split at hstep
    · cases hstep
    · cases hstep
      exact h.unreserve hinv newBackup off
  | evict type o =>
    obtain ⟨⟨ret, t⟩, hevict, rfl⟩ := Option.map_eq_some_iff.mp hstep
    exact h.evictOne hinv hevict
  | moveNotify b toMob us =>
    simp only [Resource.step] at hstep
    split at hstep
    · cases hstep
    · rename_i hheld
      cases hstep
      obtain ⟨-, hsteady, -⟩ := vmwResourceMoveNotify_spec hinv
        (by simpa using fun hb => hheld (.inl hb)) toMob us
      exact h.frame (fun r => .vmwResourceMoveNotify r s b toMob us) hsteady.lru hsteady.placed.phase
  | release r u =>
    simp only [Resource.step] at hstep
    split at hstep
    · cases hstep
    · cases hstep
      exact h.release hinv u
  | pin r n => exact absurd rfl (hpin r n)
  | bufCreate b size =>
    simp only [Resource.step] at hstep
    split at hstep
    · cases hstep
    · cases hstep
      exact h.frame (fun r => .of_res r rfl) rfl (fun _ => rfl)
  | bufGet b =>
    simp only [Resource.step] at hstep
    split at hstep
    · cases hstep
    · cases hstep
      exact h.frame (fun r => .of_res r rfl) rfl (fun _ => rfl)
  | bufPut b =>
    simp only [Resource.step] at hstep
    split at hstep
    · cases hstep
    · cases hstep
      exact h.frame (fun r => .of_res r rfl) rfl (fun _ => rfl)

end LruInv

/-- What the steps of a resource leave of its pins. -/
structure Kept (r : ResId) (s s' : State) : Prop where
  pinCount : ∀ r', (s'.res r').pinCount = (s.res r').pinCount
  func : ∀ r', (s'.res r').func = (s.res r').func
  backup : ∀ r', r' ≠ r → (s.res r').pinCount ≠ 0 → (s'.res r').backup = (s.res r').backup
  self : (s.res r).func.needsBackup = true ∨ (s.res r).backup = none → (s'.res r).backup = (s.res r).backup

namespace Kept

variable {r v : ResId} {s s' s'' : State}

theorem refl (r : ResId) (s : State) : Kept r s s :=
  ⟨fun _ => rfl, fun _ => rfl, fun _ _ _ => rfl, fun _ => rfl⟩

theorem trans (h : Kept r s s') (h' : Kept r s' s'') : Kept r s s'' where
  pinCount r' := (h'.pinCount r').trans (h.pinCount r')
  func r' := (h'.func r').trans (h.func r')
  backup r' hne hpin := (h'.backup r' hne (by rw [h.pinCount]; exact hpin)).trans (h.backup r' hne hpin)
  self hself := by
    have hback := h.self hself
    rw [← hback]
    apply h'.self
    rw [h.func, hback]
    exact hself

/-- An operation on another resource, which is not pinned. -/
theorem of_beside (hb : Beside v s s') (hne : r ≠ v) (hpin : (s.res v).pinCount = 0) : Kept r s s' where
  pinCount := hb.pinCount
  func := hb.func
  backup r' _ hpin' := hb.backup r' (fun heq => hpin' (heq ▸ hpin))
  self _ := hb.backup r hne

/-- An operation on the resource itself. -/
theorem of_self (hb : Beside r s s')
    (hself : (s.res r).func.needsBackup = true ∨ (s.res r).backup = none → (s'.res r).backup = (s.res r).backup) :
    Kept r s s' where
  pinCount := hb.pinCount
  func := hb.func
  backup r' hne _ := hb.backup r' hne
  self := hself

end Kept

section Rounds

variable {lost : ResId → Prop} {s s' : State} {r : ResId} {hasMob : Bool}

/-- A submission has it. -/
def VmwResource.Busy (res : VmwResource) : Prop := res.phase = .reserved ∨ res.phase = .validated

theorem VmwResource.Busy.not_idle {res : VmwResource} (h : res.Busy) : res.phase ≠ .idle := by
  rcases h with h | h
  · rw [h]
    decide
  · rw [h]
    decide

theorem Inv.known_busy (hinv : Inv s) (h : (s.res r).Busy) : r ∈ s.resources := by
  apply hinv.known
  rcases h with h | h
  · rw [h]
    decide
  · rw [h]
    decide

/-- What holds between the steps of a device. -/
structure DevInv (lost : ResId → Prop) (s : State) : Prop where
  inv : Inv s
  lru : LruInv lost s

theorem DevInv.step (h : DevInv lost s) {a : Action} (hpin : ∀ r n, a ≠ .pin r n)
    (hstep : step hasMob s a = some s') : DevInv lost s' :=
  ⟨h.inv.step hstep, h.lru.step h.inv hpin hstep⟩

theorem validateDone_backup (h : (s.res r).func.needsBackup = true ∨ (s.res r).backup = none) :
    ((validateDone s r).res r).backup = (s.res r).backup := by
  unfold validateDone
  split
  · rename_i hdrop
    rcases h with h | h
    · exact absurd h hdrop.1
    · rw [h] at hdrop
      exact absurd hdrop.2 (by decide)
  · rfl

theorem evictOne_beside {type : ResType} {o : Attempt} {ret : Int} {v : ResId} {t : State}
    (hv : Evicted s s' type o ret v t) : Beside v s s' := by
  have hback : Beside v s (if ret = 0 then t else t.lruAdd v) := by
    have hdel : Beside v s (s.lruDel v) := .of_res v rfl
    have hevict : Beside v s t := hdel.trans (.vmwResourceDoEvict hv.evict)
    split
    · exact hevict
    · exact hevict.trans (.of_res v rfl)
  rw [hv.after]
  unfold putVictim
  split
  · exact hback.trans (.vmwResourceRelease _ v _)
  · exact hback

/-- A round of the validation of a resource, which is not on a list. -/
theorem DevInv.round (h : DevInv lost s) (hbusy : (s.res r).Busy) {a : Action} (hround : Round r s a)
    (hstep : Resource.step hasMob s a = some s') : DevInv lost s' ∧ (s'.res r).Busy ∧ Kept r s s' := by
  cases a with
  | validate r' o =>
    cases hround
    refine ⟨h.step (fun _ _ => Action.noConfusion) hstep, ?_⟩
    have hset : ∀ t : State, ((t.setPhase r .validated).res r).Busy := by
      intro t
      rw [State.setPhase, modify_res, if_pos rfl]
      exact .inr rfl
    have hsetBackup : ∀ t : State, ((t.setPhase r .validated).res r).backup = (t.res r).backup := by
      intro t
      rw [State.setPhase, modify_res, if_pos rfl]
    simp only [Resource.step] at hstep
    split at hstep
    · cases hstep
    · rename_i hphase
      split at hstep
      · cases hstep
        exact ⟨hset s, .of_self (.setPhase s r _) (fun _ => hsetBackup s)⟩
      · cases hdo : vmwResourceDoValidate s r o with
        | mk ret t =>
          rw [hdo] at hstep
          have hr := h.inv.known (r := r) (by rw [not_not.mp hphase]; decide)
          have hsteady := (vmwResourceDoValidate_spec h.inv hr hdo).2.1
          have hb := Beside.vmwResourceDoValidate hdo
          have hback : (t.res r).backup = (s.res r).backup := (hsteady.res r).backup
          cases hstep
          split
          · refine ⟨hset _, .of_self ((hb.trans (.validateDone t r)).trans (.setPhase _ r _)) (fun hself => ?_)⟩
            rw [hsetBackup, validateDone_backup ?_, hback]
            rw [hb.func, hback]
            exact hself
          · refine ⟨?_, .of_self hb (fun _ => hback)⟩
            rw [VmwResource.Busy, (hsteady.res r).phase]
            exact hbusy
  | evict type o =>
    refine ⟨h.step (fun _ _ => Action.noConfusion) hstep, ?_⟩
    obtain ⟨⟨ret, t⟩, hevict, rfl⟩ := Option.map_eq_some_iff.mp hstep
    obtain ⟨v, u, hv⟩ := evictOne_cases h.inv hevict
    obtain ⟨rest, hhead⟩ := hv.head
    have hne : r ≠ v := by
      rintro rfl
      exact hbusy.not_idle hv.idle
    refine ⟨?_, .of_beside (evictOne_beside hv) hne (h.lru.spare type v (hhead ▸ List.mem_cons_self)).2⟩
    rw [VmwResource.Busy, (evictOne_other h.inv hbusy.not_idle hevict).2]
    exact hbusy
  | _ => cases hround

theorem DevInv.rounds (h : DevInv lost s) (hbusy : (s.res r).Busy) {acts : List Action}
    (hrun : Run (Resource.step hasMob) (Round r) s acts s') : DevInv lost s' ∧ (s'.res r).Busy ∧ Kept r s s' := by
  induction hrun with
  | nil s => exact ⟨h, hbusy, .refl r s⟩
  | cons hround hstep _ ih =>
    obtain ⟨h₁, hbusy₁, hkept₁⟩ := h.round hbusy hround hstep
    obtain ⟨h₂, hbusy₂, hkept₂⟩ := ih h₁ hbusy₁
    exact ⟨h₂, hbusy₂, hkept₁.trans hkept₂⟩

end Rounds

section Pin

variable {lost : ResId → Prop} {s s' : PinState} {r : ResId} {o : PinOutcome} {hasMob : Bool} {ret : Int}

/-- Where a `vmw_resource_pin` ends that could reserve the resource. -/
inductive Pinned (r : ResId) (o : PinOutcome) (s s' : PinState) : Prop
  | again (hpin : (s.dev.res r).pinCount ≠ 0)
      (hs' : s' = (s.setPinCount r ((s.dev.res r).pinCount + 1)).unreserve r)
  | noBuffer (hpin : (s.dev.res r).pinCount = 0) (s₁ : PinState) (ret : Int) (hret : ret ≠ 0)
      (hbuf : pinBackup s r o = some (ret, s₁)) (hs' : s' = s₁.unreserve r)
  | noValidate (hpin : (s.dev.res r).pinCount = 0) (s₁ : PinState) (hbuf : pinBackup s r o = some (0, s₁))
      (dev : State) (ret : Int) (hret : ret ≠ 0)
      (hval : vmwResourceValidate s₁.dev r o.attempts = some (ret, dev))
      (hs' : s' = PinState.unreserve { s₁ with dev } r)
  | first (hpin : (s.dev.res r).pinCount = 0) (s₁ : PinState) (hbuf : pinBackup s r o = some (0, s₁))
      (dev : State) (hval : vmwResourceValidate s₁.dev r o.attempts = some (0, dev))
      (hs' : s' = (PinState.setPinCount { s₁ with dev } r ((dev.res r).pinCount + 1)).unreserve r)

theorem vmwResourcePin_cases (h : vmwResourcePin s r o = some (ret, s')) :
    ∃ ret₁ s₁, pinReserve s r false o.alloc = some (ret₁, s₁) ∧
      ((ret₁ ≠ 0 ∧ s' = s₁) ∨ (ret₁ = 0 ∧ Pinned r o s₁ s')) := by
  unfold vmwResourcePin at h
  obtain ⟨⟨ret₁, s₁⟩, hres, h⟩ := Option.bind_eq_some_iff.mp h
  refine ⟨ret₁, s₁, hres, ?_⟩
  simp only at h
  split at h
  · rename_i hfail
    cases h
    exact .inl ⟨hfail, rfl⟩
  · rename_i hok
    refine .inr ⟨not_not.mp hok, ?_⟩
    split at h
    · rename_i hpin
      cases h
      exact .again hpin rfl
    · rename_i hpin
      have hpin : (s₁.dev.res r).pinCount = 0 := not_not.mp hpin
      obtain ⟨⟨ret₂, s₂⟩, hbuf, h⟩ := Option.bind_eq_some_iff.mp h
      simp only at h
      split at h
      · rename_i hfail
        cases h
        exact .noBuffer hpin s₂ _ hfail hbuf rfl
      · rename_i hret₂
        cases not_not.mp hret₂
        obtain ⟨⟨ret₃, dev⟩, hval, heq⟩ := Option.map_eq_some_iff.mp h
        simp only at heq
        split at heq
        · rename_i hfail
          cases heq
          exact .noValidate hpin s₂ hbuf dev _ hfail hval rfl
        · rename_i hret₃
          cases not_not.mp hret₃
          cases heq
          exact .first hpin s₂ hbuf dev hval rfl

/-- The reservation of a pin or an unpin is the one of a submission, but where it fails. -/
theorem pinReserve_cases (hasMob : Bool) {noBackup : Bool} {alloc : Option BufId} {s₁ : PinState}
    (h : pinReserve s r noBackup alloc = some (ret, s₁)) (hidle : (s.dev.res r).phase = .idle) :
    (ret = 0 ∧ step hasMob s.dev (.reserve r noBackup alloc) = some s₁.dev ∧
      s₁.noEvict = s.noEvict ∧ s₁.pinnedFor = s.pinnedFor) ∨
    (ret ≠ 0 ∧ s₁ = { s with dev := s.dev.lruDel r } ∧
      (s.dev.res r).func.needsBackup = true ∧ (s.dev.res r).backup = none ∧ noBackup = false ∧ alloc = none) := by
  unfold pinReserve at h
  obtain ⟨⟨ret₁, dev⟩, hres, heq⟩ := Option.map_eq_some_iff.mp h
  simp only at heq
  split at heq
  · rename_i hret
    cases heq
    refine .inl ⟨hret, ?_, rfl, rfl⟩
    simp [step, hidle, hres]
  · rename_i hfail
    cases heq
    refine .inr ⟨hfail, ?_⟩
    unfold vmwResourceReserve at hres
    simp only at hres
    split at hres
    · rename_i hneed
      have hnone : ((s.dev.lruDel r).res r).backup = none := Option.isNone_iff_eq_none.mp hneed.2.1
      unfold vmwResourceBufAlloc at hres
      rw [hnone] at hres
      cases alloc with
      | none =>
        cases hres
        exact ⟨rfl, hneed.1, hnone, by simpa using hneed.2.2, rfl⟩
      | some b =>
        simp only at hres
        split at hres
        · cases hres
        · cases hres
          exact absurd rfl hfail
    · cases hres
      exact absurd rfl hfail

theorem DevInv.unreserve {s : State} (h : DevInv lost s) (hr : r ∈ s.resources) :
    DevInv lost (vmwResourceUnreserve (s.setPhase r .idle) r none 0) where
  inv := vmwResourceUnreserve_inv (h.inv.setIdle hr) hr (by rw [State.setPhase, modify_res, if_pos rfl])
    (fun _ hb => nomatch hb)
  lru := h.lru.unreserve h.inv none 0

theorem DevInv.setPinCount {s : State} (h : DevInv lost s) (hbusy : (s.res r).Busy) (n : Nat) :
    DevInv lost (s.modify r (fun res => { res with pinCount := n })) where
  inv := h.inv.modify_clean (h.inv.known_busy hbusy) rfl rfl rfl rfl id
  lru := by
    have hout : ∀ type, r ∉ s.lru type := fun type hmem => hbusy.not_idle (h.inv.lru type r hmem).1
    refine ⟨fun r' hlost hidle hev => ?_, fun type r' hmem => ?_, h.lru.nodup⟩
    · have hne : r' ≠ r := by
        rintro rfl
        rw [modify_res, if_pos rfl] at hidle
        exact hbusy.not_idle hidle
      rw [modify_res, if_neg hne] at hidle hev ⊢
      exact h.lru.listed r' hlost hidle hev
    · have hne : r' ≠ r := by
        rintro rfl
        exact hout type hmem
      rw [modify_res, if_neg hne]
      exact h.lru.spare type r' hmem

theorem DevInv.moveOut {s s' : State} (h : DevInv lost s) {keep : BufId} {moves : List (BufId × List Unbind)}
    (hmove : moveOut s keep moves = some s') : DevInv lost s' ∧ Steady s s' := by
  obtain ⟨hinv, hsteady, -⟩ := moveOut_spec h.inv hmove
  exact ⟨⟨hinv, h.lru.frame (fun r => .moveOut r hmove) hsteady.lru hsteady.placed.phase⟩, hsteady⟩

/-- How the backup comes to be pinned. -/
structure BackupPinned (lost : ResId → Prop) (r : ResId) (ret : Int) (s s' : PinState) : Prop where
  dev : DevInv lost s'.dev
  steady : Steady s.dev s'.dev
  pinCount : ∀ r', (s'.dev.res r').pinCount = (s.dev.res r').pinCount
  none : (s.dev.res r).backup = none → s' = s
  fail : ret ≠ 0 → s'.noEvict = s.noEvict ∧ s'.pinnedFor = s.pinnedFor
  done : ∀ b, ret = 0 → (s.dev.res r).backup = some b →
    s'.noEvict = Function.update s.noEvict b true ∧ s'.pinnedFor = Function.update s.pinnedFor r (some b)

theorem pinBackup_spec (h : DevInv lost s.dev) (hbuf : pinBackup s r o = some (ret, s')) :
    BackupPinned lost r ret s s' := by
  unfold pinBackup at hbuf
  split at hbuf
  · rename_i hnone
    cases hbuf
    refine ⟨h, .refl _, fun _ => rfl, fun _ => rfl, fun _ => ⟨rfl, rfl⟩, fun b _ hb => ?_⟩
    rw [hnone] at hb
    cases hb
  · rename_i b hback
    obtain ⟨dev, hmove, heq⟩ := Option.map_eq_some_iff.mp hbuf
    obtain ⟨hdev, hsteady⟩ := h.moveOut hmove
    have hpin := (Beside.moveOut r hmove).pinCount
    have hsome : (s.dev.res r).backup ≠ none := by rw [hback]; exact Option.some_ne_none b
    split at heq
    · rename_i hfail
      cases heq
      exact ⟨hdev, hsteady, hpin, fun hn => absurd hn hsome, fun _ => ⟨rfl, rfl⟩, fun _ hret => absurd hret hfail⟩
    · cases heq
      refine ⟨hdev, hsteady, hpin, fun hn => absurd hn hsome, fun hret => absurd rfl hret, fun b' _ hb' => ?_⟩
      cases hback.symm.trans hb'
      exact ⟨rfl, rfl⟩

/-- The validation that a pin does. -/
theorem vmwResourceValidate_kept {s s' : State} {os : List Attempt} (h : DevInv lost s)
    (hphase : (s.res r).phase = .reserved) (hval : vmwResourceValidate s r os = some (ret, s')) :
    ∃ t, t = (if ret = 0 then s'.setPhase r .validated else s') ∧ DevInv lost t ∧ (t.res r).Busy ∧ Kept r s t := by
  obtain ⟨acts, hrun⟩ := vmwResourceValidate_run true h.inv hphase hval
  exact ⟨_, rfl, h.rounds (.inl hphase) hrun⟩

theorem setPhase_idle (s : State) (r : ResId) (p : Phase) (n : Nat) :
    ((s.setPhase r p).modify r (fun res => { res with pinCount := n })).setPhase r .idle
      = (s.modify r (fun res => { res with pinCount := n })).setPhase r .idle := by
  simp [State.setPhase, State.modify]

theorem reserve_phase {s s' : State} {noBackup : Bool} {alloc : Option BufId}
    (hstep : step hasMob s (.reserve r noBackup alloc) = some s') : (s'.res r).phase = .reserved := by
  simp only [step] at hstep
  split at hstep
  · cases hstep
  · obtain ⟨⟨ret, t⟩, -, rfl⟩ := Option.map_eq_some_iff.mp hstep
    simp only [State.setPhase, modify_res, if_pos]

theorem DevInv.pinned (h : DevInv lost s.dev) (hphase : (s.dev.res r).phase = .reserved) (hpin : Pinned r o s s') :
    DevInv lost s'.dev := by
  have hr := h.inv.known_busy (.inl hphase)
  cases hpin with
  | again _ hs' =>
    rw [hs']
    exact (h.setPinCount (.inl hphase) _).unreserve hr
  | noBuffer _ s₁ ret _ hbuf hs' =>
    have hb := pinBackup_spec h hbuf
    rw [hs']
    exact hb.dev.unreserve (hb.steady.resources ▸ hr)
  | noValidate _ s₁ hbuf dev ret hret hval hs' =>
    have hb := pinBackup_spec h hbuf
    obtain ⟨t, ht, hdev, hbusy, -⟩ := vmwResourceValidate_kept hb.dev ((hb.steady.res r).phase.trans hphase) hval
    rw [if_neg hret] at ht
    cases ht
    rw [hs']
    exact hdev.unreserve (hdev.inv.known_busy hbusy)
  | first _ s₁ hbuf dev hval hs' =>
    have hb := pinBackup_spec h hbuf
    obtain ⟨t, ht, hdev, hbusy, -⟩ := vmwResourceValidate_kept hb.dev ((hb.steady.res r).phase.trans hphase) hval
    rw [if_pos rfl] at ht
    have hset := (hdev.setPinCount hbusy ((dev.res r).pinCount + 1)).unreserve (hdev.inv.known_busy hbusy)
    rw [ht, setPhase_idle] at hset
    rw [hs']
    exact hset

/-- The reservation loses the resource: it is taken off its list, and gets no backup. -/
def Loses (s : State) (r : ResId) (alloc : Option BufId) : Prop :=
  (s.res r).func.needsBackup = true ∧ (s.res r).backup = none ∧ alloc = none ∧ (s.res r).Evictable

theorem DevInv.lruDel {s : State} (h : DevInv lost s) (hev : (s.res r).Evictable → lost r) :
    DevInv lost (s.lruDel r) where
  inv := h.inv.lruDel r
  lru := by
    refine ⟨fun r' hlost hidle hev' => ?_, fun type r' hmem => ?_, fun type => nodup_lruDel (h.lru.nodup type)⟩
    · have hne : r' ≠ r := fun heq => hlost (heq ▸ hev (heq ▸ hev'))
      exact mem_lruDel.mpr ⟨h.lru.listed r' hlost hidle hev', fun heq => hne heq.1⟩
    · exact h.lru.spare type r' (mem_lruDel.mp hmem).1

theorem DevInv.pin (h : DevInv lost s.dev) (hidle : (s.dev.res r).phase = .idle) (hok : Loses s.dev r o.alloc → lost r)
    (hpin : vmwResourcePin s r o = some (ret, s')) : DevInv lost s'.dev := by
  obtain ⟨ret₁, s₁, hres, hpin⟩ := vmwResourcePin_cases hpin
  rcases pinReserve_cases true hres hidle with
    ⟨hret, hstep, -⟩ | ⟨hret, rfl, hneeds, hnone, -, halloc⟩
  · rcases hpin with ⟨hfail, -⟩ | ⟨-, hpin⟩
    · exact absurd hret hfail
    · exact (h.step (fun _ _ => Action.noConfusion) hstep).pinned (reserve_phase hstep) hpin
  · rcases hpin with ⟨-, rfl⟩ | ⟨hok', -⟩
    · exact h.lruDel (fun hev => hok ⟨hneeds, hnone, halloc, hev⟩)
    · exact absurd hok' hret

/-- The buffer that the last unpin lets go of. -/
def unpinBackup (s : PinState) (r : ResId) : PinState :=
  if (s.dev.res r).pinCount = 0 then
    match (s.dev.res r).backup with
    | none => s
    | some b => s.vmwBoUnpin r b
  else s

theorem unpinBackup_dev (s : PinState) (r : ResId) : (unpinBackup s r).dev = s.dev := by
  unfold unpinBackup
  split
  · split <;> rfl
  · rfl

theorem vmwResourceUnpin_cases (hasMob : Bool) (hunpin : vmwResourceUnpin s r = some s') (hidle : (s.dev.res r).phase = .idle) :
    ∃ s₁ : PinState, step hasMob s.dev (.reserve r true none) = some s₁.dev ∧ s₁.noEvict = s.noEvict ∧
      s₁.pinnedFor = s.pinnedFor ∧
      s' = (unpinBackup (s₁.setPinCount r ((s₁.dev.res r).pinCount - 1)) r).unreserve r := by
  obtain ⟨⟨ret, s₁⟩, hres, rfl⟩ := Option.map_eq_some_iff.mp hunpin
  rcases pinReserve_cases hasMob hres hidle with ⟨-, hstep, hno, hfor⟩ | ⟨-, -, -, -, hno, -⟩
  · exact ⟨s₁, hstep, hno, hfor, rfl⟩
  · cases hno

theorem DevInv.unpin (h : DevInv lost s.dev) (hidle : (s.dev.res r).phase = .idle)
    (hunpin : vmwResourceUnpin s r = some s') : DevInv lost s'.dev := by
  obtain ⟨s₁, hstep, -, -, rfl⟩ := vmwResourceUnpin_cases true hunpin hidle
  have hbusy : (s₁.dev.res r).Busy := .inl (reserve_phase hstep)
  have hdev := h.step (fun _ _ => Action.noConfusion) hstep
  have hset := (hdev.setPinCount hbusy ((s₁.dev.res r).pinCount - 1)).unreserve (hdev.inv.known_busy hbusy)
  show DevInv lost (vmwResourceUnreserve (State.setPhase (unpinBackup _ r).dev r .idle) r none 0)
  rw [unpinBackup_dev]
  exact hset

/-- No pin loses its resource. -/
def KeepsListed (s : PinState) : PinAction → Prop
  | .pin r o => ¬ Loses s.dev r o.alloc
  | _ => True

theorem DevInv.pinStep (h : DevInv lost s.dev) {a : PinAction}
    (hok : ∀ r o, a = .pin r o → Loses s.dev r o.alloc → lost r) (hstep : pinStep hasMob s a = some s') : DevInv lost s'.dev := by
  cases a with
  | res a =>
    have hdev : (∀ r n, a ≠ .pin r n) → (Resource.step hasMob s.dev a).map (fun dev => { s with dev }) = some s' →
        DevInv lost s'.dev := by
      intro hpin hmap
      obtain ⟨dev, hdev, rfl⟩ := Option.map_eq_some_iff.mp hmap
      exact h.step hpin hdev
    cases a with
    | pin r n => cases hstep
    | release r u =>
      simp only [Resource.pinStep] at hstep
      split at hstep
      · cases hstep
      · exact hdev (fun _ _ => Action.noConfusion) hstep
    | _ => exact hdev (fun _ _ => Action.noConfusion) hstep
  | pin r o =>
    simp only [Resource.pinStep] at hstep
    split at hstep
    · cases hstep
    · rename_i hidle
      obtain ⟨⟨ret, s₁⟩, hpin, rfl⟩ := Option.map_eq_some_iff.mp hstep
      exact h.pin (not_not.mp hidle) (hok r o rfl) hpin
  | unpin r =>
    simp only [Resource.pinStep] at hstep
    split at hstep
    · cases hstep
    · rename_i hidle
      exact h.unpin (not_not.mp (fun hne => hidle (.inl hne))) hstep

end Pin

section Choice

variable {lost : ResId → Prop} {s s' t : State} {r : ResId} {type : ResType} {hasMob : Bool}

theorem filter_head {v : ResId} {rest : List ResId} (h : (v :: rest).Nodup) : (v :: rest).filter (· ≠ v) = rest := by
  have hout : v ∉ rest := (List.nodup_cons.mp h).1
  rw [List.filter_cons_of_neg (by simp), List.filter_eq_self]
  intro x hx
  simpa using fun heq : x = v => hout (heq ▸ hx)

/-- A round takes the head away, and whatever comes back goes to the tail. -/
theorem evictOne_tail (h : DevInv lost s) {o : Attempt} {ret : Int} {v : ResId} {rest : List ResId}
    (hlru : s.lru type = v :: rest) (hstep : evictOne s type o = some (ret, s')) :
    ∃ l, s'.lru type = rest ++ l := by
  obtain ⟨w, t, hw⟩ := evictOne_cases h.inv hstep
  obtain ⟨rest', hhead⟩ := hw.head
  obtain ⟨rfl, rfl⟩ := List.cons.inj (hlru.symm.trans hhead)
  have htype : (s.res v).func.resType = type := (h.inv.lru type v (hlru ▸ List.mem_cons_self)).2
  have hnodup := h.lru.nodup type
  have hdel : t.lru type = rest := by
    rw [hw.placed.lru, lruDel_lru, htype, Function.update_self, hlru]
    exact filter_head (hlru ▸ hnodup)
  have htype' : (t.res v).func.resType = type := (congrArg _ (hw.placed.func v)).trans htype
  have hback : ∃ l, (if ret = 0 then t else t.lruAdd v).lru type = rest ++ l ∧
      ((if ret = 0 then t else t.lruAdd v).res v).func.resType = type ∧ l.filter (· ≠ v) = [] := by
    split
    · exact ⟨[], by rw [hdel, List.append_nil], htype', rfl⟩
    · refine ⟨[v], ?_, htype', by simp⟩
      rw [lruAdd_lru, htype', Function.update_self, hdel]
  obtain ⟨l, hl, hltype, hlv⟩ := hback
  rw [hw.after]
  unfold putVictim
  split
  · refine ⟨[], ?_⟩
    have hrest : rest.filter (· ≠ v) = rest := by
      have := filter_head (hlru ▸ hnodup)
      rwa [List.filter_cons_of_neg (by simp)] at this
    rw [(vmwResourceRelease_lru _ v _).1, lruDel_lru, hltype, Function.update_self, hl, List.filter_append, hlv,
      hrest]
  · exact ⟨l, hl⟩

/-- As many rounds as there are resources before it bring a resource to the head. -/
theorem evict_rounds (h : DevInv lost s) {before rest : List ResId} (hlru : s.lru type = before ++ r :: rest)
    {os : List Attempt} (hlen : os.length = before.length)
    (hrun : Run (step hasMob) (fun _ _ => True) s (os.map (.evict type)) t) : ∃ rest', t.lru type = r :: rest' := by
  induction before generalizing s os rest with
  | nil =>
    rw [List.length_eq_zero_iff.mp hlen] at hrun
    cases hrun
    exact ⟨rest, hlru⟩
  | cons v before ih =>
    cases os with
    | nil => cases hlen
    | cons o os =>
      cases hrun with
      | cons _ hstep hrun =>
        obtain ⟨⟨ret, s₁⟩, hevict, rfl⟩ := Option.map_eq_some_iff.mp hstep
        obtain ⟨l, hl⟩ := evictOne_tail h hlru hevict
        have hdev := h.step (fun _ _ => Action.noConfusion) hstep
        have hnext := hl.trans (List.append_assoc before (r :: rest) l)
        rw [List.cons_append] at hnext
        exact ih hdev hnext (Nat.succ.inj hlen) hrun

/-- A victim whose buffer cannot be reserved. -/
def stuck : Attempt := ⟨0, 0, 0, ⟨⟨none, -ENOMEM, [], 0⟩, ⟨0, 0⟩, 0⟩, false, ⟨0, 0⟩⟩

theorem evictOne_stuck (hasMob : Bool) (h : DevInv lost s) {v : ResId} {rest : List ResId} (hlru : s.lru type = v :: rest) :
    ∃ t, step hasMob s (.evict type stuck) = some t := by
  have hmay : ((s.lruDel v).res v).func.mayEvict = true := (h.lru.spare type v (hlru ▸ List.mem_cons_self)).1
  have hcheck : ∃ p, vmwResourceDoEvict (s.lruDel v) v stuck.evict = some p := by
    have hne : ¬ -ENOMEM = 0 := by decide
    unfold vmwResourceDoEvict vmwResourceCheckBuffer vmwResourceBufAlloc
    cases hback : ((s.lruDel v).res v).backup with
    | none => simp [hmay, stuck, hne]
    | some b => simp [hmay, stuck, hback, hne]
  obtain ⟨p, hp⟩ := hcheck
  refine ⟨putVictim (if p.1 = 0 then p.2 else p.2.lruAdd v) v stuck, ?_⟩
  simp only [step, evictOne, hlru, hp, Option.map_some]

theorem evict_reaches (h : DevInv lost s) {before rest : List ResId} (hlru : s.lru type = before ++ r :: rest) :
    ∃ (os : List Attempt) (t : State), os.length = before.length ∧
      Run (step hasMob) (fun _ _ => True) s (os.map (.evict type)) t := by
  induction before generalizing s rest with
  | nil => exact ⟨[], s, rfl, .nil s⟩
  | cons v before ih =>
    obtain ⟨s₁, hstep⟩ := evictOne_stuck hasMob h hlru
    obtain ⟨⟨ret, s₁⟩, hevict, rfl⟩ := Option.map_eq_some_iff.mp hstep
    obtain ⟨l, hl⟩ := evictOne_tail h hlru hevict
    have hdev := h.step (fun _ _ => Action.noConfusion) hstep
    have hnext := hl.trans (List.append_assoc before (r :: rest) l)
    rw [List.cons_append] at hnext
    obtain ⟨os, t, hlen, hrun⟩ := ih hdev hnext
    exact ⟨stuck :: os, t, congrArg Nat.succ hlen, .cons trivial hstep hrun⟩

end Choice

/-- The lru lists hold exactly what can be evicted. -/
structure LruExact (hasMob : Bool) (s : State) : Prop where
  /-- An unpinned resource on the device is on its own list, once. -/
  once : ∀ r, (s.res r).phase = .idle → (s.res r).Evictable →
    ∀ type, (s.lru type).count r = if type = (s.res r).func.resType then 1 else 0
  /-- A pinned resource, or one being released, is on none. -/
  never : ∀ r, (s.res r).pinCount ≠ 0 ∨ (s.res r).phase = .released → ∀ type, r ∉ s.lru type
  /-- It becomes the next victim after as many rounds as there are others before it. -/
  chosen : ∀ r, (s.res r).phase = .idle → (s.res r).Evictable →
    ∃ n, (∀ (os : List Attempt) (t : State), os.length = n →
        Run (step hasMob) (fun _ _ => True) s (os.map (.evict (s.res r).func.resType)) t →
        ∃ rest, t.lru (s.res r).func.resType = r :: rest) ∧
      ∃ (os : List Attempt) (t : State), os.length = n ∧
        Run (step hasMob) (fun _ _ => True) s (os.map (.evict (s.res r).func.resType)) t
  /-- No round takes a pinned one. -/
  spared : ∀ r, (s.res r).pinCount ≠ 0 → ∀ type o ret s', evictOne s type o = some (ret, s') →
    ∃ v rest, s.lru type = v :: rest ∧ v ≠ r

theorem lru_exact {hasMob : Bool} {acts : List PinAction} {s : PinState}
    (hrun : Run (pinStep hasMob) KeepsListed PinState.init acts s) : LruExact hasMob s.dev := by
  have h : DevInv (fun _ => False) s.dev := by
    apply hrun.invariant (I := fun s => DevInv (fun _ => False) s.dev) ?_ ⟨Inv.init, lruInv_init⟩
    intro s a s' hok hstep h
    apply h.pinStep ?_ hstep
    rintro r o rfl
    exact hok
  refine ⟨fun r hidle hev type => ?_, fun r hout type hmem => ?_, fun r hidle hev => ?_,
    fun r hpin type o ret s' hevict => ?_⟩
  · split
    · rename_i htype
      rw [(h.lru.nodup type).count, if_pos (htype ▸ h.lru.listed r id hidle hev)]
    · rename_i htype
      exact List.count_eq_zero.mpr (fun hmem => htype (h.inv.lru type r hmem).2.symm)
  · rcases hout with hpin | hreleased
    · exact hpin (h.lru.spare type r hmem).2
    · rw [(h.inv.lru type r hmem).1] at hreleased
      cases hreleased
  · obtain ⟨before, rest, hlru⟩ := List.append_of_mem (h.lru.listed r id hidle hev)
    refine ⟨before.length, fun os t hlen hrun => evict_rounds h hlru hlen hrun, evict_reaches h hlru⟩
  · obtain ⟨v, t, hv⟩ := evictOne_cases h.inv hevict
    obtain ⟨rest, hhead⟩ := hv.head
    refine ⟨v, rest, hhead, ?_⟩
    rintro rfl
    exact hpin (h.lru.spare type v (hhead ▸ List.mem_cons_self)).2

section Example

private def succeeds : Attempt := ⟨0, 0, 0, ⟨⟨none, 0, [], 0⟩, ⟨0, 0⟩, 0⟩, false, ⟨0, 0⟩⟩

/-- A batch that gives a shader a new backup and fails later leaves it on the device without one. -/
private def aborted : List PinAction :=
  [.res (.shaderDefine 7 64 0 none), .res (.reserve 7 true none), .res (.validate 7 succeeds),
   .res (.unreserve 7 none 0)]

/-- The pin that gets no backup loses the shader. -/
theorem lru_lost_shader : ∃ s : PinState,
    Run (pinStep true) (fun _ _ => True) PinState.init (aborted ++ [.pin 7 ⟨none, [], 0, []⟩]) s ∧
      (s.dev.res 7).phase = .idle ∧ (s.dev.res 7).Evictable ∧ s.dev.lru .shader = [] ∧
      ¬ LruExact true s.dev := by
  have hrun : Run (pinStep true) (fun _ _ => True) PinState.init (aborted ++ [.pin 7 ⟨none, [], 0, []⟩]) _ :=
    .cons trivial rfl (.cons trivial rfl (.cons trivial rfl (.cons trivial rfl (.cons trivial rfl (.nil _)))))
  refine ⟨_, hrun, rfl, ⟨rfl, rfl, rfl⟩, rfl, fun h => ?_⟩
  have hcount := h.once 7 rfl ⟨rfl, rfl, rfl⟩ .shader
  exact absurd hcount (by decide)

/-- A pin that gets one keeps the shader off its list. -/
theorem lru_exact_shader : ∃ s : PinState, (s.dev.res 7).pinCount = 1 ∧ LruExact true s.dev := by
  have hrun : Run (pinStep true) KeepsListed PinState.init (aborted ++ [.pin 7 ⟨some 1, [], 0, [succeeds]⟩]) _ :=
    .cons trivial rfl (.cons trivial rfl (.cons trivial rfl (.cons trivial rfl
      (.cons (fun h => nomatch h.2.2.1) rfl (.nil _)))))
  refine ⟨_, ?_, lru_exact hrun⟩
  decide +kernel

end Example

end Vmwgfx.Resource
