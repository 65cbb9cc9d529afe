import Vmwgfx.GbSurface.Defs

/-! The handles of the ioctl that creates a guest-backed surface. -/

namespace Vmwgfx.GbSurface

open Object Resource

section Register

variable {t : Table} {tfile : TFile} {b : BaseInit} {shareable : Bool} {type : TtmObjectType} {release : Container}

/-- The tables with a new object that the file has one reference on. -/
def register (t : Table) (tfile : TFile) (b : BaseInit) (shareable : Bool) (type : TtmObjectType)
    (release : Container) : Table :=
  { t.setRef tfile b.key (some ⟨b.base, 1⟩) with
    obj := Function.update t.obj b.base ⟨b.key, .primeType, type, shareable, tfile, 1, release⟩
    objectHash := Function.update t.objectHash b.key (some b.base) }

theorem ttmPrimeObjectInit_works (h : b.Works) (href : t.refHash tfile b.key = none) :
    ttmPrimeObjectInit t tfile b shareable type release = (0, register t tfile b shareable type release) := by
  obtain ⟨hinsert, halloc⟩ := h
  unfold ttmPrimeObjectInit
  simp only [hinsert, halloc, ne_eq, not_true_eq_false, if_false]
  simp [ttmRefObjectAdd, href, ttmBaseObjectUnref, register, Table.setRef, Table.setRefcount]

theorem ttmPrimeObjectInit_fails (h : ¬ b.Works) (href : t.refHash tfile b.key = none) :
    (ttmPrimeObjectInit t tfile b shareable type release).1 < 0 ∧
      (ttmPrimeObjectInit t tfile b shareable type release).2.refHash = t.refHash := by
  unfold ttmPrimeObjectInit
  dsimp only
  by_cases hinsert : b.hashInsert.1 = 0
  · have halloc : b.refAlloc.1 ≠ 0 := fun halloc => h ⟨hinsert, halloc⟩
    simp only [hinsert, ne_eq, not_true_eq_false, if_false]
    simp only [ttmRefObjectAdd, Function.update_self, ne_eq, not_true_eq_false, false_and, if_false, href, halloc,
      not_false_eq_true, if_true]
    exact ⟨lt_of_le_of_ne b.refAlloc.2 halloc, trivial⟩
  · rw [if_pos hinsert]
    exact ⟨lt_of_le_of_ne b.hashInsert.2 hinsert, rfl⟩

@[simp] theorem register_obj_of_ne {o : ObjId} (h : o ≠ b.base) :
    (register t tfile b shareable type release).obj o = t.obj o := by
  simp [register, h]

theorem register_refHash_of_ne {key : Handle} (h : key ≠ b.key) :
    (register t tfile b shareable type release).refHash tfile key = t.refHash tfile key := by
  simp [register, Table.setRef, h]

@[simp] theorem register_refHash_self :
    (register t tfile b shareable type release).refHash tfile b.key = some ⟨b.base, 1⟩ := by
  simp [register, Table.setRef]

@[simp] theorem register_objectHash_self : (register t tfile b shareable type release).objectHash b.key = some b.base := by
  simp [register]

@[simp] theorem register_key : ((register t tfile b shareable type release).obj b.base).key = b.key := by
  simp [register]

@[simp] theorem register_refcount : ((register t tfile b shareable type release).obj b.base).refcount = 1 := by
  simp [register]

theorem register_held (h : t.refHash tfile b.key = none) :
    (register t tfile b shareable type release).held tfile = grant (t.held tfile) b.key := by
  have hset := held_setRef_addRef t tfile b.base b.key
  rw [h] at hset
  exact hset

end Register

section Unref

@[simp] theorem vmwResourceUnreference_srf (s : State) (res : ObjId) : (vmwResourceUnreference s res).srf = s.srf := rfl

/-- Only references to containers are dropped. -/
theorem vmwResourceUnreference_frame (s : State) (res : ObjId) :
    (vmwResourceUnreference s res).table.refHash = s.table.refHash ∧
      (vmwResourceUnreference s res).table.objectHash = s.table.objectHash ∧
      (vmwResourceUnreference s res).table.obj = s.table.obj := by
  unfold vmwResourceUnreference
  dsimp only
  split
  · split
    · exact ⟨rfl, rfl, rfl⟩
    · exact ⟨rfl, rfl, rfl⟩
  · exact ⟨rfl, rfl, rfl⟩

@[simp] theorem vmwResourceUnreference_refHash (s : State) (res : ObjId) :
    (vmwResourceUnreference s res).table.refHash = s.table.refHash := (vmwResourceUnreference_frame s res).1

theorem vmwResourceUnreference_objectHash (s : State) (res : ObjId) :
    (vmwResourceUnreference s res).table.objectHash = s.table.objectHash := (vmwResourceUnreference_frame s res).2.1

theorem vmwResourceUnreference_obj (s : State) (res : ObjId) :
    (vmwResourceUnreference s res).table.obj = s.table.obj := (vmwResourceUnreference_frame s res).2.2

theorem resolves_congr {t t' : Table} (href : t.refHash = t'.refHash) (hobj : t.obj = t'.obj) {tfile : TFile}
    {key : Handle} {base : ObjId} : Resolves t tfile key base ↔ Resolves t' tfile key base := by
  rw [resolves_iff, resolves_iff, href, hobj]

end Unref

section Lookup

variable {t : Table} {tfile : TFile} {handle : Handle} {ref : RefObject}

/-- The lookup of a named buffer only counts the buffer itself. -/
theorem vmwUserDmabufLookup_named (href : t.refHash tfile handle = some ref) (hcount : (t.obj ref.obj).refcount ≠ 0)
    (htype : ttmBaseObjectType (t.obj ref.obj) = .bufferType) :
    vmwUserDmabufLookup t tfile handle =
      ⟨0, t.setInner ref.obj .userDmaBuffer (t.inner ref.obj .userDmaBuffer + 1), [(ref.obj, .userDmaBuffer)]⟩ := by
  have hlook : ttmBaseObjectLookup t tfile handle =
      some (ref.obj, t.setRefcount ref.obj ((t.obj ref.obj).refcount + 1)) := by
    unfold ttmBaseObjectLookup
    rw [href, Option.bind_some, krefGetUnlessZero_eq hcount]
    rfl
  unfold vmwUserDmabufLookup
  rw [hlook]
  dsimp only
  rw [Table.setRefcount_type, if_neg (not_not.mpr htype), Outcome.mk.injEq]
  refine ⟨rfl, ?_, rfl⟩
  exact ttmBaseObjectUnref_get (t := t.setInner ref.obj .userDmaBuffer (t.inner ref.obj .userDmaBuffer + 1)) hcount

theorem vmwUserDmabufLookup_unnamed (h : ¬ NamesBuffer t tfile handle) :
    (vmwUserDmabufLookup t tfile handle).ret < 0 ∧ (vmwUserDmabufLookup t tfile handle).table = t := by
  cases hlook : ttmBaseObjectLookup t tfile handle with
  | none =>
    unfold vmwUserDmabufLookup
    rw [hlook]
    exact ⟨(by decide : -ESRCH < 0), rfl⟩
  | some p =>
    obtain ⟨base, t'⟩ := p
    obtain ⟨ref, href, hobj, -⟩ := resolves_iff.mp (congrArg (Option.map Prod.fst) hlook)
    have htype : ttmBaseObjectType (t.obj base) ≠ .bufferType := fun htype => h ⟨ref, href, by rw [hobj]; exact htype⟩
    rw [vmwUserDmabufLookup_refused hlook htype]
    exact ⟨(by decide : -EINVAL < 0), rfl⟩

end Lookup

section Truth

variable {s s' : State} {tfile : TFile} {granted : CreateRep → List Handle} {r : Result CreateRep} {rep : CreateRep}

theorem Truthful.of_error (hneg : r.ret < 0) (href : r.state.table.refHash tfile = s.table.refHash tfile) :
    Truthful s tfile granted r :=
  ⟨fun h => absurd h hneg.ne, fun _ => ⟨hneg, href⟩⟩

/-- With the references right a reply is as true as its handle. -/
theorem truthful_success {srf : ObjId} (hkey : s'.table.objectHash rep.handle = some srf)
    (hheld : s'.table.held tfile = (granted rep).foldl grant (s.table.held tfile)) :
    Truthful s tfile granted ⟨0, some rep, s'⟩ ↔
      HandleTrue s'.table tfile rep.bufferHandle (s'.srf srf).backup := by
  constructor
  · intro h
    obtain ⟨rep', hrep, ⟨srf', hsrf, htrue⟩, -⟩ := h.success rfl
    cases hrep
    rw [hkey] at hsrf
    cases hsrf
    exact htrue
  · exact fun h => ⟨fun _ => ⟨rep, rfl, ⟨srf, hkey, h⟩, hheld⟩, fun hne => absurd rfl hne⟩

end Truth

section Finish

variable {descs : Nat → Option Svga3dSurfaceDesc} {s s₁ s₂ : State} {file : DrmFile} {tfile : TFile} {req : CreateReq}
  {k : DefineSteps} {handle : Handle}

theorem define_not_begins (h : ¬ Begins descs req k) :
    ∃ ret < 0, vmwGbSurfaceDefineIoctl descs s file req k = ⟨ret, none, s⟩ := by
  unfold vmwGbSurfaceDefineIoctl
  split
  · exact ⟨_, by decide, rfl⟩
  rename_i desc hdesc
  split
  · rename_i hne
    exact ⟨_, lt_of_le_of_ne k.readLock.2 hne, rfl⟩
  rename_i hlock
  split
  · rename_i hne
    exact ⟨_, lt_of_le_of_ne k.memGlobalAlloc.2 hne, rfl⟩
  rename_i hmem
  split
  · exact ⟨_, by decide, rfl⟩
  rename_i hsrf
  split
  · rename_i hne
    exact ⟨_, lt_of_le_of_ne k.surfaceInit.2 hne, rfl⟩
  rename_i hinit
  have hbegins : Begins descs req k :=
    ⟨by rw [hdesc]; exact Option.some_ne_none desc, not_not.mp hlock, not_not.mp hmem, by simpa using hsrf, not_not.mp hinit⟩
  exact absurd hbegins h

/-- The state with the surface and without its backup. -/
def begun (s : State) (file : DrmFile) (req : CreateReq) (k : DefineSteps) (desc : Svga3dSurfaceDesc) : State :=
  { s with
    srf := Function.update s.srf k.srf.base (newSurface file req desc)
    table := s.table.setInner k.srf.base .userSurface 1 }

theorem define_begins (h : Begins descs req k) : ∃ desc,
    vmwGbSurfaceDefineIoctl descs s file req k = defineFinish (begun s file req k desc) file.tfile req k := by
  obtain ⟨desc, hdesc⟩ := Option.ne_none_iff_exists'.mp h.desc
  refine ⟨desc, ?_⟩
  unfold vmwGbSurfaceDefineIoctl
  rw [hdesc]
  simp [h.readLock, h.memGlobalAlloc, h.kzalloc, h.surfaceInit, begun]

/-- The surface gets its handle. -/
def finished (s : State) (tfile : TFile) (req : CreateReq) (k : DefineSteps) : State :=
  { s with
    table := register (s.table.setInner k.srf.base .userSurface (s.table.inner k.srf.base .userSurface + 1)) tfile k.srf
      req.shareable VMW_RES_SURFACE .userSurface }

theorem defineFinish_works (h : defineBackup s₁ tfile req k = (0, handle, s₂)) (hworks : k.srf.Works)
    (href : s₂.table.refHash tfile k.srf.key = none) :
    defineFinish s₁ tfile req k =
      ⟨0, some (replyOf (finished s₂ tfile req k) k.srf.base handle),
        vmwResourceUnreference (finished s₂ tfile req k) k.srf.base⟩ := by
  have hinit := @ttmPrimeObjectInit_works (s₂.table.setInner k.srf.base .userSurface
    (s₂.table.inner k.srf.base .userSurface + 1)) tfile k.srf req.shareable VMW_RES_SURFACE .userSurface hworks href
  unfold defineFinish
  rw [h]
  dsimp only
  rw [if_neg (by decide), hinit]
  rfl

theorem defineFinish_fails (h : defineBackup s₁ tfile req k = (0, handle, s₂)) (hfails : ¬ k.srf.Works)
    (href : s₂.table.refHash tfile k.srf.key = none) :
    (defineFinish s₁ tfile req k).ret < 0 ∧ (defineFinish s₁ tfile req k).state.table.refHash = s₂.table.refHash := by
  have hinit := @ttmPrimeObjectInit_fails (s₂.table.setInner k.srf.base .userSurface
    (s₂.table.inner k.srf.base .userSurface + 1)) tfile k.srf req.shareable VMW_RES_SURFACE .userSurface hfails href
  unfold defineFinish
  rw [h]
  dsimp only
  rw [if_neg (by decide), if_pos hinit.1.ne]
  refine ⟨hinit.1, ?_⟩
  simp only [vmwResourceUnreference_refHash]
  exact hinit.2

theorem defineFinish_error {ret : Int} (h : defineBackup s₁ tfile req k = (ret, handle, s₂)) (hneg : ret < 0) :
    (defineFinish s₁ tfile req k).ret < 0 ∧ (defineFinish s₁ tfile req k).state.table.refHash = s₂.table.refHash := by
  unfold defineFinish
  rw [h]
  dsimp only
  rw [if_pos hneg.ne]
  exact ⟨hneg, vmwResourceUnreference_refHash _ _⟩

theorem replyOf_finished_handle (s : State) (tfile : TFile) (req : CreateReq) (k : DefineSteps) (handle : Handle) :
    (replyOf (finished s tfile req k) k.srf.base handle).handle = k.srf.key := by
  unfold replyOf
  dsimp only
  split
  · exact register_key
  · exact register_key

theorem replyOf_bufferHandle {srf : ObjId} {backup : Backup} (h : (s.srf srf).backup = some backup) :
    (replyOf s srf handle).bufferHandle = handle := by
  unfold replyOf
  rw [h]

@[simp] theorem setBackup_backup (s : State) (srf : ObjId) (backup : Option Backup) :
    ((s.setBackup srf backup).srf srf).backup = backup := by
  simp [State.setBackup]

/-- The reply's truth is that of the handle where the surface has a backup. -/
theorem truthful_finished {granted : CreateRep → List Handle}
    (hheld : (finished s₂ tfile req k).table.held tfile =
      (granted (replyOf (finished s₂ tfile req k) k.srf.base handle)).foldl grant (s.table.held tfile)) :
    Truthful s tfile granted
        ⟨0, some (replyOf (finished s₂ tfile req k) k.srf.base handle),
          vmwResourceUnreference (finished s₂ tfile req k) k.srf.base⟩ ↔
      ∀ backup, (s₂.srf k.srf.base).backup = some backup →
        HandleTrue (finished s₂ tfile req k).table tfile handle (some backup) := by
  have hkey : (vmwResourceUnreference (finished s₂ tfile req k) k.srf.base).table.objectHash
      (replyOf (finished s₂ tfile req k) k.srf.base handle).handle = some k.srf.base := by
    rw [replyOf_finished_handle, vmwResourceUnreference_objectHash]
    exact register_objectHash_self
  rw [← held_congr (vmwResourceUnreference_refHash _ k.srf.base)] at hheld
  rw [truthful_success hkey hheld, vmwResourceUnreference_srf]
  have hsrf : (finished s₂ tfile req k).srf = s₂.srf := rfl
  rw [hsrf]
  unfold replyOf
  rw [hsrf]
  cases (s₂.srf k.srf.base).backup with
  | none => simp [HandleTrue]
  | some backup =>
    cases backup with
    | user b =>
      simp only [HandleTrue, Option.some.injEq, forall_eq']
      exact resolves_congr (vmwResourceUnreference_refHash _ _) (vmwResourceUnreference_obj _ _)
    | kernel buf => simp [HandleTrue]

theorem finished_held (href : s₂.table.refHash tfile k.srf.key = none) :
    (finished s₂ tfile req k).table.held tfile = grant (s₂.table.held tfile) k.srf.key := by
  have hset := @register_held (s₂.table.setInner k.srf.base .userSurface (s₂.table.inner k.srf.base .userSurface + 1))
    tfile k.srf req.shareable VMW_RES_SURFACE .userSurface href
  exact hset

end Finish

section Define

variable {descs : Nat → Option Svga3dSurfaceDesc} {s s₁ : State} {file : DrmFile} {tfile : TFile} {req : CreateReq}
  {k : DefineSteps}

/-- Without a backup. -/
theorem finish_bare (hname : req.bufferHandle = SVGA3D_INVALID_ID) (hcreate : ¬ req.createBuffer = true)
    (hsrf : (s₁.srf k.srf.base).backup = none) (href : s₁.table.refHash = s.table.refHash)
    (hkey : s.table.refHash tfile k.srf.key = none) :
    Truthful s tfile req.granted (defineFinish s₁ tfile req k) := by
  have hback : defineBackup s₁ tfile req k = (0, k.backupHandle, s₁) := by
    unfold defineBackup
    rw [if_neg (not_not.mpr hname), if_neg hcreate]
  have hnone : s₁.table.refHash tfile k.srf.key = none := by rw [href]; exact hkey
  by_cases hworks : k.srf.Works
  · rw [defineFinish_works hback hworks hnone, truthful_finished]
    · intro backup hbackup
      rw [hsrf] at hbackup
      cases hbackup
    · rw [finished_held hnone, held_congr href]
      simp [CreateReq.granted, hcreate, replyOf_finished_handle]
  · obtain ⟨hneg, hsame⟩ := defineFinish_fails hback hworks hnone
    exact .of_error hneg (by rw [hsame, href])

/-- The buffer can be made and gets its handle. -/
structure Makes (k : DefineSteps) : Prop where
  kzalloc : k.bufKzalloc = true
  dmabufInit : k.dmabufInit.1 = 0
  buf : k.buf.Works

/-- The state with the new buffer. -/
def made (s : State) (tfile : TFile) (size : Nat) (shareable : Bool) (k : DefineSteps) : State :=
  { s with
    table := register (s.table.setInner k.buf.base .userDmaBuffer 2) tfile k.buf shareable .bufferType .userDmaBuffer
    dma := Function.update s.dma k.buf.base ⟨k.addrSpaceOffset, pageAlign size / PAGE_SIZE⟩ }

theorem vmwUserDmabufAlloc_makes {size : Nat} {shareable : Bool} (h : Makes k)
    (href : s.table.refHash tfile k.buf.key = none) :
    vmwUserDmabufAlloc s tfile size shareable k = (0, made s tfile size shareable k) := by
  have hinit := @ttmPrimeObjectInit_works (s.table.setInner k.buf.base .userDmaBuffer 2) tfile k.buf shareable
    .bufferType .userDmaBuffer h.buf href
  unfold vmwUserDmabufAlloc
  simp [h.kzalloc, h.dmabufInit, hinit, made]

theorem vmwUserDmabufAlloc_fails {size : Nat} {shareable : Bool} (h : ¬ Makes k)
    (href : s.table.refHash tfile k.buf.key = none) :
    (vmwUserDmabufAlloc s tfile size shareable k).1 < 0 ∧
      (vmwUserDmabufAlloc s tfile size shareable k).2.table.refHash = s.table.refHash := by
  unfold vmwUserDmabufAlloc
  split
  · exact ⟨(by decide : -ENOMEM < 0), rfl⟩
  rename_i hkzalloc
  split
  · rename_i hinit
    exact ⟨lt_of_le_of_ne k.dmabufInit.2 hinit, rfl⟩
  rename_i hinit
  have hbuf : ¬ k.buf.Works := fun hbuf => h ⟨by simpa using hkzalloc, not_not.mp hinit, hbuf⟩
  have hfails := @ttmPrimeObjectInit_fails (s.table.setInner k.buf.base .userDmaBuffer 2) tfile k.buf shareable
    .bufferType .userDmaBuffer hbuf href
  dsimp only
  rw [if_pos hfails.1.ne]
  exact ⟨hfails.1, hfails.2⟩

/-- With a new buffer. -/
theorem finish_created (hname : req.bufferHandle = SVGA3D_INVALID_ID) (hcreate : req.createBuffer = true)
    (href : s₁.table.refHash = s.table.refHash) (hs : s.table.Consistent) (hfresh : k.Fresh s.table) :
    Truthful s tfile req.granted (defineFinish s₁ tfile req k) ↔ (Makes k → k.srf.Works) := by
  have hsrfKey : s₁.table.refHash tfile k.srf.key = none := by rw [href]; exact hs.refHash_none hfresh.srfKey tfile
  have hbufKey : s₁.table.refHash tfile k.buf.key = none := by rw [href]; exact hs.refHash_none hfresh.bufKey tfile
  by_cases hmakes : Makes k
  · have halloc := @vmwUserDmabufAlloc_makes s₁ tfile k (s₁.srf k.srf.base).backupSize req.shareable hmakes hbufKey
    generalize hs₂ : made s₁ tfile (s₁.srf k.srf.base).backupSize req.shareable k = s₂ at halloc
    have hback : defineBackup s₁ tfile req k = (0, k.buf.key, s₂.setBackup k.srf.base (some (.user k.buf.base))) := by
      unfold defineBackup
      rw [if_neg (not_not.mpr hname), if_pos hcreate, halloc]
      rfl
    have hnone : s₂.table.refHash tfile k.srf.key = none := by
      rw [← hs₂]
      exact (register_refHash_of_ne hfresh.keys).trans hsrfKey
    have hheld : s₂.table.held tfile = grant (s.table.held tfile) k.buf.key := by
      rw [← hs₂, ← held_congr href]
      exact register_held hbufKey
    by_cases hworks : k.srf.Works
    · refine ⟨fun _ _ => hworks, fun _ => ?_⟩
      have hbacked : ((finished (s₂.setBackup k.srf.base (some (.user k.buf.base))) tfile req k).srf k.srf.base).backup =
          some (.user k.buf.base) := setBackup_backup _ _ _
      rw [defineFinish_works hback hworks hnone, truthful_finished]
      · intro backup hbackup
        rw [setBackup_backup] at hbackup
        cases hbackup
        apply resolves_iff.mpr
        refine ⟨⟨k.buf.base, 1⟩, ?_, rfl, ?_⟩
        · refine (register_refHash_of_ne hfresh.keys.symm).trans ?_
          rw [setInner_refHash]
          show s₂.table.refHash tfile k.buf.key = _
          rw [← hs₂]
          exact register_refHash_self
        · have hobj : ((finished (s₂.setBackup k.srf.base (some (.user k.buf.base))) tfile req k).table.obj
              k.buf.base).refcount = 1 := by
            refine (congrArg BaseObject.refcount (register_obj_of_ne hfresh.apart.symm)).trans ?_
            show (s₂.table.obj k.buf.base).refcount = 1
            rw [← hs₂]
            exact register_refcount
          rw [hobj]
          exact Nat.one_ne_zero
      · have hgrant := @finished_held (s₂.setBackup k.srf.base (some (.user k.buf.base))) tfile req k hnone
        rw [hgrant]
        show grant (s₂.table.held tfile) k.srf.key = _
        unfold CreateReq.granted
        rw [hheld, if_pos ⟨hname, hcreate⟩, replyOf_finished_handle, replyOf_bufferHandle hbacked]
        rfl
    · refine ⟨fun htrue => ?_, fun h => absurd (h hmakes) hworks⟩
      -- the caller keeps the handle of the buffer
      obtain ⟨hneg, hsame⟩ := defineFinish_fails hback hworks hnone
      have hkept := (htrue.failure hneg.ne).2
      have hentry := congrFun hkept k.buf.key
      rw [hsame, ← href, hbufKey] at hentry
      have hself : s₂.table.refHash tfile k.buf.key = some ⟨k.buf.base, 1⟩ := by
        rw [← hs₂]
        exact register_refHash_self
      have hnone' : s₂.table.refHash tfile k.buf.key = none := hentry
      rw [hself] at hnone'
      cases hnone'
  · refine ⟨fun _ h => absurd h hmakes, fun _ => ?_⟩
    obtain ⟨hneg, hsame⟩ := @vmwUserDmabufAlloc_fails s₁ tfile k (s₁.srf k.srf.base).backupSize req.shareable hmakes hbufKey
    have hback : defineBackup s₁ tfile req k =
        ((vmwUserDmabufAlloc s₁ tfile (s₁.srf k.srf.base).backupSize req.shareable k).1, k.backupHandle,
          (vmwUserDmabufAlloc s₁ tfile (s₁.srf k.srf.base).backupSize req.shareable k).2) := by
      unfold defineBackup
      rw [if_neg (not_not.mpr hname), if_pos hcreate]
      exact if_pos hneg.ne
    obtain ⟨hneg', hsame'⟩ := defineFinish_error hback hneg
    exact .of_error hneg' (by rw [hsame', hsame, href])

theorem defineBackup_named (hname : req.bufferHandle ≠ SVGA3D_INVALID_ID) :
    defineBackup s tfile req k =
      let r := vmwUserDmabufLookup s.table tfile req.bufferHandle
      (r.ret, k.backupHandle,
        State.setBackup { s with table := r.table } k.srf.base (r.converted.head?.map fun p => .user p.1)) :=
  if_pos hname

/-- With a buffer that the request names. -/
theorem finish_named (hname : req.bufferHandle ≠ SVGA3D_INVALID_ID) (hrefs : s₁.table.refHash = s.table.refHash)
    (hobj : s₁.table.obj = s.table.obj) (hs : s.table.Consistent) (hfresh : k.Fresh s.table) :
    Truthful s tfile req.granted (defineFinish s₁ tfile req k) ↔
      (NamesBuffer s.table tfile req.bufferHandle → k.srf.Works → k.backupHandle = req.bufferHandle) := by
  have hsrfKey : s.table.refHash tfile k.srf.key = none := hs.refHash_none hfresh.srfKey tfile
  by_cases hnamed : NamesBuffer s.table tfile req.bufferHandle
  · obtain ⟨ref, href, htype⟩ := hnamed
    obtain ⟨hreg, -⟩ := hs.referenced tfile req.bufferHandle ref href
    obtain ⟨hkey, hcount⟩ := hs.registered _ _ hreg
    have hlook := @vmwUserDmabufLookup_named s₁.table tfile req.bufferHandle ref (by rw [hrefs]; exact href)
      (by rw [hobj]; exact hcount) (by rw [hobj]; exact htype)
    obtain ⟨s₂, hback, hbacked, hrefs₂, hobj₂⟩ : ∃ s₂, defineBackup s₁ tfile req k = (0, k.backupHandle, s₂) ∧
        (s₂.srf k.srf.base).backup = some (.user ref.obj) ∧ s₂.table.refHash = s.table.refHash ∧
        s₂.table.obj = s.table.obj := by
      have hback := @defineBackup_named s₁ tfile req k hname
      rw [hlook] at hback
      exact ⟨_, hback, setBackup_backup _ k.srf.base _, hrefs, hobj⟩
    have hnone : s₂.table.refHash tfile k.srf.key = none := by rw [hrefs₂]; exact hsrfKey
    by_cases hworks : k.srf.Works
    · have hother : ref.obj ≠ k.srf.base := fun heq => hfresh.srf _ (heq ▸ hreg)
      rw [defineFinish_works hback hworks hnone, truthful_finished]
      · rw [hbacked]
        simp only [Option.some.injEq, forall_eq', HandleTrue]
        rw [resolves_iff]
        have hlive : ((finished s₂ tfile req k).table.obj ref.obj).refcount ≠ 0 := by
          have hsame : (finished s₂ tfile req k).table.obj ref.obj = s₂.table.obj ref.obj := register_obj_of_ne hother
          rw [hsame, hobj₂]
          exact hcount
        have hat (key : Handle) (hne : key ≠ k.srf.key) :
            (finished s₂ tfile req k).table.refHash tfile key = s.table.refHash tfile key := by
          rw [← hrefs₂]
          exact register_refHash_of_ne hne
        constructor
        · rintro ⟨ref', hentry, hsame, -⟩ - -
          by_cases hnew : k.backupHandle = k.srf.key
          · rw [hnew] at hentry
            have hself : (finished s₂ tfile req k).table.refHash tfile k.srf.key = some ⟨k.srf.base, 1⟩ :=
              register_refHash_self
            rw [hself] at hentry
            cases hentry
            exact absurd hsame.symm hother
          · rw [hat _ hnew] at hentry
            obtain ⟨hreg', -⟩ := hs.referenced tfile _ _ hentry
            rw [hsame] at hreg'
            exact (hs.registered _ _ hreg').1.symm.trans hkey
        · intro h
          have heq := h ⟨ref, href, htype⟩ hworks
          have hne : k.backupHandle ≠ k.srf.key := by
            intro hnew
            rw [← heq, hnew, hsrfKey] at href
            cases href
          refine ⟨ref, ?_, rfl, hlive⟩
          rw [hat _ hne, heq]
          exact href
      · rw [finished_held hnone, held_congr hrefs₂]
        simp [CreateReq.granted, hname, replyOf_finished_handle]
    · refine ⟨fun _ _ h => absurd h hworks, fun _ => ?_⟩
      obtain ⟨hneg, hsame⟩ := defineFinish_fails hback hworks hnone
      exact .of_error hneg (by rw [hsame, hrefs₂])
  · refine ⟨fun _ h => absurd h hnamed, fun _ => ?_⟩
    have hnamed₁ : ¬ NamesBuffer s₁.table tfile req.bufferHandle := by
      unfold NamesBuffer
      rw [hrefs, hobj]
      exact hnamed
    obtain ⟨hneg, htable⟩ := vmwUserDmabufLookup_unnamed hnamed₁
    obtain ⟨hneg', hsame⟩ := defineFinish_error (defineBackup_named hname) hneg
    have hrefs₂ : (vmwUserDmabufLookup s₁.table tfile req.bufferHandle).table.refHash = s.table.refHash := by
      rw [htable, hrefs]
    exact .of_error hneg' (congrFun (hsame.trans hrefs₂) tfile)

theorem define_truthful_iff (hs : s.table.Consistent) (hfresh : k.Fresh s.table) :
    Truthful s file.tfile req.granted (vmwGbSurfaceDefineIoctl descs s file req k) ↔
      DefineFine descs s file.tfile req k := by
  by_cases hbegins : Begins descs req k
  · obtain ⟨desc, heq⟩ := define_begins hbegins
    have hbare : ((begun s file req k desc).srf k.srf.base).backup = none := by simp [begun, newSurface]
    have hrefs : (begun s file req k desc).table.refHash = s.table.refHash := rfl
    have hobj : (begun s file req k desc).table.obj = s.table.obj := rfl
    rw [heq]
    by_cases hname : req.bufferHandle = SVGA3D_INVALID_ID
    · by_cases hcreate : req.createBuffer = true
      · rw [finish_created hname hcreate hrefs hs hfresh]
        constructor
        · exact fun h => ⟨fun _ hne => absurd hname hne, fun _ _ _ h₁ h₂ h₃ => h ⟨h₁, h₂, h₃⟩⟩
        · exact fun h hmakes => h.made hbegins hname hcreate hmakes.kzalloc hmakes.dmabufInit hmakes.buf
      · have htrue := finish_bare hname hcreate hbare hrefs (hs.refHash_none hfresh.srfKey file.tfile)
        exact ⟨fun _ => ⟨fun _ hne => absurd hname hne, fun _ _ h => absurd h hcreate⟩, fun _ => htrue⟩
    · rw [finish_named hname hrefs hobj hs hfresh]
      constructor
      · exact fun h => ⟨fun _ _ => h, fun _ heq => absurd heq hname⟩
      · exact fun h => h.named hbegins hname
  · obtain ⟨ret, hneg, heq⟩ := @define_not_begins descs s file req k hbegins
    rw [heq]
    exact ⟨fun _ => ⟨fun h => absurd h hbegins, fun h => absurd h hbegins⟩, fun _ => .of_error hneg rfl⟩

end Define

end Vmwgfx.GbSurface
