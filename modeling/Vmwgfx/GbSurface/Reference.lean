import Vmwgfx.GbSurface.Define
import Vmwgfx.Surface.Define

/-! The handles of the ioctl that references a shared surface. -/

namespace Vmwgfx.GbSurface

open Object Resource

/-- The tables where the caller has one reference more on a surface, and the ioctl one. -/
structure Referenced (t t' : Table) (tfile : TFile) (base : ObjId) : Prop where
  objectHash : t'.objectHash = t.objectHash
  refHash : t'.refHash = (t.setRef tfile (t.obj base).key (some (addRef base (t.refHash tfile (t.obj base).key)))).refHash
  others : ∀ b, b ≠ base → t'.obj b = t.obj b
  key : (t'.obj base).key = (t.obj base).key
  count : 1 < (t'.obj base).refcount

section Handle

variable {s : State} {file : DrmFile} {req : SurfaceArg} {k : ReferenceSteps} {base : ObjId} {t : Table} {tfile : TFile}
  {alloc : Int}

@[simp] theorem mayAdd_setRefcount {b : ObjId} (base : ObjId) (n : Nat) :
    MayAdd (t.setRefcount base n) tfile b alloc ↔ MayAdd t tfile b alloc := by
  unfold MayAdd
  by_cases h : b = base
  · subst h
    simp [Table.setRefcount]
  · rw [setRefcount_obj_of_ne h, setRefcount_refHash]

/-- The lookup, and the reference that the caller gets after it. -/
theorem referenced_lookup_add (hs : t.Consistent) (hbase : t.objectHash (t.obj base).key = some base)
    (hmay : MayAdd t tfile base alloc) :
    Referenced t (ttmRefObjectAdd (t.setRefcount base ((t.obj base).refcount + 1)) tfile base alloc).2 tfile base := by
  obtain ⟨-, hcount⟩ := hs.registered _ _ hbase
  have hmay' := (mayAdd_setRefcount base ((t.obj base).refcount + 1)).mpr hmay
  refine ⟨?_, ?_, fun b hb => ?_, ?_, ?_⟩
  · rw [ttmRefObjectAdd_objectHash]
    rfl
  · rw [ttmRefObjectAdd_refHash hmay', setRefcount_key]
    rfl
  · rw [ttmRefObjectAdd_obj_of_ne hb, setRefcount_obj_of_ne hb]
  · rw [ttmRefObjectAdd_added hmay']
    dsimp only
    split
    · simp
    · simp
  · have hle := ttmRefObjectAdd_refcount_le (t.setRefcount base ((t.obj base).refcount + 1)) tfile base alloc
    rw [Table.setRefcount_refcount] at hle
    omega

/-- And where the caller has the reference first. -/
theorem referenced_add_lookup (hs : t.Consistent) (hbase : t.objectHash (t.obj base).key = some base)
    (hmay : MayAdd t tfile base alloc) :
    ∃ t', ttmBaseObjectLookupForRef (ttmRefObjectAdd t tfile base alloc).2 (t.obj base).key = some (base, t') ∧
      Referenced t t' tfile base ∧ ttmBaseObjectType (t'.obj base) = ttmBaseObjectType (t.obj base) := by
  obtain ⟨-, hcount⟩ := hs.registered _ _ hbase
  have hle := ttmRefObjectAdd_refcount_le t tfile base alloc
  refine ⟨_, ttmBaseObjectLookupForRef_some.mpr ⟨?_, by omega, rfl⟩, ⟨?_, ?_, fun b hb => ?_, ?_, ?_⟩, ?_⟩
  · rw [ttmRefObjectAdd_objectHash]
    exact hbase
  · rw [setRefcount_objectHash, ttmRefObjectAdd_objectHash]
  · rw [setRefcount_refHash, ttmRefObjectAdd_refHash hmay]
  · rw [setRefcount_obj_of_ne hb, ttmRefObjectAdd_obj_of_ne hb]
  · rw [setRefcount_key, ttmRefObjectAdd_added hmay]
    dsimp only
    split
    · simp
    · simp
  · rw [Table.setRefcount_refcount]
    omega
  · rw [Table.setRefcount_type, ttmRefObjectAdd_added hmay]
    dsimp only
    split
    · rw [Table.setRefcount_type, setRef_obj]
    · rw [setRef_obj]

theorem handleReference_reaches (hs : s.Consistent) (h : Reaches s file req k base) :
    ∃ t', vmwSurfaceHandleReference s file req k = (0, some base, t') ∧ Referenced s.table t' file.tfile base := by
  have hret := (ttmRefObjectAdd_ret s.table file.tfile base k.surfaceAlloc.1).mpr h.may
  have hnamed := h.named
  cases hprime : req.prime with
  | true =>
    rw [hprime, if_pos rfl] at hnamed
    obtain ⟨t', hlook, hrefd, htype⟩ := referenced_add_lookup hs.table (hs.exported _ _ hnamed) h.may
    refine ⟨t', ?_, hrefd⟩
    rw [h.surface] at htype
    unfold vmwSurfaceHandleReference
    simp [hprime, hnamed, ttmPrimeFdToHandle, hret, hlook, htype]
  | false =>
    rw [hprime] at hnamed
    replace hnamed : s.table.objectHash req.sid = some base := hnamed
    obtain ⟨hkey, hcount⟩ := hs.table.registered _ _ hnamed
    obtain ⟨hrender, hmaster⟩ := h.allowed hprime
    have hlook := ttmBaseObjectLookupForRef_some.mpr ⟨hnamed, hcount, rfl⟩
    have hret' := (ttmRefObjectAdd_ret (s.table.setRefcount base ((s.table.obj base).refcount + 1)) file.tfile base
      k.surfaceAlloc.1).mpr ((mayAdd_setRefcount base _).mpr h.may)
    refine ⟨_, ?_, referenced_lookup_add hs.table (by rw [hkey]; exact hnamed) h.may⟩
    have hpass : ¬ (file.minor = .legacy ∧ (s.srf base).master ≠ file.master) := fun hne => hne.2 (hmaster hne.1)
    unfold vmwSurfaceHandleReference
    simp [hprime, hrender, hlook, h.surface, hpass, hret']

theorem handleReference_refused (hs : s.Consistent) (h : ∀ base, ¬ Reaches s file req k base) :
    ∃ ret t', vmwSurfaceHandleReference s file req k = (ret, none, t') ∧ ret < 0 ∧ t'.refHash = s.table.refHash := by
  cases hprime : req.prime with
  | true =>
    cases hfd : s.fd req.sid with
    | error ret neg =>
      refine ⟨ret, s.table, ?_, neg, rfl⟩
      unfold vmwSurfaceHandleReference
      simp [hprime, hfd, ttmPrimeFdToHandle, neg.ne]
    | foreign =>
      refine ⟨-ENOSYS, s.table, ?_, by decide, rfl⟩
      unfold vmwSurfaceHandleReference
      simp [hprime, hfd, ttmPrimeFdToHandle, ENOSYS]
    | exported base =>
      by_cases hmay : MayAdd s.table file.tfile base k.surfaceAlloc.1
      · have hret := (ttmRefObjectAdd_ret s.table file.tfile base k.surfaceAlloc.1).mpr hmay
        obtain ⟨t', hlook, hrefd, htype⟩ := referenced_add_lookup hs.table (hs.exported _ _ hfd) hmay
        have hother : ttmBaseObjectType (s.table.obj base) ≠ VMW_RES_SURFACE := fun hsurface =>
          h base ⟨by rw [hprime]; exact hfd, fun hfalse => absurd (hprime.symm.trans hfalse) (by decide), hsurface, hmay⟩
        rw [← htype] at hother
        refine ⟨-EINVAL, outNoLookup (ttmBaseObjectUnref t' base) file.tfile true (s.table.obj base).key, ?_, by decide, ?_⟩
        · unfold vmwSurfaceHandleReference
          simp [hprime, hfd, ttmPrimeFdToHandle, hret, hlook, hother]
        · exact refHash_unref_add ((ttmBaseObjectUnref_refHash t' base).trans hrefd.refHash)
            fun ref href => (hs.table.referenced _ _ _ href).2
      · have hret := mt (ttmRefObjectAdd_ret s.table file.tfile base k.surfaceAlloc.1).mp hmay
        refine ⟨_, _, ?_, ttmRefObjectAdd_neg k.surfaceAlloc.2 hret, congrArg Table.refHash (ttmRefObjectAdd_failed hret)⟩
        unfold vmwSurfaceHandleReference
        simp [hprime, hfd, ttmPrimeFdToHandle, hret]
  | false =>
    by_cases hrender : file.minor = .render
    · refine ⟨-EACCES, s.table, ?_, by decide, rfl⟩
      unfold vmwSurfaceHandleReference
      simp [hprime, hrender, EACCES]
    · cases hbase : s.table.objectHash req.sid with
      | none =>
        refine ⟨-EINVAL, s.table, ?_, by decide, rfl⟩
        unfold vmwSurfaceHandleReference
        simp [hprime, hrender, ttmBaseObjectLookupForRef, hbase, outNoLookup]
      | some base =>
        obtain ⟨hkey, hcount⟩ := hs.table.registered _ _ hbase
        have hlook := ttmBaseObjectLookupForRef_some.mpr ⟨hbase, hcount, rfl⟩
        by_cases hsurface : ttmBaseObjectType (s.table.obj base) = VMW_RES_SURFACE
        · by_cases hmaster : file.minor = .legacy ∧ (s.srf base).master ≠ file.master
          · refine ⟨-EACCES, _, ?_, by decide,
              ttmBaseObjectUnref_refHash (s.table.setRefcount base ((s.table.obj base).refcount + 1)) base⟩
            unfold vmwSurfaceHandleReference
            simp [hprime, hlook, hsurface, hmaster.1, hmaster.2]
          · have hmay : ¬ MayAdd s.table file.tfile base k.surfaceAlloc.1 := fun hmay =>
              h base ⟨by rw [hprime]; exact hbase,
                fun _ => ⟨hrender, fun hlegacy => not_not.mp fun hne => hmaster ⟨hlegacy, hne⟩⟩, hsurface, hmay⟩
            have hret := mt (ttmRefObjectAdd_ret (s.table.setRefcount base ((s.table.obj base).refcount + 1)) file.tfile base
              k.surfaceAlloc.1).mp (mt (mayAdd_setRefcount base _).mp hmay)
            have hsame := (ttmBaseObjectUnref_refHash _ base).trans (congrArg Table.refHash (ttmRefObjectAdd_failed hret))
            refine ⟨_, _, ?_, ttmRefObjectAdd_neg k.surfaceAlloc.2 hret, hsame⟩
            unfold vmwSurfaceHandleReference
            simp [hprime, hrender, hlook, hsurface, hmaster, hret]
        · refine ⟨-EINVAL, _, ?_, by decide,
            ttmBaseObjectUnref_refHash (s.table.setRefcount base ((s.table.obj base).refcount + 1)) base⟩
          unfold vmwSurfaceHandleReference
          simp [hprime, hrender, hlook, hsurface, outNoLookup]

end Handle

section Ioctl

variable {s : State} {file : DrmFile} {req : SurfaceArg} {k : ReferenceSteps} {base b : ObjId} {t : Table} {tfile : TFile}
  {alloc : Int}

theorem Reaches.unique {base' : ObjId} (h : Reaches s file req k base) (h' : Reaches s file req k base') : base' = base := by
  have hnamed := h.named
  have hnamed' := h'.named
  cases hprime : req.prime with
  | true =>
    rw [hprime, if_pos rfl] at hnamed hnamed'
    rw [hnamed] at hnamed'
    cases hnamed'
    rfl
  | false =>
    rw [hprime] at hnamed hnamed'
    exact Option.some.inj (hnamed'.symm.trans hnamed)

theorem Reaches.registered (hs : s.Consistent) (h : Reaches s file req k base) :
    s.table.objectHash (s.table.obj base).key = some base := by
  have hnamed := h.named
  cases hprime : req.prime with
  | true =>
    rw [hprime, if_pos rfl] at hnamed
    exact hs.exported _ _ hnamed
  | false =>
    rw [hprime] at hnamed
    replace hnamed : s.table.objectHash req.sid = some base := hnamed
    rw [(hs.table.registered _ _ hnamed).1]
    exact hnamed

/-- The entry of the surface's handle after the reference. -/
theorem Referenced.entry (h : Referenced s.table t tfile base) :
    t.refHash tfile (s.table.obj base).key = some (addRef base (s.table.refHash tfile (s.table.obj base).key)) := by
  rw [h.refHash]
  simp [Table.setRef]

theorem Referenced.entry_of_ne {key : Handle} (h : Referenced s.table t tfile base) (hne : key ≠ (s.table.obj base).key) :
    t.refHash tfile key = s.table.refHash tfile key := by
  rw [h.refHash]
  simp [Table.setRef, hne]

theorem addRef_obj {entry : Option RefObject} (h : ∀ ref, entry = some ref → ref.obj = base) : (addRef base entry).obj = base := by
  cases entry with
  | none => rfl
  | some ref => exact h ref rfl

/-- What the caller references is alive. -/
theorem Referenced.live (hs : s.Consistent) (h : Referenced s.table t tfile base)
    (hbase : s.table.objectHash (s.table.obj base).key = some base) {key : Handle} {ref : RefObject}
    (href : t.refHash tfile key = some ref) : (t.obj ref.obj).refcount ≠ 0 := by
  have hcount := h.count
  by_cases hobj : ref.obj = base
  · rw [hobj]
    omega
  · rw [h.others _ hobj]
    by_cases hkey : key = (s.table.obj base).key
    · rw [hkey, h.entry] at href
      cases href
      refine absurd (addRef_obj fun ref href => ?_) hobj
      have hreg := (hs.table.referenced _ _ _ href).1
      rw [hbase] at hreg
      exact (Option.some.inj hreg).symm
    · rw [h.entry_of_ne hkey] at href
      exact (hs.table.registered _ _ (hs.table.referenced _ _ _ href).1).2

/-- A reference was added, and the buffer's handle is its own. -/
theorem resolves_buffer_iff (hs : s.Consistent) (h : Referenced s.table t tfile base)
    (hbase : s.table.objectHash (s.table.obj base).key = some base) (hne : b ≠ base) (hmay : MayAdd t tfile b alloc) :
    Resolves (ttmBaseObjectUnref (ttmRefObjectAdd t tfile b alloc).2 base) tfile (s.table.obj b).key b ↔
      (s.table.obj b).key ≠ (s.table.obj base).key ∧
        ∀ ref, s.table.refHash tfile (s.table.obj b).key = some ref → ref.obj = b := by
  have hkey : (t.obj b).key = (s.table.obj b).key := by rw [h.others b hne]
  have hadd := resolves_ttmRefObjectAdd hmay fun ref href => h.live hs hbase href
  rw [resolves_iff, ttmBaseObjectUnref_refHash, ttmBaseObjectUnref_obj_of_ne hne, ← resolves_iff, ← hkey, hadd, hkey]
  constructor
  · intro hown
    have hkeys : (s.table.obj b).key ≠ (s.table.obj base).key := by
      intro heq
      have hentry := hown _ (by rw [heq]; exact h.entry)
      rw [addRef_obj] at hentry
      · exact hne hentry.symm
      · intro ref href
        have hreg := (hs.table.referenced _ _ _ href).1
        rw [hbase] at hreg
        exact (Option.some.inj hreg).symm
    refine ⟨hkeys, fun ref href => hown ref ?_⟩
    rw [h.entry_of_ne hkeys]
    exact href
  · rintro ⟨hkeys, hown⟩ ref href
    rw [h.entry_of_ne hkeys] at href
    exact hown ref href

/-- The end of a reference ioctl that fails behind the surface. -/
theorem Referenced.restored (hs : s.Consistent) (h : Referenced s.table t tfile base) :
    (ttmBaseObjectUnref (ttmRefObjectBaseUnref t tfile (t.obj base).key).2 base).refHash = s.table.refHash := by
  rw [ttmBaseObjectUnref_refHash, h.key]
  exact refHash_unref_add h.refHash fun ref href => (hs.table.referenced _ _ _ href).2

/-- And of one that has referenced the buffer. -/
theorem Referenced.registered (h : Referenced s.table t tfile base)
    (hbase : s.table.objectHash (s.table.obj base).key = some base) (hne : b ≠ base) :
    (ttmBaseObjectUnref (ttmRefObjectAdd t tfile b alloc).2 base).objectHash (s.table.obj base).key = some base := by
  have hcount : 1 < ((ttmRefObjectAdd t tfile b alloc).2.obj base).refcount := by
    rw [ttmRefObjectAdd_obj_of_ne hne.symm]
    exact h.count
  rw [ttmBaseObjectUnref_of_lt hcount, setRefcount_objectHash, ttmRefObjectAdd_objectHash, h.objectHash]
  exact hbase

theorem Referenced.held (h : Referenced s.table t tfile base) :
    t.held tfile = grant (s.table.held tfile) (s.table.obj base).key := by
  rw [held_congr h.refHash, held_setRef_addRef]

theorem replyOf_user {handle : Handle} (h : (s.srf base).backup = some (.user b)) :
    replyOf { s with table := t } base handle =
      ⟨(t.obj base).key, (s.srf base).backupSize, handle, (s.dma b).numPages * PAGE_SIZE % 2 ^ 32,
        (s.dma b).addrSpaceOffset⟩ := by
  unfold replyOf
  dsimp only
  rw [h]
  rfl

/-- The reply of a reference ioctl that succeeds. -/
theorem truthful_referenced (hs : s.Consistent) (h : Referenced s.table t tfile base)
    (hbase : s.table.objectHash (s.table.obj base).key = some base) (hbackup : (s.srf base).backup = some (.user b))
    (hne : b ≠ base) (hmay : MayAdd t tfile b alloc) :
    Truthful s tfile (fun rep => [rep.handle, rep.bufferHandle])
        ⟨0, some (replyOf { s with table := (ttmRefObjectAdd t tfile b alloc).2 } base (t.obj b).key),
          { s with table := ttmBaseObjectUnref (ttmRefObjectAdd t tfile b alloc).2 base }⟩ ↔
      (s.table.obj b).key ≠ (s.table.obj base).key ∧
        ∀ ref, s.table.refHash tfile (s.table.obj b).key = some ref → ref.obj = b := by
  have hkey : ((ttmRefObjectAdd t tfile b alloc).2.obj base).key = (s.table.obj base).key := by
    rw [ttmRefObjectAdd_obj_of_ne hne.symm, h.key]
  have hobj : t.obj b = s.table.obj b := h.others b hne
  have hheld : (ttmBaseObjectUnref (ttmRefObjectAdd t tfile b alloc).2 base).held tfile =
      grant (grant (s.table.held tfile) (s.table.obj base).key) (s.table.obj b).key := by
    rw [held_congr (ttmBaseObjectUnref_refHash _ base), ttmRefObjectAdd_held hmay, h.held, hobj]
  rw [replyOf_user hbackup, hkey, hobj]
  refine (truthful_success (h.registered hbase hne) hheld).trans ?_
  rw [hbackup]
  exact resolves_buffer_iff hs h hbase hne hmay

theorem reference_truthful_iff (hs : s.Consistent) :
    Truthful s file.tfile (fun rep => [rep.handle, rep.bufferHandle]) (vmwGbSurfaceReferenceIoctl s file req k).crep ↔
      ReferenceFine s file req k := by
  by_cases hreach : ∃ base, Reaches s file req k base
  · obtain ⟨base, hreach⟩ := hreach
    obtain ⟨t, href, hrefd⟩ := handleReference_reaches hs hreach
    have hbase := hreach.registered hs
    have hfine : ReferenceFine s file req k ↔ (s.srf base).backup ≠ none ∧
        ∀ b, (s.srf base).backup = some (.user b) →
          (s.table.obj b).tfile = file.tfile ∨ (s.table.obj b).shareable = true →
          (s.table.obj b).key ≠ (s.table.obj base).key ∧
            ∀ ref, s.table.refHash file.tfile (s.table.obj b).key = some ref → ref.obj = b := by
      refine ⟨fun h => h base hreach, fun h base' hreach' => ?_⟩
      rw [hreach.unique hreach']
      exact h
    rw [hfine]
    unfold vmwGbSurfaceReferenceIoctl
    rw [href]
    dsimp only
    cases hbackup : (s.srf base).backup with
    | none =>
      constructor
      · intro h
        obtain ⟨rep, hrep, -⟩ := h.success rfl
        cases hrep
      · exact fun h => absurd rfl h.1
    | some backup =>
      cases backup with
      | kernel buf =>
        refine ⟨fun _ => ⟨Option.some_ne_none _, fun b hb => by cases hb⟩, fun _ => ?_⟩
        exact .of_error (by decide : -EINVAL < 0) (congrFun (hrefd.restored hs) file.tfile)
      | user b =>
        have hne : b ≠ base := by
          rintro rfl
          have htype := hs.backup b b hbackup
          rw [hreach.surface] at htype
          cases htype
        have hobj : t.obj b = s.table.obj b := hrefd.others b hne
        unfold vmwUserDmabufReference
        dsimp only
        by_cases hmay : MayAdd t file.tfile b k.bufferAlloc.1
        · have hret := (ttmRefObjectAdd_ret t file.tfile b k.bufferAlloc.1).mpr hmay
          have hown : (s.table.obj b).tfile = file.tfile ∨ (s.table.obj b).shareable = true := by
            rw [← hobj]
            exact hmay.1
          rw [if_neg (not_not.mpr hret)]
          refine (truthful_referenced hs hrefd hbase hbackup hne hmay).trans ?_
          constructor
          · refine fun h => ⟨Option.some_ne_none _, fun b' hb' _ => ?_⟩
            cases hb'
            exact h
          · exact fun h => h.2 b rfl hown
        · have hret := mt (ttmRefObjectAdd_ret t file.tfile b k.bufferAlloc.1).mp hmay
          rw [if_pos hret]
          refine ⟨fun _ => ⟨Option.some_ne_none _, fun b' hb' hown => ?_⟩, fun _ => ?_⟩
          · cases hb'
            have hnone : t.refHash file.tfile (s.table.obj b).key = none := by
              by_contra hsome
              exact hmay ⟨by rw [hobj]; exact hown, fun hno => absurd (by rw [← hobj]; exact hno) hsome⟩
            have hkeys : (s.table.obj b).key ≠ (s.table.obj base).key := by
              intro heq
              rw [heq, hrefd.entry] at hnone
              cases hnone
            refine ⟨hkeys, fun ref href => ?_⟩
            rw [← hrefd.entry_of_ne hkeys, hnone] at href
            cases href
          · refine .of_error (ttmRefObjectAdd_neg k.bufferAlloc.2 hret) (congrFun ?_ file.tfile)
            have hsame := ttmRefObjectAdd_failed hret
            show (ttmBaseObjectUnref (ttmRefObjectBaseUnref (ttmRefObjectAdd t file.tfile b k.bufferAlloc.1).2 file.tfile
              (t.obj base).key).2 base).refHash = _
            rw [hsame]
            exact hrefd.restored hs
  · obtain ⟨ret, t', heq, hneg, hsame⟩ := handleReference_refused hs fun base h => hreach ⟨base, h⟩
    refine ⟨fun _ base h => absurd ⟨base, h⟩ hreach, fun _ => ?_⟩
    unfold vmwGbSurfaceReferenceIoctl
    rw [heq]
    exact .of_error hneg (congrFun hsame file.tfile)

end Ioctl

/-- The replies of both ioctls are true exactly where no buffer is named at creation, a made buffer
is not left behind, and a shared surface has a backup whose handle is its own. -/
theorem reply_truthful_iff {s : State} (descs : Nat → Option Svga3dSurfaceDesc) (file : DrmFile) (call : Call)
    (hs : s.Consistent) (hfresh : call.Fresh s) : call.Answered descs s file ↔ call.Fine descs s file := by
  cases call with
  | define req k => exact define_truthful_iff hs.table hfresh
  | reference req k => exact reference_truthful_iff hs

section Example

/-- A buffer at handle 1, a surface without a backup at 2, and one with this buffer at 3, all of file 0. -/
def shared : State where
  table :=
    { obj := fun o => ⟨o + 1, .primeType, if o = 0 then .bufferType else VMW_RES_SURFACE, true, 0, 1,
        if o = 0 then .userDmaBuffer else .userSurface⟩
      objectHash := fun key => if key = 1 ∨ key = 2 ∨ key = 3 then some (key - 1) else none
      refHash := fun tfile key => if tfile = 0 ∧ (key = 1 ∨ key = 2 ∨ key = 3) then some ⟨key - 1, 1⟩ else none
      inner := fun _ _ => 1
      avail := fun _ _ => true
      resFree := fun _ _ => some .userSurface }
  srf := fun o => ⟨0, 2, false, 1, ⟨16, 16, 1⟩, 0, 0, 1024, if o = 2 then some (.user 0) else none, none⟩
  dma := fun _ => ⟨0, 1⟩
  fd := fun _ => .foreign

theorem shared_consistent : shared.Consistent where
  table :=
    { registered := fun key base h => by
        have hcases : (key = 1 ∨ key = 2 ∨ key = 3) ∧ key - 1 = base := by simpa [shared] using h
        refine ⟨?_, Nat.one_ne_zero⟩
        obtain ⟨rfl | rfl | rfl, rfl⟩ := hcases
        all_goals rfl
      referenced := fun tfile key ref h => by
        have hcases : (tfile = 0 ∧ (key = 1 ∨ key = 2 ∨ key = 3)) ∧ ⟨key - 1, 1⟩ = ref := by simpa [shared] using h
        obtain ⟨⟨-, hkey⟩, rfl⟩ := hcases
        exact ⟨if_pos hkey, Nat.one_pos⟩ }
  backup base b h := by
    have hcases : base = 2 ∧ 0 = b := by simpa [shared] using h
    obtain ⟨-, rfl⟩ := hcases
    rfl
  exported n base h := by cases h

private def zero : Ret := ⟨0, le_rfl⟩

private def steps (srfAlloc : Ret) : DefineSteps where
  readLock := zero
  memGlobalAlloc := zero
  kzalloc := true
  surfaceInit := zero
  srf := ⟨8, 8, zero, srfAlloc⟩
  bufKzalloc := true
  dmabufInit := zero
  buf := ⟨9, 9, zero, zero⟩
  addrSpaceOffset := 0
  backupHandle := 7

private def request (bufferHandle : Handle) : CreateReq := ⟨0, 2, 1, 4, 0, 0, bufferHandle, ⟨16, 16, 1⟩⟩

private theorem steps_fresh (srfAlloc : Ret) : (steps srfAlloc).Fresh shared.table where
  apart := by show (8 : Nat) ≠ 9; decide
  keys := by show (8 : Nat) ≠ 9; decide
  srf key h := by
    have hcases : (key = 1 ∨ key = 2 ∨ key = 3) ∧ key - 1 = 8 := by simpa [shared, steps] using h
    obtain ⟨rfl | rfl | rfl, heq⟩ := hcases
    all_goals cases heq
  srfKey := rfl
  bufKey := rfl

private theorem steps_begins (srfAlloc : Ret) (bufferHandle : Handle) :
    Begins (fun _ => some Surface.argb) (request bufferHandle) (steps srfAlloc) :=
  ⟨Option.some_ne_none _, rfl, rfl, rfl, rfl⟩

/-- A reference on the surface without a backup returns 0 and no reply and is kept; a created surface
with buffer 1 is replied with what was on the stack; and where the surface gets no handle, the
buffer made for it has one. -/
theorem replies_untrue :
    ((vmwGbSurfaceReferenceIoctl shared ⟨1, .legacy, none⟩ ⟨2, false⟩ ⟨zero, zero⟩).ret = 0 ∧
        (vmwGbSurfaceReferenceIoctl shared ⟨1, .legacy, none⟩ ⟨2, false⟩ ⟨zero, zero⟩).rep.isNone ∧
        ¬ (Call.reference ⟨2, false⟩ ⟨zero, zero⟩).Answered (fun _ => some Surface.argb) shared ⟨1, .legacy, none⟩) ∧
      ¬ (Call.define (request 1) (steps zero)).Answered (fun _ => some Surface.argb) shared ⟨0, .legacy, none⟩ ∧
      ¬ (Call.define (request SVGA3D_INVALID_ID) (steps ⟨-ENOMEM, by decide⟩)).Answered (fun _ => some Surface.argb) shared
        ⟨0, .legacy, none⟩ := by
  refine ⟨⟨by decide, by decide, fun h => ?_⟩, fun h => ?_, fun h => ?_⟩
  · have hfine := (reference_truthful_iff shared_consistent).mp h
    exact (hfine 1 ⟨rfl, fun _ => ⟨by decide, fun _ => rfl⟩, rfl, .inr rfl, fun _ => rfl⟩).1 rfl
  · have hfine := (define_truthful_iff shared_consistent.table (steps_fresh zero)).mp h
    exact absurd (hfine.named (steps_begins zero 1) (by decide) ⟨⟨0, 1⟩, rfl, rfl⟩ ⟨rfl, rfl⟩) (by decide)
  · have hfine := (define_truthful_iff shared_consistent.table (steps_fresh _)).mp h
    exact absurd (hfine.made (steps_begins _ _) rfl rfl rfl rfl ⟨rfl, rfl⟩).2 (by decide)

/-- File 1 references the surface with the buffer. -/
theorem reply_truthful_shared :
    (Call.reference ⟨3, false⟩ ⟨zero, zero⟩).Answered (fun _ => some Surface.argb) shared ⟨1, .legacy, none⟩ := by
  refine (reply_truthful_iff (fun _ => some Surface.argb) ⟨1, .legacy, none⟩ (.reference ⟨3, false⟩ ⟨zero, zero⟩)
    shared_consistent trivial).mpr ?_
  intro base h
  obtain rfl : base = 2 := by
    have hnamed : some 2 = some base := h.named
    exact (Option.some.inj hnamed).symm
  refine ⟨by decide, fun b hb _ => ?_⟩
  cases hb
  exact ⟨by decide, fun ref href => by cases href⟩

end Example

end Vmwgfx.GbSurface
