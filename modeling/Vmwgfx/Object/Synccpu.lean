import Mathlib.Data.Set.Card
import Vmwgfx.Lib.Machine
import Vmwgfx.Object.Entry
import Vmwgfx.Object.Handles

/-! Grabs of buffers for the CPU: `vmw_user_dmabuf_synccpu_ioctl`, and the references that a file
gives back when it is closed. -/

namespace Vmwgfx.Object.Synccpu

open Lib

def ERESTARTSYS : Int := 512

def drmVmwSynccpuRead : UInt32 := 1
def drmVmwSynccpuWrite : UInt32 := 2
def drmVmwSynccpuDontblock : UInt32 := 4
def drmVmwSynccpuAllowCs : UInt32 := 8

/-- `enum ttm_ref_type`, without `TTM_REF_SYNCCPU_READ`. -/
inductive RefType
  | usage | synccpuWrite
  deriving DecidableEq

/-- The objects with their `TTM_REF_USAGE` references, the references of CPU writers, `ref_list` of
each file and `cpu_writers` of each buffer. -/
structure State where
  table : Table
  sync : TFile → Handle → Option RefObject
  refList : TFile → List (RefType × Handle)
  cpuWriters : ObjId → Int

namespace State

/-- The objects with the references of CPU writers. -/
def refTable (s : State) : Table := { s.table with refHash := s.sync }

def setRefTable (s : State) (t : Table) : State :=
  { s with table := { t with refHash := s.table.refHash }, sync := t.refHash }

def setSync (s : State) (tfile : TFile) (key : Handle) (ref : Option RefObject) : State :=
  { s with sync := Function.update s.sync tfile (Function.update (s.sync tfile) key ref) }

def addWriters (s : State) (base : ObjId) (n : Int) : State :=
  { s with cpuWriters := Function.update s.cpuWriters base (s.cpuWriters base + n) }

def setRefList (s : State) (tfile : TFile) (l : List (RefType × Handle)) : State :=
  { s with refList := Function.update s.refList tfile l }

end State

section References

variable (s : State) (tfile : TFile)

/-- `ttm_ref_object_add` of a CPU writer, with `existed`. -/
def refObjectAdd (base : ObjId) (alloc : Int) : Int × Bool × State :=
  let key := (s.table.obj base).key
  let existed := (s.sync tfile key).isSome
  let (ret, t) := ttmRefObjectAdd s.refTable tfile base alloc
  let s := s.setRefTable t
  (ret, existed,
    if ret = 0 ∧ existed = false then s.setRefList tfile (s.refList tfile ++ [(.synccpuWrite, key)]) else s)

/-- `ttm_ref_object_release`, with the buffer's `ref_obj_release`. -/
def ttmRefObjectRelease (e : RefType × Handle) : State :=
  match e with
  | (.usage, key) =>
    match s.table.refHash tfile key with
    | none => s
    | some ref =>
      let s := s.setRefList tfile ((s.refList tfile).erase (.usage, key))
      { s with table := ttmBaseObjectUnref (s.table.setRef tfile key none) ref.obj }
  | (.synccpuWrite, key) =>
    match s.sync tfile key with
    | none => s
    | some ref =>
      let s := (s.setSync tfile key none).setRefList tfile ((s.refList tfile).erase (.synccpuWrite, key))
      let s := s.addWriters ref.obj (-1)
      { s with table := ttmBaseObjectUnref s.table ref.obj }

/-- `ttm_ref_object_base_unref` of a CPU writer. -/
def refObjectBaseUnref (key : Handle) : Int × State :=
  match s.sync tfile key with
  | none => (-EINVAL, s)
  | some ref =>
    if ref.kref ≤ 1 then (0, ttmRefObjectRelease s tfile (.synccpuWrite, key))
    else (0, s.setSync tfile key (some { ref with kref := ref.kref - 1 }))

/-- The loop of `ttm_object_file_release`: each round takes the head off the list. -/
def ttmObjectFileRelease : State :=
  (s.refList tfile).foldl (fun s e => ttmRefObjectRelease s tfile e) s

end References

inductive Op
  | grab | release | invalid
  deriving DecidableEq

/-- `struct drm_vmw_synccpu_arg`. -/
structure Arg where
  op : Op
  flags : UInt32
  handle : Handle
  deriving DecidableEq

/-- How the steps end: the reservation of the buffer, the wait for it to be idle (`none` is
success), and the allocation of a reference object. -/
structure Env where
  reserve : Option Errno
  wait : Option Errno
  alloc : Bool
  deriving DecidableEq

section Ioctl

variable (env : Env) (s : State) (tfile : TFile)

/-- `ttm_bo_synccpu_write_grab`. -/
def ttmBoSynccpuWriteGrab (base : ObjId) : Int × State :=
  match env.reserve, env.wait with
  | some e, _ => (e.val, s)
  | none, some e => (e.val, s)
  | none, none => (0, s.addWriters base 1)

/-- `ttm_bo_synccpu_write_release`. -/
def ttmBoSynccpuWriteRelease (base : ObjId) : State := s.addWriters base (-1)

/-- The flags ask for no more than to wait. -/
def allowCs (flags : UInt32) : Bool := flags &&& drmVmwSynccpuAllowCs ≠ 0

def vmwUserDmabufSynccpuGrab (base : ObjId) (flags : UInt32) : Int × State :=
  if allowCs flags then (errnoVal env.wait, s)
  else
    let (ret, s) := ttmBoSynccpuWriteGrab env s base
    if ret ≠ 0 then (ret, s)
    else
      let (ret, existed, s) := refObjectAdd s tfile base (if env.alloc then 0 else -ENOMEM)
      (ret, if ret ≠ 0 ∨ existed = true then ttmBoSynccpuWriteRelease s base else s)

def vmwUserDmabufSynccpuRelease (handle : Handle) (flags : UInt32) : Int × State :=
  if allowCs flags then (0, s) else refObjectBaseUnref s tfile handle

/-- `vmw_dmabuf_unreference`. -/
def vmwDmabufUnreference (base : ObjId) : State :=
  { s with table := s.table.setInner base .userDmaBuffer (s.table.inner base .userDmaBuffer - 1) }

def legalFlags (flags : UInt32) : Bool :=
  flags &&& (drmVmwSynccpuRead ||| drmVmwSynccpuWrite) ≠ 0 ∧
    flags &&& ~~~(drmVmwSynccpuRead ||| drmVmwSynccpuWrite ||| drmVmwSynccpuDontblock ||| drmVmwSynccpuAllowCs) = 0

/-- The errors of a grab that the ioctl does not pass on. -/
def filterError (ret : Int) : Int := if ret ≠ 0 ∧ ret ≠ -ERESTARTSYS ∧ ret ≠ -EBUSY then ret else 0

def vmwUserDmabufSynccpuIoctl (arg : Arg) : Int × State :=
  if ¬ legalFlags arg.flags then (-EINVAL, s)
  else
    match arg.op with
    | .grab =>
      let found := vmwUserDmabufLookup s.table tfile arg.handle
      let s := { s with table := found.table }
      match found.converted with
      | [] => (found.ret, s)
      | (base, _) :: _ =>
        if found.ret ≠ 0 then (found.ret, s)
        else
          let (ret, s) := vmwUserDmabufSynccpuGrab env s tfile base arg.flags
          (filterError ret, vmwDmabufUnreference s base)
    | .release => vmwUserDmabufSynccpuRelease s tfile arg.handle arg.flags
    | .invalid => (-EINVAL, s)

end Ioctl

inductive Action
  | ioctl (tfile : TFile) (arg : Arg) (env : Env)
  | close (tfile : TFile)

def step (s : State) : Action → Option State
  | .ioctl tfile arg env => some (vmwUserDmabufSynccpuIoctl env s tfile arg).2
  | .close tfile => some (ttmObjectFileRelease s tfile)

/-- The files with an outstanding blocking grab on the buffer. -/
def State.writers (s : State) (base : ObjId) : Set TFile :=
  {tfile | ∃ key ref, s.sync tfile key = some ref ∧ ref.obj = base}

/-- The count of each buffer is the number of its writers. -/
def Balanced (s : State) : Prop :=
  ∀ base, (s.writers base).Finite ∧ s.cpuWriters base = (s.writers base).ncard

/-- The call reserved the buffer, unless it was only to wait, and found it idle. -/
def FoundIdle (env : Env) (flags : UInt32) : Prop := (allowCs flags = true ∨ env.reserve = none) ∧ env.wait = none

/-- A grab returns 0 only with the access, and an error only with nothing changed. -/
def Truthful (s : State) (tfile : TFile) (arg : Arg) (env : Env) : Prop :=
  let (ret, s') := vmwUserDmabufSynccpuIoctl env s tfile arg
  (ret = 0 → ∃ base, Resolves s.table tfile arg.handle base ∧ FoundIdle env arg.flags ∧
    (allowCs arg.flags = false → tfile ∈ s'.writers base)) ∧ (ret ≠ 0 → s' = s)

/-- The buffer is busy, or the wait for it was interrupted. -/
def Filtered (s : State) (tfile : TFile) (arg : Arg) (env : Env) : Prop :=
  legalFlags arg.flags = true ∧ arg.op = .grab ∧ (vmwUserDmabufLookup s.table tfile arg.handle).ret = 0 ∧
    ∃ e : Errno, (e.val = -EBUSY ∨ e.val = -ERESTARTSYS) ∧
      (allowCs arg.flags = false ∧ env.reserve = some e ∨
        (allowCs arg.flags = true ∨ env.reserve = none) ∧ env.wait = some e)

/-- The references to a handle are to one object, which has it, and the count of each buffer is the
number of its writers. -/
structure Inv (owner : Handle → ObjId) (s : State) : Prop where
  usage : ∀ tfile key ref, s.table.refHash tfile key = some ref →
    ref.obj = owner key ∧ (s.table.obj ref.obj).key = key
  sync : ∀ tfile key ref, s.sync tfile key = some ref → ref.obj = owner key ∧ (s.table.obj ref.obj).key = key
  listed : ∀ tfile key, (.synccpuWrite, key) ∈ s.refList tfile ↔ s.sync tfile key ≠ none
  nodup : ∀ tfile, (s.refList tfile).Nodup
  balanced : Balanced s

section Frame

variable {owner : Handle → ObjId} {s s' : State} {tfile : TFile} {key : Handle} {base : ObjId}

theorem ttmBaseObjectUnref_key (t : Table) (base b : ObjId) :
    ((ttmBaseObjectUnref t base).obj b).key = (t.obj b).key := by
  unfold ttmBaseObjectUnref
  dsimp only
  split
  · exact setRefcount_key t base b _
  · exact setRefcount_key t base b _

/-- Nothing of the CPU writers has changed. -/
theorem Inv.of_table (h : Inv owner s) {table : Table} (hkey : ∀ b, (table.obj b).key = (s.table.obj b).key)
    (husage : ∀ tfile key ref, table.refHash tfile key = some ref → s.table.refHash tfile key = some ref) :
    Inv owner { s with table } where
  usage tfile key ref href := by
    obtain ⟨hobj, hk⟩ := h.usage tfile key ref (husage tfile key ref href)
    exact ⟨hobj, (hkey _).trans hk⟩
  sync tfile key ref href := by
    obtain ⟨hobj, hk⟩ := h.sync tfile key ref href
    exact ⟨hobj, (hkey _).trans hk⟩
  listed := h.listed
  nodup := h.nodup
  balanced := h.balanced

theorem mem_writers : tfile ∈ s.writers base ↔ ∃ key ref, s.sync tfile key = some ref ∧ ref.obj = base := Iff.rfl

/-- The writers of a buffer are found at its handle. -/
theorem Inv.mem_writers_iff (h : Inv owner s) :
    tfile ∈ s.writers base ↔ ∃ ref, s.sync tfile (s.table.obj base).key = some ref ∧ ref.obj = base := by
  constructor
  · rintro ⟨key, ref, href, rfl⟩
    obtain ⟨-, hk⟩ := h.sync tfile key ref href
    exact ⟨ref, hk ▸ href, rfl⟩
  · rintro ⟨ref, href, hobj⟩
    exact ⟨_, ref, href, hobj⟩

theorem setSync_apply (s : State) (tfile : TFile) (key : Handle) (ref : Option RefObject) (f : TFile) (k : Handle) :
    (s.setSync tfile key ref).sync f k = if f = tfile ∧ k = key then ref else s.sync f k := by
  unfold State.setSync
  dsimp only
  by_cases hf : f = tfile
  · subst hf
    rw [Function.update_self]
    by_cases hk : k = key
    · subst hk
      rw [Function.update_self, if_pos ⟨rfl, rfl⟩]
    · rw [Function.update_of_ne hk, if_neg fun h => hk h.2]
  · rw [Function.update_of_ne hf, if_neg fun h => hf h.1]

end Frame

section Count

variable {owner : Handle → ObjId} {s : State} {tfile : TFile} {key : Handle} {base : ObjId}

/-- An entry of the table of CPU writers is replaced by one for the same object. -/
theorem writers_setSync_of_some {ref ref' : RefObject} (href : s.sync tfile key = some ref) (hobj : ref'.obj = ref.obj)
    (b : ObjId) : (s.setSync tfile key (some ref')).writers b = s.writers b := by
  ext f
  rw [mem_writers, mem_writers]
  constructor
  · rintro ⟨k, r, hr, hb⟩
    rw [setSync_apply] at hr
    split at hr
    · rename_i heq
      obtain ⟨rfl, rfl⟩ := heq
      cases hr
      exact ⟨k, ref, href, hobj ▸ hb⟩
    · exact ⟨k, r, hr, hb⟩
  · rintro ⟨k, r, hr, hb⟩
    by_cases heq : f = tfile ∧ k = key
    · obtain ⟨rfl, rfl⟩ := heq
      rw [href] at hr
      cases hr
      exact ⟨k, ref', by rw [setSync_apply, if_pos ⟨rfl, rfl⟩], hobj.trans hb⟩
    · exact ⟨k, r, by rw [setSync_apply, if_neg heq]; exact hr, hb⟩

theorem writers_setSync_new (hnone : s.sync tfile key = none) (b : ObjId) :
    (s.setSync tfile key (some ⟨base, 1⟩)).writers b = if b = base then insert tfile (s.writers b) else s.writers b := by
  ext f
  rw [mem_writers]
  constructor
  · rintro ⟨k, r, hr, hb⟩
    rw [setSync_apply] at hr
    split at hr
    · rename_i heq
      obtain ⟨rfl, rfl⟩ := heq
      cases hr
      rw [if_pos hb.symm]
      exact Set.mem_insert _ _
    · have hold : f ∈ s.writers b := ⟨k, r, hr, hb⟩
      split
      · exact Set.mem_insert_of_mem _ hold
      · exact hold
  · intro hf
    have hkeep (h : f ∈ s.writers b) : ∃ k r, (s.setSync tfile key (some ⟨base, 1⟩)).sync f k = some r ∧ r.obj = b := by
      obtain ⟨k, r, hr, hb⟩ := h
      refine ⟨k, r, ?_, hb⟩
      rw [setSync_apply, if_neg]
      · exact hr
      · rintro ⟨rfl, rfl⟩
        rw [hnone] at hr
        cases hr
    split at hf
    · rename_i hb
      rcases Set.mem_insert_iff.mp hf with rfl | hold
      · exact ⟨key, ⟨base, 1⟩, by rw [setSync_apply, if_pos ⟨rfl, rfl⟩], hb.symm⟩
      · exact hkeep hold
    · exact hkeep hf

/-- The reference of a file goes, and with it the file as a writer of that buffer. -/
theorem Inv.writers_setSync_none (h : Inv owner s) {ref : RefObject} (href : s.sync tfile key = some ref) (b : ObjId) :
    (s.setSync tfile key none).writers b = if b = ref.obj then s.writers b \ {tfile} else s.writers b := by
  obtain ⟨-, hkey⟩ := h.sync tfile key ref href
  ext f
  rw [mem_writers]
  constructor
  · rintro ⟨k, r, hr, hb⟩
    rw [setSync_apply] at hr
    split at hr
    · cases hr
    · rename_i hne
      have hold : f ∈ s.writers b := ⟨k, r, hr, hb⟩
      split
      · rename_i hobj
        refine ⟨hold, fun hf => hne ⟨hf, ?_⟩⟩
        obtain ⟨-, hk⟩ := h.sync f k r hr
        rw [← hk, hb, hobj, hkey]
      · exact hold
  · intro hf
    have hold : f ∈ s.writers b := by
      split at hf
      · exact hf.1
      · exact hf
    obtain ⟨k, r, hr, hb⟩ := hold
    refine ⟨k, r, ?_, hb⟩
    rw [setSync_apply, if_neg]
    · exact hr
    · rintro ⟨rfl, rfl⟩
      rw [href] at hr
      cases hr
      rw [if_pos hb.symm] at hf
      exact hf.2 rfl

end Count

section Updates

variable {owner : Handle → ObjId} {s : State} {tfile : TFile} {key : Handle} {base : ObjId} {ref : RefObject}

/-- The count of references to a buffer that the file has grabbed changes. -/
theorem Inv.recount (h : Inv owner s) (href : s.sync tfile key = some ref) (n : Nat) :
    Inv owner (s.setSync tfile key (some { ref with kref := n })) where
  usage := h.usage
  sync f k r hr := by
    rw [setSync_apply] at hr
    split at hr
    · rename_i heq
      obtain ⟨rfl, rfl⟩ := heq
      cases hr
      exact h.sync f k ref href
    · exact h.sync f k r hr
  listed f k := by
    rw [setSync_apply]
    split
    · rename_i heq
      obtain ⟨rfl, rfl⟩ := heq
      exact (h.listed f k).trans (iff_of_true (by rw [href]; exact Option.some_ne_none _) (Option.some_ne_none _))
    · exact h.listed f k
  nodup := h.nodup
  balanced b := by
    rw [writers_setSync_of_some href (rfl : RefObject.obj ⟨ref.obj, n⟩ = ref.obj)]
    exact h.balanced b

/-- A file grabs a buffer that it had not grabbed. -/
theorem Inv.grabbed (h : Inv owner s) (hbase : base = owner key) (hkey : (s.table.obj base).key = key)
    (hnone : s.sync tfile key = none) :
    Inv owner (((s.setSync tfile key (some ⟨base, 1⟩)).setRefList tfile
      (s.refList tfile ++ [(.synccpuWrite, key)])).addWriters base 1) where
  usage := h.usage
  sync f k r hr := by
    change (s.setSync tfile key (some ⟨base, 1⟩)).sync f k = some r at hr
    rw [setSync_apply] at hr
    split at hr
    · rename_i heq
      obtain ⟨rfl, rfl⟩ := heq
      cases hr
      exact ⟨hbase, hkey⟩
    · exact h.sync f k r hr
  listed f k := by
    change (.synccpuWrite, k) ∈ Function.update s.refList tfile _ f ↔ (s.setSync tfile key _).sync f k ≠ none
    rw [setSync_apply]
    by_cases hf : f = tfile
    · subst hf
      rw [Function.update_self, List.mem_append, List.mem_singleton, Prod.mk.injEq, h.listed]
      by_cases hk : k = key
      · subst hk
        simp
      · simp [hk]
    · rw [Function.update_of_ne hf, if_neg fun heq => hf heq.1]
      exact h.listed f k
  nodup f := by
    change (Function.update s.refList tfile (s.refList tfile ++ [(.synccpuWrite, key)]) f).Nodup
    by_cases hf : f = tfile
    · subst hf
      rw [Function.update_self]
      refine (h.nodup f).append (List.nodup_singleton _) fun e he he' => ?_
      cases List.mem_singleton.mp he'
      exact (h.listed f key).mp he hnone
    · rw [Function.update_of_ne hf]
      exact h.nodup f
  balanced b := by
    obtain ⟨hfin, hcount⟩ := h.balanced b
    change ((s.setSync tfile key (some ⟨base, 1⟩)).writers b).Finite ∧
      Function.update s.cpuWriters base (s.cpuWriters base + 1) b =
        ((s.setSync tfile key (some ⟨base, 1⟩)).writers b).ncard
    rw [writers_setSync_new hnone]
    by_cases hb : b = base
    · subst hb
      have hnot : tfile ∉ s.writers b := by
        intro hmem
        obtain ⟨ref, href, -⟩ := h.mem_writers_iff.mp hmem
        rw [hkey, hnone] at href
        cases href
      rw [if_pos rfl, Function.update_self, Set.ncard_insert_of_notMem hnot hfin, hcount]
      exact ⟨hfin.insert tfile, rfl⟩
    · rw [if_neg hb, Function.update_of_ne hb]
      exact ⟨hfin, hcount⟩

/-- The grab of a file goes. -/
theorem Inv.released (h : Inv owner s) (href : s.sync tfile key = some ref) :
    Inv owner (((s.setSync tfile key none).setRefList tfile
      ((s.refList tfile).erase (.synccpuWrite, key))).addWriters ref.obj (-1)) where
  usage := h.usage
  sync f k r hr := by
    change (s.setSync tfile key none).sync f k = some r at hr
    rw [setSync_apply] at hr
    split at hr
    · cases hr
    · exact h.sync f k r hr
  listed f k := by
    change (.synccpuWrite, k) ∈ Function.update s.refList tfile _ f ↔ (s.setSync tfile key _).sync f k ≠ none
    rw [setSync_apply]
    by_cases hf : f = tfile
    · subst hf
      rw [Function.update_self, (h.nodup f).mem_erase_iff, h.listed]
      by_cases hk : k = key
      · subst hk
        simp
      · simp [hk]
    · rw [Function.update_of_ne hf, if_neg fun heq => hf heq.1]
      exact h.listed f k
  nodup f := by
    change (Function.update s.refList tfile ((s.refList tfile).erase (.synccpuWrite, key)) f).Nodup
    by_cases hf : f = tfile
    · subst hf
      rw [Function.update_self]
      exact (h.nodup f).erase _
    · rw [Function.update_of_ne hf]
      exact h.nodup f
  balanced b := by
    obtain ⟨hfin, hcount⟩ := h.balanced b
    change ((s.setSync tfile key none).writers b).Finite ∧
      Function.update s.cpuWriters ref.obj (s.cpuWriters ref.obj + -1) b = ((s.setSync tfile key none).writers b).ncard
    rw [h.writers_setSync_none href]
    by_cases hb : b = ref.obj
    · subst hb
      have hmem : tfile ∈ s.writers ref.obj := ⟨key, ref, href, rfl⟩
      have hone := Set.ncard_sdiff_singleton_add_one hmem hfin
      rw [if_pos rfl, Function.update_self]
      refine ⟨hfin.subset Set.sdiff_subset, ?_⟩
      omega
    · rw [if_neg hb, Function.update_of_ne hb]
      exact ⟨hfin, hcount⟩

end Updates

section Release

variable {owner : Handle → ObjId} {s : State} {tfile : TFile} {key : Handle}

theorem Inv.unlisted (h : Inv owner s) :
    Inv owner (s.setRefList tfile ((s.refList tfile).erase (.usage, key))) where
  usage := h.usage
  sync := h.sync
  listed f k := by
    change (.synccpuWrite, k) ∈ Function.update s.refList tfile _ f ↔ s.sync f k ≠ none
    by_cases hf : f = tfile
    · subst hf
      rw [Function.update_self, List.mem_erase_of_ne (by simp), h.listed]
    · rw [Function.update_of_ne hf]
      exact h.listed f k
  nodup f := by
    change (Function.update s.refList tfile ((s.refList tfile).erase (.usage, key)) f).Nodup
    by_cases hf : f = tfile
    · subst hf
      rw [Function.update_self]
      exact (h.nodup f).erase _
    · rw [Function.update_of_ne hf]
      exact h.nodup f
  balanced := h.balanced

theorem setRef_none_some {t : Table} {f : TFile} {k : Handle} {r : RefObject}
    (h : (t.setRef tfile key none).refHash f k = some r) : t.refHash f k = some r := by
  change Function.update t.refHash tfile (Function.update (t.refHash tfile) key none) f k = some r at h
  by_cases hf : f = tfile
  · subst hf
    rw [Function.update_self] at h
    by_cases hk : k = key
    · subst hk
      rw [Function.update_self] at h
      cases h
    · rwa [Function.update_of_ne hk] at h
  · rwa [Function.update_of_ne hf] at h

theorem Inv.release (h : Inv owner s) (e : RefType × Handle) : Inv owner (ttmRefObjectRelease s tfile e) := by
  obtain ⟨ty, key⟩ := e
  cases ty with
  | usage =>
    unfold ttmRefObjectRelease
    dsimp only
    split
    · exact h
    · refine h.unlisted.of_table (fun b => ttmBaseObjectUnref_key _ _ b) fun f k r hr => ?_
      rw [ttmBaseObjectUnref_refHash] at hr
      exact setRef_none_some hr
  | synccpuWrite =>
    unfold ttmRefObjectRelease
    dsimp only
    split
    · exact h
    · rename_i ref href
      refine (h.released href).of_table (fun b => ttmBaseObjectUnref_key _ _ b) fun f k r hr => ?_
      rwa [ttmBaseObjectUnref_refHash] at hr

theorem release_sync (s : State) (tfile : TFile) (e : RefType × Handle) (f : TFile) (k : Handle) :
    (ttmRefObjectRelease s tfile e).sync f k = if f = tfile ∧ e = (.synccpuWrite, k) then none else s.sync f k := by
  obtain ⟨ty, key⟩ := e
  cases ty with
  | usage =>
    rw [if_neg (by simp)]
    unfold ttmRefObjectRelease
    dsimp only
    split <;> rfl
  | synccpuWrite =>
    unfold ttmRefObjectRelease
    dsimp only
    split
    · rename_i hnone
      split
      · rename_i heq
        obtain ⟨rfl, heq⟩ := heq
        cases heq
        exact hnone
      · rfl
    · change (s.setSync tfile key none).sync f k = _
      rw [setSync_apply]
      simp only [Prod.mk.injEq, true_and, eq_comm]

theorem Inv.baseUnref (h : Inv owner s) : Inv owner (refObjectBaseUnref s tfile key).2 := by
  unfold refObjectBaseUnref
  split
  · exact h
  · rename_i ref href
    split
    · change Inv owner (ttmRefObjectRelease s tfile (.synccpuWrite, key))
      exact h.release _
    · exact h.recount href _

theorem Inv.releaseAll (h : Inv owner s) (es : List (RefType × Handle)) :
    Inv owner (es.foldl (fun s e => ttmRefObjectRelease s tfile e) s) := by
  induction es generalizing s with
  | nil => exact h
  | cons e es ih => exact ih (h.release e)

theorem releaseAll_sync (s : State) (tfile : TFile) (es : List (RefType × Handle)) (f : TFile) (k : Handle) :
    (es.foldl (fun s e => ttmRefObjectRelease s tfile e) s).sync f k =
      if f = tfile ∧ (.synccpuWrite, k) ∈ es then none else s.sync f k := by
  induction es generalizing s with
  | nil => simp
  | cons e es ih =>
    rw [List.foldl_cons, ih, release_sync]
    by_cases hf : f = tfile
    · by_cases he : e = (.synccpuWrite, k)
      · simp [hf, he]
      · simp [hf, he, Ne.symm he]
    · simp [hf]

theorem Inv.close (h : Inv owner s) (tfile : TFile) : Inv owner (ttmObjectFileRelease s tfile) := h.releaseAll _

theorem Inv.sync_close (h : Inv owner s) (tfile f : TFile) (k : Handle) :
    (ttmObjectFileRelease s tfile).sync f k = if f = tfile then none else s.sync f k := by
  unfold ttmObjectFileRelease
  rw [releaseAll_sync]
  by_cases hf : f = tfile
  · subst hf
    rw [if_pos rfl]
    split
    · rfl
    · rename_i hnot
      by_contra hsome
      exact hnot ⟨rfl, (h.listed f k).mpr hsome⟩
  · rw [if_neg fun heq => hf heq.1, if_neg hf]

/-- A closed file writes no buffer, and the other files are as they were. -/
theorem Inv.writers_close (h : Inv owner s) (b : ObjId) :
    (ttmObjectFileRelease s tfile).writers b = s.writers b \ {tfile} := by
  ext f
  rw [mem_writers, Set.mem_sdiff, Set.mem_singleton_iff, mem_writers]
  constructor
  · rintro ⟨k, r, hr, hb⟩
    rw [h.sync_close] at hr
    split at hr
    · cases hr
    · rename_i hf
      exact ⟨⟨k, r, hr, hb⟩, hf⟩
  · rintro ⟨⟨k, r, hr, hb⟩, hf⟩
    exact ⟨k, r, by rw [h.sync_close, if_neg hf]; exact hr, hb⟩

/-- Closing a file gives back its share. -/
theorem Inv.close_count (h : Inv owner s) (b : ObjId) :
    (tfile ∈ s.writers b → (ttmObjectFileRelease s tfile).cpuWriters b + 1 = s.cpuWriters b) ∧
      (tfile ∉ s.writers b → (ttmObjectFileRelease s tfile).cpuWriters b = s.cpuWriters b) := by
  obtain ⟨hfin, hcount⟩ := h.balanced b
  obtain ⟨-, hcount'⟩ := (h.close tfile).balanced b
  rw [h.writers_close] at hcount'
  constructor
  · intro hmem
    have hone := Set.ncard_sdiff_singleton_add_one hmem hfin
    omega
  · intro hnot
    rw [Set.sdiff_singleton_eq_self hnot] at hcount'
    rw [hcount', hcount]

end Release

end Vmwgfx.Object.Synccpu
