import Vmwgfx.Event.Space
import Vmwgfx.Object.Handles

/-! The references `vmw_fence_event_ioctl` takes and drops. -/

namespace Vmwgfx.Object.FenceEvent

/-- How a call does not return. -/
inductive Stop
  /-- `BUG_ON(fence == NULL)` -/
  | bug
  /-- The inside of another structure is used as a fence. -/
  | confused
  deriving DecidableEq

/-- A fence without a handle is an object whose base object is not in use. -/
structure State where
  table : Table
  /-- the first structure that is not in use -/
  next : ObjId
  fifoDown : Bool
  /-- the events of the calling file -/
  file : Event.FileState
  /-- the fences of the queued actions -/
  actions : List ObjId

/-- `struct drm_vmw_fence_event_arg`. -/
structure Arg where
  fenceRep : Nat
  userData : BitVec 64
  handle : Handle
  flags : BitVec 32

/-- What the steps meet. -/
structure Env where
  /-- `ttm_mem_global_alloc` of `vmw_user_fence_create` -/
  memAlloc : Int
  fenceAlloc : Bool
  /-- `drm_ht_just_insert_please_rcu`, and the key it finds -/
  hashInsert : Int
  key : Handle
  /-- what allocating a reference object returns -/
  refAlloc : Int
  eventAlloc : Bool
  actionAlloc : Bool
  /-- `copy_to_user` copies everything -/
  copy : Bool

def vmwFenceObjReference (t : Table) (i : ObjId) : Table :=
  t.setInner i .userFence (t.inner i .userFence + 1)

def vmwFenceObjUnreference (t : Table) (i : ObjId) : Table :=
  t.setInner i .userFence (t.inner i .userFence - 1)

section Create

variable (env : Env) (s : State) (tfile : TFile)

/-- `ttm_base_object_init` of a fence. -/
def ttmBaseObjectInit (t : Table) (i : ObjId) : Int × Table :=
  let t := { t with
    obj := Function.update t.obj i ⟨env.key, VMW_RES_FENCE, VMW_RES_FENCE, false, tfile, 1, .userFence⟩ }
  if env.hashInsert ≠ 0 then (env.hashInsert, t)
  else
    let t := { t with objectHash := Function.update t.objectHash env.key (some i) }
    let (ret, t) := ttmRefObjectAdd t tfile i env.refAlloc
    if ret ≠ 0 then (ret, { t with objectHash := Function.update t.objectHash env.key none })
    else (0, ttmBaseObjectUnref t i)

/-- `kzalloc` and `vmw_fence_obj_init`. -/
def vmwFenceObjInit : Option (ObjId × State) :=
  if env.fenceAlloc && !s.fifoDown then
    some (s.next, { s with table := s.table.setInner s.next .userFence 1, next := s.next + 1 })
  else none

/-- `vmw_fence_create`. -/
def vmwFenceCreate : Option (ObjId × State) := vmwFenceObjInit env s

/-- `vmw_user_fence_create`; the base object holds a reference of its own. -/
def vmwUserFenceCreate : Option (ObjId × State) :=
  if env.memAlloc ≠ 0 then none
  else
    match vmwFenceObjInit env s with
    | none => none
    | some (i, s) =>
      let (ret, t) := ttmBaseObjectInit env tfile (vmwFenceObjReference s.table i) i
      if ret ≠ 0 then none else some (i, { s with table := t })

/-- `vmw_execbuf_fence_commands` returns 0 also where it has no fence to store. -/
def vmwExecbufFenceCommands (handle : Bool) : Option (ObjId × State) :=
  if handle then vmwUserFenceCreate env s tfile else vmwFenceCreate env s

end Create

section Ioctl

variable (env : Env) (arg : Arg) (s : State) (tfile : TFile)

/-- `vmw_event_fence_action_create` with `vmw_event_fence_action_queue`, whose action holds a
reference to the fence. -/
def vmwEventFenceActionCreate (i : ObjId) : Int × State :=
  let (ret, file) := Event.vmwEventFenceActionCreate s.file arg.flags arg.userData env.eventAlloc
    (if env.actionAlloc then 0 else -ENOMEM)
  if ret ≠ 0 then (ret, { s with file := file })
  else
    (0, { s with
      file := file
      table := vmwFenceObjReference s.table i
      actions := s.actions ++ [i] })

/-- `vmw_execbuf_copy_fence_user`: a handle the client does not get to know is dropped. -/
def vmwExecbufCopyFenceUser (t : Table) (handle : Handle) : Table :=
  if arg.fenceRep ≠ 0 ∧ env.copy = false then (ttmRefObjectBaseUnref t tfile handle).2 else t

/-- `vmw_fence_event_ioctl` behind its `BUG_ON`. -/
def attach (i : ObjId) (handle : Handle) : Int × State :=
  let (ret, s) := vmwEventFenceActionCreate env arg s i
  if ret ≠ 0 then
    let t := if arg.fenceRep ≠ 0 then (ttmRefObjectBaseUnref s.table tfile handle).2 else s.table
    (ret, { s with table := vmwFenceObjUnreference t i })
  else
    (0, { s with
      table := vmwFenceObjUnreference (vmwExecbufCopyFenceUser env arg tfile s.table handle) i })

def vmwFenceEventIoctl : Except Stop (Int × State) :=
  if arg.handle ≠ 0 then
    match ttmBaseObjectLookupForRef s.table arg.handle with
    | none => .ok (-EINVAL, s)
    | some (base, t) =>
      -- the type of the object is not tested
      if ttmBaseObjectType (t.obj base) ≠ VMW_RES_FENCE then .error .confused
      else
        let t := vmwFenceObjReference t base
        let (ret, t) := if arg.fenceRep ≠ 0 then ttmRefObjectAdd t tfile base env.refAlloc else (0, t)
        -- a failed reference jumps over the release of the base object
        if ret ≠ 0 then .ok (ret, { s with table := vmwFenceObjUnreference t base })
        else
          .ok (attach env arg { s with table := ttmBaseObjectUnref t base } tfile base
            (t.obj base).key)
  else
    match vmwExecbufFenceCommands env s tfile (arg.fenceRep ≠ 0) with
    | none => .error .bug
    | some (i, s) => .ok (attach env arg s tfile i env.key)

end Ioctl

/-- The client has a handle from the call. -/
def Kept (env : Env) (arg : Arg) (ret : Int) : Prop := ret = 0 ∧ arg.fenceRep ≠ 0 ∧ env.copy = true

instance (env : Env) (arg : Arg) (ret : Int) : Decidable (Kept env arg ret) :=
  inferInstanceAs (Decidable (_ ∧ _ ∧ _))

/-- The references after a call for the fence `i`, which has the handle `key`.  A new fence whose
handle is kept has one more of its base object. -/
structure Counts (env : Env) (arg : Arg) (tfile : TFile) (s s' : State) (ret : Int) (i : ObjId)
    (key : Handle) : Prop where
  named : arg.handle ≠ 0 → ret = 0 → s.table.objectHash arg.handle = some i ∧ key = arg.handle
  handles : ∀ f k, s'.table.held f k =
    s.table.held f k + if Kept env arg ret ∧ f = tfile ∧ k = key then 1 else 0
  base : ∀ o, (s'.table.obj o).refcount = (s.table.obj o).refcount +
    if Kept env arg ret ∧ o = i ∧ s.table.held tfile key = 0 then 1 else 0
  fences : ∀ o c, s'.table.inner o c = s.table.inner o c +
    if o = i ∧ c = .userFence then
      (if ret = 0 then 1 else 0) + (if Kept env arg ret ∧ arg.handle = 0 then 1 else 0)
    else 0
  actions : s'.actions = s.actions ++ if ret = 0 then [i] else []

/-- The call returns with the references it is to leave. -/
def Balanced (env : Env) (arg : Arg) (s : State) (tfile : TFile) : Prop :=
  ∃ ret s', vmwFenceEventIoctl env arg s tfile = .ok (ret, s') ∧
    ∃ i key, Counts env arg tfile s s' ret i key

/-- What a call can rely on: memory and keys that are handed out are not in use. -/
structure Fresh (env : Env) (s : State) : Prop where
  consistent : s.table.Consistent
  key : s.table.objectHash env.key = none
  refcount : (s.table.obj s.next).refcount = 0
  inner : s.table.inner s.next .userFence = 0

/-- A fence object can be made, with a handle where one is asked for. -/
def Makes (env : Env) (arg : Arg) (s : State) : Prop :=
  env.fenceAlloc = true ∧ s.fifoDown = false ∧
    (arg.fenceRep ≠ 0 → env.memAlloc = 0 ∧ env.hashInsert = 0 ∧ env.refAlloc = 0)

/-- The named object, if there is one, is a fence the file may reference. -/
def Names (env : Env) (arg : Arg) (s : State) (tfile : TFile) : Prop :=
  ∀ base, s.table.objectHash arg.handle = some base →
    ttmBaseObjectType (s.table.obj base) = VMW_RES_FENCE ∧
      (arg.fenceRep ≠ 0 → MayAdd s.table tfile base env.refAlloc)

/-- A call has `n` references of its own to the fence `i`, and has given the client its handle where
a reply is asked for. -/
structure Acquired (arg : Arg) (tfile : TFile) (t t' : Table) (i : ObjId) (key : Handle) (n : Int) :
    Prop where
  refs : t'.refHash =
    if arg.fenceRep ≠ 0 then (t.setRef tfile key (some (addRef i (t.refHash tfile key)))).refHash
    else t.refHash
  entry : ∀ ref, t.refHash tfile key = some ref → 0 < ref.kref
  base : ∀ o, (t'.obj o).refcount =
    (t.obj o).refcount + if arg.fenceRep ≠ 0 ∧ o = i ∧ t.refHash tfile key = none then 1 else 0
  unused : arg.handle = 0 ↔ (t.obj i).refcount = 0
  fresh : arg.handle = 0 → t.refHash tfile key = none
  release : arg.handle = 0 → arg.fenceRep ≠ 0 → (t'.obj i).release = .userFence
  inner : ∀ o c, t'.inner o c = t.inner o c +
    if o = i ∧ c = .userFence then n + (if arg.fenceRep ≠ 0 ∧ arg.handle = 0 then 1 else 0) else 0

theorem setInner_inner (t : Table) (i o : ObjId) (c c' : Container) (n : Int) :
    (t.setInner i c n).inner o c' = if o = i ∧ c' = c then n else t.inner o c' := by
  unfold Table.setInner
  by_cases ho : o = i
  · subst ho
    by_cases hc : c' = c
    · subst hc
      simp
    · simp [hc]
  · simp [ho]

theorem setRefcount_obj_refcount (t : Table) (b o : ObjId) (n : Nat) :
    ((t.setRefcount b n).obj o).refcount = if o = b then n else (t.obj o).refcount := by
  by_cases ho : o = b
  · subst ho
    rw [Table.setRefcount_refcount, if_pos rfl]
  · rw [setRefcount_obj_of_ne ho, if_neg ho]

theorem ttmBaseObjectUnref_refcount (t : Table) (b o : ObjId) :
    ((ttmBaseObjectUnref t b).obj o).refcount = (t.obj o).refcount - if o = b then 1 else 0 := by
  have hset := setRefcount_obj_refcount t b o ((t.obj b).refcount - 1)
  have hobj : (ttmBaseObjectUnref t b).obj = (t.setRefcount b ((t.obj b).refcount - 1)).obj := by
    unfold ttmBaseObjectUnref
    dsimp only
    split <;> rfl
  rw [hobj, hset]
  by_cases ho : o = b
  · rw [if_pos ho, if_pos ho, ho]
  · rw [if_neg ho, if_neg ho, Nat.sub_zero]

/-- The last reference on a base object takes the one it has along. -/
theorem ttmBaseObjectUnref_inner (t : Table) (b o : ObjId) (c : Container) :
    (ttmBaseObjectUnref t b).inner o c = t.inner o c -
      if (t.obj b).refcount - 1 = 0 ∧ o = b ∧ c = (t.obj b).release then 1 else 0 := by
  have hrelease : ((t.setRefcount b ((t.obj b).refcount - 1)).obj b).release = (t.obj b).release := by
    simp [Table.setRefcount]
  unfold ttmBaseObjectUnref
  dsimp only
  split
  case isTrue hlast =>
    rw [hrelease]
    show ((t.setRefcount b _).setInner b (t.obj b).release (t.inner b (t.obj b).release - 1)).inner o c = _
    rw [setInner_inner]
    by_cases hoc : o = b ∧ c = (t.obj b).release
    · rw [if_pos hoc, if_pos ⟨hlast, hoc⟩, hoc.1, hoc.2]
    · rw [if_neg hoc, if_neg (fun h => hoc h.2), Int.sub_zero]
      rfl
  case isFalse hlast =>
    rw [if_neg (fun h => hlast h.1), Int.sub_zero]
    rfl

theorem held_eq_zero_iff {t : Table} {tfile : TFile} {key : Handle}
    (h : ∀ ref, t.refHash tfile key = some ref → 0 < ref.kref) :
    t.held tfile key = 0 ↔ t.refHash tfile key = none := by
  unfold Table.held
  cases href : t.refHash tfile key with
  | none => simp
  | some ref =>
    have := h ref href
    simp
    omega

/-- What a call holds of the fence, and whether the client has a new handle reference. -/
structure Holds (arg : Arg) (tfile : TFile) (t t' : Table) (i : ObjId) (key : Handle) (n : Int)
    (kept : Bool) : Prop where
  handles : ∀ f k, t'.held f k = t.held f k + if kept = true ∧ f = tfile ∧ k = key then 1 else 0
  base : ∀ o, (t'.obj o).refcount =
    (t.obj o).refcount + if kept = true ∧ o = i ∧ t.held tfile key = 0 then 1 else 0
  inner : ∀ o c, t'.inner o c = t.inner o c +
    if o = i ∧ c = .userFence then n + (if kept = true ∧ arg.handle = 0 then 1 else 0) else 0

theorem Holds.unreference {arg : Arg} {tfile : TFile} {t t' : Table} {i : ObjId} {key : Handle}
    {n : Int} {kept : Bool} (h : Holds arg tfile t t' i key n kept) :
    Holds arg tfile t (vmwFenceObjUnreference t' i) i key (n - 1) kept :=
  { h with
    inner := by
      intro o c
      rw [vmwFenceObjUnreference, setInner_inner, h.inner i .userFence, h.inner o c]
      by_cases hoc : o = i ∧ c = .userFence
      · obtain ⟨rfl, rfl⟩ := hoc
        simp only [and_self, if_true]
        omega
      · simp only [if_neg hoc] }

namespace Acquired

variable {arg : Arg} {tfile : TFile} {t t' : Table} {i : ObjId} {key : Handle} {n : Int}

theorem reference (h : Acquired arg tfile t t' i key n) :
    Acquired arg tfile t (vmwFenceObjReference t' i) i key (n + 1) :=
  { h with
    inner := by
      intro o c
      rw [vmwFenceObjReference, setInner_inner, h.inner i .userFence, h.inner o c]
      by_cases hoc : o = i ∧ c = .userFence
      · obtain ⟨rfl, rfl⟩ := hoc
        simp only [and_self, if_true]
        omega
      · simp only [if_neg hoc] }

theorem handles (h : Acquired arg tfile t t' i key n) (f : TFile) (k : Handle) :
    t'.held f k = t.held f k + if arg.fenceRep ≠ 0 ∧ f = tfile ∧ k = key then 1 else 0 := by
  by_cases hrep : arg.fenceRep ≠ 0
  · have hrefs := h.refs
    rw [if_pos hrep] at hrefs
    rw [congrFun (held_congr hrefs) f]
    by_cases hf : f = tfile
    · subst hf
      rw [held_setRef_addRef]
      unfold grant
      by_cases hk : k = key
      · subst hk
        simp [hrep]
      · simp [hk]
    · simp [Table.held, Table.setRef, hf]
  · have hrefs := h.refs
    rw [if_neg hrep] at hrefs
    rw [held_congr hrefs, if_neg (fun hc => hrep hc.1), Nat.add_zero]

/-- The reference of the client is dropped again. -/
theorem drop (h : Acquired arg tfile t t' i key n) (hrep : arg.fenceRep ≠ 0) :
    (ttmRefObjectBaseUnref t' tfile key).2.refHash = t.refHash ∧
      (∀ o, ((ttmRefObjectBaseUnref t' tfile key).2.obj o).refcount = (t.obj o).refcount) ∧
      ∀ o c, (ttmRefObjectBaseUnref t' tfile key).2.inner o c =
        t.inner o c + if o = i ∧ c = .userFence then n else 0 := by
  have hrefs := h.refs
  rw [if_pos hrep] at hrefs
  refine ⟨refHash_unref_add hrefs h.entry, ?_⟩
  have hentry : t'.refHash tfile key = some (addRef i (t.refHash tfile key)) := by
    rw [hrefs]
    simp [Table.setRef]
  have hbase := h.base
  have hinner := h.inner
  unfold ttmRefObjectBaseUnref
  rw [hentry]
  cases href : t.refHash tfile key with
  | some ref =>
    have hhandle : arg.handle ≠ 0 := by
      intro hzero
      rw [h.fresh hzero] at href
      cases href
    have hgt : ¬ ref.kref + 1 ≤ 1 := by
      have := h.entry ref href
      omega
    dsimp only [addRef]
    rw [if_neg hgt]
    simp only [href, reduceCtorEq, and_false, if_false, hhandle] at hbase hinner
    refine ⟨hbase, ?_⟩
    intro o c
    show t'.inner o c = _
    rw [hinner, Int.add_zero]
  | none =>
    dsimp only [addRef]
    rw [if_pos (Nat.le_refl 1)]
    refine ⟨?_, ?_⟩
    · intro o
      rw [ttmBaseObjectUnref_refcount, setRef_obj, hbase]
      by_cases ho : o = i
      · simp [ho, hrep, href]
      · simp [ho]
    · intro o c
      have hcount : (t'.obj i).refcount = (t.obj i).refcount + 1 := by
        rw [hbase, if_pos ⟨hrep, rfl, href⟩]
      rw [ttmBaseObjectUnref_inner, setRef_obj, hcount, Nat.add_sub_cancel]
      show t'.inner o c - _ = _
      rw [hinner]
      by_cases hzero : arg.handle = 0
      · simp only [h.release hzero hrep, h.unused.mp hzero, hzero, hrep, ne_eq, not_false_eq_true,
          and_self, true_and, if_true]
        split <;> omega
      · have hused : (t.obj i).refcount ≠ 0 := mt h.unused.mpr hzero
        simp only [hused, hzero, false_and, and_false, if_false, Int.sub_zero, Int.add_zero]

theorem holds (h : Acquired arg tfile t t' i key n) :
    Holds arg tfile t t' i key n (decide (arg.fenceRep ≠ 0)) where
  handles := by
    simp only [decide_eq_true_eq]
    exact h.handles
  base := by
    simp only [decide_eq_true_eq, held_eq_zero_iff h.entry]
    exact h.base
  inner := by
    simp only [decide_eq_true_eq]
    exact h.inner

theorem holds_drop (h : Acquired arg tfile t t' i key n) (hrep : arg.fenceRep ≠ 0) :
    Holds arg tfile t (ttmRefObjectBaseUnref t' tfile key).2 i key n false := by
  obtain ⟨hrefs, hbase, hinner⟩ := h.drop hrep
  exact
  { handles := by
      intro f k
      rw [held_congr hrefs, if_neg (fun hc => Bool.false_ne_true hc.1), Nat.add_zero]
    base := by
      intro o
      rw [hbase, if_neg (fun hc => Bool.false_ne_true hc.1), Nat.add_zero]
    inner := by
      intro o c
      rw [hinner, if_neg (c := false = true ∧ arg.handle = 0) (fun hc => Bool.false_ne_true hc.1),
        Int.add_zero] }

end Acquired

section Attach

variable {env : Env} {arg : Arg} {tfile : TFile} {s s₁ : State} {i : ObjId} {key : Handle}

theorem counts_of_holds {s' : State} {ret : Int} {kept : Bool}
    (h : Holds arg tfile s.table s'.table i key (if ret = 0 then 1 else 0) kept)
    (hkept : kept = true ↔ Kept env arg ret)
    (hnamed : arg.handle ≠ 0 → s.table.objectHash arg.handle = some i ∧ key = arg.handle)
    (hactions : s'.actions = s.actions ++ if ret = 0 then [i] else []) :
    Counts env arg tfile s s' ret i key where
  named := fun hhandle _ => hnamed hhandle
  handles := by
    simp only [← hkept]
    exact h.handles
  base := by
    simp only [← hkept]
    exact h.base
  fences := by
    simp only [← hkept]
    exact h.inner
  actions := hactions

/-- Whatever posting the event comes to. -/
theorem attach_counts (h : Acquired arg tfile s.table s₁.table i key 1)
    (hnamed : arg.handle ≠ 0 → s.table.objectHash arg.handle = some i ∧ key = arg.handle)
    (hactions : s₁.actions = s.actions) :
    Counts env arg tfile s (attach env arg s₁ tfile i key).2 (attach env arg s₁ tfile i key).1 i key := by
  unfold attach vmwEventFenceActionCreate
  obtain ⟨ret, file⟩ := Event.vmwEventFenceActionCreate s₁.file arg.flags arg.userData env.eventAlloc
    (if env.actionAlloc then 0 else -ENOMEM)
  dsimp only
  by_cases hret : ret = 0
  case neg =>
    have hkept : false = true ↔ Kept env arg ret := 
      ⟨Bool.noConfusion, fun hk => absurd hk.1 hret⟩
    rw [if_pos hret, if_pos hret]
    refine counts_of_holds ?_ hkept hnamed ?_
    · rw [if_neg hret]
      by_cases hrep : arg.fenceRep ≠ 0
      · rw [if_pos hrep]
        exact (h.holds_drop hrep).unreference
      · rw [if_neg hrep]
        have hholds := h.holds
        rw [decide_eq_false hrep] at hholds
        exact hholds.unreference
    · rw [if_neg hret, List.append_nil]
      exact hactions
  case pos =>
    have h₂ := h.reference
    rw [if_neg (not_not.mpr hret), if_neg (not_not.mpr rfl)]
    have hholds : Holds arg tfile s.table
        (vmwExecbufCopyFenceUser env arg tfile (vmwFenceObjReference s₁.table i) key) i key (1 + 1)
        (decide (arg.fenceRep ≠ 0) && env.copy) := by
      unfold vmwExecbufCopyFenceUser
      by_cases hrep : arg.fenceRep ≠ 0
      · cases hcopy : env.copy with
        | true =>
          rw [if_neg (fun hc => Bool.noConfusion hc.2), Bool.and_true]
          exact h₂.holds
        | false =>
          rw [if_pos ⟨hrep, rfl⟩, Bool.and_false]
          exact h₂.holds_drop hrep
      · rw [if_neg (fun hc => hrep hc.1), decide_eq_false hrep, Bool.false_and, ← decide_eq_false hrep]
        exact h₂.holds
    refine counts_of_holds hholds.unreference ?_ hnamed ?_
    · rw [Bool.and_eq_true, decide_eq_true_eq]
      exact ⟨fun hk => ⟨rfl, hk⟩, fun hk => hk.2⟩
    · show s₁.actions ++ [i] = _
      rw [hactions]
      rfl

end Attach

section Add

variable {t : Table} {tfile : TFile} {base : ObjId} {alloc : Int}

theorem ttmRefObjectAdd_refcount (h : MayAdd t tfile base alloc) (o : ObjId) :
    ((ttmRefObjectAdd t tfile base alloc).2.obj o).refcount = (t.obj o).refcount +
      if o = base ∧ t.refHash tfile (t.obj base).key = none then 1 else 0 := by
  rw [ttmRefObjectAdd_added h]
  dsimp only
  split
  case isTrue hnone =>
    rw [setRefcount_obj_refcount]
    by_cases ho : o = base
    · rw [if_pos ho, if_pos ⟨ho, hnone⟩, ho]
    · rw [if_neg ho, if_neg (fun hc => ho hc.1)]
      rfl
  case isFalse hsome =>
    rw [if_neg (fun hc => hsome hc.2)]
    rfl

theorem ttmRefObjectAdd_inner (h : MayAdd t tfile base alloc) :
    (ttmRefObjectAdd t tfile base alloc).2.inner = t.inner := by
  rw [ttmRefObjectAdd_added h]
  dsimp only
  split <;> rfl

theorem ttmRefObjectAdd_release (h : MayAdd t tfile base alloc) (o : ObjId) :
    ((ttmRefObjectAdd t tfile base alloc).2.obj o).release = (t.obj o).release := by
  rw [ttmRefObjectAdd_added h]
  dsimp only
  split
  · by_cases ho : o = base
    · simp [Table.setRefcount, ho, Table.setRef]
    · rw [setRefcount_obj_of_ne ho]
      rfl
  · rfl

theorem ttmRefObjectAdd_key (o : ObjId) :
    ((ttmRefObjectAdd t tfile base alloc).2.obj o).key = (t.obj o).key := by
  by_cases h : MayAdd t tfile base alloc
  · rw [ttmRefObjectAdd_added h]
    dsimp only
    split
    · rw [setRefcount_key, setRef_obj]
    · rw [setRef_obj]
  · rw [ttmRefObjectAdd_failed (mt (ttmRefObjectAdd_ret t tfile base alloc).mp h)]

theorem ttmBaseObjectUnref_release (t : Table) (b o : ObjId) :
    ((ttmBaseObjectUnref t b).obj o).release = (t.obj o).release := by
  unfold ttmBaseObjectUnref
  dsimp only
  split <;> by_cases ho : o = b <;> simp [Table.setRefcount, Table.setInner, ho]

end Add

section Found

variable {env : Env} {arg : Arg} {s : State} {tfile : TFile} {base : ObjId}

/-- The named fence, behind the look-up and the reference to it. -/
def found (t : Table) (base : ObjId) : Table :=
  vmwFenceObjReference (t.setRefcount base ((t.obj base).refcount + 1)) base

theorem found_key (t : Table) (base : ObjId) : ((found t base).obj base).key = (t.obj base).key := by
  simp [found, vmwFenceObjReference]

theorem found_refcount (t : Table) (base o : ObjId) :
    ((found t base).obj o).refcount = (t.obj o).refcount + if o = base then 1 else 0 := by
  rw [found, vmwFenceObjReference, setInner_obj, setRefcount_obj_refcount]
  by_cases ho : o = base
  · rw [if_pos ho, if_pos ho, ho]
  · rw [if_neg ho, if_neg ho, Nat.add_zero]

theorem found_inner (t : Table) (base o : ObjId) (c : Container) :
    (found t base).inner o c = t.inner o c + if o = base ∧ c = .userFence then 1 else 0 := by
  rw [found, vmwFenceObjReference, setInner_inner]
  by_cases hoc : o = base ∧ c = .userFence
  · rw [if_pos hoc, if_pos hoc, hoc.1, hoc.2]
    rfl
  · rw [if_neg hoc, if_neg hoc, Int.add_zero]
    rfl

theorem mayAdd_found {alloc : Int} :
    MayAdd (found s.table base) tfile base alloc ↔ MayAdd s.table tfile base alloc := by
  unfold MayAdd
  have hobj : ((found s.table base).obj base).tfile = (s.table.obj base).tfile ∧
      ((found s.table base).obj base).shareable = (s.table.obj base).shareable := by
    simp [found, vmwFenceObjReference, Table.setRefcount]
  rw [hobj.1, hobj.2, found_key]
  rfl

/-- The reference of the look-up is dropped again. -/
theorem acquired_found (h : s.table.Consistent) (hbase : s.table.objectHash arg.handle = some base)
    (hhandle : arg.handle ≠ 0) (hadd : arg.fenceRep ≠ 0 → MayAdd s.table tfile base env.refAlloc) :
    Acquired arg tfile s.table
      (ttmBaseObjectUnref
        (if arg.fenceRep ≠ 0 then (ttmRefObjectAdd (found s.table base) tfile base env.refAlloc).2
          else found s.table base) base)
      base arg.handle 1 := by
  obtain ⟨hkey, hused⟩ := h.registered _ _ hbase
  have hunused : arg.handle = 0 ↔ (s.table.obj base).refcount = 0 :=
    ⟨fun h => absurd h hhandle, fun h => absurd h hused⟩
  have hentry : ∀ ref, s.table.refHash tfile arg.handle = some ref → 0 < ref.kref :=
    fun ref href => (h.referenced _ _ _ href).2
  by_cases hrep : arg.fenceRep ≠ 0
  · have hmay := mayAdd_found.mpr (hadd hrep)
    have hrefcount : ∀ o, ((ttmRefObjectAdd (found s.table base) tfile base env.refAlloc).2.obj o).refcount =
        (s.table.obj o).refcount + (if o = base then 1 else 0) +
          if o = base ∧ s.table.refHash tfile arg.handle = none then 1 else 0 := by
      intro o
      rw [ttmRefObjectAdd_refcount hmay, found_refcount, found_key, hkey]
      rfl
    rw [if_pos hrep]
    exact
    { refs := by
        rw [ttmBaseObjectUnref_refHash, ttmRefObjectAdd_refHash hmay, found_key, hkey, if_pos hrep]
        rfl
      entry := hentry
      base := by
        intro o
        rw [ttmBaseObjectUnref_refcount, hrefcount]
        by_cases ho : o = base
        · simp only [ho, hrep, if_true, true_and, ne_eq, not_false_eq_true]
          omega
        · simp [ho]
      unused := hunused
      fresh := fun hzero => absurd hzero hhandle
      release := fun hzero => absurd hzero hhandle
      inner := by
        intro o c
        have hmore : ¬ ((s.table.obj base).refcount + 1 +
            (if s.table.refHash tfile arg.handle = none then 1 else 0) - 1 = 0) := by
          omega
        rw [ttmBaseObjectUnref_inner, hrefcount, ttmRefObjectAdd_inner hmay, found_inner]
        simp only [if_true, true_and, hmore, false_and, if_false, Int.sub_zero, hhandle, and_false,
          Int.add_zero] }
  · rw [if_neg hrep]
    exact
    { refs := by
        rw [ttmBaseObjectUnref_refHash, if_neg hrep]
        rfl
      entry := hentry
      base := by
        intro o
        rw [ttmBaseObjectUnref_refcount, found_refcount, Nat.add_sub_cancel]
        simp only [hrep, false_and, if_false, Nat.add_zero]
      unused := hunused
      fresh := fun hzero => absurd hzero hhandle
      release := fun hzero => absurd hzero hhandle
      inner := by
        intro o c
        have hmore : ¬ ((s.table.obj base).refcount + 1 - 1 = 0) := by omega
        rw [ttmBaseObjectUnref_inner, found_refcount, found_inner]
        simp only [if_true, hmore, false_and, if_false, Int.sub_zero, hhandle, and_false,
          Int.add_zero] }

end Found

section Made

variable {env : Env} {arg : Arg} {s s' : State} {tfile : TFile} {i : ObjId}

/-- The registered fence before its base object gives up the reference of `kref_init`. -/
def registered (env : Env) (s : State) (tfile : TFile) : Table :=
  let t := (s.table.setInner s.next .userFence 1).setInner s.next .userFence (1 + 1)
  { t with
    obj := Function.update t.obj s.next
      ⟨env.key, VMW_RES_FENCE, VMW_RES_FENCE, false, tfile, 1, .userFence⟩
    objectHash := Function.update t.objectHash env.key (some s.next) }

theorem registered_obj (env : Env) (s : State) (tfile : TFile) :
    (registered env s tfile).obj s.next =
      ⟨env.key, VMW_RES_FENCE, VMW_RES_FENCE, false, tfile, 1, .userFence⟩ :=
  Function.update_self _ _ _

theorem mayAdd_registered (h : Fresh env s) (tfile : TFile) :
    MayAdd (registered env s tfile) tfile s.next env.refAlloc ↔ env.refAlloc = 0 := by
  unfold MayAdd
  rw [registered_obj]
  have hnone : (registered env s tfile).refHash tfile env.key = none :=
    h.consistent.refHash_none h.key tfile
  simp [hnone]

/-- `ttm_base_object_init` of a new fence. -/
theorem baseObjectInit_eq (h : Fresh env s) (tfile : TFile) {t : Table}
    (ht : t = (s.table.setInner s.next .userFence 1).setInner s.next .userFence (1 + 1)) :
    ((ttmBaseObjectInit env tfile t s.next).1 = 0 ↔ env.hashInsert = 0 ∧ env.refAlloc = 0) ∧
      (env.hashInsert = 0 → env.refAlloc = 0 → (ttmBaseObjectInit env tfile t s.next).2 =
        ttmBaseObjectUnref (ttmRefObjectAdd (registered env s tfile) tfile s.next env.refAlloc).2 s.next) := by
  subst ht
  by_cases hinsert : env.hashInsert = 0
  case neg =>
    unfold ttmBaseObjectInit
    simp [hinsert]
  case pos =>
    have htail : ttmBaseObjectInit env tfile
        ((s.table.setInner s.next .userFence 1).setInner s.next .userFence (1 + 1)) s.next =
        let r := ttmRefObjectAdd (registered env s tfile) tfile s.next env.refAlloc
        if r.1 ≠ 0 then (r.1, { r.2 with objectHash := Function.update r.2.objectHash env.key none })
        else (0, ttmBaseObjectUnref r.2 s.next) := by
      unfold ttmBaseObjectInit
      dsimp only
      rw [if_neg (not_not.mpr hinsert)]
      rfl
    have hiff := (ttmRefObjectAdd_ret _ _ _ _).trans (mayAdd_registered h tfile)
    rw [htail, and_iff_right hinsert, imp_iff_right hinsert]
    dsimp only
    by_cases halloc : env.refAlloc = 0
    · rw [if_neg (not_not.mpr (hiff.mpr halloc))]
      exact ⟨iff_of_true rfl halloc, fun _ => rfl⟩
    · rw [if_pos (mt hiff.mp halloc)]
      exact ⟨iff_of_false (mt hiff.mp halloc) halloc, fun hz => absurd hz halloc⟩

theorem fenceObjInit_eq : vmwFenceObjInit env s =
    if env.fenceAlloc = true ∧ s.fifoDown = false then
      some (s.next, { s with table := s.table.setInner s.next .userFence 1, next := s.next + 1 })
    else none := by
  unfold vmwFenceObjInit
  cases env.fenceAlloc <;> cases s.fifoDown <;> rfl

theorem userFenceCreate_eq (h : Fresh env s) : vmwUserFenceCreate env s tfile =
    if env.fenceAlloc = true ∧ s.fifoDown = false ∧ env.memAlloc = 0 ∧ env.hashInsert = 0 ∧
        env.refAlloc = 0 then
      some (s.next, { s with
        table := ttmBaseObjectUnref
          (ttmRefObjectAdd (registered env s tfile) tfile s.next env.refAlloc).2 s.next
        next := s.next + 1 })
    else none := by
  unfold vmwUserFenceCreate
  rw [fenceObjInit_eq]
  by_cases hmem : env.memAlloc = 0
  case neg => simp [hmem]
  case pos =>
    by_cases hinit : env.fenceAlloc = true ∧ s.fifoDown = false
    case neg =>
      rw [if_neg hinit, if_neg (not_not.mpr hmem), if_neg (fun hc => hinit ⟨hc.1, hc.2.1⟩)]
    case pos =>
      rw [if_pos hinit, if_neg (not_not.mpr hmem)]
      dsimp only
      have hone : (s.table.setInner s.next .userFence 1).inner s.next .userFence = 1 := by
        rw [setInner_inner, if_pos ⟨rfl, rfl⟩]
      have ht : vmwFenceObjReference (s.table.setInner s.next .userFence 1) s.next =
          (s.table.setInner s.next .userFence 1).setInner s.next .userFence (1 + 1) := by
        rw [vmwFenceObjReference, hone]
      obtain ⟨hret, htable⟩ := baseObjectInit_eq h tfile ht
      by_cases hregister : env.hashInsert = 0 ∧ env.refAlloc = 0
      · rw [if_neg (not_not.mpr (hret.mpr hregister)), htable hregister.1 hregister.2,
          if_pos ⟨hinit.1, hinit.2, hmem, hregister⟩]
      · rw [if_pos (mt hret.mp hregister), if_neg (fun hc => hregister hc.2.2.2)]

/-- A fence is made exactly where the steps succeed. -/
theorem fenceCommands_isSome (h : Fresh env s) :
    (vmwExecbufFenceCommands env s tfile (arg.fenceRep ≠ 0)).isSome = true ↔ Makes env arg s := by
  unfold vmwExecbufFenceCommands Makes
  by_cases hrep : arg.fenceRep ≠ 0
  · rw [if_pos (decide_eq_true hrep), userFenceCreate_eq h]
    split
    case isTrue hc => simp [hc]
    case isFalse hc =>
      refine iff_of_false Bool.false_ne_true ?_
      rintro ⟨halloc, hdown, hmore⟩
      exact hc ⟨halloc, hdown, hmore hrep⟩
  · rw [if_neg (fun hc => hrep (of_decide_eq_true hc)), vmwFenceCreate, fenceObjInit_eq]
    split
    case isTrue hc => simp [hc, hrep]
    case isFalse hc =>
      refine iff_of_false Bool.false_ne_true ?_
      rintro ⟨halloc, hdown, -⟩
      exact hc ⟨halloc, hdown⟩

theorem acquired_made (h : Fresh env s) (hhandle : arg.handle = 0)
    (hmade : vmwExecbufFenceCommands env s tfile (arg.fenceRep ≠ 0) = some (i, s')) :
    Acquired arg tfile s.table s'.table i env.key 1 ∧ s'.actions = s.actions := by
  have hnone := h.consistent.refHash_none h.key tfile
  have hentry : ∀ ref, s.table.refHash tfile env.key = some ref → 0 < ref.kref := by
    intro ref href
    rw [hnone] at href
    cases href
  unfold vmwExecbufFenceCommands at hmade
  by_cases hrep : arg.fenceRep ≠ 0
  · rw [if_pos (decide_eq_true hrep), userFenceCreate_eq h] at hmade
    obtain ⟨hc, hmade⟩ := Option.ite_none_right_eq_some.mp hmade
    cases hmade
    have hmay := (mayAdd_registered h tfile).mpr hc.2.2.2.2
    have hkey : ((registered env s tfile).obj s.next).key = env.key := by rw [registered_obj]
    have hregistered : (registered env s tfile).refHash tfile env.key = none := hnone
    have hrefcount : ∀ o, ((ttmRefObjectAdd (registered env s tfile) tfile s.next env.refAlloc).2.obj o).refcount =
        if o = s.next then 2 else (s.table.obj o).refcount := by
      intro o
      rw [ttmRefObjectAdd_refcount hmay, hkey, hregistered]
      by_cases ho : o = s.next
      · simp [ho, registered_obj]
      · simp [ho, registered, Table.setInner]
    refine ⟨?_, rfl⟩
    exact
    { refs := by
        rw [ttmBaseObjectUnref_refHash, ttmRefObjectAdd_refHash hmay, hkey, if_pos hrep]
        rfl
      entry := hentry
      base := by
        intro o
        rw [ttmBaseObjectUnref_refcount, hrefcount]
        by_cases ho : o = s.next
        · simp [ho, h.refcount, hrep, hnone]
        · simp [ho]
      unused := iff_of_true hhandle h.refcount
      fresh := fun _ => hnone
      release := by
        intro _ _
        rw [ttmBaseObjectUnref_release, ttmRefObjectAdd_release hmay, registered_obj]
      inner := by
        intro o c
        rw [ttmBaseObjectUnref_inner, hrefcount, ttmRefObjectAdd_inner hmay]
        by_cases hoc : o = s.next ∧ c = .userFence
        · simp [hoc, registered, Table.setInner, h.inner, hrep, hhandle]
        · have hinner : (registered env s tfile).inner o c = s.table.inner o c := by
            show ((s.table.setInner s.next .userFence 1).setInner s.next .userFence (1 + 1)).inner o c = _
            rw [setInner_inner, if_neg hoc, setInner_inner, if_neg hoc]
          simp [hoc, hinner] }
  · rw [if_neg (fun hc => hrep (of_decide_eq_true hc)), vmwFenceCreate, fenceObjInit_eq] at hmade
    obtain ⟨-, hmade⟩ := Option.ite_none_right_eq_some.mp hmade
    cases hmade
    refine ⟨?_, rfl⟩
    exact
    { refs := by
        rw [if_neg hrep]
        rfl
      entry := hentry
      base := by
        intro o
        rw [if_neg (fun hc => hrep hc.1)]
        rfl
      unused := iff_of_true hhandle h.refcount
      fresh := fun _ => hnone
      release := fun _ hr => absurd hr hrep
      inner := by
        intro o c
        show (s.table.setInner s.next .userFence 1).inner o c = _
        rw [setInner_inner]
        by_cases hoc : o = s.next ∧ c = .userFence
        · simp [hoc, h.inner, hrep]
        · simp [hoc] }

end Made

section Named

variable {env : Env} {arg : Arg} {s : State} {tfile : TFile} {base : ObjId}

/-- The ioctl behind the test of the type that it does not make. -/
def named (env : Env) (arg : Arg) (s : State) (tfile : TFile) (base : ObjId) : Int × State :=
  let (ret, t) :=
    if arg.fenceRep ≠ 0 then ttmRefObjectAdd (found s.table base) tfile base env.refAlloc
    else (0, found s.table base)
  if ret ≠ 0 then (ret, { s with table := vmwFenceObjUnreference t base })
  else
    attach env arg { s with table := ttmBaseObjectUnref t base } tfile base (t.obj base).key

theorem ioctl_named (hhandle : arg.handle ≠ 0) (h : s.table.Consistent)
    (hbase : s.table.objectHash arg.handle = some base) :
    vmwFenceEventIoctl env arg s tfile =
      if ttmBaseObjectType (s.table.obj base) ≠ VMW_RES_FENCE then .error .confused
      else .ok (named env arg s tfile base) := by
  have hlookup := (ttmBaseObjectLookupForRef_some (t := s.table)).mpr
    ⟨hbase, (h.registered _ _ hbase).2, rfl⟩
  unfold vmwFenceEventIoctl named
  rw [if_pos hhandle, hlookup]
  dsimp only
  rw [Table.setRefcount_type]
  split
  · rfl
  · exact (apply_ite Except.ok _ _ _).symm

theorem ioctl_unknown (hhandle : arg.handle ≠ 0) (hbase : s.table.objectHash arg.handle = none) :
    vmwFenceEventIoctl env arg s tfile = .ok (-EINVAL, s) := by
  unfold vmwFenceEventIoctl ttmBaseObjectLookupForRef
  rw [if_pos hhandle, hbase]
  rfl

theorem named_counts (hhandle : arg.handle ≠ 0) (h : s.table.Consistent)
    (hbase : s.table.objectHash arg.handle = some base)
    (hadd : arg.fenceRep ≠ 0 → MayAdd s.table tfile base env.refAlloc) :
    Counts env arg tfile s (named env arg s tfile base).2 (named env arg s tfile base).1 base arg.handle := by
  have hkey := (h.registered _ _ hbase).1
  have hacquired := acquired_found h hbase hhandle hadd
  unfold named
  by_cases hrep : arg.fenceRep ≠ 0
  · have hret := (ttmRefObjectAdd_ret _ _ _ _).mpr (mayAdd_found.mpr (hadd hrep))
    rw [if_pos hrep] at hacquired ⊢
    dsimp only
    rw [if_neg (not_not.mpr hret), ttmRefObjectAdd_key, found_key, hkey]
    exact attach_counts hacquired (fun _ => ⟨hbase, rfl⟩) rfl
  · rw [if_neg hrep] at hacquired ⊢
    dsimp only
    rw [if_neg (not_not.mpr rfl), found_key, hkey]
    exact attach_counts hacquired (fun _ => ⟨hbase, rfl⟩) rfl

/-- The reference of the look-up stays when the file may not have one of its own. -/
theorem named_leaks (hrep : arg.fenceRep ≠ 0) (hadd : ¬ MayAdd s.table tfile base env.refAlloc)
    (i : ObjId) (key : Handle) :
    ¬ Counts env arg tfile s (named env arg s tfile base).2 (named env arg s tfile base).1 i key := by
  have hret := mt (ttmRefObjectAdd_ret _ _ _ _).mp (mt mayAdd_found.mp hadd)
  have hsame := ttmRefObjectAdd_failed hret
  unfold named
  rw [if_pos hrep]
  dsimp only
  rw [if_pos hret, hsame]
  intro hcounts
  have hbase := hcounts.base base
  rw [if_neg (fun hk => hret hk.1.1)] at hbase
  change ((found s.table base).obj base).refcount = _ at hbase
  rw [found_refcount, if_pos rfl] at hbase
  omega

end Named

/-- The references are balanced except over three slips: the reference of the look-up that is lost,
the fence that could not be made, and the object that is no fence. -/
theorem fence_event_balanced_iff (env : Env) (arg : Arg) (s : State) (tfile : TFile) (h : Fresh env s) :
    Balanced env arg s tfile ↔
      (arg.handle = 0 → Makes env arg s) ∧ (arg.handle ≠ 0 → Names env arg s tfile) := by
  by_cases hhandle : arg.handle = 0
  case pos =>
    rw [and_iff_left (fun hne => absurd hhandle hne), imp_iff_right hhandle, ← fenceCommands_isSome h]
    unfold Balanced vmwFenceEventIoctl
    rw [if_neg (not_not.mpr hhandle)]
    cases hmade : vmwExecbufFenceCommands env s tfile (arg.fenceRep ≠ 0) with
    | none =>
      simp
    | some r =>
      obtain ⟨i, s'⟩ := r
      obtain ⟨hacquired, hactions⟩ := acquired_made h hhandle hmade
      refine iff_of_true ⟨_, _, rfl, i, env.key, ?_⟩ rfl
      exact attach_counts hacquired (fun hne => absurd hhandle hne) hactions
  case neg =>
    rw [and_iff_right (fun hzero => absurd hzero hhandle), imp_iff_right hhandle]
    unfold Balanced Names
    cases hbase : s.table.objectHash arg.handle with
    | none =>
      refine iff_of_true ⟨_, _, ioctl_unknown hhandle hbase, 0, 0, ?_⟩ (fun base hb => by cases hb)
      have hret : ¬ (-EINVAL = 0) := by decide
      have hkept : ¬ Kept env arg (-EINVAL) := fun hk => hret hk.1
      exact
      { named := fun _ hzero => absurd hzero hret
        handles := fun f k => by rw [if_neg (fun hc => hkept hc.1), Nat.add_zero]
        base := fun o => by rw [if_neg (fun hc => hkept hc.1), Nat.add_zero]
        fences := fun o c => by simp [hret, hkept]
        actions := by rw [if_neg hret, List.append_nil] }
    | some base =>
      rw [ioctl_named hhandle h.consistent hbase]
      simp only [Option.some.injEq, forall_eq']
      by_cases htype : ttmBaseObjectType (s.table.obj base) = VMW_RES_FENCE
      · rw [if_neg (not_not.mpr htype), and_iff_right htype]
        constructor
        · rintro ⟨ret, s', heq, i, key, hcounts⟩ hrep
          by_contra hadd
          have hpair := Except.ok.inj heq
          apply named_leaks hrep hadd i key
          rw [hpair]
          exact hcounts
        · intro hadd
          exact ⟨_, _, rfl, base, arg.handle, named_counts hhandle h.consistent hbase hadd⟩
      · rw [if_pos htype]
        refine iff_of_false ?_ (fun hc => htype hc.1)
        rintro ⟨ret, s', heq, -⟩
        cases heq

section Example

/-- A fence of file 1 at handle 7. -/
private def oneFence : State where
  table :=
    { obj := fun o => ⟨7, VMW_RES_FENCE, VMW_RES_FENCE, false, 1, if o = 0 then 1 else 0, .userFence⟩
      objectHash := fun key => if key = 7 then some 0 else none
      refHash := fun tfile key => if tfile = 1 ∧ key = 7 then some ⟨0, 1⟩ else none
      inner := fun o _ => if o = 0 then 1 else 0
      avail := fun _ _ => true
      resFree := fun _ _ => none }
  next := 1
  fifoDown := false
  file := .opened 4096
  actions := []

private def calm : Env := ⟨0, true, 0, 8, 0, true, true, true⟩

theorem oneFence_fresh : Fresh calm oneFence where
  consistent :=
    { registered := by
        intro key base hkey
        obtain ⟨rfl, hbase⟩ := Option.ite_none_right_eq_some.mp hkey
        cases hbase
        exact ⟨rfl, Nat.one_ne_zero⟩
      referenced := by
        intro tfile key ref href
        obtain ⟨⟨rfl, rfl⟩, href⟩ := Option.ite_none_right_eq_some.mp href
        cases href
        exact ⟨rfl, Nat.one_pos⟩ }
  key := rfl
  refcount := rfl
  inner := rfl

/-- Its own file may have another reference. -/
theorem fence_event_balanced_own : Balanced calm ⟨1, 0, 7, 0⟩ oneFence 1 := by
  apply (fence_event_balanced_iff calm ⟨1, 0, 7, 0⟩ oneFence 1 oneFence_fresh).mpr
  refine ⟨fun hzero => absurd hzero (by decide), fun _ base hbase => ?_⟩
  cases hbase
  exact ⟨rfl, fun _ => ⟨.inl rfl, fun _ => rfl⟩⟩

/-- Another file may not, and a reference to the base object is lost. -/
theorem fence_event_leaks : ¬ ∀ env arg s tfile, Fresh env s → Balanced env arg s tfile := by
  intro h
  obtain ⟨ret, s', heq, i, key, hcounts⟩ := h calm ⟨1, 0, 7, 0⟩ oneFence 2 oneFence_fresh
  have htype : ttmBaseObjectType (oneFence.table.obj 0) = VMW_RES_FENCE := rfl
  rw [ioctl_named (by decide) oneFence_fresh.consistent rfl, if_neg (not_not.mpr htype)] at heq
  have hpair := Except.ok.inj heq
  have hadd : ¬ MayAdd oneFence.table 2 0 calm.refAlloc := by
    rintro ⟨howns | hshares, -⟩
    · exact absurd howns (by decide)
    · cases hshares
  have hrep : (⟨1, 0, 7, 0⟩ : Arg).fenceRep ≠ 0 := Nat.one_ne_zero
  apply named_leaks hrep hadd i key
  rw [hpair]
  exact hcounts

end Example

end Vmwgfx.Object.FenceEvent
