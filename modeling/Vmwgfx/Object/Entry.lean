import Vmwgfx.Object.Defs

/-! The entry points that take a handle from a client, and which of them test
the type of the object they find before taking it for the inside of a container. -/

namespace Vmwgfx.Object

def ESRCH : Int := 3

/-- What a call returns, the tables it leaves and the conversions of base
objects to their containers it made. -/
structure Outcome where
  ret : Int
  table : Table
  converted : List (ObjId × Container)

/-- `struct vmw_user_resource_conv`. -/
structure Converter where
  objectType : TtmObjectType
  baseObjToRes : Container
  resFree : Container

def userContextConverter : Converter := ⟨VMW_RES_CONTEXT, .userContext, .userContext⟩
def userSurfaceConverter : Converter := ⟨VMW_RES_SURFACE, .userSurface, .userSurface⟩
def userShaderConverter : Converter := ⟨VMW_RES_SHADER, .userShader, .userShader⟩

def vmwUserResourceLookupHandle (converter : Converter) (t : Table) (tfile : TFile) (handle : Handle) : Outcome :=
  match ttmBaseObjectLookup t tfile handle with
  | none => ⟨-EINVAL, t, []⟩
  | some (base, t) =>
    if ttmBaseObjectType (t.obj base) ≠ converter.objectType then ⟨-EINVAL, ttmBaseObjectUnref t base, []⟩
    else
      let c := converter.baseObjToRes
      let r := if t.avail base c = false ∨ t.resFree base c ≠ some converter.resFree then (-EINVAL, t)
        else (0, t.setInner base c (t.inner base c + 1))
      ⟨r.1, ttmBaseObjectUnref r.2 base, [(base, c)]⟩

def vmwUserDmabufLookup (t : Table) (tfile : TFile) (handle : Handle) : Outcome :=
  match ttmBaseObjectLookup t tfile handle with
  | none => ⟨-ESRCH, t, []⟩
  | some (base, t) =>
    if ttmBaseObjectType (t.obj base) ≠ .bufferType then ⟨-EINVAL, ttmBaseObjectUnref t base, []⟩
    else
      let c := Container.userDmaBuffer
      ⟨0, ttmBaseObjectUnref (t.setInner base c (t.inner base c + 1)) base, [(base, c)]⟩

/-- What the fence entry points read besides the tables. The fence functions
are given the object whose container is read, of whatever type it is. -/
structure FenceEnv where
  hz : BitVec 64
  jiffies : BitVec 64
  jiffiesNow : BitVec 64
  signaled : ObjId → Nat → Bool
  wait : ObjId → Nat → Int → BitVec 64 → Int
  signaledFlags : ObjId → Nat
  lastReadSeqno : Nat

/-- `struct drm_vmw_fence_wait_arg`. -/
structure FenceWaitArg where
  handle : Handle
  cookieValid : Int
  kernelCookie : BitVec 64
  timeoutUs : BitVec 64
  lazy : Int
  flags : Nat
  waitOptions : BitVec 32

def DRM_VMW_WAIT_OPTION_UNREF : BitVec 32 := 1

/-- `wait_timeout`: a division by 1000000 in shifts. -/
def waitTimeout (hz timeoutUs : BitVec 64) : BitVec 64 :=
  let w := timeoutUs * hz
  (w >>> 20) + (w >>> 24) - (w >>> 26)

/-- The deadline is set by the first call and kept when the wait is restarted. -/
def FenceWaitArg.startCookie (env : FenceEnv) (arg : FenceWaitArg) : FenceWaitArg :=
  if arg.cookieValid = 0 then
    { arg with cookieValid := 1, kernelCookie := env.jiffies + waitTimeout env.hz arg.timeoutUs }
  else arg

@[simp] theorem FenceWaitArg.startCookie_handle (env : FenceEnv) (arg : FenceWaitArg) :
    (arg.startCookie env).handle = arg.handle := by
  unfold startCookie
  split <;> rfl

def vmwFenceObjWaitIoctl (env : FenceEnv) (arg : FenceWaitArg) (t : Table) (tfile : TFile) : FenceWaitArg × Outcome :=
  let arg := arg.startCookie env
  (arg, match ttmBaseObjectLookup t tfile arg.handle with
  | none => ⟨-EINVAL, t, []⟩
  | some (base, t) =>
    let ret :=
      if 0 ≤ (env.jiffiesNow - arg.kernelCookie).toInt then
        if env.signaled base arg.flags then 0 else -EBUSY
      else env.wait base arg.flags arg.lazy (arg.kernelCookie - env.jiffiesNow)
    let t := ttmBaseObjectUnref t base
    let r := if ret = 0 ∧ arg.waitOptions &&& DRM_VMW_WAIT_OPTION_UNREF ≠ 0 then
        ttmRefObjectBaseUnref t tfile arg.handle
      else (ret, t)
    ⟨r.1, r.2, [(base, .userFence)]⟩)

/-- `struct drm_vmw_fence_signaled_arg`. -/
structure FenceSignaledArg where
  handle : Handle
  flags : Nat
  signaled : Bool
  passedSeqno : Nat
  signaledFlags : Nat

def vmwFenceObjSignaledIoctl (env : FenceEnv) (arg : FenceSignaledArg) (t : Table) (tfile : TFile) :
    FenceSignaledArg × Outcome :=
  match ttmBaseObjectLookup t tfile arg.handle with
  | none => (arg, ⟨-EINVAL, t, []⟩)
  | some (base, t) =>
    ({ arg with
        signaled := env.signaled base arg.flags
        signaledFlags := env.signaledFlags base
        passedSeqno := env.lastReadSeqno },
      ⟨0, ttmBaseObjectUnref t base, [(base, .userFence)]⟩)

/-- `struct drm_vmw_fence_event_arg`. -/
structure FenceEventArg where
  fenceRep : Nat
  userData : Nat
  handle : Handle
  flags : Nat

/-- What the calls made by the fence event ioctl return: `fenceCommands` creates
a fence and registers its handle, `refAlloc` allocates a reference object,
`actionCreate` posts the event and `copyFenceUser` copies the reply. -/
structure EventEnv where
  fenceCommands : Table → Int × Handle × Table
  refAlloc : Int
  actionCreate : Int
  copyFenceUser : Int

/-- The end of the fence event ioctl, from `vmw_event_fence_action_create` on. -/
def fenceEventPost (env : EventEnv) (arg : FenceEventArg) (t : Table) (tfile : TFile) (handle : Handle) :
    Int × Table :=
  if env.actionCreate ≠ 0 then
    (env.actionCreate, if arg.fenceRep ≠ 0 then (ttmRefObjectBaseUnref t tfile handle).2 else t)
  else (0, if arg.fenceRep ≠ 0 ∧ env.copyFenceUser ≠ 0 then (ttmRefObjectBaseUnref t tfile handle).2 else t)

def vmwFenceEventIoctl (env : EventEnv) (arg : FenceEventArg) (t : Table) (tfile : TFile) : Outcome :=
  if arg.handle = 0 then
    let (ret, handle, t) := env.fenceCommands t
    if ret ≠ 0 then ⟨ret, t, []⟩
    else
      let r := fenceEventPost env arg t tfile handle
      ⟨r.1, r.2, []⟩
  else
    match ttmBaseObjectLookupForRef t arg.handle with
    | none => ⟨-EINVAL, t, []⟩
    | some (base, t) =>
      let c := Container.userFence
      let handle := (t.obj base).key
      let t := t.setInner base c (t.inner base c + 1)
      let r := if arg.fenceRep ≠ 0 then ttmRefObjectAdd t tfile base env.refAlloc else (0, t)
      -- a failed reference jumps over the release of the base object
      let p := if r.1 ≠ 0 then r else fenceEventPost env arg (ttmBaseObjectUnref r.2 base) tfile handle
      ⟨p.1, p.2.setInner base c (p.2.inner base c - 1), [(base, c)]⟩

/-- The entry points with what each of them reads besides handle and tables. -/
inductive Entry
  | contextLookup
  | surfaceLookup
  | shaderLookup
  | dmabufLookup
  | fenceWait (env : FenceEnv) (arg : FenceWaitArg)
  | fenceSignaled (env : FenceEnv) (arg : FenceSignaledArg)
  | fenceEvent (env : EventEnv) (arg : FenceEventArg)

namespace Entry

def run : Entry → Table → TFile → Handle → Outcome
  | contextLookup => vmwUserResourceLookupHandle userContextConverter
  | surfaceLookup => vmwUserResourceLookupHandle userSurfaceConverter
  | shaderLookup => vmwUserResourceLookupHandle userShaderConverter
  | dmabufLookup => vmwUserDmabufLookup
  | fenceWait env arg => fun t tfile handle => (vmwFenceObjWaitIoctl env { arg with handle := handle } t tfile).2
  | fenceSignaled env arg => fun t tfile handle => (vmwFenceObjSignaledIoctl env { arg with handle := handle } t tfile).2
  | fenceEvent env arg => fun t tfile handle => vmwFenceEventIoctl env { arg with handle := handle } t tfile

/-- The container an entry point expects. -/
def expects : Entry → Container
  | contextLookup => .userContext
  | surfaceLookup => .userSurface
  | shaderLookup => .userShader
  | dmabufLookup => .userDmaBuffer
  | fenceWait .. | fenceSignaled .. | fenceEvent .. => .userFence

/-- The object a handle resolves to at an entry point. The fence event ioctl
looks in the table of the device; handle 0 asks it for a new fence. -/
def finds : Entry → Table → TFile → Handle → Option ObjId
  | fenceEvent .., t, _, handle => if handle = 0 then none else (ttmBaseObjectLookupForRef t handle).map Prod.fst
  | _, t, tfile, handle => (ttmBaseObjectLookup t tfile handle).map Prod.fst

def testsType : Entry → Bool
  | contextLookup | surfaceLookup | shaderLookup | dmabufLookup => true
  | fenceWait .. | fenceSignaled .. | fenceEvent .. => false

end Entry

/-- Every conversion is of an object of the expected type; an object of another
type makes the call fail and is left as it was. -/
structure TypeSafe (e : Entry) (t : Table) (tfile : TFile) (handle : Handle) : Prop where
  converted : ∀ base c, (base, c) ∈ (e.run t tfile handle).converted →
    c = e.expects ∧ ttmBaseObjectType (t.obj base) = c.objectType
  refused : ∀ base, e.finds t tfile handle = some base → ttmBaseObjectType (t.obj base) ≠ e.expects.objectType →
    (e.run t tfile handle).ret ≠ 0 ∧ (e.run t tfile handle).converted = [] ∧ (e.run t tfile handle).table = t

section Tested

variable {t : Table} {tfile : TFile} {handle : Handle}

theorem einval_ne_zero : -EINVAL ≠ 0 := by decide

theorem vmwUserResourceLookupHandle_converted (converter : Converter) :
    ∀ base c, (base, c) ∈ (vmwUserResourceLookupHandle converter t tfile handle).converted →
      c = converter.baseObjToRes ∧ ttmBaseObjectType (t.obj base) = converter.objectType := by
  intro base c hmem
  unfold vmwUserResourceLookupHandle at hmem
  split at hmem
  · cases hmem
  · rename_i b t' hlook
    obtain ⟨-, rfl⟩ := ttmBaseObjectLookup_some hlook
    rw [Table.setRefcount_type] at hmem
    split at hmem
    · cases hmem
    · rename_i htype
      cases List.mem_singleton.mp hmem
      exact ⟨rfl, Decidable.not_not.mp htype⟩

theorem vmwUserResourceLookupHandle_refused {converter : Converter} {base : ObjId} {t' : Table}
    (hlook : ttmBaseObjectLookup t tfile handle = some (base, t'))
    (htype : ttmBaseObjectType (t.obj base) ≠ converter.objectType) :
    vmwUserResourceLookupHandle converter t tfile handle = ⟨-EINVAL, t, []⟩ := by
  obtain ⟨href, rfl⟩ := ttmBaseObjectLookup_some hlook
  simp [vmwUserResourceLookupHandle, hlook, htype, ttmBaseObjectUnref_get href]

theorem vmwUserDmabufLookup_converted :
    ∀ base c, (base, c) ∈ (vmwUserDmabufLookup t tfile handle).converted →
      c = .userDmaBuffer ∧ ttmBaseObjectType (t.obj base) = .bufferType := by
  intro base c hmem
  unfold vmwUserDmabufLookup at hmem
  split at hmem
  · cases hmem
  · rename_i b t' hlook
    obtain ⟨-, rfl⟩ := ttmBaseObjectLookup_some hlook
    rw [Table.setRefcount_type] at hmem
    split at hmem
    · cases hmem
    · rename_i htype
      cases List.mem_singleton.mp hmem
      exact ⟨rfl, Decidable.not_not.mp htype⟩

theorem vmwUserDmabufLookup_refused {base : ObjId} {t' : Table}
    (hlook : ttmBaseObjectLookup t tfile handle = some (base, t'))
    (htype : ttmBaseObjectType (t.obj base) ≠ .bufferType) :
    vmwUserDmabufLookup t tfile handle = ⟨-EINVAL, t, []⟩ := by
  obtain ⟨href, rfl⟩ := ttmBaseObjectLookup_some hlook
  simp [vmwUserDmabufLookup, hlook, htype, ttmBaseObjectUnref_get href]

theorem TypeSafe.resource {e : Entry} {converter : Converter}
    (hrun : e.run t tfile handle = vmwUserResourceLookupHandle converter t tfile handle)
    (hfinds : e.finds t tfile handle = (ttmBaseObjectLookup t tfile handle).map Prod.fst)
    (hto : converter.baseObjToRes = e.expects) (htype : converter.objectType = e.expects.objectType) :
    TypeSafe e t tfile handle where
  converted base c hmem := by
    obtain ⟨rfl, hc⟩ := vmwUserResourceLookupHandle_converted converter base c (hrun ▸ hmem)
    exact ⟨hto, hc.trans (htype.trans (congrArg Container.objectType hto.symm))⟩
  refused base hfound hne := by
    obtain ⟨⟨b, t'⟩, hlook, rfl⟩ := Option.map_eq_some_iff.mp (hfinds ▸ hfound)
    rw [hrun, vmwUserResourceLookupHandle_refused hlook (htype ▸ hne)]
    exact ⟨einval_ne_zero, rfl, rfl⟩

theorem TypeSafe.dmabuf : TypeSafe .dmabufLookup t tfile handle where
  converted base c hmem := by
    obtain ⟨rfl, hc⟩ := vmwUserDmabufLookup_converted base c hmem
    exact ⟨rfl, hc⟩
  refused base hfound hne := by
    obtain ⟨⟨b, t'⟩, hlook, rfl⟩ := Option.map_eq_some_iff.mp hfound
    have hrun : Entry.dmabufLookup.run t tfile handle = ⟨-EINVAL, t, []⟩ := vmwUserDmabufLookup_refused hlook hne
    rw [hrun]
    exact ⟨einval_ne_zero, rfl, rfl⟩

theorem TypeSafe.of_testsType {e : Entry} (he : e.testsType = true) : TypeSafe e t tfile handle := by
  cases e with
  | contextLookup => exact .resource rfl rfl rfl rfl
  | surfaceLookup => exact .resource rfl rfl rfl rfl
  | shaderLookup => exact .resource rfl rfl rfl rfl
  | dmabufLookup => exact .dmabuf
  | fenceWait | fenceSignaled | fenceEvent => cases he

end Tested

section Untested

variable {e : Entry} {t : Table} {tfile : TFile} {handle : Handle}

/-- A fence entry point takes whatever object it finds for a fence. -/
theorem fence_converted (t : Table) (tfile : TFile) (handle : Handle) (he : e.testsType = false) :
    (e.run t tfile handle).converted = ((e.finds t tfile handle).map fun base => (base, Container.userFence)).toList := by
  cases e with
  | contextLookup | surfaceLookup | shaderLookup | dmabufLookup => cases he
  | fenceWait env arg =>
    simp only [Entry.run, Entry.finds, vmwFenceObjWaitIoctl, FenceWaitArg.startCookie_handle]
    cases ttmBaseObjectLookup t tfile handle <;> rfl
  | fenceSignaled env arg =>
    simp only [Entry.run, Entry.finds, vmwFenceObjSignaledIoctl]
    cases ttmBaseObjectLookup t tfile handle <;> rfl
  | fenceEvent env arg =>
    simp only [Entry.run, Entry.finds, vmwFenceEventIoctl]
    split
    · split <;> rfl
    · cases ttmBaseObjectLookupForRef t handle <;> rfl

theorem typeSafe_fence_iff (he : e.testsType = false) :
    TypeSafe e t tfile handle ↔
      ∀ base, e.finds t tfile handle = some base → ttmBaseObjectType (t.obj base) = VMW_RES_FENCE := by
  have hconv := fence_converted t tfile handle he
  have hexp : e.expects = .userFence := by
    cases e <;> first | rfl | cases he
  constructor
  · intro h base hfound
    have hmem : (base, Container.userFence) ∈ (e.run t tfile handle).converted := by simp [hconv, hfound]
    exact (h.converted base .userFence hmem).2
  · intro h
    constructor
    · intro base c hmem
      rw [hconv] at hmem
      obtain ⟨b, hfound, heq⟩ : ∃ b, e.finds t tfile handle = some b ∧ (b, Container.userFence) = (base, c) := by
        simpa using hmem
      cases heq
      exact ⟨hexp.symm, h base hfound⟩
    · intro base hfound hne
      exact absurd ((h base hfound).trans (by rw [hexp]; rfl)) hne

end Untested

/-- The lookups test the type of what they find. The fence entry points do not:
they are safe at a handle exactly when it resolves to nothing or to a fence. -/
theorem typeSafe_iff (e : Entry) (t : Table) (tfile : TFile) (handle : Handle) :
    TypeSafe e t tfile handle ↔
      e.testsType = true ∨
        ∀ base, e.finds t tfile handle = some base → ttmBaseObjectType (t.obj base) = VMW_RES_FENCE := by
  cases he : e.testsType with
  | true => exact ⟨fun _ => .inl rfl, fun _ => .of_testsType he⟩
  | false => exact (typeSafe_fence_iff he).trans ⟨.inr, fun h => h.resolve_left Bool.false_ne_true⟩

/-- A file with one context at handle 1. -/
def contextTable : Table where
  obj := fun _ => ⟨1, VMW_RES_CONTEXT, VMW_RES_CONTEXT, false, 0, 1, .userContext⟩
  objectHash := fun key => if key = 1 then some 0 else none
  refHash := fun _ key => if key = 1 then some ⟨0, 1⟩ else none
  inner := fun _ _ => 1
  avail := fun _ _ => true
  resFree := fun _ _ => some .userContext

/-- The fence signaled query reads a context as a fence. -/
theorem fenceSignaled_context :
    ¬ ∀ (e : Entry) (t : Table) (tfile : TFile) (handle : Handle), TypeSafe e t tfile handle := by
  intro h
  have hsafe := h (.fenceSignaled ⟨100, 0, 0, fun _ _ => false, fun _ _ _ _ => 0, fun _ => 0, 0⟩ ⟨1, 1, false, 0, 0⟩)
    contextTable 0 1
  have hmem : (0, Container.userFence) ∈ [((0 : ObjId), Container.userFence)] := List.mem_singleton_self _
  exact absurd (hsafe.converted 0 .userFence hmem).2 (by decide)

end Vmwgfx.Object
