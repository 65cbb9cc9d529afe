import Vmwgfx.Kernel

/-! The base objects of TTM: the device's table of handles, the reference
objects of each open file, and lookup, reference and release on them. -/

namespace Vmwgfx.Object

abbrev Handle := Nat
/-- A `struct ttm_base_object *`. -/
abbrev ObjId := Nat
/-- A `struct ttm_object_file *`. -/
abbrev TFile := Nat

/-- `enum ttm_object_type`. -/
inductive TtmObjectType
  | fenceType
  | bufferType
  | lockType
  | primeType
  | driverType0
  | driverType1
  | driverType2
  | driverType3
  | driverType4
  | driverType5
  deriving DecidableEq

def VMW_RES_CONTEXT : TtmObjectType := .driverType0
def VMW_RES_SURFACE : TtmObjectType := .driverType1
def VMW_RES_STREAM : TtmObjectType := .driverType2
def VMW_RES_FENCE : TtmObjectType := .driverType3
def VMW_RES_SHADER : TtmObjectType := .driverType4

/-- The structures a base object is embedded in. -/
inductive Container
  | userContext
  | userSurface
  | userStream
  | userFence
  | userShader
  | userDmaBuffer
  deriving DecidableEq

/-- The type under which a structure registers its base object. -/
def Container.objectType : Container → TtmObjectType
  | .userContext => VMW_RES_CONTEXT
  | .userSurface => VMW_RES_SURFACE
  | .userStream => VMW_RES_STREAM
  | .userFence => VMW_RES_FENCE
  | .userShader => VMW_RES_SHADER
  | .userDmaBuffer => .bufferType

/-- `struct ttm_base_object`. `realType` is the member of the prime object
around it; `release` is the structure whose reference `refcount_release`
drops. -/
structure BaseObject where
  key : Handle
  objectType : TtmObjectType
  realType : TtmObjectType
  shareable : Bool
  tfile : TFile
  refcount : Nat
  release : Container

def ttmBaseObjectType (base : BaseObject) : TtmObjectType :=
  if base.objectType = .primeType then base.realType else base.objectType

/-- `struct ttm_ref_object` of a `TTM_REF_USAGE` table. -/
structure RefObject where
  obj : ObjId
  kref : Nat

/-- The object tables. `inner` is the reference counter found when an object is
taken for the inside of a container: the resource's, the buffer's or the
fence's. `avail` and `resFree` are read from the resource found so. -/
structure Table where
  obj : ObjId → BaseObject
  objectHash : Handle → Option ObjId
  refHash : TFile → Handle → Option RefObject
  inner : ObjId → Container → Int
  avail : ObjId → Container → Bool
  resFree : ObjId → Container → Option Container

namespace Table

def setRefcount (t : Table) (base : ObjId) (n : Nat) : Table :=
  { t with obj := Function.update t.obj base { t.obj base with refcount := n } }

def setInner (t : Table) (base : ObjId) (c : Container) (n : Int) : Table :=
  { t with inner := Function.update t.inner base (Function.update (t.inner base) c n) }

def setRef (t : Table) (tfile : TFile) (key : Handle) (ref : Option RefObject) : Table :=
  { t with refHash := Function.update t.refHash tfile (Function.update (t.refHash tfile) key ref) }

@[simp] theorem setRefcount_setRefcount (t : Table) (base : ObjId) (n m : Nat) :
    (t.setRefcount base n).setRefcount base m = t.setRefcount base m := by
  simp [setRefcount]

@[simp] theorem setRefcount_self (t : Table) (base : ObjId) :
    t.setRefcount base (t.obj base).refcount = t := by
  simp [setRefcount]

@[simp] theorem setRefcount_refcount (t : Table) (base : ObjId) (n : Nat) :
    ((t.setRefcount base n).obj base).refcount = n := by
  simp [setRefcount]

@[simp] theorem setRefcount_type (t : Table) (base b : ObjId) (n : Nat) :
    ttmBaseObjectType ((t.setRefcount base n).obj b) = ttmBaseObjectType (t.obj b) := by
  by_cases h : b = base
  · simp [setRefcount, h, ttmBaseObjectType]
  · simp [setRefcount, h]

@[simp] theorem setRefcount_avail (t : Table) (base : ObjId) (n : Nat) : (t.setRefcount base n).avail = t.avail := rfl
@[simp] theorem setRefcount_resFree (t : Table) (base : ObjId) (n : Nat) :
    (t.setRefcount base n).resFree = t.resFree := rfl

end Table

def krefGetUnlessZero (t : Table) (base : ObjId) : Option Table :=
  if (t.obj base).refcount = 0 then none else some (t.setRefcount base ((t.obj base).refcount + 1))

/-- `ttm_base_object_unref` with `ttm_release_base` at the last reference. -/
def ttmBaseObjectUnref (t : Table) (base : ObjId) : Table :=
  let n := (t.obj base).refcount - 1
  let t := t.setRefcount base n
  if n = 0 then
    let b := t.obj base
    { t.setInner base b.release (t.inner base b.release - 1) with
      objectHash := Function.update t.objectHash b.key none }
  else t

def ttmBaseObjectLookup (t : Table) (tfile : TFile) (key : Handle) : Option (ObjId × Table) :=
  (t.refHash tfile key).bind fun ref => (krefGetUnlessZero t ref.obj).map fun t => (ref.obj, t)

def ttmBaseObjectLookupForRef (t : Table) (key : Handle) : Option (ObjId × Table) :=
  (t.objectHash key).bind fun base => (krefGetUnlessZero t base).map fun t => (base, t)

/-- `ttm_ref_object_add` where `alloc` is what allocating a reference object
returns; an existing one is only counted. -/
def ttmRefObjectAdd (t : Table) (tfile : TFile) (base : ObjId) (alloc : Int) : Int × Table :=
  let b := t.obj base
  if b.tfile ≠ tfile ∧ b.shareable = false then (-EPERM, t)
  else
    match t.refHash tfile b.key with
    | some ref => (0, t.setRef tfile b.key (some { ref with kref := ref.kref + 1 }))
    | none =>
      if alloc ≠ 0 then (alloc, t)
      else (0, (t.setRef tfile b.key (some ⟨base, 1⟩)).setRefcount base (b.refcount + 1))

/-- `ttm_ref_object_base_unref` with `ttm_ref_object_release` at the last
reference. -/
def ttmRefObjectBaseUnref (t : Table) (tfile : TFile) (key : Handle) : Int × Table :=
  match t.refHash tfile key with
  | none => (-EINVAL, t)
  | some ref =>
    if ref.kref ≤ 1 then (0, ttmBaseObjectUnref (t.setRef tfile key none) ref.obj)
    else (0, t.setRef tfile key (some { ref with kref := ref.kref - 1 }))

section Lookup

variable {t t' : Table} {tfile : TFile} {key : Handle} {base : ObjId}

theorem krefGetUnlessZero_some (h : krefGetUnlessZero t base = some t') :
    (t.obj base).refcount ≠ 0 ∧ t' = t.setRefcount base ((t.obj base).refcount + 1) := by
  unfold krefGetUnlessZero at h
  split at h
  · cases h
  · rename_i hne
    cases h
    exact ⟨hne, rfl⟩

theorem ttmBaseObjectLookup_some (h : ttmBaseObjectLookup t tfile key = some (base, t')) :
    (t.obj base).refcount ≠ 0 ∧ t' = t.setRefcount base ((t.obj base).refcount + 1) := by
  obtain ⟨ref, -, hget⟩ := Option.bind_eq_some_iff.mp h
  obtain ⟨s, hs, heq⟩ := Option.map_eq_some_iff.mp hget
  cases heq
  exact krefGetUnlessZero_some hs

/-- Dropping the reference a lookup took gives the table back. -/
theorem ttmBaseObjectUnref_get (h : (t.obj base).refcount ≠ 0) :
    ttmBaseObjectUnref (t.setRefcount base ((t.obj base).refcount + 1)) base = t := by
  simp [ttmBaseObjectUnref, h]

end Lookup

end Vmwgfx.Object
