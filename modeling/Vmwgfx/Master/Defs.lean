import Vmwgfx.Kernel

/-! Masters of the primary node: `drm_open_helper`, `drm_setmaster_ioctl`, `drm_dropmaster_ioctl`, `drm_release`,
and what the driver does at each. -/

namespace Vmwgfx.Master

abbrev FileId := Nat
abbrev MasterId := Nat

/-- The `struct vmw_master` of the frame buffer, and those of the masters. -/
inductive VmwMaster
  | fbdev
  | of (m : MasterId)
  deriving DecidableEq, Repr

structure TtmLock where
  /-- `TTM_VT_LOCK` is set. -/
  vtLock : Bool
  vtHolder : Option FileId
  /-- The file with the reference on the base object of the lock. -/
  base : Option FileId
  deriving DecidableEq

structure DrmFile where
  master : Option MasterId
  isMaster : Bool
  lockedMaster : Option MasterId
  /-- `drm_release` is through with the master of the file. -/
  released : Bool
  deriving DecidableEq

inductive VtEvent
  | locked (v : VmwMaster) (f : FileId)
  | unlocked (v : VmwMaster) (f : FileId)
  deriving DecidableEq

structure State where
  enableFb : Bool
  active : Option VmwMaster
  lock : VmwMaster → TtmLock
  /-- `minor->master`. -/
  minorMaster : Option MasterId
  refcount : MasterId → Nat
  file : FileId → DrmFile
  /-- The files with a `struct vmw_fpriv`. -/
  files : List FileId
  nextFile : FileId
  nextMaster : MasterId
  /-- The VT locks taken and released, the latest first. -/
  log : List VtEvent

namespace State

variable (s : State)

def modify (f : FileId) (g : DrmFile → DrmFile) : State := { s with file := Function.update s.file f (g (s.file f)) }

def setLock (v : VmwMaster) (l : TtmLock) : State := { s with lock := Function.update s.lock v l }

/-- `drm_master_get`. -/
def get (m : MasterId) : State := { s with refcount := Function.update s.refcount m (s.refcount m + 1) }

/-- `drm_master_put`, of a pointer to `m`. -/
def put (m : MasterId) : State := { s with refcount := Function.update s.refcount m (s.refcount m - 1) }

/-- `drm_master_put(&minor->master)`. -/
def putMinor : State :=
  match s.minorMaster with
  | none => s
  | some m => { s.put m with minorMaster := none }

/-- `drm_master_put(&vmw_fp->locked_master)`. -/
def putLocked (f : FileId) : State :=
  match (s.file f).lockedMaster with
  | none => s
  | some m => (s.put m).modify f fun file => { file with lockedMaster := none }

/-- `drm_master_put(&file_priv->master)`, if there is one. -/
def putMaster (f : FileId) : State :=
  match (s.file f).master with
  | none => s
  | some m => (s.put m).modify f fun file => { file with master := none }

end State

section VtLock

/-- `ttm_vt_lock`, after the wait; `ret` is what the base object's initialisation returns. -/
def ttmVtLock (s : State) (v : VmwMaster) (f : FileId) (ret : Int) : State :=
  if ret ≠ 0 then s.setLock v { s.lock v with vtLock := false }
  else { s.setLock v ⟨true, some f, some f⟩ with log := .locked v f :: s.log }

/-- `ttm_vt_lock_remove`, when the reference of `f` goes. -/
def ttmVtLockRemove (s : State) (v : VmwMaster) (f : FileId) : Option State :=
  if (s.lock v).vtLock = false then none
  else some { s.setLock v { s.lock v with vtLock := false, base := none } with log := .unlocked v f :: s.log }

/-- `ttm_vt_unlock`. `none` is a holder that is not there, or a `BUG_ON`. -/
def ttmVtUnlock (s : State) (v : VmwMaster) : Option State :=
  match (s.lock v).vtHolder with
  | none => none
  | some f =>
    if f ∉ s.files then none
    else if (s.lock v).base = some f then ttmVtLockRemove s v f
    else some s

/-- The locks there are. -/
def State.masters (s : State) : List VmwMaster := .fbdev :: (List.range s.nextMaster).map .of

/-- `ttm_object_file_release`, of the locks that the file still holds. -/
def ttmObjectFileRelease (s : State) (f : FileId) : Option State :=
  s.masters.foldlM (fun s v => if (s.lock v).base = some f then ttmVtLockRemove s v f else some s) s

end VtLock

section Driver

/-- What `vmw_3d_resource_inc` and `ttm_vt_lock` return. -/
structure SetOutcome where
  inc : Int
  lock : Int

/-- The part of `vmw_master_set` that makes the master the active one. -/
def activate (s : State) (f : FileId) (m : MasterId) (fromOpen : Bool) : Option State :=
  (if fromOpen then some s
    else (ttmVtUnlock s (.of m)).bind fun s =>
      if (s.file f).lockedMaster ≠ some m then none else some (s.putLocked f)).map
    fun s => { s with active := some (.of m) }

/-- `vmw_master_set`, for a file of the master `m`. `none` is a `BUG_ON`. -/
def vmwMasterSet (s : State) (f : FileId) (m : MasterId) (fromOpen : Bool) (o : SetOutcome) : Option (Int × State) :=
  if s.enableFb = false ∧ o.inc ≠ 0 then some (o.inc, s)
  else
    match s.active with
    | none => (activate s f m fromOpen).map fun s => (0, s)
    | some v =>
      if v ≠ .fbdev then none
      else
        let s := ttmVtLock s v f o.lock
        if o.lock ≠ 0 then some (o.lock, s)
        else (activate { s with active := none } f m fromOpen).map fun s => (0, s)

/-- `vmw_master_drop`, for a file of the master `m`. -/
def vmwMasterDrop (s : State) (f : FileId) (m : MasterId) (lock : Int) : Option State :=
  let s := (s.get m).modify f fun file => { file with lockedMaster := some m }
  let s := ttmVtLock s (.of m) f lock
  let s := if lock ≠ 0 then s.putLocked f else s
  ttmVtUnlock { s with active := some .fbdev } .fbdev

/-- `vmw_postclose`. -/
def vmwPostclose (s : State) (f : FileId) : Option State :=
  match (s.file f).lockedMaster with
  | none => ttmObjectFileRelease s f
  | some m => (ttmVtUnlock s (.of m)).bind fun s => ttmObjectFileRelease (s.putLocked f) f

end Driver

section Core

/-- How the calls of an open turn out. -/
structure OpenOutcome where
  driverOpen : Int
  /-- `drm_master_create` finds memory. -/
  master : Bool
  create : Int
  set : SetOutcome

/-- `drm_open_helper`, when the node has no master. -/
def openMaster (s : State) (o : OpenOutcome) : Option (Int × State) :=
  let f := s.nextFile
  let m := s.nextMaster
  if o.master = false then some (-ENOMEM, s)
  else
    let s := { s with minorMaster := some m, nextMaster := m + 1
                      refcount := Function.update s.refcount m 2
                      file := Function.update s.file f ⟨some m, true, none, false⟩ }
    if o.create ≠ 0 then some (o.create, s.putMinor.putMaster f)
    else (vmwMasterSet s f m true o.set).map fun (ret, s) => if ret ≠ 0 then (ret, s.putMinor.putMaster f) else (ret, s)

/-- The part of `drm_open_helper` under `master_mutex`. -/
def openUnderMutex (s : State) (o : OpenOutcome) : Option (Int × State) :=
  match s.minorMaster with
  | none => openMaster s o
  | some m => some (0, { s.get m with file := Function.update s.file s.nextFile ⟨some m, false, none, false⟩ })

/-- `drm_open_helper`, for the primary node. A file that is not opened is gone. -/
def drmOpenHelper (s : State) (o : OpenOutcome) : Option State :=
  if o.driverOpen < 0 then some s
  else (openUnderMutex s o).map fun (ret, s) =>
    if ret ≠ 0 then s else { s with files := s.nextFile :: s.files, nextFile := s.nextFile + 1 }

def drmSetmasterIoctl (s : State) (f : FileId) (o : SetOutcome) : Option State :=
  if (s.file f).isMaster then some s
  else if s.minorMaster.isSome then some s
  else
    match (s.file f).master with
    | none => some s
    | some m =>
      let s := { (s.get m).modify f (fun file => { file with isMaster := true }) with minorMaster := some m }
      (vmwMasterSet s f m false o).map fun (ret, s) =>
        if ret ≠ 0 then (s.modify f fun file => { file with isMaster := false }).putMinor else s

/-- `drm_dropmaster_ioctl`; `lock` is what `ttm_vt_lock` returns. `none` is also a file without a master. -/
def drmDropmasterIoctl (s : State) (f : FileId) (lock : Int) : Option State :=
  if (s.file f).isMaster = false then some s
  else if s.minorMaster.isNone then some s
  else (s.file f).master.bind fun m =>
    (vmwMasterDrop s f m lock).map fun s => s.putMinor.modify f fun file => { file with isMaster := false }

/-- `drm_release`, under `master_mutex`. -/
def drmRelease (s : State) (f : FileId) (lock : Int) : Option State :=
  (if (s.file f).isMaster ∧ s.minorMaster = (s.file f).master then
      (s.file f).master.bind fun m => (vmwMasterDrop s f m lock).map fun s => s.putMinor
    else some s).map fun s => (s.putMaster f).modify f fun file => { file with isMaster := false, released := true }

/-- The rest of `drm_release`. -/
def drmPostclose (s : State) (f : FileId) : Option State :=
  (vmwPostclose s f).map fun s => { s with files := s.files.erase f }

end Core

inductive Op
  | opn (o : OpenOutcome)
  | setmaster (f : FileId) (o : SetOutcome)
  | dropmaster (f : FileId) (lock : Int)
  | release (f : FileId) (lock : Int)
  | postclose (f : FileId)

def step (s : State) : Op → Option State
  | .opn o => drmOpenHelper s o
  | .setmaster f o => drmSetmasterIoctl s f o
  | .dropmaster f lock => drmDropmasterIoctl s f lock
  | .release f lock => drmRelease s f lock
  | .postclose f => drmPostclose s f

/-- Files are used until they are closed, and closed once. -/
def Enabled (s : State) : Op → Prop
  | .opn _ => True
  | .setmaster f _ | .dropmaster f _ | .release f _ => f ∈ s.files ∧ (s.file f).released = false
  | .postclose f => f ∈ s.files ∧ (s.file f).released = true

/-- `vmw_driver_load`. -/
def State.init (enableFb : Bool) : State where
  enableFb
  active := some .fbdev
  lock _ := ⟨false, none, none⟩
  minorMaster := none
  refcount _ := 0
  file _ := ⟨none, false, none, false⟩
  files := []
  nextFile := 0
  nextMaster := 0
  log := []

/-- The file that has the VT lock of `v`, if every lock taken is released once, against the file that took it. -/
def holder (v : VmwMaster) : List VtEvent → Option (Option FileId)
  | [] => some none
  | .locked w f :: log =>
    if w ≠ v then holder v log
    else if holder v log = some none then some (some f) else none
  | .unlocked w f :: log =>
    if w ≠ v then holder v log
    else if holder v log = some (some f) then some none else none

/-- The pointers to a master. -/
def State.refs (s : State) (m : MasterId) : Nat :=
  (if s.minorMaster = some m then 1 else 0) + s.files.countP (fun f => (s.file f).master = some m) +
    s.files.countP (fun f => (s.file f).lockedMaster = some m)

/-- The records of who is master agree. -/
structure HandedOver (s : State) : Prop where
  active : s.active = some (s.minorMaster.elim .fbdev .of)
  locked : ∀ m, (s.lock (.of m)).vtLock = true ↔ ∃ f ∈ s.files, (s.file f).lockedMaster = some m
  fbdev : (s.lock .fbdev).vtLock = true ↔ s.minorMaster ≠ none
  once : ∀ v, ∃ f, holder v s.log = some f ∧ ((s.lock v).vtLock = true ↔ f ≠ none)
  refs : ∀ m, s.refcount m = s.refs m

/-- A file that was not master before gets there only if it dropped its master, and took its lock then. -/
def Returns (s : State) : Op → Prop
  | .setmaster f o =>
    (s.file f).isMaster = false → s.minorMaster = none → (s.enableFb = true ∨ o.inc = 0) → o.lock = 0 →
      ∀ m, (s.file f).master = some m → (s.file f).lockedMaster = some m
  | _ => True

end Vmwgfx.Master
