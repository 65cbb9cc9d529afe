import Vmwgfx.Kernel

/-! The objects made for clients and what is charged for them to the memory
accounting of TTM: allocation, references and destructors. -/

namespace Vmwgfx.Account

abbrev ObjId := Nat

/-- The structures made for a client, or for the driver in the case of a compat shader. -/
inductive Kind
  | userContext
  | userStream
  | userShader
  | shader
  | userFence
  | userDmaBuffer
  | userSurface
  deriving DecidableEq

/-- An allocated structure. `acc` is the size it stores itself (`acc_size` of a
buffer, `size` of a surface), `handles` counts the reference objects of its base
object and `freed` how often its memory was released. -/
structure Obj where
  kind : Kind
  refs : Nat
  freed : Nat
  acc : Nat
  backup : Option ObjId
  handles : Nat

/-- The sizes charged for the structures and for a `struct ttm_ref_object`. -/
structure Sizes where
  userContext : Nat
  userStream : Nat
  userShader : Nat
  shader : Nat
  userFence : Nat
  userSurface : Nat
  userDmaBuffer : Nat
  boExtra : Nat
  coherent : Bool
  refObject : Nat
  userFence_pos : 0 < userFence

def PAGE_SIZE : Nat := 4096

def pageAlign (size : Nat) : Nat := (size + (PAGE_SIZE - 1)) / PAGE_SIZE * PAGE_SIZE

def ttmRoundPot (size : Nat) : Nat :=
  if size &&& (size - 1) = 0 then size
  else if PAGE_SIZE < size then pageAlign size
  else size.nextPowerOfTwo

/-- `vmw_dmabuf_acc_size` of a user buffer. -/
def vmwDmabufAccSize (sz : Sizes) (size : Nat) : Nat :=
  let numPages := pageAlign size / PAGE_SIZE
  let pageArraySize := ttmRoundPot (numPages * 8) + if sz.coherent then ttmRoundPot (numPages * 8) else 0
  sz.userDmaBuffer + pageArraySize + sz.boExtra

/-- What the destructor of an object returns to the accounting. -/
def Sizes.destructor (sz : Sizes) (o : Obj) : Nat :=
  match o.kind with
  | .userContext => sz.userContext
  | .userStream => sz.userStream
  | .userShader => sz.userShader
  | .shader => sz.shader
  | .userFence => sz.userFence
  | .userDmaBuffer | .userSurface => o.acc

structure State where
  used : Int
  obj : ObjId → Obj
  next : ObjId

namespace State

def modify (s : State) (o : ObjId) (f : Obj → Obj) : State :=
  { s with obj := Function.update s.obj o (f (s.obj o)) }

@[simp] theorem modify_used (s : State) (o : ObjId) (f : Obj → Obj) : (s.modify o f).used = s.used := rfl
@[simp] theorem modify_next (s : State) (o : ObjId) (f : Obj → Obj) : (s.modify o f).next = s.next := rfl
@[simp] theorem modify_obj_self (s : State) (o : ObjId) (f : Obj → Obj) : (s.modify o f).obj o = f (s.obj o) := by
  simp [modify]

@[simp] theorem modify_modify (s : State) (o : ObjId) (f g : Obj → Obj) :
    (s.modify o f).modify o g = s.modify o fun x => g (f x) := by
  simp [modify]

@[simp] theorem modify_self (s : State) (o : ObjId) : (s.modify o fun x => x) = s := by
  simp [modify]

/-- A fresh structure, the counter of its references not yet set. -/
def kzalloc (s : State) (kind : Kind) : State :=
  { s with obj := Function.update s.obj s.next ⟨kind, 0, 0, 0, none, 0⟩, next := s.next + 1 }

end State

def ttmMemGlobalAlloc (s : State) (size : Nat) : State := { s with used := s.used + size }
def ttmMemGlobalFree (s : State) (size : Nat) : State := { s with used := s.used - size }

@[simp] theorem ttmMemGlobalFree_alloc (s : State) (size : Nat) :
    ttmMemGlobalFree (ttmMemGlobalAlloc s size) size = s := by
  simp [ttmMemGlobalFree, ttmMemGlobalAlloc]

def kfree (s : State) (o : ObjId) : State := s.modify o fun x => { x with freed := x.freed + 1 }

/-- The destructors `vmw_user_context_free` and so on. -/
def destroy (sz : Sizes) (s : State) (o : ObjId) : State :=
  ttmMemGlobalFree (kfree s o) (sz.destructor (s.obj o))

def setRefs (s : State) (o : ObjId) (n : Nat) : State := s.modify o fun x => { x with refs := n }

/-- `kref_get` on an object. -/
def reference (s : State) (o : ObjId) : State := setRefs s o ((s.obj o).refs + 1)

/-- `ttm_bo_unref` and `vmw_fence_obj_unreference`. -/
def unreference (sz : Sizes) (s : State) (o : ObjId) : State :=
  let n := (s.obj o).refs - 1
  let s := setRefs s o n
  if n = 0 then destroy sz s o else s

/-- `vmw_resource_release` as far as it concerns the backup buffer. -/
def releaseBackup (sz : Sizes) (s : State) (res : ObjId) : State :=
  match (s.obj res).backup with
  | none => s
  | some b => unreference sz (s.modify res fun x => { x with backup := none }) b

def vmwResourceUnreference (sz : Sizes) (s : State) (res : ObjId) : State :=
  let n := (s.obj res).refs - 1
  let s := setRefs s res n
  if n = 0 then destroy sz (releaseBackup sz s res) res else s

/-- What the steps of `ttm_base_object_init` return: the insertion of the handle,
the charge for a reference object and its allocation. `retries` counts the
reference objects given up because another one was being released. -/
structure BaseInit where
  hashInsert : Int
  retries : Nat
  refAlloc : Int
  refKmalloc : Bool

def BaseInit.ret (b : BaseInit) : Int :=
  if b.hashInsert ≠ 0 then b.hashInsert
  else if b.refAlloc ≠ 0 then b.refAlloc
  else if b.refKmalloc = false then -ENOMEM
  else 0

/-- A lost round of `ttm_ref_object_add`: charge, then free. -/
def refObjectRetry (sz : Sizes) : Nat → State → State
  | 0, s => s
  | n + 1, s => refObjectRetry sz n (ttmMemGlobalFree (ttmMemGlobalAlloc s sz.refObject) sz.refObject)

def ttmRefObjectAdd (sz : Sizes) (b : BaseInit) (s : State) (o : ObjId) : Int × State :=
  let s := refObjectRetry sz b.retries s
  if b.refAlloc ≠ 0 then (b.refAlloc, s)
  else
    let s := ttmMemGlobalAlloc s sz.refObject
    if b.refKmalloc = false then (-ENOMEM, ttmMemGlobalFree s sz.refObject)
    else (0, s.modify o fun x => { x with handles := x.handles + 1 })

def ttmBaseObjectInit (sz : Sizes) (b : BaseInit) (s : State) (o : ObjId) : Int × State :=
  if b.hashInsert ≠ 0 then (b.hashInsert, s) else ttmRefObjectAdd sz b s o

/-- The handle of an object, charged for. -/
def State.addHandle (sz : Sizes) (s : State) (o : ObjId) : State :=
  (ttmMemGlobalAlloc s sz.refObject).modify o fun x => { x with handles := x.handles + 1 }

theorem refObjectRetry_eq (sz : Sizes) (n : Nat) (s : State) : refObjectRetry sz n s = s := by
  induction n with
  | zero => rfl
  | succ n ih => rw [refObjectRetry, ttmMemGlobalFree_alloc, ih]

theorem enomem_ne_zero : ENOMEM ≠ 0 := by decide

/-- A base object is registered with its handle charged, or nothing changes. -/
theorem ttmBaseObjectInit_eq (sz : Sizes) (b : BaseInit) (s : State) (o : ObjId) :
    ttmBaseObjectInit sz b s o = (b.ret, if b.ret = 0 then s.addHandle sz o else s) := by
  unfold ttmBaseObjectInit ttmRefObjectAdd BaseInit.ret
  rw [refObjectRetry_eq]
  by_cases hhash : b.hashInsert = 0
  · by_cases halloc : b.refAlloc = 0
    · cases hk : b.refKmalloc <;> simp [hhash, halloc, enomem_ne_zero, State.addHandle]
    · simp [hhash, halloc]
  · simp [hhash]

end Vmwgfx.Account
