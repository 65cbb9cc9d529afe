import Mathlib.Algebra.Ring.Int.Defs
import Mathlib.Algebra.Ring.Nat
import Mathlib.Logic.Function.Basic
import Mathlib.Order.Lattice

/-! Kernel vocabulary shared by the driver's modules. -/

namespace Vmwgfx

/-- A `struct vmw_resource *`. -/
abbrev ResId := Nat

def ENOENT : Int := 2
def ENOMEM : Int := 12
def EBUSY : Int := 16
def EINVAL : Int := 22
def EPERM : Int := 1

/-- A negative error number. -/
structure Errno where
  val : Int
  neg : val < 0
  deriving DecidableEq

theorem neg_ENOMEM : -ENOMEM < 0 := by decide

def Errno.nomem : Errno := ⟨-ENOMEM, neg_ENOMEM⟩

/-- The return value of a step; `none` is success. -/
def errnoVal (e : Option Errno) : Int := (e.map Errno.val).getD 0

theorem errnoVal_ne_zero (e : Errno) : errnoVal (some e) ≠ 0 := Int.ne_of_lt e.neg

/-- `struct kref` counters of all resources. -/
abbrev Krefs := ResId → Nat

def vmwResourceReference (kref : Krefs) (res : ResId) : Krefs :=
  Function.update kref res (kref res + 1)

def vmwResourceUnreference (kref : Krefs) (res : ResId) : Krefs :=
  Function.update kref res (kref res - 1)

theorem vmwResourceReference_apply (kref : Krefs) (res r : ResId) :
    vmwResourceReference kref res r = kref r + if res = r then 1 else 0 := by
  by_cases h : r = res
  · simp [vmwResourceReference, h]
  · simp [vmwResourceReference, h, Ne.symm h]

theorem vmwResourceUnreference_apply (kref : Krefs) (res r : ResId) :
    vmwResourceUnreference kref res r = kref r - if res = r then 1 else 0 := by
  by_cases h : r = res
  · simp [vmwResourceUnreference, h]
  · simp [vmwResourceUnreference, h, Ne.symm h]

end Vmwgfx
