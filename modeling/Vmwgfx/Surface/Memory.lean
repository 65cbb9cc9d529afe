import Mathlib.Data.List.Perm.Basic
import Mathlib.Data.List.Nodup
import Vmwgfx.Kernel
import Vmwgfx.Lib.Machine
import Vmwgfx.Lib.Uint

/-! The device memory of legacy surfaces, as `used_memory_size` counts it. -/

namespace Vmwgfx.LegacySurface

open Lib

abbrev SrfId := Nat

def SVGA3D_MAX_SURFACE_IDS : Nat := 32 * 1024

/-- What does not change: the memory of the device, the sizes of the surfaces, and the width of
`unsigned long`, which `backup_size` is. -/
structure Params where
  wide : Bool
  memorySize : Nat
  backupSize : SrfId → Nat
  memory_lt : memorySize < 2 ^ 32
  backup_lt : ∀ r, backupSize r < 2 ^ 32

/-- `res->id` is `none` where it is -1. `dead` is a surface that `vmw_resource_release` has freed.
`device` has the surfaces that the device was told to define and not to destroy, and `underflow`
whether more was ever subtracted than there was. -/
structure State where
  used : Nat
  id : SrfId → Option Nat
  dead : SrfId → Bool
  device : List SrfId
  underflow : Bool

/-- How the steps of `vmw_legacy_srf_create` end, with the id that it gets. -/
structure CreateSteps where
  allocId : Int
  id : Nat
  fifo : Bool

section Source

variable (p : Params)

/-- A sum in `unsigned long`. -/
def addLong (a b : Nat) : Nat := (a + b) % if p.wide then 2 ^ 64 else 2 ^ 32

def State.setId (s : State) (r : SrfId) (id : Option Nat) : State := { s with id := Function.update s.id r id }

/-- `SVGA_3D_CMD_SURFACE_DEFINE` and the accounting for it. -/
def State.define (s : State) (r : SrfId) : State :=
  { s with
    used := add32 s.used (p.backupSize r)
    device := r :: s.device }

/-- `SVGA_3D_CMD_SURFACE_DESTROY` and the accounting. -/
def State.undefine (s : State) (r : SrfId) : State :=
  { s with
    used := sub32 s.used (p.backupSize r)
    device := s.device.erase r
    underflow := s.underflow || s.used < p.backupSize r }

def vmwLegacySrfCreate (s : State) (r : SrfId) (k : CreateSteps) : Int × State :=
  if s.id r ≠ none then (0, s)
  else if p.memorySize ≤ addLong p s.used (p.backupSize r) then (-EBUSY, s)
  else if k.allocId ≠ 0 then (k.allocId, s)
  else
    let s := s.setId r (some k.id)
    if SVGA3D_MAX_SURFACE_IDS ≤ k.id then (-EBUSY, s.setId r none)
    else if k.fifo = false then (-ENOMEM, s.setId r none)
    else (0, s.define p r)

def vmwLegacySrfDestroy (s : State) (r : SrfId) (fifo : Bool) : Int × State :=
  if s.id r = none then (0, s)
  else if fifo = false then (-ENOMEM, s)
  else (0, (s.undefine p r).setId r none)

/-- Without room in the FIFO the surface stays where it is. -/
def vmwHwSurfaceDestroy (s : State) (r : SrfId) (fifo : Bool) : State :=
  if s.id r ≠ none then if fifo = false then s else s.undefine p r
  else s

/-- The only caller of `vmw_hw_surface_destroy`, with the last reference to a surface. -/
def vmwResourceRelease (s : State) (r : SrfId) (fifo : Bool) : State :=
  let s := vmwHwSurfaceDestroy p s r fifo
  { s.setId r none with dead := Function.update s.dead r true }

inductive Action
  | create (r : SrfId) (k : CreateSteps)
  | destroy (r : SrfId) (fifo : Bool)
  | release (r : SrfId) (fifo : Bool)

def Action.srf : Action → SrfId
  | create r _ | destroy r _ | release r _ => r

def Action.run (s : State) : Action → State
  | create r k => (vmwLegacySrfCreate p s r k).2
  | destroy r fifo => (vmwLegacySrfDestroy p s r fifo).2
  | release r fifo => vmwResourceRelease p s r fifo

def step (s : State) (a : Action) : Option State := if s.dead a.srf then none else some (a.run p s)

def init : State where
  used := 0
  id := fun _ => none
  dead := fun _ => false
  device := []
  underflow := false

/-- The memory of the surfaces on the device. -/
def memory (s : State) : Nat := (s.device.map p.backupSize).sum

/-- The counter is the memory in use, nothing was subtracted twice, and it is below the limit; with
no memory at all no surface is defined. -/
structure Accounted (s : State) : Prop where
  used : s.used = memory p s
  underflow : s.underflow = false
  below : s.used < p.memorySize ∨ p.memorySize = 0 ∧ s.device = []

/-- The sum that a creation checks does not leave 32 bits where `unsigned long` has no more. -/
def Fits (s : State) : Action → Prop
  | .create r _ => p.wide = true ∨ s.used + p.backupSize r < 2 ^ 32
  | .destroy _ _ | .release _ _ => True

end Source

/-- The surfaces with an id are those on the device. -/
structure Inv (p : Params) (s : State) : Prop extends Accounted p s where
  nodup : s.device.Nodup
  ids : ∀ r, s.dead r = false → (r ∈ s.device ↔ s.id r ≠ none)

section Step

variable {p : Params} {s s' : State} {r : SrfId}

theorem Inv.init (p : Params) : Inv p init where
  used := rfl
  underflow := rfl
  below := by
    rcases Nat.eq_zero_or_pos p.memorySize with h | h
    · exact .inr ⟨h, rfl⟩
    · exact .inl h
  nodup := List.nodup_nil
  ids r _ := by simp [LegacySurface.init]

/-- The accounting is of the counter and the device only. -/
theorem Accounted.congr (h : Accounted p s) (hused : s'.used = s.used) (hdevice : s'.device = s.device)
    (hunderflow : s'.underflow = s.underflow) : Accounted p s' where
  used := by
    rw [hused, h.used]
    unfold memory
    rw [hdevice]
  underflow := hunderflow.trans h.underflow
  below := by
    rw [hused, hdevice]
    exact h.below

/-- Nothing but the id of a surface that is not on the device, or dead, changes. -/
theorem Inv.setId (h : Inv p s) {id : Option Nat} (hid : s.dead r = true ∨ (r ∈ s.device ↔ id ≠ none)) :
    Inv p (s.setId r id) := by
  refine ⟨h.toAccounted.congr rfl rfl rfl, h.nodup, fun q hq => ?_⟩
  by_cases heq : q = r
  · subst heq
    have hiff := hid.resolve_left (by rw [show s.dead q = false from hq]; decide)
    simpa [State.setId] using hiff
  · simpa [State.setId, heq] using h.ids q hq

theorem addLong_eq {a b : Nat} (ha : a < 2 ^ 32) (hb : b < 2 ^ 32) (h : p.wide = true ∨ a + b < 2 ^ 32) :
    addLong p a b = a + b := by
  unfold addLong
  split
  · exact Nat.mod_eq_of_lt (by omega)
  · rename_i hwide
    exact Nat.mod_eq_of_lt (h.resolve_left hwide)

theorem Inv.used_lt (h : Inv p s) : s.used < 2 ^ 32 := by
  rcases h.below with hlt | ⟨-, hnil⟩
  · exact hlt.trans p.memory_lt
  · rw [h.used, memory, hnil]
    exact (by decide : 0 < 2 ^ 32)

theorem memory_cons (p : Params) (s : State) (r : SrfId) :
    memory p { s with device := r :: s.device } = p.backupSize r + memory p s := by
  simp [memory]

theorem memory_erase (h : r ∈ s.device) :
    p.backupSize r + memory p { s with device := s.device.erase r } = memory p s := by
  have hperm := (List.perm_cons_erase h).map p.backupSize
  have hsum := hperm.sum_nat
  rw [List.map_cons, List.sum_cons] at hsum
  exact hsum.symm

/-- A surface that is defined below the limit. -/
theorem Accounted.define (h : Accounted p s) (hlt : s.used + p.backupSize r < p.memorySize) :
    Accounted p (s.define p r) := by
  have hused : (s.define p r).used = s.used + p.backupSize r := add32_of_lt (hlt.trans p.memory_lt)
  refine ⟨?_, h.underflow, .inl ?_⟩
  · rw [hused, h.used, Nat.add_comm]
    exact (memory_cons p s r).symm
  · rw [hused]
    exact hlt

/-- One that is destroyed had its part in the counter. -/
theorem Accounted.undefine (h : Accounted p s) (hr : r ∈ s.device) : Accounted p (s.undefine p r) := by
  have hsum := @memory_erase p s r hr
  rw [← h.used] at hsum
  have hle : p.backupSize r ≤ s.used := by omega
  have hbelow : s.used < p.memorySize := by
    refine h.below.resolve_right fun hnil => ?_
    rw [hnil.2] at hr
    cases hr
  have hused : (s.undefine p r).used = s.used - p.backupSize r := sub32_of_le hle (hbelow.trans p.memory_lt)
  refine ⟨?_, ?_, .inl ?_⟩
  · rw [hused]
    exact Nat.sub_eq_of_eq_add (by rw [Nat.add_comm]; exact hsum.symm)
  · have hflag : (s.undefine p r).underflow = (s.underflow || decide (s.used < p.backupSize r)) := rfl
    rw [hflag, h.underflow, Bool.false_or]
    exact decide_eq_false (Nat.not_lt.mpr hle)
  · rw [hused]
    exact (Nat.sub_le _ _).trans_lt hbelow

theorem Inv.define (h : Inv p s) (hr : r ∉ s.device) (hlt : s.used + p.backupSize r < p.memorySize) (id : Nat) :
    Inv p ((s.setId r (some id)).define p r) where
  toAccounted := (h.toAccounted.define hlt).congr rfl rfl rfl
  nodup := List.nodup_cons.mpr ⟨hr, h.nodup⟩
  ids q hq := by
    show q ∈ r :: s.device ↔ Function.update s.id r (some id) q ≠ none
    by_cases heq : q = r
    · subst heq
      simp
    · rw [List.mem_cons, or_iff_right heq, Function.update_of_ne heq]
      exact h.ids q hq

theorem Inv.undefine (h : Inv p s) (hr : r ∈ s.device) : Inv p ((s.undefine p r).setId r none) where
  toAccounted := (h.toAccounted.undefine hr).congr rfl rfl rfl
  nodup := h.nodup.erase r
  ids q hq := by
    show q ∈ s.device.erase r ↔ Function.update s.id r none q ≠ none
    by_cases heq : q = r
    · subst heq
      simp [h.nodup.not_mem_erase]
    · rw [List.mem_erase_of_ne heq, Function.update_of_ne heq]
      exact h.ids q hq

/-- A dead surface may have any id. -/
theorem Inv.kill (h : Inv p s) (r : SrfId) : Inv p { s with dead := Function.update s.dead r true } := by
  refine ⟨h.toAccounted.congr rfl rfl rfl, h.nodup, fun q hq => ?_⟩
  by_cases heq : q = r
  · subst heq
    simp at hq
  · exact h.ids q (by simpa [heq] using hq)

theorem Inv.killReset (h : Inv p s) (r : SrfId) :
    Inv p { s.setId r none with dead := Function.update s.dead r true } := by
  have hkill := h.kill r
  have hdead : ({ s with dead := Function.update s.dead r true } : State).dead r = true := Function.update_self r true s.dead
  exact hkill.setId (.inl hdead)

theorem Inv.create (h : Inv p s) (hlive : s.dead r = false) (k : CreateSteps)
    (hfits : p.wide = true ∨ s.used + p.backupSize r < 2 ^ 32) : Inv p (vmwLegacySrfCreate p s r k).2 := by
  unfold vmwLegacySrfCreate
  split
  · exact h
  rename_i hid
  split
  · exact h
  rename_i hmemory
  split
  · exact h
  have hr : r ∉ s.device := fun hr => hid ((h.ids r hlive).mp hr)
  have hreset : (s.setId r (some k.id)).setId r none = s := by
    simp [State.setId, ← not_not.mp hid]
  dsimp only
  split
  · rw [hreset]
    exact h
  split
  · rw [hreset]
    exact h
  · rw [addLong_eq h.used_lt (p.backup_lt r) hfits] at hmemory
    exact h.define hr (by omega) k.id

theorem Inv.destroy (h : Inv p s) (hlive : s.dead r = false) (fifo : Bool) : Inv p (vmwLegacySrfDestroy p s r fifo).2 := by
  unfold vmwLegacySrfDestroy
  split
  · exact h
  rename_i hid
  split
  · exact h
  · exact h.undefine ((h.ids r hlive).mpr hid)

theorem Inv.release (h : Inv p s) (hlive : s.dead r = false) (fifo : Bool) : Inv p (vmwResourceRelease p s r fifo) := by
  unfold vmwResourceRelease vmwHwSurfaceDestroy
  dsimp only
  split
  · rename_i hid
    split
    · -- the device keeps the surface
      exact h.killReset r
    · exact (h.undefine ((h.ids r hlive).mpr hid)).kill r
  · exact h.killReset r

theorem Inv.step {a : Action} (hfits : Fits p s a) (hstep : step p s a = some s') (h : Inv p s) : Inv p s' := by
  unfold LegacySurface.step at hstep
  split at hstep
  · cases hstep
  rename_i hdead
  have hlive : s.dead a.srf = false := by simpa using hdead
  cases hstep
  cases a with
  | create r k => exact h.create hlive k hfits
  | destroy r fifo => exact h.destroy hlive fifo
  | release r fifo => exact h.release hlive fifo

end Step

/-- After every run, whatever fails, the counter is the memory of the surfaces on the device. -/
theorem memory_accounted (p : Params) {as : List Action} {s : State}
    (hrun : Run (step p) (Fits p) init as s) : Accounted p s :=
  (hrun.invariant (fun _ _ _ hfits hstep h => h.step hfits hstep) (Inv.init p)).toAccounted

section Example

private def created : CreateSteps := ⟨0, 1, true⟩

private def noMemory : Params where
  wide := true
  memorySize := 0
  backupSize := fun _ => 4096
  memory_lt := by decide
  backup_lt _ := by decide

private def halfGiga (wide : Bool) : Params where
  wide := wide
  memorySize := 536870912
  backupSize := fun r => if r = 1 then 4294963200 else 4096
  memory_lt := by decide
  backup_lt r := by split <;> decide

/-- Nothing is below a limit of zero, and where `unsigned long` has 32 bits the second surface is
let in and makes the counter zero. -/
theorem memory_unaccounted :
    (Run (step noMemory) (fun _ _ => True) init [] init ∧ ¬ init.used < noMemory.memorySize) ∧
      ∃ s, Run (step (halfGiga false)) (fun _ _ => True) init [.create 0 created, .create 1 created] s ∧
        s.used = 0 ∧ memory (halfGiga false) s = 4294967296 :=
  ⟨⟨.nil _, by decide⟩, _, .cons trivial rfl (.cons trivial rfl (.nil _)), by decide, by decide⟩

/-- A surface is created, stays on the device when its eviction fails, and is evicted at last. -/
theorem memory_accounted_evicted : ∃ s,
    Run (step (halfGiga true)) (Fits (halfGiga true)) init
        [.create 0 created, .create 2 created, .destroy 0 false, .release 2 true, .destroy 0 true] s ∧
      Accounted (halfGiga true) s := by
  have hrun : ∃ s, Run (step (halfGiga true)) (Fits (halfGiga true)) init
      [.create 0 created, .create 2 created, .destroy 0 false, .release 2 true, .destroy 0 true] s :=
    ⟨_, .cons (.inl rfl) rfl (.cons (.inl rfl) rfl (.cons trivial rfl (.cons trivial rfl (.cons trivial rfl (.nil _)))))⟩
  obtain ⟨s, hrun⟩ := hrun
  exact ⟨s, hrun, memory_accounted _ hrun⟩

end Example

end Vmwgfx.LegacySurface
