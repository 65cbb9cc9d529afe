import Vmwgfx.Lib.Triple
import Vmwgfx.Mob.Defs

/-! Setting up the guest memory object tables: `vmw_otables_setup`. -/

namespace Vmwgfx.Otables

open Lib Mob

variable {a : Arch}

def VMWGFX_NUM_GB_CONTEXT : Nat := 256
def VMWGFX_NUM_GB_SHADER : Nat := 20000
def VMWGFX_NUM_GB_SURFACE : Nat := 32768
def VMWGFX_NUM_GB_SCREEN_TARGET : Nat := 16
def VMWGFX_NUM_MOB : Nat :=
  VMWGFX_NUM_GB_CONTEXT + VMWGFX_NUM_GB_SHADER + VMWGFX_NUM_GB_SURFACE + VMWGFX_NUM_GB_SCREEN_TARGET

def SVGA_OTABLE_DX9_MAX : Nat := 5
def VMW_OTABLE_SETUP_SUB : Nat := 1

/-- The tables that are set up; the last one, of the screen targets, is not. -/
def numTables : Nat := SVGA_OTABLE_DX9_MAX - VMW_OTABLE_SETUP_SUB

/-- `otables[i].size`, by `SVGAOTableType`. -/
def otableSize (i : Nat) : Nat :=
  let size := match i with
    | 0 => VMWGFX_NUM_MOB * 16
    | 1 => VMWGFX_NUM_GB_SURFACE * 64
    | 2 => VMWGFX_NUM_GB_CONTEXT * 8
    | 3 => VMWGFX_NUM_GB_SHADER * 16
    | 4 => VMWGFX_NUM_GB_SCREEN_TARGET * 64
    | _ => 0
  divRoundUp size PAGE_SIZE * PAGE_SIZE

/-- `SVGA3dCmdSetOTableBase`, or its 64 bit sibling. -/
structure SetOtableBase where
  type : Nat
  baseAddress : Nat
  sizeInBytes : Nat
  ptDepth : Nat
  deriving DecidableEq

/-- `clearBase` is the command with size 0 and the invalid depth. -/
inductive Event
  | kzalloc | kfree
  | boCreate | boUnref
  | mobCreate (i : Nat) | mobDestroy (i : Nat)
  | setBase (cmd : SetOtableBase) | clearBase (type : Nat)
  | fencePtBo (i : Nat)
  deriving DecidableEq

/-- How the steps end that the setup asks of the rest of the kernel and of the FIFO. -/
structure Env (a : Arch) where
  kzalloc : Bool
  /-- `none` is success, also below. -/
  boCreate : Option Errno
  populate : Option Errno
  mapDma : Option Errno
  /-- The pages of `otable_bo`. -/
  vsgt : VmwSgTable a
  mobCreate : Nat → Bool
  ptPopulate : Nat → Except Errno (PtPages a)
  setupReserve : Nat → Bool
  takedownReserve : Nat → Bool
  /-- What stands in `ret` of `vmw_setup_otable_base` before it is set. -/
  unset : Nat → Int

/-- `tables` are the `page_table` pointers of the tables that are being set up, `otables` is
`dev_priv->otables`. -/
structure State (a : Arch) where
  otables : Option (Nat → Option (VmwMob a))
  tables : Nat → Option (VmwMob a)
  log : List Event

inductive Crash
  | nullDeref | outside | bug
  deriving DecidableEq

abbrev M (a : Arch) := EStateM Crash (State a)

def note (e : Event) : M a Unit := modify fun s => { s with log := e :: s.log }

def setPageTable (i : Nat) (mob : Option (VmwMob a)) : M a Unit :=
  modify fun s => { s with tables := Function.update s.tables i mob }

variable (env : Env a)

/-- The level and the root page; with them what stands in `ret` then. -/
def pickRoot (i : Nat) (data : List (DmaAddr a)) (mob : VmwMob a) : Except Crash (Except Errno (VmwMob a × Int)) :=
  match data with
  | [] => .error .outside
  | first :: _ =>
    if otableSize i ≤ PAGE_SIZE then
      .ok (.ok ({ mob with ptLevel := VMW_MOBFMT_PTDEPTH_0 a, ptRootPage := first.val }, env.unset i))
    else if env.vsgt.numRegions = 1 then
      .ok (.ok ({ mob with ptLevel := SVGA3D_MOBFMT_RANGE, ptRootPage := first.val }, env.unset i))
    else match env.ptPopulate i with
      | .error e => .ok (.error e)
      | .ok pt =>
        match vmwMobPtSetup mob pt data with
        | none => .error .bug
        | some mob =>
          let ptLevel := mob.ptLevel + (VMW_MOBFMT_PTDEPTH_1 a - SVGA3D_MOBFMT_PTDEPTH_1)
          .ok (.ok ({ mob with ptLevel }, 0))

/-- The second half of `vmw_setup_otable_base`, with what stands in `ret`. -/
def emitSetup (i : Nat) (mob : VmwMob a) (ret : Int) : M a Int := do
  if env.setupReserve i then
    if mob.ptLevel = VMW_MOBFMT_PTDEPTH_2 a then throw .bug
    else
      note (.setBase ⟨i, vmwPpn a mob.ptRootPage, otableSize i, mob.ptLevel⟩)
      setPageTable i (some mob)
      return 0
  else
    -- `out_no_fifo`
    note (.mobDestroy i)
    return ret

def vmwSetupOtableBase (i offset : Nat) : M a Int := do
  if ((← get).tables i).isSome then throw .bug
  else if env.mobCreate i then
    note (.mobCreate i)
    let data := (env.vsgt.addrs.drop (offset / PAGE_SIZE)).take (otableSize i / PAGE_SIZE)
    match pickRoot env i data (vmwMobCreate a (otableSize i / PAGE_SIZE)) with
    | .error crash => throw crash
    | .ok (.error e) =>
      note (.mobDestroy i)
      return e.val
    | .ok (.ok (mob, ret)) => emitSetup env i mob ret
  else return -ENOMEM

def vmwTakedownOtableBase (i : Nat) : M a Unit := do
  match (← get).tables i with
  -- `page_table->pt_bo` is read before `page_table` is compared with NULL
  | none => throw .nullDeref
  | some mob =>
    if env.takedownReserve i then
      note (.clearBase i)
      if mob.ptBo.isSome then note (.fencePtBo i) else pure ()
      note (.mobDestroy i)
      setPageTable i none
    else throw .nullDeref

/-- The loop over the tables from `i` on, `n` of them. -/
def setupTables : (n i offset : Nat) → M a Int
  | 0, _, _ => return 0
  | n + 1, i, offset => do
    let ret ← vmwSetupOtableBase env i offset
    if ret ≠ 0 then return ret else setupTables n (i + 1) (offset + otableSize i)

/-- `out_no_setup`. -/
def outNoSetup (ret : Int) : M a Int := do
  each (vmwTakedownOtableBase env) (List.range numTables)
  note .boUnref
  note .kfree
  return ret

/-- `vmw_otables_setup`. -/
def vmwOtablesSetup : M a Int := do
  if env.kzalloc then
    note .kzalloc
    match env.boCreate with
    | some e =>
      note .kfree
      return e.val
    | none =>
      note .boCreate
      match env.populate, env.mapDma with
      | some e, _ => outNoSetup env e.val
      | none, some e => outNoSetup env e.val
      | none, none =>
        let ret ← setupTables env numTables 0 0
        if ret ≠ 0 then outNoSetup env ret
        else
          modify fun s => { s with otables := some s.tables }
          return 0
  else return -ENOMEM

/-- The state that the setup is entered in. -/
def start (otables : Option (Nat → Option (VmwMob a))) : State a := ⟨otables, fun _ => none, []⟩

section Spec

variable {env}

/-- A step of the setup of table `i` fails. -/
def TableFails (env : Env a) (i : Nat) : Prop :=
  env.mobCreate i = false ∨
    (PAGE_SIZE < otableSize i ∧ env.vsgt.numRegions ≠ 1 ∧ ∃ e, env.ptPopulate i = .error e) ∨
    env.setupReserve i = false

/-- A step of the setup fails. -/
def Fails (env : Env a) : Prop :=
  env.kzalloc = false ∨ env.boCreate ≠ none ∨ env.populate ≠ none ∨ env.mapDma ≠ none ∨
    ∃ i < numTables, TableFails env i

/-- What a failed setup is to leave. -/
structure Clean (otables : Option (Nat → Option (VmwMob a))) (ret : Int) (s : State a) : Prop where
  negative : ret < 0
  otables : s.otables = otables
  takenDown : ∀ i, s.log.countP (fun | .setBase cmd => cmd.type = i | _ => false) = s.log.count (.clearBase i)
  freed : ∀ i, s.log.count (.mobCreate i) = s.log.count (.mobDestroy i)
  buffer : s.log.count .boCreate = s.log.count .boUnref
  memory : s.log.count .kzalloc = s.log.count .kfree

/-- If a step fails the setup returns, and leaves what it is to leave. -/
def FailsCleanly (env : Env a) (otables : Option (Nat → Option (VmwMob a))) : Prop :=
  Fails env → ∃ ret s, vmwOtablesSetup env (start otables) = .ok ret s ∧ Clean otables ret s

theorem emitSetup_none {i : Nat} {mob : VmwMob a} {ret : Int} {s : State a} (h : s.tables i = none) :
    Ends (emitSetup env i mob ret) s (fun ret t => ret ≠ 0 → t.tables i = none) (fun _ _ => True) := by
  unfold emitSetup
  refine .ite (fun _ => .ite (fun _ => trivial) fun _ => ?_) fun _ _ => h
  intro h0
  exact absurd rfl h0

/-- A table whose setup returns an error has no page table. -/
theorem vmwSetupOtableBase_none {i offset : Nat} {s : State a} :
    Ends (vmwSetupOtableBase env i offset) s (fun ret t => ret ≠ 0 → t.tables i = none) (fun _ _ => True) := by
  refine .bind_get (.ite (fun _ => trivial) fun hset => ?_)
  have hnone : s.tables i = none := Option.not_isSome_iff_eq_none.mp hset
  refine .ite (fun _ => .bind_modify ?_) fun _ _ => hnone
  dsimp only
  split
  · trivial
  · exact .bind_modify fun _ => hnone
  · exact emitSetup_none hnone

theorem setupTables_none (n i offset : Nat) {s : State a} :
    Ends (setupTables env n i offset) s (fun ret t => ret ≠ 0 → ∃ j < i + n, t.tables j = none)
      (fun _ _ => True) := by
  induction n generalizing i offset s with
  | zero => exact fun h0 => absurd rfl h0
  | succ n ih =>
    refine vmwSetupOtableBase_none.bind fun ret t hnone => .ite (fun h0 _ => ?_) fun _ => ?_
    · exact ⟨i, by omega, hnone h0⟩
    · refine (ih (i + 1) (offset + otableSize i)).mono (fun ret t h h0 => ?_) fun _ _ h => h
      obtain ⟨j, hj, hnone⟩ := h h0
      exact ⟨j, by omega, hnone⟩

/-- A table without a page table cannot be taken down. -/
theorem vmwTakedownOtableBase_some {i : Nat} {s : State a} :
    Ends (vmwTakedownOtableBase env i) s
      (fun _ t => s.tables i ≠ none ∧ t.tables = Function.update s.tables i none) (fun _ _ => True) := by
  refine .bind_get ?_
  cases hmob : s.tables i with
  | none => trivial
  | some mob =>
    refine .ite (fun _ => .bind_modify ?_) fun _ => trivial
    dsimp only
    split <;> exact ⟨Option.some_ne_none mob, rfl⟩

theorem takedown_each_some (is : List Nat) {s : State a} :
    Ends (each (vmwTakedownOtableBase env) is) s (fun _ _ => ∀ i ∈ is, s.tables i ≠ none) (fun _ _ => True) := by
  induction is generalizing s with
  | nil => exact fun i hi => absurd hi List.not_mem_nil
  | cons i is ih =>
    refine vmwTakedownOtableBase_some.bind fun _ t ht => ?_
    obtain ⟨hsome, htables⟩ := ht
    refine ih.mono (fun _ _ hrest => ?_) fun _ _ h => h
    rw [htables] at hrest
    intro j hj
    rcases List.mem_cons.mp hj with rfl | hj
    · exact hsome
    · have hj' := hrest j hj
      rcases eq_or_ne j i with rfl | hne
      · exact hsome
      · rwa [Function.update_of_ne hne] at hj'

theorem outNoSetup_stops {ret : Int} {s : State a} (h : ∃ i < numTables, s.tables i = none) :
    Ends (outNoSetup env ret) s (fun _ _ => False) (fun _ _ => True) := by
  obtain ⟨i, hi, hnone⟩ := h
  refine (takedown_each_some (List.range numTables)).bind fun _ _ hall => ?_
  exact absurd hnone (hall i (List.mem_range.mpr hi))

/-- Once the buffer exists, the setup does not return an error. -/
theorem vmwOtablesSetup_zero (otables : Option (Nat → Option (VmwMob a))) (hk : env.kzalloc = true)
    (hbo : env.boCreate = none) :
    Ends (vmwOtablesSetup env) (start otables) (fun ret _ => ret = 0) (fun _ _ => True) := by
  have hstops (ret : Int) (s : State a) (h : s.tables = fun _ => none) :
      Ends (outNoSetup env ret) s (fun ret _ => ret = 0) (fun _ _ => True) := by
    refine (outNoSetup_stops ⟨0, by decide, ?_⟩).mono (fun _ _ h => h.elim) fun _ _ h => h
    rw [h]
  unfold vmwOtablesSetup
  rw [if_pos hk, hbo]
  refine .bind_modify (.bind_modify ?_)
  split
  · exact hstops _ _ rfl
  · exact hstops _ _ rfl
  · refine (setupTables_none numTables 0 0).bind fun ret t hnone => .ite (fun h0 => ?_) fun _ => rfl
    obtain ⟨i, hi, hi'⟩ := hnone h0
    exact (outNoSetup_stops ⟨i, by omega, hi'⟩).mono (fun _ _ h => h.elim) fun _ _ h => h

end Spec

/-- The setup fails cleanly exactly where it fails before there is a table. -/
theorem otables_setup_clean_iff (otables : Option (Nat → Option (VmwMob a))) :
    FailsCleanly env otables ↔ (Fails env → env.kzalloc = false ∨ env.boCreate ≠ none) := by
  constructor
  · intro h hfails
    obtain ⟨ret, s, hrun, hclean⟩ := h hfails
    by_contra hlate
    obtain ⟨hk, hbo⟩ := not_or.mp hlate
    have hzero := vmwOtablesSetup_zero otables (Bool.not_eq_false _ ▸ hk) (Classical.not_not.mp hbo)
    unfold Ends at hzero
    rw [hrun] at hzero
    have hneg := hclean.negative
    rw [show ret = 0 from hzero] at hneg
    exact absurd hneg (by decide)
  · intro h hfails
    cases hk : env.kzalloc with
    | false =>
      refine ⟨-ENOMEM, start otables, ?_, by decide, rfl, fun _ => rfl, fun _ => rfl, rfl, rfl⟩
      unfold vmwOtablesSetup
      rw [hk]
      rfl
    | true =>
      obtain ⟨e, he⟩ := Option.ne_none_iff_exists'.mp ((h hfails).resolve_left (by rw [hk]; decide))
      refine ⟨e.val, { start otables with log := [.kfree, .kzalloc] }, ?_, e.neg, rfl, fun _ => rfl, fun _ => rfl, rfl, rfl⟩
      unfold vmwOtablesSetup
      rw [hk, he]
      rfl

/-- Everything succeeds but the allocation of the first page table. -/
def noPageTable : Env .bits64 where
  kzalloc := true
  boCreate := none
  populate := none
  mapDma := none
  vsgt := ⟨[], 1⟩
  mobCreate _ := false
  ptPopulate _ := .ok ⟨[], List.nodup_nil⟩
  setupReserve _ := true
  takedownReserve _ := true
  unset _ := 0

/-- The error path follows the page table that was never made. -/
theorem otables_setup_oops :
    Fails noPageTable ∧ (∃ s, vmwOtablesSetup noPageTable (start none) = .error .nullDeref s) ∧
      ¬ FailsCleanly noPageTable none := by
  have hfails : Fails noPageTable := .inr (.inr (.inr (.inr ⟨0, by decide, .inl rfl⟩)))
  refine ⟨hfails, ⟨_, rfl⟩, fun h => ?_⟩
  obtain ⟨ret, s, hrun, -⟩ := h hfails
  cases hrun

end Vmwgfx.Otables
