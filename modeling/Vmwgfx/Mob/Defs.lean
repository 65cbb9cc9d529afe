import Vmwgfx.Kernel
import Vmwgfx.Lib.Radix

/-! Guest memory objects: the page tables of `vmwgfx_mob.c` and the TTM backend
that binds them. -/

namespace Vmwgfx.Mob

open Lib

/-- `CONFIG_64BIT` selects the width of a page table entry and the mob formats. -/
inductive Arch
  | bits32
  | bits64
  deriving DecidableEq, Repr

def PAGE_SIZE : Nat := 4096

def VMW_PPN_SIZE : Arch → Nat
  | .bits32 => 4
  | .bits64 => 8

def VMW_MOBFMT_PTDEPTH_0 : Arch → Nat
  | .bits32 => 0
  | .bits64 => 4

def VMW_MOBFMT_PTDEPTH_1 (a : Arch) : Nat := VMW_MOBFMT_PTDEPTH_0 a + 1

def VMW_MOBFMT_PTDEPTH_2 (a : Arch) : Nat := VMW_MOBFMT_PTDEPTH_0 a + 2

def SVGA3D_MOBFMT_PTDEPTH_1 : Nat := 1

def SVGA3D_MOBFMT_RANGE : Nat := 3

/-- Entries of one page table page. -/
def perPage (a : Arch) : Nat := PAGE_SIZE / VMW_PPN_SIZE a

def addrBits : Arch → Nat
  | .bits32 => 44
  | .bits64 => 64

/-- The device address of a page: page aligned, its frame number fits an entry,
and it is not the last page of the address space. -/
structure DmaAddr (a : Arch) where
  val : Nat
  aligned : PAGE_SIZE ∣ val
  lt : val + PAGE_SIZE < 2 ^ addrBits a
  deriving DecidableEq

/-- `val >> PAGE_SHIFT`, as wide as the entry it is assigned to. -/
def vmwPpn (a : Arch) (val : Nat) : Nat := val / PAGE_SIZE % 2 ^ (8 * VMW_PPN_SIZE a)

/-- The contents of page table pages, by page and entry; `none` was never written. -/
abbrev Entries := Nat → Nat → Option Nat

/-- The pages of a buffer object for a page table, as the device sees them. -/
structure PtPages (a : Arch) where
  pages : List (DmaAddr a)
  nodup : pages.Nodup
  deriving DecidableEq

/-- `mob->pt_bo`. -/
structure PtBo (a : Arch) extends PtPages a where
  entry : Entries

/-- What the device reads at entry `i` of the page with frame number `ppn`. -/
def PtBo.read {a : Arch} (pt : PtBo a) (ppn i : Nat) : Option Nat :=
  (pt.pages.findIdx? (fun p => vmwPpn a p.val = ppn)).bind (fun k => pt.entry k i)

structure VmwMob (a : Arch) where
  ptBo : Option (PtBo a)
  numPages : Nat
  ptLevel : Nat
  ptRootPage : Nat
  id : Nat

/-- `struct vmw_sg_table`: the device addresses of the data pages in order, and
the number of contiguous regions they form. -/
structure VmwSgTable (a : Arch) where
  addrs : List (DmaAddr a)
  numRegions : Nat

/-- `SVGA3dCmdDefineGBMob`, or its 64 bit sibling. -/
structure DefineGbMob where
  mobid : Nat
  ptDepth : Nat
  base : Nat
  sizeInBytes : Nat
  deriving DecidableEq, Repr

section Denotation

variable {a : Arch}

/-- The device address of page `i` of a memory object: `base` names the page
itself, the first page of a range, or the root of a page table. -/
def DefineGbMob.page (a : Arch) (pt : Option (PtBo a)) (cmd : DefineGbMob) (i : Nat) : Option Nat :=
  if cmd.ptDepth = SVGA3D_MOBFMT_RANGE then some ((cmd.base + i) * PAGE_SIZE)
  else if VMW_MOBFMT_PTDEPTH_0 a ≤ cmd.ptDepth ∧ cmd.ptDepth ≤ VMW_MOBFMT_PTDEPTH_2 a then
    (Radix.walk (fun p j => pt.bind (fun b => b.read p j)) (perPage a)
      (cmd.ptDepth - VMW_MOBFMT_PTDEPTH_0 a) cmd.base i).map (· * PAGE_SIZE)
  else none

/-- The memory object is exactly the data pages, in order. -/
def DefineGbMob.Denotes (pt : Option (PtBo a)) (cmd : DefineGbMob) (data : List (DmaAddr a)) : Prop :=
  (List.range data.length).map (cmd.page a pt) = data.map (fun d => some d.val)

instance (pt : Option (PtBo a)) (cmd : DefineGbMob) (data : List (DmaAddr a)) :
    Decidable (cmd.Denotes pt data) :=
  inferInstanceAs (Decidable (_ = _))

end Denotation

variable {a : Arch}

def divRoundUp (n d : Nat) : Nat := (n + d - 1) / d

/-- The loop of `vmw_mob_calculate_pt_pages`; the size shrinks in every round. -/
def ptSize (a : Arch) : Nat → Nat → Nat
  | 0, _ => 0
  | fuel + 1, dataSize =>
    if PAGE_SIZE < dataSize then
      let dataSize := divRoundUp dataSize PAGE_SIZE * VMW_PPN_SIZE a
      divRoundUp dataSize PAGE_SIZE * PAGE_SIZE + ptSize a fuel dataSize
    else 0

def vmwMobCalculatePtPages (a : Arch) (dataPages : Nat) : Nat :=
  ptSize a (dataPages * PAGE_SIZE) (dataPages * PAGE_SIZE) / PAGE_SIZE

/-- `kzalloc`, with the number of page table pages. -/
def vmwMobCreate (a : Arch) (dataPages : Nat) : VmwMob a :=
  { ptBo := none, numPages := vmwMobCalculatePtPages a dataPages, ptLevel := 0, ptRootPage := 0, id := 0 }

def Entries.set (e : Entries) (page i val : Nat) : Entries := fun p j =>
  if p = page ∧ j = i then some val else e p j

/-- Assigns the entries of one page, from entry `i` on. -/
def vmwMobAssignPpns (page : Nat) : Nat → List (DmaAddr a) → Entries → Entries
  | _, [], e => e
  | i, d :: data, e => vmwMobAssignPpns page (i + 1) data (e.set page i (vmwPpn a d.val))

/-- The page loop of `vmw_mob_build_pt`: `numPtPages` pages from `ptIter` on. -/
def vmwMobBuildPages : Nat → Nat → List (DmaAddr a) → Entries → Entries
  | 0, _, _, e => e
  | numPtPages + 1, ptIter, data, e =>
    vmwMobBuildPages numPtPages (ptIter + 1) (data.drop (perPage a))
      (vmwMobAssignPpns ptIter 0 (data.take (perPage a)) e)

def numPtPages (a : Arch) (numDataPages : Nat) : Nat :=
  divRoundUp (numDataPages * VMW_PPN_SIZE a) PAGE_SIZE

def vmwMobBuildPt (ptIter : Nat) (data : List (DmaAddr a)) (e : Entries) : Entries :=
  vmwMobBuildPages (numPtPages a data.length) ptIter data e

/-- The loop of `vmw_mob_pt_setup`: each round builds one level over the pages
that the round before wrote, `left` rounds before the `BUG_ON`. The result is
the level, the iterator saved in the last round and the tables. -/
def vmwMobPtLoop (pages : List (DmaAddr a)) :
    (left level save ptIter : Nat) → List (DmaAddr a) → Entries → Option (Nat × Nat × Entries)
  | 0, level, save, _, data, e => if 1 < data.length then none else some (level, save, e)
  | left + 1, level, save, ptIter, data, e =>
    if 1 < data.length then
      let n := numPtPages a data.length
      vmwMobPtLoop pages left (level + 1) ptIter (ptIter + n) ((pages.drop ptIter).take n)
        (vmwMobBuildPt ptIter data e)
    else some (level, save, e)

/-- `vmw_mob_pt_setup` on the pages `vmw_mob_pt_populate` allocated. -/
def vmwMobPtSetup (mob : VmwMob a) (pt : PtPages a) (data : List (DmaAddr a)) : Option (VmwMob a) :=
  (vmwMobPtLoop pt.pages 2 0 0 0 data (fun _ _ => none)).bind fun (level, save, e) =>
    (pt.pages[save]?).map fun root =>
      { mob with ptBo := some { pt with entry := e }, ptLevel := level, ptRootPage := root.val }

/-- What a bind asks of the rest of the kernel. -/
structure BindRequest (a : Arch) where
  /-- `bo_mem->start`. -/
  start : Nat
  /-- The addresses a new DMA mapping assigns; `none` is a failed mapping. -/
  mapping : Option (List (DmaAddr a))
  mobAllocated : Bool
  /-- The outcome of `vmw_mob_pt_populate`. -/
  ptPages : Option (PtPages a)
  fifo : Bool

/-- Picks the level and the root. `none` is a `BUG`; an error leaves the mob
without a page table; the flag is `pt_set_up`. -/
def vmwMobPrepare (mob : VmwMob a) (vsgt : VmwSgTable a) (first : DmaAddr a) (numDataPages : Nat)
    (ptPages : Option (PtPages a)) : Option (Except Int (VmwMob a × Bool)) :=
  if numDataPages = 1 then
    some (.ok ({ mob with ptLevel := VMW_MOBFMT_PTDEPTH_0 a, ptRootPage := first.val }, false))
  else if vsgt.numRegions = 1 then
    some (.ok ({ mob with ptLevel := SVGA3D_MOBFMT_RANGE, ptRootPage := first.val }, false))
  else if mob.ptBo.isNone then
    match ptPages with
    | none => some (.error (-ENOMEM))
    | some pt =>
      if pt.pages.length = mob.numPages then
        (vmwMobPtSetup mob pt vsgt.addrs).map fun mob =>
          .ok ({ mob with
                 ptLevel := mob.ptLevel + (VMW_MOBFMT_PTDEPTH_1 a - SVGA3D_MOBFMT_PTDEPTH_1) }, true)
      else none
  else some (.ok (mob, false))

def defineGbMob (mob : VmwMob a) (numDataPages mobId : Nat) : DefineGbMob :=
  { mobid := mobId, ptDepth := mob.ptLevel, base := vmwPpn a mob.ptRootPage
    sizeInBytes := numDataPages * PAGE_SIZE % 2 ^ 32 }

/-- `vmw_mob_bind`: the return value, the mob and the command it committed. -/
def vmwMobBind (mob : VmwMob a) (vsgt : VmwSgTable a) (numDataPages mobId : Nat)
    (ptPages : Option (PtPages a)) (fifo : Bool) : Option (Int × VmwMob a × Option DefineGbMob) :=
  let mob := { mob with id := mobId }
  match vsgt.addrs with
  | [] => some (0, mob, none)
  | first :: _ =>
    (vmwMobPrepare mob vsgt first numDataPages ptPages).map fun
    | .error ret => (ret, mob, none)
    | .ok (mob, ptSetUp) =>
      if fifo then (0, mob, some (defineGbMob mob numDataPages mobId))
      else (-ENOMEM, if ptSetUp then { mob with ptBo := none } else mob, none)

inductive MapMode
  | phys
  | allocCoherent
  | mapPopulate
  | mapBind
  deriving DecidableEq, Repr

structure VmwTtmBackend (a : Arch) where
  /-- The device's view of the pages when it uses physical addresses; `none` is
  an unpopulated backend. -/
  pages : Option (List (DmaAddr a))
  mob : Option (VmwMob a)
  vsgt : VmwSgTable a
  mapped : Bool

def VmwTtmBackend.numPages (be : VmwTtmBackend a) : Nat := (be.pages.getD []).length

/-- The page table of the backend's mob. -/
def VmwTtmBackend.ptBo (be : VmwTtmBackend a) : Option (PtBo a) := be.mob.bind (·.ptBo)

/-- Counts the pages that do not follow the page before them. -/
def countRegions : Nat → List (DmaAddr a) → Nat
  | _, [] => 0
  | old, cur :: l => (if cur.val ≠ (old + PAGE_SIZE) % 2 ^ 64 then 1 else 0) + countRegions cur.val l

def vmwSgTable (addrs : List (DmaAddr a)) : VmwSgTable a :=
  { addrs, numRegions := countRegions (2 ^ 64 - 1) addrs }

/-- `vmw_ttm_map_dma`. In coherent mode no addresses were ever set up and
reading one goes through a null pointer. -/
def vmwTtmMapDma (mode : MapMode) (be : VmwTtmBackend a) (mapping : Option (List (DmaAddr a))) :
    Option (Int × VmwTtmBackend a) :=
  if be.mapped then some (0, be)
  else match mode with
    | .phys => some (0, { be with vsgt := vmwSgTable (be.pages.getD []), mapped := true })
    | .allocCoherent =>
      if be.numPages = 0 then some (0, { be with vsgt := vmwSgTable [], mapped := true }) else none
    | .mapPopulate | .mapBind =>
      match mapping with
      | none => some (-ENOMEM, be)
      | some l =>
        if l.length = be.numPages then some (0, { be with vsgt := vmwSgTable l, mapped := true })
        else none

def vmwTtmUnmapDma (be : VmwTtmBackend a) : VmwTtmBackend a := { be with mapped := false }

/-- `vmw_ttm_bind` to `VMW_PL_MOB`, of a populated backend as `ttm_tt_bind` has it. -/
def vmwTtmBind (mode : MapMode) (be : VmwTtmBackend a) (b : BindRequest a) :
    Option (Int × VmwTtmBackend a × Option DefineGbMob) :=
  if be.pages.isNone then none
  else (vmwTtmMapDma mode be b.mapping).bind fun (ret, be) =>
    if ret ≠ 0 then some (ret, be, none)
    else
      match be.mob with
      | none =>
        if b.mobAllocated then
          (vmwMobBind (vmwMobCreate a be.numPages) be.vsgt be.numPages b.start b.ptPages b.fifo).map
            fun (ret, mob, cmd) => (ret, { be with mob := some mob }, cmd)
        else some (-ENOMEM, be, none)
      | some mob =>
        (vmwMobBind mob be.vsgt be.numPages b.start b.ptPages b.fifo).map
          fun (ret, mob, cmd) => (ret, { be with mob := some mob }, cmd)

/-- `vmw_ttm_unbind` from `VMW_PL_MOB`. A failed reservation is written through. -/
def vmwTtmUnbind (mode : MapMode) (be : VmwTtmBackend a) (fifo : Bool) : Option (VmwTtmBackend a) :=
  if be.mob.isNone ∨ ¬ fifo then none
  else some (if mode = .mapBind then vmwTtmUnmapDma be else be)

def vmwTtmClear (be : VmwTtmBackend a) : VmwTtmBackend a :=
  { vmwTtmUnmapDma be with mob := none, pages := none }

/-- `vmw_ttm_populate`, which TTM calls on an unpopulated backend. -/
def vmwTtmPopulate (be : VmwTtmBackend a) (pages : List (DmaAddr a)) : Option (VmwTtmBackend a) :=
  if be.pages.isNone then some { be with pages := some pages } else none

def vmwTtmCreate : VmwTtmBackend a :=
  { pages := none, mob := none, vsgt := vmwSgTable [], mapped := false }

inductive Action (a : Arch)
  | populate (pages : List (DmaAddr a))
  | bind (b : BindRequest a)
  | unbind (fifo : Bool)
  | clear

def step (mode : MapMode) (be : VmwTtmBackend a) : Action a → Option (VmwTtmBackend a)
  | .populate pages => vmwTtmPopulate be pages
  | .bind b => (vmwTtmBind mode be b).map (fun r => r.2.1)
  | .unbind fifo => vmwTtmUnbind mode be fifo
  | .clear => some (vmwTtmClear be)

end Vmwgfx.Mob
