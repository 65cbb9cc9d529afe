import Mathlib.Data.List.FinRange
import Vmwgfx.Lib.Uint
import Vmwgfx.Mob.Iter

/-! How deep a page table gets: the sizes that `vmw_user_dmabuf_alloc` takes, the pages that
`vmw_gmrid_man_get_node` admits, and the `BUG_ON` of `vmw_mob_pt_setup`. -/

namespace Vmwgfx.Mob

open Lib

variable {a : Arch}

def EAGAIN : Int := 11

/-- A request for a user buffer, and how the steps that allocate end. -/
structure AllocRequest where
  size : UInt32
  kzalloc : Bool
  memGlobalAlloc : Int
  /-- `ttm_bo_init` after it has counted the pages. -/
  boInit : Int
  primeObjectInit : Int

/-- `bo->num_pages`; the size is an `unsigned long`. -/
def boNumPages (a : Arch) (size : Nat) : Nat := (size + PAGE_SIZE - 1) % 2 ^ wordBits a / PAGE_SIZE

/-- `vmw_user_dmabuf_alloc`: the number of pages of the new buffer. -/
def vmwUserDmabufAlloc (a : Arch) (r : AllocRequest) : Except Int Nat :=
  if ¬ r.kzalloc then .error (-ENOMEM)
  else if r.memGlobalAlloc ≠ 0 then .error r.memGlobalAlloc
  else if boNumPages a r.size.toNat = 0 then .error (-EINVAL)
  else if r.boInit ≠ 0 then .error r.boInit
  else if r.primeObjectInit ≠ 0 then .error r.primeObjectInit
  else .ok (boNumPages a r.size.toNat)

/-- `struct vmwgfx_gmrid_man`. -/
structure VmwgfxGmridMan where
  maxGmrIds : Nat
  maxGmrPages : Nat
  usedGmrPages : Nat

/-- One round of the loop over `ida_pre_get` and `ida_get_new`. -/
inductive IdaRound
  | noMemory
  | new (id : Nat)
  | failed (ret : Int)

/-- The loop; an id that is too large is no error. -/
def idaLoop (maxGmrIds : Nat) : List IdaRound → Option (Except Int Nat)
  | [] => none
  | .noMemory :: _ => some (.error (-ENOMEM))
  | .new id :: _ => some (if maxGmrIds ≤ id then .error 0 else .ok id)
  | .failed ret :: rounds => if ret = -EAGAIN then idaLoop maxGmrIds rounds else some (.error ret)

/-- `vmw_gmrid_man_get_node`: the id, or what is returned without one. -/
def vmwGmridManGetNode (gman : VmwgfxGmridMan) (numPages : Nat) (rounds : List IdaRound) :
    Option (Except Int Nat × VmwgfxGmridMan) :=
  let used := if 0 < gman.maxGmrPages then add32 gman.usedGmrPages numPages else gman.usedGmrPages
  if 0 < gman.maxGmrPages ∧ gman.maxGmrPages < used then
    some (.error 0, { gman with usedGmrPages := sub32 used numPages })
  else
    (idaLoop gman.maxGmrIds rounds).map fun
    | .error ret => (.error ret, { gman with usedGmrPages := sub32 used numPages })
    | .ok id => (.ok id, { gman with usedGmrPages := used })

/-- `vmw_mob_bind` gets to `BUG_ON(mob->pt_level > 2)`. -/
def ReachesDepthBug (mob : VmwMob a) (vsgt : VmwSgTable a) (numDataPages : Nat)
    (ptPages : Option (PtPages a)) : Prop :=
  vsgt.addrs ≠ [] ∧ numDataPages ≠ 1 ∧ vsgt.numRegions ≠ 1 ∧ mob.ptBo = none ∧
    ∃ pt, ptPages = some pt ∧ vmwMobPtLoop pt.pages 2 0 0 0 vsgt.addrs (fun _ _ => none) = none

section Loop

variable {pages data : List (DmaAddr a)}

theorem vmwMobPtLoop_zero {level save ptIter : Nat} {e : Entries} :
    vmwMobPtLoop pages 0 level save ptIter data e = none ↔ 1 < data.length := by
  unfold vmwMobPtLoop
  split <;> simp_all

/-- A round goes on to the pages of the level that it builds. -/
theorem vmwMobPtLoop_succ {left level save ptIter : Nat} {e : Entries} :
    vmwMobPtLoop pages (left + 1) level save ptIter data e = none ↔ 1 < data.length ∧
      vmwMobPtLoop pages left (level + 1) ptIter (ptIter + numPtPages a data.length)
        ((pages.drop ptIter).take (numPtPages a data.length)) (vmwMobBuildPt ptIter data e) = none := by
  rw [vmwMobPtLoop]
  split <;> simp_all

theorem numPtPages_le_one {n : Nat} (h : n ≤ 1) : numPtPages a n ≤ 1 := by
  cases a <;> simp only [numPtPages, divRoundUp, PAGE_SIZE, VMW_PPN_SIZE] <;> omega

/-- The third level is needed from the first page on that two levels do not hold. -/
theorem ptLoop_none_iff (hlen : vmwMobCalculatePtPages a data.length ≤ pages.length) :
    vmwMobPtLoop pages 2 0 0 0 data (fun _ _ => none) = none ↔ perPage a ^ 2 < data.length := by
  have hsquare : perPage a ^ 2 < data.length ↔ 1 < numPtPages a (numPtPages a data.length) := by
    rw [lt_numPtPages_iff, Nat.one_mul, lt_numPtPages_iff, Nat.pow_two]
  rw [hsquare, vmwMobPtLoop_succ, vmwMobPtLoop_succ, vmwMobPtLoop_zero, List.drop_zero, Nat.zero_add]
  rcases Nat.lt_or_ge 1 data.length with hmany | hfew
  · rw [vmwMobCalculatePtPages_step hmany] at hlen
    have hfirst : (pages.take (numPtPages a data.length)).length = numPtPages a data.length := by
      rw [List.length_take]
      omega
    rw [hfirst, List.length_take, List.length_drop]
    rcases Nat.lt_or_ge 1 (numPtPages a data.length) with hmany' | hfew'
    · rw [vmwMobCalculatePtPages_step hmany'] at hlen
      omega
    · have hone : numPtPages a (numPtPages a data.length) ≤ 1 := numPtPages_le_one hfew'
      omega
  · have hone : numPtPages a data.length ≤ 1 := numPtPages_le_one hfew
    have hone' : numPtPages a (numPtPages a data.length) ≤ 1 := numPtPages_le_one hone
    omega

end Loop

section Bind

variable {mob : VmwMob a} {vsgt : VmwSgTable a} {mobId : Nat} {ptPages : Option (PtPages a)} {fifo : Bool}

/-- With the pages that were counted the setup stops nowhere else. -/
theorem vmwMobPtSetup_none_iff {pt : PtPages a} {data : List (DmaAddr a)} (h : 1 < data.length)
    (hlen : vmwMobCalculatePtPages a data.length ≤ pt.pages.length) :
    vmwMobPtSetup mob pt data = none ↔ vmwMobPtLoop pt.pages 2 0 0 0 data (fun _ _ => none) = none := by
  unfold vmwMobPtSetup
  cases hloop : vmwMobPtLoop pt.pages 2 0 0 0 data (fun _ _ => none) with
  | none => simp
  | some r =>
    obtain ⟨level, save, e⟩ := r
    obtain ⟨-, root, hroot, -⟩ := vmwMobPtLoop_covers
      (fun hnil => by rw [hnil] at h; cases h) (fun hone => absurd h hone) (fun _ _ _ => rfl)
      (by omega) (Radix.covers_zero _) hloop
    simp [hroot]

/-- A bind that stops has reached the `BUG_ON` of the depth. -/
theorem vmwMobBind_none_iff
    (hpt : ∀ pt, ptPages = some pt → pt.pages.length = mob.numPages)
    (hmob : mob.numPages = vmwMobCalculatePtPages a vsgt.addrs.length) :
    vmwMobBind mob vsgt vsgt.addrs.length mobId ptPages fifo = none ↔
      ReachesDepthBug mob vsgt vsgt.addrs.length ptPages := by
  unfold vmwMobBind ReachesDepthBug
  cases haddrs : vsgt.addrs with
  | nil => simp
  | cons first rest =>
    have hcount : vsgt.addrs.length = (first :: rest).length := by rw [haddrs]
    rw [hcount] at hmob
    dsimp only
    rw [Option.map_eq_none_iff]
    unfold vmwMobPrepare
    by_cases hone : (first :: rest).length = 1
    · rw [if_pos hone]
      simp [hone]
    rw [if_neg hone]
    by_cases hregions : vsgt.numRegions = 1
    · rw [if_pos hregions]
      simp [hregions]
    rw [if_neg hregions]
    cases hbo : mob.ptBo with
    | some bo => simp
    | none =>
      rw [if_pos Option.isNone_none]
      cases ptPages with
      | none => simp
      | some pt =>
        have hlen := hpt pt rfl
        have hmany : 1 < (first :: rest).length := by
          rw [List.length_cons] at hone ⊢
          omega
        have hrest : rest ≠ [] := by
          rintro rfl
          exact hone rfl
        dsimp only
        rw [if_pos hlen, Option.map_eq_none_iff, haddrs, vmwMobPtSetup_none_iff hmany (by omega)]
        simp [hrest, hregions]

end Bind

section Accepted

variable {r : AllocRequest} {n : Nat}

theorem vmwUserDmabufAlloc_pages (halloc : vmwUserDmabufAlloc a r = .ok n) :
    n = boNumPages a r.size.toNat ∧ 0 < n := by
  unfold vmwUserDmabufAlloc at halloc
  split at halloc
  · cases halloc
  split at halloc
  · cases halloc
  split at halloc
  · cases halloc
  rename_i hpages
  split at halloc
  · cases halloc
  split at halloc
  · cases halloc
  · cases halloc
    exact ⟨rfl, Nat.pos_of_ne_zero hpages⟩

/-- Two levels hold every buffer of a 32-bit kernel, and a gigabyte of a 64-bit one. -/
theorem boNumPages_levels (a : Arch) (size : UInt32) :
    boNumPages a size.toNat ≤ perPage a ^ 2 ↔ a = .bits32 ∨ size.toNat ≤ 2 ^ 30 := by
  have hsize : size.toNat < 2 ^ 32 := size.toNat_lt
  cases a <;> simp [boNumPages, perPage, PAGE_SIZE, VMW_PPN_SIZE, wordBits] <;> omega

/-- The bytes of a user buffer can be counted in an `unsigned long`. -/
theorem boNumPages_word (a : Arch) (size : UInt32) :
    boNumPages a size.toNat * PAGE_SIZE < 2 ^ wordBits a := by
  have hsize : size.toNat < 2 ^ 32 := size.toNat_lt
  cases a <;> simp only [boNumPages, PAGE_SIZE, wordBits] <;> omega

variable {gman gman' : VmwgfxGmridMan} {rounds : List IdaRound} {id : Nat}

/-- What gets an id is within the limit, if there is one. -/
theorem vmwGmridManGetNode_pages (hused : gman.usedGmrPages + n < 2 ^ 32) (hmax : 0 < gman.maxGmrPages)
    (hnode : vmwGmridManGetNode gman n rounds = some (.ok id, gman')) :
    gman.usedGmrPages + n ≤ gman.maxGmrPages := by
  unfold vmwGmridManGetNode at hnode
  rw [if_pos hmax, add32_of_lt hused] at hnode
  dsimp only at hnode
  split at hnode
  · cases hnode
  · omega

/-- The `BUG_ON` is not reached exactly for a buffer of a 32-bit kernel or of at most a gigabyte,
for pages in one region, with an earlier page table, and when there is no memory for one. -/
theorem depth_bug_unreachable_iff {mob : VmwMob a} {addrs : List (DmaAddr a)} {ptPages : Option (PtPages a)}
    (halloc : vmwUserDmabufAlloc a r = .ok n) (haddrs : addrs.length = n)
    (hmob : mob.numPages = (Word.vmwMobCreate a n).numPages)
    (hpt : ∀ pt, ptPages = some pt → pt.pages.length = mob.numPages) :
    ¬ ReachesDepthBug mob (vmwSgTable addrs) n ptPages ↔
      (a = .bits32 ∨ r.size.toNat ≤ 2 ^ 30) ∨ (vmwSgTable addrs).numRegions = 1 ∨ mob.ptBo.isSome ∨
        ptPages = none := by
  obtain ⟨hpages, hpos⟩ := vmwUserDmabufAlloc_pages halloc
  have hnum : mob.numPages = vmwMobCalculatePtPages a n := by
    rw [hmob, hpages]
    exact word_calculatePtPages_eq (boNumPages_word a r.size)
  rw [← boNumPages_levels, ← hpages]
  have hne : addrs ≠ [] := by
    rintro rfl
    rw [List.length_nil] at haddrs
    omega
  -- one page needs no table at all
  have hone : n = 1 → n ≤ perPage a ^ 2 := by
    rintro rfl
    exact Nat.one_le_pow _ _ (perPage_pos a)
  unfold ReachesDepthBug
  cases ptPages with
  | none => simp
  | some pt =>
    have hlen := hpt pt rfl
    have hloop : vmwMobPtLoop pt.pages 2 0 0 0 addrs (fun _ _ => none) = none ↔ perPage a ^ 2 < addrs.length :=
      ptLoop_none_iff (by rw [haddrs]; omega)
    rw [haddrs] at hloop
    cases hbo : mob.ptBo with
    | some bo => simp
    | none =>
      simp [vmwSgTable, hne, hloop]
      tauto

end Accepted

section Example

private theorem scatteredPage_lt {n : Nat} (h : n ≤ 2 ^ 20) (i : Fin n) :
    2 * i.val * PAGE_SIZE + PAGE_SIZE < 2 ^ addrBits .bits64 := by
  have hi := i.isLt
  simp only [PAGE_SIZE, addrBits]
  omega

/-- Every other page. -/
@[irreducible] private def scattered (n : Nat) (h : n ≤ 2 ^ 20) : List (DmaAddr .bits64) :=
  List.ofFn fun i : Fin n => ⟨2 * i.val * PAGE_SIZE, Nat.dvd_mul_left _ _, scatteredPage_lt h i⟩

private theorem length_scattered {n : Nat} (h : n ≤ 2 ^ 20) : (scattered n h).length = n := by
  unfold scattered
  exact List.length_ofFn

private theorem nodup_scattered {n : Nat} (h : n ≤ 2 ^ 20) : (scattered n h).Nodup := by
  unfold scattered
  apply List.nodup_ofFn.mpr
  intro i j heq
  have hval : 2 * i.val * PAGE_SIZE = 2 * j.val * PAGE_SIZE := congrArg DmaAddr.val heq
  simp only [PAGE_SIZE] at hval
  omega

private theorem countRegions_scattered {n : Nat} (h : n + 2 ≤ 2 ^ 20) :
    (vmwSgTable (scattered (n + 2) h)).numRegions ≠ 1 := by
  simp [vmwSgTable, scattered, List.ofFn_succ, countRegions, PAGE_SIZE]

private def ptPages (n : Nat) (h : n ≤ 2 ^ 20) : PtPages .bits64 := ⟨scattered n h, nodup_scattered h⟩

private theorem length_ptPages {n : Nat} (h : n ≤ 2 ^ 20) : (ptPages n h).pages.length = n :=
  length_scattered h

private def allocRequest (size : UInt32) : AllocRequest :=
  { size, kzalloc := true, memGlobalAlloc := 0, boInit := 0, primeObjectInit := 0 }

private theorem allocRequest_ok {size : UInt32} (h : 0 < size.toNat) :
    vmwUserDmabufAlloc .bits64 (allocRequest size) = .ok (boNumPages .bits64 size.toNat) := by
  have hsize : size.toNat < 2 ^ 32 := size.toNat_lt
  have hpages : boNumPages .bits64 size.toNat ≠ 0 := by
    simp only [boNumPages, PAGE_SIZE, wordBits]
    omega
  simp [vmwUserDmabufAlloc, allocRequest, hpages]

/-- The device suggests four gigabytes for guest-backed objects. -/
private def gman : VmwgfxGmridMan := { maxGmrIds := 53040, maxGmrPages := 2 ^ 20, usedGmrPages := 0 }

private theorem getNode_gman {n : Nat} (h : n ≤ 2 ^ 20) :
    vmwGmridManGetNode gman n [.new 0] = some (.ok 0, { gman with usedGmrPages := n }) := by
  have hused : add32 0 n = n := by
    rw [add32_of_lt (by omega), Nat.zero_add]
  have hmax : ¬ 2 ^ 20 < n := by omega
  simp [vmwGmridManGetNode, gman, idaLoop, hused] at hmax ⊢
  omega

/-- A buffer of a gigabyte and one byte is allocated, gets its id, and its page table stops the
kernel. -/
theorem depth_bug_reached :
    vmwUserDmabufAlloc .bits64 (allocRequest 1073741825) = .ok 262145 ∧
      vmwGmridManGetNode gman 262145 [.new 0] = some (.ok 0, { gman with usedGmrPages := 262145 }) ∧
      (ptPages 516 (by decide)).pages.length = (Word.vmwMobCreate .bits64 262145).numPages ∧
      ReachesDepthBug (Word.vmwMobCreate .bits64 262145)
        (vmwSgTable (scattered 262145 (by decide))) 262145 (some (ptPages 516 (by decide))) := by
  have hlen : 516 = (Word.vmwMobCreate .bits64 262145).numPages := by decide +kernel
  have hcount : vmwMobCalculatePtPages .bits64 262145 ≤ 516 := by decide +kernel
  have hregions : (vmwSgTable (scattered (262143 + 2) (by decide))).numRegions ≠ 1 :=
    countRegions_scattered (by decide)
  refine ⟨allocRequest_ok (by decide), getNode_gman (by decide), (length_ptPages _).trans hlen, ?_, by omega, hregions, rfl, _, rfl, ?_⟩
  · intro hnil
    have hzero : (scattered 262145 (by decide)).length = 0 := congrArg List.length hnil
    rw [length_scattered] at hzero
    omega
  · refine (ptLoop_none_iff ?_).mpr ?_
    · rw [length_ptPages, vmwSgTable, length_scattered]
      exact hcount
    · simp only [vmwSgTable, length_scattered]
      decide

/-- A gigabyte of scattered pages is bound. -/
theorem depth_bug_unreachable_gigabyte :
    ¬ ReachesDepthBug (Word.vmwMobCreate .bits64 262144) (vmwSgTable (scattered 262144 (by decide)))
      262144 (some (ptPages 513 (by decide))) := by
  have halloc : vmwUserDmabufAlloc .bits64 (allocRequest 1073741824) = .ok 262144 := allocRequest_ok (by decide)
  have hsize : (allocRequest 1073741824).size.toNat ≤ 2 ^ 30 := Nat.le_refl _
  have hlen : 513 = (Word.vmwMobCreate .bits64 262144).numPages := by decide +kernel
  have hpt : ∀ pt, some (ptPages 513 (by decide)) = some pt →
      pt.pages.length = (Word.vmwMobCreate .bits64 262144).numPages := by
    intro pt hpt
    cases hpt
    exact (length_ptPages _).trans hlen
  have hiff := @depth_bug_unreachable_iff .bits64 (allocRequest 1073741824) 262144 (Word.vmwMobCreate .bits64 262144)
    (scattered 262144 (by decide)) (some (ptPages 513 (by decide))) halloc (length_scattered _) rfl hpt
  exact hiff.mpr (.inl (.inr hsize))

end Example

end Vmwgfx.Mob
