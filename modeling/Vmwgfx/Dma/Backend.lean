import Mathlib.Tactic.Common
import Vmwgfx.Dma.Table
import Vmwgfx.Kernel

/-! The device mappings of a buffer's pages: `vmw_ttm_map_dma` and `vmw_ttm_unmap_dma`. -/

namespace Vmwgfx.Dma

open Vmwgfx.Lib

structure Env where
  mode : VmwDmaMapMode
  /-- `sizeof(struct sg_table)` and `sizeof(struct scatterlist)`, rounded up to powers of two. -/
  sgtSize : Nat
  sglSize : Nat

/-- Pages that an `unsigned long` counts. -/
structure Pages where
  list : List Nat
  length_lt : list.length < 2 ^ 64

inductive DmaEvent
  | map (n : Nat)
  | unmap (n : Nat)

/-- Of `struct vmw_ttm_backend`, with the TTM accounting and the calls of the DMA API. -/
structure State where
  pages : Pages
  mapped : Bool
  sgl : List SgEntry
  nents : Nat
  origNents : Nat
  numRegions : Nat
  sgAllocSize : Int
  /-- What is charged to the TTM accounting. -/
  charge : Int
  log : List DmaEvent

/-- `vmw_be->vsgt`. -/
def State.vsgt (env : Env) (s : State) : VmwSgTable :=
  { mode := env.mode, pages := s.pages.list, addrs := none, sgl := s.sgl, origNents := s.origNents
    numPages := s.pages.list.length }

/-- Consecutive entries that the DMA API maps as one. -/
structure Segment where
  entries : Nat
  addr : Nat

/-- What `dma_map_sg` does: the segments, and what it leaves in the entries that have none. -/
structure Mapping where
  segments : List Segment
  stale : List Nat

/-- The address fields of the entries. -/
def Mapping.addrs (mp : Mapping) : List Nat := mp.segments.map Segment.addr ++ mp.stale

structure Outcome where
  /-- `ttm_mem_global_alloc`. -/
  alloc : Option Errno
  /-- `sg_alloc_table`. -/
  table : Option Errno
  dmaMapSg : List SgEntry → Option Mapping

section Map

variable (env : Env) (o : Outcome)

def setAddrs (sgl : List SgEntry) (addrs : List Nat) : List SgEntry :=
  sgl.zipWith (fun e addr => { e with dmaAddress := addr }) addrs

def vmwTtmMapForDma (s : State) : Int × State :=
  match o.dmaMapSg s.sgl with
  | none => (-ENOMEM, s)
  | some mp =>
    if mp.segments.length = 0 then
      (-ENOMEM, s)
    else
      (0, { s with sgl := setAddrs s.sgl mp.addrs, nents := mp.segments.length, log := .map s.origNents :: s.log })

/-- The end of `vmw_ttm_map_dma`. -/
def countRegions (s : State) : Option (Int × State) :=
  ((vmwPiterStart (s.vsgt env) 0).walk (s.pages.list.length + (s.sgl.map sgPageCount).sum + 1)).map fun addrs =>
    (0, { s with numRegions := numRegions (2 ^ 64 - 1) addrs, mapped := true })

/-- What `vmw_ttm_map_dma` does with the result of `vmw_ttm_map_for_dma`. -/
def mapped (r : Int × State) : Option (Int × State) :=
  if r.1 ≠ 0 then
    some (r.1, { r.2 with sgl := [], charge := r.2.charge - r.2.sgAllocSize })
  else
    countRegions env r.2

/-- `sg_alloc_table_from_pages` for the pages of the backend. -/
def State.table (s : State) : List SgEntry :=
  sgAllocTableFromPages s.pages.list s.pages.list.length (s.pages.list.length * PAGE_SIZE % 2 ^ 64)

/-- The part of `vmw_ttm_map_dma` for `vmw_dma_map_bind` and `vmw_dma_map_populate`. -/
def mapTable (s : State) : Option (Int × State) :=
  let numPages := s.pages.list.length
  let sgl := s.table
  let size : Int := env.sgtSize + env.sglSize * numPages
  let s := { s with sgAllocSize := size }
  match o.alloc with
  | some e => some (e.val, s)
  | none =>
    let s := { s with charge := s.charge + size }
    match o.table with
    | some e => some (e.val, { s with charge := s.charge - s.sgAllocSize })
    | none =>
      let s := { s with sgl := sgl, nents := sgl.length, origNents := sgl.length }
      let overAlloc : Int := if s.nents < numPages then env.sglSize * (numPages - s.nents) else 0
      let s := { s with charge := s.charge - overAlloc, sgAllocSize := s.sgAllocSize - overAlloc }
      mapped env (vmwTtmMapForDma o s)

/-- `vmw_ttm_map_dma`; `none` is an access through `NULL`. -/
def vmwTtmMapDma (s : State) : Option (Int × State) :=
  if s.mapped then
    some (0, s)
  else
    match env.mode with
    | .mapBind | .mapPopulate => mapTable env o s
    | .phys | .allocCoherent => countRegions env s

def vmwTtmUnmapFromDma (s : State) : State :=
  { s with log := .unmap s.nents :: s.log, nents := s.origNents }

def vmwTtmUnmapDma (s : State) : State :=
  if !s.mapped then
    s
  else
    match env.mode with
    | .mapBind | .mapPopulate =>
      let s := vmwTtmUnmapFromDma s
      { s with sgl := [], charge := s.charge - s.sgAllocSize, mapped := false }
    | .phys | .allocCoherent => { s with mapped := false }

end Map

section Faithful

/-- The documented behaviour of `dma_map_sg`. -/
structure Mapping.Covers (mp : Mapping) (sgl : List SgEntry) : Prop where
  pos : ∀ seg ∈ mp.segments, 0 < seg.entries
  entries : (mp.segments.map Segment.entries).sum = sgl.length
  aligned : ∀ seg ∈ mp.segments, seg.addr % PAGE_SIZE = 0
  stale : mp.segments.length + mp.stale.length = sgl.length

/-- The addresses of the pages on the device: those of a segment follow each other. -/
def deviceAddrs : List SgEntry → List Segment → List Nat
  | _, [] => []
  | sgl, seg :: segs =>
    (List.range ((sgl.take seg.entries).map sgPageCount).sum).map (fun j => (seg.addr + j * PAGE_SIZE) % 2 ^ 64) ++
      deviceAddrs (sgl.drop seg.entries) segs

/-- The addresses of the pages on the device. -/
def deviceAddresses (env : Env) (o : Outcome) (s : State) : List Nat :=
  match env.mode with
  | .phys => s.pages.list.map fun p => p * PAGE_SIZE % 2 ^ 64
  | .allocCoherent => []
  | .mapBind | .mapPopulate => ((o.dmaMapSg s.table).map fun mp => deviceAddrs s.table mp.segments).getD []

/-- What holds after a mapping that succeeded. -/
structure Mapped (env : Env) (o : Outcome) (s t : State) : Prop where
  walk : ∃ fuel, (vmwPiterStart (t.vsgt env) 0).walk fuel = some (deviceAddresses env o s)
  length : (deviceAddresses env o s).length = s.pages.list.length
  regions : t.numRegions = ((deviceAddresses env o s).splitBy contiguous).length
  again : ∀ o', vmwTtmMapDma env o' t = some (0, t)
  balanced : (vmwTtmUnmapDma env t).log = s.log ∨ ∃ n, (vmwTtmUnmapDma env t).log = .unmap n :: .map n :: s.log
  charge : (vmwTtmUnmapDma env t).charge = s.charge
  once : vmwTtmUnmapDma env (vmwTtmUnmapDma env t) = vmwTtmUnmapDma env t

/-- A mapping is faithful, one that fails leaves nothing behind. -/
def Faithful (env : Env) (o : Outcome) (s : State) : Prop :=
  match vmwTtmMapDma env o s with
  | none => False
  | some (ret, t) =>
    (ret ≠ 0 → t.charge = s.charge ∧ t.mapped = false ∧ t.log = s.log) ∧ (ret = 0 → Mapped env o s t)

/-- Nothing is merged that has more than one entry, and the entries can count their pages. -/
def Countable (env : Env) (o : Outcome) (s : State) : Prop :=
  match env.mode with
  | .phys => True
  | .allocCoherent => s.pages.list = []
  | .mapBind | .mapPopulate => o.alloc = none → o.table = none → ∀ mp, o.dmaMapSg s.table = some mp →
    (∀ seg ∈ mp.segments, seg.entries = 1) ∧ s.pages.list.length < 2 ^ 32 ∧
      ∀ g ∈ s.pages.list.splitBy nextPage, g.length < 2 ^ 20

end Faithful

section Laws

variable {env : Env} {o : Outcome} {s t : State} {mp : Mapping} {sgl : List SgEntry}

theorem length_setAddrs {addrs : List Nat} (h : addrs.length = sgl.length) : (setAddrs sgl addrs).length = sgl.length := by
  unfold setAddrs
  rw [List.length_zipWith, h, Nat.min_self]

theorem counts_setAddrs {addrs : List Nat} (h : addrs.length = sgl.length) :
    (setAddrs sgl addrs).map sgPageCount = sgl.map sgPageCount := by
  induction sgl generalizing addrs with
  | nil => rfl
  | cons e sgl ih =>
    cases addrs with
    | nil => cases h
    | cons addr addrs => exact congrArg (_ :: ·) (ih (Nat.succ.inj h))

theorem Mapping.Covers.length_addrs (h : mp.Covers sgl) : mp.addrs.length = sgl.length := by
  unfold Mapping.addrs
  rw [List.length_append, List.length_map, h.stale]

theorem length_deviceAddrs {segs : List Segment} (hsum : (segs.map Segment.entries).sum = sgl.length) :
    (deviceAddrs sgl segs).length = (sgl.map sgPageCount).sum := by
  induction segs generalizing sgl with
  | nil =>
    have hnil : sgl = [] := List.eq_nil_of_length_eq_zero hsum.symm
    rw [hnil]
    rfl
  | cons seg segs ih =>
    rw [List.map_cons, List.sum_cons] at hsum
    have hdrop : (segs.map Segment.entries).sum = (sgl.drop seg.entries).length := by
      rw [List.length_drop]
      omega
    have hrest := ih hdrop
    unfold deviceAddrs
    rw [List.length_append, List.length_map, List.length_range, hrest, ← List.sum_append, ← List.map_append,
      List.take_append_drop]

/-- Without merging, every entry has the addresses of its pages. -/
theorem deviceAddrs_eq {segs : List Segment} (hone : ∀ seg ∈ segs, seg.entries = 1) (hlen : segs.length = sgl.length) :
    deviceAddrs sgl segs = allAddrs (setAddrs sgl (segs.map Segment.addr)) := by
  induction segs generalizing sgl with
  | nil =>
    have hnil : sgl = [] := List.eq_nil_of_length_eq_zero hlen.symm
    rw [hnil]
    rfl
  | cons seg segs ih =>
    cases sgl with
    | nil => cases hlen
    | cons e sgl =>
      have hrest := ih (fun seg hseg => hone seg (List.mem_cons_of_mem _ hseg)) (Nat.succ.inj hlen)
      unfold deviceAddrs
      rw [hone seg List.mem_cons_self, List.drop_one, List.tail_cons, hrest]
      refine congrArg (· ++ _) ?_
      change List.map _ (List.range ([sgPageCount e].sum)) = SgEntry.addrs { e with dmaAddress := seg.addr }
      rw [List.sum_singleton]
      refine List.map_congr_left fun j hj => ?_
      have hj : j < sgPageCount e := List.mem_range.mp hj
      unfold SgEntry.addr
      dsimp only
      rw [Nat.mod_eq_of_lt (show j * PAGE_SIZE < 2 ^ 32 from ?_)]
      unfold sgPageCount PAGE_SIZE at *
      omega

theorem Mapping.Covers.segments_of_one (h : mp.Covers sgl) (hone : ∀ seg ∈ mp.segments, seg.entries = 1) :
    mp.segments.length = sgl.length ∧ mp.stale = [] := by
  have hmap : mp.segments.map Segment.entries = mp.segments.map fun _ => 1 := List.map_congr_left hone
  have hlen : mp.segments.length = sgl.length := by
    have hsum := h.entries
    rw [hmap, List.map_const', List.sum_replicate_nat, Nat.mul_one] at hsum
    exact hsum
  exact ⟨hlen, List.eq_nil_of_length_eq_zero (by have hstale := h.stale; omega)⟩

/-- As many segments as entries: nothing has been merged. -/
theorem Mapping.Covers.one_of_segments (h : mp.Covers sgl) (hlen : mp.segments.length = sgl.length) :
    ∀ seg ∈ mp.segments, seg.entries = 1 := by
  have hsum : (mp.segments.map fun _ => 1).sum = (mp.segments.map Segment.entries).sum := by
    rw [List.map_const', List.sum_replicate_nat, Nat.mul_one, h.entries, hlen]
  intro seg hseg
  exact (eq_of_sum_eq (f := fun _ => 1) (g := Segment.entries) (fun seg hseg => h.pos seg hseg) hsum seg hseg).symm

theorem aligned_deviceAddrs {segs : List Segment} (halign : ∀ seg ∈ segs, seg.addr % PAGE_SIZE = 0) :
    ∀ a ∈ deviceAddrs sgl segs, a % PAGE_SIZE = 0 := by
  induction segs generalizing sgl with
  | nil => exact fun a ha => absurd ha List.not_mem_nil
  | cons seg segs ih =>
    intro a ha
    rcases List.mem_append.mp ha with ha | ha
    · obtain ⟨j, -, rfl⟩ := List.mem_map.mp ha
      have hseg := halign seg List.mem_cons_self
      unfold PAGE_SIZE at *
      omega
    · exact ih (fun seg hseg => halign seg (List.mem_cons_of_mem _ hseg)) a ha

section MapTable

/-- What is charged for the table first. -/
def State.sgSize (env : Env) (s : State) : Int := env.sgtSize + env.sglSize * (s.pages.list.length : Nat)

/-- What is given back again. -/
def State.overAlloc (env : Env) (s : State) : Int :=
  if s.table.length < s.pages.list.length then
    env.sglSize * ((s.pages.list.length : Nat) - (s.table.length : Nat))
  else
    0

/-- The backend with the table and its mapping. -/
def State.withMapping (env : Env) (s : State) (mp : Mapping) : State :=
  { s with
    sgl := setAddrs s.table mp.addrs, nents := mp.segments.length, origNents := s.table.length
    sgAllocSize := s.sgSize env - s.overAlloc env, charge := s.charge + s.sgSize env - s.overAlloc env
    log := .map s.table.length :: s.log }

theorem ENOMEM_ne : (-ENOMEM : Int) ≠ 0 := by decide

/-- The mapping goes through. -/
def Reached (o : Outcome) (s : State) (mp : Mapping) : Prop :=
  o.alloc = none ∧ o.table = none ∧ o.dmaMapSg s.table = some mp ∧ mp.segments ≠ []

theorem mapForDma_some (hdma : o.dmaMapSg s.sgl = some mp) (hne : mp.segments ≠ []) :
    vmwTtmMapForDma o s = (0, { s with
      sgl := setAddrs s.sgl mp.addrs, nents := mp.segments.length, log := .map s.origNents :: s.log }) := by
  unfold vmwTtmMapForDma
  rw [hdma]
  exact if_neg fun hzero => hne (List.eq_nil_of_length_eq_zero hzero)

theorem mapForDma_none (h : ∀ mp, o.dmaMapSg s.sgl = some mp → mp.segments = []) :
    vmwTtmMapForDma o s = (-ENOMEM, s) := by
  unfold vmwTtmMapForDma
  cases hdma : o.dmaMapSg s.sgl with
  | none => rfl
  | some mp => exact if_pos (by rw [h mp hdma]; rfl)

theorem mapTable_reached (h : Reached o s mp) : mapTable env o s = countRegions env (s.withMapping env mp) := by
  obtain ⟨halloc, htable, hdma, hne⟩ := h
  unfold mapTable
  rw [halloc, htable]
  dsimp only
  rw [mapForDma_some hdma hne]
  unfold mapped
  rw [if_neg (not_not.mpr rfl)]
  rfl

variable (env) in
theorem mapTable_failed (h : ∀ mp, ¬ Reached o s mp) :
    ∃ ret t, mapTable env o s = some (ret, t) ∧ ret ≠ 0 ∧ t.charge = s.charge ∧ t.mapped = s.mapped ∧ t.log = s.log := by
  unfold mapTable
  cases halloc : o.alloc with
  | some e => exact ⟨_, _, rfl, Int.ne_of_lt e.neg, rfl, rfl, rfl⟩
  | none =>
    cases htable : o.table with
    | some e => exact ⟨_, _, rfl, Int.ne_of_lt e.neg, Int.add_sub_cancel _ _, rfl, rfl⟩
    | none =>
      have hdma (mp : Mapping) (hdma : o.dmaMapSg s.table = some mp) : mp.segments = [] := by
        by_contra hne
        exact h mp ⟨halloc, htable, hdma, hne⟩
      have hcharge (size spare : Int) : s.charge + size - spare - (size - spare) = s.charge := by omega
      dsimp only
      rw [mapForDma_none hdma]
      exact ⟨_, _, if_pos ENOMEM_ne, ENOMEM_ne, hcharge _ _, rfl, rfl⟩

end MapTable

section Walk

/-- The iterator over the mapped table. -/
theorem walk_mapping (hmode : env.mode = .mapBind ∨ env.mode = .mapPopulate) (hmp : mp.Covers s.table)
    (hone : ∀ seg ∈ mp.segments, seg.entries = 1) {fuel : Nat} (hfuel : (s.table.map sgPageCount).sum < fuel) :
    (vmwPiterStart ((s.withMapping env mp).vsgt env) 0).walk fuel = some (deviceAddrs s.table mp.segments) := by
  obtain ⟨hlen, hstale⟩ := hmp.segments_of_one hone
  have haddrs : mp.addrs = mp.segments.map Segment.addr := by
    unfold Mapping.addrs
    rw [hstale, List.append_nil]
  have hrest : (vmwPiterStart ((s.withMapping env mp).vsgt env) 0).iter.rest = deviceAddrs s.table mp.segments := by
    rw [deviceAddrs_eq hone hlen, ← haddrs]
    rfl
  rw [← hrest]
  apply walk_sg
  · exact hmode.symm
  · exact (length_setAddrs hmp.length_addrs).symm
  · rw [hrest, length_deviceAddrs hmp.entries]
    exact hfuel

theorem walk_pages (hmode : env.mode = .phys) {fuel : Nat} (hfuel : s.pages.list.length < fuel) :
    (vmwPiterStart (s.vsgt env) 0).walk fuel = some (s.pages.list.map fun p => p * PAGE_SIZE % 2 ^ 64) :=
  walk_phys hmode rfl s.pages.length_lt (k := 0)
    (show 0 = ((0 + 2 ^ 64 - 1) % 2 ^ 64 + 1) % 2 ^ 64 by decide) (Nat.zero_le _) hfuel

end Walk

section Exact

/-- The modes with a table. -/
def Env.Tables (env : Env) : Prop := env.mode = .mapBind ∨ env.mode = .mapPopulate

/-- A mapping without faults. -/
theorem mapped_of_walk {addrs : List Nat} (hwalk : (vmwPiterStart (t.vsgt env) 0).walk
      (t.pages.list.length + (t.sgl.map sgPageCount).sum + 1) = some addrs)
    (haddrs : deviceAddresses env o s = addrs) (hlength : addrs.length = s.pages.list.length)
    (haligned : ∀ a ∈ addrs.head?, a % PAGE_SIZE = 0)
    (hunmap : let u := { t with numRegions := numRegions (2 ^ 64 - 1) addrs, mapped := true }
      ((vmwTtmUnmapDma env u).log = s.log ∨ ∃ n, (vmwTtmUnmapDma env u).log = .unmap n :: .map n :: s.log) ∧
        (vmwTtmUnmapDma env u).charge = s.charge) :
    ∃ u, countRegions env t = some (0, u) ∧ Mapped env o s u := by
  refine ⟨{ t with numRegions := numRegions (2 ^ 64 - 1) addrs, mapped := true }, ?_, ?_⟩
  · unfold countRegions
    rw [hwalk]
    rfl
  · refine { walk := ⟨_, hwalk.trans (congrArg some haddrs.symm)⟩, length := haddrs.symm ▸ hlength, regions := ?_
             again := fun _ => rfl, balanced := hunmap.1, charge := hunmap.2, once := ?_ }
    · rw [haddrs]
      exact numRegions_start haligned
    · have hoff : (vmwTtmUnmapDma env { t with numRegions := numRegions (2 ^ 64 - 1) addrs, mapped := true }).mapped = false := by
        unfold vmwTtmUnmapDma
        rw [Bool.not_true, if_neg Bool.false_ne_true]
        split <;> rfl
      generalize vmwTtmUnmapDma env { t with numRegions := numRegions (2 ^ 64 - 1) addrs, mapped := true } = u at hoff
      unfold vmwTtmUnmapDma
      rw [hoff]
      rfl

theorem unmap_tables (htables : env.Tables) (hmapped : t.mapped = true) :
    (vmwTtmUnmapDma env t).log = .unmap t.nents :: t.log ∧ (vmwTtmUnmapDma env t).charge = t.charge - t.sgAllocSize := by
  unfold vmwTtmUnmapDma
  rw [hmapped, Bool.not_true, if_neg Bool.false_ne_true]
  rcases htables with hmode | hmode
  · rw [hmode]
    exact ⟨rfl, rfl⟩
  · rw [hmode]
    exact ⟨rfl, rfl⟩

theorem map_tables (htables : env.Tables) (hs : s.mapped = false) : vmwTtmMapDma env o s = mapTable env o s := by
  unfold vmwTtmMapDma
  rw [hs, if_neg Bool.false_ne_true]
  rcases htables with hmode | hmode
  · rw [hmode]
  · rw [hmode]

theorem deviceAddresses_tables (htables : env.Tables) (hdma : o.dmaMapSg s.table = some mp) :
    deviceAddresses env o s = deviceAddrs s.table mp.segments := by
  unfold deviceAddresses
  rcases htables with hmode | hmode
  · rw [hmode, hdma]
    rfl
  · rw [hmode, hdma]
    rfl

theorem countable_tables (htables : env.Tables) :
    Countable env o s ↔ (o.alloc = none → o.table = none → ∀ mp, o.dmaMapSg s.table = some mp →
      (∀ seg ∈ mp.segments, seg.entries = 1) ∧ s.pages.list.length < 2 ^ 32 ∧
        ∀ g ∈ s.pages.list.splitBy nextPage, g.length < 2 ^ 20) := by
  unfold Countable
  rcases htables with hmode | hmode
  · rw [hmode]
  · rw [hmode]

theorem faithful_phys (hmode : env.mode = .phys) (hs : s.mapped = false) : Faithful env o s := by
  have hnot : ∀ t : State, t.mapped = true → vmwTtmUnmapDma env t = { t with mapped := false } := by
    intro t ht
    unfold vmwTtmUnmapDma
    rw [ht, Bool.not_true, if_neg Bool.false_ne_true, hmode]
  obtain ⟨u, hcount, hmapped⟩ := mapped_of_walk (o := o) (s := s) (t := s) (walk_pages hmode (by omega))
    (by unfold deviceAddresses; rw [hmode]) (List.length_map _) (by
      intro a ha
      obtain ⟨p, -, rfl⟩ := List.mem_map.mp (List.mem_of_mem_head? ha)
      unfold PAGE_SIZE
      omega) (by
      intro u
      rw [hnot u rfl]
      exact ⟨.inl rfl, rfl⟩)
  have hmap : vmwTtmMapDma env o s = countRegions env s := by
    unfold vmwTtmMapDma
    rw [hs, if_neg Bool.false_ne_true, hmode]
  unfold Faithful
  rw [hmap, hcount]
  exact ⟨fun hne => absurd rfl hne, fun _ => hmapped⟩

theorem next_coherent (it : VmwPiter) (hmode : it.table.mode = .allocCoherent) :
    it.next = if (it.i + 1) % 2 ^ 64 < it.table.numPages then some { it with i := (it.i + 1) % 2 ^ 64 } else none := by
  unfold VmwPiter.next
  rw [hmode]

theorem dmaAddr_coherent {it : VmwPiter} (hmode : it.table.mode = .allocCoherent) (haddrs : it.table.addrs = none) :
    it.dmaAddr = none := by
  unfold VmwPiter.dmaAddr
  rw [hmode, haddrs]
  rfl

/-- There are no coherent addresses: the first one is read through `NULL`. -/
theorem faithful_coherent (hmode : env.mode = .allocCoherent) (hs : s.mapped = false) :
    Faithful env o s ↔ s.pages.list = [] := by
  have hmap : vmwTtmMapDma env o s = countRegions env s := by
    unfold vmwTtmMapDma
    rw [hs, if_neg Bool.false_ne_true, hmode]
  have hnext : (vmwPiterStart (s.vsgt env) 0).next =
      if 0 < s.pages.list.length then some { vmwPiterStart (s.vsgt env) 0 with i := 0 } else none := by
    have hi : ((vmwPiterStart (s.vsgt env) 0).i + 1) % 2 ^ 64 = 0 :=
      show ((0 + 2 ^ 64 - 1) % 2 ^ 64 + 1) % 2 ^ 64 = 0 by decide
    have hnext := next_coherent (vmwPiterStart (s.vsgt env) 0) hmode
    rw [hi] at hnext
    exact hnext
  constructor
  · intro hfaithful
    by_contra hne
    have hpos : 0 < s.pages.list.length := List.length_pos_of_ne_nil hne
    have hwalk (fuel : Nat) : (vmwPiterStart (s.vsgt env) 0).walk fuel = none := by
      cases fuel with
      | zero => rfl
      | succ fuel =>
        have haddr : VmwPiter.dmaAddr { vmwPiterStart (s.vsgt env) 0 with i := 0 } = none :=
          dmaAddr_coherent hmode rfl
        unfold VmwPiter.walk
        rw [hnext, if_pos hpos]
        dsimp only
        rw [haddr]
        rfl
    unfold Faithful at hfaithful
    rw [hmap] at hfaithful
    unfold countRegions at hfaithful
    rw [hwalk] at hfaithful
    exact hfaithful
  · intro hnil
    have hwalk : (vmwPiterStart (s.vsgt env) 0).walk (s.pages.list.length + (s.sgl.map sgPageCount).sum + 1) = some [] := by
      unfold VmwPiter.walk
      rw [hnext, hnil]
      rfl
    obtain ⟨u, hcount, hmapped⟩ := mapped_of_walk (o := o) (s := s) hwalk
      (by unfold deviceAddresses; rw [hmode]) (by rw [hnil]) (fun a ha => by cases ha) (by
        intro u
        have hunmap : vmwTtmUnmapDma env u = { u with mapped := false } := by
          unfold vmwTtmUnmapDma
          rw [hmode]
          rfl
        rw [hunmap]
        exact ⟨.inl rfl, rfl⟩)
    unfold Faithful
    rw [hmap, hcount]
    exact ⟨fun hne => absurd rfl hne, fun _ => hmapped⟩

theorem table_ne_nil (s : State) : s.table ≠ [] := by
  unfold State.table sgAllocTableFromPages
  dsimp only
  generalize s.pages.list.take (s.pages.list.length % 2 ^ 32) = pages
  obtain ⟨n, hn⟩ := Nat.exists_eq_succ_of_ne_zero (countChunks_ne_zero pages)
  rw [hn]
  exact List.cons_ne_nil _ _

theorem faithful_tables (htables : env.Tables) (hs : s.mapped = false)
    (hdma : ∀ sgl mp, o.dmaMapSg sgl = some mp → mp.Covers sgl) : Faithful env o s ↔ Countable env o s := by
  rw [countable_tables htables]
  by_cases hreached : ∃ mp, Reached o s mp
  · obtain ⟨mp, hmp⟩ := hreached
    have hmap : vmwTtmMapDma env o s = countRegions env (s.withMapping env mp) :=
      (map_tables htables hs).trans (mapTable_reached hmp)
    have hcovers := hdma _ _ hmp.2.2.1
    have hcond : (o.alloc = none → o.table = none → ∀ mp, o.dmaMapSg s.table = some mp →
        (∀ seg ∈ mp.segments, seg.entries = 1) ∧ s.pages.list.length < 2 ^ 32 ∧
          ∀ g ∈ s.pages.list.splitBy nextPage, g.length < 2 ^ 20) ↔
        (∀ seg ∈ mp.segments, seg.entries = 1) ∧ s.pages.list.length < 2 ^ 32 ∧
          ∀ g ∈ s.pages.list.splitBy nextPage, g.length < 2 ^ 20 := by
      refine ⟨fun h => h hmp.1 hmp.2.1 mp hmp.2.2.1, fun h _ _ mp' hmp' => ?_⟩
      have heq : mp = mp' := Option.some.inj (hmp.2.2.1.symm.trans hmp')
      rw [← heq]
      exact h
    rw [hcond]
    constructor
    · intro hfaithful
      unfold Faithful at hfaithful
      rw [hmap] at hfaithful
      unfold countRegions at hfaithful
      cases hwalk : (vmwPiterStart ((s.withMapping env mp).vsgt env) 0).walk
          ((s.withMapping env mp).pages.list.length + ((s.withMapping env mp).sgl.map sgPageCount).sum + 1) with
      | none =>
        rw [hwalk] at hfaithful
        exact hfaithful.elim
      | some addrs =>
        rw [hwalk] at hfaithful
        have hmapped := hfaithful.2 rfl
        have hlength := hmapped.length
        rw [deviceAddresses_tables htables hmp.2.2.1, length_deviceAddrs hcovers.entries] at hlength
        refine ⟨hcovers.one_of_segments ?_, sum_counts_eq hlength⟩
        have hbalanced := hmapped.balanced
        rw [(unmap_tables htables rfl).1] at hbalanced
        rcases hbalanced with heq | ⟨n, heq⟩
        · have hlen := congrArg List.length heq
          change s.log.length + 1 + 1 = s.log.length at hlen
          omega
        · obtain ⟨hunmap, hrest⟩ := List.cons.inj heq
          have hn : mp.segments.length = n := DmaEvent.unmap.inj hunmap
          have hn' : s.table.length = n := DmaEvent.map.inj (List.cons.inj hrest).1
          exact hn.trans hn'.symm
    · rintro ⟨hone, hlen, hruns⟩
      have hcounts := sum_counts hlen hruns
      obtain ⟨u, hcount, hmapped⟩ := mapped_of_walk (o := o) (s := s) (t := s.withMapping env mp)
        (walk_mapping htables hcovers hone (by
          change _ < _ + ((setAddrs s.table mp.addrs).map sgPageCount).sum + 1
          rw [counts_setAddrs hcovers.length_addrs]
          omega))
        (deviceAddresses_tables htables hmp.2.2.1) ((length_deviceAddrs hcovers.entries).trans hcounts)
        (fun a ha => aligned_deviceAddrs hcovers.aligned a (List.mem_of_mem_head? ha)) (by
          intro u
          have hunmap := unmap_tables (t := u) htables rfl
          refine ⟨.inr ⟨mp.segments.length, ?_⟩, hunmap.2.trans ?_⟩
          · rw [hunmap.1]
            change .unmap mp.segments.length :: .map s.table.length :: s.log = _
            rw [(hcovers.segments_of_one hone).1]
          · change s.charge + s.sgSize env - s.overAlloc env - (s.sgSize env - s.overAlloc env) = s.charge
            omega)
      unfold Faithful
      rw [hmap, hcount]
      exact ⟨fun hne => absurd rfl hne, fun _ => hmapped⟩
  · have hnot : ∀ mp, ¬ Reached o s mp := fun mp hmp => hreached ⟨mp, hmp⟩
    obtain ⟨ret, t, hmap, hret, hcharge, hmapped, hlog⟩ := mapTable_failed env hnot
    have hfaithful : Faithful env o s := by
      unfold Faithful
      rw [map_tables htables hs, hmap]
      exact ⟨fun _ => ⟨hcharge, hmapped.trans hs, hlog⟩, fun hzero => absurd hzero hret⟩
    refine ⟨fun _ halloc htable mp hmp => absurd ⟨halloc, htable, hmp, ?_⟩ (hnot mp), fun _ => hfaithful⟩
    intro hnil
    have hentries := (hdma _ _ hmp).entries
    rw [hnil] at hentries
    exact table_ne_nil s (List.eq_nil_of_length_eq_zero hentries.symm)

/-- A mapping is faithful and balanced exactly if the DMA API merges nothing and the entries can count their pages. -/
theorem map_dma_faithful_iff (env : Env) (o : Outcome) (s : State) (hs : s.mapped = false)
    (hdma : ∀ sgl mp, o.dmaMapSg sgl = some mp → mp.Covers sgl) : Faithful env o s ↔ Countable env o s := by
  cases hmode : env.mode with
  | phys =>
    refine ⟨fun _ => ?_, fun _ => faithful_phys hmode hs⟩
    unfold Countable
    rw [hmode]
    trivial
  | allocCoherent =>
    refine (faithful_coherent hmode hs).trans ?_
    unfold Countable
    rw [hmode]
  | mapPopulate => exact faithful_tables (.inr hmode) hs hdma
  | mapBind => exact faithful_tables (.inl hmode) hs hdma

end Exact

end Laws

section Example

/-- Without an IOMMU every entry is at its physical address. -/
def directMapSg (sgl : List SgEntry) : Option Mapping :=
  some ⟨sgl.map fun e => ⟨1, e.page * PAGE_SIZE⟩, []⟩

theorem directMapSg_covers (sgl : List SgEntry) (mp : Mapping) (h : directMapSg sgl = some mp) : mp.Covers sgl := by
  cases h
  refine { pos := ?_, entries := ?_, aligned := ?_, stale := ?_ }
  · intro seg hseg
    obtain ⟨e, -, rfl⟩ := List.mem_map.mp hseg
    exact Nat.one_pos
  · rw [List.map_map]
    change (sgl.map fun _ => 1).sum = sgl.length
    rw [List.map_const', List.sum_replicate_nat, Nat.mul_one]
  · intro seg hseg
    obtain ⟨e, -, rfl⟩ := List.mem_map.mp hseg
    exact Nat.mul_mod_left _ _
  · exact (Nat.add_zero _).trans (List.length_map _)

/-- An IOMMU that maps all entries as one segment. -/
def mergingMapSg (sgl : List SgEntry) : Option Mapping :=
  match sgl with
  | [] => none
  | _ :: rest => some ⟨[⟨rest.length + 1, 65536⟩], List.replicate rest.length 0⟩

theorem mergingMapSg_covers (sgl : List SgEntry) (mp : Mapping) (h : mergingMapSg sgl = some mp) : mp.Covers sgl := by
  cases sgl with
  | nil => cases h
  | cons e rest =>
    cases h
    refine { pos := ?_, entries := ?_, aligned := ?_, stale := ?_ }
    · intro seg hseg
      rw [List.mem_singleton.mp hseg]
      exact Nat.succ_pos _
    · exact Nat.add_zero _
    · intro seg hseg
      rw [List.mem_singleton.mp hseg]
      exact (by decide : 65536 % PAGE_SIZE = 0)
    · rw [List.length_replicate, List.length_singleton, Nat.add_comm]
      rfl

def populate : Env := ⟨.mapPopulate, 16, 32⟩

/-- Two pages that do not follow each other. -/
def twoPages : State :=
  { pages := ⟨[5, 9], Nat.lt_of_sub_pos (Nat.zero_lt_succ _)⟩, mapped := false, sgl := [], nents := 0, origNents := 0
    numRegions := 0, sgAllocSize := 0, charge := 0, log := [] }

theorem map_dma_faithful_two : Countable populate ⟨none, none, directMapSg⟩ twoPages ∧
    Faithful populate ⟨none, none, directMapSg⟩ twoPages := by
  have hcountable : Countable populate ⟨none, none, directMapSg⟩ twoPages := by
    intro _ _ mp hmp
    cases hmp
    refine ⟨?_, by decide, ?_⟩
    · intro seg hseg
      obtain ⟨e, -, rfl⟩ := List.mem_map.mp hseg
      rfl
    · intro g hg
      have hg : g = [5] ∨ g = [9] := by simpa [twoPages, nextPage, List.splitBy, List.splitBy.loop] using hg
      rcases hg with rfl | rfl
      · decide
      · decide
  exact ⟨hcountable, (map_dma_faithful_iff populate _ twoPages rfl directMapSg_covers).mpr hcountable⟩

/-- The second entry has no address of its own, and the entries are unmapped with the number of segments. -/
theorem merged_unfaithful : ¬ ∀ (env : Env) (o : Outcome) (s : State), s.mapped = false →
    (∀ sgl mp, o.dmaMapSg sgl = some mp → mp.Covers sgl) → Faithful env o s := by
  intro h
  have hfaithful := h populate ⟨none, none, mergingMapSg⟩ twoPages rfl mergingMapSg_covers
  have hcountable := (faithful_tables (.inr rfl) rfl mergingMapSg_covers).mp hfaithful
  have hone := (hcountable rfl rfl _ rfl).1 _ List.mem_cons_self
  exact absurd hone (by decide)

end Example

end Vmwgfx.Dma
