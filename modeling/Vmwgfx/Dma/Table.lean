import Vmwgfx.Lib.Runs

/-! Scatter-gather tables and the page iterator, from `vmwgfx_compat.c` and `vmwgfx_buffer.c`. -/

namespace Vmwgfx.Dma

open Vmwgfx.Lib

def PAGE_SIZE : Nat := 4096

/-- `struct scatterlist`. -/
structure SgEntry where
  /-- The number of the first page. -/
  page : Nat
  offset : Nat
  length : Nat
  dmaAddress : Nat

section Table

/-- The first loop of `sg_alloc_table_from_pages`. -/
def countChunks : List Nat → Nat
  | p :: q :: rest => (if q ≠ p + 1 then 1 else 0) + countChunks (q :: rest)
  | _ => 1

/-- The search for the end of the current chunk. -/
def chunkLen : List Nat → Nat
  | p :: q :: rest => if q ≠ p + 1 then 1 else 1 + chunkLen (q :: rest)
  | _ => 1

/-- The loop over the entries, with `offset` zero; without pages it reads what is not there. -/
def fillEntries : Nat → List Nat → Nat → List SgEntry
  | 0, _, _ => []
  | n + 1, pages, size =>
    let chunkSize := chunkLen pages * PAGE_SIZE % 2 ^ 32
    ⟨pages.headD 0, 0, min size chunkSize, 0⟩ ::
      fillEntries n (pages.drop (chunkLen pages)) ((size + 2 ^ 64 - chunkSize) % 2 ^ 64)

/-- `sg_alloc_table_from_pages`, whose `n_pages` is an `unsigned int`, when `sg_alloc_table` finds memory. -/
def sgAllocTableFromPages (pages : List Nat) (numPages size : Nat) : List SgEntry :=
  let pages := pages.take (numPages % 2 ^ 32)
  fillEntries (countChunks pages) pages size

end Table

section Iterator

def sgPageCount (e : SgEntry) : Nat := ((e.offset + e.length) % 2 ^ 32 + PAGE_SIZE - 1) % 2 ^ 32 / PAGE_SIZE

/-- `struct sg_page_iter`. -/
structure SgPageIter where
  /-- The entries from `sg` on. -/
  sg : List SgEntry
  sgPgoffset : Nat
  nents : Nat
  pgAdvance : Nat

def sgPageIterStart (sglist : List SgEntry) (nents pgoffset : Nat) : SgPageIter := ⟨sglist, pgoffset, nents, 0⟩

/-- The loop of `__sg_page_iter_next`. -/
def skipEntries : List SgEntry → Nat → Nat → Option SgPageIter
  | [], _, _ => none
  | e :: sg, sgPgoffset, nents =>
    if sgPageCount e ≤ sgPgoffset then
      if nents - 1 = 0 || sg.isEmpty then none else skipEntries sg (sgPgoffset - sgPageCount e) (nents - 1)
    else
      some ⟨e :: sg, sgPgoffset, nents, 1⟩

/-- `__sg_page_iter_next`. -/
def SgPageIter.next (it : SgPageIter) : Option SgPageIter :=
  if it.nents = 0 || it.sg.isEmpty then none else skipEntries it.sg (it.sgPgoffset + it.pgAdvance) it.nents

/-- The address of a page of the entry; the shift is one of 32 bits. -/
def SgEntry.addr (e : SgEntry) (off : Nat) : Nat := (e.dmaAddress + off * PAGE_SIZE % 2 ^ 32) % 2 ^ 64

/-- `sg_page_iter_dma_address`. -/
def SgPageIter.dmaAddress (it : SgPageIter) : Nat :=
  match it.sg with
  | [] => 0
  | e :: _ => e.addr it.sgPgoffset

inductive VmwDmaMapMode
  | phys
  | allocCoherent
  | mapPopulate
  | mapBind
  deriving DecidableEq

/-- `struct vmw_sg_table`. -/
structure VmwSgTable where
  mode : VmwDmaMapMode
  pages : List Nat
  addrs : Option (Nat → Nat)
  sgl : List SgEntry
  origNents : Nat
  numPages : Nat

/-- `struct vmw_piter`. -/
structure VmwPiter where
  table : VmwSgTable
  i : Nat
  iter : SgPageIter

def vmwPiterStart (vsgt : VmwSgTable) (pOffset : Nat) : VmwPiter :=
  ⟨vsgt, (pOffset + 2 ^ 64 - 1) % 2 ^ 64, sgPageIterStart vsgt.sgl vsgt.origNents pOffset⟩

/-- `vmw_piter_next`. -/
def VmwPiter.next (it : VmwPiter) : Option VmwPiter :=
  match it.table.mode with
  | .phys | .allocCoherent =>
    let i := (it.i + 1) % 2 ^ 64
    if i < it.table.numPages then some { it with i := i } else none
  | .mapPopulate | .mapBind => it.iter.next.map fun iter => { it with iter := iter }

/-- `vmw_piter_dma_addr`; `none` is a read through `NULL` or past the pages. -/
def VmwPiter.dmaAddr (it : VmwPiter) : Option Nat :=
  match it.table.mode with
  | .phys => it.table.pages[it.i]?.map fun p => p * PAGE_SIZE % 2 ^ 64
  | .allocCoherent => it.table.addrs.map fun addrs => addrs it.i
  | .mapPopulate | .mapBind => some it.iter.dmaAddress

/-- The addresses that the iterator yields, if it comes to an end. -/
def VmwPiter.walk : Nat → VmwPiter → Option (List Nat)
  | 0, _ => none
  | fuel + 1, it =>
    match it.next with
    | none => some []
    | some it => do
      let cur ← it.dmaAddr
      let rest ← walk fuel it
      return cur :: rest

/-- The loop of `vmw_ttm_map_dma` over the addresses. -/
def numRegions : Nat → List Nat → Nat
  | _, [] => 0
  | old, cur :: rest => (if cur ≠ (old + PAGE_SIZE) % 2 ^ 64 then 1 else 0) + numRegions cur rest

end Iterator

section Laws

/-- The next page number. -/
def nextPage (p q : Nat) : Bool := q == p + 1

theorem nextPage_iff {p q : Nat} : nextPage p q = true ↔ q = p + 1 := beq_iff_eq

theorem countChunks_eq {pages : List Nat} (hne : pages ≠ []) : countChunks pages = (pages.splitBy nextPage).length := by
  induction pages with
  | nil => exact absurd rfl hne
  | cons p rest ih =>
    cases rest with
    | nil => rfl
    | cons q rest =>
      have ih := ih (List.cons_ne_nil q rest)
      unfold countChunks
      rw [ih]
      cases hr : nextPage p q with
      | true =>
        obtain ⟨g, gs, hsplit⟩ := List.exists_cons_of_ne_nil (List.splitBy_ne_nil.mpr (List.cons_ne_nil q rest))
        rw [splitBy_cons_of_rel hr hsplit, hsplit, if_neg (not_not.mpr (nextPage_iff.mp hr)), Nat.zero_add]
        rfl
      | false =>
        have hne : q ≠ p + 1 := fun heq => Bool.false_ne_true (hr.symm.trans (nextPage_iff.mpr heq))
        rw [splitBy_cons_of_not hr, if_pos hne, List.length_cons, Nat.add_comm]

theorem countChunks_ne_zero (pages : List Nat) : countChunks pages ≠ 0 := by
  by_cases hne : pages = []
  · rw [hne]
    exact Nat.one_ne_zero
  · rw [countChunks_eq hne]
    exact fun hzero => hne (List.splitBy_eq_nil.mp (List.eq_nil_of_length_eq_zero hzero))

theorem chunkLen_eq {pages g : List Nat} {gs : List (List Nat)} (hsplit : pages.splitBy nextPage = g :: gs) :
    chunkLen pages = g.length := by
  induction pages generalizing g gs with
  | nil => cases hsplit
  | cons p rest ih =>
    cases rest with
    | nil =>
      rw [List.splitBy_of_isChain (List.cons_ne_nil p []) (List.isChain_singleton p)] at hsplit
      cases hsplit
      rfl
    | cons q rest =>
      unfold chunkLen
      cases hr : nextPage p q with
      | true =>
        obtain ⟨g', gs', hrest⟩ := List.exists_cons_of_ne_nil (List.splitBy_ne_nil.mpr (List.cons_ne_nil q rest))
        rw [splitBy_cons_of_rel hr hrest] at hsplit
        cases hsplit
        rw [if_neg (not_not.mpr (nextPage_iff.mp hr)), ih hrest, List.length_cons, Nat.add_comm]
      | false =>
        have hne : q ≠ p + 1 := fun heq => Bool.false_ne_true (hr.symm.trans (nextPage_iff.mpr heq))
        rw [splitBy_cons_of_not hr] at hsplit
        cases hsplit
        exact if_pos hne

/-- The entries of the runs. -/
def runEntries : List (List Nat) → Nat → List SgEntry
  | [], _ => []
  | g :: gs, size =>
    let chunkSize := g.length * PAGE_SIZE % 2 ^ 32
    ⟨g.headD 0, 0, min size chunkSize, 0⟩ :: runEntries gs ((size + 2 ^ 64 - chunkSize) % 2 ^ 64)

theorem length_runEntries (gs : List (List Nat)) (size : Nat) : (runEntries gs size).length = gs.length := by
  induction gs generalizing size with
  | nil => rfl
  | cons g gs ih => exact congrArg Nat.succ (ih _)

theorem fillEntries_eq {pages : List Nat} {gs : List (List Nat)} (hsplit : pages.splitBy nextPage = gs) (size : Nat) :
    fillEntries gs.length pages size = runEntries gs size := by
  induction gs generalizing pages size with
  | nil => rfl
  | cons g gs ih =>
    obtain ⟨hpages, htail⟩ := splitBy_tail hsplit
    have hg : g ≠ [] := List.ne_nil_of_mem_splitBy (hsplit ▸ List.mem_cons_self)
    have hhead : pages.headD 0 = g.headD 0 := by
      obtain ⟨c, g', rfl⟩ := List.exists_cons_of_ne_nil hg
      rw [hpages]
      rfl
    have hdrop : pages.drop g.length = gs.flatten := by
      rw [hpages]
      exact List.drop_left
    rw [List.length_cons]
    unfold fillEntries runEntries
    dsimp only
    rw [chunkLen_eq hsplit, hhead, hdrop, ih htail]

/-- One entry for each run of the pages. -/
theorem sgAllocTable_eq {pages : List Nat} (hne : pages ≠ []) (hlen : pages.length < 2 ^ 32) (size : Nat) :
    sgAllocTableFromPages pages pages.length size = runEntries (pages.splitBy nextPage) size := by
  unfold sgAllocTableFromPages
  dsimp only
  rw [Nat.mod_eq_of_lt hlen, List.take_length, countChunks_eq hne]
  exact fillEntries_eq rfl size

theorem sgPageCount_run (page size n : Nat) :
    sgPageCount ⟨page, 0, min size (n * PAGE_SIZE % 2 ^ 32), 0⟩ ≤ n % 2 ^ 20 := by
  unfold sgPageCount PAGE_SIZE
  dsimp only
  have hmin := Nat.min_le_right size (n * 4096 % 2 ^ 32)
  omega

theorem sgPageCount_full {page size n : Nat} (hsize : n * PAGE_SIZE ≤ size) (hn : n < 2 ^ 20) :
    sgPageCount ⟨page, 0, min size (n * PAGE_SIZE % 2 ^ 32), 0⟩ = n := by
  unfold sgPageCount PAGE_SIZE at *
  dsimp only
  rw [Nat.mod_eq_of_lt (show n * 4096 < 2 ^ 32 by omega), Nat.min_eq_right hsize]
  omega

/-- The pages of an entry, as the iterator goes through them. -/
def SgEntry.addrs (e : SgEntry) : List Nat := (List.range (sgPageCount e)).map e.addr

@[simp] theorem SgEntry.length_addrs (e : SgEntry) : e.addrs.length = sgPageCount e := by
  simp [SgEntry.addrs]

theorem SgEntry.drop_addrs (e : SgEntry) {off : Nat} (hoff : off < sgPageCount e) :
    e.addrs.drop off = e.addr off :: e.addrs.drop (off + 1) := by
  have hlt : off < e.addrs.length := by rwa [e.length_addrs]
  rw [List.drop_eq_getElem_cons hlt]
  congr 1
  simp [SgEntry.addrs]

def allAddrs (sg : List SgEntry) : List Nat := sg.flatMap SgEntry.addrs

theorem length_allAddrs (sg : List SgEntry) : (allAddrs sg).length = (sg.map sgPageCount).sum := by
  unfold allAddrs
  rw [List.length_flatMap]
  congr 1
  exact List.map_congr_left fun e _ => e.length_addrs

/-- What is left to yield. -/
def SgPageIter.rest (it : SgPageIter) : List Nat := (allAddrs it.sg).drop (it.sgPgoffset + it.pgAdvance)

theorem skipEntries_spec (sg : List SgEntry) (off : Nat) :
    match skipEntries sg off sg.length with
    | none => (allAddrs sg).drop off = []
    | some it => (allAddrs sg).drop off = it.dmaAddress :: it.rest ∧ it.nents = it.sg.length := by
  induction sg generalizing off with
  | nil => exact List.drop_nil
  | cons e sg ih =>
    have hall : (allAddrs (e :: sg)).drop off =
        e.addrs.drop off ++ (allAddrs sg).drop (off - sgPageCount e) := by
      unfold allAddrs
      rw [List.flatMap_cons, List.drop_append, e.length_addrs]
    unfold skipEntries
    rw [hall, List.length_cons, Nat.add_sub_cancel]
    split
    case h_1 hnone =>
      split at hnone
      case isTrue hle =>
        rw [List.drop_eq_nil_of_le (by rwa [e.length_addrs]), List.nil_append]
        split at hnone
        case isTrue hend =>
          have hnil : sg = [] := by
            cases sg with
            | nil => rfl
            | cons e' sg => simp at hend
          rw [hnil]
          exact List.drop_nil
        case isFalse =>
          have ih := ih (off - sgPageCount e)
          rw [hnone] at ih
          exact ih
      case isFalse => cases hnone
    case h_2 it hsome =>
      split at hsome
      case isTrue hle =>
        rw [List.drop_eq_nil_of_le (by rwa [e.length_addrs]), List.nil_append]
        split at hsome
        case isTrue => cases hsome
        case isFalse =>
          have ih := ih (off - sgPageCount e)
          rw [hsome] at ih
          exact ih
      case isFalse hlt =>
        cases hsome
        have hlt := Nat.not_le.mp hlt
        refine ⟨?_, rfl⟩
        rw [e.drop_addrs hlt, Nat.sub_eq_zero_of_le (Nat.le_of_lt hlt)]
        unfold SgPageIter.rest allAddrs
        dsimp only
        rw [List.flatMap_cons, List.drop_append, e.length_addrs, Nat.sub_eq_zero_of_le hlt]
        rfl

theorem SgPageIter.next_spec {it : SgPageIter} (hnents : it.nents = it.sg.length) :
    match it.next with
    | none => it.rest = []
    | some it' => it.rest = it'.dmaAddress :: it'.rest ∧ it'.nents = it'.sg.length := by
  unfold SgPageIter.next
  by_cases hnil : it.sg = []
  · rw [hnil]
    simp [SgPageIter.rest, hnil, allAddrs]
  · have hlen : it.sg.length ≠ 0 := fun h => hnil (List.eq_nil_of_length_eq_zero h)
    rw [hnents, if_neg (by simp [hnil, hlen])]
    exact skipEntries_spec it.sg (it.sgPgoffset + it.pgAdvance)

/-- A run of pages shorter than `2 ^ 20` keeps its length. -/
theorem counts_runEntries {gs : List (List Nat)} {size : Nat} (hsize : gs.flatten.length * PAGE_SIZE ≤ size)
    (hlt : size < 2 ^ 64) (hgs : ∀ g ∈ gs, g.length < 2 ^ 20) :
    (runEntries gs size).map sgPageCount = gs.map List.length := by
  induction gs generalizing size with
  | nil => rfl
  | cons g gs ih =>
    have hg := hgs g List.mem_cons_self
    rw [List.flatten_cons, List.length_append, Nat.add_mul] at hsize
    have hchunk : g.length * PAGE_SIZE % 2 ^ 32 = g.length * PAGE_SIZE := by
      unfold PAGE_SIZE
      omega
    have hrest : (size + 2 ^ 64 - g.length * PAGE_SIZE) % 2 ^ 64 = size - g.length * PAGE_SIZE := by omega
    unfold runEntries
    dsimp only
    rw [List.map_cons, List.map_cons, sgPageCount_full (by omega) hg, hchunk, hrest,
      ih (by omega) (by omega) fun g hg => hgs g (List.mem_cons_of_mem _ hg)]

/-- No entry has more pages than its run. -/
theorem counts_le (gs : List (List Nat)) (size : Nat) :
    ((runEntries gs size).map sgPageCount).sum ≤ (gs.map fun g => g.length % 2 ^ 20).sum := by
  induction gs generalizing size with
  | nil => exact Nat.le_refl 0
  | cons g gs ih =>
    unfold runEntries
    dsimp only
    rw [List.map_cons, List.map_cons, List.sum_cons, List.sum_cons]
    exact Nat.add_le_add (sgPageCount_run _ _ _) (ih _)

/-- The pages of the table, if it holds all of them. -/
theorem sum_counts {pages : List Nat} (hlen : pages.length < 2 ^ 32)
    (hruns : ∀ g ∈ pages.splitBy nextPage, g.length < 2 ^ 20) :
    ((sgAllocTableFromPages pages pages.length (pages.length * PAGE_SIZE % 2 ^ 64)).map sgPageCount).sum =
      pages.length := by
  have hmod : pages.length * PAGE_SIZE % 2 ^ 64 = pages.length * PAGE_SIZE := by
    unfold PAGE_SIZE
    omega
  by_cases hne : pages = []
  · rw [hne]
    rfl
  · rw [hmod, sgAllocTable_eq hne hlen, counts_runEntries _ _ hruns, sum_length_splitBy]
    · rw [List.flatten_splitBy]
    · unfold PAGE_SIZE
      omega

/-- Only then. -/
theorem sum_counts_eq {pages : List Nat} {size : Nat}
    (hsum : ((sgAllocTableFromPages pages pages.length size).map sgPageCount).sum = pages.length) :
    pages.length < 2 ^ 32 ∧ ∀ g ∈ pages.splitBy nextPage, g.length < 2 ^ 20 := by
  have hle (l : List Nat) : ((l.splitBy nextPage).map fun g => g.length % 2 ^ 20).sum ≤ l.length := by
    rw [← sum_length_splitBy nextPage l]
    exact List.sum_le_sum fun g _ => Nat.mod_le _ _
  by_cases hlen : pages.length < 2 ^ 32
  · refine ⟨hlen, ?_⟩
    by_cases hne : pages = []
    · rw [hne]
      exact fun g hg => absurd hg List.not_mem_nil
    rw [sgAllocTable_eq hne hlen] at hsum
    have hmods := counts_le (pages.splitBy nextPage) size
    have hsame := eq_of_sum_eq (f := fun g : List Nat => g.length % 2 ^ 20) (g := List.length)
      (fun g _ => Nat.mod_le _ _) (Nat.le_antisymm (List.sum_le_sum fun g _ => Nat.mod_le _ _)
        (by rw [sum_length_splitBy]; exact Nat.le_trans (Nat.le_of_eq hsum.symm) hmods))
    intro g hg
    have hg := hsame g hg
    omega
  · exfalso
    unfold sgAllocTableFromPages at hsum
    dsimp only at hsum
    generalize htake : pages.take (pages.length % 2 ^ 32) = taken at hsum
    have htaken : taken.length = pages.length % 2 ^ 32 := by
      rw [← htake, List.length_take]
      omega
    by_cases hne : taken = []
    · rw [hne] at hsum
      have hone : ((fillEntries (countChunks []) [] size).map sgPageCount).sum ≤ 1 := by
        refine Nat.le_trans ?_ (Nat.le_of_eq (Nat.mod_eq_of_lt (show 1 < 2 ^ 20 by decide)))
        exact Nat.le_trans (Nat.le_of_eq (Nat.add_zero _)) (sgPageCount_run 0 size 1)
      omega
    · rw [countChunks_eq hne, fillEntries_eq rfl] at hsum
      have hbound := Nat.le_trans (counts_le (taken.splitBy nextPage) size) (hle taken)
      omega

end Laws

section Walk

variable {it : VmwPiter} {fuel : Nat}

/-- The iterator over a table goes through all its entries. -/
theorem walk_sg (hmode : it.table.mode = .mapPopulate ∨ it.table.mode = .mapBind)
    (hnents : it.iter.nents = it.iter.sg.length) (hfuel : it.iter.rest.length < fuel) :
    it.walk fuel = some it.iter.rest := by
  induction fuel generalizing it with
  | zero => exact absurd hfuel (Nat.not_lt_zero _)
  | succ fuel ih =>
    have hspec := SgPageIter.next_spec hnents
    have hnext : it.next = it.iter.next.map fun iter => { it with iter := iter } := by
      unfold VmwPiter.next
      rcases hmode with hmode | hmode
      · rw [hmode]
      · rw [hmode]
    unfold VmwPiter.walk
    rw [hnext]
    cases hiter : it.iter.next with
    | none =>
      rw [hiter] at hspec
      rw [hspec]
      rfl
    | some iter =>
      rw [hiter] at hspec
      obtain ⟨hrest, hnents'⟩ := hspec
      rw [hrest, List.length_cons] at hfuel
      have haddr : VmwPiter.dmaAddr { it with iter := iter } = some iter.dmaAddress := by
        unfold VmwPiter.dmaAddr
        rcases hmode with hmode | hmode
        · rw [hmode]
        · rw [hmode]
      have ih := @ih { it with iter := iter } hmode hnents' (Nat.lt_of_succ_lt_succ hfuel)
      rw [Option.map_some]
      dsimp only
      rw [haddr, ih, hrest]
      rfl

/-- The iterator over the pages themselves. -/
theorem walk_phys (hmode : it.table.mode = .phys) (hnum : it.table.numPages = it.table.pages.length)
    (hlt : it.table.pages.length < 2 ^ 64) {k : Nat} (hk : k = (it.i + 1) % 2 ^ 64) (hle : k ≤ it.table.pages.length)
    (hfuel : it.table.pages.length - k < fuel) :
    it.walk fuel = some ((it.table.pages.drop k).map fun p => p * PAGE_SIZE % 2 ^ 64) := by
  induction fuel generalizing it k with
  | zero => exact absurd hfuel (Nat.not_lt_zero _)
  | succ fuel ih =>
    have hnext : it.next = if k < it.table.pages.length then some { it with i := k } else none := by
      unfold VmwPiter.next
      rw [hmode]
      dsimp only
      rw [← hk, hnum]
    unfold VmwPiter.walk
    rw [hnext]
    by_cases hin : k < it.table.pages.length
    · have haddr : VmwPiter.dmaAddr { it with i := k } = some (it.table.pages[k] * PAGE_SIZE % 2 ^ 64) := by
        unfold VmwPiter.dmaAddr
        dsimp only
        rw [hmode, List.getElem?_eq_getElem hin]
        rfl
      have ih := @ih { it with i := k } hmode hnum hlt (k + 1)
        (Nat.mod_eq_of_lt (show k + 1 < 2 ^ 64 by omega)).symm hin (by change it.table.pages.length - (k + 1) < fuel; omega)
      rw [if_pos hin]
      dsimp only
      rw [haddr, ih, List.drop_eq_getElem_cons hin]
      rfl
    · rw [if_neg hin, List.drop_eq_nil_of_le (Nat.not_lt.mp hin)]
      rfl

/-- The next device address. -/
def contiguous (a b : Nat) : Bool := b == (a + PAGE_SIZE) % 2 ^ 64

theorem numRegions_eq (old cur : Nat) (rest : List Nat) :
    numRegions old (cur :: rest) + (if cur ≠ (old + PAGE_SIZE) % 2 ^ 64 then 0 else 1) =
      ((cur :: rest).splitBy contiguous).length := by
  induction rest generalizing old cur with
  | nil =>
    rw [List.splitBy_of_isChain (List.cons_ne_nil cur []) (List.isChain_singleton cur)]
    unfold numRegions numRegions
    split <;> rfl
  | cons next rest ih =>
    have ih := ih cur next
    unfold numRegions
    cases hr : contiguous cur next with
    | true =>
      obtain ⟨g, gs, hsplit⟩ := List.exists_cons_of_ne_nil
        (List.splitBy_ne_nil (r := contiguous).mpr (List.cons_ne_nil next rest))
      have heq : next = (cur + PAGE_SIZE) % 2 ^ 64 := beq_iff_eq.mp hr
      rw [hsplit, if_neg (not_not.mpr heq), List.length_cons] at ih
      rw [splitBy_cons_of_rel hr hsplit, List.length_cons]
      split <;> omega
    | false =>
      have hne : next ≠ (cur + PAGE_SIZE) % 2 ^ 64 := fun heq => Bool.false_ne_true (hr.symm.trans (beq_iff_eq.mpr heq))
      rw [if_pos hne, Nat.add_zero] at ih
      rw [splitBy_cons_of_not hr, List.length_cons, ← ih]
      split <;> omega

/-- Page addresses never follow the value the loop starts from. -/
theorem numRegions_start {addrs : List Nat} (haligned : ∀ a ∈ addrs.head?, a % PAGE_SIZE = 0) :
    numRegions (2 ^ 64 - 1) addrs = (addrs.splitBy contiguous).length := by
  cases addrs with
  | nil => rfl
  | cons cur rest =>
    have hcur := haligned cur rfl
    have hne : cur ≠ (2 ^ 64 - 1 + PAGE_SIZE) % 2 ^ 64 := by
      rintro rfl
      revert hcur
      decide
    have heq := numRegions_eq (2 ^ 64 - 1) cur rest
    rw [if_pos hne] at heq
    exact heq

end Walk

end Vmwgfx.Dma
