import Mathlib.Data.List.Perm.Basic
import Vmwgfx.Gmr.Descriptors

/-! The DMA mappings of the descriptor pages. The address of a page is known to its predecessor
alone, as a link of 32 bits, and is shifted back in 32 bits. -/

namespace Vmwgfx.Gmr

open Lib Mob

variable {a : Arch} {req : BuildRequest} {map : Nat → Option Nat} {pages : List DescPage} {k dma : Nat}

/-- The address that a link gives back. -/
def linkAddr (addr : Nat) : Nat := addr / PAGE_SIZE % 2 ^ 32 * PAGE_SIZE % 2 ^ 32

/-- An address that a link gives back as it is, and not as `DMA_ADDR_INVALID`. -/
def Linkable (addr : Nat) : Prop := PAGE_SIZE ∣ addr ∧ addr ≠ 0 ∧ addr < 2 ^ 32

theorem linkAddr_of_linkable {addr : Nat} (h : Linkable addr) : linkAddr addr = addr := by
  obtain ⟨⟨m, rfl⟩, -, hlt⟩ := h
  simp only [linkAddr, PAGE_SIZE] at hlt ⊢
  omega

theorem linkable_linkAddr {addr : Nat} (h : linkAddr addr ≠ 0) : Linkable (linkAddr addr) := by
  refine ⟨?_, h, Nat.mod_lt _ (by decide)⟩
  simp only [linkAddr, PAGE_SIZE]
  omega

/-- What `vmw_gmr_free_descriptors` does with an address. -/
def unmapOne (addr : Nat) : List Nat := if addr ≠ 0 then [addr] else []

theorem unmapPages_cons (addr : Nat) (page : DescPage) (pages : List DescPage) :
    unmapPages addr (page :: pages) = unmapOne addr ++ unmapPages page.linked pages := rfl

theorem setLink_linked (page : DescPage) (dma : Nat) : (page.setLink (dma / PAGE_SIZE % 2 ^ 32)).linked = linkAddr dma := by
  simp [DescPage.linked, DescPage.setLink, linkAddr]

theorem linked_of_full {page : DescPage} (h : Full page) : page.linked = 0 := by
  unfold DescPage.linked
  rw [h]
  rfl

/-- Without links nothing is unmapped. -/
theorem unmapPages_full (h : ∀ page ∈ pages, Full page) : unmapPages 0 pages = [] := by
  induction pages with
  | nil => rfl
  | cons page pages ih =>
    rw [unmapPages_cons, linked_of_full (h page List.mem_cons_self), ih fun p hp => h p (List.mem_cons_of_mem _ hp)]
    rfl

/-- The addresses that the links give back. -/
def recovered (mapped : List Nat) : List Nat := mapped.flatMap fun addr => unmapOne (linkAddr addr)

/-- From a mapped page on, its own address and what the links give back. -/
theorem unmapPages_linked (hnext : (linkPages map k pages).next = some dma) :
    (pages = [] ∧ dma = 0 ∧ (linkPages map k pages).mapped = []) ∨
      ∃ tail, (linkPages map k pages).mapped = dma :: tail ∧
        ∀ addr, unmapPages addr (linkPages map k pages).pages = unmapOne addr ++ recovered tail := by
  induction pages generalizing k dma with
  | nil =>
    cases hnext
    exact .inl ⟨rfl, rfl, rfl⟩
  | cons page pages ih =>
    right
    rw [linkPages] at hnext ⊢
    cases hinner : (linkPages map (k + 1) pages).next with
    | none =>
      rw [hinner] at hnext
      cases hnext
    | some dma' =>
      rw [hinner] at hnext
      cases haddr : map k with
      | none =>
        rw [haddr] at hnext
        cases hnext
      | some addr =>
        rw [haddr] at hnext
        cases hnext
        refine ⟨_, rfl, fun addr => ?_⟩
        dsimp only
        rw [unmapPages_cons, setLink_linked]
        congr 1
        rcases ih hinner with ⟨rfl, rfl, hmapped⟩ | ⟨tail, hmapped, hunmap⟩
        · rw [hmapped]
          rfl
        · rw [hunmap, hmapped]
          rfl

/-- A failed mapping leaves the pages in front of it without a link. -/
theorem unmapPages_failed (hnext : (linkPages map k pages).next = none)
    (hfull : ∀ page ∈ pages.dropLast, Full page) :
    unmapPages 0 (linkPages map k pages).pages = recovered (linkPages map k pages).mapped := by
  induction pages generalizing k with
  | nil => cases hnext
  | cons page pages ih =>
    rw [linkPages] at hnext ⊢
    cases hinner : (linkPages map (k + 1) pages).next with
    | none =>
      have hpages : pages ≠ [] := by
        rintro rfl
        cases hinner
      rw [List.dropLast_cons_of_ne_nil hpages] at hfull
      dsimp only
      rw [unmapPages_cons, linked_of_full (hfull page List.mem_cons_self),
        ih hinner fun p hp => hfull p (List.mem_cons_of_mem _ hp)]
      rfl
    | some dma' =>
      cases haddr : map k with
      | some addr =>
        rw [hinner, haddr] at hnext
        cases hnext
      | none =>
        dsimp only
        rw [unmapPages_cons, setLink_linked]
        rcases unmapPages_linked hinner with ⟨rfl, rfl, hmapped⟩ | ⟨tail, hmapped, hunmap⟩
        · rw [hmapped]
          rfl
        · rw [hunmap, hmapped]
          rfl

theorem mem_recovered {mapped : List Nat} {x : Nat} (h : x ∈ recovered mapped) : Linkable x := by
  obtain ⟨addr, -, hx⟩ := List.mem_flatMap.mp h
  unfold unmapOne at hx
  split at hx
  · rename_i hne
    rw [List.mem_singleton.mp hx]
    exact linkable_linkAddr hne
  · cases hx

theorem recovered_of_linkable {mapped : List Nat} (h : ∀ addr ∈ mapped, Linkable addr) : recovered mapped = mapped := by
  induction mapped with
  | nil => rfl
  | cons addr mapped ih =>
    have hself := h addr List.mem_cons_self
    have hrest := ih fun x hx => h x (List.mem_cons_of_mem _ hx)
    unfold recovered at hrest ⊢
    rw [List.flatMap_cons, linkAddr_of_linkable hself, unmapOne, if_pos hself.2.1, hrest]
    rfl

/-- The links give every address back exactly when each can be linked. -/
theorem recovered_perm_iff {mapped : List Nat} : (recovered mapped).Perm mapped ↔ ∀ addr ∈ mapped, Linkable addr :=
  ⟨fun h _ haddr => mem_recovered (h.mem_iff.mpr haddr), fun h => by rw [recovered_of_linkable h]⟩

/-- With the address of the first page at hand. -/
theorem unmapOne_perm_iff {mapped : List Nat} :
    (unmapOne dma ++ recovered mapped).Perm (dma :: mapped) ↔ dma ≠ 0 ∧ ∀ addr ∈ mapped, Linkable addr := by
  by_cases hzero : dma = 0
  · subst hzero
    refine ⟨fun h => ?_, fun h => absurd rfl h.1⟩
    have hmem : 0 ∈ recovered mapped := h.mem_iff.mpr List.mem_cons_self
    exact absurd rfl (mem_recovered hmem).2.1
  · rw [unmapOne, if_pos hzero, List.singleton_append, List.perm_cons, recovered_perm_iff]
    exact (and_iff_right hzero).symm

/-- Every mapping is undone once and with its address, every page is freed, and a failure is
an error. -/
structure Balanced (b : Build) : Prop where
  unmapped : b.unmapped.Perm b.mapped
  freed : b.freed = b.allocated
  error : b.failed ≠ none → b.ret < 0

/-- What the mapping layer has to answer: addresses that can be linked, of the first page any but
`DMA_ADDR_INVALID`; and a refusal has to find an error in the place of `ret`. -/
def Recoverable (req : BuildRequest) (b : Build) : Prop :=
  match b.failed with
  | none => (∀ addr ∈ b.mapped.head?, addr ≠ 0) ∧ ∀ addr ∈ b.mapped.tail, Linkable addr
  | some .allocPage => True
  | some .mapPage => (∀ addr ∈ b.mapped, Linkable addr) ∧ req.ret < 0

/-- `vmw_gmr_bind` gets to the descriptors. -/
structure UsesDescriptors (caps : Capabilities) (vsgt : VmwSgTable a) : Prop where
  pages : vsgt.addrs ≠ []
  gmr2 : caps.gmr2 = false
  gmr : caps.gmr = true
  regions : vsgt.numRegions ≤ caps.maxGmrDescriptors

theorem bindDescriptors_balanced_iff {pfns : List Nat} (hpfns : ∀ pfn ∈ pfns, 0 < pfn) :
    ∃ b fired, bindDescriptors a req pfns = some (b, fired) ∧ (Balanced b ↔ Recoverable req b) := by
  obtain ⟨ok, pages, hbuild, hdrop, hfail⟩ := @buildPages_some a req pfns pfns.length 0 hpfns le_rfl
  unfold bindDescriptors
  cases ok with
  | false =>
    have hunmap := unmapPages_full (hfail rfl).1
    rw [build_noPage hbuild, hunmap]
    refine ⟨_, none, rfl, fun _ => trivial, fun _ => ⟨List.Perm.nil, rfl, fun _ => ?_⟩⟩
    show -ENOMEM < 0
    decide
  | true =>
    cases hnext : (linkPages req.map 0 pages).next with
    | none =>
      rw [build_unmapped hbuild hnext, unmapPages_failed hnext hdrop, Option.map_some]
      dsimp only
      split
      · refine ⟨_, _, rfl, fun h => ⟨recovered_perm_iff.mp h.unmapped, h.error (by simp)⟩, fun h => ?_⟩
        exact ⟨recovered_perm_iff.mpr h.1, rfl, fun _ => h.2⟩
      · rename_i hret
        rw [not_not] at hret
        -- the bind goes on as if there were descriptors
        refine ⟨_, _, rfl, fun h => ?_, fun h => ?_⟩
        · have hneg : req.ret < 0 := h.error (by simp [vmwGmrFreeDescriptors])
          omega
        · have hneg : req.ret < 0 := h.2
          omega
    | some dma =>
      rw [build_ok hbuild hnext, Option.map_some]
      dsimp only
      rw [if_neg (not_not.mpr rfl)]
      refine ⟨_, _, rfl, ?_⟩
      have hfreed : (linkPages req.map 0 pages).pages.length = pages.length := linkPages_length
      rcases unmapPages_linked hnext with ⟨rfl, rfl, hmapped⟩ | ⟨tail, hmapped, hunmap⟩
      · refine ⟨fun _ => ?_, fun _ => ⟨?_, by simp [vmwGmrFreeDescriptors, linkPages], fun h => absurd rfl h⟩⟩
        · simp [Recoverable, vmwGmrFreeDescriptors, hmapped]
        · simp [vmwGmrFreeDescriptors, linkPages, unmapPages]
      · have hperm := @unmapOne_perm_iff dma tail
        rw [← hunmap] at hperm
        refine ⟨fun h => ?_, fun h => ⟨?_, by simp [vmwGmrFreeDescriptors, hfreed], fun h => absurd rfl h⟩⟩
        · have hunmapped := h.unmapped
          simp only [vmwGmrFreeDescriptors, List.nil_append, hmapped] at hunmapped
          simpa [Recoverable, vmwGmrFreeDescriptors, hmapped] using hperm.mp hunmapped
        · simp only [Recoverable, vmwGmrFreeDescriptors, hmapped, List.tail_cons] at h
          simp only [vmwGmrFreeDescriptors, List.nil_append, hmapped]
          exact hperm.mpr (by simpa using h)

/-- A bind of nonzero pages undoes its mappings and reports a failure exactly when the mapping layer
answers so. -/
theorem mappings_balanced_iff {caps : Capabilities} {vsgt : VmwSgTable a} {gmrId : Nat} {fifo : Bool}
    (hcaps : UsesDescriptors caps vsgt) (haddrs : ∀ d ∈ vsgt.addrs, d.val ≠ 0) :
    ∃ b fired, vmwGmrBind caps vsgt gmrId fifo req = some (.descriptors b fired) ∧
      (Balanced b ↔ Recoverable req b) := by
  have hpfns : ∀ pfn ∈ vsgt.addrs.map (fun d => d.val / PAGE_SIZE), 0 < pfn := by
    intro pfn hpfn
    obtain ⟨d, hd, rfl⟩ := List.mem_map.mp hpfn
    obtain ⟨m, hm⟩ := d.aligned
    have hne := haddrs d hd
    rw [hm] at hne ⊢
    simp only [PAGE_SIZE] at hne ⊢
    omega
  obtain ⟨b, fired, hbind, hiff⟩ := @bindDescriptors_balanced_iff a req _ hpfns
  refine ⟨b, fired, ?_, hiff⟩
  unfold vmwGmrBind
  rw [if_neg hcaps.pages, if_neg (by simp [hcaps.gmr2]), if_neg (by simp [hcaps.gmr]),
    if_neg (Nat.not_lt.mpr hcaps.regions), hbind]
  rfl

section Example

private theorem oddPage_lt {n : Nat} (h : n ≤ 512) (i : Fin n) :
    (2 * i.val + 1) * PAGE_SIZE + PAGE_SIZE < 2 ^ addrBits .bits64 := by
  have hi := i.isLt
  simp only [PAGE_SIZE, addrBits]
  omega

/-- Every other page from the second on. -/
@[irreducible] private def oddPages (n : Nat) (h : n ≤ 512) : List (DmaAddr .bits64) :=
  List.ofFn fun i : Fin n => ⟨(2 * i.val + 1) * PAGE_SIZE, Nat.dvd_mul_left _ _, oddPage_lt h i⟩

private theorem length_oddPages {n : Nat} (h : n ≤ 512) : (oddPages n h).length = n := by
  unfold oddPages
  exact List.length_ofFn

private theorem ne_zero_of_mem_oddPages {n : Nat} {h : n ≤ 512} {d : DmaAddr .bits64} (hd : d ∈ oddPages n h) :
    d.val ≠ 0 := by
  unfold oddPages at hd
  obtain ⟨i, rfl⟩ := List.mem_ofFn.mp hd
  show (2 * i.val + 1) * PAGE_SIZE ≠ 0
  simp [PAGE_SIZE]

private def caps : Capabilities := { gmr2 := false, gmr := true, maxGmrDescriptors := 4096 }

/-- What the bind reports of its descriptors. -/
private def outcome (req : BuildRequest) (n : Nat) (h : n ≤ 512) :
    Option (Int × Option Failure × List Nat × List Nat) :=
  (vmwGmrBind caps (vmwSgTable (oddPages n h)) 1 true req).bind fun
  | .descriptors b _ => some (b.ret, b.failed, b.mapped, b.unmapped)
  | _ => none

private theorem of_outcome {req : BuildRequest} {n : Nat} {h : n ≤ 512} {ret : Int} {failed : Option Failure}
    {mapped unmapped : List Nat} (hout : outcome req n h = some (ret, failed, mapped, unmapped)) :
    ∃ b fired, vmwGmrBind caps (vmwSgTable (oddPages n h)) 1 true req = some (.descriptors b fired) ∧
      b.ret = ret ∧ b.failed = failed ∧ b.mapped = mapped ∧ b.unmapped = unmapped := by
  obtain ⟨bound, hbind, hdata⟩ := Option.bind_eq_some_iff.mp hout
  cases bound with
  | descriptors b fired =>
    cases hdata
    exact ⟨b, fired, hbind, rfl, rfl, rfl, rfl⟩
  | _ => cases hdata

/-- The second of two descriptor pages is mapped at 4 GiB and stays mapped; a page that is not
mapped at all makes a bind that returns 0. -/
theorem mappings_unbalanced :
    (∃ b fired, vmwGmrBind caps (vmwSgTable (oddPages 512 (by decide))) 1 true
        (quietRequest fun k => some (if k = 0 then 409600 else 2 ^ 32)) = some (.descriptors b fired) ∧
        ¬ Balanced b) ∧
      ∃ b fired, vmwGmrBind caps (vmwSgTable (oddPages 1 (by decide))) 1 true (quietRequest fun _ => none)
        = some (.descriptors b fired) ∧ ¬ Balanced b := by
  constructor
  · obtain ⟨b, fired, hbind, -, -, hmapped, hunmapped⟩ := @of_outcome
      (quietRequest fun k => some (if k = 0 then 409600 else 2 ^ 32)) 512 (by decide) 0 none
      [409600, 2 ^ 32] [409600] (by decide +kernel)
    refine ⟨b, fired, hbind, fun h => ?_⟩
    have hlen := h.unmapped.length_eq
    rw [hmapped, hunmapped] at hlen
    cases hlen
  · obtain ⟨b, fired, hbind, hret, hfailed, -, -⟩ := @of_outcome (quietRequest fun _ => none) 1 (by decide) 0
      (some .mapPage) [] [] (by decide +kernel)
    refine ⟨b, fired, hbind, fun h => ?_⟩
    have hneg := h.error (by rw [hfailed]; simp)
    rw [hret] at hneg
    cases hneg

/-- Below 4 GiB both pages are unmapped. -/
theorem mappings_balanced_low : ∃ b fired,
    vmwGmrBind caps (vmwSgTable (oddPages 512 (by decide))) 1 true
      (quietRequest fun k => some (409600 + k * PAGE_SIZE)) = some (.descriptors b fired) ∧ Balanced b := by
  obtain ⟨b, fired, hbind, -, hfailed, hmapped, -⟩ := @of_outcome
    (quietRequest fun k => some (409600 + k * PAGE_SIZE)) 512 (by decide) 0 none
    [409600, 413696] [409600, 413696] (by decide +kernel)
  have hregions : (vmwSgTable (oddPages 512 (by decide))).numRegions ≤ caps.maxGmrDescriptors := by
    decide +kernel
  have hne : (vmwSgTable (oddPages 512 (by decide))).addrs ≠ [] := by
    intro hnil
    have hzero : (oddPages 512 (by decide)).length = 0 := congrArg List.length hnil
    rw [length_oddPages] at hzero
    cases hzero
  obtain ⟨b', fired', hbind', hiff⟩ := @mappings_balanced_iff .bits64
    (quietRequest fun k => some (409600 + k * PAGE_SIZE)) caps (vmwSgTable (oddPages 512 (by decide))) 1 true
    ⟨hne, rfl, rfl, hregions⟩ fun _ hd => ne_zero_of_mem_oddPages hd
  have hsame : b' = b := by
    rw [hbind] at hbind'
    cases hbind'
    rfl
  refine ⟨b, fired, hbind, ?_⟩
  rw [hsame] at hiff
  apply hiff.mpr
  unfold Recoverable
  rw [hfailed, hmapped]
  refine ⟨by simp, fun addr haddr => ?_⟩
  rw [List.tail_cons, List.mem_singleton] at haddr
  subst haddr
  exact ⟨by decide, by decide, by decide⟩

end Example

end Vmwgfx.Gmr
