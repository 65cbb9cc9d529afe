import Mathlib.Data.List.Range
import Vmwgfx.Gmr.Defs

/-! The descriptor pages that `vmw_gmr_build_descriptors` fills stand for the frames they were
filled from, and lead from one to the next. -/

namespace Vmwgfx.Gmr

open Lib Mob

variable {a : Arch}

section Fill

variable {page page' : DescPage} {used used' prevPfn pfn : Nat} {pfns rest : List Nat}

theorem write_of_le {i : Nat} {d : Desc} (h : i ≤ descPerPage) :
    page.write i d = some (Function.update page i d) := if_pos h

/-- The frames of the first `used` entries. -/
def DescPage.frames (page : DescPage) (used : Nat) : List Nat :=
  (List.range used).flatMap fun i => (page i).frames

theorem DescPage.frames_succ (page : DescPage) (used : Nat) :
    page.frames (used + 1) = page.frames used ++ (page used).frames := by
  simp [DescPage.frames, List.range_succ]

theorem DescPage.frames_congr {page page' : DescPage} (h : ∀ i, i < used → page i = page' i) :
    page.frames used = page'.frames used := by
  unfold DescPage.frames
  apply List.flatMap_congr
  intro i hi
  rw [h i (List.mem_range.mp hi)]

theorem DescPage.frames_update {d : Desc} (i : Nat) (h : used ≤ i) :
    DescPage.frames (Function.update page i d) used = page.frames used :=
  DescPage.frames_congr fun _ hj => Function.update_of_ne (Nat.ne_of_lt (lt_of_lt_of_le hj h)) _ _

/-- The entries so far: none is a link, and the last run ends at the previous frame. -/
structure Filling (a : Arch) (page : DescPage) (used prevPfn : Nat) : Prop where
  le : used ≤ descPerPage
  pages : ∀ i, i < used → (page i).numPages ≠ 0
  start : used = 0 → prevPfn = 2 ^ wordBits a - 1
  run : ∀ last, used = last + 1 →
    (page last).ppn + (page last).numPages = prevPfn + 1 ∧ 0 < (page last).ppn ∧ prevPfn < 2 ^ 32

theorem Filling.new (a : Arch) (page : DescPage) : Filling a page 0 (2 ^ wordBits a - 1) :=
  ⟨Nat.zero_le _, fun _ hi => absurd hi (Nat.not_lt_zero _), fun _ => rfl, fun _ h => absurd h (by omega)⟩

/-- A frame that does not follow the previous one opens a run. -/
theorem Filling.open (h : Filling a page used prevPfn) (hroom : used ≠ descPerPage) (hpos : 0 < pfn)
    (hlt : pfn < 2 ^ 32) :
    Filling a (Function.update page used ⟨pfn % 2 ^ 32, 1⟩) (used + 1) pfn ∧
      DescPage.frames (Function.update page used ⟨pfn % 2 ^ 32, 1⟩) (used + 1) = page.frames used ++ [pfn] := by
  have hle := h.le
  rw [Nat.mod_eq_of_lt hlt]
  refine ⟨⟨by omega, fun i hi => ?_, fun h => absurd h (by omega), fun last hlast => ?_⟩, ?_⟩
  · by_cases heq : i = used
    · rw [heq, Function.update_self]
      exact Nat.one_ne_zero
    · rw [Function.update_of_ne heq]
      exact h.pages i (by omega)
  · obtain rfl : used = last := by omega
    rw [Function.update_self]
    exact ⟨rfl, hpos, hlt⟩
  · rw [DescPage.frames_succ, DescPage.frames_update _ le_rfl, Function.update_self]
    rfl

/-- One that does lengthens the last run. -/
theorem Filling.extend {last : Nat} (h : Filling a page (last + 1) prevPfn) (hpfn : pfn = prevPfn + 1)
    (hlt : pfn < 2 ^ 32) :
    let d : Desc := { page last with numPages := add32 (page last).numPages 1 }
    Filling a (Function.update page last d) (last + 1) pfn ∧
      DescPage.frames (Function.update page last d) (last + 1) = page.frames (last + 1) ++ [pfn] := by
  obtain ⟨hrun, hpos, -⟩ := h.run last rfl
  have hadd : add32 (page last).numPages 1 = (page last).numPages + 1 := add32_of_lt (by omega)
  dsimp only
  rw [hadd]
  refine ⟨⟨h.le, fun i hi => ?_, fun h => absurd h (by omega), fun i hi => ?_⟩, ?_⟩
  · by_cases heq : i = last
    · rw [heq, Function.update_self]
      exact Nat.succ_ne_zero _
    · rw [Function.update_of_ne heq]
      exact h.pages i hi
  · obtain rfl : last = i := by omega
    rw [Function.update_self]
    exact ⟨by dsimp only; omega, hpos, hlt⟩
  · rw [DescPage.frames_succ, DescPage.frames_succ, DescPage.frames_update _ le_rfl, Function.update_self,
      List.append_assoc]
    congr 1
    have hnext : (page last).ppn + (page last).numPages = pfn := by omega
    simp only [Desc.frames]
    rw [List.range'_1_concat, hnext]

/-- The inner loop stays in the page, and leaves frames only with the page full. -/
theorem fillPage_some (hle : used ≤ descPerPage) (hstart : used = 0 → prevPfn = 2 ^ wordBits a - 1)
    (hpfns : ∀ pfn ∈ pfns, 0 < pfn) :
    ∃ page' used' rest, fillPage a page used prevPfn pfns = some (page', used', rest) ∧
      used' ≤ descPerPage ∧ (rest ≠ [] → used' = descPerPage) ∧ rest.length ≤ pfns.length ∧
      (used = 0 → pfns ≠ [] → rest.length < pfns.length) ∧ ∀ pfn ∈ rest, pfn ∈ pfns := by
  induction pfns generalizing page used prevPfn with
  | nil => exact ⟨page, used, [], rfl, hle, fun h => absurd rfl h, le_rfl, fun _ h => absurd rfl h, fun _ h => h⟩
  | cons pfn pfns ih =>
    have hpos := hpfns pfn List.mem_cons_self
    have hrest : ∀ pfn ∈ pfns, 0 < pfn := fun p hp => hpfns p (List.mem_cons_of_mem _ hp)
    unfold fillPage
    split
    · split
      · rename_i hfull
        refine ⟨page, used, pfn :: pfns, rfl, hle, fun _ => hfull, le_rfl, fun h => ?_, fun _ h => h⟩
        rw [h] at hfull
        cases hfull
      · rw [write_of_le hle, Option.bind_some]
        obtain ⟨page', used', rest, hfill, hle', hfull, hlen, -, hmem⟩ :=
          @ih (Function.update page used ⟨pfn % 2 ^ 32, 1⟩) (used + 1) pfn (by omega) (fun h => absurd h (by omega)) hrest
        refine ⟨page', used', rest, hfill, hle', hfull, ?_, fun _ _ => ?_, fun p hp => List.mem_cons_of_mem _ (hmem p hp)⟩
        · exact Nat.le_succ_of_le hlen
        · exact Nat.lt_succ_of_le hlen
    · rename_i hnext
      rw [not_not] at hnext
      cases used with
      | zero =>
        -- nothing precedes the first frame of a page
        rw [hstart rfl, Nat.sub_add_cancel Nat.one_le_two_pow, Nat.mod_self] at hnext
        omega
      | succ last =>
        dsimp only
        rw [write_of_le (by omega), Option.bind_some]
        obtain ⟨page', used', rest, hfill, hle', hfull, hlen, -, hmem⟩ :=
          @ih (Function.update page last { page last with numPages := add32 (page last).numPages 1 }) (last + 1) pfn
            hle (fun h => absurd h (by omega)) hrest
        exact ⟨page', used', rest, hfill, hle', hfull, Nat.le_succ_of_le hlen, fun h => absurd h (by omega),
          fun p hp => List.mem_cons_of_mem _ (hmem p hp)⟩

/-- It takes the frames in their order, and every entry it has used stands for some. -/
theorem fillPage_frames (h : Filling a page used prevPfn) (hpfns : ∀ pfn ∈ pfns, 0 < pfn ∧ pfn < 2 ^ 32)
    (hfill : fillPage a page used prevPfn pfns = some (page', used', rest)) :
    (∀ i, i < used' → (page' i).numPages ≠ 0) ∧ page.frames used ++ pfns = page'.frames used' ++ rest := by
  induction pfns generalizing page used prevPfn with
  | nil =>
    cases hfill
    exact ⟨h.pages, rfl⟩
  | cons pfn pfns ih =>
    obtain ⟨hpos, hlt⟩ := hpfns pfn List.mem_cons_self
    have hrest : ∀ pfn ∈ pfns, 0 < pfn ∧ pfn < 2 ^ 32 := fun p hp => hpfns p (List.mem_cons_of_mem _ hp)
    unfold fillPage at hfill
    split at hfill
    · split at hfill
      · cases hfill
        exact ⟨h.pages, rfl⟩
      · rename_i hroom
        obtain ⟨hfilling, htaken⟩ := h.open hroom hpos hlt
        rw [write_of_le h.le, Option.bind_some] at hfill
        obtain ⟨hpages, hframes⟩ := ih hfilling hrest hfill
        rw [htaken, List.append_assoc] at hframes
        exact ⟨hpages, hframes⟩
    · rename_i hnext
      rw [not_not] at hnext
      cases used with
      | zero => cases hfill
      | succ last =>
        obtain ⟨hrun, -, hprev⟩ := h.run last rfl
        have hpfn : pfn = prevPfn + 1 := by
          cases a <;> simp only [wordBits] at hnext <;> omega
        obtain ⟨hfilling, htaken⟩ := h.extend hpfn hlt
        have hle := h.le
        dsimp only at hfill
        rw [write_of_le (by omega), Option.bind_some] at hfill
        obtain ⟨hpages, hframes⟩ := ih hfilling hrest hfill
        rw [htaken, List.append_assoc] at hframes
        exact ⟨hpages, hframes⟩

end Fill

section Pages

variable {req : BuildRequest} {pfns : List Nat} {fuel k : Nat} {ok : Bool} {pages : List DescPage}

/-- The last slot of a full page still ends the list. -/
def Full (page : DescPage) : Prop := page descPerPage = ⟨0, 0⟩

theorem buildPages_some (hpfns : ∀ pfn ∈ pfns, 0 < pfn) (hfuel : pfns.length ≤ fuel) :
    ∃ ok pages, buildPages a req fuel k pfns = some (ok, pages) ∧ (∀ page ∈ pages.dropLast, Full page) ∧
      (ok = false → (∀ page ∈ pages, Full page) ∧ ∃ j, req.alloc j = false) := by
  induction fuel generalizing k pfns with
  | zero =>
    obtain rfl := List.eq_nil_of_length_eq_zero (Nat.le_zero.mp hfuel)
    exact ⟨true, [], by simp [buildPages], by simp, by simp⟩
  | succ fuel ih =>
    cases pfns with
    | nil => exact ⟨true, [], by simp [buildPages], by simp, by simp⟩
    | cons pfn pfns =>
      unfold buildPages
      by_cases halloc : req.alloc k
      · obtain ⟨page, used, rest, hfill, hle, hfull, -, hlen, hmem⟩ :=
          @fillPage_some a (req.page k) 0 (2 ^ wordBits a - 1) (pfn :: pfns) (Nat.zero_le _) (fun _ => rfl) hpfns
        obtain ⟨ok, pages, hbuild, hdrop, hfail⟩ := @ih rest (k + 1)
          (fun p hp => hpfns p (hmem p hp)) (by have := hlen rfl (List.cons_ne_nil _ _); omega)
        rw [if_neg (by simp [halloc]), hfill, Option.bind_some]
        dsimp only
        rw [write_of_le hle, Option.bind_some, hbuild]
        -- a page with another one behind it was full
        have hpage : rest ≠ [] → Full (Function.update page used ⟨0, 0⟩) := by
          intro hrest
          rw [hfull hrest]
          exact Function.update_self _ _ _
        have hnil : rest = [] → pages = [] ∧ ok = true := by
          rintro rfl
          cases fuel <;> simp [buildPages] at hbuild <;> simp [hbuild]
        refine ⟨ok, _ :: pages, rfl, ?_, fun hok => ?_⟩
        · intro p hp
          cases pages with
          | nil => cases hp
          | cons q pages =>
            have hrest : rest ≠ [] := fun h => by cases (hnil h).1
            rw [List.dropLast_cons_of_ne_nil (List.cons_ne_nil _ _)] at hp
            rcases List.mem_cons.mp hp with rfl | hp
            · exact hpage hrest
            · exact hdrop p hp
        · have hrest : rest ≠ [] := fun h => by rw [(hnil h).2] at hok; cases hok
          obtain ⟨hall, hj⟩ := hfail hok
          refine ⟨fun p hp => ?_, hj⟩
          rcases List.mem_cons.mp hp with rfl | hp
          · exact hpage hrest
          · exact hall p hp
      · rw [if_pos halloc]
        exact ⟨false, [], rfl, by simp, fun _ => ⟨by simp, k, by simpa using halloc⟩⟩

/-- A page with `used` runs and a terminator. -/
structure Runs (page : DescPage) (used : Nat) : Prop where
  le : used ≤ descPerPage
  pages : ∀ i, i < used → (page i).numPages ≠ 0
  last : page used = ⟨0, 0⟩

/-- The pages hold the frames, all but the last of them full. -/
inductive Holds : List DescPage → List Nat → Prop
  | nil : Holds [] []
  | cons {page : DescPage} {used : Nat} {pages : List DescPage} {rest : List Nat} (hruns : Runs page used)
      (hfull : pages ≠ [] → used = descPerPage) (hrest : Holds pages rest) :
      Holds (page :: pages) (page.frames used ++ rest)

theorem buildPages_holds (hpfns : ∀ pfn ∈ pfns, 0 < pfn ∧ pfn < 2 ^ 32)
    (hbuild : buildPages a req fuel k pfns = some (true, pages)) : Holds pages pfns := by
  induction fuel generalizing k pfns pages with
  | zero =>
    cases pfns with
    | nil =>
      simp only [buildPages, Option.some.injEq, Prod.mk.injEq, true_and] at hbuild
      rw [← hbuild]
      exact .nil
    | cons pfn pfns => cases hbuild
  | succ fuel ih =>
    cases pfns with
    | nil =>
      simp only [buildPages, Option.some.injEq, Prod.mk.injEq, true_and] at hbuild
      rw [← hbuild]
      exact .nil
    | cons pfn pfns =>
      unfold buildPages at hbuild
      split at hbuild
      · cases hbuild
      obtain ⟨page, used, rest, hfill, hle, hfull, -, -, hmem⟩ :=
        @fillPage_some a (req.page k) 0 (2 ^ wordBits a - 1) (pfn :: pfns) (Nat.zero_le _) (fun _ => rfl) (fun p hp => (hpfns p hp).1)
      obtain ⟨hpages, hframes⟩ := fillPage_frames (Filling.new a (req.page k)) hpfns hfill
      rw [hfill, Option.bind_some] at hbuild
      dsimp only at hbuild
      rw [write_of_le hle, Option.bind_some] at hbuild
      obtain ⟨⟨ok, tail⟩, htail, heq⟩ := Option.map_eq_some_iff.mp hbuild
      cases heq
      have hsame : DescPage.frames (Function.update page used ⟨0, 0⟩) used = page.frames used :=
        DescPage.frames_update _ le_rfl
      have htaken : pfn :: pfns = page.frames used ++ rest := hframes
      rw [htaken, ← hsame]
      refine .cons ⟨hle, fun i hi => ?_, Function.update_self _ _ _⟩ (fun htail' => hfull ?_)
        (ih (fun p hp => hpfns p (hmem p hp)) htail)
      · rw [Function.update_of_ne (Nat.ne_of_lt hi)]
        exact hpages i hi
      · rintro rfl
        cases fuel <;> simp [buildPages] at htail <;> exact htail' htail

end Pages

section Walk

variable {read : Nat → Option DescPage} {map : Nat → Option Nat} {page : DescPage} {used : Nat}
  {pages : List DescPage} {pfns : List Nat}

/-- A page is gone over to its link. -/
theorem walk_page {fuel link : Nat} (hle : used ≤ descPerPage) (hpages : ∀ i, i < used → (page i).numPages ≠ 0)
    (hlast : page used = ⟨link, 0⟩) {n i : Nat} (hi : i + n = used) :
    walk read (fuel + 1 + n) page i =
      (expand read fuel link).map (((List.range' i n).flatMap fun i => (page i).frames) ++ ·) := by
  induction n generalizing i with
  | zero =>
    obtain rfl : i = used := hi
    rw [Nat.add_zero, walk, if_neg (by omega), hlast]
    simp [expand]
  | succ n ih =>
    rw [← Nat.add_assoc, walk, if_neg (by omega), if_pos (hpages i (by omega)), ih (by omega),
      List.range'_succ, List.flatMap_cons, Option.map_map]
    congr 1
    funext rest
    simp

theorem setLink_of_ne {ppn i : Nat} (h : i ≠ descPerPage) : page.setLink ppn i = page i :=
  Function.update_of_ne h _ _

theorem setLink_frames {ppn : Nat} (h : used ≤ descPerPage) : (page.setLink ppn).frames used = page.frames used :=
  DescPage.frames_congr fun i hi => setLink_of_ne (by omega)

/-- With its link set, a page leads to what the link leads to. -/
theorem walk_setLink {fuel link : Nat} (h : Runs page used) (hfull : link ≠ 0 → used = descPerPage) :
    walk read (fuel + 1 + used) (page.setLink link) 0 = (expand read fuel link).map (page.frames used ++ ·) := by
  have hpages : ∀ i, i < used → ((page.setLink link) i).numPages ≠ 0 := by
    intro i hi
    have hle := h.le
    rw [setLink_of_ne (by omega)]
    exact h.pages i hi
  have hlast : page.setLink link used = ⟨link, 0⟩ := by
    by_cases hused : used = descPerPage
    · have hentry := h.last
      rw [hused] at hentry ⊢
      simp [DescPage.setLink, hentry]
    · obtain rfl : link = 0 := by
        by_contra hlink
        exact hused (hfull hlink)
      rw [setLink_of_ne hused]
      exact h.last
  rw [walk_page h.le hpages hlast (Nat.zero_add used), ← @setLink_frames page used link h.le]
  simp [DescPage.frames, List.range_eq_range']

/-- The frames of the descriptor pages themselves: no two are the same, and the 32 bits of a link
hold them. -/
structure Addressable (mapped : List Nat) : Prop where
  nodup : (mapped.map (· / PAGE_SIZE)).Nodup
  frame : ∀ addr ∈ mapped, 0 < addr / PAGE_SIZE ∧ addr / PAGE_SIZE < 2 ^ 32

/-- Each mapped page is read at its address. -/
def Reads (read : Nat → Option DescPage) : List Nat → List DescPage → Prop
  | addr :: mapped, page :: pages => read (addr / PAGE_SIZE) = some page ∧ Reads read mapped pages
  | _, _ => True

theorem expand_linkPages {k fuel dma : Nat} (hholds : Holds pages pfns)
    (hnext : (linkPages map k pages).next = some dma)
    (hframe : ∀ addr ∈ (linkPages map k pages).mapped, 0 < addr / PAGE_SIZE ∧ addr / PAGE_SIZE < 2 ^ 32)
    (hread : Reads read (linkPages map k pages).mapped (linkPages map k pages).pages) :
    expand read (fuel + (descPerPage + 1) * pages.length) (dma / PAGE_SIZE % 2 ^ 32) = some pfns := by
  induction hholds generalizing k dma fuel with
  | nil =>
    cases hnext
    rfl
  | @cons page used pages rest hruns hfull hrest ih =>
    rw [linkPages] at hnext hframe hread
    cases hinner : (linkPages map (k + 1) pages).next with
    | none =>
      rw [hinner] at hnext
      cases hnext
    | some dma' =>
      rw [hinner] at hnext hframe hread
      cases haddr : map k with
      | none =>
        rw [haddr] at hnext
        cases hnext
      | some addr =>
        rw [haddr] at hnext hframe hread
        cases hnext
        obtain ⟨hself, hread'⟩ := hread
        obtain ⟨hpos, hlt⟩ := hframe dma List.mem_cons_self
        have hlink : dma' / PAGE_SIZE % 2 ^ 32 ≠ 0 → used = descPerPage := by
          intro hne
          apply hfull
          rintro rfl
          cases hinner
          exact hne rfl
        have hle := hruns.le
        -- what is left of the fuel behind this page
        have hfuel : fuel + (descPerPage + 1) * (page :: pages).length =
            (fuel + (descPerPage - used)) + (descPerPage + 1) * pages.length + 1 + used := by
          rw [List.length_cons, Nat.mul_succ]
          omega
        rw [expand, Nat.mod_eq_of_lt hlt, if_neg (by omega), hself, Option.bind_some, hfuel, walk_setLink hruns hlink,
          ih hinner (fun addr haddr => hframe addr (List.mem_cons_of_mem _ haddr)) hread', Option.map_some]

end Walk

section Build

variable {req : BuildRequest} {pfns : List Nat} {mapped : List Nat} {pages : List DescPage}

theorem reads_of_getElem {read : Nat → Option DescPage}
    (h : ∀ (i addr : Nat) (page : DescPage), mapped[i]? = some addr → pages[i]? = some page →
      read (addr / PAGE_SIZE) = some page) : Reads read mapped pages := by
  induction mapped generalizing pages with
  | nil => exact trivial
  | cons addr mapped ih =>
    cases pages with
    | nil => exact trivial
    | cons page pages => exact ⟨h 0 addr page rfl rfl, ih fun i => h (i + 1)⟩

theorem Build.reads (b : Build) (hnodup : (b.mapped.map (· / PAGE_SIZE)).Nodup) :
    Reads b.read b.mapped b.descPages := by
  apply reads_of_getElem
  intro i addr page haddr hpage
  obtain ⟨hi, rfl⟩ := List.getElem?_eq_some_iff.mp haddr
  have hfind : b.mapped.findIdx? (fun x => x / PAGE_SIZE = b.mapped[i] / PAGE_SIZE) = some i := by
    rw [List.findIdx?_eq_some_iff_getElem]
    refine ⟨hi, by simp, fun j hj => ?_⟩
    have hne := List.pairwise_iff_getElem.mp hnodup j i (by simp; omega) (by simpa using hi) hj
    simpa using hne
  unfold Build.read
  rw [hfind, Option.bind_some]
  exact hpage

/-- A failed mapping is the only way the second pass fails. -/
theorem linkPages_none {map : Nat → Option Nat} {k : Nat} (h : (linkPages map k pages).next = none) :
    ∃ j, map j = none := by
  induction pages generalizing k with
  | nil => cases h
  | cons page pages ih =>
    rw [linkPages] at h
    cases hinner : (linkPages map (k + 1) pages).next with
    | none => exact ih hinner
    | some dma =>
      cases haddr : map k with
      | none => exact ⟨k, haddr⟩
      | some addr =>
        rw [hinner, haddr] at h
        cases h

theorem linkPages_length {map : Nat → Option Nat} {k : Nat} : (linkPages map k pages).pages.length = pages.length := by
  induction pages generalizing k with
  | nil => rfl
  | cons page pages ih =>
    rw [linkPages]
    cases (linkPages map (k + 1) pages).next with
    | none => simp [ih]
    | some dma => cases map k <;> simp [ih]

variable {a : Arch} {dma : Nat}

theorem build_ok (hbuild : buildPages a req pfns.length 0 pfns = some (true, pages))
    (hnext : (linkPages req.map 0 pages).next = some dma) :
    vmwGmrBuildDescriptors a req pfns = some
      { ret := 0, failed := none, firstDma := dma, descPages := (linkPages req.map 0 pages).pages
        mapped := (linkPages req.map 0 pages).mapped, unmapped := [], allocated := pages.length, freed := 0 } := by
  simp [vmwGmrBuildDescriptors, hbuild, hnext]

theorem build_unmapped (hbuild : buildPages a req pfns.length 0 pfns = some (true, pages))
    (hnext : (linkPages req.map 0 pages).next = none) :
    vmwGmrBuildDescriptors a req pfns = some
      { ret := req.ret, failed := some .mapPage, firstDma := 0, descPages := []
        mapped := (linkPages req.map 0 pages).mapped
        unmapped := unmapPages 0 (linkPages req.map 0 pages).pages
        allocated := pages.length, freed := pages.length } := by
  simp [vmwGmrBuildDescriptors, hbuild, hnext, vmwGmrFreeDescriptors, linkPages_length]

theorem build_noPage (hbuild : buildPages a req pfns.length 0 pfns = some (false, pages)) :
    vmwGmrBuildDescriptors a req pfns = some
      { ret := -ENOMEM, failed := some .allocPage, firstDma := 0, descPages := [], mapped := []
        unmapped := unmapPages 0 pages, allocated := pages.length, freed := pages.length } := by
  simp [vmwGmrBuildDescriptors, hbuild, vmwGmrFreeDescriptors]

/-- A build of nonzero frames stays in its pages, fails only where an allocation or a mapping does,
and the device reads the frames back from the root that it is given. -/
theorem descriptors_round_trip (req : BuildRequest) (hpfns : ∀ pfn ∈ pfns, 0 < pfn ∧ pfn < 2 ^ 32) :
    ∃ b, vmwGmrBuildDescriptors a req pfns = some b ∧
      (b.failed ≠ none → ∃ k, req.alloc k = false ∨ req.map k = none) ∧
      (b.failed = none → Addressable b.mapped →
        ∀ fuel, (descPerPage + 1) * b.descPages.length ≤ fuel → expand b.read fuel b.root = some pfns) := by
  obtain ⟨ok, pages, hbuild, -, hfail⟩ :=
    @buildPages_some a req pfns pfns.length 0 (fun p hp => (hpfns p hp).1) (le_refl pfns.length)
  cases ok with
  | false =>
    obtain ⟨-, j, hj⟩ := hfail rfl
    exact ⟨_, build_noPage hbuild, fun _ => ⟨j, .inl hj⟩, fun h => by cases h⟩
  | true =>
    have hholds := buildPages_holds hpfns hbuild
    cases hnext : (linkPages req.map 0 pages).next with
    | none =>
      obtain ⟨j, hj⟩ := linkPages_none hnext
      exact ⟨_, build_unmapped hbuild hnext, fun _ => ⟨j, .inr hj⟩, fun h => by cases h⟩
    | some dma =>
      refine ⟨_, build_ok hbuild hnext, fun h => absurd rfl h, fun _ haddr fuel hfuel => ?_⟩
      dsimp only at haddr hfuel
      rw [linkPages_length] at hfuel
      obtain ⟨extra, rfl⟩ := Nat.exists_eq_add_of_le' hfuel
      exact expand_linkPages hholds hnext haddr.frame (Build.reads _ haddr.nodup)

end Build

section Example

/-- New pages are not cleared. -/
def quietRequest (map : Nat → Option Nat) : BuildRequest :=
  { alloc := fun _ => true, page := fun _ _ => ⟨7, 7⟩, map, ret := 0 }

theorem descriptors_round_trip_runs :
    ∃ b, vmwGmrBuildDescriptors .bits64 (quietRequest fun k => some ((100 + k) * PAGE_SIZE)) [5, 6, 9] = some b ∧
      expand b.read 512 b.root = some [5, 6, 9] := by
  obtain ⟨b, hb, hfail, hexpand⟩ := @descriptors_round_trip [5, 6, 9] .bits64
    (quietRequest fun k => some ((100 + k) * PAGE_SIZE)) (by decide)
  have hok : b.failed = none := by
    by_contra h
    obtain ⟨k, hk | hk⟩ := hfail h <;> cases hk
  have hdata : some (b.mapped, b.descPages.length) = some ([409600], 1) := by
    have hrun : (vmwGmrBuildDescriptors .bits64 (quietRequest fun k => some ((100 + k) * PAGE_SIZE)) [5, 6, 9]).map
        (fun b => (b.mapped, b.descPages.length)) = some ([409600], 1) := by decide
    rw [hb] at hrun
    exact hrun
  obtain ⟨hmapped, hlen⟩ := Prod.mk.inj (Option.some.inj hdata)
  refine ⟨b, hb, hexpand hok ?_ 512 ?_⟩
  · rw [hmapped]
    exact ⟨by decide, by decide⟩
  · rw [hlen]
    decide

end Example

end Vmwgfx.Gmr
