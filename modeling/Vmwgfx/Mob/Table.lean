import Mathlib.Data.List.Nodup
import Vmwgfx.Mob.Defs

/-! The page table that `vmw_mob_pt_setup` builds leads from its root to every
data page, and `vmw_mob_calculate_pt_pages` allocates enough pages for it. -/

namespace Vmwgfx.Mob

open Lib

variable {a : Arch}

theorem perPage_pos (a : Arch) : 0 < perPage a := by
  cases a <;> decide

theorem vmwPpn_mul (d : DmaAddr a) : vmwPpn a d.val * PAGE_SIZE = d.val := by
  obtain ⟨val, ⟨k, rfl⟩, hlt⟩ := d
  cases a <;> simp only [vmwPpn, PAGE_SIZE, VMW_PPN_SIZE, addrBits] at hlt ⊢ <;> omega

theorem vmwPpn_inj {d d' : DmaAddr a} (h : vmwPpn a d.val = vmwPpn a d'.val) : d = d' := by
  have hval : d.val = d'.val := by rw [← vmwPpn_mul d, ← vmwPpn_mul d', h]
  cases d
  cases d'
  cases hval
  rfl

section Size

theorem numPtPages_pos {n : Nat} (h : 1 < n) : 0 < numPtPages a n := by
  cases a <;> simp only [numPtPages, divRoundUp, PAGE_SIZE, VMW_PPN_SIZE] <;> omega

theorem numPtPages_lt {n : Nat} (h : 1 < n) : numPtPages a n < n := by
  cases a <;> simp only [numPtPages, divRoundUp, PAGE_SIZE, VMW_PPN_SIZE] <;> omega

theorem le_numPtPages_mul (a : Arch) (n : Nat) : n ≤ numPtPages a n * perPage a := by
  cases a <;> simp only [numPtPages, divRoundUp, perPage, PAGE_SIZE, VMW_PPN_SIZE] <;> omega

theorem div_lt_numPtPages {n j : Nat} (h : j < n) : j / perPage a < numPtPages a n := by
  rw [Nat.div_lt_iff_lt_mul (perPage_pos a)]
  exact lt_of_lt_of_le h (le_numPtPages_mul a n)

theorem ptSize_fuel (fuel fuel' : Nat) {dataSize : Nat} (h : dataSize ≤ fuel) (h' : dataSize ≤ fuel') :
    ptSize a fuel dataSize = ptSize a fuel' dataSize := by
  induction fuel generalizing fuel' dataSize with
  | zero =>
    obtain rfl : dataSize = 0 := by omega
    cases fuel' <;> simp [ptSize]
  | succ fuel ih =>
    cases fuel' with
    | zero =>
      obtain rfl : dataSize = 0 := by omega
      simp [ptSize]
    | succ fuel' =>
      simp only [ptSize]
      split
      · rename_i hlt
        have hless : divRoundUp dataSize PAGE_SIZE * VMW_PPN_SIZE a < dataSize := by
          cases a <;> simp only [divRoundUp, PAGE_SIZE, VMW_PPN_SIZE] at hlt ⊢ <;> omega
        rw [ih fuel' (by omega) (by omega)]
      · rfl

/-- Only the number of pages that the size rounds up to matters. -/
theorem ptSize_round (fuel dataSize : Nat) :
    ptSize a fuel dataSize = ptSize a fuel (divRoundUp dataSize PAGE_SIZE * PAGE_SIZE) := by
  cases fuel with
  | zero => rfl
  | succ fuel =>
    have hround : divRoundUp (divRoundUp dataSize PAGE_SIZE * PAGE_SIZE) PAGE_SIZE
        = divRoundUp dataSize PAGE_SIZE := by
      simp only [divRoundUp, PAGE_SIZE]
      omega
    have hlt : PAGE_SIZE < divRoundUp dataSize PAGE_SIZE * PAGE_SIZE ↔ PAGE_SIZE < dataSize := by
      simp only [divRoundUp, PAGE_SIZE]
      omega
    simp only [ptSize, hround, hlt]

theorem vmwMobCalculatePtPages_step {n : Nat} (h : 1 < n) :
    vmwMobCalculatePtPages a n = numPtPages a n + vmwMobCalculatePtPages a (numPtPages a n) := by
  obtain ⟨fuel, hfuel⟩ : ∃ fuel, n * PAGE_SIZE = fuel + 1 := ⟨n * PAGE_SIZE - 1, by
    simp only [PAGE_SIZE]
    omega⟩
  have hle : numPtPages a n * PAGE_SIZE ≤ fuel := by
    have := numPtPages_lt (a := a) h
    simp only [PAGE_SIZE] at hfuel ⊢
    omega
  have hdiv : divRoundUp (n * PAGE_SIZE) PAGE_SIZE = n := by
    simp only [divRoundUp, PAGE_SIZE]
    omega
  have hmany : PAGE_SIZE < n * PAGE_SIZE := by
    simp only [PAGE_SIZE]
    omega
  have hrest : ptSize a fuel (n * VMW_PPN_SIZE a)
      = ptSize a (numPtPages a n * PAGE_SIZE) (numPtPages a n * PAGE_SIZE) := by
    rw [ptSize_round, ← numPtPages]
    exact ptSize_fuel _ _ hle le_rfl
  unfold vmwMobCalculatePtPages
  rw [← hrest, hfuel, ptSize, ← hfuel, if_pos hmany]
  simp only [hdiv]
  rw [← numPtPages, Nat.add_comm, Nat.add_mul_div_right _ _ (by decide), Nat.add_comm]

end Size

section Build

theorem vmwMobAssignPpns_apply (page i : Nat) (data : List (DmaAddr a)) (e : Entries) (p j : Nat) :
    vmwMobAssignPpns page i data e p j
      = if p = page ∧ i ≤ j then ((data[j - i]?).map (fun d => vmwPpn a d.val)).or (e p j)
        else e p j := by
  induction data generalizing i e with
  | nil => simp [vmwMobAssignPpns]
  | cons d data ih =>
    rw [vmwMobAssignPpns, ih]
    by_cases hp : p = page
    · rcases Nat.lt_trichotomy j i with hlt | rfl | hgt
      · rw [if_neg (by omega), if_neg (by omega), Entries.set, if_neg (by omega)]
      · rw [if_neg (by omega), if_pos (by omega), Entries.set, if_pos ⟨hp, rfl⟩]
        simp
      · have hsub : j - i = (j - (i + 1)) + 1 := by omega
        rw [if_pos (by omega), if_pos (by omega), Entries.set, if_neg (by omega), hsub,
          List.getElem?_cons_succ]
    · rw [if_neg (by simp [hp]), if_neg (by simp [hp]), Entries.set, if_neg (by simp [hp])]

theorem vmwMobBuildPages_apply {n : Nat} (it : Nat) {data : List (DmaAddr a)} (e : Entries) (p j : Nat)
    (h : data.length ≤ n * perPage a) :
    vmwMobBuildPages n it data e p j
      = if it ≤ p ∧ j < perPage a then
          ((data[(p - it) * perPage a + j]?).map (fun d => vmwPpn a d.val)).or (e p j)
        else e p j := by
  induction n generalizing it data e with
  | zero =>
    obtain rfl : data = [] := List.eq_nil_of_length_eq_zero (by omega)
    simp [vmwMobBuildPages]
  | succ n ih =>
    have hdrop : (data.drop (perPage a)).length ≤ n * perPage a := by
      rw [List.length_drop]
      rw [Nat.succ_mul] at h
      omega
    rw [vmwMobBuildPages, ih _ _ hdrop, vmwMobAssignPpns_apply]
    rcases Nat.lt_trichotomy p it with hlt | rfl | hgt
    · rw [if_neg (by omega), if_neg (by omega), if_neg (by omega)]
    · rw [if_neg (by omega), if_pos ⟨rfl, Nat.zero_le _⟩]
      simp only [Nat.sub_zero, le_refl, Nat.sub_self, Nat.zero_mul, Nat.zero_add, true_and,
        List.getElem?_take]
      split
      · rfl
      · simp
    · have hidx : perPage a + ((p - (it + 1)) * perPage a + j) = (p - it) * perPage a + j := by
        obtain ⟨k, rfl⟩ : ∃ k, p = it + 1 + k := ⟨p - (it + 1), by omega⟩
        have h₁ : it + 1 + k - (it + 1) = k := by omega
        have h₂ : it + 1 + k - it = k + 1 := by omega
        rw [h₁, h₂, Nat.succ_mul]
        omega
      rw [if_neg (show ¬ (p = it ∧ 0 ≤ j) by omega)]
      simp only [List.getElem?_drop, hidx]
      have hcond : (it + 1 ≤ p ∧ j < perPage a) ↔ (it ≤ p ∧ j < perPage a) := by omega
      simp only [hcond]

/-- One level: entry `j % r` of page `ptIter + j / r` names node `j`. -/
theorem vmwMobBuildPt_apply (it : Nat) (data : List (DmaAddr a)) (e : Entries) (p j : Nat) :
    vmwMobBuildPt it data e p j
      = if it ≤ p ∧ j < perPage a then
          ((data[(p - it) * perPage a + j]?).map (fun d => vmwPpn a d.val)).or (e p j)
        else e p j :=
  vmwMobBuildPages_apply it e p j (le_numPtPages_mul a data.length)

theorem vmwMobBuildPt_entry {it : Nat} {data : List (DmaAddr a)} {e : Entries} {j : Nat} {d : DmaAddr a}
    (h : data[j]? = some d) :
    vmwMobBuildPt it data e (it + j / perPage a) (j % perPage a) = some (vmwPpn a d.val) := by
  have hidx : (it + j / perPage a - it) * perPage a + j % perPage a = j := by
    rw [Nat.add_sub_cancel_left, Nat.mul_comm]
    exact Nat.div_add_mod j (perPage a)
  rw [vmwMobBuildPt_apply, if_pos ⟨Nat.le_add_right _ _, Nat.mod_lt _ (perPage_pos a)⟩, hidx, h]
  rfl

theorem vmwMobBuildPt_keeps {it : Nat} {data : List (DmaAddr a)} {e : Entries}
    (hfresh : ∀ p j, it ≤ p → e p j = none) {p j v : Nat} (h : e p j = some v) :
    vmwMobBuildPt it data e p j = some v := by
  have hp : p < it := by
    by_contra hle
    rw [hfresh p j (by omega)] at h
    cases h
  rw [vmwMobBuildPt_apply, if_neg (by omega)]
  exact h

theorem vmwMobBuildPt_fresh {it : Nat} {data : List (DmaAddr a)} {e : Entries}
    (hfresh : ∀ p j, it ≤ p → e p j = none) {p j : Nat} (h : it + numPtPages a data.length ≤ p) :
    vmwMobBuildPt it data e p j = none := by
  have hlen : data.length ≤ (p - it) * perPage a :=
    le_trans (le_numPtPages_mul a data.length) (Nat.mul_le_mul_right _ (by omega))
  rw [vmwMobBuildPt_apply, hfresh p j (by omega), List.getElem?_eq_none (by omega)]
  simp

end Build

section Read

/-- What the device reads from the page table pages with the entries `e`. -/
def readEntries (pt : PtPages a) (e : Entries) : Nat → Nat → Option Nat := fun ppn i =>
  ({ pt with entry := e } : PtBo a).read ppn i

theorem readEntries_page (pt : PtPages a) (e : Entries) {k : Nat} {d : DmaAddr a}
    (h : pt.pages[k]? = some d) (i : Nat) : readEntries pt e (vmwPpn a d.val) i = e k i := by
  obtain ⟨hk, rfl⟩ := List.getElem?_eq_some_iff.mp h
  have hfind : pt.pages.findIdx? (fun p => vmwPpn a p.val = vmwPpn a pt.pages[k].val) = some k := by
    rw [List.findIdx?_eq_some_iff_getElem]
    refine ⟨hk, by simp, ?_⟩
    intro j hj
    have hne : pt.pages[j] ≠ pt.pages[k] := by
      intro heq
      have := (List.Nodup.getElem_inj_iff pt.nodup).mp heq
      omega
    simpa using fun hppn => hne (vmwPpn_inj hppn)
  simp only [readEntries, PtBo.read, hfind]
  rfl

theorem readEntries_mono {pt : PtPages a} {e e' : Entries} (h : ∀ p j v, e p j = some v → e' p j = some v) :
    ∀ n i v, readEntries pt e n i = some v → readEntries pt e' n i = some v := by
  intro n i v hread
  obtain ⟨k, hk, he⟩ := Option.bind_eq_some_iff.mp hread
  exact Option.bind_eq_some_iff.mpr ⟨k, hk, h _ _ _ he⟩

end Read

/-- The frame numbers of data pages or of page table pages. -/
def ppns (data : List (DmaAddr a)) : List Nat := data.map (fun d => vmwPpn a d.val)

/-- One round of the loop: the pages just written are the nodes of the next level. -/
theorem covers_build {pt : PtPages a} {e : Entries} {it level : Nat} {data : List (DmaAddr a)}
    {leaves : List Nat} (hfresh : ∀ p j, it ≤ p → e p j = none)
    (hpages : it + numPtPages a data.length ≤ pt.pages.length)
    (h : Radix.Covers (readEntries pt e) (perPage a) level (ppns data) leaves) :
    Radix.Covers (readEntries pt (vmwMobBuildPt it data e)) (perPage a) (level + 1)
      (ppns ((pt.pages.drop it).take (numPtPages a data.length))) leaves := by
  apply (h.mono (readEntries_mono (fun p j v => vmwMobBuildPt_keeps hfresh))).succ
  intro j n hj
  obtain ⟨d, hd, rfl⟩ := Option.map_eq_some_iff.mp (List.getElem?_map ▸ hj)
  have hlt : j / perPage a < numPtPages a data.length :=
    div_lt_numPtPages (List.getElem?_eq_some_iff.mp hd).1
  have hlt' : it + j / perPage a < pt.pages.length := by omega
  have hpage : pt.pages[it + j / perPage a]? = some pt.pages[it + j / perPage a] :=
    List.getElem?_eq_getElem hlt'
  refine ⟨vmwPpn a (pt.pages[it + j / perPage a]).val, ?_, ?_⟩
  · simp only [ppns, List.getElem?_map, List.getElem?_take, hlt, if_true, List.getElem?_drop, hpage]
    rfl
  · rw [readEntries_page pt _ hpage]
    exact vmwMobBuildPt_entry hd

/-- The loop ends with a single node, the page saved last. -/
theorem covers_root {pt : PtPages a} {e : Entries} {level save : Nat} {data : List (DmaAddr a)}
    {leaves : List Nat} (hne : data ≠ []) (hone : ¬ 1 < data.length)
    (hsave : data.head? = pt.pages[save]?)
    (hcov : Radix.Covers (readEntries pt e) (perPage a) level (ppns data) leaves) :
    ∃ d, pt.pages[save]? = some d ∧
      Radix.Covers (readEntries pt e) (perPage a) level [vmwPpn a d.val] leaves := by
  cases data with
  | nil => exact absurd rfl hne
  | cons d data =>
    obtain rfl : data = [] := List.eq_nil_of_length_eq_zero (by
      rw [List.length_cons] at hone
      omega)
    exact ⟨d, hsave.symm, hcov⟩

theorem vmwMobPtLoop_covers {pt : PtPages a} {leaves : List Nat} {left level save it lvl root : Nat}
    {data : List (DmaAddr a)} {e e' : Entries}
    (hne : data ≠ []) (hsave : ¬ 1 < data.length → data.head? = pt.pages[save]?)
    (hfresh : ∀ p j, it ≤ p → e p j = none)
    (hpages : it + vmwMobCalculatePtPages a data.length ≤ pt.pages.length)
    (hcov : Radix.Covers (readEntries pt e) (perPage a) level (ppns data) leaves)
    (h : vmwMobPtLoop pt.pages left level save it data e = some (lvl, root, e')) :
    lvl ≤ level + left ∧ ∃ d, pt.pages[root]? = some d ∧
      Radix.Covers (readEntries pt e') (perPage a) lvl [vmwPpn a d.val] leaves := by
  induction left generalizing level save it data e with
  | zero =>
    rw [vmwMobPtLoop] at h
    split at h
    · cases h
    · rename_i hone
      cases h
      exact ⟨le_rfl, covers_root hne hone (hsave hone) hcov⟩
  | succ left ih =>
    rw [vmwMobPtLoop] at h
    split at h
    · rename_i hmany
      have hstep := vmwMobCalculatePtPages_step (a := a) hmany
      have hpos := numPtPages_pos (a := a) hmany
      have hlen : ((pt.pages.drop it).take (numPtPages a data.length)).length
          = numPtPages a data.length := by
        rw [List.length_take, List.length_drop]
        omega
      have hnil : (pt.pages.drop it).take (numPtPages a data.length) ≠ [] := by
        intro hnil
        rw [hnil, List.length_nil] at hlen
        omega
      have hhead : ((pt.pages.drop it).take (numPtPages a data.length)).head? = pt.pages[it]? := by
        rw [List.head?_take, if_neg (by omega), List.head?_drop]
      obtain ⟨hle, hroot⟩ := ih hnil (fun _ => hhead) (fun p j => vmwMobBuildPt_fresh hfresh)
        (by rw [hlen]; omega) (covers_build hfresh (by omega) hcov) h
      exact ⟨by omega, hroot⟩
    · rename_i hone
      cases h
      exact ⟨Nat.le_add_right _ _, covers_root hne hone (hsave hone) hcov⟩

end Vmwgfx.Mob
