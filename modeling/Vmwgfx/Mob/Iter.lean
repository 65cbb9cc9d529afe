import Vmwgfx.Mob.Table

/-! `vmw_mob_pt_setup` with its page iterators, in `unsigned long`. -/

namespace Vmwgfx.Mob

open Lib

variable {a : Arch}

def wordBits : Arch → Nat
  | .bits32 => 32
  | .bits64 => 64

/-- `struct vmw_piter` over an array of device addresses; a scatter-gather iterator goes over
the same pages. -/
structure VmwPiter (a : Arch) where
  addrs : List (DmaAddr a)
  i : Nat

def vmwPiterStart (addrs : List (DmaAddr a)) (pOffset : Nat) : VmwPiter a :=
  ⟨addrs, (pOffset + (2 ^ wordBits a - 1)) % 2 ^ wordBits a⟩

namespace VmwPiter

variable (it : VmwPiter a)

/-- `vmw_piter_next`. -/
def next : VmwPiter a := { it with i := (it.i + 1) % 2 ^ wordBits a }

/-- What `vmw_piter_next` returns, of the iterator it has advanced. -/
def valid : Bool := it.i < it.addrs.length

/-- `vmw_piter_dma_addr`; past the pages there is nothing. -/
def dmaAddr : Option (DmaAddr a) := it.addrs[it.i]?

end VmwPiter

namespace Word

def divRoundUp (a : Arch) (n d : Nat) : Nat := (n + d - 1) % 2 ^ wordBits a / d

/-- The loop of `vmw_mob_calculate_pt_pages`; the size shrinks in every round. -/
def ptSize (a : Arch) : Nat → Nat → Nat → Nat
  | 0, _, totSize => totSize
  | fuel + 1, dataSize, totSize =>
    if PAGE_SIZE < dataSize then
      let dataSize := divRoundUp a dataSize PAGE_SIZE * VMW_PPN_SIZE a % 2 ^ wordBits a
      ptSize a fuel dataSize
        ((totSize + (dataSize + PAGE_SIZE - 1) % 2 ^ wordBits a / PAGE_SIZE * PAGE_SIZE) % 2 ^ wordBits a)
    else totSize

def vmwMobCalculatePtPages (a : Arch) (dataPages : Nat) : Nat :=
  let dataSize := dataPages * PAGE_SIZE % 2 ^ wordBits a
  ptSize a dataSize dataSize 0 / PAGE_SIZE

/-- `vmw_mob_create`. -/
def vmwMobCreate (a : Arch) (dataPages : Nat) : VmwMob a :=
  { ptBo := none, numPages := vmwMobCalculatePtPages a dataPages, ptLevel := 0, ptRootPage := 0, id := 0 }

/-- The entries of one page: `left` of them from entry `i` on, with `num` data pages to go. -/
def assignPpns (page : Nat) : Nat → Nat → VmwPiter a → Nat → Entries → Option (VmwPiter a × Nat × Entries)
  | 0, _, data, num, e => some (data, num, e)
  | left + 1, i, data, num, e =>
    data.dmaAddr.bind fun d =>
      let e := e.set page i (vmwPpn a d.val)
      let num := num - 1
      if num = 0 then some (data, num, e) else assignPpns page left (i + 1) data.next num e

/-- The page loop of `vmw_mob_build_pt`. -/
def buildPages : Nat → VmwPiter a → Nat → VmwPiter a → Entries → Option (VmwPiter a × Entries)
  | 0, _, _, pt, e => some (pt, e)
  | numPtPages + 1, data, num, pt, e =>
    if pt.valid then
      (assignPpns pt.i (perPage a) 0 data num e).bind fun (data, num, e) =>
        buildPages numPtPages data num pt.next e
    else none

/-- `vmw_mob_build_pt`, with the iterator over page table pages it leaves. -/
def vmwMobBuildPt (data : VmwPiter a) (num : Nat) (pt : VmwPiter a) (e : Entries) :
    Option (Nat × VmwPiter a × Entries) :=
  let numPtPages := divRoundUp a (num * VMW_PPN_SIZE a % 2 ^ wordBits a) PAGE_SIZE
  (buildPages numPtPages data num pt e).map fun (pt, e) => (numPtPages, pt, e)

/-- The loop of `vmw_mob_pt_setup`, `left` rounds before its `BUG_ON`. -/
def ptLoop : (left level : Nat) → (save : Option (VmwPiter a)) → (data : VmwPiter a) → Nat → VmwPiter a →
    Entries → Option (Nat × Option (VmwPiter a) × Entries)
  | 0, level, save, _, num, _, e => if 1 < num then none else some (level, save, e)
  | left + 1, level, save, data, num, pt, e =>
    if 1 < num then
      (vmwMobBuildPt data num pt e).bind fun (numPtPages, pt', e) =>
        ptLoop left (level + 1) (some pt) pt numPtPages pt' e
    else some (level, save, e)

/-- `vmw_mob_pt_setup`, with the iterator over the data pages at the first of them. -/
def vmwMobPtSetup (mob : VmwMob a) (pt : PtPages a) (data : VmwPiter a) (num : Nat) : Option (VmwMob a) :=
  let ptIter := (vmwPiterStart pt.pages 0).next
  if ptIter.valid then
    (ptLoop 2 0 none data num ptIter (fun _ _ => none)).bind fun (level, save, e) =>
      -- without a round the saved iterator is not set
      (save.bind (·.dmaAddr)).map fun root =>
        { mob with ptBo := some { pt with entry := e }, ptLevel := level, ptRootPage := root.val }
  else none

end Word

section Refine

/-- The next `num` pages of an iterator. -/
def VmwPiter.slice (it : VmwPiter a) (num : Nat) : List (DmaAddr a) := (it.addrs.drop it.i).take num

/-- So many pages are left, and they can be counted. -/
structure VmwPiter.Has (it : VmwPiter a) (num : Nat) : Prop where
  le : it.i + num ≤ it.addrs.length
  lt : it.addrs.length < 2 ^ wordBits a

variable {it : VmwPiter a} {num : Nat}

theorem VmwPiter.next_eq (h : it.Has (num + 1)) : it.next = { it with i := it.i + 1 } := by
  have hle := h.le
  have hlt := h.lt
  unfold VmwPiter.next
  rw [Nat.mod_eq_of_lt (by omega)]

theorem VmwPiter.Has.next (h : it.Has (num + 1)) : it.next.Has num := by
  have hle := h.le
  rw [VmwPiter.next_eq h]
  exact ⟨by dsimp only; omega, h.lt⟩

theorem VmwPiter.Has.dmaAddr (h : it.Has (num + 1)) :
    ∃ d, it.dmaAddr = some d ∧ it.slice (num + 1) = d :: it.next.slice num := by
  have hle := h.le
  have hlt : it.i < it.addrs.length := by omega
  refine ⟨it.addrs[it.i], List.getElem?_eq_getElem hlt, ?_⟩
  rw [VmwPiter.next_eq h]
  unfold VmwPiter.slice
  rw [List.drop_eq_getElem_cons hlt, List.take_succ_cons]

theorem VmwPiter.Has.mono (h : it.Has num) {k : Nat} (hk : k ≤ num) : it.Has k :=
  ⟨le_trans (Nat.add_le_add_left hk _) h.le, h.lt⟩

theorem VmwPiter.Has.length_slice (h : it.Has num) : (it.slice num).length = num := by
  have hle := h.le
  unfold VmwPiter.slice
  rw [List.length_take, List.length_drop]
  omega

/-- The entries of one page are those of the next data pages. -/
theorem assignPpns_eq (page : Nat) {left i : Nat} {data : VmwPiter a} {e : Entries} (hpos : 0 < num)
    (h : data.Has num) :
    ∃ data', Word.assignPpns page left i data num e =
        some (data', num - left, vmwMobAssignPpns page i ((data.slice num).take left) e) ∧
      (left < num → data' = { data with i := data.i + left }) := by
  induction left generalizing i data num e with
  | zero => exact ⟨data, rfl, fun _ => rfl⟩
  | succ left ih =>
    obtain ⟨k, rfl⟩ : ∃ k, num = k + 1 := ⟨num - 1, by omega⟩
    obtain ⟨d, hd, hslice⟩ := h.dmaAddr
    unfold Word.assignPpns
    rw [hd, Option.bind_some, hslice, List.take_succ_cons, vmwMobAssignPpns, Nat.add_sub_cancel,
      Nat.add_sub_add_right]
    dsimp only
    by_cases hk : k = 0
    · subst hk
      rw [if_pos rfl, Nat.zero_sub]
      refine ⟨data, ?_, fun hlt => absurd hlt (by omega)⟩
      have hnil : data.next.slice 0 = [] := List.take_zero
      rw [hnil, List.take_nil]
      rfl
    · obtain ⟨data', hassign, hdata'⟩ := ih (i := i + 1) (e := e.set page i (vmwPpn a d.val))
        (Nat.pos_of_ne_zero hk) h.next
      rw [if_neg hk]
      refine ⟨data', hassign, fun hlt => ?_⟩
      rw [hdata' (by omega), VmwPiter.next_eq h, Nat.add_assoc, Nat.add_comm 1 left]

theorem buildPages_eq {cnt : Nat} {data pt : VmwPiter a} {e : Entries} (hdata : data.Has num)
    (hpt : pt.Has cnt) (hle : num ≤ cnt * perPage a) (hlt : cnt * perPage a < num + perPage a) :
    Word.buildPages cnt data num pt e =
      some ({ pt with i := pt.i + cnt }, vmwMobBuildPages cnt pt.i (data.slice num) e) := by
  induction cnt generalizing data num pt e with
  | zero => rfl
  | succ cnt ih =>
    rw [Nat.succ_mul] at hle hlt
    have hvalid : pt.valid = true := by
      have := hpt.le
      unfold VmwPiter.valid
      exact decide_eq_true (by omega)
    obtain ⟨data', hassign, hdata'⟩ :=
      @assignPpns_eq a _ pt.i (perPage a) 0 _ e (by omega) hdata
    unfold Word.buildPages
    rw [if_pos hvalid, hassign, Option.bind_some]
    dsimp only
    rw [vmwMobBuildPages]
    by_cases hlast : num ≤ perPage a
    · have hzero : cnt = 0 := by
        rcases Nat.eq_zero_or_pos cnt with h | h
        · exact h
        · have := Nat.le_mul_of_pos_left (perPage a) h
          omega
      subst hzero
      rw [VmwPiter.next_eq hpt]
      rfl
    · obtain rfl := hdata' (by omega)
      have hhas : ({ data with i := data.i + perPage a } : VmwPiter a).Has (num - perPage a) := by
        have := hdata.le
        exact ⟨by dsimp only; omega, hdata.lt⟩
      have hdrop : (data.slice num).drop (perPage a) =
          ({ data with i := data.i + perPage a } : VmwPiter a).slice (num - perPage a) := by
        unfold VmwPiter.slice
        rw [List.drop_take, List.drop_drop]
      rw [ih hhas hpt.next (by omega) (by omega), VmwPiter.next_eq hpt, hdrop, Nat.add_assoc, Nat.add_comm 1 cnt]

theorem lt_numPtPages_iff {k n : Nat} : k < numPtPages a n ↔ k * perPage a < n := by
  cases a <;> simp only [numPtPages, divRoundUp, perPage, PAGE_SIZE, VMW_PPN_SIZE] <;> omega

theorem vmwMobBuildPt_eq {data pt : VmwPiter a} {e : Entries} (hpos : 0 < num) (hdata : data.Has num)
    (hpt : pt.Has (numPtPages a num)) (hword : num * PAGE_SIZE < 2 ^ wordBits a) :
    Word.vmwMobBuildPt data num pt e =
      some (numPtPages a num, { pt with i := pt.i + numPtPages a num },
        vmwMobBuildPt pt.i (data.slice num) e) := by
  have hcount : Word.divRoundUp a (num * VMW_PPN_SIZE a % 2 ^ wordBits a) PAGE_SIZE = numPtPages a num := by
    cases a <;> simp only [Word.divRoundUp, numPtPages, divRoundUp, wordBits, PAGE_SIZE, VMW_PPN_SIZE] at hword ⊢ <;>
      omega
  have hlt : numPtPages a num * perPage a < num + perPage a := by
    cases a <;> simp only [numPtPages, divRoundUp, perPage, PAGE_SIZE, VMW_PPN_SIZE] <;> omega
  unfold Word.vmwMobBuildPt
  rw [hcount]
  dsimp only
  rw [buildPages_eq hdata hpt (le_numPtPages_mul a num) hlt]
  unfold vmwMobBuildPt
  rw [hdata.length_slice]
  rfl

end Refine

section Count

/-- Without a wrap the loop counts as on natural numbers. -/
theorem word_ptSize_eq {fuel dataSize totSize : Nat}
    (h : PAGE_SIZE < dataSize → totSize + dataSize + PAGE_SIZE ≤ 2 ^ wordBits a) :
    Word.ptSize a fuel dataSize totSize = totSize + ptSize a fuel dataSize := by
  induction fuel generalizing dataSize totSize with
  | zero => rfl
  | succ fuel ih =>
    unfold Word.ptSize ptSize
    split
    · rename_i hlarge
      have hfits := h hlarge
      have hsize : Word.divRoundUp a dataSize PAGE_SIZE * VMW_PPN_SIZE a % 2 ^ wordBits a =
          divRoundUp dataSize PAGE_SIZE * VMW_PPN_SIZE a := by
        cases a <;> simp only [Word.divRoundUp, divRoundUp, wordBits, PAGE_SIZE, VMW_PPN_SIZE] at hfits hlarge ⊢ <;>
          omega
      have hround : (totSize + (divRoundUp dataSize PAGE_SIZE * VMW_PPN_SIZE a + PAGE_SIZE - 1) %
          2 ^ wordBits a / PAGE_SIZE * PAGE_SIZE) % 2 ^ wordBits a =
            totSize + divRoundUp (divRoundUp dataSize PAGE_SIZE * VMW_PPN_SIZE a) PAGE_SIZE * PAGE_SIZE := by
        cases a <;> simp only [divRoundUp, wordBits, PAGE_SIZE, VMW_PPN_SIZE] at hfits hlarge ⊢ <;> omega
      dsimp only
      rw [hsize, hround, ih, Nat.add_assoc]
      intro hmore
      cases a <;> simp only [divRoundUp, wordBits, PAGE_SIZE, VMW_PPN_SIZE] at hfits hlarge hmore ⊢ <;> omega
    · rfl

theorem word_calculatePtPages_eq {n : Nat} (h : n * PAGE_SIZE < 2 ^ wordBits a) :
    Word.vmwMobCalculatePtPages a n = vmwMobCalculatePtPages a n := by
  unfold Word.vmwMobCalculatePtPages vmwMobCalculatePtPages
  rw [Nat.mod_eq_of_lt h]
  dsimp only
  rw [word_ptSize_eq, Nat.zero_add]
  intro _
  cases a <;> simp only [wordBits, PAGE_SIZE] at h ⊢ <;> omega

theorem calculatePtPages_one (a : Arch) : vmwMobCalculatePtPages a 1 = 0 := by
  cases a <;> decide

theorem numPtPages_of_le {n : Nat} (hpos : 0 < n) (h : n ≤ perPage a) : numPtPages a n = 1 := by
  cases a <;> simp only [numPtPages, divRoundUp, perPage, PAGE_SIZE, VMW_PPN_SIZE] at h ⊢ <;> omega

theorem numPtPages_le {n : Nat} (h : n ≤ perPage a ^ 2) : numPtPages a n ≤ perPage a := by
  cases a <;> simp only [numPtPages, divRoundUp, perPage, PAGE_SIZE, VMW_PPN_SIZE] at h ⊢ <;> omega

theorem one_lt_numPtPages {n : Nat} (h : perPage a < n) : 1 < numPtPages a n := by
  cases a <;> simp only [numPtPages, divRoundUp, perPage, PAGE_SIZE, VMW_PPN_SIZE] at h ⊢ <;> omega

/-- One page holds the table of few pages. -/
theorem calculatePtPages_small {n : Nat} (h : 1 < n) (hle : n ≤ perPage a) :
    vmwMobCalculatePtPages a n = 1 := by
  rw [vmwMobCalculatePtPages_step h, numPtPages_of_le (by omega) hle, calculatePtPages_one]

/-- And one more those of many. -/
theorem calculatePtPages_large {n : Nat} (h : perPage a < n) (hle : n ≤ perPage a ^ 2) :
    vmwMobCalculatePtPages a n = numPtPages a n + 1 := by
  have hmany := one_lt_numPtPages h
  have hpos := perPage_pos a
  rw [vmwMobCalculatePtPages_step (by omega), calculatePtPages_small hmany (numPtPages_le hle)]

end Count

section Setup

/-- The tables over the data pages. -/
def leafTables (data : List (DmaAddr a)) : Entries := vmwMobBuildPt 0 data (fun _ _ => none)

/-- And the table over those. -/
def rootTable (pt : PtPages a) (data : List (DmaAddr a)) : Entries :=
  vmwMobBuildPt (numPtPages a data.length) (pt.pages.take (numPtPages a data.length)) (leafTables data)

variable {mob : VmwMob a} {pt : PtPages a} {data : VmwPiter a} {n : Nat} {root : DmaAddr a}

theorem start_next (addrs : List (DmaAddr a)) : (vmwPiterStart addrs 0).next = ⟨addrs, 0⟩ := by
  have hwrap : ((0 + (2 ^ wordBits a - 1)) % 2 ^ wordBits a + 1) % 2 ^ wordBits a = 0 := by
    cases a <;> decide
  unfold vmwPiterStart VmwPiter.next
  rw [hwrap]

/-- What the setup leaves: the level, the root and the tables. -/
def setUp (mob : VmwMob a) (pt : PtPages a) (level : Nat) (root : DmaAddr a) (e : Entries) : VmwMob a :=
  { mob with ptBo := some { pt with entry := e }, ptLevel := level, ptRootPage := root.val }

theorem ptSetup_small (h : 1 < n) (hle : n ≤ perPage a) (hdata : data.Has n)
    (hword : n * PAGE_SIZE < 2 ^ wordBits a) (hlen : pt.pages.length = vmwMobCalculatePtPages a n)
    (hroot : pt.pages[0]? = some root) :
    Word.vmwMobPtSetup mob pt data n = some (setUp mob pt 1 root (leafTables (data.slice n))) := by
  have hpages := numPtPages_of_le (a := a) (by omega) hle
  rw [calculatePtPages_small h hle] at hlen
  have hpt : ({ addrs := pt.pages, i := 0 } : VmwPiter a).Has (numPtPages a n) := by
    rw [hpages]
    exact ⟨by dsimp only; omega, by dsimp only; rw [hlen]; cases a <;> decide⟩
  have hvalid : ({ addrs := pt.pages, i := 0 } : VmwPiter a).valid = true := by
    unfold VmwPiter.valid
    exact decide_eq_true (by dsimp only; omega)
  unfold Word.vmwMobPtSetup
  rw [start_next]
  dsimp only
  rw [if_pos hvalid, Word.ptLoop, if_pos h, vmwMobBuildPt_eq (by omega) hdata hpt hword, Option.bind_some]
  dsimp only
  rw [hpages, Word.ptLoop, if_neg (by decide), Option.bind_some]
  dsimp only
  rw [Option.bind_some, VmwPiter.dmaAddr]
  dsimp only
  rw [hroot]
  rfl

theorem ptSetup_large (h : perPage a < n) (hle : n ≤ perPage a ^ 2) (hdata : data.Has n)
    (hword : n * PAGE_SIZE < 2 ^ wordBits a) (hlen : pt.pages.length = vmwMobCalculatePtPages a n)
    (hroot : pt.pages[numPtPages a n]? = some root) :
    Word.vmwMobPtSetup mob pt data n = some (setUp mob pt 2 root (rootTable pt (data.slice n))) := by
  have hpos := perPage_pos a
  have hmany := one_lt_numPtPages h
  have hpages := numPtPages_of_le (a := a) (by omega) (numPtPages_le hle)
  have hless := numPtPages_lt (a := a) (n := n) (by omega)
  rw [calculatePtPages_large h hle] at hlen
  have hcount : pt.pages.length < 2 ^ wordBits a := by
    rw [hlen]
    cases a <;> simp only [wordBits, PAGE_SIZE] at hword ⊢ <;> omega
  have hpt (i k : Nat) (hik : i + k ≤ numPtPages a n + 1) : ({ addrs := pt.pages, i } : VmwPiter a).Has k :=
    ⟨by dsimp only; omega, hcount⟩
  have hvalid : ({ addrs := pt.pages, i := 0 } : VmwPiter a).valid = true := by
    unfold VmwPiter.valid
    exact decide_eq_true (by dsimp only; omega)
  have hword' : numPtPages a n * PAGE_SIZE < 2 ^ wordBits a :=
    lt_of_le_of_lt (Nat.mul_le_mul_right _ (by omega)) hword
  have hslice : ({ addrs := pt.pages, i := 0 } : VmwPiter a).slice (numPtPages a n) =
      pt.pages.take (numPtPages a n) := by
    unfold VmwPiter.slice
    rw [List.drop_zero]
  unfold Word.vmwMobPtSetup
  rw [start_next]
  dsimp only
  rw [if_pos hvalid, Word.ptLoop, if_pos (by omega),
    vmwMobBuildPt_eq (by omega) hdata (hpt 0 _ (by omega)) hword, Option.bind_some]
  dsimp only
  rw [Nat.zero_add, Word.ptLoop, if_pos hmany,
    vmwMobBuildPt_eq (by omega) (hpt 0 _ (by omega)) (hpt _ _ (by omega)) hword', Option.bind_some]
  dsimp only
  rw [hpages, Word.ptLoop, if_neg (by decide), Option.bind_some]
  dsimp only
  rw [Option.bind_some, VmwPiter.dmaAddr]
  dsimp only
  rw [Nat.zero_add, hroot, hslice]
  unfold rootTable
  rw [hdata.length_slice]
  rfl

/-- The list of tables has the root that the loop over lists saves. -/
theorem ptLoop_small {data : List (DmaAddr a)} (h : 1 < data.length) (hle : data.length ≤ perPage a) :
    vmwMobPtLoop pt.pages 2 0 0 0 data (fun _ _ => none) = some (1, 0, leafTables data) := by
  have hpages := numPtPages_of_le (a := a) (by omega) hle
  have hlen : ((pt.pages.drop 0).take (numPtPages a data.length)).length ≤ 1 := by
    rw [List.length_take, hpages]
    omega
  rw [vmwMobPtLoop, if_pos h]
  dsimp only
  rw [vmwMobPtLoop, if_neg (by omega)]
  rfl

theorem ptLoop_large {data : List (DmaAddr a)} (h : perPage a < data.length)
    (hle : data.length ≤ perPage a ^ 2)
    (hlen : pt.pages.length = vmwMobCalculatePtPages a data.length) :
    vmwMobPtLoop pt.pages 2 0 0 0 data (fun _ _ => none) =
      some (2, numPtPages a data.length, rootTable pt data) := by
  have hpos := perPage_pos a
  have hmany := one_lt_numPtPages h
  have hpages := numPtPages_of_le (a := a) (by omega) (numPtPages_le hle)
  rw [calculatePtPages_large h hle] at hlen
  have htake : (pt.pages.take (numPtPages a data.length)).length = numPtPages a data.length := by
    rw [List.length_take]
    omega
  rw [vmwMobPtLoop, if_pos (by omega)]
  dsimp only
  rw [List.drop_zero, vmwMobPtLoop, if_pos (by omega)]
  dsimp only
  rw [htake, hpages, vmwMobPtLoop, if_neg]
  · simp only [Nat.zero_add]
    rfl
  · rw [List.length_take]
    omega

end Setup

section RoundTrip

variable {pt : PtPages a} {data : List (DmaAddr a)} {root : DmaAddr a}

/-- Some entry of the page was written. -/
def Written (e : Entries) (p : Nat) : Prop := ∃ j v, e p j = some v

theorem built_iff (it : Nat) (data : List (DmaAddr a)) (e : Entries) (p : Nat) :
    Written (vmwMobBuildPt it data e) p ↔
      it ≤ p ∧ p < it + numPtPages a data.length ∨ Written e p := by
  unfold Written
  constructor
  · rintro ⟨j, v, hv⟩
    rw [vmwMobBuildPt_apply] at hv
    split at hv
    · rename_i hpage
      cases hentry : data[(p - it) * perPage a + j]? with
      | none =>
        rw [hentry] at hv
        exact .inr ⟨j, v, hv⟩
      | some d =>
        have hlt := (List.getElem?_eq_some_iff.mp hentry).1
        have hcount : p - it < numPtPages a data.length := lt_numPtPages_iff.mpr (by omega)
        exact .inl ⟨hpage.1, by omega⟩
    · exact .inr ⟨j, v, hv⟩
  · rintro (⟨hge, hlt⟩ | ⟨j, v, hv⟩)
    · have hfirst : (p - it) * perPage a < data.length := lt_numPtPages_iff.mp (by omega)
      refine ⟨0, vmwPpn a (data[(p - it) * perPage a]).val, ?_⟩
      rw [vmwMobBuildPt_apply, if_pos ⟨hge, perPage_pos a⟩, Nat.add_zero, List.getElem?_eq_getElem hfirst]
      rfl
    · by_cases hentry : it ≤ p ∧ j < perPage a
      · cases hdata : data[(p - it) * perPage a + j]? with
        | none =>
          refine ⟨j, v, ?_⟩
          rw [vmwMobBuildPt_apply, if_pos hentry, hdata]
          exact hv
        | some d =>
          refine ⟨j, vmwPpn a d.val, ?_⟩
          rw [vmwMobBuildPt_apply, if_pos hentry, hdata]
          rfl
      · refine ⟨j, v, ?_⟩
        rw [vmwMobBuildPt_apply, if_neg hentry]
        exact hv

theorem written_leafTables (p : Nat) : Written (leafTables data) p ↔ p < numPtPages a data.length := by
  have hnone : ¬ Written (fun _ _ => none) p := by
    rintro ⟨j, v, hv⟩
    cases hv
  unfold leafTables
  rw [built_iff]
  simp [hnone]

theorem written_rootTable (h : perPage a < data.length) (hle : data.length ≤ perPage a ^ 2)
    (hlen : pt.pages.length = vmwMobCalculatePtPages a data.length) (p : Nat) :
    Written (rootTable pt data) p ↔ p < numPtPages a data.length + 1 := by
  have hmany := one_lt_numPtPages h
  have hpages := numPtPages_of_le (a := a) (by omega) (numPtPages_le hle)
  rw [calculatePtPages_large h hle] at hlen
  have htake : (pt.pages.take (numPtPages a data.length)).length = numPtPages a data.length := by
    rw [List.length_take]
    omega
  unfold rootTable
  rw [built_iff, written_leafTables, htake, hpages]
  omega

theorem nodesOnce_one (read : Nat → Nat → Option Nat) (root : Nat) : Radix.NodesOnce read 1 root := by
  intro path path' n hpath hpath' _ _
  rw [List.eq_nil_of_length_eq_zero (Nat.lt_one_iff.mp hpath),
    List.eq_nil_of_length_eq_zero (Nat.lt_one_iff.mp hpath')]

/-- The entries of the root name the tables over the data pages. -/
theorem read_root (hroot : pt.pages[numPtPages a data.length]? = some root) {j v : Nat}
    (h : readEntries pt (rootTable pt data) (vmwPpn a root.val) j = some v) :
    ∃ k d, k < numPtPages a data.length ∧ k = j ∧ pt.pages[k]? = some d ∧ v = vmwPpn a d.val := by
  have hfresh : leafTables data (numPtPages a data.length) j = none := by
    cases hentry : leafTables data (numPtPages a data.length) j with
    | none => rfl
    | some w => exact absurd (written_leafTables _ |>.mp ⟨j, w, hentry⟩) (Nat.lt_irrefl _)
  rw [readEntries_page pt _ hroot] at h
  unfold rootTable at h
  rw [vmwMobBuildPt_apply, hfresh] at h
  split at h
  · rw [Nat.sub_self, Nat.zero_mul, Nat.zero_add, Option.or_none, List.getElem?_take] at h
    split at h
    · rename_i hlt
      obtain ⟨d, hd, rfl⟩ := Option.map_eq_some_iff.mp h
      exact ⟨j, d, hlt, rfl, hd, rfl⟩
    · cases h
  · cases h

theorem index_unique {d d' : DmaAddr a} {k k' : Nat} (hk : pt.pages[k]? = some d)
    (hk' : pt.pages[k']? = some d') (h : vmwPpn a d.val = vmwPpn a d'.val) : k = k' := by
  obtain rfl := vmwPpn_inj h
  obtain ⟨hlt, heq⟩ := List.getElem?_eq_some_iff.mp hk
  obtain ⟨hlt', heq'⟩ := List.getElem?_eq_some_iff.mp hk'
  exact (List.Nodup.getElem_inj_iff pt.nodup).mp (heq.trans heq'.symm)

theorem nodesOnce_two (hroot : pt.pages[numPtPages a data.length]? = some root) :
    Radix.NodesOnce (readEntries pt (rootTable pt data)) 2 (vmwPpn a root.val) := by
  -- a path is either empty or one entry of the root
  have hpage (path : List Nat) (n : Nat) (hlen : path.length < 2)
      (h : Radix.descend (readEntries pt (rootTable pt data)) path (vmwPpn a root.val) = some n) :
      ∃ k d, pt.pages[k]? = some d ∧ n = vmwPpn a d.val ∧
        path = if k < numPtPages a data.length then [k] else [] := by
    match path with
    | [] =>
      cases h
      exact ⟨_, root, hroot, rfl, by rw [if_neg (Nat.lt_irrefl _)]⟩
    | [j] =>
      obtain ⟨v, hv, hrest⟩ := Option.bind_eq_some_iff.mp h
      cases hrest
      obtain ⟨k, d, hlt, rfl, hd, rfl⟩ := read_root hroot hv
      exact ⟨k, d, hd, rfl, by rw [if_pos hlt]⟩
    | _ :: _ :: rest => exact absurd hlen (by simp)
  intro path path' n hlen hlen' h h'
  obtain ⟨k, d, hd, rfl, hpath⟩ := hpage path n hlen h
  obtain ⟨k', d', hd', heq, hpath'⟩ := hpage path' _ hlen' h'
  rw [hpath, hpath', index_unique hd hd' heq]

/-- The page table of a mob leads to every data page, has as many pages as were counted, and no
page at two places. -/
structure Table (data : List (DmaAddr a)) (mob : VmwMob a) (pt : PtBo a) : Prop where
  ptBo : mob.ptBo = some pt
  walks : ∀ i (hi : i < data.length),
    Radix.walk pt.read (perPage a) mob.ptLevel (vmwPpn a mob.ptRootPage) i = some (vmwPpn a data[i].val)
  written : ∀ p, Written pt.entry p ↔ p < Word.vmwMobCalculatePtPages a data.length
  once : Radix.NodesOnce pt.read mob.ptLevel (vmwPpn a mob.ptRootPage)

/-- `vmw_mob_pt_setup` builds it in as many pages as `vmw_mob_create` counted. -/
def RoundTrip (a : Arch) (data : VmwPiter a) (n : Nat) : Prop :=
  ∀ (mob : VmwMob a) (pt : PtPages a), pt.pages.length = (Word.vmwMobCreate a n).numPages →
    ∃ mob' bo, Word.vmwMobPtSetup mob pt data n = some mob' ∧ Table (data.slice n) mob' bo

/-- The walk of the loop over lists, from its root. -/
theorem walks_of_ptLoop {level save : Nat} {e : Entries} (hmany : 1 < data.length)
    (hpages : vmwMobCalculatePtPages a data.length ≤ pt.pages.length)
    (h : vmwMobPtLoop pt.pages 2 0 0 0 data (fun _ _ => none) = some (level, save, e))
    (hroot : pt.pages[save]? = some root) {i : Nat} (hi : i < data.length) :
    Radix.walk (readEntries pt e) (perPage a) level (vmwPpn a root.val) i =
      some (vmwPpn a data[i].val) := by
  obtain ⟨-, d, hd, hcov⟩ := vmwMobPtLoop_covers
    (fun hnil => by rw [hnil] at hmany; cases hmany) (fun hone => absurd hmany hone) (fun _ _ _ => rfl)
    (by omega) (Radix.covers_zero _) h
  rw [hroot] at hd
  cases hd
  have hlen : i < (ppns data).length := by
    unfold ppns
    rw [List.length_map]
    exact hi
  rw [hcov.walk_root hlen]
  simp only [ppns, List.getElem_map]

/-- Every number of data pages whose table has at most two levels, and whose bytes can be counted
in an `unsigned long`, gets its table. -/
theorem pt_round_trip {a : Arch} {data : VmwPiter a} {n : Nat} (hdata : data.Has n) (h : 1 < n)
    (hlevels : n ≤ perPage a ^ 2) (hbytes : n * PAGE_SIZE < 2 ^ wordBits a) : RoundTrip a data n := by
  intro mob pt hlen
  have hcount := word_calculatePtPages_eq hbytes
  have hlen' : pt.pages.length = vmwMobCalculatePtPages a n := hlen.trans hcount
  have hslice := hdata.length_slice
  have hmany : 1 < (data.slice n).length := by rw [hslice]; exact h
  have hpages : vmwMobCalculatePtPages a (data.slice n).length ≤ pt.pages.length := by
    rw [hslice]
    exact Nat.le_of_eq hlen'.symm
  rcases Nat.lt_or_ge (perPage a) n with hlarge | hsmall
  · have hnum := calculatePtPages_large hlarge hlevels
    have hlt : numPtPages a n < pt.pages.length := by omega
    obtain ⟨root, hroot⟩ : ∃ root, pt.pages[numPtPages a n]? = some root :=
      ⟨_, List.getElem?_eq_getElem hlt⟩
    have hmany' : perPage a < (data.slice n).length := by rw [hslice]; exact hlarge
    have hlevels' : (data.slice n).length ≤ perPage a ^ 2 := by rw [hslice]; exact hlevels
    have hlen'' : pt.pages.length = vmwMobCalculatePtPages a (data.slice n).length := by
      rw [hslice]
      exact hlen'
    have hloop := ptLoop_large hmany' hlevels' hlen''
    have hroot' : pt.pages[numPtPages a (data.slice n).length]? = some root := by
      rw [hslice]
      exact hroot
    refine ⟨_, _, ptSetup_large hlarge hlevels hdata hbytes hlen' hroot, ⟨rfl, ?_, ?_, ?_⟩⟩
    · exact fun i hi => walks_of_ptLoop hmany hpages hloop hroot' hi
    · intro p
      rw [hslice, hcount, hnum]
      have hwritten := written_rootTable hmany' hlevels' hlen'' p
      rw [hslice] at hwritten
      exact hwritten
    · exact nodesOnce_two hroot'
  · have hnum := calculatePtPages_small h hsmall
    have hlt : 0 < pt.pages.length := by omega
    obtain ⟨root, hroot⟩ : ∃ root, pt.pages[0]? = some root := ⟨_, List.getElem?_eq_getElem hlt⟩
    have hsmall' : (data.slice n).length ≤ perPage a := by rw [hslice]; exact hsmall
    have hloop : vmwMobPtLoop pt.pages 2 0 0 0 (data.slice n) (fun _ _ => none) = some (1, 0, leafTables (data.slice n)) :=
      ptLoop_small hmany hsmall'
    refine ⟨_, _, ptSetup_small h hsmall hdata hbytes hlen' hroot, ⟨rfl, ?_, ?_, ?_⟩⟩
    · exact fun i hi => walks_of_ptLoop hmany hpages hloop hroot hi
    · intro p
      rw [hslice, hcount, hnum]
      have hwritten : Written (leafTables (data.slice n)) p ↔ p < numPtPages a (data.slice n).length :=
        written_leafTables p
      rw [numPtPages_of_le (by omega) hsmall'] at hwritten
      exact hwritten
    · exact nodesOnce_one _ _

end RoundTrip

section Example

theorem second_page_lt (a : Arch) : PAGE_SIZE + PAGE_SIZE < 2 ^ addrBits a := by
  cases a <;> decide

/-- Pages of one address. -/
def samePages (a : Arch) (n : Nat) : VmwPiter a :=
  ⟨List.replicate n ⟨PAGE_SIZE, Nat.dvd_refl _, second_page_lt a⟩, 0⟩

theorem samePages_has {n : Nat} (h : n < 2 ^ wordBits a) : (samePages a n).Has n := by
  have hlen : (samePages a n).addrs.length = n := List.length_replicate
  exact ⟨Nat.le_of_eq ((Nat.zero_add n).trans hlen.symm), hlen.symm ▸ h⟩

/-- A thousand of them on a 64-bit kernel: two tables and a root. -/
theorem pt_round_trip_many : RoundTrip .bits64 (samePages .bits64 1000) 1000 :=
  pt_round_trip (samePages_has (by decide)) (by decide) (by decide) (by decide)

/-- On a 32-bit kernel the bytes of 2^20 pages wrap to none, and there is no page for the table,
although two levels hold it. -/
theorem pt_pages_wrap : (samePages .bits32 (2 ^ 20)).Has (2 ^ 20) ∧ 2 ^ 20 ≤ perPage .bits32 ^ 2 ∧
    Word.vmwMobCalculatePtPages .bits32 (2 ^ 20) = 0 ∧
    ¬ RoundTrip .bits32 (samePages .bits32 (2 ^ 20)) (2 ^ 20) := by
  have hzero : Word.vmwMobCalculatePtPages .bits32 (2 ^ 20) = 0 := by decide
  refine ⟨samePages_has (by decide), by decide, hzero, fun hround => ?_⟩
  obtain ⟨mob, bo, hsetup, -⟩ := hround (Word.vmwMobCreate .bits32 0) ⟨[], List.nodup_nil⟩ hzero.symm
  unfold Word.vmwMobPtSetup at hsetup
  rw [start_next] at hsetup
  cases hsetup

end Example

end Vmwgfx.Mob
