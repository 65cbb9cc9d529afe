import Mathlib.Data.List.Range
import Vmwgfx.Gmr.Defs

/-! The command stream of `vmw_gmr2_bind` has the size that was reserved for it, and the device
reads from it which frame is at which offset. -/

namespace Vmwgfx.Gmr

open Lib Mob

variable {a : Arch} {addrs : List (DmaAddr a)} {gmrId : Nat}

section Size

theorem perRemap_pos (a : Arch) : 0 < VMW_PPN_PER_REMAP a := by
  cases a <;> decide

theorem remapNum_zero (a : Arch) : remapNum a 0 = 0 := by
  cases a <;> decide

theorem remapNum_of_le {n : Nat} (hpos : 0 < n) (h : n ≤ VMW_PPN_PER_REMAP a) : remapNum a n = 1 := by
  unfold remapNum
  rcases Nat.eq_or_lt_of_le h with heq | hlt
  · rw [heq, Nat.div_self (perRemap_pos a), Nat.mod_self]
    rfl
  · rw [Nat.div_eq_of_lt hlt, Nat.mod_eq_of_lt hlt, if_pos hpos]

theorem remapNum_of_lt {n : Nat} (h : VMW_PPN_PER_REMAP a < n) :
    remapNum a n = remapNum a (n - VMW_PPN_PER_REMAP a) + 1 := by
  unfold remapNum
  obtain ⟨m, rfl⟩ := Nat.exists_eq_add_of_lt h
  have hsub : VMW_PPN_PER_REMAP a + m + 1 - VMW_PPN_PER_REMAP a = m + 1 := by omega
  have hcomm : VMW_PPN_PER_REMAP a + m + 1 = m + 1 + VMW_PPN_PER_REMAP a := by omega
  rw [hsub, hcomm, Nat.add_div_right _ (perRemap_pos a), Nat.add_mod_right]
  omega

/-- One round counts one command. -/
theorem remapNum_round {n : Nat} (hpos : 0 < n) :
    remapNum a n = remapNum a (n - min n (VMW_PPN_PER_REMAP a)) + 1 := by
  rcases Nat.lt_or_ge (VMW_PPN_PER_REMAP a) n with hlt | hle
  · rw [Nat.min_eq_right hlt.le, remapNum_of_lt hlt]
  · rw [Nat.min_eq_left hle, Nat.sub_self, remapNum_of_le hpos hle, remapNum_zero]

theorem length_ppnWords (d : DmaAddr a) : (ppnWords a d).length * 4 = VMW_PPN_SIZE a := by
  cases a <;> rfl

theorem length_flatMap_ppnWords (addrs : List (DmaAddr a)) :
    (addrs.flatMap (ppnWords a)).length * 4 = VMW_PPN_SIZE a * addrs.length := by
  induction addrs with
  | nil => rfl
  | cons d addrs ih =>
    rw [List.flatMap_cons, List.length_append, Nat.add_mul, ih, length_ppnWords, List.length_cons, Nat.mul_succ,
      Nat.add_comm]

/-- The rounds write what the sizes were computed from. -/
theorem length_remapLoop {fuel pos : Nat} (hfuel : addrs.length ≤ fuel) :
    (remapLoop a gmrId fuel pos addrs).length * 4 =
      VMW_PPN_SIZE a * addrs.length + remapHeaderSize * remapNum a addrs.length := by
  induction fuel generalizing pos addrs with
  | zero =>
    rw [Nat.le_zero.mp hfuel, remapNum_zero]
    rfl
  | succ fuel ih =>
    rw [remapLoop]
    split
    · rename_i hzero
      rw [hzero, remapNum_zero]
      rfl
    · rename_i hne
      have hpos := perRemap_pos a
      have hrest := @ih (addrs.drop (min addrs.length (VMW_PPN_PER_REMAP a)))
        (add32 pos (min addrs.length (VMW_PPN_PER_REMAP a))) (by rw [List.length_drop]; omega)
      have htake := length_flatMap_ppnWords (addrs.take (min addrs.length (VMW_PPN_PER_REMAP a)))
      have hround := @remapNum_round a addrs.length (by omega)
      rw [List.length_drop] at hrest
      rw [List.length_take, Nat.min_eq_left (Nat.min_le_left _ _)] at htake
      have hsplit : VMW_PPN_SIZE a * addrs.length =
          VMW_PPN_SIZE a * min addrs.length (VMW_PPN_PER_REMAP a) +
            VMW_PPN_SIZE a * (addrs.length - min addrs.length (VMW_PPN_PER_REMAP a)) := by
        rw [← Nat.mul_add]
        congr 1
        omega
      dsimp only
      rw [List.length_append, List.length_append, Nat.add_mul, Nat.add_mul, hrest, htake, hround, hsplit]
      simp only [List.length_cons, List.length_nil, remapHeaderSize]
      omega

/-- The stream of so many pages can be counted in 32 bits. -/
def FitsCmd (a : Arch) (numPages : Nat) : Prop :=
  defineSize + VMW_PPN_SIZE a * numPages + remapHeaderSize * remapNum a numPages < 2 ^ 32

theorem cmdSize_eq {n : Nat} (h : FitsCmd a n) :
    cmdSize a n = defineSize + VMW_PPN_SIZE a * n + remapHeaderSize * remapNum a n := by
  unfold FitsCmd at h
  have hnum : remapNum a n % 2 ^ 32 = remapNum a n := by
    apply Nat.mod_eq_of_lt
    simp only [remapHeaderSize] at h
    omega
  unfold cmdSize
  rw [hnum, Nat.mod_eq_of_lt (by omega), add32_of_lt (by omega), Nat.add_assoc]

end Size

section Read

theorem readPpns_ppnWords (addrs : List (DmaAddr a)) (rest : List Nat) :
    readPpns (remapFlags a) addrs.length (addrs.flatMap (ppnWords a) ++ rest) =
      some (addrs.map (fun d => d.val / PAGE_SIZE), rest) := by
  induction addrs with
  | nil => rfl
  | cons d addrs ih =>
    have hlt := d.lt
    cases a with
    | bits32 =>
      have hframe : d.val / PAGE_SIZE % 2 ^ 32 = d.val / PAGE_SIZE := by
        simp only [PAGE_SIZE, addrBits] at hlt ⊢
        omega
      have hwords : (d :: addrs).flatMap (ppnWords .bits32) ++ rest =
          (d.val / PAGE_SIZE % 2 ^ 32) :: (addrs.flatMap (ppnWords .bits32) ++ rest) := rfl
      rw [hwords, List.length_cons]
      unfold readPpns
      rw [if_neg (by decide), if_pos (by decide)]
      dsimp only
      rw [ih, hframe]
      rfl
    | bits64 =>
      have hframe : d.val / PAGE_SIZE % 2 ^ 32 + d.val / PAGE_SIZE / 2 ^ 32 % 2 ^ 32 * 2 ^ 32 = d.val / PAGE_SIZE := by
        simp only [PAGE_SIZE, addrBits] at hlt ⊢
        omega
      have hwords : (d :: addrs).flatMap (ppnWords .bits64) ++ rest =
          (d.val / PAGE_SIZE % 2 ^ 32) :: (d.val / PAGE_SIZE / 2 ^ 32 % 2 ^ 32) ::
            (addrs.flatMap (ppnWords .bits64) ++ rest) := rfl
      rw [hwords, List.length_cons, readPpns, if_pos (by decide), ih, Option.map_some, hframe]
      rfl

/-- The remaps cover so many pages from an offset on, each with its frame. -/
structure Covers (a : Arch) (gmrId pos : Nat) (addrs : List (DmaAddr a)) (remaps : List Remap) : Prop where
  gmrId : ∀ r ∈ remaps, r.gmrId = gmrId
  short : ∀ r ∈ remaps, r.ppns.length ≤ VMW_PPN_PER_REMAP a
  pages : remaps.flatMap Remap.pages = (List.range' pos addrs.length).zip (addrs.map fun d => d.val / PAGE_SIZE)

theorem Covers.nil (a : Arch) (gmrId pos : Nat) : Covers a gmrId pos [] [] :=
  ⟨List.forall_mem_nil _, List.forall_mem_nil _, rfl⟩

/-- One round more. -/
theorem Covers.cons {pos nr : Nat} {remaps : List Remap} (hnr : nr ≤ VMW_PPN_PER_REMAP a) (hle : nr ≤ addrs.length)
    (h : Covers a gmrId (pos + nr) (addrs.drop nr) remaps) :
    Covers a gmrId pos addrs
      ({ gmrId, offsetPages := pos, ppns := (addrs.take nr).map fun d => d.val / PAGE_SIZE } :: remaps) := by
  have hlen : (addrs.take nr).length = nr := List.length_take_of_le hle
  refine ⟨List.forall_mem_cons.mpr ⟨rfl, h.gmrId⟩, List.forall_mem_cons.mpr ⟨?_, h.short⟩, ?_⟩
  · rw [List.length_map, hlen]
    exact hnr
  · have hrange : List.range' pos addrs.length =
        List.range' pos nr ++ List.range' (pos + nr) (addrs.drop nr).length := by
      rw [List.length_drop, List.range'_append_1, Nat.add_sub_cancel' hle]
    have hframes : addrs.map (fun d => d.val / PAGE_SIZE) =
        (addrs.take nr).map (fun d => d.val / PAGE_SIZE) ++ (addrs.drop nr).map (fun d => d.val / PAGE_SIZE) := by
      rw [← List.map_append, List.take_append_drop]
    rw [List.flatMap_cons, h.pages, hrange, hframes, List.zip_append (by simp [hle])]
    simp [Remap.pages, hle]

theorem readRemaps_remapLoop {fuel fuel' pos : Nat} (hfuel : addrs.length ≤ fuel)
    (hfuel' : (remapLoop a gmrId fuel pos addrs).length ≤ fuel') (hpos : pos + addrs.length < 2 ^ 32) :
    ∃ remaps, readRemaps fuel' (remapLoop a gmrId fuel pos addrs) = some remaps ∧
      Covers a gmrId pos addrs remaps := by
  induction fuel generalizing fuel' pos addrs with
  | zero =>
    obtain rfl := List.eq_nil_of_length_eq_zero (Nat.le_zero.mp hfuel)
    exact ⟨[], by simp [remapLoop, readRemaps], .nil a gmrId pos⟩
  | succ fuel ih =>
    rw [remapLoop] at hfuel' ⊢
    split
    · rename_i hzero
      obtain rfl := List.eq_nil_of_length_eq_zero hzero
      exact ⟨[], by simp [readRemaps], .nil a gmrId pos⟩
    · rename_i hne
      rw [if_neg hne] at hfuel'
      have hper := perRemap_pos a
      dsimp only at hfuel' ⊢
      generalize hnr : min addrs.length (VMW_PPN_PER_REMAP a) = nr at hfuel' ⊢
      have hle : nr ≤ addrs.length := by omega
      have hadd : add32 pos nr = pos + nr := add32_of_lt (by omega)
      have hmod : nr % 2 ^ 32 = nr := Nat.mod_eq_of_lt (by omega)
      rw [hadd, hmod] at hfuel' ⊢
      cases fuel' with
      | zero => simp at hfuel'
      | succ fuel' =>
        obtain ⟨remaps, hread, hcovers⟩ := @ih (addrs.drop nr) fuel' (pos + nr)
          (by rw [List.length_drop]; omega) (by simp at hfuel'; omega) (by rw [List.length_drop]; omega)
        refine ⟨_, ?_, hcovers.cons (by omega) hle⟩
        have hppns := readPpns_ppnWords (addrs.take nr) (remapLoop a gmrId fuel (pos + nr) (addrs.drop nr))
        rw [List.length_take_of_le hle] at hppns
        simp only [List.cons_append, List.nil_append]
        rw [readRemaps, if_neg (by simp), hppns, Option.bind_some]
        dsimp only
        rw [hread]
        rfl

/-- For every number of pages with a size that fits, as many bytes are written as were reserved, and
the commands give every page its frame, in runs that are not too long. -/
theorem remap_stream_exact (addrs : List (DmaAddr a)) (gmrId : Nat) (hfits : FitsCmd a addrs.length) :
    ∃ words s, vmwGmr2Bind a addrs gmrId true = some (0, words) ∧ words.length * 4 = cmdSize a addrs.length ∧
      readStream words = some s ∧ s.gmrId = gmrId ∧ s.numPages = addrs.length ∧ Covers a gmrId 0 addrs s.remaps := by
  have hlt : addrs.length < 2 ^ 32 := by
    unfold FitsCmd at hfits
    cases a <;> simp only [VMW_PPN_SIZE] at hfits <;> omega
  have hloop := @length_remapLoop a addrs gmrId addrs.length 0 le_rfl
  have hlen : ([SVGA_CMD_DEFINE_GMR2, gmrId, addrs.length % 2 ^ 32] ++ remapLoop a gmrId addrs.length 0 addrs).length * 4
      = cmdSize a addrs.length := by
    rw [cmdSize_eq hfits, List.length_append, Nat.add_mul, hloop]
    simp only [List.length_cons, List.length_nil, defineSize]
    omega
  obtain ⟨remaps, hread, hcovers⟩ := @readRemaps_remapLoop a addrs gmrId addrs.length
    (remapLoop a gmrId addrs.length 0 addrs).length 0 le_rfl le_rfl (by omega)
  refine ⟨_, { gmrId, numPages := addrs.length, remaps }, ?_, hlen, ?_, rfl, rfl, hcovers⟩
  · unfold vmwGmr2Bind
    rw [if_neg (by simp)]
    dsimp only
    rw [if_neg (by omega)]
  · simp only [List.cons_append, List.nil_append]
    rw [readStream, if_neg (by simp), hread, Nat.mod_eq_of_lt hlt]
    rfl

end Read

section Example

private theorem samePages_fits : FitsCmd .bits64 (samePages .bits64 3969).addrs.length := by
  have hlen : (samePages .bits64 3969).addrs.length = 3969 := List.length_replicate
  rw [hlen]
  unfold FitsCmd
  decide

/-- One page more than a command carries. -/
theorem remap_stream_exact_split : ∃ words s,
    vmwGmr2Bind .bits64 (samePages .bits64 3969).addrs 3 true = some (0, words) ∧
      words.length * 4 = cmdSize .bits64 (samePages .bits64 3969).addrs.length ∧ readStream words = some s ∧
      s.gmrId = 3 ∧ s.numPages = (samePages .bits64 3969).addrs.length ∧
      Covers .bits64 3 0 (samePages .bits64 3969).addrs s.remaps :=
  remap_stream_exact (samePages .bits64 3969).addrs 3 samePages_fits

end Example

end Vmwgfx.Gmr
