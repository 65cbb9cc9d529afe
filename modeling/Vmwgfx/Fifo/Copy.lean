import Vmwgfx.Fifo.Space

/-! The two ways `vmw_fifo_commit` copies a bounce buffer into the ring, and the NEXT_CMD it
computes after them. -/

namespace Vmwgfx.Fifo

open Vmwgfx.Lib

namespace State

variable (s : State)

/-- `memcpy_toio`, of whole words. -/
def memcpyToio (dst : Nat) (src : Nat → Word) (bytes : Nat) : State :=
  { s with mem := fun a => if dst ≤ a ∧ a < dst + bytes / 4 then src (a - dst) else s.mem a }

def vmwFifoResCopy (nextCmd bytes : Nat) : State :=
  let chunkSize := if bytes < sub32 s.max nextCmd then bytes else sub32 s.max nextCmd
  let s' := { s with reserved := bytes }.memcpyToio (nextCmd / 4) s.buffer chunkSize
  let rest := sub32 bytes chunkSize
  if rest ≠ 0 then s'.memcpyToio (s.min / 4) (fun i => s.buffer (chunkSize / 4 + i)) rest else s'

/-- The loop of `vmw_fifo_slow_copy`, with `words` to go and `buffer` at word `i`. -/
def slowCopyLoop : Nat → Nat → Nat → State → State
  | 0, _, _, s => s
  | words + 1, nextCmd, i, s =>
    let s := s.write (nextCmd / 4) (s.buffer i)
    let next := if add32 nextCmd 4 = s.max then s.min else add32 nextCmd 4
    slowCopyLoop words next (i + 1) { s with nextCmd := next }

def vmwFifoSlowCopy (nextCmd bytes : Nat) : State := slowCopyLoop (bytes / 4) nextCmd 0 s

end State

/-- Word-aligned registers of a ring, and a NEXT_CMD inside it. -/
structure Geometry (s : State) : Prop where
  max_lt : s.max < 2 ^ 32
  min_dvd : 4 ∣ s.min
  max_dvd : 4 ∣ s.max
  next_dvd : 4 ∣ s.nextCmd
  next_ge : s.min ≤ s.nextCmd
  next_lt : s.nextCmd < s.max

section Geometry

variable {s : State} {bytes : Nat}

/-- What does not look at STOP can be proved with STOP anywhere. -/
theorem Geometry.valid (h : Geometry s) : Valid { s with stop := s.min } :=
  ⟨h.max_lt, h.min_dvd, h.max_dvd, h.next_dvd, h.min_dvd, h.next_ge, h.next_lt, Nat.le_refl _,
    Nat.lt_of_le_of_lt h.next_ge h.next_lt⟩

theorem Geometry.mem_next (h : Geometry s) : s.ring.Mem (s.nextCmd / 4) := h.valid.mem_next

theorem Geometry.four_mul_size (h : Geometry s) : 4 * s.ring.size = s.max - s.min := h.valid.size_eq

theorem Geometry.next_word (h : Geometry s) :
    (if add32 s.nextCmd 4 = s.max then s.min else add32 s.nextCmd 4) / 4 =
        s.ring.succ (s.nextCmd / 4) ∧
      4 ∣ (if add32 s.nextCmd 4 = s.max then s.min else add32 s.nextCmd 4) ∧
      s.min ≤ (if add32 s.nextCmd 4 = s.max then s.min else add32 s.nextCmd 4) ∧
      (if add32 s.nextCmd 4 = s.max then s.min else add32 s.nextCmd 4) < s.max :=
  h.valid.next_word h.next_dvd h.next_ge h.next_lt

theorem Geometry.advanced_eq (h : Geometry s) (hb : 4 ∣ bytes) (hsize : bytes < s.max - s.min)
    (hadd : s.nextCmd + bytes < 2 ^ 32) :
    s.advanced s.nextCmd bytes / 4 = s.ring.advance (s.nextCmd / 4) (bytes / 4) ∧
      4 ∣ s.advanced s.nextCmd bytes ∧ s.min ≤ s.advanced s.nextCmd bytes ∧
      s.advanced s.nextCmd bytes < s.max :=
  h.valid.advanced_eq h.next_dvd h.next_ge h.next_lt hb hsize hadd

end Geometry

section Contents

variable {s : State} {bytes : Nat}

/-- One word of `vmw_fifo_slow_copy`. -/
theorem Geometry.slow_word (h : Geometry s) (i : Nat) :
    Geometry { s.write (s.nextCmd / 4) (s.buffer i) with
      nextCmd := if add32 s.nextCmd 4 = s.max then s.min else add32 s.nextCmd 4 } := by
  obtain ⟨-, hdvd, hge, hlt⟩ := h.next_word
  exact ⟨h.max_lt, h.min_dvd, h.max_dvd, hdvd, hge, hlt⟩

/-- Copying word by word stores the words round the ring, and NEXT_CMD ends behind the last. -/
theorem Geometry.slowCopyLoop (h : Geometry s) {words : Nat} (hw : words ≤ s.ring.size) (i : Nat) :
    (State.slowCopyLoop words s.nextCmd i s).mem =
        s.ring.store s.buffer (s.nextCmd / 4) i words s.mem ∧
      (State.slowCopyLoop words s.nextCmd i s).nextCmd / 4 = s.ring.advance (s.nextCmd / 4) words ∧
      4 ∣ (State.slowCopyLoop words s.nextCmd i s).nextCmd := by
  induction words generalizing s i with
  | zero => exact ⟨rfl, (Ring.advance_zero h.mem_next).symm, h.next_dvd⟩
  | succ words ih =>
    obtain ⟨hmem, hnext, hdvd⟩ := ih (h.slow_word i) (Nat.le_of_succ_le hw) (i + 1)
    have hword := h.next_word.1
    refine ⟨?_, ?_, hdvd⟩
    · refine hmem.trans ?_
      rw [Ring.store_succ, ← hword]
      rfl
    · refine hnext.trans ?_
      rw [Ring.advance_succ_left h.mem_next hw, ← hword]
      rfl

theorem Geometry.mem_slowCopy (h : Geometry s) (hsize : bytes < s.max - s.min) (a : Nat) :
    (s.vmwFifoSlowCopy s.nextCmd bytes).mem a =
      if s.ring.Mem a ∧ s.ring.dist (s.nextCmd / 4) a < bytes / 4 then
        s.buffer (s.ring.dist (s.nextCmd / 4) a)
      else s.mem a := by
  have hw : bytes / 4 ≤ s.ring.size := by
    have := h.four_mul_size
    omega
  unfold State.vmwFifoSlowCopy
  rw [(h.slowCopyLoop hw 0).1, Ring.store_apply h.mem_next hw, Nat.zero_add]

theorem mem_memcpyToio (s : State) (dst : Nat) (src : Nat → Word) (bytes a : Nat) :
    (s.memcpyToio dst src bytes).mem a =
      if dst ≤ a ∧ a < dst + bytes / 4 then src (a - dst) else s.mem a :=
  rfl

/-- The two chunks are the words round the ring. -/
theorem Geometry.mem_resCopy (h : Geometry s) (hb : 4 ∣ bytes) (hsize : bytes < s.max - s.min)
    (a : Nat) :
    (s.vmwFifoResCopy s.nextCmd bytes).mem a =
      if s.ring.Mem a ∧ s.ring.dist (s.nextCmd / 4) a < bytes / 4 then
        s.buffer (s.ring.dist (s.nextCmd / 4) a)
      else s.mem a := by
  have hchunk : sub32 s.max s.nextCmd = s.max - s.nextCmd :=
    sub32_of_le (Nat.le_of_lt h.next_lt) h.max_lt
  have hmem : s.ring.Mem a ↔ s.min / 4 ≤ a ∧ a < s.max / 4 := Iff.rfl
  have hdist : s.ring.dist (s.nextCmd / 4) a =
      if s.nextCmd / 4 ≤ a then a - s.nextCmd / 4
      else (s.max / 4 - s.nextCmd / 4) + (a - s.min / 4) := rfl
  obtain ⟨_, _, _, _, _, _⟩ := h
  unfold State.vmwFifoResCopy
  rw [hchunk]
  dsimp only
  by_cases hfits : bytes < s.max - s.nextCmd
  · have hrest : sub32 bytes bytes = 0 := by
      rw [sub32_of_le (Nat.le_refl bytes) (by omega), Nat.sub_self]
    rw [if_pos hfits, hrest, if_neg (not_not_intro rfl), mem_memcpyToio]
    by_cases ha : s.nextCmd / 4 ≤ a ∧ a < s.nextCmd / 4 + bytes / 4
    · rw [if_pos ha, if_pos, hdist, if_pos ha.1]
      rw [hmem, hdist, if_pos ha.1]
      omega
    · rw [if_neg ha, if_neg]
      rw [hmem, hdist]
      split_ifs <;> omega
  · have hrest : sub32 bytes (s.max - s.nextCmd) = bytes - (s.max - s.nextCmd) :=
      sub32_of_le (Nat.le_of_not_lt hfits) (by omega)
    have hlast (p : State) :
        (if bytes - (s.max - s.nextCmd) ≠ 0 then
          p.memcpyToio (s.min / 4) (fun i => s.buffer ((s.max - s.nextCmd) / 4 + i))
            (bytes - (s.max - s.nextCmd))
        else p).mem a =
          if s.min / 4 ≤ a ∧ a < s.min / 4 + (bytes - (s.max - s.nextCmd)) / 4 then
            s.buffer ((s.max - s.nextCmd) / 4 + (a - s.min / 4)) else p.mem a := by
      by_cases hzero : bytes - (s.max - s.nextCmd) = 0
      · rw [if_neg (not_not_intro hzero), hzero, if_neg (by omega)]
      · rw [if_pos hzero, mem_memcpyToio]
    rw [if_neg hfits, hrest, hlast, mem_memcpyToio]
    by_cases ha : s.nextCmd / 4 ≤ a
    · rw [hdist, if_pos ha, if_neg (by omega)]
      by_cases hend : a < s.max / 4
      · rw [if_pos (by omega), if_pos (by rw [hmem]; omega)]
      · rw [if_neg (by omega), if_neg (by rw [hmem]; omega)]
    · rw [hdist, if_neg ha]
      by_cases hstart : s.min / 4 ≤ a ∧ a < s.min / 4 + (bytes - (s.max - s.nextCmd)) / 4
      · rw [if_pos hstart, if_pos (by rw [hmem]; omega)]
        congr 1
        omega
      · rw [if_neg hstart, if_neg (by omega), if_neg (by rw [hmem]; omega)]

end Contents

section Steps

variable {s : State} {n bytes : Nat}

/-- The word-by-word steps of the FIFO, with the device standing still, are the loop. -/
theorem slowCopyLoop_run {words i : Nat} (hsum : i + words = bytes / 4) (cur : Nat) :
    ∃ cur', Run step (fun _ a => a = .copy) { s with pc := .slowCopy n bytes cur i }
      (List.replicate (2 * words) .copy)
      { State.slowCopyLoop words cur i s with pc := .slowCopy n bytes cur' (bytes / 4) } := by
  induction words generalizing s i cur with
  | zero =>
    rw [← hsum]
    exact ⟨cur, .nil _⟩
  | succ words ih =>
    have hi : i < bytes / 4 := by omega
    let next := if add32 cur 4 = s.max then s.min else add32 cur 4
    let s₁ : State := { s.write (cur / 4) (s.buffer i) with nextCmd := next }
    obtain ⟨cur', hrun⟩ := ih (s := s₁) (i := i + 1) (by omega) next
    have hcopy : step { s with pc := .slowCopy n bytes cur i } .copy =
        some { s.write (cur / 4) (s.buffer i) with pc := .slowNext n bytes next (i + 1) } := by
      simp only [step, State.slowCopy, if_pos hi]
      rfl
    have hnext : step { s.write (cur / 4) (s.buffer i) with pc := .slowNext n bytes next (i + 1) }
        .copy = some { s₁ with pc := .slowCopy n bytes next (i + 1) } := rfl
    refine ⟨cur', ?_⟩
    rw [Nat.mul_succ, Nat.add_comm, ← List.replicate_append_replicate]
    exact Run.append (.cons rfl hcopy (.cons rfl hnext (.nil _))) hrun

theorem slowCopy_run (s : State) (n bytes : Nat) :
    Run step (fun _ a => a = .copy) { s with pc := .slowCopy n bytes n 0 }
      (List.replicate (2 * (bytes / 4) + 1) .copy)
      { s.vmwFifoSlowCopy n bytes with dynamicBuffer := none, pc := .publish n bytes } := by
  obtain ⟨cur, hrun⟩ := slowCopyLoop_run (s := s) (n := n) (i := 0) (Nat.zero_add (bytes / 4)) n
  have hlast : step { s.vmwFifoSlowCopy n bytes with pc := .slowCopy n bytes cur (bytes / 4) }
      .copy = some { s.vmwFifoSlowCopy n bytes with
        dynamicBuffer := none, pc := .publish n bytes } := by
    simp only [step, State.slowCopy, if_neg (Nat.lt_irrefl _)]
  rw [← List.replicate_append_replicate]
  exact hrun.append (.single rfl hlast)

/-- FIFO memory with the first `i` words copied. -/
def State.copied (s : State) (n i : Nat) : Nat → Word := fun a =>
  if s.ring.Mem a ∧ s.ring.dist (n / 4) a < i then s.buffer (s.ring.dist (n / 4) a) else s.mem a

theorem Geometry.copied_succ (h : Geometry s) {i : Nat} (hi : i < s.ring.size) :
    Function.update (s.copied s.nextCmd i) (s.ring.advance (s.nextCmd / 4) i) (s.buffer i) =
      s.copied s.nextCmd (i + 1) := by
  have hp := h.mem_next
  funext a
  by_cases ha : a = s.ring.advance (s.nextCmd / 4) i
  · subst ha
    rw [Function.update_self]
    unfold State.copied
    rw [Ring.dist_advance hp hi, if_pos ⟨Ring.mem_advance hp (Nat.le_of_lt hi), Nat.lt_succ_self i⟩]
  · rw [Function.update_of_ne ha]
    unfold State.copied
    have hne (hmem : s.ring.Mem a) : s.ring.dist (s.nextCmd / 4) a ≠ i := by
      intro hdist
      rw [← hdist, Ring.advance_dist hp hmem] at ha
      exact ha rfl
    by_cases hmem : s.ring.Mem a
    · have := hne hmem
      by_cases hlt : s.ring.dist (s.nextCmd / 4) a < i
      · rw [if_pos ⟨hmem, hlt⟩, if_pos ⟨hmem, by omega⟩]
      · rw [if_neg (by omega), if_neg (by omega)]
    · rw [if_neg (fun hm => hmem hm.1), if_neg (fun hm => hmem hm.1)]

theorem vmwFifoResCopy_eq (s : State) (n bytes : Nat) :
    s.vmwFifoResCopy n bytes =
      { s with reserved := bytes, mem := (s.vmwFifoResCopy n bytes).mem } := by
  unfold State.vmwFifoResCopy
  dsimp only
  split_ifs <;> rfl

theorem resCopy_word {t : State} {i : Nat} (hi : i < bytes / 4) :
    t.resCopy n bytes i =
      { t with
        mem := Function.update t.mem (t.resCopyAddr n bytes i) (t.buffer i)
        pc := .resCopy n bytes (i + 1) } := by
  unfold State.resCopy
  rw [if_pos hi]
  rfl

theorem Geometry.resCopy_rounds (h : Geometry s) (hb : 4 ∣ bytes) (hsize : bytes < s.max - s.min)
    {i : Nat} (hi : i ≤ bytes / 4) :
    Run step (fun _ a => a = .copy) { s with reserved := bytes, pc := .resCopy s.nextCmd bytes 0 }
      (List.replicate i .copy)
      { s with
        reserved := bytes, mem := s.copied s.nextCmd i, pc := .resCopy s.nextCmd bytes i } := by
  induction i with
  | zero =>
    have hmem : s.copied s.nextCmd 0 = s.mem := by
      funext a
      exact if_neg (fun ha => Nat.not_lt_zero _ ha.2)
    rw [hmem]
    exact .nil _
  | succ i ih =>
    have hring := h.four_mul_size
    have haddr : s.resCopyAddr s.nextCmd bytes i = s.ring.advance (s.nextCmd / 4) i :=
      h.valid.resCopyAddr_eq h.next_dvd h.next_ge h.next_lt hb hi
    have hword := resCopy_word (n := s.nextCmd) (t := { s with
      reserved := bytes, mem := s.copied s.nextCmd i, pc := .resCopy s.nextCmd bytes i }) hi
    rw [← h.copied_succ (by omega), ← haddr, ← List.replicate_append_replicate]
    exact (ih (Nat.le_of_lt hi)).append (.single rfl (congrArg some hword))

/-- And so are those of `vmw_fifo_res_copy` the two chunks. -/
theorem Geometry.resCopy_run (h : Geometry s) (hb : 4 ∣ bytes) (hsize : bytes < s.max - s.min) :
    Run step (fun _ a => a = .copy) { s with reserved := bytes, pc := .resCopy s.nextCmd bytes 0 }
      (List.replicate (bytes / 4 + 1) .copy)
      { s.vmwFifoResCopy s.nextCmd bytes with
        dynamicBuffer := none, pc := .publish s.nextCmd bytes } := by
  have hmem : s.copied s.nextCmd (bytes / 4) = (s.vmwFifoResCopy s.nextCmd bytes).mem := by
    funext a
    exact (h.mem_resCopy hb hsize a).symm
  have hrounds := h.resCopy_rounds hb hsize (Nat.le_refl _)
  have hlast : step { s with
        reserved := bytes, mem := s.copied s.nextCmd (bytes / 4)
        pc := .resCopy s.nextCmd bytes (bytes / 4) } .copy =
      some { s.vmwFifoResCopy s.nextCmd bytes with
        dynamicBuffer := none, pc := .publish s.nextCmd bytes } := by
    rw [vmwFifoResCopy_eq, ← hmem]
    simp only [step, State.resCopy, if_neg (Nat.lt_irrefl _)]
  rw [← List.replicate_append_replicate]
  exact hrounds.append (.single rfl hlast)

end Steps

section Agree

variable {s : State} {bytes : Nat}

/-- The copies leave the same ring, and the commit after either leaves the NEXT_CMD that
`vmw_fifo_slow_copy` has written, inside the ring. -/
structure CopiesAgree (s : State) (bytes : Nat) : Prop where
  mem : (s.vmwFifoResCopy s.nextCmd bytes).mem = (s.vmwFifoSlowCopy s.nextCmd bytes).mem
  next : (s.vmwFifoSlowCopy s.nextCmd bytes).nextCmd = s.advanced s.nextCmd bytes
  ge : s.min ≤ s.advanced s.nextCmd bytes
  lt : s.advanced s.nextCmd bytes < s.max

theorem Geometry.copies_mem (h : Geometry s) (hb : 4 ∣ bytes) (hsize : bytes < s.max - s.min) :
    (s.vmwFifoResCopy s.nextCmd bytes).mem = (s.vmwFifoSlowCopy s.nextCmd bytes).mem := by
  funext a
  rw [h.mem_resCopy hb hsize, h.mem_slowCopy hsize]

/-- NEXT_CMD after `vmw_fifo_slow_copy` is the ring's, whatever the sum of the two numbers. -/
theorem Geometry.next_slowCopy (h : Geometry s) (hsize : bytes < s.max - s.min) :
    (s.vmwFifoSlowCopy s.nextCmd bytes).nextCmd =
      4 * s.ring.advance (s.nextCmd / 4) (bytes / 4) := by
  have hw : bytes / 4 ≤ s.ring.size := by
    have := h.four_mul_size
    omega
  obtain ⟨-, hnext, hdvd⟩ := h.slowCopyLoop hw 0
  unfold State.vmwFifoSlowCopy
  omega

/-- A commit whose sum wraps in 32 bits sees no end of the ring. -/
theorem Geometry.advanced_of_wrap (h : Geometry s) (hsize : bytes < s.max - s.min)
    (hwrap : 2 ^ 32 ≤ s.nextCmd + bytes) :
    s.advanced s.nextCmd bytes = s.nextCmd + bytes - 2 ^ 32 :=
  Fifo.advanced_of_wrap (s := { s with stop := s.min }) h.valid hsize hwrap

/-- The copies and the commit agree just when NEXT_CMD and the byte count add up in 32 bits. -/
theorem copies_agree_iff (h : Geometry s) (hb : 4 ∣ bytes) (hsize : bytes < s.max - s.min) :
    CopiesAgree s bytes ↔ s.nextCmd + bytes < 2 ^ 32 := by
  have hnext := h.next_slowCopy hsize
  constructor
  · intro hagree
    by_contra hlarge
    have hadv := h.advanced_of_wrap hsize (Nat.le_of_not_lt hlarge)
    have hring : s.ring.advance (s.nextCmd / 4) (bytes / 4) =
        if s.nextCmd / 4 + bytes / 4 < s.max / 4 then s.nextCmd / 4 + bytes / 4
        else s.nextCmd / 4 + bytes / 4 - (s.max / 4 - s.min / 4) := rfl
    have hpublished := hagree.next
    rw [hnext, hadv, hring] at hpublished
    obtain ⟨_, _, _, _, _, _⟩ := h
    rw [if_neg (by omega)] at hpublished
    omega
  · intro hadd
    obtain ⟨hadv, hdvd, hge, hlt⟩ := h.advanced_eq hb hsize hadd
    refine ⟨h.copies_mem hb hsize, ?_, hge, hlt⟩
    rw [hnext, ← hadv]
    exact Nat.mul_div_cancel' hdvd

end Agree

section Example

/-- A ring that ends one word below 4 GiB, with NEXT_CMD at its last word. -/
def lastWord : State :=
  { max := 2 ^ 32 - 4, min := 4096, nextCmd := 2 ^ 32 - 8, stop := 4096, reserved := 0
    mem := fun _ => 0, reserveable := false, staticBufferSize := 1024 * 1024
    staticBuffer := fun _ => 0, dynamicBuffer := none, reservedSize := 0
    usingBounceBuffer := true, pc := .idle, committed := [], consumed := [], unread := 0 }

theorem lastWord_geometry : Geometry lastWord :=
  ⟨by decide, by decide, by decide, by decide, by decide, by decide⟩

/-- One word still adds up. -/
theorem copies_agree_word : CopiesAgree lastWord 4 :=
  (copies_agree_iff lastWord_geometry (by decide) (by decide)).mpr (by decide)

/-- Of two words the slow copy writes the second at the start of the ring, and the commit sets
NEXT_CMD to 0. -/
theorem copies_disagree : Geometry lastWord ∧ 4 ∣ 8 ∧ 8 < lastWord.max - lastWord.min ∧
    lastWord.advanced lastWord.nextCmd 8 = 0 ∧
    (lastWord.vmwFifoSlowCopy lastWord.nextCmd 8).nextCmd = 4100 ∧ ¬ CopiesAgree lastWord 8 := by
  have hcommit : lastWord.advanced lastWord.nextCmd 8 = 0 := by decide
  refine ⟨lastWord_geometry, by decide, by decide, hcommit, by decide, ?_⟩
  intro hagree
  have hge := hagree.ge
  rw [hcommit] at hge
  exact absurd hge (by decide)

end Example

end Vmwgfx.Fifo
