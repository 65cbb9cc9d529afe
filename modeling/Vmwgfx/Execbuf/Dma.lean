import Vmwgfx.Execbuf.Batch
import Vmwgfx.Lib.Ends

/-! The clamp of `vmw_cmd_dma`, in 32 bits. -/

namespace Vmwgfx.Execbuf

open Vmwgfx.Hashtab Vmwgfx.Lib

variable {hashLong : HashLong} {env : Env} {s t : State hashLong} {p : Nat} {bo : BufId} {m : Mem}

section Pages

/-- The pages `ttm_bo_init` gives a buffer of `size` bytes. -/
def boPages (size : Nat) : Nat := (size + (pageSize - 1)) / pageSize

/-- `vmw_user_dmabuf_alloc` takes the size as a `uint32_t`, and an empty buffer is refused. -/
def DriverPages (numPages : Nat) : Prop :=
  ∃ size, 0 < size ∧ size < 2 ^ 32 ∧ numPages = boPages size

theorem driverPages_iff {numPages : Nat} :
    DriverPages numPages ↔ 0 < numPages ∧ numPages ≤ 2 ^ 20 := by
  unfold DriverPages boPages pageSize
  constructor
  · rintro ⟨size, hpos, hlt, rfl⟩
    omega
  · rintro ⟨hpos, hle⟩
    exact ⟨numPages * 4096 - 1, by omega, by omega, by omega⟩

end Pages

section Frame

/-- The piece of the check writes nothing to the command. -/
def KeepsMem {α : Type} (x : Verify hashLong α) : Prop := ∀ m, Keeps (·.mem = m) x

variable {α β : Type}

theorem KeepsMem.bind {x : Verify hashLong α} {f : α → Verify hashLong β} (hx : KeepsMem x)
    (hf : ∀ a, KeepsMem (f a)) : KeepsMem (x >>= f) :=
  fun m => (hx m).bind fun a => hf a m

theorem KeepsMem.pure (a : α) : KeepsMem (Pure.pure a : Verify hashLong α) := fun _ => .pure a

theorem KeepsMem.fail (ret : Int) : KeepsMem (Execbuf.fail ret : Verify hashLong α) :=
  fun _ => .throw _

theorem KeepsMem.oops : KeepsMem (Execbuf.oops : Verify hashLong α) := fun _ => .throw _

theorem KeepsMem.update {f : State hashLong → State hashLong} (hf : ∀ s, (f s).mem = s.mem) :
    KeepsMem (Execbuf.update f) :=
  fun _ s h => (hf s).trans h

theorem KeepsMem.ask (f : Nat → α) : KeepsMem (Execbuf.ask f : Verify hashLong α) := fun _ _ h => h

theorem KeepsMem.log (e : Event) : KeepsMem (Execbuf.log e : Verify hashLong Unit) := fun _ _ h => h

theorem KeepsMem.view (f : State hashLong → α) : KeepsMem (fun s => .ok (f s) s) := fun _ _ h => h

theorem KeepsMem.load (a : Nat) : KeepsMem (Execbuf.load a : Verify hashLong Nat) :=
  .bind (.log _) fun _ _ _ h => h

theorem KeepsMem.onError {x : Verify hashLong α} {undo : State hashLong → State hashLong}
    (hx : KeepsMem x) (hundo : ∀ s, (undo s).mem = s.mem) : KeepsMem (Execbuf.onError x undo) := by
  intro m s h
  have hends := hx m s h
  unfold Ends at hends ⊢
  unfold Execbuf.onError
  cases hr : x s with
  | ok a t =>
    rw [hr] at hends
    exact hends
  | error e t =>
    rw [hr] at hends
    exact (hundo t).trans hends

theorem KeepsMem.ok {x : Verify hashLong α} {a : α} (hx : KeepsMem x) (h : x s = .ok a t) :
    t.mem = s.mem := by
  have hends := hx s.mem s rfl
  unfold Ends at hends
  rw [h] at hends
  exact hends

theorem KeepsMem.ite {c : Prop} [Decidable c] {x y : Verify hashLong α} (hx : KeepsMem x)
    (hy : KeepsMem y) : KeepsMem (if c then x else y) :=
  fun m => (hx m).ite (hy m)

theorem vmwBoToValidateList_keepsMem (bo : BufId) (asMob : Bool) :
    KeepsMem (vmwBoToValidateList bo asMob : Verify hashLong Nat) := by
  refine .bind (.view _) fun found => ?_
  cases found with
  | some i => exact .bind (.view _) fun _ => .ite (.fail _) (.pure _)
  | none =>
    exact .bind (.view _) fun _ => .ite (.fail _) (.bind (.update fun _ => rfl) fun _ => .pure _)

theorem relocAdd_keepsMem (handle : Nat) (asMob : Bool) (reloc : Nat → Nat → Relocation) :
    KeepsMem (relocAdd env handle asMob reloc : Verify hashLong BufId) := by
  refine .bind (.ask _) fun found => ?_
  cases found with
  | none => exact .fail _
  | some bo =>
    refine .bind (.update fun _ => rfl) fun _ => .bind (.view _) fun cur => .ite ?_ ?_
    · exact .onError (.fail _) fun _ => rfl
    · exact .bind (.onError (vmwBoToValidateList_keepsMem bo asMob) fun _ => rfl) fun _ =>
        .bind (.update fun _ => rfl) fun _ => .pure _

theorem vmwTranslateGuestPtr_keepsMem (ptr : Nat) :
    KeepsMem (vmwTranslateGuestPtr env ptr : Verify hashLong BufId) :=
  .bind (.load _) fun _ => .bind (relocAdd_keepsMem _ _ _) fun _ => .bind (.log _) fun _ => .pure _

theorem vmwResourceRelocationAdd_keepsMem (res : Option ResId) (offset : Nat) :
    KeepsMem (vmwResourceRelocationAdd env res offset : Verify hashLong Unit) :=
  .bind (.ask _) fun _ => .ite (.bind (.log _) fun _ => .update fun _ => rfl) (.fail _)

theorem vmwResourceValAdd_keepsMem (res : ResId) :
    KeepsMem (vmwResourceValAdd env res : Verify hashLong Unit) := by
  refine .bind (.view _) fun node => ?_
  cases node with
  | some n => exact .update fun _ => rfl
  | none => exact .bind (.ask _) fun _ => .ite (.update fun _ => rfl) (.fail _)

theorem valAddAll_keepsMem (bound : List ResId) :
    KeepsMem (valAddAll env bound : Verify hashLong Unit) := by
  induction bound with
  | nil => exact .pure ()
  | cons res rest ih => exact .bind (vmwResourceValAdd_keepsMem res) fun _ => ih

theorem mem_setStaged (ctx : ResId) (cbs : Binding.CtxBindingState) (s : State hashLong) :
    (setStaged ctx cbs s).mem = s.mem := by
  unfold setStaged
  split <;> rfl

theorem mem_clearFirstUsage (res : ResId) (s : State hashLong) :
    (clearFirstUsage res s).mem = s.mem := by
  unfold clearFirstUsage
  split <;> rfl

theorem vmwCmdResRelocAdd_keepsMem (resType : ResType) (idLoc : Nat) (res : ResId) :
    KeepsMem (vmwCmdResRelocAdd env resType idLoc res : Verify hashLong (Option ResId)) := by
  refine .bind (vmwResourceRelocationAdd_keepsMem _ _) fun _ =>
    .bind (vmwResourceValAdd_keepsMem _) fun _ => .bind (.view _) fun _ => .ite ?_ (.pure _)
  refine .bind (.update fun _ => rfl) fun _ =>
    .bind (.bind (.ask _) fun bound => valAddAll_keepsMem bound) fun _ => .bind (.ask _) fun _ => ?_
  exact .ite (.bind (.update (mem_setStaged _ _)) fun _ => .pure _) (.pure _)

theorem vmwCmdResCheck_keepsMem (resType : ResType) (idLoc : Nat) :
    KeepsMem (vmwCmdResCheck env resType idLoc : Verify hashLong (Option ResId)) := by
  refine .bind (.load _) fun id => .ite (.ite (.fail _) (.pure _)) (.bind (.view _) fun entry => ?_)
  cases entry with
  | some rcache =>
    obtain ⟨handle, res, node⟩ := rcache
    cases node with
    | none => exact .oops
    | some node =>
      exact .bind (.update (mem_clearFirstUsage _)) fun _ =>
        .bind (vmwResourceRelocationAdd_keepsMem _ _) fun _ => .pure _
  | none =>
    refine .bind (.ask _) fun found => ?_
    cases found with
    | none => exact .fail _
    | some res =>
      exact .bind (.update fun _ => rfl) fun _ => .bind (.update fun _ => rfl) fun _ =>
        .bind (.onError (vmwCmdResRelocAdd_keepsMem _ _ _) fun _ => rfl) fun _ =>
          .bind (.update fun _ => rfl) fun _ => .bind (.update fun _ => rfl) fun _ => .pure _

theorem vmwKmsCursorSnoop_keepsMem (srf : ResId) (header : Nat) :
    KeepsMem (vmwKmsCursorSnoop env srf header : Verify hashLong Unit) := by
  refine .ite (.bind (.load _) fun face => .ite (.pure _) ?_) (.pure _)
  refine .bind (.load _) fun mipmap => .ite (.pure _) (.bind (.load _) fun size => .ite (.pure _) ?_)
  exact .bind (.log _) fun _ => .log _

end Frame

section Clamp

/-- `maximumOffset` after the clamp. -/
def clampedOffset (env : Env) (m : Mem) (p : Nat) (bo : BufId) : Nat :=
  if m.read32 (dmaSuffix m p + 4) > boSizeFrom env bo (m.read32 (p + 12)) then
    boSizeFrom env bo (m.read32 (p + 12))
  else m.read32 (dmaSuffix m p + 4)

theorem clampMaximumOffset_mem {loc boSize : Nat} (hsize : boSize < 2 ^ 32)
    (h : clampMaximumOffset loc boSize s = .ok () t) :
    t.mem.read32 loc = if s.mem.read32 loc > boSize then boSize else s.mem.read32 loc := by
  obtain ⟨maximumOffset, s₁, hload, h⟩ := bind_eq_ok.mp h
  cases hload
  split at h
  · next hgt =>
    cases h
    rw [if_pos hgt]
    exact Mem.read32_write32_self hsize
  · next hle =>
    cases h
    rw [if_neg hle]

theorem boSizeFrom_lt (env : Env) (bo : BufId) (offset : Nat) : boSizeFrom env bo offset < 2 ^ 32 := by
  unfold boSizeFrom
  omega

theorem relocAdd_buffer {handle : Nat} {asMob : Bool} {reloc : Nat → Nat → Relocation}
    (h : relocAdd env handle asMob reloc s = .ok bo t) : env.dmabuf s.tick handle = some bo := by
  obtain ⟨found, s₁, hask, h⟩ := bind_eq_ok.mp h
  cases hask
  dsimp only at h
  cases hfound : env.dmabuf s.tick handle with
  | none =>
    rw [hfound] at h
    cases h
  | some bo' =>
    rw [hfound] at h
    obtain ⟨_, s₂, _, h⟩ := bind_eq_ok.mp h
    obtain ⟨cur, s₃, _, h⟩ := bind_eq_ok.mp h
    split at h
    · cases h
    · obtain ⟨_, s₄, _, h⟩ := bind_eq_ok.mp h
      obtain ⟨_, s₅, _, h⟩ := bind_eq_ok.mp h
      cases h
      rfl

theorem vmwTranslateGuestPtr_buffer {ptr : Nat} (h : vmwTranslateGuestPtr env ptr s = .ok bo t) :
    env.dmabuf s.tick (s.mem.read32 ptr) = some bo := by
  obtain ⟨handle, s₁, hload, h⟩ := bind_eq_ok.mp h
  cases hload
  obtain ⟨bo', s₂, hreloc, h⟩ := bind_eq_ok.mp h
  obtain ⟨_, s₃, _, h⟩ := bind_eq_ok.mp h
  cases h
  have hbuffer := relocAdd_buffer hreloc
  exact hbuffer

theorem vmwCmdDmaCheck_clamps {srf : Option ResCacheEntry}
    (h : vmwCmdDmaCheck env p s = .ok (bo, srf) t) :
    dmaBuffer env s p = some bo ∧
      s.mem.read32 (p + 12) ≤ env.numPages bo * pageSize % 2 ^ 32 ∧
      t.mem.read32 (dmaSuffix s.mem p + 4) = clampedOffset env s.mem p bo := by
  obtain ⟨size, s₁, hload, h⟩ := bind_eq_ok.mp h
  cases hload
  obtain ⟨suffixSize, s₂, hload, h⟩ := bind_eq_ok.mp h
  cases hload
  split at h
  · cases h
  · obtain ⟨bo', s₃, htrans, h⟩ := bind_eq_ok.mp h
    have hbuffer := vmwTranslateGuestPtr_buffer htrans
    have hmem := (vmwTranslateGuestPtr_keepsMem (p + 8)).ok htrans
    obtain ⟨offset, s₄, hload, h⟩ := bind_eq_ok.mp h
    cases hload
    rw [hmem] at h
    split at h
    · cases h
    · next hoffset =>
      obtain ⟨_, s₅, hclamp, h⟩ := bind_eq_ok.mp h
      obtain ⟨_, s₆, hsurface, h⟩ := bind_eq_ok.mp h
      obtain ⟨srf', s₇, hsrf, h⟩ := bind_eq_ok.mp h
      cases hsrf
      cases h
      have hkeeps : KeepsMem (onError (checkHandle env .surface (p + 20)) (·.addBufRef bo (-1)) :
          Verify hashLong Unit) :=
        .onError (.bind (vmwCmdResCheck_keepsMem _ _) fun _ => .pure _) fun _ => rfl
      refine ⟨hbuffer, Nat.le_of_not_lt hoffset, ?_⟩
      have hlimit := clampMaximumOffset_mem (boSizeFrom_lt env bo _) hclamp
      rw [hkeeps.ok hsurface]
      refine hlimit.trans ?_
      change (if s₃.mem.read32 _ > _ then _ else s₃.mem.read32 _) = _
      rw [hmem]
      rfl

/-- The buffer an accepted command is checked against, and what becomes of its limit. -/
theorem vmwCmdDma_clamps (h : vmwCmdDma env p s = .ok () t) :
    ∃ bo, dmaBuffer env s p = some bo ∧
      s.mem.read32 (p + 12) ≤ env.numPages bo * pageSize % 2 ^ 32 ∧
      t.mem.read32 (dmaSuffix s.mem p + 4) = clampedOffset env s.mem p bo := by
  obtain ⟨⟨bo, srf⟩, t₁, hcheck, h⟩ := bind_eq_ok.mp h
  obtain ⟨hbuffer, hoffset, hclamp⟩ := vmwCmdDmaCheck_clamps hcheck
  cases srf with
  | none => cases h
  | some srf =>
    obtain ⟨_, t₂, hsnoop, h⟩ := bind_eq_ok.mp h
    cases h
    refine ⟨bo, hbuffer, hoffset, ?_⟩
    change t₂.mem.read32 _ = _
    rw [(vmwKmsCursorSnoop_keepsMem _ _).ok hsnoop, hclamp]

/-- What the command may touch of a buffer with the size of its pages, the offset being the one
that was checked. -/
structure DmaWithin (env : Env) (bo : BufId) (p : Nat) (m m' : Mem) : Prop where
  le : m.read32 (p + 12) + m'.read32 (dmaSuffix m p + 4) ≤ env.numPages bo * pageSize
  clamped : m'.read32 (dmaSuffix m p + 4) ≠ m.read32 (dmaSuffix m p + 4) →
    env.numPages bo * pageSize < m.read32 (p + 12) + m.read32 (dmaSuffix m p + 4)

/-- An accepted command is clamped to its buffer, and only when it has to be, unless the buffer
is one of 4 GiB and the command has a limit at all. -/
theorem dma_within_iff (h : vmwCmdDma env p s = .ok () t) (hbo : dmaBuffer env s p = some bo)
    (hpages : DriverPages (env.numPages bo)) :
    DmaWithin env bo p s.mem t.mem ↔
      ¬ (env.numPages bo = 2 ^ 20 ∧ s.mem.read32 (dmaSuffix s.mem p + 4) ≠ 0) := by
  obtain ⟨bo', hbo', hoffset, hclamp⟩ := vmwCmdDma_clamps h
  rw [hbo] at hbo'
  cases hbo'
  have hle := (driverPages_iff.mp hpages).2
  have hlimit := s.mem.read32_lt (dmaSuffix s.mem p + 4)
  unfold clampedOffset boSizeFrom at hclamp
  unfold pageSize at hoffset hclamp
  constructor
  · rintro ⟨-, hclamped⟩ ⟨hpages, hlarge⟩
    rw [hclamp, hpages] at hclamped
    rw [hpages] at hoffset
    unfold pageSize at hclamped
    rw [if_pos (by omega)] at hclamped
    have := hclamped (by omega)
    omega
  · intro hsmall
    refine ⟨?_, ?_⟩
    · rw [hclamp]
      unfold pageSize
      split_ifs <;> omega
    · rw [hclamp]
      unfold pageSize
      split_ifs <;> omega

end Clamp

section Example

/-- A DMA from the start of a buffer, with a limit of one page. -/
def dmaCommand : State (fun key _ => key) :=
  .start _ (memOf 4096 [svga3dCmdSurfaceDma, 40, 3, 0, 0, 7, 0, 0, 1, 12, 4096, 0])

/-- A device on which every buffer has so many pages. -/
def bufferDevice (numPages : Nat) : Env :=
  { Env.mobDevice with
    dmabuf := fun _ handle => some handle
    numPages := fun _ => numPages }

/-- In a buffer of two pages the limit stays. -/
theorem dma_within_small : ∃ t, vmwCmdDma (bufferDevice 2) 4096 dmaCommand = .ok () t ∧
    DmaWithin (bufferDevice 2) 3 4096 dmaCommand.mem t.mem := by
  have hrun : (accepted (some (vmwCmdDma (bufferDevice 2) 4096 dmaCommand))).isSome = true := by
    decide +kernel
  obtain ⟨t, ht⟩ := Option.isSome_iff_exists.mp hrun
  have hok := Option.some.inj (accepted_eq_some.mp ht)
  have hbuffer : dmaBuffer (bufferDevice 2) dmaCommand 4096 = some 3 := by decide +kernel
  exact ⟨t, hok, (dma_within_iff hok hbuffer ⟨8192, by decide, by decide, rfl⟩).mpr
    fun h => absurd h.1 (by decide)⟩

/-- A buffer of 4 GiB has no bytes in 32 bits: the limit of one page becomes 0. -/
theorem dma_clamped_to_nothing : DriverPages (2 ^ 20) ∧
    ∃ t, vmwCmdDma (bufferDevice (2 ^ 20)) 4096 dmaCommand = .ok () t ∧
      dmaBuffer (bufferDevice (2 ^ 20)) dmaCommand 4096 = some 3 ∧
      ¬ DmaWithin (bufferDevice (2 ^ 20)) 3 4096 dmaCommand.mem t.mem := by
  have hrun : (accepted (some (vmwCmdDma (bufferDevice (2 ^ 20)) 4096 dmaCommand))).map
      (·.mem.read32 4136) = some 0 := by
    decide +kernel
  obtain ⟨t, ht, hlimit⟩ := Option.map_eq_some_iff.mp hrun
  have hsuffix : dmaSuffix dmaCommand.mem 4096 + 4 = 4136 := by decide +kernel
  have hbefore : dmaCommand.mem.read32 4136 = 4096 := by decide +kernel
  have hoffset : dmaCommand.mem.read32 (4096 + 12) = 0 := by decide +kernel
  refine ⟨driverPages_iff.mpr ⟨by decide, Nat.le_refl _⟩, t,
    Option.some.inj (accepted_eq_some.mp ht), by decide +kernel, ?_⟩
  intro hwithin
  have hclamped := hwithin.clamped
  rw [hsuffix, hlimit, hbefore, hoffset] at hclamped
  exact absurd (hclamped (by decide)) (by decide)

end Example

end Vmwgfx.Execbuf
