import Mathlib.Tactic.Ring
import Vmwgfx.Resource.Backup

/-! The size of backup buffers. A buffer that the driver allocates has the size
that was computed for it; one that user space names is looked up for a surface
and switched in by a command without a look at its size. -/

namespace Vmwgfx.Resource

open Lib

/-- `(size + PAGE_SIZE - 1) & PAGE_MASK`. -/
def pageAlign (size : Nat) : Nat := (size + PAGE_SIZE - 1) / PAGE_SIZE * PAGE_SIZE

theorem pageAlign_le {size n : Nat} : pageAlign size ≤ n * PAGE_SIZE ↔ size ≤ n * PAGE_SIZE := by
  simp only [pageAlign, PAGE_SIZE]
  omega

/-- Every backup buffer has room for the contents at their offset. -/
def BackupFits (s : State) : Prop :=
  ∀ r b, (s.res r).backup = some b →
    pageAlign ((s.res r).backupOffset + (s.res r).data.trueSize) ≤ s.numPages b * PAGE_SIZE

section Exact

theorem clampedUmul32_of_lt {a b : Nat} (h : a * b < 2 ^ 32) : clampedUmul32 a b = a * b := by
  unfold clampedUmul32
  rw [if_neg (by omega)]

/-- A product that fits is exact, whatever its factors were clamped to on the way. -/
theorem clampedUmul32_mul {x a c : Nat} (hx : a < 2 ^ 32 → x = a) (h : a * c < 2 ^ 32) :
    clampedUmul32 x c = a * c := by
  rcases Nat.eq_zero_or_pos c with rfl | hc
  · simp [clampedUmul32]
  · have ha : a < 2 ^ 32 := Nat.lt_of_le_of_lt (Nat.le_mul_of_pos_right a hc) h
    rw [hx ha, clampedUmul32_of_lt h]

/-- No rounding up to blocks leaves 32 bits. -/
def NoWrap (desc : Svga3dSurfaceDesc) (size : DrmVmwSize) : Prop :=
  size.width + desc.blockSize.width ≤ 2 ^ 32 ∧ size.height + desc.blockSize.height ≤ 2 ^ 32 ∧
    size.depth + desc.blockSize.depth ≤ 2 ^ 32

theorem divRoundUp32_of_le {x y : Nat} (h : x + y ≤ 2 ^ 32) :
    divRoundUp32 x y = (x + y - 1) / y := by
  rw [divRoundUp32, Nat.mod_eq_of_lt (by omega)]

theorem imageBufferSize_exact {desc : Svga3dSurfaceDesc} {size : DrmVmwSize} (hwrap : NoWrap desc size)
    (h : imageBytes desc size < 2 ^ 32) {pitch : Nat}
    (hpitch : pitch = 0 ∨ pitch = svga3dsurfaceCalculatePitch desc size) :
    svga3dsurfaceGetImageBufferSize desc size pitch = imageBytes desc size := by
  obtain ⟨hw, hh, hd⟩ := hwrap
  have hpitch' : (if pitch = 0 then svga3dsurfaceCalculatePitch desc size else pitch)
      = svga3dsurfaceCalculatePitch desc size := by
    rcases hpitch with rfl | rfl
    · rfl
    · split <;> rfl
  unfold svga3dsurfaceGetImageBufferSize
  simp only [hpitch']
  unfold svga3dsurfaceCalculatePitch svga3dsurfaceGetSizeInBlocks
  simp only [divRoundUp32_of_le hw, divRoundUp32_of_le hh, divRoundUp32_of_le hd]
  unfold imageBytes at h ⊢
  generalize (size.width + desc.blockSize.width - 1) / desc.blockSize.width = w at h ⊢
  generalize (size.height + desc.blockSize.height - 1) / desc.blockSize.height = y at h ⊢
  generalize (size.depth + desc.blockSize.depth - 1) / desc.blockSize.depth = d at h ⊢
  split
  · rename_i hplanar
    rw [if_pos hplanar] at h
    exact clampedUmul32_mul (clampedUmul32_mul clampedUmul32_of_lt) h
  · rename_i hplanar
    rw [if_neg hplanar] at h
    have hcomm : w * y * d * desc.pitchBytesPerBlock = w * desc.pitchBytesPerBlock * y * d := by ring
    rw [hcomm] at h ⊢
    refine clampedUmul32_mul (fun hslice => ?_) h
    rw [clampedUmul32, Nat.mul_comm y, ← clampedUmul32]
    exact clampedUmul32_mul (fun hp => Nat.mod_eq_of_lt hp) hslice

/-- A running sum in 32 bits. -/
theorem foldl_sum_exact {α : Type} {f g : α → Nat} {l : List α} (acc : Nat)
    (hfg : ∀ x ∈ l, g x < 2 ^ 32 → f x = g x) (h : acc + (l.map g).sum < 2 ^ 32) :
    l.foldl (fun acc x => (acc + f x) % 2 ^ 32) acc = acc + (l.map g).sum := by
  induction l generalizing acc with
  | nil => simp
  | cons x l ih =>
    rw [List.map_cons, List.sum_cons] at h ⊢
    have hx := hfg x List.mem_cons_self (by omega)
    rw [List.foldl_cons, hx, Nat.mod_eq_of_lt (by omega),
      ih _ (fun y hy => hfg y (List.mem_cons_of_mem _ hy)) (by omega)]
    omega

/-- The bytes are below 4 GiB and no dimension is close to 2^32. -/
def Contents.Exact : Contents → Prop
  | .surface desc base mips cubemap =>
    (∀ mip < mips, NoWrap desc (svga3dsurfaceGetMipSize base mip)) ∧
      (Contents.surface desc base mips cubemap).trueSize < 2 ^ 32
  | .images desc sizes =>
    (∀ size ∈ sizes, NoWrap desc size) ∧ (Contents.images desc sizes).trueSize < 2 ^ 32
  | .shader _ | .context | .nothing => True

theorem backupSize_exact {data : Contents} (h : data.Exact) : data.backupSize = data.trueSize := by
  cases data with
  | surface desc base mips cubemap =>
    obtain ⟨hwrap, hsize⟩ := h
    have hsum : 0 + ((List.range mips).map
        (fun mip => imageBytes desc (svga3dsurfaceGetMipSize base mip))).sum < 2 ^ 32 := by
      cases cubemap <;> simp only [Contents.trueSize, SVGA3D_MAX_SURFACE_FACES] at hsize <;> grind
    have hfold := foldl_sum_exact 0 (fun mip hmip hlt =>
      imageBufferSize_exact (hwrap mip (List.mem_range.mp hmip)) hlt (.inl rfl)) hsum
    unfold Contents.backupSize svga3dsurfaceGetSerializedSize
    simp only [hfold, Nat.zero_add]
    cases cubemap with
    | false => simp [Contents.trueSize]
    | true =>
      simp only [Contents.trueSize, if_true] at hsize ⊢
      exact Nat.mod_eq_of_lt hsize
  | images desc sizes =>
    obtain ⟨hwrap, hsize⟩ := h
    have hfold := foldl_sum_exact 0 (fun size hmem hlt =>
      imageBufferSize_exact (hwrap size hmem) hlt (.inr rfl)) (by simpa [Contents.trueSize] using hsize)
    exact hfold.trans (Nat.zero_add _)
  | shader size => rfl
  | context => rfl
  | nothing => rfl

end Exact
/-- A buffer of the computed size has room for the contents. -/
theorem trueSize_le_pageAlign {data : Contents} (h : data.Exact) : data.trueSize ≤ pageAlign data.backupSize := by
  rw [backupSize_exact h]
  simp only [pageAlign, PAGE_SIZE]
  omega

/-- A buffer allocated for the resource, of its computed size, would have room. -/
def AllocFits (res : VmwResource) : Prop :=
  res.backup = none → res.backupOffset = 0 ∧ res.data.Exact

/-- The condition on a step: a buffer that user space names for a backup is large
enough, no sum of shader size and offset wraps, and the size of what the driver
allocates a buffer for is computed without overflow. -/
def Fits (s : State) : Action → Prop
  | .gbSurfaceDefine _ desc base mips cubemap (.handle b) =>
    (Contents.surface desc base mips cubemap).trueSize ≤ s.numPages b * PAGE_SIZE
  | .gbSurfaceDefine _ desc base mips cubemap (.create _) => (Contents.surface desc base mips cubemap).Exact
  | .surfaceDefine _ desc sizes (some _) => (Contents.images desc sizes).Exact
  | .shaderDefine _ size offset (some _) => size + offset < 2 ^ 64
  | .reserve r _ _ => AllocFits (s.res r)
  | .evict type _ => ∀ r ∈ (s.lru type).head?, AllocFits (s.res r)
  | .unreserve r (some b) offset => offset + (s.res r).data.trueSize ≤ s.numPages b * PAGE_SIZE
  | _ => True

section Frame

variable {s s' s'' : State} {r : ResId} {b : BufId}

/-- No backup is new, and buffers keep their size. -/
structure Holds (s s' : State) : Prop where
  buffers : ∀ b, b ∈ s.buffers → b ∈ s'.buffers ∧ s'.numPages b = s.numPages b
  data : ∀ r, (s'.res r).data = (s.res r).data
  backupSize : ∀ r, (s'.res r).backupSize = (s.res r).backupSize
  backupOffset : ∀ r, (s'.res r).backupOffset = (s.res r).backupOffset
  backup : ∀ r b, (s'.res r).backup = some b → (s.res r).backup = some b

theorem Holds.refl (s : State) : Holds s s :=
  ⟨fun _ h => ⟨h, rfl⟩, fun _ => rfl, fun _ => rfl, fun _ => rfl, fun _ _ => id⟩

theorem Holds.trans (h : Holds s s') (h' : Holds s' s'') : Holds s s'' := by
  refine ⟨fun b hb => ?_, fun r => (h'.data r).trans (h.data r),
    fun r => (h'.backupSize r).trans (h.backupSize r),
    fun r => (h'.backupOffset r).trans (h.backupOffset r), fun r b hb => h.backup r b (h'.backup r b hb)⟩
  obtain ⟨hb', hpages⟩ := h.buffers b hb
  obtain ⟨hb'', hpages'⟩ := h'.buffers b hb'
  exact ⟨hb'', hpages'.trans hpages⟩

theorem Steady.holds (h : Steady s s') : Holds s s' := by
  refine ⟨fun b hb => ⟨h.buffers ▸ hb, congrFun h.numPages b⟩, fun r => (h.res r).data,
    fun r => (h.res r).backupSize, fun r => (h.res r).backupOffset, fun r b hb => ?_⟩
  rw [← (h.res r).backup]
  exact hb

/-- States that agree on the resources and on the buffers. -/
theorem Holds.of_eq (hres : s'.res = s.res) (hbuffers : s'.buffers = s.buffers)
    (hpages : s'.numPages = s.numPages) : Holds s s' := by
  refine ⟨fun b hb => ⟨hbuffers ▸ hb, congrFun hpages b⟩, ?_, ?_, ?_, ?_⟩ <;> intro r <;> rw [hres]
  exact fun _ => id

theorem Holds.modify {f : VmwResource → VmwResource} (hdata : (f (s.res r)).data = (s.res r).data)
    (hsize : (f (s.res r)).backupSize = (s.res r).backupSize)
    (hoffset : (f (s.res r)).backupOffset = (s.res r).backupOffset)
    (hbackup : ∀ b, (f (s.res r)).backup = some b → (s.res r).backup = some b) :
    Holds s (s.modify r f) := by
  refine ⟨fun b hb => ⟨hb, rfl⟩, fun r' => ?_, fun r' => ?_, fun r' => ?_, fun r' b hb => ?_⟩
  · rw [modify_res]
    split
    · rename_i heq
      rw [heq, hdata]
    · rfl
  · rw [modify_res]
    split
    · rename_i heq
      rw [heq, hsize]
    · rfl
  · rw [modify_res]
    split
    · rename_i heq
      rw [heq, hoffset]
    · rfl
  · rw [modify_res] at hb
    split at hb
    · rename_i heq
      exact heq ▸ hbackup b hb
    · exact hb

theorem dropBackup_holds (s : State) (r : ResId) : Holds s (s.dropBackup r) := by
  unfold State.dropBackup
  split
  · exact .refl s
  · have h : Holds s (s.modify r (fun res => { res with backup := none })) :=
      .modify rfl rfl rfl (fun _ h => nomatch h)
    exact h.trans (.of_eq rfl rfl rfl)

theorem bufPut_holds (s : State) (b : BufId) : Holds s (s.bufPut b) := .of_eq rfl rfl rfl

theorem bufGet_holds (s : State) (b : BufId) : Holds s (s.bufGet b) := .of_eq rfl rfl rfl

theorem bufInit_holds {size : Nat} (hb : b ∉ s.buffers) : Holds s (s.bufInit b size) := by
  refine ⟨fun b' hb' => ⟨List.mem_cons_of_mem _ hb', ?_⟩, fun _ => rfl, fun _ => rfl, fun _ => rfl,
    fun _ _ => id⟩
  have hne : b' ≠ b := fun heq => hb (heq ▸ hb')
  simp [State.bufInit, hne]

/-- The invariant: the sizes are the computed ones and every backup has room. -/
structure Sized (s : State) : Prop where
  inv : Inv s
  backupSize : ∀ r, (s.res r).backupSize = (s.res r).data.backupSize
  fits : ∀ r b, (s.res r).backup = some b →
    (s.res r).backupOffset + (s.res r).data.trueSize ≤ s.numPages b * PAGE_SIZE

theorem Inv.backup_mem (hinv : Inv s) (h : (s.res r).backup = some b) : b ∈ s.buffers := by
  by_contra hb
  exact (hinv.buffers b hb).2 r h

theorem Sized.holds (h : Sized s) (hinv : Inv s') (hholds : Holds s s') : Sized s' := by
  refine ⟨hinv, fun r => ?_, fun r b hb => ?_⟩
  · rw [hholds.backupSize, hholds.data]
    exact h.backupSize r
  · have hold := hholds.backup r b hb
    rw [hholds.backupOffset, hholds.data, (hholds.buffers b (h.inv.backup_mem hold)).2]
    exact h.fits r b hold

theorem setBackup_res (s : State) (r : ResId) (b : BufId) (r' : ResId) :
    (s.setBackup r b).res r' = if r' = r then { s.res r with backup := some b } else s.res r' :=
  modify_res s r r' (fun res => { res with backup := some b })

theorem setBackup_keeps (s : State) (r : ResId) (b : BufId) (r' : ResId) :
    ((s.setBackup r b).res r').data = (s.res r').data ∧
    ((s.setBackup r b).res r').backupSize = (s.res r').backupSize ∧
    ((s.setBackup r b).res r').backupOffset = (s.res r').backupOffset := by
  rw [setBackup_res]
  split
  · rename_i heq
    rw [heq]
    exact ⟨rfl, rfl, rfl⟩
  · exact ⟨rfl, rfl, rfl⟩

/-- A backup that is new has room. -/
theorem Sized.setBackup (h : Sized s) (hinv : Inv (s.setBackup r b))
    (hfits : (s.res r).backupOffset + (s.res r).data.trueSize ≤ s.numPages b * PAGE_SIZE) :
    Sized (s.setBackup r b) := by
  have hres := setBackup_res s r b
  refine ⟨hinv, fun r' => ?_, fun r' b' hb' => ?_⟩
  · rw [hres]
    split
    · exact h.backupSize r
    · exact h.backupSize r'
  · rw [hres] at hb' ⊢
    split at hb'
    · rename_i heq
      cases hb'
      rw [if_pos heq]
      exact hfits
    · rename_i hne
      rw [if_neg hne]
      exact h.fits r' b' hb'

/-- A buffer allocated for the resource. -/
theorem Sized.alloc (h : Sized s) (hr : r ∈ s.resources) (hnone : (s.res r).backup = none)
    (hb : b ∉ s.buffers) (hfits : AllocFits (s.res r)) :
    Sized ((s.bufInit b (s.res r).backupSize).setBackup r b) := by
  have hinit := h.holds (h.inv.bufInit b (s.res r).backupSize) (bufInit_holds hb)
  apply hinit.setBackup (hinit.inv.setBackup hr hnone List.mem_cons_self)
  have hpages : (s.bufInit b (s.res r).backupSize).numPages b = ((s.res r).backupSize + PAGE_SIZE - 1) / PAGE_SIZE := by
    simp [State.bufInit]
  obtain ⟨hzero, hexact⟩ := hfits hnone
  have hroom := trueSize_le_pageAlign hexact
  rw [← h.backupSize r, pageAlign] at hroom
  rw [hpages]
  show (s.res r).backupOffset + (s.res r).data.trueSize ≤ _
  rw [hzero, Nat.zero_add]
  exact hroom

end Frame

section Operations

variable {s s' : State} {r : ResId} {b : BufId} {ret : Int}

theorem checkBufferFail_holds (s : State) (r : ResId) (b : BufId) (backupDirty : Bool) :
    Holds s (checkBufferFail s r b backupDirty) := by
  unfold checkBufferFail
  split
  · exact (bufPut_holds s b).trans (dropBackup_holds _ r)
  · exact bufPut_holds s b

theorem vmwResourceCheckBuffer_sized {o : CheckBuffer} (h : Sized s) (hr : r ∈ s.resources)
    (hfits : AllocFits (s.res r)) (hcheck : vmwResourceCheckBuffer s r o = some (ret, s')) : Sized s' := by
  have hinv' := (vmwResourceCheckBuffer_spec h.inv hr hcheck).inv
  -- past the allocation nothing gets a backup
  have hrest : ∀ {t : State} {b : BufId}, Sized t → (if o.reserve ≠ 0 then
        some (o.reserve, checkBufferFail (t.bufGet b) r b false)
      else if ((t.bufGet b).res r).func.needsBackup ∧ ((t.bufGet b).res r).mobHead.isNone then
        some (0, t.bufGet b)
      else (moveOut (t.bufGet b) b o.moves).map fun u =>
        if o.validate ≠ 0 then (o.validate, checkBufferFail u r b ((t.bufGet b).res r).backupDirty)
        else (0, u)) = some (ret, s') → b ∈ t.buffers → Sized s' := by
    intro t b ht heq hb
    apply ht.holds hinv'
    have hget := bufGet_holds t b
    split at heq
    · cases heq
      exact hget.trans (checkBufferFail_holds _ r b false)
    · split at heq
      · cases heq
        exact hget
      · obtain ⟨u, hmove, heq⟩ := Option.map_eq_some_iff.mp heq
        obtain ⟨-, hsteady, -⟩ := moveOut_spec (ht.inv.bufGet hb) hmove
        split at heq
        · cases heq
          exact hget.trans (hsteady.holds.trans (checkBufferFail_holds u r b _))
        · cases heq
          exact hget.trans hsteady.holds
  unfold vmwResourceCheckBuffer at hcheck
  cases hback : (s.res r).backup with
  | none =>
    rw [hback] at hcheck
    obtain ⟨⟨ret₁, s₁⟩, halloc, hnext⟩ := Option.bind_eq_some_iff.mp hcheck
    rcases vmwResourceBufAlloc_spec h.inv hr hback halloc with ⟨hret, rfl⟩ | ⟨hret, b, hb, rfl, hinv₁⟩
    · simp only [hret, ne_eq, not_false_eq_true, if_true] at hnext
      cases hnext
      exact h
    · have hself : (((s.bufInit b (s.res r).backupSize).setBackup r b).res r).backup = some b := by
        simp [State.setBackup, State.modify]
      simp only [hret, ne_eq, not_true_eq_false, if_false, hself] at hnext
      exact hrest (h.alloc hr hback hb hfits) hnext List.mem_cons_self
  | some b =>
    rw [hback] at hcheck
    simp only [Option.isNone_some, Bool.false_eq_true, if_false, Option.bind_some, ne_eq,
      not_true_eq_false, hback] at hcheck
    exact hrest h hcheck (h.inv.backup_mem hback)

theorem evict_done_holds (s : State) (r : ResId) (b : BufId) (destroy : Int) :
    Holds s (((funcDestroy s r destroy).modify r
      (fun res => { res with backupDirty := true, resDirty := false })).bufPut b) :=
  (Steady.funcDestroy s r destroy).holds.trans
    ((Holds.modify rfl rfl rfl (fun _ => id)).trans (bufPut_holds _ b))

theorem vmwResourceDoEvict_sized {o : Evict} (h : Sized s) (hr : r ∈ s.resources)
    (hphase : (s.res r).phase ≠ .validated) (hfits : AllocFits (s.res r))
    (hevict : vmwResourceDoEvict s r o = some (ret, s')) : Sized s' := by
  have hinv' := (vmwResourceDoEvict_spec h.inv hr hphase hevict).1
  unfold vmwResourceDoEvict at hevict
  split at hevict
  · cases hevict
  obtain ⟨⟨ret₁, t⟩, hcheck, hrest⟩ := Option.bind_eq_some_iff.mp hevict
  have ht := vmwResourceCheckBuffer_sized h hr hfits hcheck
  simp only at hrest
  split at hrest
  · cases hrest
    exact ht
  cases hback : (t.res r).backup with
  | none =>
    rw [hback] at hrest
    cases hrest
  | some b =>
    rw [hback] at hrest
    apply ht.holds hinv'
    simp only at hrest
    split at hrest
    · split at hrest
      · cases hrest
        exact bufPut_holds t b
      · cases hrest
        exact ((Steady.funcUnbind t b _ o.unbind).trans (Steady.listDelMob _ r)).holds.trans
          (evict_done_holds _ r b _)
    · cases hrest
      exact evict_done_holds t r b _

theorem vmwResourceRelease_holds (s : State) (r : ResId) (u : Unbind) :
    Holds s (vmwResourceRelease s r u) := by
  have hphase : ∀ t : State, Holds t (t.modify r (fun res => { res with phase := .released })) :=
    fun t => .modify rfl rfl rfl (fun _ => id)
  have hdel : Holds s (s.lruDel r) := .of_eq rfl rfl rfl
  have hdrop : ∀ t : State, Holds t
      (((t.modify r (fun res => { res with backupDirty := false })).listDelMob r).dropBackup r) :=
    fun t => (Holds.modify rfl rfl rfl (fun _ => id)).trans
      ((Steady.listDelMob _ r).holds.trans (dropBackup_holds _ r))
  unfold vmwResourceRelease
  simp only
  split
  · exact hdel.trans (hphase _)
  · rename_i b _
    split
    · exact hdel.trans ((Steady.funcUnbind _ b false u).holds.trans ((hdrop _).trans (hphase _)))
    · exact hdel.trans ((hdrop _).trans (hphase _))

theorem validateDone_holds (s : State) (r : ResId) : Holds s (validateDone s r) := by
  unfold validateDone
  split
  · exact (Steady.listDelMob s r).holds.trans (dropBackup_holds _ r)
  · exact .refl s

theorem evictOne_sized {type : ResType} {o : Attempt} (h : Sized s)
    (hfits : ∀ r ∈ (s.lru type).head?, AllocFits (s.res r)) (hevict : evictOne s type o = some (ret, s')) :
    Sized s' := by
  have hinv' := evictOne_inv h.inv hevict
  unfold evictOne at hevict
  cases hlru : s.lru type with
  | nil =>
    rw [hlru] at hevict
    cases hevict
  | cons v rest =>
    rw [hlru] at hevict
    obtain ⟨⟨ret₁, t⟩, hone, heq⟩ := Option.map_eq_some_iff.mp hevict
    have hv : v ∈ s.lru type := hlru ▸ List.mem_cons_self
    have hidle := (h.inv.lru type v hv).1
    have hdel : Sized (s.lruDel v) := h.holds (h.inv.lruDel v) (.of_eq rfl rfl rfl)
    have ht := vmwResourceDoEvict_sized hdel (h.inv.known (by rw [hidle]; decide) : v ∈ s.resources)
      (by show (s.res v).phase ≠ _; rw [hidle]; decide) (hfits v (by rw [hlru]; rfl)) hone
    have hback : ∀ u, (if ret₁ = 0 then t else t.lruAdd v) = u → Holds t u := by
      rintro u rfl
      split
      · exact .refl t
      · exact .of_eq rfl rfl rfl
    cases heq
    apply ht.holds hinv'
    unfold putVictim
    split
    · exact (hback _ rfl).trans (vmwResourceRelease_holds _ v _)
    · exact hback _ rfl

theorem vmwResourceReserve_sized {noBackup : Bool} {alloc : Option BufId} (h : Sized s)
    (hr : r ∈ s.resources) (hfits : AllocFits (s.res r))
    (hreserve : vmwResourceReserve s r noBackup alloc = some (ret, s')) : Sized s' := by
  have hdel : Sized (s.lruDel r) := h.holds (h.inv.lruDel r) (.of_eq rfl rfl rfl)
  unfold vmwResourceReserve at hreserve
  simp only at hreserve
  split at hreserve
  · rename_i hcond
    have hnone := Option.isNone_iff_eq_none.mp hcond.2.1
    rcases vmwResourceBufAlloc_spec hdel.inv hr hnone hreserve with ⟨-, rfl⟩ | ⟨-, b, hb, rfl, -⟩
    · exact hdel
    · exact hdel.alloc hr hnone hb hfits
  · cases hreserve
    exact hdel

/-- The offset comes with the buffer that has room for it. -/
theorem Sized.switch (h : Sized s) (t : State) {u : State} {off : Nat}
    (hpages : ∀ b, b ∈ s.buffers → t.numPages b = s.numPages b)
    (hdata : ∀ r, (t.res r).data = (s.res r).data)
    (hsize : ∀ r, (t.res r).backupSize = (s.res r).backupSize)
    (hoffset : ∀ r, (t.res r).backupOffset = (s.res r).backupOffset)
    (hbackup : ∀ r', r' ≠ r → ∀ b, (t.res r').backup = some b → (s.res r').backup = some b)
    (hnew : (t.res r).backup = some b) (hb : b ∈ s.buffers)
    (hfits : off + (s.res r).data.trueSize ≤ s.numPages b * PAGE_SIZE)
    (hu : u.res = (t.modify r (fun res => { res with backupOffset := off })).res)
    (hunum : u.numPages = t.numPages) (hinv : Inv u) : Sized u := by
  have hres : ∀ r', u.res r' = if r' = r then { t.res r with backupOffset := off } else t.res r' := by
    intro r'
    rw [hu, modify_res]
  refine ⟨hinv, fun r' => ?_, fun r' b' hb' => ?_⟩
  · rw [hres]
    split
    · rename_i heq
      have := h.backupSize r
      rw [← hsize, ← hdata] at this
      exact this
    · rw [hsize, hdata]
      exact h.backupSize r'
  · rw [hunum]
    rw [hres] at hb' ⊢
    split at hb'
    · rename_i heq
      cases hnew.symm.trans hb'
      rw [if_pos heq, hpages b hb]
      show off + (t.res r).data.trueSize ≤ _
      rw [hdata]
      exact hfits
    · rename_i hne
      have hold := hbackup r' hne b' hb'
      rw [if_neg hne, hoffset, hdata, hpages b' (h.inv.backup_mem hold)]
      exact h.fits r' b' hold

theorem vmwResourceUnreserve_sized {newBackup : Option BufId} {off : Nat} (h : Sized s)
    (hinv' : Inv (vmwResourceUnreserve s r newBackup off))
    (hnew : ∀ b, newBackup = some b → b ∈ s.buffers ∧
      off + (s.res r).data.trueSize ≤ s.numPages b * PAGE_SIZE) :
    Sized (vmwResourceUnreserve s r newBackup off) := by
  unfold vmwResourceUnreserve at hinv' ⊢
  split
  · exact h
  rename_i hout
  rw [if_neg hout] at hinv'
  have hlru : ∀ t : State, (if ¬ (t.res r).func.mayEvict ∨ ¬ (t.res r).onDevice ∨ (t.res r).pinCount ≠ 0
      then t else t.lruAdd r).res = t.res ∧ (if ¬ (t.res r).func.mayEvict ∨ ¬ (t.res r).onDevice ∨
      (t.res r).pinCount ≠ 0 then t else t.lruAdd r).numPages = t.numPages ∧
      (if ¬ (t.res r).func.mayEvict ∨ ¬ (t.res r).onDevice ∨ (t.res r).pinCount ≠ 0 then t
      else t.lruAdd r).buffers = t.buffers := by
    intro t
    split <;> exact ⟨rfl, rfl, rfl⟩
  cases newBackup with
  | none =>
    obtain ⟨hres, hpages, hbuffers⟩ := hlru s
    exact h.holds hinv' (.of_eq hres hbuffers hpages)
  | some b =>
    obtain ⟨hb, hfits⟩ := hnew b rfl
    obtain ⟨hres, hpages, -⟩ := hlru ((if (s.res r).backup = some b then s else
      ((if (s.res r).backup.isSome then (s.listDelMob r).dropBackup r else s).setBackup r b).listAddMob r b).modify
        r (fun res => { res with backupOffset := off }))
    by_cases hsame : (s.res r).backup = some b
    · simp only [hsame, if_true] at hinv' hres hpages ⊢
      exact h.switch s (fun _ _ => rfl) (fun _ => rfl) (fun _ => rfl) (fun _ => rfl) (fun _ _ _ => id) hsame
        hb hfits hres hpages hinv'
    · simp only [hsame, if_false] at hinv' hres hpages ⊢
      have hold : Holds s (if (s.res r).backup.isSome then (s.listDelMob r).dropBackup r else s) := by
        split
        · exact (Steady.listDelMob s r).holds.trans (dropBackup_holds _ r)
        · exact .refl s
      generalize hv : (if (s.res r).backup.isSome then (s.listDelMob r).dropBackup r else s) = v
        at hold hinv' hres hpages ⊢
      have hadd := Steady.listAddMob (v.setBackup r b) r b
      have hset := setBackup_res v r b
      have hkeep := setBackup_keeps v r b
      refine h.switch ((v.setBackup r b).listAddMob r b) ?_ ?_ ?_ ?_ ?_ ?_ hb hfits hres hpages hinv'
      · exact fun b' hb' => (congrFun hadd.numPages b').trans (hold.buffers b' hb').2
      · exact fun r' => (hadd.res r').data.trans ((hkeep r').1.trans (hold.data r'))
      · exact fun r' => (hadd.res r').backupSize.trans ((hkeep r').2.1.trans (hold.backupSize r'))
      · exact fun r' => (hadd.res r').backupOffset.trans ((hkeep r').2.2.trans (hold.backupOffset r'))
      · intro r' hne b' hb'
        rw [(hadd.res r').backup, hset, if_neg hne] at hb'
        exact hold.backup r' b' hb'
      · rw [(hadd.res r).backup, hset, if_pos rfl]

end Operations

section Run

variable {s s' : State} {hasMob : Bool} {r : ResId} {b : BufId}

theorem Sized.init : Sized State.init :=
  ⟨Inv.init, fun _ => rfl, fun _ _ h => nomatch h⟩

theorem Sized.create (h : Sized s) (hr : r ∉ s.resources) (func : VmwResFunc) (data : Contents) :
    Sized (vmwResourceInit s r func data) := by
  have hself : (vmwResourceInit s r func data).res r
      = { func, data, onDevice := false, backup := none, backupOffset := 0
          backupSize := data.backupSize, backupDirty := false, resDirty := false, mobHead := none
          pinCount := 0, phase := .idle } := by
    simp [vmwResourceInit]
  have hres : ∀ r', r' ≠ r → (vmwResourceInit s r func data).res r' = s.res r' := by
    intro r' hne
    simp [vmwResourceInit, hne]
  refine ⟨h.inv.init_resource hr func data, fun r' => ?_, fun r' b hb => ?_⟩
  · by_cases heq : r' = r
    · rw [heq, hself]
    · rw [hres r' heq]
      exact h.backupSize r'
  · by_cases heq : r' = r
    · rw [heq, hself] at hb
      cases hb
    · rw [hres r' heq] at hb ⊢
      exact h.fits r' b hb

theorem vmwUserDmabufAlloc_sized (h : Sized s) (hr : r ∈ s.resources) (hnone : (s.res r).backup = none)
    (hfits : AllocFits (s.res r)) (halloc : vmwUserDmabufAlloc s r b (s.res r).backupSize = some s') :
    Sized s' := by
  have hinv' := vmwUserDmabufAlloc_inv h.inv hr hnone halloc
  unfold vmwUserDmabufAlloc at halloc
  split at halloc
  · cases halloc
  · rename_i hcond
    cases halloc
    exact (h.alloc hr hnone (fun hb => hcond (.inl hb)) hfits).holds hinv' (bufGet_holds _ b)

theorem Sized.step {a : Action} (h : Sized s) (hfits : Fits s a) (hstep : step hasMob s a = some s') :
    Sized s' := by
  have hinv' := h.inv.step hstep
  cases a with
  | gbSurfaceDefine r desc base mips cubemap backing =>
    simp only [Resource.step, vmwGbSurfaceDefine] at hstep
    generalize (if hasMob = true then VmwResFunc.gbSurface else VmwResFunc.legacySurface) = func at hstep
    split at hstep
    · cases hstep
    · rename_i hr
      have hnew := h.create hr func (.surface desc base mips cubemap)
      obtain ⟨-, hr₁, hnone⟩ := h.inv.create hr func (.surface desc base mips cubemap)
      cases backing with
      | none =>
        cases hstep
        exact hnew
      | handle b =>
        simp only at hstep
        split at hstep
        · cases hstep
        · cases hstep
          apply hnew.setBackup hinv'
          simpa [vmwResourceInit, Fits] using hfits
      | create b =>
        refine vmwUserDmabufAlloc_sized hnew hr₁ hnone ?_ hstep
        intro _
        simpa [vmwResourceInit, Fits] using hfits
  | surfaceDefine r desc sizes shared =>
    simp only [Resource.step, vmwSurfaceDefine] at hstep
    generalize (if hasMob = true then VmwResFunc.gbSurface else VmwResFunc.legacySurface) = func at hstep
    split at hstep
    · cases hstep
    · rename_i hr
      have hnew := h.create hr func (.images desc sizes)
      obtain ⟨-, hr₁, hnone⟩ := h.inv.create hr func (.images desc sizes)
      cases shared with
      | none =>
        cases hstep
        exact hnew
      | some b =>
        simp only at hstep
        split at hstep
        · refine vmwUserDmabufAlloc_sized hnew hr₁ hnone ?_ hstep
          intro _
          simpa [vmwResourceInit, Fits] using hfits
        · cases hstep
  | shaderDefine r size offset handle =>
    simp only [Resource.step, vmwShaderDefine] at hstep
    split at hstep
    · cases hstep
    · rename_i hr
      have hnew := h.create hr .gbShader (.shader size)
      cases handle with
      | none =>
        cases hstep
        exact hnew
      | some b =>
        simp only at hstep
        split at hstep
        · cases hstep
        · rename_i hcond
          cases hstep
          -- the sum was not cut off, so the check is the one that is needed
          have hroom : size + offset ≤ s.numPages b * PAGE_SIZE := by
            have hsum : (size + offset) % 2 ^ 64 = size + offset := Nat.mod_eq_of_lt hfits
            rw [hsum] at hcond
            simp only [vmwResourceInit] at hcond
            omega
          have hkeep := setBackup_keeps (vmwResourceInit s r .gbShader (.shader size)) r b
          refine hnew.switch ((vmwResourceInit s r .gbShader (.shader size)).setBackup r b) (fun _ _ => rfl)
            (fun r' => (hkeep r').1) (fun r' => (hkeep r').2.1)
            (fun r' => (hkeep r').2.2) (fun r' hne b' hb' => ?_) ?_
            (named_buffer hnew.inv (fun hb => hcond (.inl hb))) ?_ rfl rfl hinv'
          · rw [setBackup_res, if_neg hne] at hb'
            exact hb'
          · rw [setBackup_res, if_pos rfl]
          · simp only [vmwResourceInit, Function.update_self, Contents.trueSize]
            omega
  | compatShaderAdd r size b =>
    simp only [Resource.step, vmwCompatShaderAdd] at hstep
    split at hstep
    · cases hstep
    · rename_i hr
      split at hstep
      · cases hstep
      · rename_i hcond
        cases hstep
        have hnew := h.create hr .gbShader (.shader size)
        obtain ⟨-, hr₁, hnone⟩ := h.inv.create hr .gbShader (.shader size)
        have hsize : ((vmwResourceInit s r .gbShader (.shader size)).res r).backupSize = size := by
          simp [vmwResourceInit, Contents.backupSize]
        have := hnew.alloc hr₁ hnone (b := b) (fun hb => hcond (.inl hb)) (by
          intro _
          simp [vmwResourceInit, Contents.Exact])
        rw [hsize] at this
        exact this
  | contextDefine r =>
    simp only [Resource.step, vmwContextDefine] at hstep
    split at hstep
    · cases hstep
    · rename_i hr
      cases hstep
      split
      · exact h.create hr _ _
      · exact h.create hr _ _
  | reserve r noBackup alloc =>
    simp only [Resource.step] at hstep
    split at hstep
    · cases hstep
    · rename_i hidle
      obtain ⟨⟨ret, t⟩, hreserve, rfl⟩ := Option.map_eq_some_iff.mp hstep
      have hr := h.inv.known (r := r) (by rw [not_not.mp hidle]; decide)
      exact (vmwResourceReserve_sized h hr hfits hreserve).holds hinv' (.modify rfl rfl rfl (fun _ => id))
  | validate r o =>
    simp only [Resource.step] at hstep
    split at hstep
    · cases hstep
    rename_i hphase
    have hr := h.inv.known (r := r) (by rw [not_not.mp hphase]; decide)
    have hvalid : ∀ t : State, Holds t (t.setPhase r .validated) :=
      fun t => .modify rfl rfl rfl (fun _ => id)
    split at hstep
    · cases hstep
      exact h.holds hinv' (hvalid s)
    · cases hround : vmwResourceDoValidate s r o with
      | mk ret t =>
        obtain ⟨-, hsteady, -⟩ := vmwResourceDoValidate_spec h.inv hr hround
        rw [hround] at hstep
        cases hstep
        apply h.holds hinv'
        split
        · exact hsteady.holds.trans ((validateDone_holds t r).trans (hvalid _))
        · exact hsteady.holds
  | unreserve r newBackup off =>
    simp only [Resource.step] at hstep
    split at hstep
    · cases hstep
    · rename_i hcond
      cases hstep
      simp only [not_or, not_exists, not_and, Option.mem_def, not_not] at hcond
      obtain ⟨hlive, hnew⟩ := hcond
      have hidle : Sized (s.setPhase r .idle) :=
        h.holds (h.inv.setIdle (h.inv.known hlive)) (.modify rfl rfl rfl (fun _ => id))
      apply vmwResourceUnreserve_sized hidle hinv'
      rintro b rfl
      refine ⟨(named_buffer h.inv (hnew b rfl).2 : b ∈ s.buffers), ?_⟩
      rw [State.setPhase, modify_res, if_pos rfl]
      exact hfits
  | evict type o =>
    obtain ⟨⟨ret, t⟩, hevict, rfl⟩ := Option.map_eq_some_iff.mp hstep
    exact evictOne_sized h hfits hevict
  | moveNotify b toMob us =>
    simp only [Resource.step] at hstep
    split at hstep
    · cases hstep
    · rename_i hcond
      cases hstep
      have hheld : s.held b = false := by
        by_contra hheld
        exact hcond (.inl (by simpa using hheld))
      exact h.holds hinv' (vmwResourceMoveNotify_spec h.inv hheld toMob us).2.1.holds
  | release r u =>
    simp only [Resource.step] at hstep
    split at hstep
    · cases hstep
    · cases hstep
      exact h.holds hinv' (vmwResourceRelease_holds s r u)
  | pin r count =>
    simp only [Resource.step] at hstep
    split at hstep
    · cases hstep
    · cases hstep
      exact h.holds hinv' (.modify rfl rfl rfl (fun _ => id))
  | bufCreate b size =>
    simp only [Resource.step] at hstep
    split at hstep
    · cases hstep
    · rename_i hb
      cases hstep
      exact h.holds hinv' ((bufInit_holds hb).trans (bufGet_holds _ b))
  | bufGet b =>
    simp only [Resource.step] at hstep
    split at hstep
    · cases hstep
    · cases hstep
      exact h.holds hinv' (bufGet_holds s b)
  | bufPut b =>
    simp only [Resource.step] at hstep
    split at hstep
    · cases hstep
    · cases hstep
      exact h.holds hinv' (bufPut_holds s b)

end Run

section Example

/-- `SVGA3D_A8R8G8B8`. -/
private def argb : Svga3dSurfaceDesc :=
  { planar := false, blockSize := ⟨1, 1, 1⟩, bytesPerBlock := 4, pitchBytesPerBlock := 4
    width_pos := by decide, height_pos := by decide, depth_pos := by decide }

private def defined (width : Nat) : List Action :=
  [.bufCreate 1 PAGE_SIZE, .gbSurfaceDefine 7 argb ⟨width, 1, 1⟩ 1 false (.handle 1)]

end Example

end Vmwgfx.Resource
