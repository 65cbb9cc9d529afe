import Vmwgfx.Execbuf.Relocs

/-! A relocation is written where its command has asked for it, if the buffer that is pinned for
queries is named as the device names it. -/

namespace Vmwgfx.Execbuf.Relocs

open Vmwgfx.Hashtab Vmwgfx.Lib
open Vmwgfx.Pins (MemType Place Placement vmwMobPlacement vmwVramGmrPlacement vmwVramPlacement ERESTARTSYS)

variable {hashLong : HashLong}

section Listed

/-- The buffer that queries go to is on the validation list, as the device names it, and so is the dummy. -/
structure QueryListed (pinnedBo : Option BufId) (dummyQueryBo : BufId) (hasMob : Bool) (s : State hashLong) : Prop where
  nodup : (s.valBufs.map (·.bo)).Nodup
  pointers : ∀ reloc ∈ s.relocs, reloc.location = none → 0 < reloc.mobLoc
  query : s.curQueryBo = pinnedBo ∨ (∃ q ∈ s.valBufs, s.curQueryBo = some q.bo ∧
    (q.validateAsMob = true ∨ hasMob = false)) ∧ ⟨dummyQueryBo, hasMob⟩ ∈ s.valBufs

variable {pinnedBo : Option BufId} {env : Env} {s t u : State hashLong} {bo : BufId} {asMob : Bool} {a : Nat}

/-- The property, on a device. -/
abbrev OnDevice (env : Env) (pinnedBo : Option BufId) : State hashLong → Prop :=
  QueryListed pinnedBo env.dummyQueryBo env.hasMob

theorem OnDevice.framed : Framed (OnDevice env pinnedBo : State hashLong → Prop) fun _ => True where
  same s t h hs := by
    refine ⟨?_, ?_, ?_⟩
    · rw [h.valBufs]
      exact hs.nodup
    · rw [h.relocs]
      exact hs.pointers
    · rw [h.curQueryBo, h.valBufs]
      exact hs.query
  stop _ _ := trivial
  undo _ _ _ _ := trivial

theorem OnDevice.addBufRef (hs : OnDevice env pinnedBo s) (bo : BufId) (n : Int) :
    OnDevice env pinnedBo (s.addBufRef bo n) := ⟨hs.nodup, hs.pointers, hs.query⟩

theorem OnList.mem (h : OnList bo asMob s t) : ⟨bo, asMob⟩ ∈ t.valBufs := by
  cases h with
  | found h => exact h
  | new h => exact List.mem_append_right _ List.mem_cons_self

theorem OnList.subset (h : OnList bo asMob s t) : s.valBufs ⊆ t.valBufs := by
  cases h with
  | found h => exact List.Subset.refl _
  | new h => exact List.subset_append_left _ _

theorem OnList.frame (h : OnList bo asMob s t) : t.curQueryBo = s.curQueryBo ∧ t.relocs = s.relocs := by
  cases h with
  | found h => exact ⟨rfl, rfl⟩
  | new h => exact ⟨rfl, rfl⟩

theorem OnList.nodup (h : OnList bo asMob s t) (hs : (s.valBufs.map (·.bo)).Nodup) : (t.valBufs.map (·.bo)).Nodup := by
  cases h with
  | found h => exact hs
  | new h =>
    rw [List.map_append]
    refine List.nodup_append.mpr ⟨hs, List.nodup_singleton bo, fun b hb b' hb' heq => ?_⟩
    rw [heq, List.mem_singleton.mp hb'] at hb
    exact h hb

theorem OnList.keeps (h : OnList bo asMob s t) (hs : OnDevice env pinnedBo s) : OnDevice env pinnedBo t := by
  obtain ⟨hcur, hrelocs⟩ := OnList.frame h
  refine ⟨OnList.nodup h hs.nodup, ?_, ?_⟩
  · rw [hrelocs]
    exact hs.pointers
  · rw [hcur]
    cases hs.query with
    | inl hq => exact .inl hq
    | inr hq =>
      obtain ⟨⟨q, hq, hcur⟩, hdummy⟩ := hq
      exact .inr ⟨⟨q, OnList.subset h hq, hcur⟩, OnList.subset h hdummy⟩

theorem Translated.keeps (h : Translated asMob a bo s t) (ha : 0 < a) (hs : OnDevice env pinnedBo s) :
    OnDevice env pinnedBo t ∧ ⟨bo, asMob⟩ ∈ t.valBufs := by
  obtain ⟨href, hlist, hrel, hrest⟩ := h
  have ht := OnList.keeps hlist (OnDevice.framed.same _ _ href (hs.addBufRef bo 1))
  refine ⟨OnDevice.framed.same _ _ hrest ⟨ht.nodup, ?_, ht.query⟩, ?_⟩
  · intro reloc hreloc hnone
    cases List.mem_append.mp hreloc with
    | inl hreloc => exact ht.pointers reloc hreloc hnone
    | inr hreloc =>
      rw [List.mem_singleton.mp hreloc] at hnone ⊢
      rw [hrel hnone]
      exact ha
  · have hmem := OnList.mem hlist
    rw [hrest.valBufs]
    exact hmem

theorem keepQueryBo_ends (hs : OnDevice env pinnedBo s) (old : Option BufId) :
    Ends (keepQueryBo env old) s (fun _ t => OnDevice env pinnedBo t ∧ s.valBufs ⊆ t.valBufs) fun _ _ => True := by
  cases old with
  | none => exact ⟨hs, List.Subset.refl _⟩
  | some old =>
    have hs' : OnDevice env pinnedBo { s with needsPostQueryBarrier := true } := ⟨hs.nodup, hs.pointers, hs.query⟩
    refine ends_bind.mpr (ends_bind.mpr ?_)
    refine vmwBoToValidateList_ends (E := fun _ => True) (fun _ _ h => ?_) trivial
    have hsub := OnList.subset h
    exact ⟨OnList.keeps h hs', hsub⟩

/-- The new query buffer is one that has just been put on the list. -/
theorem switchPrepare_ends (hs : OnDevice env pinnedBo s) (hbo : ⟨bo, asMob⟩ ∈ s.valBufs)
    (hmob : asMob = true ∨ env.hasMob = false) :
    Ends (vmwQueryBoSwitchPrepare env bo) s (fun _ t => OnDevice env pinnedBo t) fun _ _ => True := by
  refine .bind_view ?_
  cases s.resCache .context with
  | none => trivial
  | some ctxEntry =>
    have hs' : OnDevice env pinnedBo { s with lastQueryCtx := some ctxEntry.res } := ⟨hs.nodup, hs.pointers, hs.query⟩
    refine ends_bind.mpr (.bind_view (.ite (fun _ => hs') fun _ => .ite (fun _ => trivial) fun _ => ?_))
    refine (keepQueryBo_ends hs' _).bind fun _ t ht => ends_bind.mpr (ends_bind.mpr ?_)
    refine vmwBoToValidateList_ends (E := fun _ => True) (fun i u h => ?_) trivial
    obtain ⟨hcur, hrelocs⟩ := OnList.frame h
    refine ⟨OnList.nodup h ht.1.nodup, ?_, .inr ⟨⟨_, OnList.subset h (ht.2 hbo), hcur, hmob⟩, OnList.mem h⟩⟩
    rw [hrelocs]
    exact ht.1.pointers

theorem addBufRef_guards (bo : BufId) (n : Int) :
    Guards (OnDevice env pinnedBo) (fun _ => True) (update (·.addBufRef bo n) : Verify hashLong Unit) :=
  fun _ hs => hs.addBufRef bo n

/-- A handler that translates a pointer above the first words, and goes on with its buffer. -/
theorem translateMob_guards {id : Nat} (hid : 0 < id) {β : Type} {f : BufId → Verify hashLong β}
    (hf : ∀ bo s, OnDevice env pinnedBo s → ⟨bo, true⟩ ∈ s.valBufs →
      Ends (f bo) s (fun _ t => OnDevice env pinnedBo t) fun _ _ => True) :
    Guards (OnDevice env pinnedBo) (fun _ => True) (vmwTranslateMobPtr env id >>= f) := by
  intro s hs
  refine ends_bind.mpr (vmwTranslateMobPtr_ends (E := fun _ => True) (fun bo v h => ?_) fun _ _ => trivial)
  obtain ⟨hv, hmem⟩ := Translated.keeps h hid hs
  exact hf bo v hv hmem

theorem translateGuest_guards {ptr : Nat} (hptr : 0 < ptr) {β : Type} {f : BufId → Verify hashLong β}
    (hf : ∀ bo s, OnDevice env pinnedBo s → ⟨bo, false⟩ ∈ s.valBufs →
      Ends (f bo) s (fun _ t => OnDevice env pinnedBo t) fun _ _ => True) :
    Guards (OnDevice env pinnedBo) (fun _ => True) (vmwTranslateGuestPtr env ptr >>= f) := by
  intro s hs
  refine ends_bind.mpr (vmwTranslateGuestPtr_ends (E := fun _ => True) (fun bo v h => ?_) fun _ _ => trivial)
  obtain ⟨hv, hmem⟩ := Translated.keeps h hptr hs
  exact hf bo v hv hmem

/-- The verifier keeps the property. -/
theorem OnDevice.kept : Kept env (OnDevice env pinnedBo : State hashLong → Prop) fun _ => True where
  toFramed := OnDevice.framed
  endGbQuery header := by
    refine (OnDevice.framed.checkHandle _ _).bind fun _ => translateMob_guards (Nat.succ_pos _) fun bo s hs hbo => ?_
    refine Ends.bind (onError_ends (E := fun _ => True) (switchPrepare_ends hs hbo (.inl rfl))) fun _ t ht => ?_
    exact addBufRef_guards bo (-1) t ht
  endQuery hmob header := by
    refine (OnDevice.framed.checkHandle _ _).bind fun _ => translateGuest_guards (Nat.succ_pos _) fun bo s hs hbo => ?_
    refine Ends.bind (onError_ends (E := fun _ => True) (switchPrepare_ends hs hbo (.inr hmob))) fun _ t ht => ?_
    exact addBufRef_guards bo (-1) t ht
  waitGbQuery header :=
    (OnDevice.framed.checkHandle _ _).bind fun _ => translateMob_guards (Nat.succ_pos _) fun bo s hs _ =>
      addBufRef_guards bo (-1) s hs
  waitQuery _ header :=
    (OnDevice.framed.checkHandle _ _).bind fun _ => translateGuest_guards (Nat.succ_pos _) fun bo s hs _ =>
      addBufRef_guards bo (-1) s hs
  dma header := by
    refine Guards.bind ?_ fun found => ?_
    · refine (OnDevice.framed.load _).bind fun _ => (OnDevice.framed.load _).bind fun _ =>
        .ite (fun _ => OnDevice.framed.fail _) fun _ => translateGuest_guards (Nat.succ_pos _) fun bo s hs _ => ?_
      refine (OnDevice.framed.load _).bind (fun _ => .ite (fun _ => OnDevice.framed.fail _) fun _ => ?_) s hs
      refine (OnDevice.framed.clampMaximumOffset _ _).bind fun _ => Guards.bind ?_ fun _ => (Guards.view _).bind fun _ => .pure _
      exact fun s hs => onError_ends (E := fun _ => True) (OnDevice.framed.checkHandle _ _ s hs)
    · obtain ⟨bo, srf⟩ := found
      cases srf with
      | none => exact OnDevice.framed.oops
      | some srf => exact (OnDevice.framed.vmwKmsCursorSnoop _).bind fun _ => addBufRef_guards bo (-1)
  defineGmrfb buf := translateGuest_guards (Nat.succ_pos _) fun bo s hs _ => addBufRef_guards bo (-1) s hs
  switchBackup resType header backupOffset := by
    refine (OnDevice.framed.vmwCmdResCheck _ _).bind fun valNode => translateMob_guards (Nat.succ_pos _) fun bo s hs _ => ?_
    cases valNode with
    | none => trivial
    | some res =>
      refine ends_update ?_
      dsimp only
      cases s.node res with
      | none => exact hs
      | some n =>
        dsimp only
        cases n.newBackup with
        | none => exact ⟨hs.nodup, hs.pointers, hs.query⟩
        | some old => exact ⟨hs.nodup, hs.pointers, hs.query⟩

theorem OnDevice.reserve (reserve : ResId → Bool → Except Int (Option BufId)) (needsBackup : ResId → Bool) (rs : List ResId) :
    Guards (OnDevice env pinnedBo) (fun _ => True) (vmwResourcesReserve reserve needsBackup rs : Verify hashLong Unit) := by
  induction rs with
  | nil => exact .pure _
  | cons res rest ih =>
    refine (Guards.view _).bind fun noBackup => ?_
    cases reserve res noBackup with
    | error ret => exact OnDevice.framed.fail ret
    | ok backup =>
      cases backup with
      | none => exact ih
      | some backup =>
        refine Guards.bind (fun s hs => ?_) fun _ => ih
        exact vmwBoToValidateList_ends (E := fun _ => True) (fun _ _ h => OnList.keeps h hs) trivial

/-- Reserving the resources only lengthens the validation list. -/
theorem vmwResourcesReserve_did {reserve : ResId → Bool → Except Int (Option BufId)} {needsBackup : ResId → Bool}
    {rs : List ResId} (hs : Inv env s) (h : vmwResourcesReserve reserve needsBackup rs s = .ok () t) : Did env s t [] := by
  induction rs generalizing s with
  | nil =>
    cases h
    exact Did.refl hs
  | cons res rest ih =>
    obtain ⟨noBackup, s₁, hview, h⟩ := bind_eq_ok.mp h
    cases hview
    cases hr : reserve res ((s.node res).any (·.noBufferNeeded)) with
    | error ret =>
      rw [hr] at h
      cases h
    | ok backup =>
      rw [hr] at h
      cases backup with
      | none => exact ih hs h
      | some backup =>
        obtain ⟨i, s₂, hval, h⟩ := bind_eq_ok.mp h
        have hd := (vmwBoToValidateList_ok hs hval).1
        exact hd.trans (ih hd.inv h)

end Listed

section Validate

variable {dev : Device} {place place' : Place} {bo : BufId}

theorem ttmBoValidate_ok {p : Placement} {answer : Except Int Place} (hplace : Manages dev.hasMob place)
    (h : ttmBoValidate dev p place answer = some (.ok place')) :
    place'.memType ∈ p.placement ++ p.busyPlacement ∧ Manages dev.hasMob place' := by
  unfold ttmBoValidate at h
  split at h
  · next hfits =>
    cases h
    exact ⟨List.mem_append_left _ hfits, hplace⟩
  · cases answer with
    | error ret =>
      dsimp only at h
      split at h <;> cases h
    | ok place₁ =>
      dsimp only at h
      split at h
      · next hanswer =>
        cases h
        exact hanswer
      · cases h

/-- A buffer is where a reference of that kind expects it. -/
def Suits (asMob : Bool) (place : Place) : Prop :=
  if asMob then place.memType = .mob else place.memType = .vram ∨ place.memType = .gmr

theorem vmwValidateSingleBuffer_ok {asMob : Bool} {answers : Except Int Place × Except Int Place}
    (hplace : Manages dev.hasMob place) (h : vmwValidateSingleBuffer dev place bo asMob answers = some (.ok place')) :
    Manages dev.hasMob place' ∧ (dev.Skips bo → place' = place) ∧ (¬ dev.Skips bo → Suits asMob place') := by
  unfold vmwValidateSingleBuffer at h
  split at h
  · next hskips =>
    cases h
    exact ⟨hplace, fun _ => rfl, fun h => absurd hskips h⟩
  · next hskips =>
    refine (and_congr_right fun _ => ⟨fun h => h.2, fun h => ⟨fun h' => absurd h' hskips, h⟩⟩).mpr ?_
    cases asMob with
    | true =>
      obtain ⟨hmem, hmanages⟩ := ttmBoValidate_ok hplace h
      exact ⟨hmanages, fun _ => by simpa [vmwMobPlacement, Suits] using hmem⟩
    | false =>
      have hsuits {p : Placement} (hp : ∀ m ∈ p.placement ++ p.busyPlacement, m = .vram ∨ m = .gmr) {answer : Except Int Place}
          (h : ttmBoValidate dev p place answer = some (.ok place')) :
          Manages dev.hasMob place' ∧ (¬ dev.Skips bo → Suits false place') := by
        obtain ⟨hmem, hmanages⟩ := ttmBoValidate_ok hplace h
        exact ⟨hmanages, fun _ => hp _ hmem⟩
      simp only [Bool.false_eq_true, if_false] at h
      split at h
      · split at h
        · cases h
        · exact hsuits (by simp [vmwVramPlacement]) h
      · exact hsuits (by simp [vmwVramGmrPlacement]) h

theorem vmwValidateSingleBuffer_error {asMob : Bool} {answers : Except Int Place × Except Int Place} {ret : Int}
    (h : vmwValidateSingleBuffer dev place bo asMob answers = some (.error ret)) : ret ≠ 0 := by
  have herror {p : Placement} {answer : Except Int Place} {ret : Int}
      (h : ttmBoValidate dev p place answer = some (.error ret)) : ret ≠ 0 := by
    unfold ttmBoValidate at h
    split at h
    · cases h
    · cases answer with
      | error ret' =>
        dsimp only at h
        split at h
        · cases h
        · next hne =>
          cases h
          exact hne
      | ok place₁ =>
        dsimp only at h
        split at h <;> cases h
  unfold vmwValidateSingleBuffer at h
  split at h
  · cases h
  · split at h
    · exact herror h
    · split at h
      · next hr =>
        split at h
        · cases h
          exact herror hr
        · exact herror h
      · exact herror h

variable {place place' : BufId → Place} {answers : BufId → Except Int Place × Except Int Place}

theorem manages_update {hasMob : Bool} (hplace : ∀ bo, Manages hasMob (place bo)) (bo : BufId) {place₁ : Place}
    (h : Manages hasMob place₁) : ∀ b, Manages hasMob (Function.update place bo place₁ b) := by
  intro b
  by_cases hb : b = bo
  · rw [hb, Function.update_self]
    exact h
  · rw [Function.update_of_ne hb]
    exact hplace b

/-- What a validation leaves alone, however it ends. -/
theorem vmwValidateBuffers_keeps {vs : List ValidateBuffer} {ret : Int} (hplace : ∀ bo, Manages dev.hasMob (place bo))
    (h : vmwValidateBuffers dev answers vs place = some (ret, place')) :
    (∀ bo, Manages dev.hasMob (place' bo)) ∧ (∀ bo, dev.Skips bo → place' bo = place bo) ∧
      ∀ bo ∉ vs.map (·.bo), place' bo = place bo := by
  induction vs generalizing place with
  | nil =>
    cases h
    exact ⟨hplace, fun _ _ => rfl, fun _ _ => rfl⟩
  | cons v rest ih =>
    unfold vmwValidateBuffers at h
    split at h
    · cases h
    · cases h
      exact ⟨hplace, fun _ _ => rfl, fun _ _ => rfl⟩
    · next place₁ hv =>
      obtain ⟨hmanages, hskips, _⟩ := vmwValidateSingleBuffer_ok (hplace v.bo) hv
      have hplace₁ := manages_update hplace v.bo hmanages
      obtain ⟨hrest, hskips', hother⟩ := ih hplace₁ h
      refine ⟨hrest, fun bo hbo => ?_, fun bo hbo => ?_⟩
      · rw [hskips' bo hbo]
        by_cases heq : bo = v.bo
        · rw [heq, Function.update_self]
          exact hskips (heq ▸ hbo)
        · rw [Function.update_of_ne heq]
      · rw [List.map_cons, List.mem_cons, not_or] at hbo
        rw [hother bo hbo.2, Function.update_of_ne hbo.1]

/-- A validation that succeeds puts every buffer where it is expected, but for those it passes by. -/
theorem vmwValidateBuffers_ok {vs : List ValidateBuffer} (hplace : ∀ bo, Manages dev.hasMob (place bo))
    (hnodup : (vs.map (·.bo)).Nodup) (h : vmwValidateBuffers dev answers vs place = some (0, place')) :
    ∀ v ∈ vs, ¬ dev.Skips v.bo → Suits v.validateAsMob (place' v.bo) := by
  induction vs generalizing place with
  | nil => exact fun v hv => absurd hv List.not_mem_nil
  | cons v rest ih =>
    unfold vmwValidateBuffers at h
    split at h
    · cases h
    · next ret hv =>
      cases h
      exact absurd rfl (vmwValidateSingleBuffer_error hv)
    · next place₁ hv =>
      rw [List.map_cons, List.nodup_cons] at hnodup
      obtain ⟨hmanages, _, hsuits⟩ := vmwValidateSingleBuffer_ok (hplace v.bo) hv
      have hplace₁ := manages_update hplace v.bo hmanages
      intro w hw hskips
      cases hw with
      | head =>
        rw [(vmwValidateBuffers_keeps hplace₁ h).2.2 v.bo hnodup.1, Function.update_self]
        exact hsuits hskips
      | tail _ hw => exact ih hplace₁ hnodup.2 h w hw hskips

end Validate

section Ready

variable {dev dev' : Device} {b : Batch hashLong} {sw : State hashLong}

/-- What is known of a batch that is ready to be submitted. -/
structure Ready (dev : Device) (b : Batch hashLong) (dev' : Device) (sw : State hashLong) : Prop where
  inv : Inv (b.envOn dev) sw
  listed : QueryListed dev.pinnedBo dev.dummyQueryBo dev.hasMob sw
  place : vmwValidateBuffers dev b.validate sw.valBufs dev.place = some (0, dev'.place)
  rest : dev' = b.evicts { dev with place := dev'.place }

theorem start_listed : OnDevice (b.envOn dev) dev.pinnedBo (b.start dev) :=
  ⟨List.nodup_nil, fun _ h => absurd h List.not_mem_nil, .inl rfl⟩

theorem start_inv : Inv (b.envOn dev) (b.start dev) := by
  have hfresh : (b.start dev).Fresh := ⟨rfl, rfl, rfl, rfl, fun _ => rfl, fun _ => rfl, rfl⟩
  exact hfresh.inv _

/-- However a batch ends, it has been validated or it has left all buffers where they were. -/
theorem vmwExecbufPrepare_failed (h : vmwExecbufPrepare dev b = some (.failed dev')) :
    ∃ vs ret place, vmwValidateBuffers dev b.validate vs dev.place = some (ret, place) ∧
      (dev' = { dev with place := place } ∨ dev' = b.evicts { dev with place := place }) := by
  unfold vmwExecbufPrepare at h
  split at h
  · cases h
  · cases h
  · cases h
    exact ⟨[], 0, dev.place, rfl, .inl rfl⟩
  · split at h
    · cases h
      exact ⟨[], 0, dev.place, rfl, .inl rfl⟩
    · split at h
      · cases h
        exact ⟨[], 0, dev.place, rfl, .inl rfl⟩
      · obtain ⟨⟨ret, place⟩, hval, h⟩ := Option.map_eq_some_iff.mp h
        refine ⟨_, ret, place, hval, ?_⟩
        dsimp only at h
        split at h
        · cases h
          exact .inl rfl
        · split at h
          · cases h
            exact .inr rfl
          · cases h

theorem vmwExecbufPrepare_ready (h : vmwExecbufPrepare dev b = some (.ready dev' sw)) : Ready dev b dev' sw := by
  unfold vmwExecbufPrepare at h
  split at h
  · cases h
  · cases h
  · cases h
  · next sw₀ hcheck =>
    split at h
    · cases h
    · next sw₁ hreserve =>
      split at h
      · cases h
      · obtain ⟨⟨ret, place⟩, hval, h⟩ := Option.map_eq_some_iff.mp h
        dsimp only at h
        split at h
        · cases h
        · next hret =>
          split at h
          · cases h
          · cases h
            rw [Classical.not_not.mp hret] at hval
            have hlisted := (checkLoop_guards OnDevice.kept start_listed).1 sw₀ hcheck
            have hends := OnDevice.reserve b.reserve b.needsBackup sw₀.resourceList sw₀ hlisted
            unfold Ends at hends
            rw [hreserve] at hends
            obtain ⟨cs, buf', hrun⟩ := vmwCmdCheckAll_ok hcheck
            have hinv := (hrun.logged start_inv).1.inv
            exact ⟨(vmwResourcesReserve_did hinv hreserve).inv, hends, hval, rfl⟩

end Ready

section Runs

variable {dev dev' : Device}

/-- A buffer that validation passes by is where the device wants its query buffers. -/
structure Settled (dev : Device) : Prop where
  manages : ∀ bo, Manages dev.hasMob (dev.place bo)
  skipped : ∀ bo, dev.Skips bo → Suits dev.hasMob (dev.place bo)

theorem Settled.release (h : Settled dev) (panic : Bool) : Settled (dev.releasePinnedBo panic) := by
  unfold Device.releasePinnedBo
  split
  · exact h
  · refine ⟨h.manages, fun bo hskips => ?_⟩
    cases hskips with
    | inl hskips => cases hskips
    | inr hskips => cases hskips.2

theorem Settled.releaseInvalid (h : Settled dev) (panic : Bool) : Settled (dev.releaseInvalid panic) := by
  unfold Device.releaseInvalid
  split
  · exact h
  · exact h.release panic

theorem Settled.vmwRelease (h : Settled dev) (panic : Bool) : Settled (dev.vmwExecbufReleasePinnedBo panic) := by
  unfold Device.vmwExecbufReleasePinnedBo
  split
  · exact h.release panic
  · exact h

theorem Settled.setPlace (h : Settled dev) {bo : BufId} {place : Place} (hbo : ¬ dev.Skips bo)
    (hplace : Manages dev.hasMob place) : Settled (dev.setPlace bo place) where
  manages := manages_update h.manages bo hplace
  skipped b hb := by
    have hne : b ≠ bo := fun heq => hbo (heq ▸ hb)
    change Suits dev.hasMob (Function.update dev.place bo place b)
    rw [Function.update_of_ne hne]
    exact h.skipped b hb

/-- A validation keeps its hands off the buffers it passes by. -/
theorem Settled.validate (h : Settled dev) {answers : BufId → Except Int Place × Except Int Place}
    {vs : List ValidateBuffer} {ret : Int} {place : BufId → Place}
    (hval : vmwValidateBuffers dev answers vs dev.place = some (ret, place)) : Settled { dev with place := place } := by
  obtain ⟨hmanages, hskips, _⟩ := vmwValidateBuffers_keeps h.manages hval
  refine ⟨hmanages, fun bo hbo => ?_⟩
  change Suits dev.hasMob (place bo)
  rw [hskips bo hbo]
  exact h.skipped bo hbo

theorem Settled.evicts (h : Settled dev) (b : Batch hashLong) : Settled (b.evicts dev) := ⟨h.manages, h.skipped⟩

/-- Where a buffer of the list of a batch that is ready is. -/
theorem Ready.suits {b : Batch hashLong} {sw : State hashLong} (hready : Ready dev b dev' sw) (h : Settled dev)
    {v : ValidateBuffer} (hv : v ∈ sw.valBufs) (hskips : ¬ dev.Skips v.bo) : Suits v.validateAsMob (dev'.place v.bo) :=
  vmwValidateBuffers_ok h.manages hready.listed.nodup hready.place v hv hskips

theorem Ready.skipped {b : Batch hashLong} {sw : State hashLong} (hready : Ready dev b dev' sw) (h : Settled dev)
    {bo : BufId} (hskips : dev.Skips bo) : Suits dev.hasMob (dev'.place bo) := by
  rw [(vmwValidateBuffers_keeps h.manages hready.place).2.1 bo hskips]
  exact h.skipped bo hskips

theorem Suits.onDevice {asMob hasMob : Bool} {place : Place} (h : Suits asMob place) (hmanages : Manages hasMob place)
    (hkind : asMob = true ∨ hasMob = false) : Suits hasMob place := by
  cases asMob with
  | true =>
    have hmob : place.memType = .mob := h
    rw [hmanages hmob]
    exact hmob
  | false =>
    cases hkind with
    | inl hkind => cases hkind
    | inr hkind =>
      rw [hkind]
      exact h

/-- The buffers that are pinned for queries have been validated as the device names them. -/
theorem Settled.commit (h : Settled dev) {b : Batch hashLong} {sw : State hashLong} (hready : Ready dev b dev' sw)
    {dev'' : Device} (hcommit : vmwQueryBoSwitchCommit dev' sw = some dev'') : Settled dev'' := by
  have hsettled : Settled dev' := by
    rw [hready.rest]
    exact (h.validate hready.place).evicts b
  have hmob : dev'.hasMob = dev.hasMob := by rw [hready.rest]; rfl
  have hpinned : dev'.pinnedBo = dev.pinnedBo := by rw [hready.rest]; rfl
  have hdummy : dev'.dummyQueryBo = dev.dummyQueryBo := by rw [hready.rest]; rfl
  -- what is on the list as the device wants it is there, validated or passed by
  have hlisted : ∀ v ∈ sw.valBufs, v.validateAsMob = true ∨ dev'.hasMob = false → Suits dev'.hasMob (dev'.place v.bo) := by
    intro v hv hkind
    by_cases hskips : dev.Skips v.bo
    · rw [hmob]
      exact hready.skipped h hskips
    · exact (hready.suits h hv hskips).onDevice (hsettled.manages v.bo) hkind
  unfold vmwQueryBoSwitchCommit at hcommit
  split at hcommit
  · cases hcommit
  · split at hcommit
    · cases hcommit
      exact hsettled
    · next hswitch =>
      split at hcommit
      · cases hcommit
        refine ⟨hsettled.manages, fun bo hskips => ?_⟩
        cases hskips with
        | inl hskips => cases hskips
        | inr hskips => exact hsettled.skipped bo (.inr hskips)
      · split at hcommit
        · next bo ctx hcur hctx =>
          cases hcommit
          rw [hpinned] at hswitch
          cases hready.listed.query with
          | inl hquery => exact absurd hquery.symm hswitch
          | inr hquery =>
            obtain ⟨⟨q, hq, hqbo, hkind⟩, hdummyListed⟩ := hquery
            rw [hcur] at hqbo
            cases hqbo
            refine ⟨hsettled.manages, fun bo hskips => ?_⟩
            change Suits dev'.hasMob (dev'.place bo)
            cases hskips with
            | inl hskips =>
              cases hskips
              exact hlisted q hq (hmob ▸ hkind)
            | inr hskips =>
              have hbo : bo = dev.dummyQueryBo := hskips.1.trans hdummy
              rw [hbo]
              refine hlisted _ hdummyListed ?_
              rw [hmob]
              cases dev.hasMob with
              | true => exact .inl rfl
              | false => exact .inr rfl
        · cases hcommit

theorem Settled.step {act : Act hashLong} (h : Settled dev) (hok : Undisturbed dev act)
    (hstep : step dev act = some dev') : Settled dev' := by
  cases act with
  | batch b =>
    obtain ⟨prepared, hprepare, hrest⟩ := Option.bind_eq_some_iff.mp hstep
    cases prepared with
    | failed dev₁ =>
      cases hrest
      obtain ⟨vs, ret, place, hval, hdev⟩ := vmwExecbufPrepare_failed hprepare
      have hplaced := h.validate hval
      cases hdev with
      | inl hdev =>
        rw [hdev]
        exact hplaced.releaseInvalid _
      | inr hdev =>
        rw [hdev]
        exact (hplaced.evicts b).releaseInvalid _
    | ready dev₁ sw =>
      obtain ⟨m, _, hrest⟩ := Option.bind_eq_some_iff.mp hrest
      obtain ⟨dev₂, hcommit, rfl⟩ := Option.map_eq_some_iff.mp hrest
      exact (h.commit (vmwExecbufPrepare_ready hprepare) hcommit).releaseInvalid _
  | evict bo place =>
    dsimp only [Relocs.step] at hstep
    split at hstep
    · cases hstep
    · next hguard =>
      cases hstep
      rw [not_or, Classical.not_not] at hguard
      exact h.setPlace hguard.1 hguard.2
  | dmabufToPlacement bo place panic =>
    dsimp only [Relocs.step] at hstep
    split at hstep
    · next hmanages =>
      cases hstep
      refine (h.vmwRelease panic).setPlace hok ?_
      have hmob : (dev.vmwExecbufReleasePinnedBo panic).hasMob = dev.hasMob := by
        unfold Device.vmwExecbufReleasePinnedBo Device.releasePinnedBo
        split
        · split <;> rfl
        · rfl
      rw [hmob]
      exact hmanages
    · cases hstep
  | vmwExecbufReleasePinnedBo panic =>
    cases hstep
    exact h.vmwRelease panic
  | contextDestroy =>
    cases hstep
    exact ⟨h.manages, h.skipped⟩
  | releaseInvalid panic =>
    cases hstep
    exact h.releaseInvalid panic

theorem settled_init (hasMob : Bool) (dummyQueryBo : BufId) : Settled (.init hasMob dummyQueryBo) where
  manages _ h := by cases h
  skipped _ h := by
    cases h with
    | inl h => cases h
    | inr h => cases h.2

end Runs

section Agree

theorem forall₂_iff_of {α β : Type} {R S : α → β → Prop} {P : β → Prop} {l : List α} {l' : List β}
    (h : List.Forall₂ R l l') (hiff : ∀ a ∈ l, ∀ b, R a b → (S a b ↔ P b)) : List.Forall₂ S l l' ↔ ∀ b ∈ l', P b := by
  induction h with
  | nil => exact ⟨fun _ _ hb => absurd hb List.not_mem_nil, fun _ => .nil⟩
  | @cons a b l l' hab _ ih =>
    rw [List.forall₂_cons, List.forall_mem_cons, hiff a List.mem_cons_self b hab,
      ih fun a' ha' => hiff a' (List.mem_cons_of_mem a ha')]

variable {dev dev' : Device} {b : Batch hashLong} {sw : State hashLong}

/-- An entry is applied as it was recorded, if its buffer is where a reference of its kind expects it. -/
theorem applied_iff {place : BufId → Place} {valBufs : List ValidateBuffer} {reloc : Relocation} {e : Event}
    (hrec : e.Records valBufs reloc) (hpointer : reloc.location = none → 0 < reloc.mobLoc) :
    Applied place valBufs reloc e ↔ match e with
      | .mobReloc _ bo => Suits true (place bo)
      | .guestReloc _ bo => Suits false (place bo)
      | _ => False := by
  cases e with
  | mobReloc a bo =>
    obtain ⟨rfl, hloc, hget⟩ := hrec
    refine ⟨fun h => h.1, fun h => ⟨h, fun m => ?_⟩⟩
    have hmob : (place bo).memType = .mob := h
    unfold applyRelocation
    rw [hget]
    dsimp only
    rw [hmob]
    exact if_neg (Nat.ne_of_gt (hpointer hloc))
  | guestReloc a bo =>
    obtain ⟨hloc, hget⟩ := hrec
    refine ⟨fun h => h.1, fun h => ⟨h, fun m => ?_⟩⟩
    unfold applyRelocation
    rw [hget, hloc]
    dsimp only
    cases h with
    | inl hvram =>
      rw [hvram]
      refine ⟨_, rfl, ?_, ?_, fun x hx => ?_⟩
      · rw [if_pos rfl, Mem.read32_write32_self (by decide)]
      · rw [if_pos rfl, Mem.read32_write32_of_disjoint (Or.inr (Nat.le_refl _)), Mem.read32_write32_mod]
        exact Nat.mod_mod _ _
      · dsimp only
        rw [Mem.write32_apply (by omega), Mem.write32_apply (by omega)]
    | inr hgmr =>
      rw [hgmr]
      refine ⟨_, rfl, ?_, ?_, fun x hx => ?_⟩
      · rw [if_neg (by simp), Mem.read32_write32_mod]
      · rw [if_neg (by simp), Mem.read32_write32_of_disjoint (Or.inr (Nat.le_refl _))]
      · dsimp only
        rw [Mem.write32_apply (by omega)]
  | read => exact Iff.rfl
  | write => exact Iff.rfl
  | resReloc => exact Iff.rfl
  | bind => exact Iff.rfl

/-- What the entry of an event needs, if validation passes its buffer by. -/
def NamedRight (dev : Device) : Event → Prop
  | .mobReloc _ bo => dev.Skips bo → dev.hasMob = true
  | .guestReloc _ bo => dev.Skips bo → dev.hasMob = false
  | _ => False

theorem Applied.isSome {place : BufId → Place} {valBufs : List ValidateBuffer} {reloc : Relocation} {e : Event}
    (h : Applied place valBufs reloc e) (m : Mem) : ∃ m', applyRelocation place valBufs m reloc = some m' := by
  cases e with
  | mobReloc a bo => exact ⟨_, h.2 m⟩
  | guestReloc a bo =>
    obtain ⟨m', hm', _⟩ := h.2 m
    exact ⟨m', hm'⟩
  | read => exact h.elim
  | write => exact h.elim
  | resReloc => exact h.elim
  | bind => exact h.elim

theorem vmwApplyRelocations_applied {place : BufId → Place} {valBufs : List ValidateBuffer} {relocs : List Relocation}
    {es : List Event} (h : List.Forall₂ (Applied place valBufs) relocs es) (m : Mem) :
    vmwApplyRelocations place valBufs relocs m ≠ none := by
  induction h generalizing m with
  | nil => exact Option.some_ne_none m
  | cons happlied _ ih =>
    obtain ⟨m', hm'⟩ := happlied.isSome m
    unfold vmwApplyRelocations
    rw [hm']
    exact ih m'

/-- The relocations that are ready agree with where the buffers are, just when the buffers that
validation passes by are named as the device names them. -/
theorem Ready.agree_iff (h : Settled dev) (hready : Ready dev b dev' sw) :
    PlacementsAgree dev' sw ↔ NamesPinned dev sw.events := by
  have hpinned {bo : BufId} {asMob : Bool} (hskips : dev.Skips bo) :
      Suits asMob (dev'.place bo) ↔ dev.hasMob = asMob := by
    have hsuits := hready.skipped h hskips
    constructor
    · intro hkind
      cases hmob : dev.hasMob <;> cases asMob <;> simp_all [Suits]
    · rintro rfl
      exact hsuits
  have hentry : ∀ reloc ∈ sw.relocs, ∀ e, e.Records sw.valBufs reloc →
      (Applied dev'.place sw.valBufs reloc e ↔ NamedRight dev e) := by
    intro reloc hreloc e hrec
    rw [applied_iff hrec (hready.listed.pointers reloc hreloc)]
    cases e with
    | mobReloc a bo =>
      by_cases hskips : dev.Skips bo
      · exact (hpinned hskips).trans ⟨fun h _ => h, fun h => h hskips⟩
      · exact iff_of_true (hready.suits h (List.mem_of_getElem? hrec.2.2) hskips) fun h => absurd h hskips
    | guestReloc a bo =>
      by_cases hskips : dev.Skips bo
      · exact (hpinned hskips).trans ⟨fun h _ => h, fun h => h hskips⟩
      · exact iff_of_true (hready.suits h (List.mem_of_getElem? hrec.2) hskips) fun h => absurd h hskips
    | read => exact Iff.rfl
    | write => exact Iff.rfl
    | resReloc => exact Iff.rfl
    | bind => exact Iff.rfl
  have hentries := forall₂_iff_of hready.inv.buf hentry
  constructor
  · intro h
    have hnamed := hentries.mp h.entries
    exact ⟨fun a bo he => hnamed _ (List.mem_filter.mpr ⟨he, rfl⟩), fun a bo he => hnamed _ (List.mem_filter.mpr ⟨he, rfl⟩)⟩
  · intro h
    have hall : List.Forall₂ (Applied dev'.place sw.valBufs) sw.relocs (sw.events.filter Event.isBufReloc) := by
      refine hentries.mpr fun e he => ?_
      obtain ⟨he, hbuf⟩ := List.mem_filter.mp he
      cases e with
      | mobReloc a bo => exact h.1 a bo he
      | guestReloc a bo => exact h.2 a bo he
      | read => cases hbuf
      | write => cases hbuf
      | resReloc => cases hbuf
      | bind => cases hbuf
    exact ⟨hall, vmwApplyRelocations_applied hall sw.mem⟩

/-- Every relocation of every batch that is submitted, in every run in which nobody moves the buffer
that is pinned for queries: it is written to the words its command has it in, and its buffer is where
such words can name it, if and only if the batch names the pinned buffer as the device does. -/
theorem relocations_agree_iff {hasMob : Bool} {dummyQueryBo : BufId} {acts : List (Act hashLong)}
    (hrun : Run step Undisturbed (.init hasMob dummyQueryBo) acts dev)
    (hready : vmwExecbufPrepare dev b = some (.ready dev' sw)) : PlacementsAgree dev' sw ↔ NamesPinned dev sw.events :=
  (vmwExecbufPrepare_ready hready).agree_iff
    (hrun.invariant (fun _ _ _ hok hstep h => h.step hok hstep) (settled_init hasMob dummyQueryBo))

end Agree

section Example

/-- A batch with a command at 4096 that names the context or surface 7 and the buffer 3, on a device with MOBs. -/
def oneCommand (words : List Nat) : Batch fun key _ => key where
  env := { Env.mobDevice with gb := true, dmabuf := fun _ handle => some handle, numPages := fun _ => 1 }
  mem := memOf 4096 words
  size := 4 * words.length
  shaders := ⟨.empty _, 0⟩
  fuel := 2
  reserve _ _ := .ok none
  needsBackup _ := true
  reserveBuffers := 0
  validate _ := (.ok ⟨.mob, 9⟩, .error (-ENOMEM))
  evictsQueryContext := false
  ret := 0
  panic := false

/-- The end of a query, whose results are in the buffer. -/
def queryEnd : Batch fun key _ => key := oneCommand [svga3dCmdEndGbQuery, 16, 7, 0, 3, 0]

/-- A DMA to the buffer. -/
def bufferDma : Batch fun key _ => key := oneCommand [svga3dCmdSurfaceDma, 40, 3, 0, 0, 7, 0, 0, 1, 12, 4096, 0]

/-- The buffers that a batch which is ready has named by a guest pointer. -/
def guestBuffers : Prepared (fun key _ => key) → Option (List BufId)
  | .failed _ => none
  | .ready _ sw => some (sw.events.filterMap fun
    | .guestReloc _ bo => some bo
    | _ => none)

/-- The query buffer stays a MOB when the next batch names it by a guest pointer. -/
theorem relocations_agree_iff_pinned : ∃ dev dev' sw, Run step Undisturbed (.init true 0) [.batch queryEnd] dev ∧
    vmwExecbufPrepare dev bufferDma = some (.ready dev' sw) ∧ ¬ PlacementsAgree dev' sw := by
  have hrun : (step (.init true 0) (.batch queryEnd)).map (fun dev =>
      (dev.pinnedBo, dev.hasMob, (vmwExecbufPrepare dev bufferDma).bind guestBuffers)) = some (some 3, true, some [3]) := by
    decide +kernel
  obtain ⟨dev, hstep, hdev⟩ := Option.map_eq_some_iff.mp hrun
  obtain ⟨hpinned, hrest⟩ := Prod.mk.inj hdev
  obtain ⟨hmob, hguest⟩ := Prod.mk.inj hrest
  obtain ⟨prepared, hprepare, hbuffers⟩ := Option.bind_eq_some_iff.mp hguest
  have hrun : Run step Undisturbed (.init true 0) [.batch queryEnd] dev := .single trivial hstep
  cases prepared with
  | failed dev' => cases hbuffers
  | ready dev' sw =>
    refine ⟨dev, dev', sw, hrun, hprepare, fun hagree => ?_⟩
    have hnames := (relocations_agree_iff hrun hprepare).mp hagree
    have hmem : 3 ∈ sw.events.filterMap fun
        | .guestReloc _ bo => some bo
        | _ => none := Option.some.inj hbuffers ▸ List.mem_cons_self
    obtain ⟨e, he, hbo⟩ := List.mem_filterMap.mp hmem
    cases e with
    | guestReloc a bo =>
      cases hbo
      exact Bool.noConfusion (hmob.symm.trans (hnames.2 a 3 he (.inl hpinned)))
    | read => cases hbo
    | write => cases hbo
    | resReloc => cases hbo
    | mobReloc => cases hbo
    | bind => cases hbo

end Example

end Vmwgfx.Execbuf.Relocs
