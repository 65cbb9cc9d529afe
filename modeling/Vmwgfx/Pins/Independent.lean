import Vmwgfx.Lib.Machine
import Vmwgfx.Pins.Defs

/-! A flag is enough for the pins of one owner at a time. -/

namespace Vmwgfx.Pins

open Lib

variable {env : Env} {s s' s'' : State} {b : BufId} {p : Placement} {ret : Int}

/-- The buffer is as pinned as it was, and where it was if that was so. -/
def Keeps (s s' : State) (b : BufId) : Prop :=
  (s'.buf b).noEvict = (s.buf b).noEvict ∧ ((s.buf b).noEvict = true → s'.buf b = s.buf b)

/-- The flag of `b` is set to `v` if nothing fails, and other buffers may be evicted. -/
structure Flagged (s s' : State) (b : BufId) (v : Bool) (ret : Int) : Prop where
  pins : s'.pins = s.pins
  pinnedBo : s'.pinnedBo = s.pinnedBo
  pinCount : s'.pinCount = s.pinCount
  other : ∀ b', b' ≠ b → Keeps s s' b'
  ok : ret = 0 → (s'.buf b).noEvict = v
  fail : ret ≠ 0 → Keeps s s' b

namespace Keeps

theorem refl (s : State) (b : BufId) : Keeps s s b := ⟨rfl, fun _ => rfl⟩

theorem trans (h : Keeps s s' b) (h' : Keeps s' s'' b) : Keeps s s'' b := by
  refine ⟨h'.1.trans h.1, fun hpinned => ?_⟩
  rw [h'.2 (h.1.trans hpinned), h.2 hpinned]

theorem of_eq (h : s'.buf b = s.buf b) : Keeps s s' b := ⟨by rw [h], fun _ => h⟩

end Keeps

theorem setBuf_self (s : State) (b : BufId) (v : VmwDmaBuffer) : (s.setBuf b v).buf b = v := Function.update_self ..

theorem setBuf_other {b' : BufId} (s : State) (hne : b' ≠ b) (v : VmwDmaBuffer) : (s.setBuf b v).buf b' = s.buf b' :=
  Function.update_of_ne hne ..

namespace Flagged

theorem setBuf (s : State) (b : BufId) (place : Place) (v : Bool) : Flagged s (s.setBuf b ⟨place, v⟩) b v 0 where
  pins := rfl
  pinnedBo := rfl
  pinCount := rfl
  other _ hne := .of_eq (setBuf_other s hne _)
  ok _ := by rw [setBuf_self]
  fail h := absurd rfl h

theorem failed (s : State) (b : BufId) (v : Bool) (h : ret ≠ 0) : Flagged s s b v ret :=
  ⟨rfl, rfl, rfl, fun _ _ => .refl s _, fun h0 => absurd h0 h, fun _ => .refl s b⟩

/-- The buffers that make room were not pinned. -/
theorem evicted {l : List BufId} (h : ∀ v ∈ l, v ≠ b ∧ (s.buf v).noEvict = false) :
    (∀ b', Keeps s (l.foldl (fun s v => s.setBuf v ⟨⟨.system, 0⟩, false⟩) s) b') ∧
      (l.foldl (fun s v => s.setBuf v ⟨⟨.system, 0⟩, false⟩) s).buf b = s.buf b ∧
      (l.foldl (fun s v => s.setBuf v ⟨⟨.system, 0⟩, false⟩) s).pins = s.pins ∧
      (l.foldl (fun s v => s.setBuf v ⟨⟨.system, 0⟩, false⟩) s).pinnedBo = s.pinnedBo ∧
      (l.foldl (fun s v => s.setBuf v ⟨⟨.system, 0⟩, false⟩) s).pinCount = s.pinCount := by
  induction l generalizing s with
  | nil => exact ⟨fun b' => .refl s b', rfl, rfl, rfl, rfl⟩
  | cons v l ih =>
    obtain ⟨hne, hfree⟩ := h v List.mem_cons_self
    have hone : ∀ b', Keeps s (s.setBuf v ⟨⟨.system, 0⟩, false⟩) b' := by
      intro b'
      by_cases hv : b' = v
      · subst hv
        refine ⟨by rw [setBuf_self, hfree], fun hpinned => ?_⟩
        rw [hfree] at hpinned
        cases hpinned
      · exact .of_eq (setBuf_other s hv _)
    obtain ⟨hkeeps, hbuf, hpins, hpinnedBo, hcount⟩ := ih (s := s.setBuf v ⟨⟨.system, 0⟩, false⟩) fun w hw => by
      obtain ⟨hwne, hwfree⟩ := h w (List.mem_cons_of_mem v hw)
      exact ⟨hwne, (hone w).1.trans hwfree⟩
    refine ⟨fun b' => (hone b').trans (hkeeps b'), ?_, hpins, hpinnedBo, hcount⟩
    rw [List.foldl_cons, hbuf, setBuf_other s hne.symm]

theorem ttmBoValidate {o : Validate} (h : ttmBoValidate env s b p o = some (ret, s')) : Flagged s s' b p.noEvict ret := by
  unfold Pins.ttmBoValidate at h
  split at h
  · cases h
    exact failed s b _ (by decide)
  · split at h
    · cases h
      exact setBuf s b _ _
    · split at h
      · cases h
      · rename_i hfree
        simp only [not_exists, not_and, not_or, Bool.not_eq_true] at hfree
        obtain ⟨hkeeps, hbuf, hpins, hpinnedBo, hcount⟩ := evicted hfree
        dsimp only at h
        split at h
        · rename_i hret
          cases h
          exact ⟨hpins, hpinnedBo, hcount, fun b' _ => hkeeps b', fun h0 => absurd h0 hret, fun _ => hkeeps b⟩
        · split at h
          · cases h
            have hset := setBuf (o.evicted.foldl (fun s v => s.setBuf v ⟨⟨.system, 0⟩, false⟩) s) b o.place p.noEvict
            exact ⟨hpins, hpinnedBo, hcount, fun b' hne => (hkeeps b').trans (hset.other b' hne), hset.ok,
              fun h0 => absurd rfl h0⟩
          · cases h

/-- A buffer that is where the placement wants it stays there. -/
theorem ttmBoValidate_compat {o : Validate} (hcompat : ttmBoMemCompat env p b (s.buf b).place = true)
    (hrange : p.lpfn = 0 ∨ (s.buf b).place.memType ≠ .system)
    (h : Pins.ttmBoValidate env s b p o = some (ret, s')) : ret = 0 ∧ s' = s.setBuf b ⟨(s.buf b).place, p.noEvict⟩ := by
  unfold Pins.ttmBoValidate at h
  split at h
  · rename_i hlpfn
    have hin : inRange env p b (s.buf b).place = true := by
      unfold ttmBoMemCompat at hcompat
      rw [decide_eq_true_eq] at hcompat
      exact hcompat.1
    unfold inRange at hin
    rw [decide_eq_true_eq] at hin
    have hsystem := hrange.resolve_left hlpfn.1
    have hend := (hin.resolve_left hsystem).resolve_left hlpfn.1
    exact absurd hlpfn.2 (by omega)
  · cases h
    exact ⟨rfl, rfl⟩

/-- One try after another. -/
theorem orElse {v : Bool} {ret' : Int} (h : Flagged s s' b v ret) (hret : ret ≠ 0) (h' : Flagged s' s'' b v ret') :
    Flagged s s'' b v ret' where
  pins := h'.pins.trans h.pins
  pinnedBo := h'.pinnedBo.trans h.pinnedBo
  pinCount := h'.pinCount.trans h.pinCount
  other b' hne := (h.other b' hne).trans (h'.other b' hne)
  ok := h'.ok
  fail h0 := (h.fail hret).trans (h'.fail h0)

/-- A buffer that is not pinned is moved away first. -/
theorem after {v : Bool} {ret' : Int} (h : Flagged s s' b false ret) (hfree : (s.buf b).noEvict = false)
    (h' : Flagged s' s'' b v ret') : Flagged s s'' b v ret' where
  pins := h'.pins.trans h.pins
  pinnedBo := h'.pinnedBo.trans h.pinnedBo
  pinCount := h'.pinCount.trans h.pinCount
  other b' hne := (h.other b' hne).trans (h'.other b' hne)
  ok := h'.ok
  fail h0 := by
    have hkeeps : Keeps s s' b := by
      by_cases hret : ret = 0
      · refine ⟨(h.ok hret).trans hfree.symm, fun hpinned => ?_⟩
        rw [hfree] at hpinned
        cases hpinned
      · exact h.fail hret
    exact hkeeps.trans (h'.fail h0)

end Flagged

/-- Whose pin is whose. -/
def Owned (env : Env) (s : State) (e : Pin) : Prop :=
  match e.owner with
  | .stream _ => e.buf ≠ env.dummyQueryBo
  | .framebuffer f => e.buf = env.fbBuffer f
  | .query => s.pinnedBo = some e.buf ∧ e.buf ≠ env.dummyQueryBo
  | .dummyQuery => e.buf = env.dummyQueryBo
  | .resource r => env.backup r = some e.buf ∧ s.pinCount r ≠ 0

structure Inv (env : Env) (s : State) : Prop where
  independent : Independent s
  owned : ∀ e ∈ s.pins, Owned env s e
  pinnedBo : s.pinnedBo ≠ some env.dummyQueryBo

namespace Inv

variable {o : Owner}

theorem dummy (h : Inv env s) {e : Pin} (he : e ∈ s.pins) (hbuf : e.buf = env.dummyQueryBo) : e.owner = .dummyQuery := by
  have howned := h.owned e he
  unfold Owned at howned
  cases howner : e.owner with
  | dummyQuery => rfl
  | stream i =>
    rw [howner] at howned
    exact absurd hbuf howned
  | framebuffer f =>
    rw [howner] at howned
    exact absurd (howned.symm.trans hbuf) (env.fb_ne f)
  | query =>
    rw [howner] at howned
    exact absurd hbuf howned.2
  | resource r =>
    rw [howner] at howned
    exact absurd (howned.1.trans (congrArg some hbuf)) (env.backup_ne r)

theorem pinned_iff (h : Inv env s) (b : BufId) : (s.buf b).noEvict = true ↔ ∃ e ∈ s.pins, e.buf = b := by
  constructor
  · intro hpinned
    by_contra hnone
    have hfree := h.independent.evictable b fun e he hbuf => hnone ⟨e, he, hbuf⟩
    rw [hfree] at hpinned
    cases hpinned
  · intro ⟨e, he, hbuf⟩
    rw [← hbuf, h.independent.kept e he]

/-- A step after which nobody's pins differ. -/
theorem congr (h : Inv env s) (hkeeps : ∀ b, Keeps s s' b) (hpins : s'.pins = s.pins)
    (hpinnedBo : s'.pinnedBo = s.pinnedBo) (hcount : ∀ e ∈ s.pins, ∀ r, e.owner = .resource r → s.pinCount r ≠ 0 →
      s'.pinCount r ≠ 0) : Inv env s' := by
  refine ⟨⟨fun e he => ?_, fun b hb => ?_⟩, fun e he => ?_, hpinnedBo ▸ h.pinnedBo⟩
  · rw [hpins] at he
    have hkept := h.independent.kept e he
    rw [(hkeeps e.buf).2 (by rw [hkept]), hkept]
  · rw [hpins] at hb
    rw [(hkeeps b).1]
    exact h.independent.evictable b hb
  · rw [hpins] at he
    have howned := h.owned e he
    unfold Owned at howned ⊢
    cases howner : e.owner with
    | resource r =>
      rw [howner] at howned
      exact ⟨howned.1, hcount e he r howner howned.2⟩
    | query =>
      rw [howner] at howned
      exact ⟨hpinnedBo.trans howned.1, howned.2⟩
    | _ =>
      rw [howner] at howned
      exact howned

theorem failed (h : Inv env s) {v : Bool} (hf : Flagged s s' b v ret) (hret : ret ≠ 0) : Inv env s' := by
  refine h.congr (fun b' => ?_) hf.pins hf.pinnedBo fun _ _ _ _ hr => hf.pinCount ▸ hr
  by_cases hne : b' = b
  · exact hne ▸ hf.fail hret
  · exact hf.other b' hne

/-- What an owner pins is where it was, or was not pinned. -/
theorem pin (h : Inv env s) (hf : Flagged s s' b true 0) (hstay : (∃ e ∈ s.pins, e.buf = b) → (s'.buf b).place = (s.buf b).place)
    (howned : Owned env s' ⟨o, b, (s'.buf b).place⟩) (hown : ∀ e ∈ s.pins, e.owner = o → e.buf = b) :
    Inv env (s'.pinFor o b) := by
  have hself : s'.buf b = ⟨(s'.buf b).place, true⟩ := by
    rw [← hf.ok rfl]
  have hcases : ∀ e ∈ (s'.pinFor o b).pins, e = ⟨o, b, (s'.buf b).place⟩ ∨ e ∈ s.pins := by
    intro e he
    cases List.mem_cons.mp he with
    | inl heq => exact .inl heq
    | inr hmem => exact .inr (hf.pins ▸ (List.mem_filter.mp hmem).1)
  refine ⟨⟨fun e he => ?_, fun b' hb => ?_⟩, fun e he => ?_, hf.pinnedBo ▸ h.pinnedBo⟩
  · change s'.buf e.buf = _
    cases hcases e he with
    | inl heq => rw [heq]; exact hself
    | inr hmem =>
      have hkept := h.independent.kept e hmem
      by_cases hbuf : e.buf = b
      · rw [hbuf, hself, hstay ⟨e, hmem, hbuf⟩, ← hbuf, hkept]
      · rw [(hf.other e.buf hbuf).2 (by rw [hkept]), hkept]
  · change (s'.buf b').noEvict = false
    have hne : b' ≠ b := fun heq => hb _ List.mem_cons_self heq.symm
    rw [(hf.other b' hne).1]
    refine h.independent.evictable b' fun e he hbuf => ?_
    by_cases howner : e.owner = o
    · exact hne (hbuf.symm.trans (hown e he howner))
    · refine hb e (List.mem_cons_of_mem _ (List.mem_filter.mpr ⟨hf.pins ▸ he, ?_⟩)) hbuf
      rw [decide_eq_true_eq]
      exact howner
  · cases hcases e he with
    | inl heq => rw [heq]; exact howned
    | inr hmem =>
      have howned := h.owned e hmem
      unfold Owned at howned ⊢
      cases howner : e.owner with
      | resource r =>
        rw [howner] at howned
        exact ⟨howned.1, fun hzero => howned.2 (hf.pinCount ▸ hzero)⟩
      | query =>
        rw [howner] at howned
        exact ⟨hf.pinnedBo.trans howned.1, howned.2⟩
      | _ =>
        rw [howner] at howned
        exact howned

/-- An owner that is alone on a buffer lets it go. -/
theorem unpin (h : Inv env s) (hf : Flagged s s' b false 0) (halone : Alone s o b)
    (hown : ∀ e ∈ s.pins, e.owner = o → e.buf = b) : Inv env (s'.unpinFor o) := by
  have hmem : ∀ e ∈ (s'.unpinFor o).pins, e ∈ s.pins ∧ e.owner ≠ o := by
    intro e he
    obtain ⟨he, howner⟩ := List.mem_filter.mp he
    exact ⟨hf.pins ▸ he, of_decide_eq_true howner⟩
  refine ⟨⟨fun e he => ?_, fun b' hb => ?_⟩, fun e he => ?_, hf.pinnedBo ▸ h.pinnedBo⟩
  · obtain ⟨he, howner⟩ := hmem e he
    have hkept := h.independent.kept e he
    have hne : e.buf ≠ b := fun hbuf => howner (halone e he hbuf)
    change s'.buf e.buf = _
    rw [(hf.other e.buf hne).2 (by rw [hkept]), hkept]
  · change (s'.buf b').noEvict = false
    by_cases hne : b' = b
    · rw [hne]
      exact hf.ok rfl
    · rw [(hf.other b' hne).1]
      refine h.independent.evictable b' fun e he hbuf => ?_
      refine hb e (List.mem_filter.mpr ⟨hf.pins ▸ he, ?_⟩) hbuf
      rw [decide_eq_true_eq]
      exact fun howner => hne (hbuf.symm.trans (hown e he howner))
  · have howned := h.owned e (hmem e he).1
    unfold Owned at howned ⊢
    cases howner : e.owner with
    | resource r =>
      rw [howner] at howned
      exact ⟨howned.1, fun hzero => howned.2 (hf.pinCount ▸ hzero)⟩
    | query =>
      rw [howner] at howned
      exact ⟨hf.pinnedBo.trans howned.1, howned.2⟩
    | _ =>
      rw [howner] at howned
      exact howned

/-- The query buffer is no more, or another one, and nobody has it pinned. -/
theorem setPinnedBo (h : Inv env s) (hnone : ∀ e ∈ s.pins, e.owner ≠ .query) {q : Option BufId}
    (hq : q ≠ some env.dummyQueryBo) : Inv env { s with pinnedBo := q } := by
  refine ⟨⟨h.independent.kept, h.independent.evictable⟩, fun e he => ?_, hq⟩
  have howned := h.owned e he
  unfold Owned at howned ⊢
  cases howner : e.owner with
  | query => exact absurd howner (hnone e he)
  | _ =>
    rw [howner] at howned
    exact howned

theorem setPinCount (h : Inv env s) {r : ResId} {n : Nat} (hr : n ≠ 0 ∨ ∀ e ∈ s.pins, e.owner ≠ .resource r) :
    Inv env (s.setPinCount r n) := by
  refine h.congr (fun _ => .of_eq rfl) rfl rfl fun e he r' howner hcount => ?_
  by_cases hne : r' = r
  · subst hne
    have hn := hr.resolve_right fun hnone => hnone e he howner
    change Function.update s.pinCount r' n r' ≠ 0
    rwa [Function.update_self]
  · change Function.update s.pinCount r n r' ≠ 0
    rwa [Function.update_of_ne hne]

theorem unpinFor_owner (s : State) (o : Owner) : ∀ e ∈ (s.unpinFor o).pins, e.owner ≠ o := by
  intro e he
  exact of_decide_eq_true (List.mem_filter.mp he).2

theorem query_buf (h : Inv env s) (hq : s.pinnedBo = some b) : ∀ e ∈ s.pins, e.owner = .query → e.buf = b := by
  intro e he howner
  have howned := h.owned e he
  unfold Owned at howned
  rw [howner] at howned
  exact (Option.some.inj (hq.symm.trans howned.1)).symm

theorem dummy_buf (h : Inv env s) : ∀ e ∈ s.pins, e.owner = .dummyQuery → e.buf = env.dummyQueryBo := by
  intro e he howner
  have howned := h.owned e he
  unfold Owned at howned
  rwa [howner] at howned

/-- The old query buffer goes. -/
theorem unpinQuery (h : Inv env s) (hq : s.pinnedBo = some b) (halone : Alone s .query b) :
    Inv env ({ vmwBoPin s b false with pinnedBo := none }.unpinFor .query) := by
  have hgone := h.unpin (Flagged.setBuf s b (s.buf b).place false) halone (h.query_buf hq)
  exact hgone.setPinnedBo (unpinFor_owner _ _) (Option.some_ne_none _).symm

theorem releasePinnedBo (h : Inv env s) (halone : ReleaseAlone s) : Inv env (releasePinnedBo env s) := by
  unfold Pins.releasePinnedBo
  split
  · exact h
  · rename_i b hq
    have hquery := h.unpin (Flagged.setBuf s b (s.buf b).place false) (halone b hq) (h.query_buf hq)
    have hdummy := hquery.unpin
      (Flagged.setBuf _ env.dummyQueryBo ((vmwBoPin s b false).buf env.dummyQueryBo).place false) (fun e he => hquery.dummy he) hquery.dummy_buf
    refine hdummy.setPinnedBo (fun e he howner => ?_) (Option.some_ne_none _).symm
    have hmem := (List.mem_filter.mp he).1
    exact unpinFor_owner _ _ e hmem howner

theorem querySwitch (h : Inv env s) {cur : BufId} (hcur : cur ≠ env.dummyQueryBo)
    (halone : s.pinnedBo ≠ some cur → ReleaseAlone s) (barrier : Bool) :
    Inv env (vmwQueryBoSwitchCommit env s cur barrier) := by
  unfold vmwQueryBoSwitchCommit
  split
  · exact h
  · rename_i hne
    have halone := halone hne
    have hold : Inv env (unpinOldQueryBo s) ∧ ∀ e ∈ (unpinOldQueryBo s).pins, e.owner ≠ .query := by
      unfold unpinOldQueryBo
      split
      · rename_i hq
        refine ⟨h, fun e he howner => ?_⟩
        have howned := h.owned e he
        unfold Owned at howned
        rw [howner, hq] at howned
        cases howned.1
      · rename_i b hq
        exact ⟨h.unpinQuery hq (halone b hq), unpinFor_owner _ _⟩
    obtain ⟨hinv, hnone⟩ := hold
    dsimp only
    split
    · exact hinv
    · have hset := hinv.setPinnedBo hnone (q := some cur) fun heq => hcur (Option.some.inj heq)
      have hquery := hset.pin (o := .query) (Flagged.setBuf _ cur _ true) (fun _ => by rw [setBuf_self]) ⟨rfl, hcur⟩
        fun e he howner => absurd howner (hnone e he)
      exact hquery.pin (o := .dummyQuery) (Flagged.setBuf _ env.dummyQueryBo _ true)
        (fun _ => by rw [setBuf_self]; rfl) rfl hquery.dummy_buf

end Inv

section Moves

variable {i : Nat} {r : ResId}

/-- The buffer is pinned, and stays if it is where the placement wants it. -/
def Pinned (env : Env) (s s' : State) (b : BufId) (p : Placement) (ret : Int) : Prop :=
  Flagged s s' b true ret ∧
    (ttmBoMemCompat env p b (s.buf b).place = true → (s'.buf b).place = (s.buf b).place)

theorem compat_vram {place : Place} (h : ttmBoMemCompat env p b place = true) (hsys : .system ∉ p.placement) :
    place.memType ≠ .system := by
  unfold ttmBoMemCompat at h
  rw [decide_eq_true_eq] at h
  exact fun heq => hsys (heq ▸ h.2)

theorem ttmBoValidate_pinned {o : Validate} (hne : p.noEvict = true) (hsys : .system ∉ p.placement)
    (h : ttmBoValidate env s b p o = some (ret, s')) : Pinned env s s' b p ret := by
  refine ⟨hne ▸ Flagged.ttmBoValidate h, fun hcompat => ?_⟩
  obtain ⟨-, rfl⟩ := Flagged.ttmBoValidate_compat hcompat (.inr (compat_vram hcompat hsys)) h
  rw [setBuf_self]

theorem vramOrGmr_pinned {o : Move}
    (h : ((ttmBoValidate env s b vmwVramGmrNePlacement o.validate).bind fun (ret, s) =>
      if ret = 0 ∨ ret = -ERESTARTSYS then some (ret, s) else ttmBoValidate env s b vmwVramNePlacement o.again) =
        some (ret, s')) : Pinned env s s' b vmwVramGmrNePlacement ret := by
  obtain ⟨⟨ret₁, t⟩, hfirst, hrest⟩ := Option.bind_eq_some_iff.mp h
  have hone := Flagged.ttmBoValidate hfirst
  have hsys : .system ∉ vmwVramGmrNePlacement.placement := by decide
  dsimp only at hrest
  split at hrest
  · cases hrest
    exact ttmBoValidate_pinned rfl hsys hfirst
  · rename_i hret
    have htwo : Flagged t s' b true ret := Flagged.ttmBoValidate hrest
    refine ⟨hone.orElse (fun h0 => hret (.inl h0)) htwo, fun hcompat => ?_⟩
    obtain ⟨hzero, -⟩ := Flagged.ttmBoValidate_compat hcompat (.inr (compat_vram hcompat hsys)) hfirst
    exact absurd (.inl hzero) hret

theorem startOfVram_pinned {o : Move} (hinv : Inv env s) (hsettled : Settled env s b (startOfVram env b true))
    (h : ((if (s.buf b).place.memType = .vram ∧ (s.buf b).place.start < env.numPages b ∧ 0 < (s.buf b).place.start then
        (ttmBoValidate env s b vmwSysPlacement o.toSys).map (·.2)
      else some s).bind fun s => ttmBoValidate env s b (startOfVram env b true) o.validate) = some (ret, s')) :
    Pinned env s s' b (startOfVram env b true) ret := by
  obtain ⟨t, hfirst, hrest⟩ := Option.bind_eq_some_iff.mp h
  have hsys : .system ∉ (startOfVram env b true).placement := by
    show MemType.system ∉ vmwVramNePlacement.placement
    decide
  split at hfirst
  · rename_i hmove
    have hnot : ¬ ttmBoMemCompat env (startOfVram env b true) b (s.buf b).place = true := by
      intro hcompat
      unfold ttmBoMemCompat inRange at hcompat
      rw [decide_eq_true_eq, decide_eq_true_eq, hmove.1] at hcompat
      have hend := (hcompat.1.resolve_left fun heq => MemType.noConfusion heq)
      change env.numPages b = 0 ∨ (s.buf b).place.start + env.numPages b ≤ env.numPages b at hend
      omega
    have hfree : (s.buf b).noEvict = false := by
      cases hpinned : (s.buf b).noEvict with
      | false => rfl
      | true => exact absurd (hsettled ((hinv.pinned_iff b).mp hpinned)) hnot
    obtain ⟨⟨ret₁, t'⟩, hsysmove, rfl⟩ := Option.map_eq_some_iff.mp hfirst
    exact ⟨(Flagged.ttmBoValidate hsysmove).after hfree (Flagged.ttmBoValidate hrest), fun hcompat => absurd hcompat hnot⟩
  · cases hfirst
    exact ttmBoValidate_pinned rfl hsys hrest

theorem releasePinnedBo_pins (s : State) : ∀ e ∈ (releasePinnedBo env s).pins, e ∈ s.pins := by
  unfold releasePinnedBo
  intro e he
  split at he
  · exact he
  · exact (List.mem_filter.mp (List.mem_filter.mp he).1).1

theorem release_pins (s : State) (v : Bool) : ∀ e ∈ (vmwExecbufReleasePinnedBo env s v).pins, e ∈ s.pins := by
  unfold vmwExecbufReleasePinnedBo
  split
  · exact releasePinnedBo_pins s
  · exact fun _ => id

/-- What all the `vmw_dmabuf_to_*` do before they look at the buffer. -/
theorem Inv.moves {o : Move} {cond : State → Prop} {f : State → State}
    (h : Inv env s) (rest : State → Option (Int × State)) (hapart : MoveApart env s o cond)
    (hrest : ∀ t, Inv env t → cond t → (∀ e ∈ t.pins, e ∈ s.pins) → ∀ ret s', rest t = some (ret, s') →
      Inv env (done f (ret, s')))
    (hmove : (if o.lock ≠ 0 then some (o.lock, s)
      else if o.reserve ≠ 0 then some (o.reserve, vmwExecbufReleasePinnedBo env s o.queryCidValid)
      else rest (vmwExecbufReleasePinnedBo env s o.queryCidValid)) = some (ret, s')) : Inv env (done f (ret, s')) := by
  have hfailed : ∀ {t : State} {ret : Int}, Inv env t → ret ≠ 0 → Inv env (done f (ret, t)) := by
    intro t ret ht hret
    unfold done
    rwa [if_neg hret]
  split at hmove
  · rename_i hlock
    cases hmove
    exact hfailed h hlock
  · rename_i hlock
    obtain ⟨hrelease, hcond⟩ := hapart (not_not.mp hlock)
    have hreleased : Inv env (vmwExecbufReleasePinnedBo env s o.queryCidValid) := by
      unfold vmwExecbufReleasePinnedBo
      split
      · rename_i hvalid
        exact h.releasePinnedBo (hrelease hvalid)
      · exact h
    split at hmove
    · rename_i hreserve
      cases hmove
      exact hfailed hreleased hreserve
    · rename_i hreserve
      exact hrest _ hreleased (hcond (not_not.mp hreserve)) (release_pins s _) _ _ hmove

theorem Inv.pinDone {t : State} {o : Owner} (h : Inv env t) (hp : Pinned env t s' b p ret) (hsettled : Settled env t b p)
    (howned : Owned env s' ⟨o, b, (s'.buf b).place⟩) (hown : ∀ e ∈ t.pins, e.owner = o → e.buf = b) :
    Inv env (done (fun s => s.pinFor o b) (ret, s')) := by
  unfold done
  split
  · rename_i hret
    have hret : ret = 0 := hret
    subst hret
    exact h.pin hp.1 (fun hpinned => hp.2 (hsettled hpinned)) howned hown
  · rename_i hret
    exact h.failed hp.1 hret

theorem Inv.unpinDone {t : State} {o : Owner} {v : Validate} (h : Inv env t) (halone : Alone t o b)
    (hown : ∀ e ∈ t.pins, e.owner = o → e.buf = b)
    (hval : ttmBoValidate env t b vmwEvictablePlacement v = some (ret, s')) :
    Inv env (done (fun s => s.unpinFor o) (ret, s')) := by
  have hcompat : ttmBoMemCompat env vmwEvictablePlacement b (t.buf b).place = true := by
    unfold ttmBoMemCompat inRange
    rw [decide_eq_true_eq, decide_eq_true_eq]
    refine ⟨.inr (.inl rfl), ?_⟩
    cases (t.buf b).place.memType <;> decide
  obtain ⟨rfl, rfl⟩ := Flagged.ttmBoValidate_compat hcompat (.inl rfl) hval
  exact h.unpin (Flagged.setBuf t b (t.buf b).place false) halone hown

end Moves

section Resource

variable {r : ResId}

theorem Inv.resource_backup (h : Inv env s) : ∀ e ∈ s.pins, e.owner = .resource r →
    env.backup r = some e.buf ∧ s.pinCount r ≠ 0 := by
  intro e he howner
  have howned := h.owned e he
  unfold Owned at howned
  rwa [howner] at howned

theorem backupPlacement_ne (env : Env) (r : ResId) :
    (env.backupPlacement r).noEvict = false ∧ .system ∉ (env.backupPlacement r).placement := by
  unfold Env.backupPlacement
  split <;> decide

theorem Inv.resourcePin {o : ResourcePin} (h : Inv env s) (hapart : Apart env s (.resourcePin r o))
    (hpin : vmwResourcePin env s r o = some (ret, s')) : Inv env s' := by
  unfold vmwResourcePin at hpin
  split at hpin
  · cases hpin
    exact h
  rename_i hreserve
  split at hpin
  · cases hpin
    exact h.setPinCount (.inl (Nat.succ_ne_zero _))
  rename_i hzero
  have hzero := not_not.mp hzero
  split at hpin
  · split at hpin
    · cases hpin
      exact h
    · cases hpin
      exact h.setPinCount (.inl Nat.one_ne_zero)
  · rename_i b hback
    obtain ⟨hsettled, hfails⟩ := hapart (not_not.mp hreserve) hzero b hback
    obtain ⟨⟨ret₁, t⟩, hval, heq⟩ := Option.map_eq_some_iff.mp hpin
    obtain ⟨hne, hsys⟩ := backupPlacement_ne env r
    have hflag := Flagged.ttmBoValidate hval
    rw [hne] at hflag
    dsimp only at heq
    split at heq
    · rename_i hret
      cases heq
      exact h.failed hflag hret
    · rename_i hret
      have hpinned : Flagged s (vmwBoPin t b true) b true 0 := by
        have hset := Flagged.setBuf t b (t.buf b).place true
        exact ⟨hflag.pins, hflag.pinnedBo, hflag.pinCount, fun b' hb => (hflag.other b' hb).trans (hset.other b' hb),
          hset.ok, fun h0 => absurd rfl h0⟩
      have hstay : (∃ e ∈ s.pins, e.buf = b) → ((vmwBoPin t b true).buf b).place = (s.buf b).place := by
        intro hsome
        have hcompat := hsettled hsome
        obtain ⟨-, rfl⟩ := Flagged.ttmBoValidate_compat hcompat (.inr (compat_vram hcompat hsys)) hval
        unfold vmwBoPin
        rw [setBuf_self, setBuf_self]
      split at heq
      · rename_i hres
        cases heq
        -- the buffer is left pinned, for someone else
        obtain ⟨e, he, hbuf⟩ := hfails hres
        have hkept := h.independent.kept e he
        refine h.congr (fun b' => ?_) hpinned.pins hpinned.pinnedBo fun _ _ _ _ hr => hpinned.pinCount ▸ hr
        by_cases hb : b' = b
        · subst hb
          refine .of_eq ?_
          have hplace := hstay ⟨e, he, hbuf⟩
          rw [← hbuf] at hplace hpinned ⊢
          have hflagged := hpinned.ok rfl
          rw [hkept] at hplace ⊢
          exact congrArg₂ VmwDmaBuffer.mk hplace hflagged
        · exact hpinned.other b' hb
      · cases heq
        -- the count goes up first
        have hcounted : Inv env (s.setPinCount r 1) := h.setPinCount (.inl Nat.one_ne_zero)
        have hone : (vmwBoPin t b true).setPinCount r 1 = { vmwBoPin t b true with
            pinCount := (s.setPinCount r 1).pinCount } := by
          show State.mk _ _ (Function.update t.pinCount r 1) _ = State.mk _ _ (Function.update s.pinCount r 1) _
          rw [hflag.pinCount]
        have hflagged : Flagged (s.setPinCount r 1) ((vmwBoPin t b true).setPinCount r 1) b true 0 := by
          rw [hone]
          exact ⟨hpinned.pins, hpinned.pinnedBo, rfl, hpinned.other, hpinned.ok, hpinned.fail⟩
        have hcount : Function.update t.pinCount r 1 r ≠ 0 := by
          rw [Function.update_self]
          exact Nat.one_ne_zero
        exact hcounted.pin (o := .resource r) hflagged hstay ⟨hback, hcount⟩ fun e he howner =>
          Option.some.inj ((h.resource_backup e he howner).1.symm.trans hback)

theorem Inv.resourceUnpin (h : Inv env s) (hcount : s.pinCount r ≠ 0) (hapart : Apart env s (.resourceUnpin r)) :
    Inv env (vmwResourceUnpin env s r) := by
  have hself : (s.setPinCount r (s.pinCount r - 1)).pinCount r = s.pinCount r - 1 := Function.update_self ..
  unfold vmwResourceUnpin
  dsimp only
  rw [hself]
  split
  · rename_i hlast
    have hone : s.pinCount r = 1 := by omega
    cases hback : env.backup r with
    | none =>
      refine h.setPinCount (.inr fun e he howner => ?_)
      have hsome := (h.resource_backup e he howner).1
      rw [hback] at hsome
      cases hsome
    | some b =>
      have hgone := h.unpin (o := .resource r) (Flagged.setBuf s b (s.buf b).place false) (hapart hone b hback)
        fun e he howner => Option.some.inj ((h.resource_backup e he howner).1.symm.trans hback)
      exact hgone.setPinCount (n := s.pinCount r - 1) (.inr (unpinFor_owner _ _))
  · rename_i hmore
    exact h.setPinCount (.inl hmore)

end Resource

section Run

/-- The guard of a stream, after the query buffer is released. -/
theorem stream_own {i : Nat} {t : State} (hguard : ¬ (b = env.dummyQueryBo ∨ ∃ e ∈ s.pins, e.owner = .stream i ∧ e.buf ≠ b))
    (hpins : ∀ e ∈ t.pins, e ∈ s.pins) : ∀ e ∈ t.pins, e.owner = .stream i → e.buf = b := by
  intro e he howner
  by_contra hbuf
  exact hguard (.inr ⟨e, hpins e he, howner, hbuf⟩)

theorem Inv.framebuffer_buf (h : Inv env s) (f : Nat) : ∀ e ∈ s.pins, e.owner = .framebuffer f → e.buf = env.fbBuffer f := by
  intro e he howner
  have howned := h.owned e he
  unfold Owned at howned
  rwa [howner] at howned

theorem Inv.step {a : Act} (h : Inv env s) (hapart : Apart env s a) (hs : step env s a = some s') : Inv env s' := by
  cases a with
  | overlayPin i b o =>
    simp only [Pins.step] at hs
    split at hs
    · cases hs
    · rename_i hguard
      obtain ⟨⟨ret, t⟩, hmove, rfl⟩ := Option.map_eq_some_iff.mp hs
      simp only [vmwOverlayMoveBuffer, not_true_eq_false, if_false] at hmove
      unfold Apart at hapart
      split at hmove
      · rename_i hsou
        rw [if_neg hsou] at hapart
        refine h.moves (fun t => ttmBoValidate env t b vmwVramNePlacement o.validate) hapart
          (fun t ht hsettled hpins ret s' hval => ?_) hmove
        have hp : Pinned env t s' b vmwVramNePlacement ret := ttmBoValidate_pinned rfl (by decide) hval
        exact ht.pinDone hp hsettled (fun hd => hguard (.inl hd)) (stream_own hguard hpins)
      · rename_i hsou
        rw [if_pos (not_not.mp hsou)] at hapart
        refine h.moves (fun t => (ttmBoValidate env t b vmwVramGmrNePlacement o.validate).bind fun (ret, t) =>
          if ret = 0 ∨ ret = -ERESTARTSYS then some (ret, t) else ttmBoValidate env t b vmwVramNePlacement o.again)
          hapart (fun t ht hsettled hpins ret s' hval => ?_) hmove
        exact ht.pinDone (vramOrGmr_pinned hval) hsettled (fun hd => hguard (.inl hd)) (stream_own hguard hpins)
  | overlayUnpin i b o =>
    simp only [Pins.step] at hs
    split at hs
    · cases hs
    · rename_i hguard
      obtain ⟨⟨ret, t⟩, hmove, rfl⟩ := Option.map_eq_some_iff.mp hs
      unfold Apart at hapart
      refine h.moves (fun t => ttmBoValidate env t b vmwEvictablePlacement o.validate) hapart
        (fun t ht halone hpins ret s' hval => ?_) hmove
      exact ht.unpinDone halone (stream_own hguard hpins) hval
  | framebufferPin f o =>
    obtain ⟨⟨ret, t⟩, hmove, rfl⟩ := Option.map_eq_some_iff.mp hs
    unfold Apart at hapart
    refine h.moves (fun t =>
      (if (t.buf (env.fbBuffer f)).place.memType = .vram ∧
          (t.buf (env.fbBuffer f)).place.start < env.numPages (env.fbBuffer f) ∧ 0 < (t.buf (env.fbBuffer f)).place.start then
        (ttmBoValidate env t (env.fbBuffer f) vmwSysPlacement o.toSys).map fun (p : Int × State) => p.2
      else some t).bind fun t => ttmBoValidate env t (env.fbBuffer f) (startOfVram env (env.fbBuffer f) true) o.validate)
      hapart (fun t ht hsettled hpins ret s' hval => ?_) hmove
    exact ht.pinDone (startOfVram_pinned ht hsettled hval) hsettled rfl (ht.framebuffer_buf f)
  | framebufferUnpin f o =>
    obtain ⟨⟨ret, t⟩, hmove, rfl⟩ := Option.map_eq_some_iff.mp hs
    unfold Apart at hapart
    refine h.moves (fun t => ttmBoValidate env t (env.fbBuffer f) vmwEvictablePlacement o.validate) hapart
      (fun t ht halone hpins ret s' hval => ?_) hmove
    exact ht.unpinDone halone (ht.framebuffer_buf f) hval
  | querySwitch cur barrier =>
    simp only [Pins.step] at hs
    split at hs
    · cases hs
    · rename_i hcur
      cases hs
      exact h.querySwitch hcur hapart barrier
  | queryRelease =>
    cases hs
    exact h.releasePinnedBo hapart
  | resourcePin r o =>
    obtain ⟨⟨ret, t⟩, hpin, rfl⟩ := Option.map_eq_some_iff.mp hs
    exact h.resourcePin hapart hpin
  | resourceUnpin r =>
    simp only [Pins.step] at hs
    split at hs
    · cases hs
    · rename_i hcount
      cases hs
      exact h.resourceUnpin hcount hapart
  | move b place =>
    simp only [Pins.step] at hs
    split at hs
    · cases hs
    · rename_i hfree
      cases hs
      have hfree : (s.buf b).noEvict = false := by simpa using hfree
      refine h.congr (fun b' => ?_) rfl rfl fun _ _ _ _ hr => hr
      by_cases hb : b' = b
      · subst hb
        refine ⟨by rw [setBuf_self, hfree], fun hpinned => ?_⟩
        rw [hfree] at hpinned
        cases hpinned
      · exact .of_eq (setBuf_other s hb _)

theorem Inv.init (env : Env) (place : BufId → Place) : Inv env (State.init place) :=
  ⟨⟨fun _ he => absurd he List.not_mem_nil, fun _ _ => rfl⟩, fun _ he => absurd he List.not_mem_nil,
    (Option.some_ne_none _).symm⟩

/-- Owners that do not share a buffer but where the one leaves it alone do not lose their pins. -/
theorem pins_independent {place : BufId → Place} {acts : List Act}
    (hrun : Run (step env) (Apart env) (State.init place) acts s) : Independent s := by
  have h : Inv env s :=
    hrun.invariant (I := Inv env) (fun _ _ _ hapart hs h => h.step hapart hs) (Inv.init env place)
  exact h.independent

end Run

section Example

/-- Every framebuffer scans buffer 1 out, with the legacy display unit. -/
private def scanout : Env where
  numPages _ := 4
  sou := false
  dummyQueryBo := 0
  fbBuffer _ := 1
  backup _ := none
  guestBacked _ := false
  fb_ne _ := by decide
  backup_ne _ := (Option.some_ne_none _).symm

private def toVram : Move := ⟨0, false, 0, ⟨[], 0, ⟨.system, 0⟩⟩, ⟨[], 0, ⟨.vram, 0⟩⟩, ⟨[], 0, ⟨.vram, 0⟩⟩⟩

private def inSystem (_ : BufId) : Place := ⟨.system, 0⟩

/-- A stream that shows the framebuffer is stopped, and the framebuffer may be evicted. -/
theorem pins_shared : ∃ s : State,
    Run (step scanout) (fun _ _ => True) (State.init inSystem)
      [.framebufferPin 0 toVram, .overlayPin 0 1 toVram, .overlayUnpin 0 1 toVram] s ∧ ¬ Independent s := by
  refine ⟨_, .cons trivial rfl (.cons trivial rfl (.cons trivial rfl (.nil _))), fun h => ?_⟩
  have hkept := h.kept ⟨.framebuffer 0, 1, ⟨.vram, 0⟩⟩ (List.mem_singleton.mpr rfl)
  exact absurd (congrArg VmwDmaBuffer.noEvict hkept) (by decide)

theorem pins_independent_framebuffer : ∃ s : State, s.pins = [⟨.framebuffer 0, 1, ⟨.vram, 0⟩⟩] ∧ Independent s := by
  have hapart : Apart scanout (State.init inSystem) (.framebufferPin 0 toVram) := fun _ =>
    ⟨fun hvalid => Bool.noConfusion hvalid, fun _ ⟨e, he, _⟩ => absurd he List.not_mem_nil⟩
  have hrun : Run (step scanout) (Apart scanout) (State.init inSystem) [.framebufferPin 0 toVram] _ :=
    .cons hapart rfl (.nil _)
  exact ⟨_, rfl, pins_independent hrun⟩

end Example

end Vmwgfx.Pins
