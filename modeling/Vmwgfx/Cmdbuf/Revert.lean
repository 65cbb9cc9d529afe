import Vmwgfx.Cmdbuf.Commit
import Mathlib.Tactic.Tauto

/-! What reverting a batch leaves behind, and when that is what was there before. -/

namespace Vmwgfx.Cmdbuf

open Vmwgfx.Hashtab

variable {hashLong : HashLong}

/-- What the revert that started in `w` has made of the managers once it is
through with the entries `done`. -/
structure Reverting (w : World hashLong) (done rest : List EntryId) (v : World hashLong) :
    Prop where
  staged : v.staged = rest
  slot : ∀ {l i}, v.slot l = some i ↔ (w.slot l = some i ∧ i ∉ done) ∨
    (w.slot l = none ∧ i ∈ done ∧ isDel w i ∧ (w.entry i).loc = l)
  list : ∀ m, v.list m = w.list m ++ done.filter (fun i => isDel w i ∧ (w.entry i).man = m)
  entry : ∀ i, v.entry i =
    if i ∈ done ∧ isDel w i then { w.entry i with state := .commited } else w.entry i
  live : ∀ i, v.live i = if i ∈ done ∧ isAdd w i then false else w.live i
  kref : ∀ r, v.kref r = w.kref r - done.countP (fun i => isAdd w i ∧ (w.entry i).res = r)

namespace Reverting

variable {w₀ w v : World hashLong} {done rest : List EntryId} {i : EntryId}

theorem start (w : World hashLong) : Reverting w [] w.staged w where
  staged := rfl
  slot := by simp
  list := by simp
  entry := by simp
  live := by simp
  kref := by simp

theorem not_mem_list (hw : WellFormed w₀) (h₀ : Batch w₀ w)
    (h : Reverting w done (i :: rest) v) (hsplit : w.staged = done ++ i :: rest) (m : ManId) :
    i ∉ v.list m := by
  intro hm
  rw [h.list, List.mem_append] at hm
  cases hm with
  | inl hm => exact h₀.not_mem_staged hw hm (by simp [hsplit])
  | inr hm => exact h₀.not_mem_of_split hsplit (List.mem_filter.mp hm).1

theorem step_add (hw : WellFormed w₀) (h₀ : Batch w₀ w)
    (h : Reverting w done (i :: rest) v) (hsplit : w.staged = done ++ i :: rest)
    (hadd : isAdd w i) :
    ∃ v', revertEntry v i = some v' ∧ Reverting w (done ++ [i]) rest v' := by
  have hi : i ∈ w.staged := by simp [hsplit]
  have hid : i ∉ done := h₀.not_mem_of_split hsplit
  have hstate : (w.entry i).state = .add := by simpa [isAdd] using hadd
  have hndel : isDel w i = false := not_isDel_of_isAdd hadd
  have hentry : v.entry i = w.entry i := by simp [h.entry, hid]
  have hat₀ : w.slot (w.entry i).loc = some i := h₀.slot_of_active (m := 0) (.inr ⟨hi, hstate⟩)
  have hat : v.slot (v.entry i).loc = some i := hentry ▸ h.slot.mpr (.inl ⟨hat₀, hid⟩)
  have hlive : v.live i = true := by
    rw [h.live, if_neg (fun hd => hid hd.1), h₀.live_staged hi]
  obtain ⟨v', hfree, hslot, hlist, hstaged, hentry', hlive', -, hkref⟩ :=
    vmwCmdbufResFree_eq_some hlive hat (h.not_mem_list hw h₀ hsplit)
  refine ⟨v', ?_, ?_⟩
  · rw [← hfree]
    simp only [revertEntry, hlive, hentry, hstate, if_true]
  refine
    { staged := ?_
      slot := ?_
      list := ?_
      entry := ?_
      live := ?_
      kref := ?_ }
  · rw [hstaged, h.staged, List.erase_cons_head]
  · intro l j
    rw [hslot, hentry]
    by_cases hl : l = (w.entry i).loc
    · subst hl
      simp [hat₀]
      intro hij _
      exact hij.symm
    · have hne : w.slot l = some j → j ≠ i := by
        intro hs hji
        exact hl (hji ▸ (h₀.of_slot hs).1.symm)
      have hne' : isDel w j → j ≠ i := by
        intro hd hji
        rw [hji, hndel] at hd
        cases hd
      rw [if_neg hl, h.slot]
      simp only [List.mem_append, List.mem_singleton]
      clear * - hne hne'
      tauto
  · intro m
    rw [hlist, h.list, List.filter_append]
    simp [hndel]
  · intro j
    have hne' : isDel w j → j ≠ i := by
      intro hd hji
      rw [hji, hndel] at hd
      cases hd
    rw [hentry', h.entry]
    refine if_congr ?_ rfl rfl
    simp only [List.mem_append, List.mem_singleton]
    clear * - hne'
    tauto
  · intro j
    rw [hlive']
    by_cases hj : j = i
    · simp [hj, hadd]
    · rw [Function.update_of_ne hj, h.live]
      simp [hj]
  · intro r
    rw [hkref, vmwResourceUnreference_apply, h.kref, hentry, List.countP_append,
      List.countP_singleton]
    simp [hadd, Nat.sub_sub]

theorem step_del (hw : WellFormed w₀) (h₀ : Batch w₀ w)
    (h : Reverting w done (i :: rest) v) (hsplit : w.staged = done ++ i :: rest)
    (hdel : isDel w i) :
    ∃ v', revertEntry v i = some v' ∧ Reverting w (done ++ [i]) rest v' := by
  have hi : i ∈ w.staged := by simp [hsplit]
  have hid : i ∉ done := h₀.not_mem_of_split hsplit
  have hstate : (w.entry i).state = .del := by simpa [isDel] using hdel
  have hnadd : isAdd w i = false := not_isAdd_of_isDel hdel
  have hentry : v.entry i = w.entry i := by simp [h.entry, hid]
  have hlive : v.live i = true := by
    rw [h.live, if_neg (fun hd => hid hd.1), h₀.live_staged hi]
  have hnl := h.not_mem_list hw h₀ hsplit
  obtain ⟨hlist, hentry', hlive', hkref, hstaged⟩ :=
    htInsertIgnore_frame (w := v) (m := (w.entry i).man) (i := i)
  -- of one key's entries the deleted one comes first on the staging list
  have hkey : ∀ {j}, j ∈ done → (w.entry j).loc ≠ (w.entry i).loc := by
    intro j hj
    have hpair := h₀.ordered
    rw [hsplit, List.pairwise_append] at hpair
    exact hpair.2.2 j hj i (by simp) hstate
  have hat : v.slot (w.entry i).loc = w.slot (w.entry i).loc := by
    apply Option.ext
    intro j
    rw [h.slot]
    constructor
    · intro hj
      cases hj with
      | inl hj => exact hj.1
      | inr hj => exact absurd hj.2.2.2 (hkey hj.2.1)
    · intro hj
      exact .inl ⟨hj, fun hd => hkey hd (h₀.of_slot hj).1⟩
  refine ⟨(((v.htInsertIgnore (w.entry i).man i).listDel i).listAddTail
    (w.entry i).man i).setState i .commited, ?_, ?_⟩
  · simp only [revertEntry, hlive, hentry, hstate, if_true]
  refine
    { staged := ?_
      slot := ?_
      list := ?_
      entry := ?_
      live := ?_
      kref := ?_ }
  · simp [hstaged, h.staged]
  · intro l j
    rw [slot_setState, slot_listAddTail, slot_listDel, slot_htInsertIgnore, hentry]
    have hloc : ((w.entry i).man, (w.entry i).key) = (w.entry i).loc := rfl
    rw [hloc]
    by_cases hl : l = (w.entry i).loc ∧ v.slot l = none
    · obtain ⟨rfl, hnone⟩ := hl
      have hnone₀ := hat ▸ hnone
      rw [if_pos ⟨rfl, hnone⟩]
      simp only [List.mem_append, List.mem_singleton, hnone₀, Option.some.injEq]
      constructor
      · intro hij
        subst hij
        simp [hdel]
      · intro hj
        rcases hj with ⟨hj, -⟩ | ⟨-, hj | hj, -, hjl⟩
        · cases hj
        · exact absurd hjl (hkey hj)
        · exact hj.symm
    · rw [if_neg hl, h.slot]
      simp only [List.mem_append, List.mem_singleton]
      have hne : w.slot l = some j → j ≠ i := by
        intro hs hji
        subst hji
        cases (h₀.of_slot hs).2 with
        | inl hl => exact h₀.not_mem_staged hw hl hi
        | inr hl => simp [hstate] at hl
      have hne' : w.slot l = none → (w.entry j).loc = l → j ≠ i := by
        intro hs hjl hji
        subst hji
        refine hl ⟨hjl.symm, ?_⟩
        rw [← hjl, hat, hjl, hs]
      clear * - hne hne'
      tauto
  · intro m
    have herase : ∀ m, (v.list m).erase i = v.list m :=
      fun m => List.erase_of_not_mem (hnl m)
    simp only [list_setState, list_listAddTail, list_listDel, hlist, herase, ite_self]
    rw [h.list, List.filter_append]
    by_cases hm : m = (w.entry i).man
    · simp [hm, hdel]
    · simp [hm, Ne.symm hm]
  · intro j
    simp only [entry_setState, entry_listAddTail, entry_listDel, hentry', hentry]
    by_cases hj : j = i
    · subst hj
      simp [hdel]
    · rw [Function.update_of_ne hj, h.entry]
      simp [hj]
  · intro j
    have hne : isAdd w j → j ≠ i := by
      intro ha hji
      rw [hji, hnadd] at ha
      cases ha
    simp only [live_setState, live_listAddTail, live_listDel, hlive', h.live, List.mem_append,
      List.mem_singleton]
    refine if_congr ?_ rfl rfl
    exact ⟨fun ha => ⟨.inl ha.1, ha.2⟩, fun ha => ⟨ha.1.resolve_right (hne ha.2), ha.2⟩⟩
  · intro r
    simp [hkref, h.kref, List.countP_append, hnadd]

theorem run (hw : WellFormed w₀) (h₀ : Batch w₀ w) (h : Reverting w done rest v)
    (hsplit : w.staged = done ++ rest) :
    ∃ v', rest.foldlM revertEntry v = some v' ∧ Reverting w w.staged [] v' := by
  induction rest generalizing done v with
  | nil =>
    rw [List.append_nil] at hsplit
    rw [hsplit]
    exact ⟨v, rfl, h⟩
  | cons i rest ih =>
    have hstep : ∃ v', revertEntry v i = some v' ∧ Reverting w (done ++ [i]) rest v' := by
      cases h₀.isAdd_or_isDel (i := i) (by simp [hsplit]) with
      | inl hadd => exact h.step_add hw h₀ hsplit hadd
      | inr hdel => exact h.step_del hw h₀ hsplit hdel
    obtain ⟨v', hv', h'⟩ := hstep
    obtain ⟨v'', hv'', h''⟩ := ih h' (by simp [hsplit])
    refine ⟨v'', ?_, h''⟩
    rw [List.foldlM_cons, hv']
    exact hv''

end Reverting

/-- The managers in `w` are what they were in `w₀`. -/
structure Restored (w₀ w : World hashLong) : Prop where
  lookup : ∀ m resType userKey,
    (vmwCmdbufResLookup w m resType userKey).map Prod.fst =
      (vmwCmdbufResLookup w₀ m resType userKey).map Prod.fst
  list : ∀ m i, i ∈ w.list m ↔ i ∈ w₀.list m
  resources : ∀ m i, (∃ key, w.slot (m, key) = some i) ↔ (∃ key, w₀.slot (m, key) = some i)
  agree : ∀ m i, i ∈ w.list m ↔ ∃ key, w.slot (m, key) = some i
  kref : ∀ r, w.kref r = w₀.kref r

section Revert

variable {w₀ w w' : World hashLong}

theorem Batch.revert (hw : WellFormed w₀) (h₀ : Batch w₀ w) :
    ∃ w', vmwCmdbufResRevert w = some w' ∧ Reverting w w.staged [] w' :=
  (Reverting.start w).run hw h₀ rfl

theorem Batch.del_of_staged (h₀ : Batch w₀ w) {i} (hi : i ∈ w.staged) (hdel : isDel w i) :
    w₀.slot (w.entry i).loc = some i ∧ w.entry i = { w₀.entry i with state := .del } := by
  cases h₀.of_staged hi with
  | inl hs => simp [isDel, hs.1] at hdel
  | inr hs => exact hs.2

theorem Batch.del_of_gone (hw : WellFormed w₀) (h₀ : Batch w₀ w) {m i} (hi : i ∈ w.staged)
    (hm : i ∈ w₀.list m) : isDel w i := by
  cases h₀.isAdd_or_isDel hi with
  | inl hadd => exact absurd hm (h₀.not_mem_list_of_add hw hi (by simpa [isAdd] using hadd) m)
  | inr hdel => exact hdel

/-- Whatever the batch did, its revert puts the old entries back on their lists. -/
theorem Reverting.mem_list_iff (hw : WellFormed w₀) (h₀ : Batch w₀ w)
    (h : Reverting w w.staged [] w') (m : ManId) (i : EntryId) :
    i ∈ w'.list m ↔ i ∈ w₀.list m := by
  rw [h.list, List.mem_append, List.mem_filter]
  constructor
  · intro hi
    cases hi with
    | inl hi => exact (h₀.of_mem_list hi).1
    | inr hi =>
      obtain ⟨hs, hp⟩ := hi
      simp only [decide_eq_true_eq] at hp
      have hback := (hw.of_slot (h₀.del_of_staged hs hp.1).1).1
      rwa [show (w.entry i).loc.1 = m from hp.2] at hback
  · intro hi
    refine (h₀.gone hi).imp id (fun hs => ⟨hs, ?_⟩)
    have hdel := h₀.del_of_gone hw hs hi
    have hman : (w.entry i).man = m := by
      rw [(h₀.del_of_staged hs hdel).2]
      exact (hw.of_mem_list hi).2.2.1
    simp [hdel, hman]

theorem Reverting.kref_eq (hc : Counted w₀ w) (h : Reverting w w.staged [] w') (r : ResId) :
    w'.kref r = w₀.kref r := by
  rw [h.kref, hc]
  simp [isAdd]

/-- An entry committed before the batch is back in the table unless an entry of
the batch holds its key. -/
theorem Reverting.slot_old (hw : WellFormed w₀) (h₀ : Batch w₀ w)
    (h : Reverting w w.staged [] w') {l i} (hi : w₀.slot l = some i) :
    w'.slot l = some i ↔ ∀ j ∈ w.staged, w.slot l ≠ some j := by
  obtain ⟨hmem, hl⟩ := hw.of_slot hi
  rw [h.slot]
  constructor
  · intro hs j hj hslot
    cases hs with
    | inl hs =>
      rw [hs.1] at hslot
      cases hslot
      exact hs.2 hj
    | inr hs =>
      rw [hs.1] at hslot
      cases hslot
  · intro hfree
    cases h₀.gone hmem with
    | inl hlist =>
      obtain ⟨-, -, heq, hs⟩ := h₀.of_mem_list hlist
      rw [heq, hl] at hs
      exact .inl ⟨hs, h₀.not_mem_staged hw hlist⟩
    | inr hstaged =>
      have hdel := h₀.del_of_gone hw hstaged hmem
      have hloc : (w.entry i).loc = l := by
        rw [(h₀.del_of_staged hstaged hdel).2]
        exact hl
      refine .inr ⟨?_, hstaged, hdel, hloc⟩
      cases hs : w.slot l with
      | none => rfl
      | some j =>
        cases (h₀.of_slot hs).2 with
        | inl hj =>
          -- `j` was committed under `l` before the batch, so it is `i`
          obtain ⟨hj₀, -, heq, -⟩ := h₀.of_mem_list hj
          have hjl := (hw.of_mem_list hj₀).2.2.2
          rw [← heq, (h₀.of_slot hs).1, hi] at hjl
          cases hjl
          exact absurd hstaged (h₀.not_mem_staged hw hj)
        | inr hj => exact absurd hs (hfree j hj.1)

theorem Reverting.slot_new (hw : WellFormed w₀) (h₀ : Batch w₀ w)
    (h : Reverting w w.staged [] w') {l i} (hi : w'.slot l = some i) : w₀.slot l = some i := by
  cases h.slot.mp hi with
  | inl hs =>
    cases (h₀.of_slot hs.1).2 with
    | inl hlist =>
      obtain ⟨hm, -, heq, -⟩ := h₀.of_mem_list hlist
      have hback := (hw.of_mem_list hm).2.2.2
      rwa [← heq, (h₀.of_slot hs.1).1] at hback
    | inr hstaged => exact absurd hstaged.1 hs.2
  | inr hs =>
    have hback := (h₀.del_of_staged hs.2.1 hs.2.2.1).1
    rwa [hs.2.2.2] at hback

theorem Reverting.restored_of_slot (hw : WellFormed w₀) (h₀ : Batch w₀ w) (hc : Counted w₀ w)
    (h : Reverting w w.staged [] w') (hslot : w'.slot = w₀.slot) : Restored w₀ w' := by
  refine
    { lookup := ?_
      list := h.mem_list_iff hw h₀
      resources := by simp [hslot]
      agree := ?_
      kref := h.kref_eq hc }
  · intro m resType userKey
    have hfind : (w'.man m).resources.drmHtFindItem (hashKey resType userKey) =
        (w₀.man m).resources.drmHtFindItem (hashKey resType userKey) :=
      congrFun hslot (m, hashKey resType userKey)
    unfold vmwCmdbufResLookup
    rw [hfind]
    cases hs : (w₀.man m).resources.drmHtFindItem (hashKey resType userKey) with
    | none => rfl
    | some i =>
      have hi : w₀.slot (m, hashKey resType userKey) = some i := hs
      obtain ⟨hmem, -⟩ := hw.of_slot hi
      have hlive₀ := (hw.of_mem_list hmem).1
      have hback : w'.live i = true ∧ (w'.entry i).res = (w₀.entry i).res := by
        cases h₀.gone hmem with
        | inl hlist =>
          obtain ⟨-, hlive, heq, -⟩ := h₀.of_mem_list hlist
          have hns := h₀.not_mem_staged hw hlist
          rw [h.live, h.entry, if_neg (fun ha => hns ha.1), if_neg (fun ha => hns ha.1), heq]
          exact ⟨hlive, rfl⟩
        | inr hstaged =>
          have hdel := h₀.del_of_gone hw hstaged hmem
          rw [h.entry, if_pos ⟨hstaged, hdel⟩, h.live, (h₀.del_of_staged hstaged hdel).2]
          exact ⟨by simp [not_isAdd_of_isDel hdel, h₀.live_staged hstaged], rfl⟩
      simp [hback, hlive₀]
  · intro m i
    rw [h.mem_list_iff hw h₀, hslot]
    constructor
    · intro hi
      obtain ⟨-, -, hman, hs⟩ := hw.of_mem_list hi
      exact ⟨(w₀.entry i).key, by rw [← hman]; exact hs⟩
    · intro hi
      obtain ⟨key, hs⟩ := hi
      exact (hw.of_slot hs).1

theorem staged_bindings_iff {l : ManId × Nat} :
    (∃ r, w.bindings l = some (.staged, r)) ↔ ∃ i ∈ w.staged, w.slot l = some i := by
  unfold World.bindings
  cases w.slot l with
  | none => simp
  | some i => by_cases hi : i ∈ w.staged <;> simp [hi]

theorem Reverting.restored_iff (hw : WellFormed w₀) (h₀ : Batch w₀ w) (hc : Counted w₀ w)
    (h : Reverting w w.staged [] w') :
    Restored w₀ w' ↔ ∀ l, w₀.bindings l ≠ none → ∀ r, w.bindings l ≠ some (.staged, r) := by
  constructor
  · intro hr l hl r hb
    cases hi : w₀.slot l with
    | none => exact hl (bindings_eq_none_iff.mpr hi)
    | some i =>
      obtain ⟨j, hj, hjl⟩ := staged_bindings_iff.mp ⟨r, hb⟩
      have hold := (h.slot_old hw h₀ hi).not.mpr (fun hfree => hfree j hj hjl)
      -- still on its list, the entry is in the table, where only `l` finds it
      have hmem := (h.mem_list_iff hw h₀ l.1 i).mpr (hw.of_slot hi).1
      obtain ⟨key, hkey⟩ := (hr.agree l.1 i).mp hmem
      have hkey₀ := h.slot_new hw h₀ hkey
      have hloc : l = (l.1, key) := (hw.of_slot hi).2.symm.trans (hw.of_slot hkey₀).2
      rw [← hloc] at hkey
      exact hold hkey
  · intro hfree
    apply h.restored_of_slot hw h₀ hc
    funext l
    apply Option.ext
    intro i
    refine ⟨h.slot_new hw h₀, fun hi => (h.slot_old hw h₀ hi).mpr ?_⟩
    intro j hj hjl
    obtain ⟨r, hr⟩ := staged_bindings_iff.mpr ⟨j, hj, hjl⟩
    exact hfree l (fun hn => by simp [bindings_eq_none_iff.mp hn] at hi) r hr

/-- Reverting a batch restores the managers exactly when no key that was bound
before the batch ends it bound to an entry the batch has staged. -/
theorem vmwCmdbufResRevert_restores_iff (hashLong : HashLong) (w₀ : World hashLong)
    (h₀ : WellFormed w₀) (as : List Action) :
    (∃ w w', runActions w₀ as = some w ∧ vmwCmdbufResRevert w = some w' ∧ Restored w₀ w') ↔
      ∀ l, w₀.bindings l ≠ none →
        ∀ r, as.foldl Action.track w₀.bindings l ≠ some (.staged, r) := by
  obtain ⟨w, hrun, hb⟩ := h₀.batch.runActions h₀ as
  obtain ⟨w', hrev, h⟩ := hb.revert h₀
  have hc := h₀.counted.runActions h₀ h₀.batch as hrun
  rw [← h₀.batch.bindings_runActions h₀ as hrun, ← h.restored_iff h₀ hb hc]
  constructor
  · intro hex
    obtain ⟨v, v', hv, hv', hr⟩ := hex
    rw [hrun] at hv
    cases hv
    rw [hrev] at hv'
    cases hv'
    exact hr
  · intro hr
    exact ⟨w, w', hrun, hrev, hr⟩

end Revert

/-- A manager that holds one committed resource, under the user key 1. -/
def oneKey (hashLong : HashLong) : World hashLong :=
  ((runActions (World.empty hashLong) [.add true 0 .compatShader 1 5]).bind
    vmwCmdbufResCommit).getD (World.empty hashLong)

theorem wellFormed_oneKey (hashLong : HashLong) : WellFormed (oneKey hashLong) := by
  have h₀ := wellFormed_empty hashLong
  obtain ⟨w, hrun, hb⟩ := h₀.batch.runActions h₀ [.add true 0 .compatShader 1 5]
  obtain ⟨w', hcommit, h⟩ := hb.commit h₀
  simp only [oneKey, hrun, Option.bind_some, hcommit, Option.getD_some]
  exact hb.wellFormed_of_commit h₀ h

/-- Removing a committed key, adding it again and reverting loses the key: the
old entry cannot be put back while the new one is in the table. -/
theorem vmwCmdbufResRevert_loses_key :
    WellFormed (oneKey (fun key _ => key)) ∧
      ∃ w', (runActions (oneKey (fun key _ => key))
          [.remove 0 .compatShader 1, .add true 0 .compatShader 1 7]).bind
            vmwCmdbufResRevert = some w' ∧
        (vmwCmdbufResLookup (oneKey (fun key _ => key)) 0 .compatShader 1).map Prod.fst =
          some (.ok 5) ∧
        (vmwCmdbufResLookup w' 0 .compatShader 1).map Prod.fst = some (.error (-EINVAL)) ∧
        w'.list 0 = (oneKey (fun key _ => key)).list 0 ∧
        ¬ Restored (oneKey (fun key _ => key)) w' := by
  refine ⟨wellFormed_oneKey _, _, rfl, rfl, rfl, rfl, ?_⟩
  intro h
  have hlookup := h.lookup 0 .compatShader 1
  cases hlookup

theorem vmwCmdbufResRevert_restores_removed :
    (∃ w w', runActions (oneKey (fun key _ => key)) [.remove 0 .compatShader 1] = some w ∧
      vmwCmdbufResRevert w = some w' ∧ Restored (oneKey (fun key _ => key)) w') ↔
      ∀ l, (oneKey (fun key _ => key)).bindings l ≠ none →
        ∀ r, [Action.remove 0 .compatShader 1].foldl Action.track
          (oneKey (fun key _ => key)).bindings l ≠ some (.staged, r) :=
  vmwCmdbufResRevert_restores_iff _ _ (wellFormed_oneKey _) _

end Vmwgfx.Cmdbuf
