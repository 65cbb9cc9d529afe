import Vmwgfx.Cmdbuf.Track

/-! Committing a batch makes its staged actions the managers' state. -/

namespace Vmwgfx.Cmdbuf

open Vmwgfx.Hashtab

variable {hashLong : HashLong}

def isAdd (w : World hashLong) (i : EntryId) : Bool := (w.entry i).state = .add
def isDel (w : World hashLong) (i : EntryId) : Bool := (w.entry i).state = .del

theorem not_isDel_of_isAdd {w : World hashLong} {i} (h : isAdd w i) : isDel w i = false := by
  have hs : (w.entry i).state = .add := by simpa [isAdd] using h
  simp [isDel, hs]

theorem not_isAdd_of_isDel {w : World hashLong} {i} (h : isDel w i) : isAdd w i = false := by
  have hs : (w.entry i).state = .del := by simpa [isDel] using h
  simp [isAdd, hs]

theorem Batch.isAdd_or_isDel {w₀ w : World hashLong} (h : Batch w₀ w) {i} (hi : i ∈ w.staged) :
    isAdd w i ∨ isDel w i := by
  cases h.of_staged hi with
  | inl hs => exact .inl (by simp [isAdd, hs.1])
  | inr hs => exact .inr (by simp [isDel, hs.1])

theorem Batch.not_mem_of_split {w₀ w : World hashLong} (h : Batch w₀ w) {done rest i}
    (hsplit : w.staged = done ++ i :: rest) : i ∉ done := by
  have hnodup := h.staged_nodup
  rw [hsplit, List.nodup_append] at hnodup
  exact fun hd => hnodup.2.2 i hd i (by simp) rfl

/-- What the commit that started in `w` has made of the managers once it is
through with the entries `done`. -/
structure Committing (w : World hashLong) (done rest : List EntryId) (v : World hashLong) :
    Prop where
  staged : v.staged = rest
  slot : v.slot = w.slot
  list : ∀ m, v.list m = w.list m ++ done.filter (fun i => isAdd w i ∧ (w.entry i).man = m)
  entry : ∀ i, v.entry i =
    if i ∈ done ∧ isAdd w i then { w.entry i with state := .commited } else w.entry i
  live : ∀ i, v.live i = if i ∈ done ∧ isDel w i then false else w.live i
  next : v.next = w.next
  kref : ∀ r, v.kref r = w.kref r - done.countP (fun i => isDel w i ∧ (w.entry i).res = r)

namespace Committing

variable {w₀ w v : World hashLong} {done rest : List EntryId} {i : EntryId}

theorem start (w : World hashLong) : Committing w [] w.staged w where
  staged := rfl
  slot := rfl
  list := by simp
  entry := by simp
  live := by simp
  next := rfl
  kref := by simp

theorem not_mem_list (hw : WellFormed w₀) (h₀ : Batch w₀ w)
    (h : Committing w done (i :: rest) v) (hsplit : w.staged = done ++ i :: rest) (m : ManId) :
    i ∉ v.list m := by
  intro hm
  rw [h.list, List.mem_append] at hm
  cases hm with
  | inl hm => exact h₀.not_mem_staged hw hm (by simp [hsplit])
  | inr hm => exact h₀.not_mem_of_split hsplit (List.mem_filter.mp hm).1

theorem step_add (hw : WellFormed w₀) (h₀ : Batch w₀ w)
    (h : Committing w done (i :: rest) v) (hsplit : w.staged = done ++ i :: rest)
    (hadd : isAdd w i) :
    ∃ v', commitEntry v i = some v' ∧ Committing w (done ++ [i]) rest v' := by
  have hid : i ∉ done := h₀.not_mem_of_split hsplit
  have hstate : (w.entry i).state = .add := by simpa [isAdd] using hadd
  have hndel : isDel w i = false := not_isDel_of_isAdd hadd
  have hentry : v.entry i = w.entry i := by simp [h.entry, hid]
  have hlive : v.live i = true := by
    rw [h.live, if_neg (fun hd => hid hd.1), h₀.live_staged (by simp [hsplit])]
  have herase : ∀ m, (v.list m).erase i = v.list m :=
    fun m => List.erase_of_not_mem (h.not_mem_list hw h₀ hsplit m)
  refine ⟨((v.listDel i).setState i .commited).listAddTail (w.entry i).man i, ?_, ?_⟩
  · simp only [commitEntry, hlive, hentry, hstate, if_true]
  refine
    { staged := ?_
      slot := ?_
      list := ?_
      entry := ?_
      live := ?_
      next := h.next
      kref := ?_ }
  · simp [h.staged]
  · simp [h.slot]
  · intro m
    simp only [list_setState, list_listAddTail, list_listDel, herase, ite_self]
    rw [h.list, List.filter_append]
    by_cases hm : m = (w.entry i).man
    · simp [hm, hadd]
    · simp [hm, Ne.symm hm]
  · intro j
    simp only [entry_setState, entry_listAddTail, entry_listDel, hentry]
    by_cases hj : j = i
    · subst hj
      simp [hadd]
    · rw [Function.update_of_ne hj, h.entry]
      simp [hj]
  · intro j
    have hj : isDel w j → j ≠ i := by
      intro hd hji
      rw [hji, hndel] at hd
      cases hd
    simp only [live_listAddTail, live_setState, live_listDel, h.live, List.mem_append,
      List.mem_singleton]
    refine if_congr ?_ rfl rfl
    exact ⟨fun hd => ⟨.inl hd.1, hd.2⟩, fun hd => ⟨hd.1.resolve_right (hj hd.2), hd.2⟩⟩
  · intro r
    simp [h.kref, List.countP_append, hndel]

theorem step_del (hw : WellFormed w₀) (h₀ : Batch w₀ w)
    (h : Committing w done (i :: rest) v) (hsplit : w.staged = done ++ i :: rest)
    (hdel : isDel w i) :
    ∃ v', commitEntry v i = some v' ∧ Committing w (done ++ [i]) rest v' := by
  have hid : i ∉ done := h₀.not_mem_of_split hsplit
  have hstate : (w.entry i).state = .del := by simpa [isDel] using hdel
  have hnadd : isAdd w i = false := not_isAdd_of_isDel hdel
  have hentry : v.entry i = w.entry i := by simp [h.entry, hid]
  have hlive : v.live i = true := by
    rw [h.live, if_neg (fun hd => hid hd.1), h₀.live_staged (by simp [hsplit])]
  have herase : ∀ m, (v.list m).erase i = v.list m :=
    fun m => List.erase_of_not_mem (h.not_mem_list hw h₀ hsplit m)
  have hne : ∀ {j}, isAdd w j → j ≠ i := by
    intro j ha hji
    rw [hji, hnadd] at ha
    cases ha
  refine ⟨((v.listDel i).unref (w.entry i).res).kfree i, ?_, ?_⟩
  · simp only [commitEntry, hlive, hentry, hstate, if_true]
  refine
    { staged := ?_
      slot := ?_
      list := ?_
      entry := ?_
      live := ?_
      next := h.next
      kref := ?_ }
  · simp [h.staged]
  · simp [h.slot]
  · intro m
    simp only [list_kfree, list_unref, list_listDel, herase, ite_self]
    rw [h.list, List.filter_append]
    simp [hnadd]
  · intro j
    simp only [entry_kfree, entry_unref, entry_listDel, h.entry, List.mem_append,
      List.mem_singleton]
    refine if_congr ?_ rfl rfl
    exact ⟨fun ha => ⟨.inl ha.1, ha.2⟩, fun ha => ⟨ha.1.resolve_right (hne ha.2), ha.2⟩⟩
  · intro j
    simp only [live_kfree, live_unref, live_listDel]
    by_cases hj : j = i
    · simp [hj, hdel]
    · rw [Function.update_of_ne hj, h.live]
      simp [hj]
  · intro r
    simp only [kref_kfree, kref_unref, kref_listDel]
    rw [vmwResourceUnreference_apply, h.kref, List.countP_append, List.countP_singleton]
    simp [hdel, Nat.sub_sub]

theorem run (hw : WellFormed w₀) (h₀ : Batch w₀ w) (h : Committing w done rest v)
    (hsplit : w.staged = done ++ rest) :
    ∃ v', rest.foldlM commitEntry v = some v' ∧ Committing w w.staged [] v' := by
  induction rest generalizing done v with
  | nil =>
    rw [List.append_nil] at hsplit
    rw [hsplit]
    exact ⟨v, rfl, h⟩
  | cons i rest ih =>
    have hstep : ∃ v', commitEntry v i = some v' ∧ Committing w (done ++ [i]) rest v' := by
      cases h₀.isAdd_or_isDel (i := i) (by simp [hsplit]) with
      | inl hadd => exact h.step_add hw h₀ hsplit hadd
      | inr hdel => exact h.step_del hw h₀ hsplit hdel
    obtain ⟨v', hv', h'⟩ := hstep
    obtain ⟨v'', hv'', h''⟩ := ih h' (by simp [hsplit])
    refine ⟨v'', ?_, h''⟩
    rw [List.foldlM_cons, hv']
    exact hv''

end Committing

section Commit

variable {w₀ w : World hashLong}

theorem Batch.commit (hw : WellFormed w₀) (h₀ : Batch w₀ w) :
    ∃ w', vmwCmdbufResCommit w = some w' ∧ Committing w w.staged [] w' :=
  (Committing.start w).run hw h₀ rfl

/-- A committed batch leaves a manager state that a batch can start from. -/
theorem Batch.wellFormed_of_commit (hw : WellFormed w₀) (h₀ : Batch w₀ w) {w' : World hashLong}
    (h : Committing w w.staged [] w') : WellFormed w' := by
  have hloc : ∀ i, (w'.entry i).loc = (w.entry i).loc := by
    intro i
    rw [h.entry]
    split_ifs <;> rfl
  have hmem : ∀ {m i}, i ∈ w'.list m ↔
      i ∈ w.list m ∨ (i ∈ w.staged ∧ isAdd w i ∧ (w.entry i).man = m) := by
    intro m i
    rw [h.list, List.mem_append, List.mem_filter]
    simp
  have hlive : ∀ {i}, ¬ isDel w i → w'.live i = w.live i := by
    intro i hi
    rw [h.live, if_neg (fun hd => hi hd.2)]
  refine
    { staged_nil := h.staged
      list_nodup := ?_
      of_mem_list := ?_
      of_slot := ?_
      fresh := ?_ }
  · intro m
    rw [h.list]
    refine List.nodup_append.mpr ⟨h₀.list_nodup m, h₀.staged_nodup.filter _, ?_⟩
    intro i hi j hj hij
    exact h₀.not_mem_staged hw hi (hij ▸ (List.mem_filter.mp hj).1)
  · intro m i hi
    rw [hloc, h.slot]
    cases hmem.mp hi with
    | inl hl =>
      have hns := h₀.not_mem_staged hw hl
      obtain ⟨hcom, hman⟩ := h₀.state_of_mem_list hw hl
      rw [h.entry, if_neg (fun ha => hns ha.1), h.live, if_neg (fun hd => hns hd.1)]
      exact ⟨(h₀.of_mem_list hl).2.1, hcom, hman, (h₀.of_mem_list hl).2.2.2⟩
    | inr hl =>
      obtain ⟨hs, hadd, hman⟩ := hl
      rw [h.entry, if_pos ⟨hs, hadd⟩, hlive (by simp [not_isDel_of_isAdd hadd])]
      exact ⟨h₀.live_staged hs, rfl, hman,
        h₀.slot_of_active (m := m) (.inr ⟨hs, by simpa [isAdd] using hadd⟩)⟩
  · intro l i hs
    rw [h.slot] at hs
    obtain ⟨hl, hact⟩ := h₀.of_slot hs
    rw [hloc]
    refine ⟨hmem.mpr ?_, hl⟩
    exact hact.imp id (fun ha => ⟨ha.1, by simp [isAdd, ha.2], congrArg Prod.fst hl⟩)
  · intro i hi
    rw [h.next] at hi
    rw [h.live, h₀.fresh i hi, ite_self]

end Commit

end Vmwgfx.Cmdbuf
