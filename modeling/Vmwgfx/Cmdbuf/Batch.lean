import Vmwgfx.Cmdbuf.Defs
import Mathlib.Data.List.Count
import Mathlib.Data.List.Nodup
import Mathlib.Data.List.Perm.Basic
import Mathlib.Tactic.SplitIfs

/-! Batches of staged actions and the invariant they keep. -/

namespace Vmwgfx.Cmdbuf

open Vmwgfx.Hashtab

variable {hashLong : HashLong}

inductive Action
  | add (mem : Bool) (m : ManId) (resType : ResType) (userKey : UInt32) (res : ResId)
  | remove (m : ManId) (resType : ResType) (userKey : UInt32)

def Action.run (w : World hashLong) : Action → Option (Int × World hashLong)
  | .add mem m resType userKey res => some (vmwCmdbufResAdd w mem m resType userKey res)
  | .remove m resType userKey => vmwCmdbufResRemove w m resType userKey

def runActions (w : World hashLong) (as : List Action) : Option (World hashLong) :=
  as.foldlM (fun w a => (a.run w).map Prod.snd) w

/-- A manager state between batches: the table holds exactly the committed
entries, and these are exactly the ones on the managers' lists. -/
structure WellFormed (w : World hashLong) : Prop where
  staged_nil : w.staged = []
  list_nodup : ∀ m, (w.list m).Nodup
  of_mem_list : ∀ {m i}, i ∈ w.list m → w.live i ∧ (w.entry i).state = .commited ∧
    (w.entry i).man = m ∧ w.slot (w.entry i).loc = some i
  of_slot : ∀ {l i}, w.slot l = some i → i ∈ w.list l.1 ∧ (w.entry i).loc = l
  fresh : ∀ i, w.next ≤ i → w.live i = false

/-- `VMW_CMDBUF_RES_MAN_HT_ORDER`. -/
def vmwCmdbufResManHtOrder : Nat := 12

def World.empty (hashLong : HashLong) : World hashLong where
  entry := fun _ => ⟨0, 0, .commited, 0⟩
  live := fun _ => false
  next := 0
  man := fun _ => ⟨.drmHtCreate vmwCmdbufResManHtOrder, []⟩
  kref := fun _ => 0
  staged := []

theorem wellFormed_empty (hashLong : HashLong) : WellFormed (World.empty hashLong) where
  staged_nil := rfl
  list_nodup := fun _ => List.nodup_nil
  of_mem_list := fun hi => nomatch hi
  of_slot := fun hs => nomatch hs
  fresh := fun _ _ => rfl

/-- What a batch that started in `w₀` has made of the managers. -/
structure Batch (w₀ w : World hashLong) : Prop where
  list_nodup : ∀ m, (w.list m).Nodup
  staged_nodup : w.staged.Nodup
  of_mem_list : ∀ {m i}, i ∈ w.list m → i ∈ w₀.list m ∧ w.live i ∧
    w.entry i = w₀.entry i ∧ w.slot (w.entry i).loc = some i
  live_staged : ∀ {i}, i ∈ w.staged → w.live i
  of_staged : ∀ {i}, i ∈ w.staged →
    ((w.entry i).state = .add ∧ w.slot (w.entry i).loc = some i ∧ w₀.next ≤ i) ∨
    ((w.entry i).state = .del ∧ w₀.slot (w.entry i).loc = some i ∧
      w.entry i = { w₀.entry i with state := .del })
  of_slot : ∀ {l i}, w.slot l = some i → (w.entry i).loc = l ∧
    (i ∈ w.list l.1 ∨ (i ∈ w.staged ∧ (w.entry i).state = .add))
  gone : ∀ {m i}, i ∈ w₀.list m → i ∈ w.list m ∨ i ∈ w.staged
  ordered : w.staged.Pairwise
    (fun i j => (w.entry j).state = .del → (w.entry i).loc ≠ (w.entry j).loc)
  fresh : ∀ i, w.next ≤ i → w.live i = false
  next_le : w₀.next ≤ w.next

theorem WellFormed.batch {w₀ : World hashLong} (h : WellFormed w₀) : Batch w₀ w₀ where
  list_nodup := h.list_nodup
  staged_nodup := by simp [h.staged_nil]
  of_mem_list := fun hi => ⟨hi, (h.of_mem_list hi).1, rfl, (h.of_mem_list hi).2.2.2⟩
  live_staged := by simp [h.staged_nil]
  of_staged := by simp [h.staged_nil]
  of_slot := fun hs => ⟨(h.of_slot hs).2, .inl (h.of_slot hs).1⟩
  gone := .inl
  ordered := by simp [h.staged_nil]
  fresh := h.fresh
  next_le := le_refl _

namespace Batch

variable {w₀ w : World hashLong}

theorem state_of_mem_list (h₀ : WellFormed w₀) (h : Batch w₀ w) {m i} (hi : i ∈ w.list m) :
    (w.entry i).state = .commited ∧ (w.entry i).man = m := by
  obtain ⟨hi₀, -, heq, -⟩ := h.of_mem_list hi
  rw [heq]
  exact ⟨(h₀.of_mem_list hi₀).2.1, (h₀.of_mem_list hi₀).2.2.1⟩

theorem state_of_staged (h : Batch w₀ w) {i} (hi : i ∈ w.staged) :
    (w.entry i).state ≠ .commited := by
  rcases h.of_staged hi with ⟨hs, -⟩ | ⟨hs, -⟩ <;> simp [hs]

theorem not_mem_staged (h₀ : WellFormed w₀) (h : Batch w₀ w) {m i} (hi : i ∈ w.list m) :
    i ∉ w.staged :=
  fun hs => h.state_of_staged hs (h.state_of_mem_list h₀ hi).1

theorem ne_next_of_live (h : Batch w₀ w) {i} (hi : w.live i = true) : i ≠ w.next := by
  intro heq
  have := h.fresh i (le_of_eq heq.symm)
  simp [this] at hi

theorem live_of_slot (h : Batch w₀ w) {l i} (hs : w.slot l = some i) : w.live i := by
  rcases (h.of_slot hs).2 with hl | ⟨hl, -⟩
  · exact (h.of_mem_list hl).2.1
  · exact h.live_staged hl

/-- An entry of the batch is found under its own key. -/
theorem slot_of_active (h : Batch w₀ w) {m i}
    (hi : i ∈ w.list m ∨ (i ∈ w.staged ∧ (w.entry i).state = .add)) :
    w.slot (w.entry i).loc = some i := by
  cases hi with
  | inl hl => exact (h.of_mem_list hl).2.2.2
  | inr hl =>
    cases h.of_staged hl.1 with
    | inl hs => exact hs.2.1
    | inr hs => simp [hs.1] at hl

/-- A staged addition was allocated by the batch. -/
theorem not_mem_list_of_add (h₀ : WellFormed w₀) (h : Batch w₀ w) {i} (hi : i ∈ w.staged)
    (hadd : (w.entry i).state = .add) (m : ManId) : i ∉ w₀.list m := by
  intro hm
  cases h.of_staged hi with
  | inl hs =>
    have hlive := (h₀.of_mem_list hm).1
    rw [h₀.fresh i hs.2.2] at hlive
    cases hlive
  | inr hs => simp [hs.1] at hadd

theorem add (h : Batch w₀ w) (mem : Bool) (m : ManId) (resType : ResType)
    (userKey : UInt32) (res : ResId) :
    Batch w₀ (vmwCmdbufResAdd w mem m resType userKey res).2 := by
  cases mem with
  | false => exact h
  | true =>
  by_cases hfree : w.slot (m, hashKey resType userKey) = none
  case neg =>
    rw [vmwCmdbufResAdd_of_slot_ne_none hfree]
    exact h
  obtain ⟨w', hadd, hslot', hlist', hstaged', hentry', hlive', hnext', -⟩ :=
    vmwCmdbufResAdd_of_slot_eq_none hfree res
  rw [hadd]
  have hne : ∀ {i}, w.live i = true → i ≠ w.next := h.ne_next_of_live
  have hstaged : w.next ∉ w.staged := fun hi => hne (h.live_staged hi) rfl
  have hentry : ∀ {i}, w.live i = true → w'.entry i = w.entry i := by
    intro i hi
    rw [hentry', Function.update_of_ne (hne hi)]
  have hnew : w'.entry w.next = ⟨res, hashKey resType userKey, .add, m⟩ := by
    rw [hentry', Function.update_self]
  have hlive : ∀ {i}, w.live i = true → w'.live i = true := by
    intro i hi
    rw [hlive', Function.update_of_ne (hne hi), hi]
  have hkeep : ∀ {l i}, w.slot l = some i → w'.slot l = some i := by
    intro l i hs
    rw [hslot', if_neg]
    · exact hs
    · intro hl
      rw [hl, hfree] at hs
      cases hs
  have hmem : ∀ {i}, i ∈ w'.staged ↔ i ∈ w.staged ∨ i = w.next := by
    intro i
    rw [hstaged', List.mem_append, List.mem_singleton]
  refine
    { list_nodup := fun m => hlist' ▸ h.list_nodup m
      staged_nodup := ?_
      of_mem_list := ?_
      live_staged := ?_
      of_staged := ?_
      of_slot := ?_
      gone := ?_
      ordered := ?_
      fresh := ?_
      next_le := ?_ }
  · rw [hstaged']
    exact List.nodup_append.mpr ⟨h.staged_nodup, by simp, by
      intro a ha b hb
      rw [List.mem_singleton.mp hb]
      exact fun hab => hstaged (hab ▸ ha)⟩
  · intro m i hi
    rw [hlist'] at hi
    obtain ⟨hi₀, hl, heq, hs⟩ := h.of_mem_list hi
    rw [hentry hl]
    exact ⟨hi₀, hlive hl, heq, hkeep hs⟩
  · intro i hi
    cases hmem.mp hi with
    | inl hi => exact hlive (h.live_staged hi)
    | inr hi => rw [hi, hlive', Function.update_self]
  · intro i hi
    cases hmem.mp hi with
    | inl hi =>
      rw [hentry (h.live_staged hi)]
      exact (h.of_staged hi).imp (fun hs => ⟨hs.1, hkeep hs.2.1, hs.2.2⟩) id
    | inr hi =>
      subst hi
      rw [hnew]
      exact .inl ⟨rfl, by simp [hslot', CmdbufRes.loc], h.next_le⟩
  · intro l i hs
    rw [hslot'] at hs
    split_ifs at hs with hl
    · cases hs
      rw [hnew]
      exact ⟨hl.symm, .inr ⟨hmem.mpr (.inr rfl), rfl⟩⟩
    · rw [hentry (h.live_of_slot hs), hlist']
      exact ⟨(h.of_slot hs).1, (h.of_slot hs).2.imp id (fun hi => ⟨hmem.mpr (.inl hi.1), hi.2⟩)⟩
  · intro m i hi
    rw [hlist']
    exact (h.gone hi).imp id (fun hi => hmem.mpr (.inl hi))
  · rw [hstaged']
    refine List.pairwise_append.mpr ⟨?_, by simp, ?_⟩
    · refine h.ordered.imp_of_mem ?_
      intro i j hi hj hij
      rw [hentry (h.live_staged hi), hentry (h.live_staged hj)]
      exact hij
    · intro i hi j hj hdel
      rw [List.mem_singleton.mp hj, hnew] at hdel
      cases hdel
  · intro i hi
    rw [hnext'] at hi
    rw [hlive', Function.update_of_ne (Nat.ne_of_gt hi)]
    exact h.fresh i (Nat.le_of_succ_le hi)
  · rw [hnext']
    exact Nat.le_succ_of_le h.next_le

/-- Freeing a staged addition takes it back. -/
theorem free (h₀ : WellFormed w₀) (h : Batch w₀ w) {i} (hi : i ∈ w.staged)
    (hadd : (w.entry i).state = .add) :
    ∃ w', vmwCmdbufResFree w (w.entry i).man i = some w' ∧ Batch w₀ w' := by
  have hat : w.slot (w.entry i).loc = some i := h.slot_of_active (m := 0) (.inr ⟨hi, hadd⟩)
  have hnot : ∀ m, i ∉ w.list m := fun m hm => h.not_mem_staged h₀ hm hi
  obtain ⟨w', hfree, hslot, hlist, hstaged, hentry, hlive', hnext, -⟩ :=
    vmwCmdbufResFree_eq_some (h.live_staged hi) hat hnot
  refine ⟨w', hfree, ?_⟩
  have hlive : ∀ j, j ≠ i → w'.live j = w.live j := by
    intro j hj
    rw [hlive', Function.update_of_ne hj]
  have hmem : ∀ {j}, j ∈ w'.staged ↔ j ≠ i ∧ j ∈ w.staged := by
    intro j
    rw [hstaged, h.staged_nodup.mem_erase_iff]
  have hother : ∀ {j}, j ≠ i → w.slot (w.entry j).loc = some j →
      w'.slot (w.entry j).loc = some j := by
    intro j hj hs
    rw [hslot, if_neg]
    · exact hs
    · intro hl
      rw [hl, hat] at hs
      exact hj (Option.some.inj hs).symm
  have hne : ∀ {m j}, j ∈ w.list m → j ≠ i := by
    intro m j hj heq
    exact hnot m (heq ▸ hj)
  refine
    { list_nodup := fun m => hlist ▸ h.list_nodup m
      staged_nodup := hstaged ▸ h.staged_nodup.erase i
      of_mem_list := ?_
      live_staged := ?_
      of_staged := ?_
      of_slot := ?_
      gone := ?_
      ordered := ?_
      fresh := ?_
      next_le := ?_ }
  · intro m j hj
    rw [hlist] at hj
    obtain ⟨hj₀, hl, heq, hs⟩ := h.of_mem_list hj
    rw [hentry, hlive j (hne hj)]
    exact ⟨hj₀, hl, heq, hother (hne hj) hs⟩
  · intro j hj
    rw [hlive j (hmem.mp hj).1]
    exact h.live_staged (hmem.mp hj).2
  · intro j hj
    rw [hentry]
    exact (h.of_staged (hmem.mp hj).2).imp
      (fun hs => ⟨hs.1, hother (hmem.mp hj).1 hs.2.1, hs.2.2⟩) (fun hs => hs)
  · intro l j hs
    rw [hslot] at hs
    split_ifs at hs with hl
    obtain ⟨hloc, hact⟩ := h.of_slot hs
    have hj : j ≠ i := by
      intro heq
      exact hl (by rw [← hloc, heq])
    rw [hentry, hlist]
    exact ⟨hloc, hact.imp id (fun hj' => ⟨hmem.mpr ⟨hj, hj'.1⟩, hj'.2⟩)⟩
  · intro m j hj
    rw [hlist]
    cases h.gone hj with
    | inl hl => exact .inl hl
    | inr hl =>
      refine .inr (hmem.mpr ⟨?_, hl⟩)
      intro heq
      exact h.not_mem_list_of_add h₀ hi hadd m (heq ▸ hj)
  · rw [hstaged, hentry]
    exact h.ordered.sublist List.erase_sublist
  · intro j hj
    rw [hnext] at hj
    rw [hlive', Function.update_apply, h.fresh j hj, ite_self]
  · rw [hnext]
    exact h.next_le

/-- Removing a committed entry moves it from its manager's list to the staging list. -/
theorem stageDel (h₀ : WellFormed w₀) (h : Batch w₀ w) {m i} (hi : i ∈ w.list m) :
    Batch w₀ (w.stageDel m i) := by
  obtain ⟨hi₀, hlivei, heqi, hat⟩ := h.of_mem_list hi
  have hman : (w.entry i).man = m := (h.state_of_mem_list h₀ hi).2
  have hns : i ∉ w.staged := h.not_mem_staged h₀ hi
  obtain ⟨hslot, hlist, hstaged', hentry', hlive', hnext', -⟩ :=
    stageDel_effect hat hman hns
  have hmemList : ∀ {m' j}, j ∈ (w.stageDel m i).list m' ↔ j ≠ i ∧ j ∈ w.list m' := by
    intro m' j
    rw [hlist]
    split_ifs with hm
    · exact (h.list_nodup m').mem_erase_iff
    · refine ⟨fun hj => ⟨?_, hj⟩, And.right⟩
      intro heq
      exact hm ((h.state_of_mem_list h₀ (heq ▸ hj)).2.symm.trans hman)
  have hmem : ∀ {j}, j ∈ (w.stageDel m i).staged ↔ j ∈ w.staged ∨ j = i := by
    intro j
    rw [hstaged', List.mem_append, List.mem_singleton]
  have hself : (w.stageDel m i).entry i = { w₀.entry i with state := .del } := by
    rw [← heqi, hentry', Function.update_self]
  have hentry : ∀ {j}, j ≠ i → (w.stageDel m i).entry j = w.entry j := by
    intro j hj
    rw [hentry', Function.update_of_ne hj]
  have hloc : ((w.stageDel m i).entry i).loc = (w.entry i).loc := by
    rw [hself, heqi]
    rfl
  have hstne : ∀ {j}, j ∈ w.staged → j ≠ i := fun hj heq => hns (heq ▸ hj)
  have hother : ∀ {j}, j ≠ i → w.slot (w.entry j).loc = some j →
      (w.stageDel m i).slot (w.entry j).loc = some j := by
    intro j hj hs
    rw [hslot, if_neg]
    · exact hs
    · intro hl
      rw [hl, hat] at hs
      exact hj (Option.some.inj hs).symm
  refine
    { list_nodup := ?_
      staged_nodup := ?_
      of_mem_list := ?_
      live_staged := ?_
      of_staged := ?_
      of_slot := ?_
      gone := ?_
      ordered := ?_
      fresh := hlive' ▸ hnext' ▸ h.fresh
      next_le := hnext' ▸ h.next_le }
  · intro m'
    rw [hlist]
    split_ifs
    · exact (h.list_nodup m').erase i
    · exact h.list_nodup m'
  · rw [hstaged']
    exact List.nodup_append.mpr ⟨h.staged_nodup, by simp, by
      intro a ha b hb
      rw [List.mem_singleton.mp hb]
      exact hstne ha⟩
  · intro m' j hj
    obtain ⟨hji, hj⟩ := hmemList.mp hj
    obtain ⟨hj₀, hl, heq, hs⟩ := h.of_mem_list hj
    rw [hentry hji]
    exact ⟨hj₀, hl, heq, hother hji hs⟩
  · intro j hj
    cases hmem.mp hj with
    | inl hj => exact h.live_staged hj
    | inr hj => exact hj ▸ hlivei
  · intro j hj
    cases hmem.mp hj with
    | inl hj =>
      rw [hentry (hstne hj)]
      exact (h.of_staged hj).imp (fun hs => ⟨hs.1, hother (hstne hj) hs.2.1, hs.2.2⟩) id
    | inr hj =>
      subst hj
      refine .inr ⟨by rw [hself], ?_, hself⟩
      rw [hself]
      exact (h₀.of_mem_list hi₀).2.2.2
  · intro l j hs
    rw [hslot] at hs
    split_ifs at hs with hl
    obtain ⟨hlj, hact⟩ := h.of_slot hs
    have hj : j ≠ i := by
      intro heq
      exact hl (by rw [← hlj, heq])
    rw [hentry hj]
    exact ⟨hlj, hact.imp (fun hj' => hmemList.mpr ⟨hj, hj'⟩)
      (fun hj' => ⟨hmem.mpr (.inl hj'.1), hj'.2⟩)⟩
  · intro m' j hj
    by_cases hji : j = i
    · exact .inr (hmem.mpr (.inr hji))
    · exact (h.gone hj).imp (fun hl => hmemList.mpr ⟨hji, hl⟩) (fun hl => hmem.mpr (.inl hl))
  · rw [hstaged']
    refine List.pairwise_append.mpr ⟨?_, by simp, ?_⟩
    · refine h.ordered.imp_of_mem ?_
      intro a b ha hb hab
      rw [hentry (hstne ha), hentry (hstne hb)]
      exact hab
    · intro a ha b hb hdel hlab
      rw [List.mem_singleton.mp hb, hloc, hentry (hstne ha)] at hlab
      -- an addition would still hold the key, and a deletion held it before the batch
      cases h.of_staged ha with
      | inl hs =>
        rw [hlab, hat] at hs
        exact hstne ha (Option.some.inj hs.2.1).symm
      | inr hs =>
        rw [hlab, heqi, (h₀.of_mem_list hi₀).2.2.2] at hs
        exact hstne ha (Option.some.inj hs.2.1).symm

/-- A removal finds nothing, or cancels a staged addition, or stages the deletion
of a committed entry. -/
theorem remove_cases (h₀ : WellFormed w₀) (h : Batch w₀ w) (m : ManId) (resType : ResType)
    (userKey : UInt32) :
    ∃ r, vmwCmdbufResRemove w m resType userKey = some r ∧
      ((w.slot (m, hashKey resType userKey) = none ∧ r = (-EINVAL, w)) ∨
        (∃ i, w.slot (m, hashKey resType userKey) = some i ∧ i ∈ w.staged ∧
          (w.entry i).state = .add ∧ r.1 = 0 ∧
          vmwCmdbufResFree w (w.entry i).man i = some r.2) ∨
        (∃ i, w.slot (m, hashKey resType userKey) = some i ∧ i ∈ w.list m ∧
          r = (0, w.stageDel m i))) := by
  unfold vmwCmdbufResRemove
  split
  case h_1 hfind => exact ⟨_, rfl, .inl ⟨hfind, rfl⟩⟩
  case h_2 i hfind =>
    have hs : w.slot (m, hashKey resType userKey) = some i := hfind
    obtain ⟨hloc, hact⟩ := h.of_slot hs
    have hman : (w.entry i).man = m := congrArg Prod.fst hloc
    rw [if_pos (h.live_of_slot hs)]
    cases hact with
    | inl hl =>
      rw [(h.state_of_mem_list h₀ hl).1]
      exact ⟨_, rfl, .inr (.inr ⟨i, hs, hl, rfl⟩)⟩
    | inr hl =>
      obtain ⟨w', hfree, -⟩ := h.free h₀ hl.1 hl.2
      rw [hl.2, ← hman, hfree]
      exact ⟨_, rfl, .inr (.inl ⟨i, hman ▸ hs, hl.1, hl.2, rfl, hfree⟩)⟩

theorem remove (h₀ : WellFormed w₀) (h : Batch w₀ w) (m : ManId) (resType : ResType)
    (userKey : UInt32) :
    ∃ r, vmwCmdbufResRemove w m resType userKey = some r ∧ Batch w₀ r.2 := by
  obtain ⟨r, hr, hcases⟩ := h.remove_cases h₀ m resType userKey
  refine ⟨r, hr, ?_⟩
  rcases hcases with ⟨-, rfl⟩ | ⟨i, -, hi, hadd, -, hfree⟩ | ⟨i, -, hi, rfl⟩
  · exact h
  · obtain ⟨w', hfree', hw'⟩ := h.free h₀ hi hadd
    rw [hfree] at hfree'
    cases hfree'
    exact hw'
  · exact h.stageDel h₀ hi

theorem action (h₀ : WellFormed w₀) (h : Batch w₀ w) (a : Action) :
    ∃ r, a.run w = some r ∧ Batch w₀ r.2 := by
  cases a with
  | add mem m resType userKey res => exact ⟨_, rfl, h.add mem m resType userKey res⟩
  | remove m resType userKey => exact h.remove h₀ m resType userKey

theorem runActions (h₀ : WellFormed w₀) (h : Batch w₀ w) (as : List Action) :
    ∃ w', runActions w as = some w' ∧ Batch w₀ w' := by
  induction as generalizing w with
  | nil => exact ⟨w, rfl, h⟩
  | cons a as ih =>
    obtain ⟨r, hr, hb⟩ := h.action h₀ a
    obtain ⟨w', hw', hb'⟩ := ih hb
    refine ⟨w', ?_, hb'⟩
    rw [← hw']
    simp [Cmdbuf.runActions, List.foldlM_cons, hr]

end Batch

end Vmwgfx.Cmdbuf
