import Vmwgfx.Cmdbuf.Batch

/-! The map a batch makes of the keys, followed action by action. -/

namespace Vmwgfx.Cmdbuf

open Vmwgfx.Hashtab

variable {hashLong : HashLong}

/-- Whose entry a key finds: one committed before the batch or one staged by it. -/
inductive Holder
  | old | staged
  deriving DecidableEq

/-- What the keys are bound to, as a map. -/
abbrev Bindings := ManId × Nat → Option (Holder × ResId)

/-- The map an action leaves behind. -/
def Action.track (b : Bindings) : Action → Bindings
  | .add mem m resType userKey res =>
    if mem ∧ b (m, hashKey resType userKey) = none then
      Function.update b (m, hashKey resType userKey) (some (.staged, res))
    else b
  | .remove m resType userKey => Function.update b (m, hashKey resType userKey) none

@[simp]
theorem Action.track_add (b : Bindings) (mem : Bool) (m : ManId) (resType : ResType)
    (userKey : UInt32) (res : ResId) : (Action.add mem m resType userKey res).track b =
      if mem ∧ b (m, hashKey resType userKey) = none then
        Function.update b (m, hashKey resType userKey) (some (.staged, res))
      else b :=
  rfl

@[simp]
theorem Action.track_remove (b : Bindings) (m : ManId) (resType : ResType) (userKey : UInt32) :
    (Action.remove m resType userKey).track b =
      Function.update b (m, hashKey resType userKey) none :=
  rfl

def World.bindings (w : World hashLong) : Bindings := fun l =>
  (w.slot l).map (fun i => (if i ∈ w.staged then .staged else .old, (w.entry i).res))

section Track

variable {w₀ w : World hashLong}

theorem bindings_eq_none_iff {l : ManId × Nat} : w.bindings l = none ↔ w.slot l = none := by
  simp [World.bindings]

/-- Taking a key's entry out of the table takes the key out of the map, whatever
happens to that entry. -/
theorem bindings_unbind {w' : World hashLong} {i}
    (hslot : ∀ l, w'.slot l = if l = (w.entry i).loc then none else w.slot l)
    (hloc : ∀ {l j}, w.slot l = some j → (w.entry j).loc = l)
    (hstaged : ∀ j, j ≠ i → (j ∈ w'.staged ↔ j ∈ w.staged))
    (hres : ∀ j, (w'.entry j).res = (w.entry j).res) :
    w'.bindings = Function.update w.bindings (w.entry i).loc none := by
  funext l
  by_cases hl : l = (w.entry i).loc
  · simp [World.bindings, hslot, hl]
  · rw [Function.update_of_ne hl, World.bindings, World.bindings, hslot, if_neg hl]
    cases hs : w.slot l with
    | none => rfl
    | some j =>
      have hj : j ≠ i := fun hji => hl (hji ▸ (hloc hs).symm)
      simp [hstaged j hj, hres]

theorem Batch.bindings_add (h : Batch w₀ w) (mem : Bool) (m : ManId) (resType : ResType)
    (userKey : UInt32) (res : ResId) :
    (vmwCmdbufResAdd w mem m resType userKey res).2.bindings =
      (Action.add mem m resType userKey res).track w.bindings := by
  simp only [Action.track_add, bindings_eq_none_iff]
  cases mem with
  | false => simp [vmwCmdbufResAdd]
  | true =>
    by_cases hfree : w.slot (m, hashKey resType userKey) = none
    case neg => simp [vmwCmdbufResAdd_of_slot_ne_none hfree, hfree]
    obtain ⟨w', hadd, hslot, -, hstaged, hentry, -⟩ := vmwCmdbufResAdd_of_slot_eq_none hfree res
    rw [hadd, if_pos ⟨rfl, hfree⟩]
    funext l
    by_cases hl : l = (m, hashKey resType userKey)
    · simp [World.bindings, hslot, hl, hstaged, hentry]
    · rw [Function.update_of_ne hl, World.bindings, World.bindings, hslot, if_neg hl]
      cases hs : w.slot l with
      | none => rfl
      | some j =>
        have hj : j ≠ w.next := h.ne_next_of_live (h.live_of_slot hs)
        simp [hstaged, hentry, hj]

theorem Batch.bindings_remove (h₀ : WellFormed w₀) (h : Batch w₀ w) {m : ManId}
    {resType : ResType} {userKey : UInt32} {r : Int × World hashLong}
    (hr : vmwCmdbufResRemove w m resType userKey = some r) :
    r.2.bindings = (Action.remove m resType userKey).track w.bindings := by
  obtain ⟨r', hr', hcases⟩ := h.remove_cases h₀ m resType userKey
  rw [hr] at hr'
  cases hr'
  rw [Action.track_remove]
  rcases hcases with ⟨hs, rfl⟩ | ⟨i, hs, hi, hadd, -, hfree⟩ | ⟨i, hs, hi, rfl⟩
  · exact (Function.update_eq_self_iff.mpr (bindings_eq_none_iff.mpr hs).symm).symm
  · have hloc := (h.of_slot hs).1
    rw [← hloc] at hs ⊢
    obtain ⟨w', hfree', hslot, -, hstaged, hentry, -⟩ := vmwCmdbufResFree_eq_some
      (h.live_staged hi) hs (fun m hm => h.not_mem_staged h₀ hm hi)
    rw [hfree] at hfree'
    cases hfree'
    refine bindings_unbind hslot (fun hs => (h.of_slot hs).1) ?_ (fun j => by rw [hentry])
    intro j hj
    rw [hstaged, h.staged_nodup.mem_erase_iff]
    simp [hj]
  · have hloc := (h.of_slot hs).1
    rw [← hloc] at hs ⊢
    obtain ⟨hslot, -, hstaged, hentry, -⟩ := stageDel_effect hs
      (h.state_of_mem_list h₀ hi).2 (h.not_mem_staged h₀ hi)
    refine bindings_unbind hslot (fun hs => (h.of_slot hs).1) ?_ ?_
    · intro j hj
      simp [hstaged, hj]
    · intro j
      rw [hentry, Function.update_apply]
      split_ifs with hj
      · rw [hj]
      · rfl

theorem Batch.bindings_run (h₀ : WellFormed w₀) (h : Batch w₀ w) {a : Action}
    {r : Int × World hashLong} (hr : a.run w = some r) :
    r.2.bindings = a.track w.bindings := by
  cases a with
  | add mem m resType userKey res =>
    cases hr
    exact h.bindings_add mem m resType userKey res
  | remove m resType userKey => exact h.bindings_remove h₀ hr

theorem Batch.bindings_runActions (h₀ : WellFormed w₀) (h : Batch w₀ w) (as : List Action)
    {w' : World hashLong} (hrun : Cmdbuf.runActions w as = some w') :
    w'.bindings = as.foldl Action.track w.bindings := by
  induction as generalizing w with
  | nil =>
    cases hrun
    rfl
  | cons a as ih =>
    obtain ⟨r, hr, hb⟩ := h.action h₀ a
    simp only [Cmdbuf.runActions, List.foldlM_cons, hr, Option.map_some, Option.bind_eq_bind,
      Option.bind_some] at hrun
    rw [ih hb hrun, List.foldl_cons, h.bindings_run h₀ hr]

end Track

/-- Every staged addition holds one reference to its resource. -/
def Counted (w₀ w : World hashLong) : Prop :=
  ∀ r, w.kref r = w₀.kref r +
    w.staged.countP (fun i => (w.entry i).state = .add ∧ (w.entry i).res = r)

section Counted

variable {w₀ w : World hashLong}

theorem WellFormed.counted (h : WellFormed w₀) : Counted w₀ w₀ := by
  intro r
  simp [h.staged_nil]

theorem Counted.add (h : Batch w₀ w) (hc : Counted w₀ w) (mem : Bool) (m : ManId)
    (resType : ResType) (userKey : UInt32) (res : ResId) :
    Counted w₀ (vmwCmdbufResAdd w mem m resType userKey res).2 := by
  cases mem with
  | false => exact hc
  | true =>
    by_cases hfree : w.slot (m, hashKey resType userKey) = none
    case neg =>
      rw [vmwCmdbufResAdd_of_slot_ne_none hfree]
      exact hc
    obtain ⟨w', hadd, -, -, hstaged, hentry, -, -, hkref⟩ :=
      vmwCmdbufResAdd_of_slot_eq_none hfree res
    rw [hadd]
    intro r
    have hold : w.staged.countP (fun i => (w'.entry i).state = .add ∧ (w'.entry i).res = r) =
        w.staged.countP (fun i => (w.entry i).state = .add ∧ (w.entry i).res = r) := by
      refine List.countP_congr ?_
      intro i hi
      rw [hentry, Function.update_of_ne (h.ne_next_of_live (h.live_staged hi))]
    rw [hkref, vmwResourceReference_apply, hc, hstaged, List.countP_append, hold,
      List.countP_singleton, hentry, Function.update_self]
    simp [Nat.add_assoc]

theorem Counted.free (h₀ : WellFormed w₀) (h : Batch w₀ w) (hc : Counted w₀ w) {i}
    (hi : i ∈ w.staged) (hadd : (w.entry i).state = .add) {w' : World hashLong}
    (hw' : vmwCmdbufResFree w (w.entry i).man i = some w') : Counted w₀ w' := by
  obtain ⟨w'', hfree, -, -, hstaged, hentry, -, -, hkref⟩ :=
    vmwCmdbufResFree_eq_some (h.live_staged hi) (h.slot_of_active (m := 0) (.inr ⟨hi, hadd⟩))
      (fun m hm => h.not_mem_staged h₀ hm hi)
  rw [hfree] at hw'
  cases hw'
  intro r
  rw [hkref, vmwResourceUnreference_apply, hc, hstaged, hentry, List.countP_erase]
  split_ifs with hr hcond hcond
  · have hpos : 0 < w.staged.countP
        (fun j => (w.entry j).state = .add ∧ (w.entry j).res = r) :=
      List.countP_pos_iff.mpr ⟨i, hi, by simpa using hcond.2⟩
    exact Nat.add_sub_assoc hpos _
  · exact absurd ⟨hi, by simp [hadd, hr]⟩ hcond
  · simp only [decide_eq_true_eq] at hcond
    exact absurd hcond.2.2 hr
  · rfl

theorem Counted.stageDel (h₀ : WellFormed w₀) (h : Batch w₀ w) (hc : Counted w₀ w) {m i}
    (hi : i ∈ w.list m) : Counted w₀ (w.stageDel m i) := by
  have hns := h.not_mem_staged h₀ hi
  obtain ⟨-, -, hstaged, hentry, -, -, hkref⟩ :=
    stageDel_effect (h.of_mem_list hi).2.2.2 (h.state_of_mem_list h₀ hi).2 hns
  intro r
  have hold : w.staged.countP
        (fun j => ((w.stageDel m i).entry j).state = .add ∧ ((w.stageDel m i).entry j).res = r) =
      w.staged.countP (fun j => (w.entry j).state = .add ∧ (w.entry j).res = r) := by
    refine List.countP_congr ?_
    intro j hj
    have hji : j ≠ i := fun heq => hns (heq ▸ hj)
    rw [hentry, Function.update_of_ne hji]
  rw [hkref, hc, hstaged, List.countP_append, hold, List.countP_singleton, hentry,
    Function.update_self]
  simp

theorem Counted.action (h₀ : WellFormed w₀) (h : Batch w₀ w) (hc : Counted w₀ w) {a : Action}
    {r : Int × World hashLong} (hr : a.run w = some r) : Counted w₀ r.2 := by
  cases a with
  | add mem m resType userKey res =>
    cases hr
    exact hc.add h mem m resType userKey res
  | remove m resType userKey =>
    obtain ⟨r', hr', hcases⟩ := h.remove_cases h₀ m resType userKey
    have heq := hr'.symm.trans hr
    cases heq
    rcases hcases with ⟨-, rfl⟩ | ⟨i, -, hi, hadd, -, hfree⟩ | ⟨i, -, hi, rfl⟩
    · exact hc
    · exact hc.free h₀ h hi hadd hfree
    · exact hc.stageDel h₀ h hi

theorem Counted.runActions (h₀ : WellFormed w₀) (h : Batch w₀ w) (hc : Counted w₀ w)
    (as : List Action) {w' : World hashLong} (hrun : Cmdbuf.runActions w as = some w') :
    Counted w₀ w' := by
  induction as generalizing w with
  | nil =>
    cases hrun
    exact hc
  | cons a as ih =>
    obtain ⟨r, hr, hb⟩ := h.action h₀ a
    simp only [Cmdbuf.runActions, List.foldlM_cons, hr, Option.map_some, Option.bind_eq_bind,
      Option.bind_some] at hrun
    exact ih hb (hc.action h₀ h hr) hrun

end Counted

end Vmwgfx.Cmdbuf
