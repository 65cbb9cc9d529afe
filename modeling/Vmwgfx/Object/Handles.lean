import Vmwgfx.Object.Entry

/-! The handles of an open file: its references on each, and what they resolve to. -/

namespace Vmwgfx.Object

/-- The references a file holds on a handle. -/
def Table.held (t : Table) (tfile : TFile) (key : Handle) : Nat := ((t.refHash tfile key).map RefObject.kref).getD 0

/-- One reference more. -/
def grant (held : Handle → Nat) (key : Handle) : Handle → Nat := Function.update held key (held key + 1)

/-- A lookup of the handle finds the object. -/
def Resolves (t : Table) (tfile : TFile) (key : Handle) (base : ObjId) : Prop :=
  (ttmBaseObjectLookup t tfile key).map Prod.fst = some base

/-- Objects are registered under their handles, and references are to registered objects. -/
structure Table.Consistent (t : Table) : Prop where
  registered : ∀ key base, t.objectHash key = some base → (t.obj base).key = key ∧ (t.obj base).refcount ≠ 0
  referenced : ∀ tfile key ref, t.refHash tfile key = some ref → t.objectHash key = some ref.obj ∧ 0 < ref.kref

/-- A handle that is not registered has no references. -/
theorem Table.Consistent.refHash_none {t : Table} (h : t.Consistent) {key : Handle} (hkey : t.objectHash key = none)
    (tfile : TFile) : t.refHash tfile key = none := by
  cases href : t.refHash tfile key with
  | none => rfl
  | some ref =>
    have hreg := (h.referenced tfile key ref href).1
    rw [hkey] at hreg
    cases hreg

section Frame

variable {t : Table} {tfile : TFile} {key : Handle} {base b : ObjId}

@[simp] theorem setRefcount_refHash (t : Table) (base : ObjId) (n : Nat) : (t.setRefcount base n).refHash = t.refHash := rfl
@[simp] theorem setRefcount_objectHash (t : Table) (base : ObjId) (n : Nat) :
    (t.setRefcount base n).objectHash = t.objectHash := rfl
@[simp] theorem setInner_refHash (t : Table) (base : ObjId) (c : Container) (n : Int) :
    (t.setInner base c n).refHash = t.refHash := rfl
@[simp] theorem setInner_objectHash (t : Table) (base : ObjId) (c : Container) (n : Int) :
    (t.setInner base c n).objectHash = t.objectHash := rfl
@[simp] theorem setInner_obj (t : Table) (base : ObjId) (c : Container) (n : Int) : (t.setInner base c n).obj = t.obj := rfl
@[simp] theorem setRef_obj (t : Table) (tfile : TFile) (key : Handle) (ref : Option RefObject) :
    (t.setRef tfile key ref).obj = t.obj := rfl
@[simp] theorem setRef_objectHash (t : Table) (tfile : TFile) (key : Handle) (ref : Option RefObject) :
    (t.setRef tfile key ref).objectHash = t.objectHash := rfl

@[simp] theorem setRefcount_key (t : Table) (base b : ObjId) (n : Nat) :
    ((t.setRefcount base n).obj b).key = (t.obj b).key := by
  by_cases h : b = base
  · simp [Table.setRefcount, h]
  · simp [Table.setRefcount, h]

theorem setRefcount_obj_of_ne (h : b ≠ base) (n : Nat) : (t.setRefcount base n).obj b = t.obj b := by
  simp [Table.setRefcount, h]

@[simp] theorem ttmBaseObjectUnref_refHash (t : Table) (base : ObjId) : (ttmBaseObjectUnref t base).refHash = t.refHash := by
  unfold ttmBaseObjectUnref
  dsimp only
  split <;> rfl

theorem ttmBaseObjectUnref_obj_of_ne (h : b ≠ base) : (ttmBaseObjectUnref t base).obj b = t.obj b := by
  unfold ttmBaseObjectUnref
  dsimp only
  split
  · exact setRefcount_obj_of_ne h _
  · exact setRefcount_obj_of_ne h _

/-- Not the last reference. -/
theorem ttmBaseObjectUnref_of_lt (h : 1 < (t.obj base).refcount) :
    ttmBaseObjectUnref t base = t.setRefcount base ((t.obj base).refcount - 1) := by
  unfold ttmBaseObjectUnref
  dsimp only
  rw [if_neg (by omega)]

theorem krefGetUnlessZero_eq (h : (t.obj base).refcount ≠ 0) :
    krefGetUnlessZero t base = some (t.setRefcount base ((t.obj base).refcount + 1)) := if_neg h

theorem resolves_iff : Resolves t tfile key base ↔
    ∃ ref, t.refHash tfile key = some ref ∧ ref.obj = base ∧ (t.obj base).refcount ≠ 0 := by
  unfold Resolves ttmBaseObjectLookup
  cases href : t.refHash tfile key with
  | none => simp
  | some ref =>
    by_cases hcount : (t.obj ref.obj).refcount = 0
    · constructor
      · intro h
        simp [krefGetUnlessZero, hcount] at h
      · rintro ⟨ref', hsome, rfl, hne⟩
        cases hsome
        exact absurd hcount hne
    · rw [Option.bind_some, krefGetUnlessZero_eq hcount]
      constructor
      · intro h
        cases h
        exact ⟨ref, rfl, rfl, hcount⟩
      · rintro ⟨ref', hsome, rfl, hne⟩
        cases hsome
        rfl

theorem ttmBaseObjectLookupForRef_some {t' : Table} :
    ttmBaseObjectLookupForRef t key = some (base, t') ↔
      t.objectHash key = some base ∧ (t.obj base).refcount ≠ 0 ∧ t' = t.setRefcount base ((t.obj base).refcount + 1) := by
  unfold ttmBaseObjectLookupForRef
  constructor
  · intro h
    obtain ⟨b, hb, hget⟩ := Option.bind_eq_some_iff.mp h
    obtain ⟨s, hs, heq⟩ := Option.map_eq_some_iff.mp hget
    cases heq
    exact ⟨hb, krefGetUnlessZero_some hs⟩
  · rintro ⟨hbase, hcount, rfl⟩
    rw [hbase, Option.bind_some, krefGetUnlessZero_eq hcount]
    rfl

end Frame

section Count

/-- What `ttm_ref_object_add` makes of the entry of a handle. -/
def addRef (base : ObjId) : Option RefObject → RefObject
  | some ref => { ref with kref := ref.kref + 1 }
  | none => ⟨base, 1⟩

/-- And `ttm_ref_object_base_unref`. -/
def dropRef : Option RefObject → Option RefObject
  | some ref => if ref.kref ≤ 1 then none else some { ref with kref := ref.kref - 1 }
  | none => none

variable {t : Table} {tfile : TFile} {base b : ObjId} {alloc : Int} {key : Handle}

theorem dropRef_addRef {entry : Option RefObject} (h : ∀ ref, entry = some ref → 0 < ref.kref) :
    dropRef (some (addRef base entry)) = entry := by
  cases entry with
  | none => rfl
  | some ref =>
    have hpos := h ref rfl
    have hgt : ¬ ref.kref + 1 ≤ 1 := by omega
    simp [addRef, dropRef, hgt]

/-- The file may reference the object, and a reference object can be allocated where it needs one. -/
def MayAdd (t : Table) (tfile : TFile) (base : ObjId) (alloc : Int) : Prop :=
  ((t.obj base).tfile = tfile ∨ (t.obj base).shareable = true) ∧ (t.refHash tfile (t.obj base).key = none → alloc = 0)

/-- An added reference is counted at the handle, and a first one counts for the object. -/
theorem ttmRefObjectAdd_eq (h : MayAdd t tfile base alloc) :
    ttmRefObjectAdd t tfile base alloc =
      let t' := t.setRef tfile (t.obj base).key (some (addRef base (t.refHash tfile (t.obj base).key)))
      (0, if t.refHash tfile (t.obj base).key = none then t'.setRefcount base ((t.obj base).refcount + 1) else t') := by
  obtain ⟨hown, halloc⟩ := h
  have hnot : ¬ ((t.obj base).tfile ≠ tfile ∧ (t.obj base).shareable = false) := by
    rintro ⟨hne, hfalse⟩
    rcases hown with h | h
    · exact hne h
    · rw [hfalse] at h
      cases h
  unfold ttmRefObjectAdd
  dsimp only
  rw [if_neg hnot]
  cases href : t.refHash tfile (t.obj base).key with
  | some ref => rfl
  | none => simp [halloc href, addRef]

theorem ttmRefObjectAdd_refused (h : ¬ MayAdd t tfile base alloc) :
    ttmRefObjectAdd t tfile base alloc = (-EPERM, t) ∨ alloc ≠ 0 ∧ ttmRefObjectAdd t tfile base alloc = (alloc, t) := by
  unfold ttmRefObjectAdd
  dsimp only
  by_cases hforeign : (t.obj base).tfile ≠ tfile ∧ (t.obj base).shareable = false
  · exact .inl (if_pos hforeign)
  · have hown : (t.obj base).tfile = tfile ∨ (t.obj base).shareable = true := by
      by_cases hfile : (t.obj base).tfile = tfile
      · exact .inl hfile
      · exact .inr (Bool.not_eq_false _ ▸ fun hfalse => hforeign ⟨hfile, hfalse⟩)
    have hneeds : ¬ (t.refHash tfile (t.obj base).key = none → alloc = 0) := fun halloc => h ⟨hown, halloc⟩
    obtain ⟨hnone, hne⟩ := Classical.not_imp.mp hneeds
    rw [if_neg hforeign, hnone]
    exact .inr ⟨hne, if_pos hne⟩

theorem ttmRefObjectAdd_ret (t : Table) (tfile : TFile) (base : ObjId) (alloc : Int) :
    (ttmRefObjectAdd t tfile base alloc).1 = 0 ↔ MayAdd t tfile base alloc := by
  constructor
  · intro hret
    by_contra h
    rcases ttmRefObjectAdd_refused h with heq | ⟨hne, heq⟩
    · rw [heq] at hret
      exact absurd hret (by decide : -EPERM ≠ 0)
    · rw [heq] at hret
      exact hne hret
  · intro h
    rw [ttmRefObjectAdd_eq h]

theorem ttmRefObjectAdd_added (h : MayAdd t tfile base alloc) :
    (ttmRefObjectAdd t tfile base alloc).2 =
      let t' := t.setRef tfile (t.obj base).key (some (addRef base (t.refHash tfile (t.obj base).key)))
      if t.refHash tfile (t.obj base).key = none then t'.setRefcount base ((t.obj base).refcount + 1) else t' := by
  rw [ttmRefObjectAdd_eq h]

theorem ttmRefObjectAdd_failed (h : (ttmRefObjectAdd t tfile base alloc).1 ≠ 0) :
    (ttmRefObjectAdd t tfile base alloc).2 = t := by
  rcases ttmRefObjectAdd_refused (mt (ttmRefObjectAdd_ret t tfile base alloc).mpr h) with heq | ⟨-, heq⟩
  · rw [heq]
  · rw [heq]

theorem ttmRefObjectAdd_neg (halloc : alloc ≤ 0) (h : (ttmRefObjectAdd t tfile base alloc).1 ≠ 0) :
    (ttmRefObjectAdd t tfile base alloc).1 < 0 := by
  rcases ttmRefObjectAdd_refused (mt (ttmRefObjectAdd_ret t tfile base alloc).mpr h) with heq | ⟨hne, heq⟩
  · rw [heq]
    exact (by decide : -EPERM < 0)
  · rw [heq]
    exact lt_of_le_of_ne halloc hne

theorem ttmRefObjectAdd_refHash (h : MayAdd t tfile base alloc) :
    (ttmRefObjectAdd t tfile base alloc).2.refHash =
      (t.setRef tfile (t.obj base).key (some (addRef base (t.refHash tfile (t.obj base).key)))).refHash := by
  rw [ttmRefObjectAdd_added h]
  dsimp only
  split <;> rfl

@[simp] theorem ttmRefObjectAdd_objectHash (t : Table) (tfile : TFile) (base : ObjId) (alloc : Int) :
    (ttmRefObjectAdd t tfile base alloc).2.objectHash = t.objectHash := by
  by_cases h : MayAdd t tfile base alloc
  · rw [ttmRefObjectAdd_added h]
    dsimp only
    split <;> rfl
  · rw [ttmRefObjectAdd_failed (mt (ttmRefObjectAdd_ret t tfile base alloc).mp h)]

theorem ttmRefObjectAdd_obj_of_ne (h : b ≠ base) : (ttmRefObjectAdd t tfile base alloc).2.obj b = t.obj b := by
  by_cases hadd : MayAdd t tfile base alloc
  · rw [ttmRefObjectAdd_added hadd]
    dsimp only
    split
    · exact setRefcount_obj_of_ne h _
    · rfl
  · rw [ttmRefObjectAdd_failed (mt (ttmRefObjectAdd_ret t tfile base alloc).mp hadd)]

theorem ttmRefObjectAdd_refcount_le (t : Table) (tfile : TFile) (base : ObjId) (alloc : Int) :
    (t.obj base).refcount ≤ ((ttmRefObjectAdd t tfile base alloc).2.obj base).refcount := by
  by_cases hadd : MayAdd t tfile base alloc
  · rw [ttmRefObjectAdd_added hadd]
    dsimp only
    split
    · rw [Table.setRefcount_refcount]
      exact Nat.le_succ _
    · exact le_rfl
  · rw [ttmRefObjectAdd_failed (mt (ttmRefObjectAdd_ret t tfile base alloc).mp hadd)]

theorem ttmRefObjectBaseUnref_refHash (t : Table) (tfile : TFile) (key : Handle) :
    (ttmRefObjectBaseUnref t tfile key).2.refHash = (t.setRef tfile key (dropRef (t.refHash tfile key))).refHash := by
  unfold ttmRefObjectBaseUnref
  cases href : t.refHash tfile key with
  | none =>
    simp only [dropRef, Table.setRef]
    rw [← href, Function.update_eq_self, Function.update_eq_self]
  | some ref =>
    dsimp only
    unfold dropRef
    dsimp only
    split
    · simp
    · rfl

/-- Dropping the reference that was added leaves the references as they were. -/
theorem refHash_unref_add {t' : Table}
    (hadd : t'.refHash = (t.setRef tfile key (some (addRef base (t.refHash tfile key)))).refHash)
    (hpos : ∀ ref, t.refHash tfile key = some ref → 0 < ref.kref) :
    (ttmRefObjectBaseUnref t' tfile key).2.refHash = t.refHash := by
  have hentry : t'.refHash tfile key = some (addRef base (t.refHash tfile key)) := by
    rw [hadd]
    simp [Table.setRef]
  rw [ttmRefObjectBaseUnref_refHash, hentry, dropRef_addRef hpos]
  simp only [Table.setRef, hadd, Function.update_self, Function.update_idem, Function.update_eq_self]

theorem held_setRef_addRef (t : Table) (tfile : TFile) (base : ObjId) (key : Handle) :
    (t.setRef tfile key (some (addRef base (t.refHash tfile key)))).held tfile = grant (t.held tfile) key := by
  funext h
  unfold Table.held grant Table.setRef
  by_cases heq : h = key
  · subst heq
    cases href : t.refHash tfile h with
    | none => simp [addRef, href]
    | some ref => simp [addRef, href]
  · simp [heq]

theorem held_congr {t t' : Table} (h : t.refHash = t'.refHash) : t.held = t'.held := by
  unfold Table.held
  rw [h]

theorem ttmRefObjectAdd_held (h : MayAdd t tfile base alloc) :
    (ttmRefObjectAdd t tfile base alloc).2.held tfile = grant (t.held tfile) (t.obj base).key := by
  rw [held_congr (ttmRefObjectAdd_refHash h), held_setRef_addRef]

/-- After a reference was added the handle is that of the object unless it was that of another. -/
theorem resolves_ttmRefObjectAdd (h : MayAdd t tfile base alloc)
    (hlive : ∀ ref, t.refHash tfile (t.obj base).key = some ref → (t.obj ref.obj).refcount ≠ 0) :
    Resolves (ttmRefObjectAdd t tfile base alloc).2 tfile (t.obj base).key base ↔
      ∀ ref, t.refHash tfile (t.obj base).key = some ref → ref.obj = base := by
  rw [resolves_iff, ttmRefObjectAdd_added h]
  dsimp only
  cases href : t.refHash tfile (t.obj base).key with
  | none => simp [addRef, Table.setRef, Table.setRefcount]
  | some ref =>
    have hcount := hlive ref href
    constructor
    · rintro ⟨ref', hentry, hobj, -⟩ r hr
      cases hr
      have heq : addRef base (some ref) = ref' := by simpa [Table.setRef] using hentry
      rw [← hobj, ← heq]
      rfl
    · intro hsame
      obtain rfl := hsame ref rfl
      exact ⟨addRef ref.obj (some ref), by simp [Table.setRef], rfl, hcount⟩

end Count

end Vmwgfx.Object
