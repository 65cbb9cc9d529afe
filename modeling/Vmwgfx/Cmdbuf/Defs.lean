import Vmwgfx.Hashtab
import Vmwgfx.Kernel

/-! The command buffer managed resources of `vmwgfx_cmdbuf_res.c`. -/

namespace Vmwgfx.Cmdbuf

open Vmwgfx.Hashtab

abbrev EntryId := Nat
abbrev ManId := Nat

/-- `enum vmw_cmdbuf_res_state`, with the source's spelling. -/
inductive ResState
  | commited | add | del
  deriving DecidableEq

/-- `enum vmw_cmdbuf_res_type`. -/
inductive ResType
  | compatShader
  deriving DecidableEq

def ResType.toUInt32 : ResType → UInt32
  | .compatShader => 0

/-- `struct vmw_cmdbuf_res`. -/
structure CmdbufRes where
  res : ResId
  key : Nat
  state : ResState
  man : ManId

/-- Where an entry hashes: its manager and its key. -/
def CmdbufRes.loc (e : CmdbufRes) : ManId × Nat := (e.man, e.key)

/-- `struct vmw_cmdbuf_res_manager`. -/
structure Manager (hashLong : HashLong) where
  resources : DrmOpenHash hashLong EntryId
  list : List EntryId

/-- All managers, the entries they share with one staging list, and the
resources' reference counts.  `live` holds of the entries that `kzalloc` handed
out and `kfree` has not taken back; `next` is the address it hands out next. -/
structure World (hashLong : HashLong) where
  entry : EntryId → CmdbufRes
  live : EntryId → Bool
  next : EntryId
  man : ManId → Manager hashLong
  kref : Krefs
  staged : List EntryId

variable {hashLong : HashLong}

/-- The entry a key looks up to. -/
def World.slot (w : World hashLong) (l : ManId × Nat) : Option EntryId :=
  (w.man l.1).resources.drmHtFindItem l.2

/-- The committed entries of a manager. -/
def World.list (w : World hashLong) (m : ManId) : List EntryId := (w.man m).list

def World.setMan (w : World hashLong) (m : ManId) (man : Manager hashLong) : World hashLong :=
  { w with man := Function.update w.man m man }

def World.setState (w : World hashLong) (i : EntryId) (state : ResState) : World hashLong :=
  { w with entry := Function.update w.entry i { w.entry i with state := state } }

def World.kfree (w : World hashLong) (i : EntryId) : World hashLong :=
  { w with live := Function.update w.live i false }

def World.unref (w : World hashLong) (r : ResId) : World hashLong :=
  { w with kref := vmwResourceUnreference w.kref r }

/-- `list_del(&entry->head)`: an entry's list head is on the staging list or
on its own manager's list. -/
def World.listDel (w : World hashLong) (i : EntryId) : World hashLong :=
  let m := (w.entry i).man
  { w with
    staged := w.staged.erase i
    man := Function.update w.man m { w.man m with list := (w.man m).list.erase i } }

/-- `list_add_tail(&entry->head, &man->list)`. -/
def World.listAddTail (w : World hashLong) (m : ManId) (i : EntryId) : World hashLong :=
  w.setMan m { w.man m with list := (w.man m).list ++ [i] }

def World.htRemove (w : World hashLong) (m : ManId) (i : EntryId) : World hashLong :=
  w.setMan m
    { w.man m with resources := (w.man m).resources.drmHtRemoveItem (w.entry i).key i }

def hashKey (resType : ResType) (userKey : UInt32) : Nat :=
  (userKey ||| (resType.toUInt32 <<< 24)).toNat

/-- The outer `Option` is an oops: a `BUG()` or a use after free. -/
def vmwCmdbufResLookup (w : World hashLong) (m : ManId) (resType : ResType)
    (userKey : UInt32) : Option (Except Int ResId × World hashLong) :=
  match (w.man m).resources.drmHtFindItem (hashKey resType userKey) with
  | none => some (.error (-EINVAL), w)
  | some i =>
    if w.live i then
      some (.ok (w.entry i).res,
        { w with kref := vmwResourceReference w.kref (w.entry i).res })
    else none

def vmwCmdbufResFree (w : World hashLong) (m : ManId) (i : EntryId) :
    Option (World hashLong) :=
  if w.live i then
    some ((((w.listDel i).htRemove m i).unref (w.entry i).res).kfree i)
  else none

def commitEntry (w : World hashLong) (i : EntryId) : Option (World hashLong) :=
  if w.live i then
    match (w.entry i).state with
    | .add => some (((w.listDel i).setState i .commited).listAddTail (w.entry i).man i)
    | .del => some (((w.listDel i).unref (w.entry i).res).kfree i)
    | .commited => none
  else none

/-- The walk is `list_for_each_entry_safe`: each round only takes its own entry
off the list. -/
def vmwCmdbufResCommit (w : World hashLong) : Option (World hashLong) :=
  w.staged.foldlM commitEntry w

/-- `drm_ht_insert_item` with its result ignored. -/
def World.htInsertIgnore (w : World hashLong) (m : ManId) (i : EntryId) : World hashLong :=
  match (w.man m).resources.drmHtInsertItem (w.entry i).key i with
  | none => w
  | some ht => w.setMan m { w.man m with resources := ht }

def revertEntry (w : World hashLong) (i : EntryId) : Option (World hashLong) :=
  if w.live i then
    let m := (w.entry i).man
    match (w.entry i).state with
    | .add => vmwCmdbufResFree w m i
    | .del => some ((((w.htInsertIgnore m i).listDel i).listAddTail m i).setState i .commited)
    | .commited => none
  else none

def vmwCmdbufResRevert (w : World hashLong) : Option (World hashLong) :=
  w.staged.foldlM revertEntry w

/-- `mem` is the outcome of the `kzalloc`.  The entry of a key that is taken
leaks: it is on no list and in no table. -/
def vmwCmdbufResAdd (w : World hashLong) (mem : Bool) (m : ManId) (resType : ResType)
    (userKey : UInt32) (res : ResId) : Int × World hashLong :=
  if mem then
    match (w.man m).resources.drmHtInsertItem (hashKey resType userKey) w.next with
    | none => (-EINVAL, w)
    | some ht =>
      (0,
        { entry := Function.update w.entry w.next
            ⟨res, hashKey resType userKey, .add, m⟩
          live := Function.update w.live w.next true
          next := w.next + 1
          man := Function.update w.man m { w.man m with resources := ht }
          kref := vmwResourceReference w.kref res
          staged := w.staged ++ [w.next] })
  else (-ENOMEM, w)

/-- Takes a committed entry out of the table and moves it to the staging list. -/
def World.stageDel (w : World hashLong) (m : ManId) (i : EntryId) : World hashLong :=
  let w := ((w.htRemove m i).listDel i).setState i .del
  { w with staged := w.staged ++ [i] }

def vmwCmdbufResRemove (w : World hashLong) (m : ManId) (resType : ResType)
    (userKey : UInt32) : Option (Int × World hashLong) :=
  match (w.man m).resources.drmHtFindItem (hashKey resType userKey) with
  | none => some (-EINVAL, w)
  | some i =>
    if w.live i then
      match (w.entry i).state with
      | .add => (vmwCmdbufResFree w m i).map (0, ·)
      | .commited => some (0, w.stageDel m i)
      | .del => none
    else none

section Updates

variable (w : World hashLong) (m : ManId) (i : EntryId)

@[simp] theorem entry_listDel : (w.listDel i).entry = w.entry := rfl
@[simp] theorem entry_listAddTail : (w.listAddTail m i).entry = w.entry := rfl
@[simp] theorem entry_htRemove : (w.htRemove m i).entry = w.entry := rfl
@[simp] theorem entry_unref (r : ResId) : (w.unref r).entry = w.entry := rfl
@[simp] theorem entry_kfree : (w.kfree i).entry = w.entry := rfl
@[simp] theorem entry_setState (s : ResState) :
    (w.setState i s).entry = Function.update w.entry i { w.entry i with state := s } := rfl

@[simp] theorem live_listDel : (w.listDel i).live = w.live := rfl
@[simp] theorem live_listAddTail : (w.listAddTail m i).live = w.live := rfl
@[simp] theorem live_htRemove : (w.htRemove m i).live = w.live := rfl
@[simp] theorem live_unref (r : ResId) : (w.unref r).live = w.live := rfl
@[simp] theorem live_kfree : (w.kfree i).live = Function.update w.live i false := rfl
@[simp] theorem live_setState (s : ResState) : (w.setState i s).live = w.live := rfl

@[simp] theorem next_listDel : (w.listDel i).next = w.next := rfl
@[simp] theorem next_listAddTail : (w.listAddTail m i).next = w.next := rfl
@[simp] theorem next_htRemove : (w.htRemove m i).next = w.next := rfl
@[simp] theorem next_unref (r : ResId) : (w.unref r).next = w.next := rfl
@[simp] theorem next_kfree : (w.kfree i).next = w.next := rfl
@[simp] theorem next_setState (s : ResState) : (w.setState i s).next = w.next := rfl

@[simp] theorem kref_listDel : (w.listDel i).kref = w.kref := rfl
@[simp] theorem kref_listAddTail : (w.listAddTail m i).kref = w.kref := rfl
@[simp] theorem kref_htRemove : (w.htRemove m i).kref = w.kref := rfl
@[simp] theorem kref_unref (r : ResId) :
    (w.unref r).kref = vmwResourceUnreference w.kref r := rfl
@[simp] theorem kref_kfree : (w.kfree i).kref = w.kref := rfl
@[simp] theorem kref_setState (s : ResState) : (w.setState i s).kref = w.kref := rfl

@[simp] theorem staged_listDel : (w.listDel i).staged = w.staged.erase i := rfl
@[simp] theorem staged_listAddTail : (w.listAddTail m i).staged = w.staged := rfl
@[simp] theorem staged_htRemove : (w.htRemove m i).staged = w.staged := rfl
@[simp] theorem staged_unref (r : ResId) : (w.unref r).staged = w.staged := rfl
@[simp] theorem staged_kfree : (w.kfree i).staged = w.staged := rfl
@[simp] theorem staged_setState (s : ResState) : (w.setState i s).staged = w.staged := rfl

@[simp] theorem list_listDel (m' : ManId) :
    (w.listDel i).list m' =
      if m' = (w.entry i).man then (w.list m').erase i else w.list m' := by
  by_cases h : m' = (w.entry i).man <;> simp [World.list, World.listDel, h]

@[simp] theorem list_listAddTail (m' : ManId) :
    (w.listAddTail m i).list m' = if m' = m then w.list m' ++ [i] else w.list m' := by
  by_cases h : m' = m <;> simp [World.list, World.listAddTail, World.setMan, h]

@[simp] theorem list_htRemove : (w.htRemove m i).list = w.list := by
  funext m'
  by_cases h : m' = m <;> simp [World.list, World.htRemove, World.setMan, h]

@[simp] theorem list_unref (r : ResId) : (w.unref r).list = w.list := rfl
@[simp] theorem list_kfree : (w.kfree i).list = w.list := rfl
@[simp] theorem list_setState (s : ResState) : (w.setState i s).list = w.list := rfl

@[simp] theorem slot_listDel : (w.listDel i).slot = w.slot := by
  funext l
  by_cases h : l.1 = (w.entry i).man <;> simp [World.slot, World.listDel, h]

@[simp] theorem slot_listAddTail : (w.listAddTail m i).slot = w.slot := by
  funext l
  by_cases h : l.1 = m <;> simp [World.slot, World.listAddTail, World.setMan, h]

@[simp] theorem slot_unref (r : ResId) : (w.unref r).slot = w.slot := rfl
@[simp] theorem slot_kfree : (w.kfree i).slot = w.slot := rfl
@[simp] theorem slot_setState (s : ResState) : (w.setState i s).slot = w.slot := rfl

variable {w m i}

theorem slot_htRemove (h : w.slot (m, (w.entry i).key) = some i) (l : ManId × Nat) :
    (w.htRemove m i).slot l = if l = (m, (w.entry i).key) then none else w.slot l := by
  by_cases hm : l.1 = m
  · simp only [World.slot, World.htRemove, World.setMan, hm, Function.update_self]
    rw [DrmOpenHash.find_remove h]
    simp [Prod.ext_iff, hm]
  · simp [World.slot, World.htRemove, World.setMan, hm, Prod.ext_iff]

theorem slot_insert {key : Nat} {ht : DrmOpenHash hashLong EntryId}
    (h : (w.man m).resources.drmHtInsertItem key i = some ht) (l : ManId × Nat) :
    (w.setMan m { w.man m with resources := ht }).slot l =
      if l = (m, key) then some i else w.slot l := by
  by_cases hm : l.1 = m
  · simp only [World.slot, World.setMan, hm, Function.update_self]
    rw [DrmOpenHash.find_insert h]
    simp [Prod.ext_iff, hm]
  · simp [World.slot, World.setMan, hm, Prod.ext_iff]

/-- Freeing an entry that is on no manager's list takes it off the staging list and
out of its table, and drops its reference. -/
theorem vmwCmdbufResFree_eq_some (hlive : w.live i) (hat : w.slot (w.entry i).loc = some i)
    (hnot : ∀ m, i ∉ w.list m) :
    ∃ w', vmwCmdbufResFree w (w.entry i).man i = some w' ∧
      (∀ l, w'.slot l = if l = (w.entry i).loc then none else w.slot l) ∧
      w'.list = w.list ∧ w'.staged = w.staged.erase i ∧ w'.entry = w.entry ∧
      w'.live = Function.update w.live i false ∧ w'.next = w.next ∧
      w'.kref = vmwResourceUnreference w.kref (w.entry i).res := by
  refine ⟨_, if_pos hlive, ?_, ?_, rfl, rfl, rfl, rfl, rfl⟩
  · intro l
    rw [slot_kfree, slot_unref, slot_htRemove (by simpa [CmdbufRes.loc] using hat),
      slot_listDel]
    rfl
  · funext m
    simp [List.erase_of_not_mem (hnot m)]

theorem stageDel_effect (hat : w.slot (w.entry i).loc = some i) (hman : (w.entry i).man = m)
    (hnot : i ∉ w.staged) :
    (∀ l, (w.stageDel m i).slot l = if l = (w.entry i).loc then none else w.slot l) ∧
      (∀ m', (w.stageDel m i).list m' = if m' = m then (w.list m').erase i else w.list m') ∧
      (w.stageDel m i).staged = w.staged ++ [i] ∧
      (w.stageDel m i).entry =
        Function.update w.entry i { w.entry i with state := .del } ∧
      (w.stageDel m i).live = w.live ∧ (w.stageDel m i).next = w.next ∧
      (w.stageDel m i).kref = w.kref := by
  have hat' : w.slot (m, (w.entry i).key) = some i := by
    rw [← hman]
    exact hat
  refine ⟨?_, ?_, ?_, rfl, rfl, rfl, rfl⟩
  · intro l
    have hrest : (w.stageDel m i).slot l = (w.htRemove m i).slot l :=
      congrFun (slot_listDel _ i) l
    rw [hrest, slot_htRemove hat', CmdbufRes.loc, hman]
  · intro m'
    have hrest := list_listDel (w.htRemove m i) i m'
    rw [list_htRemove, entry_htRemove, hman] at hrest
    exact hrest
  · simp [World.stageDel, List.erase_of_not_mem hnot]

theorem list_setMan_resources {ht : DrmOpenHash hashLong EntryId} :
    (w.setMan m { w.man m with resources := ht }).list = w.list := by
  funext m'
  by_cases h : m' = m <;> simp [World.list, World.setMan, h]

theorem vmwCmdbufResAdd_of_slot_ne_none {resType : ResType} {userKey : UInt32}
    (h : w.slot (m, hashKey resType userKey) ≠ none) (res : ResId) :
    vmwCmdbufResAdd w true m resType userKey res = (-EINVAL, w) := by
  have hins := (DrmOpenHash.drmHtInsertItem_eq_none_iff (w.man m).resources
    (hashKey resType userKey) w.next).mpr (Option.isSome_iff_ne_none.mpr h)
  simp [vmwCmdbufResAdd, hins]

theorem vmwCmdbufResAdd_of_slot_eq_none {resType : ResType} {userKey : UInt32}
    (h : w.slot (m, hashKey resType userKey) = none) (res : ResId) :
    ∃ w', vmwCmdbufResAdd w true m resType userKey res = (0, w') ∧
      (∀ l, w'.slot l = if l = (m, hashKey resType userKey) then some w.next else w.slot l) ∧
      w'.list = w.list ∧ w'.staged = w.staged ++ [w.next] ∧
      w'.entry = Function.update w.entry w.next ⟨res, hashKey resType userKey, .add, m⟩ ∧
      w'.live = Function.update w.live w.next true ∧ w'.next = w.next + 1 ∧
      w'.kref = vmwResourceReference w.kref res := by
  cases hins : (w.man m).resources.drmHtInsertItem (hashKey resType userKey) w.next with
  | none =>
    have htaken := (DrmOpenHash.drmHtInsertItem_eq_none_iff _ _ _).mp hins
    exact absurd h (Option.isSome_iff_ne_none.mp htaken)
  | some ht =>
    refine ⟨(vmwCmdbufResAdd w true m resType userKey res).2, ?_, ?_⟩
    all_goals simp only [vmwCmdbufResAdd, hins, if_true, true_and]
    exact ⟨slot_insert hins, list_setMan_resources, trivial⟩

theorem slot_htInsertIgnore (l : ManId × Nat) :
    (w.htInsertIgnore m i).slot l =
      if l = (m, (w.entry i).key) ∧ w.slot l = none then some i else w.slot l := by
  have hiff := DrmOpenHash.drmHtInsertItem_eq_none_iff (w.man m).resources (w.entry i).key i
  unfold World.htInsertIgnore
  cases hins : (w.man m).resources.drmHtInsertItem (w.entry i).key i with
  | none =>
    refine (if_neg ?_).symm
    intro hl
    have htaken := hiff.mp hins
    have hnone := hl.2
    rw [hl.1, World.slot] at hnone
    rw [hnone] at htaken
    cases htaken
  | some ht =>
    have hfree : w.slot (m, (w.entry i).key) = none := by simpa [hins, World.slot] using hiff
    change (w.setMan m { w.man m with resources := ht }).slot l = _
    rw [slot_insert hins]
    refine if_congr ?_ rfl rfl
    exact ⟨fun hl => ⟨hl, hl ▸ hfree⟩, And.left⟩

theorem htInsertIgnore_frame :
    (w.htInsertIgnore m i).list = w.list ∧ (w.htInsertIgnore m i).entry = w.entry ∧
    (w.htInsertIgnore m i).live = w.live ∧ (w.htInsertIgnore m i).kref = w.kref ∧
    (w.htInsertIgnore m i).staged = w.staged := by
  unfold World.htInsertIgnore
  cases (w.man m).resources.drmHtInsertItem (w.entry i).key i with
  | none => exact ⟨rfl, rfl, rfl, rfl, rfl⟩
  | some ht => exact ⟨list_setMan_resources, rfl, rfl, rfl, rfl⟩

end Updates

end Vmwgfx.Cmdbuf
