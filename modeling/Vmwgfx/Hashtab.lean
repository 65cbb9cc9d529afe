import Vmwgfx.Lib.Chain
import Mathlib.Logic.Function.Basic

/-! The open hash table of `drm_hashtab.c`, with `hash_long` left abstract. -/

universe u

namespace Vmwgfx.Hashtab

open Vmwgfx.Lib

/-- `hash_long key order`, from the kernel's `linux/hash.h`. -/
abbrev HashLong := Nat → Nat → Nat

/-- `struct drm_open_hash`.  The table is an array of `2 ^ order` list heads;
every item hangs on the bucket of its own key, in ascending key order. -/
structure DrmOpenHash (hashLong : HashLong) (ι : Type u) where
  order : Nat
  fill : Nat
  table : Nat → Chain Nat ι
  sorted : ∀ b, (table b).Sorted
  placed : ∀ b e, e ∈ table b → hashLong e.1 order = b

namespace DrmOpenHash

variable {hashLong : HashLong} {ι : Type u}

def drmHtCreate (order : Nat) : DrmOpenHash hashLong ι where
  order := order
  fill := 0
  table := fun _ => []
  sorted := fun _ => Chain.sorted_nil
  placed := by simp

def bucket (ht : DrmOpenHash hashLong ι) (key : Nat) : Chain Nat ι :=
  ht.table (hashLong key ht.order)

def drmHtFindItem (ht : DrmOpenHash hashLong ι) (key : Nat) : Option ι :=
  Chain.find key (ht.bucket key)

theorem sorted_bucket (ht : DrmOpenHash hashLong ι) (key : Nat) : (ht.bucket key).Sorted :=
  ht.sorted _

theorem placed_bucket {ht : DrmOpenHash hashLong ι} {key : Nat} {e : Nat × ι}
    (he : e ∈ ht.bucket key) : hashLong e.1 ht.order = hashLong key ht.order :=
  ht.placed _ e he

/-- Replaces the bucket of `key`. -/
def setBucket (ht : DrmOpenHash hashLong ι) (key : Nat) (c : Chain Nat ι) (fill : Nat)
    (sorted : c.Sorted)
    (placed : ∀ e ∈ c, hashLong e.1 ht.order = hashLong key ht.order) :
    DrmOpenHash hashLong ι where
  order := ht.order
  fill := fill
  table := Function.update ht.table (hashLong key ht.order) c
  sorted := fun b => by
    by_cases hb : b = hashLong key ht.order
    · simpa [hb] using sorted
    · simpa [hb] using ht.sorted b
  placed := fun b e he => by
    by_cases hb : b = hashLong key ht.order
    · subst hb
      exact placed e (by simpa using he)
    · rw [Function.update_of_ne hb] at he
      exact ht.placed b e he

theorem bucket_setBucket {ht : DrmOpenHash hashLong ι} {key : Nat} {c : Chain Nat ι}
    {fill : Nat} {hs : c.Sorted} {hp} (key' : Nat) :
    (ht.setBucket key c fill hs hp).bucket key' =
      if hashLong key' ht.order = hashLong key ht.order then c else ht.bucket key' := by
  simp only [bucket, setBucket, Function.update_apply]

/-- `none` is the `-EINVAL` of a key that is already on its bucket. -/
def drmHtInsertItem (ht : DrmOpenHash hashLong ι) (key : Nat) (item : ι) :
    Option (DrmOpenHash hashLong ι) :=
  match h : Chain.insert key item (ht.bucket key) with
  | none => none
  | some c => some <| ht.setBucket key c (ht.fill + 1)
      (Chain.sorted_insert h (ht.sorted_bucket key))
      (fun e he => by
        rcases (Chain.mem_insert h).mp he with rfl | he
        · rfl
        · exact placed_bucket he)

theorem drmHtInsertItem_eq_none_iff (ht : DrmOpenHash hashLong ι) (key : Nat) (item : ι) :
    ht.drmHtInsertItem key item = none ↔ (ht.drmHtFindItem key).isSome := by
  rw [drmHtFindItem, ← Chain.insert_eq_none_iff (v := item) (ht.sorted_bucket key),
    drmHtInsertItem]
  split <;> simp_all

theorem find_insert {ht ht' : DrmOpenHash hashLong ι} {key : Nat} {item : ι}
    (h : ht.drmHtInsertItem key item = some ht') (key' : Nat) :
    ht'.drmHtFindItem key' = if key' = key then some item else ht.drmHtFindItem key' := by
  rw [drmHtInsertItem] at h
  split at h
  · cases h
  · rename_i c hc
    simp only [Option.some.injEq] at h
    subst h
    rw [drmHtFindItem, bucket_setBucket]
    split_ifs with hb hk hk
    · rw [Chain.find_insert (ht.sorted_bucket key) hc, if_pos hk]
    · rw [Chain.find_insert (ht.sorted_bucket key) hc, if_neg hk, drmHtFindItem, bucket,
        bucket, hb]
    · exact absurd (by rw [hk]) hb
    · rfl

variable [DecidableEq ι]

/-- Unhashes the item; `fill` drops even when the item was not hashed. -/
def drmHtRemoveItem (ht : DrmOpenHash hashLong ι) (key : Nat) (item : ι) :
    DrmOpenHash hashLong ι :=
  ht.setBucket key (Chain.unlink key item (ht.bucket key)) (ht.fill - 1)
    (Chain.sorted_unlink (ht.sorted_bucket key) key item)
    (fun _ he => placed_bucket (Chain.mem_unlink.mp he).1)

theorem find_remove {ht : DrmOpenHash hashLong ι} {key : Nat} {item : ι}
    (h : ht.drmHtFindItem key = some item) (key' : Nat) :
    (ht.drmHtRemoveItem key item).drmHtFindItem key' =
      if key' = key then none else ht.drmHtFindItem key' := by
  rw [drmHtFindItem, drmHtRemoveItem, bucket_setBucket]
  split_ifs with hb hk hk
  · rw [Chain.find_unlink (ht.sorted_bucket key) h, if_pos hk]
  · rw [Chain.find_unlink (ht.sorted_bucket key) h, if_neg hk, drmHtFindItem, bucket, bucket, hb]
  · exact absurd (by rw [hk]) hb
  · rfl

omit [DecidableEq ι]

/-- The items hashed under a key, as a relation. -/
def Hashed (ht : DrmOpenHash hashLong ι) (key : Nat) (item : ι) : Prop :=
  ∃ b, (key, item) ∈ ht.table b

theorem hashed_iff {ht : DrmOpenHash hashLong ι} {key : Nat} {item : ι} :
    ht.Hashed key item ↔ ht.drmHtFindItem key = some item := by
  rw [drmHtFindItem, bucket, Chain.find_eq_some_iff (ht.sorted _)]
  constructor
  · rintro ⟨b, hb⟩
    rw [ht.placed b _ hb]
    exact hb
  · exact fun h => ⟨_, h⟩

end DrmOpenHash

end Vmwgfx.Hashtab
