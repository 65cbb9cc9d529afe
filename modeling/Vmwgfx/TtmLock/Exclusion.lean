import Mathlib.Data.Fintype.Card
import Vmwgfx.Lib.Count
import Vmwgfx.TtmLock.Defs

/-! Who may hold the lock beside whom. -/

universe u

namespace Vmwgfx.TtmLock

open Lib

namespace Lock

variable (l : Lock)

/-- The condition that a thread waits for in each mode, `kill_takers` aside. -/
def Ready : Mode → Prop
  | .read => 0 ≤ l.rw ∧ l.flags = ∅
  | .write => l.rw = 0 ∧ l.flags.erase .writeLockPending = ∅
  | .vt | .suspend => l.rw = 0

/-- The lock once it is taken. -/
def taken : Mode → Lock
  | .read => { l with rw := l.rw + 1 }
  | .write => { l with rw := -1, flags := l.flags.erase .writeLockPending }
  | .vt => { l with flags := insert .vtLock (l.flags.erase .vtLockPending) }
  | .suspend => { l with flags := insert .suspendLock (l.flags.erase .suspendLockPending) }

end Lock

/-- The bit that a waiting thread sets. -/
def Mode.pending : Mode → Option Flag
  | .read => none
  | .write => some .writeLockPending
  | .vt => some .vtLockPending
  | .suspend => some .suspendLockPending

namespace Lock

variable (l : Lock)

/-- The lock once a thread has found that it must wait for it. -/
def awaited (mode : Mode) : Lock :=
  match mode.pending with
  | some f => l.addFlag f
  | none => l

theorem specialLock_cases (pending taken : Flag) :
    (l.rw = 0 ∧ l.specialLock pending taken = ⟨true, false, { l with flags := insert taken (l.flags.erase pending) }⟩) ∨
      l.rw ≠ 0 ∧ l.specialLock pending taken = ⟨false, false, l.addFlag pending⟩ := by
  unfold specialLock
  split
  · rename_i h
    exact .inl ⟨h, rfl⟩
  · rename_i h
    exact .inr ⟨h, rfl⟩

/-- All that an evaluation of the condition can do. -/
theorem attempt_cases (mode : Mode) :
    (l.Ready mode ∧ l.attempt mode = ⟨true, false, l.taken mode⟩) ∨
      (l.attempt mode = ⟨false, true, l⟩) ∨
      ¬ l.Ready mode ∧ l.attempt mode = ⟨false, false, l.awaited mode⟩ := by
  cases mode with
  | read =>
    simp only [attempt, ttmReadLock, Ready]
    split_ifs with hkill h
    · exact .inr (.inl rfl)
    · exact .inl ⟨h, rfl⟩
    · exact .inr (.inr ⟨h, rfl⟩)
  | write =>
    simp only [attempt, ttmWriteLock, Ready]
    split_ifs with hkill h
    · exact .inr (.inl rfl)
    · exact .inl ⟨h, rfl⟩
    · exact .inr (.inr ⟨h, rfl⟩)
  | vt =>
    rcases l.specialLock_cases .vtLockPending .vtLock with ⟨h, heq⟩ | ⟨h, heq⟩
    · exact .inl ⟨h, heq⟩
    · exact .inr (.inr ⟨h, heq⟩)
  | suspend =>
    rcases l.specialLock_cases .suspendLockPending .suspendLock with ⟨h, heq⟩ | ⟨h, heq⟩
    · exact .inl ⟨h, heq⟩
    · exact .inr (.inr ⟨h, heq⟩)

end Lock

namespace Mode

/-- The modes that one thread at a time has to do with, and the bit of its holder. -/
def special : Mode → Option Flag
  | .vt => some .vtLock
  | .suspend => some .suspendLock
  | .read | .write => none

/-- Whether two threads may hold the lock at once. -/
def Compatible : Mode → Mode → Prop
  | .read, m => m = .read
  | .vt, m => m = .suspend
  | .suspend, m => m = .vt
  | .write, _ => False

end Mode

variable {ι : Type u}

section Sound

variable [Fintype ι]

def readers (held : ι → Option Mode) : Nat := (Finset.univ.filter fun t => held t = some .read).card

/-- The fields of the lock tell who holds it. -/
structure Sound (l : Lock) (held : ι → Option Mode) : Prop where
  count : (∀ t, held t ≠ some .write) → l.rw = readers held
  writer : ∀ t, held t = some .write → l.rw = -1 ∧ ∀ u m, held u = some m → u = t
  special : ∀ m f, m.special = some f → (f ∈ l.flags ↔ ∃ t, held t = some m)
  quiet : ∀ t m f, m.special = some f → held t = some m → l.rw = 0

variable {l l' : Lock} {held : ι → Option Mode} {t u : ι} {m m' : Mode}

/-- One thread at a time is named for each special mode. -/
def Once (named : ι → Option Mode) : Prop :=
  ∀ t u (m : Mode) f, m.special = some f → named t = some m → named u = some m → t = u

theorem readers_eq_zero : readers held = 0 ↔ ∀ t, held t ≠ some .read := by
  unfold readers
  rw [Finset.card_eq_zero, Finset.filter_eq_empty_iff]
  exact ⟨fun h t => h (Finset.mem_univ t), fun h t _ => h t⟩

namespace Sound

/-- Only the bits of the threads that wait have changed. -/
theorem congr (h : Sound l held) (hrw : l'.rw = l.rw)
    (hflags : ∀ (m : Mode) f, m.special = some f → (f ∈ l'.flags ↔ f ∈ l.flags)) : Sound l' held where
  count hnone := hrw.trans (h.count hnone)
  writer t ht := by
    rw [hrw]
    exact h.writer t ht
  special m f hm := (hflags m f hm).trans (h.special m f hm)
  quiet t m f hm ht := hrw.trans (h.quiet t m f hm ht)

theorem no_writer (h : Sound l held) (hrw : 0 ≤ l.rw) (t : ι) : held t ≠ some .write := by
  intro ht
  have := (h.writer t ht).1
  omega

/-- Nobody reads or writes while `rw` is 0. -/
theorem of_zero (h : Sound l held) (hrw : l.rw = 0) (ht : held t = some m) : ∃ f, m.special = some f := by
  have hreaders : readers held = 0 := by
    have := h.count (h.no_writer (le_of_eq hrw.symm))
    omega
  cases m with
  | read => exact absurd ht (readers_eq_zero.mp hreaders t)
  | write => exact absurd ht (h.no_writer (le_of_eq hrw.symm) t)
  | vt => exact ⟨_, rfl⟩
  | suspend => exact ⟨_, rfl⟩

/-- Nobody holds the lock in a special mode while the bits of these modes are down. -/
theorem ordinary (h : Sound l held) (hflags : ∀ (m : Mode) f, m.special = some f → f ∉ l.flags) (ht : held t = some m) :
    m = .read ∨ m = .write := by
  cases m with
  | read => exact .inl rfl
  | write => exact .inr rfl
  | vt => exact absurd ((h.special .vt _ rfl).mpr ⟨t, ht⟩) (hflags .vt _ rfl)
  | suspend => exact absurd ((h.special .suspend _ rfl).mpr ⟨t, ht⟩) (hflags .suspend _ rfl)

theorem compatible (h : Sound l held) (honce : Once held)
    (hne : t ≠ u) (ht : held t = some m) (hu : held u = some m') : m.Compatible m' := by
  cases m with
  | read =>
    cases m' with
    | read => rfl
    | write => exact absurd ((h.writer u hu).2 t _ ht) hne
    | vt =>
      obtain ⟨f, hf⟩ := h.of_zero (h.quiet u .vt _ rfl hu) ht
      cases hf
    | suspend =>
      obtain ⟨f, hf⟩ := h.of_zero (h.quiet u .suspend _ rfl hu) ht
      cases hf
  | write => exact absurd ((h.writer t ht).2 u _ hu).symm hne
  | vt =>
    obtain ⟨f, hf⟩ := h.of_zero (h.quiet t .vt _ rfl ht) hu
    cases m' with
    | vt => exact absurd (honce t u .vt _ rfl ht hu) hne
    | suspend => rfl
    | read => cases hf
    | write => cases hf
  | suspend =>
    obtain ⟨f, hf⟩ := h.of_zero (h.quiet t .suspend _ rfl ht) hu
    cases m' with
    | suspend => exact absurd (honce t u .suspend _ rfl ht hu) hne
    | vt => rfl
    | read => cases hf
    | write => cases hf

end Sound

variable [DecidableEq ι]

theorem readers_update (held : ι → Option Mode) (t : ι) (o : Option Mode) :
    readers (Function.update held t o) + (if held t = some .read then 1 else 0) =
      readers held + (if o = some .read then 1 else 0) := by
  have hcard := card_exchange (fun u => Function.update held t o u = some .read) (fun u => held u = some .read) t
    fun u hu => by rw [Function.update_of_ne hu]
  simpa only [Function.update_self, readers] using hcard

omit [Fintype ι] in
/-- Who holds the lock after `t` has changed its part. -/
theorem update_some {o : Option Mode} (hu : Function.update held t o u = some m) :
    u = t ∧ o = some m ∨ u ≠ t ∧ held u = some m := by
  by_cases heq : u = t
  · rw [heq, Function.update_self] at hu
    exact .inl ⟨heq, hu⟩
  · rw [Function.update_of_ne heq] at hu
    exact .inr ⟨heq, hu⟩

namespace Sound

theorem take_read (h : Sound l held) (hready : l.Ready .read) (ht : held t = none) :
    Sound (l.taken .read) (Function.update held t (some .read)) := by
  obtain ⟨hrw, hflags⟩ := hready
  have hordinary : ∀ {u m f}, Mode.special m = some f → Function.update held t (some .read) u ≠ some m := by
    intro u m f hm hu
    rcases update_some hu with ⟨-, heq⟩ | ⟨-, hu⟩
    · cases heq
      cases hm
    · have := (h.special m f hm).mpr ⟨u, hu⟩
      rw [hflags] at this
      exact absurd this (Finset.notMem_empty f)
  refine ⟨?_, ?_, ?_, ?_⟩
  · intro _
    have hcount := h.count (h.no_writer hrw)
    have hupdate := readers_update held t (some .read)
    simp only [ht, if_true, reduceCtorEq, if_false] at hupdate
    simp only [Lock.taken]
    omega
  · intro u hu
    rcases update_some hu with ⟨-, heq⟩ | ⟨-, hu⟩
    · cases heq
    · exact absurd hu (h.no_writer hrw u)
  · intro m f hm
    constructor
    · intro hf
      change f ∈ l.flags at hf
      rw [hflags] at hf
      exact absurd hf (Finset.notMem_empty f)
    · rintro ⟨u, hu⟩
      exact absurd hu (hordinary hm)
  · intro u m f hm hu
    exact absurd hu (hordinary hm)

theorem take_write (h : Sound l held) (hready : l.Ready .write) :
    Sound (l.taken .write) (Function.update held t (some .write)) := by
  obtain ⟨hrw, hflags⟩ := hready
  have hnot : ∀ m f, Mode.special m = some f → f ∉ l.flags.erase .writeLockPending := by
    intro m f _
    rw [hflags]
    exact Finset.notMem_empty f
  have hfree : ∀ u m, held u ≠ some m := by
    intro u m hu
    obtain ⟨f, hf⟩ := h.of_zero hrw hu
    refine hnot m f hf (Finset.mem_erase.mpr ⟨?_, (h.special m f hf).mpr ⟨u, hu⟩⟩)
    rintro rfl
    cases m <;> cases hf
  have hordinary : ∀ {u m f}, Mode.special m = some f → Function.update held t (some .write) u ≠ some m := by
    intro u m f hm hu
    rcases update_some hu with ⟨-, heq⟩ | ⟨-, hu⟩
    · cases heq
      cases hm
    · exact hfree u m hu
  refine ⟨?_, ?_, ?_, ?_⟩
  · intro hnone
    exact absurd (Function.update_self ..) (hnone t)
  · intro u hu
    rcases update_some hu with ⟨rfl, -⟩ | ⟨-, hu⟩
    · refine ⟨rfl, ?_⟩
      intro v m hv
      rcases update_some hv with ⟨heq, -⟩ | ⟨-, hv⟩
      · exact heq
      · exact absurd hv (hfree v m)
    · exact absurd hu (hfree u _)
  · intro m f hm
    constructor
    · intro hf
      exact absurd hf (hnot m f hm)
    · rintro ⟨u, hu⟩
      exact absurd hu (hordinary hm)
  · intro u m f hm hu
    exact absurd hu (hordinary hm)

/-- A special mode is taken: its bit goes up, and a bit that stands for no holder goes down. -/
theorem take_special {f g : Flag} (h : Sound l held) (hrw : l.rw = 0) (ht : held t = none) (hm : m.special = some f)
    (hg : ∀ m' : Mode, m'.special ≠ some g) :
    Sound { l with flags := insert f (l.flags.erase g) } (Function.update held t (some m)) := by
  have hwriter := h.no_writer (le_of_eq hrw.symm)
  refine ⟨?_, ?_, ?_, ?_⟩
  · intro _
    have hcount := h.count hwriter
    have hupdate := readers_update held t (some m)
    have hread : m ≠ .read := by
      rintro rfl
      cases hm
    simp only [ht, reduceCtorEq, if_false, Option.some.injEq, hread] at hupdate
    change l.rw = _
    omega
  · intro u hu
    rcases update_some hu with ⟨-, heq⟩ | ⟨-, hu⟩
    · cases heq
      cases hm
    · exact absurd hu (hwriter u)
  · intro m' f' hm'
    have hne : f' ≠ g := fun heq => hg m' (heq ▸ hm')
    rw [Finset.mem_insert, Finset.mem_erase, h.special m' f' hm']
    by_cases heq : m' = m
    · subst heq
      obtain rfl := Option.some.inj (hm'.symm.trans hm)
      simp only [true_or, true_iff]
      exact ⟨t, Function.update_self ..⟩
    · have hf : f' ≠ f := by
        rintro rfl
        cases m <;> cases m' <;> cases hm <;> cases hm' <;> exact heq rfl
      simp only [hf, hne, ne_eq, not_false_eq_true, true_and, false_or]
      constructor
      · rintro ⟨u, hu⟩
        refine ⟨u, ?_⟩
        rw [Function.update_of_ne, hu]
        rintro rfl
        rw [ht] at hu
        cases hu
      · rintro ⟨u, hu⟩
        rcases update_some hu with ⟨-, heq'⟩ | ⟨-, hu⟩
        · exact absurd (Option.some.inj heq').symm heq
        · exact ⟨u, hu⟩
  · intro u m' f' hm' hu
    exact hrw

theorem take (h : Sound l held) (hready : l.Ready m) (ht : held t = none) :
    Sound (l.taken m) (Function.update held t (some m)) := by
  cases m with
  | read => exact h.take_read hready ht
  | write => exact h.take_write hready
  | vt => exact h.take_special hready ht rfl (fun m' hm' => by cases m' <;> cases hm')
  | suspend => exact h.take_special hready ht rfl (fun m' hm' => by cases m' <;> cases hm')

theorem release_read (h : Sound l held) (ht : held t = some .read) :
    Sound { l with rw := l.rw - 1 } (Function.update held t none) := by
  have hwriter : ∀ u, held u ≠ some .write := by
    intro u hu
    have heq := (h.writer u hu).2 t _ ht
    rw [heq, hu] at ht
    cases ht
  have hspecial : ∀ {u m f}, Mode.special m = some f → held u ≠ some m := by
    intro u m f hm hu
    obtain ⟨f', hf'⟩ := h.of_zero (h.quiet u m f hm hu) ht
    cases hf'
  have hold : ∀ {u m}, Function.update held t none u = some m → held u = some m := by
    intro u m hu
    rcases update_some hu with ⟨-, heq⟩ | ⟨-, hu⟩
    · cases heq
    · exact hu
  refine ⟨?_, ?_, ?_, ?_⟩
  · intro _
    have hcount := h.count hwriter
    have hupdate := readers_update held t none
    simp only [ht, if_true, reduceCtorEq, if_false] at hupdate
    change l.rw - 1 = _
    omega
  · intro u hu
    exact absurd (hold hu) (hwriter u)
  · intro m f hm
    constructor
    · intro hf
      obtain ⟨u, hu⟩ := (h.special m f hm).mp hf
      exact absurd hu (hspecial hm)
    · rintro ⟨u, hu⟩
      exact absurd (hold hu) (hspecial hm)
  · intro u m f hm hu
    exact absurd (hold hu) (hspecial hm)

/-- The writer gives the lock back or becomes a reader. -/
theorem leave_write {o : Option Mode} (h : Sound l held) (ht : held t = some .write)
    (ho : o = none ∨ o = some .read) :
    Sound { l with rw := if o = some .read then 1 else 0 } (Function.update held t o) := by
  have halone := (h.writer t ht).2
  have hspecial : ∀ {u m f}, Mode.special m = some f → held u ≠ some m := by
    intro u m f hm hu
    obtain rfl := halone u m hu
    rw [ht] at hu
    cases hu
    cases hm
  have hold : ∀ {u m}, Function.update held t o u = some m → m = .read := by
    intro u m hu
    rcases update_some hu with ⟨-, heq⟩ | ⟨hne, hu⟩
    · rcases ho with rfl | rfl
      · cases heq
      · exact (Option.some.inj heq).symm
    · exact absurd (halone u m hu) hne
  have hordinary : ∀ {u m f}, Mode.special m = some f → Function.update held t o u ≠ some m := by
    intro u m f hm hu
    obtain rfl := hold hu
    cases hm
  have hnone : readers held = 0 := readers_eq_zero.mpr fun u hu => by
    obtain rfl := halone u _ hu
    rw [ht] at hu
    cases hu
  refine ⟨?_, ?_, ?_, ?_⟩
  · intro _
    have hupdate := readers_update held t o
    simp only [ht, reduceCtorEq, Option.some.injEq, if_false, Nat.add_zero, hnone, Nat.zero_add] at hupdate
    rw [hupdate]
    split <;> rfl
  · intro u hu
    cases hold hu
  · intro m f hm
    constructor
    · intro hf
      obtain ⟨u, hu⟩ := (h.special m f hm).mp hf
      exact absurd hu (hspecial hm)
    · rintro ⟨u, hu⟩
      exact absurd hu (hordinary hm)
  · intro u m f hm hu
    exact absurd hu (hordinary hm)

theorem release_special {f : Flag} (h : Sound l held) (honce : Once held) (ht : held t = some m)
    (hm : m.special = some f) : Sound (l.clearFlag f) (Function.update held t none) := by
  have hwriter : ∀ u, held u ≠ some .write := by
    intro u hu
    have heq := (h.writer u hu).2 t _ ht
    rw [heq, hu] at ht
    cases ht
    cases hm
  have hold : ∀ {u m'}, Function.update held t none u = some m' → u ≠ t ∧ held u = some m' := by
    intro u m' hu
    rcases update_some hu with ⟨-, heq⟩ | hu
    · cases heq
    · exact hu
  refine ⟨?_, ?_, ?_, ?_⟩
  · intro _
    have hcount := h.count hwriter
    have hupdate := readers_update held t none
    have hread : m ≠ .read := by
      rintro rfl
      cases hm
    simp only [ht, reduceCtorEq, Option.some.injEq, hread, if_false] at hupdate
    change l.rw = _
    omega
  · intro u hu
    exact absurd (hold hu).2 (hwriter u)
  · intro m' f' hm'
    change f' ∈ l.flags.erase f ↔ _
    rw [Finset.mem_erase, h.special m' f' hm']
    constructor
    · rintro ⟨hne, u, hu⟩
      refine ⟨u, ?_⟩
      rw [Function.update_of_ne, hu]
      rintro rfl
      rw [ht] at hu
      cases hu
      exact hne (Option.some.inj (hm'.symm.trans hm))
    · rintro ⟨u, hu⟩
      obtain ⟨hne, hu⟩ := hold hu
      refine ⟨?_, u, hu⟩
      rintro rfl
      have heq : m' = m := by cases m <;> cases m' <;> cases hm <;> cases hm' <;> rfl
      exact hne (honce u t m f' hm (heq ▸ hu) ht)
  · intro u m' f' hm' hu
    exact h.quiet u m' f' hm' (hold hu).2

theorem release (h : Sound l held) (honce : Once held) (ht : held t = some m) :
    Sound (l.unlock m).1 (Function.update held t none) := by
  cases m with
  | read => exact h.release_read ht
  | write => exact h.leave_write ht (.inl rfl)
  | vt => exact h.release_special honce ht rfl
  | suspend => exact h.release_special honce ht rfl

theorem downgrade (h : Sound l held) (ht : held t = some .write) :
    Sound l.ttmWriteLockDowngrade (Function.update held t (some .read)) :=
  h.leave_write ht (.inr rfl)

end Sound

end Sound

end Vmwgfx.TtmLock
