import Vmwgfx.Lib.Count
import Vmwgfx.Lib.Machine
import Vmwgfx.Master.Defs

/-! What a master leaves behind when it is dropped, and finds when it comes back. -/

namespace Vmwgfx.Master

open Lib

variable {s s' : State} {f g : FileId} {m : MasterId} {v : VmwMaster} {ret : Int}

/-- The lock says who has it, and so does the log. -/
structure VtOk (s : State) (v : VmwMaster) : Prop where
  flag : (s.lock v).vtLock = (s.lock v).base.isSome
  held : ∀ f, (s.lock v).base = some f → (s.lock v).vtHolder = some f
  log : holder v s.log = some (s.lock v).base

structure Inv (s : State) : Prop where
  active : s.active = some (s.minorMaster.elim .fbdev .of)
  vt : ∀ v, VtOk s v
  fbdev : ∀ f, (s.lock .fbdev).base = some f ↔ f ∈ s.files ∧ (s.file f).isMaster = true
  locked : ∀ m f, (s.lock (.of m)).base = some f ↔ f ∈ s.files ∧ (s.file f).lockedMaster = some m
  master : ∀ f ∈ s.files, (s.file f).isMaster = true → (s.file f).lockedMaster = none ∧
    ∃ m, (s.file f).master = some m ∧ s.minorMaster = some m
  mastered : ∀ m, s.minorMaster = some m → ∃ f ∈ s.files, (s.file f).isMaster = true
  parted : ∀ f ∈ s.files, ∀ m, (s.file f).lockedMaster = some m → s.minorMaster ≠ some m
  released : ∀ f ∈ s.files, (s.file f).released = true → (s.file f).isMaster = false ∧ (s.file f).master = none
  nodup : s.files.Nodup
  fresh : ∀ f ∈ s.files, f < s.nextFile
  freshMaster : ∀ m, s.nextMaster ≤ m → s.minorMaster ≠ some m ∧
    ∀ f ∈ s.files, (s.file f).master ≠ some m ∧ (s.file f).lockedMaster ≠ some m
  refs : ∀ m, s.refcount m = s.refs m

section VtLock

theorem of_ne (m : MasterId) : VmwMaster.of m ≠ .fbdev := VmwMaster.noConfusion

theorem VtOk.congr (h : VtOk s v) (hlock : s'.lock v = s.lock v) (hlog : holder v s'.log = holder v s.log) : VtOk s' v := by
  obtain ⟨hflag, hheld, hlog'⟩ := h
  refine ⟨?_, ?_, ?_⟩
  · rwa [hlock]
  · rwa [hlock]
  · rwa [hlog, hlock]

theorem holder_locked_ne {w : VmwMaster} (h : w ≠ v) (log : List VtEvent) (f : FileId) :
    holder v (.locked w f :: log) = holder v log := if_pos h

theorem holder_unlocked_ne {w : VmwMaster} (h : w ≠ v) (log : List VtEvent) (f : FileId) :
    holder v (.unlocked w f :: log) = holder v log := if_pos h

/-- A lock that is not held is taken, or not. -/
theorem ttmVtLock_failed (h : VtOk s v) (hfree : (s.lock v).base = none) (hret : ret ≠ 0) (f : FileId) :
    ttmVtLock s v f ret = s := by
  have hflag : (s.lock v).vtLock = false := by
    rw [h.flag, hfree]
    rfl
  have hsame : ({ s.lock v with vtLock := false } : TtmLock) = s.lock v := by rw [← hflag]
  unfold ttmVtLock
  rw [if_pos hret, hsame]
  unfold State.setLock
  rw [Function.update_eq_self]

/-- `s` after `f` has taken the lock. -/
def lockedBy (s : State) (v : VmwMaster) (f : FileId) : State :=
  { s.setLock v ⟨true, some f, some f⟩ with log := .locked v f :: s.log }

theorem ttmVtLock_ok (s : State) (v : VmwMaster) (f : FileId) : ttmVtLock s v f 0 = lockedBy s v f :=
  if_neg (not_not.mpr rfl)

theorem lockedBy_lock (s : State) (v : VmwMaster) (f : FileId) : (lockedBy s v f).lock v = ⟨true, some f, some f⟩ :=
  Function.update_self ..

theorem lockedBy_other {w : VmwMaster} (h : w ≠ v) (s : State) (f : FileId) : (lockedBy s v f).lock w = s.lock w :=
  Function.update_of_ne h ..

theorem VtOk.lockedBy (h : ∀ v, VtOk s v) (hfree : (s.lock v).base = none) (f : FileId) (w : VmwMaster) :
    VtOk (lockedBy s v f) w := by
  by_cases hw : w = v
  · subst hw
    refine ⟨?_, fun g hg => ?_, ?_⟩
    · rw [lockedBy_lock]
      rfl
    · rw [lockedBy_lock] at hg ⊢
      exact hg
    · have hlog := (h w).log
      rw [hfree] at hlog
      rw [lockedBy_lock]
      change (if w ≠ w then _ else if holder w s.log = some none then some (some f) else none) = _
      rw [if_neg (not_not.mpr rfl), if_pos hlog]
  · exact (h w).congr (lockedBy_other hw s f) (holder_locked_ne (Ne.symm hw) ..)

/-- `s` after `f` has released the lock. -/
def unlockedBy (s : State) (v : VmwMaster) (f : FileId) : State :=
  { s.setLock v { s.lock v with vtLock := false, base := none } with log := .unlocked v f :: s.log }

theorem unlockedBy_lock (s : State) (v : VmwMaster) (f : FileId) :
    (unlockedBy s v f).lock v = { s.lock v with vtLock := false, base := none } := Function.update_self ..

theorem unlockedBy_base (s : State) (v : VmwMaster) (f : FileId) : ((unlockedBy s v f).lock v).base = none := by
  rw [unlockedBy_lock]

theorem unlockedBy_other {w : VmwMaster} (h : w ≠ v) (s : State) (f : FileId) : (unlockedBy s v f).lock w = s.lock w :=
  Function.update_of_ne h ..

theorem VtOk.unlockedBy (h : ∀ v, VtOk s v) (hbase : (s.lock v).base = some f) (w : VmwMaster) :
    VtOk (unlockedBy s v f) w := by
  by_cases hw : w = v
  · subst hw
    refine ⟨?_, fun g hg => ?_, ?_⟩
    · rw [unlockedBy_lock]
      rfl
    · rw [unlockedBy_base] at hg
      cases hg
    · have hlog := (h w).log
      rw [hbase] at hlog
      rw [unlockedBy_base]
      change (if w ≠ w then _ else if holder w s.log = some (some f) then some none else none) = _
      rw [if_neg (not_not.mpr rfl), if_pos hlog]
  · exact (h w).congr (unlockedBy_other hw s f) (holder_unlocked_ne (Ne.symm hw) ..)

/-- The lock is released against the file that has it. -/
theorem ttmVtUnlock_ok (h : VtOk s v) (hbase : (s.lock v).base = some f) (hf : f ∈ s.files) :
    ttmVtUnlock s v = some (unlockedBy s v f) := by
  have hflag : (s.lock v).vtLock ≠ false := by
    rw [h.flag, hbase]
    exact Bool.noConfusion
  unfold ttmVtUnlock
  rw [h.held f hbase]
  dsimp only
  rw [if_neg (not_not.mpr hf), if_pos hbase]
  exact if_neg hflag

theorem ttmVtUnlock_file (h : ttmVtUnlock s v = some s') : s'.file = s.file := by
  unfold ttmVtUnlock ttmVtLockRemove at h
  split at h
  · cases h
  · split at h
    · cases h
    · split at h
      · split at h
        · cases h
        · cases h
          rfl
      · cases h
        rfl

end VtLock

section Refs

theorem refs_eq (s : State) (m : MasterId) :
    s.refs m = named s.minorMaster m + s.files.countP (fun f => (s.file f).master = some m) +
      s.files.countP (fun f => (s.file f).lockedMaster = some m) := rfl

/-- The pointers to a master, when one file changes. -/
theorem refs_file (hnodup : s.files.Nodup) (hf : f ∈ s.files) (hfiles : s'.files = s.files)
    (hother : ∀ g, g ≠ f → s'.file g = s.file g) (m : MasterId) :
    s'.refs m + (named s.minorMaster m + named (s.file f).master m + named (s.file f).lockedMaster m) =
      s.refs m + (named s'.minorMaster m + named (s'.file f).master m + named (s'.file f).lockedMaster m) := by
  have hmaster := countP_named hnodup hf (f := fun g => (s'.file g).master) (g := fun g => (s.file g).master)
    (fun g hg => by rw [hother g hg]) m
  have hlocked := countP_named hnodup hf (f := fun g => (s'.file g).lockedMaster)
    (g := fun g => (s.file g).lockedMaster) (fun g hg => by rw [hother g hg]) m
  rw [refs_eq, refs_eq, hfiles]
  omega

/-- The pointers to a master, with a file more. -/
theorem refs_cons (hfiles : s'.files = f :: s.files) (hf : f ∉ s.files) (hother : ∀ g, g ≠ f → s'.file g = s.file g)
    (m : MasterId) :
    s'.refs m + named s.minorMaster m =
      s.refs m + (named s'.minorMaster m + named (s'.file f).master m + named (s'.file f).lockedMaster m) := by
  have hne : ∀ g ∈ s.files, g ≠ f := fun g hg heq => hf (heq ▸ hg)
  have hmaster : s.files.countP (fun g => decide ((s'.file g).master = some m)) =
      s.files.countP (fun g => decide ((s.file g).master = some m)) :=
    List.countP_congr fun g hg => by rw [hother g (hne g hg)]
  have hlocked : s.files.countP (fun g => decide ((s'.file g).lockedMaster = some m)) =
      s.files.countP (fun g => decide ((s.file g).lockedMaster = some m)) :=
    List.countP_congr fun g hg => by rw [hother g (hne g hg)]
  rw [refs_eq, refs_eq, hfiles, List.countP_cons, List.countP_cons, hmaster, hlocked]
  simp only [decide_eq_true_eq]
  unfold named
  omega

/-- A file goes that points to nothing. -/
theorem refs_erase (hf : f ∈ s.files) (hmaster : (s.file f).master = none) (hlocked : (s.file f).lockedMaster = none)
    (m : MasterId) : State.refs { s with files := s.files.erase f } m = s.refs m := by
  have hperm := List.perm_cons_erase hf
  rw [refs_eq, refs_eq]
  dsimp only
  rw [hperm.countP_eq, hperm.countP_eq, List.countP_cons, List.countP_cons]
  simp only [hmaster, hlocked, (Option.some_ne_none m).symm, decide_false, Bool.false_eq_true, if_false, Nat.add_zero]

end Refs

namespace Inv

/-- A file that is master has the lock of the frame buffer's master, and nobody has its own. -/
theorem of_master (h : Inv s) (hf : f ∈ s.files) (hmaster : (s.file f).isMaster = true) :
    ∃ m, (s.file f).master = some m ∧ s.minorMaster = some m ∧ (s.file f).lockedMaster = none ∧
      (s.lock .fbdev).base = some f ∧ (s.lock (.of m)).base = none := by
  obtain ⟨hlocked, m, hm, hminor⟩ := h.master f hf hmaster
  refine ⟨m, hm, hminor, hlocked, (h.fbdev f).mpr ⟨hf, hmaster⟩, ?_⟩
  cases hbase : (s.lock (.of m)).base with
  | none => rfl
  | some g =>
    obtain ⟨hg, hlocked'⟩ := (h.locked m g).mp hbase
    exact absurd hminor (h.parted g hg m hlocked')

/-- Nobody is master of a node without a master. -/
theorem of_none (h : Inv s) (hminor : s.minorMaster = none) :
    (s.lock .fbdev).base = none ∧ ∀ f ∈ s.files, (s.file f).isMaster = false := by
  have hnot : ∀ f ∈ s.files, (s.file f).isMaster = false := by
    intro f hf
    cases hmaster : (s.file f).isMaster with
    | false => rfl
    | true =>
      obtain ⟨_, m, _, hm⟩ := h.master f hf hmaster
      rw [hminor] at hm
      cases hm
  refine ⟨?_, hnot⟩
  cases hbase : (s.lock .fbdev).base with
  | none => rfl
  | some f =>
    obtain ⟨hf, hmaster⟩ := (h.fbdev f).mp hbase
    rw [hnot f hf] at hmaster
    cases hmaster

section Drop

theorem modify_file (s : State) (f : FileId) (u : DrmFile → DrmFile) : (s.modify f u).file f = u (s.file f) :=
  Function.update_self ..

theorem putMinor_of (h : s.minorMaster = some m) : s.putMinor = { s.put m with minorMaster := none } := by
  unfold State.putMinor
  rw [h]

/-- `f` gives the node up, and keeps its master locked or not. -/
theorem dropped (h : Inv s) (hf : f ∈ s.files) (hmaster : (s.file f).isMaster = true) (hm : (s.file f).master = some m)
    {l : Option MasterId} (hl : l = none ∨ l = some m) (hactive : s'.active = some .fbdev) (hminor : s'.minorMaster = none)
    (hfiles : s'.files = s.files) (hnextFile : s'.nextFile = s.nextFile) (hnextMaster : s'.nextMaster = s.nextMaster)
    (hfile : s'.file = Function.update s.file f { s.file f with isMaster := false, lockedMaster := l })
    (hvt : ∀ v, VtOk s' v) (hfbdev : (s'.lock .fbdev).base = none) (hof : (s'.lock (.of m)).base = l.map fun _ => f)
    (hothers : ∀ m', m' ≠ m → s'.lock (.of m') = s.lock (.of m'))
    (hrefs : ∀ m', s'.refcount m' + named (some m) m' = s.refcount m' + named l m') : Inv s' := by
  obtain ⟨m₀, hm₀, hminor₀, hlocked₀, hbase₀, hfree₀⟩ := h.of_master hf hmaster
  obtain rfl : m = m₀ := Option.some.inj (hm.symm.trans hm₀)
  have hself : s'.file f = { s.file f with isMaster := false, lockedMaster := l } := by rw [hfile, Function.update_self]
  have hother : ∀ g, g ≠ f → s'.file g = s.file g := fun g hg => by rw [hfile, Function.update_of_ne hg]
  have hnot : ∀ g ∈ s.files, g ≠ f → (s.file g).isMaster = false := by
    intro g hg hne
    refine eq_false_of_ne_true fun hc => hne ?_
    have hbase := (h.fbdev g).mpr ⟨hg, hc⟩
    rw [hbase₀] at hbase
    exact (Option.some.inj hbase).symm
  refine ⟨?_, hvt, fun g => ?_, fun m' g => ?_, fun g hg hc => ?_, ?_, fun g hg m' hc => ?_, fun g hg hc => ?_, ?_, ?_,
    fun m' hm' => ?_, fun m' => ?_⟩
  · rw [hactive, hminor]
    rfl
  · rw [hfbdev, hfiles]
    refine ⟨fun hc => (by cases hc), fun ⟨hg, hc⟩ => ?_⟩
    by_cases heq : g = f
    · subst heq
      rw [hself] at hc
      cases hc
    · rw [hother g heq, hnot g hg heq] at hc
      cases hc
  · rw [hfiles]
    by_cases heq : m' = m
    · subst heq
      rw [hof]
      by_cases hgf : g = f
      · subst hgf
        rw [hself]
        rcases hl with rfl | rfl
        · exact ⟨fun hc => (by cases hc), fun hc => (by cases hc.2)⟩
        · exact ⟨fun _ => ⟨hf, rfl⟩, fun _ => rfl⟩
      · rw [hother g hgf, ← h.locked m' g, hfree₀]
        refine ⟨fun hc => ?_, fun hc => (by cases hc)⟩
        rcases hl with rfl | rfl
        · cases hc
        · exact absurd (Option.some.inj hc).symm hgf
    · rw [hothers m' heq, h.locked m' g]
      refine and_congr_right fun hg => ?_
      by_cases hgf : g = f
      · subst hgf
        rw [hself, hlocked₀]
        rcases hl with rfl | rfl
        · exact Iff.rfl
        · exact ⟨fun hc => (by cases hc), fun hc => absurd (Option.some.inj hc).symm heq⟩
      · rw [hother g hgf]
  · rw [hfiles] at hg
    by_cases heq : g = f
    · subst heq
      rw [hself] at hc
      cases hc
    · rw [hother g heq, hnot g hg heq] at hc
      cases hc
  · intro m' hc
    rw [hminor] at hc
    cases hc
  · rw [hminor]
    exact (Option.some_ne_none m').symm
  · rw [hfiles] at hg
    by_cases heq : g = f
    · subst heq
      rw [hself] at hc ⊢
      have hreleased := (h.released g hg hc).2
      rw [hm] at hreleased
      cases hreleased
    · rw [hother g heq] at hc ⊢
      exact h.released g hg hc
  · rw [hfiles]
    exact h.nodup
  · rw [hfiles, hnextFile]
    exact h.fresh
  · rw [hnextMaster] at hm'
    obtain ⟨hne, hfresh⟩ := h.freshMaster m' hm'
    refine ⟨by rw [hminor]; exact (Option.some_ne_none m').symm, fun g hg => ?_⟩
    rw [hfiles] at hg
    by_cases heq : g = f
    · subst heq
      rw [hself]
      refine ⟨(hfresh g hg).1, ?_⟩
      rcases hl with rfl | rfl
      · exact (Option.some_ne_none m').symm
      · exact hminor₀ ▸ hne
    · rw [hother g heq]
      exact hfresh g hg
  · have hcount := refs_file h.nodup hf hfiles hother m'
    have href := hrefs m'
    have hold := h.refs m'
    rw [hself, hminor, hminor₀, hlocked₀, hm] at hcount
    rw [named_none] at hcount
    dsimp only at hcount
    omega

/-- `vmw_master_drop`, from whoever is master. -/
theorem vmwMasterDrop_ok (h : Inv s) (hf : f ∈ s.files) (hmaster : (s.file f).isMaster = true) (lock : Int) :
    ∃ m s', (s.file f).master = some m ∧ s.minorMaster = some m ∧ vmwMasterDrop s f m lock = some s' ∧
      Inv (s'.putMinor.modify f fun file => { file with isMaster := false }) ∧ s'.files = s.files ∧
      (s'.file f).master = some m := by
  obtain ⟨m, hm, hminor, hlocked, hbase, hfree⟩ := h.of_master hf hmaster
  have hne := (of_ne m).symm
  obtain ⟨s₁, hs₁⟩ : ∃ s₁, s₁ = (s.get m).modify f fun file => { file with lockedMaster := some m } := ⟨_, rfl⟩
  have hlock₁ : s₁.lock = s.lock := by rw [hs₁]; rfl
  have hlog₁ : s₁.log = s.log := by rw [hs₁]; rfl
  have hfiles₁ : s₁.files = s.files := by rw [hs₁]; rfl
  have hfile₁ : s₁.file = Function.update s.file f { s.file f with lockedMaster := some m } := by rw [hs₁]; rfl
  have hrefs₁ : s₁.refcount = Function.update s.refcount m (s.refcount m + 1) := by rw [hs₁]; rfl
  have hminor₁ : s₁.minorMaster = some m := by rw [hs₁]; exact hminor
  have hvt₁ : ∀ v, VtOk s₁ v := fun v => (h.vt v).congr (by rw [hlock₁]) (by rw [hlog₁])
  have hpos : 0 < s.refcount m := by
    rw [h.refs m, refs_eq, hminor, named_self]
    omega
  by_cases hlock : lock = 0
  · have hvt₂ : ∀ v, VtOk (lockedBy s₁ (.of m) f) v := VtOk.lockedBy hvt₁ (by rw [hlock₁]; exact hfree) f
    have hbase₂ : ((lockedBy s₁ (.of m) f).lock .fbdev).base = some f := by
      rw [lockedBy_other hne, hlock₁]
      exact hbase
    obtain ⟨s₂, hs₂⟩ : ∃ s₂ : State, s₂ = { lockedBy s₁ (.of m) f with active := some .fbdev } := ⟨_, rfl⟩
    have hvt₃ : ∀ v, VtOk s₂ v := by
      rw [hs₂]
      exact fun v => (hvt₂ v).congr rfl rfl
    have hunlock : ttmVtUnlock s₂ .fbdev = some (unlockedBy s₂ .fbdev f) := by
      refine ttmVtUnlock_ok (hvt₃ _) ?_ ?_
      · rw [hs₂]
        exact hbase₂
      · rw [hs₂]
        exact hfiles₁ ▸ hf
    refine ⟨m, unlockedBy s₂ .fbdev f, hm, hminor, ?_, ?_, ?_, ?_⟩
    · rw [← hunlock, hs₂, hs₁, ← ttmVtLock_ok, hlock]
      rfl
    · rw [putMinor_of (m := m) (by rw [← hminor₁, hs₂]; rfl)]
      have hvt₄ := VtOk.unlockedBy (f := f) hvt₃ (v := .fbdev) (by rw [hs₂]; exact hbase₂)
      refine h.dropped hf hmaster hm (.inr rfl) ?_ rfl ?_ ?_ ?_ ?_ (fun v => (hvt₄ v).congr rfl rfl)
        (unlockedBy_base s₂ .fbdev f) ?_ (fun m' hm' => ?_) fun m' => ?_
      · rw [hs₂]; rfl
      · rw [← hfiles₁, hs₂]; rfl
      · rw [hs₂, hs₁]; rfl
      · rw [hs₂, hs₁]; rfl
      · change Function.update s₂.file f { s₂.file f with isMaster := false } = _
        have hfile₂ : s₂.file = s₁.file := by rw [hs₂]; rfl
        rw [hfile₂, hfile₁, Function.update_idem, Function.update_self]
      · change ((unlockedBy s₂ .fbdev f).lock (.of m)).base = some f
        rw [unlockedBy_other hne.symm, hs₂]
        exact congrArg TtmLock.base (lockedBy_lock s₁ (.of m) f)
      · change (unlockedBy s₂ .fbdev f).lock (.of m') = s.lock (.of m')
        rw [unlockedBy_other (of_ne m'), hs₂, ← hlock₁]
        exact lockedBy_other (fun heq => hm' (VmwMaster.of.inj heq)) s₁ f
      · have hrefs₂ : s₂.refcount = s₁.refcount := by rw [hs₂]; rfl
        change Function.update s₂.refcount m (s₂.refcount m - 1) m' + _ = _
        rw [hrefs₂, hrefs₁, Function.update_idem, Function.update_self, Nat.add_sub_cancel, Function.update_eq_self]
    · rw [hs₂]
      exact hfiles₁
    · rw [← hm, hs₂]
      change (s₁.file f).master = _
      rw [hfile₁, Function.update_self]
  · have hsame : s₁.putLocked f = s := by
      have hlocked₁ : (s₁.file f).lockedMaster = some m := by rw [hfile₁, Function.update_self]
      have hfile : ({ s.file f with lockedMaster := none } : DrmFile) = s.file f := by rw [← hlocked]
      unfold State.putLocked
      rw [hlocked₁, hs₁]
      dsimp only
      unfold State.put State.modify State.get
      simp only [Function.update_self, Function.update_idem, Nat.add_sub_cancel, Function.update_eq_self, hfile]
    have hvt₃ : ∀ v, VtOk { s with active := some .fbdev } v := fun v => (h.vt v).congr rfl rfl
    have hunlock : ttmVtUnlock { s with active := some .fbdev } .fbdev =
        some (unlockedBy { s with active := some .fbdev } .fbdev f) := ttmVtUnlock_ok (hvt₃ _) hbase hf
    refine ⟨m, unlockedBy { s with active := some .fbdev } .fbdev f, hm, hminor, ?_, ?_, rfl, hm⟩
    · have hfail : (if lock ≠ 0 then (ttmVtLock s₁ (.of m) f lock).putLocked f else ttmVtLock s₁ (.of m) f lock) = s := by
        rw [if_pos hlock, ttmVtLock_failed (hvt₁ _) (by rw [hlock₁]; exact hfree) hlock, hsame]
      rw [hs₁] at hfail
      rw [← hunlock]
      unfold vmwMasterDrop
      dsimp only at hfail ⊢
      rw [hfail]
    · rw [putMinor_of (show (unlockedBy { s with active := some .fbdev } .fbdev f).minorMaster = some m from hminor)]
      have hvt₄ := VtOk.unlockedBy (f := f) hvt₃ (v := .fbdev) hbase
      refine h.dropped hf hmaster hm (.inl rfl) rfl rfl rfl rfl rfl ?_ (fun v => (hvt₄ v).congr rfl rfl)
        (unlockedBy_base _ .fbdev f) ?_ (fun m' _ => ?_) fun m' => ?_
      · change Function.update s.file f { s.file f with isMaster := false } = _
        rw [← hlocked]
      · change ((unlockedBy { s with active := some .fbdev } .fbdev f).lock (.of m)).base = none
        rw [unlockedBy_other hne.symm]
        exact hfree
      · exact unlockedBy_other (of_ne m') { s with active := some .fbdev } f
      · change Function.update s.refcount m (s.refcount m - 1) m' + _ = _
        by_cases heq : m' = m
        · subst heq
          rw [Function.update_self, named_self, named_none]
          omega
        · rw [Function.update_of_ne heq, named_ne (Ne.symm heq), named_none]

end Drop

section Leave

theorem putMaster_fields (s : State) (f : FileId) :
    (s.putMaster f).file = Function.update s.file f { s.file f with master := none } ∧
      (∀ m, named (s.file f).master m ≤ s.refcount m →
        (s.putMaster f).refcount m + named (s.file f).master m = s.refcount m) ∧
      (s.putMaster f).active = s.active ∧ (s.putMaster f).lock = s.lock ∧ (s.putMaster f).log = s.log ∧
      (s.putMaster f).minorMaster = s.minorMaster ∧ (s.putMaster f).files = s.files ∧
      (s.putMaster f).nextFile = s.nextFile ∧ (s.putMaster f).nextMaster = s.nextMaster := by
  unfold State.putMaster
  cases hm : (s.file f).master with
  | none =>
    have hsame : ({ s.file f with master := none } : DrmFile) = s.file f := by rw [← hm]
    rw [hsame, Function.update_eq_self]
    exact ⟨rfl, fun m _ => by rw [named_none]; rfl, rfl, rfl, rfl, rfl, rfl, rfl, rfl⟩
  | some m =>
    refine ⟨rfl, fun m' hle => ?_, rfl, rfl, rfl, rfl, rfl, rfl, rfl⟩
    change Function.update s.refcount m (s.refcount m - 1) m' + _ = _
    by_cases heq : m' = m
    · subst heq
      rw [named_self] at hle ⊢
      rw [Function.update_self]
      omega
    · rw [Function.update_of_ne heq, named_ne (Ne.symm heq)]
      rfl

/-- A file that is not master lets its master go. -/
theorem left (h : Inv s) (hf : f ∈ s.files) (hnot : (s.file f).isMaster = false) :
    Inv ((s.putMaster f).modify f fun file => { file with isMaster := false, released := true }) := by
  obtain ⟨hfile, hrefs, hactive, hlock, hlog, hminor, hfiles, hnextFile, hnextMaster⟩ := putMaster_fields s f
  obtain ⟨s', hs'⟩ : ∃ s', s' = (s.putMaster f).modify f fun file => { file with isMaster := false, released := true } :=
    ⟨_, rfl⟩
  have hfile' : s'.file = Function.update s.file f
      { s.file f with master := none, isMaster := false, released := true } := by
    rw [hs']
    change Function.update (s.putMaster f).file f { (s.putMaster f).file f with isMaster := false, released := true } = _
    rw [hfile, Function.update_self, Function.update_idem]
  have hself := congrFun hfile' f
  rw [Function.update_self] at hself
  have hother : ∀ g, g ≠ f → s'.file g = s.file g := fun g hg => by rw [hfile', Function.update_of_ne hg]
  have hlock' : s'.lock = s.lock := by rw [hs', ← hlock]; rfl
  have hminor' : s'.minorMaster = s.minorMaster := by rw [hs', ← hminor]; rfl
  have hfiles' : s'.files = s.files := by rw [hs', ← hfiles]; rfl
  have hactive' : s'.active = s.active := by rw [hs', ← hactive]; rfl
  have hlog' : s'.log = s.log := by rw [hs', ← hlog]; rfl
  have hnextFile' : s'.nextFile = s.nextFile := by rw [hs', ← hnextFile]; rfl
  have hnextMaster' : s'.nextMaster = s.nextMaster := by rw [hs', ← hnextMaster]; rfl
  have hisMaster : ∀ g, (s'.file g).isMaster = (s.file g).isMaster := by
    intro g
    by_cases heq : g = f
    · rw [heq, hself, hnot]
    · rw [hother g heq]
  have hlocked : ∀ g, (s'.file g).lockedMaster = (s.file g).lockedMaster := by
    intro g
    by_cases heq : g = f
    · rw [heq, hself]
    · rw [hother g heq]
  rw [← hs']
  refine ⟨?_, fun v => (h.vt v).congr (by rw [hlock']) (by rw [hlog']), fun g => ?_, fun m g => ?_, fun g hg hc => ?_,
    fun m hc => ?_, fun g hg m hc => ?_, fun g hg hc => ?_, ?_, ?_, fun m hm => ?_, fun m => ?_⟩
  · rw [hactive', hminor']
    exact h.active
  · rw [hlock', hfiles', hisMaster]
    exact h.fbdev g
  · rw [hlock', hfiles', hlocked]
    exact h.locked m g
  · rw [hfiles'] at hg
    rw [hisMaster] at hc
    have hne : g ≠ f := by
      rintro rfl
      rw [hnot] at hc
      cases hc
    rw [hother g hne, hminor']
    exact h.master g hg hc
  · rw [hminor'] at hc
    obtain ⟨g, hg, hmaster⟩ := h.mastered m hc
    exact ⟨g, hfiles' ▸ hg, by rw [hisMaster]; exact hmaster⟩
  · rw [hfiles'] at hg
    rw [hlocked] at hc
    rw [hminor']
    exact h.parted g hg m hc
  · rw [hfiles'] at hg
    by_cases heq : g = f
    · rw [heq, hself]
      exact ⟨rfl, rfl⟩
    · rw [hother g heq] at hc ⊢
      exact h.released g hg hc
  · rw [hfiles']
    exact h.nodup
  · rw [hfiles', hnextFile']
    exact h.fresh
  · rw [hnextMaster'] at hm
    obtain ⟨hne, hfresh⟩ := h.freshMaster m hm
    refine ⟨by rw [hminor']; exact hne, fun g hg => ?_⟩
    rw [hfiles'] at hg
    rw [hlocked]
    refine ⟨?_, (hfresh g hg).2⟩
    by_cases heq : g = f
    · rw [heq, hself]
      exact (Option.some_ne_none m).symm
    · rw [hother g heq]
      exact (hfresh g hg).1
  · have hcount := refs_file h.nodup hf hfiles' hother m
    have hold := h.refs m
    have hle : named (s.file f).master m ≤ s.refcount m := by
      rw [hself, hminor'] at hcount
      rw [named_none] at hcount
      dsimp only at hcount
      omega
    have href := hrefs m hle
    have hrefs' : s'.refcount = (s.putMaster f).refcount := by rw [hs']; rfl
    rw [hself, hminor'] at hcount
    rw [named_none] at hcount
    dsimp only at hcount
    rw [hrefs']
    omega

theorem putMaster_modify (s : State) (f : FileId) :
    ((s.modify f fun file => { file with isMaster := false }).putMaster f).modify f
        (fun file => { file with isMaster := false, released := true }) =
      (s.putMaster f).modify f fun file => { file with isMaster := false, released := true } := by
  have hmaster : ((s.modify f fun file => { file with isMaster := false }).file f).master = (s.file f).master :=
    by rw [modify_file]
  unfold State.putMaster
  rw [hmaster]
  cases (s.file f).master with
  | none =>
    unfold State.modify
    simp only [Function.update_self, Function.update_idem]
  | some m =>
    unfold State.modify State.put
    simp only [Function.update_self, Function.update_idem]

theorem drmDropmasterIoctl_ok (h : Inv s) (hf : f ∈ s.files) (lock : Int) :
    ∃ s', drmDropmasterIoctl s f lock = some s' ∧ Inv s' := by
  unfold drmDropmasterIoctl
  cases hmaster : (s.file f).isMaster with
  | false => exact ⟨s, rfl, h⟩
  | true =>
    obtain ⟨m, s', hm, hminor, hdrop, hinv, _⟩ := h.vmwMasterDrop_ok hf hmaster lock
    rw [if_neg Bool.noConfusion, hminor, if_neg Bool.noConfusion, hm, Option.bind_some, hdrop, Option.map_some]
    exact ⟨_, rfl, hinv⟩

theorem drmRelease_ok (h : Inv s) (hf : f ∈ s.files) (lock : Int) : ∃ s', drmRelease s f lock = some s' ∧ Inv s' := by
  unfold drmRelease
  cases hmaster : (s.file f).isMaster with
  | false =>
    rw [if_neg (fun hc => Bool.noConfusion hc.1), Option.map_some]
    exact ⟨_, rfl, h.left hf hmaster⟩
  | true =>
    obtain ⟨m, s', hm, hminor, hdrop, hinv, hfiles, _⟩ := h.vmwMasterDrop_ok hf hmaster lock
    rw [if_pos ⟨rfl, hminor.trans hm.symm⟩, hm, Option.bind_some, hdrop, Option.map_some, Option.map_some]
    refine ⟨_, rfl, ?_⟩
    have hfiles' : s'.putMinor.files = s.files := by
      rw [← hfiles]
      unfold State.putMinor
      split <;> rfl
    have hleft := hinv.left (f := f) (hfiles' ▸ hf) (by rw [modify_file])
    rwa [putMaster_modify] at hleft

end Leave

section Postclose

/-- The lock of a master goes with the file that dropped it. -/
theorem unlocked (h : Inv s) (hf : f ∈ s.files) (hlocked : (s.file f).lockedMaster = some m)
    (hnot : (s.file f).isMaster = false) :
    ttmVtUnlock s (.of m) = some (unlockedBy s (.of m) f) ∧ Inv ((unlockedBy s (.of m) f).putLocked f) := by
  have hbase := (h.locked m f).mpr ⟨hf, hlocked⟩
  refine ⟨ttmVtUnlock_ok (h.vt _) hbase hf, ?_⟩
  have hput : (unlockedBy s (.of m) f).putLocked f =
      ((unlockedBy s (.of m) f).put m).modify f fun file => { file with lockedMaster := none } := by
    unfold State.putLocked
    have hlocked' : ((unlockedBy s (.of m) f).file f).lockedMaster = some m := hlocked
    rw [hlocked']
  rw [hput]
  obtain ⟨s', hs'⟩ : ∃ s', s' = ((unlockedBy s (.of m) f).put m).modify f fun file => { file with lockedMaster := none } :=
    ⟨_, rfl⟩
  have hself : s'.file f = { s.file f with lockedMaster := none } := by
    rw [hs']
    exact modify_file ..
  have hother : ∀ g, g ≠ f → s'.file g = s.file g := fun g hg => by
    rw [hs']
    exact Function.update_of_ne hg ..
  have hlock' : s'.lock = (unlockedBy s (.of m) f).lock := by rw [hs']; rfl
  have hisMaster : ∀ g, (s'.file g).isMaster = (s.file g).isMaster := by
    intro g
    by_cases heq : g = f
    · rw [heq, hself]
    · rw [hother g heq]
  have hmaster : ∀ g, (s'.file g).master = (s.file g).master := by
    intro g
    by_cases heq : g = f
    · rw [heq, hself]
    · rw [hother g heq]
  have hvt := VtOk.unlockedBy h.vt hbase
  have hfiles' : s'.files = s.files := by rw [hs']; rfl
  have hminor' : s'.minorMaster = s.minorMaster := by rw [hs']; rfl
  rw [← hs']
  refine ⟨?_, fun v => (hvt v).congr (by rw [hlock']) (by rw [hs']; rfl), fun g => ?_, fun m' g => ?_, fun g hg hc => ?_,
    fun m' hc => ?_, fun g hg m' hc => ?_, fun g hg hc => ?_, ?_, ?_, fun m' hm' => ?_, fun m' => ?_⟩
  · rw [hminor', hs']
    exact h.active
  · rw [hlock', unlockedBy_other (of_ne m).symm, hfiles', hisMaster]
    exact h.fbdev g
  · rw [hlock', hfiles']
    by_cases heq : m' = m
    · subst heq
      rw [unlockedBy_base]
      refine ⟨fun hc => (by cases hc), fun ⟨hg, hc⟩ => ?_⟩
      by_cases hgf : g = f
      · rw [hgf, hself] at hc
        cases hc
      · rw [hother g hgf] at hc
        have hboth := (h.locked m' g).mpr ⟨hg, hc⟩
        rw [hbase] at hboth
        exact absurd (Option.some.inj hboth).symm hgf
    · rw [unlockedBy_other (fun hc => heq (VmwMaster.of.inj hc)), h.locked m' g]
      refine and_congr_right fun _ => ?_
      by_cases hgf : g = f
      · rw [hgf, hself, hlocked]
        exact ⟨fun hc => absurd (Option.some.inj hc).symm heq, fun hc => (by cases hc)⟩
      · rw [hother g hgf]
  · rw [hfiles'] at hg
    rw [hisMaster] at hc
    have hne : g ≠ f := by
      rintro rfl
      rw [hnot] at hc
      cases hc
    rw [hother g hne, hminor']
    exact h.master g hg hc
  · rw [hminor'] at hc
    obtain ⟨g, hg, hmaster'⟩ := h.mastered m' hc
    exact ⟨g, hfiles' ▸ hg, by rw [hisMaster]; exact hmaster'⟩
  · rw [hfiles'] at hg
    rw [hminor']
    by_cases hgf : g = f
    · rw [hgf, hself] at hc
      cases hc
    · rw [hother g hgf] at hc
      exact h.parted g hg m' hc
  · rw [hfiles'] at hg
    rw [hisMaster, hmaster]
    by_cases hgf : g = f
    · rw [hgf, hself] at hc
      exact hgf ▸ h.released f hf hc
    · rw [hother g hgf] at hc
      exact h.released g hg hc
  · rw [hfiles']
    exact h.nodup
  · rw [hfiles', hs']
    exact h.fresh
  · have hm' : s.nextMaster ≤ m' := by rw [hs'] at hm'; exact hm'
    obtain ⟨hne, hfresh⟩ := h.freshMaster m' hm'
    refine ⟨by rw [hminor']; exact hne, fun g hg => ?_⟩
    rw [hfiles'] at hg
    rw [hmaster]
    refine ⟨(hfresh g hg).1, ?_⟩
    by_cases hgf : g = f
    · rw [hgf, hself]
      exact (Option.some_ne_none m').symm
    · rw [hother g hgf]
      exact (hfresh g hg).2
  · have hcount := refs_file h.nodup hf hfiles' hother m'
    have hold := h.refs m'
    have hrefs' : s'.refcount m' = Function.update s.refcount m (s.refcount m - 1) m' := by rw [hs']; rfl
    rw [hself, hminor', hlocked] at hcount
    rw [named_none] at hcount
    dsimp only at hcount
    rw [hrefs']
    by_cases heq : m' = m
    · subst heq
      rw [named_self] at hcount
      rw [Function.update_self]
      omega
    · rw [named_ne (Ne.symm heq)] at hcount
      rw [Function.update_of_ne heq]
      omega

/-- A file that holds nothing goes. -/
theorem gone (h : Inv s) (hf : f ∈ s.files) (hreleased : (s.file f).released = true)
    (hlocked : (s.file f).lockedMaster = none) : Inv { s with files := s.files.erase f } := by
  obtain ⟨hnot, hmaster⟩ := h.released f hf hreleased
  have hmem : ∀ g, g ∈ s.files.erase f ↔ g ≠ f ∧ g ∈ s.files := fun g => h.nodup.mem_erase_iff
  refine ⟨h.active, fun v => (h.vt v).congr rfl rfl, fun g => ?_, fun m g => ?_, fun g hg => ?_, fun m hc => ?_,
    fun g hg => ?_, fun g hg => ?_, h.nodup.erase f, fun g hg => ?_, fun m hm => ?_, fun m => ?_⟩
  · rw [h.fbdev g, hmem]
    refine ⟨fun ⟨hg, hc⟩ => ⟨⟨?_, hg⟩, hc⟩, fun ⟨hg, hc⟩ => ⟨hg.2, hc⟩⟩
    rintro rfl
    rw [hnot] at hc
    cases hc
  · rw [h.locked m g, hmem]
    refine ⟨fun ⟨hg, hc⟩ => ⟨⟨?_, hg⟩, hc⟩, fun ⟨hg, hc⟩ => ⟨hg.2, hc⟩⟩
    rintro rfl
    rw [hlocked] at hc
    cases hc
  · exact h.master g (List.mem_of_mem_erase hg)
  · obtain ⟨g, hg, hc'⟩ := h.mastered m hc
    refine ⟨g, (hmem g).mpr ⟨?_, hg⟩, hc'⟩
    rintro rfl
    rw [hnot] at hc'
    cases hc'
  · exact h.parted g (List.mem_of_mem_erase hg)
  · exact h.released g (List.mem_of_mem_erase hg)
  · exact h.fresh g (List.mem_of_mem_erase hg)
  · obtain ⟨hne, hfresh⟩ := h.freshMaster m hm
    exact ⟨hne, fun g hg => hfresh g (List.mem_of_mem_erase hg)⟩
  · exact (h.refs m).trans (refs_erase hf hmaster hlocked m).symm

theorem ttmObjectFileRelease_ok (h : Inv s) (hnot : (s.file f).isMaster = false)
    (hlocked : (s.file f).lockedMaster = none) : ttmObjectFileRelease s f = some s := by
  have hnone : ∀ v, (s.lock v).base ≠ some f := by
    intro v hbase
    cases v with
    | fbdev =>
      have hmaster := ((h.fbdev f).mp hbase).2
      rw [hnot] at hmaster
      cases hmaster
    | of m =>
      have hlocked' := ((h.locked m f).mp hbase).2
      rw [hlocked] at hlocked'
      cases hlocked'
  unfold ttmObjectFileRelease
  generalize s.masters = l
  induction l with
  | nil => rfl
  | cons v l ih =>
    rw [List.foldlM_cons, if_neg (hnone v)]
    exact ih

theorem drmPostclose_ok (h : Inv s) (hf : f ∈ s.files) (hreleased : (s.file f).released = true) :
    ∃ s', drmPostclose s f = some s' ∧ Inv s' := by
  have hnot := (h.released f hf hreleased).1
  unfold drmPostclose vmwPostclose
  cases hlocked : (s.file f).lockedMaster with
  | none =>
    dsimp only
    rw [h.ttmObjectFileRelease_ok hnot hlocked, Option.map_some]
    exact ⟨_, rfl, h.gone hf hreleased hlocked⟩
  | some m =>
    obtain ⟨hunlock, hinv⟩ := h.unlocked hf hlocked hnot
    have hself : ((unlockedBy s (.of m) f).putLocked f).file f = { s.file f with lockedMaster := none } := by
      unfold State.putLocked
      have hlocked' : ((unlockedBy s (.of m) f).file f).lockedMaster = some m := hlocked
      rw [hlocked']
      exact Function.update_self ..
    have hfiles : ((unlockedBy s (.of m) f).putLocked f).files = s.files := by
      unfold State.putLocked
      split <;> rfl
    dsimp only
    rw [hunlock, Option.bind_some, hinv.ttmObjectFileRelease_ok (by rw [hself]; exact hnot) (by rw [hself]), Option.map_some]
    exact ⟨_, rfl, hinv.gone (hfiles ▸ hf) (by rw [hself]; exact hreleased) (by rw [hself])⟩

end Postclose

section Set

/-- `vmw_master_set` gets past the lock of the frame buffer's master. -/
def Locks (enableFb : Bool) (o : SetOutcome) : Prop := (enableFb = true ∨ o.inc = 0) ∧ o.lock = 0

theorem vmwMasterSet_failed {o : SetOutcome} (fromOpen : Bool) (hactive : s.active = some .fbdev)
    (hvt : VtOk s .fbdev) (hfree : (s.lock .fbdev).base = none) (hno : ¬ Locks s.enableFb o) :
    ∃ ret, ret ≠ 0 ∧ vmwMasterSet s f m fromOpen o = some (ret, s) := by
  unfold vmwMasterSet
  by_cases hinc : s.enableFb = false ∧ o.inc ≠ 0
  · rw [if_pos hinc]
    exact ⟨_, hinc.2, rfl⟩
  · have hlock : o.lock ≠ 0 := by
      intro hlock
      refine hno ⟨?_, hlock⟩
      cases hfb : s.enableFb with
      | true => exact .inl rfl
      | false => exact .inr (not_not.mp fun hc => hinc ⟨hfb, hc⟩)
    rw [if_neg hinc, hactive]
    dsimp only
    rw [if_neg (not_not.mpr rfl), if_pos hlock, ttmVtLock_failed hvt hfree hlock]
    exact ⟨_, hlock, rfl⟩

theorem vmwMasterSet_locked {fromOpen : Bool} {o : SetOutcome} (hactive : s.active = some .fbdev) (hok : Locks s.enableFb o) :
    vmwMasterSet s f m fromOpen o =
      (activate { lockedBy s .fbdev f with active := none } f m fromOpen).map fun s => (0, s) := by
  unfold vmwMasterSet
  rw [if_neg (fun hc => hok.1.elim (fun hfb => by rw [hfb] at hc; cases hc.1) hc.2), hactive]
  dsimp only
  rw [if_neg (not_not.mpr rfl), if_neg (not_not.mpr hok.2), hok.2, ttmVtLock_ok]

/-- A master that was dropped is back. -/
theorem became (h : Inv s) (hf : f ∈ s.files) (hminor : s.minorMaster = none) (hm : (s.file f).master = some m)
    (hlocked : (s.file f).lockedMaster = some m) (hactive : s'.active = some (.of m)) (hminor' : s'.minorMaster = some m)
    (hfiles : s'.files = s.files) (hnextFile : s'.nextFile = s.nextFile) (hnextMaster : s'.nextMaster = s.nextMaster)
    (hfile : s'.file = Function.update s.file f { s.file f with isMaster := true, lockedMaster := none })
    (hvt : ∀ v, VtOk s' v) (hfbdev : (s'.lock .fbdev).base = some f) (hof : (s'.lock (.of m)).base = none)
    (hothers : ∀ m', m' ≠ m → s'.lock (.of m') = s.lock (.of m')) (hrefs : s'.refcount = s.refcount) : Inv s' := by
  obtain ⟨_, hnot⟩ := h.of_none hminor
  have hbase := (h.locked m f).mpr ⟨hf, hlocked⟩
  have hself : s'.file f = { s.file f with isMaster := true, lockedMaster := none } := by
    rw [hfile, Function.update_self]
  have hother : ∀ g, g ≠ f → s'.file g = s.file g := fun g hg => by rw [hfile, Function.update_of_ne hg]
  have halone : ∀ g ∈ s.files, (s.file g).lockedMaster = some m → g = f := by
    intro g hg hc
    have hboth := (h.locked m g).mpr ⟨hg, hc⟩
    rw [hbase] at hboth
    exact (Option.some.inj hboth).symm
  refine ⟨?_, hvt, fun g => ?_, fun m' g => ?_, fun g hg hc => ?_, fun _ _ => ⟨f, hfiles ▸ hf, by rw [hself]⟩,
    fun g hg m' hc => ?_, fun g hg hc => ?_, ?_, ?_, fun m' hm' => ?_, fun m' => ?_⟩
  · rw [hactive, hminor']
    rfl
  · rw [hfbdev, hfiles]
    by_cases hgf : g = f
    · rw [hgf, hself]
      exact ⟨fun _ => ⟨hf, rfl⟩, fun _ => rfl⟩
    · rw [hother g hgf]
      refine ⟨fun hc => absurd (Option.some.inj hc).symm hgf, fun ⟨hg, hc⟩ => ?_⟩
      rw [hnot g hg] at hc
      cases hc
  · rw [hfiles]
    by_cases heq : m' = m
    · subst heq
      rw [hof]
      refine ⟨fun hc => (by cases hc), fun ⟨hg, hc⟩ => ?_⟩
      by_cases hgf : g = f
      · rw [hgf, hself] at hc
        cases hc
      · rw [hother g hgf] at hc
        exact absurd (halone g hg hc) hgf
    · rw [hothers m' heq, h.locked m' g]
      refine and_congr_right fun _ => ?_
      by_cases hgf : g = f
      · rw [hgf, hself, hlocked]
        exact ⟨fun hc => absurd (Option.some.inj hc).symm heq, fun hc => (by cases hc)⟩
      · rw [hother g hgf]
  · rw [hfiles] at hg
    by_cases hgf : g = f
    · rw [hgf, hself]
      exact ⟨rfl, m, hm, hminor'⟩
    · rw [hother g hgf, hnot g hg] at hc
      cases hc
  · rw [hfiles] at hg
    rw [hminor']
    by_cases hgf : g = f
    · rw [hgf, hself] at hc
      cases hc
    · rw [hother g hgf] at hc
      rintro hsame
      rw [Option.some.inj hsame] at halone
      exact hgf (halone g hg hc)
  · rw [hfiles] at hg
    by_cases hgf : g = f
    · rw [hgf, hself] at hc
      have hreleased := (h.released f hf hc).2
      rw [hm] at hreleased
      cases hreleased
    · rw [hother g hgf] at hc ⊢
      exact h.released g hg hc
  · rw [hfiles]
    exact h.nodup
  · rw [hfiles, hnextFile]
    exact h.fresh
  · rw [hnextMaster] at hm'
    obtain ⟨_, hfresh⟩ := h.freshMaster m' hm'
    refine ⟨fun hc => ?_, fun g hg => ?_⟩
    · rw [hminor'] at hc
      exact (hfresh f hf).1 (hm.trans hc)
    · rw [hfiles] at hg
      by_cases hgf : g = f
      · rw [hgf, hself]
        exact ⟨(hfresh f hf).1, (Option.some_ne_none m').symm⟩
      · rw [hother g hgf]
        exact hfresh g hg
  · have hcount := refs_file h.nodup hf hfiles hother m'
    rw [hself, hminor, hminor', hlocked] at hcount
    rw [named_none] at hcount
    dsimp only at hcount
    have hold := h.refs m'
    rw [hrefs]
    omega

/-- The ioctl gets to its end exactly when the file has the lock of its master. -/
theorem drmSetmasterIoctl_spec (h : Inv s) (hf : f ∈ s.files) (o : SetOutcome) :
    (Returns s (.setmaster f o) → ∃ s', drmSetmasterIoctl s f o = some s' ∧ Inv s') ∧
      (¬ Returns s (.setmaster f o) → drmSetmasterIoctl s f o = none) := by
  unfold drmSetmasterIoctl
  cases hmaster : (s.file f).isMaster with
  | true => exact ⟨fun _ => ⟨s, rfl, h⟩, fun hc => absurd (fun hno => by rw [hmaster] at hno; cases hno) hc⟩
  | false =>
    cases hminor : s.minorMaster with
    | some m => exact ⟨fun _ => ⟨s, rfl, h⟩, fun hc => absurd (fun _ hno => by rw [hminor] at hno; cases hno) hc⟩
    | none =>
      rw [if_neg Bool.noConfusion, if_neg Bool.noConfusion]
      cases hm : (s.file f).master with
      | none => exact ⟨fun _ => ⟨s, rfl, h⟩, fun hc => absurd (fun _ _ _ _ m hno => by rw [hm] at hno; cases hno) hc⟩
      | some m =>
        dsimp only
        obtain ⟨hfree, hnot⟩ := h.of_none hminor
        obtain ⟨s₁, hs₁⟩ : ∃ s₁ : State, s₁ = { (s.get m).modify f (fun file => { file with isMaster := true }) with
            minorMaster := some m } := ⟨_, rfl⟩
        have hactive₁ : s₁.active = some .fbdev := by
          rw [hs₁]
          have hactive := h.active
          rw [hminor] at hactive
          exact hactive
        have hvt₁ : ∀ v, VtOk s₁ v := by
          rw [hs₁]
          exact fun v => (h.vt v).congr rfl rfl
        have hlock₁ : s₁.lock = s.lock := by rw [hs₁]; rfl
        have hfree₁ : (s₁.lock .fbdev).base = none := by rw [hlock₁]; exact hfree
        have henable₁ : s₁.enableFb = s.enableFb := by rw [hs₁]; rfl
        have hfiles₁ : s₁.files = s.files := by rw [hs₁]; rfl
        rw [← hs₁]
        by_cases hlocks : Locks s₁.enableFb o
        · rw [vmwMasterSet_locked hactive₁ hlocks]
          have hvt₂ : ∀ v, VtOk { lockedBy s₁ .fbdev f with active := none } v := fun v =>
            (VtOk.lockedBy hvt₁ hfree₁ f v).congr rfl rfl
          obtain ⟨s₂, hs₂⟩ : ∃ s₂ : State, s₂ = { lockedBy s₁ .fbdev f with active := none } := ⟨_, rfl⟩
          rw [← hs₂] at hvt₂ ⊢
          have hfile₂ : s₂.file = Function.update s.file f { s.file f with isMaster := true } := by
            rw [hs₂, hs₁]
            rfl
          have hlocked₂ : (s₂.file f).lockedMaster = (s.file f).lockedMaster := by rw [hfile₂, Function.update_self]
          have hlock₂ : ∀ m', s₂.lock (.of m') = s.lock (.of m') := by
            intro m'
            rw [hs₂, ← hlock₁]
            exact lockedBy_other (of_ne m') s₁ f
          unfold activate
          rw [if_neg Bool.noConfusion]
          by_cases hl : (s.file f).lockedMaster = some m
          · have hbase₂ : (s₂.lock (.of m)).base = some f := by
              rw [hlock₂]
              exact (h.locked m f).mpr ⟨hf, hl⟩
            have hunlock := ttmVtUnlock_ok (hvt₂ (.of m)) hbase₂ (by rw [hs₂]; exact hfiles₁ ▸ hf)
            obtain ⟨s₃, hs₃⟩ : ∃ s₃, s₃ = unlockedBy s₂ (.of m) f := ⟨_, rfl⟩
            have hfile₃ : s₃.file = s₂.file := by rw [hs₃]; rfl
            have hput : s₃.putLocked f = (s₃.put m).modify f fun file => { file with lockedMaster := none } := by
              unfold State.putLocked
              rw [hfile₃, hlocked₂, hl]
            rw [hunlock, Option.bind_some, ← hs₃, if_neg (not_not.mpr (by rw [hfile₃, hlocked₂, hl])), Option.map_some,
              Option.map_some, Option.map_some, if_neg (not_not.mpr rfl), hput]
            refine ⟨fun _ => ⟨_, rfl, ?_⟩, fun hc => absurd (fun _ _ _ _ m' hm' => ?_) hc⟩
            · have hvt₃ : ∀ v, VtOk s₃ v := hs₃ ▸ VtOk.unlockedBy hvt₂ hbase₂
              refine h.became hf hminor hm hl rfl ?_ ?_ ?_ ?_ ?_ (fun v => (hvt₃ v).congr rfl rfl) ?_ ?_ (fun m' hm' => ?_) ?_
              · rw [hs₃, hs₂, hs₁]; rfl
              · rw [hs₃, hs₂, hs₁]; rfl
              · rw [hs₃, hs₂, hs₁]; rfl
              · rw [hs₃, hs₂, hs₁]; rfl
              · change Function.update s₃.file f { s₃.file f with lockedMaster := none } = _
                rw [hfile₃, hfile₂, Function.update_self, Function.update_idem]
              · change (s₃.lock .fbdev).base = some f
                rw [hs₃, unlockedBy_other (of_ne m).symm, hs₂]
                exact congrArg TtmLock.base (lockedBy_lock s₁ .fbdev f)
              · change (s₃.lock (.of m)).base = none
                rw [hs₃, unlockedBy_base]
              · change s₃.lock (.of m') = _
                rw [hs₃, unlockedBy_other (fun heq => hm' (VmwMaster.of.inj heq)), hlock₂]
              · have hrefs₃ : s₃.refcount = Function.update s.refcount m (s.refcount m + 1) := by
                  rw [hs₃, hs₂, hs₁]
                  rfl
                change Function.update s₃.refcount m (s₃.refcount m - 1) = _
                rw [hrefs₃, Function.update_self, Function.update_idem, Nat.add_sub_cancel, Function.update_eq_self]
            · rw [hm] at hm'
              exact hm' ▸ hl
          · refine ⟨fun hc => absurd (hc hmaster hminor (henable₁ ▸ hlocks.1) hlocks.2 m hm) hl, fun _ => ?_⟩
            cases hunlock : ttmVtUnlock s₂ (.of m) with
            | none => rfl
            | some s₃ =>
              rw [Option.bind_some, if_pos (by rw [ttmVtUnlock_file hunlock, hlocked₂]; exact hl)]
              rfl
        · obtain ⟨ret, hret, hset⟩ := vmwMasterSet_failed (f := f) (m := m) false hactive₁ (hvt₁ _) hfree₁ hlocks
          rw [hset, Option.map_some, if_pos hret]
          have hback : (s₁.modify f fun file => { file with isMaster := false }).putMinor = s := by
            have hfile : ({ s.file f with isMaster := false } : DrmFile) = s.file f := by rw [← hmaster]
            rw [putMinor_of (show (s₁.modify f _).minorMaster = some m by rw [hs₁]; rfl), hs₁]
            unfold State.put State.modify State.get
            simp only [Function.update_self, Function.update_idem, Nat.add_sub_cancel, Function.update_eq_self, hfile, ← hminor]
          rw [hback]
          refine ⟨fun _ => ⟨s, rfl, h⟩, fun hc => absurd (fun _ _ hinc hlock => ?_) hc⟩
          exact absurd ⟨henable₁ ▸ hinc, hlock⟩ hlocks

end Set

section Open

theorem not_mem (h : Inv s) : s.nextFile ∉ s.files := fun hf => absurd (h.fresh _ hf) (Nat.lt_irrefl _)

/-- A new file: the master of the node is `m` then, and the file may be the one that made it so. -/
theorem opened (h : Inv s) (first : Bool) (hminor : s.minorMaster = if first then none else some m)
    (hm : first = true → m = s.nextMaster) (hactive : s'.active = some (.of m)) (hminor' : s'.minorMaster = some m)
    (hfiles : s'.files = s.nextFile :: s.files) (hnextFile : s'.nextFile = s.nextFile + 1)
    (hnextMaster : s'.nextMaster = if first then m + 1 else s.nextMaster)
    (hfile : s'.file = Function.update s.file s.nextFile ⟨some m, first, none, false⟩) (hvt : ∀ v, VtOk s' v)
    (hfbdev : (s'.lock .fbdev).base = if first then some s.nextFile else (s.lock .fbdev).base)
    (hothers : ∀ m', s'.lock (.of m') = s.lock (.of m'))
    (hrefs : s'.refcount = Function.update s.refcount m (s.refcount m + if first then 2 else 1)) : Inv s' := by
  have hfresh := h.not_mem
  have hself : s'.file s.nextFile = ⟨some m, first, none, false⟩ := by rw [hfile, Function.update_self]
  have hother : ∀ g, g ≠ s.nextFile → s'.file g = s.file g := fun g hg => by rw [hfile, Function.update_of_ne hg]
  have hold : ∀ g ∈ s.files, s'.file g = s.file g := fun g hg => hother g fun heq => hfresh (heq ▸ hg)
  have hmem : ∀ g, g ∈ s'.files ↔ g = s.nextFile ∨ g ∈ s.files := fun g => by rw [hfiles, List.mem_cons]
  have hbelow : m < s'.nextMaster := by
    rw [hnextMaster]
    cases first with
    | true => exact Nat.lt_succ_self m
    | false => exact not_le.mp fun hle => (h.freshMaster m hle).1 hminor
  have hle : s.nextMaster ≤ s'.nextMaster := by
    rw [hnextMaster]
    cases first with
    | true =>
      rw [hm rfl]
      exact Nat.le_succ _
    | false => exact Nat.le_refl _
  -- a file without a master of its own keeps its place
  have hnot : first = true → ∀ g ∈ s.files, (s.file g).isMaster = false ∧ (s.lock .fbdev).base = none := by
    intro hfirst g hg
    rw [hfirst] at hminor
    exact ⟨(h.of_none hminor).2 g hg, (h.of_none hminor).1⟩
  refine ⟨?_, hvt, fun g => ?_, fun m' g => ?_, fun g hg hc => ?_, fun m' hm' => ?_, fun g hg m' hc => ?_,
    fun g hg hc => ?_, ?_, fun g hg => ?_, fun m' hm' => ?_, fun m' => ?_⟩
  · rw [hactive, hminor']
    rfl
  · rw [hfbdev, hmem]
    cases first with
    | true =>
      refine ⟨fun hc => ?_, fun ⟨hg, hc⟩ => ?_⟩
      · obtain rfl := Option.some.inj hc
        exact ⟨.inl rfl, by rw [hself]⟩
      · rcases hg with rfl | hg
        · rfl
        · rw [hold g hg, (hnot rfl g hg).1] at hc
          cases hc
    | false =>
      refine (h.fbdev g).trans ⟨fun ⟨hg, hc⟩ => ⟨.inr hg, by rw [hold g hg]; exact hc⟩, fun ⟨hg, hc⟩ => ?_⟩
      rcases hg with rfl | hg
      · rw [hself] at hc
        cases hc
      · exact ⟨hg, by rw [← hold g hg]; exact hc⟩
  · rw [hothers, hmem]
    refine (h.locked m' g).trans ⟨fun ⟨hg, hc⟩ => ⟨.inr hg, by rw [hold g hg]; exact hc⟩, fun ⟨hg, hc⟩ => ?_⟩
    rcases hg with rfl | hg
    · rw [hself] at hc
      cases hc
    · exact ⟨hg, by rw [← hold g hg]; exact hc⟩
  · rcases (hmem g).mp hg with rfl | hg
    · rw [hself]
      exact ⟨rfl, m, rfl, hminor'⟩
    · rw [hold g hg] at hc ⊢
      cases first with
      | true =>
        rw [(hnot rfl g hg).1] at hc
        cases hc
      | false =>
        rw [hminor', ← show s.minorMaster = some m from hminor]
        exact h.master g hg hc
  · cases first with
    | true => exact ⟨s.nextFile, (hmem _).mpr (.inl rfl), by rw [hself]⟩
    | false =>
      obtain ⟨g, hg, hc⟩ := h.mastered m hminor
      exact ⟨g, (hmem g).mpr (.inr hg), by rw [hold g hg]; exact hc⟩
  · rw [hminor']
    rcases (hmem g).mp hg with rfl | hg
    · rw [hself] at hc
      cases hc
    · rw [hold g hg] at hc
      cases first with
      | true =>
        intro hsame
        rw [← hsame, hm rfl] at hc
        exact ((h.freshMaster _ (Nat.le_refl _)).2 g hg).2 hc
      | false =>
        rw [← show s.minorMaster = some m from hminor]
        exact h.parted g hg m' hc
  · rcases (hmem g).mp hg with rfl | hg
    · rw [hself] at hc
      cases hc
    · rw [hold g hg] at hc ⊢
      exact h.released g hg hc
  · rw [hfiles]
    exact List.nodup_cons.mpr ⟨hfresh, h.nodup⟩
  · rw [hnextFile]
    rcases (hmem g).mp hg with rfl | hg
    · exact Nat.lt_succ_self _
    · exact Nat.lt_succ_of_lt (h.fresh g hg)
  · obtain ⟨_, hfreshm⟩ := h.freshMaster m' (hle.trans hm')
    have hne : (some m : Option MasterId) ≠ some m' := fun hc => by
      rw [Option.some.inj hc] at hbelow
      exact absurd hm' (not_le.mpr hbelow)
    refine ⟨hminor' ▸ hne, fun g hg => ?_⟩
    rcases (hmem g).mp hg with rfl | hg
    · rw [hself]
      exact ⟨hne, (Option.some_ne_none m').symm⟩
    · rw [hold g hg]
      exact hfreshm g hg
  · have hcount := refs_cons hfiles hfresh hother m'
    have href := h.refs m'
    rw [hself, hminor, hminor', named_none] at hcount
    dsimp only at hcount
    rw [hrefs]
    by_cases heq : m' = m
    · subst heq
      rw [Function.update_self]
      rw [named_self] at hcount
      cases first with
      | true =>
        rw [if_pos rfl] at hcount ⊢
        rw [named_none] at hcount
        omega
      | false =>
        rw [if_neg Bool.noConfusion] at hcount ⊢
        rw [named_self] at hcount
        omega
    · rw [Function.update_of_ne heq]
      rw [named_ne (Ne.symm heq)] at hcount
      have hnamed : named (if first = true then none else some m) m' = 0 := by
        split
        · exact named_none m'
        · exact named_ne (Ne.symm heq)
      rw [hnamed] at hcount
      omega

theorem refcount_fresh (h : Inv s) (hm : s.nextMaster ≤ m) : s.refcount m = 0 := by
  obtain ⟨hminor, hfresh⟩ := h.freshMaster m hm
  have hmaster : s.files.countP (fun f => decide ((s.file f).master = some m)) = 0 :=
    List.countP_eq_zero.mpr fun f hf => by simpa using (hfresh f hf).1
  have hlocked : s.files.countP (fun f => decide ((s.file f).lockedMaster = some m)) = 0 :=
    List.countP_eq_zero.mpr fun f hf => by simpa using (hfresh f hf).2
  rw [h.refs m, refs_eq, hmaster, hlocked, named, if_neg hminor]

/-- What is not in the list of files does not matter. -/
theorem unlisted (h : Inv s) (hother : ∀ g ∈ s.files, s'.file g = s.file g) (hactive : s'.active = s.active)
    (hlock : s'.lock = s.lock) (hlog : s'.log = s.log) (hminor : s'.minorMaster = s.minorMaster)
    (hfiles : s'.files = s.files) (hnextFile : s'.nextFile = s.nextFile) (hnextMaster : s.nextMaster ≤ s'.nextMaster)
    (hrefs : s'.refcount = s.refcount) : Inv s' := by
  refine ⟨?_, fun v => (h.vt v).congr (by rw [hlock]) (by rw [hlog]), fun g => ?_, fun m g => ?_, fun g hg => ?_, fun m hc => ?_,
    fun g hg => ?_, fun g hg => ?_, ?_, ?_, fun m hm => ?_, fun m => ?_⟩
  · rw [hactive, hminor]
    exact h.active
  · rw [hlock, hfiles]
    refine (h.fbdev g).trans (and_congr_right fun hg => ?_)
    rw [hother g hg]
  · rw [hlock, hfiles]
    refine (h.locked m g).trans (and_congr_right fun hg => ?_)
    rw [hother g hg]
  · rw [hfiles] at hg
    rw [hother g hg, hminor]
    exact h.master g hg
  · rw [hminor] at hc
    obtain ⟨g, hg, hc'⟩ := h.mastered m hc
    exact ⟨g, hfiles ▸ hg, by rw [hother g hg]; exact hc'⟩
  · rw [hfiles] at hg
    rw [hother g hg, hminor]
    exact h.parted g hg
  · rw [hfiles] at hg
    rw [hother g hg]
    exact h.released g hg
  · rw [hfiles]
    exact h.nodup
  · rw [hfiles, hnextFile]
    exact h.fresh
  · obtain ⟨hne, hfresh⟩ := h.freshMaster m (hnextMaster.trans hm)
    refine ⟨by rw [hminor]; exact hne, fun g hg => ?_⟩
    rw [hfiles] at hg
    rw [hother g hg]
    exact hfresh g hg
  · have hmaster : s.files.countP (fun g => decide ((s'.file g).master = some m)) =
        s.files.countP (fun g => decide ((s.file g).master = some m)) :=
      List.countP_congr fun g hg => by rw [hother g hg]
    have hlocked : s.files.countP (fun g => decide ((s'.file g).lockedMaster = some m)) =
        s.files.countP (fun g => decide ((s.file g).lockedMaster = some m)) :=
      List.countP_congr fun g hg => by rw [hother g hg]
    rw [hrefs, h.refs m, refs_eq, refs_eq, hfiles, hminor, hmaster, hlocked]

/-- The file of an open that fails is gone with its master. -/
theorem abandoned (h : Inv s) (hminor : s.minorMaster = none) (hs' : s' =
    { s with minorMaster := some s.nextMaster, nextMaster := s.nextMaster + 1
             refcount := Function.update s.refcount s.nextMaster 2
             file := Function.update s.file s.nextFile ⟨some s.nextMaster, true, none, false⟩ }) :
    Inv (s'.putMinor.putMaster s.nextFile) := by
  obtain ⟨s₁, hs₁⟩ : ∃ s₁, s₁ = s'.putMinor := ⟨_, rfl⟩
  have hfile₁ : s₁.file = s'.file ∧ s₁.active = s'.active ∧ s₁.lock = s'.lock ∧ s₁.log = s'.log ∧
      s₁.minorMaster = none ∧ s₁.files = s'.files ∧ s₁.nextFile = s'.nextFile ∧ s₁.nextMaster = s'.nextMaster ∧
      s₁.refcount = Function.update s'.refcount s.nextMaster (s'.refcount s.nextMaster - 1) := by
    rw [hs₁, putMinor_of (m := s.nextMaster) (by rw [hs'])]
    exact ⟨rfl, rfl, rfl, rfl, rfl, rfl, rfl, rfl, rfl⟩
  obtain ⟨hfile₁, hactive₁, hlock₁, hlog₁, hminor₁, hfiles₁, hnextFile₁, hnextMaster₁, hrefs₁⟩ := hfile₁
  obtain ⟨hfile, hrefs, hactive, hlock, hlog, hminor', hfiles, hnextFile, hnextMaster⟩ :=
    putMaster_fields s₁ s.nextFile
  rw [← hs₁]
  refine h.unlisted (fun g hg => ?_) ?_ ?_ ?_ ?_ ?_ ?_ ?_ ?_
  · have hne : g ≠ s.nextFile := fun heq => h.not_mem (heq ▸ hg)
    rw [hfile, Function.update_of_ne hne, hfile₁, hs']
    exact Function.update_of_ne hne ..
  · rw [hactive, hactive₁, hs']
  · rw [hlock, hlock₁, hs']
  · rw [hlog, hlog₁, hs']
  · rw [hminor', hminor₁, hminor]
  · rw [hfiles, hfiles₁, hs']
  · rw [hnextFile, hnextFile₁, hs']
  · rw [hnextMaster, hnextMaster₁, hs']
    exact Nat.le_succ _
  · have hself : (s₁.file s.nextFile).master = some s.nextMaster := by
      rw [hfile₁, hs']
      dsimp only
      rw [Function.update_self]
    have hrefcount : s₁.refcount = Function.update s.refcount s.nextMaster 1 := by
      rw [hrefs₁, hs']
      dsimp only
      rw [Function.update_idem, Function.update_self]
    funext m
    have hm := hrefs m
    rw [hself, hrefcount] at hm
    by_cases heq : m = s.nextMaster
    · subst heq
      rw [Function.update_self, named_self] at hm
      have hzero := h.refcount_fresh (Nat.le_refl s.nextMaster)
      have hone := hm (Nat.le_refl 1)
      omega
    · rw [Function.update_of_ne heq, named_ne (Ne.symm heq)] at hm
      exact hm (Nat.zero_le _)

theorem openUnderMutex_ok (h : Inv s) (o : OpenOutcome) :
    ∃ ret s', openUnderMutex s o = some (ret, s') ∧
      Inv (if ret ≠ 0 then s' else { s' with files := s'.nextFile :: s'.files, nextFile := s'.nextFile + 1 }) := by
  unfold openUnderMutex
  cases hminor : s.minorMaster with
  | some m =>
    refine ⟨0, _, rfl, ?_⟩
    rw [if_neg (not_not.mpr rfl)]
    refine h.opened false hminor (fun hc => Bool.noConfusion hc) ?_ hminor rfl rfl rfl rfl
      (fun v => (h.vt v).congr rfl rfl) rfl (fun _ => rfl) rfl
    have hactive := h.active
    rw [hminor] at hactive
    exact hactive
  | none =>
    unfold openMaster
    dsimp only
    by_cases hmaster : o.master = false
    · rw [if_pos hmaster]
      exact ⟨_, s, rfl, h⟩
    · rw [if_neg hmaster]
      obtain ⟨s₁, hs₁⟩ : ∃ s₁ : State, s₁ = { s with
          minorMaster := some s.nextMaster, nextMaster := s.nextMaster + 1
          refcount := Function.update s.refcount s.nextMaster 2
          file := Function.update s.file s.nextFile ⟨some s.nextMaster, true, none, false⟩ } := ⟨_, rfl⟩
      have hgone := h.abandoned hminor hs₁
      rw [← hs₁]
      by_cases hcreate : o.create ≠ 0
      · rw [if_pos hcreate]
        exact ⟨_, _, rfl, by rw [if_pos hcreate]; exact hgone⟩
      · rw [if_neg hcreate]
        obtain ⟨hfree, _⟩ := h.of_none hminor
        have hactive₁ : s₁.active = some .fbdev := by
          rw [hs₁]
          have hactive := h.active
          rw [hminor] at hactive
          exact hactive
        have hvt₁ : ∀ v, VtOk s₁ v := by
          rw [hs₁]
          exact fun v => (h.vt v).congr rfl rfl
        have hlock₁ : s₁.lock = s.lock := by rw [hs₁]
        have hfree₁ : (s₁.lock .fbdev).base = none := by rw [hlock₁]; exact hfree
        by_cases hlocks : Locks s₁.enableFb o.set
        · rw [vmwMasterSet_locked hactive₁ hlocks]
          unfold activate
          rw [if_pos rfl, Option.map_some, Option.map_some, Option.map_some, if_neg (not_not.mpr rfl)]
          refine ⟨_, _, rfl, ?_⟩
          rw [if_neg (not_not.mpr rfl)]
          have hvt₂ := VtOk.lockedBy hvt₁ hfree₁ s.nextFile
          refine h.opened (m := s.nextMaster) true hminor (fun _ => rfl) rfl ?_ ?_ ?_ ?_ ?_
            (fun v => (hvt₂ v).congr rfl rfl) ?_ (fun m' => ?_) ?_
          · rw [hs₁]; rfl
          · rw [hs₁]; rfl
          · rw [hs₁]; rfl
          · rw [hs₁]; rfl
          · rw [hs₁]; rfl
          · exact congrArg TtmLock.base (lockedBy_lock s₁ .fbdev s.nextFile)
          · rw [← hlock₁]
            exact lockedBy_other (of_ne m') s₁ s.nextFile
          · rw [h.refcount_fresh (Nat.le_refl _), hs₁]
            rfl
        · obtain ⟨ret, hret, hset⟩ := vmwMasterSet_failed (f := s.nextFile) (m := s.nextMaster) true
            hactive₁ (hvt₁ _) hfree₁ hlocks
          rw [hset, Option.map_some, if_pos hret]
          exact ⟨_, _, rfl, by rw [if_pos hret]; exact hgone⟩

theorem drmOpenHelper_ok (h : Inv s) (o : OpenOutcome) : ∃ s', drmOpenHelper s o = some s' ∧ Inv s' := by
  unfold drmOpenHelper
  by_cases hopen : o.driverOpen < 0
  · rw [if_pos hopen]
    exact ⟨s, rfl, h⟩
  · obtain ⟨ret, s', hunder, hinv⟩ := h.openUnderMutex_ok o
    rw [if_neg hopen, hunder, Option.map_some]
    exact ⟨_, rfl, hinv⟩

end Open

/-- A step gets to its end unless a file becomes master again that did not leave. -/
theorem step {op : Op} (h : Inv s) (hen : Enabled s op) :
    (Returns s op → ∃ s', step s op = some s' ∧ Inv s') ∧ (¬ Returns s op → step s op = none) := by
  cases op with
  | opn o => exact ⟨fun _ => h.drmOpenHelper_ok o, fun hc => absurd trivial hc⟩
  | setmaster f o => exact h.drmSetmasterIoctl_spec hen.1 o
  | dropmaster f lock => exact ⟨fun _ => h.drmDropmasterIoctl_ok hen.1 lock, fun hc => absurd trivial hc⟩
  | release f lock => exact ⟨fun _ => h.drmRelease_ok hen.1 lock, fun hc => absurd trivial hc⟩
  | postclose f => exact ⟨fun _ => h.drmPostclose_ok hen.1 hen.2, fun hc => absurd trivial hc⟩

theorem init (enableFb : Bool) : Inv (State.init enableFb) where
  active := rfl
  vt _ := ⟨rfl, fun _ hc => (by cases hc), rfl⟩
  fbdev _ := ⟨fun hc => (by cases hc), fun hc => absurd hc.1 List.not_mem_nil⟩
  locked _ _ := ⟨fun hc => (by cases hc), fun hc => absurd hc.1 List.not_mem_nil⟩
  master _ hf := absurd hf List.not_mem_nil
  mastered _ hc := by cases hc
  parted _ hf := absurd hf List.not_mem_nil
  released _ hf := absurd hf List.not_mem_nil
  nodup := List.nodup_nil
  fresh _ hf := absurd hf List.not_mem_nil
  freshMaster m _ := ⟨(Option.some_ne_none m).symm, fun _ hf => absurd hf List.not_mem_nil⟩
  refs _ := rfl

theorem handedOver (h : Inv s) : HandedOver s where
  active := h.active
  locked m := by
    rw [(h.vt (.of m)).flag, Option.isSome_iff_exists]
    exact exists_congr fun f => h.locked m f
  fbdev := by
    rw [(h.vt .fbdev).flag, Option.isSome_iff_exists, Option.ne_none_iff_exists']
    constructor
    · rintro ⟨f, hf⟩
      obtain ⟨hf, hmaster⟩ := (h.fbdev f).mp hf
      obtain ⟨_, m, _, hm⟩ := h.master f hf hmaster
      exact ⟨m, hm⟩
    · rintro ⟨m, hm⟩
      obtain ⟨f, hf, hmaster⟩ := h.mastered m hm
      exact ⟨f, (h.fbdev f).mpr ⟨hf, hmaster⟩⟩
  once v := ⟨(s.lock v).base, (h.vt v).log, by rw [(h.vt v).flag, Option.isSome_iff_ne_none]⟩
  refs := h.refs

end Inv

theorem masters_handed_over (enableFb : Bool) {ops : List Op}
    (hrun : Run step (fun s op => Enabled s op ∧ Returns s op) (State.init enableFb) ops s) :
    HandedOver s ∧ ∀ op, Enabled s op → ((∃ s', step s op = some s') ↔ Returns s op) := by
  have hinv : Inv s := by
    refine Run.invariant (fun s op s' hok hstep hinv => ?_) hrun (Inv.init enableFb)
    obtain ⟨s'', hs'', hinv''⟩ := (hinv.step hok.1).1 hok.2
    exact Option.some.inj (hs''.symm.trans hstep) ▸ hinv''
  refine ⟨hinv.handedOver, fun op hen => ⟨fun ⟨s', hs'⟩ => ?_, fun hret => ?_⟩⟩
  · by_contra hno
    rw [(hinv.step hen).2 hno] at hs'
    cases hs'
  · obtain ⟨s', hs', _⟩ := (hinv.step hen).1 hret
    exact ⟨s', hs'⟩

/-- A master is dropped, and comes back. -/
def dropAndReturn : List Op := [.opn ⟨0, true, 0, ⟨0, 0⟩⟩, .dropmaster 0 0, .setmaster 0 ⟨0, 0⟩]

theorem masters_handed_over_return : ∃ s, Run step (fun s op => Enabled s op ∧ Returns s op) (State.init true)
    dropAndReturn s ∧ s.minorMaster = some 0 ∧ HandedOver s := by
  have hrun : Run step (fun s op => Enabled s op ∧ Returns s op) (State.init true) dropAndReturn _ :=
    .cons ⟨trivial, trivial⟩ rfl <| .cons ⟨⟨List.mem_cons_self, rfl⟩, trivial⟩ rfl <|
      .cons ⟨⟨List.mem_cons_self, rfl⟩, fun _ _ _ _ _ hm => hm⟩ rfl <| .nil _
  exact ⟨_, hrun, rfl, (masters_handed_over true hrun).1⟩

/-- A second file of the master, or a master whose lock was not taken when it was dropped, does not get back. -/
theorem masters_not_handed_over :
    (∃ s, Run step Enabled (State.init true) [.opn ⟨0, true, 0, ⟨0, 0⟩⟩, .opn ⟨0, true, 0, ⟨0, 0⟩⟩, .dropmaster 0 0] s ∧
      Enabled s (.setmaster 1 ⟨0, 0⟩) ∧ step s (.setmaster 1 ⟨0, 0⟩) = none) ∧
    ∃ s, Run step Enabled (State.init true) [.opn ⟨0, true, 0, ⟨0, 0⟩⟩, .dropmaster 0 (-ENOMEM)] s ∧
      Enabled s (.setmaster 0 ⟨0, 0⟩) ∧ step s (.setmaster 0 ⟨0, 0⟩) = none := by
  refine ⟨⟨_, .cons trivial rfl <| .cons trivial rfl <| .cons ⟨?_, rfl⟩ rfl <| .nil _, ⟨?_, rfl⟩, rfl⟩,
    ⟨_, .cons trivial rfl <| .cons ⟨?_, rfl⟩ rfl <| .nil _, ⟨?_, rfl⟩, rfl⟩⟩
  · exact List.mem_cons_of_mem 1 List.mem_cons_self
  · exact List.mem_cons_self
  · exact List.mem_cons_self
  · exact List.mem_cons_self

end Vmwgfx.Master
