import Mathlib.Data.List.Basic
import Mathlib.Data.List.Pairwise
import Vmwgfx.Kernel
import Vmwgfx.Lib.Machine

/-! The legacy display units of `vmwgfx_ldu.c`. -/

namespace Vmwgfx.Kms.Ldu

open Lib

/-- What a unit reads of a `struct drm_display_mode`. -/
structure Mode where
  hdisplay : Int32
  vdisplay : Int32
  deriving DecidableEq

/-- A framebuffer; `pins` says that it has `pin` and `unpin`. -/
structure Fb where
  id : Nat
  width : UInt32
  height : UInt32
  pitch : UInt32
  bitsPerPixel : UInt32
  depth : UInt32
  pins : Bool
  deriving DecidableEq

structure Crtc where
  fb : Option Fb
  mode : Mode
  x : Int32
  y : Int32
  enabled : Bool
  deriving DecidableEq

/-- `struct vmw_legacy_display` and its units, a unit on the list by its number.  `pinned` and `unpinned` count
the calls of `pin` and `unpin`. -/
structure State where
  active : List Nat
  numActive : Nat
  fb : Option Fb
  unit : Nat → Crtc
  pinned : Fb → Nat
  unpinned : Fb → Nat

/-- The registers that are written, and the pitchlock register of the FIFO. -/
inductive Reg
  | pitchlock
  | fifoPitchlock
  | width
  | height
  | bitsPerPixel
  | numGuestDisplays
  | displayId
  | displayIsPrimary
  | displayPositionX
  | displayPositionY
  | displayWidth
  | displayHeight
  deriving DecidableEq

abbrev Writes := List (Reg × UInt32)

/-- The capabilities. -/
structure Device where
  topology : Bool
  pitchlock : Bool
  fifoPitchlock : Bool

/-- What a call reads of the device, and what is where the cursor of the list points to after the last entry;
`none` is a pointer that cannot be followed. -/
structure Env where
  depth : UInt32
  beyond : Option Fb

def SVGA_ID_INVALID : UInt32 := 0xFFFFFFFF

section Commit

variable (dev : Device) (env : Env)

def vmwKmsWriteSvga (width height pitch bpp depth : UInt32) : Int × Writes :=
  let lock := if dev.pitchlock then [(Reg.pitchlock, pitch)]
    else if dev.fifoPitchlock then [(Reg.fifoPitchlock, pitch)] else []
  (if env.depth ≠ depth then -EINVAL else 0, lock ++ [(.width, width), (.height, height), (.bitsPerPixel, bpp)])

/-- The extent of the active units. -/
def extent (unit : Nat → Crtc) (active : List Nat) : Int32 × Int32 :=
  active.foldl (fun (w, h) i => (max w ((unit i).x + (unit i).mode.hdisplay), max h ((unit i).y + (unit i).mode.vdisplay)))
    (0, 0)

def writeDisplay (crtc : Crtc) (i : Nat) : Writes :=
  [(.displayId, i.toUInt32), (.displayIsPrimary, if i = 0 then 1 else 0), (.displayPositionX, crtc.x.toUInt32),
    (.displayPositionY, crtc.y.toUInt32), (.displayWidth, crtc.mode.hdisplay.toUInt32),
    (.displayHeight, crtc.mode.vdisplay.toUInt32), (.displayId, SVGA_ID_INVALID)]

/-- `vmw_ldu_commit_list`; `none` is a `BUG` or an oops.  Without the capability the framebuffer is read through
the cursor of a loop that has ended. -/
def vmwLduCommitList (s : State) : Option (Int × Writes) :=
  if ¬ dev.topology then
    if s.active = [] then some (0, [])
    else
      let (w, h) := extent s.unit s.active
      env.beyond.map fun fb => vmwKmsWriteSvga dev env w.toUInt32 h.toUInt32 fb.pitch fb.bitsPerPixel fb.depth
  else do
    let svga ← match s.active with
      | [] => some []
      | entry :: _ => (s.unit entry).fb.map fun fb =>
          (vmwKmsWriteSvga dev env fb.width fb.height fb.pitch fb.bitsPerPixel fb.depth).2
    let displays := s.active.zipIdx.flatMap fun (entry, i) => writeDisplay (s.unit entry) i
    if s.active.length ≠ s.numActive then none
    else
      some (0, svga ++ (.numGuestDisplays, if s.numActive ≠ 0 then s.numActive.toUInt32 else 1) :: displays)

end Commit

def State.pin (s : State) (fb : Fb) : State :=
  if fb.pins then { s with pinned := Function.update s.pinned fb (s.pinned fb + 1) } else s

def State.unpin (s : State) (fb : Fb) : State :=
  if fb.pins then { s with unpinned := Function.update s.unpinned fb (s.unpinned fb + 1) } else s

/-- `none` is a `BUG`, also below. -/
def vmwLduDelActive (s : State) (i : Nat) : Option State :=
  if i ∉ s.active then some s
  else
    let s := { s with active := s.active.erase i, numActive := s.numActive - 1 }
    if s.numActive = 0 then s.fb.map fun fb => { s.unpin fb with fb := none } else some s

/-- The unit is added behind the last entry before the first unit of a higher number. -/
def listAdd (i : Nat) : List Nat → List Nat
  | [] => [i]
  | entry :: entries => if i < entry then i :: entry :: entries else entry :: listAdd i entries

def State.unpinOld (s : State) : State :=
  match s.fb with
  | none => s
  | some fb => s.unpin fb

def vmwLduAddActive (s : State) (i : Nat) (vfb : Fb) : Option State :=
  if s.numActive = 0 ∧ s.fb.isSome then none
  else
    let s := if some vfb ≠ s.fb then { s.unpinOld.pin vfb with fb := some vfb } else s
    if i ∈ s.active then some s
    else some { s with active := listAdd i s.active, numActive := s.numActive + 1 }

/-- `struct drm_mode_set`; `connector` says that its one connector is the unit's. -/
structure ModeSet where
  numConnectors : Nat
  connector : Bool
  mode : Option Mode
  fb : Option Fb
  x : UInt32
  y : UInt32
  deriving DecidableEq

def State.setCrtc (s : State) (i : Nat) (crtc : Crtc) : State := { s with unit := Function.update s.unit i crtc }

/-- The framebuffer is not the one that the active units show. -/
def otherFb (s : State) (i : Nat) (fb : Option Fb) : Bool :=
  s.fb.isSome && fb.isSome && !(s.numActive = 1 && i ∈ s.active) && s.fb ≠ fb

/-- The rectangle is outside of the framebuffer. -/
def outside (mode : Mode) (fb : Fb) (x y : UInt32) : Bool :=
  fb.width < x + mode.hdisplay.toUInt32 || fb.height < y + mode.vdisplay.toUInt32

/-- How `vmw_ldu_crtc_set_config` goes on: it is refused, or it commits the list that it leaves. -/
inductive Change
  | refused
  | commit (s : State)

/-- `vmw_ldu_crtc_set_config` up to the commit of the list. -/
def change (s : State) (i : Nat) (set : ModeSet) : Option Change :=
  if 1 < set.numConnectors then some .refused
  else if set.numConnectors = 1 ∧ set.connector = false then some .refused
  else if otherFb s i set.fb then some .refused
  else
    match set.numConnectors, set.mode, set.fb with
    | 0, _, _ | _, none, _ | _, _, none =>
      (vmwLduDelActive (s.setCrtc i { s.unit i with fb := none, enabled := false }) i).map .commit
    | _, some mode, some fb =>
      if outside mode fb set.x set.y then some .refused
      else (vmwLduAddActive (s.setCrtc i ⟨some fb, mode, set.x.toInt32, set.y.toInt32, true⟩) i fb).map .commit

def vmwLduCrtcSetConfig (dev : Device) (env : Env) (s : State) (i : Nat) (set : ModeSet) :
    Option (Int × Writes × State) :=
  (change s i set).bind fun
    | .refused => some (-EINVAL, [], s)
    | .commit s => (vmwLduCommitList dev env s).map fun (ret, writes) => (ret, writes, s)

structure Action where
  unit : Nat
  set : ModeSet
  env : Env

def step (dev : Device) (s : State) (a : Action) : Option State :=
  (vmwLduCrtcSetConfig dev a.env s a.unit a.set).map fun (_, _, s) => s

/-- `vmw_kms_init_legacy_display_system` and `vmw_ldu_init`. -/
def init : State where
  active := []
  numActive := 0
  fb := none
  unit := fun _ => ⟨none, ⟨0, 0⟩, 0, 0, false⟩
  pinned := fun _ => 0
  unpinned := fun _ => 0

/-- What the list, its framebuffer and the units keep true of each other. -/
structure Sound (s : State) : Prop where
  sorted : s.active.Pairwise (· < ·)
  active : ∀ i, i ∈ s.active ↔ (s.unit i).enabled = true
  count : s.numActive = s.active.length
  null : s.fb = none ↔ s.active = []
  shared : ∀ i ∈ s.active, (s.unit i).fb = s.fb
  pinned : ∀ fb, s.pinned fb = s.unpinned fb + if s.fb = some fb ∧ fb.pins = true then 1 else 0

/-- What the commit writes and returns depends on the device and on the active units only. -/
def FromActive (dev : Device) (s : State) : Prop :=
  ∀ t env env', t.active = s.active → t.numActive = s.numActive → (∀ i ∈ s.active, t.unit i = s.unit i) →
    env.depth = env'.depth → vmwLduCommitList dev env s = vmwLduCommitList dev env' t

section List

variable {i j : Nat} {l : List Nat}

theorem mem_listAdd (i : Nat) (l : List Nat) : j ∈ listAdd i l ↔ j = i ∨ j ∈ l := by
  induction l with
  | nil => exact List.mem_singleton.trans (or_iff_left List.not_mem_nil).symm
  | cons entry entries ih =>
    unfold listAdd
    split
    · exact List.mem_cons
    · rw [List.mem_cons, List.mem_cons, ih]
      exact or_left_comm

theorem length_listAdd (i : Nat) (l : List Nat) : (listAdd i l).length = l.length + 1 := by
  induction l with
  | nil => rfl
  | cons entry entries ih =>
    unfold listAdd
    split
    · rfl
    · exact congrArg (· + 1) ih

theorem pairwise_listAdd (hi : i ∉ l) (h : l.Pairwise (· < ·)) : (listAdd i l).Pairwise (· < ·) := by
  induction l with
  | nil => exact List.pairwise_singleton _ i
  | cons entry entries ih =>
    obtain ⟨hentry, hentries⟩ := List.pairwise_cons.mp h
    obtain ⟨hne, hi⟩ := not_or.mp (fun hmem => hi (List.mem_cons.mpr hmem))
    unfold listAdd
    split
    case isTrue hlt =>
      apply List.pairwise_cons.mpr
      refine ⟨fun j hj => ?_, h⟩
      rcases List.mem_cons.mp hj with rfl | hj
      · exact hlt
      · exact Nat.lt_trans hlt (hentry j hj)
    case isFalse hge =>
      apply List.pairwise_cons.mpr
      refine ⟨fun j hj => ?_, ih hi hentries⟩
      rcases (mem_listAdd i entries).mp hj with rfl | hj
      · omega
      · exact hentry j hj

theorem mem_erase_of_sorted (h : l.Pairwise (· < ·)) : j ∈ l.erase i ↔ j ≠ i ∧ j ∈ l :=
  List.Nodup.mem_erase_iff (h.imp Nat.ne_of_lt)

end List

section Pins

variable {s : State} {fb : Fb}

@[simp] theorem pin_active (s : State) (fb : Fb) : (s.pin fb).active = s.active := by
  unfold State.pin
  split <;> rfl

@[simp] theorem pin_numActive (s : State) (fb : Fb) : (s.pin fb).numActive = s.numActive := by
  unfold State.pin
  split <;> rfl

@[simp] theorem pin_unit (s : State) (fb : Fb) : (s.pin fb).unit = s.unit := by
  unfold State.pin
  split <;> rfl

@[simp] theorem unpin_active (s : State) (fb : Fb) : (s.unpin fb).active = s.active := by
  unfold State.unpin
  split <;> rfl

@[simp] theorem unpin_numActive (s : State) (fb : Fb) : (s.unpin fb).numActive = s.numActive := by
  unfold State.unpin
  split <;> rfl

@[simp] theorem unpin_unit (s : State) (fb : Fb) : (s.unpin fb).unit = s.unit := by
  unfold State.unpin
  split <;> rfl

/-- The calls of `pin` that have not been matched; `fb` is what the display shows. -/
def Pinned (s : State) (fb : Option Fb) : Prop :=
  ∀ f, s.pinned f = s.unpinned f + if fb = some f ∧ f.pins = true then 1 else 0

theorem Pinned.unpin (h : Pinned s (some fb)) : Pinned (s.unpin fb) none := by
  intro f
  have hf := h f
  rw [if_neg fun hnone => Option.noConfusion rfl (heq_of_eq hnone.1)]
  unfold State.unpin
  cases hpins : fb.pins with
  | false =>
    rw [if_neg Bool.false_ne_true]
    rw [if_neg] at hf
    · exact hf
    · rintro ⟨heq, hpins'⟩
      cases heq
      rw [hpins] at hpins'
      cases hpins'
  | true =>
    rw [if_pos rfl]
    by_cases heq : f = fb
    · subst heq
      rw [if_pos ⟨rfl, hpins⟩] at hf
      simpa using hf
    · rw [if_neg fun hsome => heq (Option.some.inj hsome.1).symm] at hf
      simpa [Function.update_of_ne heq] using hf

theorem Pinned.pin (h : Pinned s none) (fb : Fb) : Pinned (s.pin fb) (some fb) := by
  intro f
  have hf := h f
  rw [if_neg fun hnone => Option.noConfusion rfl (heq_of_eq hnone.1)] at hf
  unfold State.pin
  cases hpins : fb.pins with
  | false =>
    rw [if_neg Bool.false_ne_true, if_neg]
    · exact hf
    · rintro ⟨heq, hpins'⟩
      cases heq
      rw [hpins] at hpins'
      cases hpins'
  | true =>
    rw [if_pos rfl]
    by_cases heq : f = fb
    · subst heq
      rw [if_pos ⟨rfl, hpins⟩]
      simpa using hf
    · rw [if_neg fun hsome => heq (Option.some.inj hsome.1).symm]
      simpa [Function.update_of_ne heq] using hf

end Pins

section Change

variable {s : State} {i : Nat} {crtc : Crtc} {fb : Fb}

theorem setCrtc_self (s : State) (i : Nat) (crtc : Crtc) : (s.setCrtc i crtc).unit i = crtc := by
  unfold State.setCrtc
  exact Function.update_self ..

theorem setCrtc_of_ne {j : Nat} (hji : j ≠ i) : (s.setCrtc i crtc).unit j = s.unit j := by
  unfold State.setCrtc
  exact Function.update_of_ne hji ..

theorem Sound.fb_of_mem (h : Sound s) (hi : i ∈ s.active) : ∃ fb, s.fb = some fb := by
  apply Option.ne_none_iff_exists'.mp
  intro hnone
  rw [h.null.mp hnone] at hi
  cases hi

/-- A unit that is turned off leaves the list, the last one with the framebuffer. -/
theorem Sound.delActive (h : Sound s) (i : Nat) (crtc : Crtc) (hoff : crtc.enabled = false) :
    ∃ s', vmwLduDelActive (s.setCrtc i crtc) i = some s' ∧ Sound s' ∧ s'.active = s.active.erase i := by
  have henabled : ∀ j, j ∈ s.active.erase i ↔ ((s.setCrtc i crtc).unit j).enabled = true := by
    intro j
    rw [mem_erase_of_sorted h.sorted]
    by_cases hji : j = i
    · subst hji
      rw [setCrtc_self, hoff]
      simp
    · rw [setCrtc_of_ne hji, ← h.active j]
      exact and_iff_right hji
  have hsorted := h.sorted.sublist (List.erase_sublist (a := i))
  by_cases hi : i ∈ s.active
  · obtain ⟨fb, hfb⟩ := h.fb_of_mem hi
    have hlen : (s.active.erase i).length = s.numActive - 1 := by
      rw [List.length_erase_of_mem hi, h.count]
    have hdel : vmwLduDelActive (s.setCrtc i crtc) i =
        (fun t : State => if t.numActive = 0 then t.fb.map fun fb => { t.unpin fb with fb := none } else some t)
          { s.setCrtc i crtc with active := s.active.erase i, numActive := s.numActive - 1 } :=
      if_neg (not_not.mpr hi)
    rw [hdel]
    dsimp only
    by_cases hlast : s.numActive - 1 = 0
    · rw [if_pos hlast, show (s.setCrtc i crtc).fb = some fb from hfb]
      refine ⟨_, rfl, ?_, ?_⟩
      · exact {
          sorted := by simpa using hsorted
          active := by simpa using henabled
          count := by simp [hlen]
          null := by simp [← List.length_eq_zero_iff, hlen, hlast]
          shared := by simp [List.eq_nil_of_length_eq_zero (hlen.trans hlast)]
          pinned := Pinned.unpin (fun f => hfb ▸ h.pinned f) }
      · simp
    · rw [if_neg hlast]
      refine ⟨_, rfl, ?_, rfl⟩
      exact {
        sorted := hsorted
        active := henabled
        count := hlen.symm
        null := by
          constructor
          · intro hnone
            exact absurd (hfb.symm.trans hnone) (Option.some_ne_none fb)
          · intro hnil
            exact absurd (hlen.symm.trans (congrArg List.length hnil)) hlast
        shared := by
          intro j hj
          obtain ⟨hji, hj⟩ := (mem_erase_of_sorted h.sorted).mp hj
          exact (congrArg Crtc.fb (setCrtc_of_ne hji)).trans (h.shared j hj)
        pinned := h.pinned }
  · refine ⟨s.setCrtc i crtc, if_pos hi, ?_, (List.erase_of_not_mem hi).symm⟩
    rw [List.erase_of_not_mem hi] at henabled
    exact {
      sorted := h.sorted
      active := henabled
      count := h.count
      null := h.null
      shared := by
        intro j hj
        have hji : j ≠ i := fun heq => hi (heq ▸ hj)
        exact (congrArg Crtc.fb (setCrtc_of_ne hji)).trans (h.shared j hj)
      pinned := h.pinned }

/-- The state that shows the framebuffer. -/
def State.showFb (s : State) (vfb : Fb) : State :=
  if some vfb ≠ s.fb then { s.unpinOld.pin vfb with fb := some vfb } else s

theorem showFb_active (s : State) (fb : Fb) : (s.showFb fb).active = s.active := by
  unfold State.showFb State.unpinOld
  cases s.fb <;> split <;> simp

theorem showFb_numActive (s : State) (fb : Fb) : (s.showFb fb).numActive = s.numActive := by
  unfold State.showFb State.unpinOld
  cases s.fb <;> split <;> simp

theorem showFb_unit (s : State) (fb : Fb) : (s.showFb fb).unit = s.unit := by
  unfold State.showFb State.unpinOld
  cases s.fb <;> split <;> simp

theorem showFb_fb (s : State) (fb : Fb) : (s.showFb fb).fb = some fb := by
  unfold State.showFb
  split
  case isTrue => rfl
  case isFalse heq => exact (not_not.mp heq).symm

theorem Pinned.showFb (h : Pinned s s.fb) (fb : Fb) : Pinned (s.showFb fb) (some fb) := by
  unfold State.showFb State.unpinOld
  split
  case isTrue =>
    cases hfb : s.fb with
    | none => exact (hfb ▸ h : Pinned s none).pin fb
    | some old => exact (hfb ▸ h : Pinned s (some old)).unpin.pin fb
  case isFalse heq => exact (not_not.mp heq) ▸ h

/-- A unit that is set to a mode is on the list, which shows its framebuffer. -/
theorem Sound.addActive (h : Sound s) (i : Nat) (crtc : Crtc) (hon : crtc.enabled = true) (hfb : crtc.fb = some fb)
    (hother : otherFb s i (some fb) = false) :
    ∃ s', vmwLduAddActive (s.setCrtc i crtc) i fb = some s' ∧ Sound s' ∧ i ∈ s'.active := by
  have hshared : ∀ j ∈ s.active, j ≠ i → (s.unit j).fb = some fb := by
    intro j hj hji
    obtain ⟨old, hold⟩ := h.fb_of_mem hj
    rw [h.shared j hj]
    have halone : ¬ (s.numActive = 1 ∧ i ∈ s.active) := by
      rintro ⟨hone, hi⟩
      obtain ⟨k, hk⟩ := List.length_eq_one_iff.mp (h.count.symm.trans hone)
      rw [hk, List.mem_singleton] at hi hj
      exact hji (hj.trans hi.symm)
    by_contra hne
    have hrefused : otherFb s i (some fb) = true := by
      unfold otherFb
      rw [← Bool.decide_and, decide_eq_false halone, decide_eq_true hne, hold]
      rfl
    rw [hother] at hrefused
    cases hrefused
  have hbug : ¬ ((s.setCrtc i crtc).numActive = 0 ∧ (s.setCrtc i crtc).fb.isSome = true) := by
    rintro ⟨hnum, hsome⟩
    have hnil : s.active = [] := List.eq_nil_of_length_eq_zero (h.count.symm.trans hnum)
    rw [show (s.setCrtc i crtc).fb = none from h.null.mpr hnil] at hsome
    cases hsome
  have hadd : vmwLduAddActive (s.setCrtc i crtc) i fb =
      (fun t : State => if i ∈ t.active then some t
        else some { t with active := listAdd i t.active, numActive := t.numActive + 1 })
        ((s.setCrtc i crtc).showFb fb) := if_neg hbug
  have hpinned : Pinned ((s.setCrtc i crtc).showFb fb) (some fb) :=
    Pinned.showFb (show Pinned (s.setCrtc i crtc) (s.setCrtc i crtc).fb from h.pinned) fb
  have hunit : ∀ j, j ∈ s.active ∨ j = i → (((s.setCrtc i crtc).showFb fb).unit j).fb = some fb := by
    intro j hj
    rw [showFb_unit]
    by_cases hji : j = i
    · rw [hji, setCrtc_self, hfb]
    · rw [setCrtc_of_ne hji]
      exact hshared j (hj.resolve_right hji) hji
  have henabled : ∀ j, (((s.setCrtc i crtc).showFb fb).unit j).enabled = true ↔ j = i ∨ j ∈ s.active := by
    intro j
    rw [showFb_unit]
    by_cases hji : j = i
    · rw [hji, setCrtc_self, hon]
      simp
    · rw [setCrtc_of_ne hji, ← h.active j]
      exact (or_iff_right hji).symm
  have hactive : ((s.setCrtc i crtc).showFb fb).active = s.active := showFb_active ..
  have hnum : ((s.setCrtc i crtc).showFb fb).numActive = s.numActive := showFb_numActive ..
  have hshown : ((s.setCrtc i crtc).showFb fb).fb = some fb := showFb_fb ..
  rw [hadd]
  dsimp only
  rw [hactive]
  by_cases hi : i ∈ s.active
  · rw [if_pos hi]
    refine ⟨_, rfl, ?_, hactive ▸ hi⟩
    exact {
      sorted := hactive ▸ h.sorted
      active := by
        intro j
        rw [hactive, henabled]
        constructor
        · exact .inr
        · rintro (rfl | hj)
          · exact hi
          · exact hj
      count := by rw [hactive, hnum, h.count]
      null := by
        rw [hshown, hactive]
        simp [List.ne_nil_of_mem hi]
      shared := by
        intro j hj
        rw [hshown]
        exact hunit j (.inl (hactive ▸ hj))
      pinned := fun f => hshown ▸ hpinned f }
  · rw [if_neg hi]
    refine ⟨_, rfl, ?_, (mem_listAdd i s.active).mpr (.inl rfl)⟩
    exact {
      sorted := pairwise_listAdd hi h.sorted
      active := fun j => (mem_listAdd i s.active).trans (henabled j).symm
      count := by
        rw [length_listAdd, ← h.count]
        exact congrArg (· + 1) hnum
      null := by
        have hne : listAdd i s.active ≠ [] := List.ne_nil_of_mem ((mem_listAdd i s.active).mpr (.inl rfl))
        simp [hshown, hne]
      shared := by
        intro j hj
        exact (hunit j ((mem_listAdd i s.active).mp hj).symm).trans hshown.symm
      pinned := fun f => hshown ▸ hpinned f }

end Change

section Commit

variable {dev : Device} {env env' : Env} {s t : State} {i : Nat} {set : ModeSet}

theorem commit_congr_of_topology (htop : dev.topology = true) (hactive : t.active = s.active)
    (hnum : t.numActive = s.numActive) (hunit : ∀ i ∈ s.active, t.unit i = s.unit i) :
    vmwLduCommitList dev env s = vmwLduCommitList dev env' t := by
  have hdisplays : (s.active.zipIdx.flatMap fun (entry, i) => writeDisplay (s.unit entry) i) =
      s.active.zipIdx.flatMap fun (entry, i) => writeDisplay (t.unit entry) i := by
    apply List.flatMap_congr
    rintro ⟨entry, i⟩ hmem
    exact congrArg (writeDisplay · i) (hunit entry (List.fst_mem_of_mem_zipIdx hmem)).symm
  unfold vmwLduCommitList vmwKmsWriteSvga
  rw [htop, if_neg (not_not.mpr rfl), if_neg (not_not.mpr rfl), hactive, hnum, hdisplays]
  cases hlist : s.active with
  | nil => rfl
  | cons entry entries =>
    dsimp only
    rw [hunit entry (by simp [hlist])]

/-- What may be behind the list. -/
def stray (bpp : UInt32) : Fb := ⟨0, 0, 0, 0, bpp, 0, false⟩

/-- The commit tells of the active units alone if and only if the cursor is not read past the end of the list. -/
theorem fromActive_iff : FromActive dev s ↔ dev.topology = true ∨ s.active = [] := by
  constructor
  · intro hfrom
    by_contra hbad
    obtain ⟨htop, hne⟩ := not_or.mp hbad
    have hcommit : ∀ bpp, vmwLduCommitList dev ⟨0, some (stray bpp)⟩ s =
        some (vmwKmsWriteSvga dev ⟨0, some (stray bpp)⟩ (extent s.unit s.active).1.toUInt32
          (extent s.unit s.active).2.toUInt32 0 bpp 0) := by
      intro bpp
      unfold vmwLduCommitList
      rw [if_pos htop, if_neg hne]
      rfl
    have heq := hfrom s ⟨0, some (stray 0)⟩ ⟨0, some (stray 1)⟩ rfl rfl (fun _ _ => rfl) rfl
    rw [hcommit, hcommit] at heq
    have hwrites := congrArg Prod.snd (Option.some.inj heq)
    unfold vmwKmsWriteSvga at hwrites
    simp at hwrites
  · rintro (htop | hnil) t env env' hactive hnum hunit -
    · exact commit_congr_of_topology htop hactive hnum hunit
    · cases htop : dev.topology with
      | true => exact commit_congr_of_topology htop hactive hnum hunit
      | false =>
        unfold vmwLduCommitList
        rw [htop, if_pos Bool.false_ne_true, if_pos Bool.false_ne_true, hactive, if_pos hnil, if_pos hnil]

/-- No `BUG` is met, and the commit ends where the cursor can be followed. -/
theorem Sound.commit_isSome (h : Sound s) (henv : dev.topology = true ∨ env.beyond.isSome = true) :
    (vmwLduCommitList dev env s).isSome = true := by
  unfold vmwLduCommitList
  cases htop : dev.topology with
  | false =>
    obtain ⟨fb, hfb⟩ := Option.isSome_iff_exists.mp (henv.resolve_left (by simp [htop]))
    rw [if_pos Bool.false_ne_true, hfb]
    split <;> rfl
  | true =>
    rw [if_neg (not_not.mpr rfl)]
    cases hlist : s.active with
    | nil =>
      simp [h.count, hlist]
    | cons entry entries =>
      have hentry : entry ∈ s.active := by simp [hlist]
      obtain ⟨fb, hfb⟩ := h.fb_of_mem hentry
      simp [h.count, hlist, h.shared entry hentry, hfb]

end Commit

section Run

variable {dev : Device} {s s' : State} {i : Nat} {set : ModeSet} {as : List Action}

/-- The unit is to be turned off. -/
def ModeSet.Off (set : ModeSet) : Prop := set.numConnectors = 0 ∨ set.mode = none ∨ set.fb = none

/-- The checks that come before anything is changed. -/
def Refused (s : State) (i : Nat) (set : ModeSet) : Prop :=
  1 < set.numConnectors ∨ set.numConnectors = 1 ∧ set.connector = false ∨ otherFb s i set.fb = true ∨
    ¬ set.Off ∧ ∃ mode fb, set.mode = some mode ∧ set.fb = some fb ∧ outside mode fb set.x set.y = true

/-- The call does not commit a list of units on a device without the topology. -/
def CommitSafe (dev : Device) (s : State) (i : Nat) (set : ModeSet) : Prop :=
  dev.topology = true ∨ Refused s i set ∨ set.Off ∧ ∀ j ∈ s.active, j = i

theorem erase_eq_nil_iff (h : Sound s) : s.active.erase i = [] ↔ ∀ j ∈ s.active, j = i := by
  rw [List.eq_nil_iff_forall_not_mem]
  apply forall_congr'
  intro j
  rw [mem_erase_of_sorted h.sorted, not_and, imp_not_comm, not_ne_iff]

/-- The checks of the connectors and of the framebuffers let the call pass. -/
def Passed (s : State) (i : Nat) (set : ModeSet) : Prop :=
  ¬ 1 < set.numConnectors ∧ ¬ (set.numConnectors = 1 ∧ set.connector = false) ∧ otherFb s i set.fb = false

theorem change_off (hpass : Passed s i set) (hoff : set.Off) :
    change s i set =
      (vmwLduDelActive (s.setCrtc i { s.unit i with fb := none, enabled := false }) i).map .commit := by
  obtain ⟨hmany, hwrong, hother⟩ := hpass
  unfold change
  rw [if_neg hmany, if_neg hwrong, hother, if_neg Bool.false_ne_true]
  cases hnum : set.numConnectors with
  | zero => rfl
  | succ n =>
    cases hmode : set.mode with
    | none => rfl
    | some mode =>
      cases hfb : set.fb with
      | none => rfl
      | some fb =>
        simp only [ModeSet.Off, hnum, hmode, hfb, Nat.succ_ne_zero, Option.some_ne_none, or_self] at hoff

theorem change_on (hpass : Passed s i set) (hnum : set.numConnectors ≠ 0) {mode : Mode} (hmode : set.mode = some mode)
    {fb : Fb} (hfb : set.fb = some fb) :
    change s i set = if outside mode fb set.x set.y then some .refused
      else (vmwLduAddActive (s.setCrtc i ⟨some fb, mode, set.x.toInt32, set.y.toInt32, true⟩) i fb).map .commit := by
  obtain ⟨hmany, hwrong, hother⟩ := hpass
  obtain ⟨n, hn⟩ := Nat.exists_eq_succ_of_ne_zero hnum
  unfold change
  rw [if_neg hmany, if_neg hwrong, hother, if_neg Bool.false_ne_true, hn, hmode, hfb]
  rfl

theorem change_refused (hpass : ¬ Passed s i set) : Refused s i set ∧ change s i set = some .refused := by
  unfold change
  by_cases hmany : 1 < set.numConnectors
  · exact ⟨.inl hmany, if_pos hmany⟩
  · by_cases hwrong : set.numConnectors = 1 ∧ set.connector = false
    · exact ⟨.inr (.inl hwrong), by rw [if_neg hmany, if_pos hwrong]⟩
    · have hother : otherFb s i set.fb = true := by
        by_contra hother
        exact hpass ⟨hmany, hwrong, Bool.eq_false_iff.mpr hother⟩
      exact ⟨.inr (.inr (.inl hother)), by rw [if_neg hmany, if_neg hwrong, if_pos hother]⟩

/-- A call is refused, or leaves a list that is sound. -/
theorem Sound.change (h : Sound s) (i : Nat) (set : ModeSet) :
    Refused s i set ∧ change s i set = some .refused ∨
      ¬ Refused s i set ∧ ∃ s', change s i set = some (.commit s') ∧ Sound s' ∧
        (s'.active = [] ↔ set.Off ∧ ∀ j ∈ s.active, j = i) := by
  by_cases hpass : Passed s i set
  · have hrefused : Refused s i set ↔
        ¬ set.Off ∧ ∃ mode fb, set.mode = some mode ∧ set.fb = some fb ∧ outside mode fb set.x set.y = true := by
      obtain ⟨hmany, hwrong, hother⟩ := hpass
      unfold Refused
      rw [or_iff_right hmany, or_iff_right hwrong, hother, or_iff_right Bool.false_ne_true]
    by_cases hoff : set.Off
    · right
      obtain ⟨s', hdel, hsound, hactive⟩ := h.delActive i { s.unit i with fb := none, enabled := false } rfl
      refine ⟨fun hr => (hrefused.mp hr).1 hoff, s', ?_, hsound, ?_⟩
      · rw [change_off hpass hoff, hdel]
        rfl
      · rw [hactive, erase_eq_nil_iff h]
        exact (and_iff_right hoff).symm
    · obtain ⟨hnum, hmode, hfb⟩ := (not_or.trans (and_congr_right fun _ => not_or)).mp hoff
      obtain ⟨mode, hmode⟩ := Option.ne_none_iff_exists'.mp hmode
      obtain ⟨fb, hfb⟩ := Option.ne_none_iff_exists'.mp hfb
      rw [change_on hpass hnum hmode hfb]
      cases hout : outside mode fb set.x set.y with
      | true => exact .inl ⟨hrefused.mpr ⟨hoff, mode, fb, hmode, hfb, hout⟩, rfl⟩
      | false =>
        right
        obtain ⟨s', hadd, hsound, hi⟩ := h.addActive i ⟨some fb, mode, set.x.toInt32, set.y.toInt32, true⟩
          rfl rfl (hfb ▸ hpass.2.2)
        refine ⟨fun hr => ?_, s', ?_, hsound, ?_⟩
        · obtain ⟨-, mode', fb', hmode', hfb', hout'⟩ := hrefused.mp hr
          cases hmode.symm.trans hmode'
          cases hfb.symm.trans hfb'
          rw [hout] at hout'
          cases hout'
        · rw [if_neg Bool.false_ne_true, hadd]
          rfl
        · exact iff_of_false (List.ne_nil_of_mem hi) fun hboth => hoff hboth.1
  · exact .inl (change_refused hpass)

theorem Sound.step {a : Action} (h : Sound s) (hstep : step dev s a = some s') : Sound s' := by
  obtain ⟨⟨ret, writes, t⟩, hcall, rfl⟩ := Option.map_eq_some_iff.mp hstep
  unfold vmwLduCrtcSetConfig at hcall
  rcases h.change a.unit a.set with ⟨-, hchange⟩ | ⟨-, t', hchange, hsound, -⟩
  · rw [hchange] at hcall
    cases hcall
    exact h
  · rw [hchange] at hcall
    obtain ⟨⟨ret', writes'⟩, -, heq⟩ := Option.map_eq_some_iff.mp hcall
    cases heq
    exact hsound

theorem Sound.init : Sound init where
  sorted := List.Pairwise.nil
  active := fun _ => by simp [Ldu.init]
  count := rfl
  null := ⟨fun _ => rfl, fun _ => rfl⟩
  shared := fun _ hi => absurd hi List.not_mem_nil
  pinned := fun _ => by simp [Ldu.init]

/-- After every run of mode sets the list is sound and no `BUG` can be met; a call programs the device from the
active units if and only if it does not read the cursor past the end of the list. -/
theorem ldu_sound (hrun : Run (step dev) (fun _ _ => True) init as s) :
    Sound s ∧ ∀ i set,
      (∀ env, dev.topology = true ∨ env.beyond.isSome = true → (vmwLduCrtcSetConfig dev env s i set).isSome = true) ∧
      ((∀ s', change s i set = some (.commit s') → FromActive dev s') ↔ CommitSafe dev s i set) := by
  have h : Sound s := hrun.invariant (fun _ _ _ _ hstep h => h.step hstep) Sound.init
  refine ⟨h, fun i set => ⟨fun env henv => ?_, ?_⟩⟩
  · unfold vmwLduCrtcSetConfig
    rcases h.change i set with ⟨-, hchange⟩ | ⟨-, s', hchange, hsound, -⟩
    · rw [hchange]
      rfl
    · rw [hchange]
      obtain ⟨r, hr⟩ := Option.isSome_iff_exists.mp (hsound.commit_isSome henv)
      exact Option.isSome_iff_exists.mpr ⟨_, congrArg (Option.map _) hr⟩
  · unfold CommitSafe
    rcases h.change i set with ⟨hrefused, hchange⟩ | ⟨hok, s', hchange, hsound, hnil⟩
    · refine iff_of_true (fun s' hs' => ?_) (.inr (.inl hrefused))
      rw [hchange] at hs'
      cases hs'
    · rw [hchange]
      constructor
      · intro hfrom
        exact (fromActive_iff.mp (hfrom s' rfl)).imp_right fun hs' => .inr (hnil.mp hs')
      · rintro hsafe t ht
        cases ht
        exact fromActive_iff.mpr (hsafe.imp_right fun hs => hnil.mpr (hs.resolve_left hok))

end Run

/-- A framebuffer set on one connector, at the origin. -/
def ModeSet.of (mode : Mode) (fb : Fb) : ModeSet := ⟨1, true, some mode, some fb, 0, 0⟩

/-- A framebuffer in a buffer. -/
def plain : Fb := ⟨1, 64, 32, 256, 32, 24, true⟩

/-- Two units are set to one framebuffer, the second one first, and the first is turned off. -/
def setting : List Action :=
  [⟨1, .of ⟨64, 32⟩ plain, ⟨24, none⟩⟩, ⟨0, .of ⟨64, 32⟩ plain, ⟨24, none⟩⟩, ⟨0, ⟨0, true, none, none, 0, 0⟩, ⟨24, none⟩⟩]

theorem ldu_sound_setting :
    ∃ s, Run (step ⟨true, true, true⟩) (fun _ _ => True) init setting s ∧ s.active = [1] ∧ Sound s := by
  obtain ⟨s, hactive, hrun⟩ : ∃ s, s.active = [1] ∧ Run (step ⟨true, true, true⟩) (fun _ _ => True) init setting s :=
    ⟨_, by rfl, .cons trivial rfl (.cons trivial rfl (.single trivial rfl))⟩
  exact ⟨s, hrun, hactive, (ldu_sound hrun).1⟩

/-- The pitch and the depth come from behind the list. -/
theorem ldu_commit_stray :
    ¬ ∀ (dev : Device) (as : List Action) (s : State), Run (step dev) (fun _ _ => True) init as s →
      ∀ i set s', change s i set = some (.commit s') → FromActive dev s' := by
  intro h
  have hfrom := h ⟨false, true, true⟩ [] init (.nil init) 0 (.of ⟨64, 32⟩ plain) _ rfl
  rcases fromActive_iff.mp hfrom with htop | hnil
  · cases htop
  · cases hnil

end Vmwgfx.Kms.Ldu
