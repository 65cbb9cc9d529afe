import Vmwgfx.Locks.Defs

/-! What a thread holds of the FIFO before, during and after a command. -/

namespace Vmwgfx.Locks

open Lib Binding Resource

/-- What holds of the FIFO wherever its threads are. -/
def SoundAt (f : Fifo.State) : Fifo.Pc → Prop
  | .idle | .publish _ _ => f.reservedSize = 0 ∧ f.dynamicBuffer = none
  | .reserve _ _ | .full _ _ | .wait _ _ => f.dynamicBuffer = none
  | .reserved _ => f.usingBounceBuffer = false → f.dynamicBuffer = none
  | .resCopy _ _ _ | .slowCopy _ _ _ _ | .slowNext _ _ _ _ => f.reservedSize = 0
  | .stuck | .bug => True

/-- The ring is larger than the commands of fixed size whose callers need room. -/
structure Sound (f : Fifo.State) : Prop where
  pc : SoundAt f f.pc
  room : 28 < sub32 f.max f.min

/-- Nobody holds the mutex. -/
structure Free (f : Fifo.State) : Prop where
  pc : f.pc = .idle
  reservedSize : f.reservedSize = 0
  dynamicBuffer : f.dynamicBuffer = none
  room : 28 < sub32 f.max f.min

structure Reserved (f : Fifo.State) : Prop extends Sound f where
  reserved : ∃ n, f.pc = .reserved n

/-- What the thread holds: its mutexes, and whether it has a reservation. -/
structure Holds (held : Mutex → Bool) (inFifo : Bool) (s : State) : Prop where
  held_eq : s.held = held
  fifo : if inFifo then Reserved s.fifo else Free s.fifo

/-- Commands whose callers go on without room. -/
def Site.Unchecked : Site → Prop
  | .takedownOtableBase | .mobUnbind | .gbSurfaceDestroy | .contextScrub _ true => True
  | _ => False

/-- A `vmalloc` that is made here succeeds. -/
def Allocates : Fifo.Act → Prop
  | .loop buf | .isFull buf => buf.isSome
  | _ => True

/-- Every bounce buffer can be allocated, and no wait for room fails where the caller does not look. -/
structure Env.Meets (env : Env) : Prop where
  allocates : ∀ site n, ∀ a ∈ env.acts site n, Allocates a
  waits : ∀ site n, site.Unchecked → .wait true ∉ env.acts site n

section Steps

variable {f f' : Fifo.State} {bytes : Nat}

theorem Free.sound (h : Free f) : Sound f := ⟨h.pc ▸ ⟨h.reservedSize, h.dynamicBuffer⟩, h.room⟩

theorem Sound.at (h : Sound f) {pc : Fifo.Pc} (hpc : f.pc = pc) : SoundAt f pc := hpc ▸ h.pc

theorem Sound.free (h : Sound f) (hpc : f.pc = .idle) : Free f := ⟨hpc, (h.at hpc).1, (h.at hpc).2, h.room⟩

theorem Free.reserveStart (h : Free f) (bytes : Nat) : Sound (f.reserveStart bytes) := by
  unfold Fifo.State.reserveStart
  split
  · refine ⟨?_, h.room⟩
    rw [h.pc]
    exact ⟨rfl, h.dynamicBuffer⟩
  · rw [if_neg (not_not_intro h.reservedSize), if_neg (by simp [h.dynamicBuffer])]
    exact ⟨h.dynamicBuffer, h.room⟩

theorem Sound.bounce (hroom : 28 < sub32 f.max f.min) (hdyn : f.dynamicBuffer = none) (bytes n : Nat)
    (buf : Option (Nat → Fifo.Word)) : Sound (f.bounce bytes n buf) := by
  unfold Fifo.State.bounce
  split
  · refine ⟨?_, hroom⟩
    intro _
    exact hdyn
  · refine ⟨?_, hroom⟩
    cases buf with
    | none => exact trivial
    | some buf =>
      intro hfalse
      cases hfalse

theorem Sound.reserveLoop (hroom : 28 < sub32 f.max f.min) (hdyn : f.dynamicBuffer = none) (bytes n : Nat)
    (buf : Option (Nat → Fifo.Word)) : Sound (f.reserveLoop bytes n buf) := by
  unfold Fifo.State.reserveLoop
  split
  · split
    · exact ⟨fun _ => hdyn, hroom⟩
    · exact .bounce hroom hdyn bytes n buf
  · split
    · exact ⟨hdyn, hroom⟩
    · exact ⟨hdyn, hroom⟩

theorem Sound.reserveFull (hroom : 28 < sub32 f.max f.min) (hdyn : f.dynamicBuffer = none) (bytes n : Nat)
    (buf : Option (Nat → Fifo.Word)) : Sound (f.reserveFull bytes n buf) := by
  unfold Fifo.State.reserveFull
  split
  · exact ⟨hdyn, hroom⟩
  · exact .bounce hroom hdyn bytes n buf

theorem Sound.fill (h : Sound f) {n : Nat} (hpc : f.pc = .reserved n) (k : Nat) (w : Fifo.Word) :
    Sound (f.fill n k w) := by
  have hdyn : f.usingBounceBuffer = false → f.dynamicBuffer = none := h.at hpc
  unfold Fifo.State.fill
  split
  case isTrue hbounce =>
    have hfalse {p : Prop} (hno : f.usingBounceBuffer = false) : p := by
      rw [hbounce] at hno
      cases hno
    split
    · refine ⟨?_, h.room⟩
      rw [hpc]
      exact hfalse
    · refine ⟨?_, h.room⟩
      rw [hpc]
      exact hfalse
  case isFalse =>
    refine ⟨?_, h.room⟩
    change SoundAt _ f.pc
    rw [hpc]
    exact hdyn

theorem Sound.commitStart (h : Sound f) {n : Nat} (hpc : f.pc = .reserved n) (bytes : Nat) :
    Sound (f.commitStart n bytes) := by
  have hdyn : f.usingBounceBuffer = false → f.dynamicBuffer = none := h.at hpc
  unfold Fifo.State.commitStart
  split
  · exact ⟨trivial, h.room⟩
  · split
    · exact ⟨trivial, h.room⟩
    · refine ⟨?_, h.room⟩
      cases hbounce : f.usingBounceBuffer with
      | true =>
        cases hres : f.reserveable with
        | true => exact rfl
        | false => exact rfl
      | false => exact ⟨rfl, hdyn hbounce⟩

theorem Sound.resCopy (hroom : 28 < sub32 f.max f.min) (hsize : f.reservedSize = 0) (n b i : Nat) :
    Sound (f.resCopy n b i) := by
  unfold Fifo.State.resCopy
  split
  · exact ⟨hsize, hroom⟩
  · exact ⟨⟨hsize, rfl⟩, hroom⟩

theorem Sound.slowCopy (hroom : 28 < sub32 f.max f.min) (hsize : f.reservedSize = 0) (n b cur i : Nat) :
    Sound (f.slowCopy n b cur i) := by
  unfold Fifo.State.slowCopy
  split
  · exact ⟨hsize, hroom⟩
  · exact ⟨⟨hsize, rfl⟩, hroom⟩

theorem Sound.step (h : Sound f) {a : Fifo.Act} (hstep : Fifo.step f a = some f') : Sound f' := by
  cases a with
  | reserve b =>
    simp only [Fifo.step] at hstep
    split at hstep
    case isFalse => cases hstep
    case isTrue hpc =>
      cases hstep
      exact (h.free hpc).reserveStart b
  | loop buf =>
    simp only [Fifo.step] at hstep
    split at hstep
    case h_2 => cases hstep
    case h_1 b n hpc =>
      cases hstep
      exact .reserveLoop h.room (h.at hpc) b n buf
  | isFull buf =>
    simp only [Fifo.step] at hstep
    split at hstep
    case h_2 => cases hstep
    case h_1 b n hpc =>
      cases hstep
      exact .reserveFull h.room (h.at hpc) b n buf
  | wait timeout =>
    simp only [Fifo.step] at hstep
    split at hstep
    case h_2 => cases hstep
    case h_1 b n hpc =>
      have hdyn : f.dynamicBuffer = none := h.at hpc
      split at hstep
      · cases hstep
        exact ⟨⟨rfl, hdyn⟩, h.room⟩
      · split at hstep
        · cases hstep
        · cases hstep
          exact ⟨hdyn, h.room⟩
  | fill k w =>
    simp only [Fifo.step] at hstep
    split at hstep
    case h_2 => cases hstep
    case h_1 n hpc =>
      split at hstep
      case isFalse => cases hstep
      case isTrue =>
        cases hstep
        exact h.fill hpc k w
  | commit b =>
    simp only [Fifo.step] at hstep
    split at hstep
    case h_2 => cases hstep
    case h_1 n hpc =>
      cases hstep
      exact h.commitStart hpc b
  | copy =>
    simp only [Fifo.step] at hstep
    split at hstep
    case h_1 n b i hpc =>
      cases hstep
      exact .resCopy h.room (h.at hpc) n b i
    case h_2 n b cur i hpc =>
      cases hstep
      exact .slowCopy h.room (h.at hpc) n b cur i
    case h_3 n b cur i hpc =>
      cases hstep
      have hsize : f.reservedSize = 0 := h.at hpc
      exact ⟨hsize, h.room⟩
    case h_4 => cases hstep
  | publish =>
    simp only [Fifo.step] at hstep
    split at hstep
    case h_2 => cases hstep
    case h_1 n b hpc =>
      cases hstep
      have hclean : f.reservedSize = 0 ∧ f.dynamicBuffer = none := h.at hpc
      exact ⟨hclean, h.room⟩
  | device =>
    simp only [Fifo.step] at hstep
    split at hstep
    · cases hstep
      exact ⟨h.pc, h.room⟩
    · cases hstep

end Steps

section Phases

variable {f f' : Fifo.State} {sure : Bool} {bytes : Nat}

/-- A thread in `vmw_fifo_reserve`; if it is sure of room it does not return NULL. -/
def Reserving (sure : Bool) : Fifo.Pc → Prop
  | .idle => sure = false
  | .reserve _ _ | .full _ _ | .wait _ _ | .reserved _ => True
  | _ => False

theorem reserving_start (h : Free f) (hsure : sure = true → bytes ≤ 28) : Reserving sure (f.reserveStart bytes).pc := by
  unfold Fifo.State.reserveStart
  by_cases hbytes : bytes ≥ sub32 f.max f.min
  · have hroom := h.room
    rw [if_pos hbytes]
    change Reserving sure f.pc
    rw [h.pc]
    cases sure with
    | false => exact rfl
    | true =>
      have := hsure rfl
      omega
  · rw [if_neg hbytes, if_neg (not_not_intro h.reservedSize), if_neg (by simp [h.dynamicBuffer])]
    exact trivial

theorem reserving_bounce (bytes n : Nat) {buf : Option (Nat → Fifo.Word)} (hbuf : buf.isSome) :
    Reserving sure (f.bounce bytes n buf).pc := by
  unfold Fifo.State.bounce
  rw [if_pos hbuf]
  split
  · exact trivial
  · exact trivial

theorem reserving_step (h : Reserving sure f.pc) {a : Fifo.Act} (ha : inReserve a = true) (halloc : Allocates a)
    (hwait : sure = true → a ≠ .wait true) (hstep : Fifo.step f a = some f') : Reserving sure f'.pc := by
  cases a with
  | loop buf =>
    simp only [Fifo.step] at hstep
    split at hstep
    case h_2 => cases hstep
    case h_1 b n hpc =>
      cases hstep
      unfold Fifo.State.reserveLoop
      split
      · split
        · exact trivial
        · exact reserving_bounce b n halloc
      · split
        · exact trivial
        · exact trivial
  | isFull buf =>
    simp only [Fifo.step] at hstep
    split at hstep
    case h_2 => cases hstep
    case h_1 b n hpc =>
      cases hstep
      unfold Fifo.State.reserveFull
      split
      · exact trivial
      · exact reserving_bounce b n halloc
  | wait timeout =>
    simp only [Fifo.step] at hstep
    split at hstep
    case h_2 => cases hstep
    case h_1 b n hpc =>
      split at hstep
      case isTrue htimeout =>
        cases hstep
        cases sure with
        | false => exact rfl
        | true => exact absurd (congrArg Fifo.Act.wait htimeout) (hwait rfl)
      case isFalse =>
        split at hstep
        · cases hstep
        · cases hstep
          exact trivial
  | device =>
    simp only [Fifo.step] at hstep
    split at hstep
    · cases hstep
      exact h
    · cases hstep
  | reserve b => cases ha
  | fill k w => cases ha
  | commit b => cases ha
  | copy => cases ha
  | publish => cases ha

/-- The reservation stays while the buffer is filled. -/
theorem reserved_step (h : ∃ n, f.pc = .reserved n) {a : Fifo.Act} (ha : inFill a = true)
    (hstep : Fifo.step f a = some f') : ∃ n, f'.pc = .reserved n := by
  obtain ⟨n, hpc⟩ := h
  cases a with
  | fill k w =>
    simp only [Fifo.step, hpc] at hstep
    split at hstep
    case isFalse => cases hstep
    case isTrue =>
      cases hstep
      unfold Fifo.State.fill
      split
      · split
        · exact ⟨n, hpc⟩
        · exact ⟨n, hpc⟩
      · exact ⟨n, hpc⟩
  | device =>
    simp only [Fifo.step] at hstep
    split at hstep
    · cases hstep
      exact ⟨n, hpc⟩
    · cases hstep
  | loop buf => cases ha
  | isFull buf => cases ha
  | wait timeout => cases ha
  | reserve b => cases ha
  | commit b => cases ha
  | copy => cases ha
  | publish => cases ha

end Phases

section Specs

variable {env : Env} {held : Mutex → Bool} {inFifo : Bool}

/-- A thread that does not come back has not written or committed without a reservation. -/
def Allowed (e : Stop) : Prop := e ≠ .nullWrite ∧ e ≠ .nullCommit

theorem allowed_running : Allowed .running := ⟨by decide, by decide⟩

theorem allowed_deadlock : Allowed .deadlock := ⟨by decide, by decide⟩

theorem allowed_bug : Allowed .bug := ⟨by decide, by decide⟩

theorem allowed_oops : Allowed .oops := ⟨by decide, by decide⟩

theorem allowed_notHeld : Allowed .notHeld := ⟨by decide, by decide⟩

theorem tick_spec : Triple Allowed (Holds held inFifo) tick (fun _ => Holds held inFifo) :=
  fun _ h => ⟨h.held_eq, h.fifo⟩

theorem tick_ends {s : State} {P : Nat → State → Prop} {E : Stop → State → Prop}
    (h : P s.clock { s with clock := s.clock + 1 }) : Ends tick s P E := h

/-- The FIFO keeps what each of its steps keeps. -/
theorem runFifo_spec {phase : Fifo.Act → Bool} {site : Site} {f : Fifo.State} {I : Fifo.State → Prop} (hI : I f)
    (hstep : ∀ n f a f', a ∈ env.acts site n → phase a = true → Fifo.step f a = some f' → I f → I f') :
    Triple Allowed (fun s => s.held = held) (runFifo env phase site f)
      (fun pc s => s.held = held ∧ I s.fifo ∧ s.fifo.pc = pc) := by
  intro s hs
  unfold runFifo
  refine ends_bind.mpr (tick_ends ?_)
  cases hexec : exec Fifo.step (fun _ => phase) f (env.acts site s.clock) with
  | none => exact allowed_running
  | some f' =>
    refine .bind_modify ?_
    exact ⟨hs, exec_invariant (hstep s.clock) hexec hI, rfl⟩

theorem lockFifo_spec : Triple Allowed (Holds held false) (lockFifo env) (fun _ => Holds held false) := by
  intro s hs
  obtain ⟨hheld, hfree⟩ := hs
  have hsound : Sound s.fifo := Free.sound hfree
  unfold lockFifo
  refine .bind_get (.ite (fun _ => ends_bind.mpr (tick_ends ?_)) (fun _ => allowed_deadlock))
  cases hexec : exec Fifo.step (fun _ _ => true) s.fifo (env.others s.clock) with
  | none => exact allowed_running
  | some f =>
    have hf : Sound f := exec_invariant (fun _ _ _ _ _ hstep h => h.step hstep) hexec hsound
    exact .ite (fun hidle => ⟨hheld, hf.free hidle⟩) (fun _ => allowed_running)

theorem reserve_ends (h : env.Meets) {site : Site} {bytes : Nat} {sure : Bool}
    (hsure : sure = true → site.Unchecked ∧ bytes ≤ 28) :
    Triple Allowed (Holds held false) (vmwFifoReserve env site bytes)
      (fun cmd s => (cmd = true ∨ sure = false) ∧ Holds held cmd s) := by
  refine lockFifo_spec.bind ?_
  intro _ s hs
  obtain ⟨hheld, hfree⟩ := hs
  refine .bind_get ?_
  have hrun : Triple Allowed (fun s => s.held = held) (runFifo env inReserve site (s.fifo.reserveStart bytes))
      (fun pc s => s.held = held ∧ (Sound s.fifo ∧ Reserving sure s.fifo.pc) ∧ s.fifo.pc = pc) := by
    refine runFifo_spec (I := fun f => Sound f ∧ Reserving sure f.pc)
      ⟨Free.reserveStart hfree bytes, reserving_start hfree fun h => (hsure h).2⟩ ?_
    intro n f a f' ha hphase hstep hf
    refine ⟨hf.1.step hstep, reserving_step hf.2 hphase (h.allocates site n a ha) ?_ hstep⟩
    rintro htrue rfl
    exact h.waits site n (hsure htrue).1 ha
  refine (hrun s hheld).bind ?_
  rintro pc t ⟨hheld, ⟨hsound, hpc'⟩, hpc⟩
  rw [hpc] at hpc'
  cases pc with
  | idle => exact ⟨.inr hpc', hheld, hsound.free hpc⟩
  | reserved n => exact ⟨.inl rfl, hheld, hsound, n, hpc⟩
  | stuck => exact False.elim hpc'
  | bug => exact allowed_bug
  | reserve b n => exact allowed_running
  | full b n => exact allowed_running
  | wait b n => exact allowed_running
  | resCopy n b i => exact allowed_running
  | slowCopy n b c i => exact allowed_running
  | slowNext n b c i => exact allowed_running
  | publish n b => exact allowed_running

theorem reserve_spec (h : env.Meets) (site : Site) (bytes : Nat) :
    Triple Allowed (Holds held false) (vmwFifoReserve env site bytes) (fun cmd => Holds held cmd) := by
  have hsure : false = true → site.Unchecked ∧ bytes ≤ 28 := fun hfalse => by cases hfalse
  exact (reserve_ends h hsure).mono (fun _ hs => hs) (fun _ _ hs => hs.2)

/-- Where a caller does not look there is room. -/
theorem reserve_unchecked (h : env.Meets) {site : Site} (hsite : site.Unchecked) {bytes : Nat} (hbytes : bytes ≤ 28) :
    Triple Allowed (Holds held false) (vmwFifoReserve env site bytes)
      (fun cmd s => cmd = true ∧ Holds held true s) := by
  have hsure : true = true → site.Unchecked ∧ bytes ≤ 28 := fun _ => ⟨hsite, hbytes⟩
  refine (reserve_ends h hsure).mono (fun _ hs => hs) ?_
  rintro cmd s ⟨hcmd | hcmd, hs⟩
  · subst hcmd
    exact ⟨rfl, hs⟩
  · cases hcmd

theorem fill_spec (site : Site) :
    Triple Allowed (Holds held true) (fill env site true) (fun _ => Holds held true) := by
  intro s hs
  obtain ⟨hheld, hres⟩ := hs
  unfold fill
  rw [if_pos rfl]
  refine .bind_get (ends_discard.mpr ?_)
  have hrun : Triple Allowed (fun s => s.held = held) (runFifo env inFill site s.fifo)
      (fun pc s => s.held = held ∧ Reserved s.fifo ∧ s.fifo.pc = pc) :=
    runFifo_spec hres fun _ _ _ _ _ hphase hstep hf =>
      ⟨hf.toSound.step hstep, reserved_step hf.reserved hphase hstep⟩
  refine (hrun s hheld).mono ?_ (fun _ _ he => he)
  rintro pc t ⟨hheld, hres, -⟩
  exact ⟨hheld, hres⟩

theorem commit_spec (site : Site) (bytes : Nat) :
    Triple Allowed (Holds held true) (vmwFifoCommit env site bytes) (fun _ => Holds held false) := by
  intro s hs
  obtain ⟨hheld, hres⟩ := hs
  have hsound : Sound s.fifo := Reserved.toSound hres
  obtain ⟨n, hpc⟩ := Reserved.reserved hres
  unfold vmwFifoCommit
  refine .bind_get ?_
  rw [hpc]
  have hrun : Triple Allowed (fun s => s.held = held) (runFifo env inCommit site (s.fifo.commitStart n bytes))
      (fun pc s => s.held = held ∧ Sound s.fifo ∧ s.fifo.pc = pc) :=
    runFifo_spec (hsound.commitStart hpc bytes) fun _ _ _ _ _ _ hstep hf => hf.step hstep
  refine (hrun s hheld).bind ?_
  rintro pc t ⟨hheld, hsound, hpc⟩
  cases pc with
  | idle => exact ⟨hheld, hsound.free hpc⟩
  | bug => exact allowed_bug
  | stuck => exact allowed_running
  | reserved n => exact allowed_running
  | reserve b n => exact allowed_running
  | full b n => exact allowed_running
  | wait b n => exact allowed_running
  | resCopy n b i => exact allowed_running
  | slowCopy n b c i => exact allowed_running
  | slowNext n b c i => exact allowed_running
  | publish n b => exact allowed_running

end Specs

end Vmwgfx.Locks
