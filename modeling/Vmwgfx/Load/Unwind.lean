import Vmwgfx.Load.Defs

/-! Where the loading fails, what was acquired is released: when, and when not. -/

namespace Vmwgfx.Load

open Lib

/-! ### What is held where the unwinding begins -/

section Held

variable (d : Private)

def heldErr0 : List Res := [.idrs, .devPriv]

def heldErr1 : List Res := .boGlobal :: .memGlobal :: heldErr0

def heldErr3 : List Res := (if 0 ≤ d.mmioMtrr then [.mtrr] else []) ++ .bdev :: heldErr1

/-- Above `heldErr3`, as the other lists. -/
def aboveErr4 : List Res := [.mmio]

def aboveNoDevice : List Res := .tdev :: aboveErr4

def aboveNoIrq : List Res := (if d.stealth then .region else .regions) :: aboveNoDevice

def aboveNoFman : List Res := (if d.has SVGA_CAP_IRQMASK then [.irq] else []) ++ aboveNoIrq d

def aboveNoVram : List Res := .fman :: aboveNoFman d

def aboveNoKms : List Res :=
  .vga ::
    ((if d.hasMob then [.mob] else []) ++
      ((if d.hasGmr then [.gmr] else []) ++ .vram :: aboveNoVram d))

def aboveNoFifo : List Res :=
  (if d.overlayPriv then [.overlay] else []) ++ .kms (display d) :: aboveNoKms d

def above : Label → List Res
  | .outNoFifo => aboveNoFifo d
  | .outNoKms => aboveNoKms d
  | .outNoVram => aboveNoVram d
  | .outNoFman => aboveNoFman d
  | .outNoIrq => aboveNoIrq d
  | .outNoDevice => aboveNoDevice
  | .outErr4 => aboveErr4
  | _ => []

end Held

/-- The labels behind which the MTRR is released. -/
def Label.late (l : Label) : Prop := l ≠ .outErr0 ∧ l ≠ .outErr1

instance (l : Label) : Decidable l.late := inferInstanceAs (Decidable (l ≠ .outErr0 ∧ l ≠ .outErr1))

section Ladder

variable {env : Env} {d : Private} {l : Label}

theorem map_release_ite (c : Prop) [Decidable c] (r : Res) :
    (if c then [r] else []).map Event.release = if c then [.release r] else [] := by
  split <;> rfl

theorem unwind_of_late (hl : l.late) :
    unwind env d l = (above d l).map .release ++ outErr3 env d := by
  have hirq : outNoIrq env d = (aboveNoIrq d).map .release ++ outErr3 env d := by
    unfold outNoIrq aboveNoIrq
    split <;> rfl
  have hfman : outNoFman env d = (aboveNoFman d).map .release ++ outErr3 env d := by
    simp [outNoFman, aboveNoFman, hirq, map_release_ite]
  have hvram : outNoVram env d = (aboveNoVram d).map .release ++ outErr3 env d := by
    simp [outNoVram, aboveNoVram, hfman]
  have hkms : outNoKms env d = (aboveNoKms d).map .release ++ outErr3 env d := by
    simp [outNoKms, aboveNoKms, hvram, map_release_ite]
  cases l with
  | outNoFifo => simp [unwind, above, outNoFifo, aboveNoFifo, hkms, map_release_ite]
  | outNoKms => exact hkms
  | outNoVram => exact hvram
  | outNoFman => exact hfman
  | outNoIrq => exact hirq
  | outNoDevice => rfl
  | outErr4 => rfl
  | outErr3 => rfl
  | outErr1 => exact absurd rfl hl.2
  | outErr0 => exact absurd rfl hl.1

theorem leaves_outErr0 {log : List (Event Res)} (h : Leaves log heldErr0) :
    Leaves (log ++ outErr0) [] := by
  have hsplit : Leaves log (heldErr0 ++ []) := h
  exact hsplit.releases

theorem leaves_outErr1 {log : List (Event Res)} (h : Leaves log heldErr1) :
    Leaves (log ++ outErr1) [] := by
  have hsplit : Leaves log (heldErr1 ++ []) := h
  exact hsplit.releases

theorem leaves_outErr3_iff {log : List (Event Res)} (h : Leaves log (heldErr3 d)) :
    Leaves (log ++ outErr3 env d) [] ↔ ¬(d.mmioMtrr < 0 ∧ env.foreignMtrr = true) := by
  unfold heldErr3 at h
  unfold outErr3 drmMtrrDel
  by_cases hmtrr : 0 ≤ d.mmioMtrr
  · rw [if_pos hmtrr] at h
    rw [if_pos (.inl hmtrr)]
    have hsplit : Leaves log ((.mtrr :: .bdev :: heldErr1) ++ []) := h
    exact ⟨fun _ hf => absurd hf.1 (not_lt.mpr hmtrr), fun _ => hsplit.releases⟩
  · rw [if_neg hmtrr] at h
    by_cases hforeign : env.foreignMtrr = true
    · rw [if_pos (.inr hforeign)]
      have hbroken : Broken (log ++ [.release .mtrr]) := h.broken (by decide)
      have hall := hbroken.append (.release .bdev :: outErr1)
      rw [List.append_assoc] at hall
      exact ⟨fun hl => absurd hl hall.not_leaves, fun hn => absurd ⟨not_le.mp hmtrr, hforeign⟩ hn⟩
    · rw [if_neg (not_or.mpr ⟨hmtrr, hforeign⟩)]
      have hsplit : Leaves log ((.bdev :: heldErr1) ++ []) := h
      exact ⟨fun _ hf => hforeign hf.2, fun _ => hsplit.releases⟩

variable (env) in
/-- Behind a late label only the MTRR may go wrong. -/
theorem leaves_unwind_iff (hl : l.late) (h : Leaves d.log (above d l ++ heldErr3 d)) :
    Leaves (d.log ++ unwind env d l) [] ↔ ¬(d.mmioMtrr < 0 ∧ env.foreignMtrr = true) := by
  rw [unwind_of_late hl, ← List.append_assoc]
  exact leaves_outErr3_iff h.releases

/-- The FIFO left behind is in the way of every release. -/
theorem not_leaves_of_fifo (h : Leaves d.log (.fifo :: (aboveNoFifo d ++ heldErr3 d))) :
    ¬Leaves (d.log ++ unwind env d .outNoFifo) [] := by
  change ¬Leaves (d.log ++ outNoFifo env d) []
  unfold outNoFifo
  split
  case isTrue =>
    have hbroken : Broken (d.log ++ [.release .overlay]) := h.broken (by intro heq; cases heq)
    have hall := hbroken.append (.release (.kms (display d)) :: outNoKms env d)
    rw [List.append_assoc] at hall
    exact hall.not_leaves
  case isFalse =>
    have hbroken : Broken (d.log ++ [.release (.kms (display d))]) := h.broken (by intro heq; cases heq)
    have hall := hbroken.append (outNoKms env d)
    rw [List.append_assoc] at hall
    exact hall.not_leaves

end Ladder

/-! ### The steps that have to succeed -/

section Steps

variable (env : Env)

def Env.has (cap : BitVec 32) : Prop := env.capabilities &&& cap ≠ 0

def Env.lacksPitchlock : Prop :=
  ¬env.has SVGA_CAP_DISPLAY_TOPOLOGY ∧ ¬env.has SVGA_CAP_PITCHLOCK ∧
    ¬(env.has SVGA_CAP_EXTENDED_FIFO ∧ env.fifoCapabilities &&& SVGA_FIFO_CAP_PITCHLOCK ≠ 0)

structure BeforeMmio : Prop where
  devPriv : env.devPriv = true
  svgaId : env.svgaId = SVGA_ID_2
  memGlobal : env.memGlobal = none
  boGlobal : env.boGlobal = none
  bdev : env.bdev = none

structure BeforeFman : Prop extends BeforeMmio env where
  mmio : env.mmio = true
  pitchlock : ¬env.lacksPitchlock
  tdev : env.tdev = true
  regions : env.regions = none ∨ env.region = none
  irq : env.has SVGA_CAP_IRQMASK → env.irq = none

structure BeforeFb : Prop extends BeforeFman env where
  fman : env.fman = true
  vram : env.vram = none

/-- The frame buffer device is wanted, and not given up for the stealth mode. -/
def Env.fbEnabled : Prop := env.enableFb = true ∧ (env.regions ≠ none → env.standalone = false)

def Env.hasMob : Prop := env.has SVGA_CAP_GBOBJECTS ∧ env.mob = none

/-- The first reference to the 3D resources. -/
structure RequestSucceeds : Prop where
  staticBuffer : env.staticBuffer = true
  fence : env.fence = none
  otables : env.hasMob → env.otables = none
  queryBo : env.queryBo = none

structure Succeeds : Prop extends BeforeFb env where
  request : env.fbEnabled → RequestSucceeds env

/-- The fence manager is not allocated, where the loading comes to it. -/
def NoFman : Prop := BeforeFman env ∧ env.fman = false

/-- The fence of `vmw_fifo_init` is not sent, where the loading comes to it. -/
def NoFence : Prop := BeforeFb env ∧ env.fbEnabled ∧ env.staticBuffer = true ∧ env.fence ≠ none

/-- The loading fails behind an MTRR that was not added, and that someone else has. -/
def ForeignMtrr : Prop := BeforeMmio env ∧ ¬Succeeds env ∧ env.mtrr < 0 ∧ env.foreignMtrr = true

/-- Zero where every step succeeds that has to; else an error, with everything released. -/
def Unwinds : Prop :=
  (Succeeds env → (vmwDriverLoad env).1 = 0) ∧
    (¬Succeeds env → (vmwDriverLoad env).1 < 0 ∧ Leaves (vmwDriverLoad env).2 [])

/-- How the loading fails at a label. -/
inductive Failure : Label → Private → Prop
  | early {l : Label} {d : Private} (hl : ¬l.late) (hleaves : Leaves (d.log ++ unwind env d l) [])
      (hret : d.ret < 0) (hbefore : ¬BeforeMmio env) : Failure l d
  | late {l : Label} {d : Private} (hl : l.late) (hleaves : Leaves d.log (above d l ++ heldErr3 d))
      (hret : d.ret < 0) (hmtrr : d.mmioMtrr = env.mtrr) (hbefore : BeforeMmio env)
      (hfails : ¬Succeeds env ∧ ¬NoFman env ∧ ¬NoFence env) : Failure l d
  | noFman {l : Label} {d : Private} (hret : d.ret = 0) (h : NoFman env) : Failure l d
  | noFence {d : Private} (hleaves : Leaves d.log (.fifo :: (aboveNoFifo d ++ heldErr3 d)))
      (h : NoFence env) : Failure .outNoFifo d

end Steps

/-! ### The rules of the steps -/

section Rules

variable {P : PUnit → Private → Prop} {E : Label → Private → Prop}
  {s : Private} {l : Label} {r : Res}

theorem ends_gotoIfFailed (hok : s.ret = 0 → P PUnit.unit s) (hfails : s.ret ≠ 0 → E l s) :
    Ends (gotoIfFailed l) s P E :=
  .bind_get (.ite hfails (fun h => hok (not_ne_iff.mp h)))

theorem ends_attempt {o : Option Errno} (hok : o = none → P PUnit.unit (acquire r { s with ret := 0 }))
    (hfails : ∀ e, o = some e → e.val < 0 → E l { s with ret := e.val }) :
    Ends (attempt l o r) s P E := by
  refine .bind_modify (ends_gotoIfFailed ?_ ?_)
  · cases o with
    | none => exact fun _ => hok rfl
    | some e => exact fun h => absurd h (Int.ne_of_lt e.neg)
  · cases o with
    | none => exact fun h => absurd rfl h
    | some e => exact fun _ => hfails e rfl e.neg

theorem ends_allocate {ok : Bool} {ret : Int} (hok : ok = true → P PUnit.unit (acquire r s))
    (hfails : ok = false → E l { s with ret := ret }) : Ends (allocate l ok ret r) s P E :=
  .ite hok (fun h => .bind_modify (hfails (Bool.eq_false_iff.mpr h)))

theorem has_eq {env : Env} {d : Private} (h : d.capabilities = env.capabilities) (cap : BitVec 32) :
    d.has cap = true ↔ env.has cap := by
  unfold Private.has Env.has
  rw [h, decide_eq_true_iff]

end Rules

/-! ### Up to the MTRR -/

/-- What the last steps set is as it was at the beginning. -/
def Unset (d : Private) : Prop := d.hasMob = false ∧ d.overlayPriv = false

/-- What the first steps know, with what they hold. -/
structure Early (env : Env) (held : List Res) (d : Private) : Prop where
  leaves : Leaves d.log held
  unset : Unset d
  capabilities : d.capabilities = env.capabilities
  enableFb : d.enableFb = env.enableFb

section Early

variable {env : Env} {s : Private}

theorem probe_ends (hleaves : Leaves s.log heldErr0) (hunset : Unset s) (hfb : s.enableFb = env.enableFb) :
    Ends (probe env) s (fun _ t => Early env heldErr0 t ∧ env.svgaId = SVGA_ID_2) (Failure env) := by
  have hmutex : Leaves (s.log ++ [.acquire .hwMutex] ++ [.release .hwMutex]) heldErr0 :=
    (hleaves.acquire .hwMutex).release
  refine .bind_modify (.ite (fun hid => .bind_modify ?_) (fun hid => ?_))
  · exact .early (fun hl => hl.1 rfl) (leaves_outErr0 hmutex) neg_ENOSYS (fun h => hid h.svgaId)
  · exact ⟨⟨hmutex, hunset, rfl, hfb⟩, not_ne_iff.mp hid⟩

variable (env) in
/-- The globals: both references, or none and an error. -/
theorem vmwTtmGlobalInit_cases (h : Leaves s.log heldErr0) :
    let t := vmwTtmGlobalInit env s
    t.capabilities = s.capabilities ∧ t.enableFb = s.enableFb ∧ (Unset s → Unset t) ∧
      (t.ret = 0 ∧ Leaves t.log heldErr1 ∧ env.memGlobal = none ∧ env.boGlobal = none ∨
        t.ret < 0 ∧ Leaves t.log heldErr0 ∧ ¬(env.memGlobal = none ∧ env.boGlobal = none)) := by
  unfold vmwTtmGlobalInit call
  cases hmem : env.memGlobal with
  | some e =>
    simp only [if_pos (Int.ne_of_lt e.neg)]
    exact ⟨trivial, trivial, id, .inr ⟨e.neg, h, fun hn => Option.some_ne_none e hn.1⟩⟩
  | none =>
    cases hbo : env.boGlobal with
    | some e =>
      simp only [acquire, ne_eq, not_true_eq_false, if_false, if_pos (Int.ne_of_lt e.neg)]
      exact ⟨rfl, rfl, id, .inr ⟨e.neg, (h.acquire .memGlobal).release,
        fun hn => Option.some_ne_none e hn.2⟩⟩
    | none => exact ⟨rfl, rfl, id, .inl ⟨rfl, (h.acquire .memGlobal).acquire .boGlobal, rfl, rfl⟩⟩

theorem ttmGlobals_ends (h : Early env heldErr0 s) :
    Ends (ttmGlobals env) s
      (fun _ t => Early env heldErr1 t ∧ env.memGlobal = none ∧ env.boGlobal = none) (Failure env) := by
  obtain ⟨hcaps, hfb, hunset, ⟨hret, hleaves, hnone⟩ | ⟨hret, hleaves, hsome⟩⟩ :=
    vmwTtmGlobalInit_cases env h.leaves
  · refine .bind_modify (ends_gotoIfFailed (fun _ => ?_) (fun hn => absurd hret hn))
    exact ⟨⟨hleaves, hunset h.unset, hcaps.trans h.capabilities, hfb.trans h.enableFb⟩, hnone⟩
  · refine .bind_modify (ends_gotoIfFailed (fun h0 => absurd h0 (Int.ne_of_lt hret)) (fun _ => ?_))
    exact .early (fun hl => hl.1 rfl) (leaves_outErr0 hleaves) hret
      (fun hb => hsome ⟨hb.memGlobal, hb.boGlobal⟩)

theorem bdev_ends (h : Early env heldErr1 s) :
    Ends (attempt .outErr1 env.bdev .bdev) s
      (fun _ t => Early env (.bdev :: heldErr1) t ∧ env.bdev = none) (Failure env) := by
  refine ends_attempt (fun hbdev => ?_) (fun e hbdev hneg => ?_)
  · exact ⟨⟨h.leaves.acquire .bdev, h.unset, h.capabilities, h.enableFb⟩, hbdev⟩
  · exact .early (fun hl => hl.2 rfl) (leaves_outErr1 h.leaves) hneg
      (fun hb => Option.some_ne_none e (hbdev.symm.trans hb.bdev))

end Early

/-! ### From the MTRR to the fence manager -/

/-- What the steps behind the MTRR know, with what they hold above `heldErr3`. -/
structure Known (env : Env) (above : List Res) (d : Private) : Prop where
  leaves : Leaves d.log (above ++ heldErr3 d)
  unset : Unset d
  mtrr : d.mmioMtrr = env.mtrr
  capabilities : d.capabilities = env.capabilities

theorem fails_of_not_beforeFman {env : Env} (h : ¬BeforeFman env) :
    ¬Succeeds env ∧ ¬NoFman env ∧ ¬NoFence env :=
  ⟨fun hs => h hs.toBeforeFman, fun hn => h hn.1, fun hn => h hn.1.toBeforeFman⟩

section Known

variable {env : Env} {s : Private} {held : List Res}

theorem addMtrr_ends (h : Early env (.bdev :: heldErr1) s) :
    Ends (addMtrr env) s (fun _ t => Known env [] t ∧ t.enableFb = env.enableFb) (Failure env) := by
  refine ends_modify.mpr ?_
  dsimp only
  split
  case isTrue hmtrr =>
    refine ⟨⟨?_, h.unset, rfl, h.capabilities⟩, h.enableFb⟩
    simpa [heldErr3, acquire, hmtrr] using h.leaves.acquire .mtrr
  case isFalse hmtrr =>
    refine ⟨⟨?_, h.unset, rfl, h.capabilities⟩, h.enableFb⟩
    simpa [heldErr3, hmtrr] using h.leaves

/-- An acquisition behind the MTRR. -/
theorem Known.acquire (h : Known env held s) (r : Res) : Known env (r :: held) (acquire r s) where
  leaves := h.leaves.acquire r
  unset := h.unset
  mtrr := h.mtrr
  capabilities := h.capabilities

/-- An allocation that the loading needs. -/
theorem Known.allocate {l : Label} {ok : Bool} {r : Res} (h : Known env (above s l) s) (hl : l.late)
    (hbefore : BeforeMmio env) (hneeds : BeforeFman env → ok = true) :
    Ends (allocate l ok (-ENOMEM) r) s
      (fun _ t => Known env (r :: above s l) t ∧ t.enableFb = s.enableFb ∧ ok = true) (Failure env) := by
  refine ends_allocate (fun hok => ⟨h.acquire r, rfl, hok⟩) (fun hfails => ?_)
  refine .late hl h.leaves neg_ENOMEM h.mtrr hbefore (fails_of_not_beforeFman fun hb => ?_)
  exact absurd (hneeds hb) (Bool.eq_false_iff.mp hfails)

theorem mmio_ends (h : Known env [] s) (hfb : s.enableFb = env.enableFb) (hbefore : BeforeMmio env) :
    Ends (Load.allocate .outErr3 env.mmio (-ENOMEM) .mmio) s
      (fun _ t => Known env aboveErr4 t ∧ t.enableFb = env.enableFb ∧ env.mmio = true)
      (Failure env) := by
  have hmmio := h.allocate (l := .outErr3) (r := .mmio) (by decide) hbefore (fun hb => hb.mmio)
  exact hmmio.mono (fun _ _ ht => ⟨ht.1, ht.2.1.trans hfb, ht.2.2⟩) (fun _ _ he => he)

theorem vmwFifoHavePitchlock_eq (h : s.capabilities = env.capabilities) :
    vmwFifoHavePitchlock env s = true ↔
      env.has SVGA_CAP_EXTENDED_FIFO ∧ env.fifoCapabilities &&& SVGA_FIFO_CAP_PITCHLOCK ≠ 0 := by
  unfold vmwFifoHavePitchlock
  rw [Bool.and_eq_true, has_eq h, decide_eq_true_iff]

theorem checkPitchlock_ends (h : Known env aboveErr4 s) (hbefore : BeforeMmio env) :
    Ends (checkPitchlock env) s (fun _ t => t = s ∧ ¬env.lacksPitchlock) (Failure env) := by
  have hlacks : (!s.has SVGA_CAP_DISPLAY_TOPOLOGY && !s.has SVGA_CAP_PITCHLOCK &&
      !vmwFifoHavePitchlock env s) = true ↔ env.lacksPitchlock := by
    simp only [Bool.and_eq_true, Bool.not_eq_true', ← Bool.not_eq_true, has_eq h.capabilities,
      vmwFifoHavePitchlock_eq h.capabilities, and_assoc]
    rfl
  refine .bind_get (.ite (fun hc => .bind_modify ?_) (fun hc => ⟨rfl, fun hn => hc (hlacks.mpr hn)⟩))
  exact .late (by decide) h.leaves neg_ENOSYS h.mtrr hbefore
    (fails_of_not_beforeFman fun hb => hb.pitchlock (hlacks.mp hc))

theorem tdev_ends (h : Known env aboveErr4 s) (hfb : s.enableFb = env.enableFb) (hbefore : BeforeMmio env) :
    Ends (Load.allocate .outErr4 env.tdev (-ENOMEM) .tdev) s
      (fun _ t => Known env aboveNoDevice t ∧ t.enableFb = env.enableFb ∧ env.tdev = true)
      (Failure env) := by
  have htdev := h.allocate (l := .outErr4) (r := .tdev) (by decide) hbefore (fun hb => hb.tdev)
  exact htdev.mono (fun _ _ ht => ⟨ht.1, ht.2.1.trans hfb, ht.2.2⟩) (fun _ _ he => he)

theorem requestRegions_ends (h : Known env aboveNoDevice s) (hfb : s.enableFb = env.enableFb)
    (hbefore : BeforeMmio env) :
    Ends (requestRegions env) s
      (fun _ t => Known env (aboveNoIrq t) t ∧ (t.enableFb = true ↔ env.fbEnabled) ∧ t.ret = 0 ∧
        (env.regions = none ∨ env.region = none))
      (Failure env) := by
  unfold requestRegions Env.fbEnabled
  cases hregions : env.regions with
  | none =>
    refine ⟨⟨h.leaves.acquire .regions, h.unset, h.mtrr, h.capabilities⟩, ?_, rfl, .inl rfl⟩
    simp [acquire, hfb]
  | some e =>
    refine .bind_modify (ends_bind.mpr (ends_attempt (fun hregion => ?_) (fun e' hregion hneg => ?_)))
    · refine ends_modify.mpr ?_
      cases hstandalone : env.standalone with
      | true =>
        refine ⟨⟨h.leaves.acquire .region, h.unset, h.mtrr, h.capabilities⟩, ?_, rfl, .inr hregion⟩
        simp
      | false =>
        refine ⟨⟨h.leaves.acquire .region, h.unset, h.mtrr, h.capabilities⟩, ?_, rfl, .inr hregion⟩
        simp [acquire, hfb]
    · refine .late (by decide) h.leaves hneg h.mtrr hbefore (fails_of_not_beforeFman fun hb => ?_)
      rcases hb.regions with hr | hr
      · exact Option.some_ne_none e (hregions.symm.trans hr)
      · exact Option.some_ne_none e' (hregion.symm.trans hr)

/-- What holds from here on, besides what is held. -/
structure Ready (env : Env) (above : List Res) (d : Private) : Prop extends Known env above d where
  enableFb : d.enableFb = true ↔ env.fbEnabled

theorem installIrq_ends (h : Ready env (aboveNoIrq s) s) (hret : s.ret = 0) (hbefore : BeforeMmio env) :
    Ends (installIrq env) s
      (fun _ t => Ready env (aboveNoFman t) t ∧ t.ret = 0 ∧
        (env.has SVGA_CAP_IRQMASK → env.irq = none))
      (Failure env) := by
  refine .bind_get (.ite (fun hcap => ?_) (fun hcap => ?_))
  · refine ends_attempt (fun hirq => ?_) (fun e hirq hneg => ?_)
    · refine ⟨⟨⟨?_, h.unset, h.mtrr, h.capabilities⟩, h.enableFb⟩, rfl, fun _ => hirq⟩
      have habove : aboveNoFman (Load.acquire .irq { s with ret := 0 }) = .irq :: aboveNoIrq s :=
        congrArg (· ++ aboveNoIrq s) (if_pos hcap)
      rw [habove]
      exact h.leaves.acquire .irq
    · refine .late (by decide) h.leaves hneg h.mtrr hbefore (fails_of_not_beforeFman fun hb => ?_)
      exact Option.some_ne_none e (hirq.symm.trans (hb.irq ((has_eq h.capabilities _).mp hcap)))
  · refine ⟨⟨⟨?_, h.unset, h.mtrr, h.capabilities⟩, h.enableFb⟩, hret, fun hhas => ?_⟩
    · simpa [aboveNoFman, hcap] using h.leaves
    · exact absurd ((has_eq h.capabilities _).mpr hhas) hcap

theorem fman_ends (h : Ready env (aboveNoFman s) s) (hret : s.ret = 0) (hbefore : BeforeFman env) :
    Ends (vmwFenceManagerInit env) s
      (fun _ t => Ready env (aboveNoVram t) t ∧ env.fman = true) (Failure env) := by
  refine .ite (fun hfman => ?_) (fun hfman => .noFman hret ⟨hbefore, Bool.eq_false_iff.mpr hfman⟩)
  exact ⟨⟨h.toKnown.acquire .fman, h.enableFb⟩, hfman⟩

theorem vram_ends (h : Ready env (aboveNoVram s) s) (hbefore : BeforeFman env) (hfman : env.fman = true) :
    Ends (attempt .outNoVram env.vram .vram) s
      (fun _ t => Ready env (.vram :: aboveNoVram t) t ∧ env.vram = none) (Failure env) := by
  refine ends_attempt (fun hvram => ?_) (fun e hvram hneg => ?_)
  · exact ⟨⟨⟨h.leaves.acquire .vram, h.unset, h.mtrr, h.capabilities⟩, h.enableFb⟩, hvram⟩
  · have hfb : ¬BeforeFb env := fun hb => Option.some_ne_none e (hvram.symm.trans hb.vram)
    refine .late (by decide) h.leaves hneg h.mtrr hbefore.toBeforeMmio ⟨?_, ?_, ?_⟩
    · exact fun hs => hfb hs.toBeforeFb
    · exact fun hn => Bool.eq_false_iff.mp hn.2 hfman
    · exact fun hn => hfb hn.1

/-- The managers that there are, on the one of the VRAM. -/
def managers (d : Private) : List Res :=
  (if d.hasMob then [.mob] else []) ++
    ((if d.hasGmr then [.gmr] else []) ++ .vram :: aboveNoVram d)

/-- Whether there are MOBs, with what is held. -/
structure Managed (env : Env) (above : List Res) (d : Private) : Prop where
  leaves : Leaves d.log (above ++ heldErr3 d)
  mtrr : d.mmioMtrr = env.mtrr
  capabilities : d.capabilities = env.capabilities
  enableFb : d.enableFb = true ↔ env.fbEnabled
  hasMob : d.hasMob = true ↔ env.hasMob
  overlayPriv : d.overlayPriv = false

theorem initManagers_managed (h : Ready env (.vram :: aboveNoVram s) s) :
    Managed env (managers (initManagers env s)) (initManagers env s) := by
  unfold initManagers
  dsimp only
  generalize hd : (if (!s.has (SVGA_CAP_GMR ||| SVGA_CAP_GMR2) || s.refuseDma ||
    decide (env.gmr ≠ none)) = true then { s with hasGmr := false } else Load.acquire .gmr { s with hasGmr := true }) = d
  -- whatever becomes of the GMR manager
  have hgmr : Ready env ((if d.hasGmr then [.gmr] else []) ++ .vram :: aboveNoVram d) d := by
    rw [← hd]
    split
    case isTrue => exact ⟨⟨h.leaves, h.unset, h.mtrr, h.capabilities⟩, h.enableFb⟩
    case isFalse => exact ⟨⟨h.leaves.acquire .gmr, h.unset, h.mtrr, h.capabilities⟩, h.enableFb⟩
  obtain ⟨hmob, hoverlay⟩ := hgmr.unset
  have hnoMob : Leaves d.log (managers d ++ heldErr3 d) := by
    simpa [managers, hmob] using hgmr.leaves
  split
  case isFalse hcap =>
    refine ⟨hnoMob, hgmr.mtrr, hgmr.capabilities, hgmr.enableFb, ?_, hoverlay⟩
    rw [hmob]
    exact ⟨fun hf => absurd hf Bool.false_ne_true,
      fun hh => absurd ((has_eq hgmr.capabilities _).mpr hh.1) hcap⟩
  case isTrue hcap =>
    split
    case isTrue hfails =>
      refine ⟨?_, hgmr.mtrr, hgmr.capabilities, hgmr.enableFb, ?_, hoverlay⟩
      · exact hgmr.leaves
      · exact ⟨fun hf => absurd hf Bool.false_ne_true, fun hh => absurd hh.2 hfails⟩
    case isFalse hok =>
      refine ⟨hgmr.leaves.acquire .mob, hgmr.mtrr, hgmr.capabilities, hgmr.enableFb, ?_, hoverlay⟩
      exact ⟨fun _ => ⟨(has_eq hgmr.capabilities _).mp hcap, not_ne_iff.mp hok⟩, fun _ => rfl⟩

/-- The display, no step of which ends the loading. -/
theorem initDisplay_ends (h : Managed env (managers s) s) :
    Ends (initDisplay env) s
      (fun _ t => Leaves t.log (aboveNoFifo t ++ heldErr3 t) ∧ t.mmioMtrr = env.mtrr ∧
        (t.enableFb = true ↔ env.fbEnabled) ∧ (t.hasMob = true ↔ env.hasMob))
      (Failure env) := by
  refine .bind_modify (.bind_modify ?_)
  generalize hd : vmwKmsInit env (Load.acquire .vga s) = d
  have hkms : d.ret = 0 ∧ Leaves d.log (.kms (display d) :: aboveNoKms d ++ heldErr3 d) ∧
      d.mmioMtrr = env.mtrr ∧ (d.enableFb = true ↔ env.fbEnabled) ∧
      (d.hasMob = true ↔ env.hasMob) ∧ d.overlayPriv = false := by
    rw [← hd]
    unfold vmwKmsInit
    split
    case isTrue =>
      exact ⟨rfl, (h.leaves.acquire .vga).acquire _, h.mtrr, h.enableFb, h.hasMob, h.overlayPriv⟩
    case isFalse =>
      exact ⟨rfl, (h.leaves.acquire .vga).acquire _, h.mtrr, h.enableFb, h.hasMob, h.overlayPriv⟩
  obtain ⟨hret, hleaves, hmtrr, hfb, hmob, hoverlay⟩ := hkms
  refine ends_bind.mpr (ends_gotoIfFailed (fun _ => ends_modify.mpr ?_) (fun hn => absurd hret hn))
  unfold vmwOverlayInit
  split
  case isTrue => exact ⟨hleaves.acquire .overlay, hmtrr, hfb, hmob⟩
  case isFalse =>
    refine ⟨?_, hmtrr, hfb, hmob⟩
    simpa [aboveNoFifo, hoverlay] using hleaves

/-! ### The first reference to the 3D resources -/

variable (env) in
/-- The last step, with the unwinding of the steps before. -/
theorem vmwDummyQueryBoCreate_cases {held : List Res}
    (h : Leaves s.log ((if s.hasMob then [.otables] else []) ++ .fenceFifo :: .fifo :: held)) :
    let t := vmwDummyQueryBoCreate env s
    env.queryBo = none ∧ t.ret = 0 ∨
      env.queryBo ≠ none ∧ t.ret < 0 ∧
        ∃ log, t = { s with ret := t.ret, log := log } ∧ Leaves log held := by
  unfold vmwDummyQueryBoCreate call
  cases env.queryBo with
  | none => exact .inl ⟨rfl, rfl⟩
  | some e =>
    right
    simp only [if_pos (Int.ne_of_lt e.neg)]
    unfold outNoQueryBo outNoMob
    split
    case isTrue hmob =>
      have hmob' : s.hasMob = true := hmob
      rw [if_pos hmob'] at h
      exact ⟨Option.some_ne_none e, e.neg, _, rfl, h.release.release.release⟩
    case isFalse hmob =>
      have hmob' : ¬s.hasMob = true := hmob
      rw [if_neg hmob'] at h
      exact ⟨Option.some_ne_none e, e.neg, _, rfl, h.release.release⟩

variable (env) in
theorem requestObjects_cases {held : List Res} (h : Leaves s.log (.fenceFifo :: .fifo :: held)) :
    let t := requestObjects env s
    (s.hasMob = true → env.otables = none) ∧ env.queryBo = none ∧ t.ret = 0 ∨
      ¬((s.hasMob = true → env.otables = none) ∧ env.queryBo = none) ∧ t.ret < 0 ∧
        ∃ log, t = { s with ret := t.ret, log := log } ∧ Leaves log held := by
  unfold requestObjects
  split
  case isFalse hmob =>
    have hnone : Leaves s.log ((if s.hasMob then [.otables] else []) ++ .fenceFifo :: .fifo :: held) := by
      rwa [if_neg hmob]
    have hquery := vmwDummyQueryBoCreate_cases env hnone
    refine hquery.imp (fun hok => ⟨fun hm => absurd hm hmob, hok⟩) (fun hfails => ⟨?_, hfails.2⟩)
    exact fun hn => hfails.1 hn.2
  case isTrue hmob =>
    unfold call
    cases hotables : env.otables with
    | some e =>
      right
      simp only [if_pos (Int.ne_of_lt e.neg)]
      exact ⟨fun hn => Option.some_ne_none e (hn.1 hmob), e.neg, _, rfl, h.release.release⟩
    | none =>
      have hup : Leaves (acquire .otables { s with ret := 0 }).log
          ((if s.hasMob then [.otables] else []) ++ .fenceFifo :: .fifo :: held) := by
        rw [if_pos hmob]
        exact h.acquire .otables
      have hquery := vmwDummyQueryBoCreate_cases env hup
      refine hquery.imp (fun hok => ⟨fun _ => rfl, hok⟩) (fun hfails => ⟨?_, hfails.2⟩)
      exact fun hn => hfails.1 hn.2

/-- All of it, nothing, or the FIFO left behind. -/
theorem vmwRequestDevice_cases {held : List Res} (hmob : s.hasMob = true ↔ env.hasMob)
    (h : Leaves s.log held) :
    let t := vmwRequestDevice env s
    RequestSucceeds env ∧ t.ret = 0 ∨
      ¬RequestSucceeds env ∧ t.ret < 0 ∧ ∃ log, t = { s with ret := t.ret, log := log } ∧
        (env.staticBuffer = true ∧ env.fence ≠ none ∧ Leaves log (.fifo :: held) ∨
          ¬(env.staticBuffer = true ∧ env.fence ≠ none) ∧ Leaves log held) := by
  unfold vmwRequestDevice vmwFifoInit
  cases hbuffer : env.staticBuffer with
  | false =>
    right
    have hfails : ¬RequestSucceeds env := fun hr => Bool.eq_false_iff.mp hbuffer hr.staticBuffer
    exact ⟨hfails, neg_ENOMEM, s.log, rfl, .inr ⟨fun hn => Bool.false_ne_true hn.1, h⟩⟩
  | true =>
    cases hfence : env.fence with
    | some e =>
      right
      have hfails : ¬RequestSucceeds env := fun hr => Option.some_ne_none e (hfence.symm.trans hr.fence)
      simp only [if_true, if_pos (errnoVal_ne_zero e)]
      exact ⟨hfails, e.neg, _, rfl, .inl ⟨trivial, Option.some_ne_none e, h.acquire .fifo⟩⟩
    | none =>
      have hno : ¬(true = true ∧ (none : Option Errno) ≠ none) := fun hn => hn.2 rfl
      have hup : Leaves (acquire .fenceFifo { acquire .fifo s with ret := 0 }).log
          (.fenceFifo :: .fifo :: held) := (h.acquire .fifo).acquire .fenceFifo
      rcases requestObjects_cases env hup with hok | hfails
      · obtain ⟨hotables, hquery, hret⟩ := hok
        exact .inl ⟨⟨hbuffer, hfence, fun hm => hotables (hmob.mpr hm), hquery⟩, hret⟩
      · obtain ⟨hfails, hret, log, ht, hleaves⟩ := hfails
        have hnot : ¬RequestSucceeds env :=
          fun hr => hfails ⟨fun hm => hr.otables (hmob.mp hm), hr.queryBo⟩
        exact .inr ⟨hnot, hret, log, ht, .inr ⟨hno, hleaves⟩⟩

theorem initFb_ends
    (h : Leaves s.log (aboveNoFifo s ++ heldErr3 s)) (hmtrr : s.mmioMtrr = env.mtrr)
    (hfb : s.enableFb = true ↔ env.fbEnabled) (hmob : s.hasMob = true ↔ env.hasMob)
    (hbefore : BeforeFb env) :
    Ends (initFb env) s (fun _ _ => Succeeds env) (Failure env) := by
  refine .bind_get (.ite (fun henable => .bind_modify ?_) (fun henable => ?_))
  · have henv := hfb.mp henable
    obtain ⟨hok, hret⟩ | ⟨hfails, hret, log, ht, hcase⟩ := vmwRequestDevice_cases hmob h
    · refine ends_bind.mpr (ends_gotoIfFailed (fun _ => ?_) (fun hn => absurd hret hn))
      exact ⟨hbefore, fun _ => hok⟩
    · refine ends_bind.mpr (ends_gotoIfFailed (fun h0 => absurd h0 (Int.ne_of_lt hret)) (fun _ => ?_))
      have hnot : ¬Succeeds env := fun hs => hfails (hs.request henv)
      rw [ht]
      rcases hcase with ⟨hbuffer, hfence, hleaves⟩ | ⟨hno, hleaves⟩
      · exact .noFence hleaves ⟨hbefore, henv, hbuffer, hfence⟩
      · refine .late (by decide) hleaves hret hmtrr hbefore.toBeforeMmio ⟨hnot, ?_, ?_⟩
        · exact fun hn => Bool.eq_false_iff.mp hn.2 hbefore.fman
        · exact fun hn => hno hn.2.2
  · exact ⟨hbefore, fun henv => absurd (hfb.mpr henv) henable⟩

end Known

/-! ### The loading as a whole -/

section Load

variable {env : Env}

theorem body_ends (hdev : env.devPriv = true) :
    Ends (body env) (fresh env) (fun _ t => t.ret = 0 ∧ Succeeds env) (Failure env) := by
  have hfresh : Leaves (acquire .idrs (fresh env)).log heldErr0 := rfl
  refine .bind_modify ((probe_ends hfresh ⟨rfl, rfl⟩ rfl).bind fun _ s hs => ?_)
  obtain ⟨hs, hid⟩ := hs
  refine (ttmGlobals_ends hs).bind fun _ s hs => ?_
  obtain ⟨hs, hmem, hbo⟩ := hs
  refine (bdev_ends hs).bind fun _ s hs => ?_
  obtain ⟨hs, hbdev⟩ := hs
  have hmmio : BeforeMmio env := ⟨hdev, hid, hmem, hbo, hbdev⟩
  refine (addMtrr_ends hs).bind fun _ s hs => ?_
  obtain ⟨hs, hfb⟩ := hs
  refine (mmio_ends hs hfb hmmio).bind fun _ s hs => ?_
  obtain ⟨hs, hfb, hmapped⟩ := hs
  refine (checkPitchlock_ends hs hmmio).bind fun _ t ht => ?_
  obtain ⟨rfl, hpitchlock⟩ := ht
  refine (tdev_ends hs hfb hmmio).bind fun _ s hs => ?_
  obtain ⟨hs, hfb, htdev⟩ := hs
  refine (requestRegions_ends hs hfb hmmio).bind fun _ s hs => ?_
  obtain ⟨hs, hfb, hret, hregions⟩ := hs
  refine (installIrq_ends ⟨hs, hfb⟩ hret hmmio).bind fun _ s hs => ?_
  obtain ⟨hs, hret, hirq⟩ := hs
  have hman : BeforeFman env := ⟨hmmio, hmapped, hpitchlock, htdev, hregions, hirq⟩
  refine (fman_ends hs hret hman).bind fun _ s hs => ?_
  obtain ⟨hs, hfman⟩ := hs
  refine (vram_ends hs hman hfman).bind fun _ s hs => .bind_modify ?_
  obtain ⟨hs, hvram⟩ := hs
  refine (initDisplay_ends (initManagers_managed hs)).bind fun _ s hs => ?_
  obtain ⟨hleaves, hmtrr, hfb, hmob⟩ := hs
  refine (initFb_ends hleaves hmtrr hfb hmob ⟨hman, hfman, hvram⟩).bind fun _ s hs => ?_
  exact ⟨rfl, hs⟩

/-- What a failure at a label makes of the result. -/
theorem failure_unwinds_iff {l : Label} {d : Private} (h : Failure env l d) :
    ((Succeeds env → d.ret = 0) ∧
        (¬Succeeds env → d.ret < 0 ∧ Leaves (d.log ++ unwind env d l) [])) ↔
      ¬NoFman env ∧ ¬NoFence env ∧ ¬ForeignMtrr env := by
  cases h with
  | early hl hleaves hret hbefore =>
    refine ⟨fun _ => ⟨?_, ?_, ?_⟩, fun _ => ⟨fun hs => ?_, fun _ => ⟨hret, hleaves⟩⟩⟩
    · exact fun hn => hbefore hn.1.toBeforeMmio
    · exact fun hn => hbefore hn.1.toBeforeMmio
    · exact fun hn => hbefore hn.1
    · exact absurd hs.toBeforeMmio hbefore
  | late hl hleaves hret hmtrr hbefore hfails =>
    obtain ⟨hs, hfman, hfence⟩ := hfails
    have hiff := leaves_unwind_iff env hl hleaves
    rw [hmtrr] at hiff
    constructor
    · intro hu
      exact ⟨hfman, hfence, fun hf => hiff.mp (hu.2 hs).2 hf.2.2⟩
    · rintro ⟨-, -, hf⟩
      exact ⟨fun hs' => absurd hs' hs, fun _ => ⟨hret, hiff.mpr fun hm => hf ⟨hbefore, hs, hm⟩⟩⟩
  | noFman hret hn =>
    have hs : ¬Succeeds env := fun hs => Bool.eq_false_iff.mp hn.2 hs.fman
    exact ⟨fun hu => absurd hret (Int.ne_of_lt (hu.2 hs).1), fun hc => absurd hn hc.1⟩
  | noFence hleaves hn =>
    have hs : ¬Succeeds env := fun hs => hn.2.2.2 (hs.request hn.2.1).fence
    exact ⟨fun hu => absurd (hu.2 hs).2 (not_leaves_of_fifo hleaves), fun hc => absurd hn hc.2.1⟩

/-- The driver is loaded, or the loading is undone, except in three cases. -/
theorem driver_load_unwinds_iff (env : Env) :
    Unwinds env ↔ ¬NoFman env ∧ ¬NoFence env ∧ ¬ForeignMtrr env := by
  by_cases hdev : env.devPriv = true
  case neg =>
    have hbefore : ¬BeforeMmio env := fun hb => hdev hb.devPriv
    have hload : vmwDriverLoad env = (-ENOMEM, []) := if_neg hdev
    constructor
    · intro _
      refine ⟨fun hn => ?_, fun hn => ?_, fun hn => hbefore hn.1⟩
      · exact hbefore hn.1.toBeforeMmio
      · exact hbefore hn.1.toBeforeMmio
    · intro _
      refine ⟨fun hs => absurd hs.toBeforeMmio hbefore, fun _ => ?_⟩
      rw [hload]
      exact ⟨neg_ENOMEM, leaves_nil⟩
  case pos =>
    have hends := body_ends hdev
    unfold Ends at hends
    unfold Unwinds vmwDriverLoad
    rw [if_pos hdev]
    cases hbody : body env (fresh env) with
    | ok _ t =>
      rw [hbody] at hends
      obtain ⟨hret, hs⟩ := hends
      constructor
      · intro _
        refine ⟨fun hn => ?_, fun hn => ?_, fun hn => hn.2.1 hs⟩
        · exact Bool.eq_false_iff.mp hn.2 hs.fman
        · exact hn.2.2.2 (hs.request hn.2.1).fence
      · intro _
        exact ⟨fun _ => hret, fun hn => absurd hs hn⟩
    | error l t =>
      rw [hbody] at hends
      exact failure_unwinds_iff hends

/-- Everything succeeds but the allocation of the fence manager. -/
def noFman : Env where
  enableFb := true
  standalone := true
  devPriv := true
  svgaId := SVGA_ID_2
  capabilities := SVGA_CAP_IRQMASK ||| SVGA_CAP_GMR2 ||| SVGA_CAP_DISPLAY_TOPOLOGY
  fifoCapabilities := 0
  dmaMode := none
  memGlobal := none
  boGlobal := none
  bdev := none
  mtrr := 0
  foreignMtrr := false
  mmio := true
  tdev := true
  regions := none
  region := none
  irq := none
  fman := false
  vram := none
  gmr := none
  mob := none
  screenObject := true
  legacy := true
  overlay := true
  staticBuffer := true
  fence := none
  otables := none
  queryBo := none
  fb := true

/-- Success is returned, with everything released. -/
theorem driver_load_no_fman :
    (vmwDriverLoad noFman).1 = 0 ∧ Leaves (vmwDriverLoad noFman).2 [] ∧ ¬Unwinds noFman := by
  have hret : (vmwDriverLoad noFman).1 = 0 := by rfl
  refine ⟨hret, by rfl, fun hu => ?_⟩
  have hs : ¬Succeeds noFman := fun hs => Bool.false_ne_true hs.fman
  exact absurd hret (Int.ne_of_lt (hu.2 hs).1)

end Load

end Vmwgfx.Load
