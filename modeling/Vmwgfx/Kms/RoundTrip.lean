import Vmwgfx.Kms.Vga

/-! What `vmw_kms_restore_vga` brings back of the state at `vmw_kms_save_vga`. -/

namespace Vmwgfx.Kms.Ldu.Vga

variable (dev : Device)

/-- A save, mode settings and the restore. -/
def session (saved : Saved) (ops : List Op) (regs : Regs) : Option Regs := do
  let (saved, regs) ← vmwKmsSaveVga dev saved regs
  let regs ← modeSet dev ops regs
  (vmwKmsRestoreVga dev saved).map regs.writes

/-- The number of displays that are saved. -/
def Regs.numSaved (regs : Regs) : UInt32 :=
  if regs.numGuestDisplays = 0 then 1 else regs.numGuestDisplays

/-- The display `i`; a single one that is not initialized is the full screen. -/
def Regs.topology (regs : Regs) (i : Nat) : Topology :=
  let t := regs.displays i.toUInt32
  if i = 0 ∧ regs.numSaved = 1 ∧ t.width = 0 ∧ t.height = 0 then
    { t with width := regs.width - t.posX, height := regs.height - t.posY }
  else t

structure Restored (regs regs' : Regs) : Prop where
  width : regs'.width = regs.width
  height : regs'.height = regs.height
  bitsPerPixel : regs'.bitsPerPixel = regs.bitsPerPixel
  pitchlock : regs'.pitchlock = regs.pitchlock
  fifoPitchlock : regs'.fifoPitchlock = regs.fifoPitchlock
  numGuestDisplays : regs'.numGuestDisplays = regs.numGuestDisplays
  displays : dev.topology = true →
    ∀ i < regs.numSaved.toNat, regs'.displays i.toUInt32 = regs.topology i

/-- The number of guest displays that a mode setting sets, if it does. -/
def Op.number : Op → Option UInt32
  | .writeSvga .. => none
  | .commitList _ s =>
    if dev.topology then some (if s.numActive ≠ 0 then s.numActive.toUInt32 else 1) else none
  | .setPar env par => if env.depth = par.depth ∧ dev.topology = true then some 1 else none

/-- The number that the last mode setting leaves that sets it. -/
def numberAfter (ops : List Op) (num : UInt32) : UInt32 :=
  ops.foldl (fun num op => (op.number dev).getD num) num

/-! ### What writes do -/

section Writes

/-- The registers without an index. -/
def Regs.get (regs : Regs) : Reg → Option UInt32
  | .pitchlock => some regs.pitchlock
  | .fifoPitchlock => some regs.fifoPitchlock
  | .width => some regs.width
  | .height => some regs.height
  | .bitsPerPixel => some regs.bitsPerPixel
  | .numGuestDisplays => some regs.numGuestDisplays
  | .displayId => some regs.displayId
  | _ => none

variable {regs : Regs} {ws ws' : Writes} {r : Reg}

theorem writes_append (regs : Regs) (ws ws' : Writes) :
    regs.writes (ws ++ ws') = (regs.writes ws).writes ws' := List.foldl_append

theorem get_write_of_ne (regs : Regs) {w : Reg × UInt32} (h : w.1 ≠ r) :
    (vmwWrite regs w).get r = regs.get r := by
  obtain ⟨w, v⟩ := w
  cases w <;> cases r <;> first | rfl | exact absurd rfl h

/-- A register keeps its value under writes to others. -/
theorem get_writes_of_not_mem (regs : Regs) (h : r ∉ ws.map Prod.fst) :
    (regs.writes ws).get r = regs.get r := by
  induction ws generalizing regs with
  | nil => rfl
  | cons w ws ih =>
    simp only [List.map_cons, List.mem_cons, not_or] at h
    exact (ih (vmwWrite regs w) h.2).trans (get_write_of_ne regs (Ne.symm h.1))

theorem writes_displayWrites (regs : Regs) (i : UInt32) (t : Topology) :
    regs.writes (displayWrites i t) =
      { regs with displayId := SVGA_ID_INVALID, displays := Function.update regs.displays i t } := by
  simp [Regs.writes, displayWrites, vmwWrite, Regs.setDisplay, Regs.display]

/-- One of the registers behind the index. -/
def isDisplay : Reg → Bool
  | .displayId | .displayIsPrimary | .displayPositionX | .displayPositionY => true
  | .displayWidth | .displayHeight => true
  | _ => false

theorem isDisplay_displayWrites (i : UInt32) (t : Topology) :
    ∀ w ∈ displayWrites i t, isDisplay w.1 = true := by
  simp [displayWrites, isDisplay]

theorem get_writes_of_isDisplay (regs : Regs) (h : ∀ w ∈ ws, isDisplay w.1 = true)
    (hr : isDisplay r = false) : (regs.writes ws).get r = regs.get r := by
  refine get_writes_of_not_mem regs fun hmem => ?_
  obtain ⟨w, hw, rfl⟩ := List.mem_map.mp hmem
  exact absurd (h w hw) (Bool.eq_false_iff.mp hr)

end Writes

/-! ### The loops over the displays -/

section Loops

variable {saved : Saved} {regs : Regs}

theorem toUInt32_inj {i j : Nat} (hi : i < VMWGFX_MAX_DISPLAYS) (hj : j < VMWGFX_MAX_DISPLAYS)
    (h : i.toUInt32 = j.toUInt32) : i = j := by
  have htoNat := congrArg UInt32.toNat h
  simp only [Nat.toUInt32, UInt32.toNat_ofNat'] at htoNat
  unfold VMWGFX_MAX_DISPLAYS at hi hj
  omega

/-- The save of displays within the array keeps each of them, and sets only the index register. -/
theorem saveDisplays_spec (n i : Nat) (saved : Saved) (regs : Regs)
    (h : i + n ≤ VMWGFX_MAX_DISPLAYS) :
    ∃ v id, saveDisplays n i saved regs =
        some ({ saved with vgaSave := v }, { regs with displayId := id }) ∧
      ∀ j : Nat, v[j]? =
        if i ≤ j ∧ j < i + n then some (fullScreen saved j (regs.displays j.toUInt32))
        else saved.vgaSave[j]? := by
  induction n generalizing i saved regs with
  | zero =>
    refine ⟨saved.vgaSave, regs.displayId, rfl, fun j => ?_⟩
    rw [if_neg (by omega)]
  | succ n ih =>
    have hi : i < VMWGFX_MAX_DISPLAYS := by omega
    let kept := saved.vgaSave.set i (fullScreen saved i (regs.displays i.toUInt32)) hi
    have hround : saveDisplay i saved regs =
        some ({ saved with vgaSave := kept }, { regs with displayId := SVGA_ID_INVALID }) := dif_pos hi
    obtain ⟨v, id, hrest, hv⟩ := ih (i + 1) { saved with vgaSave := kept }
      { regs with displayId := SVGA_ID_INVALID } (by omega)
    refine ⟨v, id, ?_, fun j => (hv j).trans ?_⟩
    · unfold saveDisplays
      rw [hround]
      exact hrest
    · by_cases hj : j = i
      · subst hj
        rw [if_neg (by omega), if_pos (by omega)]
        exact Vector.getElem?_set_self hi
      · have hset : kept[j]? = saved.vgaSave[j]? := Vector.getElem?_set_ne hi (Ne.symm hj)
        by_cases hlt : i + 1 ≤ j ∧ j < i + 1 + n
        · rw [if_pos hlt, if_pos (by omega)]
          rfl
        · rw [if_neg hlt, if_neg (by omega)]
          exact hset

/-- More displays than the array has places: one is written past it. -/
theorem saveDisplays_eq_none (n i : Nat) (saved : Saved) (regs : Regs)
    (hi : i ≤ VMWGFX_MAX_DISPLAYS) (h : VMWGFX_MAX_DISPLAYS < i + n) :
    saveDisplays n i saved regs = none := by
  induction n generalizing i saved regs with
  | zero => omega
  | succ n ih =>
    unfold saveDisplays saveDisplay
    split
    case isTrue hlt => exact ih (i + 1) _ _ hlt (by omega)
    case isFalse => rfl

/-- The restore of displays within the array writes each of them, and no other. -/
theorem restoreDisplays_spec (n i : Nat) (saved : Saved) (h : i + n ≤ VMWGFX_MAX_DISPLAYS) :
    ∃ ws, restoreDisplays saved n i = some ws ∧ (∀ w ∈ ws, isDisplay w.1 = true) ∧
      ∀ (regs : Regs) (j : Nat) (t : Topology), saved.vgaSave[j]? = some t →
        (regs.writes ws).displays j.toUInt32 =
          if i ≤ j ∧ j < i + n then t else regs.displays j.toUInt32 := by
  induction n generalizing i with
  | zero =>
    refine ⟨[], rfl, fun w hw => absurd hw List.not_mem_nil, fun regs j t _ => ?_⟩
    rw [if_neg (by omega)]
    rfl
  | succ n ih =>
    have hi : i < VMWGFX_MAX_DISPLAYS := by omega
    obtain ⟨ws, hrest, hdisplay, hws⟩ := ih (i + 1) (by omega)
    obtain ⟨s, hs⟩ : ∃ s, saved.vgaSave[i]? = some s := ⟨_, Vector.getElem?_eq_getElem hi⟩
    refine ⟨displayWrites i.toUInt32 s ++ ws, ?_, ?_, fun regs j t ht => ?_⟩
    · unfold restoreDisplays
      rw [hs, hrest]
      rfl
    · intro w hw
      rcases List.mem_append.mp hw with hw | hw
      · exact isDisplay_displayWrites _ _ w hw
      · exact hdisplay w hw
    · have hj : j < VMWGFX_MAX_DISPLAYS := by
        obtain ⟨hj, -⟩ := Vector.getElem?_eq_some_iff.mp ht
        exact hj
      rw [writes_append, hws _ j t ht, writes_displayWrites]
      dsimp only
      by_cases hlt : i + 1 ≤ j ∧ j < i + 1 + n
      · rw [if_pos hlt, if_pos (by omega)]
      · rw [if_neg hlt]
        by_cases heq : j = i
        · subst heq
          rw [if_pos (by omega), Function.update_self]
          exact Option.some.inj (hs.symm.trans ht)
        · rw [if_neg (by omega), Function.update_of_ne fun hinj => heq (toUInt32_inj hj hi hinj)]

end Loops

/-! ### The mode settings -/

section ModeSet

variable {dev} {regs regs' : Regs} {ws : Writes} {r : Reg} {num : UInt32} {op : Op} {ops : List Op}

/-- A pitchlock that the driver leaves alone. -/
def Idle (dev : Device) (r : Reg) : Prop :=
  r = .pitchlock ∧ dev.pitchlock = false ∨
    r = .fifoPitchlock ∧ (dev.pitchlock = true ∨ dev.fifoPitchlock = false)

theorem Idle.not_isDisplay (h : Idle dev r) : isDisplay r = false := by
  rcases h with ⟨rfl, -⟩ | ⟨rfl, -⟩ <;> rfl

/-- Of a list of writes: the number of guest displays behind it, with the idle pitchlock as it was. -/
structure Effect (dev : Device) (ws : Writes) (number : Option UInt32) : Prop where
  idle : ∀ r, Idle dev r → r ∉ ws.map Prod.fst
  number : ∀ regs : Regs, (regs.writes ws).numGuestDisplays = number.getD regs.numGuestDisplays

theorem effect_of_not_mem (hidle : ∀ r, Idle dev r → r ∉ ws.map Prod.fst)
    (h : Reg.numGuestDisplays ∉ ws.map Prod.fst) : Effect dev ws none :=
  ⟨hidle, fun regs => Option.some.inj (get_writes_of_not_mem regs h)⟩

theorem effect_nil : Effect dev [] none := effect_of_not_mem (fun _ _ => List.not_mem_nil) List.not_mem_nil

theorem effect_writeSvga (dev : Device) (env : Env) (width height pitch bpp depth : UInt32) :
    Effect dev (vmwKmsWriteSvga dev env width height pitch bpp depth).2 none := by
  apply effect_of_not_mem
  · rintro r (⟨rfl, hlock⟩ | ⟨rfl, hlock⟩)
    · cases hfifo : dev.fifoPitchlock <;> simp [vmwKmsWriteSvga, hlock, hfifo]
    · rcases hlock with hlock | hfifo
      · simp [vmwKmsWriteSvga, hlock]
      · cases hlock : dev.pitchlock <;> simp [vmwKmsWriteSvga, hlock, hfifo]
  · cases hlock : dev.pitchlock <;> cases hfifo : dev.fifoPitchlock <;>
      simp [vmwKmsWriteSvga, hlock, hfifo]

/-- The number, then displays. -/
theorem Effect.displays {svga displays : Writes} (h : Effect dev svga none) (num : UInt32)
    (hdisplays : ∀ w ∈ displays, isDisplay w.1 = true) :
    Effect dev (svga ++ (.numGuestDisplays, num) :: displays) (some num) where
  idle r hr := by
    have hdisplay : r ∉ displays.map Prod.fst := by
      intro hmem
      obtain ⟨w, hw, rfl⟩ := List.mem_map.mp hmem
      exact absurd (hdisplays w hw) (Bool.eq_false_iff.mp hr.not_isDisplay)
    have hne : r ≠ .numGuestDisplays := by
      rcases hr with ⟨rfl, -⟩ | ⟨rfl, -⟩ <;> decide
    simpa [hne, hdisplay] using h.idle r hr
  number regs := by
    rw [writes_append]
    let t := (regs.writes svga).writes [(.numGuestDisplays, num)]
    have hrest : (t.writes displays).get .numGuestDisplays = t.get .numGuestDisplays :=
      get_writes_of_isDisplay _ hdisplays rfl
    exact Option.some.inj hrest

theorem isDisplay_writeDisplay (crtc : Crtc) (i : Nat) :
    ∀ w ∈ writeDisplay crtc i, isDisplay w.1 = true := by
  simp [writeDisplay, isDisplay]

theorem effect_commitList {env : Env} {s : State} {ret : Int}
    (h : vmwLduCommitList dev env s = some (ret, ws)) :
    Effect dev ws (Op.number dev (.commitList env s)) := by
  unfold vmwLduCommitList at h
  unfold Op.number
  cases htopology : dev.topology with
  | false =>
    rw [htopology] at h
    simp only [Bool.false_eq_true, not_false_eq_true, if_true] at h
    split at h
    case isTrue =>
      cases h
      exact effect_nil
    case isFalse =>
      obtain ⟨fb, -, heq⟩ := Option.map_eq_some_iff.mp h
      have hws := congrArg Prod.snd heq
      dsimp only at hws
      rw [← hws]
      exact effect_writeSvga dev env _ _ _ _ _
  | true =>
    rw [htopology] at h
    simp only [not_true_eq_false, if_false] at h
    have hdisplays : ∀ w ∈ s.active.zipIdx.flatMap (fun x => writeDisplay (s.unit x.1) x.2),
        isDisplay w.1 = true := by
      intro w hw
      obtain ⟨x, -, hw⟩ := List.mem_flatMap.mp hw
      exact isDisplay_writeDisplay _ _ w hw
    split at h
    case h_1 =>
      dsimp only [Option.bind_eq_bind, Option.bind_some] at h
      split at h
      case isTrue => cases h
      case isFalse =>
        cases h
        exact effect_nil.displays _ hdisplays
    case h_2 entry _ _ =>
      obtain ⟨svga, hsvga, h⟩ := Option.bind_eq_some_iff.mp h
      obtain ⟨fb, -, rfl⟩ := Option.map_eq_some_iff.mp hsvga
      split at h
      case isTrue => cases h
      case isFalse =>
        cases h
        exact (effect_writeSvga dev env _ _ _ _ _).displays _ hdisplays

theorem neg_EINVAL_ne : -EINVAL ≠ 0 := by decide

theorem effect_setPar (dev : Device) (env : Env) (par : FbPar) :
    Effect dev (vmwFbSetPar dev env par).2 (Op.number dev (.setPar env par)) := by
  have hsvga := effect_writeSvga dev env par.xres par.yres par.lineLength par.bpp par.depth
  unfold vmwFbSetPar Op.number
  by_cases hdepth : env.depth = par.depth
  · have hret : (vmwKmsWriteSvga dev env par.xres par.yres par.lineLength par.bpp par.depth).1 = 0 :=
      if_neg (not_not.mpr hdepth)
    dsimp only
    rw [if_neg (not_not.mpr hret)]
    cases htopology : dev.topology with
    | true =>
      rw [if_pos rfl, if_pos ⟨hdepth, rfl⟩]
      exact hsvga.displays 1 (isDisplay_displayWrites 0 _)
    | false =>
      rw [if_neg Bool.false_ne_true, if_neg (fun h => Bool.false_ne_true h.2)]
      exact hsvga
  · have hret : (vmwKmsWriteSvga dev env par.xres par.yres par.lineLength par.bpp par.depth).1 = -EINVAL :=
      if_pos hdepth
    dsimp only
    rw [hret, if_pos neg_EINVAL_ne, if_neg (fun h => hdepth h.1)]
    exact hsvga

theorem effect_op (h : op.writes dev = some ws) : Effect dev ws (op.number dev) := by
  cases op with
  | writeSvga env width height pitch bpp depth =>
    cases h
    exact effect_writeSvga dev env width height pitch bpp depth
  | commitList env s =>
    obtain ⟨⟨ret, ws'⟩, hcommit, rfl⟩ := Option.map_eq_some_iff.mp h
    exact effect_commitList hcommit
  | setPar env par =>
    cases h
    exact effect_setPar dev env par

/-- Mode settings that end: the number of the last one, the idle pitchlock as before. -/
theorem modeSet_spec (hops : ∀ op ∈ ops, (op.writes dev).isSome = true) (regs : Regs) :
    ∃ regs', modeSet dev ops regs = some regs' ∧ (∀ r, Idle dev r → regs'.get r = regs.get r) ∧
      regs'.numGuestDisplays = numberAfter dev ops regs.numGuestDisplays := by
  induction ops generalizing regs with
  | nil => exact ⟨regs, rfl, fun _ _ => rfl, rfl⟩
  | cons op ops ih =>
    obtain ⟨ws, hws⟩ := Option.isSome_iff_exists.mp (hops op List.mem_cons_self)
    have heffect := effect_op hws
    obtain ⟨regs', hrun, hidle, hnum⟩ :=
      ih (fun op hop => hops op (List.mem_cons_of_mem _ hop)) (regs.writes ws)
    refine ⟨regs', ?_, fun r hr => ?_, ?_⟩
    · unfold modeSet
      rw [hws]
      exact hrun
    · exact (hidle r hr).trans (get_writes_of_not_mem regs (heffect.idle r hr))
    · rw [hnum, heffect.number regs]
      rfl

end ModeSet

/-! ### The save and the restore -/

section Session

variable {dev} {regs : Regs} {saved : Saved} {ops : List Op}

/-- What the save keeps of the registers. -/
structure Kept (dev : Device) (regs : Regs) (saved : Saved) : Prop where
  width : saved.vgaWidth = regs.width
  height : saved.vgaHeight = regs.height
  bpp : saved.vgaBpp = regs.bitsPerPixel
  pitchlock : dev.pitchlock = true → saved.vgaPitchlock = regs.pitchlock
  fifoPitchlock : dev.pitchlock = false → dev.fifoPitchlock = true →
    saved.vgaPitchlock = regs.fifoPitchlock
  numDisplays : dev.topology = true → saved.numDisplays = regs.numSaved
  displays : dev.topology = true →
    ∀ j < regs.numSaved.toNat, saved.vgaSave[j]? = some (regs.topology j)

theorem numSaved_le_iff : regs.numSaved.toNat ≤ VMWGFX_MAX_DISPLAYS ↔
    regs.numGuestDisplays.toNat ≤ VMWGFX_MAX_DISPLAYS := by
  unfold Regs.numSaved
  split
  case isTrue h =>
    rw [h]
    decide
  case isFalse => exact Iff.rfl

/-- The save without the displays. -/
def saveMode (dev : Device) (saved : Saved) (regs : Regs) : Saved :=
  { saved with
    vgaWidth := regs.width
    vgaHeight := regs.height
    vgaBpp := regs.bitsPerPixel
    vgaPitchlock :=
      if dev.pitchlock then regs.pitchlock
      else if dev.fifoPitchlock then regs.fifoPitchlock else saved.vgaPitchlock }

theorem vmwKmsSaveVga_eq (dev : Device) (saved : Saved) (regs : Regs) :
    vmwKmsSaveVga dev saved regs =
      if dev.topology then
        saveDisplays regs.numSaved.toNat 0
          { saveMode dev saved regs with numDisplays := regs.numSaved } regs
      else some (saveMode dev saved regs, regs) := by
  unfold vmwKmsSaveVga saveMode
  cases dev.pitchlock <;> cases dev.fifoPitchlock <;> rfl

/-- A save that fits. -/
theorem save_spec (saved : Saved)
    (h : dev.topology = true → regs.numGuestDisplays.toNat ≤ VMWGFX_MAX_DISPLAYS) :
    ∃ saved' id, vmwKmsSaveVga dev saved regs = some (saved', { regs with displayId := id }) ∧
      Kept dev regs saved' := by
  rw [vmwKmsSaveVga_eq]
  cases htopology : dev.topology with
  | false =>
    refine ⟨saveMode dev saved regs, regs.displayId, rfl, rfl, rfl, rfl, fun hp => if_pos hp,
      ?_, ?_, ?_⟩
    · intro hp hf
      simp [saveMode, hp, hf]
    · intro ht
      exact absurd ht (Bool.eq_false_iff.mp htopology)
    · intro ht
      exact absurd ht (Bool.eq_false_iff.mp htopology)
  | true =>
    have hle : 0 + regs.numSaved.toNat ≤ VMWGFX_MAX_DISPLAYS := by
      rw [Nat.zero_add]
      exact numSaved_le_iff.mpr (h htopology)
    obtain ⟨v, id, hsave, hv⟩ := saveDisplays_spec regs.numSaved.toNat 0
      { saveMode dev saved regs with numDisplays := regs.numSaved } regs hle
    refine ⟨_, id, hsave, rfl, rfl, rfl, fun hp => if_pos hp, ?_, fun _ => rfl, fun _ j hj => ?_⟩
    · intro hp hf
      simp [saveMode, hp, hf]
    · refine (hv j).trans ?_
      rw [if_pos ⟨Nat.zero_le j, by omega⟩]
      rfl

/-- A save that does not fit writes past the array. -/
theorem save_eq_none (ht : dev.topology = true)
    (h : ¬regs.numGuestDisplays.toNat ≤ VMWGFX_MAX_DISPLAYS) : vmwKmsSaveVga dev saved regs = none := by
  have hlt : VMWGFX_MAX_DISPLAYS < 0 + regs.numSaved.toNat := by
    rw [Nat.zero_add]
    exact not_le.mp (mt numSaved_le_iff.mp h)
  rw [vmwKmsSaveVga_eq, if_pos ht]
  exact saveDisplays_eq_none _ 0 _ regs (Nat.zero_le _) hlt

/-- The restore without the displays. -/
def restoreMode (dev : Device) (saved : Saved) : Writes :=
  [(Reg.width, saved.vgaWidth), (.height, saved.vgaHeight), (.bitsPerPixel, saved.vgaBpp)] ++
    if dev.pitchlock then [(Reg.pitchlock, saved.vgaPitchlock)]
    else if dev.fifoPitchlock then [(Reg.fifoPitchlock, saved.vgaPitchlock)]
    else []

/-- Then the displays, where there are any to be restored. -/
theorem restore_writes (h : Kept dev regs saved)
    (hle : dev.topology = true → regs.numGuestDisplays.toNat ≤ VMWGFX_MAX_DISPLAYS) :
    ∃ ws, vmwKmsRestoreVga dev saved = some (restoreMode dev saved ++ ws) ∧
      (∀ w ∈ ws, isDisplay w.1 = true) ∧
      ∀ regs' : Regs, dev.topology = true → ∀ i < regs.numSaved.toNat,
        (regs'.writes ws).displays i.toUInt32 = regs.topology i := by
  unfold vmwKmsRestoreVga
  cases htopology : dev.topology with
  | false =>
    refine ⟨[], (congrArg some (List.append_nil _)).symm, fun w hw => absurd hw List.not_mem_nil, ?_⟩
    intro _ ht
    exact absurd ht Bool.false_ne_true
  | true =>
    have hnum : saved.numDisplays = regs.numSaved := h.numDisplays htopology
    have hfits : 0 + saved.numDisplays.toNat ≤ VMWGFX_MAX_DISPLAYS := by
      rw [hnum, Nat.zero_add]
      exact numSaved_le_iff.mpr (hle htopology)
    obtain ⟨ws, hloop, hdisplay, hws⟩ := restoreDisplays_spec saved.numDisplays.toNat 0 saved hfits
    refine ⟨ws, ?_, hdisplay, fun regs' _ i hi => ?_⟩
    · rw [hloop]
      rfl
    · have hlt : i < 0 + saved.numDisplays.toNat := by
        rw [hnum, Nat.zero_add]
        exact hi
      rw [hws regs' i _ (h.displays htopology i hi), if_pos ⟨Nat.zero_le i, hlt⟩]

/-- The mode is restored, with the pitchlock that the driver uses. -/
theorem restoreMode_spec (h : Kept dev regs saved) (regs' : Regs)
    (hidle : ∀ r, Idle dev r → regs'.get r = regs.get r) :
    let t := regs'.writes (restoreMode dev saved)
    t.width = regs.width ∧ t.height = regs.height ∧ t.bitsPerPixel = regs.bitsPerPixel ∧
      t.pitchlock = regs.pitchlock ∧ t.fifoPitchlock = regs.fifoPitchlock ∧
      t.numGuestDisplays = regs'.numGuestDisplays := by
  intro t
  have hlock (hp : dev.pitchlock = false) : regs'.pitchlock = regs.pitchlock :=
    Option.some.inj (hidle .pitchlock (.inl ⟨rfl, hp⟩))
  have hfifo (hf : dev.pitchlock = true ∨ dev.fifoPitchlock = false) :
      regs'.fifoPitchlock = regs.fifoPitchlock :=
    Option.some.inj (hidle .fifoPitchlock (.inr ⟨rfl, hf⟩))
  have ht : t = regs'.writes (restoreMode dev saved) := rfl
  unfold restoreMode at ht
  cases hp : dev.pitchlock with
  | true =>
    rw [if_pos hp] at ht
    rw [ht]
    exact ⟨h.width, h.height, h.bpp, h.pitchlock hp, hfifo (.inl hp), rfl⟩
  | false =>
    rw [if_neg (Bool.eq_false_iff.mp hp)] at ht
    cases hf : dev.fifoPitchlock with
    | true =>
      rw [if_pos hf] at ht
      rw [ht]
      exact ⟨h.width, h.height, h.bpp, hlock hp, h.fifoPitchlock hp hf, rfl⟩
    | false =>
      rw [if_neg (Bool.eq_false_iff.mp hf)] at ht
      rw [ht]
      exact ⟨h.width, h.height, h.bpp, hlock hp, hfifo (.inr hf), rfl⟩

/-- The restore of what is kept; the number of guest displays is left as it is. -/
theorem restore_spec (h : Kept dev regs saved)
    (hle : dev.topology = true → regs.numGuestDisplays.toNat ≤ VMWGFX_MAX_DISPLAYS) :
    ∃ ws, vmwKmsRestoreVga dev saved = some ws ∧
      ∀ regs' : Regs, (∀ r, Idle dev r → regs'.get r = regs.get r) →
        (Restored dev regs (regs'.writes ws) ↔ regs'.numGuestDisplays = regs.numGuestDisplays) := by
  obtain ⟨ws, hws, hdisplay, hdisplays⟩ := restore_writes h hle
  refine ⟨_, hws, fun regs' hidle => ?_⟩
  obtain ⟨hwidth, hheight, hbpp, hlock, hfifo, hnum⟩ := restoreMode_spec h regs' hidle
  rw [writes_append]
  have hkeeps (r : Reg) (hr : isDisplay r = false) := get_writes_of_isDisplay
    (regs'.writes (restoreMode dev saved)) hdisplay hr
  constructor
  · intro hrestored
    have heq := Option.some.inj (hkeeps .numGuestDisplays rfl)
    exact hnum.symm.trans (heq.symm.trans hrestored.numGuestDisplays)
  · intro hsame
    constructor
    case width => exact (Option.some.inj (hkeeps .width rfl)).trans hwidth
    case height => exact (Option.some.inj (hkeeps .height rfl)).trans hheight
    case bitsPerPixel => exact (Option.some.inj (hkeeps .bitsPerPixel rfl)).trans hbpp
    case pitchlock => exact (Option.some.inj (hkeeps .pitchlock rfl)).trans hlock
    case fifoPitchlock => exact (Option.some.inj (hkeeps .fifoPitchlock rfl)).trans hfifo
    case numGuestDisplays =>
      exact (Option.some.inj (hkeeps .numGuestDisplays rfl)).trans (hnum.trans hsame)
    case displays => exact hdisplays _

/-- The session is a round trip where the displays fit and the number of guest displays is what it
was. -/
theorem vga_round_trip_iff (dev : Device) (saved : Saved) (regs : Regs) (ops : List Op)
    (hops : ∀ op ∈ ops, (op.writes dev).isSome = true) :
    (∃ regs', session dev saved ops regs = some regs' ∧ Restored dev regs regs') ↔
      numberAfter dev ops regs.numGuestDisplays = regs.numGuestDisplays ∧
        (dev.topology = true → regs.numGuestDisplays.toNat ≤ VMWGFX_MAX_DISPLAYS) := by
  by_cases hle : dev.topology = true → regs.numGuestDisplays.toNat ≤ VMWGFX_MAX_DISPLAYS
  case pos =>
    obtain ⟨saved', id, hsave, hkept⟩ := save_spec saved hle
    obtain ⟨ws, hrestore, hiff⟩ := restore_spec hkept hle
    obtain ⟨regs', hrun, hidle, hnum⟩ := modeSet_spec hops { regs with displayId := id }
    have hsession : session dev saved ops regs = some (regs'.writes ws) := by
      unfold session
      rw [hsave]
      change (modeSet dev ops { regs with displayId := id }).bind _ = _
      rw [hrun]
      change (vmwKmsRestoreVga dev saved').map _ = _
      rw [hrestore]
      rfl
    have hidle' (r : Reg) (hr : Idle dev r) : regs'.get r = regs.get r := by
      refine (hidle r hr).trans ?_
      rcases hr with ⟨rfl, -⟩ | ⟨rfl, -⟩ <;> rfl
    rw [hsession]
    constructor
    · rintro ⟨r, hr, hrestored⟩
      obtain rfl := Option.some.inj hr
      exact ⟨hnum.symm.trans ((hiff regs' hidle').mp hrestored), hle⟩
    · rintro ⟨hnumber, -⟩
      exact ⟨_, rfl, (hiff regs' hidle').mpr (hnum.trans hnumber)⟩
  case neg =>
    obtain ⟨ht, hlt⟩ := Classical.not_imp.mp hle
    have hsession : session dev saved ops regs = none := by
      unfold session
      rw [save_eq_none ht hlt]
      rfl
    rw [hsession]
    constructor
    · rintro ⟨_, hr, -⟩
      cases hr
    · exact fun h => absurd h.2 hle

/-- A device with all of it, and `num` guest displays. -/
def reporting (num : UInt32) : Regs where
  width := 640
  height := 480
  bitsPerPixel := 32
  pitchlock := 0
  fifoPitchlock := 0
  numGuestDisplays := num
  displayId := SVGA_ID_INVALID
  displays := fun _ => ⟨0, 0, 0, 0, 0⟩

def unsaved : Saved := ⟨0, 0, 0, 0, 0, Vector.replicate VMWGFX_MAX_DISPLAYS ⟨0, 0, 0, 0, 0⟩⟩

def allCapabilities : Device := ⟨true, true, true⟩

/-- The framebuffer device takes a mode. -/
def fbMode : Op := .setPar ⟨24, none⟩ ⟨800, 600, 0, 0, 3200, 32, 24⟩

theorem fbMode_ends : ∀ op ∈ [fbMode], (op.writes allCapabilities).isSome = true := by
  intro op hop
  obtain rfl := List.mem_singleton.mp hop
  rfl

/-- A single display, not initialized: the framebuffer device leaves its number. -/
theorem vga_round_trip_one :
    ∃ regs', session allCapabilities unsaved [fbMode] (reporting 1) = some regs' ∧
      Restored allCapabilities (reporting 1) regs' :=
  (vga_round_trip_iff allCapabilities unsaved (reporting 1) [fbMode] fbMode_ends).mpr
    ⟨by decide, fun _ => by decide⟩

/-- Of two displays one is left; of seventeen the last is saved past the array. -/
theorem vga_round_trip_two :
    ¬(∃ regs', session allCapabilities unsaved [fbMode] (reporting 2) = some regs' ∧
        Restored allCapabilities (reporting 2) regs') ∧
      vmwKmsSaveVga allCapabilities unsaved (reporting 17) = none := by
  have hnum : (session allCapabilities unsaved [fbMode] (reporting 2)).map Regs.numGuestDisplays =
      some 1 := by
    rfl
  refine ⟨?_, save_eq_none rfl (by decide)⟩
  rintro ⟨regs', hsession, hrestored⟩
  rw [hsession] at hnum
  have hone : regs'.numGuestDisplays = 1 := Option.some.inj hnum
  have htwo : regs'.numGuestDisplays = 2 := hrestored.numGuestDisplays
  exact absurd (hone.symm.trans htwo) (by decide)

end Session

end Vmwgfx.Kms.Ldu.Vga
