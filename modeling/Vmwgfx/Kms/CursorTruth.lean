import Vmwgfx.Kms.Cursor
import Vmwgfx.Lib.Count
import Vmwgfx.Lib.Machine

/-! An age that is current says that the image has been sent, as long as whatever is to be sent is. -/

namespace Vmwgfx.Kms.Cursor

open Lib

variable {α : Type} {s s' : State α} {u v : UnitId} {srf : SurfId} {b : BufId} {log : List CursorEvent}

section Behind

/-- The changes of the image since it was last sent for the unit. -/
def behind (u : UnitId) (srf : SurfId) : List CursorEvent → Option Nat
  | [] => none
  | .sent u' obj :: log => if u' = u ∧ obj = .surface srf then some 0 else behind u srf log
  | .snooped srf' :: log => if srf' = srf then (behind u srf log).map (· + 1) else behind u srf log

theorem sentSince_iff (u : UnitId) (srf : SurfId) (log : List CursorEvent) :
    SentSince u srf log ↔ behind u srf log = some 0 := by
  induction log with
  | nil => exact ⟨False.elim, fun hc => (by cases hc)⟩
  | cons event log ih =>
    cases event with
    | sent u' obj =>
      unfold SentSince behind
      split
      · rename_i hsent
        exact ⟨fun _ => rfl, fun _ => .inl hsent⟩
      · rename_i hother
        rw [← ih]
        exact ⟨fun hc => hc.resolve_left hother, .inr⟩
    | snooped srf' =>
      unfold SentSince behind
      split
      · rename_i hsame
        refine ⟨fun hc => absurd hsame hc.1, fun hc => ?_⟩
        obtain ⟨n, _, hn⟩ := Option.map_eq_some_iff.mp hc
        exact absurd hn (Nat.succ_ne_zero n)
      · rename_i hother
        rw [← ih]
        exact ⟨And.right, fun hc => ⟨hother, hc⟩⟩

theorem behind_sent_self (u : UnitId) (srf : SurfId) (log : List CursorEvent) :
    behind u srf (.sent u (.surface srf) :: log) = some 0 := if_pos ⟨rfl, rfl⟩

theorem behind_sent_ne (h : v ≠ u) (obj : CursorObj) (srf : SurfId) (log : List CursorEvent) :
    behind u srf (.sent v obj :: log) = behind u srf log := if_neg fun hc => h hc.1

end Behind

/-- A unit, the age of its cursor surface and what was sent of it. -/
structure UnitInv (s : State α) (u : UnitId) : Prop where
  one : (s.unit u).cursorSurface = none ∨ (s.unit u).cursorDmabuf = none
  image : ∀ srf, (s.unit u).cursorSurface = some srf → (s.snooper srf).image.isSome
  room : s.since u < 2 ^ 32
  age : ∀ srf, (s.unit u).cursorSurface = some srf →
    (s.snooper srf).age = (s.unit u).cursorAge + UInt64.ofNat (s.since u) ∧ behind u srf s.log = some (s.since u)

structure Inv (s : State α) : Prop where
  nodup : s.units.Nodup
  units : ∀ u ∈ s.units, UnitInv s u
  surfRefs : ∀ srf, s.surfRef srf = s.surfHandle srf + s.units.countP fun u => (s.unit u).cursorSurface = some srf
  bufRefs : ∀ b, s.bufRef b = s.bufHandle b + s.units.countP fun u => (s.unit u).cursorDmabuf = some b

/-- Fewer than 2^32 snoops do not bring an age back. -/
theorem age_eq_iff {a : UInt64} {n : Nat} (hn : n < 2 ^ 32) : a = a + UInt64.ofNat n ↔ n = 0 := by
  constructor
  · intro h
    have hnat := congrArg UInt64.toNat h
    rw [UInt64.toNat_add, UInt64.toNat_ofNat'] at hnat
    have ha := a.toNat_lt
    omega
  · rintro rfl
    simp

theorem UnitInv.current_iff (h : UnitInv s u) (hsurf : (s.unit u).cursorSurface = some srf) :
    (s.unit u).cursorAge = (s.snooper srf).age ↔ SentSince u srf s.log := by
  obtain ⟨hage, hbehind⟩ := h.age srf hsurf
  rw [hage, age_eq_iff h.room, sentSince_iff, hbehind, Option.some_inj]

theorem Inv.truthful (h : Inv s) : Truthful s where
  one u hu := (h.units u hu).one
  surfRefs := h.surfRefs
  bufRefs := h.bufRefs
  sent u hu _ hsurf hage := ((h.units u hu).current_iff hsurf).mp hage

section Frame

/-- The cursor of one unit changes, to at most one object; images and ages stay. -/
structure CursorIs (s s' : State α) (u : UnitId) (surf : Option SurfId) (dma : Option BufId) : Prop where
  units : s'.units = s.units
  other : ∀ v, v ≠ u → s'.unit v = s.unit v ∧ s'.since v = s.since v ∧ ∀ srf, behind v srf s'.log = behind v srf s.log
  surface : (s'.unit u).cursorSurface = surf
  dmabuf : (s'.unit u).cursorDmabuf = dma
  snooper : ∀ srf, (s'.snooper srf).age = (s.snooper srf).age ∧ (s'.snooper srf).image = (s.snooper srf).image
  surfRef : ∀ srf, s'.surfRef srf + named (s.unit u).cursorSurface srf = s.surfRef srf + named surf srf
  bufRef : ∀ b, s'.bufRef b + named (s.unit u).cursorDmabuf b = s.bufRef b + named dma b
  surfHandle : s'.surfHandle = s.surfHandle
  bufHandle : s'.bufHandle = s.bufHandle

theorem UnitInv.congr (h : UnitInv s v) (hunit : s'.unit v = s.unit v) (hsince : s'.since v = s.since v)
    (hbehind : ∀ srf, behind v srf s'.log = behind v srf s.log)
    (hsnooper : ∀ srf, (s'.snooper srf).age = (s.snooper srf).age ∧ (s'.snooper srf).image = (s.snooper srf).image) :
    UnitInv s' v := by
  obtain ⟨hone, himage, hroom, hage⟩ := h
  refine ⟨?_, fun srf hsurf => ?_, ?_, fun srf hsurf => ?_⟩
  · rwa [hunit]
  · rw [(hsnooper srf).2]
    exact himage srf (hunit ▸ hsurf)
  · rwa [hsince]
  · rw [(hsnooper srf).1, hunit, hsince, hbehind]
    exact hage srf (hunit ▸ hsurf)

/-- Only the unit whose cursor changes has to be looked at. -/
theorem Inv.cursorIs (surf : Option SurfId) (dma : Option BufId) (h : Inv s) (hu : u ∈ s.units)
    (hc : CursorIs s s' u surf dma) (hunit : UnitInv s' u) : Inv s' := by
  refine ⟨hc.units ▸ h.nodup, fun v hv => ?_, fun srf => ?_, fun b => ?_⟩
  · rw [hc.units] at hv
    by_cases heq : v = u
    · exact heq ▸ hunit
    · obtain ⟨hsame, hsince, hbehind⟩ := hc.other v heq
      exact (h.units v hv).congr hsame hsince hbehind hc.snooper
  · have hcount := countP_named h.nodup hu (f := fun v => (s'.unit v).cursorSurface)
      (g := fun v => (s.unit v).cursorSurface) (fun v hv => by rw [(hc.other v hv).1]) srf
    have href := hc.surfRef srf
    have hold := h.surfRefs srf
    rw [hc.surfHandle, hc.units]
    rw [hc.surface] at hcount
    omega
  · have hcount := countP_named h.nodup hu (f := fun v => (s'.unit v).cursorDmabuf)
      (g := fun v => (s.unit v).cursorDmabuf) (fun v hv => by rw [(hc.other v hv).1]) b
    have href := hc.bufRef b
    have hold := h.bufRefs b
    rw [hc.bufHandle, hc.units]
    rw [hc.dmabuf] at hcount
    omega

/-- A unit points to what has a reference. -/
theorem Inv.named_le (h : Inv s) (hu : u ∈ s.units) :
    (∀ srf, named (s.unit u).cursorSurface srf ≤ s.surfRef srf) ∧
      ∀ b, named (s.unit u).cursorDmabuf b ≤ s.bufRef b := by
  refine ⟨fun srf => ?_, fun b => ?_⟩
  · rw [h.surfRefs srf]
    unfold named
    split
    · rename_i hsurf
      exact Nat.le_add_left_of_le (List.countP_pos_iff.mpr ⟨u, hu, decide_eq_true hsurf⟩)
    · exact Nat.zero_le _
  · rw [h.bufRefs b]
    unfold named
    split
    · rename_i hdma
      exact Nat.le_add_left_of_le (List.countP_pos_iff.mpr ⟨u, hu, decide_eq_true hdma⟩)
    · exact Nat.zero_le _

end Frame

section Takedown

theorem modify_unit (s : State α) (u : UnitId) (f : DisplayUnit → DisplayUnit) :
    (s.modify u f).unit u = f (s.unit u) := Function.update_self ..

theorem modify_other (s : State α) (h : v ≠ u) (f : DisplayUnit → DisplayUnit) : (s.modify u f).unit v = s.unit v :=
  Function.update_of_ne h ..

theorem put_named {ref : Nat → Nat} {o : Option Nat} (hle : ∀ m, named o m ≤ ref m) {n : Nat} (ho : o = some n) (m : Nat) :
    Function.update ref n (ref n - 1) m + named o m = ref m := by
  have hm := hle m
  rw [ho] at hm ⊢
  by_cases heq : m = n
  · subst heq
    rw [named_self] at hm ⊢
    rw [Function.update_self]
    omega
  · rw [Function.update_of_ne heq, named_ne (Ne.symm heq)]
    rfl

theorem get_named {ref : Nat → Nat} (n m : Nat) : Function.update ref n (ref n + 1) m = ref m + named (some n) m := by
  by_cases heq : m = n
  · subst heq
    rw [named_self, Function.update_self]
  · rw [Function.update_of_ne heq, named_ne (Ne.symm heq)]
    rfl

/-- What stays when a cursor is taken down, but for its references. -/
structure Quiet (s s' : State α) (u : UnitId) : Prop where
  units : s'.units = s.units
  other : ∀ v, v ≠ u → s'.unit v = s.unit v
  position : (s'.unit u).cursorX = (s.unit u).cursorX ∧ (s'.unit u).cursorY = (s.unit u).cursorY
  snooper : ∀ srf, (s'.snooper srf).age = (s.snooper srf).age ∧ (s'.snooper srf).image = (s.snooper srf).image
  buf : s'.buf = s.buf ∧ s'.data = s.data
  handles : s'.surfHandle = s.surfHandle ∧ s'.bufHandle = s.bufHandle
  device : s'.device = s.device
  since : s'.since = s.since
  log : s'.log = s.log

theorem dropSurface_spec (s : State α) (u : UnitId) (hle : ∀ srf, named (s.unit u).cursorSurface srf ≤ s.surfRef srf) :
    Quiet s (dropSurface s u) u ∧ ((dropSurface s u).unit u).cursorSurface = none ∧
      ((dropSurface s u).unit u).cursorDmabuf = (s.unit u).cursorDmabuf ∧ (dropSurface s u).bufRef = s.bufRef ∧
      ∀ srf, (dropSurface s u).surfRef srf + named (s.unit u).cursorSurface srf = s.surfRef srf := by
  unfold dropSurface
  split
  · rename_i hnone
    refine ⟨⟨rfl, fun _ _ => rfl, ⟨rfl, rfl⟩, fun _ => ⟨rfl, rfl⟩, ⟨rfl, rfl⟩, ⟨rfl, rfl⟩, rfl, rfl, rfl⟩, hnone, rfl, rfl,
      fun srf => ?_⟩
    rw [hnone, named_none]
    rfl
  · rename_i srf hsurf
    refine ⟨⟨rfl, fun v hv => modify_other _ hv _, ?_, fun srf' => ?_, ⟨rfl, rfl⟩, ⟨rfl, rfl⟩, rfl, rfl, rfl⟩, ?_, ?_, rfl,
      fun srf' => put_named hle hsurf srf'⟩
    · rw [modify_unit]
      exact ⟨rfl, rfl⟩
    · change (Function.update s.snooper srf _ srf').age = _ ∧ (Function.update s.snooper srf _ srf').image = _
      by_cases heq : srf' = srf
      · subst heq
        rw [Function.update_self]
        exact ⟨rfl, rfl⟩
      · rw [Function.update_of_ne heq]
        exact ⟨rfl, rfl⟩
    · rw [modify_unit]
    · rw [modify_unit]
      rfl

theorem dropDmabuf_spec (s : State α) (u : UnitId) (hle : ∀ b, named (s.unit u).cursorDmabuf b ≤ s.bufRef b) :
    Quiet s (dropDmabuf s u) u ∧ ((dropDmabuf s u).unit u).cursorDmabuf = none ∧
      ((dropDmabuf s u).unit u).cursorSurface = (s.unit u).cursorSurface ∧ (dropDmabuf s u).surfRef = s.surfRef ∧
      ∀ b, (dropDmabuf s u).bufRef b + named (s.unit u).cursorDmabuf b = s.bufRef b := by
  unfold dropDmabuf
  split
  · rename_i hnone
    refine ⟨⟨rfl, fun _ _ => rfl, ⟨rfl, rfl⟩, fun _ => ⟨rfl, rfl⟩, ⟨rfl, rfl⟩, ⟨rfl, rfl⟩, rfl, rfl, rfl⟩, hnone, rfl, rfl,
      fun b => ?_⟩
    rw [hnone, named_none]
    rfl
  · rename_i b hdma
    refine ⟨⟨rfl, fun v hv => modify_other _ hv _, ?_, fun _ => ⟨rfl, rfl⟩, ⟨rfl, rfl⟩, ⟨rfl, rfl⟩, rfl, rfl, rfl⟩, ?_, ?_,
      rfl, fun b' => put_named hle hdma b'⟩
    · rw [modify_unit]
      exact ⟨rfl, rfl⟩
    · rw [modify_unit]
    · rw [modify_unit]
      rfl

theorem Quiet.trans {s'' : State α} (h : Quiet s s' u) (h' : Quiet s' s'' u) : Quiet s s'' u :=
  ⟨h'.units.trans h.units, fun v hv => (h'.other v hv).trans (h.other v hv),
    ⟨h'.position.1.trans h.position.1, h'.position.2.trans h.position.2⟩,
    fun srf => ⟨(h'.snooper srf).1.trans (h.snooper srf).1, (h'.snooper srf).2.trans (h.snooper srf).2⟩,
    ⟨h'.buf.1.trans h.buf.1, h'.buf.2.trans h.buf.2⟩,
    ⟨h'.handles.1.trans h.handles.1, h'.handles.2.trans h.handles.2⟩, h'.device.trans h.device,
    h'.since.trans h.since, h'.log.trans h.log⟩

/-- The unit has no cursor, and its references are gone. -/
structure Down (s s' : State α) (u : UnitId) : Prop where
  quiet : Quiet s s' u
  surface : (s'.unit u).cursorSurface = none
  dmabuf : (s'.unit u).cursorDmabuf = none
  surfRef : ∀ srf, s'.surfRef srf + named (s.unit u).cursorSurface srf = s.surfRef srf
  bufRef : ∀ b, s'.bufRef b + named (s.unit u).cursorDmabuf b = s.bufRef b

theorem takedown_spec (s : State α) (u : UnitId) (hle : ∀ srf, named (s.unit u).cursorSurface srf ≤ s.surfRef srf)
    (hle' : ∀ b, named (s.unit u).cursorDmabuf b ≤ s.bufRef b) : Down s (takedown s u) u := by
  obtain ⟨hquiet, hsurf, hdma, hbuf, hrefs⟩ := dropSurface_spec s u hle
  have hle₁ : ∀ b, named ((dropSurface s u).unit u).cursorDmabuf b ≤ (dropSurface s u).bufRef b := by
    rw [hdma, hbuf]
    exact hle'
  obtain ⟨hquiet', hdma', hsurf', hsurfs, hrefs'⟩ := dropDmabuf_spec (dropSurface s u) u hle₁
  rw [hdma, hbuf] at hrefs'
  refine ⟨hquiet.trans hquiet', hsurf'.trans hsurf, hdma', fun srf => ?_, hrefs'⟩
  change (dropDmabuf (dropSurface s u) u).surfRef srf + _ = _
  rw [hsurfs]
  exact hrefs srf

end Takedown

section Setup

/-- The object gets to the device. -/
def Shown (s : State α) (o : SendOutcome) : CursorObj → Prop
  | .surface _ => o.room = true
  | .dmabuf b => o.reserve = 0 ∧ ttmBoKmap (s.buf b) 0 CURSOR_PAGES o.kmap = 0 ∧ o.room = true

/-- A unit without a cursor gets one. -/
structure SetUp (s s' : State α) (u : UnitId) (obj : CursorObj) (ok : Prop) : Prop where
  units : s'.units = s.units
  other : ∀ v, v ≠ u → s'.unit v = s.unit v ∧ s'.since v = s.since v
  surface : (s'.unit u).cursorSurface = match obj with | .surface srf => some srf | .dmabuf _ => (s.unit u).cursorSurface
  dmabuf : (s'.unit u).cursorDmabuf = match obj with | .surface _ => (s.unit u).cursorDmabuf | .dmabuf b => some b
  age : ∀ srf, obj = .surface srf → (s'.unit u).cursorAge = (s.snooper srf).age ∧ s'.since u = 0
  since : s'.since u ≤ s.since u
  snooper : ∀ srf, (s'.snooper srf).age = (s.snooper srf).age ∧ (s'.snooper srf).image = (s.snooper srf).image
  refs : s'.surfRef = s.surfRef ∧ s'.bufRef = s.bufRef
  handles : s'.surfHandle = s.surfHandle ∧ s'.bufHandle = s.bufHandle
  sent : ok → s'.log = .sent u obj :: s.log ∧ s'.device.image = s.image obj
  unsent : ¬ ok → s'.log = s.log

theorem vmwCursorUpdateImage_spec (s : State α) (u : UnitId) (obj : CursorObj) {image : Option α} (himage : image.isSome)
    (room : Bool) :
    (room = true ∧ (vmwCursorUpdateImage s u obj image room).2 =
        { s with device := { s.device with image, hotspotX := (s.unit u).hotspotX, hotspotY := (s.unit u).hotspotY }
                 log := .sent u obj :: s.log }) ∨
      room ≠ true ∧ (vmwCursorUpdateImage s u obj image room).2 = s := by
  unfold vmwCursorUpdateImage
  rw [if_neg (fun hc => by rw [Option.isNone_iff_eq_none] at hc; rw [hc] at himage; cases himage)]
  by_cases hroom : room = true
  · rw [if_neg (not_not.mpr hroom)]
    exact .inl ⟨hroom, rfl⟩
  · rw [if_pos hroom]
    exact .inr ⟨hroom, rfl⟩

theorem setupSurface_spec (s : State α) (u : UnitId) (himage : (s.snooper srf).image.isSome) (o : SendOutcome) :
    SetUp s (showCursor (setupCursor s u o (.surface srf)) u) u (.surface srf) (o.room = true) := by
  obtain ⟨s₁, hs₁⟩ : ∃ s₁ : State α, s₁ = ((s.modify u fun du => { du with cursorSurface := some srf }).modifySnooper srf
      fun snooper => { snooper with crtc := some u }).recordAge u srf := ⟨_, rfl⟩
  have hsnooper : ∀ srf', (s₁.snooper srf').age = (s.snooper srf').age ∧
      (s₁.snooper srf').image = (s.snooper srf').image := by
    intro srf'
    rw [hs₁]
    change (Function.update s.snooper srf _ srf').age = _ ∧ (Function.update s.snooper srf _ srf').image = _
    by_cases heq : srf' = srf
    · subst heq
      rw [Function.update_self]
      exact ⟨rfl, rfl⟩
    · rw [Function.update_of_ne heq]
      exact ⟨rfl, rfl⟩
  have hself : s₁.unit u = { s.unit u with cursorSurface := some srf, cursorAge := (s.snooper srf).age } := by
    rw [hs₁]
    simp only [State.recordAge, State.modify, State.modifySnooper, Function.update_self]
  have hsurf : (s₁.unit u).cursorSurface = some srf := by rw [hself]
  have hdma : (s₁.unit u).cursorDmabuf = (s.unit u).cursorDmabuf := by rw [hself]
  have hage : (s₁.unit u).cursorAge = (s.snooper srf).age := by rw [hself]
  have hsince : s₁.since = Function.update s.since u 0 := by rw [hs₁]; rfl
  have hrest : s₁.units = s.units ∧ s₁.surfRef = s.surfRef ∧ s₁.bufRef = s.bufRef ∧ s₁.surfHandle = s.surfHandle ∧
      s₁.bufHandle = s.bufHandle ∧ s₁.log = s.log := by
    rw [hs₁]
    exact ⟨rfl, rfl, rfl, rfl, rfl, rfl⟩
  obtain ⟨hunits, hsurfRef, hbufRef, hsurfHandle, hbufHandle, hlog⟩ := hrest
  have hset : setupCursor s u o (.surface srf) =
      (vmwCursorUpdateImage s₁ u (.surface srf) (s₁.snooper srf).image o.room).2 := by rw [hs₁]; rfl
  have himage₁ : (s₁.snooper srf).image.isSome := by rw [(hsnooper srf).2]; exact himage
  have hother : ∀ v, v ≠ u → s₁.unit v = s.unit v ∧ s₁.since v = s.since v := fun v hv =>
    ⟨by rw [hs₁]; simp only [State.recordAge, State.modify, State.modifySnooper, Function.update_of_ne hv],
      by rw [hsince, Function.update_of_ne hv]⟩
  have hzero : s₁.since u = 0 := by rw [hsince, Function.update_self]
  rw [hset]
  rcases vmwCursorUpdateImage_spec s₁ u (.surface srf) himage₁ o.room with ⟨hroom, hsent⟩ | ⟨hroom, hsent⟩
  · rw [hsent]
    refine ⟨hunits, hother, hsurf, hdma, fun srf' heq => ⟨?_, hzero⟩, ?_, hsnooper, ⟨hsurfRef, hbufRef⟩, ⟨hsurfHandle, hbufHandle⟩, fun _ => ⟨?_, ?_⟩,
      fun hc => absurd hroom hc⟩
    · cases heq
      exact hage
    · change s₁.since u ≤ _
      rw [hzero]
      exact Nat.zero_le _
    · change _ :: s₁.log = _
      rw [hlog]
    · exact (hsnooper srf).2
  · rw [hsent]
    refine ⟨hunits, hother, hsurf, hdma, fun srf' heq => ⟨?_, hzero⟩, ?_, hsnooper, ⟨hsurfRef, hbufRef⟩, ⟨hsurfHandle, hbufHandle⟩,
      fun hc => absurd hc hroom, fun _ => hlog⟩
    · cases heq
      exact hage
    · change s₁.since u ≤ _
      rw [hzero]
      exact Nat.zero_le _

theorem setupDmabuf_spec (s : State α) (u : UnitId) (b : BufId) (o : SendOutcome) :
    SetUp s (showCursor (setupCursor s u o (.dmabuf b)) u) u (.dmabuf b) (Shown s o (.dmabuf b)) := by
  obtain ⟨s₁, hs₁⟩ : ∃ s₁ : State α, s₁ = s.modify u fun du => { du with cursorDmabuf := some b } := ⟨_, rfl⟩
  have hset : setupCursor s u o (.dmabuf b) = (vmwCursorUpdateDmabuf s₁ u b o).2 := by rw [hs₁]; rfl
  have hsurf : (s₁.unit u).cursorSurface = (s.unit u).cursorSurface := by rw [hs₁, modify_unit]
  have hdma : (s₁.unit u).cursorDmabuf = some b := by rw [hs₁, modify_unit]
  have hother : ∀ v, v ≠ u → s₁.unit v = s.unit v ∧ s₁.since v = s.since v := fun v hv => by
    rw [hs₁]
    exact ⟨modify_other s hv _, rfl⟩
  have hrest : s₁.units = s.units ∧ s₁.surfRef = s.surfRef ∧ s₁.bufRef = s.bufRef ∧ s₁.surfHandle = s.surfHandle ∧
      s₁.bufHandle = s.bufHandle ∧ s₁.log = s.log ∧ s₁.since = s.since ∧ s₁.snooper = s.snooper ∧ s₁.buf = s.buf ∧
      s₁.data = s.data := by
    rw [hs₁]
    exact ⟨rfl, rfl, rfl, rfl, rfl, rfl, rfl, rfl, rfl, rfl⟩
  obtain ⟨hunits, hsurfRef, hbufRef, hsurfHandle, hbufHandle, hlog, hsince, hsnooper, hbuf, hdata⟩ := hrest
  have hsame : ∀ srf, (s₁.snooper srf).age = (s.snooper srf).age ∧ (s₁.snooper srf).image = (s.snooper srf).image :=
    fun srf => by
      rw [hsnooper]
      exact ⟨rfl, rfl⟩
  have hle : s₁.since u ≤ s.since u := by rw [hsince]
  rw [hset]
  by_cases hok : Shown s o (.dmabuf b)
  · obtain ⟨hreserve, hkmap, hroom⟩ := hok
    have hsent : (vmwCursorUpdateDmabuf s₁ u b o).2 =
        (vmwCursorUpdateImage s₁ u (.dmabuf b) (some (s₁.data b)) o.room).2 := by
      unfold vmwCursorUpdateDmabuf
      dsimp only
      rw [if_neg (not_not.mpr hreserve), hbuf, if_neg (not_not.mpr hkmap)]
    rw [hsent]
    rcases vmwCursorUpdateImage_spec s₁ u (.dmabuf b) (show (some (s₁.data b)).isSome from rfl) o.room with ⟨_, hsent⟩ | ⟨hno, _⟩
    swap
    · exact absurd hroom hno
    rw [hsent]
    refine ⟨hunits, hother, hsurf, hdma, fun srf heq => (by cases heq), hle, hsame, ⟨hsurfRef, hbufRef⟩, ⟨hsurfHandle, hbufHandle⟩, fun _ => ⟨?_, ?_⟩,
      fun hc => absurd ⟨hreserve, hkmap, hroom⟩ hc⟩
    · change _ :: s₁.log = _
      rw [hlog]
    · exact congrArg (fun data => some (data b)) hdata
  · have hsent : (vmwCursorUpdateDmabuf s₁ u b o).2 = s₁ := by
      unfold vmwCursorUpdateDmabuf
      dsimp only
      rw [hbuf]
      by_cases hreserve : o.reserve = 0
      · rw [if_neg (not_not.mpr hreserve)]
        by_cases hkmap : ttmBoKmap (s.buf b) 0 CURSOR_PAGES o.kmap = 0
        · rw [if_neg (not_not.mpr hkmap)]
          rcases vmwCursorUpdateImage_spec s₁ u (.dmabuf b) (show (some (s₁.data b)).isSome from rfl) o.room with ⟨hroom, _⟩ | ⟨_, hsent⟩
          · exact absurd ⟨hreserve, hkmap, hroom⟩ hok
          · exact hsent
        · rw [if_pos hkmap]
      · rw [if_pos hreserve]
    rw [hsent]
    exact ⟨hunits, hother, hsurf, hdma, fun srf heq => (by cases heq), hle, hsame, ⟨hsurfRef, hbufRef⟩, ⟨hsurfHandle, hbufHandle⟩,
      fun hc => absurd hc hok, fun _ => hlog⟩

end Setup

section CursorSet

/-- The unit has the object as its only cursor. -/
def CursorObj.surf : CursorObj → Option SurfId
  | .surface srf => some srf
  | .dmabuf _ => none

def CursorObj.dma : CursorObj → Option BufId
  | .surface _ => none
  | .dmabuf b => some b

/-- A lookup, a takedown and a setup one after another. -/
theorem replaced {s₁ s₂ : State α} (obj : CursorObj) {ok : Prop} (h : Inv s) (hu : u ∈ s.units)
    (hget : s₁ = match obj with | .surface srf => s.surfGet srf | .dmabuf b => s.bufGet b) (hdown : Down s₁ s₂ u)
    (himage : ∀ srf, obj = .surface srf → (s.snooper srf).image.isSome) (hset : SetUp s₂ s' u obj ok) :
    (ok → Inv s' ∧ s'.log = .sent u obj :: s.log ∧ s'.device.image = s.image obj) ∧ (¬ ok → s'.log = s.log) := by
  have hs₁ : s₁.units = s.units ∧ s₁.unit = s.unit ∧ s₁.snooper = s.snooper ∧ s₁.data = s.data ∧
      s₁.surfHandle = s.surfHandle ∧ s₁.bufHandle = s.bufHandle ∧ s₁.since = s.since ∧ s₁.log = s.log := by
    cases obj <;> (rw [hget]; exact ⟨rfl, rfl, rfl, rfl, rfl, rfl, rfl, rfl⟩)
  obtain ⟨hunits₁, hunit₁, hsnooper₁, hdata₁, hsurfHandle₁, hbufHandle₁, hsince₁, hlog₁⟩ := hs₁
  have hquiet := hdown.quiet
  have hlog₂ : s₂.log = s.log := hquiet.log.trans hlog₁
  refine ⟨fun hok => ?_, fun hno => (hset.unsent hno).trans hlog₂⟩
  obtain ⟨hlog, hshown⟩ := hset.sent hok
  rw [hlog₂] at hlog
  have hsnooper : ∀ srf, (s'.snooper srf).age = (s.snooper srf).age ∧ (s'.snooper srf).image = (s.snooper srf).image := by
    intro srf
    obtain ⟨hage₃, himage₃⟩ := hset.snooper srf
    obtain ⟨hage₂, himage₂⟩ := hquiet.snooper srf
    rw [hage₃, himage₃, hage₂, himage₂, hsnooper₁]
    exact ⟨rfl, rfl⟩
  have hsurf : (s'.unit u).cursorSurface = obj.surf := by
    rw [hset.surface, hdown.surface]
    cases obj <;> rfl
  have hdma : (s'.unit u).cursorDmabuf = obj.dma := by
    rw [hset.dmabuf, hdown.dmabuf]
    cases obj <;> rfl
  have hcursor : CursorIs s s' u obj.surf obj.dma := by
    refine ⟨hset.units.trans (hquiet.units.trans hunits₁), fun v hv => ⟨?_, ?_, fun srf => ?_⟩, hsurf, hdma, hsnooper,
      fun srf => ?_, fun b => ?_, hset.handles.1.trans (hquiet.handles.1.trans hsurfHandle₁),
      hset.handles.2.trans (hquiet.handles.2.trans hbufHandle₁)⟩
    · rw [(hset.other v hv).1, hquiet.other v hv, hunit₁]
    · rw [(hset.other v hv).2, hquiet.since, hsince₁]
    · rw [hlog, behind_sent_ne (Ne.symm hv)]
    · have href := hdown.surfRef srf
      rw [hunit₁] at href
      rw [hset.refs.1, href, hget]
      cases obj with
      | surface srf' => exact get_named srf' srf
      | dmabuf b => rfl
    · have href := hdown.bufRef b
      rw [hunit₁] at href
      rw [hset.refs.2, href, hget]
      cases obj with
      | surface srf' => rfl
      | dmabuf b' => exact get_named b' b
  have hroom : s'.since u < 2 ^ 32 := by
    have hle := hset.since
    rw [hquiet.since, hsince₁] at hle
    exact Nat.lt_of_le_of_lt hle (h.units u hu).room
  refine ⟨h.cursorIs _ _ hu hcursor ⟨?_, fun srf hc => ?_, hroom, fun srf hc => ?_⟩, hlog, ?_⟩
  · rw [hsurf, hdma]
    cases obj with
    | surface srf => exact .inr rfl
    | dmabuf b => exact .inl rfl
  · rw [hsurf] at hc
    cases obj with
    | surface srf' =>
      rw [(hsnooper srf).2]
      cases hc
      exact himage _ rfl
    | dmabuf b => cases hc
  · rw [hsurf] at hc
    cases obj with
    | surface srf' =>
      cases hc
      obtain ⟨hage, hzero⟩ := hset.age _ rfl
      rw [hzero, hage, hlog, behind_sent_self, (hset.snooper _).1]
      exact ⟨by simp, rfl⟩
    | dmabuf b => cases hc
  · rw [hshown]
    cases obj with
    | surface srf =>
      change (s₂.snooper srf).image = _
      rw [(hquiet.snooper srf).2, hsnooper₁]
      rfl
    | dmabuf b =>
      change some (s₂.data b) = _
      rw [hquiet.buf.2, hdata₁]
      rfl

/-- The cursor of the unit is taken down. -/
theorem Inv.hidden (h : Inv s) (hu : u ∈ s.units) : Inv (vmwCursorUpdatePosition (takedown s u) false 0 0) := by
  obtain ⟨hle, hle'⟩ := h.named_le hu
  have hdown := takedown_spec s u hle hle'
  have hquiet := hdown.quiet
  have hcursor : CursorIs s (vmwCursorUpdatePosition (takedown s u) false 0 0) u none none := by
    refine ⟨hquiet.units, fun v hv => ⟨hquiet.other v hv, congrFun hquiet.since v, fun srf => ?_⟩, hdown.surface, hdown.dmabuf,
      hquiet.snooper, fun srf => ?_, fun b => ?_, hquiet.handles.1, hquiet.handles.2⟩
    · exact congrArg (behind v srf) hquiet.log
    · rw [named_none]
      exact hdown.surfRef srf
    · rw [named_none]
      exact hdown.bufRef b
  refine h.cursorIs _ _ hu hcursor ⟨.inl hdown.surface, fun srf hc => ?_, ?_, fun srf hc => ?_⟩
  · rw [hcursor.surface] at hc
    cases hc
  · rw [show (vmwCursorUpdatePosition (takedown s u) false 0 0).since u = s.since u from congrFun hquiet.since u]
    exact (h.units u hu).room
  · rw [hcursor.surface] at hc
    cases hc

theorem surfGet_surfPut (s : State α) (srf : SurfId) : (s.surfGet srf).surfPut srf = s := by
  unfold State.surfGet State.surfPut
  simp only [Function.update_self, Function.update_idem, Nat.add_sub_cancel, Function.update_eq_self]

/-- The three parts of `Kept` for a cursor that is set. -/
theorem kept_cursorSet {handle width height : UInt32} {l : Lookups} {o : SendOutcome} {ret : Int}
    (hstep : vmwDuCrtcCursorSet s u handle width height l o = (ret, s')) :
    Kept s (.cursorSet u handle width height l o) ↔ Truthful s' ∧
      (ret ≠ 0 → s'.unit u = s.unit u ∧ s'.device = s.device) ∧
        (ret = 0 → handle ≠ 0 → ∃ obj, l.Names obj ∧ s'.log = .sent u obj :: s.log ∧
          s'.device.image = s.image obj) := by
  have hstep' : step s (.cursorSet u handle width height l o) = (ret, s') := hstep
  unfold Kept
  rw [hstep']

theorem kept_error {handle width height : UInt32} {l : Lookups} {o : SendOutcome} {ret : Int} (h : Inv s)
    (hstep : vmwDuCrtcCursorSet s u handle width height l o = (ret, s)) (hret : ret ≠ 0) :
    Inv (step s (.cursorSet u handle width height l o)).2 ∧ Kept s (.cursorSet u handle width height l o) := by
  refine ⟨?_, (kept_cursorSet hstep).mpr ⟨h.truthful, fun _ => ⟨rfl, rfl⟩, fun hc => absurd hc hret⟩⟩
  change Inv (vmwDuCrtcCursorSet s u handle width height l o).2
  rw [hstep]
  exact h

/-- A cursor that is accepted is kept to exactly when it gets to the device. -/
theorem kept_accepted {handle width height : UInt32} {l : Lookups} {o : SendOutcome} {obj : CursorObj} {ok : Prop}
    (hstep : vmwDuCrtcCursorSet s u handle width height l o = (0, s')) (hnames : l.Names obj) (hhandle : handle ≠ 0)
    (hshown : (ok → Inv s' ∧ s'.log = .sent u obj :: s.log ∧ s'.device.image = s.image obj) ∧ (¬ ok → s'.log = s.log)) :
    (ok → Inv (step s (.cursorSet u handle width height l o)).2 ∧ Kept s (.cursorSet u handle width height l o)) ∧
      (Kept s (.cursorSet u handle width height l o) → ok) := by
  refine ⟨fun hok => ?_, fun hkept => ?_⟩
  · obtain ⟨hinv, hlog, himage⟩ := hshown.1 hok
    refine ⟨?_, (kept_cursorSet hstep).mpr ⟨hinv.truthful, fun hc => absurd rfl hc, fun _ _ => ⟨obj, hnames, hlog, himage⟩⟩⟩
    change Inv (vmwDuCrtcCursorSet s u handle width height l o).2
    rw [hstep]
    exact hinv
  · by_contra hno
    obtain ⟨obj', _, hlog, _⟩ := ((kept_cursorSet hstep).mp hkept).2.2 rfl hhandle
    rw [hshown.2 hno] at hlog
    exact List.cons_ne_self _ _ hlog.symm

theorem cursorSet_kept (h : Inv s) {handle width height : UInt32} {l : Lookups} {o : SendOutcome}
    (hen : Enabled s (.cursorSet u handle width height l o)) :
    (Sends s (.cursorSet u handle width height l o) →
        Inv (step s (.cursorSet u handle width height l o)).2 ∧ Kept s (.cursorSet u handle width height l o)) ∧
      (Kept s (.cursorSet u handle width height l o) → Sends s (.cursorSet u handle width height l o)) := by
  have hu := hen.1
  by_cases hsize : handle ≠ 0 ∧ (width ≠ 64 ∨ height ≠ 64)
  · have hstep : vmwDuCrtcCursorSet s u handle width height l o = (-EINVAL, s) := if_pos hsize
    exact ⟨fun _ => kept_error h hstep (by decide), fun _ _ hw hh => absurd hsize.2 (by simp [hw, hh])⟩
  by_cases hhandle : handle = 0
  · have hstep : vmwDuCrtcCursorSet s u handle width height l o =
        (0, vmwCursorUpdatePosition (takedown s u) false 0 0) := by
      unfold vmwDuCrtcCursorSet
      rw [if_neg hsize, if_pos hhandle]
    have hinv := h.hidden hu
    refine ⟨fun _ => ⟨?_, (kept_cursorSet hstep).mpr ⟨hinv.truthful, fun hc => absurd rfl hc, fun _ hc => absurd hhandle hc⟩⟩,
      fun _ hc => absurd hhandle hc⟩
    change Inv (vmwDuCrtcCursorSet s u handle width height l o).2
    rw [hstep]
    exact hinv
  obtain ⟨hle, hle'⟩ := h.named_le hu
  have h64 : width = 64 ∧ height = 64 := by simpa [hhandle] using hsize
  cases hsurf : l.surface with
  | ok srf =>
    have hnames : l.Names (.surface srf) := hsurf
    have honly : ∀ b, ¬ l.Names (.dmabuf b) := fun b hb => hb.1 srf hsurf
    by_cases himage : (s.snooper srf).image.isSome
    · have hstep : vmwDuCrtcCursorSet s u handle width height l o =
          (0, showCursor (setupCursor (takedown (s.surfGet srf) u) u o (.surface srf)) u) := by
        unfold vmwDuCrtcCursorSet vmwUserLookupHandle
        rw [if_neg hsize, if_neg hhandle, hsurf]
        refine if_neg ?_
        rw [Option.isNone_iff_eq_none, ← ne_eq, Option.ne_none_iff_isSome]
        exact himage
      have hle₁ : ∀ srf', named (s.unit u).cursorSurface srf' ≤ (s.surfGet srf).surfRef srf' := fun srf' => by
        refine (hle srf').trans ?_
        change _ ≤ Function.update s.surfRef srf (s.surfRef srf + 1) srf'
        rw [get_named srf srf']
        exact Nat.le_add_right _ _
      have hdown := takedown_spec (s.surfGet srf) u hle₁ hle'
      have himage₂ : ((takedown (s.surfGet srf) u).snooper srf).image.isSome := by
        rw [(hdown.quiet.snooper srf).2]
        exact himage
      have hset := setupSurface_spec (takedown (s.surfGet srf) u) u himage₂ o
      have hshown := replaced (.surface srf) h hu rfl hdown (fun srf' heq => (by cases heq; exact himage)) hset
      obtain ⟨hkept, hback⟩ := kept_accepted hstep hnames hhandle hshown
      refine ⟨fun hsends => hkept ?_, fun hk _ _ _ => ⟨fun _ _ _ => hback hk, fun b hb => absurd hb (honly b)⟩⟩
      exact (hsends hhandle h64.1 h64.2).1 srf hnames himage
    · have hstep : vmwDuCrtcCursorSet s u handle width height l o = (-EINVAL, s) := by
        unfold vmwDuCrtcCursorSet vmwUserLookupHandle
        rw [if_neg hsize, if_neg hhandle, hsurf]
        refine (if_pos ?_).trans (by rw [surfGet_surfPut])
        rw [Option.isNone_iff_eq_none]
        exact Option.not_isSome_iff_eq_none.mp himage
      refine ⟨fun _ => kept_error h hstep (by decide), fun _ _ _ _ => ⟨fun srf' hn hc => ?_, fun b hb => absurd hb (honly b)⟩⟩
      have heq : srf' = srf := by
        have hboth := hn.symm.trans hsurf
        cases hboth
        rfl
      exact absurd (heq ▸ hc) himage
  | error e =>
    have honly : ∀ srf, ¬ l.Names (.surface srf) := fun srf hs => by
      have hboth := hsurf.symm.trans hs
      cases hboth
    cases hdma : l.dmabuf with
    | ok b =>
      have hnames : l.Names (.dmabuf b) := ⟨fun srf => honly srf, hdma⟩
      have hstep : vmwDuCrtcCursorSet s u handle width height l o =
          (0, showCursor (setupCursor (takedown (s.bufGet b) u) u o (.dmabuf b)) u) := by
        unfold vmwDuCrtcCursorSet vmwUserLookupHandle
        rw [if_neg hsize, if_neg hhandle, hsurf, hdma]
      have hle₁ : ∀ b', named (s.unit u).cursorDmabuf b' ≤ (s.bufGet b).bufRef b' := fun b' => by
        refine (hle' b').trans ?_
        change _ ≤ Function.update s.bufRef b (s.bufRef b + 1) b'
        rw [get_named b b']
        exact Nat.le_add_right _ _
      have hdown := takedown_spec (s.bufGet b) u hle hle₁
      have hset := setupDmabuf_spec (takedown (s.bufGet b) u) u b o
      have hshown := replaced (.dmabuf b) h hu rfl hdown (fun srf' heq => (by cases heq)) hset
      obtain ⟨hkept, hback⟩ := kept_accepted hstep hnames hhandle hshown
      have hbuf : (takedown (s.bufGet b) u).buf = s.buf := hdown.quiet.buf.1
      have hok : Shown (takedown (s.bufGet b) u) o (.dmabuf b) ↔
          o.reserve = 0 ∧ ttmBoKmap (s.buf b) 0 CURSOR_PAGES o.kmap = 0 ∧ o.room = true := by
        unfold Shown
        dsimp only
        rw [hbuf]
      refine ⟨fun hsends => hkept (hok.mpr ?_), fun hk _ _ _ => ⟨fun srf hn => absurd hn (honly srf), fun b' hb' => ?_⟩⟩
      · exact (hsends hhandle h64.1 h64.2).2 b hnames
      · have heq : b' = b := by
          have hboth := hb'.2.symm.trans hdma
          cases hboth
          rfl
        exact heq ▸ hok.mp (hback hk)
    | error e' =>
      have hstep : vmwDuCrtcCursorSet s u handle width height l o = (-EINVAL, s) := by
        unfold vmwDuCrtcCursorSet vmwUserLookupHandle
        rw [if_neg hsize, if_neg hhandle, hsurf, hdma]
      refine ⟨fun _ => kept_error h hstep (by decide), fun _ _ _ _ => ⟨fun srf hn => absurd hn (honly srf), fun b hb => ?_⟩⟩
      have hboth := hdma.symm.trans hb.2
      cases hboth

end CursorSet

section PostExecbuf

/-- The unit's image is to be sent. -/
def Stale (s : State α) (u : UnitId) (srf : SurfId) : Prop :=
  (s.unit u).cursorSurface = some srf ∧ (s.unit u).cursorAge ≠ (s.snooper srf).age

/-- Nothing about the cursor of the unit changes. -/
structure KeepsUnit (s s' : State α) (u : UnitId) : Prop where
  unit : s'.unit u = s.unit u
  snooper : s'.snooper = s.snooper
  behind : ∀ srf, behind u srf s'.log = behind u srf s.log

theorem recordAge_unit (s : State α) (u : UnitId) (srf : SurfId) :
    (s.recordAge u srf).unit u = { s.unit u with cursorAge := (s.snooper srf).age } := Function.update_self ..

theorem updateUnit_idle (s : State α) (u : UnitId) (room : Bool) (h : ∀ srf, ¬ Stale s u srf) : updateUnit s u room = s := by
  unfold updateUnit
  split
  · rfl
  · rename_i srf hsurf
    rw [if_pos (not_not.mp fun hage => h srf ⟨hsurf, hage⟩)]

theorem updateUnit_stale (s : State α) (u : UnitId) (room : Bool) (h : Stale s u srf) :
    updateUnit s u room =
      (vmwCursorUpdateImage (s.recordAge u srf) u (.surface srf) ((s.recordAge u srf).snooper srf).image room).2 := by
  unfold updateUnit
  rw [h.1]
  exact if_neg h.2

theorem vmwCursorUpdateImage_frame (s : State α) (u : UnitId) (obj : CursorObj) (image : Option α) (room : Bool) :
    (vmwCursorUpdateImage s u obj image room).2.units = s.units ∧
      (vmwCursorUpdateImage s u obj image room).2.unit = s.unit ∧
      (vmwCursorUpdateImage s u obj image room).2.snooper = s.snooper ∧
      ∀ v, v ≠ u → ∀ srf, behind v srf (vmwCursorUpdateImage s u obj image room).2.log = behind v srf s.log := by
  unfold vmwCursorUpdateImage
  split
  · exact ⟨rfl, rfl, rfl, fun _ _ _ => rfl⟩
  · split
    · exact ⟨rfl, rfl, rfl, fun _ _ _ => rfl⟩
    · exact ⟨rfl, rfl, rfl, fun v hv srf => behind_sent_ne (Ne.symm hv) obj srf s.log⟩

/-- The turn of one unit is not another's. -/
theorem updateUnit_other (s : State α) (u : UnitId) (room : Bool) :
    (updateUnit s u room).units = s.units ∧ ∀ v, v ≠ u → KeepsUnit s (updateUnit s u room) v := by
  unfold updateUnit
  split
  · exact ⟨rfl, fun _ _ => ⟨rfl, rfl, fun _ => rfl⟩⟩
  · rename_i srf hsurf
    split
    · exact ⟨rfl, fun _ _ => ⟨rfl, rfl, fun _ => rfl⟩⟩
    · obtain ⟨hunits, hunit, hsnooper, hbehind⟩ := vmwCursorUpdateImage_frame (s.recordAge u srf) u (.surface srf)
        ((s.recordAge u srf).snooper srf).image room
      refine ⟨hunits, fun v hv => ⟨?_, hsnooper, hbehind v hv⟩⟩
      rw [hunit]
      exact Function.update_of_ne hv ..

theorem KeepsUnit.stale (h : KeepsUnit s s' u) (hstale : Stale s' u srf) : Stale s u srf := by
  obtain ⟨hsurf, hage⟩ := hstale
  rw [h.unit, h.snooper] at hage
  rw [h.unit] at hsurf
  exact ⟨hsurf, hage⟩

/-- A unit whose image gets through is up to date. -/
theorem Inv.updateUnit (h : Inv s) (hu : u ∈ s.units) {room : Bool} (hroom : ∀ srf, Stale s u srf → room = true) :
    Inv (updateUnit s u room) := by
  by_cases hstale : ∃ srf, Stale s u srf
  · obtain ⟨srf, hstale⟩ := hstale
    have himage : ((s.recordAge u srf).snooper srf).image.isSome := (h.units u hu).image srf hstale.1
    obtain ⟨_, hsent⟩ | ⟨hno, _⟩ := vmwCursorUpdateImage_spec (s.recordAge u srf) u (.surface srf) himage room
    swap
    · exact absurd (hroom srf hstale) hno
    rw [updateUnit_stale s u room hstale, hsent]
    have hself := recordAge_unit s u srf
    have hsurf : ((s.recordAge u srf).unit u).cursorSurface = some srf := by rw [hself]; exact hstale.1
    have hdma : ((s.recordAge u srf).unit u).cursorDmabuf = (s.unit u).cursorDmabuf := by rw [hself]
    have hzero : (s.recordAge u srf).since u = 0 := Function.update_self ..
    refine h.cursorIs (some srf) (s.unit u).cursorDmabuf hu ⟨rfl, fun v hv => ⟨?_, ?_, fun srf' => ?_⟩, hsurf,
      hdma, fun _ => ⟨rfl, rfl⟩, fun srf' => ?_, fun b => rfl, rfl, rfl⟩ ⟨?_, fun srf' hc => ?_, ?_, fun srf' hc => ?_⟩
    · exact Function.update_of_ne hv ..
    · exact Function.update_of_ne hv ..
    · exact behind_sent_ne (Ne.symm hv) (.surface srf) srf' s.log
    · rw [hstale.1]
      rfl
    · change ((s.recordAge u srf).unit u).cursorSurface = none ∨ ((s.recordAge u srf).unit u).cursorDmabuf = none
      rw [hself]
      exact (h.units u hu).one
    · obtain rfl := Option.some.inj (hsurf.symm.trans hc)
      exact himage
    · change (s.recordAge u srf).since u < _
      rw [hzero]
      decide
    · obtain rfl := Option.some.inj (hsurf.symm.trans hc)
      change (s.snooper srf).age = ((s.recordAge u srf).unit u).cursorAge + UInt64.ofNat ((s.recordAge u srf).since u) ∧
        _ = some ((s.recordAge u srf).since u)
      rw [hzero, hself]
      exact ⟨by simp, behind_sent_self u srf _⟩
  · rw [updateUnit_idle s u room fun srf hs => hstale ⟨srf, hs⟩]
    exact h

theorem Inv.postExecbuf (h : Inv s) {room : UnitId → Bool}
    (hroom : ∀ u ∈ s.units, ∀ srf, Stale s u srf → room u = true) : Inv (vmwKmsCursorPostExecbuf s room) := by
  have hloop : ∀ (l : List UnitId), l.Nodup → ∀ s : State α, Inv s → (∀ u ∈ l, u ∈ s.units) →
      (∀ u ∈ l, ∀ srf, Stale s u srf → room u = true) → Inv (l.foldl (fun s u => Cursor.updateUnit s u (room u)) s) := by
    intro l
    induction l with
    | nil => exact fun _ s hs _ _ => hs
    | cons u l ih =>
      intro hnodup s hs hmem hcond
      obtain ⟨hu, hl⟩ := List.nodup_cons.mp hnodup
      obtain ⟨hunits, hother⟩ := updateUnit_other s u (room u)
      refine ih hl _ (hs.updateUnit (hmem u List.mem_cons_self) (hcond u List.mem_cons_self)) (fun v hv => ?_)
        fun v hv srf hstale => ?_
      · rw [hunits]
        exact hmem v (List.mem_cons_of_mem u hv)
      · have hne : v ≠ u := fun heq => hu (heq ▸ hv)
        exact hcond v (List.mem_cons_of_mem u hv) srf ((hother v hne).stale hstale)
  exact hloop s.units h.nodup s h (fun _ hu => hu) hroom

theorem KeepsUnit.refl (s : State α) (u : UnitId) : KeepsUnit s s u := ⟨rfl, rfl, fun _ => rfl⟩

theorem KeepsUnit.trans {s'' : State α} (h : KeepsUnit s s' u) (h' : KeepsUnit s' s'' u) : KeepsUnit s s'' u :=
  ⟨h'.unit.trans h.unit, h'.snooper.trans h.snooper, fun srf => (h'.behind srf).trans (h.behind srf)⟩

theorem foldl_other (room : UnitId → Bool) (l : List UnitId) (hu : u ∉ l) (s : State α) :
    KeepsUnit s (l.foldl (fun s u => updateUnit s u (room u)) s) u := by
  induction l generalizing s with
  | nil => exact .refl s u
  | cons v l ih =>
    have hne : u ≠ v := fun heq => hu (heq ▸ List.mem_cons_self)
    exact ((updateUnit_other s v (room v)).2 u hne).trans (ih (fun hc => hu (List.mem_cons_of_mem v hc)) _)

/-- An image that does not get through is not sent again, as its age is current. -/
theorem not_sent (h : Inv s) {room : UnitId → Bool} (hu : u ∈ s.units) (hstale : Stale s u srf) (hroom : room u ≠ true) :
    ¬ Truthful (vmwKmsCursorPostExecbuf s room) := by
  intro htruthful
  obtain ⟨l, l', hsplit⟩ := List.append_of_mem hu
  have hnodup := h.nodup
  rw [hsplit] at hnodup
  have hnot : u ∉ l ∧ u ∉ l' := by
    obtain ⟨hl, hl', hdisjoint⟩ := List.nodup_append.mp hnodup
    exact ⟨fun hc => hdisjoint u hc u List.mem_cons_self rfl, (List.nodup_cons.mp hl').1⟩
  obtain ⟨s₁, hs₁⟩ : ∃ s₁, s₁ = l.foldl (fun s u => updateUnit s u (room u)) s := ⟨_, rfl⟩
  have hkeeps₁ : KeepsUnit s s₁ u := hs₁ ▸ foldl_other room l hnot.1 s
  have hstale₁ : Stale s₁ u srf := by
    obtain ⟨hsurf, hage⟩ := hstale
    refine ⟨by rw [hkeeps₁.unit]; exact hsurf, ?_⟩
    rw [hkeeps₁.unit, hkeeps₁.snooper]
    exact hage
  have himage : ((s₁.recordAge u srf).snooper srf).image.isSome := by
    change (s₁.snooper srf).image.isSome
    rw [hkeeps₁.snooper]
    exact (h.units u hu).image srf hstale.1
  obtain ⟨hc, _⟩ | ⟨_, hunsent⟩ := vmwCursorUpdateImage_spec (s₁.recordAge u srf) u (.surface srf) himage (room u)
  · exact hroom hc
  have hs₂ : updateUnit s₁ u (room u) = s₁.recordAge u srf := (updateUnit_stale s₁ u (room u) hstale₁).trans hunsent
  have hkeeps₂ := foldl_other room l' hnot.2 (s₁.recordAge u srf)
  have hfinal : vmwKmsCursorPostExecbuf s room = l'.foldl (fun s u => updateUnit s u (room u)) (s₁.recordAge u srf) := by
    unfold vmwKmsCursorPostExecbuf
    rw [hsplit, List.foldl_append, List.foldl_cons, ← hs₁, hs₂]
  rw [← hfinal] at hkeeps₂
  have hself := recordAge_unit s₁ u srf
  have hunits : ∀ (l : List UnitId) (s : State α), (l.foldl (fun s u => updateUnit s u (room u)) s).units = s.units := by
    intro l
    induction l with
    | nil => exact fun _ => rfl
    | cons v l ih => exact fun s => (ih _).trans (updateUnit_other s v (room v)).1
  have hsent := htruthful.sent u ((hunits s.units s).symm ▸ hu) srf (by rw [hkeeps₂.unit, hself]; exact hstale₁.1) (by
    rw [hkeeps₂.unit, hself, hkeeps₂.snooper]
    rfl)
  rw [sentSince_iff, hkeeps₂.behind] at hsent
  have hlog : (s₁.recordAge u srf).log = s₁.log := rfl
  rw [hlog, hkeeps₁.behind] at hsent
  exact hstale.2 (((h.units u hu).current_iff hstale.1).mpr ((sentSince_iff u srf s.log).mpr hsent))

end PostExecbuf

section Step

theorem Inv.snoop (h : Inv s) {bo : VmwDmaBuffer} {cmd : VmwDmaCmd} {reserve kmap : Int} {image : α}
    (hen : Enabled s (.snoop srf bo cmd reserve kmap image)) : Inv (Cursor.snoop s srf bo cmd reserve kmap image) := by
  unfold Cursor.snoop
  split
  · exact h
  · refine ⟨h.nodup, fun u hu => ⟨(h.units u hu).one, fun srf' hsurf => ?_, ?_, fun srf' hsurf => ?_⟩, h.surfRefs, h.bufRefs⟩
    · change (Function.update s.snooper srf _ srf').image.isSome
      by_cases heq : srf' = srf
      · subst heq
        rw [Function.update_self]
        rfl
      · rw [Function.update_of_ne heq]
        exact (h.units u hu).image srf' hsurf
    · dsimp only
      split
      · rename_i hsurf
        exact hen u hu hsurf
      · exact (h.units u hu).room
    · obtain ⟨hage, hbehind⟩ := (h.units u hu).age srf' hsurf
      have hsurf : (s.unit u).cursorSurface = some srf' := hsurf
      change (Function.update s.snooper srf _ srf').age =
        (s.unit u).cursorAge + UInt64.ofNat (if (s.unit u).cursorSurface = some srf then s.since u + 1 else s.since u) ∧
          behind u srf' (.snooped srf :: s.log) =
            some (if (s.unit u).cursorSurface = some srf then s.since u + 1 else s.since u)
      unfold behind
      by_cases heq : srf = srf'
      · subst heq
        rw [Function.update_self, if_pos hsurf, if_pos rfl, hbehind]
        refine ⟨?_, rfl⟩
        dsimp only
        rw [hage, UInt64.ofNat_add]
        exact UInt64.add_assoc ..
      · rw [Function.update_of_ne (Ne.symm heq), if_neg (fun hc => heq (Option.some.inj (hc.symm.trans hsurf))), if_neg heq]
        exact ⟨hage, hbehind⟩

/-- No cursor changes, and references come and go with their handles. -/
theorem Inv.congr (h : Inv s) (hunits : s'.units = s.units)
    (hunit : ∀ v, (s'.unit v).cursorSurface = (s.unit v).cursorSurface ∧ (s'.unit v).cursorDmabuf = (s.unit v).cursorDmabuf ∧
      (s'.unit v).cursorAge = (s.unit v).cursorAge)
    (hsnooper : s'.snooper = s.snooper) (hsince : s'.since = s.since) (hlog : s'.log = s.log)
    (hsurf : ∀ srf, s'.surfRef srf + s.surfHandle srf = s.surfRef srf + s'.surfHandle srf)
    (hbuf : ∀ b, s'.bufRef b + s.bufHandle b = s.bufRef b + s'.bufHandle b) : Inv s' := by
  refine ⟨hunits ▸ h.nodup, fun u hu => ?_, fun srf => ?_, fun b => ?_⟩
  · rw [hunits] at hu
    obtain ⟨hs, hd, ha⟩ := hunit u
    obtain ⟨hone, himage, hroom, hage⟩ := h.units u hu
    refine ⟨?_, ?_, ?_, ?_⟩
    · rwa [hs, hd]
    · rwa [hs, hsnooper]
    · rwa [hsince]
    · rwa [hs, ha, hsnooper, hsince, hlog]
  · have hcount : s'.units.countP (fun u => decide ((s'.unit u).cursorSurface = some srf)) =
        s.units.countP fun u => decide ((s.unit u).cursorSurface = some srf) := by
      rw [hunits]
      exact List.countP_congr fun u _ => by rw [(hunit u).1]
    have hold := h.surfRefs srf
    have hnew := hsurf srf
    omega
  · have hcount : s'.units.countP (fun u => decide ((s'.unit u).cursorDmabuf = some b)) =
        s.units.countP fun u => decide ((s.unit u).cursorDmabuf = some b) := by
      rw [hunits]
      exact List.countP_congr fun u _ => by rw [(hunit u).2.1]
    have hold := h.bufRefs b
    have hnew := hbuf b
    omega

theorem Inv.move (h : Inv s) (u : UnitId) (x y : Int) : Inv (vmwDuCrtcCursorMove s u x y) := by
  refine h.congr rfl (fun v => ?_) rfl rfl rfl (fun _ => rfl) fun _ => rfl
  change (Function.update s.unit u _ v).cursorSurface = _ ∧ (Function.update s.unit u _ v).cursorDmabuf = _ ∧
    (Function.update s.unit u _ v).cursorAge = _
  by_cases heq : v = u
  · subst heq
    rw [Function.update_self]
    exact ⟨rfl, rfl, rfl⟩
  · rw [Function.update_of_ne heq]
    exact ⟨rfl, rfl, rfl⟩

/-- A reference that comes with a handle. -/
theorem handle_get (ref handle : Nat → Nat) (n m : Nat) :
    Function.update ref n (ref n + 1) m + handle m = ref m + Function.update handle n (handle n + 1) m := by
  by_cases heq : m = n
  · subst heq
    rw [Function.update_self, Function.update_self]
    omega
  · rw [Function.update_of_ne heq, Function.update_of_ne heq]

theorem handle_put (ref handle : Nat → Nat) {n : Nat} (hpos : 0 < handle n) (hle : handle n ≤ ref n) (m : Nat) :
    Function.update ref n (ref n - 1) m + handle m = ref m + Function.update handle n (handle n - 1) m := by
  by_cases heq : m = n
  · subst heq
    rw [Function.update_self, Function.update_self]
    omega
  · rw [Function.update_of_ne heq, Function.update_of_ne heq]

/-- A step keeps to what it promises exactly when what is to be sent is. -/
theorem Inv.step {a : Act α} (h : Inv s) (hen : Enabled s a) :
    (Sends s a → Inv (step s a).2 ∧ Kept s a) ∧ (Kept s a → Sends s a) := by
  cases a with
  | cursorSet u handle width height l o => exact cursorSet_kept h hen
  | postExecbuf room =>
    refine ⟨fun hsends => ?_, fun hkept u hu srf hsurf hage => ?_⟩
    · have hinv := h.postExecbuf fun u hu srf hstale => hsends u hu srf hstale.1 hstale.2
      exact ⟨hinv, hinv.truthful, trivial⟩
    · by_contra hroom
      exact not_sent h hu ⟨hsurf, hage⟩ hroom hkept.1
  | cursorMove u x y =>
    have hinv := h.move u x y
    exact ⟨fun _ => ⟨hinv, hinv.truthful, trivial⟩, fun _ => trivial⟩
  | snoop srf bo cmd reserve kmap image =>
    have hinv := h.snoop hen
    exact ⟨fun _ => ⟨hinv, hinv.truthful, trivial⟩, fun _ => trivial⟩
  | write b image =>
    have hinv : Inv (Cursor.step s (.write b image)).2 :=
      h.congr rfl (fun _ => ⟨rfl, rfl, rfl⟩) rfl rfl rfl (fun _ => rfl) fun _ => rfl
    exact ⟨fun _ => ⟨hinv, hinv.truthful, trivial⟩, fun _ => trivial⟩
  | surfGet srf =>
    have hinv : Inv (Cursor.step s (.surfGet srf)).2 := h.congr rfl (fun _ => ⟨rfl, rfl, rfl⟩) rfl rfl rfl
      (fun srf' => handle_get s.surfRef s.surfHandle srf srf') fun _ => rfl
    exact ⟨fun _ => ⟨hinv, hinv.truthful, trivial⟩, fun _ => trivial⟩
  | surfPut srf =>
    have hle : s.surfHandle srf ≤ s.surfRef srf := h.surfRefs srf ▸ Nat.le_add_right _ _
    have hinv : Inv (Cursor.step s (.surfPut srf)).2 := h.congr rfl (fun _ => ⟨rfl, rfl, rfl⟩) rfl rfl rfl
      (fun srf' => handle_put s.surfRef s.surfHandle hen hle srf') fun _ => rfl
    exact ⟨fun _ => ⟨hinv, hinv.truthful, trivial⟩, fun _ => trivial⟩
  | bufGet b =>
    have hinv : Inv (Cursor.step s (.bufGet b)).2 := h.congr rfl (fun _ => ⟨rfl, rfl, rfl⟩) rfl rfl rfl
      (fun _ => rfl) fun b' => handle_get s.bufRef s.bufHandle b b'
    exact ⟨fun _ => ⟨hinv, hinv.truthful, trivial⟩, fun _ => trivial⟩
  | bufPut b =>
    have hle : s.bufHandle b ≤ s.bufRef b := h.bufRefs b ▸ Nat.le_add_right _ _
    have hinv : Inv (Cursor.step s (.bufPut b)).2 := h.congr rfl (fun _ => ⟨rfl, rfl, rfl⟩) rfl rfl rfl
      (fun _ => rfl) fun b' => handle_put s.bufRef s.bufHandle hen hle b'
    exact ⟨fun _ => ⟨hinv, hinv.truthful, trivial⟩, fun _ => trivial⟩

theorem Inv.init {units : List UnitId} (hnodup : units.Nodup) (image : SurfId → Option α) (buf : BufId → VmwDmaBuffer)
    (data : BufId → α) : Inv (State.init units image buf data) where
  nodup := hnodup
  units _ _ := ⟨.inl rfl, fun _ hc => (by cases hc), Nat.two_pow_pos 32, fun _ hc => (by cases hc)⟩
  surfRefs srf := by
    have hzero : units.countP (fun _ => decide ((none : Option SurfId) = some srf)) = 0 :=
      List.countP_eq_zero.mpr fun _ _ => by simp
    exact hzero.symm.trans (Nat.zero_add _).symm
  bufRefs b := by
    have hzero : units.countP (fun _ => decide ((none : Option BufId) = some b)) = 0 :=
      List.countP_eq_zero.mpr fun _ _ => by simp
    exact hzero.symm.trans (Nat.zero_add _).symm

end Step

/-- The cursors along a run. -/
def next (s : State α) (a : Act α) : Option (State α) := some (step s a).2

theorem cursor_truthful {units : List UnitId} (hnodup : units.Nodup) {image : SurfId → Option α}
    {buf : BufId → VmwDmaBuffer} {data : BufId → α} {acts : List (Act α)}
    (hrun : Run next (fun s a => Enabled s a ∧ Sends s a) (State.init units image buf data) acts s) :
    Truthful s ∧ ∀ a, Enabled s a → (Kept s a ↔ Sends s a) := by
  have hinv : Inv s := by
    refine Run.invariant (fun s a s' hok hnext hinv => ?_) hrun (Inv.init hnodup image buf data)
    cases hnext
    exact ((hinv.step hok.1).1 hok.2).1
  exact ⟨hinv.truthful, fun a hen => ⟨(hinv.step hen).2, fun hsends => ((hinv.step hen).1 hsends).2⟩⟩

section Example

private def free : SendOutcome := ⟨0, 0, true⟩

private def full : SendOutcome := ⟨0, 0, false⟩

private def asSurface : Lookups := ⟨.ok 3, .error (-EINVAL)⟩

private def asDmabuf : Lookups := ⟨.error (-EINVAL), .ok 4⟩

/-- One unit, a cursor surface and buffers of one page. -/
private def oneUnit : State Nat :=
  .init [0] (fun srf => if srf = 3 then some 7 else none) (fun _ => ⟨1⟩) fun _ => 8

private def setSurface (o : SendOutcome) : Act Nat := .cursorSet 0 1 64 64 asSurface o

private def setDmabuf (o : SendOutcome) : Act Nat := .cursorSet 0 1 64 64 asDmabuf o

/-- A copy of the whole image. -/
private def copyImage : Act Nat :=
  .snoop 3 ⟨16⟩ ⟨64, 0, 256, 0, 0, ⟨0, 0, 0, 64, 64, 1, 0, 0, 0⟩, 12, 0⟩ 0 0 9

private theorem surface_enabled (o : SendOutcome) : Enabled (step oneUnit (.surfGet 3)).2 (setSurface o) := by
  refine ⟨List.mem_cons_self, fun srf hsrf => ?_, fun b hb => ?_⟩
  · cases hsrf
    exact Nat.one_pos
  · cases hb

theorem cursor_truthful_surface : ∃ s, Run next (fun s a => Enabled s a ∧ Sends s a) oneUnit [.surfGet 3, setSurface free] s ∧
    (s.unit 0).cursorSurface = some 3 ∧ Truthful s := by
  have hsends : Sends (step oneUnit (.surfGet 3)).2 (setSurface free) := fun _ _ _ =>
    ⟨fun _ _ _ => rfl, fun b hb => absurd rfl (hb.1 3)⟩
  have hrun : Run next (fun s a => Enabled s a ∧ Sends s a) oneUnit [.surfGet 3, setSurface free] _ :=
    .cons ⟨trivial, trivial⟩ rfl <| .cons ⟨surface_enabled free, hsends⟩ rfl <| .nil _
  exact ⟨_, hrun, rfl, (cursor_truthful (by decide) hrun).1⟩

/-- The FIFO is full, the buffer has one page, or the FIFO is full when the image has changed. -/
theorem cursor_not_truthful :
    (∃ s, Run next Enabled oneUnit [.surfGet 3] s ∧ Enabled s (setSurface full) ∧ ¬ Kept s (setSurface full)) ∧
    (∃ s, Run next Enabled oneUnit [.bufGet 4] s ∧ Enabled s (setDmabuf free) ∧ ¬ Kept s (setDmabuf free)) ∧
    ∃ s, Run next Enabled oneUnit [.surfGet 3, setSurface free, copyImage] s ∧
      Enabled s (.postExecbuf fun _ => false) ∧ ¬ Kept s (.postExecbuf fun _ => false) := by
  refine ⟨⟨_, .cons trivial rfl <| .nil _, surface_enabled full, fun hkept => ?_⟩,
    ⟨_, .cons trivial rfl <| .nil _, ⟨List.mem_cons_self, fun srf hsrf => ?_, fun b hb => ?_⟩, fun hkept => ?_⟩,
    ⟨_, .cons trivial rfl <| .cons (surface_enabled free) rfl <| .cons (fun u hu _ => ?_) rfl <| .nil _, trivial,
      fun hkept => ?_⟩⟩
  · obtain ⟨obj, _, hlog, _⟩ := hkept.2.2 rfl (by decide)
    exact List.cons_ne_nil _ _ hlog.symm
  · cases hsrf
  · cases hb
    exact Nat.one_pos
  · obtain ⟨obj, _, hlog, _⟩ := hkept.2.2 rfl (by decide)
    exact List.cons_ne_nil _ _ hlog.symm
  · obtain rfl : u = 0 := List.mem_singleton.mp hu
    exact show 0 + 1 < 2 ^ 32 by decide
  · have hsent := hkept.1.sent 0 List.mem_cons_self 3 rfl rfl
    exact hsent.1 rfl

end Example

end Vmwgfx.Kms.Cursor
