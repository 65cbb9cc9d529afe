import Mathlib.Data.List.FinRange
import Vmwgfx.Kms.Gmrfb
import Vmwgfx.Kms.ScreenObject

/-! Page flips: `vmw_du_page_flip`. -/

namespace Vmwgfx.Kms.PageFlip

open Blit

abbrev FenceId := Nat

/-- A `struct drm_pending_event`. -/
abbrev EventId := Nat

/-- `struct vmw_framebuffer`.  `drm_mode_addfb` takes no more than 8192. -/
structure VmwFramebuffer where
  id : Nat
  dmabuf : Bool
  userHandle : UInt32
  width : UInt32
  height : UInt32
  bitsPerPixel : UInt32
  depth : UInt32
  pitch : UInt32
  width_le : width ≤ 8192
  height_le : height ≤ 8192

namespace VmwFramebuffer

variable (vfb : VmwFramebuffer)

def base : Sou.Fb := ⟨vfb.id, vfb.width.toNat, vfb.height.toNat⟩

def surface : Blit.Framebuffer := ⟨vfb.id, vfb.userHandle, vfb.width, vfb.height, vfb.width_le, vfb.height_le⟩

def buffer : Gmrfb.Framebuffer := ⟨vfb.id, vfb.userHandle, vfb.bitsPerPixel, vfb.depth, vfb.pitch⟩

end VmwFramebuffer

/-- What one call of `vmw_execbuf_process` submits. -/
inductive Commands
  | defineGmrfb (cmd : Gmrfb.DefineGMRFB)
  | blitSurface (cmd : BlitSurfaceToScreen)
  | blitGmrfb (blits : List Gmrfb.GmrfbBlit)
  deriving DecidableEq

/-- How the steps of a call end.  A submission that goes well gives no fence when none could be made. -/
structure Env where
  /-- The allocations of `do_surface_dirty_sou`. -/
  tmp : Bool
  cmd : Bool
  /-- The allocations of `do_dmabuf_define_gmrfb` and `do_dmabuf_dirty_sou`. -/
  define : Bool
  blits : Bool
  vmwExecbufProcess : Commands → Except Errno (Option FenceId)
  /-- The allocation of `vmw_event_fence_action_queue`. -/
  eaction : Bool
  /-- The fence signals before `vmw_fence_obj_add_action` returns. -/
  passed : Bool

/-- `struct vmw_event_fence_action`; it has a reference of its own to the fence. -/
structure EventFenceAction where
  event : EventId
  fence : FenceId
  deriving DecidableEq

/-- The screen object units, the references to fences that were handed to the flips and that the flips
dropped, and the events of the client. -/
structure State (n : Nat) where
  souPriv : Option Sou.Display
  unit : Fin n → Sou.Unit
  got : List FenceId
  dropped : List FenceId
  fenceEvents : List EventFenceAction
  eventList : List EventId

/-- A unit as the blits see it. -/
def displayUnit (number : Nat) (sou : Sou.Unit) : DisplayUnit :=
  ⟨number, sou.crtc.fb.map Sou.Fb.id, Int32.ofNat sou.crtc.x, Int32.ofNat sou.crtc.y,
    UInt16.ofNat sou.crtc.mode.hdisplay, UInt16.ofNat sou.crtc.mode.vdisplay⟩

section Display

variable {n : Nat}

theorem displayUnit_nodup (unit : Fin n → Sou.Unit) :
    (((List.finRange n).map fun i : Fin n => displayUnit i.val (unit i)).map DisplayUnit.unit).Nodup := by
  rw [List.map_map]
  exact (List.nodup_finRange n).map Fin.val_injective

def State.display (s : State n) : Display :=
  ⟨(List.finRange n).map fun i : Fin n => displayUnit i.val (s.unit i), displayUnit_nodup s.unit⟩

end Display

section Dirty

variable {n : Nat} (env : Env) (vfb : VmwFramebuffer) (clips : List DrmClipRect)

/-- `vmw_fence_obj_unreference` of a pointer, which is `NULL` after it. -/
def vmwFenceObjUnreference (fence : Option FenceId) (s : State n) : Option FenceId × State n :=
  match fence with
  | none => (none, s)
  | some f => (none, { s with dropped := s.dropped ++ [f] })

/-- A submission of the dirty helpers. -/
def submit (cmds : Commands) (fence : Option FenceId) (s : State n) : Option Errno × Option FenceId × State n :=
  let (fence, s) := vmwFenceObjUnreference fence s
  match env.vmwExecbufProcess cmds with
  | .error e => (some e, fence, s)
  | .ok none => (none, none, s)
  | .ok (some f) => (none, some f, { s with got := s.got ++ [f] })

/-- The loop over the units that are hit. -/
def submitAll : List Commands → Option FenceId → State n → Option Errno × Option FenceId × State n
  | [], fence, s => (none, fence, s)
  | cmds :: rest, fence, s =>
    match submit env cmds fence s with
    | (some e, fence, s) => (some e, fence, s)
    | (none, fence, s) => submitAll rest fence s

/-- `none` is a `BUG`, also below. -/
def doSurfaceDirtySou (fence : Option FenceId) (s : State n) : Option (Option Errno × Option FenceId × State n) :=
  (Blit.doSurfaceDirtySou s.display vfb.surface clips).map fun cmds =>
    if ¬ env.tmp then (some .nomem, fence, s)
    else if ¬ env.cmd then (some .nomem, fence, s)
    else submitAll env (cmds.map .blitSurface) fence s

def doDmabufDefineGmrfb : Option Errno :=
  if ¬ env.define then some .nomem
  else match env.vmwExecbufProcess (.defineGmrfb (Gmrfb.doDmabufDefineGmrfb vfb.buffer)) with
    | .error e => some e
    | .ok _ => none

/-- The blits for a unit, unless no rectangle hits it. -/
def unitBlits (unit : DisplayUnit) : Option (List Gmrfb.GmrfbBlit) :=
  match clips.filterMap (Gmrfb.dirtyBlit unit) with
  | [] => none
  | b :: bs => some (b :: bs)

/-- The blits of `do_dmabuf_dirty_sou`, as they are submitted. -/
def dmabufBlits (display : Display) : List (List Gmrfb.GmrfbBlit) :=
  (display.shows vfb.id).filterMap (unitBlits clips)

def doDmabufDirtySou (fence : Option FenceId) (s : State n) : Option Errno × Option FenceId × State n :=
  match doDmabufDefineGmrfb env vfb with
  | some e => (some e, fence, s)
  | none =>
    if ¬ env.blits then (some .nomem, fence, s)
    else submitAll env ((dmabufBlits vfb clips s.display).map .blitGmrfb) fence s

def dirtySou (fence : Option FenceId) (s : State n) : Option (Option Errno × Option FenceId × State n) :=
  if vfb.dmabuf then some (doDmabufDirtySou env vfb clips fence s) else doSurfaceDirtySou env vfb clips fence s

end Dirty

/-- The submissions of `do_dmabuf_dirty_sou` put together are its blits. -/
theorem dmabufBlits_flatten (vfb : VmwFramebuffer) (clips : List DrmClipRect) (display : Display) :
    (dmabufBlits vfb clips display).flatten = (Gmrfb.doDmabufDirtySou display vfb.buffer clips).2 := by
  unfold dmabufBlits Gmrfb.doDmabufDirtySou
  change ((display.shows vfb.id).filterMap (unitBlits clips)).flatten =
    (display.shows vfb.id).flatMap fun unit => clips.filterMap (Gmrfb.dirtyBlit unit)
  induction display.shows vfb.id with
  | nil => rfl
  | cons unit units ih =>
    rw [List.flatMap_cons, ← ih]
    cases hblits : clips.filterMap (Gmrfb.dirtyBlit unit) with
    | nil =>
      have hnone : unitBlits clips unit = none := by
        unfold unitBlits
        rw [hblits]
      rw [List.filterMap_cons_none hnone, List.nil_append]
    | cons b bs =>
      have hsome : unitBlits clips unit = some (b :: bs) := by
        unfold unitBlits
        rw [hblits]
      rw [List.filterMap_cons_some hsome, List.flatten_cons]

section Flip

variable {n : Nat} (env : Env) (i : Fin n)

/-- `vmw_event_fence_action_seq_passed`. -/
def vmwEventFenceActionSeqPassed (eaction : EventFenceAction) (s : State n) : State n :=
  { s with fenceEvents := s.fenceEvents.erase eaction, eventList := s.eventList ++ [eaction.event] }

def vmwEventFenceActionQueue (fence : FenceId) (event : EventId) (s : State n) : Option Errno × State n :=
  if ¬ env.eaction then (some .nomem, s)
  else
    let eaction := ⟨event, fence⟩
    let s := { s with fenceEvents := s.fenceEvents ++ [eaction] }
    (none, if env.passed then vmwEventFenceActionSeqPassed eaction s else s)

def State.setFb (s : State n) (fb : Option Sou.Fb) : State n :=
  { s with unit := Function.update s.unit i { s.unit i with crtc := { (s.unit i).crtc with fb := fb } } }

/-- An event that is `NULL` is read nevertheless, which stops the call. -/
def vmwDuPageFlip (vfb : VmwFramebuffer) (event : Option EventId) (s : State n) : Option (Int × State n) :=
  event.bind fun event =>
    match s.souPriv with
    | none => some (-Overlay.ENOSYS, s)
    | some ld =>
      if ¬ Sou.vmwKmsScreenObjectFlippable ld (s.unit i) then some (-EINVAL, s)
      else
        let oldFb := (s.unit i).crtc.fb
        (dirtySou env vfb [norect vfb.surface] none (s.setFb i (some vfb.base))).bind fun
          | (some e, _, s) => some (e.val, s.setFb i oldFb)
          | (none, none, s) => some (-EINVAL, s.setFb i oldFb)
          | (none, some fence, s) =>
            let (ret, s) := vmwEventFenceActionQueue env fence event s
            let s := (vmwFenceObjUnreference (some fence) s).2
            if (s.unit i).isImplicit then
              (Sou.vmwKmsScreenObjectUpdateImplicitFb ld (s.unit i)).map fun ld =>
                (errnoVal ret, { s with souPriv := some ld })
            else some (errnoVal ret, s)

end Flip

section Atomic

variable {n : Nat} (env : Env) (i : Fin n) (vfb : VmwFramebuffer)

/-- The events that the client has got or is going to get. -/
def State.queued (s : State n) : List EventId := s.fenceEvents.map EventFenceAction.event ++ s.eventList

/-- Each reference that was handed over is dropped once. -/
def Balanced (s s' : State n) : Prop := ∃ fences, s'.got = s.got ++ fences ∧ s'.dropped = s.dropped ++ fences

/-- What shows the framebuffer after the flip. -/
def shownDisplay (sou : Sou.Unit) (ld : Sou.Display) : Sou.Display :=
  if sou.isImplicit then { ld with implicitFb := some vfb.base } else ld

/-- The flip is done. -/
structure Done (event : EventId) (s s' : State n) : Prop where
  fb : s'.unit = Function.update s.unit i (Sou.flipped (s.unit i) vfb.base)
  implicit : s'.souPriv = s.souPriv.map (shownDisplay vfb (s.unit i))
  queued : s'.queued.Perm (event :: s.queued)

/-- The flip is not done at all. -/
structure Undone (s s' : State n) : Prop where
  fb : s'.unit = s.unit
  implicit : s'.souPriv = s.souPriv
  queued : s'.queued = s.queued

/-- The page flip is done or not done. -/
def Atomic (event : Option EventId) (s : State n) : Prop :=
  ∃ e ret s', event = some e ∧ vmwDuPageFlip env i vfb event s = some (ret, s') ∧
    (ret = 0 ∧ Done i vfb e s s' ∨ ret < 0 ∧ Undone s s') ∧ Balanced s s'

/-- The units with the framebuffer on the one that is flipped. -/
def flippedDisplay (s : State n) : Display := (s.setFb i (some vfb.base)).display

/-- The submissions for the units that the framebuffer hits. -/
def submissions (s : State n) : List Commands :=
  if vfb.dmabuf then (dmabufBlits vfb [norect vfb.surface] (flippedDisplay i vfb s)).map .blitGmrfb
  else ((Blit.doSurfaceDirtySou (flippedDisplay i vfb s) vfb.surface [norect vfb.surface]).getD []).map .blitSurface

/-- Every step of the dirty update goes well. -/
structure Updates (s : State n) : Prop where
  allocated : if vfb.dmabuf then env.define = true ∧ env.blits = true else env.tmp = true ∧ env.cmd = true
  described : vfb.dmabuf = true →
    ∃ fence, env.vmwExecbufProcess (.defineGmrfb (Gmrfb.doDmabufDefineGmrfb vfb.buffer)) = .ok fence
  submitted : ∀ cmds ∈ submissions i vfb s, ∃ fence, env.vmwExecbufProcess cmds = .ok fence

/-- The last submission gives the fence. -/
def LastFence (s : State n) (fence : FenceId) : Prop :=
  ∃ cmds ∈ (submissions i vfb s).getLast?, env.vmwExecbufProcess cmds = .ok (some fence)

/-- Every step before the event goes well. -/
structure Reaches (s : State n) : Prop where
  flippable : ∃ ld, s.souPriv = some ld ∧ Sou.vmwKmsScreenObjectFlippable ld (s.unit i) = true
  updates : Updates env i vfb s
  fenced : ∃ fence, LastFence env i vfb s fence

/-- The flip has nothing to change. -/
structure Shown (s : State n) : Prop where
  fb : (s.unit i).crtc.fb = some vfb.base
  implicit : (s.unit i).isImplicit = true → ∀ ld, s.souPriv = some ld → ld.implicitFb = some vfb.base

end Atomic

section Refs

variable {n : Nat} {env : Env} {vfb : VmwFramebuffer} {fence : Option FenceId} {fences : List FenceId} {s : State n}

/-- The state in which `fences` were handed over and dropped, and `fence` was only handed over. -/
def State.after (s : State n) (fences : List FenceId) (fence : Option FenceId) : State n :=
  { s with got := s.got ++ (fences ++ fence.toList), dropped := s.dropped ++ fences }

theorem after_nil (s : State n) : s.after [] none = s := by
  unfold State.after
  rw [Option.toList_none, List.append_nil, List.append_nil, List.append_nil]

theorem unreference_after :
    vmwFenceObjUnreference fence (s.after fences fence) = (none, s.after (fences ++ fence.toList) none) := by
  unfold vmwFenceObjUnreference State.after
  cases fence with
  | none =>
    dsimp only
    rw [Option.toList_none, List.append_nil, List.append_nil]
  | some f =>
    dsimp only
    rw [Option.toList_none, Option.toList_some, List.append_nil, List.append_assoc]

theorem submit_of_error {cmds : Commands} {e : Errno} (h : env.vmwExecbufProcess cmds = .error e) :
    submit env cmds fence (s.after fences fence) = (some e, none, s.after (fences ++ fence.toList) none) := by
  unfold submit
  rw [unreference_after, h]

theorem submit_of_ok {cmds : Commands} {fence' : Option FenceId} (h : env.vmwExecbufProcess cmds = .ok fence') :
    submit env cmds fence (s.after fences fence) = (none, fence', s.after (fences ++ fence.toList) fence') := by
  unfold submit
  rw [unreference_after, h]
  cases fence' with
  | none => rfl
  | some f =>
    unfold State.after
    dsimp only
    rw [Option.toList_none, Option.toList_some, List.append_nil, List.append_assoc]

/-- A loop that goes well leaves what the last submission gave. -/
theorem submitAll_of_ok (fence : Option FenceId) (fences : List FenceId) (s : State n) {cmds : List Commands}
    (h : ∀ c ∈ cmds, ∃ fence, env.vmwExecbufProcess c = .ok fence) :
    ∃ fence' fences', submitAll env cmds fence (s.after fences fence) = (none, fence', s.after fences' fence') ∧
      (∀ c ∈ cmds.getLast?, env.vmwExecbufProcess c = .ok fence') ∧ (cmds = [] → fence' = fence) := by
  induction cmds generalizing fence fences with
  | nil => exact ⟨fence, fences, rfl, fun c hc => absurd hc (Option.not_mem_none c), fun _ => rfl⟩
  | cons c cmds ih =>
    obtain ⟨fence₁, hc⟩ := h c List.mem_cons_self
    obtain ⟨fence', fences', hall, hlast, hnil⟩ :=
      ih fence₁ (fences ++ fence.toList) fun c hc => h c (List.mem_cons_of_mem _ hc)
    refine ⟨fence', fences', ?_, ?_, fun h => absurd h (List.cons_ne_nil c cmds)⟩
    · unfold submitAll
      rw [submit_of_ok hc]
      exact hall
    · intro d hd
      cases cmds with
      | nil =>
        obtain rfl : c = d := Option.some.inj hd
        rw [hnil rfl]
        exact hc
      | cons c' cmds =>
        rw [List.getLast?_cons_cons] at hd
        exact hlast d hd

/-- A loop that stops has dropped what it was given. -/
theorem submitAll_of_error (fence : Option FenceId) (fences : List FenceId) (s : State n) {cmds : List Commands}
    (h : ¬ ∀ c ∈ cmds, ∃ fence, env.vmwExecbufProcess c = .ok fence) :
    ∃ e fences', submitAll env cmds fence (s.after fences fence) = (some e, none, s.after fences' none) := by
  induction cmds generalizing fence fences with
  | nil => exact absurd (List.forall_mem_nil _) h
  | cons c cmds ih =>
    unfold submitAll
    cases hc : env.vmwExecbufProcess c with
    | error e =>
      rw [submit_of_error hc]
      exact ⟨e, _, rfl⟩
    | ok fence₁ =>
      rw [submit_of_ok hc]
      apply ih
      intro hall
      exact h (List.forall_mem_cons.mpr ⟨⟨fence₁, hc⟩, hall⟩)

end Refs

section Dirty

variable {n : Nat} {env : Env} {i : Fin n} {vfb : VmwFramebuffer} {s : State n}

/-- A dirty update of the unit goes well and gives the last fence, or it fails and gives none. -/
def Ended (env : Env) (i : Fin n) (vfb : VmwFramebuffer) (s : State n)
    (r : Option Errno × Option FenceId × State n) : Prop :=
  (Updates env i vfb s ∧ ∃ fence fences, r = (none, fence, (s.setFb i (some vfb.base)).after fences fence) ∧
      ∀ f, fence = some f ↔ LastFence env i vfb s f) ∨
    ¬ Updates env i vfb s ∧ ∃ e fences, r = (some e, none, (s.setFb i (some vfb.base)).after fences none)

theorem Ended.refused (h : ¬ Updates env i vfb s) (e : Errno) :
    Ended env i vfb s (some e, none, s.setFb i (some vfb.base)) := by
  right
  refine ⟨h, e, [], ?_⟩
  rw [after_nil]

theorem Ended.submitted
    (h : Updates env i vfb s ↔ ∀ cmds ∈ submissions i vfb s, ∃ fence, env.vmwExecbufProcess cmds = .ok fence) :
    Ended env i vfb s (submitAll env (submissions i vfb s) none (s.setFb i (some vfb.base))) := by
  by_cases hupdates : Updates env i vfb s
  · obtain ⟨fence, fences, hall, hlast, hnil⟩ :=
      submitAll_of_ok none [] (s.setFb i (some vfb.base)) (h.mp hupdates)
    rw [after_nil] at hall
    refine .inl ⟨hupdates, fence, fences, hall, fun f => ?_⟩
    unfold LastFence
    cases hget : (submissions i vfb s).getLast? with
    | none =>
      rw [hnil (List.getLast?_eq_none_iff.mp hget)]
      exact iff_of_false (Option.some_ne_none f).symm fun ⟨c, hc, _⟩ => absurd hc (Option.not_mem_none c)
    | some c =>
      have hc := hlast c hget
      constructor
      · rintro rfl
        exact ⟨c, rfl, hc⟩
      · rintro ⟨d, hd, hf⟩
        obtain rfl : c = d := Option.some.inj hd
        exact Except.ok.inj (hc.symm.trans hf)
  · obtain ⟨e, fences, hall⟩ :=
      submitAll_of_error none [] (s.setFb i (some vfb.base)) (mt h.mpr hupdates)
    rw [after_nil] at hall
    exact .inr ⟨hupdates, e, fences, hall⟩

theorem doDmabufDefineGmrfb_eq_none_iff :
    doDmabufDefineGmrfb env vfb = none ↔ env.define = true ∧
      ∃ fence, env.vmwExecbufProcess (.defineGmrfb (Gmrfb.doDmabufDefineGmrfb vfb.buffer)) = .ok fence := by
  unfold doDmabufDefineGmrfb
  cases env.define with
  | false => exact iff_of_false (Option.some_ne_none _) fun h => Bool.noConfusion h.1
  | true =>
    rw [if_neg (not_not.mpr rfl)]
    cases env.vmwExecbufProcess (.defineGmrfb (Gmrfb.doDmabufDefineGmrfb vfb.buffer)) with
    | error e =>
      refine iff_of_false (Option.some_ne_none e) ?_
      rintro ⟨-, fence, h⟩
      cases h
    | ok fence => exact iff_of_true rfl ⟨rfl, fence, rfl⟩

theorem doDmabufDirtySou_ended (hdmabuf : vfb.dmabuf = true) :
    Ended env i vfb s (doDmabufDirtySou env vfb [norect vfb.surface] none (s.setFb i (some vfb.base))) := by
  have hsubs : (dmabufBlits vfb [norect vfb.surface] (s.setFb i (some vfb.base)).display).map .blitGmrfb =
      submissions i vfb s := (if_pos hdmabuf).symm
  have halloc : Updates env i vfb s → env.define = true ∧ env.blits = true := by
    intro h
    have h := h.allocated
    rw [if_pos hdmabuf] at h
    exact h
  unfold doDmabufDirtySou
  rw [hsubs]
  cases hdefine : doDmabufDefineGmrfb env vfb with
  | some e =>
    apply Ended.refused
    intro h
    rw [doDmabufDefineGmrfb_eq_none_iff.mpr ⟨(halloc h).1, h.described hdmabuf⟩] at hdefine
    cases hdefine
  | none =>
    obtain ⟨hmem, hok⟩ := doDmabufDefineGmrfb_eq_none_iff.mp hdefine
    dsimp only
    cases hblits : env.blits with
    | false =>
      rw [if_pos Bool.false_ne_true]
      apply Ended.refused
      intro h
      rw [hblits] at halloc
      exact Bool.noConfusion (halloc h).2
    | true =>
      rw [if_neg (not_not.mpr rfl)]
      apply Ended.submitted
      refine ⟨Updates.submitted, fun hall => ⟨?_, fun _ => hok, hall⟩⟩
      rw [if_pos hdmabuf]
      exact ⟨hmem, hblits⟩

theorem doSurfaceDirtySou_ended (hdmabuf : vfb.dmabuf = false) :
    ∃ r, doSurfaceDirtySou env vfb [norect vfb.surface] none (s.setFb i (some vfb.base)) = some r ∧
      Ended env i vfb s r := by
  have hsurface : ¬ vfb.dmabuf = true := Bool.eq_false_iff.mp hdmabuf
  obtain ⟨cmds, hcmds⟩ : ∃ cmds, Blit.doSurfaceDirtySou (s.setFb i (some vfb.base)).display vfb.surface
      [norect vfb.surface] = some cmds := ⟨_, rfl⟩
  have hsubs : cmds.map .blitSurface = submissions i vfb s := by
    unfold submissions flippedDisplay
    rw [if_neg hsurface, hcmds]
    rfl
  have halloc : Updates env i vfb s → env.tmp = true ∧ env.cmd = true := by
    intro h
    have h := h.allocated
    rw [if_neg hsurface] at h
    exact h
  unfold doSurfaceDirtySou
  rw [hcmds, Option.map_some, hsubs]
  refine ⟨_, rfl, ?_⟩
  cases htmp : env.tmp with
  | false =>
    rw [if_pos Bool.false_ne_true]
    apply Ended.refused
    intro h
    rw [htmp] at halloc
    exact Bool.noConfusion (halloc h).1
  | true =>
    rw [if_neg (not_not.mpr rfl)]
    cases hcmd : env.cmd with
    | false =>
      rw [if_pos Bool.false_ne_true]
      apply Ended.refused
      intro h
      rw [hcmd] at halloc
      exact Bool.noConfusion (halloc h).2
    | true =>
      rw [if_neg (not_not.mpr rfl)]
      apply Ended.submitted
      refine ⟨Updates.submitted, fun hall => ⟨?_, fun h => absurd h hsurface, hall⟩⟩
      rw [if_neg hsurface]
      exact ⟨htmp, hcmd⟩

theorem dirtySou_ended (env : Env) (i : Fin n) (vfb : VmwFramebuffer) (s : State n) :
    ∃ r, dirtySou env vfb [norect vfb.surface] none (s.setFb i (some vfb.base)) = some r ∧ Ended env i vfb s r := by
  unfold dirtySou
  cases hdmabuf : vfb.dmabuf with
  | true => exact ⟨_, rfl, doDmabufDirtySou_ended hdmabuf⟩
  | false => exact doSurfaceDirtySou_ended hdmabuf

end Dirty

section Flip

variable {n : Nat} {env : Env} {i : Fin n} {vfb : VmwFramebuffer} {s : State n} {fence : FenceId} {fences : List FenceId}
  {event : EventId}

theorem setFb_self (s : State n) (i : Fin n) : s.setFb i (s.unit i).crtc.fb = s := by
  unfold State.setFb
  rw [Function.update_eq_self]

/-- The framebuffer that is put back is the one that was there. -/
theorem setFb_after (s : State n) (i : Fin n) (fb : Option Sou.Fb) (fences : List FenceId) :
    ((s.setFb i fb).after fences none).setFb i (s.unit i).crtc.fb = s.after fences none := by
  unfold State.setFb State.after
  dsimp only
  rw [Function.update_self, Function.update_idem, Function.update_eq_self]

/-- What is shown after a flip. -/
def committed (i : Fin n) (vfb : VmwFramebuffer) (s : State n) : State n :=
  { s.setFb i (some vfb.base) with souPriv := s.souPriv.map (shownDisplay vfb (s.unit i)) }

/-- The flip drops its reference whether or not the event was queued. -/
theorem queue_after (env : Env) (fence : FenceId) (event : EventId) (fences : List FenceId) (s : State n) :
    (vmwEventFenceActionQueue env fence event (s.after fences (some fence))).1 =
        (vmwEventFenceActionQueue env fence event s).1 ∧
      (vmwFenceObjUnreference (some fence)
          (vmwEventFenceActionQueue env fence event (s.after fences (some fence))).2).2 =
        (vmwEventFenceActionQueue env fence event s).2.after (fences ++ [fence]) none := by
  unfold vmwEventFenceActionQueue
  cases env.eaction with
  | false =>
    refine ⟨rfl, ?_⟩
    rw [if_pos Bool.false_ne_true, if_pos Bool.false_ne_true]
    exact congrArg Prod.snd unreference_after
  | true =>
    rw [if_neg (not_not.mpr rfl), if_neg (not_not.mpr rfl)]
    refine ⟨rfl, ?_⟩
    cases env.passed with
    | false =>
      exact congrArg Prod.snd
        (unreference_after (s := { s with fenceEvents := s.fenceEvents ++ [⟨event, fence⟩] }))
    | true =>
      exact congrArg Prod.snd (unreference_after
        (s := vmwEventFenceActionSeqPassed ⟨event, fence⟩ { s with fenceEvents := s.fenceEvents ++ [⟨event, fence⟩] }))

theorem queue_souPriv (env : Env) (fence : FenceId) (event : EventId) (s : State n) (souPriv : Option Sou.Display) :
    vmwEventFenceActionQueue env fence event { s with souPriv := souPriv } =
      ((vmwEventFenceActionQueue env fence event s).1,
        { (vmwEventFenceActionQueue env fence event s).2 with souPriv := souPriv }) := by
  unfold vmwEventFenceActionQueue
  cases env.eaction with
  | false => rfl
  | true =>
    cases env.passed with
    | false => rfl
    | true => rfl

/-- Only the lists of events change. -/
structure SameButEvents (s s' : State n) : Prop where
  souPriv : s'.souPriv = s.souPriv
  unit : s'.unit = s.unit
  got : s'.got = s.got
  dropped : s'.dropped = s.dropped

theorem queue_same (env : Env) (fence : FenceId) (event : EventId) (s : State n) :
    SameButEvents s (vmwEventFenceActionQueue env fence event s).2 := by
  unfold vmwEventFenceActionQueue
  cases env.eaction with
  | false => exact ⟨rfl, rfl, rfl, rfl⟩
  | true =>
    cases env.passed with
    | false => exact ⟨rfl, rfl, rfl, rfl⟩
    | true => exact ⟨rfl, rfl, rfl, rfl⟩

/-- The event of a flip that gets that far. -/
theorem vmwDuPageFlip_of_reaches (event : EventId) (h : Reaches env i vfb s) :
    ∃ fence fences, vmwDuPageFlip env i vfb (some event) s =
      some (errnoVal (vmwEventFenceActionQueue env fence event (committed i vfb s)).1,
        (vmwEventFenceActionQueue env fence event (committed i vfb s)).2.after fences none) := by
  obtain ⟨ld, hld, hflip⟩ := h.flippable
  obtain ⟨f, hf⟩ := h.fenced
  obtain ⟨r, hr, hended⟩ := dirtySou_ended env i vfb s
  rcases hended with ⟨-, fence, fences, rfl, hlast⟩ | ⟨hnot, -⟩
  · obtain rfl : fence = some f := (hlast f).mpr hf
    refine ⟨f, fences ++ [f], ?_⟩
    obtain ⟨hret, hdropped⟩ := queue_after env f event fences (s.setFb i (some vfb.base))
    have hunit : ((vmwEventFenceActionQueue env f event (s.setFb i (some vfb.base))).2.after (fences ++ [f]) none).unit i =
        Sou.flipped (s.unit i) vfb.base := by
      unfold State.after
      dsimp only
      rw [(queue_same env f event (s.setFb i (some vfb.base))).unit]
      exact Function.update_self ..
    unfold vmwDuPageFlip committed
    rw [queue_souPriv, Option.bind_some, hld]
    dsimp only
    rw [hflip, if_neg (not_not.mpr rfl), hr, Option.bind_some]
    dsimp only
    rw [hret, hdropped, hunit, Option.map_some]
    unfold shownDisplay Sou.vmwKmsScreenObjectUpdateImplicitFb
    have hsame : (Sou.flipped (s.unit i) vfb.base).isImplicit = (s.unit i).isImplicit := rfl
    rw [hsame]
    cases (s.unit i).isImplicit with
    | true =>
      rw [if_pos rfl, if_neg (not_not.mpr rfl), if_pos rfl]
      rfl
    | false =>
      rw [if_neg Bool.false_ne_true, if_neg Bool.false_ne_true, ← hld]
      have hkept := congrArg Prod.snd (queue_souPriv env f event (s.setFb i (some vfb.base)) s.souPriv)
      exact congrArg (fun t => some (_, State.after t (fences ++ [f]) none)) hkept
  · exact absurd h.updates hnot

/-- A flip that does not get to the event fails, and puts the framebuffer back. -/
theorem vmwDuPageFlip_of_not_reaches (event : EventId) (h : ¬ Reaches env i vfb s) :
    ∃ ret fences, vmwDuPageFlip env i vfb (some event) s = some (ret, s.after fences none) ∧ ret < 0 := by
  have hrefused : ∀ e : Int, e < 0 →
      ∃ ret fences, some (e, s) = some (ret, s.after fences none) ∧ ret < 0 := by
    intro e he
    refine ⟨e, [], ?_, he⟩
    rw [after_nil]
  unfold vmwDuPageFlip
  rw [Option.bind_some]
  cases hld : s.souPriv with
  | none => exact hrefused (-Overlay.ENOSYS) (by decide)
  | some ld =>
    dsimp only
    cases hflip : Sou.vmwKmsScreenObjectFlippable ld (s.unit i) with
    | false =>
      rw [if_pos Bool.false_ne_true]
      exact hrefused (-EINVAL) (by decide)
    | true =>
      rw [if_neg (not_not.mpr rfl)]
      obtain ⟨r, hr, hended⟩ := dirtySou_ended env i vfb s
      rw [hr, Option.bind_some]
      rcases hended with ⟨hupdates, fence, fences, rfl, hlast⟩ | ⟨-, e, fences, rfl⟩
      · cases fence with
        | none =>
          dsimp only
          rw [setFb_after]
          exact ⟨-EINVAL, fences, rfl, by decide⟩
        | some f => exact absurd ⟨⟨ld, hld, hflip⟩, hupdates, f, (hlast f).mp rfl⟩ h
      · dsimp only
        rw [setFb_after]
        exact ⟨e.val, fences, rfl, e.neg⟩

theorem queue_of_failed (h : env.eaction = false) (s : State n) :
    vmwEventFenceActionQueue env fence event s = (some .nomem, s) := by
  unfold vmwEventFenceActionQueue
  rw [h, if_pos Bool.false_ne_true]

/-- An event that is queued is in one of the two lists, once more than before. -/
theorem queue_of_allocated (fence : FenceId) (event : EventId) (h : env.eaction = true) (s : State n) :
    (vmwEventFenceActionQueue env fence event s).1 = none ∧
      (vmwEventFenceActionQueue env fence event s).2.queued.Perm (event :: s.queued) := by
  unfold vmwEventFenceActionQueue
  rw [h, if_neg (not_not.mpr rfl)]
  refine ⟨rfl, ?_⟩
  unfold State.queued
  dsimp only
  cases env.passed with
  | false =>
    rw [if_neg Bool.false_ne_true]
    dsimp only
    rw [List.map_append, List.append_assoc]
    exact List.perm_middle
  | true =>
    rw [if_pos rfl]
    unfold vmwEventFenceActionSeqPassed
    dsimp only
    have hmem : (⟨event, fence⟩ : EventFenceAction) ∈ s.fenceEvents ++ [⟨event, fence⟩] :=
      List.mem_append_right _ (List.mem_singleton_self _)
    have herase : ((s.fenceEvents ++ [(⟨event, fence⟩ : EventFenceAction)]).erase ⟨event, fence⟩).Perm s.fenceEvents :=
      List.Perm.cons_inv ((List.perm_cons_erase hmem).symm.trans (List.perm_append_singleton _ _))
    rw [← List.append_assoc]
    exact (List.perm_append_singleton _ _).trans (((herase.map _).append_right _).cons _)

end Flip

section Atomic

variable {n : Nat} {env : Env} {i : Fin n} {vfb : VmwFramebuffer} {s : State n} {event : EventId}

theorem balanced_after (s : State n) {t : State n} (hgot : t.got = s.got) (hdropped : t.dropped = s.dropped)
    (fences : List FenceId) : Balanced s (t.after fences none) := by
  refine ⟨fences, ?_, ?_⟩
  · unfold State.after
    rw [hgot, Option.toList_none, List.append_nil]
  · unfold State.after
    rw [hdropped]

theorem undone_committed_iff {ld : Sou.Display} (hld : s.souPriv = some ld) (fences : List FenceId) :
    Undone s ((committed i vfb s).after fences none) ↔ Shown i vfb s := by
  constructor
  · intro h
    constructor
    · rw [← congrFun h.fb i]
      unfold committed State.after State.setFb
      dsimp only
      rw [Function.update_self]
    · intro himplicit ld' hld'
      have hsame : some (shownDisplay vfb (s.unit i) ld) = some ld := by
        have h := h.implicit
        unfold committed State.after at h
        dsimp only at h
        rw [hld] at h
        exact h
      unfold shownDisplay at hsame
      rw [if_pos himplicit] at hsame
      obtain rfl : ld = ld' := Option.some.inj (hld.symm.trans hld')
      rw [← Option.some.inj hsame]
  · intro h
    have hset : s.setFb i (some vfb.base) = s := h.fb ▸ setFb_self s i
    refine ⟨?_, ?_, rfl⟩
    · change (s.setFb i (some vfb.base)).unit = s.unit
      rw [hset]
    · change s.souPriv.map (shownDisplay vfb (s.unit i)) = s.souPriv
      rw [hld, Option.map_some]
      unfold shownDisplay
      split
      case isTrue himplicit => rw [← h.implicit himplicit ld hld]
      case isFalse => rfl

/-- A page flip is atomic if and only if there is an event and it is queued whenever the flip gets that far, unless
the framebuffer is shown already. -/
theorem page_flip_atomic_iff (env : Env) (i : Fin n) (vfb : VmwFramebuffer) (event : Option EventId) (s : State n) :
    Atomic env i vfb event s ↔
      event.isSome = true ∧ (Reaches env i vfb s → env.eaction = true ∨ Shown i vfb s) := by
  cases event with
  | none => exact iff_of_false (fun ⟨e, _, _, he, _⟩ => Option.some_ne_none e he.symm) fun h => Bool.noConfusion h.1
  | some e =>
    by_cases hreach : Reaches env i vfb s
    · obtain ⟨fence, fences, heq⟩ := vmwDuPageFlip_of_reaches e hreach
      have hsame := queue_same env fence e (committed i vfb s)
      have hbalanced := balanced_after s hsame.got hsame.dropped fences
      cases heaction : env.eaction with
      | true =>
        refine iff_of_true ?_ ⟨rfl, fun _ => .inl rfl⟩
        obtain ⟨hret, hqueued⟩ := queue_of_allocated fence e heaction (committed i vfb s)
        rw [hret] at heq
        exact ⟨e, 0, _, rfl, heq, .inl ⟨rfl, hsame.unit, hsame.souPriv, hqueued⟩, hbalanced⟩
      | false =>
        rw [queue_of_failed heaction] at heq hbalanced
        obtain ⟨ld, hld, -⟩ := hreach.flippable
        constructor
        · rintro ⟨e', ret, s', -, heq', hends, -⟩
          obtain ⟨rfl, rfl⟩ := Prod.mk.inj (Option.some.inj (heq.symm.trans heq'))
          refine ⟨rfl, fun _ => .inr ?_⟩
          rcases hends with ⟨hzero, -⟩ | ⟨-, hundone⟩
          · exact absurd hzero (errnoVal_ne_zero .nomem)
          · exact (undone_committed_iff hld fences).mp hundone
        · rintro ⟨-, h⟩
          rcases h hreach with hfalse | hshown
          · exact Bool.noConfusion hfalse
          · exact ⟨e, _, _, rfl, heq, .inr ⟨Errno.nomem.neg, (undone_committed_iff hld fences).mpr hshown⟩, hbalanced⟩
    · refine iff_of_true ?_ ⟨rfl, fun h => absurd h hreach⟩
      obtain ⟨ret, fences, heq, hneg⟩ := vmwDuPageFlip_of_not_reaches e hreach
      exact ⟨e, ret, _, rfl, heq, .inr ⟨hneg, rfl, rfl, rfl⟩, balanced_after s rfl rfl fences⟩

end Atomic

section Refine

variable {n : Nat} {i : Fin n} {s : State n} {ld : Sou.Display}

theorem souFlip_fenced {vfb : VmwFramebuffer} (sou : Sou.Unit) (event : Option Errno)
    (hflip : Sou.vmwKmsScreenObjectFlippable ld sou = true) :
    Sou.vmwDuPageFlip ld sou ⟨none, true, event⟩ vfb.base =
      some (errnoVal event, shownDisplay vfb sou ld, Sou.flipped sou vfb.base) := by
  unfold Sou.vmwDuPageFlip
  rw [if_neg (not_not.mpr hflip)]
  obtain ⟨crtc, isImplicit⟩ := sou
  cases isImplicit with
  | true => rfl
  | false => rfl

/-- To the screen object units a flip is one of theirs. -/
theorem vmwDuPageFlip_refines (env : Env) (vfb : VmwFramebuffer) (event : EventId) (hld : s.souPriv = some ld) :
    ∃ flip ret ld' sou s', vmwDuPageFlip env i vfb (some event) s = some (ret, s') ∧
      Sou.vmwDuPageFlip ld (s.unit i) flip vfb.base = some (ret, ld', sou) ∧ s'.souPriv = some ld' ∧
        s'.unit = Function.update s.unit i sou := by
  by_cases hflip : Sou.vmwKmsScreenObjectFlippable ld (s.unit i) = true
  · by_cases hreach : Reaches env i vfb s
    · obtain ⟨fence, fences, heq⟩ := vmwDuPageFlip_of_reaches event hreach
      have hsame := queue_same env fence event (committed i vfb s)
      refine ⟨⟨none, true, _⟩, _, shownDisplay vfb (s.unit i) ld, Sou.flipped (s.unit i) vfb.base, _, heq,
        souFlip_fenced (s.unit i) _ hflip, ?_, hsame.unit⟩
      refine hsame.souPriv.trans ?_
      unfold committed
      rw [hld, Option.map_some]
    · obtain ⟨ret, fences, heq, hneg⟩ := vmwDuPageFlip_of_not_reaches event hreach
      refine ⟨⟨some ⟨ret, hneg⟩, false, none⟩, ret, ld, s.unit i, _, heq, ?_, hld, ?_⟩
      · unfold Sou.vmwDuPageFlip
        rw [if_neg (not_not.mpr hflip)]
      · exact (Function.update_eq_self i s.unit).symm
  · refine ⟨⟨none, false, none⟩, -EINVAL, ld, s.unit i, s, ?_, ?_, hld, (Function.update_eq_self i s.unit).symm⟩
    · unfold vmwDuPageFlip
      rw [Option.bind_some, hld]
      exact if_pos hflip
    · unfold Sou.vmwDuPageFlip
      exact if_pos hflip

/-- A flip keeps what the screen object units keep. -/
theorem vmwDuPageFlip_keeps (env : Env) (vfb : VmwFramebuffer) (event : EventId) (hld : s.souPriv = some ld)
    (h : Sou.Inv ⟨ld, s.unit⟩) (hfb : (s.unit i).crtc.fb.isSome = true) :
    ∃ ret ld' s', vmwDuPageFlip env i vfb (some event) s = some (ret, s') ∧ s'.souPriv = some ld' ∧
      Sou.Inv ⟨ld', s'.unit⟩ := by
  obtain ⟨flip, ret, ld', sou, s', heq, hsou, hld', hunit⟩ := vmwDuPageFlip_refines env vfb event hld
  refine ⟨ret, ld', s', heq, hld', ?_⟩
  rw [hunit]
  exact h.pageFlip hfb hsou

end Refine

/-- A unit that shows a framebuffer on a screen of its size. -/
def showing (fb : Sou.Fb) : Sou.Unit where
  crtc := ⟨some fb, ⟨fb.width, fb.height⟩, 0, 0, true⟩
  isImplicit := true
  guiX := 0
  guiY := 0
  bufferSize := fb.width * fb.height * 4
  buffer := some (fb.width * fb.height * 4)
  defined := true
  activeImplicit := true
  screen := .defined ⟨fb.width, fb.height, 0, 0, fb.width * 4⟩

/-- The first unit shows a framebuffer, and the others are off. -/
def oneShown (fb : Sou.Fb) : State 8 where
  souPriv := some ⟨1, some fb⟩
  unit := fun i => if i.val = 0 then showing fb else Sou.vmwSouInit
  got := []
  dropped := []
  fenceEvents := []
  eventList := []

/-- Only the event of the flip cannot be allocated. -/
def noEaction : Env := ⟨true, true, true, true, fun _ => .ok (some 1), false, false⟩

theorem small_le : (64 : UInt32) ≤ 8192 := by decide

def surfaceFb : VmwFramebuffer := ⟨2, false, 3, 64, 64, 32, 24, 256, small_le, small_le⟩

/-- The flip fails with the new framebuffer shown. -/
theorem page_flip_torn :
    ¬ ∀ (env : Env) (i : Fin 8) (vfb : VmwFramebuffer) (event : EventId) (s : State 8),
      Atomic env i vfb (some event) s := by
  intro h
  have hrun : (vmwDuPageFlip noEaction 0 surfaceFb (some 0) (oneShown ⟨1, 64, 64⟩)).map
      (fun r => (r.1, (r.2.unit 0).crtc.fb)) = some (-ENOMEM, some surfaceFb.base) := by
    decide
  obtain ⟨_, ret, s', -, heq, hends, -⟩ := h noEaction 0 surfaceFb 0 (oneShown ⟨1, 64, 64⟩)
  rw [heq] at hrun
  obtain ⟨hret, hfb⟩ := Prod.mk.inj (Option.some.inj hrun)
  dsimp only at hret hfb
  rcases hends with ⟨hzero, -⟩ | ⟨-, hundone⟩
  · rw [hret] at hzero
    exact absurd hzero (by decide)
  · rw [hundone.fb] at hfb
    exact absurd hfb (by decide)

end Vmwgfx.Kms.PageFlip
