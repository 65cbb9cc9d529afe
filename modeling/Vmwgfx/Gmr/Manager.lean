import Mathlib.Algebra.BigOperators.Group.List.Basic
import Vmwgfx.Kernel
import Vmwgfx.Lib.Machine
import Vmwgfx.Lib.Uint

/-! The GMR and MOB id manager of `vmwgfx_gmrid_manager.c`, and the calls that are inside it at a
point where the lock is dropped. -/

namespace Vmwgfx.Gmrid

open Lib

def EAGAIN : Int := 11

/-- `struct vmwgfx_gmrid_man`; `gmrIda` holds the ids that `gmr_ida` has given out. -/
structure GmridMan where
  gmrIda : List Nat
  maxGmrIds : Nat
  maxGmrPages : Nat
  usedGmrPages : Nat
  deriving DecidableEq

/-- A `ttm_mem_reg` whose `mm_node` is set. -/
structure Node where
  start : Nat
  numPages : Nat
  deriving DecidableEq

/-- The points of `vmw_gmrid_man_get_node` without the lock. -/
inductive Pc
  | idaPreGet | idaGetNew | outErr
  deriving DecidableEq

/-- A call of `vmw_gmrid_man_get_node` that is at such a point. -/
structure Call where
  numPages : Nat
  pc : Pc
  deriving DecidableEq

/-- How a locked section ends. -/
inductive Exit
  | unlocked (pc : Pc)
  | returned (ret : Int) (mmNode : Option Node)
  deriving DecidableEq

/-- The answers of `ida_get_new`. -/
inductive IdaGetNew
  | given (id : Nat)
  | error (ret : Int)
  deriving DecidableEq

/-- An id that is not given out, or an error. -/
def IdaGetNew.Allowed (g : GmridMan) : IdaGetNew → Prop
  | .given id => id ∉ g.gmrIda
  | .error ret => ret < 0

instance (g : GmridMan) (r : IdaGetNew) : Decidable (r.Allowed g) :=
  match r with
  | .given id => inferInstanceAs (Decidable (id ∉ g.gmrIda))
  | .error ret => inferInstanceAs (Decidable (ret < 0))

section GetNode

variable (g : GmridMan) (numPages : Nat)

/-- `out_err_locked`. -/
def outErrLocked (ret : Int) : GmridMan × Exit :=
  ({ g with usedGmrPages := sub32 g.usedGmrPages numPages }, .returned ret none)

/-- `vmw_gmrid_man_get_node` up to the loop. -/
def getNodeCharge : GmridMan × Exit :=
  if 0 < g.maxGmrPages then
    let charged := { g with usedGmrPages := add32 g.usedGmrPages numPages }
    if charged.maxGmrPages < charged.usedGmrPages then outErrLocked charged numPages 0
    else (charged, .unlocked .idaPreGet)
  else (g, .unlocked .idaPreGet)

/-- The first half of the loop's body; `pre` is what `ida_pre_get` answers. -/
def getNodePreGet (pre : Bool) : Pc := if pre then .idaGetNew else .outErr

/-- The second half of the loop's body and what follows the loop. -/
def getNodeGetNew : IdaGetNew → GmridMan × Exit
  | .given id =>
    let g := { g with gmrIda := id :: g.gmrIda }
    if g.maxGmrIds ≤ id then outErrLocked { g with gmrIda := g.gmrIda.erase id } numPages 0
    else (g, .returned 0 (some ⟨id, numPages⟩))
  | .error ret => if ret = -EAGAIN then (g, .unlocked .idaPreGet) else outErrLocked g numPages ret

/-- `out_err`. -/
def getNodeOutErr : GmridMan × Exit := outErrLocked g numPages (-ENOMEM)

end GetNode

/-- `vmw_gmrid_man_put_node`. -/
def vmwGmridManPutNode (g : GmridMan) : Option Node → GmridMan
  | none => g
  | some mem =>
    { g with gmrIda := g.gmrIda.erase mem.start, usedGmrPages := sub32 g.usedGmrPages mem.numPages }

/-- The manager, the calls in progress and the live nodes. -/
structure State where
  man : GmridMan
  calls : List Call
  nodes : List Node
  deriving DecidableEq

/-- What `vmw_gmrid_man_init` sets up. -/
def start (maxGmrIds maxGmrPages : Nat) : State := ⟨⟨[], maxGmrIds, maxGmrPages, 0⟩, [], []⟩

inductive Action
  | getNode (numPages : Nat)
  | preGet (call : Call) (pre : Bool)
  | getNew (call : Call) (r : IdaGetNew)
  | outErr (call : Call)
  | putNode (mem : Option Node)
  deriving DecidableEq

/-- A call leaves a locked section. -/
def State.leave (s : State) (numPages : Nat) : GmridMan × Exit → State
  | (man, .unlocked pc) => { s with man, calls := ⟨numPages, pc⟩ :: s.calls }
  | (man, .returned _ none) => { s with man }
  | (man, .returned _ (some node)) => { s with man, nodes := node :: s.nodes }

def State.drop (s : State) (call : Call) : State := { s with calls := s.calls.erase call }

def step (s : State) : Action → Option State
  | .getNode numPages => some (s.leave numPages (getNodeCharge s.man numPages))
  | .preGet call pre =>
    if call ∈ s.calls ∧ call.pc = .idaPreGet then
      some { s with calls := { call with pc := getNodePreGet pre } :: s.calls.erase call }
    else none
  | .getNew call r =>
    if call ∈ s.calls ∧ call.pc = .idaGetNew ∧ r.Allowed s.man then
      some ((s.drop call).leave call.numPages (getNodeGetNew s.man call.numPages r))
    else none
  | .outErr call =>
    if call ∈ s.calls ∧ call.pc = .outErr then
      some ((s.drop call).leave call.numPages (getNodeOutErr s.man call.numPages))
    else none
  | .putNode none => some { s with man := vmwGmridManPutNode s.man none }
  | .putNode (some mem) =>
    if mem ∈ s.nodes then
      some { s with man := vmwGmridManPutNode s.man (some mem), nodes := s.nodes.erase mem }
    else none

def State.livePages (s : State) : Nat := (s.nodes.map Node.numPages).sum

def State.pendingPages (s : State) : Nat := (s.calls.map Call.numPages).sum

/-- What is to hold in every state of the manager. -/
structure Sound (s : State) : Prop where
  distinct : (s.nodes.map Node.start).Nodup
  below : ∀ node ∈ s.nodes, node.start < s.man.maxGmrIds
  used : s.man.usedGmrPages = s.livePages + s.pendingPages
  within : s.livePages ≤ s.man.maxGmrPages

/-- The pages that a call had charged which returns without a node. -/
def abandons (s : State) : Action → Option Nat
  | .getNode numPages => if (getNodeCharge s.man numPages).2 = .returned 0 none then some 0 else none
  | .getNew call r =>
    match (getNodeGetNew s.man call.numPages r).2 with
    | .returned _ none => some call.numPages
    | _ => none
  | .outErr call => some call.numPages
  | _ => none

/-- The call that returns without a node leaves the counter as it would be without it. -/
def Restores (s : State) (a : Action) (s' : State) : Prop :=
  ∀ n, abandons s a = some n → s'.man.usedGmrPages + n = s.man.usedGmrPages ∧ s'.nodes = s.nodes

/-- The counter does not wrap at a charge that passes the check. -/
def Fits (s : State) : Action → Prop
  | .getNode numPages =>
    add32 s.man.usedGmrPages numPages ≤ s.man.maxGmrPages → s.man.usedGmrPages + numPages < 2 ^ 32
  | _ => True

instance (s : State) (a : Action) : Decidable (Fits s a) :=
  match a with
  | .getNode numPages =>
    inferInstanceAs (Decidable (add32 s.man.usedGmrPages numPages ≤ s.man.maxGmrPages →
      s.man.usedGmrPages + numPages < 2 ^ 32))
  | .preGet _ _ | .getNew _ _ | .outErr _ | .putNode _ => .isTrue trivial

/-- The ids given out are those of the live nodes, and the counter is what is charged. -/
structure Inv (s : State) : Prop where
  perm : s.man.gmrIda.Perm (s.nodes.map Node.start)
  distinct : s.man.gmrIda.Nodup
  below : ∀ id ∈ s.man.gmrIda, id < s.man.maxGmrIds
  used : s.man.usedGmrPages = s.livePages + s.pendingPages
  within : s.man.usedGmrPages ≤ s.man.maxGmrPages
  limited : 0 < s.man.maxGmrPages
  limit_lt : s.man.maxGmrPages < 2 ^ 32

theorem Inv.init {maxGmrIds maxGmrPages : Nat} (h : 0 < maxGmrPages) (hlt : maxGmrPages < 2 ^ 32) :
    Inv (start maxGmrIds maxGmrPages) where
  perm := .refl _
  distinct := .nil
  below _ hid := absurd hid List.not_mem_nil
  used := rfl
  within := Nat.zero_le _
  limited := h
  limit_lt := hlt

theorem pendingPages_drop {s : State} {call : Call} (h : call ∈ s.calls) :
    call.numPages + (s.drop call).pendingPages = s.pendingPages :=
  List.sum_map_erase Call.numPages h

section Steps

variable {s : State} {call : Call}

theorem sub32_add32 {a b : Nat} (h : a < 2 ^ 32) : sub32 (add32 a b) b = a := by
  unfold sub32 add32
  omega

theorem getNodeCharge_over {g : GmridMan} {n : Nat} (h0 : 0 < g.maxGmrPages) (hlt : g.usedGmrPages < 2 ^ 32)
    (h : g.maxGmrPages < add32 g.usedGmrPages n) : getNodeCharge g n = (g, .returned 0 none) := by
  unfold getNodeCharge
  rw [if_pos h0, if_pos h]
  unfold outErrLocked
  rw [sub32_add32 hlt]

theorem getNodeCharge_within {g : GmridMan} {n : Nat} (h0 : 0 < g.maxGmrPages)
    (h : add32 g.usedGmrPages n ≤ g.maxGmrPages) :
    getNodeCharge g n = ({ g with usedGmrPages := add32 g.usedGmrPages n }, .unlocked .idaPreGet) := by
  unfold getNodeCharge
  rw [if_pos h0]
  exact if_neg (Nat.not_lt.mpr h)

theorem Inv.used_lt (h : Inv s) : s.man.usedGmrPages < 2 ^ 32 := Nat.lt_of_le_of_lt h.within h.limit_lt

theorem Inv.charge (h : Inv s) {n : Nat} (hfits : Fits s (.getNode n)) :
    Inv (s.leave n (getNodeCharge s.man n)) := by
  by_cases hle : add32 s.man.usedGmrPages n ≤ s.man.maxGmrPages
  · have hsum : add32 s.man.usedGmrPages n = s.man.usedGmrPages + n := add32_of_lt (hfits hle)
    rw [getNodeCharge_within h.limited hle]
    refine { h with used := ?_, within := hle }
    change add32 s.man.usedGmrPages n = s.livePages + (n + s.pendingPages)
    rw [hsum, h.used]
    omega
  · rw [getNodeCharge_over h.limited h.used_lt (Nat.lt_of_not_le hle)]
    exact { h with }

theorem Inv.move (h : Inv s) (hmem : call ∈ s.calls) (pc : Pc) :
    Inv ((s.drop call).leave call.numPages (s.man, .unlocked pc)) := by
  refine { h with used := ?_ }
  have hpending := pendingPages_drop hmem
  change s.man.usedGmrPages = s.livePages + (call.numPages + (s.drop call).pendingPages)
  rw [hpending]
  exact h.used

/-- The pages of a call in progress are in the counter. -/
theorem Inv.sub_pending (h : Inv s) (hmem : call ∈ s.calls) :
    sub32 s.man.usedGmrPages call.numPages = s.livePages + (s.drop call).pendingPages ∧
      call.numPages ≤ s.man.usedGmrPages := by
  have hpending := pendingPages_drop hmem
  have hused := h.used
  rw [← hpending] at hused
  have hle : call.numPages ≤ s.man.usedGmrPages := by omega
  rw [sub32_of_le hle h.used_lt]
  exact ⟨by omega, hle⟩

theorem Inv.giveBack (h : Inv s) (hmem : call ∈ s.calls) (ret : Int) :
    Inv ((s.drop call).leave call.numPages (outErrLocked s.man call.numPages ret)) := by
  obtain ⟨hsub, hle⟩ := h.sub_pending hmem
  refine { h with used := hsub, within := ?_ }
  change sub32 s.man.usedGmrPages call.numPages ≤ s.man.maxGmrPages
  rw [sub32_of_le hle h.used_lt]
  exact Nat.le_trans (Nat.sub_le _ _) h.within

theorem getNodeGetNew_beyond {g : GmridMan} {n id : Nat} (hid : g.maxGmrIds ≤ id) :
    getNodeGetNew g n (.given id) = outErrLocked g n 0 := by
  unfold getNodeGetNew
  dsimp only
  rw [if_pos hid, List.erase_cons_head]

theorem getNodeGetNew_below {g : GmridMan} {n id : Nat} (hid : id < g.maxGmrIds) :
    getNodeGetNew g n (.given id) = ({ g with gmrIda := id :: g.gmrIda }, .returned 0 (some ⟨id, n⟩)) :=
  if_neg (Nat.not_le.mpr hid)

theorem Inv.give (h : Inv s) (hmem : call ∈ s.calls) {id : Nat} (hnew : id ∉ s.man.gmrIda)
    (hid : id < s.man.maxGmrIds) :
    Inv ((s.drop call).leave call.numPages (getNodeGetNew s.man call.numPages (.given id))) := by
  rw [getNodeGetNew_below hid]
  refine { h with perm := h.perm.cons id, distinct := List.nodup_cons.mpr ⟨hnew, h.distinct⟩, below := ?_, used := ?_ }
  · intro id' hid'
    rcases List.mem_cons.mp hid' with rfl | hold
    · exact hid
    · exact h.below id' hold
  · have hpending := pendingPages_drop hmem
    change s.man.usedGmrPages = (call.numPages + s.livePages) + (s.drop call).pendingPages
    rw [h.used]
    omega

theorem Inv.getNew (h : Inv s) (hmem : call ∈ s.calls) {r : IdaGetNew} (hr : r.Allowed s.man) :
    Inv ((s.drop call).leave call.numPages (getNodeGetNew s.man call.numPages r)) := by
  cases r with
  | given id =>
    by_cases hid : s.man.maxGmrIds ≤ id
    · rw [getNodeGetNew_beyond hid]
      exact h.giveBack hmem 0
    · exact h.give hmem hr (Nat.lt_of_not_le hid)
  | error ret =>
    unfold getNodeGetNew
    dsimp only
    split
    case isTrue => exact h.move hmem .idaPreGet
    case isFalse => exact h.giveBack hmem ret

theorem Inv.put (h : Inv s) {mem : Node} (hmem : mem ∈ s.nodes) :
    Inv { s with man := vmwGmridManPutNode s.man (some mem), nodes := s.nodes.erase mem } := by
  have hlive : mem.numPages + ((s.nodes.erase mem).map Node.numPages).sum = s.livePages :=
    List.sum_map_erase Node.numPages hmem
  have hused := h.used
  have hle : mem.numPages ≤ s.man.usedGmrPages := by omega
  have hsub := sub32_of_le hle h.used_lt
  refine { h with perm := ?_, distinct := h.distinct.erase _, below := ?_, used := ?_, within := ?_ }
  · have hnodes := (List.perm_cons_erase hmem).map Node.start
    have hids := (h.perm.trans hnodes).erase mem.start
    rwa [List.map_cons, List.erase_cons_head] at hids
  · intro id hid
    exact h.below id (List.mem_of_mem_erase hid)
  · change sub32 s.man.usedGmrPages mem.numPages = ((s.nodes.erase mem).map Node.numPages).sum + s.pendingPages
    omega
  · change sub32 s.man.usedGmrPages mem.numPages ≤ s.man.maxGmrPages
    rw [hsub]
    exact Nat.le_trans (Nat.sub_le _ _) h.within

end Steps

theorem Inv.kept {s s' : State} {a : Action} (hfits : Fits s a) (hstep : step s a = some s') (h : Inv s) :
    Inv s' := by
  cases a with
  | getNode n =>
    cases hstep
    exact h.charge hfits
  | preGet call pre =>
    obtain ⟨⟨hmem, -⟩, heq⟩ := Option.ite_none_right_eq_some.mp hstep
    cases heq
    exact h.move hmem (getNodePreGet pre)
  | getNew call r =>
    obtain ⟨⟨hmem, -, hr⟩, heq⟩ := Option.ite_none_right_eq_some.mp hstep
    cases heq
    exact h.getNew hmem hr
  | outErr call =>
    obtain ⟨⟨hmem, -⟩, heq⟩ := Option.ite_none_right_eq_some.mp hstep
    cases heq
    exact h.giveBack hmem (-ENOMEM)
  | putNode mem =>
    cases mem with
    | none =>
      cases hstep
      exact h
    | some mem =>
      obtain ⟨hmem, heq⟩ := Option.ite_none_right_eq_some.mp hstep
      cases heq
      exact h.put hmem

theorem Inv.sound {s : State} (h : Inv s) : Sound s where
  distinct := h.perm.nodup_iff.mp h.distinct
  below node hnode := h.below _ (h.perm.mem_iff.mpr (List.mem_map_of_mem hnode))
  used := h.used
  within := by
    have hused := h.used
    have hwithin := h.within
    omega

section Restores

variable {s s' : State}

theorem Inv.restores_giveBack (h : Inv s) {call : Call} (hmem : call ∈ s.calls) (ret : Int) :
    ((s.drop call).leave call.numPages (outErrLocked s.man call.numPages ret)).man.usedGmrPages +
      call.numPages = s.man.usedGmrPages := by
  obtain ⟨-, hle⟩ := h.sub_pending hmem
  change sub32 s.man.usedGmrPages call.numPages + call.numPages = s.man.usedGmrPages
  rw [sub32_of_le hle h.used_lt]
  exact Nat.sub_add_cancel hle

theorem getNodeGetNew_none {g g' : GmridMan} {n : Nat} {r : IdaGetNew} {ret : Int}
    (h : getNodeGetNew g n r = (g', .returned ret none)) :
    (g', Exit.returned ret none) = outErrLocked g n ret := by
  cases r with
  | given id =>
    by_cases hid : g.maxGmrIds ≤ id
    · rw [getNodeGetNew_beyond hid] at h
      cases h
      rfl
    · rw [getNodeGetNew_below (Nat.lt_of_not_le hid)] at h
      cases h
  | error e =>
    unfold getNodeGetNew at h
    dsimp only at h
    split at h
    case isTrue => cases h
    case isFalse =>
      cases h
      rfl

theorem Inv.restores {a : Action} (h : Inv s) (hstep : step s a = some s') : Restores s a s' := by
  intro n hn
  cases a with
  | getNode m =>
    cases hstep
    obtain ⟨hret, heq⟩ := Option.ite_none_right_eq_some.mp hn
    cases heq
    by_cases hle : add32 s.man.usedGmrPages m ≤ s.man.maxGmrPages
    · rw [getNodeCharge_within h.limited hle] at hret
      cases hret
    · rw [getNodeCharge_over h.limited h.used_lt (Nat.lt_of_not_le hle)]
      exact ⟨rfl, rfl⟩
  | preGet call pre => cases hn
  | getNew call r =>
    obtain ⟨⟨hmem, -, -⟩, heq⟩ := Option.ite_none_right_eq_some.mp hstep
    cases heq
    unfold abandons at hn
    dsimp only at hn
    generalize hsec : getNodeGetNew s.man call.numPages r = sec at hn
    obtain ⟨g', pc | ⟨ret, node | node⟩⟩ := sec
    · cases hn
    · cases hn
      rw [getNodeGetNew_none hsec]
      exact ⟨h.restores_giveBack hmem ret, rfl⟩
    · cases hn
  | outErr call =>
    obtain ⟨⟨hmem, -⟩, heq⟩ := Option.ite_none_right_eq_some.mp hstep
    cases heq
    cases hn
    exact ⟨h.restores_giveBack hmem (-ENOMEM), rfl⟩
  | putNode mem => cases hn

end Restores

/-- The manager in every run without a charge that wraps. -/
theorem gmrid_man_sound {maxGmrIds maxGmrPages : Nat} {as : List Action} {s : State}
    (h0 : 0 < maxGmrPages) (hlt : maxGmrPages < 2 ^ 32)
    (hrun : Run step Fits (start maxGmrIds maxGmrPages) as s) :
    Sound s ∧ ∀ a s', step s a = some s' → Restores s a s' := by
  have h : Inv s := hrun.invariant (fun _ _ _ hfits hstep h => h.kept hfits hstep) (.init h0 hlt)
  exact ⟨h.sound, fun _ _ hstep => h.restores hstep⟩

/-- Two calls at once and one id: the second gets none and gives its pages back, whatever happens
to the retries of the first. -/
theorem gmrid_man_sound_two :
    Sound ⟨⟨[0], 1, 10, 4⟩, [], [⟨0, 4⟩]⟩ ∧
      ∀ a s', step ⟨⟨[0], 1, 10, 4⟩, [], [⟨0, 4⟩]⟩ a = some s' → Restores ⟨⟨[0], 1, 10, 4⟩, [], [⟨0, 4⟩]⟩ a s' := by
  have hexec : exec step (fun s a => decide (Fits s a)) (start 1 10)
      [.getNode 4, .getNode 5, .preGet ⟨4, .idaPreGet⟩ true, .getNew ⟨4, .idaGetNew⟩ (.error (-EAGAIN)),
        .preGet ⟨5, .idaPreGet⟩ true, .preGet ⟨4, .idaPreGet⟩ true, .getNew ⟨4, .idaGetNew⟩ (.given 0),
        .getNew ⟨5, .idaGetNew⟩ (.given 1)] = some ⟨⟨[0], 1, 10, 4⟩, [], [⟨0, 4⟩]⟩ := by decide
  exact gmrid_man_sound (by decide) (by decide)
    ((Run.of_exec hexec).mono fun _ _ hok => of_decide_eq_true hok)

section Wrap

/-- Pages of a buffer of 4 GiB. -/
def hugePages : Nat := 1048576

/-- What a call does that nothing goes wrong in. -/
def gets (id : Nat) : List Action :=
  [.getNode hugePages, .preGet ⟨hugePages, .idaPreGet⟩ true, .getNew ⟨hugePages, .idaGetNew⟩ (.given id)]

def hugeNode (id : Nat) : Node := ⟨id, hugePages⟩

/-- The manager after `k` such calls. -/
def full (k : Nat) : State :=
  ⟨⟨(List.range k).reverse, 4096, 4294967295, k * hugePages % 4294967296⟩, [],
    (List.range k).reverse.map hugeNode⟩

theorem run_gets {k : Nat} (hk : k < 4096) :
    Run step (fun _ _ => True) (full k) (gets k) (full (k + 1)) := by
  have hcharge : add32 (k * hugePages % 4294967296) hugePages = (k + 1) * hugePages % 4294967296 := by
    unfold add32 hugePages
    omega
  have hle : (k + 1) * hugePages % 4294967296 ≤ 4294967295 := by omega
  have hnew : k ∉ (List.range k).reverse := by simp
  let man : GmridMan := { (full k).man with usedGmrPages := (k + 1) * hugePages % 4294967296 }
  have hfirst : step (full k) (.getNode hugePages) =
      some ⟨man, [⟨hugePages, .idaPreGet⟩], (full k).nodes⟩ := by
    have hwithin := getNodeCharge_within (g := (full k).man) (n := hugePages) (by decide : 0 < 4294967295)
      (le_of_eq_of_le hcharge hle)
    change some ((full k).leave hugePages (getNodeCharge (full k).man hugePages)) = _
    rw [hwithin]
    change some (State.mk ⟨_, _, _, add32 (k * hugePages % 4294967296) hugePages⟩ _ _) = _
    rw [hcharge]
    rfl
  have hsecond : step ⟨man, [⟨hugePages, .idaPreGet⟩], (full k).nodes⟩ (.preGet ⟨hugePages, .idaPreGet⟩ true) =
      some ⟨man, [⟨hugePages, .idaGetNew⟩], (full k).nodes⟩ := by
    simp [step, getNodePreGet]
  have hthird : step ⟨man, [⟨hugePages, .idaGetNew⟩], (full k).nodes⟩
      (.getNew ⟨hugePages, .idaGetNew⟩ (.given k)) = some (full (k + 1)) := by
    have hgive := getNodeGetNew_below (g := man) (n := hugePages) hk
    refine (if_pos ⟨List.mem_singleton_self _, rfl, hnew⟩).trans ?_
    change some (State.leave _ hugePages (getNodeGetNew man hugePages (.given k))) = _
    rw [hgive]
    unfold full
    rw [List.range_succ, List.reverse_append]
    rfl
  exact .cons trivial hfirst (.cons trivial hsecond (.single trivial hthird))

theorem run_full {k : Nat} (hk : k ≤ 4096) :
    Run step (fun _ _ => True) (start 4096 4294967295) ((List.range k).flatMap gets) (full k) := by
  induction k with
  | zero => exact .nil _
  | succ k ih =>
    rw [List.range_succ, List.flatMap_append, List.flatMap_singleton]
    exact (ih (Nat.le_of_succ_le hk)).append (run_gets hk)

theorem livePages_full (k : Nat) : (full k).livePages = k * hugePages := by
  induction k with
  | zero => rfl
  | succ k ih =>
    have hcons : (full (k + 1)).livePages = hugePages + (full k).livePages := by
      unfold State.livePages full
      dsimp only
      rw [List.range_succ, List.reverse_append]
      rfl
    rw [hcons, ih, Nat.succ_mul, Nat.add_comm]

/-- 4096 buffers of 4 GiB pass a limit of 2^32 - 1 pages, and the counter reads 0. -/
theorem gmrid_counter_wraps :
    ∃ as s, Run step (fun _ _ => True) (start 4096 4294967295) as s ∧ s.man.usedGmrPages = 0 ∧
      s.livePages = 4294967296 ∧ ¬ Sound s := by
  refine ⟨_, full 4096, run_full (Nat.le_refl _), by decide, livePages_full 4096, fun h => ?_⟩
  have hwithin := h.within
  rw [livePages_full] at hwithin
  exact absurd hwithin (by decide)

end Wrap

end Vmwgfx.Gmrid
