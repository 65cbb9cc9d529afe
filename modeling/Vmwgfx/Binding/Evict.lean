import Mathlib.Data.List.TakeWhile
import Vmwgfx.Binding.Rebind

/-! Eviction and the next batch: the device has bound again what it had bound before. -/

namespace Vmwgfx.Binding

open Vmwgfx.Execbuf (ResType svga3dInvalidId)
open Vmwgfx.Lib

section Id

variable {env : Env} {s : State} {res : ResId}

theorem lowestFree_spec (used : List Nat) :
    lowestFree used ∉ used ∧ lowestFree used ≤ used.length + 1 := by
  unfold lowestFree
  cases hfind : (List.range' 1 (used.length + 1)).find? (fun i => i ∉ used) with
  | some i =>
    have hmem := List.mem_of_find?_eq_some hfind
    have hfree := List.find?_some hfind
    rw [List.mem_range'_1] at hmem
    exact ⟨by simpa using hfree, by simp; omega⟩
  | none =>
    -- more candidates than used ids
    exfalso
    have hall : List.range' 1 (used.length + 1) ⊆ used := by
      intro i hi
      simpa using List.find?_eq_none.mp hfind i hi
    have hle := (List.subperm_of_subset (List.nodup_range' ..) hall).length_le
    rw [List.length_range'] at hle
    omega

theorem release_alloc (hid : s.id res = svga3dInvalidId) :
    vmwResourceReleaseId env res (vmwResourceAllocId env res s) = s := by
  unfold vmwResourceReleaseId vmwResourceAllocId
  have hnot := (lowestFree_spec (s.idr (env.ty res))).1
  have hfilter : (s.idr (env.ty res)).filter (· ≠ lowestFree (s.idr (env.ty res))) =
      s.idr (env.ty res) := by
    apply List.filter_eq_self.mpr
    intro i hi
    simp only [ne_eq, decide_not, Bool.not_eq_eq_eq_not, Bool.not_true, decide_eq_false_iff_not]
    intro heq
    exact hnot (heq ▸ hi)
  simp only [Function.update_self, Function.update_idem]
  rw [List.filter_cons_of_neg (by simp), hfilter, Function.update_eq_self, ← hid,
    Function.update_eq_self]

theorem Mirrors.forget_bound {id : ResId → Nat} {mob : ResId → Bool}
    {entry : ResId → Slot → Option (ResId × Bool)} {d : Device} (h : Mirrors env id mob entry d)
    {ty : ResType} {i : Nat}
    (hfree : ty = .context → ∀ c loc r, entry c loc = some (r, false) → id c ≠ i) :
    (d.forget ty i).bound = d.bound := by
  cases ty with
  | surface => rfl
  | shader => rfl
  | context =>
    funext cid loc
    by_cases hcid : cid = i
    · subst hcid
      change Function.update d.bound cid (fun _ => none) cid loc = _
      rw [Function.update_self]
      cases hbound : d.bound cid loc with
      | none => rfl
      | some tgt =>
        obtain ⟨c, r, he, heq, _⟩ := (h.agree cid loc tgt).mp hbound
        exact absurd heq (hfree rfl c loc r he)
    · exact congrFun (Function.update_of_ne hcid _ d.bound) loc

theorem Device.forget_live (d : Device) (ty : ResType) (i : Nat) : (d.forget ty i).live = d.live := by
  cases ty with
  | context => rfl
  | surface => rfl
  | shader => rfl

theorem Device.setLive_live (d : Device) (ty : ResType) (i : Nat) (b : Bool) (ty' : ResType)
    (i' : Nat) : (d.setLive ty i b).live ty' i' = if ty' = ty ∧ i' = i then b else d.live ty' i' := by
  unfold Device.setLive
  by_cases hty : ty' = ty
  · subst hty
    by_cases hi : i' = i
    · simp [hi]
    · simp [hi]
  · simp [hty]

/-- A resource that nothing on the device is bound to can be destroyed. -/
theorem gbDestroy_ok (hfifo : ∀ k, env.fifo k = true) (h : Inv env s) (res : ResId)
    (hfree : ∀ c loc r, s.tracker.entry c loc = some (r, false) → c ≠ res ∧ r ≠ res) :
    ∃ s', gbDestroy env res s = (0, s') ∧ Inv env s' ∧ s'.tracker = s.tracker ∧
      s'.phase = s.phase ∧ s'.id res = svga3dInvalidId := by
  unfold gbDestroy
  rw [emit_ok hfifo]
  refine ⟨_, rfl, ?_, rfl, rfl, Function.update_self _ _ _⟩
  have hidOf : ∀ r, r ≠ res → Function.update s.id res svga3dInvalidId r = s.id r := by
    intro r hr
    exact Function.update_of_ne hr _ _
  have hdevice : Device.run (s.fifo ++ [.destroyGb (env.ty res) (s.id res)]) =
      (s.device.forget (env.ty res) (s.id res)).setLive (env.ty res) (s.id res) false :=
    Device.run_concat _ _
  have hbound : (Device.run (s.fifo ++ [.destroyGb (env.ty res) (s.id res)])).bound =
      s.device.bound := by
    rw [hdevice]
    apply h.mirrors.forget_bound
    intro hty c loc r he heq
    exact (hfree c loc r he).1 (h.unique ((h.mirrors.typed he).1.trans hty.symm) heq
      (h.mirrors.held he).1)
  have hmirrors : Mirrors env (Function.update s.id res svga3dInvalidId) s.mobHead s.tracker.entry
      (Device.run (s.fifo ++ [.destroyGb (env.ty res) (s.id res)])) := by
    refine ⟨h.mirrors.typed, ?_, ?_⟩
    · intro c loc r he
      rw [hidOf c (hfree c loc r he).1, hidOf r (hfree c loc r he).2]
      exact h.mirrors.held he
    · intro cid loc tgt
      rw [hbound, h.mirrors.agree]
      constructor
      · intro hex
        obtain ⟨c, r, he, heq, htgt⟩ := hex
        refine ⟨c, r, he, ?_⟩
        rw [hidOf c (hfree c loc r he).1, hidOf r (hfree c loc r he).2]
        exact ⟨heq, htgt⟩
      · intro hex
        obtain ⟨c, r, he, heq, htgt⟩ := hex
        rw [hidOf c (hfree c loc r he).1] at heq
        rw [hidOf r (hfree c loc r he).2] at htgt
        exact ⟨c, r, he, heq, htgt⟩
  have hlive : ∀ ty i, (Device.run (s.fifo ++ [.destroyGb (env.ty res) (s.id res)])).live ty i =
      true ↔ i ∈ Function.update s.idr (env.ty res)
        ((s.idr (env.ty res)).filter (· ≠ s.id res)) ty := by
    intro ty i
    rw [hdevice, Device.setLive_live, Device.forget_live]
    by_cases hty : ty = env.ty res
    · subst hty
      rw [Function.update_self, List.mem_filter, ← h.live]
      by_cases hi : i = s.id res
      · simp [hi]
      · simp [hi]
    · rw [Function.update_of_ne hty, if_neg (fun hand => hty hand.1)]
      exact h.live ty i
  have hinUse : ∀ ty i, i ∈ Function.update s.idr (env.ty res)
        ((s.idr (env.ty res)).filter (· ≠ s.id res)) ty ↔
      i ≠ svga3dInvalidId ∧ ∃ r, env.ty r = ty ∧
        Function.update s.id res svga3dInvalidId r = i := by
    intro ty i
    have hold : (∃ r, env.ty r = ty ∧ Function.update s.id res svga3dInvalidId r = i) ∧
        i ≠ svga3dInvalidId ↔ (i ∈ s.idr ty ∧ ¬ (ty = env.ty res ∧ i = s.id res)) := by
      rw [h.inUse]
      constructor
      · intro hand
        obtain ⟨⟨r, hty, heq⟩, hi⟩ := hand
        have hr : r ≠ res := by
          intro hr
          rw [hr, Function.update_self] at heq
          exact hi heq.symm
        rw [hidOf r hr] at heq
        refine ⟨⟨hi, r, hty, heq⟩, ?_⟩
        intro hand
        exact hr (h.unique (hty.trans hand.1) (heq.trans hand.2) (by rw [heq]; exact hi))
      · intro hand
        obtain ⟨⟨hi, r, hty, heq⟩, hne⟩ := hand
        refine ⟨⟨r, hty, ?_⟩, hi⟩
        rw [hidOf r]
        · exact heq
        · intro hr
          exact hne ⟨by rw [← hty, hr], by rw [← heq, hr]⟩
    rw [and_comm, hold]
    by_cases hty : ty = env.ty res
    · subst hty
      rw [Function.update_self, List.mem_filter]
      simp
    · rw [Function.update_of_ne hty]
      simp [hty]
  refine ⟨h.rep, hmirrors, ?_, hinUse, hlive, ?_, ?_⟩
  · intro r r' hty heq hne
    change Function.update s.id res svga3dInvalidId r = Function.update s.id res _ r' at heq
    change Function.update s.id res svga3dInvalidId r ≠ _ at hne
    have hr : r ≠ res := by
      intro hr
      rw [hr, Function.update_self] at hne
      exact hne rfl
    have hr' : r' ≠ res := by
      intro hr'
      rw [heq, hr', Function.update_self] at hne
      exact hne rfl
    rw [hidOf r hr] at heq hne
    rw [hidOf r' hr'] at heq
    exact h.unique hty heq hne
  · intro r hr
    change Function.update s.id res svga3dInvalidId r = _
    by_cases heq : r = res
    · rw [heq, Function.update_self]
    · rw [hidOf r heq]
      exact h.gone r hr
  · apply history_concat h.history
    apply hmirrors.noDangling
    intro r hr
    exact (hlive _ _).mpr ((hinUse _ _).mpr ⟨hr, r, rfl, rfl⟩)

/-- A resource that the device does not know gets a fresh id and is defined. -/
theorem Inv.define (h : Inv env s) (hlive : s.phase res = .live) (hid : s.id res = svga3dInvalidId)
    {new : Nat} (hfresh : new ∉ s.idr (env.ty res)) (hvalid : new ≠ svga3dInvalidId) :
    Inv env { s with
      id := Function.update s.id res new
      idr := Function.update s.idr (env.ty res) (new :: s.idr (env.ty res))
      fifo := s.fifo ++ [.defineGb (env.ty res) new]
      tick := s.tick + 1 } := by
  have hself : Function.update s.id res new res = new := Function.update_self _ _ _
  have hother : ∀ r, r ≠ res → Function.update s.id res new r = s.id r := by
    intro r hr
    exact Function.update_of_ne hr _ _
  have hnone : ∀ r, env.ty r = env.ty res → s.id r ≠ new := by
    intro r hty heq
    exact hfresh ((h.inUse _ _).mpr ⟨hvalid, r, hty, heq⟩)
  have hent : ∀ c loc r, s.tracker.entry c loc = some (r, false) → c ≠ res ∧ r ≠ res := by
    intro c loc r he
    obtain ⟨hc, hr, _⟩ := h.mirrors.held he
    constructor
    · intro heq
      exact hc (heq ▸ hid)
    · intro heq
      exact hr (heq ▸ hid)
  have hdevice : Device.run (s.fifo ++ [.defineGb (env.ty res) new]) =
      (s.device.forget (env.ty res) new).setLive (env.ty res) new true :=
    Device.run_concat _ _
  have hmirrors : Mirrors env (Function.update s.id res new) s.mobHead s.tracker.entry
      (Device.run (s.fifo ++ [.defineGb (env.ty res) new])) := by
    have hbound' : (Device.run (s.fifo ++ [.defineGb (env.ty res) new])).bound =
        s.device.bound := by
      rw [hdevice]
      apply h.mirrors.forget_bound
      intro hty c loc r he
      exact hnone c ((h.mirrors.typed he).1.trans hty.symm)
    refine ⟨h.mirrors.typed, ?_, ?_⟩
    · intro c loc r he
      rw [hother c (hent c loc r he).1, hother r (hent c loc r he).2]
      exact h.mirrors.held he
    · intro cid loc tgt
      rw [hbound', h.mirrors.agree]
      constructor
      · intro hex
        obtain ⟨c, r, he, heq, htgt⟩ := hex
        refine ⟨c, r, he, ?_⟩
        rw [hother c (hent c loc r he).1, hother r (hent c loc r he).2]
        exact ⟨heq, htgt⟩
      · intro hex
        obtain ⟨c, r, he, heq, htgt⟩ := hex
        rw [hother c (hent c loc r he).1] at heq
        rw [hother r (hent c loc r he).2] at htgt
        exact ⟨c, r, he, heq, htgt⟩
  have hmem : ∀ ty i, i ∈ Function.update s.idr (env.ty res)
      (new :: s.idr (env.ty res)) ty ↔ (ty = env.ty res ∧ i = new) ∨ i ∈ s.idr ty := by
    intro ty i
    by_cases hty : ty = env.ty res
    · subst hty
      rw [Function.update_self, List.mem_cons]
      simp
    · rw [Function.update_of_ne hty]
      simp [hty]
  have hinUse : ∀ ty i, i ∈ Function.update s.idr (env.ty res)
      (new :: s.idr (env.ty res)) ty ↔ i ≠ svga3dInvalidId ∧
        ∃ r, env.ty r = ty ∧ Function.update s.id res new r = i := by
    intro ty i
    rw [hmem, h.inUse]
    constructor
    · intro hor
      cases hor with
      | inl hnew' =>
        obtain ⟨rfl, rfl⟩ := hnew'
        exact ⟨hvalid, res, rfl, hself⟩
      | inr hold =>
        obtain ⟨hi, r, hty, heq⟩ := hold
        refine ⟨hi, r, hty, ?_⟩
        rw [hother r]
        · exact heq
        · intro hr
          exact hi (by rw [← heq, hr, hid])
    · intro hand
      obtain ⟨hi, r, hty, heq⟩ := hand
      by_cases hr : r = res
      · rw [hr, hself] at heq
        exact Or.inl ⟨by rw [← hty, hr], heq.symm⟩
      · rw [hother r hr] at heq
        exact Or.inr ⟨hi, r, hty, heq⟩
  have hlive' : ∀ ty i, (Device.run (s.fifo ++ [.defineGb (env.ty res) new])).live ty i =
      true ↔ i ∈ Function.update s.idr (env.ty res) (new :: s.idr (env.ty res)) ty := by
    intro ty i
    rw [hdevice, Device.setLive_live, Device.forget_live, hmem, ← h.live]
    by_cases heq : ty = env.ty res ∧ i = new
    · rw [if_pos heq]
      simp [heq]
    · rw [if_neg heq]
      simp [heq]
  refine ⟨h.rep, hmirrors, ?_, hinUse, hlive', ?_, ?_⟩
  · intro r r' hty heq hne
    change Function.update s.id res new r = Function.update s.id res new r' at heq
    change Function.update s.id res new r ≠ _ at hne
    by_cases hr : r = res
    · by_cases hr' : r' = res
      · rw [hr, hr']
      · rw [hr, hself, hother r' hr'] at heq
        exact absurd heq.symm (hnone r' (by rw [← hty, hr]))
    · by_cases hr' : r' = res
      · rw [hr', hself, hother r hr] at heq
        exact absurd heq (hnone r (by rw [hty, hr']))
      · rw [hother r hr] at heq hne
        rw [hother r' hr'] at heq
        exact h.unique hty heq hne
  · intro r hr
    have hne : r ≠ res := by
      intro heq
      change s.phase r = _ ∨ s.phase r = _ at hr
      rw [heq, hlive] at hr
      simp at hr
    exact (hother r hne).trans (h.gone r hr)
  · apply history_concat h.history
    apply hmirrors.noDangling
    intro r hr
    exact (hlive' _ _).mpr ((hinUse _ _).mpr ⟨hr, r, rfl, rfl⟩)

theorem gbCreate_ok (hfifo : ∀ k, env.fifo k = true) (h : Inv env s)
    (hlive : s.phase res = .live) :
    ∃ ret s', gbCreate env res s = (ret, s') ∧ Inv env s' ∧ s'.tracker = s.tracker ∧
      s'.phase = s.phase ∧ s'.mobHead = s.mobHead ∧ (ret = 0 → s'.id res ≠ svga3dInvalidId) ∧
      ∀ r, r ≠ res → s'.id r = s.id r := by
  unfold gbCreate
  split
  · next hid => exact ⟨0, s, rfl, h, rfl, rfl, rfl, fun _ => hid, fun _ _ => rfl⟩
  · next hid =>
    have hid := Classical.not_not.mp hid
    dsimp only
    split
    · refine ⟨_, _, rfl, ?_, ?_, ?_, ?_, fun hret => absurd hret (by decide), ?_⟩
      all_goals rw [release_alloc hid]
      · exact h
      · exact fun _ _ => rfl
    · next hbound =>
      have hself : (vmwResourceAllocId env res s).id res = lowestFree (s.idr (env.ty res)) :=
        Function.update_self _ _ _
      have hvalid : lowestFree (s.idr (env.ty res)) ≠ svga3dInvalidId := by
        have hmax : vmwgfxNumGb (env.ty res) ≤ 32768 := by
          cases env.ty res with
          | context => decide
          | surface => decide
          | shader => decide
        rw [hself] at hbound
        unfold svga3dInvalidId
        omega
      rw [emit_ok hfifo, hself]
      refine ⟨0, _, rfl, ?_, rfl, rfl, rfl, fun _ => ?_, fun r hr => ?_⟩
      · exact h.define hlive hid (lowestFree_spec _).1 hvalid
      · rw [← hself] at hvalid
        exact hvalid
      · exact Function.update_of_ne hr _ _

end Id

section Operation

variable {env : Env} {s s' s'' : State} {ctx res : ResId}

/-- The bindings stay, scrubbed or not. -/
structure Quiet (env : Env) (s s' : State) : Prop where
  inv : Inv env s'
  phase : s'.phase = s.phase
  kept : ∀ c loc, (s'.tracker.entry c loc).map Prod.fst = (s.tracker.entry c loc).map Prod.fst

theorem Quiet.trans (h : Quiet env s s') (h' : Quiet env s' s'') : Quiet env s s'' :=
  ⟨h'.inv, h'.phase.trans h.phase, fun c loc => (h'.kept c loc).trans (h.kept c loc)⟩

theorem Inv.emitBindGbContext (h : Inv env s) (cid : Nat) :
    Inv env { s with fifo := s.fifo ++ [.bindGbContext cid], tick := s.tick + 1 } := by
  have hdevice : Device.run (s.fifo ++ [.bindGbContext cid]) = s.device := Device.run_concat _ _
  refine ⟨h.rep, ?_, h.unique, h.inUse, ?_, h.gone, ?_⟩
  · change Mirrors env s.id s.mobHead s.tracker.entry (Device.run (s.fifo ++ [.bindGbContext cid]))
    rw [hdevice]
    exact h.mirrors
  · change ∀ ty i, (Device.run (s.fifo ++ [.bindGbContext cid])).live ty i = true ↔ _
    rw [hdevice]
    exact h.live
  · apply history_concat h.history
    rw [hdevice]
    exact h.mirrors.noDangling h.live_id

theorem Inv.setMobHead (h : Inv env s) {b : Bool}
    (hb : b = true ∨ ∀ loc r, s.tracker.entry ctx loc ≠ some (r, false)) :
    Inv env { s with mobHead := Function.update s.mobHead ctx b } := by
  refine ⟨h.rep, ⟨h.mirrors.typed, ?_, h.mirrors.agree⟩, h.unique, h.inUse, h.live, h.gone,
    h.history⟩
  intro c loc r he
  obtain ⟨hc, hr, hmob⟩ := h.mirrors.held he
  refine ⟨hc, hr, ?_⟩
  change Function.update s.mobHead ctx b c = true
  by_cases heq : c = ctx
  · subst heq
    rw [Function.update_self]
    cases hb with
    | inl hb => exact hb
    | inr hnone => exact absurd he (hnone loc r)
  · rw [Function.update_of_ne heq]
    exact hmob

theorem Inv.setPhase (h : Inv env s) {phase : Phase}
    (hid : phase = .destroyed ∨ phase = .freed → s.id res = svga3dInvalidId) :
    Inv env { s with phase := Function.update s.phase res phase } := by
  refine ⟨h.rep, h.mirrors, h.unique, h.inUse, h.live, ?_, h.history⟩
  intro r hr
  change Function.update s.phase res phase r = _ ∨ Function.update s.phase res phase r = _ at hr
  by_cases heq : r = res
  · subst heq
    rw [Function.update_self] at hr
    exact hid hr
  · rw [Function.update_of_ne heq] at hr
    exact h.gone r hr

theorem vmwGbContextUnbind_ok (hfifo : ∀ k, env.fifo k = true) (h : Inv env s) (ctx : ResId) :
    ∃ s', vmwGbContextUnbind env ctx s = (0, s') ∧ Quiet env s s' ∧ s'.id = s.id ∧
      ∀ loc r, s'.tracker.entry ctx loc ≠ some (r, false) := by
  obtain ⟨h', hframe, hentry⟩ := vmwContextBindingStateScrub_ok hfifo h ctx
  unfold vmwGbContextUnbind
  rw [emit_ok hfifo]
  refine ⟨_, rfl, ⟨h'.emitBindGbContext _, hframe.phase, ?_⟩, hframe.id, ?_⟩
  · intro c loc
    change ((vmwContextBindingStateScrub env ctx s).tracker.entry c loc).map _ = _
    rw [hentry, Option.map_map]
    rfl
  · intro loc r he
    change (vmwContextBindingStateScrub env ctx s).tracker.entry ctx loc = _ at he
    rw [hentry] at he
    obtain ⟨e, _, heq⟩ := Option.map_eq_some_iff.mp he
    have hsnd := (Prod.mk.inj heq).2
    rw [if_pos rfl] at hsnd
    cases hsnd

/-- Unbinding a context from its backup buffer, and forgetting that it was bound. -/
theorem unbind_ok (hfifo : ∀ k, env.fifo k = true) (h : Inv env s) (ctx : ResId) :
    Quiet env s { (vmwGbContextUnbind env ctx s).2 with
      mobHead := Function.update (vmwGbContextUnbind env ctx s).2.mobHead ctx false } ∧
      ∀ loc r, (vmwGbContextUnbind env ctx s).2.tracker.entry ctx loc ≠ some (r, false) := by
  obtain ⟨s', hrun, hquiet, _, hnone⟩ := vmwGbContextUnbind_ok hfifo h ctx
  rw [hrun]
  exact ⟨⟨hquiet.inv.setMobHead (Or.inr hnone), hquiet.phase, hquiet.kept⟩, hnone⟩

theorem vmwResourceDoValidate_ok (hfifo : ∀ k, env.fifo k = true) (h : Inv env s)
    (hlive : s.phase res = .live) : Quiet env s (vmwResourceDoValidate env res s).2 := by
  obtain ⟨ret, s₁, hrun, h₁, htracker, hphase, _⟩ := gbCreate_ok hfifo h hlive
  have hquiet : Quiet env s s₁ := ⟨h₁, hphase, fun c loc => by rw [htracker]⟩
  unfold vmwResourceDoValidate
  rw [hrun]
  split
  · next heq =>
    cases heq
    split
    · exact hquiet
    · rw [emit_ok hfifo]
      exact ⟨(h₁.emitBindGbContext _).setMobHead (Or.inl rfl), hphase, hquiet.kept⟩
  · next heq => exact hquiet

theorem vmwGbContextDestroy_ok (hfifo : ∀ k, env.fifo k = true) (h : Inv env s)
    (hty : env.ty res = .context)
    (hnone : ∀ loc r, s.tracker.entry res loc ≠ some (r, false)) :
    Quiet env s (vmwGbContextDestroy env res s).2 ∧
      (vmwGbContextDestroy env res s).2.tracker = s.tracker ∧
      (vmwGbContextDestroy env res s).2.id res = svga3dInvalidId := by
  unfold vmwGbContextDestroy
  split
  · next hid => exact ⟨⟨h, rfl, fun _ _ => rfl⟩, rfl, hid⟩
  · next hid =>
    obtain ⟨s', hrun, h', htracker, hphase, hid'⟩ := gbDestroy_ok hfifo h res
      (by
        intro c loc r he
        constructor
        · intro heq
          exact hnone loc r (heq ▸ he)
        · intro heq
          -- a context is not bound to a slot
          have htyped := (h.mirrors.typed he).2
          rw [heq, hty] at htyped
          revert htyped
          cases loc.bt with
          | shader => exact nofun
          | rt => exact nofun
          | tex => exact nofun)
    rw [hrun]
    exact ⟨⟨h', hphase, fun c loc => by rw [htracker]⟩, htracker, hid'⟩

/-- `vmw_gb_surface_destroy` and `vmw_gb_shader_destroy`. -/
theorem scrubDestroy_ok (hfifo : ∀ k, env.fifo k = true) (h : Inv env s)
    (hty : env.ty res ≠ .context) :
    Quiet env s (gbDestroy env res (vmwContextBindingResListScrub env res s)).2 ∧
      (gbDestroy env res (vmwContextBindingResListScrub env res s)).2.id res = svga3dInvalidId := by
  obtain ⟨h₁, hframe, hentry⟩ := vmwContextBindingResListScrub_ok hfifo h res
  obtain ⟨s', hrun, h', htracker, hphase, hid'⟩ := gbDestroy_ok hfifo h₁ res
    (by
      intro c loc r he
      constructor
      · intro heq
        exact hty (heq ▸ (h₁.mirrors.typed he).1)
      · intro heq
        subst heq
        rw [hentry] at he
        obtain ⟨e, _, heq⟩ := Option.map_eq_some_iff.mp he
        obtain ⟨hfst, hsnd⟩ := Prod.mk.inj heq
        rw [if_pos hfst] at hsnd
        cases hsnd)
  rw [hrun]
  refine ⟨⟨h', hphase.trans hframe.phase, ?_⟩, hid'⟩
  intro c loc
  rw [htracker, hentry, Option.map_map]
  rfl

theorem funcDestroy_ok (hfifo : ∀ k, env.fifo k = true) (h : Inv env s)
    (hnone : env.ty res = .context → ∀ loc r, s.tracker.entry res loc ≠ some (r, false)) :
    Quiet env s (funcDestroy env res s).2 ∧ (funcDestroy env res s).2.id res = svga3dInvalidId := by
  unfold funcDestroy
  cases hty : env.ty res with
  | context =>
    obtain ⟨hquiet, _, hid⟩ := vmwGbContextDestroy_ok hfifo h hty (hnone hty)
    exact ⟨hquiet, hid⟩
  | surface =>
    dsimp only
    unfold vmwGbSurfaceDestroy
    split
    · next hid => exact ⟨⟨h, rfl, fun _ _ => rfl⟩, hid⟩
    · exact scrubDestroy_ok hfifo h (by rw [hty]; exact nofun)
  | shader =>
    dsimp only
    unfold vmwGbShaderDestroy
    split
    · next hid => exact ⟨⟨h, rfl, fun _ _ => rfl⟩, hid⟩
    · exact scrubDestroy_ok hfifo h (by rw [hty]; exact nofun)

theorem vmwResourceDoEvict_ok (hfifo : ∀ k, env.fifo k = true) (h : Inv env s) (res : ResId) :
    Quiet env s (vmwResourceDoEvict env res s).2 := by
  unfold vmwResourceDoEvict unbindCtx
  split
  · next hand =>
    obtain ⟨s', hrun, hquiet, _, hnone⟩ := vmwGbContextUnbind_ok hfifo h res
    rw [hrun]
    have hquiet' : Quiet env s { s' with mobHead := Function.update s'.mobHead res false } :=
      ⟨hquiet.inv.setMobHead (Or.inr hnone), hquiet.phase, hquiet.kept⟩
    exact hquiet'.trans (funcDestroy_ok hfifo hquiet'.inv (fun _ => hnone)).1
  · next hnot =>
    apply (funcDestroy_ok hfifo h _).1
    intro hty loc r he
    exact hnot ⟨hty, (h.mirrors.held he).2.2⟩

/-- `hw_destroy` takes the resource off the device; a context loses its bindings. -/
theorem hwDestroy_ok (hfifo : ∀ k, env.fifo k = true) (h : Inv env s) (res : ResId) :
    Inv env (hwDestroy env res s) ∧ (hwDestroy env res s).phase = s.phase ∧
      (hwDestroy env res s).id res = svga3dInvalidId ∧
      (∀ c loc, s.tracker.entry c loc = none → (hwDestroy env res s).tracker.entry c loc = none) ∧
      ∀ c loc, c ≠ res → ((hwDestroy env res s).tracker.entry c loc).map Prod.fst =
        (s.tracker.entry c loc).map Prod.fst := by
  have hother : env.ty res ≠ .context → hwDestroy env res s = (funcDestroy env res s).2 := by
    intro hne
    unfold hwDestroy funcDestroy
    cases hty : env.ty res with
    | context => exact absurd hty hne
    | surface => rfl
    | shader => rfl
  by_cases hty : env.ty res = .context
  · obtain ⟨h₁, hframe, hentry⟩ := vmwContextBindingStateKill_ok hfifo h res
    obtain ⟨hquiet, htracker, hid⟩ := vmwGbContextDestroy_ok hfifo h₁ hty
      (by
        intro loc r he
        rw [hentry, if_pos rfl] at he
        cases he)
    have heq : hwDestroy env res s =
        (vmwGbContextDestroy env res (vmwContextBindingStateKill env res s)).2 := by
      unfold hwDestroy
      rw [hty]
    rw [heq]
    refine ⟨hquiet.inv, hquiet.phase.trans hframe.phase, hid, ?_, ?_⟩
    · intro c loc hnone
      rw [htracker, hentry, hnone, ite_self]
    · intro c loc hc
      rw [htracker, hentry, if_neg hc]
  · rw [hother hty]
    obtain ⟨hquiet, hid⟩ := funcDestroy_ok hfifo h (fun heq => absurd heq hty)
    refine ⟨hquiet.inv, hquiet.phase, hid, ?_, fun c loc _ => hquiet.kept c loc⟩
    intro c loc hnone
    have hkept := hquiet.kept c loc
    rw [hnone] at hkept
    exact Option.map_eq_none_iff.mp hkept

end Operation

section Submit

variable {env : Env} {s : State} {b : Batch}

/-- The command binds a slot that the device has, to all of a surface. -/
structure BindCmd.Plain (cmd : BindCmd) : Prop where
  valid : cmd.slot.Valid
  whole : cmd.bt = .rt → cmd.res ≠ none → cmd.face = 0 ∧ cmd.mipmap = 0

theorem BindCmd.exec_relocated {cmd : BindCmd} (h : cmd.Plain) (s : State) (d : Device) :
    d.exec (cmd.relocated s) = d.bind (s.id cmd.ctx) cmd.slot ⟨s.idOf cmd.res, 0, 0⟩ := by
  obtain ⟨ctx, res, bt, i1, face, mipmap⟩ := cmd
  cases bt with
  | shader => rfl
  | tex => rfl
  | rt =>
    cases res with
    | none => rfl
    | some r =>
      obtain ⟨hface, hmipmap⟩ := h.whole rfl (by simp)
      change d.bind _ _ ⟨_, face, mipmap⟩ = _
      cases hface
      cases hmipmap
      rfl

/-- The last command for a slot. -/
def lastCmd (cmds : List BindCmd) (c : ResId) (loc : Slot) : Option BindCmd :=
  cmds.reverse.find? (fun cmd => cmd.ctx = c ∧ cmd.slot = loc)

/-- The entries when the commands have been run. -/
def cmdEntry (cmds : List BindCmd) (entry : ResId → Slot → Option (ResId × Bool)) (c : ResId)
    (loc : Slot) : Option (ResId × Bool) :=
  match lastCmd cmds c loc with
  | some cmd => cmd.res.map (fun r => (r, false))
  | none => entry c loc

theorem cmdEntry_concat (cmds : List BindCmd) (cmd : BindCmd)
    (entry : ResId → Slot → Option (ResId × Bool)) :
    cmdEntry (cmds ++ [cmd]) entry =
      replaceEntry (cmdEntry cmds entry) cmd.ctx cmd.slot (cmd.res.map (fun r => (r, false))) := by
  funext c loc
  unfold cmdEntry lastCmd replaceEntry
  rw [List.reverse_append, List.reverse_singleton, List.singleton_append, List.find?_cons]
  by_cases heq : cmd.ctx = c ∧ cmd.slot = loc
  · obtain ⟨rfl, rfl⟩ := heq
    simp
  · rw [decide_eq_false heq, if_neg (fun hand => heq ⟨hand.1.symm, hand.2.symm⟩)]

theorem lastCmd_eq_none_iff {cmds : List BindCmd} {c : ResId} {loc : Slot} :
    lastCmd cmds c loc = none ↔ ∀ cmd ∈ cmds, cmd.ctx = c → cmd.slot ≠ loc := by
  simp [lastCmd]

/-- The binding a context stages for a slot is that of the last command for it. -/
theorem lastBinding_map (cmds : List BindCmd) (c : ResId) (loc : Slot) :
    lastBinding ((cmds.filter (fun cmd => cmd.ctx = c)).map BindCmd.bi) loc =
      (lastCmd cmds c loc).map BindCmd.bi := by
  unfold lastBinding lastCmd
  rw [← List.map_reverse, ← List.filter_reverse, List.find?_map, List.find?_filter]
  congr 1
  congr 1
  funext cmd
  exact decide_eq_decide.mpr (and_congr decide_eq_true_iff decide_eq_true_iff)

/-- The commands of the batch run on the device. -/
theorem Inv.runCmds (h : Inv env s) {cmds : List BindCmd} (hplain : ∀ cmd ∈ cmds, cmd.Plain)
    (hctx : ∀ cmd ∈ cmds, env.ty cmd.ctx = .context ∧ s.id cmd.ctx ≠ svga3dInvalidId ∧
      s.mobHead cmd.ctx)
    (hres : ∀ cmd ∈ cmds, ∀ r ∈ cmd.res, env.ty r = cmd.bt.resType ∧ s.id r ≠ svga3dInvalidId) :
    Mirrors env s.id s.mobHead (cmdEntry cmds s.tracker.entry)
        (Device.run (s.fifo ++ cmds.map (BindCmd.relocated s))) ∧
      (Device.run (s.fifo ++ cmds.map (BindCmd.relocated s))).live = s.device.live ∧
      ∀ p, p <+: s.fifo ++ cmds.map (BindCmd.relocated s) → (Device.run p).NoDangling := by
  induction cmds using List.reverseRecOn with
  | nil =>
    rw [List.map_nil, List.append_nil]
    exact ⟨h.mirrors, rfl, h.history⟩
  | append_singleton cmds cmd ih =>
    obtain ⟨hmirrors, hlive, hhistory⟩ := ih
      (fun x hx => hplain x (List.mem_append_left _ hx))
      (fun x hx => hctx x (List.mem_append_left _ hx))
      (fun x hx => hres x (List.mem_append_left _ hx))
    have hmem : cmd ∈ cmds ++ [cmd] := by simp
    obtain ⟨hty, hid, hmob⟩ := hctx cmd hmem
    rw [List.map_append, List.map_singleton, ← List.append_assoc, Device.run_concat,
      BindCmd.exec_relocated (hplain cmd hmem), cmdEntry_concat]
    have hmirrors' : Mirrors env s.id s.mobHead (replaceEntry (cmdEntry cmds s.tracker.entry)
        cmd.ctx cmd.slot (cmd.res.map (fun r => (r, false)))) (Device.bind _ (s.id cmd.ctx) cmd.slot
          ⟨s.idOf cmd.res, 0, 0⟩) := hmirrors.bind h.unique hty hid
      (by
        intro r b he
        obtain ⟨r', hr', heq⟩ := Option.map_eq_some_iff.mp he
        cases heq
        exact (hres cmd hmem r hr').1)
      (by
        cases hr : cmd.res with
        | none => exact Or.inr ⟨fun r he => (by cases he), rfl⟩
        | some r => exact Or.inl ⟨r, rfl, rfl, (hres cmd hmem r hr).2, hmob⟩)
    refine ⟨hmirrors', hlive, ?_⟩
    apply history_concat hhistory
    rw [Device.run_concat, BindCmd.exec_relocated (hplain cmd hmem)]
    apply hmirrors'.noDangling
    intro r hr
    change (Device.run (s.fifo ++ cmds.map (BindCmd.relocated s))).live _ _ = true
    rw [hlive]
    exact h.live_id r hr

/-- Transferring the staged bindings of the contexts one after the other. -/
theorem unreserve_spec {cmds : List BindCmd} {nodes : List CtxNode} {t : Tracker}
    (hvalid : ∀ cmd ∈ cmds, cmd.slot.Valid) (hnodup : (nodes.map CtxNode.ctx).Nodup) (h : Rep t)
    (staged : ResId → CtxBindingState)
    (hstaged : ∀ c, staged c = stage ((cmds.filter (fun cmd => cmd.ctx = c)).map BindCmd.bi)) :
    Rep (nodes.foldl (fun t node => t.vmwContextBindingStateTransfer node.ctx (staged node.ctx)) t) ∧
      ∀ c loc, (nodes.foldl (fun t node =>
          t.vmwContextBindingStateTransfer node.ctx (staged node.ctx)) t).entry c loc =
        if c ∈ nodes.map CtxNode.ctx then cmdEntry cmds t.entry c loc else t.entry c loc := by
  induction nodes generalizing t with
  | nil => exact ⟨h, fun c loc => by simp⟩
  | cons node nodes ih =>
    obtain ⟨hnot, hnodup⟩ := List.nodup_cons.mp hnodup
    have hbinds : ∀ bi ∈ (cmds.filter (fun cmd => cmd.ctx = node.ctx)).map BindCmd.bi,
        bi.ctx = some node.ctx := by
      intro bi hbi
      obtain ⟨cmd, hcmd, rfl⟩ := List.mem_map.mp hbi
      have hctx := (List.mem_filter.mp hcmd).2
      simp only [decide_eq_true_eq] at hctx
      exact congrArg some hctx
    have hrep : CtxRep node.ctx (staged node.ctx) := by
      rw [hstaged]
      exact stage_rep hbinds
    -- what the staged bindings of the context are for a slot
    have hentry : ∀ c loc, (t.vmwContextBindingStateTransfer node.ctx (staged node.ctx)).entry c loc =
        if c = node.ctx then cmdEntry cmds t.entry c loc else t.entry c loc := by
      intro c loc
      rw [vmwContextBindingStateTransfer_entry hrep]
      by_cases hc : c = node.ctx
      · subst hc
        rw [if_pos rfl]
        unfold cmdEntry
        have hlast := lastBinding_map cmds node.ctx loc
        cases hcmd : lastCmd cmds node.ctx loc with
        | none =>
          rw [if_neg]
          intro hand
          rw [hcmd] at hlast
          rw [hstaged] at hand
          obtain ⟨_, bi, hbi, hslot⟩ := (mem_stage_list hbinds).mp hand.2
          exact lastBinding_eq_none_iff.mp hlast bi hbi hslot
        | some cmd =>
          rw [hcmd] at hlast
          have hmem := List.mem_of_find?_eq_some hcmd
          have hslot := List.find?_some hcmd
          simp only [Bool.decide_and, Bool.and_eq_true, decide_eq_true_eq] at hslot
          have hmem : cmd ∈ cmds := List.mem_reverse.mp hmem
          have hloc : loc.Valid := hslot.2 ▸ hvalid cmd hmem
          rw [if_pos, hstaged, stage_binding hloc, hlast]
          · rfl
          · refine ⟨rfl, ?_⟩
            rw [hstaged]
            apply (mem_stage_list hbinds).mpr
            refine ⟨hloc, cmd.bi, ?_, hslot.2⟩
            exact List.mem_map_of_mem (List.mem_filter.mpr ⟨hmem, by simpa using hslot.1⟩)
      · rw [if_neg (fun hand => hc hand.1), if_neg hc]
    obtain ⟨hrep', hentry'⟩ := ih hnodup (vmwContextBindingStateTransfer_spec hrep h).1
    refine ⟨hrep', ?_⟩
    intro c loc
    rw [List.foldl_cons, hentry']
    by_cases hc : c = node.ctx
    · subst hc
      rw [if_neg hnot, hentry, if_pos rfl, if_pos (by simp)]
    · have hsame : cmdEntry cmds (t.vmwContextBindingStateTransfer node.ctx
          (staged node.ctx)).entry c loc = cmdEntry cmds t.entry c loc := by
        unfold cmdEntry
        rw [hentry, if_neg hc]
      rw [hsame, hentry, if_neg hc, List.map_cons]
      simp [hc]

/-- The contexts of a batch that have staged bindings get rebound. -/
theorem whileOk_rebind (hfifo : ∀ k, env.fifo k = true) (h : Inv env s) {nodes : List CtxNode}
    (hctx : ∀ node ∈ nodes, s.id node.ctx ≠ svga3dInvalidId ∧ s.mobHead node.ctx) :
    ∃ s', whileOk (fun node => vmwContextRebindAll env node.ctx) nodes s = (0, s') ∧
      Inv env s' ∧ Frame s s' ∧ ∀ c loc, s'.tracker.entry c loc = (s.tracker.entry c loc).map
        (fun e => (e.1, e.2 && (c ∉ nodes.map CtxNode.ctx ||
          decide (s.id e.1 = svga3dInvalidId)))) := by
  induction nodes generalizing s with
  | nil => exact ⟨s, rfl, h, Frame.refl s, fun c loc => by simp⟩
  | cons node nodes ih =>
    obtain ⟨hid, hmob⟩ := hctx node List.mem_cons_self
    obtain ⟨s₁, hrun₁, h₁, hframe₁, hentry₁⟩ := vmwContextRebindAll_ok hfifo h hid hmob
    obtain ⟨s₂, hrun₂, h₂, hframe₂, hentry₂⟩ := ih h₁
      (by
        intro n hn
        rw [hframe₁.id, hframe₁.mobHead]
        exact hctx n (List.mem_cons_of_mem _ hn))
    refine ⟨s₂, ?_, h₂, hframe₁.trans hframe₂, ?_⟩
    · unfold whileOk
      rw [hrun₁]
      exact hrun₂
    · intro c loc
      rw [hentry₂, hentry₁, Option.map_map, hframe₁.id]
      congr 1
      funext e
      obtain ⟨r, b⟩ := e
      by_cases hc : c = node.ctx
      · by_cases hid : s.id r = svga3dInvalidId
        · simp [hc, hid]
        · simp [hc, hid]
      · simp [hc]

/-- Every context has its staged bindings, and every command is plain. -/
structure Batch.Plain (b : Batch) : Prop where
  staged : ∀ node ∈ b.ctxs, node.staged
  cmds : ∀ cmd ∈ b.cmds, cmd.Plain

theorem Batch.Ready.cmd_ctx (h : b.Ready env s) (cmd : BindCmd) (hcmd : cmd ∈ b.cmds) :
    cmd.ctx ∈ b.ctxs.map CtxNode.ctx ∧ env.ty cmd.ctx = .context ∧
      s.id cmd.ctx ≠ svga3dInvalidId ∧ s.mobHead cmd.ctx := by
  obtain ⟨node, hnode, _, heq⟩ := h.cmdCtx cmd hcmd
  obtain ⟨hty, _, hid, hmob⟩ := h.ctx node hnode
  rw [← heq]
  exact ⟨List.mem_map_of_mem hnode, hty, hid, hmob⟩

theorem vmwRebindContexts_ok (hfifo : ∀ k, env.fifo k = true) (h : Inv env s)
    (hready : b.Ready env s) (hplain : b.Plain) :
    ∃ s', vmwRebindContexts env b.ctxs s = (0, s') ∧ Inv env s' ∧ Frame s s' ∧ ∀ c loc,
      s'.tracker.entry c loc = (s.tracker.entry c loc).map
        (fun e => (e.1, e.2 && (c ∉ b.ctxs.map CtxNode.ctx ||
          decide (s.id e.1 = svga3dInvalidId)))) := by
  unfold vmwRebindContexts
  rw [List.takeWhile_eq_self_iff.mpr hplain.staged]
  exact whileOk_rebind hfifo h (fun node hnode => (hready.ctx node hnode).2.2)

/-- What rebinding leaves scrubbed is being released. -/
theorem Batch.Ready.rebound (hready : b.Ready env s) (h : Inv env s) {c : ResId} {loc : Slot}
    {r : ResId} {scrubbed : Bool} (hc : c ∈ b.ctxs.map CtxNode.ctx)
    (he : s.tracker.entry c loc = some (r, scrubbed)) (hlive : s.phase r = .live) :
    s.id r ≠ svga3dInvalidId := by
  obtain ⟨node, hnode, rfl⟩ := List.mem_map.mp hc
  apply hready.validated node hnode loc (h.rep.mem_list.mpr (by rw [he]; rfl)) r _ hlive
  exact (h.rep.entry_eq_some.mp he).2.2.1

theorem vmwExecbufSubmit_ok (hfifo : ∀ k, env.fifo k = true) (h : Inv env s)
    (hready : b.Ready env s) (hplain : b.Plain) :
    Inv env (vmwExecbufSubmit env b s).2 ∧ (vmwExecbufSubmit env b s).2.phase = s.phase ∧
      (∀ c loc, c ∉ b.ctxs.map CtxNode.ctx →
        (vmwExecbufSubmit env b s).2.tracker.entry c loc = s.tracker.entry c loc) ∧
      ∀ c loc r, c ∈ b.ctxs.map CtxNode.ctx →
        (vmwExecbufSubmit env b s).2.tracker.entry c loc = some (r, true) → s.phase r ≠ .live := by
  obtain ⟨s₁, hrun, h₁, hframe, hentry⟩ := vmwRebindContexts_ok hfifo h hready hplain
  obtain ⟨hmirrors, hlive, hhistory⟩ := h₁.runCmds hplain.cmds
    (by
      intro cmd hcmd
      rw [hframe.id, hframe.mobHead]
      exact (hready.cmd_ctx cmd hcmd).2)
    (by
      intro cmd hcmd r hr
      obtain ⟨hty, _, hid⟩ := hready.cmdRes cmd hcmd r hr
      rw [hframe.id]
      exact ⟨hty, hid⟩)
  obtain ⟨hrep, hspec⟩ := unreserve_spec
    (fun cmd hcmd => (hplain.cmds cmd hcmd).valid) hready.nodup h₁.rep b.stagedBindings
    (fun c => rfl)
  have hfilter : b.ctxs.filter CtxNode.staged = b.ctxs := List.filter_eq_self.mpr hplain.staged
  have hsubmit : vmwExecbufSubmit env b s = (0, b.unreserve { s₁ with
      fifo := s₁.fifo ++ b.cmds.map (BindCmd.relocated s₁), tick := s₁.tick + 1 }) := by
    simp only [vmwExecbufSubmit, hrun, emit_ok hfifo]
  rw [hsubmit]
  unfold Batch.unreserve
  rw [hfilter]
  -- a command of a batch is for one of its contexts
  have hcmds : ∀ c loc, c ∉ b.ctxs.map CtxNode.ctx →
      cmdEntry b.cmds s₁.tracker.entry c loc = s₁.tracker.entry c loc := by
    intro c loc hc
    unfold cmdEntry
    rw [lastCmd_eq_none_iff.mpr]
    intro cmd hcmd heq
    exact absurd (heq ▸ (hready.cmd_ctx cmd hcmd).1) hc
  have hfinal : ∀ c loc, (b.ctxs.foldl (fun t node =>
      t.vmwContextBindingStateTransfer node.ctx (b.stagedBindings node.ctx)) s₁.tracker).entry c loc =
        cmdEntry b.cmds s₁.tracker.entry c loc := by
    intro c loc
    rw [hspec]
    split
    · rfl
    · next hc => exact (hcmds c loc hc).symm
  refine ⟨⟨hrep, ?_, h₁.unique, h₁.inUse, ?_, h₁.gone, hhistory⟩, hframe.phase, ?_, ?_⟩
  · have heq := funext₂ hfinal
    change Mirrors env s₁.id s₁.mobHead (Tracker.entry _) _
    rw [heq]
    exact hmirrors
  · change ∀ ty i, (Device.run _).live ty i = true ↔ _
    rw [hlive]
    exact h₁.live
  · intro c loc hc
    refine (hfinal c loc).trans ?_
    rw [hcmds c loc hc, hentry]
    simp [hc]
  · intro c loc r hc he hphase
    have he := (hfinal c loc).symm.trans he
    unfold cmdEntry at he
    split at he
    · obtain ⟨r', _, heq⟩ := Option.map_eq_some_iff.mp he
      cases heq
    · rw [hentry] at he
      obtain ⟨e, hold, heq⟩ := Option.map_eq_some_iff.mp he
      obtain ⟨rfl, hflag⟩ := Prod.mk.inj heq
      have hid := hready.rebound h hc hold hphase
      simp [hc, hid] at hflag

end Submit

section Run

variable {env : Env} {s s' s'' : State} {c : ResId} {a : Action} {as : List Action}

/-- The bindings of a context stay, as long as neither it nor what it is bound to is released. -/
structure Keeps (c : ResId) (s s' : State) : Prop where
  phase : ∀ r, s'.phase r = .live → s.phase r = .live
  none : ∀ loc, s.tracker.entry c loc = none → s'.tracker.entry c loc = none
  some : ∀ loc r b, s.tracker.entry c loc = some (r, b) → s'.phase c = .live →
    s'.phase r = .live → ∃ b', s'.tracker.entry c loc = some (r, b')

theorem Keeps.refl (c : ResId) (s : State) : Keeps c s s :=
  ⟨fun _ h => h, fun _ h => h, fun _ _ b h _ _ => ⟨b, h⟩⟩

theorem Keeps.trans (h : Keeps c s s') (h' : Keeps c s' s'') : Keeps c s s'' where
  phase r hr := h.phase r (h'.phase r hr)
  none loc he := h'.none loc (h.none loc he)
  some := by
    intro loc r b he hc hr
    obtain ⟨b', he'⟩ := h.some loc r b he (h'.phase c hc) (h'.phase r hr)
    exact h'.some loc r b' he' hc hr

theorem Keeps.of_kept (hphase : s'.phase = s.phase)
    (hkept : ∀ loc, (s'.tracker.entry c loc).map Prod.fst = (s.tracker.entry c loc).map Prod.fst) :
    Keeps c s s' where
  phase r hr := hphase ▸ hr
  none := by
    intro loc he
    have heq := hkept loc
    rw [he] at heq
    exact Option.map_eq_none_iff.mp heq
  some := by
    intro loc r b he _ _
    have heq := hkept loc
    rw [he] at heq
    obtain ⟨e, he', heq⟩ := Option.map_eq_some_iff.mp heq
    exact ⟨e.2, he'.trans (congrArg Option.some (Prod.ext heq rfl))⟩

theorem Quiet.keeps (h : Quiet env s s') (c : ResId) : Keeps c s s' :=
  Keeps.of_kept h.phase (h.kept c)

theorem releaseHw_ok (hfifo : ∀ k, env.fifo k = true) (h : Inv env s) (res : ResId) :
    Inv env (releaseHw env res s) ∧ Keeps c s (releaseHw env res s) := by
  -- a context is unbound first
  have hunbind : ∃ s₁, releaseHw env res s =
      { hwDestroy env res s₁ with
        phase := Function.update (hwDestroy env res s₁).phase res .destroyed } ∧
      Quiet env s s₁ := by
    unfold releaseHw
    by_cases hmob : env.ty res = .context ∧ s.mobHead res
    · rw [if_pos hmob]
      exact ⟨_, rfl, (unbind_ok hfifo h res).1⟩
    · rw [if_neg hmob]
      exact ⟨s, rfl, h, rfl, fun _ _ => rfl⟩
  obtain ⟨s₁, heq, hquiet⟩ := hunbind
  obtain ⟨h', hphase, hid, hnone, hkept⟩ := hwDestroy_ok hfifo hquiet.inv res
  rw [heq]
  have hphase' : ∀ r, Function.update (hwDestroy env res s₁).phase res .destroyed r = .live →
      r ≠ res ∧ s₁.phase r = .live := by
    intro r hr
    have hne : r ≠ res := by
      intro heq
      rw [heq, Function.update_self] at hr
      cases hr
    rw [Function.update_of_ne hne, hphase] at hr
    exact ⟨hne, hr⟩
  refine ⟨h'.setPhase (fun _ => hid), (hquiet.keeps c).trans ⟨?_, hnone c, ?_⟩⟩
  · intro r hr
    exact (hphase' r hr).2
  · intro loc r b he hc _
    have hkept := hkept c loc (hphase' c hc).1
    rw [he] at hkept
    obtain ⟨e, he', heq⟩ := Option.map_eq_some_iff.mp hkept
    exact ⟨e.2, he'.trans (congrArg Option.some (Prod.ext heq rfl))⟩

theorem releaseKill_ok (hfifo : ∀ k, env.fifo k = true) (h : Inv env s) (res : ResId)
    (hdestroyed : s.phase res = .destroyed) :
    Inv env (releaseKill env res s) ∧ Keeps c s (releaseKill env res s) := by
  obtain ⟨h', hframe, hentry⟩ := vmwContextBindingResListKill_ok hfifo h res
  have hid : s.id res = svga3dInvalidId := h.gone res (Or.inl hdestroyed)
  unfold releaseKill
  dsimp only
  rw [if_neg (by rw [hframe.id]; exact not_not.mpr hid)]
  refine ⟨h'.setPhase (fun _ => by rw [hframe.id]; exact hid), ?_, ?_, ?_⟩
  · intro r hr
    change Function.update (vmwContextBindingResListKill env res s).phase res .freed r = _ at hr
    by_cases heq : r = res
    · rw [heq, Function.update_self] at hr
      cases hr
    · rwa [Function.update_of_ne heq, hframe.phase] at hr
  · intro loc he
    change (vmwContextBindingResListKill env res s).tracker.entry c loc = none
    rw [hentry, he]
    rfl
  · intro loc r b he _ hr
    refine ⟨b, ?_⟩
    change (vmwContextBindingResListKill env res s).tracker.entry c loc = some (r, b)
    rw [hentry, he]
    have hne : r ≠ res := by
      intro heq
      change Function.update (vmwContextBindingResListKill env res s).phase res .freed r = _ at hr
      rw [heq, Function.update_self] at hr
      cases hr
    simp [Option.filter, hne]

/-- The batches a run submits are plain. -/
def Action.Plain : Action → Prop
  | .submit b => b.Plain
  | _ => True

/-- A batch on the context. -/
def Action.Submits (c : ResId) : Action → Prop
  | .submit b => c ∈ b.ctxs.map CtxNode.ctx
  | _ => False

theorem step_ok (hfifo : ∀ k, env.fifo k = true) (hplain : a.Plain) (hstep : step env s a = some s')
    (h : Inv env s) : Inv env s' ∧ (¬ a.Submits c → Keeps c s s') := by
  cases a with
  | validate res =>
    obtain ⟨hlive, heq⟩ := Option.ite_none_right_eq_some.mp hstep
    cases heq
    have hquiet := vmwResourceDoValidate_ok hfifo h hlive
    exact ⟨hquiet.inv, fun _ => hquiet.keeps c⟩
  | moveNotify ctx =>
    obtain ⟨_, heq⟩ := Option.ite_none_right_eq_some.mp hstep
    cases heq
    have hquiet := (unbind_ok hfifo h ctx).1
    exact ⟨hquiet.inv, fun _ => hquiet.keeps c⟩
  | evict res =>
    obtain ⟨_, heq⟩ := Option.ite_none_right_eq_some.mp hstep
    cases heq
    have hquiet := vmwResourceDoEvict_ok hfifo h res
    exact ⟨hquiet.inv, fun _ => hquiet.keeps c⟩
  | submit b =>
    obtain ⟨hready, heq⟩ := Option.ite_none_right_eq_some.mp hstep
    cases heq
    obtain ⟨h', hphase, hother, _⟩ := vmwExecbufSubmit_ok hfifo h hready hplain
    refine ⟨h', fun hc => Keeps.of_kept hphase ?_⟩
    intro loc
    rw [hother c loc hc]
  | doom res =>
    obtain ⟨_, heq⟩ := Option.ite_none_right_eq_some.mp hstep
    cases heq
    refine ⟨h.setPhase (by simp), fun _ => ⟨?_, fun _ he => he, fun _ _ b he _ _ => ⟨b, he⟩⟩⟩
    intro r hr
    change Function.update s.phase res .doomed r = _ at hr
    by_cases heq : r = res
    · rw [heq, Function.update_self] at hr
      cases hr
    · rwa [Function.update_of_ne heq] at hr
  | hwDestroy res =>
    obtain ⟨_, heq⟩ := Option.ite_none_right_eq_some.mp hstep
    cases heq
    obtain ⟨h', hkeeps⟩ := releaseHw_ok hfifo h res
    exact ⟨h', fun _ => hkeeps⟩
  | kill res =>
    obtain ⟨hdestroyed, heq⟩ := Option.ite_none_right_eq_some.mp hstep
    cases heq
    obtain ⟨h', hkeeps⟩ := releaseKill_ok hfifo h res hdestroyed
    exact ⟨h', fun _ => hkeeps⟩

/-- What a slot of a context is bound to on the device. -/
def State.bound (s : State) (c : ResId) (loc : Slot) : Option Target :=
  s.device.bound (s.id c) loc

/-- Two states' targets are the same, but for the id of the resource. -/
def SameTarget (env : Env) (ty : ResType) (s s' : State) : Option Target → Option Target → Prop
  | none, none => True
  | some tgt, some tgt' => tgt.face = tgt'.face ∧ tgt.mipmap = tgt'.mipmap ∧
      ∃ r, env.ty r = ty ∧ tgt.id = s.id r ∧ tgt'.id = s'.id r
  | _, _ => False

theorem Inv.bound_of_entry (h : Inv env s) {loc : Slot} {r : ResId}
    (he : s.tracker.entry c loc = some (r, false)) : s.bound c loc = some ⟨s.id r, 0, 0⟩ :=
  (h.mirrors.agree _ _ _).mpr ⟨c, r, he, rfl, rfl⟩

theorem Inv.bound_of_none (h : Inv env s) {loc : Slot} (hty : env.ty c = .context)
    (he : s.tracker.entry c loc = none) : s.bound c loc = none := by
  unfold State.bound
  cases hbound : s.device.bound (s.id c) loc with
  | none => rfl
  | some tgt =>
    obtain ⟨c', r, he', heq, _⟩ := (h.mirrors.agree _ _ _).mp hbound
    have hc := h.unique ((h.mirrors.typed he').1.trans hty.symm) heq (h.mirrors.held he').1
    rw [hc, he] at he'
    cases he'

theorem Run.keeps (hfifo : ∀ k, env.fifo k = true) {ok : State → Action → Prop}
    (hok : ∀ s a, ok s a → a.Plain ∧ ¬ a.Submits c) (hrun : Run (step env) ok s as s')
    (h : Inv env s) : Inv env s' ∧ Keeps c s s' := by
  induction hrun with
  | nil s => exact ⟨h, Keeps.refl c s⟩
  | cons ha hstep _ ih =>
    obtain ⟨hplain, hother⟩ := hok _ _ ha
    obtain ⟨h₁, hkeeps⟩ := step_ok (c := c) hfifo hplain hstep h
    obtain ⟨h₂, hkeeps'⟩ := ih h₁
    exact ⟨h₂, (hkeeps hother).trans hkeeps'⟩

/-- In a run whose FIFO reservations succeed, where the nodes of contexts have their staged
bindings and binding commands name slots that the device has and whole surfaces: no slot of the
device is ever bound to an id that has been destroyed; whatever is evicted between a state and
the next batch on a context, once that batch has rebound the context the device has bound, up to
the ids of the resources, what it had in that state, in every slot that was not scrubbed there
already and whose resource is not being released; and a batch leaves no slot of its contexts
scrubbed. -/
theorem scrub_rebind_preserves (hfifo : ∀ k, env.fifo k = true)
    (hrun : Run (step env) (fun _ a => a.Plain) .init as s) :
    (∀ p, p <+: s.fifo → (Device.run p).NoDangling) ∧
    (∀ c as' s' (b : Batch), Run (step env) (fun _ a => a.Plain ∧ ¬ a.Submits c) s as' s' →
      b.Ready env s' → b.Plain → c ∈ b.ctxs.map CtxNode.ctx →
      ∃ s'', vmwRebindContexts env b.ctxs s' = (0, s'') ∧ ∀ loc,
        (∀ r scrubbed, s.tracker.entry c loc = some (r, scrubbed) →
          scrubbed = false ∧ s'.phase r = .live) →
        SameTarget env loc.bt.resType s s'' (s.bound c loc) (s''.bound c loc)) ∧
    ∀ b s', step env s (.submit b) = some s' → b.Plain → ∀ c ∈ b.ctxs.map CtxNode.ctx,
      ∀ loc r, s'.tracker.entry c loc = some (r, true) → s'.phase r ≠ .live := by
  have h : Inv env s := hrun.invariant (I := Inv env)
    (fun s a s' hplain hstep h => (step_ok (c := 0) hfifo hplain hstep h).1) inv_init
  refine ⟨h.history, ?_, ?_⟩
  · intro c as' s' b hrun' hready hplain hc
    obtain ⟨h', hkeeps⟩ := Run.keeps hfifo (fun _ _ hok => hok) hrun' h
    obtain ⟨s'', hrebind, h'', hframe, hentry⟩ := vmwRebindContexts_ok hfifo h' hready hplain
    obtain ⟨node, hnode, hctx⟩ := List.mem_map.mp hc
    obtain ⟨hty, hlive, _⟩ := hready.ctx node hnode
    rw [hctx] at hty hlive
    refine ⟨s'', hrebind, ?_⟩
    intro loc hloc
    cases he : s.tracker.entry c loc with
    | none =>
      have he'' : s''.tracker.entry c loc = none := by
        rw [hentry, hkeeps.none loc he]
        rfl
      rw [h.bound_of_none hty he, h''.bound_of_none hty he'']
      exact trivial
    | some e =>
      obtain ⟨r, scrubbed⟩ := e
      obtain ⟨rfl, hr⟩ := hloc r scrubbed he
      obtain ⟨scrubbed', he'⟩ := hkeeps.some loc r false he hlive hr
      -- the resource exists again on the device
      have hid := hready.rebound h' hc he' hr
      have he'' : s''.tracker.entry c loc = some (r, false) := by
        rw [hentry, he']
        simp [hc, hid]
      rw [h.bound_of_entry he, h''.bound_of_entry he'']
      exact ⟨rfl, rfl, r, (h.mirrors.typed he).2, rfl, rfl⟩
  · intro b s' hstep hplain c hc loc r he
    obtain ⟨hready, heq⟩ := Option.ite_none_right_eq_some.mp hstep
    cases heq
    obtain ⟨_, hphase, _, hlast⟩ := vmwExecbufSubmit_ok hfifo h hready hplain
    rw [hphase]
    exact hlast c loc r hc he

/-- A context and a surface. -/
def rtEnv : Env := ⟨fun r => if r = 0 then .context else .surface, fun _ => true⟩

/-- A batch that sets the first render target to a mip level of the surface. -/
def rtBatch (mipmap : Nat) : Batch := ⟨[⟨0, true⟩], [⟨0, some 1, .rt, 0, 0, mipmap⟩]⟩

theorem rtBatch_plain : (rtBatch 0).Plain where
  staged := by decide
  cmds := by
    intro cmd hcmd
    rw [List.mem_singleton.mp hcmd]
    exact ⟨by decide, fun _ _ => ⟨rfl, rfl⟩⟩

/-- A batch sets a render target, the surface is evicted, the next batch rebinds. -/
theorem scrub_rebind_preserves_evicted : ∃ s s',
    exec (step rtEnv) (fun _ _ => true) .init [.validate 0, .validate 1, .submit (rtBatch 0)] =
        some s ∧
      exec (step rtEnv) (fun _ _ => true) s [.evict 1, .validate 1] = some s' ∧
      ∃ s'', vmwRebindContexts rtEnv (rtBatch 0).ctxs s' = (0, s'') ∧
        SameTarget rtEnv .surface s s'' (s.bound 0 ⟨.rt, 0⟩) (s''.bound 0 ⟨.rt, 0⟩) := by
  refine ⟨_, _, rfl, rfl, ?_⟩
  have hrun : Run (step rtEnv) (fun _ a => a.Plain) .init
      [.validate 0, .validate 1, .submit (rtBatch 0)] _ :=
    .cons trivial rfl (.cons trivial rfl (.cons rtBatch_plain rfl (.nil _)))
  obtain ⟨_, hrestore, _⟩ := scrub_rebind_preserves (fun _ => rfl) hrun
  obtain ⟨s'', hrun, hsame⟩ := hrestore 0 [.evict 1, .validate 1] _ (rtBatch 0)
    (.cons ⟨trivial, not_false⟩ rfl (.cons ⟨trivial, not_false⟩ rfl (.nil _)))
    (by decide) rtBatch_plain (by decide)
  refine ⟨s'', hrun, hsame ⟨.rt, 0⟩ ?_⟩
  intro r scrubbed he
  cases he
  exact ⟨rfl, rfl⟩

/-- The mip level of a render target is not recorded: the next batch binds the first one. -/
theorem mipmap_not_restored : ∃ s s' s'',
    exec (step rtEnv) (fun _ _ => true) .init [.validate 0, .validate 1, .submit (rtBatch 1)] =
        some s ∧
      exec (step rtEnv) (fun _ _ => true) s [.evict 1, .validate 1] = some s' ∧
      (rtBatch 1).Ready rtEnv s' ∧
      vmwRebindContexts rtEnv (rtBatch 1).ctxs s' = (0, s'') ∧
      s.bound 0 ⟨.rt, 0⟩ = some ⟨1, 0, 1⟩ ∧ s''.bound 0 ⟨.rt, 0⟩ = some ⟨1, 0, 0⟩ ∧
      ¬ SameTarget rtEnv .surface s s'' (s.bound 0 ⟨.rt, 0⟩) (s''.bound 0 ⟨.rt, 0⟩) := by
  refine ⟨_, _, _, rfl, rfl, by decide, rfl, by decide, by decide, ?_⟩
  intro hsame
  cases hsame.2.1

end Run

end Vmwgfx.Binding
