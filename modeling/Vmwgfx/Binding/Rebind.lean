import Mathlib.Data.List.Perm.Subperm
import Vmwgfx.Binding.Scrub

/-! What the device has bound, and what the tracker says of it. -/

namespace Vmwgfx.Binding

open Vmwgfx.Execbuf (ResType svga3dInvalidId)
open Vmwgfx.Lib

section Tracker

variable {t : Tracker} {c : ResId} {loc : Slot}

theorem Rep.entry_eq_some (h : Rep t) {r : ResId} {b : Bool} :
    t.entry c loc = some (r, b) ↔ ((t.cbs c).binding loc).ctx = some c ∧
      ((t.cbs c).binding loc).slot = loc ∧ ((t.cbs c).binding loc).res = some r ∧
      ((t.cbs c).binding loc).scrubbed = b := by
  unfold Tracker.entry
  constructor
  · intro he
    split at he
    · next hactive =>
      obtain ⟨r', hr', heq⟩ := Option.map_eq_some_iff.mp he
      cases heq
      obtain ⟨hctx, hslot, _⟩ := (h.ctx c).active loc hactive
      exact ⟨hctx, hslot, hr', rfl⟩
    · cases he
  · intro he
    obtain ⟨hctx, _, hres, hscrubbed⟩ := he
    rw [if_pos (by rw [hctx]; simp), hres, hscrubbed]
    rfl

theorem Rep.isSome_entry (h : Rep t) :
    (t.entry c loc).isSome ↔ ((t.cbs c).binding loc).ctx ≠ none := by
  unfold Tracker.entry
  split
  · next hactive => simpa [hactive] using Option.isSome_iff_ne_none.mpr (h.res c loc hactive)
  · next hfree => simpa using hfree

theorem Rep.mem_list (h : Rep t) : loc ∈ (t.cbs c).list ↔ (t.entry c loc).isSome := by
  rw [h.isSome_entry, (h.ctx c).mem_iff]

theorem Rep.mem_head (h : Rep t) {r : ResId} :
    (c, loc) ∈ t.bindingHead r ↔ ∃ b, t.entry c loc = some (r, b) := by
  rw [h.mem_head_iff]
  constructor
  · intro hmem
    obtain ⟨hctx, hslot, _⟩ := (h.ctx c).active loc hmem.1
    exact ⟨_, h.entry_eq_some.mpr ⟨hctx, hslot, hmem.2, rfl⟩⟩
  · intro he
    obtain ⟨b, he⟩ := he
    obtain ⟨hctx, _, hres, _⟩ := h.entry_eq_some.mp he
    exact ⟨by rw [hctx]; simp, hres⟩

theorem Tracker.setScrubbed_binding (t : Tracker) (c : ResId) (loc : Slot) (b : Bool) (c' : ResId)
    (loc' : Slot) : ((t.setScrubbed c loc b).cbs c').binding loc' =
      if c' = c ∧ loc' = loc then { (t.cbs c).binding loc with scrubbed := b }
      else (t.cbs c').binding loc' := by
  unfold Tracker.setScrubbed
  by_cases hc : c' = c
  · subst hc
    by_cases hloc : loc' = loc
    · simp [hloc]
    · simp [hloc]
  · simp [hc]

theorem Tracker.setScrubbed_list (t : Tracker) (c : ResId) (loc : Slot) (b : Bool) (c' : ResId) :
    ((t.setScrubbed c loc b).cbs c').list = (t.cbs c').list := by
  unfold Tracker.setScrubbed
  by_cases hc : c' = c
  · subst hc
    simp
  · simp [hc]

theorem Tracker.setScrubbed_entry (t : Tracker) (c : ResId) (loc : Slot) (b : Bool) (c' : ResId)
    (loc' : Slot) : (t.setScrubbed c loc b).entry c' loc' =
      if c' = c ∧ loc' = loc then (t.entry c loc).map (fun e => (e.1, b))
      else t.entry c' loc' := by
  unfold Tracker.entry
  rw [Tracker.setScrubbed_binding]
  split
  · split
    · rw [Option.map_map]
      rfl
    · rfl
  · rfl

theorem Rep.setScrubbed (h : Rep t) (c : ResId) (loc : Slot) (b : Bool) :
    Rep (t.setScrubbed c loc b) := by
  -- only the flag of one binding differs
  have hbinding : ∀ c' loc', ∃ b', ((t.setScrubbed c loc b).cbs c').binding loc' =
      { (t.cbs c').binding loc' with scrubbed := b' } := by
    intro c' loc'
    rw [Tracker.setScrubbed_binding]
    split
    · next heq =>
      rw [heq.1, heq.2]
      exact ⟨b, rfl⟩
    · exact ⟨_, rfl⟩
  constructor
  · intro c'
    constructor
    · rw [Tracker.setScrubbed_list]
      exact (h.ctx c').nodup
    · intro loc'
      obtain ⟨b', hb'⟩ := hbinding c' loc'
      rw [Tracker.setScrubbed_list, hb']
      exact (h.ctx c').mem_iff loc'
    · intro loc'
      obtain ⟨b', hb'⟩ := hbinding c' loc'
      rw [hb']
      exact (h.ctx c').active loc'
  · exact h.head_nodup
  · intro r c' loc'
    obtain ⟨b', hb'⟩ := hbinding c' loc'
    rw [hb']
    exact h.mem_head_iff r c' loc'
  · intro c' loc'
    obtain ⟨b', hb'⟩ := hbinding c' loc'
    rw [hb']
    exact h.res c' loc'

theorem dropActive_of_isSome (h : Rep t) (hsome : (t.entry c loc).isSome) :
    t.dropActive c loc = t.vmwContextBindingDrop c loc :=
  if_pos (h.isSome_entry.mp hsome)

end Tracker

section Mirror

variable {env : Env} {id : ResId → Nat} {mob : ResId → Bool} {c : ResId} {loc : Slot}
  {entry : ResId → Slot → Option (ResId × Bool)} {d : Device}

/-- The device has bound just what the tracker has and what has not been scrubbed. -/
structure Mirrors (env : Env) (id : ResId → Nat) (mob : ResId → Bool)
    (entry : ResId → Slot → Option (ResId × Bool)) (d : Device) : Prop where
  typed : ∀ {c loc r b}, entry c loc = some (r, b) →
    env.ty c = .context ∧ env.ty r = loc.bt.resType
  held : ∀ {c loc r}, entry c loc = some (r, false) →
    id c ≠ svga3dInvalidId ∧ id r ≠ svga3dInvalidId ∧ mob c
  agree : ∀ cid loc tgt, d.bound cid loc = some tgt ↔
    ∃ c r, entry c loc = some (r, false) ∧ id c = cid ∧ tgt = ⟨id r, 0, 0⟩

def Unique (env : Env) (id : ResId → Nat) : Prop :=
  ∀ {r r'}, env.ty r = env.ty r' → id r = id r' → id r ≠ svga3dInvalidId → r = r'

/-- The entries with one of them replaced. -/
def replaceEntry (entry : ResId → Slot → Option (ResId × Bool)) (c : ResId) (loc : Slot)
    (e : Option (ResId × Bool)) (c' : ResId) (loc' : Slot) : Option (ResId × Bool) :=
  if c' = c ∧ loc' = loc then e else entry c' loc'

theorem Device.bind_bound (d : Device) (cid : Nat) (loc : Slot) (tgt : Target) (cid' : Nat)
    (loc' : Slot) : (d.bind cid loc tgt).bound cid' loc' =
      if cid' = cid ∧ loc' = loc then (if tgt.id = svga3dInvalidId then none else some tgt)
      else d.bound cid' loc' := by
  unfold Device.bind
  by_cases hcid : cid' = cid
  · subst hcid
    by_cases hloc : loc' = loc
    · simp [hloc]
    · simp [hloc]
  · simp [hcid]

/-- Binding a slot on the device goes with replacing its entry. -/
theorem Mirrors.bind {e : Option (ResId × Bool)} {x : Nat} (h : Mirrors env id mob entry d)
    (hunique : Unique env id) (hctx : env.ty c = .context) (hid : id c ≠ svga3dInvalidId)
    (htyped : ∀ {r b}, e = some (r, b) → env.ty r = loc.bt.resType)
    (hx : (∃ r, e = some (r, false) ∧ x = id r ∧ id r ≠ svga3dInvalidId ∧ mob c) ∨
      ((∀ r, e ≠ some (r, false)) ∧ x = svga3dInvalidId)) :
    Mirrors env id mob (replaceEntry entry c loc e) (d.bind (id c) loc ⟨x, 0, 0⟩) where
  typed := by
    intro c' loc' r b he
    unfold replaceEntry at he
    split at he
    · next heq =>
      rw [heq.1, heq.2]
      exact ⟨hctx, htyped he⟩
    · exact h.typed he
  held := by
    intro c' loc' r he
    unfold replaceEntry at he
    split at he
    · next heq =>
      rw [heq.1]
      cases hx with
      | inl hx =>
        obtain ⟨r', he', _, hr', hmob⟩ := hx
        rw [he'] at he
        cases he
        exact ⟨hid, hr', hmob⟩
      | inr hx => exact absurd he (hx.1 r)
    · exact h.held he
  agree := by
    intro cid loc' tgt
    rw [Device.bind_bound]
    split
    · next heq =>
      obtain ⟨rfl, rfl⟩ := heq
      -- no other context has the id of `c`
      have hself : ∀ c' r, replaceEntry entry c loc' e c' loc' = some (r, false) →
          id c' = id c → c' = c := by
        intro c' r he heq
        by_contra hne
        unfold replaceEntry at he
        rw [if_neg (fun hand => hne hand.1)] at he
        apply hne
        apply hunique ((h.typed he).1.trans hctx.symm) heq
        exact (h.held he).1
      cases hx with
      | inl hx =>
        obtain ⟨r, rfl, rfl, hr, _⟩ := hx
        rw [if_neg hr]
        constructor
        · intro htgt
          cases htgt
          exact ⟨c, r, if_pos ⟨rfl, rfl⟩, rfl, rfl⟩
        · intro hex
          obtain ⟨c', r', he, heq, rfl⟩ := hex
          have hc := hself c' r' he heq
          subst hc
          unfold replaceEntry at he
          rw [if_pos ⟨rfl, rfl⟩] at he
          cases he
          rfl
      | inr hx =>
        obtain ⟨hnone, rfl⟩ := hx
        rw [if_pos rfl]
        constructor
        · intro htgt
          cases htgt
        · intro hex
          obtain ⟨c', r', he, heq, _⟩ := hex
          have hc := hself c' r' he heq
          subst hc
          unfold replaceEntry at he
          rw [if_pos ⟨rfl, rfl⟩] at he
          exact absurd he (hnone r')
    · next hne =>
      rw [h.agree]
      have hiff : ∀ c', id c' = cid →
          replaceEntry entry c loc e c' loc' = entry c' loc' := by
        intro c' heq
        unfold replaceEntry
        apply if_neg
        intro hand
        exact hne ⟨hand.1 ▸ heq.symm, hand.2⟩
      constructor
      · intro hex
        obtain ⟨c', r', he, heq, htgt⟩ := hex
        exact ⟨c', r', (hiff c' heq).trans he, heq, htgt⟩
      · intro hex
        obtain ⟨c', r', he, heq, htgt⟩ := hex
        exact ⟨c', r', (hiff c' heq).symm.trans he, heq, htgt⟩

theorem Mirrors.noDangling (h : Mirrors env id mob entry d)
    (hlive : ∀ r, id r ≠ svga3dInvalidId → d.live (env.ty r) (id r) = true) : d.NoDangling := by
  intro cid loc tgt hbound
  obtain ⟨c, r, he, _, rfl⟩ := (h.agree cid loc tgt).mp hbound
  rw [← (h.typed he).2]
  exact hlive r (h.held he).2.1

/-- Entries that are scrubbed do not show on the device. -/
theorem Mirrors.congr {entry' : ResId → Slot → Option (ResId × Bool)}
    (h : Mirrors env id mob entry d)
    (htyped : ∀ {c loc r b}, entry' c loc = some (r, b) → ∃ b', entry c loc = some (r, b'))
    (heq : ∀ c loc r, entry' c loc = some (r, false) ↔ entry c loc = some (r, false)) :
    Mirrors env id mob entry' d where
  typed := by
    intro c loc r b he
    obtain ⟨b', he⟩ := htyped he
    exact h.typed he
  held := by
    intro c loc r he
    exact h.held ((heq c loc r).mp he)
  agree := by
    intro cid loc tgt
    rw [h.agree]
    simp only [heq]

end Mirror

section Inv

structure Inv (env : Env) (s : State) : Prop where
  rep : Rep s.tracker
  mirrors : Mirrors env s.id s.mobHead s.tracker.entry s.device
  unique : Unique env s.id
  inUse : ∀ ty i, i ∈ s.idr ty ↔ i ≠ svga3dInvalidId ∧ ∃ r, env.ty r = ty ∧ s.id r = i
  live : ∀ ty i, s.device.live ty i = true ↔ i ∈ s.idr ty
  gone : ∀ r, s.phase r = .destroyed ∨ s.phase r = .freed → s.id r = svga3dInvalidId
  history : ∀ p, p <+: s.fifo → (Device.run p).NoDangling

variable {env : Env} {s s' : State}

theorem Inv.live_id (h : Inv env s) (r : ResId) (hid : s.id r ≠ svga3dInvalidId) :
    s.device.live (env.ty r) (s.id r) = true :=
  (h.live _ _).mpr ((h.inUse _ _).mpr ⟨hid, r, rfl, rfl⟩)

theorem inv_init : Inv env .init where
  rep := rep_empty
  mirrors := by
    constructor
    · intro c loc r b he
      cases he
    · intro c loc r he
      cases he
    · intro cid loc tgt
      constructor
      · intro hbound
        cases hbound
      · intro hex
        obtain ⟨c, r, he, _⟩ := hex
        cases he
  unique := by
    intro r r' _ _ hid
    exact absurd rfl hid
  inUse := by
    intro ty i
    constructor
    · intro hmem
      cases hmem
    · intro hex
      obtain ⟨hne, r, _, heq⟩ := hex
      exact absurd heq.symm hne
  live := by
    intro ty i
    constructor
    · intro hlive
      cases hlive
    · intro hmem
      cases hmem
  gone := by
    intro r _
    rfl
  history := by
    intro p hp
    rw [List.prefix_nil.mp hp]
    intro cid loc tgt hbound
    cases hbound

theorem Device.run_concat (fifo : List Cmd) (cmd : Cmd) :
    Device.run (fifo ++ [cmd]) = (Device.run fifo).exec cmd := by
  simp [Device.run]

theorem history_concat {fifo : List Cmd} {cmd : Cmd}
    (h : ∀ p, p <+: fifo → (Device.run p).NoDangling)
    (hcmd : (Device.run (fifo ++ [cmd])).NoDangling) :
    ∀ p, p <+: fifo ++ [cmd] → (Device.run p).NoDangling := by
  intro p hp
  cases List.prefix_concat_iff.mp hp with
  | inl heq => exact heq ▸ hcmd
  | inr hp => exact h p hp

end Inv

section Entry

variable {env : Env} {s : State} {c : ResId} {loc : Slot} {r : ResId} {b : Bool}

/-- What scrubbing and rebinding leave alone. -/
structure Frame (s s' : State) : Prop where
  id : s'.id = s.id
  idr : s'.idr = s.idr
  mobHead : s'.mobHead = s.mobHead
  phase : s'.phase = s.phase

theorem Frame.refl (s : State) : Frame s s := ⟨rfl, rfl, rfl, rfl⟩

theorem Frame.trans {s s' s'' : State} (h : Frame s s') (h' : Frame s' s'') : Frame s s'' :=
  ⟨h'.id.trans h.id, h'.idr.trans h.idr, h'.mobHead.trans h.mobHead, h'.phase.trans h.phase⟩

theorem emit_ok (hfifo : ∀ k, env.fifo k = true) (cmds : List Cmd) (s : State) :
    s.emit env cmds = (0, { s with fifo := s.fifo ++ cmds, tick := s.tick + 1 }) :=
  if_pos (hfifo _)

/-- The three scrub functions bind a slot, or take its binding off. -/
theorem vmwScrubFuncs_ok (hfifo : ∀ k, env.fifo k = true) (bi : Bindinfo) (rebind : Bool)
    (s : State) : ∃ cmd, vmwScrubFuncs env bi.bt bi rebind s =
        (0, { s with fifo := s.fifo ++ [cmd], tick := s.tick + 1 }) ∧
      ∀ d : Device, d.exec cmd = d.bind (s.idOf bi.ctx) bi.slot
        ⟨if rebind then s.idOf bi.res else svga3dInvalidId, 0, 0⟩ := by
  obtain ⟨ctx, res, bt, scrubbed, i1⟩ := bi
  cases bt with
  | shader => exact ⟨_, emit_ok hfifo _ s, fun d => rfl⟩
  | rt => exact ⟨_, emit_ok hfifo _ s, fun d => rfl⟩
  | tex => exact ⟨_, emit_ok hfifo _ s, fun d => rfl⟩

/-- A binding command is emitted for an entry, and the flag of the entry set. -/
theorem Inv.emitEntry (h : Inv env s) (he : s.tracker.entry c loc = some (r, b))
    (hid : s.id c ≠ svga3dInvalidId) {cmd : Cmd} {scrubbed : Bool}
    (hcmd : ∀ d : Device, d.exec cmd =
      d.bind (s.id c) loc ⟨if scrubbed then svga3dInvalidId else s.id r, 0, 0⟩)
    (hrebind : scrubbed = false → s.id r ≠ svga3dInvalidId ∧ s.mobHead c) :
    Inv env (State.setScrubbed { s with fifo := s.fifo ++ [cmd], tick := s.tick + 1 } (c, loc)
      scrubbed) := by
  have hdevice : Device.run (s.fifo ++ [cmd]) =
      s.device.bind (s.id c) loc ⟨if scrubbed then svga3dInvalidId else s.id r, 0, 0⟩ := by
    rw [Device.run_concat, hcmd]
    rfl
  have hentry : (s.tracker.setScrubbed c loc scrubbed).entry =
      replaceEntry s.tracker.entry c loc (some (r, scrubbed)) := by
    funext c' loc'
    rw [Tracker.setScrubbed_entry, he]
    rfl
  have hmirrors : Mirrors env s.id s.mobHead
      (replaceEntry s.tracker.entry c loc (some (r, scrubbed))) (Device.run (s.fifo ++ [cmd])) := by
    rw [hdevice]
    apply h.mirrors.bind h.unique (h.mirrors.typed he).1 hid
    · intro r' b' heq
      cases heq
      exact (h.mirrors.typed he).2
    · cases scrubbed with
      | true => exact Or.inr ⟨fun r' heq => (by cases heq), rfl⟩
      | false => exact Or.inl ⟨r, rfl, rfl, hrebind rfl⟩
  have hlive : ∀ ty i, (Device.run (s.fifo ++ [cmd])).live ty i = true ↔ i ∈ s.idr ty := by
    rw [hdevice]
    exact h.live
  refine ⟨h.rep.setScrubbed c loc scrubbed, ?_, h.unique, h.inUse, hlive, h.gone, ?_⟩
  · change Mirrors env s.id s.mobHead (s.tracker.setScrubbed c loc scrubbed).entry _
    rw [hentry]
    exact hmirrors
  · apply history_concat h.history
    apply hmirrors.noDangling
    intro r' hr'
    exact (hlive _ _).mpr ((h.inUse _ _).mpr ⟨hr', r', rfl, rfl⟩)

theorem scrubEntry_ok (hfifo : ∀ k, env.fifo k = true) (h : Inv env s)
    (he : s.tracker.entry c loc = some (r, b)) : Inv env (scrubEntry env s (c, loc)) ∧
      Frame s (scrubEntry env s (c, loc)) ∧
      (scrubEntry env s (c, loc)).tracker.entry =
        replaceEntry s.tracker.entry c loc (some (r, true)) := by
  obtain ⟨hctx, hslot, hres, hscrubbed⟩ := h.rep.entry_eq_some.mp he
  cases b with
  | true =>
    have heq : scrubEntry env s (c, loc) = s := if_pos hscrubbed
    rw [heq]
    refine ⟨h, Frame.refl s, ?_⟩
    funext c' loc'
    unfold replaceEntry
    split
    · next hand => rw [hand.1, hand.2, he]
    · rfl
  | false =>
    obtain ⟨cmd, hrun, hcmd⟩ :=
      vmwScrubFuncs_ok hfifo ((s.tracker.cbs c).binding loc) false s
    have heq : scrubEntry env s (c, loc) = State.setScrubbed
        { s with fifo := s.fifo ++ [cmd], tick := s.tick + 1 } (c, loc) true := by
      unfold scrubEntry
      rw [if_neg (by simp [hscrubbed]), hrun]
    rw [heq]
    refine ⟨?_, ⟨rfl, rfl, rfl, rfl⟩, ?_⟩
    · apply h.emitEntry he (h.mirrors.held he).1
      · intro d
        rw [hcmd, hctx, hslot]
        rfl
      · intro hfalse
        cases hfalse
    · funext c' loc'
      change (s.tracker.setScrubbed c loc true).entry c' loc' = _
      rw [Tracker.setScrubbed_entry, he]
      rfl

/-- A scrubbed entry can be dropped. -/
theorem Inv.drop (h : Inv env s) (he : s.tracker.entry c loc = some (r, true)) :
    Inv env { s with tracker := s.tracker.vmwContextBindingDrop c loc } ∧
      (s.tracker.vmwContextBindingDrop c loc).entry = replaceEntry s.tracker.entry c loc none := by
  have hdrop : s.tracker.dropActive c loc = s.tracker.vmwContextBindingDrop c loc :=
    dropActive_of_isSome h.rep (by rw [he]; rfl)
  have hentry : (s.tracker.vmwContextBindingDrop c loc).entry =
      replaceEntry s.tracker.entry c loc none := by
    funext c' loc'
    rw [← hdrop, Tracker.dropActive_entry]
    rfl
  refine ⟨⟨?_, ?_, h.unique, h.inUse, h.live, h.gone, h.history⟩, hentry⟩
  · change Rep (s.tracker.vmwContextBindingDrop c loc)
    rw [← hdrop]
    exact h.rep.dropActive c loc
  · change Mirrors env s.id s.mobHead (s.tracker.vmwContextBindingDrop c loc).entry s.device
    rw [hentry]
    apply h.mirrors.congr
    · intro c' loc' r' b' he'
      unfold replaceEntry at he'
      split at he'
      · cases he'
      · exact ⟨b', he'⟩
    · intro c' loc' r'
      unfold replaceEntry
      split
      · next hand => simp [hand.1, hand.2, he]
      · rfl

theorem vmwContextBindingKill_ok (hfifo : ∀ k, env.fifo k = true) (h : Inv env s)
    (he : s.tracker.entry c loc = some (r, b)) :
    Inv env (vmwContextBindingKill env s (c, loc)) ∧
      Frame s (vmwContextBindingKill env s (c, loc)) ∧
      (vmwContextBindingKill env s (c, loc)).tracker.entry =
        replaceEntry s.tracker.entry c loc none := by
  obtain ⟨hinv, hframe, hentry⟩ := scrubEntry_ok hfifo h he
  have he' : (scrubEntry env s (c, loc)).tracker.entry c loc = some (r, true) := by
    rw [hentry]
    exact if_pos ⟨rfl, rfl⟩
  obtain ⟨hinv', hentry'⟩ := hinv.drop he'
  refine ⟨hinv', ⟨hframe.id, hframe.idr, hframe.mobHead, hframe.phase⟩, ?_⟩
  change ((scrubEntry env s (c, loc)).tracker.vmwContextBindingDrop c loc).entry = _
  rw [hentry', hentry]
  funext c' loc'
  unfold replaceEntry
  split
  · rfl
  · rfl

theorem rebindEntry_ok (hfifo : ∀ k, env.fifo k = true) (h : Inv env s)
    (he : s.tracker.entry c loc = some (r, b)) (hid : s.id c ≠ svga3dInvalidId)
    (hmob : s.mobHead c) : ∃ s', rebindEntry env (c, loc) s = (0, s') ∧ Inv env s' ∧ Frame s s' ∧
      s'.tracker.entry = replaceEntry s.tracker.entry c loc
        (some (r, b && decide (s.id r = svga3dInvalidId))) := by
  obtain ⟨hctx, hslot, hres, hscrubbed⟩ := h.rep.entry_eq_some.mp he
  have hsame : ∀ e, s.tracker.entry c loc = e →
      s.tracker.entry = replaceEntry s.tracker.entry c loc e := by
    intro e heq
    funext c' loc'
    unfold replaceEntry
    split
    · next hand => rw [hand.1, hand.2, heq]
    · rfl
  unfold rebindEntry
  cases b with
  | false =>
    rw [if_pos (by simp [hscrubbed])]
    exact ⟨s, rfl, h, Frame.refl s, hsame _ he⟩
  | true =>
    rw [if_neg (by simp [hscrubbed]), hres, State.idOf_some]
    by_cases hr : s.id r = svga3dInvalidId
    · rw [if_pos hr]
      refine ⟨s, rfl, h, Frame.refl s, hsame _ ?_⟩
      simp [he, hr]
    · rw [if_neg hr]
      obtain ⟨cmd, hrun, hcmd⟩ := vmwScrubFuncs_ok hfifo ((s.tracker.cbs c).binding loc) true s
      rw [hrun]
      refine ⟨_, rfl, ?_, ⟨rfl, rfl, rfl, rfl⟩, ?_⟩
      · apply h.emitEntry he hid
        · intro d
          rw [hcmd, hctx, hslot, hres]
          rfl
        · intro _
          exact ⟨hr, hmob⟩
      · funext c' loc'
        change (s.tracker.setScrubbed c loc false).entry c' loc' = _
        rw [Tracker.setScrubbed_entry, he]
        simp [replaceEntry, hr]

end Entry

section Loop

variable {env : Env} {s : State} {ctx res : ResId}

theorem whileOk_pure {ι : Type} (f : State → ι → State) (xs : List ι) (s : State) :
    whileOk (fun x s => (0, f s x)) xs s = (0, xs.foldl f s) := by
  induction xs generalizing s with
  | nil => rfl
  | cons x xs ih => exact ih (f s x)

/-- A loop over entries does to each of them what its body does to one. -/
theorem whileOk_entries (s₀ : State) {f : ResId × Slot → State → Int × State}
    {g : ResId × Bool → Option (ResId × Bool)} {es : List (ResId × Slot)} (hnodup : es.Nodup)
    (hf : ∀ s c loc e, (c, loc) ∈ es → Frame s₀ s → Inv env s → s.tracker.entry c loc = some e →
      ∃ s', f (c, loc) s = (0, s') ∧ Inv env s' ∧ Frame s s' ∧
        s'.tracker.entry = replaceEntry s.tracker.entry c loc (g e))
    (hframe : Frame s₀ s) (h : Inv env s)
    (hes : ∀ c loc, (c, loc) ∈ es → (s.tracker.entry c loc).isSome) :
    ∃ s', whileOk f es s = (0, s') ∧ Inv env s' ∧ Frame s s' ∧ ∀ c loc,
      s'.tracker.entry c loc =
        if (c, loc) ∈ es then (s.tracker.entry c loc).bind g else s.tracker.entry c loc := by
  induction es generalizing s with
  | nil => exact ⟨s, rfl, h, Frame.refl s, fun c loc => by simp⟩
  | cons x es ih =>
    obtain ⟨c, loc⟩ := x
    obtain ⟨hnot, hnodup⟩ := List.nodup_cons.mp hnodup
    obtain ⟨e, he⟩ := Option.isSome_iff_exists.mp (hes c loc List.mem_cons_self)
    obtain ⟨s₁, hrun, h₁, hframe₁, hentry₁⟩ := hf s c loc e List.mem_cons_self hframe h he
    have hother : ∀ c' loc', (c', loc') ∈ es →
        s₁.tracker.entry c' loc' = s.tracker.entry c' loc' := by
      intro c' loc' hmem
      rw [hentry₁]
      apply if_neg
      intro hand
      exact hnot (hand.1 ▸ hand.2 ▸ hmem)
    obtain ⟨s₂, hrun₂, h₂, hframe₂, hentry₂⟩ := ih hnodup
      (fun s c loc e hmem => hf s c loc e (List.mem_cons_of_mem _ hmem)) (hframe.trans hframe₁) h₁
      (by
        intro c' loc' hmem
        rw [hother c' loc' hmem]
        exact hes c' loc' (List.mem_cons_of_mem _ hmem))
    refine ⟨s₂, ?_, h₂, hframe₁.trans hframe₂, ?_⟩
    · unfold whileOk
      rw [hrun]
      exact hrun₂
    · intro c' loc'
      rw [hentry₂]
      by_cases hmem : (c', loc') ∈ es
      · rw [if_pos hmem, if_pos (List.mem_cons_of_mem _ hmem), hother c' loc' hmem]
      · rw [if_neg hmem, hentry₁]
        unfold replaceEntry
        by_cases heq : c' = c ∧ loc' = loc
        · obtain ⟨rfl, rfl⟩ := heq
          rw [if_pos ⟨rfl, rfl⟩, if_pos List.mem_cons_self, he]
          rfl
        · rw [if_neg heq, if_neg]
          intro hmem'
          cases List.mem_cons.mp hmem' with
          | inl hx => exact heq (Prod.mk.inj hx)
          | inr hmem' => exact hmem hmem'

theorem foldl_entries {f : State → ResId × Slot → State}
    {g : ResId × Bool → Option (ResId × Bool)} {es : List (ResId × Slot)} (hnodup : es.Nodup)
    (hf : ∀ {s c loc r b}, Inv env s → s.tracker.entry c loc = some (r, b) →
      Inv env (f s (c, loc)) ∧ Frame s (f s (c, loc)) ∧
        (f s (c, loc)).tracker.entry = replaceEntry s.tracker.entry c loc (g (r, b)))
    (h : Inv env s) (hes : ∀ c loc, (c, loc) ∈ es → (s.tracker.entry c loc).isSome) :
    Inv env (es.foldl f s) ∧ Frame s (es.foldl f s) ∧ ∀ c loc,
      (es.foldl f s).tracker.entry c loc =
        if (c, loc) ∈ es then (s.tracker.entry c loc).bind g else s.tracker.entry c loc := by
  obtain ⟨s', hrun, h', hframe, hentry⟩ := whileOk_entries s (f := fun x s => (0, f s x)) hnodup
    (fun s c loc e _ _ h he => ⟨_, rfl, hf h he⟩) (Frame.refl s) h hes
  rw [whileOk_pure] at hrun
  cases hrun
  exact ⟨h', hframe, hentry⟩

theorem Inv.mem_ctxList (h : Inv env s) {c : ResId} {loc : Slot} :
    (c, loc) ∈ s.ctxList ctx ↔ c = ctx ∧ (s.tracker.entry c loc).isSome := by
  unfold State.ctxList
  rw [List.mem_map]
  constructor
  · intro hex
    obtain ⟨loc', hmem, heq⟩ := hex
    cases heq
    exact ⟨rfl, h.rep.mem_list.mp hmem⟩
  · intro hand
    obtain ⟨rfl, hsome⟩ := hand
    exact ⟨loc, h.rep.mem_list.mpr hsome, rfl⟩

theorem Inv.nodup_ctxList (h : Inv env s) : (s.ctxList ctx).Nodup := by
  apply List.Nodup.map _ (h.rep.ctx ctx).nodup
  intro loc loc' heq
  exact (Prod.mk.inj heq).2

theorem Inv.isSome_head (h : Inv env s) (c : ResId) (loc : Slot)
    (hmem : (c, loc) ∈ s.tracker.bindingHead res) : (s.tracker.entry c loc).isSome := by
  obtain ⟨b, he⟩ := h.rep.mem_head.mp hmem
  rw [he]
  rfl

theorem vmwContextBindingStateScrub_ok (hfifo : ∀ k, env.fifo k = true) (h : Inv env s)
    (ctx : ResId) :
    Inv env (vmwContextBindingStateScrub env ctx s) ∧
      Frame s (vmwContextBindingStateScrub env ctx s) ∧ ∀ c loc,
      (vmwContextBindingStateScrub env ctx s).tracker.entry c loc =
        (s.tracker.entry c loc).map (fun e => (e.1, if c = ctx then true else e.2)) := by
  obtain ⟨h', hframe, hentry⟩ := foldl_entries (g := fun e => some (e.1, true))
    h.nodup_ctxList (scrubEntry_ok hfifo) h (fun c loc hmem => (h.mem_ctxList.mp hmem).2)
  refine ⟨h', hframe, ?_⟩
  intro c loc
  rw [vmwContextBindingStateScrub, hentry]
  simp only [h.mem_ctxList]
  cases he : s.tracker.entry c loc with
  | none => simp
  | some e =>
    by_cases hc : c = ctx
    · simp [hc]
    · simp [hc]

theorem vmwContextBindingStateKill_ok (hfifo : ∀ k, env.fifo k = true) (h : Inv env s)
    (ctx : ResId) :
    Inv env (vmwContextBindingStateKill env ctx s) ∧
      Frame s (vmwContextBindingStateKill env ctx s) ∧ ∀ c loc,
      (vmwContextBindingStateKill env ctx s).tracker.entry c loc =
        if c = ctx then none else s.tracker.entry c loc := by
  obtain ⟨h', hframe, hentry⟩ := foldl_entries (g := fun _ => none)
    h.nodup_ctxList (vmwContextBindingKill_ok hfifo) h
    (fun c loc hmem => (h.mem_ctxList.mp hmem).2)
  refine ⟨h', hframe, ?_⟩
  intro c loc
  rw [vmwContextBindingStateKill, hentry]
  simp only [h.mem_ctxList]
  cases he : s.tracker.entry c loc with
  | none => simp
  | some e => simp

theorem vmwContextBindingResListScrub_ok (hfifo : ∀ k, env.fifo k = true) (h : Inv env s)
    (res : ResId) :
    Inv env (vmwContextBindingResListScrub env res s) ∧
      Frame s (vmwContextBindingResListScrub env res s) ∧ ∀ c loc,
      (vmwContextBindingResListScrub env res s).tracker.entry c loc =
        (s.tracker.entry c loc).map (fun e => (e.1, if e.1 = res then true else e.2)) := by
  obtain ⟨h', hframe, hentry⟩ := foldl_entries (g := fun e => some (e.1, true))
    (h.rep.head_nodup res) (scrubEntry_ok hfifo) h h.isSome_head
  refine ⟨h', hframe, ?_⟩
  intro c loc
  rw [vmwContextBindingResListScrub, hentry]
  simp only [h.rep.mem_head]
  cases he : s.tracker.entry c loc with
  | none => simp
  | some e =>
    obtain ⟨r, b⟩ := e
    by_cases hr : r = res
    · simp [hr]
    · simp [hr]

theorem vmwContextBindingResListKill_ok (hfifo : ∀ k, env.fifo k = true) (h : Inv env s)
    (res : ResId) :
    Inv env (vmwContextBindingResListKill env res s) ∧
      Frame s (vmwContextBindingResListKill env res s) ∧ ∀ c loc,
      (vmwContextBindingResListKill env res s).tracker.entry c loc =
        (s.tracker.entry c loc).filter (fun e => e.1 ≠ res) := by
  obtain ⟨h', hframe, hentry⟩ := foldl_entries (g := fun _ => none)
    (h.rep.head_nodup res) (vmwContextBindingKill_ok hfifo) h h.isSome_head
  refine ⟨h', hframe, ?_⟩
  intro c loc
  rw [vmwContextBindingResListKill, hentry]
  simp only [h.rep.mem_head]
  cases he : s.tracker.entry c loc with
  | none => simp
  | some e =>
    obtain ⟨r, b⟩ := e
    by_cases hr : r = res
    · simp [hr, Option.filter]
    · simp [hr, Option.filter]

theorem vmwContextRebindAll_ok (hfifo : ∀ k, env.fifo k = true) (h : Inv env s)
    (hid : s.id ctx ≠ svga3dInvalidId) (hmob : s.mobHead ctx) :
    ∃ s', vmwContextRebindAll env ctx s = (0, s') ∧ Inv env s' ∧ Frame s s' ∧ ∀ c loc,
      s'.tracker.entry c loc = (s.tracker.entry c loc).map
        (fun e => (e.1, e.2 && (c ≠ ctx || decide (s.id e.1 = svga3dInvalidId)))) := by
  obtain ⟨s', hrun, h', hframe, hentry⟩ := whileOk_entries s (f := rebindEntry env)
    (g := fun e => some (e.1, e.2 && decide (s.id e.1 = svga3dInvalidId)))
    h.nodup_ctxList
    (by
      intro s₁ c loc e hmem hframe h₁ he
      have hc := (h.mem_ctxList.mp hmem).1
      subst hc
      obtain ⟨s₂, hrun, h₂, hframe₂, hentry₂⟩ := rebindEntry_ok hfifo h₁ he
        (by rw [hframe.id]; exact hid) (by rw [hframe.mobHead]; exact hmob)
      rw [hframe.id] at hentry₂
      exact ⟨s₂, hrun, h₂, hframe₂, hentry₂⟩)
    (Frame.refl s) h (fun c loc hmem => (h.mem_ctxList.mp hmem).2)
  refine ⟨s', hrun, h', hframe, ?_⟩
  intro c loc
  rw [hentry]
  simp only [h.mem_ctxList]
  cases he : s.tracker.entry c loc with
  | none => simp
  | some e =>
    by_cases hc : c = ctx
    · simp [hc]
    · simp [hc]

end Loop

end Vmwgfx.Binding
