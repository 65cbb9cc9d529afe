import Mathlib.Data.List.Forall2
import Vmwgfx.Binding.Transfer
import Vmwgfx.Execbuf.Handlers

/-! What the services of the verifier do to the buffer and to the lists of the software
context.  The log of a batch says it in one place. -/

namespace Vmwgfx.Execbuf

open Vmwgfx.Binding (Bindinfo CtxBindingState stage)
open Vmwgfx.Cmdbuf (ManId ShaderWorld vmwCompatShaderLookup)
open Vmwgfx.Hashtab Vmwgfx.Lib

variable {hashLong : HashLong}

namespace Event

def resReloc? : Event → Option ResourceRelocation
  | .resReloc rel => some rel
  | _ => none

def write? : Event → Option (Nat × Nat)
  | .write a v => some (a, v)
  | _ => none

def bind? : Event → Option Bindinfo
  | .bind bi => some bi
  | _ => none

def isBufReloc : Event → Bool
  | .mobReloc _ _ => true
  | .guestReloc _ _ => true
  | _ => false

/-- A relocation entry is the one of a logged buffer reference. -/
def Records (valBufs : List ValidateBuffer) (rel : Relocation) : Event → Prop
  | .mobReloc a bo =>
    rel.mobLoc = a ∧ rel.location = none ∧ valBufs[rel.index]? = some ⟨bo, true⟩
  | .guestReloc a bo => rel.location = some a ∧ valBufs[rel.index]? = some ⟨bo, false⟩
  | _ => False

end Event

/-- The bindings a log has for a context. -/
def bindsOf (c : ResId) (events : List Event) : List Bindinfo :=
  (events.filterMap Event.bind?).filter (fun bi => bi.ctx = some c)

/-- `node->staged_bindings` of a resource on the list. -/
def State.staged (s : State hashLong) (c : ResId) : Option CtxBindingState :=
  (s.node c).bind (·.stagedBindings)

/-- The lists of the software context are what the log says. -/
structure Inv (env : Env) (s : State hashLong) : Prop where
  res : s.resRelocations = s.events.filterMap Event.resReloc?
  buf : List.Forall₂ (Event.Records s.valBufs) s.relocs (s.events.filter Event.isBufReloc)
  cache : ∀ resType rcache, s.resCache resType = some rcache →
    (∃ t, env.lookup t resType rcache.handle = some rcache.res) ∧
      ∀ n, rcache.node = some n → n = rcache.res ∧ s.node n ≠ none
  nodup : s.resourceList.Nodup
  mem_iff : ∀ r, r ∈ s.resourceList ↔ s.node r ≠ none
  staged : ∀ c cbs, s.staged c = some cbs → cbs = stage (bindsOf c s.events)
  bound : ∀ bi ∈ s.events.filterMap Event.bind?, (bi.bt ≠ .tex → bi.slot.Valid) ∧
    ∃ c, bi.ctx = some c ∧ s.node c ≠ none ∧ (bi.slot.Valid → s.staged c ≠ none)

/-- A piece of the check that has logged some events. -/
structure Logged (env : Env) (s t : State hashLong) (evs : List Event) : Prop where
  inv : Inv env t
  events : t.events = s.events ++ evs
  mem : t.mem = s.mem.writeAll (evs.filterMap Event.write?)
  nodes : ∀ r, s.node r ≠ none → t.node r ≠ none

/-- It has left the compat shaders alone, but for their reference counts. -/
structure Did (env : Env) (s t : State hashLong) (evs : List Event) : Prop
    extends Logged env s t evs where
  shaders : ∃ kref, t.shaders = { s.shaders with world.kref := kref }

/-- The fields the log is about are the same. -/
structure Same (s t : State hashLong) : Prop where
  mem : t.mem = s.mem
  events : t.events = s.events
  resRelocations : t.resRelocations = s.resRelocations
  relocs : t.relocs = s.relocs
  valBufs : t.valBufs = s.valBufs
  resourceList : t.resourceList = s.resourceList
  node : t.node = s.node
  resCache : t.resCache = s.resCache
  shaders : ∃ kref, t.shaders = { s.shaders with world.kref := kref }

section Log

variable {env : Env} {s t u : State hashLong} {evs evs' : List Event}

theorem Logged.trans (h : Logged env s t evs) (h' : Logged env t u evs') :
    Logged env s u (evs ++ evs') where
  inv := h'.inv
  events := by rw [h'.events, h.events, List.append_assoc]
  mem := by rw [h'.mem, h.mem, List.filterMap_append, Mem.writeAll_append]
  nodes := fun r hr => h'.nodes r (h.nodes r hr)

theorem Did.trans (h : Did env s t evs) (h' : Did env t u evs') : Did env s u (evs ++ evs') where
  toLogged := h.toLogged.trans h'.toLogged
  shaders := by
    cases h.shaders with
    | intro kref hk =>
      cases h'.shaders with
      | intro kref' hk' =>
        rw [hk] at hk'
        exact ⟨kref', hk'⟩

theorem Same.inv (h : Same s t) (hs : Inv env s) : Inv env t := by
  have hstaged : t.staged = s.staged := by
    funext c
    unfold State.staged
    rw [h.node]
  constructor
  · rw [h.resRelocations, h.events]
    exact hs.res
  · rw [h.valBufs, h.relocs, h.events]
    exact hs.buf
  · rw [h.resCache, h.node]
    exact hs.cache
  · rw [h.resourceList]
    exact hs.nodup
  · rw [h.resourceList, h.node]
    exact hs.mem_iff
  · rw [hstaged, h.events]
    exact hs.staged
  · rw [hstaged, h.events, h.node]
    exact hs.bound

theorem Same.did (h : Same s t) (hs : Inv env s) : Did env s t [] where
  inv := h.inv hs
  events := by rw [h.events, List.append_nil]
  mem := h.mem
  nodes := by
    intro r hr
    rw [h.node]
    exact hr
  shaders := h.shaders

theorem Did.refl (hs : Inv env s) : Did env s s [] :=
  Same.did ⟨rfl, rfl, rfl, rfl, rfl, rfl, rfl, rfl, ⟨_, rfl⟩⟩ hs

/-- A step that touches none of the fields, after others. -/
theorem Did.same (h : Did env s t evs) (h' : Same t u) : Did env s u evs := by
  have := h.trans (h'.did h.inv)
  rwa [List.append_nil] at this

theorem bindsOf_append (c : ResId) (evs evs' : List Event) :
    bindsOf c (evs ++ evs') = bindsOf c evs ++ bindsOf c evs' := by
  unfold bindsOf
  rw [List.filterMap_append, List.filter_append]

/-- A context that is not on the list has no bindings. -/
theorem Inv.bindsOf_eq_nil (hs : Inv env s) {c : ResId} (hc : s.node c = none) :
    bindsOf c s.events = [] := by
  unfold bindsOf
  rw [List.filter_eq_nil_iff]
  intro bi hbi hctx
  obtain ⟨_, c', hc', hnode, _⟩ := hs.bound bi hbi
  rw [hc'] at hctx
  cases of_decide_eq_true hctx
  exact hnode hc

end Log

section Steps

variable {env : Env} {s t : State hashLong}

theorem Same.of_rel (mem : t.mem = s.mem) (events : t.events = s.events)
    (resRelocations : t.resRelocations = s.resRelocations) (relocs : t.relocs = s.relocs)
    (valBufs : t.valBufs = s.valBufs) (resourceList : t.resourceList = s.resourceList)
    (node : t.node = s.node) (resCache : t.resCache = s.resCache)
    (shaders : t.shaders = s.shaders) : Same s t :=
  ⟨mem, events, resRelocations, relocs, valBufs, resourceList, node, resCache, ⟨_, shaders⟩⟩

theorem same_tick (s : State hashLong) : Same s { s with tick := s.tick + 1 } :=
  .of_rel rfl rfl rfl rfl rfl rfl rfl rfl rfl

theorem same_addBufRef (s : State hashLong) (bo : BufId) (n : Int) : Same s (s.addBufRef bo n) :=
  .of_rel rfl rfl rfl rfl rfl rfl rfl rfl rfl

theorem same_reference (s : State hashLong) (r : ResId) : Same s (s.reference r) :=
  ⟨rfl, rfl, rfl, rfl, rfl, rfl, rfl, rfl, ⟨_, rfl⟩⟩

theorem same_unreference (s : State hashLong) (r : ResId) : Same s (s.unreference r) :=
  ⟨rfl, rfl, rfl, rfl, rfl, rfl, rfl, rfl, ⟨_, rfl⟩⟩

theorem filterMap_bind_log {e : Event} (hbind : e.bind? = none) (evs : List Event) :
    (evs ++ [e]).filterMap Event.bind? = evs.filterMap Event.bind? := by
  simp [List.filterMap_append, hbind]

theorem bindsOf_log {e : Event} (hbind : e.bind? = none) (c : ResId) (evs : List Event) :
    bindsOf c (evs ++ [e]) = bindsOf c evs := by
  unfold bindsOf
  rw [filterMap_bind_log hbind]

/-- An event that only the log keeps. -/
theorem Inv.log (hs : Inv env s) {e : Event} (hres : e.resReloc? = none)
    (hbuf : e.isBufReloc = false) (hbind : e.bind? = none) :
    Inv env { s with events := s.events ++ [e] } := by
  constructor
  · simpa [List.filterMap_append, hres] using hs.res
  · simpa [List.filter_append, hbuf] using hs.buf
  · exact hs.cache
  · exact hs.nodup
  · exact hs.mem_iff
  · intro c cbs h
    rw [bindsOf_log hbind]
    exact hs.staged c cbs h
  · intro bi hbi
    rw [filterMap_bind_log hbind] at hbi
    exact hs.bound bi hbi

theorem load_ok {a v : Nat} (hs : Inv env s) (h : load a s = .ok v t) :
    v = s.mem.read32 a ∧ Did env s t [.read a 4] := by
  cases h
  exact ⟨rfl, ⟨⟨hs.log rfl rfl rfl, rfl, rfl, fun _ hr => hr⟩, ⟨_, rfl⟩⟩⟩

theorem logRead_ok {a n : Nat} (hs : Inv env s) (h : log (.read a n) s = .ok () t) :
    Did env s t [.read a n] := by
  cases h
  exact ⟨⟨hs.log rfl rfl rfl, rfl, rfl, fun _ hr => hr⟩, ⟨_, rfl⟩⟩

theorem store_ok {a v : Nat} (hs : Inv env s) (h : store a v s = .ok () t) :
    Did env s t [.write a v] := by
  cases h
  have hlog : Inv env { s with events := s.events ++ [.write a v] } := hs.log rfl rfl rfl
  exact ⟨⟨{ hlog with }, rfl, rfl, fun _ hr => hr⟩, ⟨_, rfl⟩⟩

theorem ask_ok {α : Type} {f : Nat → α} {v : α} (hs : Inv env s) (h : ask f s = .ok v t) :
    v = f s.tick ∧ Did env s t [] := by
  cases h
  exact ⟨rfl, (same_tick s).did hs⟩

theorem onError_ok {α : Type} {x : Verify hashLong α} {undo : State hashLong → State hashLong}
    {v : α} : onError x undo s = .ok v t ↔ x s = .ok v t := by
  unfold onError
  cases x s with
  | ok a r => exact Iff.rfl
  | error e r => exact ⟨(fun h => nomatch h), (fun h => nomatch h)⟩

theorem check_ok {ret : Int} : check ret s = .ok () t ↔ ret = 0 ∧ s = t := by
  unfold check
  by_cases hret : ret = 0
  · rw [if_neg (not_not_intro hret)]
    exact ⟨fun h => ⟨hret, by cases h; rfl⟩, fun h => by rw [h.2]; rfl⟩
  · rw [if_pos hret]
    exact ⟨(fun h => nomatch h), fun h => absurd h.1 hret⟩

theorem vmwResourceRelocationAdd_ok {res : Option ResId} {offset : Nat} (hs : Inv env s)
    (h : vmwResourceRelocationAdd env res offset s = .ok () t) :
    Did env s t [.resReloc ⟨res, offset⟩] ∧ t.node = s.node ∧ t.resCache = s.resCache := by
  unfold vmwResourceRelocationAdd at h
  obtain ⟨b, s₁, hask, h⟩ := bind_eq_ok.mp h
  have htick := (ask_ok hs hask).2
  cases hask
  split at h
  · cases h
    have hs' := htick.inv
    refine ⟨⟨⟨?_, rfl, rfl, fun _ hr => hr⟩, ⟨_, rfl⟩⟩, rfl, rfl⟩
    constructor
    · change s.resRelocations ++ [⟨res, offset⟩] =
        (s.events ++ [Event.resReloc ⟨res, offset⟩]).filterMap Event.resReloc?
      rw [List.filterMap_append, hs.res]
      rfl
    · simpa [List.filter_append, Event.isBufReloc] using hs'.buf
    · exact hs'.cache
    · exact hs'.nodup
    · exact hs'.mem_iff
    · intro c cbs hc
      rw [bindsOf_log rfl]
      exact hs'.staged c cbs hc
    · intro bi hbi
      rw [filterMap_bind_log rfl] at hbi
      exact hs'.bound bi hbi
  · cases h

end Steps

section Nodes

variable {env : Env} {s t : State hashLong} {res : ResId}

theorem setNode_node (s : State hashLong) (r r' : ResId) (n : ValNode) :
    (s.setNode r n).node r' = if r' = r then some n else s.node r' := Function.update_apply _ _ _ _

theorem setNode_node_ne_none {r r' : ResId} {n : ValNode} (h : s.node r' ≠ none) :
    (s.setNode r n).node r' ≠ none := by
  rw [setNode_node]
  split
  · exact Option.some_ne_none n
  · exact h

/-- A node changes, but not its staged bindings. -/
theorem Inv.setNode (hs : Inv env s) {n n' : ValNode} (hn : s.node res = some n)
    (hstaged : n'.stagedBindings = n.stagedBindings) : Did env s (s.setNode res n') [] := by
  have hnode : ∀ r, (s.setNode res n').node r ≠ none ↔ s.node r ≠ none := by
    intro r
    rw [setNode_node]
    split
    · next hr => rw [hr, hn]; simp
    · exact Iff.rfl
  have hst : (s.setNode res n').staged = s.staged := by
    funext c
    unfold State.staged
    rw [setNode_node]
    split
    · next hc => rw [hc, hn]; exact hstaged
    · rfl
  refine ⟨⟨?_, (List.append_nil _).symm, rfl, fun r hr => (hnode r).mpr hr⟩, ⟨_, rfl⟩⟩
  constructor
  · exact hs.res
  · exact hs.buf
  · intro resType rcache h
    refine ⟨(hs.cache resType rcache h).1, ?_⟩
    intro m hm
    exact ⟨((hs.cache resType rcache h).2 m hm).1, (hnode m).mpr ((hs.cache resType rcache h).2 m hm).2⟩
  · exact hs.nodup
  · intro r
    rw [hnode]
    exact hs.mem_iff r
  · rw [hst]
    exact hs.staged
  · intro bi hbi
    obtain ⟨hvalid, c, hc, hnc, hstc⟩ := hs.bound bi hbi
    rw [hst]
    exact ⟨hvalid, c, hc, (hnode c).mpr hnc, hstc⟩

/-- A resource that was not on the list goes on it. -/
theorem Inv.addNode (hs : Inv env s) (hn : s.node res = none) :
    Did env s { (s.setNode res ⟨none, none, 0, true, false⟩).reference res with
      resourceList := s.resourceList ++ [res] } [] := by
  have hnode : ∀ r, s.node r ≠ none → (s.setNode res ⟨none, none, 0, true, false⟩).node r ≠ none :=
    fun r hr => setNode_node_ne_none hr
  have hst : (s.setNode res ⟨none, none, 0, true, false⟩).staged = s.staged := by
    funext c
    unfold State.staged
    rw [setNode_node]
    split
    · next hc => rw [hc, hn]; rfl
    · rfl
  refine ⟨⟨?_, (List.append_nil _).symm, rfl, hnode⟩, ⟨_, rfl⟩⟩
  constructor
  · exact hs.res
  · exact hs.buf
  · intro resType rcache h
    refine ⟨(hs.cache resType rcache h).1, ?_⟩
    intro m hm
    exact ⟨((hs.cache resType rcache h).2 m hm).1, hnode m ((hs.cache resType rcache h).2 m hm).2⟩
  · apply List.Nodup.append hs.nodup (List.nodup_singleton _)
    intro r hr hr'
    rw [List.mem_singleton] at hr'
    exact (hs.mem_iff r).mp hr (hr' ▸ hn)
  · intro r
    change r ∈ s.resourceList ++ [res] ↔ (s.setNode res ⟨none, none, 0, true, false⟩).node r ≠ none
    rw [List.mem_append, List.mem_singleton, hs.mem_iff, setNode_node]
    by_cases hr : r = res
    · simp [hr]
    · simp [hr]
  · intro c cbs h
    exact hs.staged c cbs (hst ▸ h)
  · intro bi hbi
    obtain ⟨hvalid, c, hc, hnc, hstc⟩ := hs.bound bi hbi
    exact ⟨hvalid, c, hc, hnode c hnc, fun hv => hst ▸ hstc hv⟩

/-- Only a new node is in its first usage. -/
theorem vmwResourceValAdd_ok (hs : Inv env s) (h : vmwResourceValAdd env res s = .ok () t) :
    Did env s t [] ∧ t.node res ≠ none ∧
      ((t.node res).any (·.firstUsage) = true → s.node res = none) := by
  unfold vmwResourceValAdd at h
  obtain ⟨n, s₁, hfind, h⟩ := bind_eq_ok.mp h
  cases hfind
  cases hn : s.node res with
  | some n =>
    rw [hn] at h
    cases h
    have hself : (s.setNode res { n with firstUsage := false }).node res =
        some { n with firstUsage := false } := Function.update_self _ _ _
    refine ⟨hs.setNode hn rfl, ?_, ?_⟩
    · rw [hself]
      exact Option.some_ne_none _
    · intro hfirst
      rw [hself] at hfirst
      cases hfirst
  | none =>
    rw [hn] at h
    obtain ⟨b, s₂, hask, h⟩ := bind_eq_ok.mp h
    have htick := (ask_ok hs hask).2
    cases hask
    split at h
    · cases h
      have hnew := htick.inv.addNode hn
      have hself : ({ s with tick := s.tick + 1 }.setNode res ⟨none, none, 0, true, false⟩).node res =
        some ⟨none, none, 0, true, false⟩ := Function.update_self _ _ _
      refine ⟨htick.trans hnew, ?_, fun _ => rfl⟩
      change ({ s with tick := s.tick + 1 }.setNode res ⟨none, none, 0, true, false⟩).node res ≠ none
      rw [hself]
      exact Option.some_ne_none _
    · cases h

theorem valAddAll_ok {rs : List ResId} (hs : Inv env s) (h : valAddAll env rs s = .ok () t) :
    Did env s t [] := by
  induction rs generalizing s with
  | nil =>
    cases h
    exact Did.refl hs
  | cons r rs ih =>
    obtain ⟨_, s₁, hadd, h⟩ := bind_eq_ok.mp h
    have hfirst := (vmwResourceValAdd_ok hs hadd).1
    exact hfirst.trans (ih hfirst.inv h)

theorem vmwResourceContextResAdd_ok (hs : Inv env s)
    (h : vmwResourceContextResAdd env res s = .ok () t) : Did env s t [] := by
  obtain ⟨bound, s₁, hask, h⟩ := bind_eq_ok.mp h
  have htick := (ask_ok hs hask).2
  exact htick.trans (valAddAll_ok htick.inv h)

/-- A context goes to the head of the list. -/
theorem Inv.front (hs : Inv env s) (hn : s.node res ≠ none) :
    Did env s { s with resourceList := res :: s.resourceList.erase res } [] := by
  have hperm := List.perm_cons_erase ((hs.mem_iff res).mpr hn)
  refine ⟨⟨{ hs with nodup := ?_, mem_iff := ?_ }, (List.append_nil _).symm, rfl, fun _ hr => hr⟩,
    ⟨_, rfl⟩⟩
  · exact hperm.nodup_iff.mp hs.nodup
  · intro r
    rw [← hs.mem_iff r]
    exact hperm.mem_iff.symm

theorem setStaged_of_node {n : ValNode} {cbs : CtxBindingState} (hn : s.node res = some n) :
    setStaged res cbs s = s.setNode res { n with stagedBindings := some cbs } := by
  unfold setStaged
  rw [hn]

/-- The staged bindings of a context that has a node become what its bindings are. -/
theorem Inv.restage {events : List Event} {cbs : CtxBindingState}
    (hs : Inv env s) (hn : s.node res ≠ none) (hcbs : cbs = stage (bindsOf res events))
    (hres : events.filterMap Event.resReloc? = s.events.filterMap Event.resReloc?)
    (hbuf : events.filter Event.isBufReloc = s.events.filter Event.isBufReloc)
    (hother : ∀ c, c ≠ res → bindsOf c events = bindsOf c s.events)
    (hbound : ∀ bi ∈ events.filterMap Event.bind?, bi ∈ s.events.filterMap Event.bind? ∨
      (bi.bt ≠ .tex → bi.slot.Valid) ∧ bi.ctx = some res) :
    Inv env (setStaged res cbs { s with events := events }) := by
  obtain ⟨n, hn⟩ := Option.ne_none_iff_exists'.mp hn
  rw [setStaged_of_node (s := { s with events := events }) hn]
  have hnode : ∀ r, s.node r ≠ none →
      ({ s with events := events }.setNode res { n with stagedBindings := some cbs }).node r ≠ none :=
    fun r hr => setNode_node_ne_none hr
  have hself : ({ s with events := events }.setNode res
      { n with stagedBindings := some cbs }).staged res = some cbs := by
    unfold State.staged
    rw [setNode_node, if_pos rfl]
    rfl
  have hst : ∀ c, c ≠ res → ({ s with events := events }.setNode res
      { n with stagedBindings := some cbs }).staged c = s.staged c := by
    intro c hc
    unfold State.staged
    rw [setNode_node, if_neg hc]
  constructor
  · exact hs.res.trans hres.symm
  · change List.Forall₂ _ s.relocs (events.filter Event.isBufReloc)
    rw [hbuf]
    exact hs.buf
  · intro resType rcache h
    refine ⟨(hs.cache resType rcache h).1, ?_⟩
    intro m hm
    exact ⟨((hs.cache resType rcache h).2 m hm).1, hnode m ((hs.cache resType rcache h).2 m hm).2⟩
  · exact hs.nodup
  · intro r
    rw [setNode_node]
    change r ∈ s.resourceList ↔ _
    rw [hs.mem_iff]
    split
    · next hr => rw [hr, hn]; simp
    · exact Iff.rfl
  · intro c cbs' h
    by_cases hc : c = res
    · subst hc
      rw [hself] at h
      cases h
      exact hcbs
    · rw [hst c hc] at h
      rw [hs.staged c cbs' h]
      exact congrArg stage (hother c hc).symm
  · intro bi hbi
    cases hbound bi hbi with
    | inl hold =>
      obtain ⟨hvalid, c, hc, hnc, hstc⟩ := hs.bound bi hold
      refine ⟨hvalid, c, hc, hnode c hnc, ?_⟩
      intro hv
      by_cases hcr : c = res
      · rw [hcr, hself]
        exact Option.some_ne_none _
      · rw [hst c hcr]
        exact hstc hv
    | inr hnew =>
      refine ⟨hnew.1, res, hnew.2, hnode res (by rw [hn]; exact Option.some_ne_none _), ?_⟩
      intro _
      rw [hself]
      exact Option.some_ne_none _

/-- New staged bindings start empty. -/
theorem Inv.restage_empty (hs : Inv env s) (hn : s.node res ≠ none)
    (hbinds : bindsOf res s.events = []) : Did env s (setStaged res .empty s) [] := by
  have hcbs : CtxBindingState.empty = stage (bindsOf res s.events) := by
    rw [hbinds]
    rfl
  have hinv := hs.restage hn hcbs rfl rfl (fun _ _ => rfl) (fun _ hbi => .inl hbi)
  obtain ⟨n, hn⟩ := Option.ne_none_iff_exists'.mp hn
  have hset : setStaged res .empty s = s.setNode res { n with stagedBindings := some .empty } :=
    setStaged_of_node hn
  refine ⟨⟨hinv, ?_, ?_, ?_⟩, ?_⟩
  · rw [hset]
    exact (List.append_nil _).symm
  · rw [hset]
    rfl
  · intro r hr
    rw [hset]
    exact setNode_node_ne_none hr
  · rw [hset]
    exact ⟨_, rfl⟩

end Nodes

section Resources

variable {env : Env} {s t : State hashLong} {res : ResId} {resType : ResType}

/-- The node is missing only where the staged bindings of a context could not be allocated. -/
theorem vmwCmdResRelocAdd_ok {idLoc : Nat} {v : Option ResId} (hs : Inv env s)
    (h : vmwCmdResRelocAdd env resType idLoc res s = .ok v t) :
    Did env s t [.resReloc ⟨some res, env.offset idLoc⟩] ∧ t.node res ≠ none ∧
      (v = some res ∨ v = none ∧ resType = .context) := by
  unfold vmwCmdResRelocAdd at h
  obtain ⟨_, s₁, hreloc, h⟩ := bind_eq_ok.mp h
  have hd₁ := vmwResourceRelocationAdd_ok hs hreloc
  obtain ⟨_, s₂, hval, h⟩ := bind_eq_ok.mp h
  obtain ⟨hd₂, hnode, hfirst⟩ := vmwResourceValAdd_ok hd₁.1.inv hval
  have hd := hd₁.1.trans hd₂
  obtain ⟨first, s₃, hask, h⟩ := bind_eq_ok.mp h
  cases hask
  split at h
  · next hcond =>
    obtain ⟨_, s₄, hupd, h⟩ := bind_eq_ok.mp h
    cases hupd
    have hd₄ := hd₂.inv.front hnode
    obtain ⟨_, s₅, hctx, h⟩ := bind_eq_ok.mp h
    have hd₅ := vmwResourceContextResAdd_ok hd₄.inv hctx
    obtain ⟨b, s₆, hask, h⟩ := bind_eq_ok.mp h
    have hd₆ := (ask_ok hd₅.inv hask).2
    have hd' := (hd.trans hd₄).trans (hd₅.trans hd₆)
    have hnode' : s₆.node res ≠ none := (hd₄.trans (hd₅.trans hd₆)).nodes res hnode
    split at h
    · obtain ⟨_, s₇, hset, h⟩ := bind_eq_ok.mp h
      cases hset
      cases h
      -- the node is new, so no binding of the batch is the context's yet
      have hbinds : bindsOf res s₆.events = [] := by
        rw [hd'.events]
        have hnone : s.node res = none := by
          rw [← hd₁.2.1]
          exact hfirst hcond.2.2
        rw [bindsOf_append, hs.bindsOf_eq_nil hnone]
        rfl
      have hd₇ := hd'.inv.restage_empty hnode' hbinds
      exact ⟨hd'.trans hd₇, hd₇.nodes res hnode', .inl rfl⟩
    · cases h
      exact ⟨hd', hnode', .inr ⟨rfl, hcond.1⟩⟩
  · cases h
    exact ⟨hd, hnode, .inl rfl⟩

/-- What a handle names at some time of the batch. -/
def Named (env : Env) (resType : ResType) (handle : Nat) : Option ResId → Prop
  | none => handle = svga3dInvalidId ∧ resType ≠ .context
  | some res => handle ≠ svga3dInvalidId ∧ ∃ t, env.lookup t resType handle = some res

/-- The events of a handle check. -/
def handleEvents (env : Env) (idLoc : Nat) (r : Option ResId) : List Event :=
  .read idLoc 4 :: (r.map (fun res => Event.resReloc ⟨some res, env.offset idLoc⟩)).toList

theorem Inv.setCache (hs : Inv env s) (resType : ResType) (rcache : ResCacheEntry)
    (hname : ∃ t, env.lookup t resType rcache.handle = some rcache.res)
    (hnode : ∀ n, rcache.node = some n → n = rcache.res ∧ s.node n ≠ none) :
    Did env s (s.setCache resType rcache) [] := by
  refine ⟨⟨{ hs with cache := ?_ }, (List.append_nil _).symm, rfl, fun _ hr => hr⟩, ⟨_, rfl⟩⟩
  intro resType' rcache' h
  change Function.update s.resCache resType (some rcache) resType' = some rcache' at h
  by_cases hty : resType' = resType
  · subst hty
    rw [Function.update_self] at h
    cases h
    exact ⟨hname, hnode⟩
  · rw [Function.update_of_ne hty] at h
    exact hs.cache resType' rcache' h

theorem Inv.clearFirstUsage (hs : Inv env s) (n : ResId) :
    Did env s (Execbuf.clearFirstUsage n s) [] := by
  unfold Execbuf.clearFirstUsage
  cases hn : s.node n with
  | none => exact Did.refl hs
  | some m => exact hs.setNode hn rfl

theorem cachedEntry_ok {id : Nat} {o : Option ResCacheEntry}
    (h : cachedEntry resType id s = .ok o t) : t = s ∧
      ∀ rcache, o = some rcache → s.resCache resType = some rcache ∧ id = rcache.handle := by
  cases h
  refine ⟨rfl, ?_⟩
  intro rcache hr
  obtain ⟨hr, hid⟩ := Option.filter_eq_some_iff.mp hr
  exact ⟨hr, of_decide_eq_true hid⟩

/-- What a handle names in a state. -/
def namedNow (env : Env) (s : State hashLong) (resType : ResType) (handle : Nat) : Option ResId :=
  if handle = svga3dInvalidId then none
  else ((s.resCache resType).filter (fun rcache => handle = rcache.handle)).elim
    (env.lookup s.tick resType handle) (fun rcache => some rcache.res)

/-- A handle check that returns `v` has found `r`. -/
structure HandleFound (env : Env) (s t : State hashLong) (resType : ResType) (idLoc : Nat)
    (v r : Option ResId) : Prop where
  named : Named env resType (s.mem.read32 idLoc) r
  now : r = namedNow env s resType (s.mem.read32 idLoc)
  did : Did env s t (handleEvents env idLoc r)
  node : ∀ res, r = some res → t.node res ≠ none
  value : v = r ∨ v = none ∧ resType = .context
  cached : ∀ res, r = some res → ∃ rcache, t.resCache resType = some rcache ∧ rcache.res = res
  uncached : r = none → t.resCache = s.resCache

theorem vmwCmdResCheck_ok {idLoc : Nat} {v : Option ResId} (hs : Inv env s)
    (h : vmwCmdResCheck env resType idLoc s = .ok v t) :
    ∃ r, HandleFound env s t resType idLoc v r := by
  unfold vmwCmdResCheck at h
  obtain ⟨id, s₁, hload, h⟩ := bind_eq_ok.mp h
  obtain ⟨rfl, hd₁⟩ := load_ok hs hload
  by_cases hinv : s.mem.read32 idLoc = svga3dInvalidId
  · rw [if_pos hinv] at h
    split at h
    · cases h
    · next hctx =>
      cases h
      have hnow : none = namedNow env s resType (s.mem.read32 idLoc) := (if_pos hinv).symm
      refine ⟨none, ⟨hinv, hctx⟩, hnow, hd₁, (fun _ hr => nomatch hr), .inl rfl,
        (fun _ hr => nomatch hr), ?_⟩
      intro _
      cases hload
      rfl
  · rw [if_neg hinv] at h
    obtain ⟨o, s₂, hcached, h⟩ := bind_eq_ok.mp h
    have hnow : o.elim (env.lookup s.tick resType (s.mem.read32 idLoc))
        (fun rcache => some rcache.res) = namedNow env s resType (s.mem.read32 idLoc) := by
      cases hload
      cases hcached
      exact (if_neg hinv).symm
    have htick : s₁.tick = s.tick := by
      cases hload
      rfl
    obtain ⟨rfl, ho⟩ := cachedEntry_ok hcached
    cases o with
    | some rcache =>
      obtain ⟨hrc, hid⟩ := ho rcache rfl
      obtain ⟨hname, hnode⟩ := hd₁.inv.cache resType rcache hrc
      obtain ⟨handle, res, node⟩ := rcache
      cases node with
      | none => cases h
      | some node =>
        obtain ⟨rfl, hnn⟩ := hnode node rfl
        obtain ⟨_, s₃, hupd, h⟩ := bind_eq_ok.mp h
        cases hupd
        have hd₃ := hd₁.inv.clearFirstUsage node
        have hcache₃ : (clearFirstUsage node s₂).resCache = s₂.resCache := by
          unfold Execbuf.clearFirstUsage
          split
          · rfl
          · rfl
        obtain ⟨_, s₄, hreloc, h⟩ := bind_eq_ok.mp h
        obtain ⟨hd₄, _, hcache₄⟩ := vmwResourceRelocationAdd_ok hd₃.inv hreloc
        cases h
        refine ⟨some node, ⟨hinv, hid ▸ hname⟩, hnow, (hd₁.trans hd₃).trans hd₄, ?_, .inl rfl, ?_,
          (fun hr => nomatch hr)⟩
        · intro r hr
          cases hr
          exact hd₄.nodes _ (hd₃.nodes _ hnn)
        · intro r hr
          cases hr
          refine ⟨⟨handle, node, some node⟩, ?_, rfl⟩
          rw [hcache₄, hcache₃]
          exact hrc
    | none =>
      obtain ⟨found, s₃, hask, h⟩ := bind_eq_ok.mp h
      obtain ⟨rfl, hd₃⟩ := ask_ok hd₁.inv hask
      cases hl : env.lookup s₂.tick resType (s.mem.read32 idLoc) with
      | none =>
        rw [hl] at h
        cases h
      | some res =>
        rw [hl] at h
        have hname : ∃ t, env.lookup t resType (s.mem.read32 idLoc) = some res := ⟨_, hl⟩
        have hnow : some res = namedNow env s resType (s.mem.read32 idLoc) := by
          rw [← hnow, ← hl, htick]
          rfl
        obtain ⟨_, s₄, hupd, h⟩ := bind_eq_ok.mp h
        cases hupd
        have hd₄ := (same_reference s₃ res).did hd₃.inv
        obtain ⟨_, s₅, hupd, h⟩ := bind_eq_ok.mp h
        cases hupd
        have hd₅ := hd₄.inv.setCache resType ⟨s.mem.read32 idLoc, res, none⟩ hname (fun _ hn => nomatch hn)
        obtain ⟨node, s₆, hadd, h⟩ := bind_eq_ok.mp h
        obtain ⟨hd₆, hnode, hv⟩ := vmwCmdResRelocAdd_ok hd₅.inv (onError_ok.mp hadd)
        obtain ⟨_, s₇, hupd, h⟩ := bind_eq_ok.mp h
        cases hupd
        have hd₇ := hd₆.inv.setCache resType ⟨s.mem.read32 idLoc, res, node⟩ hname (by
            intro n hn
            cases hv with
            | inl hv =>
              rw [hv] at hn
              cases hn
              exact ⟨rfl, hnode⟩
            | inr hv =>
              rw [hv.1] at hn
              cases hn)
        obtain ⟨_, s₈, hupd, h⟩ := bind_eq_ok.mp h
        cases hupd
        cases h
        have hd₈ := (same_unreference (s₆.setCache resType ⟨s.mem.read32 idLoc, res, v⟩) res).did
          hd₇.inv
        refine ⟨some res, ⟨hinv, hname⟩, hnow, (hd₁.trans hd₃).trans ((hd₄.trans hd₅).trans
          (hd₆.trans (hd₇.trans hd₈))), ?_, hv, ?_, (fun hr => nomatch hr)⟩
        · intro r hr
          cases hr
          exact hnode
        · intro r hr
          cases hr
          exact ⟨⟨s.mem.read32 idLoc, res, v⟩, Function.update_self _ _ _, rfl⟩

end Resources

section Buffers

variable {env : Env} {s t : State hashLong} {bo : BufId} {asMob : Bool}

theorem Event.Records.append {valBufs valBufs' : List ValidateBuffer} {rel : Relocation}
    {e : Event} (h : e.Records valBufs rel) : e.Records (valBufs ++ valBufs') rel := by
  have happ : ∀ b, valBufs[rel.index]? = some b → (valBufs ++ valBufs')[rel.index]? = some b := by
    intro b hb
    obtain ⟨hlt, hb⟩ := List.getElem?_eq_some_iff.mp hb
    rw [List.getElem?_append_left hlt]
    exact List.getElem?_eq_some_iff.mpr ⟨hlt, hb⟩
  cases e with
  | mobReloc a bo => exact ⟨h.1, h.2.1, happ _ h.2.2⟩
  | guestReloc a bo => exact ⟨h.1, happ _ h.2⟩
  | read => exact h
  | write => exact h
  | resReloc => exact h
  | bind => exact h

theorem Inv.addValBuf (hs : Inv env s) (v : ValidateBuffer) (n : Int) :
    Did env s { s.addBufRef bo n with valBufs := s.valBufs ++ [v] } [] := by
  refine ⟨⟨{ hs with buf := ?_ }, (List.append_nil _).symm, rfl, fun _ hr => hr⟩, ⟨_, rfl⟩⟩
  exact hs.buf.imp (fun _ _ h => h.append)

theorem vmwBoToValidateList_ok {i : Nat} (hs : Inv env s)
    (h : vmwBoToValidateList bo asMob s = .ok i t) :
    Did env s t [] ∧ t.valBufs[i]? = some ⟨bo, asMob⟩ ∧ t.resCache = s.resCache ∧
      t.tick = s.tick := by
  unfold vmwBoToValidateList at h
  obtain ⟨o, s₁, hfind, h⟩ := bind_eq_ok.mp h
  cases hfind
  cases hf : s.valBufs.findIdx? (fun v => v.bo = bo) with
  | some j =>
    rw [hf] at h
    obtain ⟨m, s₂, hmob, h⟩ := bind_eq_ok.mp h
    cases hmob
    split at h
    · cases h
    · next hmob =>
      cases h
      obtain ⟨v, hv, hmob⟩ := Option.map_eq_some_iff.mp (Classical.not_not.mp hmob)
      obtain ⟨hlt, hbo, _⟩ := List.findIdx?_eq_some_iff_getElem.mp hf
      obtain ⟨_, hget⟩ := List.getElem?_eq_some_iff.mp hv
      refine ⟨Did.refl hs, ?_, rfl, rfl⟩
      rw [hv, ← hmob, ← of_decide_eq_true hbo, hget]
  | none =>
    rw [hf] at h
    obtain ⟨n, s₂, hcur, h⟩ := bind_eq_ok.mp h
    cases hcur
    split at h
    · cases h
    · obtain ⟨_, s₃, hupd, h⟩ := bind_eq_ok.mp h
      cases hupd
      cases h
      refine ⟨hs.addValBuf _ _, ?_, rfl, rfl⟩
      simp

/-- What the entry that is taken has to record. -/
theorem relocAdd_ok {handle : Nat} {reloc : Nat → Nat → Relocation} (hs : Inv env s)
    (h : relocAdd env handle asMob reloc s = .ok bo t) (e : Event) (hbuf : e.isBufReloc = true)
    (hres : e.resReloc? = none) (hbind : e.bind? = none) (hwrite : e.write? = none)
    (hrec : ∀ cur index valBufs, valBufs[index]? = some ⟨bo, asMob⟩ →
      e.Records valBufs (reloc cur index)) :
    Did env s { t with events := t.events ++ [e] } [e] ∧
      env.dmabuf s.tick handle = some bo ∧ t.resCache = s.resCache ∧ t.tick = s.tick + 1 := by
  unfold relocAdd at h
  obtain ⟨found, s₁, hask, h⟩ := bind_eq_ok.mp h
  obtain ⟨rfl, hd₁⟩ := ask_ok hs hask
  have hcache₁ : s₁.resCache = s.resCache := by
    cases hask
    rfl
  have htick₁ : s₁.tick = s.tick + 1 := by
    cases hask
    rfl
  cases hl : env.dmabuf s.tick handle with
  | none =>
    rw [hl] at h
    cases h
  | some b =>
    rw [hl] at h
    obtain ⟨_, s₂, hupd, h⟩ := bind_eq_ok.mp h
    cases hupd
    have hd₂ := (same_addBufRef s₁ b 1).did hd₁.inv
    obtain ⟨cur, s₃, hcur, h⟩ := bind_eq_ok.mp h
    cases hcur
    split at h
    · cases h
    · obtain ⟨index, s₄, hval, h⟩ := bind_eq_ok.mp h
      obtain ⟨hd₄, hget, hcache₄, htick₄⟩ := vmwBoToValidateList_ok hd₂.inv (onError_ok.mp hval)
      obtain ⟨_, s₅, hupd, h⟩ := bind_eq_ok.mp h
      cases hupd
      cases h
      have hs₄ := hd₄.inv
      refine ⟨(hd₁.trans hd₂).trans (hd₄.trans ⟨⟨?_, rfl, ?_, fun _ hr => hr⟩, ⟨_, rfl⟩⟩), rfl,
        hcache₄.trans hcache₁, htick₄.trans htick₁⟩
      · have hlog : Inv env s₄ := hs₄
        constructor
        · change s₄.resRelocations = (s₄.events ++ [e]).filterMap Event.resReloc?
          rw [hs₄.res, List.filterMap_append]
          simp [hres]
        · change List.Forall₂ _ (s₄.relocs ++ [reloc (s₁.addBufRef bo 1).relocs.length index])
            ((s₄.events ++ [e]).filter Event.isBufReloc)
          rw [List.filter_append]
          apply List.rel_append hs₄.buf
          rw [List.filter_cons_of_pos hbuf]
          exact .cons (hrec _ _ _ hget) .nil
        · exact hs₄.cache
        · exact hs₄.nodup
        · exact hs₄.mem_iff
        · intro c cbs hc
          rw [bindsOf_log hbind]
          exact hs₄.staged c cbs hc
        · intro bi hbi
          rw [filterMap_bind_log hbind] at hbi
          exact hs₄.bound bi hbi
      · simp [hwrite]

theorem vmwTranslateMobPtr_ok {id : Nat} (hs : Inv env s)
    (h : vmwTranslateMobPtr env id s = .ok bo t) :
    Did env s t [.read id 4, .mobReloc id bo] ∧
      env.dmabuf s.tick (s.mem.read32 id) = some bo := by
  unfold vmwTranslateMobPtr at h
  obtain ⟨handle, s₁, hload, h⟩ := bind_eq_ok.mp h
  obtain ⟨rfl, hd₁⟩ := load_ok hs hload
  obtain ⟨b, s₂, hadd, h⟩ := bind_eq_ok.mp h
  obtain ⟨_, s₃, hlog, h⟩ := bind_eq_ok.mp h
  cases hlog
  cases h
  obtain ⟨hd₂, hname, _⟩ := relocAdd_ok hd₁.inv hadd (.mobReloc id bo) rfl rfl rfl rfl
    (fun _ _ _ hget => ⟨rfl, rfl, hget⟩)
  cases hload
  exact ⟨hd₁.trans hd₂, hname⟩

theorem vmwTranslateGuestPtr_ok {ptr : Nat} (hs : Inv env s)
    (h : vmwTranslateGuestPtr env ptr s = .ok bo t) :
    Did env s t [.read ptr 4, .guestReloc ptr bo] ∧
      env.dmabuf s.tick (s.mem.read32 ptr) = some bo ∧ t.resCache = s.resCache ∧
      t.tick = s.tick + 1 := by
  unfold vmwTranslateGuestPtr at h
  obtain ⟨handle, s₁, hload, h⟩ := bind_eq_ok.mp h
  obtain ⟨rfl, hd₁⟩ := load_ok hs hload
  obtain ⟨b, s₂, hadd, h⟩ := bind_eq_ok.mp h
  obtain ⟨_, s₃, hlog, h⟩ := bind_eq_ok.mp h
  cases hlog
  cases h
  obtain ⟨hd₂, hname, hcache, htick⟩ := relocAdd_ok hd₁.inv hadd (.guestReloc ptr bo) rfl rfl rfl
    rfl (fun _ _ _ hget => ⟨rfl, hget⟩)
  cases hload
  exact ⟨hd₁.trans hd₂, hname, hcache, htick⟩

theorem keepQueryBo_ok {old : Option BufId} (hs : Inv env s)
    (h : keepQueryBo env old s = .ok () t) : Did env s t [] := by
  cases old with
  | none =>
    cases h
    exact Did.refl hs
  | some old =>
    obtain ⟨_, s₁, hupd, h⟩ := bind_eq_ok.mp h
    cases hupd
    have hd₁ := (Same.of_rel rfl rfl rfl rfl rfl rfl rfl rfl rfl :
      Same s { s with needsPostQueryBarrier := true }).did hs
    obtain ⟨_, s₂, hval, h⟩ := bind_eq_ok.mp h
    cases h
    exact hd₁.trans (vmwBoToValidateList_ok hd₁.inv hval).1

theorem vmwQueryBoSwitchPrepare_ok (hs : Inv env s)
    (h : vmwQueryBoSwitchPrepare env bo s = .ok () t) : Did env s t [] := by
  unfold vmwQueryBoSwitchPrepare at h
  obtain ⟨o, s₁, hentry, h⟩ := bind_eq_ok.mp h
  cases hentry
  cases hc : s.resCache .context with
  | none =>
    rw [hc] at h
    cases h
  | some ctxEntry =>
    rw [hc] at h
    obtain ⟨_, s₂, hupd, h⟩ := bind_eq_ok.mp h
    cases hupd
    have hd₂ := (Same.of_rel rfl rfl rfl rfl rfl rfl rfl rfl rfl :
      Same s { s with lastQueryCtx := some ctxEntry.res }).did hs
    obtain ⟨cur, s₃, hcur, h⟩ := bind_eq_ok.mp h
    cases hcur
    split at h
    · cases h
      exact hd₂
    · split at h
      · cases h
      · obtain ⟨_, s₄, hkeep, h⟩ := bind_eq_ok.mp h
        have hd₄ := keepQueryBo_ok hd₂.inv hkeep
        obtain ⟨_, s₅, hupd, h⟩ := bind_eq_ok.mp h
        cases hupd
        have hd₅ := (Same.of_rel rfl rfl rfl rfl rfl rfl rfl rfl rfl :
          Same s₄ { s₄ with curQueryBo := some bo }).did hd₄.inv
        obtain ⟨_, s₆, hval, h⟩ := bind_eq_ok.mp h
        cases h
        exact hd₂.trans (hd₄.trans (hd₅.trans (vmwBoToValidateList_ok hd₅.inv hval).1))

end Buffers

section Bindings

variable {env : Env} {s t : State hashLong} {bi : Bindinfo} {ctx : ResId}

theorem filterMap_bind_bind (evs : List Event) :
    (evs ++ [Event.bind bi]).filterMap Event.bind? = evs.filterMap Event.bind? ++ [bi] :=
  List.filterMap_append

theorem bindsOf_bind (hctx : bi.ctx = some ctx) (c : ResId) (evs : List Event) :
    bindsOf c (evs ++ [Event.bind bi]) =
      if c = ctx then bindsOf c evs ++ [bi] else bindsOf c evs := by
  unfold bindsOf
  rw [filterMap_bind_bind, List.filter_append]
  by_cases hc : c = ctx
  · simp [hctx, hc]
  · simp [hctx, hc, Ne.symm hc]

theorem filterMap_resReloc_bind (evs : List Event) :
    (evs ++ [Event.bind bi]).filterMap Event.resReloc? = evs.filterMap Event.resReloc? := by
  simp [List.filterMap_append, Event.resReloc?]

theorem filter_isBufReloc_bind (evs : List Event) :
    (evs ++ [Event.bind bi]).filter Event.isBufReloc = evs.filter Event.isBufReloc := by
  simp [List.filter_append, Event.isBufReloc]

/-- A binding out of range leaves the staged ones alone. -/
theorem Inv.bindOut (hs : Inv env s) (hctx : bi.ctx = some ctx) (hnode : s.node ctx ≠ none)
    (htex : bi.bt = .tex) (hrange : ¬ bi.slot.Valid) :
    Inv env { s with events := s.events ++ [.bind bi] } := by
  constructor
  · exact hs.res.trans (filterMap_resReloc_bind _).symm
  · change List.Forall₂ _ s.relocs (List.filter _ (s.events ++ _))
    rw [filter_isBufReloc_bind]
    exact hs.buf
  · exact hs.cache
  · exact hs.nodup
  · exact hs.mem_iff
  · intro c cbs hc
    change cbs = stage (bindsOf c (s.events ++ _))
    rw [bindsOf_bind hctx]
    split
    · rw [Binding.stage_append, Binding.track_of_not_valid hrange]
      exact hs.staged c cbs hc
    · exact hs.staged c cbs hc
  · intro b hb
    change b ∈ List.filterMap _ (s.events ++ _) at hb
    rw [filterMap_bind_bind, List.mem_append, List.mem_singleton] at hb
    cases hb with
    | inl hold => exact hs.bound b hold
    | inr hnew =>
      subst hnew
      exact ⟨fun hne => absurd htex hne, ctx, hctx, hnode, fun hv => absurd hv hrange⟩

/-- A binding in range is staged. -/
theorem Inv.bindIn (hs : Inv env s) (hctx : bi.ctx = some ctx) {cbs : CtxBindingState}
    (hst : s.staged ctx = some cbs) (hrange : bi.slot.Valid) :
    Did env s (setStaged ctx (cbs.track bi) { s with events := s.events ++ [.bind bi] })
      [.bind bi] := by
  have hnode : s.node ctx ≠ none := by
    intro hn
    unfold State.staged at hst
    rw [hn] at hst
    cases hst
  have hcbs : cbs.track bi = stage (bindsOf ctx (s.events ++ [.bind bi])) := by
    rw [bindsOf_bind hctx, if_pos rfl, Binding.stage_append, ← hs.staged ctx cbs hst]
  have hinv := hs.restage hnode hcbs (filterMap_resReloc_bind _) (filter_isBufReloc_bind _)
    (by
      intro c hc
      rw [bindsOf_bind hctx, if_neg hc])
    (by
      intro b hb
      rw [filterMap_bind_bind, List.mem_append, List.mem_singleton] at hb
      cases hb with
      | inl hold => exact .inl hold
      | inr hnew =>
        subst hnew
        exact .inr ⟨fun _ => hrange, hctx⟩)
  obtain ⟨n, hn⟩ := Option.ne_none_iff_exists'.mp hnode
  have hset : setStaged ctx (cbs.track bi) { s with events := s.events ++ [.bind bi] } =
      { s with events := s.events ++ [Event.bind bi] }.setNode ctx
        { n with stagedBindings := some (cbs.track bi) } :=
    setStaged_of_node hn
  rw [hset] at hinv ⊢
  exact ⟨⟨hinv, rfl, rfl, fun r hr => setNode_node_ne_none hr⟩, ⟨_, rfl⟩⟩

/-- A binding that was added, or one of a texture stage out of range. -/
theorem vmwContextBindingAdd_ok {ctxNode resNode : Option ResId} {bt : Binding.BindingType}
    {i1 : Nat} {ret : Int} (hs : Inv env s)
    (hnode : ∀ ctx, ctxNode = some ctx → s.node ctx ≠ none)
    (h : vmwContextBindingAdd ctxNode resNode bt i1 s = .ok ret t) (hret : bt ≠ .tex → ret = 0) :
    ∃ ctx, ctxNode = some ctx ∧ Did env s t [.bind ⟨some ctx, resNode, bt, false, i1⟩] := by
  unfold vmwContextBindingAdd at h
  cases ctxNode with
  | none => cases h
  | some ctx =>
    refine ⟨ctx, rfl, ?_⟩
    obtain ⟨_, s₁, hlog, h⟩ := bind_eq_ok.mp h
    cases hlog
    split at h
    · next hrange =>
      cases h
      have htex : bt = .tex := by
        by_contra hne
        exact absurd (hret hne) (by decide)
      exact ⟨⟨hs.bindOut rfl (hnode ctx rfl) htex (Nat.not_lt_of_le hrange), rfl, rfl,
        fun _ hr => hr⟩, ⟨_, rfl⟩⟩
    · next hrange =>
      obtain ⟨o, s₂, hstaged, h⟩ := bind_eq_ok.mp h
      cases o with
      | none => cases h
      | some cbs =>
        have hst : s.staged ctx = some cbs := (EStateM.Result.ok.inj hstaged).1
        have heq := (EStateM.Result.ok.inj hstaged).2
        subst heq
        obtain ⟨_, s₃, hupd, h⟩ := bind_eq_ok.mp h
        cases hupd
        cases h
        exact hs.bindIn rfl hst (Nat.lt_of_not_le hrange)

end Bindings

end Vmwgfx.Execbuf
