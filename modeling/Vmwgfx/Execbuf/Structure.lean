import Vmwgfx.Execbuf.Trace

/-! The order of the resource list, which `vmw_rebind_contexts` relies on to stop early. -/

namespace Vmwgfx.Execbuf

open Vmwgfx.Hashtab Vmwgfx.Lib

variable {hashLong : HashLong}

section Lists

def noBufferNeeded (res : ResId) : Verify hashLong Bool :=
  fun s => .ok ((s.node res).any (·.noBufferNeeded)) s

/-- `reserve` is how `vmw_resource_reserve` turns out for a resource: its error, or the backup
that the resource has after it. -/
def vmwResourcesReserve (reserve : ResId → Bool → Except Int (Option BufId)) (needsBackup : ResId → Bool) :
    List ResId → Verify hashLong Unit
  | [] => pure ()
  | res :: rest => do
    let noBackup ← noBufferNeeded res
    match reserve res noBackup with
    | .error ret => fail ret
    | .ok none => vmwResourcesReserve reserve needsBackup rest
    | .ok (some backup) =>
      let _ ← vmwBoToValidateList backup (needsBackup res)
      vmwResourcesReserve reserve needsBackup rest

/-- The loop of `vmw_rebind_contexts`: what it returns, and the nodes it has visited. -/
def rebindLoop (rebindAll : ResId → Int) (s : State hashLong) : List ResId → Int × List ResId
  | [] => (0, [])
  | res :: rest =>
    if (s.staged res).isSome then
      if rebindAll res ≠ 0 then (rebindAll res, [res])
      else
        let (ret, visited) := rebindLoop rebindAll s rest
        (ret, res :: visited)
    else (0, [])

def vmwRebindContexts (rebindAll : ResId → Int) (s : State hashLong) : Int × List ResId :=
  rebindLoop rebindAll s s.resourceList

end Lists

variable (env : Env) (isContext : ResId → Prop)

/-- What the rest of the driver promises: a handle names a resource of its own type, no context is
bound to a context, and only a batch adds bindings. -/
structure Env.Typed : Prop where
  lookup : ∀ tick resType handle res, env.lookup tick resType handle = some res → (isContext res ↔ resType = .context)
  bound : ∀ tick ctx, ∀ res ∈ env.bindingList tick ctx, ¬ isContext res
  shrinks : ∀ ctx tick tick', tick ≤ tick' → env.bindingList tick' ctx ⊆ env.bindingList tick ctx

/-- The validation lists of a batch that is verified and reserved. -/
structure Structured (u : State hashLong) : Prop where
  resources : u.resourceList.Nodup
  buffers : (u.valBufs.map (·.bo)).Nodup
  relocated : ∀ rel ∈ u.resRelocations, ∀ res, rel.res = some res → res ∈ u.resourceList
  bound : ∀ rel ∈ u.resRelocations, ∀ ctx, rel.res = some ctx → isContext ctx →
    ∀ res ∈ env.bindingList u.tick ctx, res ∈ u.resourceList
  stagedFirst : ∃ front back, u.resourceList = front ++ back ∧ (∀ res ∈ front, u.staged res ≠ none) ∧
    ∀ res ∈ back, u.staged res = none
  visited : ∀ rebindAll, (vmwRebindContexts rebindAll u).1 = 0 → ∀ rel ∈ u.resRelocations, ∀ ctx,
    rel.res = some ctx → isContext ctx → ctx ∈ (vmwRebindContexts rebindAll u).2

/-- The staged bindings of a context that a handle names are there, or there is memory for them. -/
def Ready (s : State hashLong) : Label → Prop
  | .check resType idLoc _ => HandleReady env s resType (s.mem.read32 idLoc)
  | _ => True

/-- What holds in every state of a batch: the contexts are first on the list. -/
structure Listed (s : State hashLong) : Prop where
  nodup : s.resourceList.Nodup
  mem_iff : ∀ r, r ∈ s.resourceList ↔ s.node r ≠ none
  buffers : (s.valBufs.map (·.bo)).Nodup
  relocated : ∀ rel ∈ s.resRelocations, ∀ res, rel.res = some res → s.node res ≠ none
  referenced : ∀ ctx, isContext ctx → s.node ctx ≠ none → ∃ rel ∈ s.resRelocations, rel.res = some ctx
  cache : ∀ resType rcache, s.resCache resType = some rcache → (isContext rcache.res ↔ resType = .context) ∧
    ∀ node, rcache.node = some node → node = rcache.res ∧ s.node node ≠ none
  bound : ∀ ctx, isContext ctx → s.node ctx ≠ none → ∀ res ∈ env.bindingList s.tick ctx, s.node res ≠ none
  contextsFirst : ∃ front back, s.resourceList = front ++ back ∧ (∀ res ∈ front, isContext res) ∧
    ∀ res ∈ back, ¬ isContext res
  staged : ∀ res, s.staged res ≠ none → isContext res

/-- No context on the list is without its staged bindings. -/
def AllStaged (s : State hashLong) : Prop := ∀ ctx, isContext ctx → s.node ctx ≠ none → s.staged ctx ≠ none

/-- Resources that were not on the list are put on it, before and after the others. -/
structure Placed (s t : State hashLong) (front back : List ResId) : Prop where
  resourceList : t.resourceList = front ++ (s.resourceList ++ back)
  node : ∀ r, t.node r ≠ none ↔ r ∈ front ++ back ∨ s.node r ≠ none
  fresh : ∀ r ∈ front ++ back, s.node r = none
  nodup : (front ++ back).Nodup
  staged : ∀ r, r ∉ front → (t.staged r ≠ none ↔ s.staged r ≠ none)
  resCache : t.resCache = s.resCache
  valBufs : t.valBufs = s.valBufs
  tick : s.tick ≤ t.tick

variable {env isContext} {s t u : State hashLong}

section Placing

theorem Placed.same (resourceList : t.resourceList = s.resourceList) (node : ∀ r, t.node r ≠ none ↔ s.node r ≠ none)
    (staged : t.staged = s.staged) (resCache : t.resCache = s.resCache) (valBufs : t.valBufs = s.valBufs)
    (tick : s.tick ≤ t.tick) : Placed s t [] [] where
  resourceList := by rw [resourceList, List.append_nil, List.nil_append]
  node r := by simp [node r]
  fresh _ h := by cases h
  nodup := List.nodup_nil
  staged r _ := by rw [staged]
  resCache := resCache
  valBufs := valBufs
  tick := tick

theorem Placed.ask (s : State hashLong) : Placed s { s with tick := s.tick + 1 } [] [] :=
  .same rfl (fun _ => Iff.rfl) rfl rfl rfl (Nat.le_succ s.tick)

/-- What is put at the end after something else. -/
theorem Placed.append {front back back' : List ResId} (h : Placed s t front back) (h' : Placed t u [] back') :
    Placed s u front (back ++ back') where
  resourceList := by
    rw [h'.resourceList, h.resourceList, List.nil_append, List.append_assoc, List.append_assoc]
  node r := by
    rw [h'.node, h.node, List.nil_append, ← List.append_assoc, List.mem_append (s := front ++ back)]
    tauto
  fresh r hr := by
    rw [← List.append_assoc, List.mem_append] at hr
    cases hr with
    | inl hr => exact h.fresh r hr
    | inr hr =>
      by_contra hnode
      exact (h.node r).mpr (.inr hnode) (h'.fresh r hr)
  nodup := by
    rw [← List.append_assoc]
    refine List.Nodup.append h.nodup h'.nodup fun r hr hr' => ?_
    exact (h.node r).mpr (.inl hr) (h'.fresh r hr')
  staged r hr := (h'.staged r List.not_mem_nil).trans (h.staged r hr)
  resCache := h'.resCache.trans h.resCache
  valBufs := h'.valBufs.trans h.valBufs
  tick := Nat.le_trans h.tick h'.tick

/-- `list_del`, then `list_add`. -/
theorem Placed.toFront {res : ResId} (h : Placed s t [] [res]) (hres : res ∉ s.resourceList) :
    Placed s { t with resourceList := res :: t.resourceList.erase res } [res] [] where
  resourceList := by
    change res :: t.resourceList.erase res = _
    rw [h.resourceList, List.nil_append, List.erase_append_right _ hres, List.erase_cons_head]
    rfl
  node := h.node
  fresh := h.fresh
  nodup := h.nodup
  staged r _ := h.staged r List.not_mem_nil
  resCache := h.resCache
  valBufs := h.valBufs
  tick := h.tick

theorem setStaged_frame (res : ResId) (cbs : Binding.CtxBindingState) (s : State hashLong) :
    (setStaged res cbs s).resourceList = s.resourceList ∧ (∀ r, (setStaged res cbs s).node r ≠ none ↔ s.node r ≠ none) ∧
      (∀ r, r ≠ res → (setStaged res cbs s).staged r = s.staged r) ∧ (setStaged res cbs s).resCache = s.resCache ∧
      (setStaged res cbs s).valBufs = s.valBufs ∧ (setStaged res cbs s).tick = s.tick ∧
      (setStaged res cbs s).resRelocations = s.resRelocations := by
  cases hn : s.node res with
  | none =>
    have hsame : setStaged res cbs s = s := by
      unfold setStaged
      rw [hn]
    rw [hsame]
    exact ⟨rfl, fun _ => Iff.rfl, fun _ _ => rfl, rfl, rfl, rfl, rfl⟩
  | some n =>
    rw [setStaged_of_node hn]
    refine ⟨rfl, fun r => ?_, fun r hr => ?_, rfl, rfl, rfl, rfl⟩
    · rw [setNode_node]
      split
      · simp [*]
      · exact Iff.rfl
    · unfold State.staged
      rw [setNode_node, if_neg hr]

theorem Placed.setStaged {front back : List ResId} (h : Placed s t front back) {res : ResId} (hres : res ∈ front)
    (cbs : Binding.CtxBindingState) : Placed s (setStaged res cbs t) front back := by
  obtain ⟨hlist, hnode, hstaged, hcache, hbufs, htick, _⟩ := setStaged_frame res cbs t
  refine ⟨hlist.trans h.resourceList, fun r => (hnode r).trans (h.node r), h.fresh, h.nodup, fun r hr => ?_,
    hcache.trans h.resCache, hbufs.trans h.valBufs, htick ▸ h.tick⟩
  rw [hstaged r fun heq => hr (heq ▸ hres)]
  exact h.staged r hr

theorem vmwResourceValAdd_placed {res : ResId} (h : vmwResourceValAdd env res s = .ok () t) :
    Placed s t [] (if (s.node res).isSome then [] else [res]) ∧ t.node res ≠ none ∧ t.resRelocations = s.resRelocations := by
  obtain ⟨hadds, hsome, _⟩ := vmwResourceValAdd_adds h
  have hnode : ∀ r, t.node r ≠ none ↔ r = res ∨ s.node r ≠ none := by
    intro r
    have hr := congrFun hsome r
    rw [Function.update_apply] at hr
    rw [← Option.isSome_iff_ne_none, ← Option.isSome_iff_ne_none, hr]
    split
    · simp [*]
    · simp [*]
  have hself : t.node res ≠ none := (hnode res).mpr (.inl rfl)
  have htick : s.tick ≤ t.tick := by
    rw [hadds.tick]
    exact Nat.le_add_right _ _
  unfold vmwResourceValAdd at h
  obtain ⟨n, s₁, hfind, h⟩ := bind_eq_ok.mp h
  cases hfind
  cases hn : s.node res with
  | some n =>
    rw [hn] at h
    cases h
    refine ⟨.same rfl (fun r => ?_) hadds.staged rfl rfl htick, hself, rfl⟩
    rw [hnode r, or_iff_right_of_imp]
    intro hr
    rw [hr, hn]
    exact Option.some_ne_none n
  | none =>
    rw [hn] at h
    obtain ⟨b, s₂, hask, h⟩ := bind_eq_ok.mp h
    cases hask
    split at h
    · cases h
      refine ⟨⟨rfl, fun r => ?_, ?_, List.nodup_singleton res, fun r _ => by rw [hadds.staged], rfl, rfl, htick⟩, hself, rfl⟩
      · rw [hnode r]
        simp
      · intro r hr
        rw [show r = res by simpa using hr, hn]
    · cases h

theorem valAddAll_placed {rs : List ResId} (h : valAddAll env rs s = .ok () t) :
    ∃ back, Placed s t [] back ∧ (∀ r ∈ back, r ∈ rs) ∧ (∀ r ∈ rs, t.node r ≠ none) ∧
      t.resRelocations = s.resRelocations := by
  induction rs generalizing s with
  | nil =>
    cases h
    exact ⟨[], .same rfl (fun _ => Iff.rfl) rfl rfl rfl (Nat.le_refl _), by simp, by simp, rfl⟩
  | cons r rs ih =>
    obtain ⟨_, s₁, hadd, h⟩ := bind_eq_ok.mp h
    obtain ⟨hplaced, hself, hrel⟩ := vmwResourceValAdd_placed hadd
    obtain ⟨back', hplaced', hback', hall, hrel'⟩ := ih h
    refine ⟨_, hplaced.append hplaced', fun r' hr' => ?_, fun r' hr' => ?_, hrel'.trans hrel⟩
    · cases List.mem_append.mp hr' with
      | inl hr' =>
        split at hr'
        · cases hr'
        · exact List.mem_cons.mpr (.inl (List.mem_singleton.mp hr'))
      | inr hr' => exact List.mem_cons_of_mem r (hback' r' hr')
    · cases List.mem_cons.mp hr' with
      | inl hr' =>
        rw [hr']
        exact (hplaced'.node r).mpr (.inr hself)
      | inr hr' => exact hall r' hr'

/-- A resource gets a relocation and, with what is bound to a context, a place on the list. -/
structure Relocates (env : Env) (resType : ResType) (res : ResId) (s t : State hashLong) (front back : List ResId) : Prop where
  placed : Placed s t front back
  front : ∀ r ∈ front, r = res ∧ resType = .context
  back : ∀ r ∈ back, (r = res ∧ resType ≠ .context) ∨ ∃ tick, r ∈ env.bindingList tick res
  self : t.node res ≠ none
  bound : s.node res = none → resType = .context → ∃ tick, tick ≤ t.tick ∧ ∀ r ∈ env.bindingList tick res, t.node r ≠ none
  ready : resType = .context → (t.staged res ≠ none ↔ StagedReady env s resType res)
  relocations : ∃ offset, t.resRelocations = s.resRelocations ++ [⟨some res, offset⟩]

theorem vmwResourceRelocationAdd_eq {res : Option ResId} {offset : Nat}
    (h : vmwResourceRelocationAdd env res offset s = .ok () t) :
    t = { s with
      tick := s.tick + 1
      events := s.events ++ [.resReloc ⟨res, offset⟩]
      resRelocations := s.resRelocations ++ [⟨res, offset⟩] } := by
  obtain ⟨b, r, hask, h⟩ := bind_eq_ok.mp h
  cases hask
  split at h
  · cases h
    rfl
  · cases h

theorem vmwCmdResRelocAdd_relocates {resType : ResType} {idLoc : Nat} {res : ResId} {v : Option ResId}
    (hmob : env.hasMob = true) (hmem : ∀ r, r ∈ s.resourceList ↔ s.node r ≠ none)
    (h : vmwCmdResRelocAdd env resType idLoc res s = .ok v t) :
    (∃ front back, Relocates env resType res s t front back) ∧ (v = none ∨ v = some res) := by
  unfold vmwCmdResRelocAdd at h
  obtain ⟨_, s₁, hreloc, h⟩ := bind_eq_ok.mp h
  have hs₁ := vmwResourceRelocationAdd_eq hreloc
  obtain ⟨_, s₂, hval, h⟩ := bind_eq_ok.mp h
  obtain ⟨hadds, hsome, hfirst⟩ := vmwResourceValAdd_adds hval
  obtain ⟨hplaced, hself, hrel⟩ := vmwResourceValAdd_placed hval
  have hstart : Placed s s₁ [] [] := by
    rw [hs₁]
    exact .same rfl (fun _ => Iff.rfl) rfl rfl rfl (Nat.le_succ s.tick)
  have hplaced' := hstart.append hplaced
  have hnode₁ : s₁.node = s.node := by rw [hs₁]
  have hrels : s₂.resRelocations = s.resRelocations ++ [⟨some res, env.offset idLoc⟩] := by rw [hrel, hs₁]
  rw [hnode₁] at hfirst hplaced' hsome
  obtain ⟨first, s₃, hask, h⟩ := bind_eq_ok.mp h
  cases hask
  split at h
  · next hcond =>
    obtain ⟨hty, _, hnew⟩ := hcond
    have hnone : s.node res = none := hfirst.mp hnew
    obtain ⟨_, s₄, hupd, h⟩ := bind_eq_ok.mp h
    cases hupd
    obtain ⟨_, s₅, hctx, h⟩ := bind_eq_ok.mp h
    obtain ⟨bound, s₆, hbound, hctx⟩ := bind_eq_ok.mp hctx
    cases hbound
    obtain ⟨back, hall, hback, hbound, hrel'⟩ := valAddAll_placed hctx
    have hcount := valAddAll_adds hctx
    obtain ⟨b, s₇, hask, h⟩ := bind_eq_ok.mp h
    cases hask
    have htick₂ : s₂.tick = s.tick + 2 := by
      rw [hadds.tick, hs₁]
      simp [hnone]
    have htick₅ : s₅.tick = stagedTick env s res := by
      rw [hcount.tick]
      change s₂.tick + 1 + newNodes (fun r => (s₂.node r).isSome) (env.bindingList s₂.tick res) = _
      rw [hsome, htick₂]
      rfl
    have hfront : Placed s s₅ [res] back := by
      rw [show (s.node res).isSome = false by rw [hnone]; rfl, List.nil_append] at hplaced'
      have htoFront := hplaced'.toFront fun hin => (hmem res).mp hin hnone
      exact (htoFront.append (.ask _)).append hall
    have hnode₅ : s₅.node res ≠ none := (hfront.node res).mpr (.inl (by simp))
    have hready : StagedReady env s resType res ↔ env.kmalloc (stagedTick env s res) = true := by
      constructor
      · intro hready
        obtain hstaged | ⟨_, hb⟩ := hready hty hmob
        · unfold State.staged at hstaged
          rw [hnone] at hstaged
          exact absurd rfl hstaged
        · exact hb
      · exact fun hb _ _ => .inr ⟨hnone, hb⟩
    rw [← htick₅] at hready
    have hasked : Placed s { s₅ with tick := s₅.tick + 1 } [res] back := by
      have hboth := hfront.append (.ask s₅)
      rwa [List.append_nil] at hboth
    have hin : ∀ r ∈ [res], r = res ∧ resType = .context := fun r hr => ⟨List.mem_singleton.mp hr, hty⟩
    have hbound₅ : s₂.tick ≤ s₅.tick := Nat.le_of_succ_le hall.tick
    split at h
    · next hb =>
      obtain ⟨_, s₈, hset, h⟩ := bind_eq_ok.mp h
      cases hset
      cases h
      obtain ⟨_, hnode, _, _, _, htick, hrels'⟩ := setStaged_frame res .empty { s₅ with tick := s₅.tick + 1 }
      refine ⟨⟨[res], back, hasked.setStaged List.mem_cons_self _, hin, fun r hr => .inr ⟨_, hback r hr⟩, (hnode res).mpr hnode₅,
        fun _ _ => ⟨s₂.tick, ?_, fun r hr => (hnode r).mpr (hbound r hr)⟩, fun _ => ?_, _,
        hrels'.trans (hrel'.trans hrels)⟩, .inr rfl⟩
      · rw [htick]
        exact Nat.le_succ_of_le hbound₅
      · rw [hready, setStaged_staged (s := { s₅ with tick := s₅.tick + 1 }) hnode₅ .empty]
        exact ⟨fun _ => hb, fun _ => Option.some_ne_none _⟩
    · next hb =>
      cases h
      refine ⟨⟨[res], back, hasked, hin, fun r hr => .inr ⟨_, hback r hr⟩, hnode₅,
        fun _ _ => ⟨s₂.tick, Nat.le_succ_of_le hbound₅, hbound⟩, fun _ => ?_, _, hrel'.trans hrels⟩, .inl rfl⟩
      have hstaged : s₅.staged res = none := by
        have hsame : s₅.staged = s₂.staged := hcount.staged
        rw [hsame, hadds.staged, hs₁]
        unfold State.staged
        rw [hnone]
        rfl
      exact iff_of_false (fun hstaged' => hstaged' hstaged) fun hready' => hb (hready.mp hready')
  · next hcond =>
    cases h
    refine ⟨⟨[], _, hplaced', by simp, fun r hr => ?_, hself, fun hnone hty => ?_, fun hty => ?_, _, hrels⟩, .inr rfl⟩
    · split at hr
      · cases hr
      · rename_i hnone
        refine .inl ⟨by simpa using hr, fun hty => hcond ⟨hty, hmob, hfirst.mpr ?_⟩⟩
        simpa using hnone
    · exact absurd ⟨hty, hmob, hfirst.mpr hnone⟩ hcond
    · have hstaged : t.staged = s.staged := by
        rw [hadds.staged, hs₁]
        rfl
      rw [hstaged]
      constructor
      · exact fun hstaged _ _ => .inl hstaged
      · intro hready
        obtain hstaged | ⟨hnone, _⟩ := hready hty hmob
        · exact hstaged
        · exact absurd ⟨hty, hmob, hfirst.mpr hnone⟩ hcond

end Placing

section Steps

variable {resType : ResType} {res : ResId} {front back : List ResId}

theorem Listed.quiet (hs : Listed env isContext s) (htyped : env.Typed isContext) (h : Quiet isContext s t) :
    Listed env isContext t := by
  obtain ⟨rels, hrels, hnone⟩ := h.resRelocations
  constructor
  · rw [h.resourceList]
    exact hs.nodup
  · intro r
    rw [h.resourceList, h.node]
    exact hs.mem_iff r
  · rw [h.valBufs]
    exact hs.buffers
  · intro rel hrel r hr
    rw [hrels, List.mem_append] at hrel
    cases hrel with
    | inl hrel => exact (h.node r).mpr (hs.relocated rel hrel r hr)
    | inr hrel =>
      rw [hnone rel hrel] at hr
      cases hr
  · intro ctx hctx hnode
    obtain ⟨rel, hrel, hres⟩ := hs.referenced ctx hctx ((h.node ctx).mp hnode)
    rw [hrels]
    exact ⟨rel, List.mem_append_left _ hrel, hres⟩
  · intro ty rcache hr
    rw [h.resCache] at hr
    obtain ⟨hty, hnode⟩ := hs.cache ty rcache hr
    exact ⟨hty, fun n hn => ⟨(hnode n hn).1, (h.node n).mpr (hnode n hn).2⟩⟩
  · intro ctx hctx hnode r hr
    exact (h.node r).mpr (hs.bound ctx hctx ((h.node ctx).mp hnode) r (htyped.shrinks ctx _ _ h.tick hr))
  · rw [h.resourceList]
    exact hs.contextsFirst
  · exact fun r hr => hs.staged r ((h.staged r).mp hr)

theorem Quiet.allStaged_iff (h : Quiet isContext s t) : AllStaged isContext t ↔ AllStaged isContext s :=
  forall_congr' fun ctx => imp_congr_right fun _ => imp_congr (h.node ctx) (h.staged ctx)

theorem Relocates.node_of (h : Relocates env resType res s t front back) {r : ResId} (hr : s.node r ≠ none) :
    t.node r ≠ none := (h.placed.node r).mpr (.inr hr)

/-- A new context is the one that is named. -/
theorem Relocates.context (h : Relocates env resType res s t front back) (htyped : env.Typed isContext)
    (hres : isContext res ↔ resType = .context) {ctx : ResId} (hctx : isContext ctx) (ht : t.node ctx ≠ none)
    (hs : s.node ctx = none) : ctx = res ∧ resType = .context := by
  obtain hnew | hold := (h.placed.node ctx).mp ht
  · cases List.mem_append.mp hnew with
    | inl hfront => exact h.front ctx hfront
    | inr hback =>
      obtain ⟨rfl, hty⟩ | ⟨tick, hbound⟩ := h.back ctx hback
      · exact absurd (hres.mp hctx) hty
      · exact absurd hctx (htyped.bound tick res ctx hbound)
  · exact absurd hs hold

theorem Listed.relocates (hs : Listed env isContext s) (htyped : env.Typed isContext)
    (hres : isContext res ↔ resType = .context) (h : Relocates env resType res s t front back) :
    Listed env isContext t := by
  obtain ⟨offset, hrels⟩ := h.relocations
  have hfresh : ∀ r ∈ front ++ back, r ∉ s.resourceList := fun r hr hin => (hs.mem_iff r).mp hin (h.placed.fresh r hr)
  have hback : ∀ r ∈ back, ¬ isContext r := by
    intro r hr hctx
    have hin : r ∈ front ++ back := List.mem_append_right _ hr
    obtain ⟨rfl, hty⟩ := h.context htyped hres hctx ((h.placed.node r).mpr (.inl hin)) (h.placed.fresh r hin)
    obtain ⟨_, hne⟩ | ⟨tick, hbound⟩ := h.back r hr
    · exact hne hty
    · exact htyped.bound tick r r hbound hctx
  constructor
  · rw [h.placed.resourceList]
    have hnodup := List.nodup_append.mp h.placed.nodup
    refine List.Nodup.append hnodup.1 (List.Nodup.append hs.nodup hnodup.2.1 ?_) ?_
    · exact fun r hr hr' => hfresh r (List.mem_append_right _ hr') hr
    · intro r hr hr'
      cases List.mem_append.mp hr' with
      | inl hr' => exact hfresh r (List.mem_append_left _ hr) hr'
      | inr hr' => exact hnodup.2.2 r hr r hr' rfl
  · intro r
    rw [h.placed.resourceList, h.placed.node, ← hs.mem_iff, List.mem_append, List.mem_append, List.mem_append]
    tauto
  · rw [h.placed.valBufs]
    exact hs.buffers
  · intro rel hrel r hr
    rw [hrels, List.mem_append, List.mem_singleton] at hrel
    cases hrel with
    | inl hrel => exact h.node_of (hs.relocated rel hrel r hr)
    | inr hrel =>
      rw [hrel] at hr
      cases hr
      exact h.self
  · intro ctx hctx hnode
    rw [hrels]
    by_cases hold : s.node ctx = none
    · obtain ⟨rfl, _⟩ := h.context htyped hres hctx hnode hold
      exact ⟨_, List.mem_append_right _ List.mem_cons_self, rfl⟩
    · obtain ⟨rel, hrel, heq⟩ := hs.referenced ctx hctx hold
      exact ⟨rel, List.mem_append_left _ hrel, heq⟩
  · intro ty rcache hr
    rw [h.placed.resCache] at hr
    obtain ⟨hty, hnode⟩ := hs.cache ty rcache hr
    exact ⟨hty, fun n hn => ⟨(hnode n hn).1, h.node_of (hnode n hn).2⟩⟩
  · intro ctx hctx hnode r hr
    by_cases hold : s.node ctx = none
    · obtain ⟨rfl, hty⟩ := h.context htyped hres hctx hnode hold
      obtain ⟨tick, htick, hall⟩ := h.bound hold hty
      exact hall r (htyped.shrinks ctx _ _ htick hr)
    · exact h.node_of (hs.bound ctx hctx hold r (htyped.shrinks ctx _ _ h.placed.tick hr))
  · obtain ⟨A, B, hlist, hA, hB⟩ := hs.contextsFirst
    refine ⟨front ++ A, B ++ back, ?_, fun r hr => ?_, fun r hr => ?_⟩
    · rw [h.placed.resourceList, hlist, List.append_assoc, List.append_assoc]
    · cases List.mem_append.mp hr with
      | inl hr =>
        obtain ⟨rfl, hty⟩ := h.front r hr
        exact hres.mpr hty
      | inr hr => exact hA r hr
    · cases List.mem_append.mp hr with
      | inl hr => exact hB r hr
      | inr hr => exact hback r hr
  · intro r hr
    by_cases hin : r ∈ front
    · obtain ⟨rfl, hty⟩ := h.front r hin
      exact hres.mpr hty
    · exact hs.staged r ((h.placed.staged r hin).mp hr)

/-- A context is without its staged bindings after the call if it was so before, or if there is no
memory for them. -/
theorem Relocates.allStaged_iff (h : Relocates env resType res s t front back) (htyped : env.Typed isContext)
    (hres : isContext res ↔ resType = .context) :
    AllStaged isContext t ↔ AllStaged isContext s ∧ StagedReady env s resType res := by
  constructor
  · intro hall
    refine ⟨fun ctx hctx hnode => ?_, fun hty hmob => ?_⟩
    · have hin : ctx ∉ front := fun hin => hnode (h.placed.fresh ctx (List.mem_append_left _ hin))
      exact (h.placed.staged ctx hin).mp (hall ctx hctx (h.node_of hnode))
    · exact (h.ready hty).mp (hall res (hres.mpr hty) h.self) hty hmob
  · intro hready ctx hctx hnode
    obtain ⟨hall, hready⟩ := hready
    by_cases hold : s.node ctx = none
    · obtain ⟨rfl, hty⟩ := h.context htyped hres hctx hnode hold
      exact (h.ready hty).mpr hready
    · have hin : ctx ∉ front := fun hin => hold (h.placed.fresh ctx (List.mem_append_left _ hin))
      exact (h.placed.staged ctx hin).mpr (hall ctx hctx hold)

theorem Listed.setCache (hs : Listed env isContext s) (rcache : ResCacheEntry)
    (hres : isContext rcache.res ↔ resType = .context)
    (hnode : ∀ n, rcache.node = some n → n = rcache.res ∧ s.node n ≠ none) :
    Listed env isContext (s.setCache resType rcache) := by
  refine ⟨hs.nodup, hs.mem_iff, hs.buffers, hs.relocated, hs.referenced, fun ty rcache' hr => ?_, hs.bound,
    hs.contextsFirst, hs.staged⟩
  change Function.update s.resCache resType (some rcache) ty = some rcache' at hr
  by_cases hty : ty = resType
  · rw [hty, Function.update_self] at hr
    cases hr
    rw [hty]
    exact ⟨hres, hnode⟩
  · rw [Function.update_of_ne hty] at hr
    exact hs.cache ty rcache' hr

theorem clearFirstUsage_frame (res : ResId) (s : State hashLong) :
    (∀ r, (clearFirstUsage res s).node r ≠ none ↔ s.node r ≠ none) ∧
      (clearFirstUsage res s).resourceList = s.resourceList ∧ (clearFirstUsage res s).resCache = s.resCache ∧
      (clearFirstUsage res s).valBufs = s.valBufs ∧ (clearFirstUsage res s).tick = s.tick ∧
      (clearFirstUsage res s).resRelocations = s.resRelocations := by
  unfold clearFirstUsage
  split
  · refine ⟨fun r => ?_, rfl, rfl, rfl, rfl, rfl⟩
    rw [setNode_node]
    split
    · simp [*]
    · exact Iff.rfl
  · exact ⟨fun _ => Iff.rfl, rfl, rfl, rfl, rfl, rfl⟩

/-- A resource that has a node already needs its staged bindings. -/
theorem stagedReady_of_node (hmob : env.hasMob = true) (hnode : s.node res ≠ none) :
    StagedReady env s resType res ↔ (resType = .context → s.staged res ≠ none) := by
  refine forall_congr' fun _ => ⟨fun h => ?_, fun h _ => .inl h⟩
  obtain hstaged | ⟨hnone, _⟩ := h hmob
  · exact hstaged
  · exact absurd hnone hnode

/-- A resource that has a node gets another relocation. -/
theorem again_relocates {offset : Nat} (hmob : env.hasMob = true) (hnode : s.node res ≠ none)
    (h : vmwResourceRelocationAdd env (some res) offset (clearFirstUsage res s) = .ok () t) :
    Relocates env resType res s t [] [] := by
  obtain ⟨hnodes, hlist, hcache, hbufs, htick, hrels⟩ := clearFirstUsage_frame res s
  have hst := clearFirstUsage_staged s res
  have ht := vmwResourceRelocationAdd_eq h
  have hplaced : Placed s t [] [] := by
    rw [ht]
    exact .same hlist hnodes hst hcache hbufs (htick ▸ Nat.le_succ _)
  have hstaged : t.staged res = s.staged res := by
    rw [ht]
    exact congrFun hst res
  refine ⟨hplaced, by simp, by simp, (hplaced.node res).mpr (.inr hnode), fun hnone => absurd hnone hnode, fun hty => ?_,
    offset, by rw [ht, ← hrels]⟩
  rw [hstaged, stagedReady_of_node hmob hnode]
  exact ⟨fun h _ => h, fun h => h hty⟩

theorem vmwCmdResCheck_listed {idLoc : Nat} {v : Option ResId} (hmob : env.hasMob = true) (htyped : env.Typed isContext)
    (hs : Listed env isContext s) (h : vmwCmdResCheck env resType idLoc s = .ok v t) :
    Listed env isContext t ∧
      (AllStaged isContext t ↔ AllStaged isContext s ∧ HandleReady env s resType (s.mem.read32 idLoc)) := by
  unfold vmwCmdResCheck at h
  obtain ⟨id, s₁, hload, h⟩ := bind_eq_ok.mp h
  cases hload
  have hread : Quiet isContext s { s with events := s.events ++ [.read idLoc 4] } :=
    .of_eq rfl rfl rfl rfl rfl (Nat.le_refl _) ⟨_, rfl⟩
  by_cases hinv : s.mem.read32 idLoc = svga3dInvalidId
  · rw [if_pos hinv] at h
    have hnow : namedNow env s resType (s.mem.read32 idLoc) = none := if_pos hinv
    split at h
    · cases h
    · cases h
      refine ⟨hs.quiet htyped hread, hread.allStaged_iff.trans (and_iff_left fun res hres => ?_).symm⟩
      rw [hnow] at hres
      cases hres
  · rw [if_neg hinv] at h
    obtain ⟨o, s₂, hcached, h⟩ := bind_eq_ok.mp h
    obtain ⟨heq, hcache⟩ := cachedEntry_ok hcached
    have ho : (s.resCache resType).filter (fun rcache => s.mem.read32 idLoc = rcache.handle) = o := by
      cases hcached
      rfl
    have hnow : namedNow env s resType (s.mem.read32 idLoc) =
        o.elim (env.lookup s.tick resType (s.mem.read32 idLoc)) (fun rcache => some rcache.res) := by
      unfold namedNow
      rw [if_neg hinv, ho]
    have hready : ∀ res, namedNow env s resType (s.mem.read32 idLoc) = some res →
        (HandleReady env s resType (s.mem.read32 idLoc) ↔ StagedReady env { s with tick := s.tick + 1 } resType res) := by
      intro res hres
      unfold HandleReady
      rw [hres]
      simp
    cases heq
    cases o with
    | some rcache =>
      obtain ⟨hrc, _⟩ := hcache rcache rfl
      obtain ⟨hty, hnode⟩ := hs.cache resType rcache hrc
      obtain ⟨handle, res, node⟩ := rcache
      cases node with
      | none => cases h
      | some node =>
        obtain ⟨rfl, hnn⟩ := hnode node rfl
        obtain ⟨_, s₃, hupd, h⟩ := bind_eq_ok.mp h
        cases hupd
        obtain ⟨_, s₄, hreloc, h⟩ := bind_eq_ok.mp h
        cases h
        have hrel : Relocates env resType node { s with events := s.events ++ [.read idLoc 4] } t [] [] :=
          again_relocates hmob hnn hreloc
        refine ⟨(hs.quiet htyped hread).relocates htyped hty hrel, ?_⟩
        have hlater : StagedReady env { s with events := s.events ++ [.read idLoc 4] } resType node ↔
            StagedReady env { s with tick := s.tick + 1 } resType node :=
          (stagedReady_of_node hmob hnn).trans (stagedReady_of_node (s := { s with tick := s.tick + 1 }) hmob hnn).symm
        rw [hrel.allStaged_iff htyped hty, hread.allStaged_iff, hready node hnow, hlater]
    | none =>
      obtain ⟨found, s₃, hask, h⟩ := bind_eq_ok.mp h
      have hl : env.lookup s.tick resType (s.mem.read32 idLoc) = found := (EStateM.Result.ok.inj hask).1
      have hs₃ := (EStateM.Result.ok.inj hask).2
      subst hs₃
      cases found with
      | none => cases h
      | some res =>
        obtain ⟨_, s₄, hupd, h⟩ := bind_eq_ok.mp h
        cases hupd
        obtain ⟨_, s₅, hupd, h⟩ := bind_eq_ok.mp h
        cases hupd
        obtain ⟨node, s₆, hadd, h⟩ := bind_eq_ok.mp h
        obtain ⟨_, s₇, hupd, h⟩ := bind_eq_ok.mp h
        cases hupd
        obtain ⟨_, s₈, hupd, h⟩ := bind_eq_ok.mp h
        cases hupd
        cases h
        have hty := htyped.lookup _ _ _ _ hl
        have hlook : Quiet isContext s (State.reference { s with
            events := s.events ++ [.read idLoc 4]
            tick := s.tick + 1 } res) :=
          .of_eq rfl rfl rfl rfl rfl (Nat.le_succ _) ⟨_, rfl⟩
        have hcached := (hs.quiet htyped hlook).setCache ⟨s.mem.read32 idLoc, res, none⟩ hty fun n hn => by cases hn
        obtain ⟨⟨front, back, hrel⟩, hv⟩ := vmwCmdResRelocAdd_relocates hmob hcached.mem_iff (onError_ok.mp hadd)
        have hlisted := (hcached.relocates htyped hty hrel).setCache ⟨s.mem.read32 idLoc, res, v⟩ hty fun n hn => by
          obtain rfl | rfl := hv
          · cases hn
          · cases hn
            exact ⟨rfl, hrel.self⟩
        refine ⟨hlisted.quiet htyped (.of_eq rfl rfl rfl rfl rfl (Nat.le_refl _) ⟨_, rfl⟩), ?_⟩
        have hiff := hrel.allStaged_iff htyped hty
        rw [hready res (hnow.trans hl)]
        exact hiff.trans (and_congr_left' hlook.allStaged_iff)

/-- A buffer is on the list, or it goes there. -/
theorem vmwBoToValidateList_listed {bo : BufId} {asMob : Bool} {i : Nat} (hs : Listed env isContext s)
    (h : vmwBoToValidateList bo asMob s = .ok i t) :
    Listed env isContext t ∧ t.node = s.node ∧ t.resourceList = s.resourceList := by
  obtain ⟨o, s₁, hfind, h⟩ := bind_eq_ok.mp h
  cases hfind
  cases hi : s.valBufs.findIdx? (fun v => v.bo = bo) with
  | some i =>
    rw [hi] at h
    obtain ⟨asMob', s₂, hbuf, h⟩ := bind_eq_ok.mp h
    cases hbuf
    split at h
    · cases h
    · cases h
      exact ⟨hs, rfl, rfl⟩
  | none =>
    rw [hi] at h
    obtain ⟨n, s₂, hcur, h⟩ := bind_eq_ok.mp h
    cases hcur
    split at h
    · cases h
    · cases h
      have hnew : bo ∉ s.valBufs.map (·.bo) := by
        intro hin
        obtain ⟨v, hv, hbo⟩ := List.mem_map.mp hin
        have hne := List.findIdx?_eq_none_iff.mp hi v hv
        simp [hbo] at hne
      refine ⟨⟨hs.nodup, hs.mem_iff, ?_, hs.relocated, hs.referenced, hs.cache, hs.bound, hs.contextsFirst, hs.staged⟩, rfl, rfl⟩
      change (List.map ValidateBuffer.bo (s.valBufs ++ [⟨bo, asMob⟩])).Nodup
      rw [List.map_append]
      exact hs.buffers.append (List.nodup_singleton _) (List.disjoint_singleton.mpr hnew)

theorem allStaged_congr (h : t.node = s.node) : AllStaged isContext t ↔ AllStaged isContext s := by
  unfold AllStaged State.staged
  rw [h]

theorem Step.listed {l : Label} (hmob : env.hasMob = true) (htyped : env.Typed isContext) (hs : Listed env isContext s)
    (h : Step env isContext l s t) :
    Listed env isContext t ∧ (AllStaged isContext t ↔ AllStaged isContext s ∧ Ready env s l) := by
  cases h with
  | check h => exact vmwCmdResCheck_listed hmob htyped hs h
  | reloc hres h =>
    have hty := iff_of_false hres (by simp : ResType.shader ≠ .context)
    obtain ⟨⟨front, back, hrel⟩, _⟩ := vmwCmdResRelocAdd_relocates hmob hs.mem_iff h
    refine ⟨hs.relocates htyped hty hrel, (hrel.allStaged_iff htyped hty).trans ?_⟩
    refine and_congr_right' (iff_of_true (fun hty => ?_) trivial)
    cases hty
  | buffer h =>
    obtain ⟨hlisted, hnode, _⟩ := vmwBoToValidateList_listed hs h
    exact ⟨hlisted, (allStaged_congr hnode).trans (and_iff_left trivial).symm⟩
  | quiet h => exact ⟨hs.quiet htyped h, h.allStaged_iff.trans (and_iff_left trivial).symm⟩

end Steps

section Runs

variable {ls : List Label}

theorem Trace.listed {ok : State hashLong → Label → Prop} (hmob : env.hasMob = true) (htyped : env.Typed isContext)
    (hs : Listed env isContext s) (h : Trace env isContext ok s ls t) : Listed env isContext t := by
  induction h with
  | nil => exact hs
  | cons _ hstep _ ih => exact ih (hstep.listed hmob htyped hs).1

/-- A run whose steps are all ready leaves no context without its staged bindings. -/
theorem Trace.allStaged (hmob : env.hasMob = true) (htyped : env.Typed isContext) (hs : Listed env isContext s)
    (hall : AllStaged isContext s) (h : Trace env isContext (Ready env) s ls t) : AllStaged isContext t := by
  induction h with
  | nil => exact hall
  | cons hok hstep _ ih =>
    obtain ⟨hlisted, hiff⟩ := hstep.listed hmob htyped hs
    exact ih hlisted (hiff.mpr ⟨hall, hok⟩)

/-- A context that is left without them stays so: the staged bindings come with the node. -/
theorem Goes.ready (hmob : env.hasMob = true) (htyped : env.Typed isContext) (hs : Listed env isContext s)
    (h : Goes env isContext s ls t) (hall : AllStaged isContext t) :
    AllStaged isContext s ∧ Trace env isContext (Ready env) s ls t := by
  induction h with
  | nil s => exact ⟨hall, .nil s⟩
  | cons _ hstep _ ih =>
    obtain ⟨hlisted, hiff⟩ := hstep.listed hmob htyped hs
    obtain ⟨hmid, hrest⟩ := ih hlisted hall
    obtain ⟨hfirst, hready⟩ := hiff.mp hmid
    exact ⟨hfirst, .cons hready hstep hrest⟩

theorem vmwResourcesReserve_listed {reserve : ResId → Bool → Except Int (Option BufId)} {needsBackup : ResId → Bool}
    {rs : List ResId} (hs : Listed env isContext s) (h : vmwResourcesReserve reserve needsBackup rs s = .ok () t) :
    Listed env isContext t ∧ t.node = s.node ∧ t.resourceList = s.resourceList := by
  induction rs generalizing s with
  | nil =>
    cases h
    exact ⟨hs, rfl, rfl⟩
  | cons r rs ih =>
    obtain ⟨noBackup, s₁, hread, h⟩ := bind_eq_ok.mp h
    cases hread
    cases hres : reserve r ((s.node r).any (·.noBufferNeeded)) with
    | error ret =>
      rw [hres] at h
      cases h
    | ok o =>
      rw [hres] at h
      cases o with
      | none => exact ih hs h
      | some backup =>
        obtain ⟨i, s₂, hbuf, h⟩ := bind_eq_ok.mp h
        obtain ⟨hlisted, hnode, hlist⟩ := vmwBoToValidateList_listed hs hbuf
        obtain ⟨hlisted', hnode', hlist'⟩ := ih hlisted h
        exact ⟨hlisted', hnode'.trans hnode, hlist'.trans hlist⟩

theorem State.Fresh.listed (hs : s.Fresh) : Listed env isContext s where
  nodup := by
    rw [hs.resourceList]
    exact List.nodup_nil
  mem_iff r := by
    rw [hs.resourceList, hs.node]
    simp
  buffers := by
    rw [hs.valBufs]
    exact List.nodup_nil
  relocated rel hrel := by
    rw [hs.resRelocations] at hrel
    cases hrel
  referenced ctx _ hnode := absurd (hs.node ctx) hnode
  cache resType rcache hr := by
    rw [hs.resCache] at hr
    cases hr
  bound ctx _ hnode := absurd (hs.node ctx) hnode
  contextsFirst := ⟨[], [], hs.resourceList, by simp, by simp⟩
  staged r hr := by
    unfold State.staged at hr
    rw [hs.node] at hr
    exact absurd rfl hr

theorem State.Fresh.allStaged (hs : s.Fresh) : AllStaged isContext s := fun ctx _ hnode => absurd (hs.node ctx) hnode

end Runs

section Rebind

variable {rebindAll : ResId → Int} {rs : List ResId} {res : ResId}

/-- Only nodes with staged bindings are visited. -/
theorem rebindLoop_staged (h : res ∈ (rebindLoop rebindAll s rs).2) : s.staged res ≠ none := by
  induction rs with
  | nil => cases h
  | cons r rs ih =>
    unfold rebindLoop at h
    split at h
    · next hstaged =>
      have hr : s.staged r ≠ none := Option.isSome_iff_ne_none.mp hstaged
      split at h
      · rw [List.mem_singleton.mp h]
        exact hr
      · cases List.mem_cons.mp h with
        | inl heq =>
          rw [heq]
          exact hr
        | inr hin => exact ih hin
    · cases h

/-- All nodes before the first without staged bindings are visited, if no rebinding fails. -/
theorem rebindLoop_visits {front back : List ResId} (hfront : ∀ r ∈ front, s.staged r ≠ none)
    (hret : (rebindLoop rebindAll s (front ++ back)).1 = 0) (h : res ∈ front) :
    res ∈ (rebindLoop rebindAll s (front ++ back)).2 := by
  induction front with
  | nil => cases h
  | cons r front ih =>
    have hr := Option.isSome_iff_ne_none.mpr (hfront r List.mem_cons_self)
    rw [List.cons_append, rebindLoop, if_pos hr] at hret ⊢
    split at hret
    · next hfails => exact absurd hret hfails
    · next hok =>
      rw [if_neg hok]
      cases List.mem_cons.mp h with
      | inl heq => exact heq ▸ List.mem_cons_self
      | inr hin =>
        exact List.mem_cons_of_mem r (ih (fun r' hr' => hfront r' (List.mem_cons_of_mem r hr')) hret hin)

theorem rebindLoop_ok (rs : List ResId) : (rebindLoop (fun _ => 0) s rs).1 = 0 := by
  induction rs with
  | nil => rfl
  | cons r rs ih =>
    unfold rebindLoop
    split
    · exact ih
    · rfl

/-- The contexts are first on the list, so all depends on whether they have their staged bindings. -/
theorem Listed.inOrder_iff (hs : Listed env isContext s) : Structured env isContext s ↔ AllStaged isContext s := by
  constructor
  · intro h ctx hctx hnode
    obtain ⟨rel, hrel, hres⟩ := hs.referenced ctx hctx hnode
    exact rebindLoop_staged (h.visited (fun _ => 0) (rebindLoop_ok _) rel hrel ctx hres hctx)
  · intro hall
    obtain ⟨front, back, hlist, hfront, hback⟩ := hs.contextsFirst
    have hnode : ∀ r ∈ front, s.node r ≠ none := fun r hr =>
      (hs.mem_iff r).mp (hlist ▸ List.mem_append_left back hr)
    have hstaged : ∀ r ∈ front, s.staged r ≠ none := fun r hr => hall r (hfront r hr) (hnode r hr)
    refine ⟨hs.nodup, hs.buffers, fun rel hrel r hr => (hs.mem_iff r).mpr (hs.relocated rel hrel r hr), ?_,
      ⟨front, back, hlist, hstaged, fun r hr => ?_⟩, ?_⟩
    · intro rel hrel ctx hres hctx r hr
      exact (hs.mem_iff r).mpr (hs.bound ctx hctx (hs.relocated rel hrel ctx hres) r hr)
    · by_contra hne
      exact hback r hr (hs.staged r hne)
    · intro rebindAll hret rel hrel ctx hres hctx
      unfold vmwRebindContexts at hret ⊢
      have hin : ctx ∈ s.resourceList := (hs.mem_iff ctx).mpr (hs.relocated rel hrel ctx hres)
      rw [hlist] at hret hin ⊢
      refine rebindLoop_visits hstaged hret ?_
      cases List.mem_append.mp hin with
      | inl hin => exact hin
      | inr hin => exact absurd hctx (hback ctx hin)

end Rebind

section Batches

variable {fuel size : Nat} {reserve : ResId → Bool → Except Int (Option BufId)} {needsBackup : ResId → Bool}

/-- A batch is a run of calls; its lists are in order just when every call that checks a new context
has memory for its staged bindings. -/
theorem structured_iff (hmob : env.hasMob = true) (htyped : env.Typed isContext) (hs : s.Fresh)
    (hshaders : ShadersTyped isContext s.shaders) (h : vmwCmdCheckAll env fuel size s = some (.ok () t))
    (hreserve : vmwResourcesReserve reserve needsBackup t.resourceList t = .ok () u) :
    (∃ ls, Goes env isContext s ls t) ∧ ∀ ls, Goes env isContext s ls t →
      (Structured env isContext u ↔ Trace env isContext (Ready env) s ls t) := by
  obtain ⟨cs, buf', hchecked⟩ := vmwCmdCheckAll_ok h
  refine ⟨(hchecked.served hshaders).1, fun ls hgoes => ?_⟩
  have hlisted : Listed env isContext t := hgoes.listed hmob htyped hs.listed
  obtain ⟨hreserved, hnode, _⟩ := vmwResourcesReserve_listed hlisted hreserve
  rw [hreserved.inOrder_iff, allStaged_congr hnode]
  exact ⟨fun hall => (hgoes.ready hmob htyped hs.listed hall).2, fun hready => hready.allStaged hmob htyped hs.listed hs.allStaged⟩

/-- A MOB device where the handles below 100 are those of contexts. -/
def Env.contexts (kmalloc : Nat → Bool) : Env :=
  { Env.mobDevice with
    kmalloc := kmalloc
    lookup := fun _ resType handle =>
      if decide (handle < 100) = decide (resType = .context) then some handle else none }

/-- SETVIEWPORT in context 1 and in context 2. -/
def twoContexts : State (fun key _ => key) :=
  { State.start (fun key _ => key) (memOf 4096 [svga3dCmdSetviewport, 4, 1, svga3dCmdSetviewport, 4, 2]) with
    shaders := ⟨.empty (fun key _ => key), 100⟩ }

theorem contexts_typed (kmalloc : Nat → Bool) : (Env.contexts kmalloc).Typed (· < 100) where
  lookup tick resType handle res h := by
    unfold Env.contexts at h
    dsimp only at h
    split at h
    · next heq =>
      cases h
      exact decide_eq_decide.mp heq
    · cases h
  bound tick ctx res hres := by cases hres
  shrinks ctx tick tick' _ := fun _ h => h

theorem twoContexts_typed : ShadersTyped (· < 100) twoContexts.shaders :=
  ⟨fun _ h => Bool.noConfusion h, fun _ h => Nat.not_lt_of_le h⟩

theorem twoContexts_fresh : twoContexts.Fresh where
  resRelocations := rfl
  relocs := rfl
  valBufs := rfl
  resourceList := rfl
  node _ := rfl
  resCache _ := rfl
  events := rfl

/-- Two contexts, with memory for both. -/
theorem structured_iff_twoContexts : ∃ t u, vmwCmdCheckAll (.contexts fun _ => true) 3 24 twoContexts = some (.ok () t) ∧
    vmwResourcesReserve (fun _ _ => .ok none) (fun _ => true) t.resourceList t = .ok () u ∧
      (∃ ls, Goes (.contexts fun _ => true) (· < 100) twoContexts ls t) ∧
      ∀ ls, Goes (.contexts fun _ => true) (· < 100) twoContexts ls t →
        (Structured (.contexts fun _ => true) (· < 100) u ↔
          Trace (.contexts fun _ => true) (· < 100) (Ready (.contexts fun _ => true)) twoContexts ls t) := by
  have hrun : (accepted (vmwCmdCheckAll (.contexts fun _ => true) 3 24 twoContexts)).map (·.resourceList) = some [2, 1] := by
    decide +kernel
  obtain ⟨t, ht, hlist⟩ := Option.map_eq_some_iff.mp hrun
  have hok := accepted_eq_some.mp ht
  have hreserve : vmwResourcesReserve (fun _ _ => .ok none) (fun _ => true) t.resourceList t = .ok () t := by
    rw [hlist]
    rfl
  exact ⟨t, t, hok, hreserve, structured_iff rfl (contexts_typed _) twoContexts_fresh twoContexts_typed hok hreserve⟩

/-- Without memory for the staged bindings of the second context the batch is accepted and reserved, and
no context is visited. -/
theorem contexts_not_rebound : ∃ t u, vmwCmdCheckAll (.contexts (· ≠ 9)) 3 24 twoContexts = some (.ok () t) ∧
    vmwResourcesReserve (fun _ _ => .ok none) (fun _ => true) t.resourceList t = .ok () u ∧
      (Env.contexts (· ≠ 9)).Typed (· < 100) ∧ twoContexts.Fresh ∧ ShadersTyped (· < 100) twoContexts.shaders ∧
      u.resourceList = [2, 1] ∧ vmwRebindContexts (fun _ => 0) u = (0, []) ∧
      ¬ Structured (.contexts (· ≠ 9)) (· < 100) u := by
  have hrun : (accepted (vmwCmdCheckAll (.contexts (· ≠ 9)) 3 24 twoContexts)).map (fun t =>
      (t.resourceList, t.resRelocations.map (·.res), (t.staged 2).isSome)) = some ([2, 1], [some 1, some 2], false) := by
    decide +kernel
  obtain ⟨t, ht, hlists⟩ := Option.map_eq_some_iff.mp hrun
  have hok := accepted_eq_some.mp ht
  obtain ⟨hlist, hrest⟩ := Prod.mk.inj hlists
  obtain ⟨hrels, hstaged⟩ := Prod.mk.inj hrest
  have hreserve : vmwResourcesReserve (fun _ _ => .ok none) (fun _ => true) t.resourceList t = .ok () t := by
    rw [hlist]
    rfl
  have hvisits : vmwRebindContexts (fun _ => 0) t = (0, []) := by
    unfold vmwRebindContexts
    rw [hlist, rebindLoop, hstaged]
    rfl
  refine ⟨t, t, hok, hreserve, contexts_typed _, twoContexts_fresh, twoContexts_typed, hlist, hvisits, fun h => ?_⟩
  have hin : some 2 ∈ t.resRelocations.map (·.res) := by simp [hrels]
  obtain ⟨rel, hrel, hres⟩ := List.mem_map.mp hin
  have hvisited := h.visited (fun _ => 0) (by rw [hvisits]) rel hrel 2 hres (by decide)
  rw [hvisits] at hvisited
  cases hvisited

end Batches

end Vmwgfx.Execbuf
