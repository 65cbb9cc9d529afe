import Vmwgfx.Execbuf.Nodes
import Vmwgfx.Lib.Relates

/-! The verifier's calls that put something on its lists, and the batch as a sequence of them. -/

namespace Vmwgfx.Execbuf

open Vmwgfx.Cmdbuf (ShaderWorld vmwCompatShaderAdd vmwCompatShaderRemove vmwCompatShaderLookup)
open Vmwgfx.Hashtab Vmwgfx.Lib

variable {hashLong : HashLong}

/-- The compat shaders, and the resources that become some, are no contexts. -/
structure ShadersTyped (isContext : ResId → Prop) (w : ShaderWorld hashLong) : Prop where
  entry : ∀ i, w.world.live i = true → ¬ isContext (w.world.entry i).res
  next : ∀ r, w.nextRes ≤ r → ¬ isContext r

/-- A call of the verifier. -/
inductive Label
  /-- `vmw_cmd_res_check`, with the resource that the handle names. -/
  | check (resType : ResType) (idLoc : Nat) (res : Option ResId)
  /-- The direct call of `vmw_cmd_res_reloc_add`, for a compat shader. -/
  | reloc (res : ResId)
  | buffer (bo : BufId)
  | quiet

/-- The lists stay as they are, but for relocations without a resource. -/
structure Quiet (isContext : ResId → Prop) (s t : State hashLong) : Prop where
  resourceList : t.resourceList = s.resourceList
  node : ∀ r, t.node r ≠ none ↔ s.node r ≠ none
  staged : ∀ r, t.staged r ≠ none ↔ s.staged r ≠ none
  resCache : t.resCache = s.resCache
  valBufs : t.valBufs = s.valBufs
  resRelocations : ∃ rels, t.resRelocations = s.resRelocations ++ rels ∧ ∀ rel ∈ rels, rel.res = none
  tick : s.tick ≤ t.tick
  shaders : ShadersTyped isContext s.shaders → ShadersTyped isContext t.shaders

variable (env : Env) (isContext : ResId → Prop)

inductive Step : Label → State hashLong → State hashLong → Prop
  | check {s t resType idLoc v} (h : vmwCmdResCheck env resType idLoc s = .ok v t) :
      Step (.check resType idLoc (namedNow env s resType (s.mem.read32 idLoc))) s t
  | reloc {s t idLoc res v} (hres : ¬ isContext res) (h : vmwCmdResRelocAdd env .shader idLoc res s = .ok v t) :
      Step (.reloc res) s t
  | buffer {s t bo asMob i} (h : vmwBoToValidateList bo asMob s = .ok i t) : Step (.buffer bo) s t
  | quiet {s t} (h : Quiet isContext s t) : Step .quiet s t

/-- The states the verifier goes through, every step of which meets the condition `ok`. -/
inductive Trace (ok : State hashLong → Label → Prop) : State hashLong → List Label → State hashLong → Prop
  | nil (s : State hashLong) : Trace ok s [] s
  | cons {s t u : State hashLong} {l : Label} {ls : List Label} (hok : ok s l) (hstep : Step env isContext l s t)
      (hrest : Trace ok t ls u) : Trace ok s (l :: ls) u

abbrev Goes : State hashLong → List Label → State hashLong → Prop := Trace env isContext fun _ _ => True

/-- Where the shaders are typed, a sequence of calls leads on. -/
def Served (s t : State hashLong) : Prop :=
  ShadersTyped isContext s.shaders → (∃ ls, Goes env isContext s ls t) ∧ ShadersTyped isContext t.shaders

/-- Only the reference counts of the shaders change. -/
def KrefOnly (s t : State hashLong) : Prop := ∃ kref, t.shaders = { s.shaders with world.kref := kref }

variable {env isContext} {s t u : State hashLong}

section Traces

theorem Trace.append {ok : State hashLong → Label → Prop} {ls ls' : List Label} (h : Trace env isContext ok s ls t)
    (h' : Trace env isContext ok t ls' u) : Trace env isContext ok s (ls ++ ls') u := by
  induction h with
  | nil => exact h'
  | cons hok hstep _ ih => exact .cons hok hstep (ih h')

theorem Goes.single {l : Label} (h : Step env isContext l s t) : Goes env isContext s [l] t :=
  .cons trivial h (.nil t)

/-- No relocation is added. -/
theorem same_relocations (rels : List ResourceRelocation) :
    ∃ added, rels = rels ++ added ∧ ∀ rel ∈ added, rel.res = none :=
  ⟨[], (List.append_nil _).symm, fun _ h => by cases h⟩

theorem Quiet.refl (s : State hashLong) : Quiet isContext s s :=
  ⟨rfl, fun _ => Iff.rfl, fun _ => Iff.rfl, rfl, rfl, same_relocations _, Nat.le_refl _, fun h => h⟩

/-- A reference count changes, or a time. -/
theorem Quiet.of_eq (resourceList : t.resourceList = s.resourceList) (node : t.node = s.node)
    (resCache : t.resCache = s.resCache) (valBufs : t.valBufs = s.valBufs)
    (resRelocations : t.resRelocations = s.resRelocations) (tick : s.tick ≤ t.tick)
    (shaders : ∃ kref, t.shaders = { s.shaders with world.kref := kref }) : Quiet isContext s t where
  resourceList := resourceList
  node r := by rw [node]
  staged r := by
    unfold State.staged
    rw [node]
  resCache := resCache
  valBufs := valBufs
  resRelocations := resRelocations ▸ same_relocations _
  tick := tick
  shaders := by
    obtain ⟨kref, hkref⟩ := shaders
    rw [hkref]
    exact fun h => ⟨h.entry, h.next⟩

instance : Std.Refl (Served env isContext : State hashLong → State hashLong → Prop) :=
  ⟨fun s h => ⟨⟨[], .nil s⟩, h⟩⟩

instance : IsTrans (State hashLong) (Served env isContext) where
  trans _ _ _ h h' hs := by
    obtain ⟨⟨ls, hgoes⟩, ht⟩ := h hs
    obtain ⟨⟨ls', hgoes'⟩, hu⟩ := h' ht
    exact ⟨⟨_, hgoes.append hgoes'⟩, hu⟩

instance : Std.Refl (KrefOnly : State hashLong → State hashLong → Prop) := ⟨fun _ => ⟨_, rfl⟩⟩

instance : IsTrans (State hashLong) KrefOnly where
  trans _ _ _ h h' := by
    obtain ⟨kref, ht⟩ := h
    obtain ⟨kref', hu⟩ := h'
    rw [ht] at hu
    exact ⟨kref', hu⟩

theorem KrefOnly.typed (h : KrefOnly s t) (hs : ShadersTyped isContext s.shaders) :
    ShadersTyped isContext t.shaders := by
  obtain ⟨kref, hkref⟩ := h
  rw [hkref]
  exact ⟨hs.entry, hs.next⟩

theorem Quiet.served (h : Quiet isContext s t) : Served env isContext s t :=
  fun hs => ⟨⟨[.quiet], .single (.quiet h)⟩, h.shaders hs⟩

theorem Step.served {l : Label} (h : Step env isContext l s t) (hkref : KrefOnly s t) : Served env isContext s t :=
  fun hs => ⟨⟨[l], .single h⟩, hkref.typed hs⟩

end Traces

section Krefs

variable {α : Type}

theorem krefOnly_of_same {x : Verify hashLong α} (h : ∀ s v t, x s = .ok v t → t.shaders = s.shaders) :
    Relates KrefOnly x := fun s v t hrun => ⟨s.shaders.world.kref, h s v t hrun⟩

theorem ask_krefOnly (f : Nat → α) : Relates KrefOnly (ask f : Verify hashLong α) :=
  krefOnly_of_same fun s v t h => by
    cases h
    rfl

theorem update_krefOnly {f : State hashLong → State hashLong} (h : ∀ s, KrefOnly s (f s)) :
    Relates KrefOnly (update f) := by
  intro s v t hrun
  cases hrun
  exact h s

theorem vmwResourceRelocationAdd_krefOnly (res : Option ResId) (offset : Nat) :
    Relates KrefOnly (vmwResourceRelocationAdd env res offset : Verify hashLong Unit) :=
  (ask_krefOnly _).bind fun _ => .ite (fun _ => (update_krefOnly (by exact fun _ => ⟨_, rfl⟩)).bind fun _ =>
    update_krefOnly (by exact fun _ => ⟨_, rfl⟩)) fun _ => .throw _

theorem vmwResourceValAdd_krefOnly (res : ResId) : Relates KrefOnly (vmwResourceValAdd env res : Verify hashLong Unit) := by
  refine Relates.bind (krefOnly_of_same fun s v t h => ?_) fun n => ?_
  · cases h
    rfl
  · cases n with
    | some n => exact update_krefOnly (by exact fun _ => ⟨_, rfl⟩)
    | none => exact (ask_krefOnly _).bind fun _ => .ite (fun _ => update_krefOnly (by exact fun _ => ⟨_, rfl⟩)) fun _ => .throw _

theorem valAddAll_krefOnly (rs : List ResId) : Relates KrefOnly (valAddAll env rs : Verify hashLong Unit) := by
  induction rs with
  | nil => exact .pure _
  | cons r rs ih => exact (vmwResourceValAdd_krefOnly r).bind fun _ => ih

theorem vmwCmdResRelocAdd_krefOnly (resType : ResType) (idLoc : Nat) (res : ResId) :
    Relates KrefOnly (vmwCmdResRelocAdd env resType idLoc res : Verify hashLong (Option ResId)) := by
  refine (vmwResourceRelocationAdd_krefOnly _ _).bind fun _ => (vmwResourceValAdd_krefOnly res).bind fun _ => ?_
  refine Relates.bind (krefOnly_of_same fun s v t h => ?_) fun _ => .ite (fun _ => ?_) fun _ => .pure _
  · cases h
    rfl
  · refine (update_krefOnly (by exact fun _ => ⟨_, rfl⟩)).bind fun _ => Relates.bind ?_ fun _ => ?_
    · exact (ask_krefOnly _).bind fun bound => valAddAll_krefOnly bound
    · refine (ask_krefOnly _).bind fun _ => .ite (fun _ => ?_) fun _ => .pure _
      refine (update_krefOnly fun s => ?_).bind fun _ => .pure _
      unfold setStaged
      split <;> exact ⟨_, rfl⟩

theorem onError_relates {R : State hashLong → State hashLong → Prop} {x : Verify hashLong α} (h : Relates R x)
    (undo : State hashLong → State hashLong) : Relates R (onError x undo) :=
  fun s v t hrun => h s v t (onError_ok.mp hrun)

theorem vmwCmdResCheck_krefOnly (resType : ResType) (idLoc : Nat) :
    Relates KrefOnly (vmwCmdResCheck env resType idLoc : Verify hashLong (Option ResId)) := by
  refine Relates.bind (krefOnly_of_same fun s v t h => ?_) fun id => .ite (fun _ => .ite (fun _ => .throw _) fun _ => .pure _)
    fun _ => Relates.bind (krefOnly_of_same fun s v t h => ?_) fun entry => ?_
  · cases h
    rfl
  · cases h
    rfl
  · cases entry with
    | some rcache =>
      dsimp only
      cases rcache.node with
      | none => exact .throw _
      | some node =>
        refine (update_krefOnly fun s => ?_).bind fun _ => (vmwResourceRelocationAdd_krefOnly _ _).bind fun _ => .pure _
        unfold clearFirstUsage
        split <;> exact ⟨_, rfl⟩
    | none =>
      refine (ask_krefOnly _).bind fun found => ?_
      cases found with
      | none => exact .throw _
      | some res =>
        refine (update_krefOnly (by exact fun _ => ⟨_, rfl⟩)).bind fun _ => (update_krefOnly (by exact fun _ => ⟨_, rfl⟩)).bind fun _ => ?_
        refine (onError_relates (vmwCmdResRelocAdd_krefOnly resType idLoc res) _).bind fun node => ?_
        exact (update_krefOnly (by exact fun _ => ⟨_, rfl⟩)).bind fun _ => (update_krefOnly (by exact fun _ => ⟨_, rfl⟩)).bind fun _ => .pure _

theorem vmwBoToValidateList_krefOnly (bo : BufId) (asMob : Bool) :
    Relates KrefOnly (vmwBoToValidateList bo asMob : Verify hashLong Nat) := by
  have hread {β : Type} {x : Verify hashLong β} (h : ∀ s v t, x s = .ok v t → t = s) : Relates KrefOnly x :=
    krefOnly_of_same fun s v t hrun => by rw [h s v t hrun]
  refine Relates.bind (hread fun s v t h => by cases h; rfl) fun i => ?_
  cases i with
  | some i =>
    exact Relates.bind (hread fun s v t h => by cases h; rfl) fun _ => .ite (fun _ => .throw _) fun _ => .pure _
  | none =>
    refine Relates.bind (hread fun s v t h => by cases h; rfl) fun _ => .ite (fun _ => .throw _) fun _ => ?_
    exact (update_krefOnly (by exact fun _ => ⟨_, rfl⟩)).bind fun _ => .pure _

end Krefs

section Services

variable {α : Type}

/-- The program is a sequence of calls. -/
abbrev Serves (env : Env) (isContext : ResId → Prop) (x : Verify hashLong α) : Prop := Relates (Served env isContext) x

theorem serves_of_quiet {x : Verify hashLong α} (h : ∀ s v t, x s = .ok v t → Quiet isContext s t) :
    Serves env isContext x := fun s v t hrun => (h s v t hrun).served

theorem update_serves {f : State hashLong → State hashLong} (h : ∀ s, Quiet isContext s (f s)) :
    Serves env isContext (update f) := by
  intro s v t hrun
  cases hrun
  exact (h s).served

theorem quiet_kref (f : Krefs → Krefs) (s : State hashLong) :
    Quiet isContext s { s with shaders.world.kref := f s.shaders.world.kref } :=
  .of_eq rfl rfl rfl rfl rfl (Nat.le_refl _) ⟨_, rfl⟩

theorem quiet_bufRef (s : State hashLong) (bo : BufId) (n : Int) : Quiet isContext s (s.addBufRef bo n) :=
  .of_eq rfl rfl rfl rfl rfl (Nat.le_refl _) ⟨_, rfl⟩

theorem addBufRef_serves (bo : BufId) (n : Int) : Serves env isContext (update (·.addBufRef bo n) : Verify hashLong Unit) :=
  update_serves fun s => quiet_bufRef s bo n

/-- A read of the state. -/
theorem read_serves {x : Verify hashLong α} (h : ∀ s v t, x s = .ok v t → t = s) : Serves env isContext x :=
  serves_of_quiet fun s v t hrun => by
    rw [h s v t hrun]
    exact .refl s

theorem log_serves (e : Event) : Serves env isContext (log e : Verify hashLong Unit) :=
  update_serves fun _ => .of_eq rfl rfl rfl rfl rfl (Nat.le_refl _) ⟨_, rfl⟩

theorem load_serves (a : Nat) : Serves env isContext (load a : Verify hashLong Nat) :=
  (log_serves _).bind fun _ => read_serves fun s v t h => by cases h; rfl

theorem store_serves (a v : Nat) : Serves env isContext (store a v : Verify hashLong Unit) :=
  (log_serves _).bind fun _ => update_serves (by
    exact fun _ => .of_eq rfl rfl rfl rfl rfl (Nat.le_refl _) ⟨_, rfl⟩)

theorem ask_serves (f : Nat → α) : Serves env isContext (ask f : Verify hashLong α) :=
  serves_of_quiet fun s v t h => by
    cases h
    exact .of_eq rfl rfl rfl rfl rfl (Nat.le_succ _) ⟨_, rfl⟩

theorem check_serves (ret : Int) : Serves env isContext (check ret : Verify hashLong Unit) :=
  .ite (fun _ => .throw _) fun _ => .pure _

theorem vmwCmdResCheck_serves (resType : ResType) (idLoc : Nat) :
    Serves env isContext (vmwCmdResCheck env resType idLoc : Verify hashLong (Option ResId)) :=
  fun s v t h => (Step.check h).served (vmwCmdResCheck_krefOnly resType idLoc s v t h)

theorem checkHandle_serves (resType : ResType) (idLoc : Nat) :
    Serves env isContext (checkHandle env resType idLoc : Verify hashLong Unit) :=
  (vmwCmdResCheck_serves resType idLoc).bind fun _ => .pure _

theorem vmwBoToValidateList_serves (bo : BufId) (asMob : Bool) :
    Serves env isContext (vmwBoToValidateList bo asMob : Verify hashLong Nat) :=
  fun s i t h => (Step.buffer h).served (vmwBoToValidateList_krefOnly bo asMob s i t h)

/-- A relocation that names no resource. -/
theorem vmwResourceRelocationAdd_serves (offset : Nat) :
    Serves env isContext (vmwResourceRelocationAdd env none offset : Verify hashLong Unit) := by
  refine (ask_serves _).bind fun _ => .ite (fun _ => (log_serves _).bind fun _ => update_serves ?_) fun _ => .throw _
  intro s
  refine ⟨rfl, fun _ => Iff.rfl, fun _ => Iff.rfl, rfl, rfl, ⟨_, rfl, ?_⟩, Nat.le_refl _, fun h => h⟩
  intro rel hrel
  rw [List.mem_singleton.mp hrel]

theorem relocAdd_serves (handle : Nat) (asMob : Bool) (reloc : Nat → Nat → Relocation) :
    Serves env isContext (relocAdd env handle asMob reloc : Verify hashLong BufId) := by
  refine (ask_serves _).bind fun bo => ?_
  cases bo with
  | none => exact .throw _
  | some bo =>
    refine (addBufRef_serves bo 1).bind fun _ => Relates.bind (read_serves fun s v t h => by cases h; rfl) fun cur => ?_
    refine .ite (fun _ => onError_relates (.throw _) _) fun _ => ?_
    refine (onError_relates (vmwBoToValidateList_serves bo asMob) _).bind fun index => ?_
    refine Relates.bind (update_serves ?_) fun _ => .pure _
    exact fun _ => .of_eq rfl rfl rfl rfl rfl (Nat.le_refl _) ⟨_, rfl⟩

theorem vmwTranslateMobPtr_serves (id : Nat) : Serves env isContext (vmwTranslateMobPtr env id : Verify hashLong BufId) :=
  (load_serves id).bind fun _ => (relocAdd_serves _ _ _).bind fun _ => (log_serves _).bind fun _ => .pure _

theorem vmwTranslateGuestPtr_serves (ptr : Nat) :
    Serves env isContext (vmwTranslateGuestPtr env ptr : Verify hashLong BufId) :=
  (load_serves ptr).bind fun _ => (relocAdd_serves _ _ _).bind fun _ => (log_serves _).bind fun _ => .pure _

theorem keepQueryBo_serves (bo : Option BufId) : Serves env isContext (keepQueryBo env bo : Verify hashLong Unit) := by
  cases bo with
  | none => exact .pure _
  | some old =>
    refine Relates.bind (update_serves ?_) fun _ => (vmwBoToValidateList_serves old env.hasMob).bind fun _ => .pure _
    exact fun _ => .of_eq rfl rfl rfl rfl rfl (Nat.le_refl _) ⟨_, rfl⟩

theorem vmwQueryBoSwitchPrepare_serves (bo : BufId) :
    Serves env isContext (vmwQueryBoSwitchPrepare env bo : Verify hashLong Unit) := by
  refine Relates.bind (read_serves fun s v t h => by cases h; rfl) fun entry => ?_
  cases entry with
  | none => exact .throw _
  | some entry =>
    refine Relates.bind (update_serves ?_) fun _ => ?_
    · exact fun _ => .of_eq rfl rfl rfl rfl rfl (Nat.le_refl _) ⟨_, rfl⟩
    · refine Relates.bind (read_serves fun s v t h => by cases h; rfl) fun cur => ?_
      refine .ite (fun _ => .pure _) fun _ => .ite (fun _ => .throw _) fun _ => ?_
      refine (keepQueryBo_serves cur).bind fun _ => Relates.bind (update_serves ?_) fun _ => ?_
      · exact fun _ => .of_eq rfl rfl rfl rfl rfl (Nat.le_refl _) ⟨_, rfl⟩
      · exact (vmwBoToValidateList_serves _ _).bind fun _ => .pure _

/-- A node changes, but is there as before. -/
theorem quiet_setNode {res : ResId} {n n' : ValNode} (hn : s.node res = some n)
    (hstaged : n'.stagedBindings ≠ none ↔ n.stagedBindings ≠ none) : Quiet isContext s (s.setNode res n') := by
  refine ⟨rfl, fun r => ?_, fun r => ?_, rfl, rfl, same_relocations _, Nat.le_refl _, fun h => h⟩
  · rw [setNode_node]
    split
    · rename_i hr
      rw [hr, hn]
      simp
    · exact Iff.rfl
  · unfold State.staged
    rw [setNode_node]
    split
    · rename_i hr
      rw [hr, hn]
      exact hstaged
    · exact Iff.rfl

theorem vmwContextBindingAdd_serves (ctxNode resNode : Option ResId) (bt : Binding.BindingType) (i1 : Nat) :
    Serves env isContext (vmwContextBindingAdd ctxNode resNode bt i1 : Verify hashLong Int) := by
  cases ctxNode with
  | none => exact .throw _
  | some ctx =>
    refine (log_serves _).bind fun _ => .ite (fun _ => .pure _) fun _ => ?_
    refine Relates.bind_of (read_serves fun s v t h => by cases h; rfl) fun s cbs t hread v u hrest => ?_
    cases hread
    cases hcbs : (s.node ctx).bind (·.stagedBindings) with
    | none =>
      rw [hcbs] at hrest
      cases hrest
    | some cbs =>
      rw [hcbs] at hrest
      cases hrest
      obtain ⟨n, hn, hstaged⟩ := Option.bind_eq_some_iff.mp hcbs
      rw [setStaged_of_node hn]
      exact (quiet_setNode hn (by simp [hstaged])).served

end Services

section Shaders

variable {w w' : ShaderWorld hashLong}

theorem typed_free {m : Cmdbuf.ManId} {i : Cmdbuf.EntryId} {v v' : Cmdbuf.World hashLong}
    (h : Cmdbuf.vmwCmdbufResFree v m i = some v') (j : Cmdbuf.EntryId) :
    v'.entry = v.entry ∧ (v'.live j = true → v.live j = true) := by
  unfold Cmdbuf.vmwCmdbufResFree at h
  split at h
  · cases h
    refine ⟨rfl, fun hj => ?_⟩
    simp only [Cmdbuf.live_kfree, Cmdbuf.live_unref, Cmdbuf.live_htRemove, Cmdbuf.live_listDel] at hj
    by_cases hji : j = i
    · rw [hji, Function.update_self] at hj
      cases hj
    · rwa [Function.update_of_ne hji] at hj
  · cases h

theorem ShadersTyped.remove (hw : ShadersTyped isContext w) {m : Cmdbuf.ManId} {userKey shaderType : UInt32} {ret : Int}
    (h : vmwCompatShaderRemove w m userKey shaderType = some (ret, w')) : ShadersTyped isContext w' := by
  unfold vmwCompatShaderRemove at h
  split at h
  · cases h
    exact hw
  · obtain ⟨⟨ret', world⟩, hremove, heq⟩ := Option.map_eq_some_iff.mp h
    cases heq
    refine ⟨fun j hj => ?_, hw.next⟩
    unfold Cmdbuf.vmwCmdbufResRemove at hremove
    split at hremove
    · cases hremove
      exact hw.entry j hj
    · rename_i i _
      split at hremove
      · split at hremove
        · obtain ⟨world', hfree, heq⟩ := Option.map_eq_some_iff.mp hremove
          cases heq
          obtain ⟨hentry, hlive⟩ := typed_free hfree j
          rw [hentry]
          exact hw.entry j (hlive hj)
        · cases hremove
          have hres : ((w.world.stageDel m i).entry j).res = (w.world.entry j).res := by
            change (Function.update w.world.entry i _ j).res = _
            by_cases hji : j = i
            · rw [hji, Function.update_self]
              rfl
            · rw [Function.update_of_ne hji]
          exact hres ▸ hw.entry j hj
        · cases hremove
      · cases hremove

/-- An entry is the one of the resource that has been added, or was there before. -/
theorem added_entry (v : Cmdbuf.World hashLong) (mem : Bool) (m : Cmdbuf.ManId) (userKey : UInt32) (res : ResId)
    (j : Cmdbuf.EntryId) :
    ((Cmdbuf.vmwCmdbufResAdd v mem m .compatShader userKey res).2.entry j).res = res ∨
      (Cmdbuf.vmwCmdbufResAdd v mem m .compatShader userKey res).2.entry j = v.entry j ∧
        ((Cmdbuf.vmwCmdbufResAdd v mem m .compatShader userKey res).2.live j = true → v.live j = true) := by
  unfold Cmdbuf.vmwCmdbufResAdd
  split
  · split
    · exact .inr ⟨rfl, fun h => h⟩
    · dsimp only
      by_cases hj : j = v.next
      · rw [hj, Function.update_self]
        exact .inl rfl
      · rw [Function.update_of_ne hj, Function.update_of_ne hj]
        exact .inr ⟨rfl, fun h => h⟩
  · exact .inr ⟨rfl, fun h => h⟩

theorem ShadersTyped.add (hw : ShadersTyped isContext w) {o : Cmdbuf.AddOutcome} {m : Cmdbuf.ManId}
    {userKey shaderType : UInt32} {ret : Int} (h : vmwCompatShaderAdd w o m userKey shaderType = some (ret, w')) :
    ShadersTyped isContext w' := by
  have halloc : ShadersTyped isContext (Cmdbuf.vmwShaderAlloc w o.shader).2 := by
    unfold Cmdbuf.vmwShaderAlloc
    split
    · exact ⟨hw.entry, fun r hr => hw.next r (Nat.le_of_succ_le hr)⟩
    · exact hw
  unfold vmwCompatShaderAdd at h
  split at h
  · cases h
    exact hw
  · split at h
    · cases h
      exact hw
    · split at h
      · cases h
        exact hw
      · split at h
        · cases h
          exact hw
        · split at h
          · cases h
            exact hw
          · dsimp only at h
            split at h
            · cases h
              exact halloc
            · split at h
              · cases h
              · rename_i res hres
                cases h
                refine ⟨fun j hj => ?_, halloc.next⟩
                have hnew : ¬ isContext res := by
                  unfold Cmdbuf.vmwShaderAlloc at hres
                  split at hres
                  · cases hres
                    exact hw.next _ (Nat.le_refl _)
                  · cases hres
                obtain hsame | ⟨hentry, hlive⟩ := added_entry (Cmdbuf.vmwShaderAlloc w o.shader).2.world
                  o.entry m (Cmdbuf.vmwCompatShaderKey userKey shaderType) res j
                · change ¬ isContext ((Cmdbuf.vmwCmdbufResAdd _ _ _ _ _ _).2.entry j).res
                  rwa [hsame]
                · change ¬ isContext ((Cmdbuf.vmwCmdbufResAdd _ _ _ _ _ _).2.entry j).res
                  rw [hentry]
                  exact halloc.entry j (hlive hj)

/-- A lookup takes a reference. -/
theorem lookup_kref {m : Cmdbuf.ManId} {userKey shaderType : UInt32} {a : Except Int ResId}
    (h : vmwCompatShaderLookup w m userKey shaderType = some (a, w')) :
    ∃ kref, w' = { w with world.kref := kref } := by
  unfold vmwCompatShaderLookup at h
  split at h
  · cases h
    exact ⟨_, rfl⟩
  · obtain ⟨⟨r, world⟩, hlookup, heq⟩ := Option.map_eq_some_iff.mp h
    cases heq
    unfold Cmdbuf.vmwCmdbufResLookup at hlookup
    split at hlookup
    · cases hlookup
      exact ⟨_, rfl⟩
    · split at hlookup
      · cases hlookup
        exact ⟨_, rfl⟩
      · cases hlookup

/-- The compat shader that is found is no context. -/
theorem ShadersTyped.lookup (hw : ShadersTyped isContext w) {m : Cmdbuf.ManId} {userKey shaderType : UInt32} {res : ResId}
    (h : vmwCompatShaderLookup w m userKey shaderType = some (.ok res, w')) : ¬ isContext res := by
  unfold vmwCompatShaderLookup at h
  split at h
  · cases h
  · obtain ⟨⟨r, world⟩, hlookup, heq⟩ := Option.map_eq_some_iff.mp h
    cases heq
    unfold Cmdbuf.vmwCmdbufResLookup at hlookup
    split at hlookup
    · cases hlookup
    · split at hlookup
      · rename_i hlive
        cases hlookup
        exact hw.entry _ hlive
      · cases hlookup

variable {α : Type}

/-- The managers change, and hold shaders as before. -/
theorem runShaders_serves {r : Option (α × ShaderWorld hashLong)} (h : ∀ a v, r = some (a, v) →
    ShadersTyped isContext s.shaders → ShadersTyped isContext v) {a : α} (hrun : runShaders r s = .ok a t) :
    Served env isContext s t := by
  cases hr : r with
  | none =>
    rw [hr] at hrun
    cases hrun
  | some p =>
    obtain ⟨b, v⟩ := p
    rw [hr] at hrun
    cases hrun
    refine Quiet.served ⟨rfl, fun _ => Iff.rfl, fun _ => Iff.rfl, rfl, rfl, same_relocations _, Nat.le_refl _, ?_⟩
    exact h a v hr

/-- A shader that the managers give out. -/
theorem compatShaderNode_serves (header : Nat) (ctx : ResId) :
    Serves env isContext (compatShaderNode env header ctx : Verify hashLong (Option ResId)) := by
  refine (load_serves _).bind fun shid => .ite (fun _ => .pure _) fun _ => (load_serves _).bind fun type => ?_
  intro s v u h hs
  obtain ⟨w, t, hworld, h⟩ := bind_eq_ok.mp h
  cases hworld
  obtain ⟨res, t, hrun, h⟩ := bind_eq_ok.mp h
  have htyped : ∀ a v, vmwCompatShaderLookup s.shaders (env.resMan ctx) (UInt32.ofNat shid) (UInt32.ofNat type) = some (a, v) →
      ShadersTyped isContext v := by
    intro a v hlookup
    obtain ⟨kref, rfl⟩ := lookup_kref hlookup
    exact ⟨hs.entry, hs.next⟩
  have hserved : Served env isContext s t := runShaders_serves (fun a v hlookup _ => htyped a v hlookup) hrun
  cases res with
  | error e =>
    cases h
    exact hserved hs
  | ok res =>
    have hres : ¬ isContext res := by
      cases hlookup : vmwCompatShaderLookup s.shaders (env.resMan ctx) (UInt32.ofNat shid) (UInt32.ofNat type) with
      | none =>
        rw [hlookup] at hrun
        cases hrun
      | some p =>
        obtain ⟨a, v⟩ := p
        rw [hlookup] at hrun
        cases hrun
        exact hs.lookup hlookup
    obtain ⟨resNode, t', hadd, h⟩ := bind_eq_ok.mp h
    have hadd' := onError_ok.mp hadd
    have hstep : Served env isContext t t' :=
      (Step.reloc hres hadd').served (vmwCmdResRelocAdd_krefOnly _ _ _ t resNode t' hadd')
    have hrest : Served env isContext t' u := by
      cases h
      exact Quiet.served (quiet_kref (vmwResourceUnreference · res) t')
    exact trans_of (Served env isContext) hserved (trans_of _ hstep hrest) hs

theorem resOf_serves (valNode : Option ResId) : Serves env isContext (resOf valNode : Verify hashLong ResId) := by
  cases valNode with
  | none => exact .throw _
  | some res => exact .pure _

end Shaders

section Handlers

variable (header : Nat)

theorem vmwCmdSetRenderTargetCheck_serves :
    Serves env isContext (vmwCmdSetRenderTargetCheck env header : Verify hashLong Unit) :=
  (vmwCmdResCheck_serves _ _).bind fun _ => (vmwCmdResCheck_serves _ _).bind fun _ => .ite
    (fun _ => (load_serves _).bind fun _ => (vmwContextBindingAdd_serves _ _ _ _).bind fun _ => check_serves _)
    fun _ => .pure _

theorem checkHandles_serves (resType resType' : ResType) (idLoc idLoc' : Nat) :
    Serves env isContext ((do
      checkHandle env resType idLoc
      checkHandle env resType' idLoc') : Verify hashLong Unit) :=
  (checkHandle_serves _ _).bind fun _ => checkHandle_serves _ _

theorem rewriteQuery_serves (id : Nat) (ws : List Nat) :
    Serves env isContext (rewriteQuery header id ws : Verify hashLong Unit) := by
  induction ws with
  | nil => exact store_serves _ _
  | cons w ws ih => exact (load_serves _).bind fun _ => ih.bind fun _ => store_serves _ _

theorem endQuery_serves {translate : Verify hashLong BufId} (h : Serves env isContext translate) :
    Serves env isContext (endQuery env translate header) :=
  (checkHandle_serves _ _).bind fun _ => h.bind fun bo =>
    (onError_relates (vmwQueryBoSwitchPrepare_serves bo) _).bind fun _ => addBufRef_serves _ _

theorem waitQuery_serves {translate : Verify hashLong BufId} (h : Serves env isContext translate) :
    Serves env isContext (waitQuery env translate header) :=
  (checkHandle_serves _ _).bind fun _ => h.bind fun _ => addBufRef_serves _ _

/-- A query command that is rewritten where there are MOBs. -/
theorem query_serves {id : Nat} {ws : List Nat} {x y : Verify hashLong Unit} (hx : Serves env isContext x)
    (hy : Serves env isContext y) : Serves env isContext (if env.hasMob then do
      rewriteQuery header id ws
      x
    else y) :=
  .ite (fun _ => (rewriteQuery_serves _ _ _).bind fun _ => hx) fun _ => hy

theorem vmwKmsCursorSnoop_serves (srf : ResId) :
    Serves env isContext (vmwKmsCursorSnoop env srf header : Verify hashLong Unit) :=
  .ite (fun _ => (load_serves _).bind fun _ => .ite (fun _ => .pure _) fun _ => (load_serves _).bind fun _ =>
    .ite (fun _ => .pure _) fun _ => (load_serves _).bind fun _ => .ite (fun _ => .pure _) fun _ =>
      (log_serves _).bind fun _ => log_serves _) fun _ => .pure _

theorem vmwCmdDmaCheck_serves :
    Serves env isContext (vmwCmdDmaCheck env header : Verify hashLong (BufId × Option ResCacheEntry)) := by
  refine (load_serves _).bind fun _ => (load_serves _).bind fun _ => .ite (fun _ => .throw _) fun _ => ?_
  refine (vmwTranslateGuestPtr_serves _).bind fun bo => (load_serves _).bind fun _ => .ite (fun _ => .throw _) fun _ => ?_
  refine Relates.bind ?_ fun _ => (onError_relates (checkHandle_serves _ _) _).bind fun _ =>
    Relates.bind (R := Served env isContext) (read_serves fun s v t h => by cases h; rfl) fun _ => .pure _
  exact (load_serves _).bind fun _ => .ite (fun _ => store_serves _ _) fun _ => .pure _

theorem vmwCmdDma_serves : Serves env isContext (vmwCmdDma env header : Verify hashLong Unit) := by
  refine (vmwCmdDmaCheck_serves header).bind fun found => ?_
  obtain ⟨bo, srf⟩ := found
  cases srf with
  | none => exact .throw _
  | some srf => exact (vmwKmsCursorSnoop_serves header srf.res).bind fun _ => addBufRef_serves _ _

theorem checkSurfaces_serves (stride n idLoc : Nat) :
    Serves env isContext (checkSurfaces env stride n idLoc : Verify hashLong Unit) := by
  induction n generalizing idLoc with
  | zero => exact .pure _
  | succ n ih => exact (checkHandle_serves _ _).bind fun _ => ih _

theorem vmwCmdDraw_serves : Serves env isContext (vmwCmdDraw env header : Verify hashLong Unit) :=
  (checkHandle_serves _ _).bind fun _ => (load_serves _).bind fun _ => (load_serves _).bind fun _ =>
    .ite (fun _ => .throw _) fun _ => (checkSurfaces_serves _ _ _).bind fun _ => (load_serves _).bind fun _ =>
      .ite (fun _ => .throw _) fun _ => checkSurfaces_serves _ _ _

theorem checkTextures_serves (ctxNode : Option ResId) (n curState : Nat) :
    Serves env isContext (checkTextures env ctxNode n curState : Verify hashLong Unit) := by
  induction n generalizing curState with
  | zero => exact .pure _
  | succ n ih =>
    refine Relates.bind ?_ fun _ => ih _
    exact (load_serves _).bind fun _ => .ite (fun _ => .pure _) fun _ => (vmwCmdResCheck_serves _ _).bind fun _ =>
      .ite (fun _ => (load_serves _).bind fun _ => (vmwContextBindingAdd_serves _ _ _ _).bind fun _ => .pure _) fun _ => .pure _

theorem vmwCmdTexState_serves : Serves env isContext (vmwCmdTexState env header : Verify hashLong Unit) :=
  (load_serves _).bind fun _ => (vmwCmdResCheck_serves _ _).bind fun _ => checkTextures_serves _ _ _

theorem vmwCmdCheckDefineGmrfb_serves : Serves env isContext (vmwCmdCheckDefineGmrfb env header : Verify hashLong Unit) :=
  (vmwTranslateGuestPtr_serves _).bind fun _ => addBufRef_serves _ _

theorem vmwCmdSwitchBackup_serves (resType : ResType) (resId bufId backupOffset : Nat) :
    Serves env isContext (vmwCmdSwitchBackup env resType resId bufId backupOffset : Verify hashLong Unit) := by
  refine (vmwCmdResCheck_serves _ _).bind fun valNode => (vmwTranslateMobPtr_serves _).bind fun dmaBuf => ?_
  cases valNode with
  | none => exact .throw _
  | some res =>
    intro s v t h
    cases h
    cases hn : s.node res with
    | none =>
      simp only [hn]
      exact refl_of (Served env isContext) s
    | some n =>
      simp only [hn]
      cases n.newBackup with
      | none =>
        refine Quiet.served (quiet_setNode hn ?_)
        exact Iff.rfl
      | some old =>
        have hn' : (s.addBufRef old (-1)).node res = some n := hn
        refine trans_of (Served env isContext) (quiet_bufRef s old (-1)).served (Quiet.served (quiet_setNode hn' ?_))
        exact Iff.rfl

/-- A call of the managers, with the shaders at that time. -/
theorem withShaders_serves {β : Type} {f : ShaderWorld hashLong → Option (α × ShaderWorld hashLong)}
    (hf : ∀ w a v, f w = some (a, v) → ShadersTyped isContext w → ShadersTyped isContext v)
    {g : α → Verify hashLong β} (hg : ∀ a, Serves env isContext (g a)) :
    Serves env isContext (shaderWorld >>= fun w => runShaders (f w) >>= g) := by
  intro s b u h
  obtain ⟨w, t, hworld, h⟩ := bind_eq_ok.mp h
  cases hworld
  obtain ⟨a, t, hrun, h⟩ := bind_eq_ok.mp h
  exact trans_of (Served env isContext) (runShaders_serves (hf s.shaders) hrun) (hg a t b u h)

theorem vmwCmdShaderDefine_serves : Serves env isContext (vmwCmdShaderDefine env header : Verify hashLong Unit) := by
  refine (vmwCmdResCheck_serves _ _).bind fun val => .ite (fun _ => .pure _) fun _ => ?_
  refine (load_serves _).bind fun _ => (resOf_serves _).bind fun ctx => (load_serves _).bind fun shid => ?_
  refine (load_serves _).bind fun type => (ask_serves _).bind fun outcome => ?_
  refine withShaders_serves (fun w a v h hw => hw.add h) fun ret => ?_
  exact (check_serves _).bind fun _ => (log_serves _).bind fun _ => vmwResourceRelocationAdd_serves _

theorem vmwCmdShaderDestroy_serves : Serves env isContext (vmwCmdShaderDestroy env header : Verify hashLong Unit) := by
  refine (vmwCmdResCheck_serves _ _).bind fun val => .ite (fun _ => .pure _) fun _ => ?_
  refine (resOf_serves _).bind fun ctx => (load_serves _).bind fun shid => (load_serves _).bind fun type => ?_
  refine withShaders_serves (fun w a v h hw => hw.remove h) fun ret => ?_
  exact (check_serves _).bind fun _ => vmwResourceRelocationAdd_serves _

theorem vmwCmdSetShader_serves : Serves env isContext (vmwCmdSetShader env header : Verify hashLong Unit) := by
  refine (vmwCmdResCheck_serves _ _).bind fun ctxNode => .ite (fun _ => .pure _) fun _ => ?_
  have hbind : ∀ resNode, Serves env isContext (do
      let type ← load (header + 12)
      let ret ← vmwContextBindingAdd ctxNode resNode .shader type
      check ret : Verify hashLong Unit) :=
    fun _ => (load_serves _).bind fun _ => (vmwContextBindingAdd_serves _ _ _ _).bind fun _ => check_serves _
  refine (resOf_serves _).bind fun ctx => (compatShaderNode_serves _ _).bind fun compat => ?_
  cases compat with
  | some res => exact hbind (some res)
  | none => exact (vmwCmdResCheck_serves _ _).bind hbind

theorem vmwCmdSetShaderConst_serves : Serves env isContext (vmwCmdSetShaderConst env header : Verify hashLong Unit) :=
  (checkHandle_serves _ _).bind fun _ => .ite (fun _ => store_serves _ _) fun _ => .pure _

theorem CmdFunc.run_serves (func : CmdFunc) : Serves env isContext (func.run env header : Verify hashLong Unit) := by
  cases func with
  | vmwCmdInvalid => exact .throw _
  | vmwCmdSurfaceCopyCheck => exact checkHandles_serves _ _ _ _
  | vmwCmdStretchBltCheck => exact checkHandles_serves _ _ _ _
  | vmwCmdDma => exact vmwCmdDma_serves _
  | vmwCmdCidCheck => exact checkHandle_serves _ _
  | vmwCmdSetRenderTargetCheck => exact vmwCmdSetRenderTargetCheck_serves _
  | vmwCmdTexState => exact vmwCmdTexState_serves _
  | vmwCmdPresentCheck => exact checkHandle_serves _ _
  | vmwCmdShaderDefine => exact vmwCmdShaderDefine_serves _
  | vmwCmdShaderDestroy => exact vmwCmdShaderDestroy_serves _
  | vmwCmdSetShader => exact vmwCmdSetShader_serves _
  | vmwCmdSetShaderConst => exact vmwCmdSetShaderConst_serves _
  | vmwCmdDraw => exact vmwCmdDraw_serves _
  | vmwCmdBeginQuery => exact query_serves _ (checkHandle_serves _ _) (checkHandle_serves _ _)
  | vmwCmdEndQuery =>
    exact query_serves _ (endQuery_serves _ (vmwTranslateMobPtr_serves _)) (endQuery_serves _ (vmwTranslateGuestPtr_serves _))
  | vmwCmdWaitQuery =>
    exact query_serves _ (waitQuery_serves _ (vmwTranslateMobPtr_serves _)) (waitQuery_serves _ (vmwTranslateGuestPtr_serves _))
  | vmwCmdOk => exact .pure _
  | vmwCmdBltSurfScreenCheck => exact checkHandle_serves _ _
  | vmwCmdBindGbSurface => exact vmwCmdSwitchBackup_serves _ _ _ _
  | vmwCmdUpdateGbImage => exact checkHandle_serves _ _
  | vmwCmdUpdateGbSurface => exact checkHandle_serves _ _
  | vmwCmdReadbackGbImage => exact checkHandle_serves _ _
  | vmwCmdReadbackGbSurface => exact checkHandle_serves _ _
  | vmwCmdInvalidateGbImage => exact checkHandle_serves _ _
  | vmwCmdInvalidateGbSurface => exact checkHandle_serves _ _
  | vmwCmdBindGbShader => exact (load_serves _).bind fun _ => vmwCmdSwitchBackup_serves _ _ _ _
  | vmwCmdBeginGbQuery => exact checkHandle_serves _ _
  | vmwCmdEndGbQuery => exact endQuery_serves _ (vmwTranslateMobPtr_serves _)
  | vmwCmdWaitGbQuery => exact waitQuery_serves _ (vmwTranslateMobPtr_serves _)

theorem CmdEntry.run_serves (entry : CmdEntry) : Serves env isContext (entry.run env header : Verify hashLong Unit) := by
  unfold CmdEntry.run
  cases entry.func with
  | none => exact .throw _
  | some func => exact CmdFunc.run_serves _ func

theorem vmwCmdCheckNot3d_serves (remaining : Nat) :
    Serves env isContext (vmwCmdCheckNot3d env header remaining : Verify hashLong Nat) := by
  refine Relates.bind (read_serves fun s v t h => by cases h; rfl) fun cmdId => ?_
  cases not3dSize cmdId with
  | none => exact .throw _
  | some size =>
    refine .ite (fun _ => .throw _) fun _ => .ite (fun _ => .throw _) fun _ => .ite (fun _ => ?_) fun _ => .pure _
    exact (vmwCmdCheckDefineGmrfb_serves _).bind fun _ => .pure _

theorem vmwCmdCheck_serves (remaining : Nat) :
    Serves env isContext (vmwCmdCheck env header remaining : Verify hashLong Nat) := by
  intro s v t h
  cases Nat.lt_or_ge (s.mem.read32 header) svgaCmdMax with
  | inl hid => exact vmwCmdCheckNot3d_serves header remaining s v t (vmwCmdCheck_not3d hid h)
  | inr hid =>
    obtain ⟨_, _, _, hrun⟩ := vmwCmdCheck_3d hid h
    exact CmdEntry.run_serves header _ s () t hrun

end Handlers

/-- A batch is a sequence of calls. -/
theorem Checked.served {buf buf' : Nat} {curSize curSize' : Int} {cs : List (Command hashLong)}
    (h : Checked env buf curSize s cs buf' curSize' t) : Served env isContext s t := by
  induction h with
  | nil => exact refl_of (Served env isContext) _
  | cons hpos hcheck hrest ih =>
    exact trans_of (Served env isContext) (vmwCmdCheck_serves _ _ _ _ _ hcheck) ih

end Vmwgfx.Execbuf
