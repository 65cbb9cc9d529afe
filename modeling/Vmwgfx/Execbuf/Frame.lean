import Vmwgfx.Execbuf.Effects
import Vmwgfx.Execbuf.Termination
import Vmwgfx.Lib.Ends

/-! A property of the buffers of a batch is kept by the whole verifier, if the few services that
list and count buffers keep it. -/

namespace Vmwgfx.Execbuf

open Vmwgfx.Cmdbuf (ShaderWorld)
open Vmwgfx.Hashtab Vmwgfx.Lib

variable {hashLong : HashLong}

/-- The buffer that a batch makes the backup of a resource. -/
def State.newBackup (s : State hashLong) (r : ResId) : Option BufId := (s.node r).bind (·.newBackup)

/-- The resource list is the one of the nodes. -/
structure State.NodesListed (s : State hashLong) : Prop where
  nodup : s.resourceList.Nodup
  mem_iff : ∀ r, r ∈ s.resourceList ↔ s.node r ≠ none

/-- The buffers are listed and counted as before. -/
structure SameBufs (s t : State hashLong) : Prop where
  valBufs : t.valBufs = s.valBufs
  curQueryBo : t.curQueryBo = s.curQueryBo
  bufRef : t.bufRef = s.bufRef
  relocs : t.relocs = s.relocs
  newBackup : t.newBackup = s.newBackup
  nodesListed : s.NodesListed → t.NodesListed

/-- A property of the buffers: `I` holds of a batch that goes on, `E` of one that has failed. -/
structure Framed (I E : State hashLong → Prop) : Prop where
  same : ∀ s t, SameBufs s t → I s → I t
  stop : ∀ s, I s → E s
  undo : ∀ s t, SameBufs s t → E s → E t

section Frames

variable {s t u : State hashLong}

theorem SameBufs.refl (s : State hashLong) : SameBufs s s := ⟨rfl, rfl, rfl, rfl, rfl, id⟩

theorem SameBufs.trans (h : SameBufs s t) (h' : SameBufs t u) : SameBufs s u where
  valBufs := h'.valBufs.trans h.valBufs
  curQueryBo := h'.curQueryBo.trans h.curQueryBo
  bufRef := h'.bufRef.trans h.bufRef
  relocs := h'.relocs.trans h.relocs
  newBackup := h'.newBackup.trans h.newBackup
  nodesListed := fun hs => h'.nodesListed (h.nodesListed hs)

theorem SameBufs.of_eq (valBufs : t.valBufs = s.valBufs) (curQueryBo : t.curQueryBo = s.curQueryBo)
    (bufRef : t.bufRef = s.bufRef) (relocs : t.relocs = s.relocs) (node : t.node = s.node)
    (resourceList : t.resourceList = s.resourceList) : SameBufs s t where
  valBufs := valBufs
  curQueryBo := curQueryBo
  bufRef := bufRef
  relocs := relocs
  newBackup := by
    funext r
    unfold State.newBackup
    rw [node]
  nodesListed := by
    intro hs
    constructor
    · rw [resourceList]
      exact hs.nodup
    · rw [resourceList, node]
      exact hs.mem_iff

theorem newBackup_setNode (s : State hashLong) (r : ResId) (n : ValNode) :
    (s.setNode r n).newBackup = Function.update s.newBackup r n.newBackup := by
  funext r'
  unfold State.newBackup
  rw [setNode_node]
  by_cases hr : r' = r
  · rw [if_pos hr, hr, Function.update_self]
    rfl
  · rw [if_neg hr, Function.update_of_ne hr]

theorem State.NodesListed.setNode (hs : s.NodesListed) {r : ResId} (hr : s.node r ≠ none) (n : ValNode) :
    (s.setNode r n).NodesListed where
  nodup := hs.nodup
  mem_iff r' := by
    rw [setNode_node]
    change r' ∈ s.resourceList ↔ _
    rw [hs.mem_iff]
    split
    · next heq =>
      rw [heq]
      simp [hr]
    · exact Iff.rfl

/-- A node changes in other fields. -/
theorem sameBufs_setNode {r : ResId} {n n' : ValNode} (hn : s.node r = some n)
    (hbackup : n'.newBackup = n.newBackup) : SameBufs s (s.setNode r n') where
  valBufs := rfl
  curQueryBo := rfl
  bufRef := rfl
  relocs := rfl
  newBackup := by
    rw [newBackup_setNode, hbackup]
    have : s.newBackup r = n.newBackup := by
      unfold State.newBackup
      rw [hn]
      rfl
    rw [← this, Function.update_eq_self]
  nodesListed hs := hs.setNode (by rw [hn]; exact Option.some_ne_none n) n'

/-- A resource comes on the list. -/
theorem sameBufs_addNode {r : ResId} {n : ValNode} (hn : s.node r = none) (hbackup : n.newBackup = none) :
    SameBufs s { (s.setNode r n).reference r with resourceList := s.resourceList ++ [r] } where
  valBufs := rfl
  curQueryBo := rfl
  bufRef := rfl
  relocs := rfl
  newBackup := by
    change (s.setNode r n).newBackup = s.newBackup
    rw [newBackup_setNode, hbackup]
    have : s.newBackup r = none := by
      unfold State.newBackup
      rw [hn]
      rfl
    rw [← this, Function.update_eq_self]
  nodesListed hs := by
    have hnew : r ∉ s.resourceList := fun hr => (hs.mem_iff r).mp hr hn
    constructor
    · exact List.nodup_append.mpr ⟨hs.nodup, List.nodup_singleton r, fun a ha b hb => by
        rw [List.mem_singleton.mp hb]
        exact fun heq => hnew (heq ▸ ha)⟩
    · intro r'
      change r' ∈ s.resourceList ++ [r] ↔ (s.setNode r n).node r' ≠ none
      rw [setNode_node, List.mem_append, List.mem_singleton, hs.mem_iff]
      split
      · next heq => simp [heq]
      · next hne => simp [hne]

/-- A resource moves to the front of the list. -/
theorem sameBufs_front {r : ResId} (hr : s.node r ≠ none) :
    SameBufs s { s with resourceList := r :: s.resourceList.erase r } where
  valBufs := rfl
  curQueryBo := rfl
  bufRef := rfl
  relocs := rfl
  newBackup := rfl
  nodesListed hs := by
    constructor
    · exact List.nodup_cons.mpr ⟨hs.nodup.not_mem_erase, hs.nodup.erase r⟩
    · intro r'
      change r' ∈ r :: s.resourceList.erase r ↔ s.node r' ≠ none
      rw [List.mem_cons, hs.nodup.mem_erase_iff, hs.mem_iff]
      constructor
      · rintro (rfl | ⟨_, h⟩)
        · exact hr
        · exact h
      · intro h
        by_cases heq : r' = r
        · exact .inl heq
        · exact .inr ⟨heq, h⟩

theorem sameBufs_setStaged (ctx : ResId) (cbs : Binding.CtxBindingState) (s : State hashLong) :
    SameBufs s (setStaged ctx cbs s) := by
  unfold setStaged
  cases hn : s.node ctx with
  | none => exact .refl s
  | some n => exact sameBufs_setNode hn rfl

theorem sameBufs_clearFirstUsage (r : ResId) (s : State hashLong) : SameBufs s (clearFirstUsage r s) := by
  unfold clearFirstUsage
  cases hn : s.node r with
  | none => exact .refl s
  | some n => exact sameBufs_setNode hn rfl

end Frames

namespace Framed

variable {env : Env} {I E : State hashLong → Prop} {α β : Type}

section Primitives

theorem update (h : Framed I E) {f : State hashLong → State hashLong} (hf : ∀ s, SameBufs s (f s)) :
    Guards I E (update f) :=
  fun s hs => h.same s (f s) (hf s) hs

theorem fail (h : Framed I E) (ret : Int) : Guards I E (fail ret : Verify hashLong α) := .throw h.stop _

theorem oops (h : Framed I E) : Guards I E (oops : Verify hashLong α) := .throw h.stop _

theorem check (h : Framed I E) (ret : Int) : Guards I E (check ret : Verify hashLong Unit) :=
  .ite (fun _ => h.fail ret) fun _ => .pure ()

theorem ask (h : Framed I E) (f : Nat → α) : Guards I E (ask f : Verify hashLong α) :=
  fun s hs => h.same s _ (.of_eq rfl rfl rfl rfl rfl rfl) hs

theorem log (h : Framed I E) (e : Event) : Guards I E (log e : Verify hashLong Unit) :=
  h.update (by exact fun _ => .of_eq rfl rfl rfl rfl rfl rfl)

theorem load (h : Framed I E) (a : Nat) : Guards I E (load a : Verify hashLong Nat) :=
  (h.log _).bind fun _ => .view _

theorem store (h : Framed I E) (a v : Nat) : Guards I E (store a v : Verify hashLong Unit) :=
  (h.log _).bind fun _ => h.update (by exact fun _ => .of_eq rfl rfl rfl rfl rfl rfl)

theorem reference (h : Framed I E) (r : ResId) : Guards I E (Execbuf.update (·.reference r) : Verify hashLong Unit) :=
  h.update (by exact fun _ => .of_eq rfl rfl rfl rfl rfl rfl)

theorem unreference (h : Framed I E) (r : ResId) : Guards I E (Execbuf.update (·.unreference r) : Verify hashLong Unit) :=
  h.update (by exact fun _ => .of_eq rfl rfl rfl rfl rfl rfl)

theorem setCache (h : Framed I E) (resType : ResType) (rcache : ResCacheEntry) :
    Guards I E (Execbuf.update (·.setCache resType rcache) : Verify hashLong Unit) :=
  h.update (by exact fun _ => .of_eq rfl rfl rfl rfl rfl rfl)

theorem onError (h : Framed I E) {x : Verify hashLong α} {undo : State hashLong → State hashLong}
    (hx : Guards I E x) (hundo : ∀ s, SameBufs s (undo s)) : Guards I E (onError x undo) := by
  intro s hs
  have hends := hx s hs
  unfold Ends at hends ⊢
  unfold Execbuf.onError
  cases hr : x s with
  | ok a t =>
    rw [hr] at hends
    exact hends
  | error e t =>
    rw [hr] at hends
    exact h.undo t (undo t) (hundo t) hends

end Primitives

section Resources

theorem vmwResourceRelocationAdd (h : Framed I E) (res : Option ResId) (offset : Nat) :
    Guards I E (vmwResourceRelocationAdd env res offset : Verify hashLong Unit) :=
  (h.ask _).bind fun _ => .ite (fun _ => (h.log _).bind fun _ =>
    h.update (by exact fun _ => .of_eq rfl rfl rfl rfl rfl rfl)) fun _ => h.fail _

theorem vmwResourceValAdd (h : Framed I E) (res : ResId) :
    Guards I E (vmwResourceValAdd env res : Verify hashLong Unit) := by
  refine .bind_view fun s hs => ?_
  cases hn : s.node res with
  | some n => exact h.same s _ (sameBufs_setNode hn rfl) hs
  | none =>
    refine ends_bind.mpr (.ite (fun _ => ?_) fun _ => h.fail _ _ ?_)
    · exact h.same s _ ((sameBufs_addNode hn rfl).trans (.of_eq rfl rfl rfl rfl rfl rfl)) hs
    · exact h.same s _ (.of_eq rfl rfl rfl rfl rfl rfl) hs

theorem valAddAll (h : Framed I E) (bound : List ResId) :
    Guards I E (valAddAll env bound : Verify hashLong Unit) := by
  induction bound with
  | nil => exact .pure ()
  | cons res rest ih => exact (h.vmwResourceValAdd res).bind fun _ => ih

/-- What is done for a context that is new on the list. -/
theorem newContext (h : Framed I E) (res : ResId) : Guards I E (do
    vmwResourceContextResAdd env res
    if ← Execbuf.ask env.kmalloc then
      Execbuf.update (setStaged res .empty)
      return some res
    else return none : Verify hashLong (Option ResId)) :=
  .bind ((h.ask _).bind fun _ => h.valAddAll _) fun _ => (h.ask _).bind fun _ =>
    .ite (fun _ => (h.update (sameBufs_setStaged res _)).bind fun _ => .pure _) fun _ => .pure _

theorem vmwCmdResRelocAdd (h : Framed I E) (resType : ResType) (idLoc : Nat) (res : ResId) :
    Guards I E (vmwCmdResRelocAdd env resType idLoc res : Verify hashLong (Option ResId)) := by
  refine (h.vmwResourceRelocationAdd _ _).bind fun _ => (h.vmwResourceValAdd res).bind fun _ => .bind_view fun s hs => ?_
  by_cases hnew : resType = .context ∧ env.hasMob ∧ (s.node res).any (·.firstUsage)
  · rw [if_pos hnew]
    have hnode : s.node res ≠ none := by
      intro hnone
      rw [hnone] at hnew
      exact absurd hnew.2.2 (by simp)
    exact ends_bind.mpr (h.newContext res _ (h.same s _ (sameBufs_front hnode) hs))
  · rw [if_neg hnew]
    exact hs

theorem vmwCmdResCheck (h : Framed I E) (resType : ResType) (idLoc : Nat) :
    Guards I E (vmwCmdResCheck env resType idLoc : Verify hashLong (Option ResId)) := by
  refine (h.load _).bind fun id => .ite (fun _ => .ite (fun _ => h.fail _) fun _ => .pure _) fun _ =>
    (Guards.view _).bind fun entry => ?_
  cases entry with
  | some rcache =>
    dsimp only
    cases rcache.node with
    | none => exact h.oops
    | some node =>
      exact (h.update (sameBufs_clearFirstUsage node)).bind fun _ => (h.vmwResourceRelocationAdd _ _).bind fun _ => .pure _
  | none =>
    refine (h.ask _).bind fun found => ?_
    cases found with
    | none => exact h.fail _
    | some res =>
      refine (h.reference res).bind fun _ => (h.setCache _ _).bind fun _ => ?_
      refine (h.onError (h.vmwCmdResRelocAdd _ _ _) (by exact fun _ => .of_eq rfl rfl rfl rfl rfl rfl)).bind fun _ => ?_
      exact (h.setCache _ _).bind fun _ => (h.unreference res).bind fun _ => .pure _

theorem checkHandle (h : Framed I E) (resType : ResType) (idLoc : Nat) :
    Guards I E (checkHandle env resType idLoc : Verify hashLong Unit) :=
  (h.vmwCmdResCheck _ _).bind fun _ => .pure _

theorem vmwContextBindingAdd (h : Framed I E) (ctxNode resNode : Option ResId) (bt : Binding.BindingType) (i1 : Nat) :
    Guards I E (vmwContextBindingAdd ctxNode resNode bt i1 : Verify hashLong Int) := by
  cases ctxNode with
  | none => exact h.oops
  | some ctx =>
    refine (h.log _).bind fun _ => .ite (fun _ => .pure _) fun _ => (Guards.view _).bind fun cbs => ?_
    cases cbs with
    | none => exact h.oops
    | some cbs => exact (h.update (sameBufs_setStaged ctx _)).bind fun _ => .pure _

theorem runShaders (h : Framed I E) (r : Option (α × ShaderWorld hashLong)) : Guards I E (runShaders r) := by
  cases r with
  | none => exact h.oops
  | some p => exact (h.update (by exact fun _ => .of_eq rfl rfl rfl rfl rfl rfl)).bind fun _ => .pure _

theorem resOf (h : Framed I E) (valNode : Option ResId) : Guards I E (resOf valNode : Verify hashLong ResId) := by
  cases valNode with
  | none => exact h.oops
  | some res => exact .pure _

theorem compatShaderNode (h : Framed I E) (header : Nat) (ctx : ResId) :
    Guards I E (compatShaderNode env header ctx : Verify hashLong (Option ResId)) := by
  refine (h.load _).bind fun shid => .ite (fun _ => .pure _) fun _ => (h.load _).bind fun type => ?_
  refine (Guards.view _).bind fun w => (h.runShaders _).bind fun res => ?_
  cases res with
  | error e => exact .pure _
  | ok res =>
    exact (h.onError (h.vmwCmdResRelocAdd _ _ _) (by exact fun _ => .of_eq rfl rfl rfl rfl rfl rfl)).bind fun _ =>
      (h.unreference res).bind fun _ => .pure _

end Resources

section Handlers

variable {header : Nat}

theorem checkHandles (h : Framed I E) (resType resType' : ResType) (idLoc idLoc' : Nat) :
    Guards I E ((do
      Execbuf.checkHandle env resType idLoc
      Execbuf.checkHandle env resType' idLoc') : Verify hashLong Unit) :=
  (h.checkHandle _ _).bind fun _ => h.checkHandle _ _

theorem vmwCmdSetRenderTargetCheck (h : Framed I E) :
    Guards I E (vmwCmdSetRenderTargetCheck env header : Verify hashLong Unit) :=
  (h.vmwCmdResCheck _ _).bind fun _ => (h.vmwCmdResCheck _ _).bind fun _ => .ite
    (fun _ => (h.load _).bind fun _ => (h.vmwContextBindingAdd _ _ _ _).bind fun _ => h.check _) fun _ => .pure _

theorem rewriteQuery (h : Framed I E) (id : Nat) (ws : List Nat) :
    Guards I E (rewriteQuery header id ws : Verify hashLong Unit) := by
  induction ws with
  | nil => exact h.store _ _
  | cons w ws ih => exact (h.load _).bind fun _ => ih.bind fun _ => h.store _ _

/-- A query command that is rewritten where there are MOBs. -/
theorem query (h : Framed I E) {id : Nat} {ws : List Nat} {x y : Verify hashLong Unit}
    (hx : env.hasMob = true → Guards I E x) (hy : env.hasMob = false → Guards I E y) : Guards I E (if env.hasMob then do
      Execbuf.rewriteQuery header id ws
      x
    else y) :=
  .ite (fun hmob => (h.rewriteQuery _ _).bind fun _ => hx hmob) fun hmob => hy (Bool.eq_false_iff.mpr hmob)

theorem vmwKmsCursorSnoop (h : Framed I E) (srf : ResId) :
    Guards I E (vmwKmsCursorSnoop env srf header : Verify hashLong Unit) :=
  .ite (fun _ => (h.load _).bind fun _ => .ite (fun _ => .pure _) fun _ => (h.load _).bind fun _ =>
    .ite (fun _ => .pure _) fun _ => (h.load _).bind fun _ => .ite (fun _ => .pure _) fun _ =>
      (h.log _).bind fun _ => h.log _) fun _ => .pure _

theorem clampMaximumOffset (h : Framed I E) (loc boSize : Nat) :
    Guards I E (clampMaximumOffset loc boSize : Verify hashLong Unit) :=
  (h.load _).bind fun _ => .ite (fun _ => h.store _ _) fun _ => .pure _

theorem checkSurfaces (h : Framed I E) (stride n idLoc : Nat) :
    Guards I E (checkSurfaces env stride n idLoc : Verify hashLong Unit) := by
  induction n generalizing idLoc with
  | zero => exact .pure _
  | succ n ih => exact (h.checkHandle _ _).bind fun _ => ih _

theorem vmwCmdDraw (h : Framed I E) : Guards I E (vmwCmdDraw env header : Verify hashLong Unit) :=
  (h.checkHandle _ _).bind fun _ => (h.load _).bind fun _ => (h.load _).bind fun _ =>
    .ite (fun _ => h.fail _) fun _ => (h.checkSurfaces _ _ _).bind fun _ => (h.load _).bind fun _ =>
      .ite (fun _ => h.fail _) fun _ => h.checkSurfaces _ _ _

theorem checkTextures (h : Framed I E) (ctxNode : Option ResId) (n curState : Nat) :
    Guards I E (checkTextures env ctxNode n curState : Verify hashLong Unit) := by
  induction n generalizing curState with
  | zero => exact .pure _
  | succ n ih =>
    refine Guards.bind ?_ fun _ => ih _
    exact (h.load _).bind fun _ => .ite (fun _ => .pure _) fun _ => (h.vmwCmdResCheck _ _).bind fun _ =>
      .ite (fun _ => (h.load _).bind fun _ => (h.vmwContextBindingAdd _ _ _ _).bind fun _ => .pure _) fun _ => .pure _

theorem vmwCmdTexState (h : Framed I E) : Guards I E (vmwCmdTexState env header : Verify hashLong Unit) :=
  (h.load _).bind fun _ => (h.vmwCmdResCheck _ _).bind fun _ => h.checkTextures _ _ _

theorem vmwCmdShaderDefine (h : Framed I E) : Guards I E (vmwCmdShaderDefine env header : Verify hashLong Unit) :=
  (h.vmwCmdResCheck _ _).bind fun _ => .ite (fun _ => .pure _) fun _ => (h.load _).bind fun _ =>
    (h.resOf _).bind fun _ => (h.load _).bind fun _ => (h.load _).bind fun _ => (h.ask _).bind fun _ =>
      (Guards.view _).bind fun _ => (h.runShaders _).bind fun _ => (h.check _).bind fun _ =>
        (h.log _).bind fun _ => h.vmwResourceRelocationAdd _ _

theorem vmwCmdShaderDestroy (h : Framed I E) : Guards I E (vmwCmdShaderDestroy env header : Verify hashLong Unit) :=
  (h.vmwCmdResCheck _ _).bind fun _ => .ite (fun _ => .pure _) fun _ => (h.resOf _).bind fun _ =>
    (h.load _).bind fun _ => (h.load _).bind fun _ => (Guards.view _).bind fun _ => (h.runShaders _).bind fun _ =>
      (h.check _).bind fun _ => h.vmwResourceRelocationAdd _ _

theorem vmwCmdSetShader (h : Framed I E) : Guards I E (vmwCmdSetShader env header : Verify hashLong Unit) := by
  refine (h.vmwCmdResCheck _ _).bind fun ctxNode => .ite (fun _ => .pure _) fun _ => ?_
  have hbind : ∀ resNode, Guards I E (do
      let type ← Execbuf.load (header + 12)
      let ret ← Execbuf.vmwContextBindingAdd ctxNode resNode .shader type
      Execbuf.check ret : Verify hashLong Unit) :=
    fun _ => (h.load _).bind fun _ => (h.vmwContextBindingAdd _ _ _ _).bind fun _ => h.check _
  refine (h.resOf _).bind fun ctx => (h.compatShaderNode _ _).bind fun compat => ?_
  cases compat with
  | some res => exact hbind (some res)
  | none => exact (h.vmwCmdResCheck _ _).bind hbind

theorem vmwCmdSetShaderConst (h : Framed I E) : Guards I E (vmwCmdSetShaderConst env header : Verify hashLong Unit) :=
  (h.checkHandle _ _).bind fun _ => .ite (fun _ => h.store _ _) fun _ => .pure _

end Handlers

end Framed

section Buffers

variable {env : Env} {α : Type} {s t u : State hashLong} {bo : BufId} {asMob : Bool} {E : State hashLong → Prop}

/-- The buffer comes on the validation list, or is on it already. -/
inductive OnList (bo : BufId) (asMob : Bool) : State hashLong → State hashLong → Prop
  | found {s : State hashLong} (h : ⟨bo, asMob⟩ ∈ s.valBufs) : OnList bo asMob s s
  | new {s : State hashLong} (h : bo ∉ s.valBufs.map (·.bo)) :
      OnList bo asMob s { s.addBufRef bo 1 with valBufs := s.valBufs ++ [⟨bo, asMob⟩] }

/-- A handler has got a buffer, with a reference of its own and a relocation at `a`. -/
inductive Translated (asMob : Bool) (a : Nat) (bo : BufId) (s v : State hashLong) : Prop
  | intro {t u : State hashLong} {rel : Relocation} (href : SameBufs (s.addBufRef bo 1) t)
      (hlist : OnList bo asMob t u) (hrel : rel.location = none → rel.mobLoc = a)
      (hrest : SameBufs { u with relocs := u.relocs ++ [rel] } v)

theorem onError_ends {x : Verify hashLong α} {undo : State hashLong → State hashLong}
    {P : α → State hashLong → Prop} (h : Ends x s P fun _ t => E (undo t)) :
    Ends (onError x undo) s P fun _ => E := by
  unfold Ends at h ⊢
  unfold onError
  cases hr : x s with
  | ok a t =>
    rw [hr] at h
    exact h
  | error e t =>
    rw [hr] at h
    exact h

theorem vmwBoToValidateList_ends {P : Nat → State hashLong → Prop} (hok : ∀ i t, OnList bo asMob s t → P i t)
    (hstop : E s) : Ends (vmwBoToValidateList bo asMob) s P fun _ => E := by
  refine .bind_view ?_
  cases hf : s.valBufs.findIdx? (fun v => v.bo = bo) with
  | some i =>
    obtain ⟨hlt, hbo, _⟩ := List.findIdx?_eq_some_iff_getElem.mp hf
    refine .bind_view (.ite (fun _ => hstop) fun hmob => hok i s (.found ?_))
    obtain ⟨v, hv, hmob⟩ := Option.map_eq_some_iff.mp (Classical.not_not.mp hmob)
    obtain ⟨_, hget⟩ := List.getElem?_eq_some_iff.mp hv
    rw [hget] at hbo
    rw [← hmob, ← of_decide_eq_true hbo]
    exact List.mem_of_getElem? hv
  | none =>
    refine .bind_view (.ite (fun _ => hstop) fun _ => hok _ _ (.new ?_))
    intro hmem
    obtain ⟨v, hv, hbo⟩ := List.mem_map.mp hmem
    exact absurd (decide_eq_true hbo) (by simpa using List.findIdx?_eq_none_iff.mp hf v hv)

theorem addBufRef_cancel (s : State hashLong) (bo : BufId) : SameBufs s ((s.addBufRef bo 1).addBufRef bo (-1)) where
  valBufs := rfl
  curQueryBo := rfl
  bufRef := by
    funext b
    change Function.update (Function.update s.bufRef bo _) bo (Function.update s.bufRef bo _ bo + -1) b = s.bufRef b
    by_cases hb : b = bo
    · rw [hb, Function.update_self, Function.update_self, Int.add_neg_cancel_right]
    · rw [Function.update_of_ne hb, Function.update_of_ne hb]
  relocs := rfl
  newBackup := rfl
  nodesListed := fun h => ⟨h.nodup, h.mem_iff⟩

theorem ends_ask {α : Type} {f : Nat → α} {P : α → State hashLong → Prop} {E : Stop → State hashLong → Prop}
    (h : P (f s.tick) { s with tick := s.tick + 1 }) : Ends (ask f) s P E := h

theorem ends_update {f : State hashLong → State hashLong} {P : Unit → State hashLong → Prop}
    {E : Stop → State hashLong → Prop} (h : P () (f s)) : Ends (update f) s P E := h

theorem relocAdd_ends {handle a : Nat} {reloc : Nat → Nat → Relocation} {P : BufId → State hashLong → Prop}
    (hreloc : ∀ cur index, (reloc cur index).location = none → (reloc cur index).mobLoc = a)
    (hok : ∀ bo v, Translated asMob a bo s v → P bo v) (hstop : ∀ t, SameBufs s t → E t) :
    Ends (relocAdd env handle asMob reloc) s P fun _ => E := by
  have hask : SameBufs s { s with tick := s.tick + 1 } := .of_eq rfl rfl rfl rfl rfl rfl
  refine ends_bind.mpr (ends_ask ?_)
  cases env.dmabuf s.tick handle with
  | none => exact hstop _ hask
  | some bo =>
    refine ends_bind.mpr (.bind_view (.ite (fun _ => onError_ends ?_) fun _ => ends_bind.mpr (onError_ends ?_)))
    · exact hstop _ (hask.trans (addBufRef_cancel _ bo))
    · refine vmwBoToValidateList_ends (fun i u hlist => ?_) (hstop _ (hask.trans (addBufRef_cancel _ bo)))
      have href : SameBufs (s.addBufRef bo 1) (State.addBufRef { s with tick := s.tick + 1 } bo 1) :=
        .of_eq rfl rfl rfl rfl rfl rfl
      exact hok bo _ (.intro href hlist (hreloc _ i) (.refl _))

theorem Translated.log (h : Translated asMob a bo s t) (hu : SameBufs t u) : Translated asMob a bo s u := by
  obtain ⟨href, hlist, hrel, hrest⟩ := h
  exact .intro href hlist hrel (hrest.trans hu)

theorem SameBufs.addBufRef (h : SameBufs s t) (bo : BufId) (n : Int) :
    SameBufs (s.addBufRef bo n) (t.addBufRef bo n) where
  valBufs := h.valBufs
  curQueryBo := h.curQueryBo
  bufRef := by
    change Function.update t.bufRef bo _ = Function.update s.bufRef bo _
    rw [h.bufRef]
  relocs := h.relocs
  newBackup := h.newBackup
  nodesListed hs := by
    obtain ⟨hnodup, hmem⟩ := h.nodesListed ⟨hs.nodup, hs.mem_iff⟩
    exact ⟨hnodup, hmem⟩

theorem Translated.after (hs : SameBufs s t) (h : Translated asMob a bo t u) : Translated asMob a bo s u := by
  obtain ⟨href, hlist, hrel, hrest⟩ := h
  exact .intro ((hs.addBufRef bo 1).trans href) hlist hrel hrest

theorem bind_load_ends {β : Type} {a : Nat} {f : Nat → Verify hashLong β} {P : β → State hashLong → Prop}
    (h : Ends (f (s.mem.read32 a)) { s with events := s.events ++ [.read a 4] } P fun _ => E) :
    Ends (load a >>= f) s P fun _ => E :=
  ends_bind.mpr (ends_bind.mpr h)

theorem vmwTranslateMobPtr_ends {id : Nat} {P : BufId → State hashLong → Prop}
    (hok : ∀ bo v, Translated true id bo s v → P bo v) (hstop : ∀ t, SameBufs s t → E t) :
    Ends (vmwTranslateMobPtr env id) s P fun _ => E := by
  have hload : SameBufs s { s with events := s.events ++ [.read id 4] } := .of_eq rfl rfl rfl rfl rfl rfl
  refine bind_load_ends (ends_bind.mpr (relocAdd_ends (fun _ _ _ => rfl) (fun bo v htrans => ?_) fun t ht => ?_))
  · exact hok bo _ ((htrans.after hload).log (.of_eq rfl rfl rfl rfl rfl rfl))
  · exact hstop t (hload.trans ht)

theorem vmwTranslateGuestPtr_ends {ptr : Nat} {P : BufId → State hashLong → Prop}
    (hok : ∀ bo v, Translated false ptr bo s v → P bo v) (hstop : ∀ t, SameBufs s t → E t) :
    Ends (vmwTranslateGuestPtr env ptr) s P fun _ => E := by
  have hload : SameBufs s { s with events := s.events ++ [.read ptr 4] } := .of_eq rfl rfl rfl rfl rfl rfl
  have hreloc : ∀ cur index, (⟨env.staleMobLoc cur, some ptr, index⟩ : Relocation).location = none →
      env.staleMobLoc cur = ptr := fun _ _ h => by cases h
  refine bind_load_ends (ends_bind.mpr (relocAdd_ends hreloc (fun bo v htrans => ?_) fun t ht => ?_))
  · exact hok bo _ ((htrans.after hload).log (.of_eq rfl rfl rfl rfl rfl rfl))
  · exact hstop t (hload.trans ht)

end Buffers

/-- The property is kept by the handlers that refer to buffers. -/
structure Kept (env : Env) (I E : State hashLong → Prop) : Prop extends Framed I E where
  endGbQuery : ∀ header, Guards I E (vmwCmdEndGbQuery env header : Verify hashLong Unit)
  endQuery : env.hasMob = false → ∀ header,
    Guards I E (endQuery env (vmwTranslateGuestPtr env (header + 16)) header : Verify hashLong Unit)
  waitGbQuery : ∀ header, Guards I E (vmwCmdWaitGbQuery env header : Verify hashLong Unit)
  waitQuery : env.hasMob = false → ∀ header,
    Guards I E (waitQuery env (vmwTranslateGuestPtr env (header + 16)) header : Verify hashLong Unit)
  dma : ∀ header, Guards I E (vmwCmdDma env header : Verify hashLong Unit)
  defineGmrfb : ∀ buf, Guards I E (vmwCmdCheckDefineGmrfb env buf : Verify hashLong Unit)
  switchBackup : ∀ resType header backupOffset,
    Guards I E (vmwCmdSwitchBackup env resType (header + 8) (header + 12) backupOffset : Verify hashLong Unit)

section Loop

variable {env : Env} {I E : State hashLong → Prop} {header : Nat}

theorem CmdFunc.run_guards (h : Kept env I E) (func : CmdFunc) :
    Guards I E (func.run env header : Verify hashLong Unit) := by
  cases func with
  | vmwCmdInvalid => exact h.fail _
  | vmwCmdSurfaceCopyCheck => exact h.checkHandles _ _ _ _
  | vmwCmdStretchBltCheck => exact h.checkHandles _ _ _ _
  | vmwCmdDma => exact h.dma _
  | vmwCmdCidCheck => exact h.checkHandle _ _
  | vmwCmdSetRenderTargetCheck => exact h.vmwCmdSetRenderTargetCheck
  | vmwCmdTexState => exact h.vmwCmdTexState
  | vmwCmdPresentCheck => exact h.checkHandle _ _
  | vmwCmdShaderDefine => exact h.vmwCmdShaderDefine
  | vmwCmdShaderDestroy => exact h.vmwCmdShaderDestroy
  | vmwCmdSetShader => exact h.vmwCmdSetShader
  | vmwCmdSetShaderConst => exact h.vmwCmdSetShaderConst
  | vmwCmdDraw => exact h.vmwCmdDraw
  | vmwCmdBeginQuery => exact h.query (fun _ => h.checkHandle _ _) fun _ => h.checkHandle _ _
  | vmwCmdEndQuery => exact h.query (fun _ => h.endGbQuery _) fun hmob => h.endQuery hmob _
  | vmwCmdWaitQuery => exact h.query (fun _ => h.waitGbQuery _) fun hmob => h.waitQuery hmob _
  | vmwCmdOk => exact .pure _
  | vmwCmdBltSurfScreenCheck => exact h.checkHandle _ _
  | vmwCmdBindGbSurface => exact h.switchBackup _ _ _
  | vmwCmdUpdateGbImage => exact h.checkHandle _ _
  | vmwCmdUpdateGbSurface => exact h.checkHandle _ _
  | vmwCmdReadbackGbImage => exact h.checkHandle _ _
  | vmwCmdReadbackGbSurface => exact h.checkHandle _ _
  | vmwCmdInvalidateGbImage => exact h.checkHandle _ _
  | vmwCmdInvalidateGbSurface => exact h.checkHandle _ _
  | vmwCmdBindGbShader => exact (h.load _).bind fun _ => h.switchBackup _ _ _
  | vmwCmdBeginGbQuery => exact h.checkHandle _ _
  | vmwCmdEndGbQuery => exact h.endGbQuery _
  | vmwCmdWaitGbQuery => exact h.waitGbQuery _

theorem orInvalid_guards {x : Verify hashLong Unit} (hx : Guards I E x) : Guards I E (orInvalid x) := by
  intro s hs
  have hends := hx s hs
  unfold Ends at hends ⊢
  unfold orInvalid
  cases hr : x s with
  | ok a t =>
    rw [hr] at hends
    exact hends
  | error e t =>
    rw [hr] at hends
    cases e <;> exact hends

theorem CmdEntry.check_guards (h : Kept env I E) (entry : CmdEntry) :
    Guards I E (entry.check env header : Verify hashLong Unit) := by
  refine .ite (fun _ => h.fail _) fun _ => .ite (fun _ => h.fail _) fun _ => .ite (fun _ => h.fail _) fun _ =>
    orInvalid_guards ?_
  unfold CmdEntry.run
  cases entry.func with
  | none => exact h.oops
  | some func => exact func.run_guards h

theorem vmwCmdCheckNot3d_guards (h : Kept env I E) (remaining : Nat) :
    Guards I E (vmwCmdCheckNot3d env header remaining : Verify hashLong Nat) := by
  refine (Guards.view _).bind fun cmdId => ?_
  cases not3dSize cmdId with
  | none => exact h.fail _
  | some size =>
    exact .ite (fun _ => h.fail _) fun _ => .ite (fun _ => h.fail _) fun _ =>
      .ite (fun _ => (h.defineGmrfb _).bind fun _ => .pure _) fun _ => .pure _

theorem peek_guards (a : Nat) : Guards I E (peek a : Verify hashLong Nat) := .view _

theorem vmwCmdCheck_guards (h : Kept env I E) (buf remaining : Nat) :
    Guards I E (vmwCmdCheck env buf remaining : Verify hashLong Nat) := by
  unfold vmwCmdCheck
  refine (peek_guards buf).bind fun cmdId => ?_
  refine .ite (fun _ => vmwCmdCheckNot3d_guards h remaining) fun _ => ?_
  refine (peek_guards (buf + 4)).bind fun bodySize => ?_
  refine .ite (fun _ => h.fail _) fun _ => ?_
  split
  · exact h.fail _
  · generalize vmwCmdEntries (sub32 cmdId svga3dCmdBase) = entry
    exact (entry.check_guards h).bind fun _ => .pure _

/-- However the loop ends. -/
theorem checkLoop_guards (h : Kept env I E) {fuel buf : Nat} {curSize : Int} {s : State hashLong} (hs : I s) :
    (∀ t, checkLoop env fuel buf curSize s = some (.ok () t) → I t) ∧
      ∀ e t, checkLoop env fuel buf curSize s = some (.error e t) → E t := by
  have hend {curSize : Int} {s : State hashLong} (hs : I s) {r : EStateM.Result Stop (State hashLong) Unit}
      (hr : (if curSize ≠ 0 then some (.error (.errno (-EINVAL)) s) else some (.ok () s)) = some r) :
      (∀ t, r = .ok () t → I t) ∧ ∀ e t, r = .error e t → E t := by
    split at hr
    · cases hr
      refine ⟨fun t ht => ?_, fun e t ht => ?_⟩
      · cases ht
      · cases ht
        exact h.stop s hs
    · cases hr
      refine ⟨fun t ht => ?_, fun e t ht => ?_⟩
      · cases ht
        exact hs
      · cases ht
  induction fuel generalizing buf curSize s with
  | zero =>
    unfold checkLoop
    split
    · exact ⟨fun _ ht => absurd ht (by simp), fun _ _ ht => absurd ht (by simp)⟩
    · exact ⟨fun t ht => (hend hs ht).1 t rfl, fun e t ht => (hend hs ht).2 e t rfl⟩
  | succ fuel ih =>
    unfold checkLoop
    split
    · have hends := vmwCmdCheck_guards h buf curSize.toNat s hs
      unfold Ends at hends
      cases hcheck : vmwCmdCheck env buf curSize.toNat s with
      | ok size t =>
        rw [hcheck] at hends
        exact ih hends
      | error e t =>
        rw [hcheck] at hends
        refine ⟨fun t ht => ?_, fun e t ht => ?_⟩
        · cases ht
        · cases ht
          exact hends
    · exact ⟨fun t ht => (hend hs ht).1 t rfl, fun e t ht => (hend hs ht).2 e t rfl⟩

end Loop

end Vmwgfx.Execbuf
