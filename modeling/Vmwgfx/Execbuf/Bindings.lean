import Vmwgfx.Execbuf.Batch

/-! The bindings of a batch, from the words of its commands to the persistent tracker. -/

namespace Vmwgfx.Execbuf

open Vmwgfx.Binding
open Vmwgfx.Cmdbuf (ShaderWorld)
open Vmwgfx.Hashtab Vmwgfx.Lib

variable {hashLong : HashLong}

/-- A binding a command asks for: the handles of the context and of the resource, and the
slot. -/
structure BindingCmd where
  cid : Nat
  id : Nat
  bt : BindingType
  i1 : Nat

/-- The textures among the states of a texture state command. -/
def textureBindings (m : Mem) (cid : Nat) : Nat → Nat → List BindingCmd
  | 0, _ => []
  | n + 1, a =>
    (if m.read32 (a + 4) ≠ svga3dTsBindTexture then []
      else [⟨cid, m.read32 (a + 8), .tex, m.read32 a⟩]) ++ textureBindings m cid n (a + 12)

/-- The bindings a handler is asked for by the command at `p`. -/
def CmdFunc.bindings (m : Mem) (p : Nat) : CmdFunc → List BindingCmd
  | .vmwCmdSetRenderTargetCheck =>
    [⟨m.read32 (p + 8), m.read32 (p + 16), .rt, m.read32 (p + 12)⟩]
  | .vmwCmdTexState =>
    textureBindings m (m.read32 (p + 8)) ((m.read32 (p + 4) + 7) / 12) (p + 12)
  | .vmwCmdSetShader => [⟨m.read32 (p + 8), m.read32 (p + 16), .shader, m.read32 (p + 12)⟩]
  | _ => []

namespace Command

variable (c : Command hashLong)

def bindings : List BindingCmd :=
  if c.id < svgaCmdMax then []
  else match c.func with
    | some func => func.bindings c.before.mem c.buf
    | none => []

/-- The bindings the check of the command has handed to the tracker. -/
def binds : List Bindinfo := c.events.filterMap Event.bind?

end Command

/-- A binding is the one a command asks for. -/
def BindingCmd.Names (env : Env) (w : ShaderWorld hashLong) (b : BindingCmd) (bi : Bindinfo) :
    Prop :=
  bi.slot = ⟨b.bt, b.i1⟩ ∧ ∃ ctx, bi.ctx = some ctx ∧ Named env .context b.cid (some ctx) ∧
    match b.bt with
    | .shader => ShaderNamed env w ctx b.id b.i1 bi.res
    | _ => Named env .surface b.id bi.res

/-- The transfers of `vmw_resource_list_unreserve`. -/
def transferStaged (s : State hashLong) (t : Tracker) : Tracker :=
  s.resourceList.foldl
    (fun t c => match s.staged c with
      | some staged => t.vmwContextBindingStateTransfer c staged
      | none => t) t

/-- The tracker `t'` is `t` with the bindings of a batch, and none of them is missing. -/
structure BindingsTracked (s : State hashLong) (t t' : Tracker) (binds : List Bindinfo) : Prop where
  rep : Rep t'
  bound : ∀ c loc, t'.bound c loc =
    match lastBinding (binds.filter (fun bi => bi.ctx = some c)) loc with
    | some bi => bi.res
    | none => t.bound c loc
  tracked : ∀ bi ∈ binds, ∃ c staged, bi.ctx = some c ∧ s.staged c = some staged ∧
    bi.slot ∈ staged.list

section Names

variable {env : Env} {m : Mem} {w : ShaderWorld hashLong} {evs : List Event}

@[simp] theorem handleEvents_bind (a : Nat) (r : Option ResId) :
    (handleEvents env a r).filterMap Event.bind? = [] := by
  cases r with
  | none => rfl
  | some r => rfl

theorem HandleLog.no_bind {resType : ResType} {a : Nat} (h : HandleLog env m resType a evs) :
    evs.filterMap Event.bind? = [] := by
  obtain ⟨r, _, rfl⟩ := h
  exact handleEvents_bind a r

theorem MobLog.no_bind {a : Nat} (h : MobLog env m a evs) : evs.filterMap Event.bind? = [] := by
  obtain ⟨bo, tick, _, rfl⟩ := h
  rfl

theorem GuestLog.no_bind {a : Nat} (h : GuestLog env m a evs) :
    evs.filterMap Event.bind? = [] := by
  obtain ⟨bo, tick, _, rfl⟩ := h
  rfl

theorem Then.no_bind {P Q : List Event → Prop} (h : Then P Q evs)
    (hP : ∀ e, P e → e.filterMap Event.bind? = []) (hQ : ∀ e, Q e → e.filterMap Event.bind? = []) :
    evs.filterMap Event.bind? = [] := by
  obtain ⟨evs₁, evs₂, h₁, h₂, rfl⟩ := h
  rw [List.filterMap_append, hP _ h₁, hQ _ h₂]
  rfl

theorem SurfacesLog.no_bind {stride n a : Nat} (h : SurfacesLog env m stride n a evs) :
    evs.filterMap Event.bind? = [] := by
  induction n generalizing a evs with
  | zero =>
    rw [h]
    rfl
  | succ n ih => exact Then.no_bind h (fun _ => HandleLog.no_bind) (fun _ => ih)

theorem filterMap_bind_read (ws : List Nat) :
    (ws.map (fun w => Event.read w 4)).filterMap Event.bind? = [] := by
  induction ws with
  | nil => rfl
  | cons w ws ih => exact ih

theorem filterMap_bind_write (ws : List Nat) (f : Nat → Nat) :
    (ws.map (fun w => Event.write w (f w))).filterMap Event.bind? = [] := by
  induction ws with
  | nil => rfl
  | cons w ws ih => exact ih

theorem rewriteEvents_bind (p id : Nat) (ws : List Nat) :
    (rewriteEvents m p id ws).filterMap Event.bind? = [] := by
  unfold rewriteEvents
  rw [List.filterMap_append, filterMap_bind_read]
  exact filterMap_bind_write _ _

theorem textures_named {ctx : ResId} {cid n a : Nat} (hmob : env.hasMob = true)
    (hcid : Named env .context cid (some ctx)) (h : TexturesLog env m ctx n a evs) :
    List.Forall₂ (BindingCmd.Names env w) (textureBindings m cid n a)
      (evs.filterMap Event.bind?) := by
  induction n generalizing a evs with
  | zero =>
    rw [h]
    exact .nil
  | succ n ih =>
    obtain ⟨evs₁, evs₂, h₁, h₂, rfl⟩ := h
    rw [List.filterMap_append]
    apply List.rel_append _ (ih h₂)
    unfold TextureLog at h₁
    split at h₁
    · next hname =>
      rw [h₁, if_pos hname]
      exact .nil
    · next hname =>
      obtain ⟨r, hr, heq⟩ := h₁
      rw [heq, if_neg hname]
      simp only [List.cons_append, List.filterMap_cons, Event.bind?, List.filterMap_append,
        handleEvents_bind, bindEvents, List.filterMap_nil, List.nil_append]
      exact .cons ⟨rfl, ctx, rfl, hcid, hr⟩ .nil

/-- The bindings a handler has logged are those its command asks for, in order. -/
theorem CmdFunc.Log.named {s : State hashLong} {p : Nat} {func : CmdFunc}
    (hmob : env.hasMob = true) (h : func.Log env s p evs) :
    List.Forall₂ (BindingCmd.Names env s.shaders) (func.bindings s.mem p)
      (evs.filterMap Event.bind?) := by
  have hnone : ∀ {evs : List Event}, evs.filterMap Event.bind? = [] →
      List.Forall₂ (BindingCmd.Names env s.shaders) [] (evs.filterMap Event.bind?) := by
    intro evs hnil
    rw [hnil]
    exact .nil
  cases func with
  | vmwCmdInvalid => exact h.elim
  | vmwCmdOk =>
    rw [h]
    exact .nil
  | vmwCmdSurfaceCopyCheck =>
    exact hnone (Then.no_bind h (fun _ => HandleLog.no_bind) (fun _ => HandleLog.no_bind))
  | vmwCmdStretchBltCheck =>
    exact hnone (Then.no_bind h (fun _ => HandleLog.no_bind) (fun _ => HandleLog.no_bind))
  | vmwCmdDma =>
    obtain ⟨bo, srf, _, _, _, _, _, rfl⟩ := h
    apply hnone
    have hclamp : (clampEvents env s.mem p bo).filterMap Event.bind? = [] := by
      unfold clampEvents
      split
      · rfl
      · rfl
    have hsnoop : ∀ m : Mem, (snoopEvents m p).filterMap Event.bind? = [] := by
      intro m
      unfold snoopEvents
      split
      · rfl
      · split
        · rfl
        · split
          · rfl
          · rfl
    rw [List.filterMap_append, List.filterMap_append, List.filterMap_append, hclamp,
      handleEvents_bind]
    split
    · exact hsnoop _
    · rfl
  | vmwCmdCidCheck => exact hnone (HandleLog.no_bind h)
  | vmwCmdSetRenderTargetCheck =>
    obtain ⟨ctx, r, hctx, hr, rfl⟩ := h
    rw [if_pos hmob]
    simp only [List.filterMap_append, handleEvents_bind, bindEvents, List.filterMap_cons,
      Event.bind?, List.filterMap_nil, List.nil_append]
    exact .cons ⟨rfl, ctx, rfl, hctx, hr⟩ .nil
  | vmwCmdTexState =>
    obtain ⟨ctx, evs', hctx, htex, rfl⟩ := h
    simp only [List.cons_append, List.filterMap_append, handleEvents_bind, List.filterMap_cons,
      Event.bind?, List.nil_append]
    exact textures_named hmob hctx htex
  | vmwCmdPresentCheck => exact hnone (HandleLog.no_bind h)
  | vmwCmdShaderDefine =>
    obtain ⟨ctx, _, rfl⟩ := h
    rw [if_pos hmob]
    exact hnone (by simp [List.filterMap_append, Event.bind?])
  | vmwCmdShaderDestroy =>
    obtain ⟨ctx, _, rfl⟩ := h
    rw [if_pos hmob]
    exact hnone (by simp [List.filterMap_append, Event.bind?])
  | vmwCmdSetShader =>
    obtain ⟨ctx, hctx, h⟩ := h
    rw [if_pos hmob] at h
    obtain ⟨r, reads, hr, _, hreads, rfl⟩ := h
    have hreads : reads.filterMap Event.bind? = [] := by
      rw [List.filterMap_eq_nil_iff]
      intro e he
      cases hreads e he with
      | inl h => rw [h]; rfl
      | inr h => rw [h]; rfl
    have hreloc : (r.map (fun res => Event.resReloc ⟨some res, env.offset (p + 16)⟩)).toList.filterMap
        Event.bind? = [] := by
      cases r with
      | none => rfl
      | some res => rfl
    simp only [List.filterMap_append, handleEvents_bind, hreads, hreloc, bindEvents,
      List.filterMap_cons, Event.bind?, List.filterMap_nil, List.nil_append]
    exact .cons ⟨rfl, ctx, rfl, hctx, hr⟩ .nil
  | vmwCmdSetShaderConst =>
    obtain ⟨evs', h, rfl⟩ := h
    rw [if_pos hmob]
    exact hnone (by simp only [List.filterMap_append, h.no_bind, List.filterMap_cons, Event.bind?,
      List.filterMap_nil, List.append_nil])
  | vmwCmdDraw =>
    obtain ⟨evs₁, evs₂, evs₃, h₁, _, h₂, _, h₃, rfl⟩ := h
    exact hnone (by simp only [List.filterMap_append, h₁.no_bind, h₂.no_bind, h₃.no_bind,
      List.filterMap_cons, Event.bind?, List.filterMap_nil, List.append_nil])
  | vmwCmdBeginQuery =>
    obtain ⟨evs', h, rfl⟩ := h
    rw [if_pos hmob]
    exact hnone (by simp [List.filterMap_append, h.no_bind, rewriteEvents_bind])
  | vmwCmdEndQuery =>
    replace h : QueryLog env s.mem _ p evs := h
    unfold QueryLog at h
    rw [if_pos hmob] at h
    obtain ⟨evs', h, rfl⟩ := h
    have := h.no_bind (fun _ => HandleLog.no_bind) (fun _ => MobLog.no_bind)
    exact hnone (by simp [List.filterMap_append, this, rewriteEvents_bind])
  | vmwCmdWaitQuery =>
    replace h : QueryLog env s.mem _ p evs := h
    unfold QueryLog at h
    rw [if_pos hmob] at h
    obtain ⟨evs', h, rfl⟩ := h
    have := h.no_bind (fun _ => HandleLog.no_bind) (fun _ => MobLog.no_bind)
    exact hnone (by simp [List.filterMap_append, this, rewriteEvents_bind])
  | vmwCmdBltSurfScreenCheck => exact hnone (HandleLog.no_bind h)
  | vmwCmdBindGbSurface =>
    obtain ⟨r, evs', _, h, rfl⟩ := h
    exact hnone (by simp [List.filterMap_append, h.no_bind])
  | vmwCmdUpdateGbImage => exact hnone (HandleLog.no_bind h)
  | vmwCmdUpdateGbSurface => exact hnone (HandleLog.no_bind h)
  | vmwCmdReadbackGbImage => exact hnone (HandleLog.no_bind h)
  | vmwCmdReadbackGbSurface => exact hnone (HandleLog.no_bind h)
  | vmwCmdInvalidateGbImage => exact hnone (HandleLog.no_bind h)
  | vmwCmdInvalidateGbSurface => exact hnone (HandleLog.no_bind h)
  | vmwCmdBindGbShader =>
    obtain ⟨evs', ⟨r, evs'', _, h, rfl⟩, rfl⟩ := h
    exact hnone (by simp only [List.filterMap_cons, List.filterMap_append, h.no_bind, Event.bind?,
      handleEvents_bind, List.append_nil])
  | vmwCmdBeginGbQuery => exact hnone (HandleLog.no_bind h)
  | vmwCmdEndGbQuery =>
    exact hnone (Then.no_bind h (fun _ => HandleLog.no_bind) (fun _ => MobLog.no_bind))
  | vmwCmdWaitGbQuery =>
    exact hnone (Then.no_bind h (fun _ => HandleLog.no_bind) (fun _ => MobLog.no_bind))

/-- So are the bindings a command has logged. -/
theorem Command.binds_named {c : Command hashLong} (hmob : env.hasMob = true)
    (h : c.Log env c.events) :
    List.Forall₂ (BindingCmd.Names env c.before.shaders) c.bindings c.binds := by
  unfold Command.bindings Command.binds
  by_cases hid : c.Is3d
  · obtain ⟨func, hf, hlog⟩ := (log_3d hid).mp h
    rw [if_neg (Nat.not_lt_of_le hid), hf]
    exact hlog.named hmob
  · have hlog := (log_not3d hid).mp h
    rw [if_pos (Nat.lt_of_not_le hid)]
    split at hlog
    · rw [hlog.no_bind]
      exact .nil
    · rw [hlog]
      exact .nil

end Names

section Transfer

variable {env : Env} {s s' : State hashLong} {t : Tracker}

/-- What a transfer of a context's staged bindings leaves of its slots. -/
def stagedBound (s : State hashLong) (t : Tracker) (c : ResId) (loc : Slot) : Option ResId :=
  match s.staged c with
  | some staged => if loc ∈ staged.list then (staged.binding loc).res else t.bound c loc
  | none => t.bound c loc

theorem foldl_transferStaged {rs : List ResId}
    (hstaged : ∀ c staged, s.staged c = some staged → CtxRep c staged) (hrs : rs.Nodup)
    (ht : Rep t) :
    Rep (rs.foldl (fun t c => match s.staged c with
        | some staged => t.vmwContextBindingStateTransfer c staged
        | none => t) t) ∧
      ∀ c loc, (rs.foldl (fun t c => match s.staged c with
        | some staged => t.vmwContextBindingStateTransfer c staged
        | none => t) t).bound c loc = if c ∈ rs then stagedBound s t c loc else t.bound c loc := by
  induction rs generalizing t with
  | nil =>
    refine ⟨ht, ?_⟩
    intro c loc
    rw [if_neg (List.not_mem_nil)]
    rfl
  | cons r rs ih =>
    obtain ⟨hr, hnodup⟩ := List.nodup_cons.mp hrs
    rw [List.foldl_cons]
    cases hst : s.staged r with
    | none =>
      obtain ⟨hrep, hbound⟩ := ih hnodup ht
      refine ⟨hrep, ?_⟩
      intro c loc
      rw [hbound]
      by_cases hc : c = r
      · subst hc
        rw [if_neg hr, if_pos List.mem_cons_self]
        unfold stagedBound
        rw [hst]
      · simp [hc]
    | some staged =>
      obtain ⟨hrep₁, hbound₁⟩ := vmwContextBindingStateTransfer_spec (hstaged r staged hst) ht
      obtain ⟨hrep, hbound⟩ := ih hnodup hrep₁
      refine ⟨hrep, ?_⟩
      intro c loc
      rw [hbound]
      by_cases hc : c = r
      · subst hc
        rw [if_neg hr, if_pos List.mem_cons_self, hbound₁]
        unfold stagedBound
        rw [hst]
        simp
      · unfold stagedBound
        rw [hbound₁]
        simp [hc]

theorem ctx_of_mem_bindsOf {evs : List Event} {c : ResId} :
    ∀ bi ∈ bindsOf c evs, bi.ctx = some c := by
  intro bi hbi
  exact of_decide_eq_true (List.mem_filter.mp hbi).2

/-- The staged bindings of a batch are well formed. -/
theorem Inv.staged_rep (hs : Inv env s) {c : ResId} {staged : CtxBindingState}
    (h : s.staged c = some staged) : CtxRep c staged := by
  rw [hs.staged c staged h]
  exact stage_rep ctx_of_mem_bindsOf

theorem transferStaged_rep (hs : Inv env s) (ht : Rep t) : Rep (transferStaged s t) :=
  (foldl_transferStaged (fun _ _ h => hs.staged_rep h) hs.nodup ht).1

/-- The tracker has the last binding of each slot it has. -/
theorem transferStaged_bound (hs : Inv env s) (ht : Rep t) (c : ResId) (loc : Slot) :
    (transferStaged s t).bound c loc =
      if loc.Valid then
        match lastBinding (bindsOf c s.events) loc with
        | some bi => bi.res
        | none => t.bound c loc
      else t.bound c loc := by
  have hbound := (foldl_transferStaged (fun _ _ h => hs.staged_rep h) hs.nodup ht).2 c loc
  have hlast : ∀ {bi}, lastBinding (bindsOf c s.events) loc = some bi →
      bi ∈ bindsOf c s.events ∧ bi.slot = loc := by
    intro bi h
    exact ⟨List.mem_reverse.mp (List.mem_of_find?_eq_some h), by simpa using List.find?_some h⟩
  change (transferStaged s t).bound c loc = _ at hbound
  rw [hbound]
  cases hst : s.staged c with
  | none =>
    -- without staged bindings only ones out of range have been asked for
    have hself : (if c ∈ s.resourceList then stagedBound s t c loc else t.bound c loc) =
        t.bound c loc := by
      unfold stagedBound
      rw [hst]
      split
      · rfl
      · rfl
    rw [hself]
    split
    · next hvalid =>
      cases hl : lastBinding (bindsOf c s.events) loc with
      | none => rfl
      | some bi =>
        obtain ⟨hmem, hslot⟩ := hlast hl
        obtain ⟨_, c', hc', _, hstc⟩ := hs.bound bi (List.mem_filter.mp hmem).1
        rw [ctx_of_mem_bindsOf bi hmem] at hc'
        cases hc'
        exact absurd hst (hstc (hslot ▸ hvalid))
    · rfl
  | some staged =>
    have hnode : s.node c ≠ none := by
      intro hn
      unfold State.staged at hst
      rw [hn] at hst
      cases hst
    rw [if_pos ((hs.mem_iff c).mpr hnode)]
    unfold stagedBound
    rw [hst]
    have heq := hs.staged c staged hst
    simp only [heq, mem_stage_list ctx_of_mem_bindsOf]
    by_cases hvalid : loc.Valid
    · rw [if_pos hvalid, stage_binding hvalid]
      cases hl : lastBinding (bindsOf c s.events) loc with
      | none =>
        have hnone := lastBinding_eq_none_iff.mp hl
        rw [if_neg]
        intro hmem
        obtain ⟨bi, hbi, hslot⟩ := hmem.2
        exact hnone bi hbi hslot
      | some bi =>
        obtain ⟨hmem, hslot⟩ := hlast hl
        rw [if_pos ⟨hvalid, bi, hmem, hslot⟩]
    · rw [if_neg hvalid, if_neg (fun h => hvalid h.1)]

theorem bindingsTracked_iff_valid (hs : Inv env s) (ht : Rep t) :
    BindingsTracked s t (transferStaged s t) (s.events.filterMap Event.bind?) ↔
      ∀ bi ∈ s.events.filterMap Event.bind?, bi.slot.Valid := by
  constructor
  · intro h bi hbi
    obtain ⟨c, staged, hc, hst, hmem⟩ := h.tracked bi hbi
    rw [hs.staged c staged hst, mem_stage_list ctx_of_mem_bindsOf] at hmem
    exact hmem.1
  · intro hvalid
    refine ⟨transferStaged_rep hs ht, ?_, ?_⟩
    · intro c loc
      rw [transferStaged_bound hs ht]
      split
      · rfl
      · next hloc =>
        have hlast : lastBinding ((s.events.filterMap Event.bind?).filter
            (fun bi => bi.ctx = some c)) loc = none := by
          rw [lastBinding_eq_none_iff]
          intro bi hbi hslot
          exact hloc (hslot ▸ hvalid bi (List.mem_filter.mp hbi).1)
        rw [hlast]
    · intro bi hbi
      obtain ⟨_, c, hc, _, hst⟩ := hs.bound bi hbi
      obtain ⟨staged, hst⟩ := Option.ne_none_iff_exists'.mp (hst (hvalid bi hbi))
      refine ⟨c, staged, hc, hst, ?_⟩
      rw [hs.staged c staged hst, mem_stage_list ctx_of_mem_bindsOf]
      exact ⟨hvalid bi hbi, bi, List.mem_filter.mpr ⟨hbi, decide_eq_true hc⟩, rfl⟩

theorem Checked.filterMap_bind {buf buf' : Nat} {curSize curSize' : Int}
    {cs : List (Command hashLong)} (h : Checked env buf curSize s cs buf' curSize' s')
    (hs : s.Fresh) : s'.events.filterMap Event.bind? = cs.flatMap Command.binds := by
  have hlog := (h.logged (hs.inv env)).1
  rw [hlog.events, hs.events, List.nil_append, List.filterMap_flatMap]
  rfl

end Transfer

/-- What the commands of a batch bind is what the persistent tracker has after it, if and only
if no texture is bound to a stage the tracker does not have. -/
theorem bindings_tracked_iff {env : Env} {fuel size : Nat} {s s' : State hashLong} {t : Tracker}
    (hmob : env.hasMob = true) (hs : s.Fresh)
    (h : vmwCmdCheckAll env fuel size s = some (.ok () s')) (ht : Rep t) :
    ∃ cs buf', Checked env env.bufStart (toInt32 size) s cs buf' 0 s' ∧
      (∀ c ∈ cs, List.Forall₂ (BindingCmd.Names env c.before.shaders) c.bindings c.binds) ∧
      (BindingsTracked s' t (transferStaged s' t) (cs.flatMap Command.binds) ↔
        ∀ c ∈ cs, ∀ b ∈ c.bindings, b.bt = .tex → b.i1 < 32) := by
  obtain ⟨cs, buf', hrun⟩ := vmwCmdCheckAll_ok h
  obtain ⟨hlog, hall⟩ := hrun.logged (hs.inv env)
  have hnamed : ∀ c ∈ cs,
      List.Forall₂ (BindingCmd.Names env c.before.shaders) c.bindings c.binds :=
    fun c hc => Command.binds_named hmob (hall c hc).2.1
  have hbinds := hrun.filterMap_bind hs
  refine ⟨cs, buf', hrun, hnamed, ?_⟩
  rw [← hbinds, bindingsTracked_iff_valid hlog.inv ht]
  constructor
  · intro hvalid c hc b hb htex
    obtain ⟨bi, hbi, hname⟩ := exists_of_forall₂ (hnamed c hc).flip hb
    have hslot := hvalid bi (hbinds ▸ List.mem_flatMap.mpr ⟨c, hc, hbi⟩)
    rw [hname.1] at hslot
    unfold Slot.Valid at hslot
    simp only [htex] at hslot
    exact hslot
  · intro hstage bi hbi
    by_cases htex : bi.bt = .tex
    · obtain ⟨c, hc, hmem⟩ := List.mem_flatMap.mp (hbinds ▸ hbi)
      obtain ⟨b, hb, hname⟩ := exists_of_forall₂ (hnamed c hc) hmem
      have hbt : b.bt = .tex := by
        have := congrArg Slot.bt hname.1
        exact this.symm.trans htex
      have hlt := hstage c hc b hb hbt
      rw [hname.1]
      unfold Slot.Valid
      rw [hbt]
      exact hlt
    · exact (hlog.inv.bound bi hbi).1 htex

section Texture

/-- One texture state command, that binds texture 2 in context 1. -/
def textureBatch (stage : Nat) : State (fun key _ => key) :=
  .start _ (memOf 4096 [svga3dCmdSettexturestate, 16, 1, stage, svga3dTsBindTexture, 2])

/-- A batch with a stage that the tracker has. -/
theorem bindings_tracked_stage5 : ∃ s', vmwCmdCheckAll .mobDevice 2 24 (textureBatch 5) =
    some (.ok () s') ∧ ∃ cs buf', Checked .mobDevice 4096 (toInt32 (24 : Nat)) (textureBatch 5) cs buf' 0 s' ∧
      (∀ c ∈ cs, List.Forall₂ (BindingCmd.Names .mobDevice c.before.shaders) c.bindings c.binds) ∧
      (BindingsTracked s' .empty (transferStaged s' .empty) (cs.flatMap Command.binds) ↔
        ∀ c ∈ cs, ∀ b ∈ c.bindings, b.bt = .tex → b.i1 < 32) := by
  have hrun : (accepted (vmwCmdCheckAll .mobDevice 2 24 (textureBatch 5))).isSome = true := by
    decide +kernel
  obtain ⟨s', hs'⟩ := Option.isSome_iff_exists.mp hrun
  have hok := accepted_eq_some.mp hs'
  exact ⟨s', hok, bindings_tracked_iff rfl (State.start_fresh _) hok rep_empty⟩

/-- Stage 32 is accepted, and nothing keeps the binding. -/
theorem texture_untracked : ∃ s' cs buf', vmwCmdCheckAll .mobDevice 2 24 (textureBatch 32) =
    some (.ok () s') ∧ Checked .mobDevice 4096 (toInt32 (24 : Nat)) (textureBatch 32) cs buf' 0 s' ∧
      Rep .empty ∧
      ¬ BindingsTracked s' .empty (transferStaged s' .empty) (cs.flatMap Command.binds) := by
  have hbinds : (accepted (vmwCmdCheckAll .mobDevice 2 24 (textureBatch 32))).map
      (fun s => s.events.filterMap Event.bind?) = some [⟨some 1, some 2, .tex, false, 32⟩] := by
    decide +kernel
  obtain ⟨s', hs', hevs⟩ := Option.map_eq_some_iff.mp hbinds
  have hok := accepted_eq_some.mp hs'
  obtain ⟨cs, buf', hrun⟩ := vmwCmdCheckAll_ok hok
  refine ⟨s', cs, buf', hok, hrun, rep_empty, ?_⟩
  have hlog := (hrun.logged ((State.start_fresh _).inv _)).1
  rw [← hrun.filterMap_bind (State.start_fresh _), bindingsTracked_iff_valid hlog.inv rep_empty,
    hevs]
  intro h
  exact absurd (h _ List.mem_cons_self) (by decide)

end Texture

end Vmwgfx.Execbuf
