import Vmwgfx.Execbuf.Check
import Vmwgfx.Execbuf.Effects

/-! What each handler of the table logs when it passes a command. -/

namespace Vmwgfx.Execbuf

open Vmwgfx.Binding (BindingType)
open Vmwgfx.Cmdbuf (ShaderWorld vmwCompatShaderLookup)
open Vmwgfx.Hashtab Vmwgfx.Lib

variable {hashLong : HashLong}

section Shapes

variable (env : Env) (m : Mem)

/-- The event a binding is logged with. -/
def bindEvents (ctx : ResId) (r : Option ResId) (bt : BindingType) (typeLoc : Nat) : List Event :=
  [.read typeLoc 4, .bind ⟨some ctx, r, bt, false, m.read32 typeLoc⟩]

/-- A checked handle at `idLoc`. -/
def HandleLog (resType : ResType) (idLoc : Nat) (evs : List Event) : Prop :=
  ∃ r, Named env resType (m.read32 idLoc) r ∧ evs = handleEvents env idLoc r

/-- A buffer handle at `id` that becomes a MOB id. -/
def MobLog (id : Nat) (evs : List Event) : Prop :=
  ∃ bo tick, env.dmabuf tick (m.read32 id) = some bo ∧ evs = [.read id 4, .mobReloc id bo]

/-- A buffer handle at `ptr` that becomes a guest pointer. -/
def GuestLog (ptr : Nat) (evs : List Event) : Prop :=
  ∃ bo tick, env.dmabuf tick (m.read32 ptr) = some bo ∧ evs = [.read ptr 4, .guestReloc ptr bo]

def Then (P Q : List Event → Prop) (evs : List Event) : Prop :=
  ∃ evs₁ evs₂, P evs₁ ∧ Q evs₂ ∧ evs = evs₁ ++ evs₂

def SurfacesLog (stride : Nat) : Nat → Nat → List Event → Prop
  | 0, _ => (· = [])
  | n + 1, idLoc => Then (HandleLog env m .surface idLoc) (SurfacesLog stride n (idLoc + stride))

def RenderTargetLog (p : Nat) (evs : List Event) : Prop :=
  ∃ ctx r, Named env .context (m.read32 (p + 8)) (some ctx) ∧
    Named env .surface (m.read32 (p + 16)) r ∧
    evs = handleEvents env (p + 8) (some ctx) ++ handleEvents env (p + 16) r ++
      if env.hasMob then bindEvents m ctx r .rt (p + 12) else []

def TextureLog (ctx : ResId) (a : Nat) (evs : List Event) : Prop :=
  if m.read32 (a + 4) ≠ svga3dTsBindTexture then evs = [.read (a + 4) 4]
  else ∃ r, Named env .surface (m.read32 (a + 8)) r ∧
    evs = .read (a + 4) 4 :: handleEvents env (a + 8) r ++
      if env.hasMob then bindEvents m ctx r .tex a else []

def TexturesLog (ctx : ResId) : Nat → Nat → List Event → Prop
  | 0, _ => (· = [])
  | n + 1, a => Then (TextureLog env m ctx a) (TexturesLog ctx n (a + 12))

def TexStateLog (p : Nat) (evs : List Event) : Prop :=
  ∃ ctx evs', Named env .context (m.read32 (p + 8)) (some ctx) ∧
    TexturesLog env m ctx ((m.read32 (p + 4) + 7) / 12) (p + 12) evs' ∧
    evs = .read (p + 4) 4 :: handleEvents env (p + 8) (some ctx) ++ evs'

/-- `memcpy` of a query command under another id. -/
def rewriteEvents (p id : Nat) (ws : List Nat) : List Event :=
  ws.map (fun w => .read w 4) ++
    .write p id :: ws.reverse.map (fun w => .write w (m.read32 w))

def BeginQueryLog (p : Nat) (evs : List Event) : Prop :=
  ∃ evs', HandleLog env m .context (p + 8) evs' ∧
    evs = (if env.hasMob then rewriteEvents m p svga3dCmdBeginGbQuery [p + 4, p + 8, p + 12]
      else []) ++ evs'

/-- The end of a query or the wait for one; its buffer is at `p + 16`. -/
def QueryLog (gbId p : Nat) (evs : List Event) : Prop :=
  if env.hasMob then
    ∃ evs', Then (HandleLog env m .context (p + 8)) (MobLog env m (p + 16)) evs' ∧
      evs = rewriteEvents m p gbId [p + 4, p + 8, p + 12, p + 16, p + 20] ++ evs'
  else Then (HandleLog env m .context (p + 8)) (GuestLog env m (p + 16)) evs

/-- Where the suffix of a DMA command is. -/
def dmaSuffix (p : Nat) : Nat := p + 8 + m.read32 (p + 4) - 12

/-- What a DMA to or from a buffer does to `maximumOffset`. -/
def clampEvents (p : Nat) (bo : BufId) : List Event :=
  if m.read32 (dmaSuffix m p + 4) > boSizeFrom env bo (m.read32 (p + 12)) then
    [.write (dmaSuffix m p + 4) (boSizeFrom env bo (m.read32 (p + 12)))]
  else []

/-- The command once `maximumOffset` has been looked at. -/
def dmaMem (p : Nat) (bo : BufId) : Mem :=
  m.writeAll ((clampEvents env m p bo).filterMap Event.write?)

def snoopEvents (p : Nat) : List Event :=
  .read (p + 24) 4 ::
    if m.read32 (p + 24) ≠ 0 then []
    else .read (p + 28) 4 ::
      if m.read32 (p + 28) ≠ 0 then []
      else .read (p + 4) 4 ::
        if m.read32 (p + 4) < 64 then [] else [.read (p + 12) 8, .read (p + 36) 36]

/-- What the buffer handle of a DMA command names. -/
def dmaBuffer (s : State hashLong) (p : Nat) : Option BufId :=
  env.dmabuf s.tick (s.mem.read32 (p + 8))

/-- What its surface handle names, once `maximumOffset` has been looked at. -/
def dmaHandle (s : State hashLong) (p : Nat) (bo : BufId) : Option ResId :=
  namedNow env { s with tick := s.tick + 1 } .surface ((dmaMem env s.mem p bo).read32 (p + 20))

/-- The surface the handler goes on with: without a handle, the one of the command before. -/
def dmaSurface (s : State hashLong) (p : Nat) (bo : BufId) : Option ResId :=
  match dmaHandle env s p bo with
  | some res => some res
  | none => (s.resCache .surface).map (·.res)

def DmaLog (s : State hashLong) (p : Nat) (evs : List Event) : Prop :=
  ∃ bo srf, dmaBuffer env s p = some bo ∧ s.mem.read32 (dmaSuffix s.mem p) = 12 ∧
    s.mem.read32 (p + 12) ≤ env.numPages bo * pageSize % 2 ^ 32 ∧
    Named env .surface ((dmaMem env s.mem p bo).read32 (p + 20)) (dmaHandle env s p bo) ∧
    dmaSurface env s p bo = some srf ∧
    evs = [.read (p + 4) 4, .read (dmaSuffix s.mem p) 4, .read (p + 8) 4, .guestReloc (p + 8) bo,
        .read (p + 12) 4, .read (dmaSuffix s.mem p + 4) 4] ++ clampEvents env s.mem p bo ++
      handleEvents env (p + 20) (dmaHandle env s p bo) ++
      if env.snooper srf then snoopEvents (dmaMem env s.mem p bo) p else []

def DrawLog (p : Nat) (evs : List Event) : Prop :=
  ∃ evs₁ evs₂ evs₃, HandleLog env m .context (p + 8) evs₁ ∧
    m.read32 (p + 12) ≤ sub64 (m.read32 (p + 4)) 12 / 36 % 2 ^ 32 ∧
    SurfacesLog env m 36 (m.read32 (p + 12)) (p + 20 + 16) evs₂ ∧
    m.read32 (p + 16) ≤
      sub64 (sub64 (m.read32 (p + 4)) 12) (m.read32 (p + 12) * 36) / 28 % 2 ^ 32 ∧
    SurfacesLog env m 28 (m.read32 (p + 16)) (p + 20 + m.read32 (p + 12) * 36 + 8) evs₃ ∧
    evs = evs₁ ++ [.read (p + 4) 4, .read (p + 12) 4] ++ evs₂ ++ [.read (p + 16) 4] ++ evs₃

/-- A resource at `resId` gets a backup named at `bufId`. -/
def BackupLog (resType : ResType) (resId bufId : Nat) (evs : List Event) : Prop :=
  ∃ r evs', Named env resType (m.read32 resId) (some r) ∧ MobLog env m bufId evs' ∧
    evs = handleEvents env resId (some r) ++ evs'

/-- The header of a compat shader command becomes a NOP. -/
def ShaderLog (p : Nat) (reads : List Event) (evs : List Event) : Prop :=
  ∃ ctx, Named env .context (m.read32 (p + 8)) (some ctx) ∧
    evs = handleEvents env (p + 8) (some ctx) ++
      if env.hasMob then reads ++ [.resReloc ⟨none, env.offset p⟩] else []

/-- The shader under an id and a type in a manager. -/
def compatShader (w : ShaderWorld hashLong) (man : Cmdbuf.ManId) (shid type : Nat) :
    Option ResId :=
  match vmwCompatShaderLookup w man (UInt32.ofNat shid) (UInt32.ofNat type) with
  | some (.ok res, _) => some res
  | _ => none

/-- What the id of a set shader command names: a shader of the client, or a compat shader. -/
def ShaderNamed (w : ShaderWorld hashLong) (ctx : ResId) (shid type : Nat) (r : Option ResId) :
    Prop :=
  Named env .shader shid r ∨ shid ≠ svga3dInvalidId ∧ r ≠ none ∧
    ∃ kref, compatShader { w with world.kref := kref } (env.resMan ctx) shid type = r

def SetShaderLog (w : ShaderWorld hashLong) (p : Nat) (evs : List Event) : Prop :=
  ∃ ctx, Named env .context (m.read32 (p + 8)) (some ctx) ∧
    if env.hasMob then
      ∃ r reads, ShaderNamed env w ctx (m.read32 (p + 16)) (m.read32 (p + 12)) r ∧
        .read (p + 16) 4 ∈ reads ∧
        (∀ e ∈ reads, e = .read (p + 16) 4 ∨ e = .read (p + 12) 4) ∧
        evs = handleEvents env (p + 8) (some ctx) ++ reads ++
          (r.map (fun res => Event.resReloc ⟨some res, env.offset (p + 16)⟩)).toList ++
          bindEvents m ctx r .shader (p + 12)
    else evs = handleEvents env (p + 8) (some ctx)

def ShaderConstLog (p : Nat) (evs : List Event) : Prop :=
  ∃ evs', HandleLog env m .context (p + 8) evs' ∧
    evs = evs' ++ if env.hasMob then [.write p svga3dCmdSetGbShaderconstsInline] else []

end Shapes

/-- The logs a handler can leave of a command at `p` that it passes in the state `s`. -/
def CmdFunc.Log (env : Env) (s : State hashLong) (p : Nat) : CmdFunc → List Event → Prop
  | .vmwCmdInvalid => fun _ => False
  | .vmwCmdSurfaceCopyCheck =>
    Then (HandleLog env s.mem .surface (p + 8)) (HandleLog env s.mem .surface (p + 20))
  | .vmwCmdStretchBltCheck =>
    Then (HandleLog env s.mem .surface (p + 8)) (HandleLog env s.mem .surface (p + 20))
  | .vmwCmdDma => DmaLog env s p
  | .vmwCmdCidCheck => HandleLog env s.mem .context (p + 8)
  | .vmwCmdSetRenderTargetCheck => RenderTargetLog env s.mem p
  | .vmwCmdTexState => TexStateLog env s.mem p
  | .vmwCmdPresentCheck => HandleLog env s.mem .surface (p + 8)
  | .vmwCmdShaderDefine => ShaderLog env s.mem p [.read (p + 4) 4, .read (p + 12) 4,
      .read (p + 16) 4, .read (p + 20) (sub64 (s.mem.read32 (p + 4)) 12)]
  | .vmwCmdShaderDestroy => ShaderLog env s.mem p [.read (p + 12) 4, .read (p + 16) 4]
  | .vmwCmdSetShader => SetShaderLog env s.mem s.shaders p
  | .vmwCmdSetShaderConst => ShaderConstLog env s.mem p
  | .vmwCmdDraw => DrawLog env s.mem p
  | .vmwCmdBeginQuery => BeginQueryLog env s.mem p
  | .vmwCmdEndQuery => QueryLog env s.mem svga3dCmdEndGbQuery p
  | .vmwCmdWaitQuery => QueryLog env s.mem svga3dCmdWaitForGbQuery p
  | .vmwCmdOk => (· = [])
  | .vmwCmdBltSurfScreenCheck => HandleLog env s.mem .surface (p + 8)
  | .vmwCmdBindGbSurface => BackupLog env s.mem .surface (p + 8) (p + 12)
  | .vmwCmdUpdateGbImage => HandleLog env s.mem .surface (p + 8)
  | .vmwCmdUpdateGbSurface => HandleLog env s.mem .surface (p + 8)
  | .vmwCmdReadbackGbImage => HandleLog env s.mem .surface (p + 8)
  | .vmwCmdReadbackGbSurface => HandleLog env s.mem .surface (p + 8)
  | .vmwCmdInvalidateGbImage => HandleLog env s.mem .surface (p + 8)
  | .vmwCmdInvalidateGbSurface => HandleLog env s.mem .surface (p + 8)
  | .vmwCmdBindGbShader => fun evs => ∃ evs', BackupLog env s.mem .shader (p + 8) (p + 12) evs' ∧
      evs = .read (p + 16) 4 :: evs'
  | .vmwCmdBeginGbQuery => HandleLog env s.mem .context (p + 8)
  | .vmwCmdEndGbQuery =>
    Then (HandleLog env s.mem .context (p + 8)) (MobLog env s.mem (p + 16))
  | .vmwCmdWaitGbQuery =>
    Then (HandleLog env s.mem .context (p + 8)) (MobLog env s.mem (p + 16))

section Pieces

variable {env : Env} {s t u : State hashLong} {evs : List Event}

theorem Logged.mem_eq (h : Logged env s t evs) (hw : evs.filterMap Event.write? = []) :
    t.mem = s.mem := by
  rw [h.mem, hw]
  rfl

@[simp] theorem handleEvents_write (a : Nat) (r : Option ResId) :
    (handleEvents env a r).filterMap Event.write? = [] := by
  cases r with
  | none => rfl
  | some r => rfl

theorem checkHandle_ok {resType : ResType} {idLoc : Nat} (hs : Inv env s)
    (h : checkHandle env resType idLoc s = .ok () t) :
    ∃ evs, HandleLog env s.mem resType idLoc evs ∧ Did env s t evs ∧ t.mem = s.mem := by
  obtain ⟨v, s₁, hcheck, h⟩ := bind_eq_ok.mp h
  cases h
  obtain ⟨r, hr⟩ := vmwCmdResCheck_ok hs hcheck
  exact ⟨_, ⟨r, hr.named, rfl⟩, hr.did, hr.did.mem_eq (handleEvents_write _ _)⟩

/-- The context of a handler that uses its node. -/
theorem contextNode_ok {idLoc : Nat} {v : Option ResId} (hs : Inv env s)
    (h : vmwCmdResCheck env .context idLoc s = .ok v t) :
    ∃ ctx, Named env .context (s.mem.read32 idLoc) (some ctx) ∧
      Did env s t (handleEvents env idLoc (some ctx)) ∧ t.mem = s.mem ∧ t.node ctx ≠ none ∧
      (v = some ctx ∨ v = none) := by
  obtain ⟨r, hr⟩ := vmwCmdResCheck_ok hs h
  cases r with
  | none => exact absurd rfl hr.named.2
  | some ctx =>
    refine ⟨ctx, hr.named, hr.did, hr.did.mem_eq (handleEvents_write _ _), hr.node ctx rfl, ?_⟩
    cases hr.value with
    | inl hv => exact .inl hv
    | inr hv => exact .inr hv.1

/-- The node of a surface or a shader is the one of its resource. -/
theorem resNode_ok {resType : ResType} {idLoc : Nat} {v : Option ResId} (hs : Inv env s)
    (hty : resType ≠ .context) (h : vmwCmdResCheck env resType idLoc s = .ok v t) :
    Named env resType (s.mem.read32 idLoc) v ∧ Did env s t (handleEvents env idLoc v) ∧
      t.mem = s.mem ∧ ∀ r, v = some r → t.node r ≠ none := by
  obtain ⟨r, hr⟩ := vmwCmdResCheck_ok hs h
  cases hr.value with
  | inr hv => exact absurd hv.2 hty
  | inl hv =>
    subst hv
    exact ⟨hr.named, hr.did, hr.did.mem_eq (handleEvents_write _ _), hr.node⟩

theorem two_checkHandle_ok {resType resType' : ResType} {idLoc idLoc' : Nat} (hs : Inv env s)
    (h : (do checkHandle env resType idLoc; checkHandle env resType' idLoc') s = .ok () t) :
    ∃ evs, Then (HandleLog env s.mem resType idLoc) (HandleLog env s.mem resType' idLoc') evs ∧
      Logged env s t evs := by
  obtain ⟨_, s₁, h₁, h₂⟩ := bind_eq_ok.mp h
  obtain ⟨evs₁, hlog₁, hd₁, hmem₁⟩ := checkHandle_ok hs h₁
  obtain ⟨evs₂, hlog₂, hd₂, _⟩ := checkHandle_ok hd₁.inv h₂
  rw [hmem₁] at hlog₂
  exact ⟨_, ⟨evs₁, evs₂, hlog₁, hlog₂, rfl⟩, (hd₁.trans hd₂).toLogged⟩

theorem checkSurfaces_ok {stride n idLoc : Nat} (hs : Inv env s)
    (h : checkSurfaces env stride n idLoc s = .ok () t) :
    ∃ evs, SurfacesLog env s.mem stride n idLoc evs ∧ Did env s t evs ∧ t.mem = s.mem := by
  induction n generalizing idLoc s with
  | zero =>
    cases h
    exact ⟨[], rfl, Did.refl hs, rfl⟩
  | succ n ih =>
    obtain ⟨_, s₁, h₁, h₂⟩ := bind_eq_ok.mp h
    obtain ⟨evs₁, hlog₁, hd₁, hmem₁⟩ := checkHandle_ok hs h₁
    obtain ⟨evs₂, hlog₂, hd₂, hmem₂⟩ := ih hd₁.inv h₂
    rw [hmem₁] at hlog₂
    exact ⟨_, ⟨evs₁, evs₂, hlog₁, hlog₂, rfl⟩, hd₁.trans hd₂, hmem₂.trans hmem₁⟩

theorem rewriteQuery_ok {p id : Nat} {ws : List Nat} (hs : Inv env s)
    (h : rewriteQuery p id ws s = .ok () t) (hws : ∀ w ∈ ws, p + 4 ≤ w) :
    Did env s t (rewriteEvents s.mem p id ws) ∧ t.mem = s.mem.write32 p id := by
  induction ws generalizing s t with
  | nil =>
    have hd := store_ok hs h
    exact ⟨hd, hd.mem⟩
  | cons w ws ih =>
    obtain ⟨v, s₁, hload, h⟩ := bind_eq_ok.mp h
    obtain ⟨rfl, hd₁⟩ := load_ok hs hload
    have hmem₁ : s₁.mem = s.mem := hd₁.mem
    obtain ⟨_, s₂, hrest, h⟩ := bind_eq_ok.mp h
    obtain ⟨hd₂, hmem₂⟩ := ih hd₁.inv hrest (fun w' hw' => hws w' (List.mem_cons_of_mem _ hw'))
    rw [hmem₁] at hd₂ hmem₂
    have hd₃ := store_ok hd₂.inv h
    refine ⟨?_, ?_⟩
    · have hd := hd₁.trans (hd₂.trans hd₃)
      have hevs : rewriteEvents s.mem p id (w :: ws) =
          [.read w 4] ++ (rewriteEvents s.mem p id ws ++ [.write w (s.mem.read32 w)]) := by
        simp [rewriteEvents]
      rw [hevs]
      exact hd
    · -- what is written back is what is there
      have hw := hws w List.mem_cons_self
      rw [hd₃.mem, hmem₂]
      change (s.mem.write32 p id).write32 w (s.mem.read32 w) = _
      rw [← Mem.read32_write32_of_disjoint (v := id) (Or.inr hw)]
      exact Mem.write32_read32 _ _

theorem Then.imp {P P' Q Q' : List Event → Prop} (h : Then P Q evs) (hP : ∀ e, P e → P' e)
    (hQ : ∀ e, Q e → Q' e) : Then P' Q' evs := by
  obtain ⟨evs₁, evs₂, h₁, h₂, heq⟩ := h
  exact ⟨evs₁, evs₂, hP _ h₁, hQ _ h₂, heq⟩

end Pieces

section Handlers

variable {env : Env} {s t : State hashLong} {p : Nat}

theorem vmwCmdSetRenderTargetCheck_ok (hs : Inv env s)
    (h : vmwCmdSetRenderTargetCheck env p s = .ok () t) :
    ∃ evs, RenderTargetLog env s.mem p evs ∧ Logged env s t evs := by
  obtain ⟨ctxNode, s₁, hctx, h⟩ := bind_eq_ok.mp h
  obtain ⟨ctx, hname, hd₁, hmem₁, hnode₁, hv⟩ := contextNode_ok hs hctx
  obtain ⟨resNode, s₂, hres, h⟩ := bind_eq_ok.mp h
  obtain ⟨hname', hd₂, hmem₂, _⟩ := resNode_ok hd₁.inv (by decide) hres
  rw [hmem₁] at hname'
  have hd := hd₁.trans hd₂
  refine ⟨_, ⟨ctx, resNode, hname, hname', rfl⟩, ?_⟩
  split at h
  · next hmob =>
    rw [if_pos hmob]
    obtain ⟨rtType, s₃, hload, h⟩ := bind_eq_ok.mp h
    obtain ⟨rfl, hd₃⟩ := load_ok hd₂.inv hload
    obtain ⟨ret, s₄, hadd, h⟩ := bind_eq_ok.mp h
    obtain ⟨hret, rfl⟩ := check_ok.mp h
    have hnode : ∀ c, ctxNode = some c → s₃.node c ≠ none := by
      intro c hc
      cases hv with
      | inl hv =>
        rw [hv] at hc
        cases hc
        exact hd₃.nodes _ (hd₂.nodes _ hnode₁)
      | inr hv =>
        rw [hv] at hc
        cases hc
    obtain ⟨c, hc, hd₄⟩ := vmwContextBindingAdd_ok hd₃.inv hnode hadd (fun _ => hret)
    cases hv with
    | inl hv =>
      rw [hv] at hc
      cases hc
      rw [hmem₂, hmem₁] at hd₄
      exact (hd.trans (hd₃.trans hd₄)).toLogged
    | inr hv =>
      rw [hv] at hc
      cases hc
  · next hmob =>
    cases h
    rw [if_neg hmob, List.append_nil]
    exact hd.toLogged

theorem translateMob_ok {id : Nat} {bo : BufId} (hs : Inv env s)
    (h : vmwTranslateMobPtr env id s = .ok bo t) :
    ∃ evs, MobLog env s.mem id evs ∧ Did env s t evs := by
  obtain ⟨hd, hname⟩ := vmwTranslateMobPtr_ok hs h
  exact ⟨_, ⟨bo, s.tick, hname, rfl⟩, hd⟩

theorem translateGuest_ok {ptr : Nat} {bo : BufId} (hs : Inv env s)
    (h : vmwTranslateGuestPtr env ptr s = .ok bo t) :
    ∃ evs, GuestLog env s.mem ptr evs ∧ Did env s t evs := by
  obtain ⟨hd, hname, _⟩ := vmwTranslateGuestPtr_ok hs h
  exact ⟨_, ⟨bo, s.tick, hname, rfl⟩, hd⟩

/-- A query command that refers to its buffer in one of the two ways. -/
theorem endQuery_ok {translate : Verify hashLong BufId} (P : Mem → List Event → Prop)
    (htranslate : ∀ s t bo, Inv env s → translate s = .ok bo t →
      ∃ evs, P s.mem evs ∧ Did env s t evs)
    (hs : Inv env s) (h : endQuery env translate p s = .ok () t) :
    ∃ evs, Then (HandleLog env s.mem .context (p + 8)) (P s.mem) evs ∧ Logged env s t evs := by
  obtain ⟨_, s₁, hcid, h⟩ := bind_eq_ok.mp h
  obtain ⟨evs₁, hlog₁, hd₁, hmem₁⟩ := checkHandle_ok hs hcid
  obtain ⟨bo, s₂, htrans, h⟩ := bind_eq_ok.mp h
  obtain ⟨evs₂, hlog₂, hd₂⟩ := htranslate _ _ _ hd₁.inv htrans
  obtain ⟨_, s₃, hprep, h⟩ := bind_eq_ok.mp h
  have hd₃ := vmwQueryBoSwitchPrepare_ok hd₂.inv (onError_ok.mp hprep)
  cases h
  have hd := (hd₁.trans (hd₂.trans hd₃)).same (same_addBufRef s₃ bo (-1))
  rw [List.append_nil] at hd
  rw [hmem₁] at hlog₂
  exact ⟨_, ⟨evs₁, evs₂, hlog₁, hlog₂, rfl⟩, hd.toLogged⟩

theorem waitQuery_ok {translate : Verify hashLong BufId} (P : Mem → List Event → Prop)
    (htranslate : ∀ s t bo, Inv env s → translate s = .ok bo t →
      ∃ evs, P s.mem evs ∧ Did env s t evs)
    (hs : Inv env s) (h : waitQuery env translate p s = .ok () t) :
    ∃ evs, Then (HandleLog env s.mem .context (p + 8)) (P s.mem) evs ∧ Logged env s t evs := by
  obtain ⟨_, s₁, hcid, h⟩ := bind_eq_ok.mp h
  obtain ⟨evs₁, hlog₁, hd₁, hmem₁⟩ := checkHandle_ok hs hcid
  obtain ⟨bo, s₂, htrans, h⟩ := bind_eq_ok.mp h
  obtain ⟨evs₂, hlog₂, hd₂⟩ := htranslate _ _ _ hd₁.inv htrans
  cases h
  have hd := (hd₁.trans hd₂).same (same_addBufRef s₂ bo (-1))
  rw [hmem₁] at hlog₂
  exact ⟨_, ⟨evs₁, evs₂, hlog₁, hlog₂, rfl⟩, hd.toLogged⟩

theorem endMob_ok (hs : Inv env s) (h : vmwCmdEndGbQuery env p s = .ok () t) :
    ∃ evs, Then (HandleLog env s.mem .context (p + 8)) (MobLog env s.mem (p + 16)) evs ∧
      Logged env s t evs :=
  endQuery_ok (fun m => MobLog env m (p + 16)) (fun _ _ _ => translateMob_ok) hs h

theorem waitMob_ok (hs : Inv env s) (h : vmwCmdWaitGbQuery env p s = .ok () t) :
    ∃ evs, Then (HandleLog env s.mem .context (p + 8)) (MobLog env s.mem (p + 16)) evs ∧
      Logged env s t evs :=
  waitQuery_ok (fun m => MobLog env m (p + 16)) (fun _ _ _ => translateMob_ok) hs h

/-- A new id in the header leaves the body as it was. -/
theorem read32_rewritten (m : Mem) (id : Nat) {a : Nat} (ha : p + 4 ≤ a) :
    (m.write32 p id).read32 a = m.read32 a :=
  Mem.read32_write32_of_disjoint (.inr ha)

theorem Then_rewritten {m : Mem} {id : Nat} {evs : List Event}
    (h : Then (HandleLog env (m.write32 p id) .context (p + 8))
      (MobLog env (m.write32 p id) (p + 16)) evs) :
    Then (HandleLog env m .context (p + 8)) (MobLog env m (p + 16)) evs := by
  unfold HandleLog MobLog at h ⊢
  rwa [read32_rewritten m id (by omega), read32_rewritten m id (by omega)] at h

/-- A query command that is rewritten on a device with MOBs, and goes on as the new one. -/
theorem rewrittenQuery_ok {gbId : Nat} (gb : Nat → Verify hashLong Unit)
    {legacy : Nat → Verify hashLong Unit} (hs : Inv env s)
    (hgb : ∀ s t, Inv env s → gb p s = .ok () t →
      ∃ evs, Then (HandleLog env s.mem .context (p + 8)) (MobLog env s.mem (p + 16)) evs ∧
        Logged env s t evs)
    (hlegacy : ∀ s t, Inv env s → legacy p s = .ok () t →
      ∃ evs, Then (HandleLog env s.mem .context (p + 8)) (GuestLog env s.mem (p + 16)) evs ∧
        Logged env s t evs)
    (h : (if env.hasMob then do
        rewriteQuery p gbId [p + 4, p + 8, p + 12, p + 16, p + 20]
        gb p
      else legacy p) s = .ok () t) :
    ∃ evs, QueryLog env s.mem gbId p evs ∧ Logged env s t evs := by
  unfold QueryLog
  split at h
  · next hmob =>
    obtain ⟨_, s₁, hrw, h⟩ := bind_eq_ok.mp h
    obtain ⟨hd₁, hmem₁⟩ := rewriteQuery_ok hs hrw (by simp)
    obtain ⟨evs, hlog, hd₂⟩ := hgb _ _ hd₁.inv h
    rw [hmem₁] at hlog
    simp only [hmob, if_true]
    exact ⟨_, ⟨evs, Then_rewritten hlog, rfl⟩, hd₁.toLogged.trans hd₂⟩
  · next hmob =>
    simp only [hmob]
    exact hlegacy _ _ hs h

theorem vmwCmdBeginQuery_ok (hs : Inv env s) (h : vmwCmdBeginQuery env p s = .ok () t) :
    ∃ evs, BeginQueryLog env s.mem p evs ∧ Logged env s t evs := by
  unfold vmwCmdBeginQuery at h
  split at h
  · next hmob =>
    obtain ⟨_, s₁, hrw, h⟩ := bind_eq_ok.mp h
    obtain ⟨hd₁, hmem₁⟩ := rewriteQuery_ok hs hrw (by simp)
    obtain ⟨evs, hlog, hd₂, _⟩ := checkHandle_ok hd₁.inv h
    unfold HandleLog at hlog
    rw [hmem₁, read32_rewritten _ _ (by omega)] at hlog
    refine ⟨_, ⟨evs, hlog, rfl⟩, ?_⟩
    rw [if_pos hmob]
    exact (hd₁.trans hd₂).toLogged
  · next hmob =>
    obtain ⟨evs, hlog, hd, _⟩ := checkHandle_ok hs h
    refine ⟨_, ⟨evs, hlog, rfl⟩, ?_⟩
    rw [if_neg hmob]
    exact hd.toLogged

theorem vmwCmdDraw_ok (hs : Inv env s) (h : vmwCmdDraw env p s = .ok () t) :
    ∃ evs, DrawLog env s.mem p evs ∧ Logged env s t evs := by
  obtain ⟨_, s₁, hcid, h⟩ := bind_eq_ok.mp h
  obtain ⟨evs₁, hlog₁, hd₁, hmem₁⟩ := checkHandle_ok hs hcid
  obtain ⟨size, s₂, hload, h⟩ := bind_eq_ok.mp h
  obtain ⟨rfl, hd₂⟩ := load_ok hd₁.inv hload
  have hmem₂ : s₂.mem = s.mem := hd₂.mem.trans hmem₁
  obtain ⟨numVertexDecls, s₃, hload, h⟩ := bind_eq_ok.mp h
  obtain ⟨rfl, hd₃⟩ := load_ok hd₂.inv hload
  have hmem₃ : s₃.mem = s.mem := hd₃.mem.trans hmem₂
  rw [hmem₁, hmem₂] at h
  split at h
  · cases h
  · next hdecls =>
    obtain ⟨_, s₄, hsurf, h⟩ := bind_eq_ok.mp h
    obtain ⟨evs₂, hlog₂, hd₄, hmem₄⟩ := checkSurfaces_ok hd₃.inv hsurf
    rw [hmem₃] at hlog₂ hmem₄
    obtain ⟨numRanges, s₅, hload, h⟩ := bind_eq_ok.mp h
    obtain ⟨rfl, hd₅⟩ := load_ok hd₄.inv hload
    have hmem₅ : s₅.mem = s.mem := hd₅.mem.trans hmem₄
    rw [hmem₄] at h
    split at h
    · cases h
    · next hranges =>
      obtain ⟨evs₃, hlog₃, hd₆, _⟩ := checkSurfaces_ok hd₅.inv h
      rw [hmem₅] at hlog₃
      refine ⟨_, ⟨evs₁, evs₂, evs₃, hlog₁, Nat.le_of_not_lt hdecls, hlog₂,
        Nat.le_of_not_lt hranges, hlog₃, rfl⟩, ?_⟩
      have hd := ((hd₁.trans (hd₂.trans hd₃)).trans hd₄).trans hd₅ |>.trans hd₆
      exact hd.toLogged

theorem vmwCmdEndQuery_ok (hs : Inv env s) (h : vmwCmdEndQuery env p s = .ok () t) :
    ∃ evs, QueryLog env s.mem svga3dCmdEndGbQuery p evs ∧ Logged env s t evs :=
  rewrittenQuery_ok (vmwCmdEndGbQuery env) hs (fun _ _ => endMob_ok)
    (fun _ _ => endQuery_ok (fun m => GuestLog env m (p + 16)) (fun _ _ _ => translateGuest_ok)) h

theorem vmwCmdWaitQuery_ok (hs : Inv env s) (h : vmwCmdWaitQuery env p s = .ok () t) :
    ∃ evs, QueryLog env s.mem svga3dCmdWaitForGbQuery p evs ∧ Logged env s t evs :=
  rewrittenQuery_ok (vmwCmdWaitGbQuery env) hs (fun _ _ => waitMob_ok)
    (fun _ _ => waitQuery_ok (fun m => GuestLog env m (p + 16)) (fun _ _ _ => translateGuest_ok)) h

theorem checkTexture_ok {ctxNode : Option ResId} {ctx : ResId} {a : Nat} (hs : Inv env s)
    (hv : ctxNode = some ctx ∨ ctxNode = none) (hnode : s.node ctx ≠ none)
    (h : checkTexture env ctxNode a s = .ok () t) :
    ∃ evs, TextureLog env s.mem ctx a evs ∧ Did env s t evs ∧ t.mem = s.mem := by
  obtain ⟨name, s₁, hload, h⟩ := bind_eq_ok.mp h
  obtain ⟨rfl, hd₁⟩ := load_ok hs hload
  have hmem₁ : s₁.mem = s.mem := hd₁.mem
  split at h
  · next hname =>
    cases h
    exact ⟨_, Eq.mpr (if_pos hname) rfl, hd₁, hmem₁⟩
  · next hname =>
    obtain ⟨resNode, s₂, hres, h⟩ := bind_eq_ok.mp h
    obtain ⟨hnamed, hd₂, hmem₂, _⟩ := resNode_ok hd₁.inv (by decide) hres
    rw [hmem₁] at hnamed hmem₂
    have hd := hd₁.trans hd₂
    refine ⟨_, Eq.mpr (if_neg hname) ⟨resNode, hnamed, rfl⟩, ?_⟩
    split at h
    · next hmob =>
      rw [if_pos hmob]
      obtain ⟨stage, s₃, hload, h⟩ := bind_eq_ok.mp h
      obtain ⟨rfl, hd₃⟩ := load_ok hd₂.inv hload
      have hmem₃ : s₃.mem = s.mem := hd₃.mem.trans hmem₂
      obtain ⟨ret, s₄, hadd, h⟩ := bind_eq_ok.mp h
      cases h
      have hnode₃ : ∀ c, ctxNode = some c → s₃.node c ≠ none := by
        intro c hc
        cases hv with
        | inl hv =>
          rw [hv] at hc
          cases hc
          exact hd₃.nodes _ (hd.nodes _ hnode)
        | inr hv =>
          rw [hv] at hc
          cases hc
      obtain ⟨c, hc, hd₄⟩ := vmwContextBindingAdd_ok hd₃.inv hnode₃ hadd
        (fun hne => absurd rfl hne)
      cases hv with
      | inl hv =>
        rw [hv] at hc
        cases hc
        rw [hmem₂] at hd₄
        exact ⟨hd.trans (hd₃.trans hd₄), hd₄.mem.trans hmem₃⟩
      | inr hv =>
        rw [hv] at hc
        cases hc
    · next hmob =>
      cases h
      rw [if_neg hmob, List.append_nil]
      exact ⟨hd, hmem₂⟩

theorem checkTextures_ok {ctxNode : Option ResId} {ctx : ResId} {n a : Nat} (hs : Inv env s)
    (hv : ctxNode = some ctx ∨ ctxNode = none) (hnode : s.node ctx ≠ none)
    (h : checkTextures env ctxNode n a s = .ok () t) :
    ∃ evs, TexturesLog env s.mem ctx n a evs ∧ Did env s t evs := by
  induction n generalizing a s with
  | zero =>
    cases h
    exact ⟨[], rfl, Did.refl hs⟩
  | succ n ih =>
    obtain ⟨_, s₁, h₁, h₂⟩ := bind_eq_ok.mp h
    obtain ⟨evs₁, hlog₁, hd₁, hmem₁⟩ := checkTexture_ok hs hv hnode h₁
    obtain ⟨evs₂, hlog₂, hd₂⟩ := ih hd₁.inv (hd₁.nodes _ hnode) h₂
    rw [hmem₁] at hlog₂
    exact ⟨_, ⟨evs₁, evs₂, hlog₁, hlog₂, rfl⟩, hd₁.trans hd₂⟩

theorem vmwCmdTexState_ok (hs : Inv env s) (h : vmwCmdTexState env p s = .ok () t) :
    ∃ evs, TexStateLog env s.mem p evs ∧ Logged env s t evs := by
  obtain ⟨size, s₁, hload, h⟩ := bind_eq_ok.mp h
  obtain ⟨rfl, hd₁⟩ := load_ok hs hload
  have hmem₁ : s₁.mem = s.mem := hd₁.mem
  obtain ⟨ctxNode, s₂, hctx, h⟩ := bind_eq_ok.mp h
  obtain ⟨ctx, hname, hd₂, hmem₂, hnode, hv⟩ := contextNode_ok hd₁.inv hctx
  obtain ⟨evs, hlog, hd₃⟩ := checkTextures_ok hd₂.inv hv hnode h
  rw [hmem₁] at hname hmem₂
  rw [hmem₂] at hlog
  exact ⟨_, ⟨ctx, evs, hname, hlog, rfl⟩, ((hd₁.trans hd₂).trans hd₃).toLogged⟩

/-- The backup buffer of a node is none of the log's business. -/
theorem switchBackup_did (hs : Inv env s) (res : ResId) (dmaBuf : BufId) (backupOffset : Nat) :
    Did env s
      (match s.node res with
      | some n =>
        let s := match n.newBackup with
          | some old => s.addBufRef old (-1)
          | none => s
        s.setNode res { n with
          noBufferNeeded := n.firstUsage || n.noBufferNeeded
          newBackup := some dmaBuf
          newBackupOffset := backupOffset }
      | none => s) [] := by
  cases hn : s.node res with
  | none => exact Did.refl hs
  | some n =>
    obtain ⟨newBackup, stagedBindings, newBackupOffset, firstUsage, noBufferNeeded⟩ := n
    cases newBackup with
    | none => exact hs.setNode hn rfl
    | some old =>
      have hd := (same_addBufRef s old (-1)).did hs
      exact hd.trans (hd.inv.setNode hn rfl)

theorem vmwCmdSwitchBackup_ok {resType : ResType} {resId bufId backupOffset : Nat}
    (hs : Inv env s) (hty : resType ≠ .context)
    (h : vmwCmdSwitchBackup env resType resId bufId backupOffset s = .ok () t) :
    ∃ evs, BackupLog env s.mem resType resId bufId evs ∧ Did env s t evs := by
  obtain ⟨valNode, s₁, hcheck, h⟩ := bind_eq_ok.mp h
  obtain ⟨hname, hd₁, hmem₁, _⟩ := resNode_ok hs hty hcheck
  obtain ⟨dmaBuf, s₂, hmob, h⟩ := bind_eq_ok.mp h
  obtain ⟨evs, hlog, hd₂⟩ := translateMob_ok hd₁.inv hmob
  rw [hmem₁] at hlog
  cases valNode with
  | none => cases h
  | some res =>
    cases h
    have hd₃ := switchBackup_did hd₂.inv res dmaBuf backupOffset
    have hd := hd₁.trans (hd₂.trans hd₃)
    rw [List.append_nil] at hd
    exact ⟨_, ⟨res, evs, hname, hlog, rfl⟩, hd⟩

theorem vmwCmdBindGbShader_ok (hs : Inv env s) (h : vmwCmdBindGbShader env p s = .ok () t) :
    ∃ evs, (∃ evs', BackupLog env s.mem .shader (p + 8) (p + 12) evs' ∧
      evs = .read (p + 16) 4 :: evs') ∧ Logged env s t evs := by
  obtain ⟨offset, s₁, hload, h⟩ := bind_eq_ok.mp h
  obtain ⟨_, hd₁⟩ := load_ok hs hload
  have hmem₁ : s₁.mem = s.mem := hd₁.mem
  obtain ⟨evs, hlog, hd₂⟩ := vmwCmdSwitchBackup_ok hd₁.inv (by decide) h
  rw [hmem₁] at hlog
  exact ⟨_, ⟨evs, hlog, rfl⟩, (hd₁.trans hd₂).toLogged⟩

theorem vmwCmdSetShaderConst_ok (hs : Inv env s) (h : vmwCmdSetShaderConst env p s = .ok () t) :
    ∃ evs, ShaderConstLog env s.mem p evs ∧ Logged env s t evs := by
  obtain ⟨_, s₁, hcid, h⟩ := bind_eq_ok.mp h
  obtain ⟨evs, hlog, hd₁, _⟩ := checkHandle_ok hs hcid
  refine ⟨_, ⟨evs, hlog, rfl⟩, ?_⟩
  split at h
  · next hmob =>
    rw [if_pos hmob]
    exact (hd₁.trans (store_ok hd₁.inv h)).toLogged
  · next hmob =>
    cases h
    rw [if_neg hmob, List.append_nil]
    exact hd₁.toLogged

theorem runShaders_ok {α : Type} {r : Option (α × ShaderWorld hashLong)} {v : α}
    (hs : Inv env s) (h : runShaders r s = .ok v t) :
    (∃ w, r = some (v, w) ∧ t = { s with shaders := w }) ∧ Logged env s t [] := by
  cases r with
  | none => cases h
  | some r =>
    obtain ⟨a, w⟩ := r
    obtain ⟨_, s₁, hupd, h⟩ := bind_eq_ok.mp h
    cases hupd
    cases h
    exact ⟨⟨w, rfl, rfl⟩, ⟨{ hs with }, (List.append_nil _).symm, rfl, fun _ hr => hr⟩⟩

theorem resOf_ok {valNode : Option ResId} {r : ResId} (h : resOf valNode s = .ok r t) :
    valNode = some r ∧ s = t := by
  cases valNode with
  | none => cases h
  | some res =>
    cases h
    exact ⟨rfl, rfl⟩

theorem vmwCmdShaderDefine_ok (hs : Inv env s) (h : vmwCmdShaderDefine env p s = .ok () t) :
    ∃ evs, ShaderLog env s.mem p [.read (p + 4) 4, .read (p + 12) 4, .read (p + 16) 4,
      .read (p + 20) (sub64 (s.mem.read32 (p + 4)) 12)] evs ∧ Logged env s t evs := by
  obtain ⟨val, s₁, hcheck, h⟩ := bind_eq_ok.mp h
  obtain ⟨ctx, hname, hd₁, hmem₁, _⟩ := contextNode_ok hs hcheck
  refine ⟨_, ⟨ctx, hname, rfl⟩, ?_⟩
  split at h
  · next hmob =>
    cases h
    rw [if_neg (by simpa using hmob), List.append_nil]
    exact hd₁.toLogged
  · next hmob =>
    rw [if_pos (by simpa using hmob)]
    obtain ⟨size, s₂, hload, h⟩ := bind_eq_ok.mp h
    obtain ⟨rfl, hd₂⟩ := load_ok hd₁.inv hload
    obtain ⟨c, s₃, hres, h⟩ := bind_eq_ok.mp h
    obtain ⟨_, rfl⟩ := resOf_ok hres
    obtain ⟨shid, s₄, hload, h⟩ := bind_eq_ok.mp h
    obtain ⟨rfl, hd₄⟩ := load_ok hd₂.inv hload
    obtain ⟨type, s₅, hload, h⟩ := bind_eq_ok.mp h
    obtain ⟨rfl, hd₅⟩ := load_ok hd₄.inv hload
    obtain ⟨outcome, s₆, hask, h⟩ := bind_eq_ok.mp h
    have hd₆ := (ask_ok hd₅.inv hask).2
    obtain ⟨w, s₇, hworld, h⟩ := bind_eq_ok.mp h
    cases hworld
    obtain ⟨ret, s₈, hrun, h⟩ := bind_eq_ok.mp h
    obtain ⟨_, hd₈⟩ := runShaders_ok hd₆.inv hrun
    obtain ⟨_, s₉, hcheck, h⟩ := bind_eq_ok.mp h
    obtain ⟨_, rfl⟩ := check_ok.mp hcheck
    obtain ⟨_, s₁₀, hlog, h⟩ := bind_eq_ok.mp h
    rw [hmem₁] at hlog
    have hd₁₀ := logRead_ok hd₈.inv hlog
    have hd₁₁ := (vmwResourceRelocationAdd_ok hd₁₀.inv h).1
    exact (hd₁.trans ((hd₂.trans hd₄).trans (hd₅.trans hd₆))).toLogged.trans
      (hd₈.trans (hd₁₀.trans hd₁₁).toLogged)

theorem vmwCmdShaderDestroy_ok (hs : Inv env s) (h : vmwCmdShaderDestroy env p s = .ok () t) :
    ∃ evs, ShaderLog env s.mem p [.read (p + 12) 4, .read (p + 16) 4] evs ∧
      Logged env s t evs := by
  obtain ⟨val, s₁, hcheck, h⟩ := bind_eq_ok.mp h
  obtain ⟨ctx, hname, hd₁, hmem₁, _⟩ := contextNode_ok hs hcheck
  refine ⟨_, ⟨ctx, hname, rfl⟩, ?_⟩
  split at h
  · next hmob =>
    cases h
    rw [if_neg (by simpa using hmob), List.append_nil]
    exact hd₁.toLogged
  · next hmob =>
    rw [if_pos (by simpa using hmob)]
    obtain ⟨c, s₂, hres, h⟩ := bind_eq_ok.mp h
    obtain ⟨_, rfl⟩ := resOf_ok hres
    obtain ⟨shid, s₃, hload, h⟩ := bind_eq_ok.mp h
    obtain ⟨rfl, hd₃⟩ := load_ok hd₁.inv hload
    obtain ⟨type, s₄, hload, h⟩ := bind_eq_ok.mp h
    obtain ⟨rfl, hd₄⟩ := load_ok hd₃.inv hload
    obtain ⟨w, s₅, hworld, h⟩ := bind_eq_ok.mp h
    cases hworld
    obtain ⟨ret, s₆, hrun, h⟩ := bind_eq_ok.mp h
    obtain ⟨_, hd₆⟩ := runShaders_ok hd₄.inv hrun
    obtain ⟨_, s₇, hcheck, h⟩ := bind_eq_ok.mp h
    obtain ⟨_, rfl⟩ := check_ok.mp hcheck
    have hd₇ := (vmwResourceRelocationAdd_ok hd₆.inv h).1
    exact (hd₁.trans (hd₃.trans hd₄)).toLogged.trans (hd₆.trans hd₇.toLogged)

/-- A lookup counts a reference, and that is all. -/
theorem vmwCompatShaderLookup_world {w w' : ShaderWorld hashLong} {man : Cmdbuf.ManId}
    {userKey shaderType : UInt32} {r : Except Int ResId}
    (h : vmwCompatShaderLookup w man userKey shaderType = some (r, w')) :
    ∃ kref, w' = { w with world.kref := kref } := by
  unfold vmwCompatShaderLookup at h
  split at h
  · cases h
    exact ⟨_, rfl⟩
  · obtain ⟨⟨r', world⟩, hlookup, heq⟩ := Option.map_eq_some_iff.mp h
    cases heq
    unfold Cmdbuf.vmwCmdbufResLookup at hlookup
    split at hlookup
    · cases hlookup
      exact ⟨_, rfl⟩
    · split at hlookup
      · cases hlookup
        exact ⟨_, rfl⟩
      · cases hlookup

theorem compatShaderNode_ok {ctx : ResId} {v : Option ResId} (hs : Inv env s)
    (h : compatShaderNode env p ctx s = .ok v t) :
    ∃ reads, .read (p + 16) 4 ∈ reads ∧
      (∀ e ∈ reads, e = .read (p + 16) 4 ∨ e = .read (p + 12) 4) ∧
      Did env s t (reads ++
        (v.map (fun res => Event.resReloc ⟨some res, env.offset (p + 16)⟩)).toList) ∧
      (v ≠ none → s.mem.read32 (p + 16) ≠ svga3dInvalidId ∧
        compatShader s.shaders (env.resMan ctx) (s.mem.read32 (p + 16))
          (s.mem.read32 (p + 12)) = v) := by
  obtain ⟨shid, s₁, hload, h⟩ := bind_eq_ok.mp h
  obtain ⟨rfl, hd₁⟩ := load_ok hs hload
  have hworld₁ : s₁.shaders = s.shaders := by
    cases hload
    rfl
  split at h
  · cases h
    refine ⟨[.read (p + 16) 4], by simp, by simp, hd₁, fun hne => absurd rfl hne⟩
  · next hvalid =>
    obtain ⟨type, s₂, hload, h⟩ := bind_eq_ok.mp h
    obtain ⟨rfl, hd₂⟩ := load_ok hd₁.inv hload
    have hmem₁ : s₁.mem = s.mem := hd₁.mem
    rw [hmem₁] at h
    obtain ⟨w, s₃, hworld, h⟩ := bind_eq_ok.mp h
    have hw : s.shaders = w ∧ s₂ = s₃ := by
      cases hload
      cases hworld
      exact ⟨hworld₁.symm, rfl⟩
    obtain ⟨rfl, rfl⟩ := hw
    obtain ⟨res, s₄, hrun, h⟩ := bind_eq_ok.mp h
    obtain ⟨⟨w', hlookup, hs₄⟩, hd₄⟩ := runShaders_ok hd₂.inv hrun
    have hd₄' : Did env s₂ s₄ [] := by
      refine ⟨hd₄, ?_⟩
      obtain ⟨kref, hk⟩ := vmwCompatShaderLookup_world hlookup
      have hworld₂ : s₂.shaders = s.shaders := by
        cases hload
        exact hworld₁
      rw [hs₄, hworld₂]
      exact ⟨kref, hk⟩
    have hd := hd₁.trans (hd₂.trans hd₄')
    cases res with
    | error e =>
      cases h
      exact ⟨[.read (p + 16) 4, .read (p + 12) 4], by simp, by simp, hd, fun hne => absurd rfl hne⟩
    | ok res =>
      obtain ⟨node, s₅, hadd, h⟩ := bind_eq_ok.mp h
      obtain ⟨hd₅, _, hv⟩ := vmwCmdResRelocAdd_ok hd₄.inv (onError_ok.mp hadd)
      obtain ⟨_, s₆, hupd, h⟩ := bind_eq_ok.mp h
      cases hupd
      cases h
      have hd₆ := (same_unreference s₅ res).did hd₅.inv
      cases hv with
      | inr hv => cases hv.2
      | inl hv =>
        subst hv
        refine ⟨[.read (p + 16) 4, .read (p + 12) 4], by simp, by simp,
          hd.trans (hd₅.trans hd₆), fun _ => ⟨hvalid, ?_⟩⟩
        unfold compatShader
        rw [hlookup]

/-- The node of the shader to set: a compat shader's, or else the one of the handle. -/
theorem shaderNode_ok {ctx : ResId} {compat v : Option ResId} {s₁ : State hashLong}
    (hs : Inv env s) (hcompat : compatShaderNode env p ctx s = .ok compat s₁)
    (h : (v = compat ∧ v ≠ none ∧ t = s₁) ∨
      vmwCmdResCheck env .shader (p + 16) s₁ = .ok v t ∧ compat = none) :
    ∃ reads, .read (p + 16) 4 ∈ reads ∧
      (∀ e ∈ reads, e = .read (p + 16) 4 ∨ e = .read (p + 12) 4) ∧
      Did env s t (reads ++
        (v.map (fun res => Event.resReloc ⟨some res, env.offset (p + 16)⟩)).toList) ∧
      ShaderNamed env s.shaders ctx (s.mem.read32 (p + 16)) (s.mem.read32 (p + 12)) v ∧
      t.mem = s.mem := by
  obtain ⟨reads, hmem, hreads, hd₁, hshader⟩ := compatShaderNode_ok hs hcompat
  have hnowrite : ∀ (v : Option ResId),
      (v.map (fun res => Event.resReloc ⟨some res, env.offset (p + 16)⟩)).toList.filterMap
        Event.write? = [] := by
    intro v
    cases v with
    | none => rfl
    | some res => rfl
  have hreadsw : reads.filterMap Event.write? = [] := by
    rw [List.filterMap_eq_nil_iff]
    intro e he
    cases hreads e he with
    | inl h => rw [h]; rfl
    | inr h => rw [h]; rfl
  have hmem₁ : s₁.mem = s.mem := by
    apply hd₁.mem_eq
    rw [List.filterMap_append, hreadsw, hnowrite]
    rfl
  cases h with
  | inl h =>
    obtain ⟨rfl, hne, rfl⟩ := h
    obtain ⟨hvalid, hres⟩ := hshader hne
    exact ⟨reads, hmem, hreads, hd₁, .inr ⟨hvalid, hne, _, hres⟩, hmem₁⟩
  | inr h =>
    obtain ⟨hcheck, rfl⟩ := h
    obtain ⟨hname, hd₂, hmem₂, _⟩ := resNode_ok hd₁.inv (by decide) hcheck
    rw [hmem₁] at hname hmem₂
    refine ⟨reads ++ [.read (p + 16) 4], ?_, ?_, ?_, .inl hname, hmem₂⟩
    · exact List.mem_append_left _ hmem
    · intro e he
      cases List.mem_append.mp he with
      | inl he => exact hreads e he
      | inr he => exact .inl (List.mem_singleton.mp he)
    · have hd := hd₁.trans hd₂
      simp only [Option.map_none, Option.toList_none, List.append_nil] at hd
      rw [List.append_assoc]
      exact hd

theorem vmwCmdSetShader_ok (hs : Inv env s) (h : vmwCmdSetShader env p s = .ok () t) :
    ∃ evs, SetShaderLog env s.mem s.shaders p evs ∧ Logged env s t evs := by
  obtain ⟨ctxNode, s₁, hctx, h⟩ := bind_eq_ok.mp h
  obtain ⟨ctx, hname, hd₁, hmem₁, hnode₁, hv⟩ := contextNode_ok hs hctx
  unfold SetShaderLog
  split at h
  · next hmob =>
    cases h
    have hmob : ¬ env.hasMob = true := by simpa using hmob
    simp only [hmob, Bool.false_eq_true, if_false]
    exact ⟨_, ⟨ctx, hname, rfl⟩, hd₁.toLogged⟩
  · next hmob =>
    have hmob : env.hasMob = true := by simpa using hmob
    simp only [hmob, if_true]
    obtain ⟨c, s₂, hres, h⟩ := bind_eq_ok.mp h
    obtain ⟨hc, rfl⟩ := resOf_ok hres
    have hcc : c = ctx := by
      cases hv with
      | inl hv =>
        rw [hv] at hc
        cases hc
        rfl
      | inr hv =>
        rw [hv] at hc
        cases hc
    rw [hcc] at h hc
    obtain ⟨compat, s₃, hcompat, h⟩ := bind_eq_ok.mp h
    have hbind : ∃ resNode s₄, ((resNode = compat ∧ resNode ≠ none ∧ s₄ = s₃) ∨
        vmwCmdResCheck env .shader (p + 16) s₃ = .ok resNode s₄ ∧ compat = none) ∧
        (do
          let type ← load (p + 12)
          let ret ← vmwContextBindingAdd ctxNode resNode .shader type
          check ret) s₄ = .ok () t := by
      cases compat with
      | some res => exact ⟨_, _, .inl ⟨rfl, Option.some_ne_none _, rfl⟩, h⟩
      | none =>
        obtain ⟨resNode, s₄, hnode, h⟩ := bind_eq_ok.mp h
        exact ⟨resNode, s₄, .inr ⟨hnode, rfl⟩, h⟩
    obtain ⟨resNode, s₄, hnode, h⟩ := hbind
    obtain ⟨reads, hmem, hreads, hd₄, hnamed, hmem₄⟩ := shaderNode_ok hd₁.inv hcompat hnode
    obtain ⟨type, s₅, hload, h⟩ := bind_eq_ok.mp h
    obtain ⟨rfl, hd₅⟩ := load_ok hd₄.inv hload
    obtain ⟨ret, s₆, hadd, h⟩ := bind_eq_ok.mp h
    obtain ⟨hret, rfl⟩ := check_ok.mp h
    have hnode₅ : ∀ c', ctxNode = some c' → s₅.node c' ≠ none := by
      intro c' hc'
      rw [hc] at hc'
      cases hc'
      exact hd₅.nodes _ (hd₄.nodes _ hnode₁)
    obtain ⟨c', hc', hd₆⟩ := vmwContextBindingAdd_ok hd₅.inv hnode₅ hadd (fun _ => hret)
    rw [hc] at hc'
    cases hc'
    rw [hmem₄, hmem₁] at hd₆
    obtain ⟨kref, hworld⟩ := hd₁.shaders
    rw [hmem₁, hworld] at hnamed
    refine ⟨_, ⟨ctx, hname, resNode, reads, hnamed, hmem, hreads, rfl⟩, ?_⟩
    have hd := (hd₁.trans hd₄).trans (hd₅.trans hd₆)
    rw [List.append_assoc (handleEvents env (p + 8) (some ctx))]
    exact hd.toLogged

theorem clampMaximumOffset_ok {loc boSize : Nat} (hs : Inv env s)
    (h : clampMaximumOffset loc boSize s = .ok () t) :
    Did env s t (.read loc 4 :: if s.mem.read32 loc > boSize then [.write loc boSize] else []) ∧
      t.resCache = s.resCache ∧ t.tick = s.tick := by
  obtain ⟨maximumOffset, s₁, hload, h⟩ := bind_eq_ok.mp h
  obtain ⟨rfl, hd₁⟩ := load_ok hs hload
  split at h
  · next hgt =>
    rw [if_pos hgt]
    refine ⟨hd₁.trans (store_ok hd₁.inv h), ?_⟩
    cases hload
    cases h
    exact ⟨rfl, rfl⟩
  · next hle =>
    cases h
    rw [if_neg hle]
    refine ⟨hd₁, ?_⟩
    cases hload
    exact ⟨rfl, rfl⟩

theorem vmwKmsCursorSnoop_ok {srf : ResId} (hs : Inv env s)
    (h : vmwKmsCursorSnoop env srf p s = .ok () t) :
    Did env s t (if env.snooper srf then snoopEvents s.mem p else []) := by
  unfold vmwKmsCursorSnoop at h
  split at h
  · next hsnoop =>
    rw [if_pos hsnoop]
    unfold snoopEvents
    obtain ⟨face, s₁, hload, h⟩ := bind_eq_ok.mp h
    obtain ⟨rfl, hd₁⟩ := load_ok hs hload
    have hmem₁ : s₁.mem = s.mem := hd₁.mem
    split at h
    · next hface =>
      cases h
      rw [if_pos hface]
      exact hd₁
    · next hface =>
      rw [if_neg hface]
      obtain ⟨mipmap, s₂, hload, h⟩ := bind_eq_ok.mp h
      obtain ⟨rfl, hd₂⟩ := load_ok hd₁.inv hload
      have hmem₂ : s₂.mem = s.mem := hd₂.mem.trans hmem₁
      rw [hmem₁] at h
      split at h
      · next hmip =>
        cases h
        rw [if_pos hmip]
        exact hd₁.trans hd₂
      · next hmip =>
        rw [if_neg hmip]
        obtain ⟨size, s₃, hload, h⟩ := bind_eq_ok.mp h
        obtain ⟨rfl, hd₃⟩ := load_ok hd₂.inv hload
        rw [hmem₂] at h
        split at h
        · next hsize =>
          cases h
          rw [if_pos hsize]
          exact hd₁.trans (hd₂.trans hd₃)
        · next hsize =>
          rw [if_neg hsize]
          obtain ⟨_, s₄, hlog, h⟩ := bind_eq_ok.mp h
          have hd₄ := logRead_ok hd₃.inv hlog
          exact (hd₁.trans (hd₂.trans hd₃)).trans (hd₄.trans (logRead_ok hd₄.inv h))
  · next hsnoop =>
    cases h
    rw [if_neg hsnoop]
    exact Did.refl hs

theorem vmwCmdDmaCheck_ok {bo : BufId} {srf : Option ResCacheEntry} (hs : Inv env s)
    (h : vmwCmdDmaCheck env p s = .ok (bo, srf) t) :
    dmaBuffer env s p = some bo ∧ s.mem.read32 (dmaSuffix s.mem p) = 12 ∧
      s.mem.read32 (p + 12) ≤ env.numPages bo * pageSize % 2 ^ 32 ∧
      Named env .surface ((dmaMem env s.mem p bo).read32 (p + 20)) (dmaHandle env s p bo) ∧
      srf.map (·.res) = dmaSurface env s p bo ∧
      Did env s t ([.read (p + 4) 4, .read (dmaSuffix s.mem p) 4, .read (p + 8) 4,
        .guestReloc (p + 8) bo, .read (p + 12) 4, .read (dmaSuffix s.mem p + 4) 4] ++
        clampEvents env s.mem p bo ++ handleEvents env (p + 20) (dmaHandle env s p bo)) ∧
      t.mem = dmaMem env s.mem p bo := by
  obtain ⟨size, s₁, hload, h⟩ := bind_eq_ok.mp h
  obtain ⟨rfl, hd₁⟩ := load_ok hs hload
  have hsame₁ : s₁.mem = s.mem ∧ s₁.resCache = s.resCache ∧ s₁.tick = s.tick := by
    cases hload
    exact ⟨rfl, rfl, rfl⟩
  obtain ⟨hmem₁, hcache₁, htick₁⟩ := hsame₁
  obtain ⟨suffixSize, s₂, hload, h⟩ := bind_eq_ok.mp h
  obtain ⟨rfl, hd₂⟩ := load_ok hd₁.inv hload
  have hsame₂ : s₂.mem = s.mem ∧ s₂.resCache = s.resCache ∧ s₂.tick = s.tick := by
    cases hload
    exact ⟨hmem₁, hcache₁, htick₁⟩
  obtain ⟨hmem₂, hcache₂, htick₂⟩ := hsame₂
  rw [hmem₁] at h
  split at h
  · cases h
  · next hsuffix =>
    obtain ⟨bo', s₃, htrans, h⟩ := bind_eq_ok.mp h
    obtain ⟨hd₃, hname, hcache₃, htick₃⟩ := vmwTranslateGuestPtr_ok hd₂.inv htrans
    have hmem₃ : s₃.mem = s.mem := hd₃.mem.trans hmem₂
    rw [hmem₂, htick₂] at hname
    obtain ⟨offset, s₄, hload, h⟩ := bind_eq_ok.mp h
    obtain ⟨rfl, hd₄⟩ := load_ok hd₃.inv hload
    have hsame₄ : s₄.mem = s.mem ∧ s₄.resCache = s.resCache ∧ s₄.tick = s.tick + 1 := by
      cases hload
      exact ⟨hmem₃, hcache₃.trans hcache₂, htick₃.trans (congrArg (· + 1) htick₂)⟩
    obtain ⟨hmem₄, hcache₄, htick₄⟩ := hsame₄
    rw [hmem₃] at h
    split at h
    · cases h
    · next hoffset =>
      obtain ⟨_, s₅, hclamp, h⟩ := bind_eq_ok.mp h
      obtain ⟨hd₅, hcache₅, htick₅⟩ := clampMaximumOffset_ok hd₄.inv hclamp
      rw [hmem₄] at hd₅
      obtain ⟨_, s₆, hcheck, h⟩ := bind_eq_ok.mp h
      obtain ⟨v, s₇, hcheck, hv⟩ := bind_eq_ok.mp (onError_ok.mp hcheck)
      cases hv
      obtain ⟨r, hr⟩ := vmwCmdResCheck_ok hd₅.inv hcheck
      obtain ⟨srf', s₈, hsrf, h⟩ := bind_eq_ok.mp h
      cases hsrf
      cases h
      have hmem₅ : s₅.mem = dmaMem env s.mem p bo := by
        rw [hd₅.mem, hmem₄]
        rfl
      have hnow : r = dmaHandle env s p bo := by
        rw [hr.now, hmem₅]
        unfold dmaHandle namedNow
        rw [hcache₅, hcache₄, htick₅, htick₄]
      refine ⟨hname, Classical.not_not.mp hsuffix, Nat.le_of_not_lt hoffset, ?_, ?_, ?_, ?_⟩
      · rw [← hnow, ← hmem₅]
        exact hr.named
      · unfold dmaSurface
        rw [← hnow]
        cases hres : r with
        | some res =>
          obtain ⟨rcache, hrc, heq⟩ := hr.cached res hres
          rw [hrc, ← heq]
          rfl
        | none =>
          rw [hr.uncached hres, hcache₅, hcache₄]
      · rw [← hnow]
        exact ((hd₁.trans hd₂).trans (hd₃.trans hd₄)).trans (hd₅.trans hr.did)
      · rw [hr.did.mem_eq (handleEvents_write _ _), hmem₅]

theorem vmwCmdDma_ok (hs : Inv env s) (h : vmwCmdDma env p s = .ok () t) :
    ∃ evs, DmaLog env s p evs ∧ Logged env s t evs := by
  obtain ⟨⟨bo, srf⟩, s₁, hcheck, h⟩ := bind_eq_ok.mp h
  obtain ⟨hname, hsuffix, hoffset, hr, hsrf, hd₁, hmem₁⟩ := vmwCmdDmaCheck_ok hs hcheck
  cases srf with
  | none => cases h
  | some srf =>
    obtain ⟨_, s₂, hsnoop, h⟩ := bind_eq_ok.mp h
    cases h
    have hd₂ := vmwKmsCursorSnoop_ok hd₁.inv hsnoop
    rw [hmem₁] at hd₂
    exact ⟨_, ⟨bo, srf.res, hname, hsuffix, hoffset, hr, hsrf.symm, rfl⟩,
      ((hd₁.trans hd₂).same (same_addBufRef s₂ bo (-1))).toLogged⟩

/-- A handler that passes a command has logged it as its kind says. -/
theorem CmdFunc.run_ok {func : CmdFunc} (hs : Inv env s) (h : func.run env p s = .ok () t) :
    ∃ evs, func.Log env s p evs ∧ Logged env s t evs := by
  have hhandle : ∀ {resType : ResType} {idLoc : Nat},
      checkHandle env resType idLoc s = .ok () t →
        ∃ evs, HandleLog env s.mem resType idLoc evs ∧ Logged env s t evs := by
    intro resType idLoc h
    obtain ⟨evs, hlog, hd, _⟩ := checkHandle_ok hs h
    exact ⟨evs, hlog, hd.toLogged⟩
  cases func with
  | vmwCmdInvalid => cases h
  | vmwCmdOk =>
    cases h
    exact ⟨[], rfl, (Did.refl hs).toLogged⟩
  | vmwCmdSurfaceCopyCheck => exact two_checkHandle_ok hs h
  | vmwCmdStretchBltCheck => exact two_checkHandle_ok hs h
  | vmwCmdDma => exact vmwCmdDma_ok hs h
  | vmwCmdCidCheck => exact hhandle h
  | vmwCmdSetRenderTargetCheck => exact vmwCmdSetRenderTargetCheck_ok hs h
  | vmwCmdTexState => exact vmwCmdTexState_ok hs h
  | vmwCmdPresentCheck => exact hhandle h
  | vmwCmdShaderDefine => exact vmwCmdShaderDefine_ok hs h
  | vmwCmdShaderDestroy => exact vmwCmdShaderDestroy_ok hs h
  | vmwCmdSetShader => exact vmwCmdSetShader_ok hs h
  | vmwCmdSetShaderConst => exact vmwCmdSetShaderConst_ok hs h
  | vmwCmdDraw => exact vmwCmdDraw_ok hs h
  | vmwCmdBeginQuery => exact vmwCmdBeginQuery_ok hs h
  | vmwCmdEndQuery => exact vmwCmdEndQuery_ok hs h
  | vmwCmdWaitQuery => exact vmwCmdWaitQuery_ok hs h
  | vmwCmdBltSurfScreenCheck => exact hhandle h
  | vmwCmdBindGbSurface =>
    obtain ⟨evs, hlog, hd⟩ := vmwCmdSwitchBackup_ok hs (by decide) h
    exact ⟨evs, hlog, hd.toLogged⟩
  | vmwCmdUpdateGbImage => exact hhandle h
  | vmwCmdUpdateGbSurface => exact hhandle h
  | vmwCmdReadbackGbImage => exact hhandle h
  | vmwCmdReadbackGbSurface => exact hhandle h
  | vmwCmdInvalidateGbImage => exact hhandle h
  | vmwCmdInvalidateGbSurface => exact hhandle h
  | vmwCmdBindGbShader => exact vmwCmdBindGbShader_ok hs h
  | vmwCmdBeginGbQuery => exact hhandle h
  | vmwCmdEndGbQuery => exact endMob_ok hs h
  | vmwCmdWaitGbQuery => exact waitMob_ok hs h

end Handlers

end Vmwgfx.Execbuf
