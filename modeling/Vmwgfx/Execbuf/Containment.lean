import Vmwgfx.Execbuf.Batch

/-! Which commands the verifier looks at without leaving them. -/

namespace Vmwgfx.Execbuf

open Vmwgfx.Hashtab Vmwgfx.Lib

variable {hashLong : HashLong}

/-- What an event is about lies in the command of size `n` at `p`.  A guest pointer is both of
its words. -/
def Event.Within (env : Env) (p n : Nat) : Event → Prop
  | .read a len => p ≤ a ∧ a + len ≤ p + n
  | .write a _ => p ≤ a ∧ a + 4 ≤ p + n
  | .mobReloc a _ => p ≤ a ∧ a + 4 ≤ p + n
  | .guestReloc a _ => p ≤ a ∧ a + 8 ≤ p + n
  | .resReloc rel => ∃ a, rel.offset = env.offset a ∧ p ≤ a ∧ a + 4 ≤ p + n
  | .bind _ => True

def Contained (env : Env) (p n : Nat) (evs : List Event) : Prop := ∀ e ∈ evs, e.Within env p n

section Long

variable (env : Env) (s : State hashLong) (p n : Nat)

/-- The states of a texture state command: the last may be cut off before its value, if the
value is not looked at. -/
def TexturesLong : Prop :=
  (n - 12) % 12 = 0 ∨ 8 ≤ (n - 12) % 12 ∧
    s.mem.read32 (p + 12 + 12 * ((n - 12) / 12) + 4) ≠ svga3dTsBindTexture

/-- A surface with a cursor image is asked for the face and, for the first face, the mipmap. -/
def SnoopLong : Prop :=
  ∀ bo srf, dmaBuffer env s p = some bo → dmaSurface env s p bo = some srf → env.snooper srf →
    28 ≤ n ∧ ((dmaMem env s.mem p bo).read32 (p + 24) = 0 → 32 ≤ n)

/-- A command of `n` bytes at `p` has room for what its handler looks at. -/
def CmdFunc.LongEnough : CmdFunc → Prop
  | .vmwCmdInvalid => True
  | .vmwCmdSurfaceCopyCheck => 24 ≤ n
  | .vmwCmdStretchBltCheck => 24 ≤ n
  | .vmwCmdDma => 24 ≤ n ∧ SnoopLong env s p n
  | .vmwCmdCidCheck => 12 ≤ n
  | .vmwCmdSetRenderTargetCheck => 20 ≤ n
  | .vmwCmdTexState => 12 ≤ n ∧ TexturesLong s p n
  | .vmwCmdPresentCheck => 12 ≤ n
  | .vmwCmdShaderDefine => if env.hasMob then 20 ≤ n else 12 ≤ n
  | .vmwCmdShaderDestroy => if env.hasMob then 20 ≤ n else 12 ≤ n
  | .vmwCmdSetShader => if env.hasMob then 20 ≤ n else 12 ≤ n
  | .vmwCmdSetShaderConst => 12 ≤ n
  | .vmwCmdDraw => 20 ≤ n
  | .vmwCmdBeginQuery => if env.hasMob then 16 ≤ n else 12 ≤ n
  | .vmwCmdEndQuery => 24 ≤ n
  | .vmwCmdWaitQuery => 24 ≤ n
  | .vmwCmdOk => True
  | .vmwCmdBltSurfScreenCheck => 12 ≤ n
  | .vmwCmdBindGbSurface => 16 ≤ n
  | .vmwCmdUpdateGbImage => 12 ≤ n
  | .vmwCmdUpdateGbSurface => 12 ≤ n
  | .vmwCmdReadbackGbImage => 12 ≤ n
  | .vmwCmdReadbackGbSurface => 12 ≤ n
  | .vmwCmdInvalidateGbImage => 12 ≤ n
  | .vmwCmdInvalidateGbSurface => 12 ≤ n
  | .vmwCmdBindGbShader => 20 ≤ n
  | .vmwCmdBeginGbQuery => 12 ≤ n
  | .vmwCmdEndGbQuery => 20 ≤ n
  | .vmwCmdWaitGbQuery => 20 ≤ n

end Long

section Pieces

variable {env : Env} {m : Mem} {p n : Nat} {evs evs' : List Event}

@[simp] theorem contained_nil : Contained env p n [] := fun _ h => nomatch h

@[simp] theorem contained_cons {e : Event} :
    Contained env p n (e :: evs) ↔ e.Within env p n ∧ Contained env p n evs := List.forall_mem_cons

@[simp] theorem contained_append :
    Contained env p n (evs ++ evs') ↔ Contained env p n evs ∧ Contained env p n evs' := List.forall_mem_append

@[simp] theorem within_read {a len : Nat} :
    (Event.read a len).Within env p n ↔ p ≤ a ∧ a + len ≤ p + n := Iff.rfl

@[simp] theorem within_write {a v : Nat} :
    (Event.write a v).Within env p n ↔ p ≤ a ∧ a + 4 ≤ p + n := Iff.rfl

@[simp] theorem within_mobReloc {a : Nat} {bo : BufId} :
    (Event.mobReloc a bo).Within env p n ↔ p ≤ a ∧ a + 4 ≤ p + n := Iff.rfl

@[simp] theorem within_guestReloc {a : Nat} {bo : BufId} :
    (Event.guestReloc a bo).Within env p n ↔ p ≤ a ∧ a + 8 ≤ p + n := Iff.rfl

theorem within_resReloc {res : Option ResId} {a : Nat} (h : p ≤ a ∧ a + 4 ≤ p + n) :
    (Event.resReloc ⟨res, env.offset a⟩).Within env p n := ⟨a, rfl, h⟩

@[simp] theorem within_bind {bi : Binding.Bindinfo} : (Event.bind bi).Within env p n := trivial

@[simp] theorem contained_handleEvents {a : Nat} {r : Option ResId} :
    Contained env p n (handleEvents env a r) ↔ p ≤ a ∧ a + 4 ≤ p + n := by
  cases r with
  | none => simp [handleEvents]
  | some r =>
    constructor
    · intro h
      exact (contained_cons.mp h).1
    · intro h
      exact contained_cons.mpr ⟨h, contained_cons.mpr ⟨within_resReloc h, contained_nil⟩⟩

@[simp] theorem contained_bindEvents {ctx : ResId} {r : Option ResId} {bt : Binding.BindingType}
    {a : Nat} : Contained env p n (bindEvents m ctx r bt a) ↔ p ≤ a ∧ a + 4 ≤ p + n := by
  simp [bindEvents]

theorem HandleLog.contained {resType : ResType} {a : Nat} (h : HandleLog env m resType a evs) :
    Contained env p n evs ↔ p ≤ a ∧ a + 4 ≤ p + n := by
  obtain ⟨r, _, rfl⟩ := h
  exact contained_handleEvents

theorem MobLog.contained {a : Nat} (h : MobLog env m a evs) :
    Contained env p n evs ↔ p ≤ a ∧ a + 4 ≤ p + n := by
  obtain ⟨bo, tick, _, rfl⟩ := h
  simp

theorem GuestLog.contained {a : Nat} (h : GuestLog env m a evs) :
    Contained env p n evs ↔ p ≤ a ∧ a + 8 ≤ p + n := by
  obtain ⟨bo, tick, _, rfl⟩ := h
  rw [contained_cons, contained_cons, within_read, within_guestReloc]
  constructor
  · intro hc
    exact hc.2.1
  · intro hc
    exact ⟨⟨hc.1, by omega⟩, hc, contained_nil⟩

theorem contained_rewriteEvents {id : Nat} {ws : List Nat} :
    Contained env p n (rewriteEvents m p id ws) ↔
      4 ≤ n ∧ ∀ w ∈ ws, p ≤ w ∧ w + 4 ≤ p + n := by
  have hreads : Contained env p n (ws.map (fun w => Event.read w 4)) ↔
      ∀ w ∈ ws, p ≤ w ∧ w + 4 ≤ p + n := by
    induction ws with
    | nil => simp
    | cons w ws ih => simp [ih]
  have hwrites : ∀ ws' : List Nat,
      Contained env p n (ws'.map (fun w => Event.write w (m.read32 w))) ↔
        ∀ w ∈ ws', p ≤ w ∧ w + 4 ≤ p + n := by
    intro ws'
    induction ws' with
    | nil => simp
    | cons w ws' ih => simp [ih]
  unfold rewriteEvents
  rw [contained_append, contained_cons, hreads, hwrites, within_write]
  constructor
  · intro h
    exact ⟨by omega, h.1⟩
  · intro h
    refine ⟨h.2, ⟨Nat.le_refl p, by omega⟩, ?_⟩
    intro w hw
    exact h.2 w (List.mem_reverse.mp hw)

/-- The handles of an array that ends in the command. -/
theorem SurfacesLog.contained {stride cnt a : Nat} (h : SurfacesLog env m stride cnt a evs)
    (hp : p ≤ a) (hend : ∀ i < cnt, a + stride * i + 4 ≤ p + n) : Contained env p n evs := by
  induction cnt generalizing a evs with
  | zero =>
    rw [h]
    exact contained_nil
  | succ cnt ih =>
    obtain ⟨evs₁, evs₂, h₁, h₂, rfl⟩ := h
    rw [contained_append, h₁.contained]
    refine ⟨⟨hp, ?_⟩, ?_⟩
    · have := hend 0 (by omega)
      omega
    · apply ih h₂ (by omega)
      intro i hi
      have := hend (i + 1) (by omega)
      rw [Nat.mul_succ] at this
      omega

theorem TextureLog.contained {ctx : ResId} {a : Nat} (h : TextureLog env m ctx a evs)
    (hp : p ≤ a) : Contained env p n evs ↔ a + 8 ≤ p + n ∧
      (m.read32 (a + 4) = svga3dTsBindTexture → a + 12 ≤ p + n) := by
  unfold TextureLog at h
  split at h
  · next hname =>
    rw [h]
    simp only [contained_cons, within_read, contained_nil, and_true]
    constructor
    · intro hc
      exact ⟨by omega, fun heq => absurd heq hname⟩
    · intro hc
      omega
  · next hname =>
    obtain ⟨r, _, rfl⟩ := h
    have hname := Classical.not_not.mp hname
    have hbind : Contained env p n (if env.hasMob then bindEvents m ctx r .tex a else []) ↔
        (env.hasMob = true → p ≤ a ∧ a + 4 ≤ p + n) := by
      split
      · next hmob => simp [hmob]
      · next hmob => simp [hmob]
    rw [contained_append, contained_cons, within_read, contained_handleEvents, hbind]
    constructor
    · intro hc
      exact ⟨by omega, fun _ => by omega⟩
    · intro hc
      have := hc.2 hname
      exact ⟨⟨by omega, by omega⟩, fun _ => by omega⟩

theorem TexturesLog.contained {ctx : ResId} {cnt a : Nat} (h : TexturesLog env m ctx cnt a evs)
    (hp : p ≤ a) : Contained env p n evs ↔ ∀ i < cnt, a + 12 * i + 8 ≤ p + n ∧
      (m.read32 (a + 12 * i + 4) = svga3dTsBindTexture → a + 12 * i + 12 ≤ p + n) := by
  induction cnt generalizing a evs with
  | zero =>
    rw [h]
    simp
  | succ cnt ih =>
    obtain ⟨evs₁, evs₂, h₁, h₂, rfl⟩ := h
    rw [contained_append, h₁.contained hp, ih h₂ (by omega)]
    constructor
    · intro hc i hi
      cases i with
      | zero => exact hc.1
      | succ i =>
        have := hc.2 i (by omega)
        rw [show a + 12 * (i + 1) = a + 12 + 12 * i by omega]
        exact this
    · intro hc
      refine ⟨hc 0 (by omega), ?_⟩
      intro i hi
      have := hc (i + 1) (by omega)
      rw [show a + 12 * (i + 1) = a + 12 + 12 * i by omega] at this
      exact this

/-- A size word that does not wrap. -/
theorem add32_eight {size : Nat} (hsize : size < 2 ^ 32) (h : 8 ≤ add32 size 8) :
    add32 size 8 = size + 8 := by
  unfold add32 at h ⊢
  omega

end Pieces

section Handlers

variable {env : Env} {s : State hashLong} {p n : Nat} {evs : List Event}

theorem dmaMem_read32 {bo : BufId} {a : Nat}
    (h : a + 4 ≤ dmaSuffix s.mem p + 4 ∨ dmaSuffix s.mem p + 8 ≤ a) :
    (dmaMem env s.mem p bo).read32 a = s.mem.read32 a := by
  unfold dmaMem clampEvents
  split
  · exact Mem.read32_write32_of_disjoint h
  · rfl

theorem contained_snoopEvents {m : Mem} : Contained env p n (snoopEvents m p) ↔
    28 ≤ n ∧ (m.read32 (p + 24) = 0 → 32 ≤ n ∧ (m.read32 (p + 28) = 0 → 64 ≤ m.read32 (p + 4) →
      72 ≤ n)) := by
  unfold snoopEvents
  rw [contained_cons, within_read]
  split
  · next hface =>
    rw [and_iff_left contained_nil]
    exact ⟨fun h => ⟨by omega, fun h0 => absurd h0 hface⟩, fun h => by omega⟩
  · next hface =>
    have hface := Classical.not_not.mp hface
    rw [contained_cons, within_read]
    split
    · next hmip =>
      rw [and_iff_left contained_nil]
      exact ⟨fun h => ⟨by omega, fun _ => ⟨by omega, fun h0 => absurd h0 hmip⟩⟩,
        fun h => ⟨by omega, by have := (h.2 hface).1; omega⟩⟩
    · next hmip =>
      have hmip := Classical.not_not.mp hmip
      rw [contained_cons, within_read]
      split
      · next hsize =>
        rw [and_iff_left contained_nil]
        exact ⟨fun h => ⟨by omega, fun _ => ⟨by omega, fun _ h64 => by omega⟩⟩,
          fun h => ⟨by omega, by have := (h.2 hface).1; omega⟩⟩
      · next hsize =>
        rw [contained_cons, contained_cons, within_read, within_read, and_iff_left contained_nil]
        constructor
        · intro h
          exact ⟨by omega, fun _ => ⟨by omega, fun _ _ => by omega⟩⟩
        · intro h
          have := (h.2 hface).2 hmip (by omega)
          omega

theorem DmaLog.contained (h : DmaLog env s p evs) (hn : n = add32 (s.mem.read32 (p + 4)) 8) :
    Contained env p n evs ↔ 24 ≤ n ∧ SnoopLong env s p n := by
  obtain ⟨bo, srf, hbo, _, _, _, hsrf, rfl⟩ := h
  have hlt := Mem.read32_lt s.mem (p + 4)
  -- up to the cursor the command has to hold its body
  have hbody : 24 ≤ n → Contained env p n ([.read (p + 4) 4, .read (dmaSuffix s.mem p) 4,
      .read (p + 8) 4, .guestReloc (p + 8) bo, .read (p + 12) 4,
      .read (dmaSuffix s.mem p + 4) 4] ++ clampEvents env s.mem p bo) ∧
      s.mem.read32 (p + 4) + 8 = n ∧ dmaSuffix s.mem p + 4 = p + s.mem.read32 (p + 4) := by
    intro h24
    have hsize := add32_eight hlt (hn ▸ (by omega))
    rw [← hn] at hsize
    have hsuffix : dmaSuffix s.mem p + 4 = p + s.mem.read32 (p + 4) := by
      unfold dmaSuffix
      omega
    have hclamp : Contained env p n (clampEvents env s.mem p bo) := by
      unfold clampEvents
      split
      · rw [contained_cons, within_write]
        exact ⟨⟨by omega, by omega⟩, contained_nil⟩
      · exact contained_nil
    refine ⟨?_, hsize.symm, hsuffix⟩
    rw [contained_append]
    refine ⟨?_, hclamp⟩
    simp only [contained_cons, within_read, within_guestReloc, contained_nil, and_true]
    omega
  rw [contained_append, contained_append, contained_handleEvents]
  constructor
  · intro h
    have h24 : 24 ≤ n := by omega
    refine ⟨h24, ?_⟩
    intro bo' srf' hbo' hsrf' hsnoop
    rw [hbo] at hbo'
    cases hbo'
    rw [hsrf] at hsrf'
    cases hsrf'
    have hc := h.2
    rw [if_pos hsnoop, contained_snoopEvents] at hc
    exact ⟨hc.1, fun h0 => (hc.2 h0).1⟩
  · intro h
    obtain ⟨hb, hsize, hsuffix⟩ := hbody h.1
    refine ⟨⟨hb, by omega, by omega⟩, ?_⟩
    split
    · next hsnoop =>
      obtain ⟨h28, h32⟩ := h.2 bo srf hbo hsrf hsnoop
      rw [contained_snoopEvents]
      refine ⟨h28, fun h0 => ⟨h32 h0, ?_⟩⟩
      intro _ h64
      rw [dmaMem_read32 (.inl (by omega))] at h64
      omega
    · exact contained_nil

theorem TexStateLog.contained (h : TexStateLog env s.mem p evs)
    (hn : n = add32 (s.mem.read32 (p + 4)) 8) :
    Contained env p n evs ↔ 12 ≤ n ∧ TexturesLong s p n := by
  obtain ⟨ctx, evs', _, htex, rfl⟩ := h
  have hlt := Mem.read32_lt s.mem (p + 4)
  rw [contained_append, contained_cons, within_read, contained_handleEvents,
    htex.contained (by omega)]
  unfold TexturesLong
  have hsize : 12 ≤ n → s.mem.read32 (p + 4) + 8 = n := by
    intro h12
    have := add32_eight hlt (hn ▸ (by omega))
    omega
  constructor
  · intro hc
    have h12 : 12 ≤ n := by omega
    refine ⟨h12, ?_⟩
    by_cases hr : (n - 12) % 12 = 0
    · exact .inl hr
    · -- the last state is cut off
      have hlast := hc.2 ((n - 12) / 12) (by have := hsize h12; omega)
      refine .inr ⟨by omega, ?_⟩
      intro hname
      have := hlast.2 hname
      omega
  · intro hc
    have hn' := hsize hc.1
    refine ⟨⟨⟨by omega, by omega⟩, by omega, by omega⟩, ?_⟩
    intro i hi
    cases hc.2 with
    | inl hr => exact ⟨by omega, fun _ => by omega⟩
    | inr hr =>
      by_cases hlast : i = (n - 12) / 12
      · subst hlast
        exact ⟨by omega, fun hname => absurd hname hr.2⟩
      · exact ⟨by omega, fun _ => by omega⟩

theorem DrawLog.contained (h : DrawLog env s.mem p evs)
    (hn : n = add32 (s.mem.read32 (p + 4)) 8) : Contained env p n evs ↔ 20 ≤ n := by
  obtain ⟨evs₁, evs₂, evs₃, h₁, hdecls, h₂, hranges, h₃, rfl⟩ := h
  have hlt := Mem.read32_lt s.mem (p + 4)
  simp only [contained_append, h₁.contained, contained_cons, within_read, contained_nil, and_true]
  constructor
  · intro hc
    omega
  · intro h20
    have hsize := add32_eight hlt (hn ▸ (by omega))
    rw [← hn] at hsize
    have h12 : sub64 (s.mem.read32 (p + 4)) 12 = s.mem.read32 (p + 4) - 12 :=
      sub64_of_le (by omega) (by omega)
    rw [h12] at hdecls hranges
    have hdecls' : s.mem.read32 (p + 12) * 36 ≤ s.mem.read32 (p + 4) - 12 := by omega
    rw [sub64_of_le hdecls' (by omega)] at hranges
    refine ⟨⟨⟨⟨⟨by omega, by omega⟩, ⟨by omega, by omega⟩, by omega, by omega⟩, ?_⟩, by omega,
      by omega⟩, ?_⟩
    · apply h₂.contained (by omega)
      intro i hi
      omega
    · apply h₃.contained (by omega)
      intro i hi
      omega

theorem QueryLog.contained {gbId : Nat} (h : QueryLog env s.mem gbId p evs) :
    Contained env p n evs ↔ 24 ≤ n := by
  unfold QueryLog at h
  split at h
  · obtain ⟨evs', ⟨evs₁, evs₂, h₁, h₂, rfl⟩, rfl⟩ := h
    have hws : (∀ w ∈ [p + 4, p + 8, p + 12, p + 16, p + 20], p ≤ w ∧ w + 4 ≤ p + n) ↔
        24 ≤ n := by
      simp
      omega
    rw [contained_append, contained_rewriteEvents, hws, contained_append, h₁.contained,
      h₂.contained]
    omega
  · obtain ⟨evs₁, evs₂, h₁, h₂, rfl⟩ := h
    rw [contained_append, h₁.contained, h₂.contained]
    omega

theorem ShaderLog.contained {reads : List Event} {k : Nat} (h : ShaderLog env s.mem p reads evs)
    (hreads : Contained env p n reads ↔ k ≤ n) (hk : 12 ≤ k) :
    Contained env p n evs ↔ if env.hasMob then k ≤ n else 12 ≤ n := by
  obtain ⟨ctx, _, rfl⟩ := h
  split
  · rw [contained_append, contained_append, contained_handleEvents, hreads]
    constructor
    · intro h
      exact h.2.1
    · intro h
      refine ⟨⟨by omega, by omega⟩, h, ?_⟩
      exact contained_cons.mpr ⟨within_resReloc ⟨Nat.le_refl p, by omega⟩, contained_nil⟩
  · rw [contained_append, contained_handleEvents, and_iff_left contained_nil]
    omega

theorem SetShaderLog.contained (h : SetShaderLog env s.mem s.shaders p evs) :
    Contained env p n evs ↔ if env.hasMob then 20 ≤ n else 12 ≤ n := by
  obtain ⟨ctx, _, h⟩ := h
  split at h
  · next hmob =>
    rw [if_pos hmob]
    obtain ⟨r, reads, _, hmem, hreads, rfl⟩ := h
    have hreloc : 20 ≤ n → Contained env p n
        (r.map (fun res => Event.resReloc ⟨some res, env.offset (p + 16)⟩)).toList := by
      intro h20
      cases r with
      | none => exact contained_nil
      | some res =>
        exact contained_cons.mpr ⟨within_resReloc ⟨by omega, by omega⟩, contained_nil⟩
    rw [contained_append, contained_append, contained_append, contained_handleEvents,
      contained_bindEvents]
    constructor
    · intro hc
      have := hc.1.1.2 _ hmem
      rw [within_read] at this
      omega
    · intro h20
      refine ⟨⟨⟨⟨by omega, by omega⟩, ?_⟩, hreloc h20⟩, by omega, by omega⟩
      intro e he
      cases hreads e he with
      | inl h =>
        rw [h, within_read]
        omega
      | inr h =>
        rw [h, within_read]
        omega
  · next hmob =>
    rw [if_neg hmob, h, contained_handleEvents]
    omega

theorem BackupLog.contained {resType : ResType} (h : BackupLog env s.mem resType (p + 8) (p + 12) evs) :
    Contained env p n evs ↔ 16 ≤ n := by
  obtain ⟨r, evs', _, h, rfl⟩ := h
  rw [contained_append, contained_handleEvents, h.contained]
  omega

/-- A handler that passes a command has stayed inside it just when the command is long enough. -/
theorem CmdFunc.Log.contained_iff {func : CmdFunc} (h : func.Log env s p evs)
    (hn : n = add32 (s.mem.read32 (p + 4)) 8) :
    Contained env p n evs ↔ func.LongEnough env s p n := by
  have hhandle : ∀ {resType : ResType}, HandleLog env s.mem resType (p + 8) evs →
      (Contained env p n evs ↔ 12 ≤ n) := by
    intro resType h
    rw [h.contained]
    omega
  have htwo : ∀ {resType resType' : ResType}, Then (HandleLog env s.mem resType (p + 8))
      (HandleLog env s.mem resType' (p + 20)) evs → (Contained env p n evs ↔ 24 ≤ n) := by
    intro resType resType' h
    obtain ⟨evs₁, evs₂, h₁, h₂, rfl⟩ := h
    rw [contained_append, h₁.contained, h₂.contained]
    omega
  have hquery : Then (HandleLog env s.mem .context (p + 8)) (MobLog env s.mem (p + 16)) evs →
      (Contained env p n evs ↔ 20 ≤ n) := by
    intro h
    obtain ⟨evs₁, evs₂, h₁, h₂, rfl⟩ := h
    rw [contained_append, h₁.contained, h₂.contained]
    omega
  cases func with
  | vmwCmdInvalid => exact h.elim
  | vmwCmdOk =>
    rw [h]
    exact iff_of_true contained_nil trivial
  | vmwCmdSurfaceCopyCheck => exact htwo h
  | vmwCmdStretchBltCheck => exact htwo h
  | vmwCmdDma => exact DmaLog.contained h hn
  | vmwCmdCidCheck => exact hhandle h
  | vmwCmdSetRenderTargetCheck =>
    obtain ⟨ctx, r, _, _, rfl⟩ := h
    have hbind : Contained env p n (if env.hasMob then bindEvents s.mem ctx r .rt (p + 12) else []) ↔
        (env.hasMob = true → p + 16 ≤ p + n) := by
      split
      · next hmob =>
        rw [contained_bindEvents]
        exact ⟨fun h _ => by omega, fun h => ⟨by omega, by have := h hmob; omega⟩⟩
      · next hmob => exact iff_of_true contained_nil (fun h => absurd h hmob)
    rw [contained_append, contained_append, contained_handleEvents, contained_handleEvents, hbind]
    exact ⟨fun h => (by omega : 20 ≤ n), fun h20 : 20 ≤ n =>
      ⟨⟨⟨by omega, by omega⟩, by omega, by omega⟩, fun _ => by omega⟩⟩
  | vmwCmdTexState => exact TexStateLog.contained h hn
  | vmwCmdPresentCheck => exact hhandle h
  | vmwCmdShaderDefine =>
    have hlt := Mem.read32_lt s.mem (p + 4)
    apply ShaderLog.contained h _ (by decide)
    simp only [contained_cons, within_read, contained_nil, and_true]
    constructor
    · intro hc
      omega
    · intro h20
      have hsize := add32_eight hlt (hn ▸ (by omega))
      rw [← hn] at hsize
      rw [sub64_of_le (by omega) (by omega)]
      omega
  | vmwCmdShaderDestroy =>
    apply ShaderLog.contained h _ (by decide)
    simp only [contained_cons, within_read, contained_nil, and_true]
    omega
  | vmwCmdSetShader => exact SetShaderLog.contained h
  | vmwCmdSetShaderConst =>
    obtain ⟨evs', h, rfl⟩ := h
    have hstore : Contained env p n (if env.hasMob then
        [Event.write p svga3dCmdSetGbShaderconstsInline] else []) ↔ (env.hasMob = true → 4 ≤ n) := by
      split
      · next hmob =>
        simp only [contained_cons, within_write, contained_nil, and_true]
        exact ⟨fun h _ => by omega, fun h => by have := h hmob; omega⟩
      · next hmob => exact iff_of_true contained_nil (fun h => absurd h hmob)
    rw [contained_append, h.contained, hstore]
    exact ⟨fun h => (by omega : 12 ≤ n), fun h12 : 12 ≤ n =>
      ⟨⟨by omega, by omega⟩, fun _ => by omega⟩⟩
  | vmwCmdDraw => exact DrawLog.contained h hn
  | vmwCmdBeginQuery =>
    obtain ⟨evs', h, rfl⟩ := h
    unfold CmdFunc.LongEnough
    split
    · have hws : (∀ w ∈ [p + 4, p + 8, p + 12], p ≤ w ∧ w + 4 ≤ p + n) ↔ 16 ≤ n := by
        simp
        omega
      rw [contained_append, contained_rewriteEvents, hws, h.contained]
      omega
    · rw [contained_append, h.contained, and_iff_right contained_nil]
      omega
  | vmwCmdEndQuery => exact QueryLog.contained h
  | vmwCmdWaitQuery => exact QueryLog.contained h
  | vmwCmdBltSurfScreenCheck => exact hhandle h
  | vmwCmdBindGbSurface => exact BackupLog.contained h
  | vmwCmdUpdateGbImage => exact hhandle h
  | vmwCmdUpdateGbSurface => exact hhandle h
  | vmwCmdReadbackGbImage => exact hhandle h
  | vmwCmdReadbackGbSurface => exact hhandle h
  | vmwCmdInvalidateGbImage => exact hhandle h
  | vmwCmdInvalidateGbSurface => exact hhandle h
  | vmwCmdBindGbShader =>
    obtain ⟨evs', h, rfl⟩ := h
    rw [contained_cons, within_read, BackupLog.contained h]
    exact ⟨fun h => (by omega : 20 ≤ n), fun h20 : 20 ≤ n => ⟨⟨by omega, by omega⟩, by omega⟩⟩
  | vmwCmdBeginGbQuery => exact hhandle h
  | vmwCmdEndGbQuery => exact hquery h
  | vmwCmdWaitGbQuery => exact hquery h

end Handlers

section Run

variable {env : Env} {buf buf' : Nat} {curSize curSize' : Int} {s s' : State hashLong}
  {cs : List (Command hashLong)}

/-- The commands of a batch follow each other from its start, and none is longer than what is
left. -/
theorem Checked.layout (h : Checked env buf curSize s cs buf' curSize' s')
    (hlt : curSize < 2 ^ 31) (hend : 0 ≤ curSize') :
    (buf' : Int) = buf + (curSize - curSize') ∧ curSize' ≤ curSize ∧
      ∀ c ∈ cs, buf ≤ c.buf ∧ c.buf + c.size ≤ buf' := by
  induction h with
  | nil => exact ⟨by omega, Int.le_refl _, (fun _ hc => nomatch hc)⟩
  | @cons buf buf' size curSize curSize' s t s' cs hpos hcheck hrest ih =>
    have hle := (vmwCmdCheck_size hcheck).1
    have hcur : toInt32 (curSize - size) = curSize - size :=
      toInt32_of_mem (by omega) (by omega)
    obtain ⟨hbuf, hcs, hall⟩ := ih (by omega) hend
    rw [hcur] at hbuf hcs
    refine ⟨by omega, by omega, ?_⟩
    intro c hc
    cases hc with
    | head => exact ⟨Nat.le_refl _, (by omega : buf + size ≤ buf')⟩
    | tail _ hmem =>
      have := hall c hmem
      exact ⟨by omega, this.2⟩

/-- What `vmw_cmd_check` has gone by in a round that passed. -/
theorem Checked.check (h : Checked env buf curSize s cs buf' curSize' s') :
    ∀ c ∈ cs, vmwCmdCheck env c.buf c.remaining c.before = .ok c.size c.after := by
  induction h with
  | nil => exact (fun _ hc => nomatch hc)
  | cons _ hcheck _ ih =>
    intro c hc
    cases hc with
    | head => exact hcheck
    | tail _ hmem => exact ih c hmem

theorem vmwCmdCheckNot3d_kernel {remaining size : Nat} {t : State hashLong}
    (h : vmwCmdCheckNot3d env buf remaining s = .ok size t) : env.kernel = true := by
  obtain ⟨cmdId, s₁, hpeek, h⟩ := bind_eq_ok.mp h
  cases hpeek
  cases hn : not3dSize (s.mem.read32 buf) with
  | none =>
    rw [hn] at h
    cases h
  | some n =>
    rw [hn] at h
    simp only at h
    split at h
    · cases h
    · split at h
      · cases h
      · next hk => simpa using hk

/-- A batch of a client has only 3D commands. -/
theorem Checked.is3d (h : Checked env buf curSize s cs buf' curSize' s')
    (huser : env.kernel = false) : ∀ c ∈ cs, c.Is3d := by
  intro c hc
  cases Nat.lt_or_ge c.id svgaCmdMax with
  | inr hid => exact hid
  | inl hid =>
    have hkernel := vmwCmdCheckNot3d_kernel (vmwCmdCheck_not3d hid (h.check c hc))
    rw [huser] at hkernel
    cases hkernel

theorem Checked.size_3d (h : Checked env buf curSize s cs buf' curSize' s')
    {c : Command hashLong} (hc : c ∈ cs) (hid : c.Is3d) : c.size = add32 c.bodySize 8 :=
  (vmwCmdCheck_3d hid (h.check c hc)).1

end Run

/-- The command has the room its handler needs. -/
def Command.LongEnough (env : Env) (c : Command hashLong) : Prop :=
  ∃ func, c.func = some func ∧ func.LongEnough env c.before c.buf c.size

/-- The bytes are bytes of the batch. -/
def InBatch (env : Env) (size a len : Nat) : Prop :=
  env.bufStart ≤ a ∧ a + len ≤ env.bufStart + size

/-- Checking the commands has not left them, and so neither will relocating them. -/
structure VerifierContained (env : Env) (size : Nat) (cs : List (Command hashLong))
    (s' : State hashLong) : Prop where
  commands : ∀ c ∈ cs, Contained env c.buf c.size c.events
  resRelocations : ∀ rel ∈ s'.resRelocations, rel.offset < size / 4
  relocs : ∀ rel ∈ s'.relocs, match rel.location with
    | some location => InBatch env size location 8
    | none => InBatch env size rel.mobLoc 4

section Batch

variable {env : Env} {size buf' : Nat} {s s' : State hashLong} {cs : List (Command hashLong)}

theorem Checked.verifierContained (hrun : Checked env env.bufStart (toInt32 size) s cs buf' 0 s')
    (hs : s.Fresh) (hcont : ∀ c ∈ cs, Contained env c.buf c.size c.events) :
    VerifierContained env size cs s' := by
  obtain ⟨hlog, _⟩ := hrun.logged (hs.inv env)
  obtain ⟨hbuf, _, hlayout⟩ := hrun.layout (toInt32_le size).1 (Int.le_refl 0)
  have hsize : buf' ≤ env.bufStart + size := by
    have : toInt32 size ≤ size := by
      unfold toInt32
      omega
    omega
  have hevents : s'.events = cs.flatMap Command.events := by
    rw [hlog.events, hs.events, List.nil_append]
  have hwithin : ∀ e ∈ s'.events, ∃ c ∈ cs, e.Within env c.buf c.size := by
    intro e he
    obtain ⟨c, hc, hmem⟩ := List.mem_flatMap.mp (hevents ▸ he)
    exact ⟨c, hc, hcont c hc e hmem⟩
  refine ⟨hcont, ?_, ?_⟩
  · intro rel hrel
    rw [hlog.inv.res] at hrel
    obtain ⟨e, he, heq⟩ := List.mem_filterMap.mp hrel
    obtain ⟨c, hc, hw⟩ := hwithin e he
    cases e with
    | resReloc rel' =>
      cases heq
      obtain ⟨a, ha, hin⟩ := hw
      have := hlayout c hc
      rw [ha]
      unfold Env.offset
      omega
    | read => cases heq
    | write => cases heq
    | mobReloc => cases heq
    | guestReloc => cases heq
    | bind => cases heq
  · intro rel hrel
    obtain ⟨e, he, hrec⟩ := exists_of_forall₂ hlog.inv.buf.flip hrel
    obtain ⟨c, hc, hw⟩ := hwithin e (List.mem_filter.mp he).1
    have := hlayout c hc
    cases e with
    | mobReloc a bo =>
      obtain ⟨rfl, hloc, _⟩ := hrec
      rw [hloc]
      exact ⟨by have := hw.1; omega, by have := hw.2; omega⟩
    | guestReloc a bo =>
      rw [hrec.1]
      exact ⟨by have := hw.1; omega, by have := hw.2; omega⟩
    | read => exact hrec.elim
    | write => exact hrec.elim
    | resReloc => exact hrec.elim
    | bind => exact hrec.elim

/-- The verifier stays inside the commands of an accepted batch, if and only if each of them is
as long as its handler takes it to be. -/
theorem vmwCmdCheckAll_contained_iff {fuel : Nat} (huser : env.kernel = false) (hs : s.Fresh)
    (h : vmwCmdCheckAll env fuel size s = some (.ok () s')) :
    ∃ cs buf', Checked env env.bufStart (toInt32 size) s cs buf' 0 s' ∧
      (VerifierContained env size cs s' ↔ ∀ c ∈ cs, c.LongEnough env) := by
  obtain ⟨cs, buf', hrun⟩ := vmwCmdCheckAll_ok h
  refine ⟨cs, buf', hrun, ?_⟩
  obtain ⟨_, hall⟩ := hrun.logged (hs.inv env)
  have hiff : ∀ c ∈ cs, (Contained env c.buf c.size c.events ↔ c.LongEnough env) := by
    intro c hc
    have hid := hrun.is3d huser c hc
    obtain ⟨func, hf, hlog⟩ := (Command.log_3d hid).mp (hall c hc).2.1
    rw [hlog.contained_iff (hrun.size_3d hc hid)]
    constructor
    · intro hlong
      exact ⟨func, hf, hlong⟩
    · intro hlong
      obtain ⟨func', hf', hlong⟩ := hlong
      rw [hf] at hf'
      cases hf'
      exact hlong
  constructor
  · intro hcont c hc
    exact (hiff c hc).mp (hcont.commands c hc)
  · intro hlong
    exact hrun.verifierContained hs (fun c hc => (hiff c hc).mpr (hlong c hc))

end Batch

section Undersized

/-- A depth range command with a size word; its context is at its third word. -/
def zrangeBatch (bodySize : Nat) : State (fun key _ => key) :=
  .start _ (memOf 4096 [svga3dCmdSetzrange, bodySize, 7])

/-- A command that holds just its context. -/
theorem vmwCmdCheckAll_contained_iff_zrange : ∃ s', vmwCmdCheckAll .mobDevice 2 12 (zrangeBatch 4) =
    some (.ok () s') ∧ ∃ cs buf', Checked .mobDevice 4096 (toInt32 (12 : Nat)) (zrangeBatch 4) cs buf' 0 s' ∧
      (VerifierContained .mobDevice 12 cs s' ↔ ∀ c ∈ cs, c.LongEnough .mobDevice) := by
  have hrun : (accepted (vmwCmdCheckAll .mobDevice 2 12 (zrangeBatch 4))).isSome = true := by
    decide +kernel
  obtain ⟨s', hs'⟩ := Option.isSome_iff_exists.mp hrun
  have hok := accepted_eq_some.mp hs'
  exact ⟨s', hok, vmwCmdCheckAll_contained_iff rfl (State.start_fresh _) hok⟩

/-- A command that ends before it: the relocation is behind the batch. -/
theorem zrange_not_contained : ∃ s' cs buf', vmwCmdCheckAll .mobDevice 2 8 (zrangeBatch 0) =
    some (.ok () s') ∧ Checked .mobDevice 4096 (toInt32 (8 : Nat)) (zrangeBatch 0) cs buf' 0 s' ∧
      ¬ VerifierContained .mobDevice 8 cs s' := by
  have hrel : (accepted (vmwCmdCheckAll .mobDevice 2 8 (zrangeBatch 0))).map
      (fun s => s.resRelocations.map (·.offset)) = some [2] := by
    decide +kernel
  obtain ⟨s', hs', hoffset⟩ := Option.map_eq_some_iff.mp hrel
  have hok := accepted_eq_some.mp hs'
  obtain ⟨cs, buf', hrun⟩ := vmwCmdCheckAll_ok hok
  refine ⟨s', cs, buf', hok, hrun, ?_⟩
  intro hcont
  have hmem : 2 ∈ s'.resRelocations.map (·.offset) := hoffset ▸ List.mem_cons_self
  obtain ⟨rel, hrel, heq⟩ := List.mem_map.mp hmem
  have := hcont.resRelocations rel hrel
  omega

end Undersized

end Vmwgfx.Execbuf
