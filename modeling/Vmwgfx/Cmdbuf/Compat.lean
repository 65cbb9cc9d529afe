import Vmwgfx.Cmdbuf.Commit

/-! The compat shaders of `vmwgfx_shader.c`: a map from shader type and user key
to shader, kept by a command buffer resource manager. -/

namespace Vmwgfx.Cmdbuf

open Vmwgfx.Hashtab

variable {hashLong : HashLong}

def vmwCompatShaderIdOk (userKey shaderType : UInt32) : Bool :=
  userKey ≤ ((1 : UInt32) <<< 20) - 1 && shaderType < 16

def vmwCompatShaderKey (userKey shaderType : UInt32) : UInt32 :=
  userKey ||| (shaderType <<< 20)

/-- How the calls of one `vmw_compat_shader_add` that leave the driver turn out. -/
structure AddOutcome where
  buf : Bool
  init : Int
  reserve : Int
  kmap : Int
  validate : Int
  shader : Bool
  entry : Bool

/-- The managers, and the address the next `vmw_shader_alloc` hands out. -/
structure ShaderWorld (hashLong : HashLong) where
  world : World hashLong
  nextRes : ResId

/-- `none` is an error pointer. -/
def vmwShaderAlloc (s : ShaderWorld hashLong) (ok : Bool) :
    Option ResId × ShaderWorld hashLong :=
  if ok then
    (some s.nextRes,
      { world := { s.world with kref := Function.update s.world.kref s.nextRes 1 }
        nextRes := s.nextRes + 1 })
  else (none, s)

/-- The outer `Option` is an oops.  The result of `vmw_shader_alloc` is not looked
at: its `if` tests what `ttm_bo_validate` returned. -/
def vmwCompatShaderAdd (s : ShaderWorld hashLong) (o : AddOutcome) (m : ManId)
    (userKey shaderType : UInt32) : Option (Int × ShaderWorld hashLong) :=
  if !vmwCompatShaderIdOk userKey shaderType then some (-EINVAL, s)
  else if !o.buf then some (-ENOMEM, s)
  else if o.init ≠ 0 then some (o.init, s)
  else if o.reserve ≠ 0 then some (o.reserve, s)
  else if o.kmap ≠ 0 then some (o.kmap, s)
  else
    let (res, s) := vmwShaderAlloc s o.shader
    if o.validate ≠ 0 then some (o.validate, s)
    else
      match res with
      | none => none
      | some res =>
        let (ret, w) := vmwCmdbufResAdd s.world o.entry m .compatShader
          (vmwCompatShaderKey userKey shaderType) res
        some (ret, { s with world := w.unref res })

def vmwCompatShaderRemove (s : ShaderWorld hashLong) (m : ManId)
    (userKey shaderType : UInt32) : Option (Int × ShaderWorld hashLong) :=
  if !vmwCompatShaderIdOk userKey shaderType then some (-EINVAL, s)
  else
    (vmwCmdbufResRemove s.world m .compatShader (vmwCompatShaderKey userKey shaderType)).map
      (fun r => (r.1, { s with world := r.2 }))

def vmwCompatShaderLookup (s : ShaderWorld hashLong) (m : ManId)
    (userKey shaderType : UInt32) : Option (Except Int ResId × ShaderWorld hashLong) :=
  if !vmwCompatShaderIdOk userKey shaderType then some (.error (-EINVAL), s)
  else
    (vmwCmdbufResLookup s.world m .compatShader (vmwCompatShaderKey userKey shaderType)).map
      (fun r => (r.1, { s with world := r.2 }))

inductive ShaderOp
  | add (o : AddOutcome) (m : ManId) (userKey shaderType : UInt32)
  | remove (m : ManId) (userKey shaderType : UInt32)
  | lookup (m : ManId) (userKey shaderType : UInt32)

/-- What a call hands back: a return value or a pointer. -/
inductive Reply
  | ret (ret : Int)
  | ptr (res : Except Int ResId)

def ShaderOp.run (s : ShaderWorld hashLong) :
    ShaderOp → Option (Reply × ShaderWorld hashLong)
  | .add o m userKey shaderType =>
    (vmwCompatShaderAdd s o m userKey shaderType).map (fun r => (.ret r.1, r.2))
  | .remove m userKey shaderType =>
    (vmwCompatShaderRemove s m userKey shaderType).map (fun r => (.ret r.1, r.2))
  | .lookup m userKey shaderType =>
    (vmwCompatShaderLookup s m userKey shaderType).map (fun r => (.ptr r.1, r.2))

def runShaderOps (s : ShaderWorld hashLong) :
    List ShaderOp → Option (List Reply × ShaderWorld hashLong)
  | [] => some ([], s)
  | op :: ops => do
    let (reply, s) ← op.run s
    let (replies, s) ← runShaderOps s ops
    return (reply :: replies, s)

section Keys

/-- The key of a compat shader in its manager's table. -/
def compatHashKey (userKey shaderType : UInt32) : Nat :=
  hashKey .compatShader (vmwCompatShaderKey userKey shaderType)

theorem compatHashKey_eq {userKey shaderType : UInt32}
    (h : vmwCompatShaderIdOk userKey shaderType) :
    compatHashKey userKey shaderType = userKey.toNat + 2 ^ 20 * shaderType.toNat ∧
      userKey.toNat < 2 ^ 20 := by
  simp only [vmwCompatShaderIdOk, Bool.and_eq_true, decide_eq_true_eq] at h
  obtain ⟨hk, ht⟩ := h
  have hk' : userKey.toNat < 2 ^ 20 := by
    have hle : userKey.toNat ≤ 2 ^ 20 - 1 := UInt32.le_iff_toNat_le.mp hk
    omega
  have ht' : shaderType.toNat < 16 := UInt32.lt_iff_toNat_lt.mp ht
  refine ⟨?_, hk'⟩
  have hshift : (shaderType <<< 20).toNat = 2 ^ 20 * shaderType.toNat := by
    rw [UInt32.toNat_shiftLeft, Nat.shiftLeft_eq]
    change shaderType.toNat * 2 ^ 20 % 2 ^ 32 = _
    rw [Nat.mod_eq_of_lt (by omega), Nat.mul_comm]
  unfold compatHashKey hashKey vmwCompatShaderKey ResType.toUInt32
  rw [UInt32.zero_shiftLeft, UInt32.or_zero, UInt32.toNat_or, hshift, Nat.or_comm,
    ← Nat.two_pow_add_eq_or_of_lt hk', Nat.add_comm]

/-- No two admitted pairs of a user key and a shader type share a hash key. -/
theorem compatHashKey_injective {k k' t t' : UInt32} (h : vmwCompatShaderIdOk k t)
    (h' : vmwCompatShaderIdOk k' t') (heq : compatHashKey k t = compatHashKey k' t') :
    k = k' ∧ t = t' := by
  obtain ⟨hk, hlt⟩ := compatHashKey_eq h
  obtain ⟨hk', hlt'⟩ := compatHashKey_eq h'
  rw [hk, hk'] at heq
  exact ⟨UInt32.toNat_inj.mp (by omega), UInt32.toNat_inj.mp (by omega)⟩

end Keys

end Vmwgfx.Cmdbuf
