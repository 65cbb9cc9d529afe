import Vmwgfx.Cmdbuf.Compat
import Vmwgfx.Lib.Ends

/-! The objects that `vmw_compat_shader_add` makes, and what it leaves of them when it fails. -/

namespace Vmwgfx.Cmdbuf.Staging

open Vmwgfx.Hashtab Vmwgfx.Lib

variable {hashLong : HashLong}

/-- `shaderSize` is the charge of `vmw_shader_size` to the memory accounting. -/
inductive Object
  | buf | shaderSize | shader | entry
  deriving DecidableEq

inductive Event
  | made (o : Object)
  | released (o : Object)
  deriving DecidableEq

/-- How the steps end; `none` is success. -/
structure Env where
  kzallocBuf : Bool
  dmabufInit : Option Errno
  boReserve : Option Errno
  boKmap : Option Errno
  boValidate : Option Errno
  memGlobalAlloc : Option Errno
  kzallocShader : Bool
  resourceInit : Option Errno
  kzallocEntry : Bool

/-- The managers and the shaders, the references to the buffer and the history of the objects. -/
structure State (hashLong : HashLong) where
  shaders : ShaderWorld hashLong
  bufRef : Nat
  log : List Event

inductive Crash
  | errPtr
  deriving DecidableEq

abbrev M (hashLong : HashLong) := EStateM Crash (State hashLong)

def note (e : Event) : M hashLong Unit := modify fun s => { s with log := e :: s.log }

def dmabufReference : M hashLong Unit := modify fun s => { s with bufRef := s.bufRef + 1 }

/-- `vmw_dmabuf_unreference`. -/
def vmwDmabufUnreference : M hashLong Unit := do
  modify fun s => { s with bufRef := s.bufRef - 1 }
  if (← get).bufRef = 0 then note (.released .buf) else pure ()

/-- `vmw_shader_free`. -/
def vmwShaderFree : M hashLong Unit := do
  note (.released .shader)
  note (.released .shaderSize)

/-- `vmw_resource_unreference` of a shader whose backup is the buffer. -/
def vmwResourceUnreference (res : ResId) : M hashLong Unit := do
  modify fun s => { s with shaders := { s.shaders with world := s.shaders.world.unref res } }
  if (← get).shaders.world.kref res = 0 then
    vmwDmabufUnreference
    vmwShaderFree
  else pure ()

variable (env : Env)

/-- `vmw_shader_alloc`; the result is a pointer or an error pointer. -/
def vmwShaderAlloc : M hashLong (Except Errno ResId) := do
  match env.memGlobalAlloc with
  | some e => return .error e
  | none =>
    note (.made .shaderSize)
    if env.kzallocShader then
      note (.made .shader)
      match env.resourceInit with
      | some e =>
        vmwShaderFree
        return .error e
      | none =>
        dmabufReference
        let s ← get
        set { s with shaders := (Cmdbuf.vmwShaderAlloc s.shaders true).2 }
        return .ok s.shaders.nextRes
    else
      note (.released .shaderSize)
      return .error .nomem

/-- `vmw_cmdbuf_res_add` of the new shader. -/
def vmwCmdbufResAdd (m : ManId) (userKey : UInt32) (res : Except Errno ResId) : M hashLong Int := do
  if env.kzallocEntry then
    note (.made .entry)
    let s ← get
    match res with
    | .error _ =>
      -- the pointer is only followed when the key is free
      if ((s.shaders.world.man m).resources.drmHtInsertItem (hashKey .compatShader userKey)
          s.shaders.world.next).isSome then throw .errPtr
      else return -EINVAL
    | .ok res =>
      let added := Cmdbuf.vmwCmdbufResAdd s.shaders.world true m .compatShader userKey res
      set { s with shaders := { s.shaders with world := added.2 } }
      return added.1
  else return -ENOMEM

/-- What follows `vmw_shader_alloc`; `ret` is still what `ttm_bo_validate` returned. -/
def stageShader (m : ManId) (userKey shaderType : UInt32) (res : Except Errno ResId) : M hashLong Int := do
  match env.boValidate with
  | some e => return e.val
  | none =>
    let ret ← vmwCmdbufResAdd env m (vmwCompatShaderKey userKey shaderType) res
    match res with
    | .error _ => throw .errPtr
    | .ok res =>
      vmwResourceUnreference res
      return ret

/-- `vmw_compat_shader_add`. -/
def vmwCompatShaderAdd (m : ManId) (userKey shaderType : UInt32) : M hashLong Int := do
  if !vmwCompatShaderIdOk userKey shaderType then return -EINVAL
  else if !env.kzallocBuf then return -ENOMEM
  else
    note (.made .buf)
    match env.dmabufInit with
    | some e =>
      note (.released .buf)
      return e.val
    | none =>
      modify fun s => { s with bufRef := 1 }
      let ret ← match env.boReserve, env.boKmap with
        | some e, _ => pure e.val
        | none, some e => pure e.val
        | none, none => do
          let res ← vmwShaderAlloc env
          stageShader env m userKey shaderType res
      -- `no_reserve`
      vmwDmabufUnreference
      return ret

/-- The state before the call. -/
def start (shaders : ShaderWorld hashLong) : State hashLong := ⟨shaders, 0, []⟩

/-- What was made has been released, as often. -/
def Released (log : List Event) : Prop := ∀ o, log.count (.made o) = log.count (.released o)

/-- What a call that fails is to leave. -/
structure Clean (shaders : ShaderWorld hashLong) (ret : Int) (s : State hashLong) : Prop where
  negative : ret < 0
  table : s.shaders.world.man = shaders.world.man
  staged : s.shaders.world.staged = shaders.world.staged
  released : Released s.log

def ShaderFails (env : Env) : Prop :=
  env.memGlobalAlloc ≠ none ∨ env.kzallocShader = false ∨ env.resourceInit ≠ none

section Call

variable (shaders : ShaderWorld hashLong) (m : ManId) (userKey shaderType : UInt32)

/-- The key is in the manager's table. -/
def Taken : Prop := shaders.world.slot (m, compatHashKey userKey shaderType) ≠ none

/-- A step of the call fails. -/
def Fails : Prop :=
  vmwCompatShaderIdOk userKey shaderType = false ∨ env.kzallocBuf = false ∨ env.dmabufInit ≠ none ∨
    env.boReserve ≠ none ∨ env.boKmap ≠ none ∨ env.boValidate ≠ none ∨ ShaderFails env ∨
    env.kzallocEntry = false ∨ Taken shaders m userKey shaderType

def FailsCleanly : Prop :=
  Fails env shaders m userKey shaderType → ∃ ret s,
    vmwCompatShaderAdd env m userKey shaderType (start shaders) = .ok ret s ∧ Clean shaders ret s

/-- The buffer is filled, and the shader is next. -/
def Reaches : Prop :=
  vmwCompatShaderIdOk userKey shaderType = true ∧ env.kzallocBuf = true ∧ env.dmabufInit = none ∧
    env.boReserve = none ∧ env.boKmap = none

end Call

section Steps

variable {env} {s : State hashLong}

theorem vmwShaderAlloc_fails (h : ShaderFails env) :
    ∃ e log, vmwShaderAlloc env s = .ok (.error e) { s with log := log ++ s.log } ∧ Released log := by
  unfold vmwShaderAlloc
  cases hcharge : env.memGlobalAlloc with
  | some e => exact ⟨e, [], rfl, fun _ => rfl⟩
  | none =>
    cases hk : env.kzallocShader with
    | false => exact ⟨_, [.released .shaderSize, .made .shaderSize], rfl, fun o => by cases o <;> rfl⟩
    | true =>
      cases hinit : env.resourceInit with
      | some e =>
        exact ⟨e, [.released .shaderSize, .released .shader, .made .shader, .made .shaderSize], rfl,
          fun o => by cases o <;> rfl⟩
      | none =>
        rcases h with h | h | h
        · exact absurd hcharge h
        · rw [hk] at h
          cases h
        · exact absurd hinit h

theorem vmwShaderAlloc_ok (h : ¬ ShaderFails env) :
    vmwShaderAlloc env s = .ok (.ok s.shaders.nextRes)
      { shaders := (Cmdbuf.vmwShaderAlloc s.shaders true).2, bufRef := s.bufRef + 1
        log := .made .shader :: .made .shaderSize :: s.log } := by
  obtain ⟨hcharge, hk, hinit⟩ : env.memGlobalAlloc = none ∧ env.kzallocShader = true ∧ env.resourceInit = none := by
    simpa [ShaderFails] using h
  unfold vmwShaderAlloc
  rw [hcharge, hk, hinit]
  rfl

theorem stageShader_errPtr {m : ManId} {userKey shaderType : UInt32} {e : Errno} (hv : env.boValidate = none)
    {ret : Int} {t : State hashLong} : stageShader env m userKey shaderType (.error e) s ≠ .ok ret t := by
  unfold stageShader
  rw [hv]
  intro h
  obtain ⟨_, _, _, hrest⟩ := bind_eq_ok.mp h
  cases hrest

theorem vmwResourceUnreference_last (res : ResId) {ref : Nat} (href : s.bufRef = ref + 2)
    (hkref : s.shaders.world.kref res = 1) :
    vmwResourceUnreference res s = .ok ()
      { shaders := { s.shaders with world := s.shaders.world.unref res }, bufRef := ref + 1
        log := .released .shaderSize :: .released .shader :: s.log } := by
  have hzero : (s.shaders.world.unref res).kref res = 0 := by
    rw [kref_unref, vmwResourceUnreference_apply, if_pos rfl, hkref]
  change (if (s.shaders.world.unref res).kref res = 0 then
      (do
        vmwDmabufUnreference
        vmwShaderFree : M hashLong Unit)
    else pure ()) { s with shaders := { s.shaders with world := s.shaders.world.unref res } } = _
  rw [if_pos hzero]
  unfold vmwDmabufUnreference
  obtain ⟨shaders, bufRef, log⟩ := s
  cases href
  rfl

end Steps

section Cases

variable {env} {shaders : ShaderWorld hashLong} {m : ManId} {userKey shaderType : UInt32}

/-- The state in which the shader is allocated. -/
def filled (shaders : ShaderWorld hashLong) : State hashLong := ⟨shaders, 1, [.made .buf]⟩

/-- The state in which the shader is there. -/
def allocated (shaders : ShaderWorld hashLong) : State hashLong :=
  ⟨(Cmdbuf.vmwShaderAlloc shaders true).2, 2, [.made .shader, .made .shaderSize, .made .buf]⟩

theorem add_early (h : ¬ Reaches env userKey shaderType) :
    ∃ ret s, vmwCompatShaderAdd env m userKey shaderType (start shaders) = .ok ret s ∧ Clean shaders ret s := by
  unfold vmwCompatShaderAdd
  cases hid : vmwCompatShaderIdOk userKey shaderType with
  | false => exact ⟨_, _, rfl, by decide, rfl, rfl, fun o => by cases o <;> rfl⟩
  | true =>
    cases hk : env.kzallocBuf with
    | false => exact ⟨_, _, rfl, by decide, rfl, rfl, fun o => by cases o <;> rfl⟩
    | true =>
      cases hinit : env.dmabufInit with
      | some e => exact ⟨_, _, rfl, e.neg, rfl, rfl, fun o => by cases o <;> rfl⟩
      | none =>
        cases hreserve : env.boReserve with
        | some e => exact ⟨_, _, rfl, e.neg, rfl, rfl, fun o => by cases o <;> rfl⟩
        | none =>
          cases hkmap : env.boKmap with
          | some e => exact ⟨_, _, rfl, e.neg, rfl, rfl, fun o => by cases o <;> rfl⟩
          | none => exact absurd ⟨hid, hk, hinit, hreserve, hkmap⟩ h

theorem add_reaches (h : Reaches env userKey shaderType) :
    vmwCompatShaderAdd env m userKey shaderType (start shaders) =
      (do
        let res ← vmwShaderAlloc env
        let ret ← stageShader env m userKey shaderType res
        vmwDmabufUnreference
        return ret : M hashLong Int) (filled shaders) := by
  obtain ⟨hid, hk, hinit, hreserve, hkmap⟩ := h
  unfold vmwCompatShaderAdd
  rw [hid, hk, hinit, hreserve, hkmap]
  rfl

/-- `ttm_bo_validate` fails, and so does the shader's allocation. -/
theorem add_both_fail (h : Reaches env userKey shaderType) {e : Errno} (hv : env.boValidate = some e)
    (hs : ShaderFails env) :
    ∃ s, vmwCompatShaderAdd env m userKey shaderType (start shaders) = .ok e.val s ∧ Clean shaders e.val s := by
  obtain ⟨e', log, halloc, hlog⟩ := vmwShaderAlloc_fails (s := filled shaders) hs
  refine ⟨⟨shaders, 0, .released .buf :: (log ++ [.made .buf])⟩, ?_, e.neg, rfl, rfl, fun o => ?_⟩
  · rw [add_reaches h, bind_of_ok halloc]
    unfold stageShader
    rw [hv]
    rfl
  · have hlog := hlog o
    cases o <;> simp_all

/-- It fails, and the new shader is forgotten. -/
theorem add_forgets (h : Reaches env userKey shaderType) {e : Errno} (hv : env.boValidate = some e)
    (hs : ¬ ShaderFails env) :
    vmwCompatShaderAdd env m userKey shaderType (start shaders) =
      .ok e.val { allocated shaders with bufRef := 1 } := by
  rw [add_reaches h, bind_of_ok (vmwShaderAlloc_ok hs)]
  unfold stageShader
  rw [hv]
  rfl

/-- The error pointer of the shader is followed. -/
theorem add_follows (h : Reaches env userKey shaderType) (hv : env.boValidate = none) (hs : ShaderFails env)
    (ret : Int) (s : State hashLong) :
    vmwCompatShaderAdd env m userKey shaderType (start shaders) ≠ .ok ret s := by
  obtain ⟨e, log, halloc, -⟩ := vmwShaderAlloc_fails (s := filled shaders) hs
  rw [add_reaches h, bind_of_ok halloc]
  intro hrun
  obtain ⟨ret', s', hstage, -⟩ := bind_eq_ok.mp hrun
  exact stageShader_errPtr hv hstage

theorem add_refused (h : Reaches env userKey shaderType) (hv : env.boValidate = none) (hs : ¬ ShaderFails env)
    {ret : Int} {log : List Event}
    (hadd : vmwCmdbufResAdd env m (vmwCompatShaderKey userKey shaderType) (.ok shaders.nextRes) (allocated shaders) =
      .ok ret { allocated shaders with log }) :
    ∃ t, vmwCompatShaderAdd env m userKey shaderType (start shaders) = .ok ret
      ⟨t, 0, .released .buf :: .released .shaderSize :: .released .shader :: log⟩ ∧
        t.world.man = shaders.world.man ∧ t.world.staged = shaders.world.staged := by
  have hunref := vmwResourceUnreference_last (s := { allocated shaders with log }) shaders.nextRes
    (rfl : 2 = 0 + 2) (Function.update_self _ _ _)
  have hstage : stageShader env m userKey shaderType (.ok shaders.nextRes) (allocated shaders) = .ok ret
      { shaders := { (allocated shaders).shaders with world := (allocated shaders).shaders.world.unref shaders.nextRes }
        bufRef := 1, log := .released .shaderSize :: .released .shader :: log } := by
    unfold stageShader
    rw [hv]
    exact (bind_of_ok hadd).trans (bind_of_ok hunref)
  rw [add_reaches h, bind_of_ok (vmwShaderAlloc_ok hs)]
  exact ⟨_, bind_of_ok hstage, rfl, rfl⟩

theorem resAdd_no_entry (hentry : env.kzallocEntry = false) :
    vmwCmdbufResAdd env m (vmwCompatShaderKey userKey shaderType) (.ok shaders.nextRes) (allocated shaders) =
      .ok (-ENOMEM) (allocated shaders) := by
  unfold vmwCmdbufResAdd
  rw [hentry]
  rfl

/-- The entry of a key that is taken is forgotten. -/
theorem resAdd_taken (hentry : env.kzallocEntry = true) (htaken : Taken shaders m userKey shaderType) :
    vmwCmdbufResAdd env m (vmwCompatShaderKey userKey shaderType) (.ok shaders.nextRes) (allocated shaders) =
      .ok (-EINVAL) { allocated shaders with log := .made .entry :: (allocated shaders).log } := by
  have hslot : (Cmdbuf.vmwShaderAlloc shaders true).2.world.slot
      (m, hashKey .compatShader (vmwCompatShaderKey userKey shaderType)) ≠ none := htaken
  have hadd := vmwCmdbufResAdd_of_slot_ne_none hslot shaders.nextRes
  unfold vmwCmdbufResAdd
  rw [hentry]
  change (fun added => EStateM.Result.ok added.1 (State.mk ⟨added.2, shaders.nextRes + 1⟩ 2
    (.made .entry :: (allocated shaders).log)))
      (Cmdbuf.vmwCmdbufResAdd (Cmdbuf.vmwShaderAlloc shaders true).2.world true m .compatShader
        (vmwCompatShaderKey userKey shaderType) shaders.nextRes) = _
  rw [hadd]
  rfl

end Cases

/-- The call fails cleanly exactly if, with the buffer filled, the shader fails only where
`ttm_bo_validate` has failed, and no entry is made for a key that is taken. -/
theorem compat_shader_add_clean_iff (env : Env) (shaders : ShaderWorld hashLong) (m : ManId)
    (userKey shaderType : UInt32) :
    FailsCleanly env shaders m userKey shaderType ↔
      (Reaches env userKey shaderType →
        (ShaderFails env ↔ env.boValidate ≠ none) ∧
          (env.boValidate = none → env.kzallocEntry = true → ¬ Taken shaders m userKey shaderType)) := by
  constructor
  · intro h hreaches
    cases hv : env.boValidate with
    | some e =>
      refine ⟨iff_of_true (Classical.byContradiction fun hs => ?_) (Option.some_ne_none e), fun hnone => ?_⟩
      · obtain ⟨ret, s, hrun, hclean⟩ := h (by simp [Fails, hv])
        rw [add_forgets hreaches hv hs] at hrun
        cases hrun
        cases hclean.released .shader
      · cases hnone
    | none =>
      refine ⟨iff_of_false (fun hs => ?_) fun hne => hne rfl, fun _ hentry htaken => ?_⟩
      · obtain ⟨ret, s, hrun, -⟩ := h (by simp [Fails, hs])
        exact add_follows hreaches hv hs ret s hrun
      · obtain ⟨ret, s, hrun, hclean⟩ := h (by simp [Fails, htaken])
        by_cases hs : ShaderFails env
        · exact add_follows hreaches hv hs ret s hrun
        · obtain ⟨t, heq, -⟩ := add_refused hreaches hv hs (resAdd_taken hentry htaken)
          rw [heq] at hrun
          cases hrun
          cases hclean.released .entry
  · intro h hfails
    by_cases hreaches : Reaches env userKey shaderType
    · obtain ⟨hshader, htaken⟩ := h hreaches
      cases hv : env.boValidate with
      | some e =>
        obtain ⟨s, hs⟩ := add_both_fail hreaches hv (hshader.mpr (hv ▸ Option.some_ne_none e))
        exact ⟨e.val, s, hs⟩
      | none =>
        have hs : ¬ ShaderFails env := fun hs => hshader.mp hs hv
        cases hentry : env.kzallocEntry with
        | true =>
          obtain ⟨hid, hk, hinit, hreserve, hkmap⟩ := hreaches
          have hfree := htaken hv hentry
          simp [Fails, *] at hfails
        | false =>
          obtain ⟨t, heq, hman, hstaged⟩ := add_refused hreaches hv hs (resAdd_no_entry hentry)
          exact ⟨_, _, heq, by decide, hman, hstaged, fun o => by cases o <;> rfl⟩
    · exact add_early hreaches

/-- No shader is there, and only the charge for a new one fails. -/
def noMemory : Env where
  kzallocBuf := true
  dmabufInit := none
  boReserve := none
  boKmap := none
  boValidate := none
  memGlobalAlloc := some .nomem
  kzallocShader := true
  resourceInit := none
  kzallocEntry := true

def noShaders : ShaderWorld (fun key order => key % 2 ^ order) := ⟨World.empty _, 0⟩

/-- The error pointer is referenced. -/
theorem compat_shader_add_oops :
    Fails noMemory noShaders 0 1 1 ∧
      (∃ s, vmwCompatShaderAdd noMemory 0 1 1 (start noShaders) = .error .errPtr s) ∧
      ¬ FailsCleanly noMemory noShaders 0 1 1 := by
  have hfails : Fails noMemory noShaders 0 1 1 :=
    .inr (.inr (.inr (.inr (.inr (.inr (.inl (.inl (Option.some_ne_none _))))))))
  refine ⟨hfails, ⟨_, rfl⟩, fun h => ?_⟩
  obtain ⟨ret, s, hrun, -⟩ := h hfails
  cases hrun

section Coarse

variable {env} {m : ManId} {userKey shaderType : UInt32}

/-- The outcomes as the manager's model has them. -/
def Env.outcome (env : Env) : AddOutcome where
  buf := env.kzallocBuf
  init := errnoVal env.dmabufInit
  reserve := errnoVal env.boReserve
  kmap := errnoVal env.boKmap
  validate := errnoVal env.boValidate
  shader := env.memGlobalAlloc.isNone && env.kzallocShader && env.resourceInit.isNone
  entry := env.kzallocEntry

/-- What a run leaves of the managers. -/
def result : EStateM.Result Crash (State hashLong) Int → Option (Int × ShaderWorld hashLong)
  | .ok ret s => some (ret, s.shaders)
  | .error _ _ => none

theorem dmabufUnreference_shaders (s : State hashLong) :
    ∃ bufRef log, vmwDmabufUnreference s = .ok () ⟨s.shaders, bufRef, log⟩ := by
  by_cases h : s.bufRef - 1 = 0
  · refine ⟨s.bufRef - 1, .released .buf :: s.log, ?_⟩
    change (if s.bufRef - 1 = 0 then note (.released .buf) else pure () : M hashLong Unit)
      { s with bufRef := s.bufRef - 1 } = _
    rw [if_pos h]
    rfl
  · refine ⟨s.bufRef - 1, s.log, ?_⟩
    change (if s.bufRef - 1 = 0 then note (.released .buf) else pure () : M hashLong Unit)
      { s with bufRef := s.bufRef - 1 } = _
    rw [if_neg h]
    rfl

theorem resourceUnreference_shaders (res : ResId) (s : State hashLong) :
    ∃ bufRef log, vmwResourceUnreference res s =
      .ok () ⟨{ s.shaders with world := s.shaders.world.unref res }, bufRef, log⟩ := by
  let t : State hashLong := { s with shaders := { s.shaders with world := s.shaders.world.unref res } }
  change ∃ bufRef log, (if t.shaders.world.kref res = 0 then
      (do
        vmwDmabufUnreference
        vmwShaderFree : M hashLong Unit)
    else pure ()) t = .ok () ⟨t.shaders, bufRef, log⟩
  by_cases h : t.shaders.world.kref res = 0
  · obtain ⟨bufRef, log, hunref⟩ := dmabufUnreference_shaders t
    rw [if_pos h, bind_of_ok hunref]
    exact ⟨_, _, rfl⟩
  · rw [if_neg h]
    exact ⟨_, _, rfl⟩

theorem resAdd_shaders (env : Env) (m : ManId) (key : UInt32) (res : ResId) (s : State hashLong) :
    ∃ log, vmwCmdbufResAdd env m key (.ok res) s =
      .ok (Cmdbuf.vmwCmdbufResAdd s.shaders.world env.kzallocEntry m .compatShader key res).1
        ⟨{ s.shaders with
            world := (Cmdbuf.vmwCmdbufResAdd s.shaders.world env.kzallocEntry m .compatShader key res).2 },
          s.bufRef, log⟩ := by
  unfold vmwCmdbufResAdd
  cases env.kzallocEntry with
  | true => exact ⟨_, rfl⟩
  | false => exact ⟨_, rfl⟩

theorem stageShader_shaders (m : ManId) (userKey shaderType : UInt32) (res : ResId) (s : State hashLong)
    (hv : env.boValidate = none) :
    ∃ bufRef log, stageShader env m userKey shaderType (.ok res) s =
      .ok (Cmdbuf.vmwCmdbufResAdd s.shaders.world env.kzallocEntry m .compatShader
          (vmwCompatShaderKey userKey shaderType) res).1
        ⟨{ s.shaders with
            world := (Cmdbuf.vmwCmdbufResAdd s.shaders.world env.kzallocEntry m .compatShader
              (vmwCompatShaderKey userKey shaderType) res).2.unref res }, bufRef, log⟩ := by
  obtain ⟨log, hadd⟩ := resAdd_shaders env m (vmwCompatShaderKey userKey shaderType) res s
  obtain ⟨bufRef', log', hunref⟩ := resourceUnreference_shaders res
    ⟨{ s.shaders with
        world := (Cmdbuf.vmwCmdbufResAdd s.shaders.world env.kzallocEntry m .compatShader
          (vmwCompatShaderKey userKey shaderType) res).2 }, s.bufRef, log⟩
  refine ⟨bufRef', log', ?_⟩
  unfold stageShader
  rw [hv]
  exact (bind_of_ok hadd).trans (bind_of_ok hunref)

theorem shaderFails_iff : ShaderFails env ↔ env.outcome.shader = false := by
  unfold ShaderFails Env.outcome
  cases env.memGlobalAlloc <;> cases env.kzallocShader <;> cases env.resourceInit <;> simp

theorem add_early_result (shaders : ShaderWorld hashLong) (h : ¬ Reaches env userKey shaderType) :
    result (vmwCompatShaderAdd env m userKey shaderType (start shaders)) =
      Cmdbuf.vmwCompatShaderAdd shaders env.outcome m userKey shaderType := by
  unfold vmwCompatShaderAdd Cmdbuf.vmwCompatShaderAdd Env.outcome
  cases hid : vmwCompatShaderIdOk userKey shaderType with
  | false => rfl
  | true =>
    cases hk : env.kzallocBuf with
    | false => rfl
    | true =>
      cases hinit : env.dmabufInit with
      | some e => exact (if_pos (errnoVal_ne_zero e)).symm
      | none =>
        cases hreserve : env.boReserve with
        | some e => exact (if_pos (errnoVal_ne_zero e)).symm
        | none =>
          cases hkmap : env.boKmap with
          | some e => exact (if_pos (errnoVal_ne_zero e)).symm
          | none => exact absurd ⟨hid, hk, hinit, hreserve, hkmap⟩ h

theorem add_reaches_result (shaders : ShaderWorld hashLong) (h : Reaches env userKey shaderType) :
    result (vmwCompatShaderAdd env m userKey shaderType (start shaders)) =
      Cmdbuf.vmwCompatShaderAdd shaders env.outcome m userKey shaderType := by
  obtain ⟨hid, hk, hinit, hreserve, hkmap⟩ := id h
  have hbuf : env.outcome.buf = true := hk
  have hinit' : env.outcome.init = 0 := by simp [Env.outcome, hinit, errnoVal]
  have hreserve' : env.outcome.reserve = 0 := by simp [Env.outcome, hreserve, errnoVal]
  have hkmap' : env.outcome.kmap = 0 := by simp [Env.outcome, hkmap, errnoVal]
  have hentry : env.outcome.entry = env.kzallocEntry := rfl
  unfold Cmdbuf.vmwCompatShaderAdd
  rw [hid, hbuf, hinit', hreserve', hkmap', hentry]
  cases hs : env.outcome.shader with
  | false =>
    have hfails := shaderFails_iff.mpr hs
    cases hv : env.boValidate with
    | some e =>
      obtain ⟨e', log, halloc, -⟩ := vmwShaderAlloc_fails (s := filled shaders) hfails
      have hv' : env.outcome.validate = errnoVal (some e) := congrArg errnoVal hv
      rw [add_reaches h, bind_of_ok halloc, hv']
      unfold stageShader
      rw [hv]
      exact (if_pos (errnoVal_ne_zero e)).symm
    | none =>
      have hv' : env.outcome.validate = errnoVal none := congrArg errnoVal hv
      rw [hv']
      cases hrun : vmwCompatShaderAdd env m userKey shaderType (start shaders) with
      | ok ret s => exact absurd hrun (add_follows h hv hfails ret s)
      | error crash s => rfl
  | true =>
    have hok : ¬ ShaderFails env := fun hfails => by
      rw [shaderFails_iff.mp hfails] at hs
      cases hs
    cases hv : env.boValidate with
    | some e =>
      have hv' : env.outcome.validate = errnoVal (some e) := congrArg errnoVal hv
      rw [add_forgets h hv hok, hv']
      exact (if_pos (errnoVal_ne_zero e)).symm
    | none =>
      have hv' : env.outcome.validate = errnoVal none := congrArg errnoVal hv
      obtain ⟨bufRef, log, hstage⟩ :=
        stageShader_shaders m userKey shaderType shaders.nextRes (allocated shaders) hv
      obtain ⟨bufRef', log', hunref⟩ := dmabufUnreference_shaders
        (⟨{ (allocated shaders).shaders with
            world := (Cmdbuf.vmwCmdbufResAdd (allocated shaders).shaders.world env.kzallocEntry m .compatShader
              (vmwCompatShaderKey userKey shaderType) shaders.nextRes).2.unref shaders.nextRes }, bufRef, log⟩)
      rw [add_reaches h, bind_of_ok (vmwShaderAlloc_ok hok), hv']
      refine (congrArg result (bind_of_ok hstage)).trans ?_
      exact congrArg result (bind_of_ok hunref)

/-- The managers see of the call what their own model of it says. -/
theorem add_result (shaders : ShaderWorld hashLong) :
    result (vmwCompatShaderAdd env m userKey shaderType (start shaders)) =
      Cmdbuf.vmwCompatShaderAdd shaders env.outcome m userKey shaderType := by
  by_cases h : Reaches env userKey shaderType
  · exact add_reaches_result shaders h
  · exact add_early_result shaders h

end Coarse

end Vmwgfx.Cmdbuf.Staging
