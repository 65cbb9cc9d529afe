import Vmwgfx.Kernel

/-! Where buffers are, and who pins them there: `vmwgfx_dmabuf.c`, with the functions of
`vmwgfx_overlay.c`, `vmwgfx_kms.c`, `vmwgfx_execbuf.c` and `vmwgfx_resource.c` that pin. -/

namespace Vmwgfx.Pins

abbrev BufId := Nat

def ERESTARTSYS : Int := 512

inductive MemType
  | system
  | vram
  | gmr
  | mob
  deriving DecidableEq, Repr

/-- `mem_type` and `start` of a `struct ttm_mem_reg`. -/
structure Place where
  memType : MemType
  start : Nat
  deriving DecidableEq, Repr

/-- `struct ttm_placement`; its flags agree on `TTM_PL_FLAG_NO_EVICT`. -/
structure Placement where
  placement : List MemType
  busyPlacement : List MemType
  lpfn : Nat
  noEvict : Bool

def vmwVramPlacement : Placement := ⟨[.vram], [.vram], 0, false⟩
def vmwVramNePlacement : Placement := ⟨[.vram], [.vram], 0, true⟩
def vmwVramGmrPlacement : Placement := ⟨[.vram, .gmr], [.gmr], 0, false⟩
def vmwVramGmrNePlacement : Placement := ⟨[.vram, .gmr], [.gmr], 0, true⟩
def vmwSysPlacement : Placement := ⟨[.system], [.system], 0, false⟩
def vmwEvictablePlacement : Placement := ⟨[.system, .vram, .gmr, .mob], [.system], 0, false⟩
def vmwSrfPlacement : Placement := ⟨[.gmr], [.gmr, .vram], 0, false⟩
def vmwMobPlacement : Placement := ⟨[.mob], [.mob], 0, false⟩

structure VmwDmaBuffer where
  place : Place
  noEvict : Bool
  deriving DecidableEq, Repr

inductive Owner
  | stream (i : Nat)
  | framebuffer (f : Nat)
  | query
  | dummyQuery
  | resource (r : ResId)
  deriving DecidableEq, Repr

/-- What does not change. Handles do not name `dummy_query_bo`. -/
structure Env where
  numPages : BufId → Nat
  /-- `sou_priv` is there. -/
  sou : Bool
  dummyQueryBo : BufId
  fbBuffer : Nat → BufId
  backup : ResId → Option BufId
  guestBacked : ResId → Bool
  fb_ne : ∀ f, fbBuffer f ≠ dummyQueryBo
  backup_ne : ∀ r, backup r ≠ some dummyQueryBo

/-- `res->func->backup_placement`. -/
def Env.backupPlacement (env : Env) (r : ResId) : Placement :=
  if env.guestBacked r then vmwMobPlacement else vmwSrfPlacement

/-- A pin that was made and not undone since, with where it found the buffer. -/
structure Pin where
  owner : Owner
  buf : BufId
  place : Place
  deriving DecidableEq, Repr

structure State where
  buf : BufId → VmwDmaBuffer
  pinnedBo : Option BufId
  pinCount : ResId → Nat
  pins : List Pin

namespace State

variable (s : State)

def setBuf (b : BufId) (v : VmwDmaBuffer) : State := { s with buf := Function.update s.buf b v }

def pinFor (o : Owner) (b : BufId) : State :=
  { s with pins := ⟨o, b, (s.buf b).place⟩ :: s.pins.filter (·.owner ≠ o) }

def unpinFor (o : Owner) : State := { s with pins := s.pins.filter (·.owner ≠ o) }

def setPinCount (r : ResId) (n : Nat) : State := { s with pinCount := Function.update s.pinCount r n }

end State

/-- How a `ttm_bo_validate` that moves the buffer turns out. -/
structure Validate where
  /-- The buffers that make room. -/
  evicted : List BufId
  ret : Int
  place : Place

/-- Memory of type `TTM_PL_SYSTEM` has no node. -/
def inRange (env : Env) (p : Placement) (b : BufId) (place : Place) : Bool :=
  place.memType = .system ∨ p.lpfn = 0 ∨ place.start + env.numPages b ≤ p.lpfn

def ttmBoMemCompat (env : Env) (p : Placement) (b : BufId) (place : Place) : Bool :=
  inRange env p b place ∧ place.memType ∈ p.placement

/-- `ttm_bo_validate`. A buffer of type `TTM_PL_SYSTEM` has had its `ttm` since it was created. -/
def ttmBoValidate (env : Env) (s : State) (b : BufId) (p : Placement) (o : Validate) : Option (Int × State) :=
  if p.lpfn ≠ 0 ∧ p.lpfn < env.numPages b then some (-EINVAL, s)
  else if ttmBoMemCompat env p b (s.buf b).place then some (0, s.setBuf b ⟨(s.buf b).place, p.noEvict⟩)
  else if ∃ v ∈ o.evicted, v = b ∨ (s.buf v).noEvict = true then none
  else
    let s := o.evicted.foldl (fun s v => s.setBuf v ⟨⟨.system, 0⟩, false⟩) s
    if o.ret ≠ 0 then some (o.ret, s)
    else if o.place.memType ∈ p.placement ++ p.busyPlacement ∧ inRange env p b o.place then
      some (0, s.setBuf b ⟨o.place, p.noEvict⟩)
    else none

/-- `vmw_bo_pin`: every memory type is in its placement. -/
def vmwBoPin (s : State) (b : BufId) (pin : Bool) : State := s.setBuf b ⟨(s.buf b).place, pin⟩

/-- `__vmw_execbuf_release_pinned_bo`. -/
def releasePinnedBo (env : Env) (s : State) : State :=
  match s.pinnedBo with
  | none => s
  | some b =>
    let s := vmwBoPin (vmwBoPin s b false) env.dummyQueryBo false
    ({ s with pinnedBo := none }.unpinFor .query).unpinFor .dummyQuery

/-- `vmw_execbuf_release_pinned_bo`. -/
def vmwExecbufReleasePinnedBo (env : Env) (s : State) (queryCidValid : Bool) : State :=
  if queryCidValid then releasePinnedBo env s else s

/-- How the calls of a `vmw_dmabuf_to_*` turn out. -/
structure Move where
  /-- `ttm_write_lock`. -/
  lock : Int
  queryCidValid : Bool
  /-- `ttm_bo_reserve`. -/
  reserve : Int
  toSys : Validate
  validate : Validate
  again : Validate

def vmwDmabufToPlacement (env : Env) (s : State) (b : BufId) (p : Placement) (o : Move) : Option (Int × State) :=
  if o.lock ≠ 0 then some (o.lock, s)
  else
    let s := vmwExecbufReleasePinnedBo env s o.queryCidValid
    if o.reserve ≠ 0 then some (o.reserve, s) else ttmBoValidate env s b p o.validate

def vmwDmabufToVramOrGmr (env : Env) (s : State) (b : BufId) (pin : Bool) (o : Move) : Option (Int × State) :=
  if o.lock ≠ 0 then some (o.lock, s)
  else
    let s := if pin then vmwExecbufReleasePinnedBo env s o.queryCidValid else s
    if o.reserve ≠ 0 then some (o.reserve, s)
    else
      (ttmBoValidate env s b (if pin then vmwVramGmrNePlacement else vmwVramGmrPlacement) o.validate).bind fun (ret, s) =>
        if ret = 0 ∨ ret = -ERESTARTSYS then some (ret, s)
        else ttmBoValidate env s b (if pin then vmwVramNePlacement else vmwVramPlacement) o.again

def vmwDmabufToVram (env : Env) (s : State) (b : BufId) (pin : Bool) (o : Move) : Option (Int × State) :=
  vmwDmabufToPlacement env s b (if pin then vmwVramNePlacement else vmwVramPlacement) o

/-- The placement of `vmw_dmabuf_to_start_of_vram`. -/
def startOfVram (env : Env) (b : BufId) (pin : Bool) : Placement :=
  { (if pin then vmwVramNePlacement else vmwVramPlacement) with lpfn := env.numPages b }

def vmwDmabufToStartOfVram (env : Env) (s : State) (b : BufId) (pin : Bool) (o : Move) : Option (Int × State) :=
  if o.lock ≠ 0 then some (o.lock, s)
  else
    let s := if pin then vmwExecbufReleasePinnedBo env s o.queryCidValid else s
    if o.reserve ≠ 0 then some (o.reserve, s)
    else
      -- in vram already, but not at the start of it
      (if (s.buf b).place.memType = .vram ∧ (s.buf b).place.start < env.numPages b ∧ 0 < (s.buf b).place.start then
        (ttmBoValidate env s b vmwSysPlacement o.toSys).map (·.2)
      else some s).bind fun s => ttmBoValidate env s b (startOfVram env b pin) o.validate

def vmwDmabufUnpin (env : Env) (s : State) (b : BufId) (o : Move) : Option (Int × State) :=
  vmwDmabufToPlacement env s b vmwEvictablePlacement o

def vmwOverlayMoveBuffer (env : Env) (s : State) (b : BufId) (pin : Bool) (o : Move) : Option (Int × State) :=
  if ¬ pin then vmwDmabufUnpin env s b o
  else if ¬ env.sou then vmwDmabufToVram env s b true o
  else vmwDmabufToVramOrGmr env s b true o

/-- The old query buffer of a switch. -/
def unpinOldQueryBo (s : State) : State :=
  match s.pinnedBo with
  | none => s
  | some b => { vmwBoPin s b false with pinnedBo := none }.unpinFor .query

/-- `vmw_query_bo_switch_commit`. -/
def vmwQueryBoSwitchCommit (env : Env) (s : State) (curQueryBo : BufId) (needsPostQueryBarrier : Bool) : State :=
  if s.pinnedBo = some curQueryBo then s
  else
    let s := unpinOldQueryBo s
    if needsPostQueryBarrier then s
    else
      let s := (vmwBoPin s curQueryBo true).pinFor .query curQueryBo
      let s := (vmwBoPin s env.dummyQueryBo true).pinFor .dummyQuery env.dummyQueryBo
      { s with pinnedBo := some curQueryBo }

/-- How the calls of a `vmw_resource_pin` turn out. -/
structure ResourcePin where
  /-- `vmw_resource_reserve`. -/
  resReserve : Int
  /-- `ttm_bo_validate` of the backup. -/
  validate : Validate
  /-- `vmw_resource_validate`. -/
  resValidate : Int

def vmwResourcePin (env : Env) (s : State) (r : ResId) (o : ResourcePin) : Option (Int × State) :=
  if o.resReserve ≠ 0 then some (o.resReserve, s)
  else if s.pinCount r ≠ 0 then some (0, s.setPinCount r (s.pinCount r + 1))
  else
    match env.backup r with
    | none => if o.resValidate ≠ 0 then some (o.resValidate, s) else some (0, s.setPinCount r 1)
    | some b =>
      (ttmBoValidate env s b (env.backupPlacement r) o.validate).map fun (ret, s) =>
        if ret ≠ 0 then (ret, s)
        else
          let s := vmwBoPin s b true
          if o.resValidate ≠ 0 then (o.resValidate, s) else (0, (s.pinFor (.resource r) b).setPinCount r 1)

def vmwResourceUnpin (env : Env) (s : State) (r : ResId) : State :=
  let s := s.setPinCount r (s.pinCount r - 1)
  if s.pinCount r = 0 then
    match env.backup r with
    | none => s
    | some b => (vmwBoPin s b false).unpinFor (.resource r)
  else s

inductive Act
  | overlayPin (i : Nat) (b : BufId) (o : Move)
  | overlayUnpin (i : Nat) (b : BufId) (o : Move)
  | framebufferPin (f : Nat) (o : Move)
  | framebufferUnpin (f : Nat) (o : Move)
  | querySwitch (curQueryBo : BufId) (needsPostQueryBarrier : Bool)
  | queryRelease
  | resourcePin (r : ResId) (o : ResourcePin)
  | resourceUnpin (r : ResId)
  /-- Something else moves a buffer that may be evicted. -/
  | move (b : BufId) (place : Place)

/-- What the owner has done once an operation is through. -/
def done (f : State → State) (p : Int × State) : State := if p.1 = 0 then f p.2 else p.2

/-- A stream has one buffer, and unpins what it has pinned. -/
def step (env : Env) (s : State) : Act → Option State
  | .overlayPin i b o =>
    if b = env.dummyQueryBo ∨ ∃ e ∈ s.pins, e.owner = .stream i ∧ e.buf ≠ b then none
    else (vmwOverlayMoveBuffer env s b true o).map (done fun s => s.pinFor (.stream i) b)
  | .overlayUnpin i b o =>
    if b = env.dummyQueryBo ∨ ∃ e ∈ s.pins, e.owner = .stream i ∧ e.buf ≠ b then none
    else (vmwOverlayMoveBuffer env s b false o).map (done fun s => s.unpinFor (.stream i))
  | .framebufferPin f o =>
    (vmwDmabufToStartOfVram env s (env.fbBuffer f) true o).map
      (done fun s => s.pinFor (.framebuffer f) (env.fbBuffer f))
  | .framebufferUnpin f o =>
    (vmwDmabufUnpin env s (env.fbBuffer f) o).map (done fun s => s.unpinFor (.framebuffer f))
  | .querySwitch curQueryBo barrier =>
    if curQueryBo = env.dummyQueryBo then none else some (vmwQueryBoSwitchCommit env s curQueryBo barrier)
  | .queryRelease => some (releasePinnedBo env s)
  | .resourcePin r o => (vmwResourcePin env s r o).map (·.2)
  | .resourceUnpin r => if s.pinCount r = 0 then none else some (vmwResourceUnpin env s r)
  | .move b place => if (s.buf b).noEvict then none else some (s.setBuf b ⟨place, false⟩)

/-- No pins yet. -/
def State.init (place : BufId → Place) : State := ⟨fun b => ⟨place b, false⟩, none, fun _ => 0, []⟩

/-- What an owner has pinned stays where it is, and the rest may be evicted. -/
structure Independent (s : State) : Prop where
  kept : ∀ e ∈ s.pins, s.buf e.buf = ⟨e.place, true⟩
  evictable : ∀ b, (∀ e ∈ s.pins, e.buf ≠ b) → (s.buf b).noEvict = false

section Apart

/-- No other owner has the buffer pinned. -/
def Alone (s : State) (o : Owner) (b : BufId) : Prop := ∀ e ∈ s.pins, e.buf = b → e.owner = o

/-- A buffer that is pinned is where the placement wants it. -/
def Settled (env : Env) (s : State) (b : BufId) (p : Placement) : Prop :=
  (∃ e ∈ s.pins, e.buf = b) → ttmBoMemCompat env p b (s.buf b).place = true

/-- The query buffer is not pinned by someone else when it is released. -/
def ReleaseAlone (s : State) : Prop := ∀ b ∈ s.pinnedBo, Alone s .query b

/-- A `vmw_dmabuf_to_*` that gets its locks. -/
def MoveApart (env : Env) (s : State) (o : Move) (cond : State → Prop) : Prop :=
  o.lock = 0 → (o.queryCidValid = true → ReleaseAlone s) ∧
    (o.reserve = 0 → cond (vmwExecbufReleasePinnedBo env s o.queryCidValid))

/-- Owners keep their hands off the buffers of others. -/
def Apart (env : Env) (s : State) : Act → Prop
  | .overlayPin _ b o => MoveApart env s o fun s =>
    Settled env s b (if env.sou then vmwVramGmrNePlacement else vmwVramNePlacement)
  | .overlayUnpin i b o => MoveApart env s o fun s => Alone s (.stream i) b
  | .framebufferPin f o => MoveApart env s o fun s => Settled env s (env.fbBuffer f) (startOfVram env (env.fbBuffer f) true)
  | .framebufferUnpin f o => MoveApart env s o fun s => Alone s (.framebuffer f) (env.fbBuffer f)
  | .querySwitch curQueryBo _ => s.pinnedBo ≠ some curQueryBo → ReleaseAlone s
  | .queryRelease => ReleaseAlone s
  | .resourcePin r o => o.resReserve = 0 → s.pinCount r = 0 → ∀ b ∈ env.backup r,
    Settled env s b (env.backupPlacement r) ∧ (o.resValidate ≠ 0 → ∃ e ∈ s.pins, e.buf = b)
  | .resourceUnpin r => s.pinCount r = 1 → ∀ b ∈ env.backup r, Alone s (.resource r) b
  | .move .. => True

end Apart

end Vmwgfx.Pins
