import Vmwgfx.Execbuf.Batch

/-! The cache of the last handles, and the slow path that it stands for. -/

namespace Vmwgfx.Execbuf

open Vmwgfx.Hashtab Vmwgfx.Lib

variable {hashLong : HashLong}

section Program

/-- `vmw_cmd_res_check` without its fast path. -/
def vmwCmdResCheckUncached (env : Env) (resType : ResType) (idLoc : Nat) : Verify hashLong (Option ResId) := do
  let id ← load idLoc
  if id = svga3dInvalidId then
    if resType = .context then fail (-EINVAL) else return none
  else
    match ← ask (env.lookup · resType id) with
    | none => fail (-EINVAL)
    | some res => do
      update (·.reference res)
      update (·.setCache resType ⟨id, res, none⟩)
      let node ← setErrorResource res (vmwCmdResRelocAdd env resType idLoc res)
      update (·.setCache resType ⟨id, res, node⟩)
      update (·.unreference res)
      return node

/-- The object table, which a batch does not change. -/
abbrev ObjectTable := ResType → Nat → Option ResId

namespace Cache

inductive Op
  | resCheck (resType : ResType) (idLoc : Nat)
  /-- The direct call of `vmw_cmd_set_shader`. -/
  | resRelocAdd (resType : ResType) (idLoc : Nat) (res : ResId)

/-- A call, with the answers of its allocations in order and the resources bound to each context. -/
structure Call where
  op : Op
  kmalloc : Nat → Bool
  bindingList : ResId → List ResId

variable (base : Env) (table : ObjectTable)

/-- What a call asks of the kernel.  The look-up comes first, at time 0; the fast path does without. -/
def Call.env (c : Call) : Env :=
  { base with
    kmalloc := fun t => c.kmalloc (t - 1)
    lookup := fun _ => table
    bindingList := fun _ => c.bindingList }

def at0 {α : Type} : EStateM.Result Stop (State hashLong) α → EStateM.Result Stop (State hashLong) α
  | .ok a t => .ok a { t with tick := 0 }
  | .error e t => .error e { t with tick := 0 }

/-- One call; `check` is `vmw_cmd_res_check`, with the cache or without. -/
def Call.run (check : Env → ResType → Nat → Verify hashLong (Option ResId)) (c : Call) :
    Verify hashLong (Option ResId) := fun s =>
  match c.op with
  | .resCheck resType idLoc => at0 (check (c.env base table) resType idLoc { s with tick := 0 })
  | .resRelocAdd resType idLoc res =>
    at0 (vmwCmdResRelocAdd (c.env base table) resType idLoc res { s with tick := 1 })

/-- The batch ends with the first call that fails. -/
def runCalls (check : Env → ResType → Nat → Verify hashLong (Option ResId)) :
    List Call → Verify hashLong (List (Option ResId))
  | [] => return []
  | c :: cs => do
    let node ← c.run base table check
    let nodes ← runCalls check cs
    return node :: nodes

abbrev runCached (cs : List Call) : Verify hashLong (List (Option ResId)) := runCalls base table vmwCmdResCheck cs

abbrev runUncached (cs : List Call) : Verify hashLong (List (Option ResId)) :=
  runCalls base table vmwCmdResCheckUncached cs

end Cache

end Program

namespace Cache

section Claim

variable (base : Env) (table : ObjectTable)

/-- The state a run ends in, and how it ends. -/
def outcome {α : Type} : EStateM.Result Stop (State hashLong) α → Except Stop α × State hashLong
  | .ok a t => (.ok a, t)
  | .error e t => (.error e, t)

/-- Two runs have the same outcome. -/
structure Agree {α : Type} (x y : EStateM.Result Stop (State hashLong) α) : Prop where
  ret : (outcome x).1 = (outcome y).1
  resRelocations : (outcome x).2.resRelocations = (outcome y).2.resRelocations
  resourceList : (outcome x).2.resourceList = (outcome y).2.resourceList
  firstUsage : ∀ r, ((outcome x).2.node r).map (·.firstUsage) = ((outcome y).2.node r).map (·.firstUsage)
  staged : ∀ r, (outcome x).2.staged r = (outcome y).2.staged r
  kref : (outcome x).2.shaders.world.kref = (outcome y).2.shaders.world.kref

/-- The entry that the fast path takes. -/
def hit (s : State hashLong) : Op → Option ResCacheEntry
  | .resCheck resType idLoc =>
    if s.mem.read32 idLoc = svga3dInvalidId then none
    else (s.resCache resType).filter fun rcache => s.mem.read32 idLoc = rcache.handle
  | .resRelocAdd _ _ _ => none

/-- A hit finds a node, and memory for its relocation. -/
def Call.Good (c : Call) (s : State hashLong) : Prop :=
  ∀ rcache, hit s c.op = some rcache → rcache.node ≠ none ∧ c.kmalloc 0 = true

/-- All hits of a run are good. -/
def GoodHits : List Call → State hashLong → Prop
  | [], _ => True
  | c :: cs, s => c.Good s ∧ ∀ node t, c.run base table vmwCmdResCheck s = .ok node t → GoodHits cs t

end Claim

section Steps

variable {base : Env} {table : ObjectTable} {c : Call} {s t : State hashLong}

/-- The invariant is about the object table, not about the call. -/
theorem inv_env (hs : Inv (c.env base table) s) (c' : Call) : Inv (c'.env base table) s where
  res := hs.res
  buf := hs.buf
  cache := hs.cache
  nodup := hs.nodup
  mem_iff := hs.mem_iff
  staged := hs.staged
  bound := hs.bound

theorem inv_tick {env : Env} (hs : Inv env s) (n : Nat) : Inv env { s with tick := n } :=
  (Same.of_rel rfl rfl rfl rfl rfl rfl rfl rfl rfl : Same s { s with tick := n }).inv hs

theorem at0_eq_ok {α : Type} {x : EStateM.Result Stop (State hashLong) α} {a : α} (h : at0 x = .ok a t) :
    ∃ u, x = .ok a u ∧ t = { u with tick := 0 } := by
  cases x with
  | ok a' u =>
    cases h
    exact ⟨u, rfl, rfl⟩
  | error e u => cases h

theorem inv_run (hs : Inv (c.env base table) s) {node : Option ResId}
    (h : c.run base table vmwCmdResCheck s = .ok node t) : Inv (c.env base table) t := by
  unfold Call.run at h
  split at h
  · obtain ⟨u, hu, rfl⟩ := at0_eq_ok h
    obtain ⟨r, hfound⟩ := vmwCmdResCheck_ok (inv_tick hs 0) hu
    exact inv_tick hfound.did.inv 0
  · obtain ⟨u, hu, rfl⟩ := at0_eq_ok h
    exact inv_tick (vmwCmdResRelocAdd_ok (inv_tick hs 1) hu).1.inv 0

/-- Without a hit the two checks are one. -/
theorem vmwCmdResCheck_miss {env : Env} {resType : ResType} {idLoc : Nat}
    (h : hit s (.resCheck resType idLoc) = none) :
    vmwCmdResCheck env resType idLoc s = vmwCmdResCheckUncached env resType idLoc s := by
  have hload : load idLoc s = .ok (s.mem.read32 idLoc) { s with events := s.events ++ [.read idLoc 4] } := rfl
  unfold vmwCmdResCheck vmwCmdResCheckUncached
  rw [bind_of_ok hload, bind_of_ok hload]
  dsimp only [hit] at h
  by_cases hid : s.mem.read32 idLoc = svga3dInvalidId
  · rw [if_pos hid, if_pos hid]
  · rw [if_neg hid] at h
    rw [if_neg hid, if_neg hid]
    have hentry : cachedEntry resType (s.mem.read32 idLoc) { s with events := s.events ++ [.read idLoc 4] } =
        .ok none { s with events := s.events ++ [.read idLoc 4] } := congrArg (EStateM.Result.ok · _) h
    exact bind_of_ok hentry

section Hit

variable {env : Env} {resType : ResType} {idLoc handle : Nat} {res : ResId} {n : ValNode}

theorem hit_eq_some {op : Op} {rcache : ResCacheEntry} (h : hit s op = some rcache) :
    ∃ resType idLoc, op = .resCheck resType idLoc ∧ s.mem.read32 idLoc ≠ svga3dInvalidId ∧
      s.resCache resType = some rcache ∧ s.mem.read32 idLoc = rcache.handle := by
  cases op with
  | resRelocAdd resType idLoc res => cases h
  | resCheck resType idLoc =>
    dsimp only [hit] at h
    split at h
    · cases h
    · rename_i hid
      obtain ⟨hentry, hhandle⟩ := Option.filter_eq_some_iff.mp h
      exact ⟨resType, idLoc, rfl, hid, hentry, of_decide_eq_true hhandle⟩

/-- The state after an allocation and the relocation that it is for. -/
def State.relocated (s : State hashLong) (rel : ResourceRelocation) : State hashLong :=
  { s with
    tick := s.tick + 1
    events := s.events ++ [.resReloc rel]
    resRelocations := s.resRelocations ++ [rel] }

theorem vmwResourceRelocationAdd_room {r : Option ResId} {offset : Nat} (h : env.kmalloc s.tick = true) :
    vmwResourceRelocationAdd env r offset s = .ok () (State.relocated s ⟨r, offset⟩) := by
  have hask : ask env.kmalloc s = .ok true { s with tick := s.tick + 1 } := by
    unfold ask
    rw [h]
  unfold vmwResourceRelocationAdd
  rw [bind_of_ok hask]
  rfl

theorem vmwResourceRelocationAdd_full {r : Option ResId} {offset : Nat} (h : env.kmalloc s.tick = false) :
    vmwResourceRelocationAdd env r offset s = .error (.errno (-ENOMEM)) { s with tick := s.tick + 1 } := by
  have hask : ask env.kmalloc s = .ok false { s with tick := s.tick + 1 } := by
    unfold ask
    rw [h]
  unfold vmwResourceRelocationAdd
  rw [bind_of_ok hask]
  rfl

/-- The fast path from the entry on. -/
theorem vmwCmdResCheck_hit {rcache : ResCacheEntry} (hid : s.mem.read32 idLoc ≠ svga3dInvalidId)
    (hentry : s.resCache resType = some rcache) (hhandle : s.mem.read32 idLoc = rcache.handle) :
    vmwCmdResCheck env resType idLoc s =
      (match rcache.node with
        | none => oops
        | some node => do
          update (clearFirstUsage node)
          vmwResourceRelocationAdd env (some rcache.res) (env.offset idLoc)
          return some node : Verify hashLong (Option ResId)) { s with events := s.events ++ [.read idLoc 4] } := by
  have hload : load idLoc s = .ok (s.mem.read32 idLoc) { s with events := s.events ++ [.read idLoc 4] } := rfl
  have hfilter : (s.resCache resType).filter (fun rcache => s.mem.read32 idLoc = rcache.handle) = some rcache :=
    Option.filter_eq_some_iff.mpr ⟨hentry, decide_eq_true hhandle⟩
  have hcached : cachedEntry resType (s.mem.read32 idLoc) { s with events := s.events ++ [.read idLoc 4] } =
      .ok (some rcache) { s with events := s.events ++ [.read idLoc 4] } := congrArg (EStateM.Result.ok · _) hfilter
  unfold vmwCmdResCheck
  rw [bind_of_ok hload, if_neg hid]
  exact bind_of_ok hcached

/-- The slow path from the resource on. -/
theorem vmwCmdResCheckUncached_found (hid : s.mem.read32 idLoc ≠ svga3dInvalidId)
    (hlookup : env.lookup s.tick resType (s.mem.read32 idLoc) = some res) :
    vmwCmdResCheckUncached env resType idLoc s =
      (do
        update (·.reference res)
        update (·.setCache resType ⟨s.mem.read32 idLoc, res, none⟩)
        let node ← setErrorResource res (vmwCmdResRelocAdd env resType idLoc res)
        update (·.setCache resType ⟨s.mem.read32 idLoc, res, node⟩)
        update (·.unreference res)
        return node : Verify hashLong (Option ResId))
        { s with events := s.events ++ [.read idLoc 4], tick := s.tick + 1 } := by
  have hload : load idLoc s = .ok (s.mem.read32 idLoc) { s with events := s.events ++ [.read idLoc 4] } := rfl
  have hask : ask (env.lookup · resType (s.mem.read32 idLoc)) { s with events := s.events ++ [.read idLoc 4] } =
      .ok (some res) { s with events := s.events ++ [.read idLoc 4], tick := s.tick + 1 } :=
    congrArg (EStateM.Result.ok · _) hlookup
  unfold vmwCmdResCheckUncached
  rw [bind_of_ok hload, if_neg hid]
  exact bind_of_ok hask

/-- A resource that has its node takes nothing but the relocation. -/
theorem vmwCmdResRelocAdd_again (hnode : s.node res = some n) (h : env.kmalloc s.tick = true) :
    vmwCmdResRelocAdd env resType idLoc res s =
      .ok (some res) ((State.relocated s ⟨some res, env.offset idLoc⟩).setNode res { n with firstUsage := false }) := by
  have hfind : findNode res (State.relocated s ⟨some res, env.offset idLoc⟩) =
      .ok (some n) (State.relocated s ⟨some res, env.offset idLoc⟩) := congrArg (EStateM.Result.ok · _) hnode
  have hval : vmwResourceValAdd env res (State.relocated s ⟨some res, env.offset idLoc⟩) =
      .ok () ((State.relocated s ⟨some res, env.offset idLoc⟩).setNode res { n with firstUsage := false }) := by
    unfold vmwResourceValAdd
    exact bind_of_ok hfind
  have hfirst (u : State hashLong) :
      isFirstUsage res (u.setNode res { n with firstUsage := false }) =
        .ok false (u.setNode res { n with firstUsage := false }) := by
    unfold isFirstUsage
    rw [setNode_node, if_pos rfl]
    rfl
  unfold vmwCmdResRelocAdd
  rw [bind_of_ok (vmwResourceRelocationAdd_room h), bind_of_ok hval, bind_of_ok (hfirst _)]
  rw [if_neg fun hc => Bool.noConfusion hc.2.2]
  rfl

theorem vmwCmdResRelocAdd_full (h : env.kmalloc s.tick = false) :
    vmwCmdResRelocAdd env resType idLoc res s = .error (.errno (-ENOMEM)) { s with tick := s.tick + 1 } := by
  unfold vmwCmdResRelocAdd
  exact bind_of_error (vmwResourceRelocationAdd_full h)

theorem unreference_reference (kref : Krefs) (r : ResId) :
    vmwResourceUnreference (vmwResourceReference kref r) r = kref := by
  funext x
  rw [vmwResourceUnreference_apply, vmwResourceReference_apply]
  omega

/-- What both paths come to for a resource that has its node. -/
def State.again (s : State hashLong) (env : Env) (idLoc : Nat) (res : ResId) (n : ValNode) : State hashLong :=
  State.setNode { s with
    events := s.events ++ [.read idLoc 4] ++ [.resReloc ⟨some res, env.offset idLoc⟩]
    resRelocations := s.resRelocations ++ [⟨some res, env.offset idLoc⟩]
    tick := 0 } res { n with firstUsage := false }

theorem clearFirstUsage_of_node {u : State hashLong} (hn : u.node res = some n) :
    clearFirstUsage res u = u.setNode res { n with firstUsage := false } := by
  unfold clearFirstUsage
  rw [hn]

theorem fast_eq (hid : s.mem.read32 idLoc ≠ svga3dInvalidId)
    (hentry : s.resCache resType = some ⟨s.mem.read32 idLoc, res, some res⟩) (hn : s.node res = some n)
    (hroom : env.kmalloc s.tick = true) :
    at0 (vmwCmdResCheck env resType idLoc s) = .ok (some res) (State.again s env idLoc res n) := by
  rw [vmwCmdResCheck_hit hid hentry rfl]
  have hclear : update (clearFirstUsage res) { s with events := s.events ++ [.read idLoc 4] } =
      .ok () (State.setNode { s with events := s.events ++ [.read idLoc 4] } res { n with firstUsage := false }) :=
    congrArg (EStateM.Result.ok ()) (clearFirstUsage_of_node hn)
  have hreloc : vmwResourceRelocationAdd env (some res) (env.offset idLoc)
      (State.setNode { s with events := s.events ++ [.read idLoc 4] } res { n with firstUsage := false }) =
        .ok () (State.relocated (State.setNode { s with events := s.events ++ [.read idLoc 4] } res
          { n with firstUsage := false }) ⟨some res, env.offset idLoc⟩) := vmwResourceRelocationAdd_room hroom
  dsimp only
  rw [bind_of_ok hclear, bind_of_ok hreloc]
  rfl

/-- The slow path with the reference of the look-up, before it adds the relocation. -/
def State.lookedUp (s : State hashLong) (resType : ResType) (idLoc : Nat) (res : ResId) : State hashLong :=
  (State.reference { s with events := s.events ++ [.read idLoc 4], tick := s.tick + 1 } res).setCache resType
    ⟨s.mem.read32 idLoc, res, none⟩

theorem slow_eq (hid : s.mem.read32 idLoc ≠ svga3dInvalidId)
    (hentry : s.resCache resType = some ⟨s.mem.read32 idLoc, res, some res⟩) (hn : s.node res = some n)
    (hlookup : env.lookup s.tick resType (s.mem.read32 idLoc) = some res) (hroom : env.kmalloc (s.tick + 1) = true) :
    at0 (vmwCmdResCheckUncached env resType idLoc s) = .ok (some res) (State.again s env idLoc res n) := by
  rw [vmwCmdResCheckUncached_found hid hlookup]
  have hadd : setErrorResource res (vmwCmdResRelocAdd env resType idLoc res) (State.lookedUp s resType idLoc res) =
      .ok (some res) ((State.relocated (State.lookedUp s resType idLoc res) ⟨some res, env.offset idLoc⟩).setNode res
        { n with firstUsage := false }) :=
    onError_ok.mpr (vmwCmdResRelocAdd_again hn hroom)
  have hback : Function.update (Function.update s.resCache resType (some ⟨s.mem.read32 idLoc, res, none⟩)) resType
      (some ⟨s.mem.read32 idLoc, res, some res⟩) = s.resCache := by
    rw [Function.update_idem, ← hentry, Function.update_eq_self]
  have hrun : (do
        update (·.reference res)
        update (·.setCache resType ⟨s.mem.read32 idLoc, res, none⟩)
        let node ← setErrorResource res (vmwCmdResRelocAdd env resType idLoc res)
        update (·.setCache resType ⟨s.mem.read32 idLoc, res, node⟩)
        update (·.unreference res)
        return node : Verify hashLong (Option ResId))
          { s with events := s.events ++ [.read idLoc 4], tick := s.tick + 1 } =
      (do
        let node ← setErrorResource res (vmwCmdResRelocAdd env resType idLoc res)
        update (·.setCache resType ⟨s.mem.read32 idLoc, res, node⟩)
        update (·.unreference res)
        return node : Verify hashLong (Option ResId)) (State.lookedUp s resType idLoc res) := rfl
  rw [hrun, bind_of_ok hadd]
  refine congrArg (EStateM.Result.ok (some res)) ?_
  simp only [State.again, State.lookedUp, State.relocated, State.setNode, State.setCache, State.reference,
    State.unreference, unreference_reference, hback]

/-- The two paths meet. -/
theorem run_hit_good (hs : Inv (c.env base table) s) (hop : c.op = .resCheck resType idLoc)
    (hid : s.mem.read32 idLoc ≠ svga3dInvalidId) {rcache : ResCacheEntry} (hentry : s.resCache resType = some rcache)
    (hhandle : s.mem.read32 idLoc = rcache.handle) (hnode : rcache.node ≠ none) (hroom : c.kmalloc 0 = true) :
    c.run base table vmwCmdResCheck s = c.run base table vmwCmdResCheckUncached s := by
  obtain ⟨⟨_, hfound⟩, hcached⟩ := hs.cache resType rcache hentry
  obtain ⟨handle, res, node⟩ := rcache
  cases node with
  | none => exact absurd rfl hnode
  | some node =>
    obtain ⟨rfl, hlisted⟩ := hcached node rfl
    obtain ⟨n, hn⟩ := Option.ne_none_iff_exists'.mp hlisted
    subst hhandle
    unfold Call.run
    rw [hop]
    have hentry' : ({ s with tick := 0 } : State hashLong).resCache resType =
      some ⟨s.mem.read32 idLoc, node, some node⟩ := hentry
    have hfast : at0 (vmwCmdResCheck (c.env base table) resType idLoc { s with tick := 0 }) =
        .ok (some node) (State.again { s with tick := 0 } (c.env base table) idLoc node n) :=
      fast_eq hid hentry' hn hroom
    have hslow : at0 (vmwCmdResCheckUncached (c.env base table) resType idLoc { s with tick := 0 }) =
        .ok (some node) (State.again { s with tick := 0 } (c.env base table) idLoc node n) :=
      slow_eq hid hentry' hn hfound hroom
    exact hfast.trans hslow.symm

/-- The two paths are one call where the call is good. -/
theorem run_good (hs : Inv (c.env base table) s) (hgood : c.Good s) :
    c.run base table vmwCmdResCheck s = c.run base table vmwCmdResCheckUncached s := by
  cases hhit : hit s c.op with
  | none =>
    unfold Call.run
    cases hop : c.op with
    | resRelocAdd resType idLoc res => rfl
    | resCheck resType idLoc =>
      rw [hop] at hhit
      exact congrArg at0 (vmwCmdResCheck_miss hhit)
  | some rcache =>
    obtain ⟨hnode, hroom⟩ := hgood rcache hhit
    obtain ⟨resType, idLoc, hop, hid, hentry, hhandle⟩ := hit_eq_some hhit
    exact run_hit_good hs hop hid hentry hhandle hnode hroom

theorem null_eq {rcache : ResCacheEntry} (hid : s.mem.read32 idLoc ≠ svga3dInvalidId)
    (hentry : s.resCache resType = some rcache) (hhandle : s.mem.read32 idLoc = rcache.handle)
    (hnode : rcache.node = none) :
    vmwCmdResCheck env resType idLoc s = .error .oops { s with events := s.events ++ [.read idLoc 4] } := by
  rw [vmwCmdResCheck_hit hid hentry hhandle, hnode]
  rfl

theorem fast_full (hid : s.mem.read32 idLoc ≠ svga3dInvalidId)
    (hentry : s.resCache resType = some ⟨s.mem.read32 idLoc, res, some res⟩) (hn : s.node res = some n)
    (hfull : env.kmalloc s.tick = false) :
    ∃ t, vmwCmdResCheck env resType idLoc s = .error (.errno (-ENOMEM)) t ∧
      t.shaders.world.kref = s.shaders.world.kref := by
  rw [vmwCmdResCheck_hit hid hentry rfl]
  have hclear : update (clearFirstUsage res) { s with events := s.events ++ [.read idLoc 4] } =
      .ok () (State.setNode { s with events := s.events ++ [.read idLoc 4] } res { n with firstUsage := false }) :=
    congrArg (EStateM.Result.ok ()) (clearFirstUsage_of_node hn)
  have hreloc : vmwResourceRelocationAdd env (some res) (env.offset idLoc)
      (State.setNode { s with events := s.events ++ [.read idLoc 4] } res { n with firstUsage := false }) =
        .error (.errno (-ENOMEM)) { State.setNode { s with events := s.events ++ [.read idLoc 4] } res
          { n with firstUsage := false } with tick := s.tick + 1 } := vmwResourceRelocationAdd_full hfull
  dsimp only
  rw [bind_of_ok hclear, bind_of_error hreloc]
  exact ⟨_, rfl, rfl⟩

theorem slow_full (hid : s.mem.read32 idLoc ≠ svga3dInvalidId)
    (hlookup : env.lookup s.tick resType (s.mem.read32 idLoc) = some res) (hfull : env.kmalloc (s.tick + 1) = false) :
    ∃ u, vmwCmdResCheckUncached env resType idLoc s = .error (.errno (-ENOMEM)) u ∧
      u.shaders.world.kref = vmwResourceReference s.shaders.world.kref res := by
  rw [vmwCmdResCheckUncached_found hid hlookup]
  have hfail : vmwCmdResRelocAdd env resType idLoc res (State.lookedUp s resType idLoc res) =
      .error (.errno (-ENOMEM)) { State.lookedUp s resType idLoc res with tick := s.tick + 2 } :=
    vmwCmdResRelocAdd_full hfull
  have hadd : setErrorResource res (vmwCmdResRelocAdd env resType idLoc res) (State.lookedUp s resType idLoc res) =
      .error (.errno (-ENOMEM)) { State.lookedUp s resType idLoc res with tick := s.tick + 2, errorResource := some res } := by
    unfold setErrorResource onError
    rw [hfail]
  have hrun : (do
        update (·.reference res)
        update (·.setCache resType ⟨s.mem.read32 idLoc, res, none⟩)
        let node ← setErrorResource res (vmwCmdResRelocAdd env resType idLoc res)
        update (·.setCache resType ⟨s.mem.read32 idLoc, res, node⟩)
        update (·.unreference res)
        return node : Verify hashLong (Option ResId))
          { s with events := s.events ++ [.read idLoc 4], tick := s.tick + 1 } =
      (do
        let node ← setErrorResource res (vmwCmdResRelocAdd env resType idLoc res)
        update (·.setCache resType ⟨s.mem.read32 idLoc, res, node⟩)
        update (·.unreference res)
        return node : Verify hashLong (Option ResId)) (State.lookedUp s resType idLoc res) := rfl
  rw [hrun, bind_of_error hadd]
  exact ⟨_, rfl, rfl⟩

theorem at0_error {α : Type} {x : EStateM.Result Stop (State hashLong) α} {e : Stop} (h : x = .error e t) :
    at0 x = .error e { t with tick := 0 } := by
  rw [h]
  rfl

/-- Without a node the fast path oopses. -/
theorem run_hit_null (hop : c.op = .resCheck resType idLoc) (hid : s.mem.read32 idLoc ≠ svga3dInvalidId)
    {rcache : ResCacheEntry} (hentry : s.resCache resType = some rcache)
    (hhandle : s.mem.read32 idLoc = rcache.handle) (hnode : rcache.node = none) :
    ∃ t, c.run base table vmwCmdResCheck s = .error .oops t := by
  have hrun : vmwCmdResCheck (c.env base table) resType idLoc { s with tick := 0 } =
      .error .oops { s with events := s.events ++ [.read idLoc 4], tick := 0 } := null_eq hid hentry hhandle hnode
  unfold Call.run
  rw [hop]
  exact ⟨_, at0_error hrun⟩

/-- Without memory for the relocation only the slow path keeps its reference. -/
theorem run_hit_full (hs : Inv (c.env base table) s) (hop : c.op = .resCheck resType idLoc)
    (hid : s.mem.read32 idLoc ≠ svga3dInvalidId) {rcache : ResCacheEntry} (hentry : s.resCache resType = some rcache)
    (hhandle : s.mem.read32 idLoc = rcache.handle) (hnode : rcache.node ≠ none) (hfull : c.kmalloc 0 = false) :
    ∃ e e' t u, c.run base table vmwCmdResCheck s = .error e t ∧
      c.run base table vmwCmdResCheckUncached s = .error e' u ∧
      t.shaders.world.kref = s.shaders.world.kref ∧
      u.shaders.world.kref = vmwResourceReference s.shaders.world.kref rcache.res := by
  obtain ⟨⟨_, hfound⟩, hcached⟩ := hs.cache resType rcache hentry
  obtain ⟨handle, res, node⟩ := rcache
  cases node with
  | none => exact absurd rfl hnode
  | some node =>
    obtain ⟨rfl, hlisted⟩ := hcached node rfl
    obtain ⟨n, hn⟩ := Option.ne_none_iff_exists'.mp hlisted
    subst hhandle
    have hentry' : ({ s with tick := 0 } : State hashLong).resCache resType =
      some ⟨s.mem.read32 idLoc, node, some node⟩ := hentry
    obtain ⟨t, hfast, ht⟩ : ∃ t, vmwCmdResCheck (c.env base table) resType idLoc { s with tick := 0 } =
        .error (.errno (-ENOMEM)) t ∧ t.shaders.world.kref = s.shaders.world.kref := fast_full hid hentry' hn hfull
    obtain ⟨u, hslow, hu⟩ : ∃ u, vmwCmdResCheckUncached (c.env base table) resType idLoc { s with tick := 0 } =
        .error (.errno (-ENOMEM)) u ∧ u.shaders.world.kref = vmwResourceReference s.shaders.world.kref node :=
      slow_full hid hfound hfull
    unfold Call.run
    rw [hop]
    exact ⟨_, _, _, _, at0_error hfast, at0_error hslow, ht, hu⟩

end Hit

section Errno

variable {env : Env} {α β : Type}

/-- A program that may fail but does not oops. -/
def Errno (x : Verify hashLong α) : Prop := ∀ s e t, x s = .error e t → ∃ ret, e = .errno ret

theorem Errno.pure (a : α) : Errno (pure a : Verify hashLong α) := fun _ _ _ h => by cases h

theorem Errno.update (f : State hashLong → State hashLong) : Errno (update f) := fun _ _ _ h => by cases h

theorem Errno.ask (f : Nat → α) : Errno (ask f : Verify hashLong α) := fun _ _ _ h => by cases h

theorem Errno.fail (ret : Int) : Errno (fail ret : Verify hashLong α) := fun _ _ _ h => by
  cases h
  exact ⟨ret, rfl⟩

theorem Errno.bind {x : Verify hashLong α} {f : α → Verify hashLong β} (hx : Errno x) (hf : ∀ a, Errno (f a)) :
    Errno (x >>= f) := by
  intro s e t h
  cases hrun : x s with
  | ok a u =>
    rw [bind_of_ok hrun] at h
    exact hf a u e t h
  | error e' u =>
    rw [bind_of_error hrun] at h
    cases h
    exact hx s e t hrun

theorem Errno.ite {p : Prop} [Decidable p] {x y : Verify hashLong α} (hx : Errno x) (hy : Errno y) :
    Errno (if p then x else y) := by
  split
  · exact hx
  · exact hy

theorem Errno.onError {x : Verify hashLong α} (hx : Errno x) (undo : State hashLong → State hashLong) :
    Errno (onError x undo) := by
  intro s e t h
  unfold Execbuf.onError at h
  split at h
  · cases h
  · rename_i hrun
    cases h
    exact hx _ _ _ hrun

theorem vmwResourceRelocationAdd_errno (r : Option ResId) (offset : Nat) :
    Errno (vmwResourceRelocationAdd env r offset : Verify hashLong Unit) :=
  (Errno.ask _).bind fun _ => .ite ((Errno.update _).bind fun _ => .update _) (.fail _)

theorem vmwResourceValAdd_errno (r : ResId) : Errno (vmwResourceValAdd env r : Verify hashLong Unit) := by
  have hfind : Errno (findNode r : Verify hashLong (Option ValNode)) := fun _ _ _ h => by cases h
  refine hfind.bind fun n => ?_
  cases n with
  | some n => exact .update _
  | none => exact (Errno.ask _).bind fun _ => .ite (.update _) (.fail _)

theorem valAddAll_errno (rs : List ResId) : Errno (valAddAll env rs : Verify hashLong Unit) := by
  induction rs with
  | nil => exact .pure _
  | cons r rs ih => exact (vmwResourceValAdd_errno r).bind fun _ => ih

theorem vmwCmdResRelocAdd_errno (resType : ResType) (idLoc : Nat) (r : ResId) :
    Errno (vmwCmdResRelocAdd env resType idLoc r : Verify hashLong (Option ResId)) := by
  have hfirst : Errno (isFirstUsage r : Verify hashLong Bool) := fun _ _ _ h => by cases h
  refine (vmwResourceRelocationAdd_errno _ _).bind fun _ => (vmwResourceValAdd_errno r).bind fun _ =>
    hfirst.bind fun _ => .ite ?_ (.pure _)
  refine (Errno.update _).bind fun _ => Errno.bind ?_ fun _ => ?_
  · exact (Errno.ask _).bind fun bound => valAddAll_errno bound
  · exact (Errno.ask _).bind fun _ => .ite ((Errno.update _).bind fun _ => .pure _) (.pure _)

theorem vmwCmdResCheckUncached_errno (resType : ResType) (idLoc : Nat) :
    Errno (vmwCmdResCheckUncached env resType idLoc : Verify hashLong (Option ResId)) := by
  have hload : Errno (load idLoc : Verify hashLong Nat) := fun _ _ _ h => by cases h
  refine hload.bind fun id => .ite (.ite (.fail _) (.pure _)) ((Errno.ask _).bind fun found => ?_)
  cases found with
  | none => exact .fail _
  | some res =>
    exact (Errno.update _).bind fun _ => (Errno.update _).bind fun _ =>
      ((vmwCmdResRelocAdd_errno resType idLoc res).onError _).bind fun _ => (Errno.update _).bind fun _ =>
        (Errno.update _).bind fun _ => .pure _

theorem run_errno (c : Call) : Errno (c.run base table vmwCmdResCheckUncached : Verify hashLong (Option ResId)) := by
  have hat0 {x : Verify hashLong (Option ResId)} (hx : Errno x) {s t : State hashLong} {e : Stop}
      (h : at0 (x s) = .error e t) : ∃ ret, e = .errno ret := by
    cases hrun : x s with
    | ok a u =>
      rw [hrun] at h
      cases h
    | error e' u =>
      rw [hrun] at h
      cases h
      exact hx _ _ _ hrun
  intro s e t h
  unfold Call.run at h
  split at h
  · exact hat0 (vmwCmdResCheckUncached_errno _ _) h
  · exact hat0 (vmwCmdResRelocAdd_errno _ _ _) h

theorem runUncached_errno (cs : List Call) :
    Errno (runUncached base table cs : Verify hashLong (List (Option ResId))) := by
  induction cs with
  | nil => exact .pure _
  | cons c cs ih => exact (run_errno c).bind fun _ => ih.bind fun _ => .pure _

end Errno

end Steps

section Runs

variable {base : Env} {table : ObjectTable} {c : Call} {s t : State hashLong}

theorem Agree.refl {α : Type} (x : EStateM.Result Stop (State hashLong) α) : Agree x x :=
  ⟨rfl, rfl, rfl, fun _ => rfl, fun _ => rfl, rfl⟩

/-- A call that is not good tells the two runs apart. -/
theorem not_agree (hs : Inv (c.env base table) s) (hbad : ¬ c.Good s) (cs : List Call) :
    ¬ Agree (runCached base table (c :: cs) s) (runUncached base table (c :: cs) s) := by
  unfold Call.Good at hbad
  push Not at hbad
  obtain ⟨rcache, hhit, hbad⟩ := hbad
  obtain ⟨resType, idLoc, hop, hid, hentry, hhandle⟩ := hit_eq_some hhit
  intro hagree
  by_cases hnode : rcache.node = none
  · obtain ⟨t, hnull⟩ := run_hit_null hop hid hentry hhandle hnode
    have hrun : runCached base table (c :: cs) s = .error .oops t := bind_of_error hnull
    have hret := hagree.ret
    rw [hrun] at hret
    cases hslow : runUncached base table (c :: cs) s with
    | ok nodes u =>
      rw [hslow] at hret
      cases hret
    | error e u =>
      rw [hslow] at hret
      cases hret
      obtain ⟨ret, hret⟩ := runUncached_errno (c :: cs) s _ u hslow
      cases hret
  · obtain ⟨e, e', t, u, hfast, hslow, ht, hu⟩ :=
      run_hit_full hs hop hid hentry hhandle hnode (Bool.eq_false_of_not_eq_true (hbad hnode))
    have hkref := hagree.kref
    have hfast' : runCached base table (c :: cs) s = .error e t := bind_of_error hfast
    have hslow' : runUncached base table (c :: cs) s = .error e' u := bind_of_error hslow
    rw [hfast', hslow'] at hkref
    have hres := congrFun (ht.symm.trans (hkref.trans hu)) rcache.res
    rw [vmwResourceReference_apply, if_pos rfl] at hres
    omega

/-- The rest of a run after its first call. -/
theorem agree_cons_iff {node : Option ResId} (hfast : c.run base table vmwCmdResCheck s = .ok node t)
    (hslow : c.run base table vmwCmdResCheckUncached s = .ok node t) (cs : List Call) :
    Agree (runCached base table (c :: cs) s) (runUncached base table (c :: cs) s) ↔
      Agree (runCached base table cs t) (runUncached base table cs t) := by
  have hcons (check : Env → ResType → Nat → Verify hashLong (Option ResId)) (h : c.run base table check s = .ok node t) :
      outcome (runCalls base table check (c :: cs) s) =
        ((outcome (runCalls base table check cs t)).1.map (node :: ·), (outcome (runCalls base table check cs t)).2) := by
    have hrun : runCalls base table check (c :: cs) s =
        (do let nodes ← runCalls base table check cs; return node :: nodes) t := bind_of_ok h
    rw [hrun]
    cases hrest : runCalls base table check cs t with
    | ok nodes u =>
      rw [bind_of_ok hrest]
      rfl
    | error e u =>
      rw [bind_of_error hrest]
      rfl
  have hret (x y : Except Stop (List (Option ResId))) : x.map (node :: ·) = y.map (node :: ·) ↔ x = y := by
    cases x <;> cases y <;> simp [Except.map]
  constructor
  · intro h
    obtain ⟨h₁, h₂, h₃, h₄, h₅, h₆⟩ := h
    rw [hcons _ hfast, hcons _ hslow] at h₁ h₂ h₃ h₆
    simp only [hcons _ hfast, hcons _ hslow] at h₄ h₅
    exact ⟨(hret _ _).mp h₁, h₂, h₃, h₄, h₅, h₆⟩
  · rintro ⟨h₁, h₂, h₃, h₄, h₅, h₆⟩
    refine ⟨?_, ?_, ?_, ?_, ?_, ?_⟩ <;> simp only [hcons _ hfast, hcons _ hslow]
    · exact (hret _ _).mpr h₁
    · exact h₂
    · exact h₃
    · exact h₄
    · exact h₅
    · exact h₆

theorem agree_iff_of_inv (cs : List Call) (hs : ∀ c : Call, Inv (c.env base table) s) :
    Agree (runCached base table cs s) (runUncached base table cs s) ↔ GoodHits base table cs s := by
  induction cs generalizing s with
  | nil => exact ⟨fun _ => trivial, fun _ => Agree.refl _⟩
  | cons c cs ih =>
    by_cases hgood : c.Good s
    · have hsame := run_good (hs c) hgood
      cases hfast : c.run base table vmwCmdResCheck s with
      | ok node t =>
        have ht : ∀ c' : Call, Inv (c'.env base table) t := inv_env (inv_run (hs c) hfast)
        rw [agree_cons_iff hfast (hsame.symm.trans hfast), ih ht]
        constructor
        · intro h
          refine ⟨hgood, fun node' t' hrun => ?_⟩
          rw [hfast] at hrun
          cases hrun
          exact h
        · intro h
          exact h.2 node t hfast
      | error e t =>
        have hfast' : runCached base table (c :: cs) s = .error e t := bind_of_error hfast
        have hslow' : runUncached base table (c :: cs) s = .error e t := bind_of_error (hsame.symm.trans hfast)
        rw [hfast', hslow']
        refine ⟨fun _ => ⟨hgood, fun node' t' hrun => ?_⟩, fun _ => Agree.refl _⟩
        rw [hfast] at hrun
        cases hrun
    · exact ⟨fun h => absurd h (not_agree (hs c) hgood cs), fun h => absurd h.1 hgood⟩

end Runs

/-- With the cache a batch of calls comes to the same as without, just when every hit has a node and memory
for its relocation. -/
theorem cache_agrees_iff (base : Env) (table : ObjectTable) (cs : List Call) {s : State hashLong} (h : s.Fresh) :
    Agree (runCached base table cs s) (runUncached base table cs s) ↔ GoodHits base table cs s :=
  agree_iff_of_inv cs fun _ => h.inv _

section Example

/-- A batch whose handles are all 0. -/
def zeros : State (fun key _ => key) := .start _ fun _ => 0

/-- Resource 3 has handle 0. -/
def three : ObjectTable := fun _ handle => if handle = 0 then some 3 else none

/-- A check of a context; `staged` is for its staged bindings. -/
def contextCheck (staged : Bool) : Call := ⟨.resCheck .context 4096, fun n => n ≠ 3 || staged, fun _ => []⟩

/-- The node that a second check of the context finds in the cache. -/
def secondNode : Option (Option ResId) :=
  match (contextCheck true).run .mobDevice three vmwCmdResCheck zeros with
  | .ok _ t => (hit t (contextCheck true).op).map (·.node)
  | .error _ _ => none

theorem cache_agrees_twice :
    Agree (runCached .mobDevice three [contextCheck true, contextCheck true] zeros)
      (runUncached .mobDevice three [contextCheck true, contextCheck true] zeros) := by
  have hfresh : zeros.Fresh := State.start_fresh _
  refine (cache_agrees_iff _ _ _ hfresh).mpr ⟨?_, fun node t h => ⟨?_, fun _ _ _ => trivial⟩⟩
  · intro rcache hhit
    have hmiss : (hit zeros (contextCheck true).op).isNone = true := by decide +kernel
    rw [hhit] at hmiss
    cases hmiss
  · intro rcache hhit
    have hsecond : secondNode = some (some 3) := by decide +kernel
    unfold secondNode at hsecond
    rw [h] at hsecond
    dsimp only at hsecond
    rw [hhit] at hsecond
    have hnode : rcache.node = some 3 := Option.some.inj hsecond
    exact ⟨hnode ▸ Option.some_ne_none 3, rfl⟩

/-- Without memory for its staged bindings a context is cached without its node. -/
theorem cache_oops :
    (outcome (runCached .mobDevice three [contextCheck false, contextCheck true] zeros)).1 = .error .oops ∧
      (outcome (runUncached .mobDevice three [contextCheck false, contextCheck true] zeros)).1 = .ok [none, some 3] ∧
      ¬ Agree (runCached .mobDevice three [contextCheck false, contextCheck true] zeros)
        (runUncached .mobDevice three [contextCheck false, contextCheck true] zeros) := by
  have hcached : (outcome (runCached .mobDevice three [contextCheck false, contextCheck true] zeros)).1 = .error .oops := by
    decide +kernel
  have huncached : (outcome (runUncached .mobDevice three [contextCheck false, contextCheck true] zeros)).1 =
      .ok [none, some 3] := by
    decide +kernel
  refine ⟨hcached, huncached, fun h => ?_⟩
  cases hcached.symm.trans (h.ret.trans huncached)

end Example

end Cache

end Vmwgfx.Execbuf
