import Vmwgfx.Execbuf.Batch

/-! What a handler may rely on after it has checked a resource handle. -/

namespace Vmwgfx.Execbuf

open Vmwgfx.Binding (BindingType)
open Vmwgfx.Cmdbuf (ShaderWorld)
open Vmwgfx.Hashtab Vmwgfx.Lib

variable {hashLong : HashLong}

/-- One of the calls that the check of a command is made of, when it succeeds. -/
inductive Service (env : Env) : State hashLong → State hashLong → Prop
  | load {s t a v} : load a s = .ok v t → Service env s t
  | store {s t a v} : store a v s = .ok () t → Service env s t
  | logRead {s t a n} : log (.read a n) s = .ok () t → Service env s t
  | ask {s t} {α : Type} {f : Nat → α} {v} : ask f s = .ok v t → Service env s t
  | addBufRef (s bo n) : Service env s (s.addBufRef bo n)
  | reference (s r) : Service env s (s.reference r)
  | unreference (s r) : Service env s (s.unreference r)
  /-- a handle that has been looked up goes into the cache, before its node is known -/
  | cacheMiss {s resType handle res t} : env.lookup t resType handle = some res →
      Service env s (s.setCache resType ⟨handle, res, none⟩)
  | resCheck {s t resType idLoc v} : vmwCmdResCheck env resType idLoc s = .ok v t → Service env s t
  | resRelocAdd {s t resType idLoc res v} :
      vmwCmdResRelocAdd env resType idLoc res s = .ok v t → Service env s t
  | relocationAdd {s t res offset} :
      vmwResourceRelocationAdd env res offset s = .ok () t → Service env s t
  | translateMob {s t id bo} : vmwTranslateMobPtr env id s = .ok bo t → Service env s t
  | translateGuest {s t ptr bo} : vmwTranslateGuestPtr env ptr s = .ok bo t → Service env s t
  | queryBoSwitchPrepare {s t bo} : vmwQueryBoSwitchPrepare env bo s = .ok () t → Service env s t
  | bindingAdd {s t ctx resNode bt i1 ret} : s.node ctx ≠ none → (bt ≠ BindingType.tex → ret = 0) →
      vmwContextBindingAdd (some ctx) resNode bt i1 s = .ok ret t → Service env s t
  /-- a backup is switched -/
  | setNode {s res n n'} : s.node res = some n → n'.stagedBindings = n.stagedBindings →
      Service env s (s.setNode res n')
  | runShaders {s t} {α : Type} {r : Option (α × ShaderWorld hashLong)} {v} :
      runShaders r s = .ok v t → Service env s t

/-- The states the verifier goes through on a batch. -/
inductive Reached (env : Env) : State hashLong → Prop
  | start {s} : s.Fresh → Reached env s
  | service {s t} : Reached env s → Service env s t → Reached env t

section Reached

variable {env : Env} {s t : State hashLong}

theorem Service.inv (h : Service env s t) (hs : Inv env s) : Inv env t := by
  cases h with
  | load h => exact (load_ok hs h).2.inv
  | store h => exact (store_ok hs h).inv
  | logRead h => exact (logRead_ok hs h).inv
  | ask h => exact (ask_ok hs h).2.inv
  | addBufRef bo n => exact (same_addBufRef s bo n).inv hs
  | reference r => exact (same_reference s r).inv hs
  | unreference r => exact (same_unreference s r).inv hs
  | cacheMiss hlookup =>
    exact (hs.setCache _ _ ⟨_, hlookup⟩
      (by
        intro n hn
        cases hn)).inv
  | resCheck h =>
    obtain ⟨r, hfound⟩ := vmwCmdResCheck_ok hs h
    exact hfound.did.inv
  | resRelocAdd h => exact (vmwCmdResRelocAdd_ok hs h).1.inv
  | relocationAdd h => exact (vmwResourceRelocationAdd_ok hs h).1.inv
  | translateMob h => exact (vmwTranslateMobPtr_ok hs h).1.inv
  | translateGuest h => exact (vmwTranslateGuestPtr_ok hs h).1.inv
  | queryBoSwitchPrepare h => exact (vmwQueryBoSwitchPrepare_ok hs h).inv
  | bindingAdd hnode hret h =>
    obtain ⟨_, _, hd⟩ := vmwContextBindingAdd_ok hs
      (by
        intro c hc
        cases hc
        exact hnode) h hret
    exact hd.inv
  | setNode hn hstaged => exact (hs.setNode hn hstaged).inv
  | runShaders h => exact (runShaders_ok hs h).2.inv

theorem Reached.inv (h : Reached env s) : Inv env s := by
  induction h with
  | start hfresh => exact hfresh.inv env
  | service _ hservice ih => exact hservice.inv ih

end Reached

section Node

variable (env : Env)

/-- How many nodes are allocated for resources, some of which may be on the list. -/
def newNodes : (ResId → Bool) → List ResId → Nat
  | _, [] => 0
  | onList, r :: rs =>
    if onList r then newNodes onList rs else newNodes (Function.update onList r true) rs + 1

@[simp] theorem newNodes_nil (onList : ResId → Bool) : newNodes onList [] = 0 := rfl

@[simp] theorem newNodes_cons (onList : ResId → Bool) (r : ResId) (rs : List ResId) :
    newNodes onList (r :: rs) = if onList r then newNodes onList rs
      else newNodes (Function.update onList r true) rs + 1 := rfl

/-- When the staged bindings of a context are allocated that is not on the list yet: after its
relocation, its node and the nodes of what is bound to it. -/
def stagedTick (s : State hashLong) (ctx : ResId) : Nat :=
  s.tick + 3 + newNodes (Function.update (fun r => (s.node r).isSome) ctx true)
    (env.bindingList (s.tick + 2) ctx)

/-- A context on a MOB device has its staged bindings, or is new and gets memory for them. -/
def StagedReady (s : State hashLong) (resType : ResType) (res : ResId) : Prop :=
  resType = .context → env.hasMob → s.staged res ≠ none ∨
    s.node res = none ∧ env.kmalloc (stagedTick env s res) = true

/-- The node a call has returned can be used as the one of the resource. -/
def Usable (t : State hashLong) (resType : ResType) (v : Option ResId) (res : ResId) : Prop :=
  v = some res ∧ t.node res ≠ none ∧ (resType = .context → env.hasMob → t.staged res ≠ none)

end Node

section Tick

variable {env : Env} {s t : State hashLong} {res : ResId} {resType : ResType}

/-- What a call does to the nodes' presence and staged bindings, and how often it asks. -/
structure Adds (s t : State hashLong) (rs : List ResId) : Prop where
  tick : t.tick = s.tick + newNodes (fun r => (s.node r).isSome) rs
  staged : t.staged = s.staged

theorem vmwResourceValAdd_adds (h : vmwResourceValAdd env res s = .ok () t) :
    Adds s t [res] ∧ (fun r => (t.node r).isSome) =
      Function.update (fun r => (s.node r).isSome) res true ∧
      ((t.node res).any (·.firstUsage) = true ↔ s.node res = none) := by
  unfold vmwResourceValAdd at h
  obtain ⟨n, s₁, hfind, h⟩ := bind_eq_ok.mp h
  cases hfind
  have hsome : ∀ m : ValNode, (fun r => ((s.setNode res m).node r).isSome) =
      Function.update (fun r => (s.node r).isSome) res true := by
    intro m
    funext r
    rw [setNode_node, Function.update_apply]
    split
    · rfl
    · rfl
  have hstaged : ∀ m : ValNode, m.stagedBindings = (s.node res).bind (·.stagedBindings) →
      (s.setNode res m).staged = s.staged := by
    intro m hm
    funext c
    unfold State.staged
    rw [setNode_node]
    split
    · next hc =>
      rw [hc, ← hm]
      rfl
    · rfl
  have hself : ∀ m : ValNode, (s.setNode res m).node res = some m :=
    fun m => Function.update_self _ _ _
  cases hn : s.node res with
  | some n =>
    rw [hn] at h
    cases h
    refine ⟨⟨?_, hstaged _ (by rw [hn]; rfl)⟩, hsome _, ?_⟩
    · simp [hn, State.setNode]
    · rw [hself]
      simp
  | none =>
    rw [hn] at h
    obtain ⟨b, s₂, hask, h⟩ := bind_eq_ok.mp h
    cases hask
    split at h
    · cases h
      refine ⟨⟨?_, hstaged ⟨none, none, 0, true, false⟩ (by rw [hn]; rfl)⟩,
        hsome ⟨none, none, 0, true, false⟩, ?_⟩
      · simp [hn, State.setNode, State.reference]
      · constructor
        · intro _
          rfl
        · intro _
          change ((s.setNode res ⟨none, none, 0, true, false⟩).node res).any _ = true
          rw [hself]
          rfl
    · cases h

theorem valAddAll_adds {rs : List ResId} (h : valAddAll env rs s = .ok () t) : Adds s t rs := by
  induction rs generalizing s with
  | nil =>
    cases h
    exact ⟨rfl, rfl⟩
  | cons r rs ih =>
    obtain ⟨_, s₁, hadd, h⟩ := bind_eq_ok.mp h
    obtain ⟨hadds, hsome, _⟩ := vmwResourceValAdd_adds hadd
    have hrest := ih h
    refine ⟨?_, hrest.staged.trans hadds.staged⟩
    rw [hrest.tick, hadds.tick, hsome, newNodes_cons, newNodes_cons, newNodes_nil, newNodes_nil]
    by_cases hr : (s.node r).isSome
    · rw [if_pos hr, if_pos hr]
      have hsame : Function.update (fun r => (s.node r).isSome) r true =
          fun r => (s.node r).isSome := by
        rw [Function.update_eq_self_iff]
        exact hr.symm
      rw [hsame, Nat.add_zero]
    · rw [if_neg hr, if_neg hr]
      omega

theorem setStaged_staged (hn : s.node res ≠ none) (cbs : Binding.CtxBindingState) :
    (setStaged res cbs s).staged res = some cbs := by
  obtain ⟨n, hn⟩ := Option.ne_none_iff_exists'.mp hn
  rw [setStaged_of_node hn]
  unfold State.staged
  rw [setNode_node, if_pos rfl]
  rfl

/-- The node is there, and for a context on a MOB device the staged bindings with it, just when
there was no need for an allocation or it succeeded. -/
theorem vmwCmdResRelocAdd_usable_iff {idLoc : Nat} {v : Option ResId} (hs : Inv env s)
    (h : vmwCmdResRelocAdd env resType idLoc res s = .ok v t) :
    Usable env t resType v res ↔ StagedReady env s resType res := by
  have hnode := (vmwCmdResRelocAdd_ok hs h).2.1
  unfold vmwCmdResRelocAdd at h
  obtain ⟨_, s₁, hreloc, h⟩ := bind_eq_ok.mp h
  obtain ⟨hd₁, hnode₁, _⟩ := vmwResourceRelocationAdd_ok hs hreloc
  have htick₁ : s₁.tick = s.tick + 1 := by
    obtain ⟨b, r, hask, hrest⟩ := bind_eq_ok.mp hreloc
    cases hask
    split at hrest
    · cases hrest
      rfl
    · cases hrest
  have hstaged₁ : s₁.staged = s.staged := by
    funext c
    unfold State.staged
    rw [hnode₁]
  obtain ⟨_, s₂, hval, h⟩ := bind_eq_ok.mp h
  obtain ⟨hadds, hsome, hfirst⟩ := vmwResourceValAdd_adds hval
  have hnode₂ := (vmwResourceValAdd_ok hd₁.inv hval).2.1
  rw [hnode₁] at hfirst
  obtain ⟨first, s₃, hask, h⟩ := bind_eq_ok.mp h
  cases hask
  split at h
  · next hcond =>
    obtain ⟨hty, hmob, hnew⟩ := hcond
    have hnone := hfirst.mp hnew
    obtain ⟨_, s₄, hupd, h⟩ := bind_eq_ok.mp h
    cases hupd
    obtain ⟨_, s₅, hctx, h⟩ := bind_eq_ok.mp h
    obtain ⟨bound, s₆, hbound, hctx⟩ := bind_eq_ok.mp hctx
    cases hbound
    have hall := valAddAll_adds hctx
    obtain ⟨b, s₇, hask, h⟩ := bind_eq_ok.mp h
    cases hask
    have htick₂ : s₂.tick = s.tick + 2 := by
      rw [hadds.tick, htick₁, hnode₁]
      simp [hnone]
    have htick₅ : s₅.tick = stagedTick env s res := by
      rw [hall.tick]
      change s₂.tick + 1 + newNodes (fun r => (s₂.node r).isSome) (env.bindingList s₂.tick res) = _
      rw [hsome, hnode₁, htick₂]
      rfl
    have hready : StagedReady env s resType res ↔ env.kmalloc (stagedTick env s res) = true := by
      constructor
      · intro hready
        cases hready hty hmob with
        | inl hst =>
          unfold State.staged at hst
          rw [hnone] at hst
          exact absurd rfl hst
        | inr hand => exact hand.2
      · intro hb _ _
        exact Or.inr ⟨hnone, hb⟩
    rw [hready, ← htick₅]
    split at h
    · next hb =>
      obtain ⟨_, s₈, hset, h⟩ := bind_eq_ok.mp h
      cases hset
      cases h
      refine ⟨fun _ => hb, fun _ => ⟨rfl, hnode, fun _ _ => ?_⟩⟩
      have hnode₅ : s₅.node res ≠ none := by
        have hd₄ := (vmwResourceValAdd_ok hd₁.inv hval).1.inv.front hnode₂
        have hd₆ := (same_tick { s₂ with resourceList := res :: s₂.resourceList.erase res }).did
          hd₄.inv
        exact (valAddAll_ok hd₆.inv hctx).nodes res hnode₂
      have hst := setStaged_staged (s := { s₅ with tick := s₅.tick + 1 }) hnode₅ .empty
      rw [hst]
      exact Option.some_ne_none _
    · next hb =>
      cases h
      exact ⟨(fun husable => nomatch husable.1), fun hready => absurd hready hb⟩
  · next hcond =>
    cases h
    have hstaged₂ : t.staged = s.staged := hadds.staged.trans hstaged₁
    constructor
    · intro husable hty hmob
      rw [← hstaged₂]
      exact Or.inl (husable.2.2 hty hmob)
    · intro hready
      refine ⟨rfl, hnode, ?_⟩
      intro hty hmob
      rw [hstaged₂]
      cases hready hty hmob with
      | inl hst => exact hst
      | inr hand => exact absurd ⟨hty, hmob, hfirst.mpr hand.1⟩ hcond

end Tick

section Handle

variable {env : Env} {s t : State hashLong} {resType : ResType} {idLoc : Nat} {v : Option ResId}

/-- A checked handle is none, and not that of a context, or its node can be used. -/
def HandleUsable (env : Env) (s t : State hashLong) (resType : ResType) (handle : Nat)
    (v : Option ResId) : Prop :=
  (handle = svga3dInvalidId ∧ resType ≠ .context ∧ v = none) ∨
    ∃ res, namedNow env s resType handle = some res ∧ Usable env t resType v res

/-- What the handle names has its staged bindings if it needs them, or gets memory for them. -/
def HandleReady (env : Env) (s : State hashLong) (resType : ResType) (handle : Nat) : Prop :=
  ∀ res, namedNow env s resType handle = some res →
    StagedReady env { s with tick := s.tick + 1 } resType res

theorem clearFirstUsage_staged (s : State hashLong) (r : ResId) :
    (clearFirstUsage r s).staged = s.staged := by
  unfold clearFirstUsage
  split
  · next n hn =>
    funext c
    unfold State.staged
    rw [setNode_node]
    split
    · next hc =>
      rw [hc, hn]
      rfl
    · rfl
  · rfl

theorem vmwResourceRelocationAdd_staged {res : Option ResId} {offset : Nat}
    (h : vmwResourceRelocationAdd env res offset s = .ok () t) : t.staged = s.staged := by
  obtain ⟨b, r, hask, h⟩ := bind_eq_ok.mp h
  cases hask
  split at h
  · cases h
    rfl
  · cases h

theorem vmwCmdResCheck_usable_iff (hs : Inv env s)
    (h : vmwCmdResCheck env resType idLoc s = .ok v t) :
    HandleUsable env s t resType (s.mem.read32 idLoc) v ↔
      HandleReady env s resType (s.mem.read32 idLoc) := by
  obtain ⟨r, hfound⟩ := vmwCmdResCheck_ok hs h
  unfold vmwCmdResCheck at h
  obtain ⟨id, s₁, hload, h⟩ := bind_eq_ok.mp h
  cases hload
  by_cases hinv : s.mem.read32 idLoc = svga3dInvalidId
  · rw [if_pos hinv] at h
    have hnow : namedNow env s resType (s.mem.read32 idLoc) = none := if_pos hinv
    split at h
    · cases h
    · next hctx =>
      cases h
      refine ⟨fun _ res hres => ?_, fun _ => Or.inl ⟨hinv, hctx, rfl⟩⟩
      rw [hnow] at hres
      cases hres
  · have hiff : ∀ res, namedNow env s resType (s.mem.read32 idLoc) = some res →
        (Usable env t resType v res ↔ StagedReady env { s with tick := s.tick + 1 } resType res) →
        (HandleUsable env s t resType (s.mem.read32 idLoc) v ↔
          HandleReady env s resType (s.mem.read32 idLoc)) := by
      intro res hres hiff
      unfold HandleUsable HandleReady
      rw [hres]
      simp [hinv, hiff]
    rw [if_neg hinv] at h
    obtain ⟨o, s₂, hcached, h⟩ := bind_eq_ok.mp h
    have ho : (s.resCache resType).filter (fun rcache => s.mem.read32 idLoc = rcache.handle) = o := by
      cases hcached
      rfl
    obtain ⟨heq, hcache⟩ := cachedEntry_ok hcached
    have hnow : namedNow env s resType (s.mem.read32 idLoc) =
        o.elim (env.lookup s.tick resType (s.mem.read32 idLoc)) (fun rcache => some rcache.res) := by
      unfold namedNow
      rw [if_neg hinv, ho]
    cases heq
    cases o with
    | some rcache =>
      obtain ⟨hrc, _⟩ := hcache rcache rfl
      obtain ⟨_, hnode⟩ := hs.cache resType rcache hrc
      obtain ⟨handle, res, node⟩ := rcache
      cases node with
      | none => cases h
      | some node =>
        obtain ⟨rfl, hnn⟩ := hnode node rfl
        apply hiff node hnow
        obtain ⟨_, s₃, hupd, h⟩ := bind_eq_ok.mp h
        cases hupd
        obtain ⟨_, s₄, hreloc, h⟩ := bind_eq_ok.mp h
        cases h
        have hst : t.staged = s.staged :=
          (vmwResourceRelocationAdd_staged hreloc).trans (clearFirstUsage_staged _ _)
        have ht : t.node node ≠ none := hfound.did.nodes node hnn
        constructor
        · intro husable hty hmob
          have hstaged := husable.2.2 hty hmob
          rw [hst] at hstaged
          exact Or.inl hstaged
        · intro hready
          refine ⟨rfl, ht, ?_⟩
          intro hty hmob
          rw [hst]
          cases hready hty hmob with
          | inl hst => exact hst
          | inr hand => exact absurd hand.1 hnn
    | none =>
      obtain ⟨found, s₃, hask, h⟩ := bind_eq_ok.mp h
      have hl : env.lookup s.tick resType (s.mem.read32 idLoc) = found :=
        (EStateM.Result.ok.inj hask).1
      have hs₃ := (EStateM.Result.ok.inj hask).2
      subst hs₃
      cases found with
      | none => cases h
      | some res =>
        apply hiff res (hnow.trans hl)
        obtain ⟨_, s₄, hupd, h⟩ := bind_eq_ok.mp h
        cases hupd
        obtain ⟨_, s₅, hupd, h⟩ := bind_eq_ok.mp h
        cases hupd
        obtain ⟨node, s₆, hadd, h⟩ := bind_eq_ok.mp h
        have hinv₁ : Inv env { s with events := s.events ++ [.read idLoc 4] } := hs.log rfl rfl rfl
        have hinv₂ := (same_tick _).inv hinv₁
        have hinv₃ := (same_reference _ res).inv hinv₂
        have hinv₄ := (hinv₃.setCache resType ⟨s.mem.read32 idLoc, res, none⟩ ⟨_, hl⟩
          (by
            intro n hn
            cases hn)).inv
        have hadded := vmwCmdResRelocAdd_usable_iff hinv₄ (onError_ok.mp hadd)
        obtain ⟨_, s₇, hupd, h⟩ := bind_eq_ok.mp h
        cases hupd
        obtain ⟨_, s₈, hupd, h⟩ := bind_eq_ok.mp h
        cases hupd
        cases h
        exact hadded

/-- `vmw_cmd_dma` goes on with the surface that its own handle names. -/
theorem vmwCmdDmaCheck_own_iff {header : Nat} {bo : BufId} {srf : Option ResCacheEntry}
    (hs : Inv env s) (h : vmwCmdDmaCheck env header s = .ok (bo, srf) t) :
    (∃ entry, srf = some entry ∧
        Named env .surface (t.mem.read32 (header + 20)) (some entry.res)) ↔
      t.mem.read32 (header + 20) ≠ svga3dInvalidId := by
  constructor
  · intro hex
    obtain ⟨entry, _, hnamed⟩ := hex
    exact hnamed.1
  · intro hvalid
    obtain ⟨size, s₁, hload, h⟩ := bind_eq_ok.mp h
    have hd₁ := (load_ok hs hload).2
    obtain ⟨suffixSize, s₂, hload, h⟩ := bind_eq_ok.mp h
    have hd₂ := (load_ok hd₁.inv hload).2
    split at h
    · cases h
    · obtain ⟨bo', s₃, htrans, h⟩ := bind_eq_ok.mp h
      have hd₃ := (vmwTranslateGuestPtr_ok hd₂.inv htrans).1
      obtain ⟨offset, s₄, hload, h⟩ := bind_eq_ok.mp h
      have hd₄ := (load_ok hd₃.inv hload).2
      split at h
      · cases h
      · obtain ⟨_, s₅, hclamp, h⟩ := bind_eq_ok.mp h
        have hinv₅ : Inv env s₅ := by
          obtain ⟨max, r, hload, hclamp⟩ := bind_eq_ok.mp hclamp
          have hd := (load_ok hd₄.inv hload).2
          split at hclamp
          · exact (store_ok hd.inv hclamp).inv
          · cases hclamp
            exact hd.inv
        obtain ⟨_, s₆, hcheck, h⟩ := bind_eq_ok.mp h
        obtain ⟨v, r, hcheck, hpure⟩ := bind_eq_ok.mp (onError_ok.mp hcheck)
        cases hpure
        obtain ⟨r, hfound⟩ := vmwCmdResCheck_ok hinv₅ hcheck
        obtain ⟨srf', s₇, hentry, h⟩ := bind_eq_ok.mp h
        cases hentry
        cases h
        have hmem : t.mem = s₅.mem := by
          rw [hfound.did.mem]
          cases r with
          | none => rfl
          | some res => rfl
        rw [hmem] at hvalid ⊢
        cases r with
        | none => exact absurd hfound.named.1 hvalid
        | some res =>
          obtain ⟨entry, hcache, rfl⟩ := hfound.cached res rfl
          exact ⟨entry, hcache, hfound.named⟩

/-- With the handle and the buffer checked, `vmw_cmd_switch_backup` has a node to go on with. -/
theorem vmwCmdSwitchBackup_node_iff {resId bufId backupOffset : Nat} {bo : BufId}
    {s₁ s₂ : State hashLong} (hs : Inv env s) (hty : resType ≠ .context)
    (hcheck : vmwCmdResCheck env resType resId s = .ok v s₁)
    (hmob : vmwTranslateMobPtr env bufId s₁ = .ok bo s₂) :
    (∃ t, vmwCmdSwitchBackup env resType resId bufId backupOffset s = .ok () t) ↔
      s.mem.read32 resId ≠ svga3dInvalidId := by
  obtain ⟨r, hfound⟩ := vmwCmdResCheck_ok hs hcheck
  have hv : v = r := by
    cases hfound.value with
    | inl hv => exact hv
    | inr hv => exact absurd hv.2 hty
  unfold vmwCmdSwitchBackup
  rw [bind_of_ok hcheck, bind_of_ok hmob, hv]
  cases r with
  | none =>
    constructor
    · intro hex
      obtain ⟨t, h⟩ := hex
      cases h
    · intro hvalid
      exact absurd hfound.named.1 hvalid
  | some res => exact ⟨fun _ => hfound.named.1, fun _ => ⟨_, rfl⟩⟩

end Handle

section Verifier

variable {env : Env} {s : State hashLong}

/-- Wherever the verifier checks a handle of a batch: the node can be used just when the staged
bindings of a context are there or can be allocated; a DMA goes on with its own surface, and a
switch of backups has a node, just when the handle is not the invalid one. -/
theorem handlers_usable_iff (hs : Reached env s) :
    (∀ resType idLoc v t, vmwCmdResCheck env resType idLoc s = .ok v t →
      (HandleUsable env s t resType (s.mem.read32 idLoc) v ↔
        HandleReady env s resType (s.mem.read32 idLoc))) ∧
    (∀ resType idLoc res v t, vmwCmdResRelocAdd env resType idLoc res s = .ok v t →
      (Usable env t resType v res ↔ StagedReady env s resType res)) ∧
    (∀ header bo srf t, vmwCmdDmaCheck env header s = .ok (bo, srf) t →
      ((∃ entry, srf = some entry ∧
          Named env .surface (t.mem.read32 (header + 20)) (some entry.res)) ↔
        t.mem.read32 (header + 20) ≠ svga3dInvalidId)) ∧
    ∀ resType resId bufId backupOffset v bo s₁ s₂, resType ≠ .context →
      vmwCmdResCheck env resType resId s = .ok v s₁ → vmwTranslateMobPtr env bufId s₁ = .ok bo s₂ →
      ((∃ t, vmwCmdSwitchBackup env resType resId bufId backupOffset s = .ok () t) ↔
        s.mem.read32 resId ≠ svga3dInvalidId) :=
  ⟨fun _ _ _ _ h => vmwCmdResCheck_usable_iff hs.inv h,
    fun _ _ _ _ _ h => vmwCmdResRelocAdd_usable_iff hs.inv h,
    fun _ _ _ _ h => vmwCmdDmaCheck_own_iff hs.inv h,
    fun _ _ _ _ _ _ _ _ hty hcheck hmob => vmwCmdSwitchBackup_node_iff hs.inv hty hcheck hmob⟩

/-- A device where only the fourth allocation of a batch fails. -/
def Env.stagedFails : Env :=
  { Env.mobDevice with
    kmalloc := fun tick => tick ≠ 4
    dmabuf := fun _ handle => some handle }

/-- A buffer that starts with a context handle and goes on with BIND_GB_SURFACE of no surface. -/
def handleBatch : State (fun key _ => key) :=
  .start _ (memOf 4096 [7, svga3dCmdBindGbSurface, 8, svga3dInvalidId, 3])

/-- The first handle is checked without a usable node. -/
theorem handlers_usable_iff_stagedFails : ∃ t,
    vmwCmdResCheck .stagedFails .context 4096 handleBatch = .ok none t ∧
      ¬ HandleReady .stagedFails handleBatch .context (handleBatch.mem.read32 4096) := by
  obtain ⟨t, ht⟩ := eq_ok_of_returned (show (returned (vmwCmdResCheck .stagedFails .context 4096 handleBatch)).map Prod.fst =
    some none by decide +kernel)
  refine ⟨t, ht, ?_⟩
  intro hready
  have husable := ((handlers_usable_iff (.start (State.start_fresh _))).1 .context 4096 none t ht).mpr hready
  cases husable with
  | inl hinv => exact hinv.2.1 rfl
  | inr hex =>
    obtain ⟨res, _, hv, _⟩ := hex
    cases hv

/-- A context without memory for its staged bindings is checked with no node and no error; a
switch of backups for the invalid handle goes on without a node. -/
theorem handles_not_usable :
    (∃ t, vmwCmdResCheck .stagedFails .context 4096 handleBatch = .ok none t ∧
      ¬ HandleUsable .stagedFails handleBatch t .context (handleBatch.mem.read32 4096) none) ∧
    ∃ v bo s₁ s₂ t, vmwCmdResCheck .stagedFails .surface (4100 + 8) handleBatch = .ok v s₁ ∧
      vmwTranslateMobPtr .stagedFails (4100 + 12) s₁ = .ok bo s₂ ∧
      vmwCmdBindGbSurface .stagedFails 4100 handleBatch = .error .oops t := by
  obtain ⟨t, ht⟩ := eq_ok_of_returned (show (returned (vmwCmdResCheck .stagedFails .context 4096 handleBatch)).map Prod.fst =
    some none by decide +kernel)
  obtain ⟨u, hu⟩ := eq_error_of_stopped (show stopped (vmwCmdBindGbSurface .stagedFails 4100 handleBatch) =
    some .oops by decide +kernel)
  obtain ⟨s, hs⟩ := eq_ok_of_returned (show (returned ((do
      let v ← vmwCmdResCheck .stagedFails .surface (4100 + 8)
      let bo ← vmwTranslateMobPtr .stagedFails (4100 + 12)
      return (v, bo) : Verify _ _) handleBatch)).map Prod.fst = some (none, 3) by decide +kernel)
  obtain ⟨v, s₁, hcheck, hrest⟩ := bind_eq_ok.mp hs
  obtain ⟨bo, s₂, hmob, _⟩ := bind_eq_ok.mp hrest
  refine ⟨⟨t, ht, ?_⟩, ⟨v, bo, s₁, s₂, u, hcheck, hmob, hu⟩⟩
  intro husable
  cases husable with
  | inl hinv => exact hinv.2.1 rfl
  | inr hex =>
    obtain ⟨res, _, hv, _⟩ := hex
    cases hv

end Verifier

end Vmwgfx.Execbuf
