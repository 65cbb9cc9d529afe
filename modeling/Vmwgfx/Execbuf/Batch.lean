import Vmwgfx.Execbuf.Events
import Vmwgfx.Execbuf.Termination

/-! The log of a batch, command by command. -/

namespace Vmwgfx.Execbuf

open Vmwgfx.Hashtab Vmwgfx.Lib

variable {hashLong : HashLong}

/-- The software context as `vmw_execbuf_process` hands it to the verifier. -/
structure State.Fresh (s : State hashLong) : Prop where
  resRelocations : s.resRelocations = []
  relocs : s.relocs = []
  valBufs : s.valBufs = []
  resourceList : s.resourceList = []
  node : ∀ r, s.node r = none
  resCache : ∀ resType, s.resCache resType = none
  events : s.events = []

theorem State.Fresh.inv {s : State hashLong} (h : s.Fresh) (env : Env) : Inv env s where
  res := by
    rw [h.resRelocations, h.events]
    rfl
  buf := by
    rw [h.relocs, h.events]
    exact .nil
  cache := by
    intro resType rcache hr
    rw [h.resCache] at hr
    cases hr
  nodup := by
    rw [h.resourceList]
    exact List.nodup_nil
  mem_iff := by
    intro r
    rw [h.resourceList, h.node]
    simp
  staged := by
    intro c cbs hc
    unfold State.staged at hc
    rw [h.node] at hc
    cases hc
  bound := by
    intro bi hbi
    rw [h.events] at hbi
    cases hbi

theorem State.start_fresh (m : Mem) : (State.start hashLong m).Fresh where
  resRelocations := rfl
  relocs := rfl
  valBufs := rfl
  resourceList := rfl
  node _ := rfl
  resCache _ := rfl
  events := rfl

/-- The handler at an index of the table. -/
def cmdFunc (cmdId : Nat) : Option CmdFunc := (vmwCmdEntries cmdId).func

namespace Command

variable (c : Command hashLong)

/-- The handler of a 3D command. -/
def func : Option CmdFunc := cmdFunc (sub32 c.id svga3dCmdBase)

/-- What the check of a command has logged. -/
def events : List Event := c.after.events.drop c.before.events.length

/-- The log of a command is the one of its handler. -/
def Log (env : Env) (evs : List Event) : Prop :=
  if c.id < svgaCmdMax then
    if c.id = svgaCmdDefineGmrfb then GuestLog env c.before.mem (c.buf + 4) evs else evs = []
  else ∃ func, c.func = some func ∧ func.Log env c.before c.buf evs

variable {c}

theorem log_3d {env : Env} {evs : List Event} (h : c.Is3d) :
    c.Log env evs ↔ ∃ func, c.func = some func ∧ func.Log env c.before c.buf evs := by
  unfold Log
  rw [if_neg (Nat.not_lt_of_le h)]

theorem log_not3d {env : Env} {evs : List Event} (h : ¬ c.Is3d) :
    c.Log env evs ↔ if c.id = svgaCmdDefineGmrfb then GuestLog env c.before.mem (c.buf + 4) evs
      else evs = [] := by
  unfold Log
  rw [if_pos (Nat.lt_of_not_le h)]

end Command

section Run

variable {env : Env} {buf buf' remaining size : Nat} {curSize curSize' : Int}
  {s s' t : State hashLong} {cs : List (Command hashLong)}

theorem vmwCmdCheckDefineGmrfb_ok (hs : Inv env s)
    (h : vmwCmdCheckDefineGmrfb env buf s = .ok () t) :
    ∃ evs, GuestLog env s.mem (buf + 4) evs ∧ Logged env s t evs := by
  obtain ⟨bo, s₁, htrans, h⟩ := bind_eq_ok.mp h
  obtain ⟨evs, hlog, hd⟩ := translateGuest_ok hs htrans
  cases h
  exact ⟨evs, hlog, (hd.same (same_addBufRef s₁ bo (-1))).toLogged⟩

theorem vmwCmdCheckNot3d_ok (hs : Inv env s)
    (h : vmwCmdCheckNot3d env buf remaining s = .ok size t) :
    ∃ evs, (if s.mem.read32 buf = svgaCmdDefineGmrfb then GuestLog env s.mem (buf + 4) evs
      else evs = []) ∧ Logged env s t evs := by
  obtain ⟨cmdId, s₁, hpeek, h⟩ := bind_eq_ok.mp h
  cases hpeek
  cases hn : not3dSize (s.mem.read32 buf) with
  | none =>
    rw [hn] at h
    cases h
  | some n =>
    rw [hn] at h
    simp only at h
    split at h
    · cases h
    · split at h
      · cases h
      · split at h
        · next hdef =>
          obtain ⟨_, s₂, hdefine, h⟩ := bind_eq_ok.mp h
          cases h
          simp only [hdef, if_true]
          exact vmwCmdCheckDefineGmrfb_ok hs hdefine
        · next hdef =>
          cases h
          refine ⟨[], ?_, (Did.refl hs).toLogged⟩
          rw [if_neg hdef]

theorem CmdEntry.run_ok {entry : CmdEntry} (hs : Inv env s) (h : entry.run env buf s = .ok () t) :
    ∃ func evs, entry.func = some func ∧ func.Log env s buf evs ∧ Logged env s t evs := by
  unfold CmdEntry.run at h
  cases hf : entry.func with
  | none =>
    rw [hf] at h
    cases h
  | some func =>
    rw [hf] at h
    obtain ⟨evs, hlog, hd⟩ := CmdFunc.run_ok hs h
    exact ⟨func, evs, rfl, hlog, hd⟩

theorem vmwCmdEntries_run_ok {cmdId : Nat} (hs : Inv env s)
    (h : (vmwCmdEntries cmdId).run env buf s = .ok () t) :
    ∃ func evs, cmdFunc cmdId = some func ∧ func.Log env s buf evs ∧ Logged env s t evs :=
  CmdEntry.run_ok hs h

theorem vmwCmdCheck_ok (hs : Inv env s) (h : vmwCmdCheck env buf remaining s = .ok size t) :
    ∃ evs, Command.Log ⟨buf, remaining, size, s, t⟩ env evs ∧ Logged env s t evs := by
  cases Nat.lt_or_ge (s.mem.read32 buf) svgaCmdMax with
  | inl hid =>
    obtain ⟨evs, hlog, hd⟩ := vmwCmdCheckNot3d_ok hs (vmwCmdCheck_not3d hid h)
    have hcmd : ¬ Command.Is3d ⟨buf, remaining, size, s, t⟩ := Nat.not_le_of_lt hid
    exact ⟨evs, (Command.log_not3d hcmd).mpr hlog, hd⟩
  | inr hid =>
    obtain ⟨_, _, _, hrun⟩ := vmwCmdCheck_3d hid h
    obtain ⟨func, evs, hf, hlog, hd⟩ := vmwCmdEntries_run_ok hs hrun
    have hcmd : Command.Is3d ⟨buf, remaining, size, s, t⟩ := hid
    exact ⟨evs, (Command.log_3d hcmd).mpr ⟨func, hf, hlog⟩, hd⟩

theorem Logged.events_eq {c : Command hashLong} {evs : List Event}
    (h : Logged env c.before c.after evs) : c.events = evs := by
  unfold Command.events
  rw [h.events, List.drop_left]

/-- Every round has logged what its command calls for. -/
theorem Checked.logged (h : Checked env buf curSize s cs buf' curSize' s') (hs : Inv env s) :
    Logged env s s' (cs.flatMap Command.events) ∧
      ∀ c ∈ cs, Inv env c.before ∧ c.Log env c.events ∧ Logged env c.before c.after c.events := by
  induction h with
  | nil buf curSize s =>
    exact ⟨(Did.refl hs).toLogged, (fun _ hc => nomatch hc)⟩
  | @cons buf buf' size curSize curSize' s t s' cs hpos hcheck hrest ih =>
    obtain ⟨evs, hlog, hd⟩ := vmwCmdCheck_ok hs hcheck
    obtain ⟨hrun, hall⟩ := ih hd.inv
    have hevs : Command.events ⟨buf, curSize.toNat, size, s, t⟩ = evs := Logged.events_eq hd
    refine ⟨?_, ?_⟩
    · rw [List.flatMap_cons, hevs]
      exact hd.trans hrun
    · intro c hc
      cases hc with
      | head =>
        rw [hevs]
        exact ⟨hs, hlog, hd⟩
      | tail _ hmem => exact hall c hmem

/-- A batch that is accepted is a run of the loop that uses up its bytes. -/
theorem checkLoop_ok {fuel : Nat} (h : checkLoop env fuel buf curSize s = some (.ok () s')) :
    ∃ cs buf', Checked env buf curSize s cs buf' 0 s' := by
  induction fuel generalizing buf curSize s with
  | zero =>
    unfold checkLoop at h
    split at h
    · cases h
    · split at h
      · cases h
      · next hzero =>
        cases h
        rw [Classical.not_not.mp hzero]
        exact ⟨[], buf, .nil _ _ _⟩
  | succ fuel ih =>
    unfold checkLoop at h
    split at h
    · next hpos =>
      cases hcheck : vmwCmdCheck env buf curSize.toNat s with
      | error e t =>
        rw [hcheck] at h
        cases h
      | ok size t =>
        rw [hcheck] at h
        obtain ⟨cs, buf', hrest⟩ := ih h
        exact ⟨_, buf', .cons hpos hcheck hrest⟩
    · split at h
      · cases h
      · next hzero =>
        cases h
        rw [Classical.not_not.mp hzero]
        exact ⟨[], buf, .nil _ _ _⟩

theorem vmwCmdCheckAll_ok {fuel : Nat} (h : vmwCmdCheckAll env fuel size s = some (.ok () s')) :
    ∃ cs buf', Checked env env.bufStart (toInt32 size) s cs buf' 0 s' :=
  checkLoop_ok h

/-- There is just one run to the end. -/
theorem Checked.functional {cs₁ cs₂ : List (Command hashLong)} {b₁ b₂ : Nat}
    {s₁ s₂ : State hashLong} (h₁ : Checked env buf curSize s cs₁ b₁ 0 s₁)
    (h₂ : Checked env buf curSize s cs₂ b₂ 0 s₂) : cs₁ = cs₂ ∧ b₁ = b₂ ∧ s₁ = s₂ := by
  generalize hz : (0 : Int) = z at h₁
  induction h₁ generalizing cs₂ with
  | nil =>
    subst hz
    cases h₂ with
    | nil => exact ⟨rfl, rfl, rfl⟩
    | cons hpos => exact absurd hpos (by decide)
  | cons hpos hcheck hrest ih =>
    cases h₂ with
    | nil => exact absurd hpos (by decide)
    | cons hpos' hcheck' hrest' =>
      rw [hcheck] at hcheck'
      cases hcheck'
      obtain ⟨rfl, rfl, rfl⟩ := ih hrest' hz
      exact ⟨rfl, rfl, rfl⟩

end Run

theorem exists_of_forall₂ {α β : Type} {R : α → β → Prop} {l : List α} {l' : List β}
    (h : List.Forall₂ R l l') {b : β} (hb : b ∈ l') : ∃ a ∈ l, R a b := by
  induction h with
  | nil => cases hb
  | cons hab _ ih =>
    cases hb with
    | head => exact ⟨_, List.mem_cons_self, hab⟩
    | tail _ hmem =>
      obtain ⟨a, ha, hr⟩ := ih hmem
      exact ⟨a, List.mem_cons_of_mem _ ha, hr⟩

/-- The state an accepted batch ends in. -/
def accepted : Option (EStateM.Result Stop (State hashLong) Unit) → Option (State hashLong)
  | some (.ok () s) => some s
  | _ => none

theorem accepted_eq_some {r : Option (EStateM.Result Stop (State hashLong) Unit)}
    {s : State hashLong} : accepted r = some s ↔ r = some (.ok () s) := by
  unfold accepted
  split
  · simp
  · next hne =>
    constructor
    · intro h
      cases h
    · intro h
      exact absurd h (hne s)

deriving instance DecidableEq for Stop

/-- What a call returns, with the state after it. -/
def returned {α : Type} : EStateM.Result Stop (State hashLong) α → Option (α × State hashLong)
  | .ok a s => some (a, s)
  | .error _ _ => none

/-- How a call stops. -/
def stopped {α : Type} : EStateM.Result Stop (State hashLong) α → Option Stop
  | .ok _ _ => none
  | .error e _ => some e

theorem eq_ok_of_returned {α : Type} {r : EStateM.Result Stop (State hashLong) α} {a : α}
    (h : (returned r).map Prod.fst = some a) : ∃ s, r = .ok a s := by
  cases r with
  | ok b s =>
    cases h
    exact ⟨s, rfl⟩
  | error e s => cases h

theorem eq_error_of_stopped {α : Type} {r : EStateM.Result Stop (State hashLong) α} {e : Stop}
    (h : stopped r = some e) : ∃ s, r = .error e s := by
  cases r with
  | ok b s => cases h
  | error e' s =>
    cases h
    exact ⟨s, rfl⟩

/-- A device with MOBs and all a batch may ask for. -/
def Env.mobDevice : Env :=
  { Env.bare 4096 with
    hasMob := true
    kmalloc := fun _ => true
    lookup := fun _ _ handle => some handle }

end Vmwgfx.Execbuf
