import Vmwgfx.Execbuf.Check

/-! Which command buffers the loop of `vmw_cmd_check_all` comes to an end on. -/

namespace Vmwgfx.Execbuf

open Vmwgfx.Hashtab Vmwgfx.Lib

variable {hashLong : HashLong}

/-- A round of the loop that goes on: a command that has passed its check. -/
structure Command (hashLong : HashLong) where
  buf : Nat
  remaining : Nat
  size : Nat
  before : State hashLong
  after : State hashLong

namespace Command

variable (c : Command hashLong)

def id : Nat := c.before.mem.read32 c.buf

/-- The size word of its header. -/
def bodySize : Nat := c.before.mem.read32 (c.buf + 4)

def Is3d : Prop := svgaCmdMax ≤ c.id

end Command

/-- The rounds that lead from one state of the loop to another. -/
inductive Checked (env : Env) : Nat → Int → State hashLong → List (Command hashLong) →
    Nat → Int → State hashLong → Prop
  | nil (buf : Nat) (curSize : Int) (s : State hashLong) : Checked env buf curSize s [] buf curSize s
  | cons {buf buf' size : Nat} {curSize curSize' : Int} {s t s' : State hashLong}
      {cs : List (Command hashLong)} (hpos : 0 < curSize)
      (hcheck : vmwCmdCheck env buf curSize.toNat s = .ok size t)
      (hrest : Checked env (buf + size) (toInt32 (curSize - size)) t cs buf' curSize' s') :
      Checked env buf curSize s (⟨buf, curSize.toNat, size, s, t⟩ :: cs) buf' curSize' s'

section Size

variable {env : Env} {buf remaining size : Nat} {s t : State hashLong}

theorem not3dSize_pos {cmdId n : Nat} (h : not3dSize cmdId = some n) : 0 < n := by
  unfold not3dSize at h
  split at h
  · cases h; decide
  · split at h
    · cases h; decide
    · split at h
      · cases h; decide
      · split at h
        · cases h; decide
        · cases h

theorem vmwCmdCheckNot3d_size (h : vmwCmdCheckNot3d env buf remaining s = .ok size t) :
    not3dSize (s.mem.read32 buf) = some size ∧ size ≤ remaining := by
  unfold vmwCmdCheckNot3d at h
  obtain ⟨cmdId, s₁, hpeek, h⟩ := bind_eq_ok.mp h
  cases hpeek
  cases hn : not3dSize (s.mem.read32 buf) with
  | none =>
    rw [hn] at h
    cases h
  | some n =>
    rw [hn] at h
    simp only at h
    split at h
    · cases h
    · rename_i hle
      split at h
      · cases h
      · split at h
        · obtain ⟨_, _, _, h⟩ := bind_eq_ok.mp h
          obtain ⟨rfl, rfl⟩ := pure_eq_ok.mp h
          exact ⟨rfl, Nat.le_of_not_lt hle⟩
        · obtain ⟨rfl, rfl⟩ := pure_eq_ok.mp h
          exact ⟨rfl, Nat.le_of_not_lt hle⟩

theorem orInvalid_eq_ok {x : Verify hashLong Unit} : orInvalid x s = .ok () t ↔ x s = .ok () t := by
  unfold orInvalid
  cases x s with
  | ok a r => exact Iff.rfl
  | error e r =>
    cases e with
    | errno ret => exact ⟨(fun h => nomatch h), (fun h => nomatch h)⟩
    | oops => exact ⟨(fun h => nomatch h), (fun h => nomatch h)⟩

theorem CmdEntry.check_eq_ok {entry : CmdEntry} (h : entry.check env buf s = .ok () t) :
    (entry.userAllow = true ∨ env.kernel = true) ∧ entry.run env buf s = .ok () t := by
  unfold CmdEntry.check at h
  split at h
  · cases h
  · rename_i hallow
    split at h
    · cases h
    · split at h
      · cases h
      · refine ⟨?_, orInvalid_eq_ok.mp h⟩
        cases hu : entry.userAllow with
        | true => exact .inl rfl
        | false =>
          rw [hu] at hallow
          simp only [Bool.not_false, Bool.true_and, Bool.not_eq_true', Bool.not_eq_false] at hallow
          exact .inr hallow

/-- A 3D command passes with the handler its id names, if the caller may use it. -/
theorem vmwCmdCheck_3d (hid : svgaCmdMax ≤ s.mem.read32 buf)
    (h : vmwCmdCheck env buf remaining s = .ok size t) :
    size = add32 (s.mem.read32 (buf + 4)) 8 ∧ size ≤ remaining ∧
      ((vmwCmdEntries (sub32 (s.mem.read32 buf) svga3dCmdBase)).userAllow = true ∨
        env.kernel = true) ∧
      (vmwCmdEntries (sub32 (s.mem.read32 buf) svga3dCmdBase)).run env buf s = .ok () t := by
  unfold vmwCmdCheck at h
  obtain ⟨cmdId, s₁, hpeek, h⟩ := bind_eq_ok.mp h
  cases hpeek
  rw [if_neg (Nat.not_lt_of_le hid)] at h
  obtain ⟨bodySize, s₂, hpeek, h⟩ := bind_eq_ok.mp h
  cases hpeek
  split at h
  · cases h
  · rename_i hle
    split at h
    · cases h
    · obtain ⟨_, s₃, hrun, h⟩ := bind_eq_ok.mp h
      obtain ⟨rfl, rfl⟩ := pure_eq_ok.mp h
      exact ⟨rfl, Nat.le_of_not_lt hle, CmdEntry.check_eq_ok hrun⟩

theorem vmwCmdCheck_not3d (hid : s.mem.read32 buf < svgaCmdMax)
    (h : vmwCmdCheck env buf remaining s = .ok size t) :
    vmwCmdCheckNot3d env buf remaining s = .ok size t := by
  unfold vmwCmdCheck at h
  obtain ⟨cmdId, s₁, hpeek, h⟩ := bind_eq_ok.mp h
  cases hpeek
  rwa [if_pos hid] at h

/-- A command that passes is no longer than what remains, and only a size word of
0xFFFFFFF8 makes it empty. -/
theorem vmwCmdCheck_size (h : vmwCmdCheck env buf remaining s = .ok size t) :
    size ≤ remaining ∧
      (size = 0 ↔ svgaCmdMax ≤ s.mem.read32 buf ∧ s.mem.read32 (buf + 4) = 2 ^ 32 - 8) := by
  cases Nat.lt_or_ge (s.mem.read32 buf) svgaCmdMax with
  | inl hid =>
    obtain ⟨hsize, hle⟩ := vmwCmdCheckNot3d_size (vmwCmdCheck_not3d hid h)
    have hpos := not3dSize_pos hsize
    refine ⟨hle, ?_⟩
    constructor
    · intro hzero
      omega
    · intro h3d
      omega
  | inr hid =>
    obtain ⟨hsize, hle, _⟩ := vmwCmdCheck_3d hid h
    have hlt := Mem.read32_lt s.mem (buf + 4)
    refine ⟨hle, ?_⟩
    rw [hsize]
    unfold add32
    constructor
    · intro hzero
      exact ⟨hid, by omega⟩
    · intro h3d
      have hbody := h3d.2
      omega

end Size

/-- What the loop needs of a round: it takes a positive part of what remains. -/
def Command.Decreases (c : Command hashLong) : Prop := 0 < c.size ∧ c.size ≤ c.remaining

/-- A 3D command with a size word to which 8 is added without anything left. -/
def Command.Wraps (c : Command hashLong) : Prop := c.Is3d ∧ c.bodySize = 2 ^ 32 - 8

section Loop

variable {env : Env} {buf buf' : Nat} {curSize curSize' : Int} {s s' : State hashLong}
  {cs : List (Command hashLong)}

theorem toInt32_le (x : Int) : toInt32 x < 2 ^ 31 ∧ -2 ^ 31 ≤ toInt32 x := by
  unfold toInt32
  omega

theorem toInt32_of_mem {x : Int} (h : 0 ≤ x) (h' : x < 2 ^ 31) : toInt32 x = x := by
  unfold toInt32
  omega

theorem Checked.decreases_iff (h : Checked env buf curSize s cs buf' curSize' s')
    {c : Command hashLong} (hc : c ∈ cs) : c.Decreases ↔ ¬ c.Wraps := by
  induction h with
  | nil => cases hc
  | cons hpos hcheck _ ih =>
    cases hc with
    | tail _ hmem => exact ih hmem
    | head =>
      obtain ⟨hle, hzero⟩ := vmwCmdCheck_size hcheck
      constructor
      · intro hdec hwraps
        exact Nat.ne_of_gt hdec.1 (hzero.mpr hwraps)
      · intro hwraps
        exact ⟨Nat.pos_of_ne_zero (fun h0 => hwraps (hzero.mp h0)), hle⟩

theorem checkLoop_terminates {fuel : Nat} (hlt : curSize < 2 ^ 31)
    (hdec : ∀ cs buf' curSize' s', Checked env buf curSize s cs buf' curSize' s' →
      ∀ c ∈ cs, c.Decreases) (hfuel : curSize ≤ fuel) :
    ∃ r, checkLoop env fuel buf curSize s = some r := by
  induction fuel generalizing buf curSize s with
  | zero =>
    unfold checkLoop
    rw [if_neg (by omega)]
    split
    · exact ⟨_, rfl⟩
    · exact ⟨_, rfl⟩
  | succ fuel ih =>
    unfold checkLoop
    by_cases hpos : curSize > 0
    · rw [if_pos hpos]
      cases hcheck : vmwCmdCheck env buf curSize.toNat s with
      | error e t => exact ⟨_, rfl⟩
      | ok size t =>
        -- the rest of the loop has less to go
        have hround := hdec _ _ _ _ (.cons hpos hcheck (.nil _ _ _)) _ List.mem_cons_self
        have hsize : 0 < size ∧ size ≤ curSize.toNat := hround
        have hcur : toInt32 (curSize - size) = curSize - size :=
          toInt32_of_mem (by omega) (by omega)
        apply ih
        · rw [hcur]
          omega
        · intro cs buf' curSize' s' hrest c hc
          exact hdec _ _ _ _ (.cons hpos hcheck hrest) c (List.mem_cons_of_mem _ hc)
        · rw [hcur]
          omega
    · rw [if_neg hpos]
      split
      · exact ⟨_, rfl⟩
      · exact ⟨_, rfl⟩

end Loop

/-- The verifier comes to an end, and every round that goes on takes the positive size it
found off what remains, which stays at or above zero. -/
def TerminatesDecreasing (env : Env) (size : Nat) (s : State hashLong) : Prop :=
  (∃ fuel r, vmwCmdCheckAll env fuel size s = some r) ∧
    ∀ cs buf' curSize' s', Checked env env.bufStart (toInt32 size) s cs buf' curSize' s' →
      ∀ c ∈ cs, c.Decreases

theorem vmwCmdCheckAll_terminates_iff (env : Env) (size : Nat) (s : State hashLong) :
    TerminatesDecreasing env size s ↔
      ∀ cs buf' curSize' s', Checked env env.bufStart (toInt32 size) s cs buf' curSize' s' →
        ∀ c ∈ cs, ¬ (c.Is3d ∧ c.bodySize = 2 ^ 32 - 8) := by
  constructor
  · intro h cs buf' curSize' s' hchecked c hc
    exact (hchecked.decreases_iff hc).mp (h.2 cs buf' curSize' s' hchecked c hc)
  · intro h
    have hdec : ∀ cs buf' curSize' s',
        Checked env env.bufStart (toInt32 size) s cs buf' curSize' s' → ∀ c ∈ cs, c.Decreases :=
      fun cs buf' curSize' s' hchecked c hc =>
        (hchecked.decreases_iff hc).mpr (h cs buf' curSize' s' hchecked c hc)
    refine ⟨⟨(toInt32 size).toNat, ?_⟩, hdec⟩
    apply checkLoop_terminates (toInt32_le size).1 hdec
    omega

section Endless

/-- A device without buffers, resources or memory to spare. -/
def Env.bare (bufStart : Nat) : Env where
  hasMob := false
  gb := false
  kernel := false
  capSysAdmin := false
  bufStart := bufStart
  kmalloc := fun _ => false
  lookup := fun _ _ _ => none
  dmabuf := fun _ _ => none
  numPages := fun _ => 0
  dummyQueryBo := 0
  bindingList := fun _ _ => []
  resMan := fun _ => 0
  addOutcome := fun _ => ⟨false, 0, 0, 0, 0, false, false⟩
  snooper := fun _ => false
  staleMobLoc := fun _ => 0

/-- A software context at the start of a batch. -/
def State.start (hashLong : HashLong) (mem : Mem) : State hashLong where
  mem := mem
  resRelocations := []
  relocs := []
  valBufs := []
  resourceList := []
  node := fun _ => none
  resCache := fun _ => none
  curQueryBo := none
  lastQueryCtx := none
  needsPostQueryBarrier := false
  errorResource := none
  shaders := ⟨.empty hashLong, 0⟩
  bufRef := fun _ => 0
  tick := 0
  events := []

/-- The words of a buffer. -/
def memOf (bufStart : Nat) : List Nat → Mem
  | [] => fun _ => 0
  | w :: ws => (memOf (bufStart + 4) ws).write32 bufStart w

/-- A command without a body, with a size word that wraps. -/
def presentReadback : State (fun key _ => key) :=
  .start _ (memOf 4096 [svga3dCmdPresentReadback, 2 ^ 32 - 8])

theorem vmwCmdCheck_presentReadback :
    vmwCmdCheck (.bare 4096) 4096 8 presentReadback = .ok 0 presentReadback := by
  have hid : presentReadback.mem.read32 4096 = svga3dCmdPresentReadback := by decide +kernel
  have hsize : presentReadback.mem.read32 (4096 + 4) = 2 ^ 32 - 8 := by decide +kernel
  have hpeek : peek 4096 presentReadback = .ok svga3dCmdPresentReadback presentReadback :=
    congrArg (EStateM.Result.ok · _) hid
  have hpeek' : peek (4096 + 4) presentReadback = .ok (2 ^ 32 - 8) presentReadback :=
    congrArg (EStateM.Result.ok · _) hsize
  have hentry : vmwCmdEntries (sub32 svga3dCmdPresentReadback svga3dCmdBase) =
      ⟨some .vmwCmdOk, true, false, false⟩ := rfl
  unfold vmwCmdCheck
  rw [bind_of_ok hpeek, if_neg (by decide), bind_of_ok hpeek', if_neg (by decide),
    if_neg (by decide), hentry]
  rfl

end Endless

/-- The verifier stays at such a command for ever. -/
theorem vmwCmdCheckAll_endless (fuel : Nat) :
    vmwCmdCheckAll (.bare 4096) fuel 8 presentReadback = none := by
  have hstart : toInt32 ((8 : Nat) : Int) = 8 := by decide
  have hrest : toInt32 (8 - ((0 : Nat) : Int)) = 8 := by decide
  unfold vmwCmdCheckAll
  rw [hstart]
  induction fuel with
  | zero => rfl
  | succ fuel ih =>
    unfold checkLoop
    rw [if_pos (by decide)]
    change (match vmwCmdCheck (.bare 4096) 4096 8 presentReadback with
      | .ok size s => checkLoop (.bare 4096) fuel (4096 + size) (toInt32 (8 - size)) s
      | .error e s => some (.error e s)) = none
    rw [vmwCmdCheck_presentReadback]
    simp only [hrest, Nat.add_zero]
    exact ih

/-- The property fails on it. -/
theorem not_terminatesDecreasing_presentReadback :
    ¬ TerminatesDecreasing (.bare 4096) 8 presentReadback := by
  intro h
  obtain ⟨fuel, r, hr⟩ := h.1
  rw [vmwCmdCheckAll_endless] at hr
  cases hr

end Vmwgfx.Execbuf
