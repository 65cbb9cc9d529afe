import Mathlib.Data.List.Chain
import Vmwgfx.Lib.Machine
import Vmwgfx.Irq.Seqno

/-! The seqnos over restarts of the FIFO: `vmw_fifo_init`, `vmw_fifo_release` and
`vmw_fifo_send_fence` of `vmwgfx_fifo.c`, `vmw_fallback_wait` of `vmwgfx_irq.c`. -/

namespace Vmwgfx.Fifo.Restart

open Vmwgfx.Lib
open Vmwgfx.Irq (nextSeqno)

inductive Phase
  | down
  /-- in `vmw_fifo_init`, behind its writes to the FIFO registers -/
  | starting
  | up
  deriving DecidableEq

/-- The thread that holds `fifo_mutex`, in `vmw_fifo_send_fence`. -/
inductive Sender
  | none
  | reserved
  /-- `atomic_add_return` has handed out `seqno` -/
  | drawn (seqno : Nat)
  /-- in `vmw_fifo_commit`, at `down_write` -/
  | copied (seqno : Nat)
  deriving DecidableEq

/-- How the loop of `vmw_fallback_wait` is left. -/
inductive Ended
  | idle
  | lockup
  | interrupted
  deriving DecidableEq

/-- The 32-bit words of `struct vmw_private` and of the FIFO. -/
structure State where
  /-- `SVGA_FIFO_CAP_FENCE` -/
  capFence : Bool
  /-- `SVGA_FIFO_CAP_RESERVE` -/
  capReserve : Bool
  markerSeq : Nat
  lastReadSeqno : Nat
  /-- `SVGA_FIFO_FENCE` -/
  fifoFence : Nat
  /-- the fence commands the device has still to execute -/
  queue : List Nat
  phase : Phase
  sender : Sender
  /-- the `signal_seq` of each `vmw_fallback_wait` that holds `rwsem` -/
  waits : List Nat
  /-- the last seqno whose call is over, or the first of the present start -/
  committed : Nat
  /-- what `vmw_fifo_send_fence` has handed out -/
  handed : List Nat

inductive Act
  /-- `vmw_fifo_init` up to its `vmw_fifo_send_fence`, and whether `vmalloc` succeeds -/
  | init (ok : Bool)
  | release
  /-- `vmw_fifo_reserve` in `vmw_fifo_send_fence` -/
  | reserve (ok : Bool)
  | draw
  | copy
  | commit
  /-- `vmw_fallback_wait` for an idle FIFO takes `rwsem` and reads `marker_seq` -/
  | waitStart
  | waitEnd (signalSeq : Nat) (ended : Ended)
  | updateSeqno
  /-- the device executes a fence command -/
  | device
  deriving DecidableEq

namespace State

variable (s : State)

def vmwFifoInit : State :=
  { s with
    markerSeq := s.lastReadSeqno
    fifoFence := s.lastReadSeqno
    queue := []
    phase := .starting
    committed := s.lastReadSeqno }

/-- The device has finished its commands before it reports not to be busy. -/
def vmwFifoRelease : State := { s with lastReadSeqno := s.fifoFence, phase := .down }

/-- `vmw_fifo_send_fence` without FIFO space goes on with a wait. -/
def reserve (ok : Bool) : State :=
  if ok then { s with sender := .reserved } else { s with waits := s.markerSeq :: s.waits }

def draw : State :=
  let seqno := nextSeqno s.markerSeq
  { s with markerSeq := seqno, sender := .drawn seqno, handed := s.handed ++ [seqno] }

/-- `vmw_fifo_slow_copy` moves `SVGA_FIFO_NEXT_CMD` on before `vmw_fifo_commit` has `rwsem`. -/
def copy (seqno : Nat) : State :=
  { s with
    sender := .copied seqno
    queue := if s.capFence && !s.capReserve then s.queue ++ [seqno] else s.queue }

def commit (seqno : Nat) : State :=
  { s with
    sender := .none
    queue := if s.capFence && s.capReserve then s.queue ++ [seqno] else s.queue
    phase := .up
    committed := seqno }

/-- The end of `vmw_fallback_wait`; the `vmw_fifo_send_fence` of `vmw_fifo_init` fails after it. -/
def waitEnd (signalSeq : Nat) (ended : Ended) : State :=
  { s with
    waits := s.waits.erase signalSeq
    fifoFence := if ended = .interrupted then s.fifoFence else signalSeq
    phase := if s.phase = .starting then .down else s.phase }

end State

def step (s : State) : Act → Option State
  | .init ok =>
    if s.phase = .down then some (if ok then s.vmwFifoInit else s) else none
  | .release =>
    if s.phase = .up ∧ s.sender = .none ∧ s.waits = [] ∧ s.queue = [] then
      some s.vmwFifoRelease
    else none
  | .reserve ok =>
    if s.sender = .none ∧ (s.phase = .up ∨ s.phase = .starting ∧ s.waits = []) then
      some (s.reserve ok)
    else none
  | .draw => if s.sender = .reserved then some s.draw else none
  | .copy =>
    match s.sender with
    | .drawn seqno => some (s.copy seqno)
    | .none | .reserved | .copied _ => none
  | .commit =>
    match s.sender with
    | .copied seqno => if s.waits = [] then some (s.commit seqno) else none
    | .none | .reserved | .drawn _ => none
  | .waitStart =>
    if s.phase = .up then some { s with waits := s.markerSeq :: s.waits } else none
  | .waitEnd signalSeq ended =>
    if signalSeq ∈ s.waits ∧ (ended = .idle → s.queue = []) then
      some (s.waitEnd signalSeq ended)
    else none
  | .updateSeqno => some { s with lastReadSeqno := s.fifoFence }
  | .device =>
    match s.queue with
    | [] => none
    | seqno :: queue => some { s with fifoFence := seqno, queue := queue }

/-- `vmw_driver_load`, on a device whose fence register holds anything. -/
def init (capFence capReserve : Bool) (fifoFence : Nat) : State where
  capFence := capFence
  capReserve := capReserve
  markerSeq := 0
  lastReadSeqno := 2 ^ 32 - 100
  fifoFence := fifoFence
  queue := []
  phase := .down
  sender := .none
  waits := []
  committed := 0
  handed := []

/-- The seqnos follow each other; none comes again within a wrap. -/
structure Continues (handed : List Nat) : Prop where
  next : handed.IsChain (fun a b => b = nextSeqno a)
  word : ∀ seqno ∈ handed, 0 < seqno ∧ seqno < 2 ^ 32
  distinct : ∀ i j (hi : i < handed.length) (hj : j < handed.length), i < j →
    j < i + (2 ^ 32 - 1) → handed[i] ≠ handed[j]

/-- A restart takes the counter from the register: the device writes it where it has fences
and sees them under `rwsem` only, else an idle wait has to have left the last seqno there. -/
def Kept (s : State) : Act → Prop
  | .release => s.capFence = true ∧ s.capReserve = true ∨ s.fifoFence = s.markerSeq
  | .init _ | .reserve _ | .draw | .copy | .commit | .waitStart | .waitEnd _ _ | .updateSeqno
  | .device => True

theorem nextSeqno_word (n : Nat) : 0 < nextSeqno n ∧ nextSeqno n < 2 ^ 32 := by
  unfold nextSeqno
  dsimp only
  split
  · rename_i hzero
    rw [hzero]
    decide
  · rename_i hne
    exact ⟨Nat.pos_of_ne_zero hne, Nat.mod_lt _ (by decide)⟩

/-- Where a seqno is in the round of the words other than zero. -/
theorem nextSeqno_round {n : Nat} (hpos : 0 < n) (hlt : n < 2 ^ 32) :
    nextSeqno n = (n - 1 + 1) % (2 ^ 32 - 1) + 1 := by
  unfold nextSeqno add32
  dsimp only
  split <;> omega

section Continues

variable {handed : List Nat}

theorem getElem_round (hnext : handed.IsChain (fun a b => b = nextSeqno a))
    (hword : ∀ seqno ∈ handed, 0 < seqno ∧ seqno < 2 ^ 32) (i : Nat) (hi : i < handed.length) :
    handed[i] = (handed[0] - 1 + i) % (2 ^ 32 - 1) + 1 := by
  induction i with
  | zero =>
    obtain ⟨hpos, hlt⟩ := hword handed[0] (List.getElem_mem hi)
    omega
  | succ i ih =>
    have hi' : i < handed.length := Nat.lt_of_succ_lt hi
    obtain ⟨hpos, hlt⟩ := hword handed[i] (List.getElem_mem hi')
    have hstep := List.isChain_iff_getElem.mp hnext i hi
    rw [hstep, nextSeqno_round hpos hlt, ih hi']
    omega

theorem continues_of_chain (hnext : handed.IsChain (fun a b => b = nextSeqno a))
    (hword : ∀ seqno ∈ handed, 0 < seqno ∧ seqno < 2 ^ 32) : Continues handed where
  next := hnext
  word := hword
  distinct := by
    intro i j hi hj hij hwrap heq
    rw [getElem_round hnext hword i hi, getElem_round hnext hword j hj] at heq
    omega

end Continues

/-- The sender has no seqno of its own. -/
def Sender.Blank : Sender → Prop
  | .none | .reserved => True
  | .drawn _ | .copied _ => False

/-- What a sender has handed out is the counter. -/
def Sender.Holds (markerSeq : Nat) : Sender → Prop
  | .none | .reserved => True
  | .drawn seqno | .copied seqno => seqno = markerSeq

/-- The FIFO is down, and a start takes up the last seqno. -/
structure Down (s : State) : Prop where
  sender : s.sender = .none
  waits : s.waits = []
  queue : s.queue = []
  last : ∀ seqno ∈ s.handed.getLast?, seqno = s.lastReadSeqno ∧ seqno = s.fifoFence

/-- Only the thread in `vmw_fifo_init` runs. -/
structure Starting (s : State) : Prop where
  waits : s.waits = [] ∨ s.waits = [s.markerSeq] ∧ s.sender = .none
  blank : s.sender.Blank →
    s.lastReadSeqno = s.markerSeq ∧ s.fifoFence = s.markerSeq ∧ s.queue = []

/-- The register follows the counter, for a device that sees fences under `rwsem` only. -/
structure Follows (s : State) : Prop where
  waits : ∀ signalSeq ∈ s.waits, signalSeq = s.committed ∨ signalSeq = s.markerSeq
  idle : s.queue = [] → s.fifoFence = s.committed ∨ s.fifoFence = s.markerSeq
  last : ∀ seqno ∈ s.queue.getLast?, seqno = s.committed

structure Inv (s : State) : Prop where
  next : s.handed.IsChain (fun a b => b = nextSeqno a)
  word : ∀ seqno ∈ s.handed, 0 < seqno ∧ seqno < 2 ^ 32
  last : s.phase ≠ .down → ∀ seqno ∈ s.handed.getLast?, seqno = s.markerSeq
  sender : s.sender.Holds s.markerSeq
  committed : s.phase ≠ .down → s.sender.Blank → s.committed = s.markerSeq
  down : s.phase = .down → Down s
  starting : s.phase = .starting → Starting s
  follows : s.capFence = true → s.capReserve = true → s.phase ≠ .down → Follows s

namespace Inv

variable {s s' : State}

theorem fifoInit (h : Inv s) (hphase : s.phase = .down) : Inv s.vmwFifoInit := by
  obtain ⟨hsender, hwaits, hqueue, hlast⟩ := h.down hphase
  exact
  { h with
    last := fun _ seqno hm => (hlast seqno hm).1
    sender := by
      show s.sender.Holds _
      rw [hsender]
      trivial
    committed := fun _ _ => rfl
    down := Phase.noConfusion
    starting := fun _ => ⟨.inl hwaits, fun _ => ⟨rfl, rfl, rfl⟩⟩
    follows := fun _ _ _ =>
      { waits := by
          intro signalSeq hm
          change signalSeq ∈ s.waits at hm
          rw [hwaits] at hm
          cases hm
        idle := fun _ => .inl rfl
        last := by
          intro seqno hm
          cases hm } }

theorem fifoRelease (h : Inv s) (hphase : s.phase = .up) (hsender : s.sender = .none)
    (hwaits : s.waits = []) (hqueue : s.queue = []) (hkept : Kept s .release) :
    Inv s.vmwFifoRelease := by
  have hup : s.phase ≠ .down := by
    rw [hphase]
    exact Phase.noConfusion
  have hfence : s.fifoFence = s.markerSeq := by
    rcases hkept with ⟨hf, hr⟩ | hfence
    · have hcommitted := h.committed hup (by rw [hsender]; trivial)
      rcases (h.follows hf hr hup).idle hqueue with heq | heq
      · exact heq.trans hcommitted
      · exact heq
    · exact hfence
  exact
  { h with
    last := fun hne => absurd rfl hne
    committed := fun hne => absurd rfl hne
    down := fun _ =>
      { sender := hsender
        waits := hwaits
        queue := hqueue
        last := by
          intro seqno hm
          have heq := (h.last hup seqno hm).trans hfence.symm
          exact ⟨heq, heq⟩ }
    starting := Phase.noConfusion
    follows := fun _ _ hne => absurd rfl hne }

theorem reserve (h : Inv s) (ok : Bool) (hsender : s.sender = .none)
    (hphase : s.phase = .up ∨ s.phase = .starting ∧ s.waits = []) : Inv (s.reserve ok) := by
  have hblank : s.sender.Blank := by
    rw [hsender]
    trivial
  have hup : s.phase ≠ .down := by
    rcases hphase with hp | ⟨hp, -⟩ <;> rw [hp] <;> exact Phase.noConfusion
  cases ok with
  | true =>
    exact
    { h with
      sender := trivial
      committed := fun hne _ => h.committed hne hblank
      down := fun hdown => absurd hdown hup
      starting := by
        intro hp
        obtain ⟨hwaits, hrest⟩ := h.starting hp
        rcases hphase with hp' | ⟨-, hnil⟩
        · rw [show s.phase = .starting from hp] at hp'
          cases hp'
        · exact ⟨.inl hnil, fun _ => hrest hblank⟩
      follows := fun hf hr hne => { h.follows hf hr hne with } }
  | false =>
    exact
    { h with
      down := fun hdown => absurd hdown hup
      starting := by
        intro hp
        rcases hphase with hp' | ⟨-, hnil⟩
        · rw [show s.phase = .starting from hp] at hp'
          cases hp'
        · refine ⟨.inr ⟨?_, hsender⟩, (h.starting hp).blank⟩
          show s.markerSeq :: s.waits = [s.markerSeq]
          rw [hnil]
      follows := fun hf hr hne =>
        { h.follows hf hr hne with
          waits := by
            intro signalSeq hm
            rcases List.mem_cons.mp hm with heq | hm
            · exact .inr heq
            · exact (h.follows hf hr hne).waits signalSeq hm } }

theorem draw (h : Inv s) (hsender : s.sender = .reserved) : Inv s.draw := by
  have hblank : s.sender.Blank := by
    rw [hsender]
    trivial
  have hup : s.phase ≠ .down := by
    intro hp
    rw [(h.down hp).sender] at hsender
    cases hsender
  have hcommitted := h.committed hup hblank
  exact
  { next := by
      apply List.isChain_append.mpr
      refine ⟨h.next, List.isChain_singleton _, ?_⟩
      intro a ha b hb
      cases hb
      rw [h.last hup a ha]
    word := by
      intro seqno hm
      rcases List.mem_append.mp hm with hm | hm
      · exact h.word seqno hm
      · rw [List.mem_singleton.mp hm]
        exact nextSeqno_word _
    last := by
      intro _ seqno hm
      simp only [State.draw, List.getLast?_append, List.getLast?_singleton, Option.some_or,
        Option.mem_def, Option.some.injEq] at hm
      exact hm.symm
    sender := rfl
    committed := fun _ => False.elim
    down := fun hdown => absurd hdown hup
    starting := by
      intro hp
      refine ⟨?_, False.elim⟩
      rcases (h.starting hp).waits with hnil | ⟨-, hnone⟩
      · exact .inl hnil
      · rw [hnone] at hsender
        cases hsender
    follows := fun hf hr hne =>
      { waits := by
          intro signalSeq hm
          rcases (h.follows hf hr hne).waits signalSeq hm with heq | heq
          · exact .inl heq
          · exact .inl (heq.trans hcommitted.symm)
        idle := by
          intro hnil
          rcases (h.follows hf hr hne).idle hnil with heq | heq
          · exact .inl heq
          · exact .inl (heq.trans hcommitted.symm)
        last := (h.follows hf hr hne).last } }

theorem copy {seqno : Nat} (h : Inv s) (hsender : s.sender = .drawn seqno) : Inv (s.copy seqno) := by
  have hup : s.phase ≠ .down := by
    intro hp
    rw [(h.down hp).sender] at hsender
    cases hsender
  have hholds := h.sender
  rw [hsender] at hholds
  exact
  { h with
    sender := hholds
    committed := fun _ => False.elim
    down := fun hdown => absurd hdown hup
    starting := by
      intro hp
      refine ⟨?_, False.elim⟩
      rcases (h.starting hp).waits with hnil | ⟨-, hnone⟩
      · exact .inl hnil
      · rw [hnone] at hsender
        cases hsender
    follows := by
      intro hf hr hne
      have hqueue : (s.copy seqno).queue = s.queue := by
        change s.capReserve = true at hr
        simp [State.copy, hr]
      have hfollows := h.follows hf hr hne
      exact
      { waits := hfollows.waits
        idle := by
          rw [hqueue]
          exact hfollows.idle
        last := by
          rw [hqueue]
          exact hfollows.last } }

theorem commit {seqno : Nat} (h : Inv s) (hsender : s.sender = .copied seqno)
    (hwaits : s.waits = []) : Inv (s.commit seqno) := by
  have hup : s.phase ≠ .down := by
    intro hp
    rw [(h.down hp).sender] at hsender
    cases hsender
  have hholds := h.sender
  rw [hsender] at hholds
  change seqno = s.markerSeq at hholds
  exact
  { h with
    last := fun _ => h.last hup
    sender := trivial
    committed := fun _ _ => hholds
    down := Phase.noConfusion
    starting := Phase.noConfusion
    follows := by
      intro hf hr _
      have hqueue : (s.commit seqno).queue = s.queue ++ [seqno] := by
        change s.capFence = true at hf
        change s.capReserve = true at hr
        simp [State.commit, hf, hr]
      exact
      { waits := by
          intro signalSeq hm
          change signalSeq ∈ s.waits at hm
          rw [hwaits] at hm
          cases hm
        idle := by
          intro hnil
          rw [hqueue] at hnil
          exact absurd hnil (List.append_ne_nil_of_right_ne_nil _ (List.cons_ne_nil _ _))
        last := by
          intro x hm
          rw [hqueue] at hm
          simp only [List.getLast?_append, List.getLast?_singleton, Option.some_or, Option.mem_def,
            Option.some.injEq] at hm
          exact hm.symm } }

theorem waitStart (h : Inv s) (hphase : s.phase = .up) :
    Inv { s with waits := s.markerSeq :: s.waits } := by
  have hup : s.phase ≠ .down := by
    rw [hphase]
    exact Phase.noConfusion
  exact
  { h with
    down := fun hdown => absurd hdown hup
    starting := by
      intro hp
      rw [show s.phase = .starting from hp] at hphase
      cases hphase
    follows := fun hf hr hne =>
      { h.follows hf hr hne with
        waits := by
          intro signalSeq hm
          rcases List.mem_cons.mp hm with heq | hm
          · exact .inr heq
          · exact (h.follows hf hr hne).waits signalSeq hm } }

theorem waitEnd {signalSeq : Nat} (h : Inv s) (ended : Ended) (hm : signalSeq ∈ s.waits) :
    Inv (s.waitEnd signalSeq ended) := by
  have hup : s.phase ≠ .down := by
    intro hp
    rw [(h.down hp).waits] at hm
    cases hm
  by_cases hp : s.phase = .starting
  case pos =>
    -- the failed send of `vmw_fifo_init`: nothing has been handed out since the register was set
    obtain ⟨hwaits, hblank⟩ := h.starting hp
    obtain ⟨hwaits, hsender⟩ : s.waits = [s.markerSeq] ∧ s.sender = .none := by
      rcases hwaits with hnil | hone
      · rw [hnil] at hm
        cases hm
      · exact hone
    obtain ⟨hread, hfence, hqueue⟩ := hblank (by rw [hsender]; trivial)
    have hseq : signalSeq = s.markerSeq := List.mem_singleton.mp (hwaits ▸ hm)
    have hphase : (s.waitEnd signalSeq ended).phase = .down := if_pos hp
    exact
    { h with
      last := fun hne => absurd hphase hne
      committed := fun hne => absurd hphase hne
      down := fun _ =>
        { sender := hsender
          waits := by
            show s.waits.erase signalSeq = []
            rw [hwaits, hseq, List.erase_cons_head]
          queue := hqueue
          last := by
            intro seqno hlast
            have heq := h.last hup seqno hlast
            refine ⟨heq.trans hread.symm, ?_⟩
            unfold State.waitEnd
            dsimp only
            split
            · exact heq.trans hfence.symm
            · exact heq.trans hseq.symm }
      starting := by
        intro hp'
        rw [hphase] at hp'
        cases hp'
      follows := fun _ _ hne => absurd hphase hne }
  case neg =>
    have hphase : (s.waitEnd signalSeq ended).phase = s.phase := if_neg hp
    exact
    { h with
      last := fun _ => h.last hup
      committed := fun _ => h.committed hup
      down := by
        intro hdown
        rw [hphase] at hdown
        exact absurd hdown hup
      starting := by
        intro hp'
        rw [hphase] at hp'
        exact absurd hp' hp
      follows := by
        intro hf hr _
        have hfollows := h.follows hf hr hup
        exact
        { waits := fun x hx => hfollows.waits x (List.mem_of_mem_erase hx)
          idle := by
            intro hnil
            unfold State.waitEnd
            dsimp only
            split
            · exact hfollows.idle hnil
            · exact hfollows.waits signalSeq hm
          last := hfollows.last } }

theorem updateSeqno (h : Inv s) : Inv { s with lastReadSeqno := s.fifoFence } :=
  { h with
    down := fun hdown =>
      { h.down hdown with
        last := by
          intro seqno hm
          have hlast := ((h.down hdown).last seqno hm).2
          exact ⟨hlast, hlast⟩ }
    starting := fun hp =>
      { h.starting hp with
        blank := by
          intro hblank
          obtain ⟨-, hfence, hqueue⟩ := (h.starting hp).blank hblank
          exact ⟨hfence, hfence, hqueue⟩ }
    follows := fun hf hr hne => { h.follows hf hr hne with } }

theorem device {seqno : Nat} {queue : List Nat} (h : Inv s) (hqueue : s.queue = seqno :: queue) :
    Inv { s with fifoFence := seqno, queue := queue } :=
  { h with
    down := by
      intro hdown
      rw [(h.down hdown).queue] at hqueue
      cases hqueue
    starting := fun hp =>
      { h.starting hp with
        blank := by
          intro hblank
          rw [((h.starting hp).blank hblank).2.2] at hqueue
          cases hqueue }
    follows := by
      intro hf hr hne
      have hlast := (h.follows hf hr hne).last
      rw [hqueue] at hlast
      exact
      { h.follows hf hr hne with
        idle := by
          intro hnil
          change queue = [] at hnil
          rw [hnil] at hlast
          exact .inl (hlast seqno rfl)
        last := by
          intro x hm
          apply hlast x
          rw [List.getLast?_cons, Option.mem_def.mp hm]
          rfl } }

theorem init (capFence capReserve : Bool) (fifoFence : Nat) :
    Inv (Restart.init capFence capReserve fifoFence) where
  next := .nil
  word := fun _ => List.not_mem_nil.elim
  last := fun hne => absurd rfl hne
  sender := trivial
  committed := fun hne => absurd rfl hne
  down := fun _ => ⟨rfl, rfl, rfl, fun _ hm => by cases hm⟩
  starting := Phase.noConfusion
  follows := fun _ _ hne => absurd rfl hne

end Inv

theorem step_inv {s s' : State} {a : Act} (hkept : Kept s a) (hstep : step s a = some s')
    (h : Inv s) : Inv s' := by
  cases a with
  | init ok =>
    obtain ⟨hphase, hstep⟩ := Option.ite_none_right_eq_some.mp hstep
    cases ok with
    | true =>
      cases hstep
      exact h.fifoInit hphase
    | false =>
      cases hstep
      exact h
  | release =>
    obtain ⟨⟨hphase, hsender, hwaits, hqueue⟩, hstep⟩ := Option.ite_none_right_eq_some.mp hstep
    cases hstep
    exact h.fifoRelease hphase hsender hwaits hqueue hkept
  | reserve ok =>
    obtain ⟨⟨hsender, hphase⟩, hstep⟩ := Option.ite_none_right_eq_some.mp hstep
    cases hstep
    exact h.reserve ok hsender hphase
  | draw =>
    obtain ⟨hsender, hstep⟩ := Option.ite_none_right_eq_some.mp hstep
    cases hstep
    exact h.draw hsender
  | copy =>
    dsimp only [step] at hstep
    split at hstep
    case h_1 seqno hsender =>
      cases hstep
      exact h.copy hsender
    all_goals cases hstep
  | commit =>
    dsimp only [step] at hstep
    split at hstep
    case h_1 seqno hsender =>
      obtain ⟨hwaits, hstep⟩ := Option.ite_none_right_eq_some.mp hstep
      cases hstep
      exact h.commit hsender hwaits
    all_goals cases hstep
  | waitStart =>
    obtain ⟨hphase, hstep⟩ := Option.ite_none_right_eq_some.mp hstep
    cases hstep
    exact h.waitStart hphase
  | waitEnd signalSeq ended =>
    obtain ⟨⟨hm, -⟩, hstep⟩ := Option.ite_none_right_eq_some.mp hstep
    cases hstep
    exact h.waitEnd ended hm
  | updateSeqno =>
    cases hstep
    exact h.updateSeqno
  | device =>
    dsimp only [step] at hstep
    split at hstep
    case h_1 => cases hstep
    case h_2 seqno queue hqueue =>
      cases hstep
      exact h.device hqueue

/-- No restart hands out a seqno again. -/
theorem restart_continues {capFence capReserve : Bool} {fifoFence : Nat} {as : List Act} {s : State}
    (hrun : Run step Kept (init capFence capReserve fifoFence) as s) : Continues s.handed := by
  have h := hrun.invariant (fun _ _ _ hkept hstep h => step_inv hkept hstep h)
    (Inv.init capFence capReserve fifoFence)
  exact continues_of_chain h.next h.word

section Example

private def send : List Act := [.reserve true, .draw, .copy, .commit]

/-- A start, another fence and a restart. -/
theorem restart_continues_twice : ∃ s,
    Run step Kept (init true true 0)
        (.init true :: send ++ send ++ [.device, .device, .release, .init true] ++ send) s ∧
      s.handed = [2 ^ 32 - 99, 2 ^ 32 - 98, 2 ^ 32 - 97] ∧ Continues s.handed := by
  have hrun : Run step Kept (init true true 0)
      (.init true :: send ++ send ++ [.device, .device, .release, .init true] ++ send) _ :=
    .cons trivial rfl <| .cons trivial rfl <| .cons trivial rfl <| .cons trivial rfl <|
      .cons trivial rfl <| .cons trivial rfl <| .cons trivial rfl <| .cons trivial rfl <|
      .cons trivial rfl <| .cons trivial rfl <| .cons trivial rfl <|
      .cons (.inl ⟨rfl, rfl⟩) rfl <| .cons trivial rfl <| .cons trivial rfl <|
      .cons trivial rfl <| .cons trivial rfl <| .cons trivial rfl <| .nil _
  exact ⟨_, hrun, rfl, restart_continues hrun⟩

/-- A device without fences is stopped and started again: the first seqno comes twice. -/
theorem restart_repeats : ¬ ∀ capFence capReserve fifoFence as s,
    Run step (fun _ _ => True) (init capFence capReserve fifoFence) as s → Continues s.handed := by
  intro h
  have hrun : Run step (fun _ _ => True) (init false true 0)
      (.init true :: send ++ [.release, .init true] ++ send) _ :=
    .cons trivial rfl <| .cons trivial rfl <| .cons trivial rfl <| .cons trivial rfl <|
      .cons trivial rfl <| .cons trivial rfl <| .cons trivial rfl <| .cons trivial rfl <|
      .cons trivial rfl <| .cons trivial rfl <| .cons trivial rfl <| .nil _
  exact (h _ _ _ _ _ hrun).distinct 0 1 (by decide) (by decide) (by decide) (by decide) rfl

-- The second seqno comes twice on a device with fences that sees them before `rwsem` is taken.
example : ∃ s,
    Run step (fun _ _ => True) (init true false 0)
        ([.init true, .reserve true, .draw, .copy, .commit, .waitStart, .reserve true, .draw, .copy,
          .device, .device, .waitEnd (2 ^ 32 - 99) .idle, .commit, .release, .init true] ++ send) s ∧
      s.handed = [2 ^ 32 - 99, 2 ^ 32 - 98, 2 ^ 32 - 98] :=
  ⟨_, .cons trivial rfl <| .cons trivial rfl <| .cons trivial rfl <| .cons trivial rfl <|
      .cons trivial rfl <| .cons trivial rfl <| .cons trivial rfl <| .cons trivial rfl <|
      .cons trivial rfl <| .cons trivial rfl <| .cons trivial rfl <| .cons trivial rfl <|
      .cons trivial rfl <| .cons trivial rfl <| .cons trivial rfl <| .cons trivial rfl <|
      .cons trivial rfl <| .cons trivial rfl <| .cons trivial rfl <| .nil _, rfl⟩

end Example

end Vmwgfx.Fifo.Restart
