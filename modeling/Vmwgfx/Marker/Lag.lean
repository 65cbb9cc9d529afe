import Vmwgfx.Lib.Machine
import Vmwgfx.Marker.Queue

/-! Throttling: `vmw_wait_lag` among pushes, pulls and readings of the lag by other threads. -/

namespace Vmwgfx.Marker

open Vmwgfx.Lib

/-- Where `vmw_wait_lag` stands. -/
inductive Pc
  | out
  /-- before `vmw_fifo_lag` takes the lock -/
  | test
  /-- before the lag is read, the lock released again -/
  | read
  | pick
  | wait (seqno : Nat)
  | pull (seqno : Nat)
  | done (ret : Int) (lag : Timespec)

/-- The `us` is that of the thread that waits. -/
structure State where
  /-- in nanoseconds -/
  clock : Nat
  queue : VmwMarkerQueue
  /-- markers with the time of submission set, their pushes before the lock -/
  pushing : List VmwMarker
  markerSeq : Nat
  pc : Pc
  us : Nat
  /-- waits begun by the thread -/
  waits : Nat
  steps : Nat
  /-- every marker put into the queue, in order -/
  pushed : List VmwMarker
  /-- the time of the last pull of any thread since the thread entered -/
  lastPull : Option Nat

def State.now (s : State) : Timespec := nsToTimespec s.clock

inductive Act
  | tick (ns : Nat)
  | submit (seqno : Nat)
  | push (i : Nat)
  | pull (seqno : Nat)
  | fifoLag
  | setMarkerSeq (seqno : Nat)
  | enter (us : Nat)
  | test
  | read
  | pick
  | waited (ret : Int)
  | pullOwn

section Code

variable (s : State)

/-- `vmw_fifo_lag` with the lock held. -/
def fifoLag (now : Timespec) (queue : VmwMarkerQueue) : VmwMarkerQueue :=
  { queue with lag := vmwTimespecAdd queue.lag (vmwTimespecSub now queue.lagTime), lagTime := now }

/-- The seqno `vmw_wait_lag` picks. -/
def pickSeqno : Nat :=
  match s.queue.markers with
  | [] => s.markerSeq
  | marker :: _ => marker.seqno

def pulled (seqno : Nat) : State :=
  { s with queue := (vmwMarkerPull seqno s.now s.queue).1, lastPull := some s.clock }

/-- The thread moves on. -/
def goto (pc : Pc) : State := { s with pc := pc, steps := s.steps + 1 }

def step (a : Act) : Option State :=
  match a with
  | .tick ns => some { s with clock := s.clock + ns }
  | .submit seqno => some { s with pushing := s.pushing ++ [⟨seqno, s.now⟩] }
  | .push i =>
    match s.pushing[i]? with
    | none => none
    | some marker =>
      some { s with
        queue := addTail s.queue marker
        pushing := s.pushing.eraseIdx i
        pushed := s.pushed ++ [marker] }
  | .pull seqno => some (pulled s seqno)
  | .fifoLag => some { s with queue := fifoLag s.now s.queue }
  | .setMarkerSeq seqno => some { s with markerSeq := seqno }
  | .enter us =>
    match s.pc with
    | .out => some { s with pc := .test, us := us, waits := 0, steps := 0, lastPull := none }
    | _ => none
  | .test =>
    match s.pc with
    | .test => some (goto { s with queue := fifoLag s.now s.queue } .read)
    | _ => none
  | .read =>
    match s.pc with
    | .read =>
      if timespecCompare s.queue.lag (nsToTimespec (s.us * 1000)) < 1 then
        some (goto s (.done 0 s.queue.lag))
      else some (goto s .pick)
    | _ => none
  | .pick =>
    match s.pc with
    | .pick => some (goto { s with waits := s.waits + 1 } (.wait (pickSeqno s)))
    | _ => none
  | .waited ret =>
    match s.pc with
    | .wait seqno =>
      if ret = 0 then some (goto s (.pull seqno)) else some (goto s (.done ret s.queue.lag))
    | _ => none
  | .pullOwn =>
    match s.pc with
    | .pull seqno => some (goto (pulled s seqno) .test)
    | _ => none

end Code

/-- The state behind `vmw_marker_queue_init`. -/
def init (clock markerSeq : Nat) : State where
  clock := clock
  queue := vmwMarkerQueueInit (nsToTimespec clock)
  pushing := []
  markerSeq := markerSeq
  pc := .out
  us := 0
  waits := 0
  steps := 0
  pushed := []
  lastPull := none

/-- A pull at the time `now`, of a queue with seqnos counted from `base`. -/
structure Pulled (seqno base : Nat) (now : Int) (queue queue' : VmwMarkerQueue) : Prop where
  kept : queue'.markers = queue.markers.filter (fun m => sub32 seqno base < sub32 m.seqno base)
  last : ∀ m,
    (queue.markers.filter (fun m => sub32 m.seqno base ≤ sub32 seqno base)).getLast? = some m →
    m.submitted.ns ≤ now ∧ queue'.lag.ns = now - m.submitted.ns
  empty : queue.markers = [] → queue'.lag.ns = 0
  unchanged : queue.markers ≠ [] → (∀ m ∈ queue.markers, sub32 seqno base < sub32 m.seqno base) →
    queue'.lag = queue.lag

/-- No push; waits succeed; less than `us` passes between the last pull and the test that follows
`n + 1` waits. -/
def Quiet (n : Nat) (s : State) : Act → Prop
  | .push _ => False
  | .waited ret => ret = 0
  | .read => ∀ t, s.lastPull = some t → n < s.waits → s.clock < t + s.us * 1000
  | _ => True

/-- The thread is back from `vmw_wait_lag`. -/
def State.Returned (s : State) : Prop :=
  ∃ lag, s.pc = .done 0 lag ∧ lag.ns ≤ s.us * 1000

/-- The next step of the thread. -/
def State.next (s : State) : Act :=
  match s.pc with
  | .test => .test
  | .read => .read
  | .pick => .pick
  | .wait _ => .waited 0
  | .pull _ => .pullOwn
  | _ => .tick 0

section Pulls

variable {seqno : Nat} {now : Timespec} {queue : VmwMarkerQueue}

theorem pull_lagTime (seqno : Nat) (now : Timespec) (queue : VmwMarkerQueue) :
    (vmwMarkerPull seqno now queue).1.lagTime = queue.lagTime ∨
      (vmwMarkerPull seqno now queue).1.lagTime = now := by
  by_cases h : queue.markers = []
  · rw [pull_of_empty seqno now queue h]
    exact .inr rfl
  · rw [pull_of_ne seqno now queue h]
    dsimp only
    rw [pullEach_lagTime]
    split
    case isTrue => exact .inl rfl
    case isFalse => exact .inr rfl

theorem pull_length_le (seqno : Nat) (now : Timespec) (queue : VmwMarkerQueue) :
    (vmwMarkerPull seqno now queue).1.markers.length ≤ queue.markers.length := by
  rw [pull_markers]
  exact List.length_filter_le _ _

/-- A marker that does not stay makes the queue shorter. -/
theorem pull_length_lt {m : VmwMarker} (hm : m ∈ queue.markers) (h : later seqno m = false) :
    (vmwMarkerPull seqno now queue).1.markers.length < queue.markers.length := by
  rw [pull_markers, List.length_filter_lt_length_iff_exists]
  exact ⟨m, hm, by simp [h]⟩

/-- A marker stays under a pull with its own seqno never. -/
theorem later_self (m : VmwMarker) : later m.seqno m = false := by
  simp [later, sub32_self]

end Pulls

/-- What holds of the clock and the queue in every run. -/
structure Timed (s : State) : Prop where
  markers : ∀ m ∈ s.queue.markers, m.submitted.ns ≤ s.clock
  pushing : ∀ m ∈ s.pushing, m.submitted.ns ≤ s.clock
  lagTime : s.queue.lagTime.ns ≤ s.clock
  order : s.queue.markers.Sublist s.pushed

section Timed

variable {s s' : State} {a : Act}

theorem timed_init (clock markerSeq : Nat) : Timed (init clock markerSeq) where
  markers := by simp [init, vmwMarkerQueueInit]
  pushing := by simp [init]
  lagTime := by simp [init, vmwMarkerQueueInit]
  order := List.Sublist.refl _

theorem Timed.congr (h : Timed s) (hclock : s'.clock = s.clock) (hqueue : s'.queue = s.queue)
    (hpushing : s'.pushing = s.pushing) (hpushed : s'.pushed = s.pushed) : Timed s' where
  markers := by rw [hqueue, hclock]; exact h.markers
  pushing := by rw [hpushing, hclock]; exact h.pushing
  lagTime := by rw [hqueue, hclock]; exact h.lagTime
  order := by rw [hqueue, hpushed]; exact h.order

theorem Timed.tick (h : Timed s) (ns : Nat) : Timed { s with clock := s.clock + ns } where
  markers m hm := (h.markers m hm).trans (Int.ofNat_le.mpr (Nat.le_add_right _ _))
  pushing m hm := (h.pushing m hm).trans (Int.ofNat_le.mpr (Nat.le_add_right _ _))
  lagTime := h.lagTime.trans (Int.ofNat_le.mpr (Nat.le_add_right _ _))
  order := h.order

theorem Timed.submit (h : Timed s) (seqno : Nat) :
    Timed { s with pushing := s.pushing ++ [⟨seqno, s.now⟩] } where
  markers := h.markers
  pushing m hm := by
    rcases List.mem_append.mp hm with hm | hm
    · exact h.pushing m hm
    · obtain rfl := List.mem_singleton.mp hm
      exact le_of_eq (ns_nsToTimespec s.clock)
  lagTime := h.lagTime
  order := h.order

theorem Timed.push (h : Timed s) {i : Nat} {marker : VmwMarker} (hi : s.pushing[i]? = some marker) :
    Timed { s with
      queue := addTail s.queue marker
      pushing := s.pushing.eraseIdx i
      pushed := s.pushed ++ [marker] } where
  markers m hm := by
    rcases List.mem_append.mp hm with hm | hm
    · exact h.markers m hm
    · obtain rfl := List.mem_singleton.mp hm
      exact h.pushing m (List.mem_of_getElem? hi)
  pushing m hm := h.pushing m (List.mem_of_mem_eraseIdx hm)
  lagTime := h.lagTime
  order := h.order.append (List.Sublist.refl _)

theorem Timed.pulled (h : Timed s) (seqno : Nat) : Timed (pulled s seqno) where
  markers m hm := by
    unfold Marker.pulled at hm
    rw [pull_markers] at hm
    exact h.markers m (List.mem_of_mem_filter hm)
  pushing := h.pushing
  lagTime := by
    rcases pull_lagTime seqno s.now s.queue with heq | heq
    · exact (congrArg Timespec.ns heq).trans_le h.lagTime
    · exact (congrArg Timespec.ns heq).trans_le (le_of_eq (ns_nsToTimespec s.clock))
  order := by
    unfold Marker.pulled
    rw [pull_markers]
    exact List.filter_sublist.trans h.order

theorem Timed.fifoLag (h : Timed s) : Timed { s with queue := fifoLag s.now s.queue } where
  markers := h.markers
  pushing := h.pushing
  lagTime := le_of_eq (ns_nsToTimespec s.clock)
  order := h.order

theorem Timed.step (h : Timed s) (hstep : step s a = some s') : Timed s' := by
  cases a <;> dsimp only [Marker.step] at hstep
  case tick ns =>
    cases hstep
    exact h.tick ns
  case submit seqno =>
    cases hstep
    exact h.submit seqno
  case push i =>
    split at hstep
    case h_1 => cases hstep
    case h_2 marker hi =>
      cases hstep
      exact h.push hi
  case pull seqno =>
    cases hstep
    exact h.pulled seqno
  case fifoLag =>
    cases hstep
    exact h.fifoLag
  case setMarkerSeq seqno =>
    cases hstep
    exact h.congr rfl rfl rfl rfl
  case enter us =>
    split at hstep <;> cases hstep
    exact h.congr rfl rfl rfl rfl
  case test =>
    split at hstep <;> cases hstep
    exact h.fifoLag.congr rfl rfl rfl rfl
  case read =>
    split at hstep
    case h_2 => cases hstep
    case h_1 => split at hstep <;> cases hstep <;> exact h.congr rfl rfl rfl rfl
  case pick =>
    split at hstep <;> cases hstep
    exact h.congr rfl rfl rfl rfl
  case waited ret =>
    split at hstep
    case h_2 => cases hstep
    case h_1 => split at hstep <;> cases hstep <;> exact h.congr rfl rfl rfl rfl
  case pullOwn =>
    split at hstep
    case h_2 => cases hstep
    case h_1 seqno _ =>
      cases hstep
      exact (h.pulled seqno).congr rfl rfl rfl rfl

end Timed

/-- The pull of a queue in a run. -/
theorem pulled_of_timed {s : State} (h : Timed s) {seqno base : Nat}
    (hs : sub32 seqno base ≤ 2 ^ 30)
    (hmarkers : ∀ m ∈ s.queue.markers, sub32 m.seqno base ≤ 2 ^ 30) :
    Pulled seqno base s.clock s.queue (pulled s seqno).queue := by
  have hlater : ∀ m ∈ s.queue.markers,
      later seqno m = decide (sub32 seqno base < sub32 m.seqno base) := by
    intro m hm
    exact decide_eq_decide.mpr (sub32_gt_window_iff hs (hmarkers m hm))
  have hremoved : removed seqno s.queue.markers =
      s.queue.markers.filter (fun m => sub32 m.seqno base ≤ sub32 seqno base) := by
    refine List.filter_congr fun m hm => ?_
    rw [hlater m hm, ← decide_not]
    exact decide_eq_decide.mpr Nat.not_lt
  constructor
  case kept =>
    unfold Marker.pulled
    rw [pull_markers]
    exact List.filter_congr hlater
  case last =>
    intro m hm
    have hmem : m ∈ s.queue.markers := List.mem_of_mem_filter (List.mem_of_getLast? hm)
    refine ⟨h.markers m hmem, ?_⟩
    unfold Marker.pulled
    rw [pull_of_ne seqno s.now s.queue (List.ne_nil_of_mem hmem)]
    dsimp only
    rw [pullEach_lag, hremoved, hm]
    simp [State.now]
  case empty =>
    intro hnil
    unfold Marker.pulled
    rw [pull_of_empty seqno s.now s.queue hnil]
    exact ns_nsToTimespec 0
  case unchanged =>
    intro hne hall
    have hnil : removed seqno s.queue.markers = [] := by
      rw [hremoved, List.filter_eq_nil_iff]
      intro m hm
      have := hall m hm
      simpa using this
    unfold Marker.pulled
    rw [pull_of_ne seqno s.now s.queue hne]
    dsimp only
    rw [pullEach_lag, hnil]
    rfl

/-- The queue is empty behind `n + 1` waits, and the lag counts from the last pull. -/
def Fresh (n : Nat) (s : State) : Prop :=
  s.queue.markers = [] ∧ s.waits = n + 1 ∧
    ∃ t, s.lastPull = some t ∧ s.queue.lag.ns + t ≤ s.queue.lagTime.ns

/-- The pull for `seqno` will make up for the wait. -/
def Pending (n seqno : Nat) (s : State) : Prop :=
  s.waits + s.queue.markers.length ≤ n ∨
    s.waits + s.queue.markers.length ≤ n + 1 ∧
      (s.queue.markers = [] ∨ ∃ m ∈ s.queue.markers, m.seqno = seqno)

/-- A wait for every marker that is gone. -/
def Progress (n : Nat) (s : State) : Prop :=
  match s.pc with
  | .out => False
  | .test =>
    (s.waits + s.queue.markers.length ≤ n ∨ Fresh n s) ∧ s.steps = 5 * s.waits
  | .read =>
    (s.waits + s.queue.markers.length ≤ n ∨ Fresh n s) ∧ s.steps = 5 * s.waits + 1
  | .pick => s.waits + s.queue.markers.length ≤ n ∧ s.steps = 5 * s.waits + 2
  | .wait seqno => Pending n seqno s ∧ s.steps + 2 = 5 * s.waits
  | .pull seqno => Pending n seqno s ∧ s.steps + 1 = 5 * s.waits
  | .done ret lag =>
    ret = 0 ∧ lag.ns ≤ s.us * 1000 ∧ s.waits ≤ n + 1 ∧ s.steps = 5 * s.waits + 2

section Progress

variable {n : Nat} {s s' : State} {a : Act}

/-- A step of another thread. -/
theorem Progress.other (h : Progress n s) (hpc : s'.pc = s.pc) (hus : s'.us = s.us)
    (hwaits : s'.waits = s.waits) (hsteps : s'.steps = s.steps)
    (hlength : s'.queue.markers.length ≤ s.queue.markers.length)
    (hfresh : Fresh n s → Fresh n s') (hpending : ∀ seqno, Pending n seqno s → Pending n seqno s') :
    Progress n s' := by
  unfold Progress at *
  rw [hpc, hus, hwaits, hsteps]
  cases hp : s.pc <;> simp only [hp] at h ⊢
  case test => exact ⟨h.1.imp (fun h => by omega) hfresh, h.2⟩
  case read => exact ⟨h.1.imp (fun h => by omega) hfresh, h.2⟩
  case pick => exact ⟨by omega, h.2⟩
  case wait seqno => exact ⟨hpending seqno h.1, h.2⟩
  case pull seqno => exact ⟨hpending seqno h.1, h.2⟩
  case done => exact h

theorem fresh_pulled (h : Fresh n s) (seqno : Nat) : Fresh n (pulled s seqno) := by
  obtain ⟨hnil, hwaits, -⟩ := h
  unfold Fresh pulled
  rw [pull_of_empty seqno s.now s.queue hnil]
  refine ⟨rfl, hwaits, s.clock, rfl, ?_⟩
  simp [State.now]

theorem fresh_fifoLag (h : Fresh n s) : Fresh n { s with queue := fifoLag s.now s.queue } := by
  obtain ⟨hnil, hwaits, t, hlast, hlag⟩ := h
  refine ⟨hnil, hwaits, t, hlast, ?_⟩
  simp only [fifoLag, ns_add, ns_sub]
  omega

theorem pending_pulled {seqno : Nat} (h : Pending n seqno s) (seqno' : Nat) :
    Pending n seqno (pulled s seqno') := by
  have hle : (pulled s seqno').queue.markers.length ≤ s.queue.markers.length :=
    pull_length_le seqno' s.now s.queue
  have hwaits : (pulled s seqno').waits = s.waits := rfl
  unfold Pending
  rcases h with h | ⟨h, hnil | ⟨m, hm, hseqno⟩⟩
  · left
    omega
  · right
    refine ⟨by omega, .inl ?_⟩
    unfold pulled
    rw [pull_of_empty seqno' s.now s.queue hnil]
  · cases hlater : later seqno' m with
    | true =>
      right
      refine ⟨by omega, .inr ⟨m, ?_, hseqno⟩⟩
      unfold pulled
      rw [pull_markers]
      exact List.mem_filter.mpr ⟨hm, hlater⟩
    | false =>
      left
      have hlt : (pulled s seqno').queue.markers.length < s.queue.markers.length :=
        pull_length_lt hm hlater
      omega

/-- The pull that follows a wait. -/
theorem pulled_own {seqno : Nat} (h : Pending n seqno s) :
    let s' := pulled s seqno
    s'.waits + s'.queue.markers.length ≤ n ∨ Fresh n s' := by
  intro s'
  have hle : s'.queue.markers.length ≤ s.queue.markers.length := pull_length_le seqno s.now s.queue
  have hwaits : s'.waits = s.waits := rfl
  rcases h with h | ⟨h, hnil | ⟨m, hm, rfl⟩⟩
  · left
    omega
  · have hq : s'.queue = ⟨[], nsToTimespec 0, s.now⟩ :=
      congrArg Prod.fst (pull_of_empty seqno s.now s.queue hnil)
    by_cases hn : s.waits ≤ n
    · left
      rw [hq]
      exact hn
    · right
      rw [hnil] at h
      refine ⟨by rw [hq], ?_, s.clock, rfl, ?_⟩
      · simp only [List.length_nil] at h
        omega
      · rw [hq]
        simp [State.now]
  · left
    have hlt : s'.queue.markers.length < s.queue.markers.length := pull_length_lt hm (later_self m)
    omega

theorem progress_enter {us : Nat} (hstep : step s (.enter us) = some s') :
    Progress s.queue.markers.length s' := by
  dsimp only [step] at hstep
  split at hstep <;> cases hstep
  exact ⟨.inl (by simp), rfl⟩

/-- The lag read with the queue empty is short enough. -/
theorem fresh_lag_le (h : Fresh n s) (ht : Timed s)
    (hquiet : ∀ t, s.lastPull = some t → n < s.waits → s.clock < t + s.us * 1000) :
    s.queue.lag.ns ≤ s.us * 1000 := by
  obtain ⟨-, hwaits, t, hlast, hlag⟩ := h
  have hclock := hquiet t hlast (by omega)
  have htime := ht.lagTime
  omega

theorem Progress.step (h : Progress n s) (ht : Timed s) (hok : Quiet n s a)
    (hstep : step s a = some s') : Progress n s' := by
  cases a <;> dsimp only [Marker.step] at hstep
  case tick ns =>
    cases hstep
    exact h.other rfl rfl rfl rfl le_rfl id (fun _ => id)
  case submit seqno =>
    cases hstep
    exact h.other rfl rfl rfl rfl le_rfl id (fun _ => id)
  case push i => cases hok
  case pull seqno =>
    cases hstep
    exact h.other rfl rfl rfl rfl (pull_length_le seqno s.now s.queue)
      (fun hf => fresh_pulled hf seqno) (fun _ hp => pending_pulled hp seqno)
  case fifoLag =>
    cases hstep
    exact h.other rfl rfl rfl rfl le_rfl fresh_fifoLag (fun _ => id)
  case setMarkerSeq seqno =>
    cases hstep
    exact h.other rfl rfl rfl rfl le_rfl id (fun _ => id)
  case enter us =>
    split at hstep <;> cases hstep
    case h_1 hpc =>
      simp only [Progress, hpc] at h
  case test =>
    split at hstep <;> cases hstep
    case h_1 hpc =>
      simp only [Progress, hpc] at h
      exact ⟨h.1.imp id fresh_fifoLag, congrArg (· + 1) h.2⟩
  case read =>
    split at hstep
    case h_2 => cases hstep
    case h_1 hpc =>
      simp only [Progress, hpc] at h
      obtain ⟨hwaits, hsteps⟩ := h
      split at hstep <;> cases hstep
      case isTrue hlt =>
        rw [timespecCompare_lt_one_iff, ns_nsToTimespec] at hlt
        refine ⟨rfl, hlt, ?_, congrArg (· + 1) hsteps⟩
        rcases hwaits with hwaits | hfresh
        · exact (Nat.le_add_right _ _).trans (hwaits.trans (Nat.le_succ n))
        · exact le_of_eq hfresh.2.1
      case isFalse hlt =>
        refine ⟨?_, congrArg (· + 1) hsteps⟩
        rcases hwaits with hwaits | hfresh
        · exact hwaits
        · rw [timespecCompare_lt_one_iff, ns_nsToTimespec] at hlt
          exact absurd (fresh_lag_le hfresh ht hok) (by simpa using hlt)
  case pick =>
    split at hstep <;> cases hstep
    case h_1 hpc =>
      simp only [Progress, hpc] at h
      obtain ⟨hwaits, hsteps⟩ := h
      refine ⟨.inr ⟨?_, ?_⟩, ?_⟩
      · dsimp only [goto]
        omega
      · dsimp only [goto, pickSeqno]
        cases s.queue.markers with
        | nil => exact .inl rfl
        | cons m rest => exact .inr ⟨m, List.mem_cons_self, rfl⟩
      · dsimp only [goto]
        omega
  case waited ret =>
    split at hstep
    case h_2 => cases hstep
    case h_1 seqno hpc =>
      obtain rfl : ret = 0 := hok
      cases hstep
      simp only [Progress, hpc] at h
      refine ⟨h.1, ?_⟩
      dsimp only [goto]
      omega
  case pullOwn =>
    split at hstep
    case h_2 => cases hstep
    case h_1 seqno hpc =>
      cases hstep
      simp only [Progress, hpc] at h
      exact ⟨pulled_own h.1, h.2⟩

theorem Progress.us_step (h : Progress n s) (hstep : Marker.step s a = some s') : s'.us = s.us := by
  cases a <;> dsimp only [Marker.step] at hstep
  case enter us =>
    split at hstep <;> cases hstep
    case h_1 hpc =>
      simp only [Progress, hpc] at h
  case read =>
    split at hstep
    case h_2 => cases hstep
    case h_1 => split at hstep <;> cases hstep <;> rfl
  case waited ret =>
    split at hstep
    case h_2 => cases hstep
    case h_1 => split at hstep <;> cases hstep <;> rfl
  case tick | submit | pull | fifoLag | setMarkerSeq =>
    cases hstep
    rfl
  case push | test | pick | pullOwn =>
    split at hstep <;> cases hstep
    rfl

theorem waits_le_of_test (h : s.waits + s.queue.markers.length ≤ n ∨ Fresh n s) :
    s.waits ≤ n + 1 := by
  rcases h with h | h
  · omega
  · exact le_of_eq h.2.1

/-- The bounds at every point of the loop. -/
theorem Progress.bounds (h : Progress n s) : s.waits ≤ n + 1 ∧ s.steps ≤ 5 * (n + 1) + 2 := by
  suffices s.waits ≤ n + 1 ∧ s.steps ≤ 5 * s.waits + 2 by omega
  unfold Progress Pending at h
  split at h
  case h_1 => cases h
  case h_2 => exact ⟨waits_le_of_test h.1, by omega⟩
  case h_3 => exact ⟨waits_le_of_test h.1, by omega⟩
  all_goals omega

/-- The thread is never stuck. -/
theorem Progress.next (h : Progress n s) :
    s.Returned ∨ ∃ s', Marker.step s s.next = some s' ∧ s'.steps = s.steps + 1 := by
  cases hpc : s.pc <;> simp only [Progress, hpc] at h <;> simp only [State.next, Marker.step, hpc]
  case test => exact .inr ⟨_, rfl, rfl⟩
  case read =>
    right
    split
    case isTrue => exact ⟨_, rfl, rfl⟩
    case isFalse => exact ⟨_, rfl, rfl⟩
  case pick => exact .inr ⟨_, rfl, rfl⟩
  case wait seqno => exact .inr ⟨_, rfl, rfl⟩
  case pull seqno => exact .inr ⟨_, rfl, rfl⟩
  case done ret lag =>
    obtain ⟨rfl, hlag, -⟩ := h
    exact .inl ⟨lag, hpc, hlag⟩

end Progress

/-- Every pull of a run takes out what it should. -/
theorem pulled_step {s s' : State} {a : Act} (h : Timed s) {seqno base : Nat}
    (ha : a = .pull seqno ∨ a = .pullOwn ∧ s.pc = .pull seqno) (hstep : step s a = some s')
    (hs : sub32 seqno base ≤ 2 ^ 30) (hmarkers : ∀ m ∈ s.queue.markers, sub32 m.seqno base ≤ 2 ^ 30) :
    Pulled seqno base s.clock s.queue s'.queue := by
  have hpulled := pulled_of_timed h hs hmarkers
  rcases ha with rfl | ⟨rfl, hpc⟩
  · cases hstep
    exact hpulled
  · simp only [step, hpc] at hstep
    cases hstep
    exact hpulled

/-- A marker submitted three microseconds ago. -/
def submitted : State :=
  { init 0 7 with
    clock := 3000
    queue := ⟨[⟨5, nsToTimespec 0⟩], nsToTimespec 0, nsToTimespec 0⟩
    pushed := [⟨5, nsToTimespec 0⟩] }

end Vmwgfx.Marker
