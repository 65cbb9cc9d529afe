import Vmwgfx.Reservation.Ownership

/-! Whether threads that reserve several buffers can wait for each other for good. -/

universe u v

namespace Vmwgfx.Reservation

open Lib

variable {ι : Type u} {β : Type v} [Fintype ι] [DecidableEq ι] [DecidableEq β]

/-- The thread works on more than one buffer. -/
def Thread.Many (x : Thread β) : Prop := 1 < x.entries.length

def Thread.seq : Thread β → Option Nat
  | .scan _ _ valSeq | .busy _ _ valSeq | .relock _ _ valSeq _ => some valSeq
  | _ => none

omit [DecidableEq β] in
theorem Thread.Danger.seq {x : Thread β} {q : Nat} (h : x.Danger q) : x.seq = some q := by
  cases x with
  | scan l i q' =>
    obtain ⟨rfl, -⟩ := h
    rfl
  | busy l i q' | relock l i q' =>
    obtain rfl := h
    rfl
  | _ => exact h.elim

/-- The thread has its buffers, to give them back, or can take its next step. -/
def Active (s : State ι β) (t : ι) : Prop := (∃ l, s.thread t = .holds l) ∨ (s.run t).isSome = true

/-- The thread sleeps, and has other buffers reserved. -/
structure Sleeps (s : State ι β) (t : ι) (l : List (Entry β)) (i q : Nat) (e : Entry β) : Prop where
  busy : s.thread t = .busy l i q
  get : l[i]? = some e
  holds : ∃ b, (s.thread t).Holds b

section Owner

variable {s s' : State ι β} {t u : ι} {b : β} {l : List (Entry β)} {i q : Nat} {e : Entry β}

/-- Who has a buffer reserved goes on, or sleeps for another one. -/
theorem Inv.owner_cases (h : Inv s) (ht : (s.thread t).Holds b) :
    (∃ u, Active s u) ∨ ∃ l i q e, Sleeps s t l i q e ∧ (s.buffer e.bo).reserved = true := by
  have hphase := h.phase t
  have hnone : ∀ l, (s.thread t).entries = l → Released l → False := by
    intro l hl hreleased
    exact Released.not_holds (hl ▸ hreleased) b ht
  have hrun : ∀ u s', s.run u = some s' → ∃ u, Active s u := by
    intro u s' hs
    exact ⟨u, .inr (hs ▸ rfl)⟩
  cases hx : s.thread t with
  | idle | one | oneBusy =>
    obtain ⟨e, he, -⟩ := ht
    rw [hx] at he
    cases he
  | retry l | waitUnreserved l | waitCpu l =>
    rw [hx] at hphase
    exact (hnone l (by rw [hx]; rfl) hphase.1).elim
  | scan l i q =>
    refine .inl (hrun t (s.scan t l i q) ?_)
    unfold State.run
    rw [hx]
  | busy l i q =>
    rw [hx] at hphase
    obtain ⟨e, hget⟩ : ∃ e, l[i]? = some e := ⟨_, List.getElem?_eq_getElem hphase.2.2.2.2.1⟩
    cases hres : (s.buffer e.bo).reserved with
    | true => exact .inr ⟨l, i, q, e, ⟨hx, hget, b, ht⟩, hres⟩
    | false =>
      refine .inl (hrun t (s.move t s.buffer (.relock l i q 0)) ?_)
      unfold State.run
      rw [hx]
      dsimp only
      rw [hget]
      dsimp only
      rw [hres]
      rfl
  | relock l i q ret =>
    left
    cases hl : s.lruLock with
    | none =>
      refine ⟨t, .inr ?_⟩
      unfold State.run
      rw [hx]
      dsimp only
      rw [if_pos hl]
      split <;> rfl
    | some u =>
      -- the lock is held by a thread that goes on
      have hscans := (h.lock u).mp hl
      refine ⟨u, .inr ?_⟩
      unfold State.run
      cases hu : s.thread u <;> rw [hu] at hscans <;> first | exact hscans.elim | rfl
  | put l i next =>
    refine .inl ⟨t, .inr ?_⟩
    unfold State.run
    rw [hx]
    dsimp only
    cases l[i]? with
    | some e => rfl
    | none => cases next <;> rfl
  | holds l => exact .inl ⟨t, .inl ⟨l, hx⟩⟩
  | onePut bo n =>
    refine .inl ⟨t, .inr ?_⟩
    unfold State.run
    rw [hx]
    rfl

omit [DecidableEq ι] in
/-- A thread that sleeps has not reserved what it sleeps for. -/
theorem Inv.not_self (h : Inv s) (hsleeps : Sleeps s t l i q e) : ¬ (s.thread t).Holds e.bo := by
  have hphase := h.phase t
  rw [hsleeps.busy] at hphase ⊢
  rintro ⟨e', he', hres, heq⟩
  exact hphase.2.2.2.2.2 e hsleeps.get e' he' hres heq

omit [DecidableEq ι] in
/-- Who may have to wait has marked its buffers with its sequence. -/
theorem Inv.stamped (h : Inv s) (ht : (s.thread t).Holds b) (hdanger : (s.thread t).Danger q) :
    (s.buffer b).valSeq = q ∧ (s.buffer b).seqValid = true := by
  have hphase := h.phase t
  obtain ⟨e, he, hres, rfl⟩ := ht
  cases hx : s.thread t with
  | scan l i q' =>
    rw [hx] at hphase hdanger he
    obtain ⟨rfl, -⟩ := hdanger
    exact hphase.2.2 e he hres
  | busy l i q' | relock l i q' =>
    rw [hx] at hphase hdanger he
    obtain rfl := hdanger
    exact hphase.2.2.1 e he hres
  | _ =>
    rw [hx] at hdanger
    exact hdanger.elim

omit [DecidableEq ι] in
theorem Inv.many (h : Inv s) (hsleeps : Sleeps s t l i q e) : (s.thread t).Many := by
  obtain ⟨b, hb⟩ := hsleeps.holds
  have hphase := h.phase t
  rw [hsleeps.busy] at hphase hb ⊢
  obtain ⟨e', he', hres, -⟩ := hb
  obtain ⟨j, hj⟩ := List.mem_iff_getElem?.mp he'
  have hlt := (hphase.1 j e' hj).mp hres
  have hlen := hphase.2.2.2.2.1
  exact Nat.lt_of_le_of_lt (Nat.one_le_of_lt hlt) hlen

/-- The thread `false` has the buffer 1, and sleeps for the buffer 0, which `true` has. -/
def asleep (ok : State Bool Nat → Act Bool Nat → Bool) : Option (State Bool Nat) :=
  exec step ok fresh ([.reserve true 0 false false, .run true, .run true, .reserveBuffers false [1, 0]] ++
    List.replicate 3 (.run false))

end Owner

section Order

variable {s s' : State ι β} {t : ι} {b : β}

/-- A thread takes the buffer that a younger one sleeps for, and may have to wait for another one. -/
def Overtakes (s s' : State ι β) : Prop :=
  ∃ t l i q e u q', Sleeps s t l i q e ∧ (s.buffer e.bo).reserved = false ∧ u ≠ t ∧ (s'.thread u).Holds e.bo ∧
    (s'.thread u).Danger q' ∧ q' ≤ q

/-- The sequences in use can be compared modulo 2^32. -/
def Near (s : State ι β) : Prop := ∀ t u q q', (s.thread t).Danger q → (s.thread u).Danger q' → q < q' + 2 ^ 31

def Orderly (s : State ι β) (a : Act ι β) : Prop := ∀ s', step s a = some s' → ¬ Overtakes s s' ∧ Near s'

/-- Who sleeps is older than who has the buffer, if that one may have to wait too. -/
def Older (s : State ι β) : Prop :=
  ∀ t l i q e u q', Sleeps s t l i q e → (s.thread u).Holds e.bo → (s.thread u).Danger q' → q < q'

theorem lt_of_busy {x : Buffer} {q q' : Nat} (hbusy : x.ttmBoReserveLocked (some q) = .error (-EBUSY)) (hseq : x.valSeq = q')
    (hvalid : x.seqValid = true) (hnear : q < q' + 2 ^ 31) (hnear' : q' < q + 2 ^ 31) : q < q' := by
  unfold Buffer.ttmBoReserveLocked at hbusy
  rw [hseq, hvalid] at hbusy
  have hlt := sub32_lt_half_iff hnear hnear'
  dsimp only at hbusy
  rw [if_pos rfl] at hbusy
  split_ifs at hbusy with hres heq hless
  · cases hbusy
  · cases hbusy
  · exact Nat.lt_of_not_le fun hle => hless (hlt.mpr hle)

omit [Fintype ι] [DecidableEq ι] [DecidableEq β] in
theorem Sleeps.danger {l : List (Entry β)} {i q : Nat} {e : Entry β} (hsleeps : Sleeps s t l i q e) :
    (s.thread t).Danger q := by
  rw [hsleeps.busy]
  rfl

theorem Older.moved (hold : Older s) (h : Inv s) (hmoved : Moved s t s') (hover : ¬ Overtakes s s') (hnear : Near s') :
    Older s' := by
  have h' := h.moved hmoved
  intro u l i q e w q' hsleeps hholds hdanger
  by_cases hut : u = t
  · -- who falls asleep has looked at the sequence of the owner
    subst hut
    obtain ⟨e', hget, hbusy⟩ := hmoved.sleeps l i q hsleeps.busy
    obtain rfl : e' = e := Option.some.inj (hget.symm.trans hsleeps.get)
    have hwu : w ≠ u := fun heq => h'.not_self hsleeps (heq ▸ hholds)
    have hlt := hnear _ _ _ _ hsleeps.danger hdanger
    have hlt' := hnear _ _ _ _ hdanger hsleeps.danger
    rw [hmoved.others w hwu] at hholds hdanger
    obtain ⟨hseq, hvalid⟩ := h.stamped hholds hdanger
    exact lt_of_busy hbusy hseq hvalid hlt hlt'
  · have hthread := hmoved.others u hut
    have hsleeps' : Sleeps s u l i q e := ⟨hthread ▸ hsleeps.busy, hsleeps.get, hthread ▸ hsleeps.holds⟩
    by_cases hwt : w = t
    · subst hwt
      rcases (hmoved.moves.takes e.bo hholds).2 with hx | hfree
      · exact hold _ _ _ _ _ _ _ hsleeps' hx (hmoved.moves.danger q' e.bo hholds hdanger)
      · -- the buffer was free, and has just been taken
        exact Nat.lt_of_not_le fun hle => hover ⟨u, l, i, q, e, w, q', hsleeps', hfree, Ne.symm hut, hholds, hdanger, hle⟩
    · rw [hmoved.others w hwt] at hholds hdanger
      exact hold _ _ _ _ _ _ _ hsleeps' hholds hdanger

theorem Older.step {a : Act ι β} (hold : Older s) (h : Inv s) (horderly : Orderly s a) (hstep : step s a = some s') :
    Older s' := by
  obtain ⟨hover, hnear⟩ := horderly s' hstep
  rcases h.step_cases hstep with ⟨t, hmoved⟩ | ⟨m', -, rfl⟩
  · exact hold.moved h hmoved hover hnear
  · intro t l i q e u q' hsleeps
    exact hold t l i q e u q' ⟨hsleeps.busy, hsleeps.get, hsleeps.holds⟩

omit [Fintype ι] in
theorem orderly_of_one {a : Act ι β} (t : ι) (hone : ∀ s', step s a = some s' → ∀ u, u ≠ t → ∀ q,
    ¬ (s.thread u).Danger q ∧ ¬ (s'.thread u).Danger q) : Orderly s a := by
  intro s' hstep
  have honly : ∀ u q, (s'.thread u).Danger q → u = t := by
    intro u q hdanger
    by_contra hut
    exact (hone s' hstep u hut q).2 hdanger
  constructor
  · rintro ⟨u, l, i, q, e, w, q', hsleeps, -, hwu, -, hdanger, -⟩
    have hut : u = t := by
      by_contra hut
      exact (hone s' hstep u hut q).1 hsleeps.danger
    exact hwu ((honly w q' hdanger).trans hut.symm)
  · intro u w q q' hq hq'
    rw [honly u q hq] at hq
    rw [honly w q' hq'] at hq'
    cases (Thread.Danger.seq hq).symm.trans (Thread.Danger.seq hq')
    omega

/-- `true` works on a list of buffers at no end of the step. -/
def aside (s : State Bool Nat) (a : Act Bool Nat) : Bool :=
  (s.thread true).seq.isNone && (step s a).all fun s' => (s'.thread true).seq.isNone

theorem aside_orderly {s : State Bool Nat} {a : Act Bool Nat} (h : aside s a = true) : Orderly s a := by
  refine orderly_of_one false fun s' hstep u hu q => ?_
  obtain rfl : u = true := by simpa using hu
  unfold aside at h
  rw [hstep, Bool.and_eq_true, Option.isNone_iff_eq_none, Option.all_some, Option.isNone_iff_eq_none] at h
  constructor
  · intro hdanger
    cases h.1.symm.trans (Thread.Danger.seq hdanger)
  · intro hdanger
    cases h.2.symm.trans (Thread.Danger.seq hdanger)

/-- Thread 0 draws its sequence and sleeps for the buffer 0. Then thread 1 reserves the buffer 2, and sleeps for the buffer
1. Both are given back, thread 0 goes first, and each waits for the other now: the second reservation of the buffer
1 has no effect on who sleeps for it. -/
def overtaken : Option (State (Fin 4) (Fin 3)) :=
  exec step (fun _ _ => true) fresh ([.reserve 2 0 false false, .run 2, .run 2, .reserve 3 1 false false, .run 3, .run 3,
    .reserveBuffers 0 [0, 1, 2], .run 0, .run 0, .reserveBuffers 1 [2, 1], .run 1, .run 1, .run 1, .fence 2, .fence 3] ++
    List.replicate 5 (.run 0))

example : ∃ s, overtaken = some s ∧ (∀ u, (s.run u).isNone = true) ∧
    s.thread 0 = .busy [⟨0, true, true, 2⟩, ⟨1, true, true, 2⟩, ⟨2, false, false, 0⟩] 2 0 ∧
    s.thread 1 = .busy [⟨2, true, true, 2⟩, ⟨1, false, false, 0⟩] 1 1 ∧ s.thread 2 = .idle ∧ s.thread 3 = .idle :=
  ⟨overtaken.get (by decide), (Option.some_get _).symm, by decide, rfl, rfl, rfl, rfl⟩

end Order

end Vmwgfx.Reservation
