import Vmwgfx.Reservation.Defs

/-! What a thread changes as it moves from one place to the next. -/

universe v

namespace Vmwgfx.Reservation

open Lib

variable {β : Type v}

namespace Buffer

/-- Two states of a buffer that reservations do not tell apart. -/
structure Agree (x x' : Buffer) : Prop where
  reserved : x'.reserved = x.reserved
  lru : x'.lru = x.lru
  swap : x'.swap = x.swap
  valSeq : x'.valSeq = x.valSeq
  seqValid : x'.seqValid = x.seqValid

theorem Agree.refl (x : Buffer) : Agree x x := ⟨rfl, rfl, rfl, rfl, rfl⟩

theorem Agree.trans {x y z : Buffer} (h : Agree x y) (h' : Agree y z) : Agree x z :=
  ⟨h'.reserved.trans h.reserved, h'.lru.trans h.lru, h'.swap.trans h.swap, h'.valSeq.trans h.valSeq,
    h'.seqValid.trans h.seqValid⟩

/-- `n` references of the lists are dropped, which are not the last ones. -/
structure Drops (n : Nat) (x x' : Buffer) : Prop extends Agree x x' where
  listKref : x'.listKref = x.listKref - n
  bug : x.bug = false → n < x.listKref → x'.bug = false

theorem Drops.refl (x : Buffer) : Drops 0 x x := ⟨.refl x, (Int.sub_zero _).symm, fun h _ => h⟩

theorem drops_listRefSub (x : Buffer) (n : Nat) : Drops n x (x.ttmBoListRefSub n) where
  toAgree := ⟨rfl, rfl, rfl, rfl, rfl⟩
  listKref := rfl
  bug := by
    intro hbug hlt
    unfold ttmBoListRefSub
    rw [hbug, Bool.false_or]
    exact decide_eq_false (by omega)

/-- The references that are not those of the lists. -/
def own (x : Buffer) : Int := x.listKref - x.lru.toNat - x.swap.toNat

theorem own_le (x : Buffer) : x.own ≤ x.listKref := by
  unfold own
  omega

theorem Drops.own {n : Nat} {x x' : Buffer} (h : Drops n x x') : x'.own + n = x.own := by
  unfold Buffer.own
  rw [h.listKref, h.lru, h.swap]
  omega

/-- Off all lists. -/
def Off (x : Buffer) : Prop := x.lru = false ∧ x.swap = false

theorem Agree.off {x x' : Buffer} (h : Agree x x') (hoff : x.Off) : x'.Off := ⟨h.lru.trans hoff.1, h.swap.trans hoff.2⟩

end Buffer

open Buffer (Agree Drops)

namespace Thread

def entries : Thread β → List (Entry β)
  | .idle | .one .. | .oneBusy .. => []
  | .onePut bo putCount => [⟨bo, true, true, putCount⟩]
  | .retry list | .scan list _ _ | .busy list _ _ | .relock list _ _ _ | .put list _ _ | .waitUnreserved list _
  | .waitCpu list _ | .holds list => list

/-- The references to `b` that the thread is going to drop. -/
def pending [DecidableEq β] (x : Thread β) (b : β) : Int := tally Entry.bo (fun e => e.putCount) x.entries b

def Holds (x : Thread β) (b : β) : Prop := ∃ e ∈ x.entries, e.reserved = true ∧ e.bo = b

/-- The thread may go on to wait for a buffer while it holds others, with this sequence. -/
def Danger : Thread β → Nat → Prop
  | .scan list i valSeq, q => valSeq = q ∧ i < list.length
  | .busy _ _ valSeq, q | .relock _ _ valSeq _, q => valSeq = q
  | _, _ => False

/-- The thread has the `lru_lock`. -/
def Scans : Thread β → Prop
  | .scan .. => True
  | _ => False

end Thread

section Lists

variable (l : List (Entry β))

def Released : Prop := ∀ e ∈ l, e.reserved = false

def Settled : Prop := ∀ e ∈ l, e.putCount = 0

def Taken : Prop := ∀ e ∈ l, e.reserved = true ∧ e.removed = true

/-- The entries before `i` are reserved, and no others. -/
def Scanned (i : Nat) : Prop := ∀ (j : Nat) e, l[j]? = some e → (e.reserved = true ↔ j < i)

/-- References are left only of buffers that were removed from the lists. -/
def Fresh : Prop := ∀ e ∈ l, e.removed = false → e.putCount = 0

def Removed : Prop := ∀ e ∈ l, e.reserved = true → e.removed = true

/-- What is reserved bears the sequence `q`. -/
def Stamped (m : β → Buffer) (q : Nat) : Prop :=
  ∀ e ∈ l, e.reserved = true → (m e.bo).valSeq = q ∧ (m e.bo).seqValid = true

/-- The buffer of the entry `i` is not reserved by another entry. -/
def Alone (i : Nat) : Prop := ∀ e, l[i]? = some e → ∀ e' ∈ l, e'.reserved = true → e'.bo ≠ e.bo

/-- The marks of the entries are true. -/
structure Fits (m : β → Buffer) : Prop where
  apart : ∀ (j k : Nat) (e e' : Entry β), l[j]? = some e → l[k]? = some e' → e.reserved = true → e'.reserved = true → e.bo = e'.bo → j = k
  off : ∀ e ∈ l, e.reserved = true → e.removed = true → (m e.bo).Off
  clean : ∀ e ∈ l, e.removed = true → e.reserved = true

end Lists

/-- What holds of the entries at each place. -/
def Thread.Phase (m : β → Buffer) : Thread β → Prop
  | .idle | .one .. | .oneBusy .. | .onePut .. => True
  | .retry l | .waitUnreserved l _ | .waitCpu l _ => Released l ∧ Settled l
  | .scan l i q => Scanned l i ∧ Fresh l ∧ Stamped l m q
  | .busy l i q | .relock l i q _ => Scanned l i ∧ Fresh l ∧ Stamped l m q ∧ Removed l ∧ i < l.length ∧ Alone l i
  | .put l i next => (∀ (j : Nat) e, l[j]? = some e → j < i → e.putCount = 0) ∧
    match next with
    | .ret ret => if ret = 0 then Taken l else Released l
    | .waitUnreserved _ | .waitCpu _ => Released l
  | .holds l => Taken l ∧ Settled l

section Moves

variable [DecidableEq β]

/-- The references of the lists are counted, and no `BUG_ON` is hit. -/
structure Pays (m : β → Buffer) (x : Thread β) (m' : β → Buffer) (y : Thread β) : Prop where
  balance : ∀ b, (m' b).own + x.pending b = (m b).own + y.pending b
  sound : ∀ b, (m b).bug = false → x.pending b < (m b).own → (m' b).bug = false

/-- How a thread moves: what others have reserved it leaves alone, what it gets was its own or nobody's, and what it
no longer holds is free. -/
structure Moves (m : β → Buffer) (x : Thread β) (m' : β → Buffer) (y : Thread β) : Prop extends Pays m x m' y where
  keeps : ∀ b, (m b).reserved = true → ¬ x.Holds b → Agree (m b) (m' b)
  takes : ∀ b, y.Holds b → (m' b).reserved = true ∧ (x.Holds b ∨ (m b).reserved = false)
  frees : ∀ b, (m' b).reserved = true → y.Holds b ∨ (m b).reserved = true ∧ ¬ x.Holds b
  fits : Fits y.entries m'
  phase : y.Phase m'
  danger : ∀ q b, y.Holds b → y.Danger q → x.Danger q

end Moves

variable {m m' m'' : β → Buffer} {x y z : Thread β} {l : List (Entry β)} {b : β} {e : Entry β}

theorem Fits.congr (h : Fits l m) (hagree : ∀ e ∈ l, e.reserved = true → Agree (m e.bo) (m' e.bo)) : Fits l m' where
  apart := h.apart
  off e he hres hrem := (hagree e he hres).off (h.off e he hres hrem)
  clean := h.clean

theorem Stamped.congr {q : Nat} (h : Stamped l m q) (hagree : ∀ e ∈ l, e.reserved = true → Agree (m e.bo) (m' e.bo)) :
    Stamped l m' q := by
  intro e he hres
  obtain ⟨hseq, hvalid⟩ := h e he hres
  have ha := hagree e he hres
  exact ⟨ha.valSeq.trans hseq, ha.seqValid.trans hvalid⟩

theorem Thread.Phase.congr (h : x.Phase m) (hagree : ∀ e ∈ x.entries, e.reserved = true → Agree (m e.bo) (m' e.bo)) :
    x.Phase m' := by
  cases x with
  | scan l i q => exact ⟨h.1, h.2.1, h.2.2.congr hagree⟩
  | busy l i q | relock l i q => exact ⟨h.1, h.2.1, h.2.2.1.congr hagree, h.2.2.2⟩
  | _ => exact h

theorem Fits.of_released (h : Released l) (hclean : ∀ e ∈ l, e.removed = false) : Fits l m where
  apart j k e e' hj _ hres := by
    rw [h e (List.mem_iff_getElem?.mpr ⟨j, hj⟩)] at hres
    cases hres
  off e he hres := by
    rw [h e he] at hres
    cases hres
  clean e he hrem := by
    rw [hclean e he] at hrem
    cases hrem

theorem Released.not_holds (h : Released x.entries) (b : β) : ¬ x.Holds b := by
  rintro ⟨e, he, hres, -⟩
  rw [h e he] at hres
  cases hres

theorem Thread.Holds.congr (hx : x.Holds b) (hentries : y.entries = x.entries) : y.Holds b := by
  unfold Thread.Holds
  rw [hentries]
  exact hx

section Moves

variable [DecidableEq β]

theorem Thread.pending_congr (hentries : y.entries = x.entries) (b : β) : y.pending b = x.pending b := by
  unfold Thread.pending
  rw [hentries]

theorem Settled.pending (h : Settled x.entries) (b : β) : x.pending b = 0 :=
  tally_eq_zero fun e he => by rw [h e he]; rfl

namespace Pays

theorem trans (h : Pays m x m' y) (h' : Pays m' y m'' z) : Pays m x m'' z where
  balance b := by
    have := h.balance b
    have := h'.balance b
    omega
  sound b hbug hlt := by
    have := h.balance b
    exact h'.sound b (h.sound b hbug hlt) (by omega)

theorem of_drops (hpending : ∀ b, y.pending b = x.pending b) (hdrops : ∀ b, Drops 0 (m b) (m' b)) (hx : ∀ b, 0 ≤ x.pending b) :
    Pays m x m' y where
  balance b := by
    have := (hdrops b).own
    rw [hpending b]
    omega
  sound b hbug hlt := by
    have := (m b).own_le
    have := hx b
    exact (hdrops b).bug hbug (by omega)

end Pays

theorem Thread.pending_nonneg (x : Thread β) (b : β) : 0 ≤ x.pending b := by
  unfold Thread.pending
  induction x.entries with
  | nil => exact Int.le_refl 0
  | cons e es ih =>
    rw [tally_cons]
    split <;> omega

namespace Moves

theorem trans (h : Moves m x m' y) (h' : Moves m' y m'' z) (hz : ∀ q, ¬ z.Danger q) : Moves m x m'' z where
  toPays := h.toPays.trans h'.toPays
  keeps := by
    intro b hres hx
    have hy : ¬ y.Holds b := by
      intro hy
      rcases (h.takes b hy).2 with hx' | hfree
      · exact hx hx'
      · rw [hfree] at hres
        cases hres
    have hagree := h.keeps b hres hx
    exact hagree.trans (h'.keeps b (hagree.reserved.trans hres) hy)
  takes := by
    intro b hz
    obtain ⟨hres, hown⟩ := h'.takes b hz
    refine ⟨hres, ?_⟩
    rcases hown with hy | hfree
    · exact (h.takes b hy).2
    · by_cases hx : x.Holds b
      · exact .inl hx
      · right
        by_contra hres'
        rw [(h.keeps b (eq_true_of_ne_false hres') hx).reserved] at hfree
        exact hres' hfree
  frees := by
    intro b hres
    rcases h'.frees b hres with hz | ⟨hres', hy⟩
    · exact .inl hz
    · exact .inr ((h.frees b hres').resolve_left hy)
  fits := h'.fits
  phase := h'.phase
  danger q _ _ hd := absurd hd (hz q)

/-- The thread goes on with the same entries. -/
theorem same (hentries : y.entries = x.entries) (hdrops : ∀ b, Drops 0 (m b) (m' b)) (hfits : Fits x.entries m)
    (hheld : ∀ b, x.Holds b → (m b).reserved = true) (hphase : y.Phase m')
    (hdanger : ∀ q b, y.Holds b → y.Danger q → x.Danger q) : Moves m x m' y where
  toPays := .of_drops (Thread.pending_congr hentries) hdrops x.pending_nonneg
  keeps b _ _ := (hdrops b).toAgree
  takes b hy := by
    have hx := hy.congr hentries.symm
    exact ⟨(hdrops b).reserved.trans (hheld b hx), .inl hx⟩
  frees b hres := by
    rw [(hdrops b).reserved] at hres
    by_cases hx : x.Holds b
    · exact .inl (hx.congr hentries)
    · exact .inr ⟨hres, hx⟩
  fits := by
    rw [hentries]
    exact hfits.congr fun e _ _ => (hdrops e.bo).toAgree
  phase := hphase
  danger := hdanger

/-- A thread that holds nothing leaves its entries behind. -/
theorem nothing (hx : ∀ b, ¬ x.Holds b) (hsettled : Settled x.entries) (hy : y.entries = [])
    (hdrops : ∀ b, Drops 0 (m b) (m' b)) (hphase : y.Phase m') : Moves m x m' y where
  toPays := by
    refine .of_drops (fun b => ?_) hdrops x.pending_nonneg
    rw [hsettled.pending]
    exact Settled.pending (fun e he => by rw [hy] at he; cases he) b
  keeps b _ _ := (hdrops b).toAgree
  takes b hb := by
    obtain ⟨e, he, -⟩ := hb
    rw [hy] at he
    cases he
  frees b hres := .inr ⟨(hdrops b).reserved.symm.trans hres, hx b⟩
  fits := by
    rw [hy]
    exact .of_released (fun e he => by cases he) (fun e he => by cases he)
  phase := hphase
  danger q b hb := by
    obtain ⟨e, he, -⟩ := hb
    rw [hy] at he
    cases he

end Moves

end Moves

section Lists

theorem Fits.pairwise (h : Fits l m) : l.Pairwise fun e e' => e.reserved = true → e'.reserved = true → e.bo ≠ e'.bo := by
  rw [List.pairwise_iff_getElem]
  intro j k hj hk hlt hres hres' heq
  have := h.apart j k _ _ (List.getElem?_eq_getElem hj) (List.getElem?_eq_getElem hk) hres hres' heq
  omega

/-- One entry has a buffer reserved. -/
theorem Fits.unique (h : Fits l m) {e e' : Entry β} (he : e ∈ l) (he' : e' ∈ l) (hres : e.reserved = true)
    (hres' : e'.reserved = true) (heq : e.bo = e'.bo) : e = e' := by
  obtain ⟨j, hj⟩ := List.mem_iff_getElem?.mp he
  obtain ⟨k, hk⟩ := List.mem_iff_getElem?.mp he'
  obtain rfl := h.apart j k e e' hj hk hres hres' heq
  exact Option.some.inj (hj.symm.trans hk)

/-- The marks of `l` are the same in `l'`, but for the references that are to be dropped. -/
theorem Fits.of_map {g : Entry β → Entry β} (h : Fits l m) (hbo : ∀ e, (g e).bo = e.bo)
    (hres : ∀ e, (g e).reserved = e.reserved)
    (hoff : ∀ e ∈ l, e.reserved = true → (g e).removed = true → (m' e.bo).Off)
    (hclean : ∀ e ∈ l, (g e).removed = true → e.reserved = true) : Fits (l.map g) m' where
  apart j k e e' hj hk he he' heq := by
    rw [List.getElem?_map, Option.map_eq_some_iff] at hj hk
    obtain ⟨a, ha, rfl⟩ := hj
    obtain ⟨a', ha', rfl⟩ := hk
    rw [hres] at he he'
    rw [hbo, hbo] at heq
    exact h.apart j k a a' ha ha' he he' heq
  off e he hr hrem := by
    obtain ⟨a, ha, rfl⟩ := List.mem_map.mp he
    rw [hres] at hr
    rw [hbo]
    exact hoff a ha hr hrem
  clean e he hrem := by
    obtain ⟨a, ha, rfl⟩ := List.mem_map.mp he
    rw [hres]
    exact hclean a ha hrem

end Lists

section Turns

theorem Fits.apart_backoff (h : Fits l m) : Apart Entry.bo Entry.backoff (fun e => e.reserved = true) l where
  idle _ _ he := if_neg he
  apart := h.pairwise

theorem Fits.apart_delFromLru (h : Fits l m) :
    Apart Entry.bo Entry.delFromLru (fun e => e.reserved = true ∧ ¬ e.removed = true) l where
  idle _ _ he := if_neg he
  apart := h.pairwise.imp fun h he he' => h he.1 he'.1

theorem Fits.apart_fence (h : Fits l m) (htaken : Taken l) : Apart Entry.bo Entry.fence (fun _ => True) l where
  idle _ _ he := absurd trivial he
  apart := h.pairwise.imp_of_mem fun he he' h _ _ => h (htaken _ he).1 (htaken _ he').1

theorem backoff_unreserved (x : Buffer) (he : e.reserved = true) : (e.backoff x).1.reserved = false := by
  unfold Entry.backoff
  rw [if_pos he]

theorem delFromLru_bo (x : Buffer) (e : Entry β) : (e.delFromLru x).2.bo = e.bo := by
  unfold Entry.delFromLru
  split <;> rfl

theorem delFromLru_reserved (x : Buffer) (e : Entry β) : (e.delFromLru x).2.reserved = e.reserved := by
  unfold Entry.delFromLru
  split <;> rfl

theorem delFromLru_removed (x : Buffer) (he : e.reserved = true) : (e.delFromLru x).2.removed = true := by
  unfold Entry.delFromLru
  by_cases hrem : e.removed = true
  · rw [if_neg fun h => h.2 hrem]
    exact hrem
  · rw [if_pos ⟨he, hrem⟩]

theorem delFromLru_of_unreserved (x : Buffer) (he : e.reserved = false) : e.delFromLru x = (x, e) := by
  unfold Entry.delFromLru
  rw [if_neg]
  rintro ⟨hres, -⟩
  rw [he] at hres
  cases hres

theorem delFromLru_off (x : Buffer) (he : e.reserved = true) (hrem : ¬ e.removed = true) : (e.delFromLru x).1.Off := by
  unfold Entry.delFromLru
  rw [if_pos ⟨he, hrem⟩]
  exact ⟨rfl, rfl⟩

theorem drops_listRefSub (e : Entry β) (bo : Buffer) : Drops e.putCount bo (e.listRefSub bo).1 := by
  unfold Entry.listRefSub
  split_ifs with hput
  · exact Buffer.drops_listRefSub _ _
  · have hzero : e.putCount = 0 := not_not.mp hput
    rw [hzero]
    exact .refl _

theorem listRefSub_entry (e : Entry β) (bo : Buffer) : (e.listRefSub bo).2 = { e with putCount := 0 } := by
  unfold Entry.listRefSub
  split_ifs with hput
  · rfl
  · have hzero : e.putCount = 0 := not_not.mp hput
    rw [← hzero]

/-- A buffer that is on no list goes back to them. -/
theorem ttmBoAddToLru_pays {x : Buffer} (hres : x.reserved = true) (hoff : x.Off) :
    x.ttmBoAddToLru.own = x.own ∧ x.ttmBoAddToLru.bug = x.bug := by
  obtain ⟨hlru, hswap⟩ := hoff
  unfold Buffer.ttmBoAddToLru Buffer.own
  dsimp only
  rw [hres, hlru, hswap]
  split
  · exact ⟨rfl, Bool.or_false _⟩
  · split
    · refine ⟨?_, ?_⟩
      · simp only [Bool.toNat_true, Bool.toNat_false]
        omega
      · simp
    · refine ⟨?_, ?_⟩
      · simp only [Bool.toNat_true, Bool.toNat_false]
        omega
      · simp

theorem backoff_pays {x : Buffer} (he : e.reserved = true) (hres : x.reserved = true) (hoff : e.removed = true → x.Off) :
    (e.backoff x).1.own = x.own ∧ (e.backoff x).1.bug = x.bug := by
  unfold Entry.backoff
  rw [if_pos he]
  cases hrem : e.removed with
  | true => exact ttmBoAddToLru_pays hres (hoff hrem)
  | false => exact ⟨rfl, rfl⟩

theorem delFromLru_own (x : Buffer) (hfresh : e.removed = false → e.putCount = 0) :
    (e.delFromLru x).1.own + e.putCount = x.own + (e.delFromLru x).2.putCount := by
  unfold Entry.delFromLru
  split_ifs with h
  · have hput := hfresh (eq_false_of_ne_true h.2)
    unfold Buffer.own Buffer.ttmBoDelFromLru
    dsimp only
    rw [hput]
    simp
    omega
  · rfl

theorem delFromLru_bug (x : Buffer) (e : Entry β) : (e.delFromLru x).1.bug = x.bug := by
  unfold Entry.delFromLru
  split <;> rfl

end Turns

section Sweeps

variable [DecidableEq β]

/-- What `ttm_eu_backoff_reservation_locked` leaves of the list. -/
theorem backoff_entries (h : Fits l m) :
    (ttmEuBackoffReservationLocked m l).2 = l.map fun e => { e with reserved := false, removed := false } := by
  refine h.apart_backoff.entries.trans (List.map_congr_left fun e he => ?_)
  unfold Entry.backoff
  cases hres : e.reserved with
  | true =>
    rw [if_pos rfl]
    cases hrem : e.removed with
    | true => rfl
    | false => simp [hrem]
  | false =>
    rw [if_neg (by decide)]
    have hrem : e.removed = false := by
      by_contra hrem
      have := h.clean e he (eq_true_of_ne_false hrem)
      rw [hres] at this
      cases this
    cases e
    simp_all

theorem backoff_released (h : Fits l m) : Released (ttmEuBackoffReservationLocked m l).2 := by
  rw [backoff_entries h]
  intro e he
  obtain ⟨a, -, rfl⟩ := List.mem_map.mp he
  rfl

theorem backoff_settled (h : Fits l m) (hsettled : Settled l) : Settled (ttmEuBackoffReservationLocked m l).2 := by
  rw [backoff_entries h]
  intro e he
  obtain ⟨a, ha, rfl⟩ := List.mem_map.mp he
  exact hsettled a ha

theorem backoff_pending (h : Fits x.entries m) (hy : y.entries = (ttmEuBackoffReservationLocked m x.entries).2) (b : β) :
    y.pending b = x.pending b := by
  unfold Thread.pending
  rw [hy, backoff_entries h]
  exact tally_map (fun _ => rfl) fun _ _ => rfl

theorem backoff_moves (h : Fits x.entries m) (hheld : ∀ b, x.Holds b → (m b).reserved = true)
    (hy : y.entries = (ttmEuBackoffReservationLocked m x.entries).2)
    (hphase : y.Phase (ttmEuBackoffReservationLocked m x.entries).1) : Moves m x (ttmEuBackoffReservationLocked m x.entries).1 y := by
  have hreleased : Released y.entries := hy ▸ backoff_released h
  have hremoved : ∀ e ∈ y.entries, e.removed = false := by
    rw [hy, backoff_entries h]
    intro e he
    obtain ⟨a, -, rfl⟩ := List.mem_map.mp he
    rfl
  -- each buffer is as it was, or one turn has given it back
  have hturn : ∀ b, ((ttmEuBackoffReservationLocked m x.entries).1 b).own = (m b).own ∧
      ((ttmEuBackoffReservationLocked m x.entries).1 b).bug = (m b).bug := by
    intro b
    rcases h.apart_backoff.place (m := m) b with ⟨e, he, ha, rfl, heq⟩ | ⟨-, heq⟩
    · have hpays := backoff_pays ha (hheld e.bo ⟨e, he, ha, rfl⟩) (h.off e he ha)
      exact ⟨(congrArg Buffer.own heq).trans hpays.1, (congrArg Buffer.bug heq).trans hpays.2⟩
    · exact ⟨congrArg Buffer.own heq, congrArg Buffer.bug heq⟩
  refine ⟨⟨fun b => ?_, fun b hbug _ => (hturn b).2.trans hbug⟩, ?_, ?_, ?_, .of_released hreleased hremoved, hphase,
    fun q b hb => absurd hb (hreleased.not_holds b)⟩
  · rw [(hturn b).1, backoff_pending h hy]
  · intro b _ hx
    have hb : (ttmEuBackoffReservationLocked m x.entries).1 b = m b :=
      h.apart_backoff.other fun e he hres heq => hx ⟨e, he, hres, heq⟩
    rw [hb]
    exact .refl _
  · intro b hb
    exact absurd hb (hreleased.not_holds b)
  · intro b hres
    right
    rcases h.apart_backoff.place (m := m) b with ⟨e, he, ha, -, heq⟩ | ⟨hnone, heq⟩
    · have hfree := backoff_unreserved (m b) ha
      rw [← heq] at hfree
      exact absurd (hfree.symm.trans hres) (by decide)
    · refine ⟨heq ▸ hres, ?_⟩
      rintro ⟨e, he, ha, hb⟩
      exact hnone e he ha hb

/-- The loop changes nothing but the lists, and nothing that is not held. -/
theorem delFromLru_buffer (h : Fits l m) (b : β) : ((ttmEuDelFromLruLocked m l).1 b).reserved = (m b).reserved ∧
    ((∀ e ∈ l, e.reserved = true → e.bo ≠ b) → (ttmEuDelFromLruLocked m l).1 b = m b) := by
  constructor
  · rcases h.apart_delFromLru.place (m := m) b with ⟨e, -, -, -, heq⟩ | ⟨-, heq⟩
    · refine (congrArg Buffer.reserved heq).trans ?_
      unfold Entry.delFromLru
      split <;> rfl
    · exact congrArg Buffer.reserved heq
  · intro hnone
    exact h.apart_delFromLru.other fun e he ha => hnone e he ha.1

theorem delFromLru_stamp (h : Fits l m) (b : β) : ((ttmEuDelFromLruLocked m l).1 b).valSeq = (m b).valSeq ∧
    ((ttmEuDelFromLruLocked m l).1 b).seqValid = (m b).seqValid := by
  rcases h.apart_delFromLru.place (m := m) b with ⟨e, -, -, -, heq⟩ | ⟨-, heq⟩
  · refine ⟨(congrArg Buffer.valSeq heq).trans ?_, (congrArg Buffer.seqValid heq).trans ?_⟩ <;>
    · unfold Entry.delFromLru
      split <;> rfl
  · exact ⟨congrArg Buffer.valSeq heq, congrArg Buffer.seqValid heq⟩

/-- Every reserved entry is off the lists after `ttm_eu_del_from_lru_locked`. -/
theorem delFromLru_fits (h : Fits l m) : Fits (ttmEuDelFromLruLocked m l).2 (ttmEuDelFromLruLocked m l).1 := by
  have hentries : (ttmEuDelFromLruLocked m l).2 = l.map fun e => (e.delFromLru (m e.bo)).2 := h.apart_delFromLru.entries
  rw [hentries]
  refine h.of_map (fun e => delFromLru_bo _ e) (fun e => delFromLru_reserved _ e) ?_ ?_
  · intro e he hres _
    by_cases hrem : e.removed = true
    · have hsame : (ttmEuDelFromLruLocked m l).1 e.bo = m e.bo := by
        refine h.apart_delFromLru.other fun e' he' ha heq => ?_
        exact ha.2 (h.unique he' he ha.1 hres heq ▸ hrem)
      rw [hsame]
      exact h.off e he hres hrem
    · have hown : (ttmEuDelFromLruLocked m l).1 e.bo = (e.delFromLru (m e.bo)).1 := h.apart_delFromLru.own he ⟨hres, hrem⟩
      rw [hown]
      exact delFromLru_off _ hres hrem
  · intro e he hrem
    by_contra hres
    rw [delFromLru_of_unreserved _ (eq_false_of_ne_true hres)] at hrem
    exact hres (h.clean e he hrem)

theorem delFromLru_moves (h : Fits x.entries m) (hfresh : Fresh x.entries) (hheld : ∀ b, x.Holds b → (m b).reserved = true)
    (hy : y.entries = (ttmEuDelFromLruLocked m x.entries).2) (hphase : y.Phase (ttmEuDelFromLruLocked m x.entries).1)
    (hdanger : ∀ q, y.Danger q → x.Danger q) : Moves m x (ttmEuDelFromLruLocked m x.entries).1 y := by
  have hentries : y.entries = x.entries.map fun e => (e.delFromLru (m e.bo)).2 := hy.trans h.apart_delFromLru.entries
  have hholds : ∀ b, y.Holds b ↔ x.Holds b := by
    intro b
    unfold Thread.Holds
    rw [hentries]
    constructor
    · rintro ⟨e, he, hres, hb⟩
      obtain ⟨a, ha, rfl⟩ := List.mem_map.mp he
      exact ⟨a, ha, (delFromLru_reserved _ a).symm.trans hres, (delFromLru_bo _ a).symm.trans hb⟩
    · rintro ⟨e, he, hres, hb⟩
      exact ⟨_, List.mem_map_of_mem he, (delFromLru_reserved _ e).trans hres, (delFromLru_bo _ e).trans hb⟩
  refine ⟨⟨fun b => ?_, fun b hbug _ => ?_⟩, ?_, ?_, ?_, hy ▸ delFromLru_fits h, hphase,
    fun q _ _ => hdanger q⟩
  · unfold Thread.pending
    rw [hy]
    exact sweep_balance (fun e : Entry β => e.removed = false → e.putCount = 0) delFromLru_bo
      (fun x e he => delFromLru_own x he) hfresh b
  · rcases h.apart_delFromLru.place (m := m) b with ⟨e, -, -, -, heq⟩ | ⟨-, heq⟩
    · exact (congrArg Buffer.bug heq).trans ((delFromLru_bug _ e).trans hbug)
    · exact (congrArg Buffer.bug heq).trans hbug
  · intro b _ hx
    rw [(delFromLru_buffer h b).2 fun e he hres hb => hx ⟨e, he, hres, hb⟩]
    exact .refl _
  · intro b hb
    have hx := (hholds b).mp hb
    exact ⟨(delFromLru_buffer h b).1.trans (hheld b hx), .inl hx⟩
  · intro b hres
    rw [(delFromLru_buffer h b).1] at hres
    by_cases hx : x.Holds b
    · exact .inl ((hholds b).mpr hx)
    · exact .inr ⟨hres, hx⟩

theorem fence_moves (h : Fits x.entries m) (htaken : Taken x.entries) (hsettled : Settled x.entries)
    (hheld : ∀ b, x.Holds b → (m b).reserved = true) : Moves m x (ttmEuFenceBufferObjects m x.entries).1 .idle := by
  have hturn : ∀ b, ((ttmEuFenceBufferObjects m x.entries).1 b).own = (m b).own ∧
      ((ttmEuFenceBufferObjects m x.entries).1 b).bug = (m b).bug := by
    intro b
    rcases (h.apart_fence htaken).place (m := m) b with ⟨e, he, -, rfl, heq⟩ | ⟨-, heq⟩
    · obtain ⟨hres, hrem⟩ := htaken e he
      have hpays := ttmBoAddToLru_pays (hheld e.bo ⟨e, he, hres, rfl⟩) (h.off e he hres hrem)
      exact ⟨(congrArg Buffer.own heq).trans hpays.1, (congrArg Buffer.bug heq).trans hpays.2⟩
    · exact ⟨congrArg Buffer.own heq, congrArg Buffer.bug heq⟩
  refine ⟨⟨fun b => ?_, fun b hbug _ => (hturn b).2.trans hbug⟩, ?_, ?_, ?_, .of_released (fun e he => by cases he) (fun e he => by cases he), trivial,
    fun q _ _ hd => hd.elim⟩
  · rw [(hturn b).1, hsettled.pending b]
    rfl
  · intro b _ hx
    have hb : (ttmEuFenceBufferObjects m x.entries).1 b = m b :=
      (h.apart_fence htaken).other fun e he _ heq => hx ⟨e, he, (htaken e he).1, heq⟩
    rw [hb]
    exact .refl _
  · rintro b ⟨e, he, -⟩
    cases he
  · intro b hres
    right
    rcases (h.apart_fence htaken).place (m := m) b with ⟨e, -, -, -, heq⟩ | ⟨hnone, heq⟩
    · have hfree : ((ttmEuFenceBufferObjects m x.entries).1 b).reserved = false := congrArg Buffer.reserved heq
      exact absurd (hfree.symm.trans hres) (by decide)
    · refine ⟨heq ▸ hres, ?_⟩
      rintro ⟨e, he, -, hb⟩
      exact hnone e he trivial hb

end Sweeps

section Entries

variable {i : Nat} {e' : Entry β}

/-- An entry is marked anew, and its buffer changes. -/
theorem Fits.set (h : Fits l m) (hget : l[i]? = some e) (hbo : e'.bo = e.bo) (hclean : e'.removed = true → e'.reserved = true)
    (hoff : e'.reserved = true → e'.removed = true → (m' e.bo).Off)
    (hother : e'.reserved = true → ∀ j a, l[j]? = some a → j ≠ i → a.reserved = true → a.bo ≠ e.bo)
    (hagree : ∀ j a, l[j]? = some a → j ≠ i → a.reserved = true → Agree (m a.bo) (m' a.bo)) : Fits (l.set i e') m' where
  apart := by
    intro j k a a' hj hk ha ha' heq
    rw [getElem?_set_of_get hget] at hj hk
    split at hj <;> split at hk
    case isTrue.isTrue hj' hk' => exact hj'.trans hk'.symm
    case isTrue.isFalse hj' hk' =>
      cases hj
      exact absurd (heq.symm.trans hbo) (hother ha k a' hk hk' ha')
    case isFalse.isTrue hj' hk' =>
      cases hk
      exact absurd (heq.trans hbo) (hother ha' j a hj hj' ha)
    case isFalse.isFalse hj' hk' => exact h.apart j k a a' hj hk ha ha' heq
  off := by
    intro a ha hres hrem
    obtain ⟨j, hj⟩ := List.mem_iff_getElem?.mp ha
    rw [getElem?_set_of_get hget] at hj
    split at hj
    case isTrue =>
      cases hj
      rw [hbo]
      exact hoff hres hrem
    case isFalse hne =>
      exact (hagree j a hj hne hres).off (h.off a (List.mem_iff_getElem?.mpr ⟨j, hj⟩) hres hrem)
  clean := by
    intro a ha hrem
    obtain ⟨j, hj⟩ := List.mem_iff_getElem?.mp ha
    rw [getElem?_set_of_get hget] at hj
    split at hj
    case isTrue =>
      cases hj
      exact hclean hrem
    case isFalse => exact h.clean a (List.mem_iff_getElem?.mpr ⟨j, hj⟩) hrem

theorem holds_set (hget : l[i]? = some e) (hy : y.entries = l.set i e') (hbo : e'.bo = e.bo) :
    y.Holds b ↔ e'.reserved = true ∧ e.bo = b ∨ ∃ j a, l[j]? = some a ∧ j ≠ i ∧ a.reserved = true ∧ a.bo = b := by
  unfold Thread.Holds
  rw [hy]
  constructor
  · rintro ⟨a, ha, hres, hb⟩
    obtain ⟨j, hj⟩ := List.mem_iff_getElem?.mp ha
    rw [getElem?_set_of_get hget] at hj
    split at hj
    case isTrue =>
      cases hj
      exact .inl ⟨hres, hbo.symm.trans hb⟩
    case isFalse hne => exact .inr ⟨j, a, hj, hne, hres, hb⟩
  · rintro (⟨hres, hb⟩ | ⟨j, a, hj, hne, hres, hb⟩)
    · refine ⟨e', List.mem_iff_getElem?.mpr ⟨i, ?_⟩, hres, hbo.trans hb⟩
      rw [getElem?_set_of_get hget, if_pos rfl]
    · refine ⟨a, List.mem_iff_getElem?.mpr ⟨j, ?_⟩, hres, hb⟩
      rw [getElem?_set_of_get hget, if_neg hne, hj]

theorem holds_iff (hx : x.entries = l) :
    x.Holds b ↔ ∃ (j : Nat) (a : Entry β), l[j]? = some a ∧ a.reserved = true ∧ a.bo = b := by
  unfold Thread.Holds
  rw [hx]
  constructor
  · rintro ⟨a, ha, hres, hb⟩
    obtain ⟨j, hj⟩ := List.mem_iff_getElem?.mp ha
    exact ⟨j, a, hj, hres, hb⟩
  · rintro ⟨j, a, hj, hres, hb⟩
    exact ⟨a, List.mem_iff_getElem?.mpr ⟨j, hj⟩, hres, hb⟩

theorem scanned_set (h : Scanned l i) (hget : l[i]? = some e) (hres : e'.reserved = true) :
    Scanned (l.set i e') (i + 1) := by
  intro j a hj
  rw [getElem?_set_of_get hget] at hj
  split at hj
  case isTrue hji =>
    cases hj
    exact iff_of_true hres (by omega)
  case isFalse hji =>
    rw [h j a hj]
    omega

variable [DecidableEq β]

theorem pending_set (b : β) (hget : l[i]? = some e) (hbo : e'.bo = e.bo) :
    tally Entry.bo (fun a => (a.putCount : Int)) (l.set i e') b + (if e.bo = b then (e.putCount : Int) else 0) =
      tally Entry.bo (fun a => (a.putCount : Int)) l b + if e.bo = b then (e'.putCount : Int) else 0 :=
  tally_set hget hbo

/-- The references of an entry are dropped. -/
theorem put_moves {bo : Buffer} (h : Fits l m) (hheld : ∀ b, x.Holds b → (m b).reserved = true) (hget : l[i]? = some e)
    (hx : x.entries = l) (hy : y.entries = l.set i { e with putCount := 0 }) (hdrops : Drops e.putCount (m e.bo) bo)
    (hphase : y.Phase (Function.update m e.bo bo)) (hdanger : ∀ q, ¬ y.Danger q) : Moves m x (Function.update m e.bo bo) y := by
  have hagree : ∀ b, Agree (m b) (Function.update m e.bo bo b) := by
    intro b
    by_cases hb : b = e.bo
    · rw [hb, Function.update_self]
      exact hdrops.toAgree
    · rw [Function.update_of_ne hb]
      exact .refl _
  have hpending : ∀ b, y.pending b + (if e.bo = b then (e.putCount : Int) else 0) = x.pending b := by
    intro b
    unfold Thread.pending
    rw [hy, hx]
    have hset := pending_set b hget (show Entry.bo { e with putCount := 0 } = e.bo from rfl)
    dsimp only at hset
    split at hset <;> simp_all
  have hholds : ∀ b, y.Holds b ↔ x.Holds b := by
    intro b
    rw [holds_set hget hy rfl, holds_iff hx]
    constructor
    · rintro (⟨hres, hb⟩ | ⟨j, a, hj, -, hres, hb⟩)
      · exact ⟨i, e, hget, hres, hb⟩
      · exact ⟨j, a, hj, hres, hb⟩
    · rintro ⟨j, a, hj, hres, hb⟩
      by_cases hji : j = i
      · rw [hji, hget] at hj
        cases hj
        exact .inl ⟨hres, hb⟩
      · exact .inr ⟨j, a, hj, hji, hres, hb⟩
  refine ⟨⟨fun b => ?_, fun b hbug hlt => ?_⟩, fun b _ _ => hagree b, ?_, ?_, ?_, hphase,
    fun q _ _ hd => absurd hd (hdanger q)⟩
  · have hp := hpending b
    by_cases hb : e.bo = b
    · subst hb
      have := hdrops.own
      rw [if_pos rfl] at hp
      rw [Function.update_self]
      omega
    · rw [if_neg hb] at hp
      rw [Function.update_of_ne (Ne.symm hb)]
      omega
  · have hp := hpending b
    have hpos := y.pending_nonneg b
    have hle := (m b).own_le
    by_cases hb : e.bo = b
    · subst hb
      rw [if_pos rfl] at hp
      rw [Function.update_self]
      exact hdrops.bug hbug (by omega)
    · rw [Function.update_of_ne (Ne.symm hb)]
      exact hbug
  · intro b hb
    have hx := (hholds b).mp hb
    exact ⟨(hagree b).reserved.trans (hheld b hx), .inl hx⟩
  · intro b hres
    rw [(hagree b).reserved] at hres
    by_cases hx : x.Holds b
    · exact .inl ((hholds b).mpr hx)
    · exact .inr ⟨hres, hx⟩
  · rw [hy]
    have he : e ∈ l := List.mem_iff_getElem?.mpr ⟨i, hget⟩
    refine h.set hget rfl (h.clean e he) (fun hres hrem => (hagree e.bo).off (h.off e he hres hrem)) ?_ fun _ a _ _ _ => hagree a.bo
    intro hres j a hj hji ha heq
    exact hji (h.apart j i a e hj hget ha hres heq)

/-- A free buffer is reserved for an entry. -/
theorem take_moves {bo : Buffer} (h : Fits l m) (hheld : ∀ b, x.Holds b → (m b).reserved = true) (hget : l[i]? = some e)
    (hx : x.entries = l) (hfree : (m e.bo).reserved = false) (hbo : bo.reserved = true)
    (hown : bo.own = (m e.bo).own) (hbug : bo.bug = (m e.bo).bug) (hy : y.entries = l.set i { e with reserved := true })
    (hphase : y.Phase (Function.update m e.bo bo)) (hdanger : ∀ q, y.Danger q → x.Danger q) :
    Moves m x (Function.update m e.bo bo) y := by
  have hnot : ¬ x.Holds e.bo := by
    intro hx
    rw [hheld e.bo hx] at hfree
    cases hfree
  have hne : ∀ (j : Nat) (a : Entry β), l[j]? = some a → a.reserved = true → a.bo ≠ e.bo := by
    intro j a hj ha heq
    exact hnot ((holds_iff hx).mpr ⟨j, a, hj, ha, heq⟩)
  have he : e ∈ l := List.mem_iff_getElem?.mpr ⟨i, hget⟩
  have hrem : e.removed = false := by
    by_contra hrem
    have hres := h.clean e he (eq_true_of_ne_false hrem)
    exact hne i e hget hres rfl
  have hother : ∀ {b}, b ≠ e.bo → Agree (m b) (Function.update m e.bo bo b) := by
    intro b hb
    rw [Function.update_of_ne hb]
    exact .refl _
  refine ⟨⟨fun b => ?_, fun b hb _ => ?_⟩, ?_, ?_, ?_, ?_, hphase, fun q _ _ => hdanger q⟩
  · have hpending : y.pending b = x.pending b := by
      unfold Thread.pending
      rw [hy, hx]
      have hset := pending_set b hget (show Entry.bo { e with reserved := true } = e.bo from rfl)
      dsimp only at hset
      omega
    rw [hpending]
    by_cases hb : b = e.bo
    · rw [hb, Function.update_self, hown]
    · rw [Function.update_of_ne hb]
  · by_cases hbe : b = e.bo
    · rw [hbe] at hb ⊢
      rw [Function.update_self, hbug, hb]
    · rw [Function.update_of_ne hbe, hb]
  · intro b hres _
    refine hother ?_
    rintro rfl
    rw [hfree] at hres
    cases hres
  · intro b hb
    rcases (holds_set hget hy rfl).mp hb with ⟨-, rfl⟩ | ⟨j, a, hj, -, ha, rfl⟩
    · rw [Function.update_self]
      exact ⟨hbo, .inr hfree⟩
    · have hx' : x.Holds a.bo := (holds_iff hx).mpr ⟨j, a, hj, ha, rfl⟩
      rw [Function.update_of_ne (hne j a hj ha)]
      exact ⟨hheld _ hx', .inl hx'⟩
  · intro b hres
    by_cases hb : b = e.bo
    · exact .inl ((holds_set hget hy rfl).mpr (.inl ⟨rfl, hb.symm⟩))
    · rw [Function.update_of_ne hb] at hres
      by_cases hx' : x.Holds b
      · obtain ⟨j, a, hj, ha, rfl⟩ := (holds_iff hx).mp hx'
        refine .inl ((holds_set hget hy rfl).mpr (.inr ⟨j, a, hj, ?_, ha, rfl⟩))
        rintro rfl
        rw [hget] at hj
        cases hj
        exact hb rfl
      · exact .inr ⟨hres, hx'⟩
  · rw [hy]
    refine h.set hget rfl (fun _ => rfl) ?_ (fun _ j a hj _ ha => hne j a hj ha) fun j a hj _ ha => hother (hne j a hj ha)
    intro _ hrem'
    exact absurd (hrem.symm.trans hrem') (by decide)

/-- A free buffer is reserved alone. -/
theorem one_moves {bo : Buffer} {n : Nat} (hx : x.entries = []) (hfree : (m b).reserved = false) (hres : bo.reserved = true)
    (hoff : bo.Off) (hown : bo.own = (m b).own + n) (hbug : bo.bug = (m b).bug) :
    Moves m x (Function.update m b bo) (.onePut b n) := by
  have hholds : ∀ c, (Thread.onePut b n).Holds c ↔ c = b := by
    intro c
    constructor
    · rintro ⟨e, he, -, hb⟩
      rw [List.mem_singleton.mp he] at hb
      exact hb.symm
    · rintro rfl
      exact ⟨_, List.mem_singleton_self _, rfl, rfl⟩
  have hnot : ∀ c, ¬ x.Holds c := by
    rintro c ⟨e, he, -⟩
    rw [hx] at he
    cases he
  refine ⟨⟨fun c => ?_, fun c hc _ => ?_⟩, ?_, ?_, ?_, ⟨?_, ?_, ?_⟩, trivial,
    fun q _ _ hd => hd.elim⟩
  · have hx' : x.pending c = 0 := Settled.pending (fun e he => by rw [hx] at he; cases he) c
    have hy' : (Thread.onePut b n).pending c = if b = c then (n : Int) else 0 := by
      unfold Thread.pending
      exact tally_cons.trans (Int.add_zero _)
    rw [hx', hy']
    by_cases hcb : c = b
    · rw [hcb, if_pos rfl, Function.update_self]
      omega
    · rw [Function.update_of_ne hcb, if_neg (Ne.symm hcb)]
  · by_cases hcb : c = b
    · rw [hcb] at hc ⊢
      rw [Function.update_self, hbug, hc]
    · rw [Function.update_of_ne hcb, hc]
  · intro c hc _
    have hcb : c ≠ b := by
      rintro rfl
      rw [hfree] at hc
      cases hc
    rw [Function.update_of_ne hcb]
    exact .refl _
  · intro c hc
    obtain rfl := (hholds c).mp hc
    rw [Function.update_self]
    exact ⟨hres, .inr hfree⟩
  · intro c hc
    by_cases hcb : c = b
    · exact .inl ((hholds c).mpr hcb)
    · rw [Function.update_of_ne hcb] at hc
      exact .inr ⟨hc, hnot c⟩
  · intro j k a a' hj hk _ _ _
    obtain ⟨hj, -⟩ := List.getElem?_eq_some_iff.mp hj
    obtain ⟨hk, -⟩ := List.getElem?_eq_some_iff.mp hk
    exact (Nat.lt_one_iff.mp hj).trans (Nat.lt_one_iff.mp hk).symm
  · intro e he _ _
    obtain rfl := List.mem_singleton.mp he
    rw [Function.update_self]
    exact hoff
  · intro e he _
    obtain rfl := List.mem_singleton.mp he
    rfl

end Entries

end Vmwgfx.Reservation
