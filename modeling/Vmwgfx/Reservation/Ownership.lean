import Mathlib.Algebra.BigOperators.Group.Finset.Basic
import Mathlib.Algebra.Order.BigOperators.Group.Finset
import Mathlib.Algebra.Order.Ring.Int
import Vmwgfx.Lib.Count
import Vmwgfx.Reservation.Moves

/-! Who has which buffers reserved, and how many references the lists have. -/

universe u v

namespace Vmwgfx.Reservation

open Lib

open Buffer (Agree Drops)

variable {ι : Type u} {β : Type v}

section Inv

variable [Fintype ι] [DecidableEq β]

structure Inv (s : State ι β) : Prop where
  lock : ∀ t, s.lruLock = some t ↔ (s.thread t).Scans
  owner : ∀ b, (s.buffer b).reserved = true ↔ ∃ t, (s.thread t).Holds b
  alone : ∀ t u b, (s.thread t).Holds b → (s.thread u).Holds b → t = u
  fits : ∀ t, Fits (s.thread t).entries s.buffer
  phase : ∀ t, (s.thread t).Phase s.buffer
  /-- Beside the references of the lists there is one more, and those that some thread is going to drop. -/
  counted : ∀ b, (s.buffer b).own = 1 + ∑ t, (s.thread t).pending b
  bug : ∀ b, (s.buffer b).bug = false

/-- How a thread takes a step. -/
structure Moved (s : State ι β) (t : ι) (s' : State ι β) : Prop where
  moves : Moves s.buffer (s.thread t) s'.buffer (s'.thread t)
  others : ∀ u, u ≠ t → s'.thread u = s.thread u
  lock : ∀ u, s'.lruLock = some u ↔ (u = t ∧ (s'.thread t).Scans) ∨ u ≠ t ∧ s.lruLock = some u
  seq : s'.valSeq = s.valSeq ∨
    (∃ l, s.thread t = .retry l) ∧ (∃ l, s'.thread t = .scan l 0 s.valSeq) ∧ s'.valSeq = s.valSeq + 1
  /-- A thread falls asleep for a buffer that is reserved by a thread which is to go first. -/
  sleeps : ∀ l i q, s'.thread t = .busy l i q →
    ∃ e, l[i]? = some e ∧ (s.buffer e.bo).ttmBoReserveLocked (some q) = .error (-EBUSY)

end Inv

variable {m m' : β → Buffer} {x y : Thread β} {l : List (Entry β)} {b : β} {e : Entry β}

section Steps

variable [Fintype ι] [DecidableEq ι] [DecidableEq β] {s s' : State ι β} {t : ι} {lock : Option ι}

omit [DecidableEq ι] in
theorem Inv.held (h : Inv s) (t : ι) (b : β) (hx : (s.thread t).Holds b) : (s.buffer b).reserved = true :=
  (h.owner b).mpr ⟨t, hx⟩

omit [Fintype ι] in
theorem Moved.of_moves {q : Nat} (hmove : Moves s.buffer (s.thread t) m' y)
    (hlock : ∀ u, lock = some u ↔ (u = t ∧ y.Scans) ∨ u ≠ t ∧ s.lruLock = some u)
    (hseq : q = s.valSeq ∨ (∃ l, s.thread t = .retry l) ∧ (∃ l, y = .scan l 0 s.valSeq) ∧ q = s.valSeq + 1)
    (hsleeps : ∀ l i q, y = .busy l i q →
      ∃ e, l[i]? = some e ∧ (s.buffer e.bo).ttmBoReserveLocked (some q) = .error (-EBUSY)) :
    Moved s t ⟨lock, q, m', Function.update s.thread t y⟩ := by
  refine ⟨?_, fun u hu => Function.update_of_ne hu .., ?_, ?_, ?_⟩
  all_goals
    dsimp only
    rw [Function.update_self]
    assumption

omit [DecidableEq ι] in
theorem Inv.moved (h : Inv s) (hmoved : Moved s t s') : Inv s' where
  lock := by
    intro u
    rw [hmoved.lock]
    by_cases hut : u = t
    · subst hut
      simp
    · simp only [hut, false_and, ne_eq, not_false_eq_true, true_and, false_or]
      rw [hmoved.others u hut]
      exact h.lock u
  owner := by
    intro b
    constructor
    · intro hres
      rcases hmoved.moves.frees b hres with hy | ⟨hres', hx⟩
      · exact ⟨t, hy⟩
      · obtain ⟨u, hu⟩ := (h.owner b).mp hres'
        have hut : u ≠ t := fun heq => hx (heq ▸ hu)
        exact ⟨u, by rwa [hmoved.others u hut]⟩
    · rintro ⟨u, hu⟩
      by_cases hut : u = t
      · rw [hut] at hu
        exact (hmoved.moves.takes b hu).1
      · rw [hmoved.others u hut] at hu
        have hres := h.held u b hu
        have hx : ¬ (s.thread t).Holds b := fun hx => hut (h.alone u t b hu hx)
        exact (hmoved.moves.keeps b hres hx).reserved.trans hres
  alone := by
    -- nobody else holds what the thread has now
    have hother : ∀ u b, u ≠ t → (s'.thread t).Holds b → ¬ (s.thread u).Holds b := by
      intro u b hut hy hu
      rcases (hmoved.moves.takes b hy).2 with hx | hfree
      · exact hut (h.alone u t b hu hx)
      · rw [h.held u b hu] at hfree
        cases hfree
    intro u w b hu hw
    by_cases hut : u = t <;> by_cases hwt : w = t
    · rw [hut, hwt]
    · rw [hut] at hu
      rw [hmoved.others w hwt] at hw
      exact absurd hw (hother w b hwt hu)
    · rw [hwt] at hw
      rw [hmoved.others u hut] at hu
      exact absurd hu (hother u b hut hw)
    · rw [hmoved.others u hut] at hu
      rw [hmoved.others w hwt] at hw
      exact h.alone u w b hu hw
  fits := by
    intro u
    by_cases hut : u = t
    · rw [hut]
      exact hmoved.moves.fits
    · rw [hmoved.others u hut]
      refine (h.fits u).congr fun e he hres => ?_
      have hu : (s.thread u).Holds e.bo := ⟨e, he, hres, rfl⟩
      exact hmoved.moves.keeps e.bo (h.held u e.bo hu) fun hx => hut (h.alone u t e.bo hu hx)
  phase := by
    intro u
    by_cases hut : u = t
    · rw [hut]
      exact hmoved.moves.phase
    · rw [hmoved.others u hut]
      refine (h.phase u).congr fun e he hres => ?_
      have hu : (s.thread u).Holds e.bo := ⟨e, he, hres, rfl⟩
      exact hmoved.moves.keeps e.bo (h.held u e.bo hu) fun hx => hut (h.alone u t e.bo hu hx)
  counted := by
    classical
    intro b
    have hsum := sum_exchange (fun u => (s'.thread u).pending b) (fun u => (s.thread u).pending b) t
      fun u hu => by rw [hmoved.others u hu]
    have hbalance := hmoved.moves.balance b
    have hcounted := h.counted b
    omega
  bug := by
    intro b
    refine hmoved.moves.sound b (h.bug b) ?_
    have hle : (s.thread t).pending b ≤ ∑ u, (s.thread u).pending b :=
      Finset.single_le_sum (fun u _ => (s.thread u).pending_nonneg b) (Finset.mem_univ t)
    have hcounted := h.counted b
    omega

omit [DecidableEq ι] in
theorem Inv.keep_lock (h : Inv s) (hxy : y.Scans ↔ (s.thread t).Scans) (u : ι) :
    s.lruLock = some u ↔ (u = t ∧ y.Scans) ∨ u ≠ t ∧ s.lruLock = some u := by
  by_cases hut : u = t
  · rw [hut, hxy, h.lock t]
    simp
  · simp [hut]

omit [Fintype ι] [DecidableEq ι] [DecidableEq β] in
theorem lock_taken (hl : s.lruLock = none) (hy : y.Scans) (u : ι) :
    some t = some u ↔ (u = t ∧ y.Scans) ∨ u ≠ t ∧ s.lruLock = some u := by
  rw [hl]
  simp [hy, eq_comm]

omit [DecidableEq ι] in
theorem Inv.lock_given (h : Inv s) (hx : (s.thread t).Scans ∨ s.lruLock = none) (hy : ¬ y.Scans) (u : ι) :
    (none : Option ι) = some u ↔ (u = t ∧ y.Scans) ∨ u ≠ t ∧ s.lruLock = some u := by
  refine iff_of_false (fun heq => by cases heq) ?_
  rintro (⟨-, hy'⟩ | ⟨hut, hu⟩)
  · exact hy hy'
  · rcases hx with hx | hl
    · rw [(h.lock t).mpr hx] at hu
      exact hut (Option.some.inj hu).symm
    · rw [hl] at hu
      cases hu

omit [DecidableEq ι] in
/-- The thread goes on with the same entries, while no buffer is reserved or freed. -/
theorem Inv.same (h : Inv s) (hentries : y.entries = (s.thread t).entries) (hdrops : ∀ b, Drops 0 (s.buffer b) (m' b))
    (hphase : y.Phase m') (hdanger : ∀ q b, y.Holds b → y.Danger q → (s.thread t).Danger q) :
    Moves s.buffer (s.thread t) m' y :=
  .same hentries hdrops (h.fits t) (h.held t) hphase hdanger

/-- A thread takes a step that leaves its entries and the lock alone. -/
theorem Inv.stays (h : Inv s) (hentries : y.entries = (s.thread t).entries) (hdrops : ∀ b, Drops 0 (s.buffer b) (m' b))
    (hphase : y.Phase m') (hdanger : ∀ q, y.Danger q → (s.thread t).Danger q) (hx : ¬ (s.thread t).Scans) (hy : ¬ y.Scans)
    (hbusy : ∀ l i q, y ≠ .busy l i q) : Moved s t (s.move t m' y) :=
  .of_moves (h.same hentries hdrops hphase fun q _ _ => hdanger q) (h.keep_lock (iff_of_false hy hx)) (.inl rfl)
    fun l i q heq => absurd heq (hbusy l i q)

/-- A thread that holds nothing leaves its entries behind. -/
theorem Inv.leaves (h : Inv s) (hx : ∀ b, ¬ (s.thread t).Holds b) (hsettled : Settled (s.thread t).entries) (hdrops : ∀ b, Drops 0 (s.buffer b) (m' b))
    (hscans : ¬ (s.thread t).Scans) : Moved s t (s.move t m' .idle) :=
  .of_moves (.nothing hx hsettled rfl hdrops trivial) (h.keep_lock (iff_of_false id hscans)) (.inl rfl)
    fun _ _ _ heq => by cases heq

section Scan

variable {i q : Nat}

/-- All that is reserved is given back, along with the lock. -/
theorem Inv.giveUp (h : Inv s) (hx : (s.thread t).Scans ∨ s.lruLock = none)
    (hmove : Moves s.buffer (s.thread t) m x) (hentries : x.entries = l) {next : Next β} (hnext : ∀ ret, next = .ret ret → ret ≠ 0) :
    Moved s t (s.giveUp t m l next) := by
  subst hentries
  have hfits := hmove.fits
  refine .of_moves (hmove.trans (backoff_moves hfits (fun b hb => (hmove.takes b hb).1) rfl ?_) fun _ => id) (h.lock_given hx ?_)
    (.inl rfl) fun _ _ _ heq => by cases heq
  · refine ⟨fun j _ _ hj => absurd hj (Nat.not_lt_zero j), ?_⟩
    have hreleased := backoff_released hfits
    cases next with
    | ret ret =>
      dsimp only
      rw [if_neg (hnext ret rfl)]
      exact hreleased
    | waitUnreserved | waitCpu => exact hreleased
  · exact id

theorem ttmBoReserveLocked_ok {bo bo' : Buffer} {sequence : Option Nat} (hok : bo.ttmBoReserveLocked sequence = .ok bo') :
    bo.reserved = false ∧
      bo' = { bo with reserved := true, valSeq := sequence.getD bo.valSeq, seqValid := sequence.isSome } := by
  unfold Buffer.ttmBoReserveLocked at hok
  cases hres : bo.reserved with
  | true =>
    rw [hres, if_pos rfl] at hok
    cases sequence with
    | none => cases hok
    | some q =>
      dsimp only at hok
      split_ifs at hok
  | false =>
    rw [hres, if_neg (by decide)] at hok
    cases sequence <;> cases hok <;> exact ⟨rfl, rfl⟩

theorem ttmBoReserveLocked_error {bo : Buffer} {sequence : Option Nat} (h : bo.ttmBoReserveLocked sequence = .error 0) :
    False := by
  unfold Buffer.ttmBoReserveLocked at h
  cases sequence <;> dsimp only at h <;> split_ifs at h <;> cases h

omit [DecidableEq β] in
/-- Who must wait for a buffer has not reserved it. -/
theorem alone_of_busy (hstamped : Stamped l m q) (hheld : ∀ e ∈ l, e.reserved = true → (m e.bo).reserved = true)
    (hget : l[i]? = some e) (hbusy : (m e.bo).ttmBoReserveLocked (some q) = .error (-EBUSY)) : Alone l i := by
  intro e₀ he₀ e' he' hres heq
  obtain rfl : e = e₀ := Option.some.inj (hget.symm.trans he₀)
  obtain ⟨hseq, hvalid⟩ := hstamped e' he' hres
  have hreserved := hheld e' he' hres
  rw [heq] at hseq hvalid hreserved
  unfold Buffer.ttmBoReserveLocked at hbusy
  rw [hreserved, hvalid, hseq] at hbusy
  simp only [if_true] at hbusy
  exact absurd (Except.error.inj hbusy) (by decide)

/-- The marks of the list once the thread has taken its buffers off the lists to wait. -/
theorem delFromLru_phase (h : Fits l m) (hscanned : Scanned l i) (hfresh : Fresh l) (hstamped : Stamped l m q)
    (halone : Alone l i) (hlt : i < l.length) :
    Thread.Phase (ttmEuDelFromLruLocked m l).1 (.busy (ttmEuDelFromLruLocked m l).2 i q) := by
  have hdel : (ttmEuDelFromLruLocked m l).2 = l.map fun e => (e.delFromLru (m e.bo)).2 := h.apart_delFromLru.entries
  rw [hdel]
  refine ⟨?_, ?_, ?_, ?_, ?_, ?_⟩
  · intro j a hj
    rw [List.getElem?_map, Option.map_eq_some_iff] at hj
    obtain ⟨a, ha, rfl⟩ := hj
    rw [delFromLru_reserved]
    exact hscanned j a ha
  · intro a ha hrem
    obtain ⟨a, hmem, rfl⟩ := List.mem_map.mp ha
    cases hres : a.reserved with
    | true => exact absurd ((delFromLru_removed _ hres).symm.trans hrem) (by decide)
    | false =>
      rw [delFromLru_of_unreserved _ hres] at hrem ⊢
      exact hfresh a hmem hrem
  · intro a ha hres
    obtain ⟨a, hmem, rfl⟩ := List.mem_map.mp ha
    rw [delFromLru_reserved] at hres
    obtain ⟨hseq, hvalid⟩ := hstamped a hmem hres
    obtain ⟨hseq', hvalid'⟩ := delFromLru_stamp h a.bo
    rw [delFromLru_bo]
    exact ⟨hseq'.trans hseq, hvalid'.trans hvalid⟩
  · intro a ha hres
    obtain ⟨a, hmem, rfl⟩ := List.mem_map.mp ha
    rw [delFromLru_reserved] at hres
    exact delFromLru_removed _ hres
  · rw [List.length_map]
    exact hlt
  · intro a ha a' ha' hres
    rw [List.getElem?_map, Option.map_eq_some_iff] at ha
    obtain ⟨a, ha, rfl⟩ := ha
    obtain ⟨a', hmem, rfl⟩ := List.mem_map.mp ha'
    rw [delFromLru_reserved] at hres
    rw [delFromLru_bo, delFromLru_bo]
    exact halone a ha a' hmem hres

theorem Inv.scan (h : Inv s) (ht : s.thread t = .scan l i q) : Moved s t (s.scan t l i q) := by
  have hscans : (s.thread t).Scans := by
    rw [ht]
    trivial
  have hentries : (s.thread t).entries = l := congrArg Thread.entries ht
  have hfits := h.fits t
  rw [hentries] at hfits
  obtain ⟨hscanned, hfresh, hstamped⟩ : Scanned l i ∧ Fresh l ∧ Stamped l s.buffer q := by
    have hphase := h.phase t
    rw [ht] at hphase
    exact hphase
  have hheld : ∀ e ∈ l, e.reserved = true → (s.buffer e.bo).reserved = true := by
    intro e he hres
    exact h.held t e.bo ⟨e, hentries ▸ he, hres, rfl⟩
  have hrefl : Moves s.buffer (s.thread t) s.buffer (s.thread t) :=
    h.same rfl (fun b => .refl _) (h.phase t) fun _ _ _ hd => hd
  unfold State.scan
  cases hget : l[i]? with
  | none =>
    have hle := List.getElem?_eq_none_iff.mp hget
    have hdel : (ttmEuDelFromLruLocked s.buffer l).2 = l.map fun e => (e.delFromLru (s.buffer e.bo)).2 :=
      hfits.apart_delFromLru.entries
    have htaken : Taken (ttmEuDelFromLruLocked s.buffer l).2 := by
      rw [hdel]
      intro e he
      obtain ⟨a, ha, rfl⟩ := List.mem_map.mp he
      obtain ⟨j, hj⟩ := List.mem_iff_getElem?.mp ha
      obtain ⟨hlt, -⟩ := List.getElem?_eq_some_iff.mp hj
      have hres := (hscanned j a hj).mpr (Nat.lt_of_lt_of_le hlt hle)
      exact ⟨(delFromLru_reserved _ a).trans hres, delFromLru_removed _ hres⟩
    have hmove : Moves s.buffer (s.thread t) (ttmEuDelFromLruLocked s.buffer l).1
        (.put (ttmEuDelFromLruLocked s.buffer l).2 0 (.ret 0)) := by
      subst hentries
      refine delFromLru_moves hfits hfresh (h.held t) rfl ⟨fun j _ _ hj => absurd hj (Nat.not_lt_zero j), ?_⟩ fun _ hd => hd.elim
      dsimp only
      rw [if_pos rfl]
      exact htaken
    exact .of_moves hmove (h.lock_given (.inl hscans) id) (.inl rfl) fun _ _ _ heq => by cases heq
  | some e =>
    obtain ⟨hlt, -⟩ := List.getElem?_eq_some_iff.mp hget
    dsimp only
    cases hreserve : (s.buffer e.bo).ttmBoReserveLocked (some q) with
    | ok bo =>
      obtain ⟨hfree, hbo⟩ := ttmBoReserveLocked_ok hreserve
      have hmem : e ∈ l := List.mem_iff_getElem?.mpr ⟨i, hget⟩
      have hmove : Moves s.buffer (s.thread t) (s.update e.bo bo) (.scan (l.set i { e with reserved := true }) (i + 1) q) := by
        refine take_moves hfits (h.held t) hget hentries hfree (by rw [hbo]) (by rw [hbo]; rfl) (by rw [hbo]) rfl
          ⟨scanned_set hscanned hget rfl, ?_, ?_⟩ ?_
        · intro a ha hrem
          obtain ⟨j, hj⟩ := List.mem_iff_getElem?.mp ha
          rw [getElem?_set_of_get hget] at hj
          split at hj
          case isTrue =>
            cases hj
            exact hfresh e hmem hrem
          case isFalse => exact hfresh a (List.mem_iff_getElem?.mpr ⟨j, hj⟩) hrem
        · intro a ha hres
          obtain ⟨j, hj⟩ := List.mem_iff_getElem?.mp ha
          rw [getElem?_set_of_get hget] at hj
          split at hj
          case isTrue =>
            cases hj
            dsimp only
            rw [Function.update_self, hbo]
            exact ⟨rfl, rfl⟩
          case isFalse =>
            have ha' := List.mem_iff_getElem?.mpr ⟨j, hj⟩
            have hne : a.bo ≠ e.bo := by
              intro heq
              rw [← heq, hheld a ha' hres] at hfree
              cases hfree
            rw [Function.update_of_ne hne]
            exact hstamped a ha' hres
        · rintro q' ⟨hq, -⟩
          rw [ht]
          exact ⟨hq, hlt⟩
      dsimp only
      split
      · exact h.giveUp (.inl hscans) hmove rfl fun ret heq => by cases heq
      · exact .of_moves hmove (h.keep_lock (iff_of_true trivial hscans)) (.inl rfl) fun _ _ _ heq => by cases heq
    | error ret =>
      dsimp only
      split_ifs with hbusy hagain
      · have halone := alone_of_busy hstamped hheld hget (hbusy ▸ hreserve)
        have hphase := delFromLru_phase hfits hscanned hfresh hstamped halone hlt
        have hmove : Moves s.buffer (s.thread t) (ttmEuDelFromLruLocked s.buffer l).1
            (.busy (ttmEuDelFromLruLocked s.buffer l).2 i q) := by
          subst hentries
          refine delFromLru_moves hfits hfresh (h.held t) rfl hphase fun q' hq => ?_
          rw [ht]
          exact ⟨hq, hlt⟩
        refine .of_moves hmove (h.lock_given (.inl hscans) id) (.inl rfl) ?_
        intro l' i' q' heq
        cases heq
        refine ⟨(e.delFromLru (s.buffer e.bo)).2, ?_, ?_⟩
        · unfold ttmEuDelFromLruLocked
          rw [hfits.apart_delFromLru.entries, List.getElem?_map, hget, Option.map_some]
        · rw [delFromLru_bo, hreserve, hbusy]
      · exact h.giveUp (.inl hscans) hrefl hentries fun ret heq => by cases heq
      · refine h.giveUp (.inl hscans) hrefl hentries fun ret' heq => ?_
        cases heq
        rintro rfl
        exact ttmBoReserveLocked_error hreserve

omit [Fintype ι] [DecidableEq ι] in
theorem drops_update {bo : Buffer} (hdrops : Drops 0 (s.buffer b) bo) (c : β) : Drops 0 (s.buffer c) (s.update b bo c) := by
  unfold State.update
  by_cases hcb : c = b
  · rw [hcb, Function.update_self]
    exact hdrops
  · rw [Function.update_of_ne hcb]
    exact .refl _

theorem Inv.put (h : Inv s) {next : Next β} (ht : s.thread t = .put l i next) (hget : l[i]? = some e) :
    Moved s t (s.move t (s.update e.bo (e.listRefSub (s.buffer e.bo)).1)
      (.put (l.set i (e.listRefSub (s.buffer e.bo)).2) (i + 1) next)) := by
  have hentries : (s.thread t).entries = l := congrArg Thread.entries ht
  obtain ⟨hput, hnext⟩ : (∀ (j : Nat) e, l[j]? = some e → j < i → e.putCount = 0) ∧ _ := by
    have hphase := h.phase t
    rw [ht] at hphase
    exact hphase
  have hfits := h.fits t
  rw [hentries] at hfits
  rw [listRefSub_entry]
  refine .of_moves (put_moves hfits (h.held t) hget hentries rfl (drops_listRefSub e _) ⟨?_, ?_⟩ fun _ => id)
    (h.keep_lock (iff_of_false ?_ ?_)) (.inl rfl) fun _ _ _ heq => by cases heq
  · intro j a hj hlt
    rw [getElem?_set_of_get hget] at hj
    split at hj
    case isTrue =>
      cases hj
      rfl
    case isFalse hji => exact hput j a hj (by omega)
  · -- the marks are what they were
    have hmarks : ∀ a ∈ l.set i { e with putCount := 0 }, ∃ a' ∈ l, a.reserved = a'.reserved ∧ a.removed = a'.removed := by
      intro a ha
      rcases List.mem_or_eq_of_mem_set ha with ha | rfl
      · exact ⟨a, ha, rfl, rfl⟩
      · exact ⟨e, List.mem_iff_getElem?.mpr ⟨i, hget⟩, rfl, rfl⟩
    have hreleased : Released l → Released (l.set i { e with putCount := 0 }) := by
      intro hrel a ha
      obtain ⟨a', ha', hres, -⟩ := hmarks a ha
      exact hres.trans (hrel a' ha')
    cases next with
    | ret ret =>
      dsimp only at hnext ⊢
      split_ifs at hnext ⊢
      · intro a ha
        obtain ⟨a', ha', hres, hrem⟩ := hmarks a ha
        exact ⟨hres.trans (hnext a' ha').1, hrem.trans (hnext a' ha').2⟩
      · exact hreleased hnext
    | waitUnreserved | waitCpu => exact hreleased hnext
  · exact id
  · rw [ht]
    exact id

/-- The references are dropped. -/
theorem Inv.next (h : Inv s) {next : Next β} (ht : s.thread t = .put l i next) (hget : l[i]? = none)
    (hs : s.run t = some s') : Moved s t s' := by
  have hentries : (s.thread t).entries = l := congrArg Thread.entries ht
  have hscans : ¬ (s.thread t).Scans := by
    rw [ht]
    exact id
  have hphase := h.phase t
  rw [ht] at hphase
  obtain ⟨hput, hnext⟩ := hphase
  have hsettled : Settled l := by
    intro e he
    obtain ⟨j, hj⟩ := List.mem_iff_getElem?.mp he
    obtain ⟨hlt, -⟩ := List.getElem?_eq_some_iff.mp hj
    exact hput j e hj (Nat.lt_of_lt_of_le hlt (List.getElem?_eq_none_iff.mp hget))
  unfold State.run at hs
  rw [ht] at hs
  dsimp only at hs
  rw [hget] at hs
  cases next with
  | ret ret =>
    cases hs
    dsimp only at hnext ⊢
    split_ifs at hnext ⊢
    · exact h.stays hentries.symm (fun b => .refl _) ⟨hnext, hsettled⟩ (fun _ hd => hd.elim) hscans id fun _ _ _ heq => by cases heq
    · exact h.leaves (Released.not_holds (hentries ▸ hnext)) (hentries ▸ hsettled) (fun b => .refl _) hscans
  | waitUnreserved | waitCpu =>
    cases hs
    exact h.stays hentries.symm (fun b => .refl _) ⟨hnext, hsettled⟩ (fun _ hd => hd.elim) hscans id fun _ _ _ heq => by cases heq

theorem Inv.run (h : Inv s) (hrun : s.run t = some s') : Moved s t s' := by
  have hphase := h.phase t
  have hsame : ∀ {x : Thread β}, s.thread t = x → (s.thread t).entries = x.entries := congrArg Thread.entries
  cases ht : s.thread t with
  | put l i next =>
    cases hget : l[i]? with
    | none => exact h.next ht hget hrun
    | some e =>
      unfold State.run at hrun
      rw [ht] at hrun
      dsimp only at hrun
      rw [hget] at hrun
      cases hrun
      exact h.put ht hget
  | idle | holds =>
    unfold State.run at hrun
    rw [ht] at hrun
    cases hrun
  | retry l =>
    unfold State.run at hrun
    rw [ht] at hrun hphase
    dsimp only at hrun
    split at hrun
    case isFalse => cases hrun
    case isTrue hl =>
      cases hrun
      obtain ⟨hreleased, hsettled⟩ := hphase
      have hnot : ∀ b, ¬ (Thread.scan l 0 s.valSeq).Holds b := Released.not_holds hreleased
      refine .of_moves (h.same (hsame ht).symm (fun b => .refl _) ⟨?_, fun e he _ => hsettled e he, ?_⟩ ?_)
        (lock_taken hl trivial) (.inr ⟨⟨l, ht⟩, ⟨l, rfl⟩, rfl⟩) fun _ _ _ heq => by cases heq
      · intro j e hj
        rw [hreleased e (List.mem_iff_getElem?.mpr ⟨j, hj⟩)]
        exact iff_of_false (by decide) (Nat.not_lt_zero j)
      · intro e he hres
        exact absurd ⟨e, he, hres, rfl⟩ (hnot e.bo)
      · intro q b hb _
        exact absurd hb (hnot b)
  | scan l i q =>
    unfold State.run at hrun
    rw [ht] at hrun
    cases hrun
    exact h.scan ht
  | busy l i q =>
    have hscans : ¬ (s.thread t).Scans := ht ▸ id
    unfold State.run at hrun
    rw [ht] at hrun hphase
    dsimp only at hrun
    split at hrun
    case h_2 => cases hrun
    case h_1 =>
      split at hrun
      case isTrue => cases hrun
      case isFalse =>
        cases hrun
        exact h.stays (hsame ht).symm (fun b => .refl _) hphase (fun q' hq => by rw [ht]; exact hq) hscans id
          fun _ _ _ heq => by cases heq
  | relock l i q ret =>
    unfold State.run at hrun
    rw [ht] at hrun hphase
    dsimp only at hrun
    split at hrun
    case isFalse => cases hrun
    case isTrue hl =>
      split at hrun
      case isTrue =>
        cases hrun
        refine .of_moves (h.same (hsame ht).symm (fun b => .refl _) ⟨hphase.1, hphase.2.1, hphase.2.2.1⟩ ?_)
          (lock_taken hl trivial) (.inl rfl) fun _ _ _ heq => by cases heq
        intro q' b _ hd
        rw [ht]
        exact hd.1
      case isFalse hret =>
        cases hrun
        refine h.giveUp (.inr hl) (h.same rfl (fun b => .refl _) (h.phase t) fun _ _ _ hd => hd) (hsame ht) fun ret' heq => ?_
        cases heq
        exact hret
  | waitUnreserved l bo =>
    have hscans : ¬ (s.thread t).Scans := ht ▸ id
    unfold State.run at hrun
    rw [ht] at hrun hphase
    dsimp only at hrun
    split at hrun
    case isTrue => cases hrun
    case isFalse =>
      cases hrun
      exact h.stays (hsame ht).symm (fun b => .refl _) hphase (fun _ hd => hd.elim) hscans id fun _ _ _ heq => by cases heq
  | waitCpu l bo =>
    have hscans : ¬ (s.thread t).Scans := ht ▸ id
    unfold State.run at hrun
    rw [ht] at hrun hphase
    dsimp only at hrun
    split at hrun
    case isFalse => cases hrun
    case isTrue =>
      cases hrun
      exact h.stays (hsame ht).symm (fun b => .refl _) hphase (fun _ hd => hd.elim) hscans id fun _ _ _ heq => by cases heq
  | one bo interruptible noWait =>
    have hscans : ¬ (s.thread t).Scans := ht ▸ id
    unfold State.run at hrun
    rw [ht] at hrun
    dsimp only at hrun
    split at hrun
    case isFalse => cases hrun
    case isTrue hl =>
      cases hreserve : (s.buffer bo).ttmBoReserveLocked none with
      | ok x =>
        rw [hreserve] at hrun
        cases hrun
        obtain ⟨hfree, rfl⟩ := ttmBoReserveLocked_ok hreserve
        refine .of_moves (one_moves (hsame ht) hfree rfl ⟨rfl, rfl⟩ ?_ rfl) (h.keep_lock (iff_of_false id hscans)) (.inl rfl)
          fun _ _ _ heq => by cases heq
        unfold Buffer.own Buffer.ttmBoDelFromLru
        simp only [Bool.toNat_false]
        omega
      | error ret =>
        rw [hreserve] at hrun
        dsimp only at hrun
        split at hrun
        · cases hrun
          exact h.stays (hsame ht).symm (drops_update (Buffer.drops_listRefSub _ 0)) trivial (fun _ hd => hd.elim) hscans id fun _ _ _ heq => by cases heq
        · cases hrun
          exact h.stays (hsame ht).symm (fun b => .refl _) trivial (fun _ hd => hd.elim) hscans id fun _ _ _ heq => by cases heq
  | oneBusy bo interruptible =>
    have hscans : ¬ (s.thread t).Scans := ht ▸ id
    unfold State.run at hrun
    rw [ht] at hrun
    dsimp only at hrun
    split at hrun
    case isTrue => cases hrun
    case isFalse =>
      cases hrun
      exact h.stays (hsame ht).symm (fun b => .refl _) trivial (fun _ hd => hd.elim) hscans id fun _ _ _ heq => by cases heq
  | onePut bo n =>
    have hscans : ¬ (s.thread t).Scans := ht ▸ id
    unfold State.run at hrun
    rw [ht] at hrun
    cases hrun
    have hfits := h.fits t
    rw [hsame ht] at hfits
    have hmove : Moves s.buffer (s.thread t) (s.update bo ((s.buffer bo).ttmBoListRefSub n)) (.holds [⟨bo, true, true, 0⟩]) := by
      refine put_moves (i := 0) (e := ⟨bo, true, true, n⟩) hfits (h.held t) rfl (hsame ht) rfl (Buffer.drops_listRefSub _ n)
        ⟨?_, ?_⟩ fun _ => id
      · intro e he
        rw [List.mem_singleton.mp he]
        exact ⟨rfl, rfl⟩
      · intro e he
        rw [List.mem_singleton.mp he]
    exact .of_moves hmove (h.keep_lock (iff_of_false id hscans)) (.inl rfl) fun _ _ _ heq => by cases heq

theorem Inv.signal (h : Inv s) (hsignal : s.signal t = some s') : Moved s t s' := by
  have hphase := h.phase t
  have hsame : ∀ {x : Thread β}, s.thread t = x → (s.thread t).entries = x.entries := congrArg Thread.entries
  unfold State.signal at hsignal
  split at hsignal
  case h_1 l i q ht =>
    have hscans : ¬ (s.thread t).Scans := ht ▸ id
    cases hsignal
    rw [ht] at hphase
    exact h.stays (hsame ht).symm (fun b => .refl _) hphase (fun q' hq => by rw [ht]; exact hq) hscans id
          fun _ _ _ heq => by cases heq
  case h_2 l bo ht | h_3 l bo ht =>
    have hscans : ¬ (s.thread t).Scans := ht ▸ id
    cases hsignal
    rw [ht] at hphase
    exact h.leaves (Released.not_holds ((hsame ht).symm ▸ hphase.1)) ((hsame ht).symm ▸ hphase.2) (fun b => .refl _) hscans
  case h_4 bo ht =>
    have hscans : ¬ (s.thread t).Scans := ht ▸ id
    cases hsignal
    exact h.stays (hsame ht).symm (drops_update (Buffer.drops_listRefSub _ 0)) trivial (fun _ hd => hd.elim) hscans id fun _ _ _ heq => by cases heq
  case h_5 => cases hsignal

theorem Inv.fence (h : Inv s) (hrelease : s.release t ttmEuFenceBufferObjects = some s') : Moved s t s' := by
  have hphase := h.phase t
  unfold State.release at hrelease
  split at hrelease
  case h_1 l ht =>
    have hscans : ¬ (s.thread t).Scans := ht ▸ id
    have hentries : (s.thread t).entries = l := congrArg Thread.entries ht
    rw [ht] at hphase
    split at hrelease
    case isFalse => cases hrelease
    case isTrue =>
      cases hrelease
      subst hentries
      exact .of_moves (fence_moves (h.fits t) hphase.1 hphase.2 (h.held t)) (h.keep_lock (iff_of_false id hscans)) (.inl rfl)
        fun _ _ _ heq => by cases heq
  case h_2 => cases hrelease

theorem Inv.backoff (h : Inv s) (hrelease : s.release t ttmEuBackoffReservationLocked = some s') :
    Moved s t s' := by
  have hphase := h.phase t
  unfold State.release at hrelease
  split at hrelease
  case h_1 l ht =>
    have hscans : ¬ (s.thread t).Scans := ht ▸ id
    have hentries : (s.thread t).entries = l := congrArg Thread.entries ht
    split at hrelease
    case isFalse => cases hrelease
    case isTrue =>
      cases hrelease
      rw [ht] at hphase
      subst hentries
      have hsettled := backoff_settled (h.fits t) hphase.2
      -- the list that is left behind holds nothing
      have hreleased := backoff_released (h.fits t)
      have hback : Moves s.buffer (s.thread t) _ (.put _ 0 (.ret (-EBUSY))) :=
        backoff_moves (h.fits t) (h.held t) rfl ⟨fun j _ _ hj => absurd hj (Nat.not_lt_zero j), hreleased⟩
      exact .of_moves (hback.trans (.nothing (Released.not_holds hreleased) hsettled rfl (fun b => .refl _) trivial) fun _ => id)
        (h.keep_lock (iff_of_false id hscans)) (.inl rfl) fun _ _ _ heq => by cases heq
  case h_2 => cases hrelease

omit [DecidableEq ι] in
/-- The buffers change in what reservations have nothing to do with. -/
theorem Inv.drops (h : Inv s) (hdrops : ∀ b, Drops 0 (s.buffer b) (m' b)) : Inv { s with buffer := m' } where
  lock := h.lock
  owner b := by
    dsimp only
    rw [(hdrops b).reserved]
    exact h.owner b
  alone := h.alone
  fits t := (h.fits t).congr fun e _ _ => (hdrops e.bo).toAgree
  phase t := (h.phase t).congr fun e _ _ => (hdrops e.bo).toAgree
  counted b := by
    have := (hdrops b).own
    have := h.counted b
    dsimp only
    omega
  bug b := by
    refine (hdrops b).bug (h.bug b) ?_
    have := h.counted b
    have := (s.buffer b).own_le
    have hpos : 0 ≤ ∑ t, (s.thread t).pending b := Finset.sum_nonneg fun t _ => (s.thread t).pending_nonneg b
    omega

theorem Inv.start (h : Inv s) (hstart : s.start t y = some s') (hclean : ∀ e ∈ y.entries, e.reserved = false ∧ e.removed = false)
    (hsettled : Settled y.entries) (hphase : y.Phase s.buffer) (hdanger : ∀ q, ¬ y.Danger q)
    (hscans : ¬ y.Scans) (hbusy : ∀ l i q, y ≠ .busy l i q) : Moved s t s' := by
  unfold State.start at hstart
  split at hstart
  case h_1 ht =>
    cases hstart
    have hnot : ¬ (s.thread t).Scans := ht ▸ id
    have hfits : Fits y.entries s.buffer := .of_released (fun e he => (hclean e he).1) fun e he => (hclean e he).2
    have hpays : Pays s.buffer (s.thread t) s.buffer y := by
      refine .of_drops (fun b => ?_) (fun b => .refl _) (s.thread t).pending_nonneg
      rw [hsettled.pending b, ht]
      rfl
    refine .of_moves ⟨hpays, fun b _ _ => .refl _, ?_, ?_, hfits, hphase, fun q _ _ hd => absurd hd (hdanger q)⟩
      (h.keep_lock (iff_of_false hscans hnot)) (.inl rfl) fun l i q heq => absurd heq (hbusy l i q)
    · intro b hb
      exact absurd hb (Released.not_holds (fun e he => (hclean e he).1) b)
    · intro b hres
      refine .inr ⟨hres, ?_⟩
      rw [ht]
      rintro ⟨e, he, -⟩
      cases he
  case h_2 => cases hstart

/-- All that a step can do: a thread moves, or buffers change in what reservations have nothing to do with. -/
theorem Inv.step_cases {a : Act ι β} (h : Inv s) (hstep : step s a = some s') :
    (∃ t, Moved s t s') ∨ ∃ m', (∀ b, Drops 0 (s.buffer b) (m' b)) ∧ s' = { s with buffer := m' } := by
  cases a with
  | reserveBuffers t bos =>
    simp only [Reservation.step] at hstep
    split at hstep
    case isTrue => cases hstep
    case isFalse =>
      have hclean : ∀ e ∈ bos.map fun bo => (⟨bo, false, false, 0⟩ : Entry β), e.reserved = false ∧ e.removed = false ∧
          e.putCount = 0 := by
        intro e he
        obtain ⟨bo, -, rfl⟩ := List.mem_map.mp he
        exact ⟨rfl, rfl, rfl⟩
      exact .inl ⟨t, h.start hstep (fun e he => ⟨(hclean e he).1, (hclean e he).2.1⟩) (fun e he => (hclean e he).2.2)
        ⟨fun e he => (hclean e he).1, fun e he => (hclean e he).2.2⟩ (fun _ => id) id fun _ _ _ heq => by cases heq⟩
  | reserve t bo interruptible noWait =>
    exact .inl ⟨t, h.start hstep (fun e he => by cases he) (fun e he => by cases he) trivial (fun _ => id) id
      fun _ _ _ heq => by cases heq⟩
  | run t => exact .inl ⟨t, h.run hstep⟩
  | signal t => exact .inl ⟨t, h.signal hstep⟩
  | fence t => exact .inl ⟨t, h.fence hstep⟩
  | backoff t => exact .inl ⟨t, h.backoff hstep⟩
  | validate t bo noEvict hasTtm =>
    simp only [Reservation.step] at hstep
    split at hstep
    case h_1 =>
      split at hstep
      case isTrue =>
        cases hstep
        refine .inr ⟨_, drops_update (b := bo) ?_, rfl⟩
        exact ⟨⟨rfl, rfl, rfl, rfl, rfl⟩, (Int.sub_zero _).symm, fun hbug _ => hbug⟩
      case isFalse => cases hstep
    case h_2 => cases hstep
  | cpuWriters bo n =>
    cases hstep
    refine .inr ⟨_, drops_update (b := bo) ?_, rfl⟩
    exact ⟨⟨rfl, rfl, rfl, rfl, rfl⟩, (Int.sub_zero _).symm, fun hbug _ => hbug⟩

theorem Inv.step {a : Act ι β} (h : Inv s) (hstep : step s a = some s') : Inv s' := by
  rcases h.step_cases hstep with ⟨t, hmoved⟩ | ⟨m', hdrops, rfl⟩
  · exact h.moved hmoved
  · exact h.drops hdrops

end Scan

end Steps

section Runs

variable [Fintype ι] [DecidableEq ι] [DecidableEq β] {s₀ s : State ι β} {as : List (Act ι β)}

omit [DecidableEq ι] in
theorem Initial.inv (h : Initial s) : Inv s where
  lock t := by
    rw [h.lruLock, h.thread t]
    exact iff_of_false (fun heq => by cases heq) id
  owner b := by
    rw [h.reserved b]
    refine iff_of_false (by decide) ?_
    rintro ⟨t, e, he, -⟩
    rw [h.thread t] at he
    cases he
  alone := by
    rintro t u b ⟨e, he, -⟩
    rw [h.thread t] at he
    cases he
  fits t := by
    rw [h.thread t]
    exact .of_released (fun e he => by cases he) fun e he => by cases he
  phase t := by
    rw [h.thread t]
    trivial
  counted b := by
    have hpending : ∑ t, (s.thread t).pending b = 0 := Finset.sum_eq_zero fun t _ => by rw [h.thread t]; rfl
    have := h.listKref b
    unfold Buffer.own
    omega
  bug := h.bug

theorem inv_of_run (hinit : Initial s₀) (hrun : Run step (fun _ _ => True) s₀ as s) : Inv s :=
  hrun.invariant (fun _ _ _ _ hstep h => h.step hstep) hinit.inv

omit [Fintype ι] in
theorem run_of_exec (h : exec step (fun _ _ => true) s₀ as = some s) : Run step (fun _ _ => True) s₀ as s :=
  (Run.of_exec h).mono fun _ _ _ => trivial

/-- Who has been given buffers has them for himself, off the lists on which the evictions look; who has not been given
all of them has none. -/
theorem reservations (hinit : Initial s₀) (hrun : Run step (fun _ _ => True) s₀ as s) :
    (∀ b, (s.buffer b).reserved = true ↔ ∃ t, (s.thread t).Holds b) ∧
      (∀ t u b, (s.thread t).Holds b → (s.thread u).Holds b → t = u) ∧
      (∀ t l, s.thread t = .holds l → (l.map Entry.bo).Nodup ∧ ∀ e ∈ l, (s.thread t).Holds e.bo ∧ (s.buffer e.bo).Off) ∧
      (∀ t l i ret, s.thread t = .put l i (.ret ret) → ret ≠ 0 → ∀ b, ¬ (s.thread t).Holds b) ∧
      (s.lruLock = none → ∀ b, (s.buffer b).reserved = true → (s.buffer b).Off) := by
  have h := inv_of_run hinit hrun
  refine ⟨h.owner, h.alone, ?_, ?_, ?_⟩
  · intro t l ht
    have hfits := h.fits t
    have hphase := h.phase t
    rw [ht] at hfits hphase ⊢
    obtain ⟨htaken, -⟩ := hphase
    refine ⟨?_, fun e he => ⟨⟨e, he, (htaken e he).1, rfl⟩, hfits.off e he (htaken e he).1 (htaken e he).2⟩⟩
    rw [List.Nodup, List.pairwise_map]
    exact hfits.pairwise.imp_of_mem fun he he' h => h (htaken _ he).1 (htaken _ he').1
  · intro t l i ret ht hret
    have hphase := h.phase t
    rw [ht] at hphase ⊢
    have hreleased := hphase.2
    dsimp only at hreleased
    rw [if_neg hret] at hreleased
    exact Released.not_holds hreleased
  · intro hl b hres
    obtain ⟨t, e, he, heres, rfl⟩ := (h.owner b).mp hres
    refine (h.fits t).off e he heres ?_
    have hphase := h.phase t
    have hscans : ¬ (s.thread t).Scans := by
      intro hscans
      rw [(h.lock t).mpr hscans] at hl
      cases hl
    cases ht : s.thread t with
    | idle | one | oneBusy =>
      rw [ht] at he
      cases he
    | retry l | waitUnreserved l | waitCpu l =>
      rw [ht] at he hphase
      rw [hphase.1 e he] at heres
      cases heres
    | scan l i q =>
      rw [ht] at hscans
      exact absurd trivial hscans
    | busy l i q | relock l i q =>
      rw [ht] at he hphase
      exact hphase.2.2.2.1 e he heres
    | put l i next =>
      rw [ht] at he hphase
      obtain ⟨-, hnext⟩ := hphase
      cases next with
      | ret ret =>
        dsimp only at hnext
        split_ifs at hnext
        · exact (hnext e he).2
        · rw [hnext e he] at heres
          cases heres
      | waitUnreserved | waitCpu =>
        rw [hnext e he] at heres
        cases heres
    | holds l =>
      rw [ht] at he hphase
      exact (hphase.1 e he).2
    | onePut =>
      rw [ht] at he
      rw [List.mem_singleton.mp he]

/-- Buffers that nobody has reserved, on both lists. -/
def fresh : State ι β where
  lruLock := none
  valSeq := 0
  buffer _ := ⟨false, 0, false, true, true, 3, false, true, 0, false⟩
  thread _ := .idle

omit [Fintype ι] [DecidableEq ι] [DecidableEq β] in
theorem fresh_initial : Initial (fresh : State ι β) := ⟨rfl, fun _ => rfl, fun _ => rfl, fun _ => rfl, fun _ => rfl⟩

/-- The thread `false` reserves both buffers, and has to wait for `true` to give one back. -/
def contended : Option (State Bool Nat) :=
  exec step (fun _ _ => true) fresh ([.reserve true 0 false false, .run true, .run true, .reserveBuffers false [1, 0]] ++
    List.replicate 3 (.run false) ++ [.fence true] ++ List.replicate 7 (.run false))

theorem reservations_contended : ∃ s, contended = some s ∧ s.thread false = .holds [⟨1, true, true, 0⟩, ⟨0, true, true, 0⟩] ∧
    ∀ b, (s.buffer b).reserved = true → (s.buffer b).Off := by
  have hplay : contended = some (contended.get (by decide)) := (Option.some_get _).symm
  exact ⟨_, hplay, rfl, (reservations fresh_initial (run_of_exec hplay)).2.2.2.2 (by decide)⟩

/-- Every reference of the lists is accounted for, so that the last one never goes and no `BUG_ON` is hit. -/
theorem references (hinit : Initial s₀) (hrun : Run step (fun _ _ => True) s₀ as s) (b : β) :
    (s.buffer b).listKref = 1 + (s.buffer b).lru.toNat + (s.buffer b).swap.toNat + ∑ t, (s.thread t).pending b ∧
      (s.buffer b).bug = false := by
  have h := inv_of_run hinit hrun
  have hcounted := h.counted b
  unfold Buffer.own at hcounted
  exact ⟨by omega, h.bug b⟩

theorem references_contended : ∃ s, contended = some s ∧
    (s.buffer 0).listKref = 1 + (s.buffer 0).lru.toNat + (s.buffer 0).swap.toNat + ∑ t, (s.thread t).pending 0 := by
  have hplay : contended = some (contended.get (by decide)) := (Option.some_get _).symm
  exact ⟨_, hplay, (references fresh_initial (run_of_exec hplay) 0).1⟩

end Runs

end Vmwgfx.Reservation
