import Vmwgfx.Object.Synccpu

/-! What a grab for the CPU returns, and the grabs that are outstanding by the returned values. -/

namespace Vmwgfx.Object.Synccpu

open Lib

section Lookup

variable {t : Table} {tfile : TFile} {handle : Handle}

/-- The lookup finds a buffer and counts a reference to it, or leaves the tables alone. -/
theorem vmwUserDmabufLookup_cases (t : Table) (tfile : TFile) (handle : Handle) :
    (∃ base, Resolves t tfile handle base ∧ vmwUserDmabufLookup t tfile handle =
      ⟨0, t.setInner base .userDmaBuffer (t.inner base .userDmaBuffer + 1), [(base, .userDmaBuffer)]⟩) ∨
      ∃ ret, ret ≠ 0 ∧ vmwUserDmabufLookup t tfile handle = ⟨ret, t, []⟩ := by
  cases hlook : ttmBaseObjectLookup t tfile handle with
  | none =>
    refine .inr ⟨-ESRCH, by decide, ?_⟩
    unfold vmwUserDmabufLookup
    rw [hlook]
  | some found =>
    obtain ⟨base, t'⟩ := found
    by_cases htype : ttmBaseObjectType (t.obj base) = .bufferType
    · refine .inl ⟨base, ?_, ?_⟩
      · unfold Resolves
        rw [hlook]
        rfl
      · obtain ⟨href, rfl⟩ := ttmBaseObjectLookup_some hlook
        have hunref : ttmBaseObjectUnref ((t.setRefcount base ((t.obj base).refcount + 1)).setInner base .userDmaBuffer
            (t.inner base .userDmaBuffer + 1)) base =
              t.setInner base .userDmaBuffer (t.inner base .userDmaBuffer + 1) := by
          rw [ttmBaseObjectUnref_of_lt (by simp; omega)]
          simp [Table.setRefcount, Table.setInner]
        unfold vmwUserDmabufLookup
        rw [hlook]
        dsimp only
        rw [Table.setRefcount_type, if_neg (not_not.mpr htype)]
        exact congrArg (Outcome.mk 0 · [(base, .userDmaBuffer)]) hunref
    · exact .inr ⟨-EINVAL, by decide, vmwUserDmabufLookup_refused hlook htype⟩

end Lookup

section Grab

variable {owner : Handle → ObjId} {env : Env} {s : State} {tfile : TFile} {base : ObjId} {flags : UInt32}

theorem addWriters_back (s : State) (base : ObjId) : (s.addWriters base 1).addWriters base (-1) = s := by
  unfold State.addWriters
  simp

/-- What a grab that adds a reference makes of the state. -/
def added (s : State) (tfile : TFile) (base : ObjId) : State :=
  match s.sync tfile (s.table.obj base).key with
  | some ref => s.setSync tfile (s.table.obj base).key (some { ref with kref := ref.kref + 1 })
  | none =>
    { ((s.setSync tfile (s.table.obj base).key (some ⟨base, 1⟩)).setRefList tfile
        (s.refList tfile ++ [(.synccpuWrite, (s.table.obj base).key)])).addWriters base 1 with
      table := s.table.setRefcount base ((s.table.obj base).refcount + 1) }

theorem refObjectAdd_refused {alloc : Int} (h : ¬ MayAdd s.refTable tfile base alloc) :
    ∃ ret existed, (ret = -EPERM ∨ alloc ≠ 0 ∧ ret = alloc) ∧ refObjectAdd s tfile base alloc = (ret, existed, s) := by
  unfold refObjectAdd
  dsimp only
  rcases ttmRefObjectAdd_refused h with heq | ⟨hne, heq⟩
  · rw [heq]
    exact ⟨-EPERM, _, .inl rfl, rfl⟩
  · rw [heq]
    refine ⟨alloc, (s.sync tfile (s.table.obj base).key).isSome, .inr ⟨hne, rfl⟩, ?_⟩
    rw [if_neg fun hand => hne hand.1]
    rfl

theorem refObjectAdd_existed {alloc : Int} (h : MayAdd s.refTable tfile base alloc) {ref : RefObject}
    (href : s.sync tfile (s.table.obj base).key = some ref) :
    refObjectAdd s tfile base alloc =
      (0, true, s.setSync tfile (s.table.obj base).key (some { ref with kref := ref.kref + 1 })) := by
  have href' : s.refTable.refHash tfile (s.refTable.obj base).key = some ref := href
  unfold refObjectAdd
  rw [ttmRefObjectAdd_eq h]
  dsimp only
  rw [href, href', if_neg (Option.some_ne_none ref)]
  rfl

theorem refObjectAdd_new {alloc : Int} (h : MayAdd s.refTable tfile base alloc)
    (hnone : s.sync tfile (s.table.obj base).key = none) :
    refObjectAdd s tfile base alloc =
      (0, false,
        { (s.setSync tfile (s.table.obj base).key (some ⟨base, 1⟩)).setRefList tfile
            (s.refList tfile ++ [(.synccpuWrite, (s.table.obj base).key)]) with
          table := s.table.setRefcount base ((s.table.obj base).refcount + 1) }) := by
  have hnone' : s.refTable.refHash tfile (s.refTable.obj base).key = none := hnone
  unfold refObjectAdd
  rw [ttmRefObjectAdd_eq h]
  dsimp only
  rw [hnone, hnone', if_pos rfl]
  rfl

/-- A blocking grab of a buffer that was reserved and found idle. -/
theorem grab_idle (s : State) (tfile : TFile) (base : ObjId) (hcs : allowCs flags = false) (hreserve : env.reserve = none) (hwait : env.wait = none) :
    vmwUserDmabufSynccpuGrab env s tfile base flags = (0, added s tfile base) ∨
      ∃ ret, (ret = -EPERM ∨ ret = -ENOMEM) ∧ vmwUserDmabufSynccpuGrab env s tfile base flags = (ret, s) := by
  have hgrab : vmwUserDmabufSynccpuGrab env s tfile base flags =
      (fun r : Int × Bool × State => (r.1, if r.1 ≠ 0 ∨ r.2.1 = true then ttmBoSynccpuWriteRelease r.2.2 base else r.2.2))
        (refObjectAdd (s.addWriters base 1) tfile base (if env.alloc then 0 else -ENOMEM)) := by
    unfold vmwUserDmabufSynccpuGrab ttmBoSynccpuWriteGrab
    rw [hcs, hreserve, hwait]
    rfl
  rw [hgrab]
  by_cases hadd : MayAdd (s.addWriters base 1).refTable tfile base (if env.alloc then 0 else -ENOMEM)
  · left
    unfold added
    cases href : s.sync tfile (s.table.obj base).key with
    | some ref =>
      rw [refObjectAdd_existed hadd href]
      dsimp only
      rw [if_pos (.inr rfl)]
      exact congrArg (Prod.mk (0 : Int)) (congrArg (State.setSync · tfile _ _) (addWriters_back s base))
    | none =>
      rw [refObjectAdd_new hadd href]
      rfl
  · right
    obtain ⟨ret, existed, hret, heq⟩ := refObjectAdd_refused hadd
    rw [heq]
    have hret' : ret = -EPERM ∨ ret = -ENOMEM := by
      rcases hret with h | ⟨hne, h⟩
      · exact .inl h
      · cases halloc : env.alloc with
        | true => rw [halloc] at hne; exact absurd rfl hne
        | false => rw [halloc] at h; exact .inr h
    have hne : ret ≠ 0 := by
      rcases hret' with rfl | rfl
      · decide
      · decide
    refine ⟨ret, hret', ?_⟩
    dsimp only
    rw [if_pos (.inl hne)]
    exact congrArg (Prod.mk ret) (addWriters_back s base)

theorem grab_wait (hcs : allowCs flags = true) :
    vmwUserDmabufSynccpuGrab env s tfile base flags = (errnoVal env.wait, s) := by
  unfold vmwUserDmabufSynccpuGrab
  rw [if_pos hcs]

/-- A blocking grab of a buffer that cannot be reserved, or is not idle. -/
theorem grab_busy (hcs : allowCs flags = false) {e : Errno}
    (he : env.reserve = some e ∨ env.reserve = none ∧ env.wait = some e) :
    vmwUserDmabufSynccpuGrab env s tfile base flags = (e.val, s) := by
  have hne : e.val ≠ 0 := errnoVal_ne_zero e
  unfold vmwUserDmabufSynccpuGrab ttmBoSynccpuWriteGrab
  rcases he with hreserve | ⟨hreserve, hwait⟩
  · rw [hcs, hreserve]
    exact if_pos hne
  · rw [hcs, hreserve, hwait]
    exact if_pos hne

theorem Inv.added (h : Inv owner s) (hbase : base = owner (s.table.obj base).key) :
    Inv owner (added s tfile base) := by
  unfold Synccpu.added
  cases href : s.sync tfile (s.table.obj base).key with
  | some ref => exact h.recount href _
  | none =>
    exact (h.grabbed hbase rfl href).of_table (fun b => setRefcount_key _ _ b _) fun _ _ _ hr => hr

theorem mem_writers_added (h : Inv owner s) (hbase : base = owner (s.table.obj base).key) :
    tfile ∈ (added s tfile base).writers base := by
  unfold added
  cases href : s.sync tfile (s.table.obj base).key with
  | some ref =>
    obtain ⟨hobj, -⟩ := h.sync _ _ _ href
    have hold : tfile ∈ s.writers base := ⟨_, ref, href, hobj.trans hbase.symm⟩
    dsimp only
    rwa [writers_setSync_of_some href (rfl : RefObject.obj ⟨ref.obj, ref.kref + 1⟩ = ref.obj)]
  | none =>
    change tfile ∈ (s.setSync tfile (s.table.obj base).key (some ⟨base, 1⟩)).writers base
    rw [writers_setSync_new href, if_pos rfl]
    exact Set.mem_insert _ _

end Grab

section Ioctl

variable {owner : Handle → ObjId} {env : Env} {s : State} {tfile : TFile} {arg : Arg}

/-- The state with one reference more to the buffer. -/
def referenced (s : State) (base : ObjId) : State :=
  { s with table := s.table.setInner base .userDmaBuffer (s.table.inner base .userDmaBuffer + 1) }

theorem vmwDmabufUnreference_referenced (s : State) (base : ObjId) :
    vmwDmabufUnreference (referenced s base) base = s := by
  unfold vmwDmabufUnreference referenced Table.setInner
  simp

theorem ioctl_grab (env : Env) (s : State) (tfile : TFile) (hflags : legalFlags arg.flags = true) (hop : arg.op = .grab) :
    (∃ base, Resolves s.table tfile arg.handle base ∧ (vmwUserDmabufLookup s.table tfile arg.handle).ret = 0 ∧
      vmwUserDmabufSynccpuIoctl env s tfile arg =
        (fun r : Int × State => (filterError r.1, vmwDmabufUnreference r.2 base))
          (vmwUserDmabufSynccpuGrab env (referenced s base) tfile base arg.flags)) ∨
      (vmwUserDmabufLookup s.table tfile arg.handle).ret ≠ 0 ∧ ∃ ret, ret ≠ 0 ∧
        vmwUserDmabufSynccpuIoctl env s tfile arg = (ret, s) := by
  unfold vmwUserDmabufSynccpuIoctl
  rw [if_neg (not_not.mpr hflags), hop]
  rcases vmwUserDmabufLookup_cases s.table tfile arg.handle with ⟨base, hbase, heq⟩ | ⟨ret, hne, heq⟩
  · refine .inl ⟨base, hbase, ?_, ?_⟩
    · rw [heq]
    · rw [heq]
      rfl
  · refine .inr ⟨?_, ret, hne, ?_⟩
    · rw [heq]
      exact hne
    · rw [heq]

theorem filterError_of_ne {ret : Int} (h : ret ≠ -ERESTARTSYS ∧ ret ≠ -EBUSY) : filterError ret = ret := by
  unfold filterError
  split
  · rfl
  · rename_i hnot
    by_contra hne
    exact hnot ⟨Ne.symm hne, h.1, h.2⟩

theorem filterError_of_eq {ret : Int} (h : ret = -EBUSY ∨ ret = -ERESTARTSYS) : filterError ret = 0 := by
  rcases h with rfl | rfl
  · rfl
  · rfl

theorem Inv.referenced (h : Inv owner s) (base : ObjId) : Inv owner (referenced s base) :=
  h.of_table (fun _ => rfl) fun _ _ _ hr => hr

theorem Inv.unreference (h : Inv owner s) (base : ObjId) : Inv owner (vmwDmabufUnreference s base) :=
  h.of_table (fun _ => rfl) fun _ _ _ hr => hr

/-- The buffer that a handle resolves to is the one that has it. -/
theorem Inv.owner_eq (h : Inv owner s) {handle : Handle} {base : ObjId} (hbase : Resolves s.table tfile handle base) :
    base = owner (s.table.obj base).key := by
  obtain ⟨ref, href, rfl, -⟩ := resolves_iff.mp hbase
  obtain ⟨hobj, hkey⟩ := h.usage tfile handle ref href
  rw [hkey]
  exact hobj

/-- How a grab ends: with an error of the reservation or of the wait, or with nothing to wait for. -/
theorem grab_cases (env : Env) (flags : UInt32) :
    (∃ e, allowCs flags = false ∧ env.reserve = some e ∨
      (allowCs flags = true ∨ env.reserve = none) ∧ env.wait = some e) ∨ FoundIdle env flags := by
  cases hwait : env.wait with
  | none =>
    cases hcs : allowCs flags with
    | true => exact .inr ⟨.inl hcs, hwait⟩
    | false =>
      cases hreserve : env.reserve with
      | none => exact .inr ⟨.inr hreserve, hwait⟩
      | some e => exact .inl ⟨e, .inl ⟨rfl, rfl⟩⟩
  | some e =>
    cases hcs : allowCs flags with
    | true => exact .inl ⟨e, .inr ⟨.inl rfl, rfl⟩⟩
    | false =>
      cases hreserve : env.reserve with
      | none => exact .inl ⟨e, .inr ⟨.inr rfl, rfl⟩⟩
      | some e' => exact .inl ⟨e', .inl ⟨rfl, rfl⟩⟩

theorem grab_error {flags : UInt32} {base : ObjId} {e : Errno}
    (he : allowCs flags = false ∧ env.reserve = some e ∨ (allowCs flags = true ∨ env.reserve = none) ∧ env.wait = some e) :
    vmwUserDmabufSynccpuGrab env s tfile base flags = (e.val, s) := by
  cases hcs : allowCs flags with
  | true =>
    rcases he with ⟨hfalse, -⟩ | ⟨-, hwait⟩
    · rw [hcs] at hfalse
      cases hfalse
    · rw [grab_wait hcs, hwait]
      rfl
  | false =>
    refine grab_busy hcs ?_
    rcases he with ⟨-, hreserve⟩ | ⟨hor, hwait⟩
    · exact .inl hreserve
    · exact .inr ⟨hor.resolve_left (by rw [hcs]; decide), hwait⟩

theorem Inv.grab (h : Inv owner s) {base : ObjId} (hbase : base = owner (s.table.obj base).key) (flags : UInt32) :
    Inv owner (vmwUserDmabufSynccpuGrab env s tfile base flags).2 := by
  rcases grab_cases env flags with ⟨e, he⟩ | ⟨hreserve, hwait⟩
  · rw [grab_error he]
    exact h
  · cases hcs : allowCs flags with
    | true =>
      rw [grab_wait hcs]
      exact h
    | false =>
      rcases grab_idle s tfile base hcs
        (hreserve.resolve_left (by rw [hcs]; decide)) hwait with heq | ⟨ret, -, heq⟩
      · rw [heq]
        exact h.added hbase
      · rw [heq]
        exact h

theorem Inv.ioctl (h : Inv owner s) : Inv owner (vmwUserDmabufSynccpuIoctl env s tfile arg).2 := by
  by_cases hflags : legalFlags arg.flags = true
  · cases hop : arg.op with
    | grab =>
      rcases ioctl_grab env s tfile hflags hop with ⟨base, hbase, -, heq⟩ | ⟨-, ret, -, heq⟩
      · rw [heq]
        exact ((h.referenced base).grab (h.owner_eq hbase) _).unreference base
      · rw [heq]
        exact h
    | release =>
      unfold vmwUserDmabufSynccpuIoctl vmwUserDmabufSynccpuRelease
      rw [if_neg (not_not.mpr hflags), hop]
      dsimp only
      split
      · exact h
      · exact h.baseUnref
    | invalid =>
      unfold vmwUserDmabufSynccpuIoctl
      rw [if_neg (not_not.mpr hflags), hop]
      exact h
  · unfold vmwUserDmabufSynccpuIoctl
    rw [if_pos hflags]
    exact h

/-- At most one error ends a grab. -/
theorem grab_error_unique {flags : UInt32} {e e' : Errno}
    (he : allowCs flags = false ∧ env.reserve = some e ∨ (allowCs flags = true ∨ env.reserve = none) ∧ env.wait = some e)
    (he' : allowCs flags = false ∧ env.reserve = some e' ∨
      (allowCs flags = true ∨ env.reserve = none) ∧ env.wait = some e') : e = e' := by
  rcases he with ⟨hcs, h⟩ | ⟨hor, h⟩
  · rcases he' with ⟨-, h'⟩ | ⟨hcs' | hnone, -⟩
    · exact Option.some.inj (h.symm.trans h')
    · rw [hcs] at hcs'
      cases hcs'
    · rw [h] at hnone
      cases hnone
  · rcases he' with ⟨hcs', h'⟩ | ⟨-, h'⟩
    · rcases hor with hcs | hnone
      · rw [hcs] at hcs'
        cases hcs'
      · rw [h'] at hnone
        cases hnone
    · exact Option.some.inj (h.symm.trans h')

theorem FoundIdle.no_error {flags : UInt32} (h : FoundIdle env flags) {e : Errno} :
    ¬ (allowCs flags = false ∧ env.reserve = some e ∨
      (allowCs flags = true ∨ env.reserve = none) ∧ env.wait = some e) := by
  obtain ⟨hor, hnone⟩ := h
  rintro (⟨hcs, hreserve⟩ | ⟨-, hwait⟩)
  · rcases hor with h | h
    · rw [hcs] at h
      cases h
    · rw [hreserve] at h
      cases h
  · rw [hwait] at hnone
    cases hnone

/-- What a blocking grab that adds a reference leaves. -/
def granted (s : State) (tfile : TFile) (base : ObjId) : State :=
  vmwDmabufUnreference (added (referenced s base) tfile base) base

/-- How the ioctl ends for a buffer that was found. -/
theorem grab_found {base : ObjId} (hflags : legalFlags arg.flags = true) (hop : arg.op = .grab)
    (hfound : (vmwUserDmabufLookup s.table tfile arg.handle).ret = 0)
    (heq : vmwUserDmabufSynccpuIoctl env s tfile arg =
      (fun r : Int × State => (filterError r.1, vmwDmabufUnreference r.2 base))
        (vmwUserDmabufSynccpuGrab env (Synccpu.referenced s base) tfile base arg.flags)) :
    (¬ Filtered s tfile arg env ∧ ∃ ret, ret ≠ 0 ∧ vmwUserDmabufSynccpuIoctl env s tfile arg = (ret, s)) ∨
      (Filtered s tfile arg env ∧ ¬ FoundIdle env arg.flags ∧ vmwUserDmabufSynccpuIoctl env s tfile arg = (0, s)) ∨
      (¬ Filtered s tfile arg env ∧ FoundIdle env arg.flags ∧
        (allowCs arg.flags = true ∧ vmwUserDmabufSynccpuIoctl env s tfile arg = (0, s) ∨
          allowCs arg.flags = false ∧ vmwUserDmabufSynccpuIoctl env s tfile arg = (0, granted s tfile base))) := by
  rcases grab_cases env arg.flags with ⟨e, he⟩ | hidle
  · rw [grab_error he] at heq
    dsimp only at heq
    rw [vmwDmabufUnreference_referenced] at heq
    by_cases hsw : e.val = -EBUSY ∨ e.val = -ERESTARTSYS
    · rw [filterError_of_eq hsw] at heq
      exact .inr (.inl ⟨⟨hflags, hop, hfound, e, hsw, he⟩, fun hidle => hidle.no_error he, heq⟩)
    · obtain ⟨hbusy, hsys⟩ := not_or.mp hsw
      rw [filterError_of_ne ⟨hsys, hbusy⟩] at heq
      refine .inl ⟨?_, e.val, errnoVal_ne_zero e, heq⟩
      rintro ⟨-, -, -, e', hsw', he'⟩
      exact hsw (grab_error_unique he he' ▸ hsw')
  · have hhonest : ¬ Filtered s tfile arg env := by
      rintro ⟨-, -, -, e, -, he⟩
      exact hidle.no_error he
    cases hcs : allowCs arg.flags with
    | true =>
      rw [grab_wait hcs, hidle.2] at heq
      dsimp only at heq
      rw [vmwDmabufUnreference_referenced] at heq
      exact .inr (.inr ⟨hhonest, hidle, .inl ⟨rfl, heq⟩⟩)
    | false =>
      have hreserve : env.reserve = none := hidle.1.resolve_left (by rw [hcs]; decide)
      rcases grab_idle (Synccpu.referenced s base) tfile base hcs hreserve hidle.2 with
        hgrab | ⟨ret, hret, hgrab⟩
      · rw [hgrab] at heq
        exact .inr (.inr ⟨hhonest, hidle, .inr ⟨rfl, heq⟩⟩)
      · rw [hgrab] at heq
        have hpassed : filterError ret = ret ∧ ret ≠ 0 := by
          rcases hret with rfl | rfl
          · exact ⟨rfl, by decide⟩
          · exact ⟨rfl, by decide⟩
        dsimp only at heq
        rw [hpassed.1, vmwDmabufUnreference_referenced] at heq
        exact .inl ⟨hhonest, ret, hpassed.2, heq⟩

/-- How the ioctl ends for a grab. -/
theorem ioctl_grab_cases (s : State) (tfile : TFile) (env : Env) (hop : arg.op = .grab) :
    (¬ Filtered s tfile arg env ∧ ∃ ret, ret ≠ 0 ∧ vmwUserDmabufSynccpuIoctl env s tfile arg = (ret, s)) ∨
      (Filtered s tfile arg env ∧ ¬ FoundIdle env arg.flags ∧ vmwUserDmabufSynccpuIoctl env s tfile arg = (0, s)) ∨
      (¬ Filtered s tfile arg env ∧ FoundIdle env arg.flags ∧ ∃ base, Resolves s.table tfile arg.handle base ∧
        (allowCs arg.flags = true ∧ vmwUserDmabufSynccpuIoctl env s tfile arg = (0, s) ∨
          allowCs arg.flags = false ∧ vmwUserDmabufSynccpuIoctl env s tfile arg = (0, granted s tfile base))) := by
  by_cases hflags : legalFlags arg.flags = true
  · rcases ioctl_grab env s tfile hflags hop with ⟨base, hbase, hfound, heq⟩ | ⟨hret, ret, hne, heq⟩
    · rcases grab_found hflags hop hfound heq with h | h | ⟨hhonest, hidle, h⟩
      · exact .inl h
      · exact .inr (.inl h)
      · exact .inr (.inr ⟨hhonest, hidle, base, hbase, h⟩)
    · exact .inl ⟨fun hfilt => hret hfilt.2.2.1, ret, hne, heq⟩
  · refine .inl ⟨fun hfilt => hflags hfilt.1, -EINVAL, by decide, ?_⟩
    unfold vmwUserDmabufSynccpuIoctl
    exact if_pos hflags

/-- A grab is truthful unless its error is one that the ioctl swallows. -/
theorem Inv.truthful_iff (h : Inv owner s) (hop : arg.op = .grab) :
    Truthful s tfile arg env ↔ ¬ Filtered s tfile arg env := by
  unfold Truthful
  rcases ioctl_grab_cases s tfile env hop with ⟨hhonest, ret, hne, heq⟩ | ⟨hfilt, hbusy, heq⟩ | ⟨hhonest, hidle, base, hbase, hend⟩
  · rw [heq]
    exact iff_of_true ⟨fun h0 => absurd h0 hne, fun _ => rfl⟩ hhonest
  · rw [heq]
    refine iff_of_false (fun htrue => ?_) (not_not.mpr hfilt)
    obtain ⟨-, -, hidle, -⟩ := htrue.1 rfl
    exact hbusy hidle
  · rcases hend with ⟨hcs, heq⟩ | ⟨-, heq⟩
    · rw [heq]
      refine iff_of_true ⟨fun _ => ⟨base, hbase, hidle, fun hfalse => ?_⟩, fun _ => rfl⟩ hhonest
      rw [hcs] at hfalse
      cases hfalse
    · rw [heq]
      refine iff_of_true ⟨fun _ => ⟨base, hbase, hidle, fun _ => ?_⟩, fun h0 => absurd rfl h0⟩ hhonest
      exact mem_writers_added (h.referenced base) (h.owner_eq hbase)

end Ioctl

section Reported

variable {owner : Handle → ObjId} {s : State} {tfile : TFile} {key : Handle} {arg : Arg} {env : Env}

/-- The outstanding grabs of each file on each handle, as the return values report them. -/
abbrev Reported := TFile → Handle → Nat

def Reported.set (l : Reported) (tfile : TFile) (key : Handle) (n : Nat) : Reported :=
  Function.update l tfile (Function.update (l tfile) key n)

def report (s : State) (l : Reported) : Action → Reported
  | .ioctl tfile arg env =>
    if (vmwUserDmabufSynccpuIoctl env s tfile arg).1 = 0 ∧ allowCs arg.flags = false then
      match arg.op with
      | .grab => l.set tfile arg.handle (l tfile arg.handle + 1)
      | .release => l.set tfile arg.handle (l tfile arg.handle - 1)
      | .invalid => l
    else l
  | .close tfile => Function.update l tfile fun _ => 0

/-- The machine with the report of what it has done. -/
def reportedStep (x : State × Reported) (a : Action) : Option (State × Reported) :=
  (step x.1 a).map fun s => (s, report x.1 x.2 a)

/-- No grab of the step ends with an error that the ioctl swallows. -/
def Honest (x : State × Reported) : Action → Prop
  | .ioctl tfile arg env => ¬ Filtered x.1 tfile arg env
  | .close _ => True

/-- The references of a file to a handle, as a CPU writer. -/
def State.grabs (s : State) : Reported := fun tfile key => ((s.sync tfile key).map RefObject.kref).getD 0

theorem grabs_setSync (s : State) (tfile : TFile) (key : Handle) (ref : Option RefObject) :
    (s.setSync tfile key ref).grabs = s.grabs.set tfile key ((ref.map RefObject.kref).getD 0) := by
  funext f k
  unfold State.grabs Reported.set
  rw [setSync_apply]
  by_cases hf : f = tfile
  · subst hf
    by_cases hk : k = key
    · subst hk
      simp
    · simp [hk]
  · simp [hf]

theorem grabs_added (s : State) (tfile : TFile) (base : ObjId) :
    (added s tfile base).grabs =
      s.grabs.set tfile (s.table.obj base).key (s.grabs tfile (s.table.obj base).key + 1) := by
  unfold added
  cases href : s.sync tfile (s.table.obj base).key with
  | some ref =>
    dsimp only
    rw [grabs_setSync]
    unfold State.grabs
    rw [href]
    rfl
  | none =>
    change (s.setSync tfile (s.table.obj base).key (some ⟨base, 1⟩)).grabs = _
    rw [grabs_setSync]
    unfold State.grabs
    rw [href]
    rfl

theorem grabs_release (s : State) (tfile : TFile) (key : Handle) :
    (ttmRefObjectRelease s tfile (.synccpuWrite, key)).grabs = s.grabs.set tfile key 0 := by
  funext f k
  unfold State.grabs Reported.set
  rw [release_sync]
  by_cases hf : f = tfile
  · subst hf
    by_cases hk : k = key
    · subst hk
      simp
    · simp [hk, Ne.symm hk]
  · simp [hf]

theorem grabs_baseUnref (s : State) (tfile : TFile) (key : Handle) :
    (refObjectBaseUnref s tfile key).2.grabs =
      if (refObjectBaseUnref s tfile key).1 = 0 then s.grabs.set tfile key (s.grabs tfile key - 1) else s.grabs := by
  unfold refObjectBaseUnref
  cases href : s.sync tfile key with
  | none => rfl
  | some ref =>
    have hcount : s.grabs tfile key = ref.kref := by
      unfold State.grabs
      rw [href]
      rfl
    rw [hcount]
    dsimp only
    split
    · rw [grabs_release, if_pos rfl]
      congr 1
      omega
    · rw [grabs_setSync, if_pos rfl]
      rfl

theorem grabs_close (h : Inv owner s) (tfile : TFile) :
    (ttmObjectFileRelease s tfile).grabs = Function.update s.grabs tfile fun _ => 0 := by
  funext f k
  unfold State.grabs
  rw [h.sync_close]
  by_cases hf : f = tfile
  · subst hf
    simp
  · simp [hf]

/-- As long as no error is swallowed, the report is what is counted. -/
theorem Inv.report_eq (h : Inv owner s) {a : Action} {s' : State} (hok : Honest (s, s.grabs) a)
    (hstep : step s a = some s') : report s s.grabs a = s'.grabs := by
  cases a with
  | close tfile =>
    cases hstep
    exact (grabs_close h tfile).symm
  | ioctl tfile arg env =>
    cases hstep
    unfold report
    cases hop : arg.op with
    | grab =>
      dsimp only
      rcases ioctl_grab_cases s tfile env hop with ⟨-, ret, hne, heq⟩ | ⟨hfilt, -, -⟩ | ⟨-, -, base, hbase, hend⟩
      · rw [heq, if_neg fun h0 => hne h0.1]
      · exact absurd hfilt hok
      · rcases hend with ⟨hcs, heq⟩ | ⟨hcs, heq⟩
        · rw [heq, hcs, if_neg fun h0 => Bool.noConfusion h0.2]
        · obtain ⟨ref, href, rfl, -⟩ := resolves_iff.mp hbase
          obtain ⟨-, hkey⟩ := h.usage tfile arg.handle ref href
          rw [heq, hcs, if_pos ⟨rfl, rfl⟩, hop]
          have hadded := grabs_added (Synccpu.referenced s ref.obj) tfile ref.obj
          change (Synccpu.added (Synccpu.referenced s ref.obj) tfile ref.obj).grabs =
            s.grabs.set tfile (s.table.obj ref.obj).key (s.grabs tfile (s.table.obj ref.obj).key + 1) at hadded
          rw [hkey] at hadded
          exact hadded.symm
    | release =>
      dsimp only
      unfold vmwUserDmabufSynccpuIoctl vmwUserDmabufSynccpuRelease
      by_cases hflags : legalFlags arg.flags = true
      · rw [if_neg (not_not.mpr hflags), hop]
        dsimp only
        cases hcs : allowCs arg.flags with
        | true =>
          rw [if_neg fun h0 => Bool.noConfusion h0.2]
          rfl
        | false =>
          rw [if_neg Bool.false_ne_true, grabs_baseUnref]
          simp only [and_true]
      · rw [if_pos hflags]
        exact if_neg fun h0 => absurd h0.1 (by decide : -EINVAL ≠ 0)
    | invalid =>
      have hsame : (vmwUserDmabufSynccpuIoctl env s tfile arg).2 = s := by
        unfold vmwUserDmabufSynccpuIoctl
        rw [hop]
        split <;> rfl
      rw [hsame]
      dsimp only
      rw [hop]
      split <;> rfl

end Reported

/-- No buffer is grabbed. -/
structure Start (s : State) : Prop where
  consistent : s.table.Consistent
  sync : ∀ tfile key, s.sync tfile key = none
  listed : ∀ tfile key, (.synccpuWrite, key) ∉ s.refList tfile
  nodup : ∀ tfile, (s.refList tfile).Nodup
  cpuWriters : ∀ base, s.cpuWriters base = 0

theorem Start.inv {s : State} (h : Start s) : ∃ owner, Inv owner s := by
  refine ⟨fun key => (s.table.objectHash key).getD 0, ?_, ?_, ?_, h.nodup, ?_⟩
  · intro f k ref href
    obtain ⟨hhash, -⟩ := h.consistent.referenced f k ref href
    obtain ⟨hkey, -⟩ := h.consistent.registered k ref.obj hhash
    rw [hhash]
    exact ⟨rfl, hkey⟩
  · intro f k ref href
    rw [h.sync] at href
    cases href
  · intro f k
    exact iff_of_false (h.listed f k) (not_not.mpr (h.sync f k))
  · intro b
    have hempty : s.writers b = ∅ := by
      ext f
      refine iff_of_false ?_ id
      rintro ⟨k, ref, href, -⟩
      rw [h.sync] at href
      cases href
    rw [hempty, Set.ncard_empty, h.cpuWriters]
    exact ⟨Set.finite_empty, rfl⟩

theorem Inv.kept {owner : Handle → ObjId} {s s' : State} {a : Action} (h : Inv owner s)
    (hstep : step s a = some s') : Inv owner s' := by
  cases a with
  | ioctl tfile arg env =>
    cases hstep
    exact h.ioctl
  | close tfile =>
    cases hstep
    exact h.close tfile

/-- In a run without a swallowed error the grabs that are counted are those that were reported. -/
theorem reported_run {owner : Handle → ObjId} {x y : State × Reported} {as : List Action}
    (hrun : Run reportedStep Honest x as y) (h : Inv owner x.1) (hl : x.2 = x.1.grabs) : y.2 = y.1.grabs := by
  refine (hrun.invariant (I := fun x => Inv owner x.1 ∧ x.2 = x.1.grabs) (fun x a x' hok hstep hx => ?_) ⟨h, hl⟩).2
  obtain ⟨s, l⟩ := x
  obtain ⟨hinv, heq⟩ := hx
  have heq' : l = s.grabs := heq
  subst heq'
  obtain ⟨s', hs', rfl⟩ := Option.map_eq_some_iff.mp hstep
  exact ⟨hinv.kept hs', hinv.report_eq hok hs'⟩

/-- In every run the counts are balanced, a closed file gives back its share, and a grab is truthful
exactly if it does not end with an error that the ioctl swallows.  If none was swallowed in the run,
the outstanding grabs are those that were reported. -/
theorem synccpu_balanced_truthful {s₀ s : State} {as : List Action} (h₀ : Start s₀)
    (hrun : Run step (fun _ _ => True) s₀ as s) :
    Balanced s ∧
      (∀ tfile base,
        (tfile ∈ s.writers base → (ttmObjectFileRelease s tfile).cpuWriters base + 1 = s.cpuWriters base) ∧
        (tfile ∉ s.writers base → (ttmObjectFileRelease s tfile).cpuWriters base = s.cpuWriters base)) ∧
      (∀ tfile arg env, arg.op = .grab → (Truthful s tfile arg env ↔ ¬ Filtered s tfile arg env)) ∧
      ∀ l, Run reportedStep Honest (s₀, fun _ _ => 0) as (s, l) → l = s.grabs := by
  obtain ⟨owner, hinv₀⟩ := h₀.inv
  have h : Inv owner s := hrun.invariant (fun _ _ _ _ hstep hs => hs.kept hstep) hinv₀
  refine ⟨h.balanced, fun _ base => h.close_count base, fun _ _ _ hop => h.truthful_iff hop, fun l hreport => ?_⟩
  refine reported_run hreport hinv₀ ?_
  funext tfile key
  unfold State.grabs
  rw [h₀.sync]
  rfl

/-- One buffer, of handle 7, that file 1 has opened. -/
def oneBuffer : State where
  table :=
    { obj := fun _ => ⟨7, .bufferType, .bufferType, false, 1, 1, .userDmaBuffer⟩
      objectHash := fun key => if key = 7 then some 0 else none
      refHash := fun tfile key => if tfile = 1 ∧ key = 7 then some ⟨0, 1⟩ else none
      inner := fun _ _ => 1
      avail := fun _ _ => true
      resFree := fun _ _ => none }
  sync := fun _ _ => none
  refList := fun tfile => if tfile = 1 then [(.usage, 7)] else []
  cpuWriters := fun _ => 0

theorem oneBuffer_start : Start oneBuffer where
  consistent :=
    { registered := by
        intro key base h
        obtain ⟨rfl, -⟩ := Option.ite_none_right_eq_some.mp h
        exact ⟨rfl, Nat.one_ne_zero⟩
      referenced := by
        intro tfile key ref h
        obtain ⟨⟨-, rfl⟩, heq⟩ := Option.ite_none_right_eq_some.mp h
        cases heq
        exact ⟨rfl, by decide⟩ }
  sync _ _ := rfl
  listed tfile key h := by
    change _ ∈ (if tfile = 1 then [(RefType.usage, 7)] else []) at h
    split at h
    · cases List.mem_singleton.mp h
    · cases h
  nodup tfile := by
    change (if tfile = 1 then [(RefType.usage, 7)] else []).Nodup
    split
    · exact List.nodup_singleton _
    · exact List.nodup_nil
  cpuWriters _ := rfl

/-- The file grabs the buffer twice, releases it once and is closed. -/
theorem synccpu_balanced_twice :
    ∃ s, Run step (fun _ _ => True) oneBuffer
        [.ioctl 1 ⟨.grab, 2, 7⟩ ⟨none, none, true⟩, .ioctl 1 ⟨.grab, 2, 7⟩ ⟨none, none, true⟩,
          .ioctl 1 ⟨.release, 2, 7⟩ ⟨none, none, true⟩, .close 1] s ∧
      Balanced s := by
  obtain ⟨s, hrun⟩ : ∃ s, Run step (fun _ _ => True) oneBuffer
      [.ioctl 1 ⟨.grab, 2, 7⟩ ⟨none, none, true⟩, .ioctl 1 ⟨.grab, 2, 7⟩ ⟨none, none, true⟩,
        .ioctl 1 ⟨.release, 2, 7⟩ ⟨none, none, true⟩, .close 1] s :=
    ⟨_, .cons trivial rfl (.cons trivial rfl (.cons trivial rfl (.single trivial rfl)))⟩
  exact ⟨s, hrun, (synccpu_balanced_truthful oneBuffer_start hrun).1⟩

theorem neg_EBUSY : -EBUSY < 0 := by decide

/-- The buffer is busy and the grab is not to block. -/
def busy : Env := ⟨none, some ⟨-EBUSY, neg_EBUSY⟩, true⟩

/-- The ioctl returns 0 for a buffer that is busy. -/
theorem synccpu_grab_busy :
    Start oneBuffer ∧ (vmwUserDmabufSynccpuIoctl busy oneBuffer 1 ⟨.grab, 6, 7⟩).1 = 0 ∧
      ¬ Truthful oneBuffer 1 ⟨.grab, 6, 7⟩ busy := by
  refine ⟨oneBuffer_start, by decide, fun h => ?_⟩
  obtain ⟨-, -, ⟨-, hwait⟩, -⟩ := h.1 (by decide)
  cases hwait

end Vmwgfx.Object.Synccpu
