import Vmwgfx.Lib.Machine
import Vmwgfx.Mob.Table

/-! What a bound memory object denotes, over whole histories of one backend:
a page table is built once and kept, so it is right exactly as long as the
addresses it was built for are. -/

namespace Vmwgfx.Mob

open Lib

variable {a : Arch}

/-- The pages follow each other in one region. -/
def Contiguous (l : List (DmaAddr a)) : Prop :=
  l.IsChain (fun p q => q.val = p.val + PAGE_SIZE)

instance (l : List (DmaAddr a)) : Decidable (Contiguous l) :=
  inferInstanceAs (Decidable (List.IsChain _ l))

section Regions

theorem contiguous_of_length_le_one {l : List (DmaAddr a)} (h : l.length ≤ 1) : Contiguous l := by
  cases l with
  | nil => exact List.IsChain.nil
  | cons p l =>
    obtain rfl : l = [] := List.eq_nil_of_length_eq_zero (by
      rw [List.length_cons] at h
      omega)
    exact List.IsChain.singleton p

theorem countRegions_eq_zero (p : DmaAddr a) (l : List (DmaAddr a)) :
    countRegions p.val l = 0 ↔ Contiguous (p :: l) := by
  induction l generalizing p with
  | nil => simp [countRegions, Contiguous]
  | cons q l ih =>
    have hlt : p.val + PAGE_SIZE < 2 ^ 64 := by
      have := p.lt
      cases a <;> simp only [addrBits] at this ⊢ <;> omega
    have hrec : Contiguous (p :: q :: l) ↔ q.val = p.val + PAGE_SIZE ∧ Contiguous (q :: l) := by
      simp [Contiguous]
    rw [countRegions, Nat.mod_eq_of_lt hlt, hrec, ← ih]
    split
    · rename_i hne
      constructor
      · intro h
        omega
      · rintro ⟨heq, -⟩
        exact absurd heq hne
    · rename_i heq
      simp only [ne_eq, not_not] at heq
      simp [heq]

theorem numRegions_eq_one {p : DmaAddr a} {l : List (DmaAddr a)} :
    (vmwSgTable (p :: l)).numRegions = 1 ↔ Contiguous (p :: l) := by
  have hne : p.val ≠ (2 ^ 64 - 1 + PAGE_SIZE) % 2 ^ 64 := by
    obtain ⟨k, hk⟩ := p.aligned
    rw [hk]
    simp only [PAGE_SIZE]
    omega
  rw [← countRegions_eq_zero]
  simp only [vmwSgTable, countRegions, if_pos hne]
  omega

end Regions

section Denotes

theorem denotes_iff {pt : Option (PtBo a)} {cmd : DefineGbMob} {data : List (DmaAddr a)} :
    cmd.Denotes pt data ↔ ∀ i (h : i < data.length), cmd.page a pt i = some data[i].val := by
  unfold DefineGbMob.Denotes
  constructor
  · intro h i hi
    have := congrArg (fun l => l[i]?) h
    simpa [hi] using this
  · intro h
    apply List.ext_getElem
    · simp
    · intro i hi _
      simp only [List.length_map, List.length_range] at hi
      simpa using h i hi

/-- A memory object denotes one list of addresses only. -/
theorem denotes_unique {pt : Option (PtBo a)} {cmd : DefineGbMob} {data data' : List (DmaAddr a)}
    (hlen : data.length = data'.length) (h : cmd.Denotes pt data) (h' : cmd.Denotes pt data') :
    data = data' := by
  apply List.ext_getElem hlen
  intro i hi hi'
  have heq := (denotes_iff.mp h i hi).symm.trans (denotes_iff.mp h' i hi')
  apply vmwPpn_inj
  rw [Option.some.inj heq]

theorem range_page {pt : Option (PtBo a)} {cmd : DefineGbMob} (h : cmd.ptDepth = SVGA3D_MOBFMT_RANGE)
    (i : Nat) : cmd.page a pt i = some ((cmd.base + i) * PAGE_SIZE) := by
  rw [DefineGbMob.page, if_pos h]

theorem contiguous_of_range {pt : Option (PtBo a)} {cmd : DefineGbMob} {data : List (DmaAddr a)}
    (h : cmd.ptDepth = SVGA3D_MOBFMT_RANGE) (hden : cmd.Denotes pt data) : Contiguous data := by
  rw [Contiguous, List.isChain_iff_getElem]
  intro i hi
  have h₁ := (range_page h i).symm.trans (denotes_iff.mp hden i (by omega))
  have h₂ := (range_page h (i + 1)).symm.trans (denotes_iff.mp hden (i + 1) hi)
  rw [← Option.some.inj h₁, ← Option.some.inj h₂, ← Nat.add_assoc, Nat.succ_mul]

theorem range_denotes {pt : Option (PtBo a)} {cmd : DefineGbMob} {p : DmaAddr a}
    {l : List (DmaAddr a)} (h : cmd.ptDepth = SVGA3D_MOBFMT_RANGE) (hbase : cmd.base = vmwPpn a p.val)
    (hcont : Contiguous (p :: l)) : cmd.Denotes pt (p :: l) := by
  rw [denotes_iff]
  intro i hi
  rw [range_page h]
  induction i with
  | zero => rw [hbase, Nat.add_zero, vmwPpn_mul, List.getElem_cons_zero]
  | succ i ih =>
    have hprev := Option.some.inj (ih (by omega))
    have hnext := List.isChain_iff_getElem.mp hcont i hi
    rw [hnext, ← hprev, ← Nat.add_assoc, Nat.succ_mul]

theorem format_not_range {depth : Nat} (h : depth ≤ 2) :
    VMW_MOBFMT_PTDEPTH_0 a + depth ≠ SVGA3D_MOBFMT_RANGE := by
  cases a <;> simp only [VMW_MOBFMT_PTDEPTH_0, SVGA3D_MOBFMT_RANGE] <;> omega

/-- A table that covers the pages denotes them. -/
theorem table_denotes {pt : Option (PtBo a)} {cmd : DefineGbMob} {data : List (DmaAddr a)} {depth : Nat}
    (hdepth : depth ≤ 2) (hfmt : cmd.ptDepth = VMW_MOBFMT_PTDEPTH_0 a + depth)
    (hcov : Radix.Covers (fun p j => pt.bind (fun b => b.read p j)) (perPage a) depth [cmd.base]
      (ppns data)) : cmd.Denotes pt data := by
  rw [denotes_iff]
  intro i hi
  have hwalk := hcov.walk_root (i := i) (by simpa [ppns] using hi)
  have hsub : VMW_MOBFMT_PTDEPTH_0 a + depth - VMW_MOBFMT_PTDEPTH_0 a = depth := by omega
  rw [DefineGbMob.page, if_neg (hfmt ▸ format_not_range hdepth),
    if_pos (by rw [hfmt, VMW_MOBFMT_PTDEPTH_2]; omega), hfmt, hsub, hwalk]
  simp [ppns, vmwPpn_mul]

end Denotes

/-- The page table of the mob leads to the pages `data` it was built for, by a
level and a root that the mob has unless it was bound as a range since. -/
structure Built (mob : VmwMob a) (pt : PtBo a) (data : List (DmaAddr a)) : Prop where
  scattered : ¬ Contiguous data
  table : ∃ depth, ∃ root : DmaAddr a, depth ≤ 2 ∧
    Radix.Covers pt.read (perPage a) depth [vmwPpn a root.val] (ppns data) ∧
    (mob.ptLevel = SVGA3D_MOBFMT_RANGE ∨
      mob.ptLevel = VMW_MOBFMT_PTDEPTH_0 a + depth ∧ mob.ptRootPage = root.val)

/-- `table` is what the page table of the mob, if it has one, was built for. -/
structure MobInv (n : Nat) (mob : VmwMob a) (table : Option (List (DmaAddr a))) : Prop where
  numPages : mob.numPages = vmwMobCalculatePtPages a n
  built : ∀ pt, mob.ptBo = some pt → ∃ data, table = some data ∧ data.length = n ∧ Built mob pt data

theorem MobInv.fresh (n : Nat) (table : Option (List (DmaAddr a))) : MobInv n (vmwMobCreate a n) table :=
  ⟨rfl, fun _ h => nomatch h⟩

/-- What the page table is for after a bind: one that is new is for the
addresses of this bind. -/
def tableAfter (before after : Option (PtBo a)) (addrs : List (DmaAddr a))
    (table : Option (List (DmaAddr a))) : Option (List (DmaAddr a)) :=
  if after.isNone then none else if before.isSome then table else some addrs

/-- One region, no page table yet, or a page table for these addresses and no
bind of a single region since. -/
def TableReady (mob : VmwMob a) (table : Option (List (DmaAddr a))) (addrs : List (DmaAddr a)) : Prop :=
  Contiguous addrs ∨ mob.ptBo.isNone ∨ (table = some addrs ∧ mob.ptLevel ≠ SVGA3D_MOBFMT_RANGE)

section Bind

variable {mob mob' : VmwMob a} {table : Option (List (DmaAddr a))} {first : DmaAddr a}
  {rest : List (DmaAddr a)} {pt : Option (PtPages a)} {n : Nat} {setUp : Bool}

theorem vmwMobPtSetup_built {ptPages : PtPages a} {data : List (DmaAddr a)} (hscat : ¬ Contiguous data)
    (hpages : vmwMobCalculatePtPages a data.length ≤ ptPages.pages.length)
    (h : vmwMobPtSetup mob ptPages data = some mob') :
    mob'.numPages = mob.numPages ∧ ∃ bo depth, ∃ root : DmaAddr a, mob'.ptBo = some bo ∧ depth ≤ 2 ∧
      Radix.Covers bo.read (perPage a) depth [vmwPpn a root.val] (ppns data) ∧
      mob'.ptLevel = depth ∧ mob'.ptRootPage = root.val := by
  obtain ⟨⟨depth, save, e⟩, hloop, hrest⟩ := Option.bind_eq_some_iff.mp h
  obtain ⟨root, hroot, rfl⟩ := Option.map_eq_some_iff.mp hrest
  have hmany : 1 < data.length := by
    by_contra hle
    exact hscat (contiguous_of_length_le_one (by omega))
  have hne : data ≠ [] := by
    intro hnil
    rw [hnil] at hmany
    simp at hmany
  have hleaves : Radix.Covers (readEntries ptPages (fun _ _ => none)) (perPage a) 0 (ppns data)
      (ppns data) := Radix.covers_zero _
  obtain ⟨hle, d, hd, hcov⟩ := vmwMobPtLoop_covers hne
    (fun hone => absurd hmany hone) (fun _ _ _ => rfl) (by omega) hleaves hloop
  rw [hroot] at hd
  cases hd
  exact ⟨rfl, _, depth, root, rfl, by omega, hcov, rfl, rfl⟩

theorem Built.range {bo : PtBo a} {data : List (DmaAddr a)} (h : Built mob bo data) (root : Nat) :
    Built { mob with ptLevel := SVGA3D_MOBFMT_RANGE, ptRootPage := root } bo data := by
  obtain ⟨hscat, depth, d, hdepth, hcov, -⟩ := h
  exact ⟨hscat, depth, d, hdepth, hcov, .inl rfl⟩

/-- The command names the page table unless it names a range. -/
theorem Built.denotes {bo : PtBo a} {data : List (DmaAddr a)} (h : Built mob bo data)
    (hbo : mob.ptBo = some bo) (hlevel : mob.ptLevel ≠ SVGA3D_MOBFMT_RANGE) (id : Nat) :
    (defineGbMob mob n id).Denotes mob.ptBo data := by
  obtain ⟨-, depth, root, hdepth, hcov, hrange | ⟨hfmt, hroot⟩⟩ := h
  · exact absurd hrange hlevel
  · rw [hbo]
    apply table_denotes hdepth hfmt
    simp only [defineGbMob, hroot]
    exact hcov

theorem MobInv.no_table (hinv : MobInv n mob table) (hn : n ≤ 1) : mob.ptBo = none := by
  cases hbo : mob.ptBo with
  | none => rfl
  | some bo =>
    obtain ⟨data, -, hlen, hbuilt⟩ := hinv.built bo hbo
    exact absurd (contiguous_of_length_le_one (by omega)) hbuilt.scattered

theorem tableAfter_same (bo : Option (PtBo a)) (addrs : List (DmaAddr a)) {b : PtBo a} (h : bo = some b) :
    tableAfter bo bo addrs table = table := by
  simp [tableAfter, h]

theorem MobInv.same (hinv : MobInv n mob table) (addrs : List (DmaAddr a)) :
    MobInv n mob (tableAfter mob.ptBo mob.ptBo addrs table) := by
  refine ⟨hinv.numPages, ?_⟩
  intro bo hbo
  rw [tableAfter_same _ _ hbo]
  exact hinv.built bo hbo

/-- What a bind leaves, by the way it picked the level and the root. -/
theorem vmwMobPrepare_spec (hinv : MobInv n mob table) (hlen : (first :: rest).length = n)
    (h : vmwMobPrepare mob (vmwSgTable (first :: rest)) first n pt = some (.ok (mob', setUp))) :
    MobInv n mob' (tableAfter mob.ptBo mob'.ptBo (first :: rest) table) ∧
    (mob'.ptBo = mob.ptBo ∨ mob.ptBo = none ∧ setUp = true) ∧
    (setUp = true → mob.ptBo = none) ∧
    ∀ id, ((defineGbMob mob' n id).Denotes mob'.ptBo (first :: rest) ↔
      TableReady mob table (first :: rest)) := by
  unfold vmwMobPrepare at h
  split at h
  · rename_i hone
    cases h
    have hcont : Contiguous (first :: rest) := contiguous_of_length_le_one (by omega)
    have hnone : mob.ptBo = none := hinv.no_table (by omega)
    obtain rfl : rest = [] := List.eq_nil_of_length_eq_zero (by
      rw [List.length_cons] at hlen
      omega)
    refine ⟨⟨hinv.numPages, fun bo hbo => ?_⟩, .inl rfl, by simp, fun id => ?_⟩
    · rw [hnone] at hbo
      cases hbo
    · exact ⟨fun _ => .inl hcont, fun _ => table_denotes (by omega) rfl (Radix.covers_zero _)⟩
  · split at h
    · rename_i hregions
      cases h
      have hcont : Contiguous (first :: rest) := numRegions_eq_one.mp hregions
      refine ⟨⟨hinv.numPages, fun bo hbo => ?_⟩, .inl rfl, by simp, fun id => ?_⟩
      · obtain ⟨data, htable, hdata, hbuilt⟩ := hinv.built bo hbo
        exact ⟨data, (tableAfter_same _ _ hbo).trans htable, hdata, hbuilt.range _⟩
      · exact ⟨fun _ => .inl hcont, fun _ => range_denotes rfl rfl hcont⟩
    · rename_i hregions
      have hscat : ¬ Contiguous (first :: rest) := fun hcont => hregions (numRegions_eq_one.mpr hcont)
      split at h
      · rename_i hnone
        rw [Option.isNone_iff_eq_none] at hnone
        cases pt with
        | none => cases h
        | some ptPages =>
          simp only at h
          split at h
          · rename_i hpages
            obtain ⟨mob₁, hsetup, heq⟩ := Option.map_eq_some_iff.mp h
            cases heq
            rw [hinv.numPages, ← hlen] at hpages
            obtain ⟨hnum, bo, depth, root, hbo, hdepth, hcov, hlevel, hroot⟩ :=
              vmwMobPtSetup_built hscat (Nat.le_of_eq hpages.symm) hsetup
            have hbuilt : Built { mob₁ with
                ptLevel := mob₁.ptLevel + (VMW_MOBFMT_PTDEPTH_1 a - SVGA3D_MOBFMT_PTDEPTH_1) } bo
                (first :: rest) := by
              refine ⟨hscat, depth, root, hdepth, hcov, .inr ⟨?_, hroot⟩⟩
              simp only [hlevel, VMW_MOBFMT_PTDEPTH_1, SVGA3D_MOBFMT_PTDEPTH_1]
              omega
            refine ⟨⟨hnum.trans hinv.numPages, fun bo' hbo' => ?_⟩, .inr ⟨hnone, rfl⟩, fun _ => hnone,
              fun id => ?_⟩
            · cases hbo.symm.trans hbo'
              exact ⟨first :: rest, by simp [tableAfter, hbo, hnone], hlen, hbuilt⟩
            · refine ⟨fun _ => .inr (.inl (by rw [hnone]; rfl)), fun _ => ?_⟩
              apply hbuilt.denotes hbo
              simp only [hlevel, VMW_MOBFMT_PTDEPTH_1, SVGA3D_MOBFMT_PTDEPTH_1]
              have := format_not_range (a := a) hdepth
              omega
          · cases h
      · rename_i hsome
        cases h
        obtain ⟨bo, hbo⟩ : ∃ bo, mob.ptBo = some bo := by
          rw [← Option.isSome_iff_exists, Option.isSome_iff_ne_none]
          simpa using hsome
        obtain ⟨data, htable, hdata, hbuilt⟩ := hinv.built bo hbo
        refine ⟨hinv.same _, .inl rfl, by simp, fun id => ⟨fun hden => ?_, ?_⟩⟩
        · have hlevel : mob.ptLevel ≠ SVGA3D_MOBFMT_RANGE := by
            intro hrange
            have hdepth : (defineGbMob mob n id).ptDepth = SVGA3D_MOBFMT_RANGE := hrange
            exact hscat (contiguous_of_range hdepth hden)
          have heq := denotes_unique (by rw [hdata, hlen]) (hbuilt.denotes hbo hlevel id) hden
          exact .inr (.inr ⟨htable.trans (congrArg some heq), hlevel⟩)
        · rintro (hcont | hnone | ⟨hfor, hlevel⟩)
          · exact absurd hcont hscat
          · exact absurd hnone hsome
          · cases htable.symm.trans hfor
            exact hbuilt.denotes hbo hlevel id

theorem vmwMobBind_spec {addrs : List (DmaAddr a)} {id : Nat} {fifo : Bool} {ret : Int}
    {cmd : Option DefineGbMob} (hinv : MobInv n mob table) (hlen : addrs.length = n)
    (h : vmwMobBind mob (vmwSgTable addrs) n id pt fifo = some (ret, mob', cmd)) :
    MobInv n mob' (tableAfter mob.ptBo mob'.ptBo addrs table) ∧
    ∀ c, cmd = some c → (c.Denotes mob'.ptBo addrs ↔ TableReady mob table addrs) := by
  have hinv' : MobInv n { mob with id := id } table := by
    refine ⟨hinv.numPages, fun bo hbo => ?_⟩
    obtain ⟨data, htable, hdata, hbuilt⟩ := hinv.built bo hbo
    exact ⟨data, htable, hdata, hbuilt.scattered, hbuilt.table⟩
  cases addrs with
  | nil =>
    cases h
    exact ⟨hinv'.same [], fun c hc => nomatch hc⟩
  | cons first rest =>
    obtain ⟨out, hprep, hout⟩ := Option.map_eq_some_iff.mp h
    cases out with
    | error ret =>
      cases hout
      exact ⟨hinv'.same _, fun c hc => nomatch hc⟩
    | ok out =>
      obtain ⟨mob₁, setUp⟩ := out
      obtain ⟨hmob, -, hset, hden⟩ := vmwMobPrepare_spec hinv' hlen hprep
      simp only at hout
      split at hout
      · cases hout
        refine ⟨hmob, ?_⟩
        rintro c ⟨⟩
        exact hden id
      · cases hout
        refine ⟨?_, fun c hc => nomatch hc⟩
        -- a table that was set up in this bind is given back
        cases setUp with
        | true => exact ⟨hmob.numPages, fun bo hbo => nomatch hbo⟩
        | false => exact hmob

end Bind

/-- A backend with what its page table, if it has one, was built for. -/
structure Tracked (a : Arch) where
  be : VmwTtmBackend a
  table : Option (List (DmaAddr a))

def Tracked.create : Tracked a := { be := vmwTtmCreate, table := none }

def Tracked.step (mode : MapMode) (t : Tracked a) (act : Action a) : Option (Tracked a) :=
  (Mob.step mode t.be act).map fun be =>
    { be, table := tableAfter t.be.ptBo be.ptBo be.vsgt.addrs t.table }

/-- The addresses of the data pages that a bind sees: a mapping is kept until
it is dropped. -/
def mappingOf (mode : MapMode) (be : VmwTtmBackend a) (b : BindRequest a) : List (DmaAddr a) :=
  if be.mapped then be.vsgt.addrs
  else match mode with
    | .phys | .allocCoherent => be.pages.getD []
    | .mapPopulate | .mapBind => b.mapping.getD []

/-- The mob has a page table that is not for these scattered addresses, or that
a bind as a range has put out of use: no bind of this kind. -/
def BindReady (mode : MapMode) (t : Tracked a) (b : BindRequest a) : Prop :=
  Contiguous (mappingOf mode t.be b) ∨ t.be.ptBo = none ∨
    (t.table = some (mappingOf mode t.be b) ∧
      ∀ mob, t.be.mob = some mob → mob.ptLevel ≠ SVGA3D_MOBFMT_RANGE)

structure Inv (t : Tracked a) : Prop where
  unpopulated : t.be.pages = none → t.be.mob = none ∧ t.be.mapped = false
  mapped : t.be.mapped = true →
    t.be.vsgt = vmwSgTable t.be.vsgt.addrs ∧ t.be.vsgt.addrs.length = t.be.numPages
  mob : ∀ mob, t.be.mob = some mob → MobInv t.be.numPages mob t.table

section Run

variable {mode : MapMode} {t t' : Tracked a} {b : BindRequest a}

theorem Inv.create : Inv (Tracked.create : Tracked a) :=
  ⟨fun _ => ⟨rfl, rfl⟩, fun h => (nomatch h), fun _ h => nomatch h⟩

/-- A mapping touches nothing but the scatter table. -/
structure Mapped (be be' : VmwTtmBackend a) (addrs : List (DmaAddr a)) : Prop where
  pages : be'.pages = be.pages
  mob : be'.mob = be.mob
  vsgt : be'.vsgt = vmwSgTable addrs
  mapped : be'.mapped = true
  length : addrs.length = be.numPages

theorem vmwTtmMapDma_spec {ret : Int} {be' : VmwTtmBackend a} (hinv : Inv t)
    (h : vmwTtmMapDma mode t.be b.mapping = some (ret, be')) :
    (ret ≠ 0 ∧ be' = t.be) ∨ (ret = 0 ∧ Mapped t.be be' (mappingOf mode t.be b)) := by
  unfold vmwTtmMapDma at h
  unfold mappingOf
  split at h
  · rename_i hmapped
    cases h
    obtain ⟨hvsgt, hlen⟩ := hinv.mapped hmapped
    rw [if_pos hmapped]
    exact .inr ⟨rfl, rfl, rfl, hvsgt, hmapped, hlen⟩
  · rename_i hmapped
    rw [if_neg hmapped]
    cases mode with
    | phys =>
      cases h
      exact .inr ⟨rfl, rfl, rfl, rfl, rfl, rfl⟩
    | allocCoherent =>
      simp only at h
      split at h
      · rename_i hzero
        cases h
        have hnil : t.be.pages.getD [] = [] := List.eq_nil_of_length_eq_zero hzero
        exact .inr ⟨rfl, rfl, rfl, by rw [hnil], rfl, rfl⟩
      · cases h
    | mapPopulate | mapBind =>
      simp only at h
      cases hm : b.mapping with
      | none =>
        rw [hm] at h
        cases h
        exact .inl ⟨by decide, rfl⟩
      | some l =>
        rw [hm] at h
        simp only at h
        split at h
        · rename_i hlen
          cases h
          exact .inr ⟨rfl, rfl, rfl, rfl, rfl, hlen⟩
        · cases h

theorem Inv.map {be' : VmwTtmBackend a} {addrs : List (DmaAddr a)} (hinv : Inv t)
    (h : Mapped t.be be' addrs) (hpages : t.be.pages ≠ none) : Inv { be := be', table := t.table } := by
  obtain ⟨hp, hm, hvsgt, -, hlen⟩ := h
  have hnum : be'.numPages = t.be.numPages := by rw [VmwTtmBackend.numPages, hp]; rfl
  refine ⟨fun hnone => absurd (hp.symm.trans hnone) hpages, fun _ => ?_, fun mob hmob => ?_⟩
  · rw [hvsgt, hnum]
    exact ⟨rfl, hlen⟩
  · rw [hnum]
    exact hinv.mob mob (hm ▸ hmob)

theorem Inv.table_of_none (hinv : Inv t) (hmob : t.be.mob = none) (table : Option (List (DmaAddr a))) :
    Inv { t with table := table } :=
  ⟨hinv.unpopulated, hinv.mapped, fun mob h => by
    rw [hmob] at h
    cases h⟩

/-- What a bind does with the mob it found, or with the one it created. -/
theorem bind_mob {mob mob' : VmwMob a} {ret : Int} {cmd : Option DefineGbMob} (hinv : Inv t)
    (hmapped : t.be.mapped = true) (hmob : MobInv t.be.numPages mob t.table)
    (h : vmwMobBind mob t.be.vsgt t.be.numPages b.start b.ptPages b.fifo = some (ret, mob', cmd)) :
    Inv { be := { t.be with mob := some mob' }
          table := tableAfter mob.ptBo mob'.ptBo t.be.vsgt.addrs t.table } ∧
    ∀ c, cmd = some c → (c.Denotes mob'.ptBo t.be.vsgt.addrs ↔ TableReady mob t.table t.be.vsgt.addrs) := by
  obtain ⟨hvsgt, hlen⟩ := hinv.mapped hmapped
  rw [hvsgt] at h
  obtain ⟨hmob', hden⟩ := vmwMobBind_spec hmob hlen h
  refine ⟨⟨fun hnone => ?_, fun _ => ⟨hvsgt, hlen⟩, ?_⟩, hden⟩
  · rw [(hinv.unpopulated hnone).2] at hmapped
    cases hmapped
  · rintro mob₂ ⟨⟩
    exact hmob'

/-- Dropping the mapping leaves the mob and its page table alone. -/
theorem Inv.frame {be : VmwTtmBackend a} {addrs : List (DmaAddr a)} (hinv : Inv t)
    (hpages : be.pages = t.be.pages) (hmob : be.mob = t.be.mob) (hvsgt : be.vsgt = t.be.vsgt)
    (hmapped : be.mapped = true → t.be.mapped = true) :
    Inv { be, table := tableAfter t.be.ptBo be.ptBo addrs t.table } := by
  have hnum : be.numPages = t.be.numPages := by rw [VmwTtmBackend.numPages, hpages]; rfl
  refine ⟨fun hnone => ?_, fun hm => ?_, fun mob (hm : be.mob = some mob) => ?_⟩
  · obtain ⟨hm, hmap⟩ := hinv.unpopulated (hpages.symm.trans hnone)
    refine ⟨hmob.trans hm, ?_⟩
    by_contra hmapped'
    rw [hmapped (by simpa using hmapped')] at hmap
    cases hmap
  · rw [hvsgt, hnum]
    exact hinv.mapped (hmapped hm)
  · have hbo : t.be.ptBo = mob.ptBo := by simp [VmwTtmBackend.ptBo, ← hmob, hm]
    have hbo' : be.ptBo = mob.ptBo := by simp [VmwTtmBackend.ptBo, hm]
    simp only [hbo, hbo', hnum]
    exact (hinv.mob mob (hmob ▸ hm)).same addrs

theorem vmwTtmBind_spec {ret : Int} {be' : VmwTtmBackend a} {cmd : Option DefineGbMob} (hinv : Inv t)
    (h : vmwTtmBind mode t.be b = some (ret, be', cmd)) :
    Inv { be := be', table := tableAfter t.be.ptBo be'.ptBo be'.vsgt.addrs t.table } ∧
    ∀ c, cmd = some c → (c.Denotes be'.ptBo be'.vsgt.addrs ↔ BindReady mode t b) := by
  have hsame : ∀ addrs, Inv { t with table := tableAfter t.be.ptBo t.be.ptBo addrs t.table } :=
    fun addrs => hinv.frame rfl rfl rfl id
  unfold vmwTtmBind at h
  split at h
  · cases h
  · rename_i hpop
    obtain ⟨⟨ret₁, be₁⟩, hmap, hrest⟩ := Option.bind_eq_some_iff.mp h
    simp only at hrest
    rcases vmwTtmMapDma_spec hinv hmap with ⟨hret, rfl⟩ | ⟨hret, hm⟩
    · rw [if_pos hret] at hrest
      cases hrest
      exact ⟨hsame _, fun c hc => nomatch hc⟩
    · rw [if_neg (not_not.mpr hret)] at hrest
      have hinv₁ := hinv.map hm (by simpa using hpop)
      have haddrs : be₁.vsgt.addrs = mappingOf mode t.be b := by rw [hm.vsgt]; rfl
      cases hmob : be₁.mob with
      | none =>
        have hmob₀ : t.be.mob = none := hm.mob.symm.trans hmob
        rw [hmob] at hrest
        simp only at hrest
        split at hrest
        · obtain ⟨⟨ret₂, mob₂, cmd₂⟩, hbind, heq⟩ := Option.map_eq_some_iff.mp hrest
          cases heq
          obtain ⟨hinv₂, hden⟩ := bind_mob hinv₁ hm.mapped (MobInv.fresh _ _) hbind
          have hbo : t.be.ptBo = none := by simp [VmwTtmBackend.ptBo, hmob₀]
          refine ⟨?_, fun c hc => ?_⟩
          · rw [hbo]
            exact hinv₂
          · rw [BindReady, hbo]
            exact (hden c hc).trans ⟨fun _ => .inr (.inl rfl), fun _ => .inr (.inl rfl)⟩
        · cases hrest
          exact ⟨hinv₁.table_of_none hmob _, fun c hc => nomatch hc⟩
      | some mob =>
        have hmob₀ : t.be.mob = some mob := hm.mob.symm.trans hmob
        have hbo : t.be.ptBo = mob.ptBo := by simp [VmwTtmBackend.ptBo, hmob₀]
        rw [hmob] at hrest
        obtain ⟨⟨ret₂, mob₂, cmd₂⟩, hbind, heq⟩ := Option.map_eq_some_iff.mp hrest
        cases heq
        obtain ⟨hinv₂, hden⟩ := bind_mob hinv₁ hm.mapped (hinv₁.mob mob hmob) hbind
        refine ⟨?_, fun c hc => ?_⟩
        · rw [hbo]
          exact hinv₂
        · rw [BindReady, hbo, ← haddrs]
          refine (hden c hc).trans ?_
          simp only [TableReady, hmob₀, Option.some.injEq, forall_eq', Option.isNone_iff_eq_none]

theorem Inv.step {act : Action a} (hinv : Inv t) (h : Tracked.step mode t act = some t') : Inv t' := by
  obtain ⟨be, hstep, rfl⟩ := Option.map_eq_some_iff.mp h
  cases act with
  | populate pages =>
    simp only [Mob.step, vmwTtmPopulate] at hstep
    split at hstep
    · rename_i hnone
      cases hstep
      obtain ⟨hmob, hmapped⟩ := hinv.unpopulated (Option.isNone_iff_eq_none.mp hnone)
      refine ⟨fun hpages => (nomatch hpages), fun hm => ?_, fun mob hm => ?_⟩
      · exact absurd (hmapped.symm.trans hm) (by decide)
      · exact absurd (hmob.symm.trans hm) (by simp)
    · cases hstep
  | bind b =>
    obtain ⟨⟨ret, be, cmd⟩, hbind, rfl⟩ := Option.map_eq_some_iff.mp hstep
    exact (vmwTtmBind_spec hinv hbind).1
  | unbind fifo =>
    simp only [Mob.step, vmwTtmUnbind] at hstep
    split at hstep
    · cases hstep
    · have hrest : be.pages = t.be.pages ∧ be.mob = t.be.mob ∧ be.vsgt = t.be.vsgt ∧
          (be.mapped = true → t.be.mapped = true) := by
        split at hstep <;> cases hstep
        · exact ⟨rfl, rfl, rfl, fun hm => nomatch hm⟩
        · exact ⟨rfl, rfl, rfl, id⟩
      obtain ⟨hpages, hmob, hvsgt, hmapped⟩ := hrest
      exact hinv.frame hpages hmob hvsgt hmapped
  | clear =>
    cases hstep
    exact ⟨fun _ => ⟨rfl, rfl⟩, fun hm => (nomatch hm), fun _ hm => nomatch hm⟩

theorem Inv.run {acts : List (Action a)}
    (hrun : Run (Tracked.step mode) (fun _ _ => True) Tracked.create acts t) : Inv t :=
  hrun.invariant (fun _ _ _ _ hstep h => h.step hstep) Inv.create

/-- After any history of one backend, the command of a bind denotes the data
pages exactly when the bind does not fall back on a page table for other
addresses, or on one that a bind as a range has put out of use. -/
theorem define_denotes_iff {acts : List (Action a)} {ret : Int} {be' : VmwTtmBackend a} {cmd : DefineGbMob}
    (hrun : Run (Tracked.step mode) (fun _ _ => True) Tracked.create acts t)
    (hbind : vmwTtmBind mode t.be b = some (ret, be', some cmd)) :
    cmd.Denotes be'.ptBo be'.vsgt.addrs ↔ BindReady mode t b :=
  (vmwTtmBind_spec (Inv.run hrun) hbind).2 cmd rfl

end Run

section Stale

private theorem dma_lt {val : Nat} (h : val < 0x10000) : val + PAGE_SIZE < 2 ^ addrBits .bits64 := by
  simp only [PAGE_SIZE, addrBits]
  omega

private def dma (val : Nat) (h : PAGE_SIZE ∣ val ∧ val < 0x10000) : DmaAddr .bits64 :=
  ⟨val, h.1, dma_lt h.2⟩

private def near : List (DmaAddr .bits64) := [dma 0x1000 (by decide), dma 0x3000 (by decide)]

private def far : List (DmaAddr .bits64) := [dma 0x5000 (by decide), dma 0x7000 (by decide)]

private def request (mapping : List (DmaAddr .bits64)) : BindRequest .bits64 :=
  { start := 1, mapping := some mapping, mobAllocated := true
    ptPages := some ⟨[dma 0xc000 (by decide)], List.nodup_singleton _⟩, fifo := true }

/-- Two pages are bound and unbound. -/
private def unbound : List (Action .bits64) := [.populate near, .bind (request near), .unbind true]

/-- A second mapping of the two pages elsewhere is bound by the addresses of the first. -/
theorem table_stale : ¬ ∀ (mode : MapMode) (acts : List (Action .bits64)) (t : Tracked .bits64)
    (b : BindRequest .bits64) (be' : VmwTtmBackend .bits64) (cmd : DefineGbMob),
    Run (Tracked.step mode) (fun _ _ => True) Tracked.create acts t →
    vmwTtmBind mode t.be b = some (0, be', some cmd) → cmd.Denotes be'.ptBo be'.vsgt.addrs := by
  intro h
  have hrun : Run (Tracked.step .mapBind) (fun _ _ => True) Tracked.create unbound _ :=
    .cons trivial rfl (.cons trivial rfl (.cons trivial rfl (.nil _)))
  have hden := h .mapBind unbound _ (request far) _ _ hrun rfl
  revert hden
  decide

theorem define_denotes_iff_unbound : ∃ (t : Tracked .bits64) (be' : VmwTtmBackend .bits64) (cmd : DefineGbMob),
    vmwTtmBind .mapBind t.be (request near) = some (0, be', some cmd) ∧
    (cmd.Denotes be'.ptBo be'.vsgt.addrs ↔ BindReady .mapBind t (request near)) := by
  have hrun : Run (Tracked.step .mapBind) (fun _ _ => True) Tracked.create unbound _ :=
    .cons trivial rfl (.cons trivial rfl (.cons trivial rfl (.nil _)))
  exact ⟨_, _, _, rfl, define_denotes_iff hrun rfl⟩

end Stale

end Vmwgfx.Mob
