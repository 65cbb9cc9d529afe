import Vmwgfx.Cmdbuf.Compat
import Mathlib.Tactic.Tauto

/-! Compat shaders implement a map from shader type and user key to shader. -/

namespace Vmwgfx.Cmdbuf

open Vmwgfx.Hashtab

variable {hashLong : HashLong}

/-- What the managers are for: a map for each of them, and the references to the
shaders that others than the managers hold. -/
structure ShaderMap where
  map : ManId → UInt32 → UInt32 → Option ResId
  nextRes : ResId
  ext : Krefs

namespace ShaderMap

def set (σ : ShaderMap) (m : ManId) (userKey shaderType : UInt32) (r : Option ResId) :
    ShaderMap :=
  { σ with
    map := fun m' t k =>
      if m' = m ∧ t = shaderType ∧ k = userKey then r else σ.map m' t k }

@[simp]
theorem map_set (σ : ShaderMap) (m m' : ManId) (k t k' t' : UInt32) (r : Option ResId) :
    (σ.set m k t r).map m' t' k' =
      if m' = m ∧ t' = t ∧ k' = k then r else σ.map m' t' k' :=
  rfl

/-- One operation, on the map. -/
def step (σ : ShaderMap) : ShaderOp → Reply × ShaderMap
  | .add o m userKey shaderType =>
    if !vmwCompatShaderIdOk userKey shaderType then (.ret (-EINVAL), σ)
    else if !o.buf then (.ret (-ENOMEM), σ)
    else if o.init ≠ 0 then (.ret o.init, σ)
    else if o.reserve ≠ 0 then (.ret o.reserve, σ)
    else if o.kmap ≠ 0 then (.ret o.kmap, σ)
    else if o.validate ≠ 0 then
      -- nobody drops the reference of the new shader
      (.ret o.validate,
        if o.shader then
          { σ with nextRes := σ.nextRes + 1, ext := Function.update σ.ext σ.nextRes 1 }
        else σ)
    else if !o.entry then (.ret (-ENOMEM), { σ with nextRes := σ.nextRes + 1 })
    else
      match σ.map m shaderType userKey with
      | some _ => (.ret (-EINVAL), { σ with nextRes := σ.nextRes + 1 })
      | none =>
        (.ret 0,
          { σ.set m userKey shaderType (some σ.nextRes) with nextRes := σ.nextRes + 1 })
  | .remove m userKey shaderType =>
    if !vmwCompatShaderIdOk userKey shaderType then (.ret (-EINVAL), σ)
    else
      match σ.map m shaderType userKey with
      | none => (.ret (-EINVAL), σ)
      | some _ => (.ret 0, σ.set m userKey shaderType none)
  | .lookup m userKey shaderType =>
    if !vmwCompatShaderIdOk userKey shaderType then (.ptr (.error (-EINVAL)), σ)
    else
      match σ.map m shaderType userKey with
      | none => (.ptr (.error (-EINVAL)), σ)
      | some r => (.ptr (.ok r), { σ with ext := vmwResourceReference σ.ext r })

def run (σ : ShaderMap) : List ShaderOp → List Reply × ShaderMap
  | [] => ([], σ)
  | op :: ops =>
    let (reply, σ) := σ.step op
    let (replies, σ) := σ.run ops
    (reply :: replies, σ)

/-- The map the managers hold, when `ext` counts the references of others. -/
def ofWorld (s : ShaderWorld hashLong) (ext : Krefs) : ShaderMap where
  map := fun m shaderType userKey =>
    if vmwCompatShaderIdOk userKey shaderType then
      (s.world.bindings (m, compatHashKey userKey shaderType)).map Prod.snd
    else none
  nextRes := s.nextRes
  ext := ext

end ShaderMap

/-- The addition hands the error pointer of a failed `vmw_shader_alloc` on. -/
def ShaderOp.derefsErrPtr : ShaderOp → Bool
  | .add o _ userKey shaderType =>
    vmwCompatShaderIdOk userKey shaderType && o.buf && o.init = 0 && o.reserve = 0 &&
      o.kmap = 0 && o.validate = 0 && !o.shader
  | _ => false

/-- The entries that hold a reference to their resource. -/
def Held (w : World hashLong) (i : EntryId) : Prop := i ∈ w.staged ∨ ∃ m, i ∈ w.list m

/-- Every entry has a resource of its own and holds one reference to it, on top of
the references `ext` of others. -/
structure Refs (w : World hashLong) (nextRes : ResId) (ext : Krefs) : Prop where
  unique : ∀ {i j}, Held w i → Held w j → (w.entry i).res = (w.entry j).res → i = j
  bound : ∀ {i}, Held w i → (w.entry i).res < nextRes
  held : ∀ {i}, Held w i → w.kref (w.entry i).res = ext (w.entry i).res + 1
  free : ∀ {r}, (∀ i, Held w i → (w.entry i).res ≠ r) → w.kref r = ext r
  fresh : ∀ r, nextRes ≤ r → ext r = 0

namespace Refs

variable {w w' : World hashLong} {nextRes : ResId} {ext : Krefs}

/-- References taken and dropped by others than the managers. -/
theorem others (h : Refs w nextRes ext) {nextRes' : ResId} {kref ext' : Krefs}
    (hle : nextRes ≤ nextRes')
    (hsame : ∀ r, kref r + ext r = w.kref r + ext' r)
    (hfresh : ∀ r, nextRes' ≤ r → ext' r = 0) :
    Refs { w with kref := kref } nextRes' ext' where
  unique := h.unique
  bound := fun hi => Nat.lt_of_lt_of_le (h.bound hi) hle
  held := by
    intro i hi
    have hs := hsame (w.entry i).res
    rw [h.held hi] at hs
    change kref (w.entry i).res = ext' (w.entry i).res + 1
    omega
  free := by
    intro r hr
    have hs := hsame r
    rw [h.free hr] at hs
    change kref r = ext' r
    omega
  fresh := hfresh

/-- A new entry takes a reference to a resource no entry holds. -/
theorem add (h : Refs w nextRes ext) {r : ResId} (hr : r < nextRes)
    (hfree : ∀ i, Held w i → (w.entry i).res ≠ r) (hnew : ¬ Held w w.next)
    {e : CmdbufRes} (he : e.res = r) (hlist : w'.list = w.list)
    (hstaged : w'.staged = w.staged ++ [w.next])
    (hentry : w'.entry = Function.update w.entry w.next e)
    (hkref : w'.kref = vmwResourceReference w.kref r) : Refs w' nextRes ext := by
  have hheld : ∀ {i}, Held w' i → i = w.next ∨ (Held w i ∧ i ≠ w.next) := by
    intro i hi
    by_cases hin : i = w.next
    · exact .inl hin
    · refine .inr ⟨?_, hin⟩
      simpa [Held, hstaged, hlist, hin] using hi
  have hself : w'.entry w.next = e := by rw [hentry, Function.update_self]
  have hother : ∀ {i}, i ≠ w.next → w'.entry i = w.entry i := by
    intro i hi
    rw [hentry, Function.update_of_ne hi]
  refine
    { unique := ?_
      bound := ?_
      held := ?_
      free := ?_
      fresh := h.fresh }
  · intro i j hi hj hij
    rcases hheld hi with rfl | ⟨hi, hin⟩ <;> rcases hheld hj with rfl | ⟨hj, hjn⟩
    · rfl
    · rw [hself, hother hjn, he] at hij
      exact absurd hij.symm (hfree j hj)
    · rw [hself, hother hin, he] at hij
      exact absurd hij (hfree i hi)
    · rw [hother hin, hother hjn] at hij
      exact h.unique hi hj hij
  · intro i hi
    rcases hheld hi with rfl | ⟨hi, hin⟩
    · rwa [hself, he]
    · rw [hother hin]
      exact h.bound hi
  · intro i hi
    rw [hkref, vmwResourceReference_apply]
    rcases hheld hi with rfl | ⟨hi, hin⟩
    · rw [hself, he, h.free hfree, if_pos rfl]
    · rw [hother hin, h.held hi, if_neg (hfree i hi).symm]
  · intro r' hr'
    have hne : r ≠ r' := by
      intro heq
      have hin : Held w' w.next := .inl (by simp [hstaged])
      exact hr' _ hin (by rw [hself, he, heq])
    rw [hkref, vmwResourceReference_apply, if_neg hne]
    apply h.free
    intro i hi
    have hin : i ≠ w.next := fun heq => hnew (heq ▸ hi)
    rw [← hother hin]
    apply hr'
    simpa [Held, hstaged, hlist, hin] using hi

/-- An entry goes away with its reference. -/
theorem drop (h : Refs w nextRes ext) {i : EntryId} (hi : Held w i)
    (hheld : ∀ j, Held w' j ↔ j ≠ i ∧ Held w j) (hentry : w'.entry = w.entry)
    (hkref : w'.kref = vmwResourceUnreference w.kref (w.entry i).res) :
    Refs w' nextRes ext := by
  refine
    { unique := ?_
      bound := ?_
      held := ?_
      free := ?_
      fresh := h.fresh }
  · intro j k hj hk hjk
    rw [hentry] at hjk
    exact h.unique ((hheld j).mp hj).2 ((hheld k).mp hk).2 hjk
  · intro j hj
    rw [hentry]
    exact h.bound ((hheld j).mp hj).2
  · intro j hj
    obtain ⟨hji, hj⟩ := (hheld j).mp hj
    have hne : (w.entry i).res ≠ (w.entry j).res := fun heq => hji (h.unique hi hj heq).symm
    rw [hentry, hkref, vmwResourceUnreference_apply, if_neg hne]
    exact h.held hj
  · intro r hr
    rw [hkref, vmwResourceUnreference_apply]
    split_ifs with hir
    · rw [← hir, h.held hi, Nat.add_sub_cancel]
    · apply h.free
      intro j hj hjr
      by_cases hji : j = i
      · exact hir (hji ▸ hjr)
      · exact hr j ((hheld j).mpr ⟨hji, hj⟩) (by rw [hentry, hjr])

/-- Entries move between lists and states. -/
theorem move (h : Refs w nextRes ext) (hheld : ∀ j, Held w' j ↔ Held w j)
    (hentry : ∀ j, (w'.entry j).res = (w.entry j).res) (hkref : w'.kref = w.kref) :
    Refs w' nextRes ext where
  unique := by
    intro i j hi hj hij
    rw [hentry, hentry] at hij
    exact h.unique ((hheld i).mp hi) ((hheld j).mp hj) hij
  bound := by
    intro i hi
    rw [hentry]
    exact h.bound ((hheld i).mp hi)
  held := by
    intro i hi
    rw [hentry, hkref]
    exact h.held ((hheld i).mp hi)
  free := by
    intro r hr
    rw [hkref]
    apply h.free
    intro i hi
    rw [← hentry]
    exact hr i ((hheld i).mpr hi)
  fresh := h.fresh

end Refs

/-- The managers in `s` hold the map `σ`, in the middle of a batch from `w₀`. -/
structure Holds (w₀ : World hashLong) (s : ShaderWorld hashLong) (σ : ShaderMap) : Prop where
  batch : Batch w₀ s.world
  refs : Refs s.world s.nextRes σ.ext
  nextRes : s.nextRes = σ.nextRes
  map : ∀ {m k t}, vmwCompatShaderIdOk k t →
    (s.world.bindings (m, compatHashKey k t)).map Prod.snd = σ.map m t k
  rest : ∀ {l}, (∀ k t, vmwCompatShaderIdOk k t → l.2 ≠ compatHashKey k t) →
    s.world.bindings l = w₀.bindings l

theorem Batch.others {w₀ w : World hashLong} (h : Batch w₀ w) (kref : Krefs) :
    Batch w₀ { w with kref := kref } :=
  { h with }

namespace Holds

variable {w₀ : World hashLong} {s : ShaderWorld hashLong} {σ : ShaderMap}

/-- Calls that only touch others' references leave the map alone. -/
theorem others (h : Holds w₀ s σ) (nextRes : ResId) (kref ext : Krefs)
    (hle : s.nextRes ≤ nextRes) (hsame : ∀ r, kref r + σ.ext r = s.world.kref r + ext r)
    (hfresh : ∀ r, nextRes ≤ r → ext r = 0) :
    Holds w₀ ⟨{ s.world with kref := kref }, nextRes⟩
      { σ with nextRes := nextRes, ext := ext } where
  batch := h.batch.others kref
  refs := h.refs.others hle hsame hfresh
  nextRes := rfl
  map := h.map
  rest := h.rest

theorem alloc (h : Holds w₀ s σ) :
    Holds w₀ (vmwShaderAlloc s true).2
      { σ with nextRes := σ.nextRes + 1, ext := Function.update σ.ext σ.nextRes 1 } := by
  have hnone : ∀ i, Held s.world i → (s.world.entry i).res ≠ s.nextRes :=
    fun i hi => Nat.ne_of_lt (h.refs.bound hi)
  have hzero : σ.ext s.nextRes = 0 := h.refs.fresh _ (le_refl _)
  rw [← h.nextRes]
  refine h.others _ _ _ (Nat.le_succ _) ?_ ?_
  · intro r
    by_cases hr : r = s.nextRes
    · subst hr
      rw [Function.update_self, Function.update_self, h.refs.free hnone]
      exact Nat.add_comm _ _
    · rw [Function.update_of_ne hr, Function.update_of_ne hr]
  · intro r hr
    rw [Function.update_of_ne (Nat.ne_of_gt hr)]
    exact h.refs.fresh r (Nat.le_of_succ_le hr)

/-- The creator of a shader drops its own reference. -/
theorem unref (h : Holds w₀ s σ) {r : ResId} (hr : σ.ext r ≠ 0) :
    Holds w₀ { s with world := s.world.unref r }
      { σ with ext := vmwResourceUnreference σ.ext r } := by
  have hnext := h.nextRes
  have hpos : σ.ext r ≤ s.world.kref r := by
    by_cases hex : ∃ i, Held s.world i ∧ (s.world.entry i).res = r
    · obtain ⟨i, hi, hir⟩ := hex
      rw [← hir, h.refs.held hi]
      exact Nat.le_succ _
    · rw [h.refs.free (fun i hi hir => hex ⟨i, hi, hir⟩)]
  have hgoal := h.others s.nextRes (vmwResourceUnreference s.world.kref r)
    (vmwResourceUnreference σ.ext r) (le_refl _) ?_ ?_
  · rw [hnext] at hgoal
    simpa [World.unref, hnext] using hgoal
  · intro r'
    rw [vmwResourceUnreference_apply, vmwResourceUnreference_apply]
    split_ifs with hrr
    · subst hrr
      omega
    · rfl
  · intro r' hr'
    rw [vmwResourceUnreference_apply, h.refs.fresh r' hr', Nat.zero_sub]

theorem map_congr (h : Holds w₀ s σ) {w' : World hashLong} {m : ManId} {k t : UInt32}
    {v : Option (Holder × ResId)} (hok : vmwCompatShaderIdOk k t)
    (hb : w'.bindings = Function.update s.world.bindings (m, compatHashKey k t) v)
    {m' : ManId} {k' t' : UInt32} (hok' : vmwCompatShaderIdOk k' t') :
    (w'.bindings (m', compatHashKey k' t')).map Prod.snd =
      (σ.set m k t (v.map Prod.snd)).map m' t' k' := by
  rw [hb, Function.update_apply, ShaderMap.map_set]
  by_cases heq : m' = m ∧ t' = t ∧ k' = k
  · obtain ⟨rfl, rfl, rfl⟩ := heq
    simp
  · rw [if_neg heq, if_neg]
    · exact h.map hok'
    · intro hl
      obtain ⟨hm, hkey⟩ := Prod.mk.inj hl
      obtain ⟨hk, ht⟩ := compatHashKey_injective hok' hok hkey
      exact heq ⟨hm, ht, hk⟩

theorem rest_congr (h : Holds w₀ s σ) {w' : World hashLong} {m : ManId} {k t : UInt32}
    {v : Option (Holder × ResId)} (hok : vmwCompatShaderIdOk k t)
    (hb : w'.bindings = Function.update s.world.bindings (m, compatHashKey k t) v)
    {l : ManId × Nat} (hl : ∀ k t, vmwCompatShaderIdOk k t → l.2 ≠ compatHashKey k t) :
    w'.bindings l = w₀.bindings l := by
  rw [hb, Function.update_of_ne]
  · exact h.rest hl
  · intro heq
    exact hl k t hok (congrArg Prod.snd heq)

/-- The map says whether a key is taken. -/
theorem slot_eq_none_iff (h : Holds w₀ s σ) {m : ManId} {k t : UInt32}
    (hok : vmwCompatShaderIdOk k t) :
    s.world.slot (m, compatHashKey k t) = none ↔ σ.map m t k = none := by
  rw [← h.map hok, Option.map_eq_none_iff, bindings_eq_none_iff]

theorem add_of_map_eq_none (h : Holds w₀ s σ) {m : ManId} {k t : UInt32}
    (hok : vmwCompatShaderIdOk k t) (hnone : σ.map m t k = none) {r : ResId}
    (hr : r < s.nextRes) (hfree : ∀ i, Held s.world i → (s.world.entry i).res ≠ r) :
    ∃ w', vmwCmdbufResAdd s.world true m .compatShader (vmwCompatShaderKey k t) r = (0, w') ∧
      Holds w₀ { s with world := w' } (σ.set m k t (some r)) := by
  have hslot := (h.slot_eq_none_iff (m := m) hok).mpr hnone
  obtain ⟨w', hadd, -, hlist, hstaged, hentry, -, -, hkref⟩ :=
    vmwCmdbufResAdd_of_slot_eq_none hslot r
  have hb : w'.bindings = Function.update s.world.bindings (m, compatHashKey k t)
      (some (.staged, r)) := by
    have htrack := h.batch.bindings_add true m .compatShader (vmwCompatShaderKey k t) r
    rw [hadd, Action.track_add, if_pos ⟨rfl, bindings_eq_none_iff.mpr hslot⟩] at htrack
    exact htrack
  have hnew : ¬ Held s.world s.world.next := by
    intro hheld
    cases hheld with
    | inl hi => exact h.batch.ne_next_of_live (h.batch.live_staged hi) rfl
    | inr hi =>
      obtain ⟨m', hi⟩ := hi
      exact h.batch.ne_next_of_live (h.batch.of_mem_list hi).2.1 rfl
  refine ⟨w', hadd, ?_⟩
  refine
    { batch := ?_
      refs := h.refs.add hr hfree hnew rfl hlist hstaged hentry hkref
      nextRes := h.nextRes
      map := fun hok' => h.map_congr hok hb hok'
      rest := h.rest_congr hok hb }
  have hbatch := h.batch.add true m .compatShader (vmwCompatShaderKey k t) r
  rw [hadd] at hbatch
  exact hbatch

theorem remove_step (h : Holds w₀ s σ) (hw : WellFormed w₀) {m : ManId} {k t : UInt32}
    (hok : vmwCompatShaderIdOk k t) :
    ∃ r, vmwCmdbufResRemove s.world m .compatShader (vmwCompatShaderKey k t) = some r ∧
      ((σ.map m t k = none ∧ r = (-EINVAL, s.world)) ∨
        (σ.map m t k ≠ none ∧ r.1 = 0 ∧
          Holds w₀ { s with world := r.2 } (σ.set m k t none))) := by
  obtain ⟨r, hr, hcases⟩ := h.batch.remove_cases hw m .compatShader (vmwCompatShaderKey k t)
  refine ⟨r, hr, ?_⟩
  obtain ⟨r', hr', hbatch⟩ := h.batch.remove hw m .compatShader (vmwCompatShaderKey k t)
  rw [hr] at hr'
  cases hr'
  have hb : r.2.bindings = Function.update s.world.bindings (m, compatHashKey k t) none :=
    h.batch.bindings_remove hw hr
  have hholds : Refs r.2 s.nextRes σ.ext →
      Holds w₀ { s with world := r.2 } (σ.set m k t none) := by
    intro hrefs
    exact
      { batch := hbatch
        refs := hrefs
        nextRes := h.nextRes
        map := fun hok' => h.map_congr hok hb hok'
        rest := h.rest_congr hok hb }
  have htaken : ∀ {i}, s.world.slot (m, compatHashKey k t) = some i → σ.map m t k ≠ none := by
    intro i hs hnone
    rw [(h.slot_eq_none_iff hok).mpr hnone] at hs
    cases hs
  rcases hcases with ⟨hs, rfl⟩ | ⟨i, hs, hi, hadd, hret, hfree⟩ | ⟨i, hs, hi, rfl⟩
  · exact .inl ⟨(h.slot_eq_none_iff hok).mp hs, rfl⟩
  · refine .inr ⟨htaken hs, hret, hholds ?_⟩
    have hnl := fun m' hm => h.batch.not_mem_staged hw (m := m') hm hi
    obtain ⟨w', hfree', -, hlist, hstaged, hentry, -, -, hkref⟩ := vmwCmdbufResFree_eq_some
      (h.batch.live_staged hi) (h.batch.slot_of_active (m := m) (.inr ⟨hi, hadd⟩)) hnl
    rw [hfree] at hfree'
    cases hfree'
    refine h.refs.drop (.inl hi) ?_ hentry hkref
    intro j
    rw [Held, Held, hstaged, hlist, h.batch.staged_nodup.mem_erase_iff]
    have hji : (∃ m', j ∈ s.world.list m') → j ≠ i := by
      intro hm heq
      obtain ⟨m', hm⟩ := hm
      exact hnl m' (heq ▸ hm)
    clear * - hji
    tauto
  · refine .inr ⟨htaken hs, rfl, hholds ?_⟩
    obtain ⟨-, hlist, hstaged, hentry, -, -, hkref⟩ := stageDel_effect
      (h.batch.of_mem_list hi).2.2.2 (h.batch.state_of_mem_list hw hi).2
      (h.batch.not_mem_staged hw hi)
    refine h.refs.move ?_ ?_ hkref
    · intro j
      rw [Held, Held, hstaged, List.mem_append, List.mem_singleton]
      by_cases hji : j = i
      · subst hji
        simp only [or_true, true_or, true_iff]
        exact .inr ⟨m, hi⟩
      · have hlist' : ∀ m', j ∈ (s.world.stageDel m i).list m' ↔ j ∈ s.world.list m' := by
          intro m'
          rw [hlist]
          split_ifs
          · exact List.mem_erase_of_ne hji
          · rfl
        simp [hji, hlist']
    · intro j
      rw [hentry, Function.update_apply]
      split_ifs with hj
      · rw [hj]
      · rfl

theorem unreference_update {ext : Krefs} {r : ResId} (hr : ext r = 0) :
    vmwResourceUnreference (Function.update ext r 1) r = ext := by
  funext r'
  rw [vmwResourceUnreference_apply, Function.update_apply]
  by_cases hrr : r' = r
  · simp [hrr, hr]
  · rw [if_neg hrr, if_neg (Ne.symm hrr), Nat.sub_zero]

/-- A shader that is created and dropped again. -/
theorem alloc_unref (h : Holds w₀ s σ) :
    Holds w₀
      { (vmwShaderAlloc s true).2 with
        world := (vmwShaderAlloc s true).2.world.unref s.nextRes }
      { σ with nextRes := σ.nextRes + 1 } := by
  have hzero : σ.ext s.nextRes = 0 := h.refs.fresh _ (le_refl _)
  have hone : Function.update σ.ext σ.nextRes 1 s.nextRes ≠ 0 := by simp [h.nextRes]
  have hgoal := h.alloc.unref hone
  rw [h.nextRes] at hzero hgoal ⊢
  simp only [unreference_update hzero] at hgoal
  exact hgoal

theorem add_step (h : Holds w₀ s σ) (o : AddOutcome) (m : ManId) (k t : UInt32) :
    (vmwCompatShaderAdd s o m k t = none ↔ (ShaderOp.add o m k t).derefsErrPtr) ∧
      ∀ r, vmwCompatShaderAdd s o m k t = some r →
        .ret r.1 = (σ.step (.add o m k t)).1 ∧ Holds w₀ r.2 (σ.step (.add o m k t)).2 := by
  simp only [vmwCompatShaderAdd, ShaderOp.derefsErrPtr, ShaderMap.step]
  by_cases hok : vmwCompatShaderIdOk k t
  case neg => simp [hok, h]
  by_cases hbuf : o.buf
  case neg => simp [hok, hbuf, h]
  by_cases hinit : o.init = 0
  case neg => simp [hok, hbuf, hinit, h]
  by_cases hreserve : o.reserve = 0
  case neg => simp [hok, hbuf, hinit, hreserve, h]
  by_cases hkmap : o.kmap = 0
  case neg => simp [hok, hbuf, hinit, hreserve, hkmap, h]
  cases hshader : o.shader with
  | false =>
    by_cases hval : o.validate = 0 <;>
      simp [hok, hbuf, hinit, hreserve, hkmap, hval, vmwShaderAlloc, h]
  | true =>
    have hres : (vmwShaderAlloc s true).1 = some s.nextRes := rfl
    by_cases hval : o.validate = 0
    case neg => simp [hok, hbuf, hinit, hreserve, hkmap, hval, h.alloc]
    cases hentry : o.entry with
    | false =>
      simp [hok, hbuf, hinit, hreserve, hkmap, hval, hres, vmwCmdbufResAdd, h.alloc_unref]
    | true =>
      have halloc := h.alloc
      cases hmap : σ.map m t k with
      | some r =>
        have hslot := (halloc.slot_eq_none_iff (m := m) hok).not.mpr (by simp [hmap])
        simp [hok, hbuf, hinit, hreserve, hkmap, hval, hres,
          vmwCmdbufResAdd_of_slot_ne_none hslot, h.alloc_unref]
      | none =>
        have hfree : ∀ i, Held (vmwShaderAlloc s true).2.world i →
            ((vmwShaderAlloc s true).2.world.entry i).res ≠ s.nextRes :=
          fun i hi => Nat.ne_of_lt (h.refs.bound hi)
        obtain ⟨w', hadd, hholds⟩ :=
          halloc.add_of_map_eq_none (m := m) hok hmap (Nat.lt_succ_self s.nextRes) hfree
        have hzero : σ.ext σ.nextRes = 0 := h.refs.fresh _ (Nat.le_of_eq h.nextRes)
        have hunref := hholds.unref (r := σ.nextRes) (by simp [ShaderMap.set])
        simp only [ShaderMap.set, unreference_update hzero, h.nextRes] at hunref
        rw [h.nextRes] at hadd hres
        simp [hok, hbuf, hinit, hreserve, hkmap, hval, hres, hadd, ShaderMap.set]
        exact hunref

theorem lookup_step (h : Holds w₀ s σ) (m : ManId) (k t : UInt32) :
    ∃ r, vmwCompatShaderLookup s m k t = some r ∧
      .ptr r.1 = (σ.step (.lookup m k t)).1 ∧ Holds w₀ r.2 (σ.step (.lookup m k t)).2 := by
  simp only [vmwCompatShaderLookup, ShaderMap.step]
  by_cases hok : vmwCompatShaderIdOk k t
  case neg => simp [hok, h]
  cases hs : s.world.slot (m, compatHashKey k t) with
  | none =>
    have hmap := (h.slot_eq_none_iff hok).mp hs
    have hfind : (s.world.man m).resources.drmHtFindItem
        (hashKey .compatShader (vmwCompatShaderKey k t)) = none := hs
    simp [hok, hmap, vmwCmdbufResLookup, hfind, h]
  | some i =>
    have hmap : σ.map m t k = some (s.world.entry i).res := by
      rw [← h.map hok, World.bindings, hs]
      rfl
    have hfind : (s.world.man m).resources.drmHtFindItem
        (hashKey .compatShader (vmwCompatShaderKey k t)) = some i := hs
    have hlive := h.batch.live_of_slot hs
    have hheld : Held s.world i := (h.batch.of_slot hs).2.elim (fun hl => .inr ⟨_, hl⟩)
      (fun hl => .inl hl.1)
    have hgoal := h.others s.nextRes
      (vmwResourceReference s.world.kref (s.world.entry i).res)
      (vmwResourceReference σ.ext (s.world.entry i).res) (le_refl _) ?_ ?_
    · simp [hok, hmap, vmwCmdbufResLookup, hfind, hlive]
      rw [h.nextRes] at hgoal ⊢
      exact hgoal
    · intro r
      rw [vmwResourceReference_apply, vmwResourceReference_apply]
      omega
    · intro r hr
      have hne : (s.world.entry i).res ≠ r :=
        Nat.ne_of_lt (Nat.lt_of_lt_of_le (h.refs.bound hheld) hr)
      rw [vmwResourceReference_apply, h.refs.fresh r hr, if_neg hne]

/-- One operation: it oopses on an error pointer, or replies as the map does. -/
theorem step (h : Holds w₀ s σ) (hw : WellFormed w₀) (op : ShaderOp) :
    (op.run s = none ↔ op.derefsErrPtr) ∧
      ∀ r, op.run s = some r → r.1 = (σ.step op).1 ∧ Holds w₀ r.2 (σ.step op).2 := by
  cases op with
  | add o m k t =>
    obtain ⟨hnone, hsome⟩ := h.add_step o m k t
    rw [ShaderOp.run, Option.map_eq_none_iff]
    refine ⟨hnone, ?_⟩
    intro r hr
    obtain ⟨r', hr', rfl⟩ := Option.map_eq_some_iff.mp hr
    exact hsome r' hr'
  | remove m k t =>
    simp only [ShaderOp.run, ShaderOp.derefsErrPtr, vmwCompatShaderRemove, ShaderMap.step]
    by_cases hok : vmwCompatShaderIdOk k t
    case neg => simp [hok, h]
    obtain ⟨r, hr, hcases⟩ := h.remove_step hw (m := m) hok
    rcases hcases with ⟨hmap, rfl⟩ | ⟨hmap, hret, hholds⟩
    · simp [hok, hr, hmap, h]
    · obtain ⟨res, hres⟩ := Option.ne_none_iff_exists'.mp hmap
      simp [hok, hr, hres, hret, hholds]
  | lookup m k t =>
    obtain ⟨r, hr, hreply, hholds⟩ := h.lookup_step m k t
    simp [ShaderOp.run, ShaderOp.derefsErrPtr, hr, hreply, hholds]

theorem run (h : Holds w₀ s σ) (hw : WellFormed w₀) (ops : List ShaderOp) :
    (runShaderOps s ops = none ↔ ∃ op ∈ ops, op.derefsErrPtr) ∧
      ∀ r, runShaderOps s ops = some r → r.1 = (σ.run ops).1 ∧ Holds w₀ r.2 (σ.run ops).2 := by
  induction ops generalizing s σ with
  | nil => simp [runShaderOps, ShaderMap.run, h]
  | cons op ops ih =>
    obtain ⟨hnone, hsome⟩ := h.step hw op
    cases hop : op.run s with
    | none => simp [runShaderOps, hop, hnone.mp hop]
    | some r =>
      have hno : op.derefsErrPtr = false := by
        have hne := hnone.not.mp (by simp [hop])
        simpa using hne
      obtain ⟨hreply, hholds⟩ := hsome r hop
      obtain ⟨hnone', hsome'⟩ := ih hholds
      cases hops : runShaderOps r.2 ops with
      | none => simp [runShaderOps, hop, hops, hnone'.mp hops]
      | some r' =>
        have hno' := hnone'.not.mp (by simp [hops])
        obtain ⟨hreplies, hholds'⟩ := hsome' r' hops
        simp [runShaderOps, ShaderMap.run, hop, hops, hno, hno', hreply, hreplies, hholds']

end Holds

theorem countP_eq_one_of_nodup {α : Type*} {p : α → Bool} {l : List α} (hl : l.Nodup)
    {a : α} (ha : a ∈ l) (hp : p a) (huniq : ∀ b ∈ l, p b → b = a) : l.countP p = 1 := by
  induction l with
  | nil => cases ha
  | cons b l ih =>
    obtain ⟨hbl, hl⟩ := List.nodup_cons.mp hl
    by_cases hb : p b
    · have hba := huniq b (by simp) hb
      subst hba
      have hzero : l.countP p = 0 := by
        rw [List.countP_eq_zero]
        intro c hc hpc
        have hcb := huniq c (by simp [hc]) hpc
        exact hbl (hcb ▸ hc)
      rw [List.countP_cons_of_pos hb, hzero]
    · have hal : a ∈ l := by
        cases List.mem_cons.mp ha with
        | inl hab => exact absurd (hab ▸ hp) hb
        | inr hal => exact hal
      rw [List.countP_cons_of_neg hb]
      exact ih hl hal (fun c hc => huniq c (by simp [hc]))

section Batches

variable {w₀ : World hashLong} {s : ShaderWorld hashLong} {σ : ShaderMap}

theorem WellFormed.holds (h : WellFormed s.world) {ext : Krefs}
    (hrefs : Refs s.world s.nextRes ext) : Holds s.world s (ShaderMap.ofWorld s ext) where
  batch := h.batch
  refs := hrefs
  nextRes := rfl
  map := by
    intro m k t hok
    simp [ShaderMap.ofWorld, hok]
  rest := fun _ => rfl

/-- The references after a commit are those of the entries in the tables. -/
theorem Refs.commit {w w' : World hashLong} {nextRes : ResId} {ext : Krefs}
    (h : Refs w nextRes ext) (hw : WellFormed w₀) (hb : Batch w₀ w)
    (hc : Committing w w.staged [] w') : Refs w' nextRes ext := by
  have hres : ∀ i, (w'.entry i).res = (w.entry i).res := by
    intro i
    rw [hc.entry]
    split_ifs <;> rfl
  have hheld : ∀ i, Held w' i ↔ Held w i ∧ ¬ (i ∈ w.staged ∧ isDel w i) := by
    intro i
    simp only [Held, hc.staged, List.not_mem_nil, false_or, hc.list, List.mem_append,
      List.mem_filter]
    constructor
    · intro hi
      obtain ⟨m, hl | ⟨hs, hp⟩⟩ := hi
      · exact ⟨.inr ⟨m, hl⟩, fun hd => hb.not_mem_staged hw hl hd.1⟩
      · simp only [decide_eq_true_eq] at hp
        exact ⟨.inl hs, fun hd => by simp [not_isDel_of_isAdd hp.1] at hd⟩
    · intro hi
      obtain ⟨hs | ⟨m, hl⟩, hnd⟩ := hi
      · have hadd := (hb.isAdd_or_isDel hs).resolve_right (fun hd => hnd ⟨hs, hd⟩)
        exact ⟨(w.entry i).man, .inr ⟨hs, by simp [hadd]⟩⟩
      · exact ⟨m, .inl hl⟩
  refine
    { unique := ?_
      bound := ?_
      held := ?_
      free := ?_
      fresh := h.fresh }
  · intro i j hi hj hij
    rw [hres, hres] at hij
    exact h.unique ((hheld i).mp hi).1 ((hheld j).mp hj).1 hij
  · intro i hi
    rw [hres]
    exact h.bound ((hheld i).mp hi).1
  · intro i hi
    obtain ⟨hi, hnd⟩ := (hheld i).mp hi
    have hzero : w.staged.countP
        (fun j => isDel w j ∧ (w.entry j).res = (w.entry i).res) = 0 := by
      rw [List.countP_eq_zero]
      intro j hj hp
      simp only [decide_eq_true_eq] at hp
      have hji := h.unique (.inl hj) hi hp.2
      exact hnd (hji ▸ ⟨hj, hp.1⟩)
    rw [hres, hc.kref, hzero, h.held hi, Nat.sub_zero]
  · intro r hr
    rw [hc.kref]
    by_cases hex : ∃ i, Held w i ∧ (w.entry i).res = r
    · obtain ⟨i, hi, hir⟩ := hex
      have hdel : i ∈ w.staged ∧ isDel w i := by
        by_contra hnd
        exact hr i ((hheld i).mpr ⟨hi, hnd⟩) (by rw [hres, hir])
      have hone : w.staged.countP (fun j => isDel w j ∧ (w.entry j).res = r) = 1 := by
        refine countP_eq_one_of_nodup hb.staged_nodup hdel.1 (by simp [hdel.2, hir]) ?_
        intro j hj hp
        simp only [decide_eq_true_eq] at hp
        exact h.unique (.inl hj) hi (hp.2.trans hir.symm)
      rw [hone, ← hir, h.held hi, Nat.add_sub_cancel]
    · have hnone : ∀ i, Held w i → (w.entry i).res ≠ r := fun i hi hir => hex ⟨i, hi, hir⟩
      have hzero : w.staged.countP (fun j => isDel w j ∧ (w.entry j).res = r) = 0 := by
        rw [List.countP_eq_zero]
        intro j hj hp
        simp only [decide_eq_true_eq] at hp
        exact hnone j (.inl hj) hp.2
      rw [hzero, h.free hnone, Nat.sub_zero]

/-- The managers in `w`, between batches, are the map `σ` where it is defined, and
what they were in `w₀` elsewhere. -/
structure Implements (w₀ w : World hashLong) (σ : ShaderMap) : Prop where
  table : ∀ m k t, vmwCompatShaderIdOk k t →
    (w.slot (m, compatHashKey k t)).map (fun i => (w.entry i).res) = σ.map m t k
  rest : ∀ l, (∀ k t, vmwCompatShaderIdOk k t → l.2 ≠ compatHashKey k t) →
    (w.slot l).map (fun i => (w.entry i).res) = (w₀.slot l).map (fun i => (w₀.entry i).res)
  list_nodup : ∀ m, (w.list m).Nodup
  mem_list : ∀ m i, i ∈ w.list m ↔ ∃ key, w.slot (m, key) = some i
  commited : ∀ m, ∀ i ∈ w.list m, (w.entry i).state = .commited
  staged : w.staged = []
  held : ∀ r, (∃ l i, w.slot l = some i ∧ (w.entry i).res = r) → w.kref r = σ.ext r + 1
  free : ∀ r, (¬ ∃ l i, w.slot l = some i ∧ (w.entry i).res = r) → w.kref r = σ.ext r

theorem Holds.commit (h : Holds w₀ s σ) (hw : WellFormed w₀) :
    ∃ w', vmwCmdbufResCommit s.world = some w' ∧ Implements w₀ w' σ ∧ WellFormed w' ∧
      Refs w' s.nextRes σ.ext := by
  obtain ⟨w', hcommit, hc⟩ := h.batch.commit hw
  have hwf := h.batch.wellFormed_of_commit hw hc
  have hrefs := h.refs.commit hw h.batch hc
  refine ⟨w', hcommit, ?_, hwf, hrefs⟩
  have hres : ∀ i, (w'.entry i).res = (s.world.entry i).res := by
    intro i
    rw [hc.entry]
    split_ifs <;> rfl
  have hbind : ∀ (w : World hashLong) l, (w.slot l).map (fun i => (w.entry i).res) =
      (w.bindings l).map Prod.snd := by
    intro w l
    rw [World.bindings, Option.map_map]
    rfl
  have hmem : ∀ m i, i ∈ w'.list m ↔ ∃ key, w'.slot (m, key) = some i := by
    intro m i
    constructor
    · intro hi
      obtain ⟨-, -, hman, hs⟩ := hwf.of_mem_list hi
      exact ⟨(w'.entry i).key, by rw [← hman]; exact hs⟩
    · intro hi
      obtain ⟨key, hs⟩ := hi
      exact (hwf.of_slot hs).1
  have hheld : ∀ i, Held w' i ↔ ∃ l, w'.slot l = some i := by
    intro i
    simp only [Held, hc.staged, List.not_mem_nil, false_or, hmem, Prod.exists]
  refine
    { table := ?_
      rest := ?_
      list_nodup := hwf.list_nodup
      mem_list := hmem
      commited := fun m i hi => (hwf.of_mem_list hi).2.1
      staged := hc.staged
      held := ?_
      free := ?_ }
  · intro m k t hok
    simp only [hres, hc.slot]
    rw [hbind, h.map hok]
  · intro l hl
    simp only [hres, hc.slot]
    rw [hbind, hbind, h.rest hl]
  · intro r hr
    obtain ⟨l, i, hs, hir⟩ := hr
    rw [← hir]
    exact hrefs.held ((hheld i).mpr ⟨l, hs⟩)
  · intro r hr
    apply hrefs.free
    intro i hi hir
    obtain ⟨l, hs⟩ := (hheld i).mp hi
    exact hr ⟨l, i, hs, hir⟩

theorem refs_empty (hashLong : HashLong) : Refs (World.empty hashLong) 0 (fun _ => 0) where
  unique := fun hi => by simp [Held, World.empty, World.list] at hi
  bound := fun hi => by simp [Held, World.empty, World.list] at hi
  held := fun hi => by simp [Held, World.empty, World.list] at hi
  free := fun _ => rfl
  fresh := fun _ _ => rfl

end Batches

end Vmwgfx.Cmdbuf
