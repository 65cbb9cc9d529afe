import Vmwgfx.Lib.Count
import Vmwgfx.Lib.Machine
import Vmwgfx.Resource.Defs

/-! The invariant of guest-backed resources and their backup buffers: what a `mob_head` is linked
on is its backup buffer, which it holds a reference on, and a bound resource
has no dirty backup that a failure could drop. -/

namespace Vmwgfx.Resource

open Lib

/-- `mob_head` is linked on the `res_list` of exactly the backup buffer, and a
dirty backup is there and not bound. -/
structure Good (s : State) (r : ResId) : Prop where
  listed : ∀ b, (s.resList b).count r = if (s.res r).mobHead = some b then 1 else 0
  backup : ∀ b, (s.res r).mobHead = some b → (s.res r).backup = some b
  linked_clean : (s.res r).mobHead ≠ none → (s.res r).backupDirty = false
  empty_clean : (s.res r).backup = none → (s.res r).backupDirty = false
  validated_clean : (s.res r).phase = .validated → (s.res r).backupDirty = false

/-- The references on a buffer that resources hold. -/
def State.backupRefs (s : State) (b : BufId) : Nat :=
  s.resources.countP (fun r => (s.res r).backup = some b)

structure Inv (s : State) : Prop where
  good : ∀ r, (s.res r).func.needsBackup = true → Good s r
  refs : ∀ b, s.bufRef b = s.otherRef b + s.backupRefs b
  nodup : s.resources.Nodup
  unknown : ∀ r, r ∉ s.resources → s.res r = .blank
  lru : ∀ type r, r ∈ s.lru type → (s.res r).phase = .idle ∧ (s.res r).func.resType = type
  buffers : ∀ b, b ∉ s.buffers → s.otherRef b = 0 ∧ ∀ r, (s.res r).backup ≠ some b

section Primitives

variable {s : State} {r : ResId}

@[simp] theorem modify_res (s : State) (r r' : ResId) (f : VmwResource → VmwResource) :
    (s.modify r f).res r' = if r' = r then f (s.res r) else s.res r' := by
  by_cases h : r' = r
  · subst h
    simp [State.modify]
  · simp [State.modify, h]

theorem Inv.known (hinv : Inv s) (h : (s.res r).phase ≠ .released) : r ∈ s.resources := by
  by_contra hr
  rw [hinv.unknown r hr] at h
  exact h rfl

theorem Inv.ref_pos (hinv : Inv s) {b : BufId} (h : (s.res r).backup = some b) : 0 < s.bufRef b := by
  have hr : r ∈ s.resources := by
    by_contra hr
    rw [hinv.unknown r hr] at h
    cases h
  have hpos : 0 < s.backupRefs b := List.countP_pos_iff.mpr ⟨r, hr, by simpa using h⟩
  rw [hinv.refs b]
  omega

theorem backupRefs_modify (hinv : Inv s) (hr : r ∈ s.resources) (f : VmwResource → VmwResource) (b : BufId) :
    (s.modify r f).backupRefs b + (if (s.res r).backup = some b then 1 else 0)
      = s.backupRefs b + (if (f (s.res r)).backup = some b then 1 else 0) := by
  have h := countP_exchange hinv.nodup hr (fun x => decide (((s.modify r f).res x).backup = some b))
    (fun x => decide ((s.res x).backup = some b)) (fun x hx => by simp [modify_res, hx])
  simpa [State.backupRefs, State.modify] using h

theorem count_filter_ne (l : List ResId) (r r' : ResId) :
    (l.filter (· ≠ r)).count r' = if r' = r then 0 else l.count r' := by
  split
  · rename_i heq
    subst heq
    simp [List.count_eq_zero]
  · rename_i hne
    exact List.count_filter (by simpa using hne)

/-- The parts of `Good` that a change of another resource's entry keeps. -/
theorem Good.frame {s' : State} (hgood : Good s r) (hres : s'.res r = s.res r)
    (hcount : ∀ b, (s'.resList b).count r = (s.resList b).count r) : Good s' r := by
  obtain ⟨h₁, h₂, h₃, h₄, h₅⟩ := hgood
  refine ⟨fun b => ?_, ?_, ?_, ?_, ?_⟩ <;> rw [hres]
  · rw [hcount b]
    exact h₁ b
  exacts [h₂, h₃, h₄, h₅]

/-- What an operation on a single resource has to say for itself. -/
theorem Inv.touch {s' : State} {f : VmwResource → VmwResource} (hinv : Inv s) (hr : r ∈ s.resources)
    (hres : s'.res = (s.modify r f).res) (hresources : s'.resources = s.resources)
    (hcount : ∀ r', r' ≠ r → ∀ b, (s'.resList b).count r' = (s.resList b).count r')
    (hrefs : ∀ b, s'.bufRef b + s.otherRef b + (if (s.res r).backup = some b then 1 else 0)
      = s.bufRef b + s'.otherRef b + (if (f (s.res r)).backup = some b then 1 else 0))
    (hlru : ∀ type r', r' ∈ s'.lru type → (r' ≠ r ∧ r' ∈ s.lru type) ∨
      (r' = r ∧ (f (s.res r)).phase = .idle ∧ (f (s.res r)).func.resType = type))
    (hbuf : ∀ b, b ∉ s'.buffers → b ∉ s.buffers ∧ s'.otherRef b = 0 ∧ (f (s.res r)).backup ≠ some b)
    (hgood : (f (s.res r)).func.needsBackup = true → Good s' r) : Inv s' := by
  have hres' : ∀ r', s'.res r' = if r' = r then f (s.res r) else s.res r' := by
    intro r'
    rw [hres, modify_res]
  refine ⟨fun r' hneeds => ?_, fun b => ?_, hresources ▸ hinv.nodup, fun r' hr' => ?_,
    fun type r' hr' => ?_, fun b hb => ?_⟩
  · by_cases heq : r' = r
    · rw [heq, hres', if_pos rfl] at hneeds
      exact heq ▸ hgood hneeds
    · rw [hres', if_neg heq] at hneeds
      exact (hinv.good r' hneeds).frame (by rw [hres', if_neg heq]) (hcount r' heq)
  · have hmod := backupRefs_modify hinv hr f b
    have hsame : s'.backupRefs b = (s.modify r f).backupRefs b := by
      simp only [State.backupRefs, hres, hresources]
      rfl
    have := hinv.refs b
    have := hrefs b
    omega
  · rw [hresources] at hr'
    have hne : r' ≠ r := fun heq => hr' (heq ▸ hr)
    rw [hres', if_neg hne]
    exact hinv.unknown r' hr'
  · rw [hres']
    rcases hlru type r' hr' with ⟨hne, hmem⟩ | ⟨heq, hphase⟩
    · rw [if_neg hne]
      exact hinv.lru type r' hmem
    · rw [if_pos heq]
      exact hphase
  · obtain ⟨hb', hother, hback⟩ := hbuf b hb
    refine ⟨hother, fun r' => ?_⟩
    rw [hres']
    split
    · exact hback
    · exact (hinv.buffers b hb').2 r'

theorem Inv.lru_self (hinv : Inv s) {type : ResType} {r' : ResId} (h : r' ∈ s.lru type) :
    (r' ≠ r ∧ r' ∈ s.lru type) ∨ (r' = r ∧ (s.res r).phase = .idle ∧ (s.res r).func.resType = type) := by
  by_cases heq : r' = r
  · exact .inr ⟨heq, heq ▸ hinv.lru type r' h⟩
  · exact .inl ⟨heq, h⟩

theorem Inv.no_buffer (hinv : Inv s) {b : BufId} (h : b ∉ s.buffers) :
    b ∉ s.buffers ∧ s.otherRef b = 0 ∧ (s.res r).backup ≠ some b :=
  ⟨h, (hinv.buffers b h).1, (hinv.buffers b h).2 r⟩

/-- A change of a resource that keeps its buffer and its lists. -/
theorem Inv.modify (hinv : Inv s) (hr : r ∈ s.resources) {f : VmwResource → VmwResource}
    (hfunc : (f (s.res r)).func = (s.res r).func) (hbackup : (f (s.res r)).backup = (s.res r).backup)
    (hmob : (f (s.res r)).mobHead = (s.res r).mobHead)
    (hphase : (f (s.res r)).phase = (s.res r).phase ∨ ∀ type, r ∉ s.lru type)
    (hclean : (s.res r).func.needsBackup = true → (f (s.res r)).backupDirty = true →
      (s.res r).mobHead = none ∧ (s.res r).backup ≠ none ∧ (f (s.res r)).phase ≠ .validated) :
    Inv (s.modify r f) := by
  apply hinv.touch hr rfl rfl (fun _ _ _ => rfl)
  · intro b
    rw [hbackup]
    rfl
  · intro type r' hr'
    rcases hinv.lru_self hr' with h | ⟨heq, hidle, htype⟩
    · exact .inl h
    · rcases hphase with hphase | hout
      · exact .inr ⟨heq, hphase.trans hidle, by rw [hfunc]; exact htype⟩
      · exact absurd (heq ▸ hr') (hout type)
  · intro b hb
    rw [hbackup]
    exact hinv.no_buffer hb
  · intro hneeds
    rw [hfunc] at hneeds
    obtain ⟨hlisted, hback, -, -, -⟩ := hinv.good r hneeds
    have hclean := hclean hneeds
    refine ⟨fun b => ?_, fun b => ?_, fun hlinked => ?_, fun hempty => ?_, fun hvalid => ?_⟩
    · rw [modify_res, if_pos rfl, hmob]
      exact hlisted b
    · rw [modify_res, if_pos rfl, hmob, hbackup]
      exact hback b
    all_goals
      rw [modify_res, if_pos rfl] at *
      by_contra hdirty
      obtain ⟨h₁, h₂, h₃⟩ := hclean (by simpa using hdirty)
    · exact hlinked (hmob.trans h₁)
    · exact h₂ (hbackup.symm.trans hempty)
    · exact h₃ hvalid

/-- A change that makes no backup dirty. -/
theorem Inv.modify_clean (hinv : Inv s) (hr : r ∈ s.resources) {f : VmwResource → VmwResource}
    (hfunc : (f (s.res r)).func = (s.res r).func) (hbackup : (f (s.res r)).backup = (s.res r).backup)
    (hmob : (f (s.res r)).mobHead = (s.res r).mobHead) (hphase : (f (s.res r)).phase = (s.res r).phase)
    (hdirty : (f (s.res r)).backupDirty = true → (s.res r).backupDirty = true) : Inv (s.modify r f) := by
  apply hinv.modify hr hfunc hbackup hmob (.inl hphase)
  intro hneeds hset
  have hg := hinv.good r hneeds
  have hset := hdirty hset
  refine ⟨?_, fun hempty => ?_, fun hvalid => ?_⟩
  · by_contra hlinked
    rw [hg.linked_clean hlinked] at hset
    cases hset
  · rw [hg.empty_clean hempty] at hset
    cases hset
  · rw [hg.validated_clean (hphase.symm.trans hvalid)] at hset
    cases hset

theorem Inv.listAddMob (hinv : Inv s) (hr : r ∈ s.resources) {b : BufId}
    (hgood : (s.res r).func.needsBackup = true →
      (s.res r).mobHead = none ∧ (s.res r).backup = some b ∧ (s.res r).backupDirty = false) :
    Inv (s.listAddMob r b) := by
  have hcount : ∀ r' b', ((s.listAddMob r b).resList b').count r'
      = (s.resList b').count r' + if r' = r ∧ b' = b then 1 else 0 := by
    intro r' b'
    by_cases hb : b' = b
    · subst hb
      by_cases hr' : r' = r
      · subst hr'
        simp [State.listAddMob]
      · simp [State.listAddMob, hr', Ne.symm hr']
    · simp [State.listAddMob, hb, State.modify]
  have hres : (s.listAddMob r b).res = (s.modify r (fun res => { res with mobHead := some b })).res := rfl
  apply hinv.touch hr hres rfl
  · intro r' hne b'
    rw [hcount, if_neg (fun h => hne h.1), Nat.add_zero]
  · intro b'
    rfl
  · exact fun type r' hr' => hinv.lru_self hr'
  · exact fun b' hb' => hinv.no_buffer hb'
  · intro hneeds
    obtain ⟨hmob, hback, hclean⟩ := hgood hneeds
    have hself : (s.listAddMob r b).res r = { s.res r with mobHead := some b } := by
      simp [State.listAddMob]
    refine ⟨fun b' => ?_, fun b' hb' => ?_, fun _ => ?_, fun _ => ?_, fun _ => ?_⟩
    · rw [hcount, (hinv.good r hneeds).listed, hmob, hself]
      by_cases hb : b' = b
      · simp [hb]
      · simp [hb, Ne.symm hb]
    · rw [hself] at hb' ⊢
      cases hb'
      exact hback
    all_goals
      rw [hself]
      exact hclean

theorem listDelMob_res (s : State) (r : ResId) :
    (s.listDelMob r).res = (s.modify r (fun res => { res with mobHead := none })).res := by
  unfold State.listDelMob
  split
  · rename_i hnone
    funext r'
    rw [modify_res]
    split
    · rename_i heq
      rw [heq, ← hnone]
    · rfl
  · rfl

theorem listDelMob_frame (s : State) (r : ResId) :
    (s.listDelMob r).resources = s.resources ∧ (s.listDelMob r).lru = s.lru ∧
    (s.listDelMob r).buffers = s.buffers ∧ (s.listDelMob r).bufRef = s.bufRef ∧
    (s.listDelMob r).otherRef = s.otherRef ∧ (s.listDelMob r).contents = s.contents ∧
    (s.listDelMob r).numPages = s.numPages := by
  unfold State.listDelMob
  split <;> exact ⟨rfl, rfl, rfl, rfl, rfl, rfl, rfl⟩

theorem listDelMob_count (s : State) (r r' : ResId) (b : BufId) :
    ((s.listDelMob r).resList b).count r'
      = if r' = r ∧ (s.res r).mobHead = some b then 0 else (s.resList b).count r' := by
  unfold State.listDelMob
  split
  · rename_i hnone
    simp [hnone]
  · rename_i b₀ hsome
    rw [hsome]
    by_cases hb : b = b₀
    · subst hb
      simp only [Function.update_self, count_filter_ne, and_true]
    · simp [hb, Ne.symm hb]

theorem Inv.listDelMob (hinv : Inv s) (hr : r ∈ s.resources) : Inv (s.listDelMob r) := by
  obtain ⟨hresources, hlru, hbuffers, hbufRef, hotherRef, -⟩ := listDelMob_frame s r
  apply hinv.touch hr (listDelMob_res s r) hresources
  · intro r' hne b
    rw [listDelMob_count, if_neg (fun h => hne h.1)]
  · intro b
    rw [hbufRef, hotherRef]
  · intro type r' hr'
    rw [hlru] at hr'
    exact hinv.lru_self hr'
  · intro b hb
    rw [hbuffers] at hb
    rw [hotherRef]
    exact hinv.no_buffer hb
  · intro hneeds
    have hself : (s.listDelMob r).res r = { s.res r with mobHead := none } := by
      rw [listDelMob_res, modify_res, if_pos rfl]
    have hg := hinv.good r hneeds
    refine ⟨fun b => ?_, fun b hb => ?_, fun hlinked => ?_, ?_, ?_⟩
    · rw [listDelMob_count, hself, hg.listed]
      by_cases hb : (s.res r).mobHead = some b <;> simp [hb]
    · rw [hself] at hb
      cases hb
    · rw [hself] at hlinked
      exact absurd rfl hlinked
    all_goals
      rw [hself]
    · exact hg.empty_clean
    · exact hg.validated_clean

theorem Inv.setBackup (hinv : Inv s) (hr : r ∈ s.resources) {b : BufId} (hnone : (s.res r).backup = none)
    (hb : b ∈ s.buffers) : Inv (s.setBackup r b) := by
  have hres : (s.setBackup r b).res = (s.modify r (fun res => { res with backup := some b })).res := rfl
  have hself : (s.setBackup r b).res r = { s.res r with backup := some b } := by
    rw [hres, modify_res, if_pos rfl]
  apply hinv.touch hr hres rfl (fun _ _ _ => rfl)
  · intro b'
    rw [hnone]
    by_cases hb' : b' = b
    · subst hb'
      simp [State.setBackup, State.modify]
      omega
    · simp [State.setBackup, State.modify, hb', Ne.symm hb']
  · exact fun type r' hr' => hinv.lru_self hr'
  · intro b' hb'
    obtain ⟨hno, hother, -⟩ := hinv.no_buffer hb' (r := r)
    refine ⟨hno, hother, ?_⟩
    rintro ⟨⟩
    exact hno hb
  · intro hneeds
    have hg := hinv.good r hneeds
    have hclean := hg.empty_clean hnone
    have hmob : (s.res r).mobHead = none := by
      cases hmob : (s.res r).mobHead with
      | none => rfl
      | some b' =>
        rw [hg.backup b' hmob] at hnone
        cases hnone
    refine ⟨fun b' => ?_, fun b' hb' => ?_, fun _ => ?_, fun _ => ?_, fun _ => ?_⟩
    · rw [hself]
      exact hg.listed b'
    · rw [hself] at hb'
      exact absurd (hmob.symm.trans hb') (by simp)
    all_goals
      rw [hself]
      exact hclean

theorem Inv.dropBackup (hinv : Inv s) (hr : r ∈ s.resources)
    (hgood : (s.res r).func.needsBackup = true →
      (s.res r).mobHead = none ∧ (s.res r).backupDirty = false) : Inv (s.dropBackup r) := by
  unfold State.dropBackup
  split
  · exact hinv
  · rename_i b hback
    have hpos := hinv.ref_pos hback
    have hres : ∀ r', ({ s.modify r (fun res => { res with backup := none }) with
        bufRef := Function.update s.bufRef b (s.bufRef b - 1) } : State).res r'
        = (s.modify r (fun res => { res with backup := none })).res r' := fun _ => rfl
    apply hinv.touch hr (funext hres) rfl (fun _ _ _ => rfl)
    · intro b'
      rw [hback]
      by_cases hb' : b' = b
      · subst hb'
        simp [State.modify]
        omega
      · simp [State.modify, hb', Ne.symm hb']
    · exact fun type r' hr' => hinv.lru_self hr'
    · intro b' hb'
      exact ⟨hb', (hinv.buffers b' hb').1, by simp⟩
    · intro hneeds
      obtain ⟨hmob, hclean⟩ := hgood hneeds
      have hg := hinv.good r hneeds
      have hself := (hres r).trans (modify_res s r r _)
      rw [if_pos rfl] at hself
      refine ⟨fun b' => ?_, fun b' hb' => ?_, fun _ => ?_, fun _ => ?_, fun _ => ?_⟩
      · rw [hself]
        exact hg.listed b'
      · rw [hself] at hb'
        exact absurd (hmob.symm.trans hb') (by simp)
      all_goals
        rw [hself]
        exact hclean

theorem Inv.bufGet (hinv : Inv s) {b : BufId} (hb : b ∈ s.buffers) : Inv (s.bufGet b) := by
  refine ⟨fun r hneeds => (hinv.good r hneeds).frame rfl (fun _ => rfl), fun b' => ?_, hinv.nodup,
    hinv.unknown, hinv.lru, fun b' hb' => ?_⟩
  · have := hinv.refs b'
    have hsame : (s.bufGet b).backupRefs b' = s.backupRefs b' := rfl
    rw [hsame]
    by_cases h : b' = b
    · subst h
      simp only [State.bufGet, Function.update_self]
      omega
    · simpa [State.bufGet, h] using this
  · have hne : b' ≠ b := fun heq => hb' (heq ▸ hb)
    refine ⟨?_, (hinv.buffers b' hb').2⟩
    simpa [State.bufGet, hne] using (hinv.buffers b' hb').1

theorem Inv.bufPut (hinv : Inv s) {b : BufId} (hb : s.otherRef b ≠ 0) : Inv (s.bufPut b) := by
  refine ⟨fun r hneeds => (hinv.good r hneeds).frame rfl (fun _ => rfl), fun b' => ?_, hinv.nodup,
    hinv.unknown, hinv.lru, fun b' hb' => ?_⟩
  · have := hinv.refs b'
    have hsame : (s.bufPut b).backupRefs b' = s.backupRefs b' := rfl
    rw [hsame]
    by_cases h : b' = b
    · subst h
      simp only [State.bufPut, Function.update_self]
      omega
    · simpa [State.bufPut, h] using this
  · have hzero := (hinv.buffers b' hb').1
    have hne : b' ≠ b := fun heq => hb (heq ▸ hzero)
    refine ⟨?_, (hinv.buffers b' hb').2⟩
    simpa [State.bufPut, hne] using hzero

theorem Inv.bufInit (hinv : Inv s) (b : BufId) (size : Nat) : Inv (s.bufInit b size) := by
  refine ⟨fun r hneeds => (hinv.good r hneeds).frame rfl (fun _ => rfl), hinv.refs, hinv.nodup,
    hinv.unknown, hinv.lru, fun b' hb' => hinv.buffers b' ?_⟩
  exact fun h => hb' (List.mem_cons_of_mem _ h)

theorem Inv.funcUnbind (hinv : Inv s) (b : BufId) (readback : Bool) (u : Unbind) :
    Inv (funcUnbind s b readback u) := by
  unfold Resource.funcUnbind
  split
  · exact ⟨fun r hneeds => (hinv.good r hneeds).frame rfl (fun _ => rfl), hinv.refs, hinv.nodup,
      hinv.unknown, hinv.lru, hinv.buffers⟩
  · exact hinv

theorem Inv.funcDestroy (hinv : Inv s) (hr : r ∈ s.resources) (ret : Int) : Inv (funcDestroy s r ret) := by
  unfold Resource.funcDestroy
  split
  · exact hinv.modify_clean hr rfl rfl rfl rfl id
  · exact hinv

theorem Inv.lruDel (hinv : Inv s) (r : ResId) : Inv (s.lruDel r) := by
  refine ⟨fun r' hneeds => (hinv.good r' hneeds).frame rfl (fun _ => rfl), hinv.refs, hinv.nodup,
    hinv.unknown, fun type r' hr' => hinv.lru type r' ?_, hinv.buffers⟩
  by_cases h : type = (s.res r).func.resType
  · subst h
    simp only [State.lruDel, Function.update_self] at hr'
    exact (List.mem_filter.mp hr').1
  · simpa [State.lruDel, h] using hr'

theorem lruDel_not_mem (hinv : Inv s) (r : ResId) (type : ResType) : r ∉ (s.lruDel r).lru type := by
  intro hmem
  by_cases h : type = (s.res r).func.resType
  · subst h
    simp only [State.lruDel, Function.update_self] at hmem
    simpa using (List.mem_filter.mp hmem).2
  · have hmem' : r ∈ s.lru type := by simpa [State.lruDel, h] using hmem
    exact h (hinv.lru type r hmem').2.symm

theorem Inv.lruAdd (hinv : Inv s) (hidle : (s.res r).phase = .idle) : Inv (s.lruAdd r) := by
  refine ⟨fun r' hneeds => (hinv.good r' hneeds).frame rfl (fun _ => rfl), hinv.refs, hinv.nodup,
    hinv.unknown, fun type r' hr' => ?_, hinv.buffers⟩
  by_cases h : type = (s.res r).func.resType
  · subst h
    simp only [State.lruAdd, Function.update_self, List.mem_append, List.mem_singleton] at hr'
    rcases hr' with hr' | rfl
    · exact hinv.lru _ r' hr'
    · exact ⟨hidle, rfl⟩
  · exact hinv.lru type r' (by simpa [State.lruAdd, h] using hr')

theorem Inv.init_resource (hinv : Inv s) (hr : r ∉ s.resources) (func : VmwResFunc) (data : Contents) :
    Inv (vmwResourceInit s r func data) := by
  have hblank := hinv.unknown r hr
  have hgood := hinv.good r (by rw [hblank]; rfl)
  have hcount : ∀ b, (s.resList b).count r = 0 := by
    intro b
    rw [hgood.listed, hblank]
    rfl
  have hres : ∀ r', r' ≠ r → (vmwResourceInit s r func data).res r' = s.res r' := by
    intro r' hne
    simp [vmwResourceInit, hne]
  have hself : (vmwResourceInit s r func data).res r
      = { func, data, onDevice := false, backup := none, backupOffset := 0
          backupSize := data.backupSize, backupDirty := false, resDirty := false, mobHead := none
          pinCount := 0, phase := .idle } := by
    simp [vmwResourceInit]
  refine ⟨fun r' hneeds => ?_, fun b => ?_, List.nodup_cons.mpr ⟨hr, hinv.nodup⟩, fun r' hr' => ?_,
    fun type r' hr' => ?_, fun b hb => ⟨(hinv.buffers b hb).1, fun r' => ?_⟩⟩
  · by_cases heq : r' = r
    · rw [heq]
      refine ⟨fun b => ?_, fun b hb => ?_, fun _ => ?_, fun _ => ?_, fun _ => ?_⟩ <;> rw [hself] at *
      · exact hcount b
      · cases hb
    · rw [hres r' heq] at hneeds
      exact (hinv.good r' hneeds).frame (hres r' heq) (fun _ => rfl)
  · have hnew : (vmwResourceInit s r func data).backupRefs b = s.backupRefs b := by
      simp only [State.backupRefs]
      rw [show (vmwResourceInit s r func data).resources = r :: s.resources from rfl, List.countP_cons,
        hself, if_neg (by simp), Nat.add_zero]
      apply List.countP_congr
      intro x hx
      rw [hres x (fun heq => hr (heq ▸ hx))]
    rw [hnew]
    exact hinv.refs b
  · have hne : r' ≠ r := fun heq => hr' (heq ▸ List.mem_cons_self)
    rw [hres r' hne]
    exact hinv.unknown r' (fun h => hr' (List.mem_cons_of_mem _ h))
  · have hmem := hinv.lru type r' hr'
    have hne : r' ≠ r := by
      intro heq
      rw [heq, hblank] at hmem
      exact absurd hmem.1 (by decide)
    rw [hres r' hne]
    exact hmem
  · by_cases heq : r' = r
    · rw [heq, hself]
      simp
    · rw [hres r' heq]
      exact (hinv.buffers b hb).2 r'

end Primitives

end Vmwgfx.Resource
