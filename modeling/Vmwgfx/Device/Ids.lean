import Vmwgfx.Binding.Evict
import Vmwgfx.Device.Quiet

/-! Device ids: who holds them, and what creation and eviction do with them. -/

namespace Vmwgfx.Device

open Vmwgfx.Lib
open Vmwgfx.Resource (ResType VmwResFunc BufId)

section Invariant

/-- What is defined belongs to a resource that has its id. The resources in `D` are alive, and
those of them that have an id are defined, `x` aside. -/
structure Inv (D : ResId → Prop) (x : Option ResId) (s : State) : Prop where
  fit : CommandsFit s.log
  holder : ∀ type i, live s.log type i = true →
    ∃ r, (s.res r).func.resType = type ∧ (s.res r).id = some i
  noStream : ∀ i, live s.log .stream i = false
  inIdr : ∀ r i, (s.res r).id = some i → i ∈ s.idr (s.res r).func.resType
  unique : ∀ r r' i, (s.res r).func.resType = (s.res r').func.resType → (s.res r).id = some i →
    (s.res r').id = some i → r = r'
  known : ∀ r, (s.res r).id.isSome = true ∨ (s.res r).alive = true → r ∈ s.resources
  cover : ∀ r, (s.res r).alive = true ↔ D r
  defined : ∀ r i, D r → some r ≠ x → (s.res r).id = some i → (s.res r).func ≠ .stream →
    live s.log (s.res r).func.resType i = true
  lru : ∀ type r, r ∈ s.lru type → D r ∧ (s.res r).func.resType = type

/-- The id of the resource is not in use on the device. -/
def Unused (s : State) (r : ResId) : Prop :=
  ∀ i, (s.res r).id = some i → live s.log (s.res r).func.resType i = false

/-- The resource is defined on the device if it has an id. -/
def Settled (s : State) (r : ResId) : Prop :=
  ∀ i, (s.res r).id = some i → live s.log (s.res r).func.resType i = true

variable {D D' : ResId → Prop} {x : Option ResId} {s t : State} {r : ResId} {i : Nat}

theorem Inv.alike (h : Inv D x s) (hst : Alike s t) : Inv D x t where
  fit := hst.fit h.fit
  holder type i hlive := by
    rw [hst.live] at hlive
    obtain ⟨r, hr, hid⟩ := h.holder type i hlive
    exact ⟨r, by rw [hst.func, hr], by rw [hst.id, hid]⟩
  noStream i := by
    rw [hst.live]
    exact h.noStream i
  inIdr r i hid := by
    rw [hst.id] at hid
    rw [hst.idr, hst.func]
    exact h.inIdr r i hid
  unique r r' i hty hid hid' := by
    rw [hst.func, hst.func] at hty
    rw [hst.id] at hid hid'
    exact h.unique r r' i hty hid hid'
  known r hr := by
    rw [hst.id, hst.alive] at hr
    rw [hst.resources]
    exact h.known r hr
  cover r := by rw [hst.alive, h.cover]
  defined r i hD hx hid hfunc := by
    rw [hst.id] at hid
    rw [hst.func] at hfunc
    rw [hst.live, hst.func]
    exact h.defined r i hD hx hid hfunc
  lru type r hr := by
    rw [hst.lru] at hr
    rw [hst.func]
    exact h.lru type r hr

theorem Inv.same (h : Inv D x s) (hst : Same s t) : Inv D x t := h.alike hst.toAlike

theorem Unused.same (h : Unused s r) (hst : Same s t) : Unused t r := by
  intro i hid
  rw [hst.id] at hid
  rw [hst.live, hst.func]
  exact h i hid

theorem Settled.same (h : Settled s r) (hst : Same s t) : Settled t r := by
  intro i hid
  rw [hst.id] at hid
  rw [hst.live, hst.func]
  exact h i hid

theorem Inv.settled (h : Inv D none s) (hD : D r) (hfunc : (s.res r).func ≠ .stream) : Settled s r :=
  fun i hid => h.defined r i hD (Option.some_ne_none r) hid hfunc

theorem Inv.except (h : Inv D none s) (x : Option ResId) : Inv D x s :=
  { h with defined := fun r i hD _ => h.defined r i hD (Option.some_ne_none r) }

theorem Inv.idle (h : Inv D (some r) s) (hnone : (s.res r).id = none) : Inv D none s :=
  { h with
    defined := fun r' i hD _ hid => by
      by_cases hr : r' = r
      · rw [hr, hnone] at hid
        cases hid
      · exact h.defined r' i hD (fun heq => hr (Option.some.inj heq)) hid }

section Alloc

def State.alloc (s : State) (r : ResId) : State :=
  let type := (s.res r).func.resType
  let id := Vmwgfx.Binding.lowestFree (s.idr type)
  { s with
    idr := Function.update s.idr type (id :: s.idr type)
    res := Function.update s.res r { s.res r with id := some id } }

def State.dropId (s : State) (r : ResId) : State :=
  let type := (s.res r).func.resType
  { s with
    idr := Function.update s.idr type ((s.idr type).filter (some · ≠ (s.res r).id))
    res := Function.update s.res r { s.res r with id := none } }

theorem alloc_ends (hnone : (s.res r).id = none) (ok : Bool) :
    Ends (vmwResourceAllocId r ok) s
      (fun ret t => (ret = 0 ∧ t = s.alloc r) ∨ (ret ≠ 0 ∧ t = s)) (fun _ _ => False) := by
  unfold vmwResourceAllocId stopIf
  cases ok with
  | true => simp [hnone, State.alloc, setRes]
  | false => simp [hnone, ENOMEM]

@[simp] theorem ends_releaseId {P : Unit → State → Prop} {E : Stop → State → Prop} :
    Ends (vmwResourceReleaseId r) s P E ↔ P () (s.dropId r) := Iff.rfl

theorem alloc_id (s : State) (r : ResId) :
    ((s.alloc r).res r).id = some (Vmwgfx.Binding.lowestFree (s.idr (s.res r).func.resType)) := by
  simp [State.alloc]

theorem alloc_func (s : State) (r r' : ResId) : ((s.alloc r).res r').func = (s.res r').func := by
  by_cases h : r' = r
  · subst h
    simp [State.alloc]
  · simp [State.alloc, h]

theorem alloc_alive (s : State) (r r' : ResId) : ((s.alloc r).res r').alive = (s.res r').alive := by
  by_cases h : r' = r
  · subst h
    simp [State.alloc]
  · simp [State.alloc, h]

theorem alloc_ne (s : State) {r r' : ResId} (h : r' ≠ r) : (s.alloc r).res r' = s.res r' := by
  simp [State.alloc, h]

theorem Inv.not_live_of_free (h : Inv D x s) {type : ResType} (hfree : i ∉ s.idr type) :
    live s.log type i = false := by
  by_contra hlive
  obtain ⟨r, hr, hid⟩ := h.holder type i (by simpa using hlive)
  exact hfree (hr ▸ h.inIdr r i hid)

theorem Inv.alloc (h : Inv D none s) (hnone : (s.res r).id = none) (hr : r ∈ s.resources) :
    Inv D (some r) (s.alloc r) ∧ Unused (s.alloc r) r := by
  have hfresh := (Vmwgfx.Binding.lowestFree_spec (s.idr (s.res r).func.resType)).1
  have hidr : ∀ type i, i ∈ s.idr type → i ∈ (s.alloc r).idr type := by
    intro type i hi
    by_cases htype : type = (s.res r).func.resType
    · subst htype
      simp only [State.alloc, Function.update_self]
      exact List.mem_cons_of_mem _ hi
    · simpa only [State.alloc, Function.update_of_ne htype] using hi
  refine ⟨?_, ?_⟩
  · refine { fit := h.fit, noStream := h.noStream, holder := ?_, inIdr := ?_, unique := ?_, known := ?_, cover := ?_, defined := ?_, lru := ?_ }
    · intro type i hlive
      obtain ⟨r', hr', hid⟩ := h.holder type i hlive
      have hne : r' ≠ r := by
        rintro rfl
        rw [hnone] at hid
        cases hid
      exact ⟨r', by rw [alloc_ne s hne, hr'], by rw [alloc_ne s hne, hid]⟩
    · intro r' i hid
      rw [alloc_func]
      by_cases hne : r' = r
      · subst hne
        rw [alloc_id] at hid
        cases hid
        simp [State.alloc]
      · rw [alloc_ne s hne] at hid
        exact hidr _ _ (h.inIdr r' i hid)
    · intro r₁ r₂ i hty hid₁ hid₂
      rw [alloc_func, alloc_func] at hty
      -- the new id is in no one's hands yet
      by_cases h₁ : r₁ = r
      · by_cases h₂ : r₂ = r
        · rw [h₁, h₂]
        · exfalso
          subst h₁
          rw [alloc_id] at hid₁
          rw [alloc_ne s h₂] at hid₂
          cases hid₁
          have hin := h.inIdr r₂ _ hid₂
          rw [← hty] at hin
          exact hfresh hin
      · by_cases h₂ : r₂ = r
        · exfalso
          subst h₂
          rw [alloc_id] at hid₂
          rw [alloc_ne s h₁] at hid₁
          cases hid₂
          have hin := h.inIdr r₁ _ hid₁
          rw [hty] at hin
          exact hfresh hin
        · rw [alloc_ne s h₁] at hid₁
          rw [alloc_ne s h₂] at hid₂
          exact h.unique r₁ r₂ i hty hid₁ hid₂
    · intro r' hr'
      by_cases hne : r' = r
      · exact hne ▸ hr
      · rw [alloc_ne s hne] at hr'
        exact h.known r' hr'
    · intro r'
      rw [alloc_alive, h.cover]
    · intro r' i hD hx hid hfunc
      have hne : r' ≠ r := fun heq => hx (heq ▸ rfl)
      rw [alloc_ne s hne] at hid hfunc ⊢
      exact h.defined r' i hD (Option.some_ne_none r') hid hfunc
    · intro type r' hr'
      rw [alloc_func]
      exact h.lru type r' hr'
  · intro i hid
    rw [alloc_id] at hid
    cases hid
    rw [alloc_func]
    exact h.not_live_of_free hfresh

theorem dropId_self (s : State) (r : ResId) : ((s.dropId r).res r).id = none := by
  simp [State.dropId]

theorem dropId_func (s : State) (r r' : ResId) : ((s.dropId r).res r').func = (s.res r').func := by
  by_cases h : r' = r
  · subst h
    simp [State.dropId]
  · simp [State.dropId, h]

theorem dropId_alive (s : State) (r r' : ResId) : ((s.dropId r).res r').alive = (s.res r').alive := by
  by_cases h : r' = r
  · subst h
    simp [State.dropId]
  · simp [State.dropId, h]

theorem dropId_ne (s : State) {r r' : ResId} (h : r' ≠ r) : (s.dropId r).res r' = s.res r' := by
  simp [State.dropId, h]

theorem dropId_idr (s : State) (r : ResId) (type : ResType) (i : Nat) :
    i ∈ (s.dropId r).idr type ↔
      i ∈ s.idr type ∧ ¬ (type = (s.res r).func.resType ∧ (s.res r).id = some i) := by
  by_cases h : type = (s.res r).func.resType
  · subst h
    simp only [State.dropId, Function.update_self, List.mem_filter, decide_eq_true_eq, true_and]
    exact and_congr_right fun _ => not_congr eq_comm
  · simp [State.dropId, h]

/-- An id can be given back when nothing is defined under it. -/
theorem Inv.dropId (h : Inv D (some r) s) (hunused : Unused s r) : Inv D none (s.dropId r) := by
  refine { fit := h.fit, noStream := h.noStream, holder := ?_, inIdr := ?_, unique := ?_, known := ?_, cover := ?_, defined := ?_, lru := ?_ }
  · intro type i hlive
    obtain ⟨r', hr', hid⟩ := h.holder type i hlive
    have hne : r' ≠ r := by
      rintro rfl
      have hfalse := hunused i hid
      rw [hr'] at hfalse
      exact Bool.false_ne_true (hfalse.symm.trans hlive)
    exact ⟨r', by rw [dropId_ne s hne, hr'], by rw [dropId_ne s hne, hid]⟩
  · intro r' i hid
    have hne : r' ≠ r := by
      rintro rfl
      rw [dropId_self] at hid
      cases hid
    rw [dropId_ne s hne] at hid
    rw [dropId_func, dropId_idr]
    refine ⟨h.inIdr r' i hid, ?_⟩
    intro hsame
    exact hne (h.unique r' r i hsame.1 hid hsame.2)
  · intro r₁ r₂ i hty hid₁ hid₂
    have hne : ∀ r', ((s.dropId r).res r').id = some i → r' ≠ r := by
      rintro r' hid rfl
      rw [dropId_self] at hid
      cases hid
    rw [dropId_func, dropId_func] at hty
    rw [dropId_ne s (hne r₁ hid₁)] at hid₁
    rw [dropId_ne s (hne r₂ hid₂)] at hid₂
    exact h.unique r₁ r₂ i hty hid₁ hid₂
  · intro r' hr'
    refine h.known r' ?_
    rw [dropId_alive] at hr'
    refine hr'.imp_left ?_
    intro hid
    by_cases hne : r' = r
    · subst hne
      rw [dropId_self] at hid
      cases hid
    · rwa [dropId_ne s hne] at hid
  · intro r'
    rw [dropId_alive, h.cover]
  · intro r' i hD _ hid hfunc
    have hne : r' ≠ r := by
      rintro rfl
      rw [dropId_self] at hid
      cases hid
    rw [dropId_ne s hne] at hid hfunc ⊢
    exact h.defined r' i hD (fun heq => hne (Option.some.inj heq)) hid hfunc
  · intro type r' hr'
    rw [dropId_func]
    exact h.lru type r' hr'

end Alloc

section Emit

theorem resType_ne_stream {func : VmwResFunc} (h : func ≠ .stream) : func.resType ≠ .stream := by
  cases func with
  | stream => exact absurd rfl h
  | _ => exact ResType.noConfusion

theorem Inv.define (h : Inv D (some r) s) (hunused : Unused s r) (hid : (s.res r).id = some i)
    (hfunc : (s.res r).func ≠ .stream) :
    Inv D none { s with log := .define (s.res r).func.resType i :: s.log } := by
  refine { h with fit := ⟨hunused i hid, h.fit⟩, holder := ?_, noStream := ?_, defined := ?_ }
  · intro type j hlive
    simp only [live, Bool.or_eq_true, decide_eq_true_eq] at hlive
    rcases hlive with ⟨rfl, rfl⟩ | hlive
    · exact ⟨r, rfl, hid⟩
    · exact h.holder type j hlive
  · intro j
    simp [live, resType_ne_stream hfunc, h.noStream]
  · intro r' j hD _ hid' hfunc
    simp only [live, Bool.or_eq_true, decide_eq_true_eq]
    by_cases hr : r' = r
    · subst hr
      rw [hid] at hid'
      cases hid'
      exact .inl ⟨rfl, rfl⟩
    · exact .inr (h.defined r' j hD (fun heq => hr (Option.some.inj heq)) hid' hfunc)

theorem Inv.undefine (h : Inv D none s) (hlive : live s.log (s.res r).func.resType i = true)
    (hid : (s.res r).id = some i) :
    Inv D (some r) { s with log := .destroy (s.res r).func.resType i :: s.log } := by
  refine { h with fit := ⟨hlive, h.fit⟩, holder := ?_, noStream := ?_, defined := ?_ }
  · intro type j hlive'
    simp only [live, Bool.and_eq_true, Bool.not_eq_true', decide_eq_false_iff_not] at hlive'
    exact h.holder type j hlive'.2
  · intro j
    simp [live, h.noStream]
  · intro r' j hD hx hid' hfunc
    have hne : r' ≠ r := fun heq => hx (heq ▸ rfl)
    simp only [live, Bool.and_eq_true, Bool.not_eq_true', decide_eq_false_iff_not]
    refine ⟨?_, h.defined r' j hD (Option.some_ne_none r') hid' hfunc⟩
    rintro ⟨htype, rfl⟩
    exact hne (h.unique r' r i htype.symm hid' hid)

end Emit

section Programs

variable {α β : Type} {P P' I I' : State → Prop}

/-- The program ends with `P`, or stops with `I`. -/
def Leads (P I : State → Prop) (x : M α) (s : State) : Prop :=
  Ends x s (fun _ t => P t) (fun _ t => I t)

/-- However the program ends, `I` holds then. -/
abbrev Leaves (I : State → Prop) (x : M α) (s : State) : Prop := Leads I I x s

theorem Leads.mono {x : M α} (h : Leads P I x s) (hP : ∀ t, P t → P' t) (hI : ∀ t, I t → I' t) :
    Leads P' I' x s :=
  Ends.mono h (fun _ => hP) (fun _ => hI)

theorem Leads.bind {x : M α} {f : α → M β} (hx : Leads P I x s) (hf : ∀ a t, P t → Leads P' I' (f a) t)
    (hI : ∀ t, I t → I' t) : Leads P' I' (x >>= f) s :=
  (Ends.mono hx (fun _ _ h => h) (fun _ => hI)).bind hf

theorem Quiet.leads {x : M α} (hx : Quiet x) (hP : ∀ t, Same s t → P t) (hI : ∀ t, Same s t → I t) :
    Leads P I x s :=
  (hx.ends s).mono (fun _ => hP) (fun _ => hI)

theorem Quiet.leaves {x : M α} (hx : Quiet x) (hI : ∀ t, Same s t → I t) : Leaves I x s := hx.leads hI hI

/-- What a program that defines nothing leaves to the rest. -/
theorem Quiet.then {x : M α} {f : α → M β} (hx : Quiet x) (hI : ∀ t, Same s t → I t)
    (hf : ∀ a t, Same s t → Leads P I (f a) t) : Leads P I (x >>= f) s :=
  Leads.bind (hx.leaves fun _ h => h) hf hI

/-- A reservation does not stop. -/
theorem reserve_then {f : Bool → M β} {ok : Bool} (hf : ∀ t, Same s t → Leads P I (f ok) t) :
    Leads P I (vmwFifoReserve ok >>= f) s :=
  hf { s with log := .fifo s.phase :: s.log } { Same.refl s with }

theorem define_ends {f : M β} (h : Inv D (some r) s) (hunused : Unused s r)
    (hid : (s.res r).id.isSome = true) (hfunc : (s.res r).func ≠ .stream) (hf : ∀ t, Inv D none t → Leads P I f t) :
    Leads P I (define r >>= fun _ => f) s := by
  obtain ⟨i, hi⟩ := Option.isSome_iff_exists.mp hid
  refine ends_bind.mpr (.bind_get ?_)
  rw [hi]
  exact hf _ ((h.define hunused hi hfunc).same { Same.refl _ with })

theorem undefine_ends {f : M β} (h : Inv D none s) (hset : Settled s r)
    (hid : (s.res r).id.isSome = true) (hf : ∀ t, Inv D (some r) t → Unused t r → Leads P I f t) :
    Leads P I (undefine r >>= fun _ => f) s := by
  obtain ⟨i, hi⟩ := Option.isSome_iff_exists.mp hid
  have hlive := hset i hi
  refine ends_bind.mpr (.bind_get ?_)
  rw [hi]
  refine hf _ ((h.undefine hlive hi).same { Same.refl _ with }) ?_
  intro j hj
  have hij : i = j := Option.some.inj (hi.symm.trans hj)
  subst hij
  simp [live]

theorem defineNew_ends (h : Inv D none s) (hnone : (s.res r).id = none) (hr : r ∈ s.resources)
    (hfunc : (s.res r).func ≠ .stream) (o : Create) : Leaves (Inv D none) (defineNew r o) s := by
  refine ((alloc_ends hnone o.alloc).mono (fun _ _ h => h) fun _ _ hfalse => hfalse.elim).bind ?_
  rintro ret t (⟨rfl, rfl⟩ | ⟨hret, rfl⟩)
  · obtain ⟨hinv, hunused⟩ := h.alloc hnone hr
    rw [if_neg (by simp)]
    refine .bind_get (.ite (fun _ => hinv.dropId hunused) fun _ => ?_)
    refine reserve_then fun t ht => .ite (fun _ => (hinv.same ht).dropId (hunused.same ht)) fun _ => ?_
    refine define_ends (hinv.same ht) (hunused.same ht) ?_ ?_ fun t h => h
    · rw [ht.id, alloc_id]
      rfl
    · rw [ht.func, alloc_func]
      exact hfunc
  · rw [if_pos hret]
    exact h

variable (env : Env)

theorem funcCreate_ends (h : Inv D none s) (hr : r ∈ s.resources) (o : Create) (takedown : Bool) :
    Leaves (Inv D none) (funcCreate env r o takedown) s := by
  have hquiet {γ : Type} {x : M γ} {t : State} (hx : Quiet x) (ht : Inv D none t) :
      Leaves (Inv D none) x t := hx.leaves fun _ hu => ht.same hu
  refine .bind_get (.ite (fun _ => h) fun hsome => ?_)
  have hnone : (s.res r).id = none := by simpa using hsome
  split
  · rename_i hfunc
    refine .bind_get (.ite (fun _ => h) fun _ => ?_)
    refine (defineNew_ends h hnone hr (by rw [hfunc]; decide) o).bind (fun ret t ht => ?_) fun _ ht => ht
    exact hquiet (.bind (.onlyIf _ (.modify fun s => { Same.refl s with })) fun _ => .pure _) ht
  · rename_i hfunc
    refine (defineNew_ends h hnone hr (by rw [hfunc]; decide) o).bind (fun ret t ht => ?_) fun _ ht => ht
    exact hquiet (.bind (.onlyIf _ (.discard (.inc env _ _))) fun _ => .pure _) ht
  · rename_i hfunc
    refine (defineNew_ends h hnone hr (by rw [hfunc]; decide) o).bind (fun ret t ht => ?_) fun _ ht => ht
    exact hquiet (.bind (.onlyIf _ (.discard (.inc env _ _))) fun _ => .pure _) ht
  · rename_i hfunc
    refine Quiet.then (.inc env _ _) (fun _ ht => h.same ht) fun _ t ht => ?_
    refine (defineNew_ends (h.same ht) ((ht.id r).trans hnone) (ht.resources ▸ hr)
      (by rw [ht.func, hfunc]; decide) o).bind (fun ret u hu => ?_) fun _ hu => hu
    exact hquiet (.bind (.onlyIf _ (.dec env _ _)) fun _ => .pure _) hu
  · exact h
  · exact h

theorem Unused.of_none (hnone : (s.res r).id = none) : Unused s r := by
  intro i hid
  rw [hnone] at hid
  cases hid

/-- The invariant, and if `ok` nothing is defined under the id of `r`. -/
def Destroyed (D : ResId → Prop) (r : ResId) (ok : Prop) (t : State) : Prop :=
  Inv D none t ∧ (ok → Unused t r)

/-- What follows a destroy command that has been committed. -/
theorem destroyed_ends {f : M β} (ok : Prop) (h : Inv D (some r) s) (hunused : Unused s r) (hf : Quiet f) :
    Leads (Destroyed D r ok) (Inv D none) (vmwResourceReleaseId r >>= fun _ => f) s := by
  have hdrop := h.dropId hunused
  refine ends_bind.mpr (hf.leads (fun t ht => ⟨hdrop.same ht, fun _ => ?_⟩) fun _ ht => hdrop.same ht)
  exact (Unused.of_none (dropId_self s r)).same ht

theorem vmwGbContextDestroy_ends (h : Inv D none s) (hset : Settled s r) (o : Destroy) :
    Leads (Destroyed D r (o.fifo = true ∨ (s.res r).id = none)) (Inv D none) (vmwGbContextDestroy env r o) s := by
  refine .bind_get (.ite (fun hid => ⟨h, fun _ => .of_none (by simpa using hid)⟩) fun hid => ?_)
  refine reserve_then fun t ht => .ite (fun hok => ⟨h.same ht, fun heq => ?_⟩) fun _ => ?_
  · exact absurd heq (not_or.mpr ⟨by simpa using hok, by simpa using hid⟩)
  · refine undefine_ends (h.same ht) (hset.same ht) (ht.someId hid) fun u hu hunused => ?_
    refine .bind_modify ?_
    have hsame : Same u (if some u.queryCid = (u.res r).id then { u with queryCidValid := false } else u) := by
      split
      · exact { Same.refl u with }
      · exact .refl u
    exact destroyed_ends _ (hu.same hsame) (hunused.same hsame) (.bind (.dec env _ _) fun _ => .pure _)

/-- `vmw_gb_surface_destroy` and `vmw_gb_shader_destroy` differ in what they do when there is no room. -/
theorem scrubDestroy_ends (h : Inv D none s) (hset : Settled s r) (o : Destroy)
    {noRoom : M Int} (hnoRoom : Quiet noRoom) :
    Leads (Destroyed D r (o.fifo = true ∨ (s.res r).id = none)) (Inv D none) (do
      let s ← get
      if (s.res r).id.isNone then
        return 0
      else
        lock .binding
        scrubAll o.scrubs
        if !(← vmwFifoReserve o.fifo) then
          noRoom
        else
          undefine r
          unlock .binding
          vmwResourceReleaseId r
          vmw3dResourceDec env (.resource r) o.takedown
          return 0) s := by
  refine .bind_get (.ite (fun hid => ⟨h, fun _ => .of_none (by simpa using hid)⟩) fun hid => ?_)
  refine Quiet.then (.lock _) (fun _ ht => h.same ht) fun _ t ht => ?_
  refine Quiet.then (.scrubAll _) (fun _ hu => (h.same ht).same hu) fun _ u hu => ?_
  refine reserve_then fun v hv => ?_
  have hsame : Same s v := (ht.trans hu).trans hv
  refine .ite (fun hok => hnoRoom.leads (fun w hw => ⟨(h.same hsame).same hw, fun heq => ?_⟩)
    fun _ hw => (h.same hsame).same hw) fun _ => ?_
  · exact absurd heq (not_or.mpr ⟨by simpa using hok, by simpa using hid⟩)
  · refine undefine_ends (h.same hsame) (hset.same hsame) (hsame.someId hid) fun w hw hunused => ?_
    refine .bind_modify ?_
    have hsame' : Same w { w with held := Function.update w.held .binding false } := { Same.refl w with }
    exact destroyed_ends _ (hw.same hsame') (hunused.same hsame') (.bind (.dec env _ _) fun _ => .pure _)

theorem vmwGbSurfaceDestroy_ends (h : Inv D none s) (hset : Settled s r) (o : Destroy) :
    Leads (Destroyed D r (o.fifo = true ∨ (s.res r).id = none)) (Inv D none) (vmwGbSurfaceDestroy env r o) s :=
  scrubDestroy_ends env h hset o (.pure _)

theorem vmwGbShaderDestroy_ends (h : Inv D none s) (hset : Settled s r) (o : Destroy) :
    Leads (Destroyed D r (o.fifo = true ∨ (s.res r).id = none)) (Inv D none) (vmwGbShaderDestroy env r o) s :=
  scrubDestroy_ends env h hset o (.bind (.unlock _) fun _ => .pure _)

theorem Destroyed.leaves {x : M α} {ok : Prop} (hx : Leads (Destroyed D r ok) (Inv D none) x s) :
    Leaves (Inv D none) x s :=
  hx.mono (fun _ h => h.1) fun _ h => h

theorem funcDestroy_ends (h : Inv D none s) (hD : D r) (o : Destroy) :
    Leaves (Inv D none) (funcDestroy env r o) s := by
  have hset := h.settled hD
  refine .bind_get ?_
  split
  · rename_i hfunc
    refine .bind_get (.ite (fun _ => h) fun hid => ?_)
    refine reserve_then fun t ht => .ite (fun _ => h.same ht) fun _ => ?_
    refine undefine_ends (h.same ht) ((hset (by rw [hfunc]; decide)).same ht) (ht.someId hid) fun u hu hunused => ?_
    refine .bind_modify ?_
    have hsame : Same u { u with usedMemorySize := u.usedMemorySize - (u.res r).backupSize } :=
      { Same.refl u with }
    exact (destroyed_ends True (hu.same hsame) (hunused.same hsame) (.pure _)).mono (fun _ h => h.1) fun _ h => h
  · rename_i hfunc
    exact Destroyed.leaves (vmwGbContextDestroy_ends env h (hset (by rw [hfunc]; decide)) o)
  · rename_i hfunc
    exact Destroyed.leaves (vmwGbSurfaceDestroy_ends env h (hset (by rw [hfunc]; decide)) o)
  · rename_i hfunc
    exact Destroyed.leaves (vmwGbShaderDestroy_ends env h (hset (by rw [hfunc]; decide)) o)
  · exact h
  · exact h

theorem doValidate_ends (h : Inv D none s) (hr : r ∈ s.resources) (hD : D r) (o : Validate) :
    Leaves (Inv D none) (vmwResourceDoValidate env r o) s := by
  have hset {g : Resource → Resource} {t : State} (ht : Inv D none t) (hg : Quiet (setRes r g)) :
      Leaves (Inv D none) (do setRes r g; return (0 : Int)) t :=
    (Quiet.bind hg fun _ => .pure _).leaves fun _ hu => ht.same hu
  refine (funcCreate_ends env h hr _ _).bind (fun ret t ht => .ite (fun _ => ht) fun _ => ?_) fun _ ht => ht
  refine .bind_get (.ite (fun _ => ?_) fun _ => ?_)
  · refine Quiet.then (.funcBind r _) (fun _ hu => ht.same hu) fun ret u hu => .ite (fun _ => ?_) fun _ => ?_
    · refine (funcDestroy_ends env (ht.same hu) hD _).bind (fun _ v hv => hv) fun _ hv => hv
    · exact hset (ht.same hu) (.setRes r (fun _ => rfl) (fun _ => rfl) (fun _ => rfl) (fun _ => rfl))
  · exact hset ht (.setRes r (fun _ => rfl) (fun _ => rfl) (fun _ => rfl) (fun _ => rfl))

theorem validateRound_ends (h : Inv D none s) (hr : r ∈ s.resources) (hD : D r) (o : Validate) :
    Leaves (Inv D none) (vmwResourceValidateRound env r o) s := by
  refine .bind_get (.ite (fun _ => h) fun _ => ?_)
  refine (doValidate_ends env h hr hD o).bind (fun ret t ht => ?_) fun _ ht => ht
  refine Quiet.leaves (.bind (.onlyIf _ (.setRes r ?_ ?_ ?_ ?_)) fun _ => .pure _) fun _ hu => ht.same hu
  all_goals
    intro res
    split <;> rfl

theorem doEvict_ends (h : Inv D none s) (hD : D r) (o : Evict) :
    Leaves (Inv D none) (vmwResourceDoEvict env r o) s := by
  refine .bind_get (Quiet.then (.stopIf _ _) (fun _ ht => h.same ht) fun _ t ht => ?_)
  refine Quiet.then (.vmwResourceCheckBuffer r o) (fun _ hu => (h.same ht).same hu) fun ret u hu => ?_
  have hinv := (h.same ht).same hu
  refine .ite (fun _ => hinv) fun _ => .bind_get ?_
  refine Quiet.then (.orZero _ (.funcUnbind r _ _)) (fun _ hv => hinv.same hv) fun ret v hv => ?_
  refine .ite (fun _ => hinv.same hv) fun _ => ?_
  refine Quiet.then (.setRes r (fun _ => rfl) (fun _ => rfl) (fun _ => rfl) (fun _ => rfl))
    (fun _ hw => (hinv.same hv).same hw) fun _ w hw => ?_
  refine (funcDestroy_ends env ((hinv.same hv).same hw) hD o.destroy).bind (fun ret x hx => ?_) fun _ hx => hx
  refine Quiet.leaves ?_ fun _ hy => hx.same hy
  exact .bind (.setRes r (fun _ => rfl) (fun _ => rfl) (fun _ => rfl) (fun _ => rfl)) fun _ => .pure _

theorem Inv.setLru (h : Inv D x s) {lru : ResType → List ResId}
    (hlru : ∀ type r, r ∈ lru type → D r ∧ (s.res r).func.resType = type) :
    Inv D x { s with lru := lru } := { h with lru := hlru }

theorem Inv.lruDel (h : Inv D x s) (r : ResId) : Inv D x (s.lruDel r) := by
  refine h.setLru fun type r' hr' => ?_
  by_cases htype : type = (s.res r).func.resType
  · subst htype
    rw [Function.update_self] at hr'
    exact h.lru _ r' (List.mem_of_mem_filter hr')
  · rw [Function.update_of_ne htype] at hr'
    exact h.lru type r' hr'

theorem Inv.lruAdd (h : Inv D x s) (hD : D r) : Inv D x (s.lruAdd r) := by
  refine h.setLru fun type r' hr' => ?_
  by_cases htype : type = (s.res r).func.resType
  · subst htype
    rw [Function.update_self, List.mem_append, List.mem_singleton] at hr'
    exact hr'.elim (h.lru _ r') fun heq => ⟨heq ▸ hD, by rw [heq]⟩
  · rw [Function.update_of_ne htype] at hr'
    exact h.lru type r' hr'

theorem evictFirst_ends (h : Inv D none s) (type : ResType) (o : Evict) :
    Leaves (Inv D none) (evictFirst env type o) s := by
  refine .bind_get ?_
  split
  · exact h
  · rename_i r rs hlru
    have hD : D r := (h.lru type r (hlru ▸ List.mem_cons_self ..)).1
    refine .bind_modify ?_
    refine (doEvict_ends env (h.lruDel r) hD o).bind (fun ret t ht => ?_) fun _ ht => ht
    unfold onlyIf
    split
    · exact ht.lruAdd hD
    · exact ht

theorem evictTypeLoop_ends (h : Inv D none s) (type : ResType) (o : Nat → Evict) (fuel k errCount : Nat) :
    Leaves (Inv D none) (vmwResourceEvictTypeLoop env type o fuel k errCount) s := by
  induction fuel generalizing s k errCount with
  | zero => exact h
  | succ fuel ih =>
    refine .bind_get ?_
    split
    · exact h
    · refine (evictFirst_ends env h type _).bind (fun ret t ht => ?_) fun _ ht => ht
      exact .ite (fun _ => .ite (fun _ => ih ht _ _) fun _ => ht) fun _ => ih ht _ _

theorem evictAll_ends (h : Inv D none s) (o : ResType → Nat → Evict) :
    Leaves (Inv D none) (vmwResourceEvictAll env o) s := by
  have htype {t : State} (ht : Inv D none t) (type : ResType) :
      Leaves (Inv D none) (vmwResourceEvictType env type (o type)) t :=
    .bind_get (evictTypeLoop_ends env ht type (o type) _ _ _)
  refine Quiet.then (.lock _) (fun _ ht => h.same ht) fun _ t ht => ?_
  refine (htype (h.same ht) .context).bind (fun _ t ht => ?_) fun _ ht => ht
  refine (htype ht .surface).bind (fun _ t ht => ?_) fun _ ht => ht
  refine (htype ht .stream).bind (fun _ t ht => ?_) fun _ ht => ht
  refine (htype ht .shader).bind (fun _ t ht => ?_) fun _ ht => ht
  exact (Quiet.unlock _).leaves fun _ hu => ht.same hu

theorem unreserve_ends (h : Inv D none s) (hD : D r) (newBackup : Option BufId) :
    Leaves (Inv D none) (vmwResourceUnreserve r newBackup) s := by
  refine .bind_get (.ite (fun _ => ?_) fun _ => h)
  refine Quiet.then (.switchBackup r newBackup) (fun _ ht => h.same ht) fun _ t ht => .bind_get ?_
  exact .ite (fun _ => (h.same ht).lruAdd hD) fun _ => h.same ht

theorem reserve_ends (h : Inv D none s) (noBackup : Bool) (alloc : Option BufId) :
    Leaves (Inv D none) (vmwResourceReserve r noBackup alloc) s := by
  refine .bind_modify ?_
  refine Quiet.leaves ?_ fun _ hu => (h.lruDel r).same hu
  exact .bind .get fun _ => .ite (.vmwResourceBufAlloc r alloc) (.pure _)

end Programs

end Invariant

end Vmwgfx.Device
