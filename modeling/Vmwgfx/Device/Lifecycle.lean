import Vmwgfx.Device.Ids

/-! A device id is given back only when nothing is defined under it. -/

namespace Vmwgfx.Device

open Vmwgfx.Lib
open Vmwgfx.Resource (ResType VmwResFunc BufId)

variable {D D' : ResId → Prop} {x : Option ResId} {s t : State} {r : ResId} {i : Nat}

section Programs

variable {α β : Type} {P P' I I' : State → Prop} (env : Env)

section Release

/-- Nothing is asked of a resource that is not in `D`. -/
theorem Inv.forget (h : Inv D (some r) s) (hD : ¬ D r) : Inv D none s :=
  { h with
    defined := fun r' i hD' _ hid => by
      refine h.defined r' i hD' (fun heq => hD ?_) hid
      exact Option.some.inj heq ▸ hD' }

/-- A resource that is on no list may die. -/
theorem Inv.die (h : Inv D (some r) s) (hlru : ∀ type, r ∉ s.lru type) :
    Inv (fun r' => D r' ∧ r' ≠ r) none
      { s with res := Function.update s.res r { s.res r with alive := false } } := by
  have hsame (r' : ResId) : (Function.update s.res r { s.res r with alive := false } r').func = (s.res r').func ∧
      (Function.update s.res r { s.res r with alive := false } r').id = (s.res r').id := by
    by_cases hr : r' = r
    · subst hr
      simp
    · simp [hr]
  refine { fit := h.fit, noStream := h.noStream, holder := ?_, inIdr := ?_, unique := ?_, known := ?_,
           cover := ?_, defined := ?_, lru := ?_ }
  · intro type i hlive
    obtain ⟨r', hr', hid⟩ := h.holder type i hlive
    exact ⟨r', by rw [(hsame r').1, hr'], by rw [(hsame r').2, hid]⟩
  · intro r' i hid
    simp only [hsame] at hid ⊢
    exact h.inIdr r' i hid
  · intro r₁ r₂ i hty hid₁ hid₂
    simp only [hsame] at hty hid₁ hid₂
    exact h.unique r₁ r₂ i hty hid₁ hid₂
  · intro r' hr'
    simp only [hsame] at hr'
    refine h.known r' (hr'.imp_right fun halive => ?_)
    by_cases hne : r' = r
    · subst hne
      simp at halive
    · simpa [hne] using halive
  · intro r'
    by_cases hne : r' = r
    · subst hne
      simp
    · simp [hne, h.cover]
  · intro r' i hD _ hid hfunc
    simp only [hsame] at hid hfunc ⊢
    exact h.defined r' i hD.1 (fun heq => hD.2 (Option.some.inj heq)) hid hfunc
  · intro type r' hr'
    simp only [hsame]
    refine ⟨⟨(h.lru type r' hr').1, ?_⟩, (h.lru type r' hr').2⟩
    rintro rfl
    exact hlru type hr'

theorem Inv.offLru (h : Inv D x s) (r : ResId) (type : ResType) : r ∉ (s.lruDel r).lru type := by
  intro hr
  by_cases htype : type = (s.res r).func.resType
  · subst htype
    simp [State.lruDel] at hr
  · simp only [State.lruDel, Function.update_of_ne htype] at hr
    exact htype (h.lru type r hr).2.symm

theorem Inv.kill (h : Inv D (some r) s) :
    Inv (fun r' => D r' ∧ r' ≠ r) none
      (State.lruDel { s with res := Function.update s.res r { s.res r with alive := false } } r) := by
  have hcomm : State.lruDel { s with res := Function.update s.res r { s.res r with alive := false } } r =
      { s.lruDel r with res := Function.update s.res r { s.res r with alive := false } } := by
    simp [State.lruDel]
  rw [hcomm]
  exact (h.lruDel r).die (h.offLru r)

/-- The destroy command of a final release of `r` finds room in the FIFO, if one is due. -/
def Reserved (s : State) (r : ResId) (o : Release) : Prop :=
  (s.res r).id.isSome = true → (s.res r).func ≠ .stream → (s.res r).func ≠ .gbSurface → o.destroy.fifo = true

/-- What `hw_destroy` leaves: the id can be given back, unless `binding_mutex` stays locked. -/
def Gone (D : ResId → Prop) (r : ResId) (t : State) : Prop :=
  Inv D none t ∧ (Unused t r ∨ t.held .binding = true)

theorem undefine_dead {f : M β} (h : Inv D none s) (hD : ¬ D r) (hset : Settled s r) (hf : Quiet f) :
    Leads (Gone D r) (Inv D none) (undefine r >>= fun _ => f) s := by
  by_cases hid : (s.res r).id.isSome = true
  · refine undefine_ends h hset hid fun t ht hunused => ?_
    have hinv := ht.forget hD
    exact hf.leads (fun u hu => ⟨hinv.same hu, .inl (hunused.same hu)⟩) fun _ hu => hinv.same hu
  · have hnone : (s.res r).id = none := by simpa using hid
    refine ends_bind.mpr (.bind_get ?_)
    rw [hnone]
    exact hf.leads (fun u hu => ⟨h.same hu, .inl ((Unused.of_none hnone).same hu)⟩) fun _ hu => h.same hu

theorem vmwHwContextDestroy_ends (h : Inv D none s) (hD : ¬ D r) (hset : Settled s r) {o : Release}
    (hres : o.destroy.fifo = true ∨ (s.res r).id = none) :
    Leads (Gone D r) (Inv D none) (vmwHwContextDestroy env r o) s := by
  refine .bind_get (.ite (fun _ => ?_) fun _ => ?_)
  · refine Quiet.then (.lock _) (fun _ ht => h.same ht) fun _ t ht => ?_
    refine Quiet.then (.lock _) (fun _ hu => (h.same ht).same hu) fun _ u hu => ?_
    refine Quiet.then (.scrubAll _) (fun _ hv => ((h.same ht).same hu).same hv) fun _ v hv => ?_
    have hsame := (ht.trans hu).trans hv
    refine (vmwGbContextDestroy_ends env (h.same hsame) (hset.same hsame) _).bind
      (fun _ w hw => .bind_get ?_) fun _ hw => hw
    have hunused : Unused w r := hw.2 (by rwa [hsame.id])
    exact (Quiet.bind (.onlyIf _ (.releasePinnedLocked false _)) fun _ => .bind (.unlock _) fun _ =>
      .unlock _).leads (fun x hx => ⟨hw.1.same hx, .inl (hunused.same hx)⟩) fun _ hx => hw.1.same hx
  · refine Quiet.then (.vmwExecbufReleasePinnedBo _) (fun _ ht => h.same ht) fun _ t ht => ?_
    refine reserve_then fun u hu => ?_
    have hsame := ht.trans hu
    refine .ite (fun _ => undefine_dead (h.same hsame) hD (hset.same hsame) (.dec env _ _)) fun hok => ?_
    exact ⟨h.same hsame, .inl ((Unused.of_none (hres.resolve_left hok)).same hsame)⟩

theorem scrubAll_held (oks : List Bool) (s : State) :
    Ends (scrubAll oks) s (fun _ t => Same s t ∧ t.held = s.held) (fun _ _ => False) := by
  induction oks generalizing s with
  | nil => exact ⟨.refl s, rfl⟩
  | cons ok oks ih =>
    have hstep (t : State) (ht : Same s t) (hheld : t.held = s.held) :
        Ends (scrubAll oks) t (fun _ u => Same s u ∧ u.held = s.held) (fun _ _ => False) :=
      (ih t).mono (fun _ u hu => ⟨ht.trans hu.1, hu.2.trans hheld⟩) fun _ _ hfalse => hfalse
    cases ok with
    | true => exact hstep _ { Same.refl s with } rfl
    | false => exact hstep _ { Same.refl s with } rfl

/-- Without room `vmw_gb_surface_destroy` returns with `binding_mutex` locked. -/
theorem noRoom_ends (hid : (s.res r).id ≠ none) {o : Destroy} (hfifo : o.fifo = false) :
    Leads (fun t => Same s t ∧ t.held .binding = true) (Same s) (vmwGbSurfaceDestroy env r o) s := by
  refine .bind_get (.ite (fun hnone => absurd (by simpa using hnone) hid) fun _ => ?_)
  refine ends_bind.mpr (.bind_get (((Quiet.stopIf _ _).ends s).bind fun _ t ht => ?_))
  have hlock : Same s { t with held := Function.update t.held .binding true } :=
    ht.trans { Same.refl t with }
  refine ((scrubAll_held o.scrubs _).mono (fun _ _ h => h) fun _ _ hfalse => hfalse.elim).bind
    fun _ u hu => ?_
  rw [hfifo]
  exact ⟨(hlock.trans hu.1).trans { Same.refl u with }, by simp [hu.2]⟩

theorem vmwHwSurfaceDestroy_ends (h : Inv D none s) (hD : ¬ D r) (hset : Settled s r) {o : Destroy}
    (hres : (s.res r).func = .gbSurface ∨ o.fifo = true ∨ (s.res r).id = none) :
    Leads (Gone D r) (Inv D none) (vmwHwSurfaceDestroy env r o) s := by
  refine .bind_get (.ite (fun _ => ?_) fun hfunc => .ite (fun hid => ?_) fun hid => ?_)
  · by_cases hroom : o.fifo = true ∨ (s.res r).id = none
    · exact (vmwGbSurfaceDestroy_ends env h hset o).bind
        (fun _ t ht => ⟨ht.1, .inl (ht.2 hroom)⟩) fun _ ht => ht
    · obtain ⟨hfifo, hid⟩ := not_or.mp hroom
      exact (noRoom_ends env hid (by simpa using hfifo)).bind
        (fun _ t ht => ⟨h.same ht.1, .inr ht.2⟩) fun _ ht => h.same ht
  · refine reserve_then fun t ht => .ite (fun _ => ?_) fun hok => ?_
    · refine undefine_dead (h.same ht) hD (hset.same ht) ?_
      exact .bind (.lock _) fun _ => .bind (.modify fun s => { Same.refl s with }) fun _ =>
        .bind (.unlock _) fun _ => .dec env _ _
    · have hnone := (hres.resolve_left hfunc).resolve_left hok
      simp [hnone] at hid
  · have hnone : (s.res r).id = none := by simpa using hid
    exact (Quiet.dec env _ _).leads (fun t ht => ⟨h.same ht, .inl ((Unused.of_none hnone).same ht)⟩)
      fun _ ht => h.same ht

theorem hwDestroy_ends (h : Inv D none s) (hD : ¬ D r) (hset : (s.res r).func ≠ .stream → Settled s r)
    {o : Release} (hres : Reserved s r o) : Leads (Gone D r) (Inv D none) (hwDestroy env r o) s := by
  have hroom (hstream : (s.res r).func ≠ .stream) (hsurface : (s.res r).func ≠ .gbSurface) :
      o.destroy.fifo = true ∨ (s.res r).id = none := by
    by_cases hid : (s.res r).id.isSome = true
    · exact .inl (hres hid hstream hsurface)
    · exact .inr (by simpa using hid)
  refine .bind_get ?_
  split
  · rename_i hfunc
    exact vmwHwContextDestroy_ends env h hD (hset (by rw [hfunc]; decide))
      (hroom (by rw [hfunc]; decide) (by rw [hfunc]; decide))
  · rename_i hfunc
    exact vmwHwContextDestroy_ends env h hD (hset (by rw [hfunc]; decide))
      (hroom (by rw [hfunc]; decide) (by rw [hfunc]; decide))
  · rename_i hfunc
    exact vmwHwSurfaceDestroy_ends env h hD (hset (by rw [hfunc]; decide))
      (.inr (hroom (by rw [hfunc]; decide) (by rw [hfunc]; decide)))
  · rename_i hfunc
    exact vmwHwSurfaceDestroy_ends env h hD (hset (by rw [hfunc]; decide)) (.inl hfunc)
  · rename_i hfunc
    refine (vmwGbShaderDestroy_ends env h (hset (by rw [hfunc]; decide)) _).bind (fun _ t ht => ?_) fun _ ht => ht
    exact ⟨ht.1, .inl (ht.2 (hroom (by rw [hfunc]; decide) (by rw [hfunc]; decide)))⟩
  · rename_i hfunc
    refine ⟨h, .inl fun i _ => ?_⟩
    rw [hfunc]
    exact h.noStream i

/-- The id goes back, whether the device has been told about the resource or not. -/
theorem release_ends (h : Inv D (some r) s) {o : Release}
    (hset : (s.res r).activated = true → (s.res r).func ≠ .stream → Settled s r)
    (hunused : (s.res r).activated = false → Unused s r) (hres : (s.res r).activated = true → Reserved s r o) :
    Leaves (Inv (fun r' => D r' ∧ r' ≠ r) none) (vmwResourceRelease env r o) s := by
  have hkill := h.kill
  refine .bind_modify (.bind_modify ?_)
  generalize hu : State.lruDel { s with
    res := Function.update s.res r { s.res r with alive := false } } r = u at hkill ⊢
  have hfunc : (u.res r).func = (s.res r).func := by simp [← hu, State.lruDel]
  have hid : (u.res r).id = (s.res r).id := by simp [← hu, State.lruDel]
  have hact : (u.res r).activated = (s.res r).activated := by simp [← hu, State.lruDel]
  have hlog : u.log = s.log := by simp [← hu, State.lruDel]
  refine Quiet.then (.releaseBackup r _) (fun _ hv => hkill.same hv) fun _ v hv => .bind_get ?_
  have hinv := hkill.same hv
  rw [hv.activated, hact]
  cases hc : (s.res r).activated with
  | false =>
    have hun : Unused u r := by
      intro i hi
      rw [hid] at hi
      rw [hlog, hfunc]
      exact hunused hc i hi
    exact ((hinv.except (some r)).dropId (hun.same hv))
  | true =>
    have hse : (v.res r).func ≠ .stream → Settled v r := by
      intro hstream i hi
      rw [hv.func, hfunc] at hstream
      rw [hv.id, hid] at hi
      rw [hv.live, hv.func, hlog, hfunc]
      exact hset hc hstream i hi
    have hre : Reserved v r o := by
      unfold Reserved
      rw [hv.id, hv.func, hid, hfunc]
      exact hres hc
    refine Leads.bind (P := fun t => Inv (fun r' => D r' ∧ r' ≠ r) none t ∧ Unused t r) ?_ ?_ fun _ ht => ht
    · refine (hwDestroy_ends env hinv (fun hD => hD.2 rfl) hse hre).bind (fun _ t ht => ?_) fun _ ht => ht
      refine ends_bind.mpr (.bind_get ?_)
      rcases ht.2 with hun | hheld
      · have hquiet : Quiet (stopIf (t.held .binding) .hang) := .stopIf _ _
        refine Quiet.then hquiet (fun _ hw => ht.1.same hw) fun _ w hw => ?_
        have hlock := hw.trans (u := { w with held := Function.update w.held .binding true }) { Same.refl w with }
        have hboth := hlock.trans
          (u := { w with held := Function.update (Function.update w.held .binding true) .binding false })
          { Same.refl w with }
        exact ⟨ht.1.same hboth, hun.same hboth⟩
      · rw [hheld]
        exact ht.1
    · intro _ t ht
      exact (ht.1.except (some r)).dropId ht.2

end Release

section Init

theorem Inv.fresh (h : Inv D none s) (hr : r ∉ s.resources) (func : VmwResFunc) (backupSize : Nat) :
    Inv (fun r' => D r' ∨ r' = r) none
      { s with resources := r :: s.resources, res := Function.update s.res r (newResource func backupSize) } := by
  have hold (r' : ResId) (hid : (s.res r').id.isSome = true ∨ D r') : r' ≠ r := by
    rintro rfl
    exact hr (h.known r' (hid.imp_right (h.cover r').mpr))
  have hne (r' : ResId) {i : Nat}
      (hid : (Function.update s.res r (newResource func backupSize) r').id = some i) : r' ≠ r := by
    rintro rfl
    simp [newResource] at hid
  refine { fit := h.fit, noStream := h.noStream, holder := ?_, inIdr := ?_, unique := ?_, known := ?_,
           cover := ?_, defined := ?_, lru := ?_ }
  · intro type i hlive
    obtain ⟨r', hr', hid⟩ := h.holder type i hlive
    have hne := hold r' (.inl (by rw [hid]; rfl))
    exact ⟨r', by simp [hne, hr'], by simp [hne, hid]⟩
  · intro r' i hid
    have hne := hne r' hid
    simp only [Function.update_of_ne hne] at hid ⊢
    exact h.inIdr r' i hid
  · intro r₁ r₂ i hty hid₁ hid₂
    have h₁ := hne r₁ hid₁
    have h₂ := hne r₂ hid₂
    simp only [Function.update_of_ne h₁, Function.update_of_ne h₂] at hty hid₁ hid₂
    exact h.unique r₁ r₂ i hty hid₁ hid₂
  · intro r' hr'
    by_cases heq : r' = r
    · exact heq ▸ List.mem_cons_self ..
    · simp only [Function.update_of_ne heq] at hr'
      exact List.mem_cons_of_mem _ (h.known r' hr')
  · intro r'
    by_cases heq : r' = r
    · subst heq
      simp [newResource]
    · simp [heq, h.cover]
  · intro r' i hD _ hid hfunc
    have hne := hne r' hid
    simp only [Function.update_of_ne hne] at hid hfunc ⊢
    exact h.defined r' i (hD.resolve_right hne) (Option.some_ne_none r') hid hfunc
  · intro type r' hr'
    have hD := h.lru type r' hr'
    have hne := hold r' (.inr hD.1)
    exact ⟨.inl hD.1, by simp only [Function.update_of_ne hne]; exact hD.2⟩

/-- The invariant, for the resources that are alive. -/
def Ok (s : State) : Prop := ∃ D, Inv D none s

theorem Ok.same (h : Ok s) (hst : Same s t) : Ok t := ⟨_, h.choose_spec.same hst⟩

theorem alike_setRes (s : State) (r : ResId) (f : Resource → Resource) (hfunc : (f (s.res r)).func = (s.res r).func)
    (hid : (f (s.res r)).id = (s.res r).id) (halive : (f (s.res r)).alive = (s.res r).alive) :
    Alike s { s with res := Function.update s.res r (f (s.res r)) } := by
  refine { Same.refl s with func := ?_, id := ?_, alive := ?_ }
  all_goals
    intro r'
    by_cases hr : r' = r
    · subst hr
      simp [hfunc, hid, halive]
    · simp [hr]

variable {rel : Release}

/-- A resource with an id that the device has not been told about goes away again. -/
theorem abort_ends (h : Inv D (some r) s) (hunused : Unused s r) (hact : (s.res r).activated = false) {ret : Int} :
    Leaves Ok (do vmwResourceRelease env r rel; return ret) s := by
  have hno (hc : (s.res r).activated = true) : False := Bool.false_ne_true (hact.symm.trans hc)
  refine (release_ends env h (fun hc => (hno hc).elim) (fun _ => hunused) fun hc => (hno hc).elim).bind
    (fun _ t ht => ⟨_, ht⟩) fun _ ht => ⟨_, ht⟩

theorem resourceInit_then {f : M β} (h : Inv D none s) (hr : r ∉ s.resources) (func : VmwResFunc) (size : Nat)
    (hf : ∀ t, Inv (fun r' => D r' ∨ r' = r) none t → t.res r = newResource func size → r ∈ t.resources →
      (∀ type, r ∉ t.lru type) → Leads P I f t) :
    Leads P I (vmwResourceInit r func size >>= fun _ => f) s := by
  refine hf _ (h.fresh hr func size) (Function.update_self ..) (List.mem_cons_self ..) fun type hlru => ?_
  exact hr (h.known r (.inr ((h.cover r).mpr (h.lru type r hlru).1)))

/-- A stream is not defined by a command. -/
theorem Inv.ofStream (h : Inv D (some r) s) (hfunc : (s.res r).func = .stream) : Inv D none s :=
  { h with
    defined := fun r' i hD _ hid hstream => by
      refine h.defined r' i hD (fun heq => hstream ?_) hid hstream
      exact Option.some.inj heq ▸ hfunc }

theorem activate_ends (h : Inv D none s) {ret : Int} : Leaves Ok (do vmwResourceActivate r; return ret) s :=
  ⟨_, h.alike (alike_setRes s r (fun res => { res with activated := true }) rfl rfl rfl)⟩

theorem resFree_ends (h : Inv D none s) (hlru : ∀ type, r ∉ s.lru type) {ret : Int} :
    Leaves Ok (do resFree r; return ret) s :=
  ⟨_, (h.except (some r)).die hlru⟩

theorem contextInit_ends (h : Inv D none s) (hr : r ∉ s.resources) (size : Nat) (o : Create) (rel : Release) :
    Leaves Ok (vmwContextInit env r size o rel) s := by
  refine .ite (fun _ => ?_) fun _ => ?_
  · exact resourceInit_then h hr _ _ fun t ht _ _ _ => activate_ends ht
  · refine resourceInit_then h hr _ _ fun t ht hnew hmem hlru => ?_
    have hnone : (t.res r).id = none := by rw [hnew]; rfl
    refine ((alloc_ends hnone o.alloc).mono (fun _ _ h => h) fun _ _ hfalse => hfalse.elim).bind ?_
    rintro ret u (⟨rfl, rfl⟩ | ⟨hret, rfl⟩)
    · obtain ⟨hinv, hunused⟩ := ht.alloc hnone hmem
      have hact : ((t.alloc r).res r).activated = false := by simp [State.alloc, hnew, newResource]
      rw [if_neg (by simp)]
      refine .bind_get (.ite (fun _ => abort_ends env hinv hunused hact) fun _ => ?_)
      refine reserve_then fun v hv => .ite (fun _ => ?_) fun _ => ?_
      · exact abort_ends env (hinv.same hv) (hunused.same hv) ((hv.activated r).trans hact)
      · refine define_ends (hinv.same hv) (hunused.same hv) ?_ ?_ fun w hw => ?_
        · rw [hv.id, alloc_id]
          rfl
        · rw [hv.func, alloc_func, hnew]
          decide
        · exact Quiet.then (.inc env _ _) (fun _ hx => ⟨_, hw.same hx⟩) fun _ x hx => activate_ends (hw.same hx)
    · rw [if_pos hret]
      exact resFree_ends ht hlru

theorem surfaceInit_ends (h : Inv D none s) (hr : r ∉ s.resources) (size : Nat) (o : Request) :
    Leaves Ok (vmwSurfaceInit env r size o) s := by
  refine Quiet.then (.onlyIf _ (.discard (.inc env _ _))) (fun _ ht => ⟨_, h.same ht⟩) fun _ t ht => ?_
  exact resourceInit_then (h.same ht) (ht.resources ▸ hr) _ _ fun u hu _ _ _ => activate_ends hu

theorem shaderInit_ends (h : Inv D none s) (hr : r ∉ s.resources) (size : Nat) (byteCode : Option BufId) :
    Leaves Ok (vmwGbShaderInit r size byteCode) s := by
  refine resourceInit_then h hr _ _ fun t ht _ _ _ => ?_
  refine Quiet.then (.setRes r (fun _ => rfl) (fun _ => rfl) (fun _ => rfl) (fun _ => rfl))
    (fun _ hu => ⟨_, ht.same hu⟩) fun _ u hu => activate_ends (ht.same hu)

theorem streamInit_ends (h : Inv D none s) (hr : r ∉ s.resources) (o : Create) (claim : Int) (rel : Release) :
    Leaves Ok (vmwStreamInit env r o claim rel) s := by
  refine resourceInit_then h hr _ _ fun t ht hnew hmem hlru => ?_
  have hnone : (t.res r).id = none := by rw [hnew]; rfl
  refine ((alloc_ends hnone o.alloc).mono (fun _ _ h => h) fun _ _ hfalse => hfalse.elim).bind ?_
  rintro ret u (⟨rfl, rfl⟩ | ⟨hret, rfl⟩)
  · obtain ⟨hinv, hunused⟩ := ht.alloc hnone hmem
    have hact : ((t.alloc r).res r).activated = false := by simp [State.alloc, hnew, newResource]
    rw [if_neg (by simp)]
    refine .ite (fun _ => abort_ends env hinv hunused hact) fun _ => activate_ends (hinv.ofStream ?_)
    rw [alloc_func, hnew]
    rfl
  · rw [if_pos hret]
    exact resFree_ends ht hlru

end Init

end Programs

section Machine

variable {env : Env} {a : Action}

/-- In a final release of a resource that is defined on the device, the reservation of the
destroy command finds room. A guest-backed surface never gets as far without it. -/
def DestroysReleased (s : State) : Action → Prop
  | .release r o => Reserved s r o
  | _ => True

theorem Leaves.endState {α : Type} {I : State → Prop} {x : M α} (h : Leaves I x s) : I (endState (x s)) := by
  unfold Leaves Leads Ends at h
  unfold Device.endState
  cases hx : x s with
  | ok _ t =>
    rw [hx] at h
    exact h
  | error _ t =>
    rw [hx] at h
    exact h

theorem Leaves.discard {α : Type} {I : State → Prop} {x : M α} (h : Leaves I x s) : Leaves I (discard x) s :=
  ends_discard.mpr h

theorem Inv.ok {x : M Unit} (h : Leaves (Inv D none) x s) : Leaves Ok x s :=
  h.mono (fun _ ht => ⟨D, ht⟩) fun _ ht => ⟨D, ht⟩

theorem notifierPrepare_ends (h : Inv D none s) (o : Prepare) :
    Leaves (Inv D none) (vmwgfxPmNotifierPrepare env o) s := by
  refine Quiet.then (.modify fun s => { Same.refl s with }) (fun _ ht => h.same ht) fun _ t ht => ?_
  refine Quiet.then (.vmwExecbufReleasePinnedBo _) (fun _ hu => (h.same ht).same hu) fun _ u hu => ?_
  refine (evictAll_ends env ((h.same ht).same hu) o.evict).bind (fun _ v hv => .bind_get ?_) fun _ hv => hv
  exact (Quiet.ttmBoSwapoutAll env _ _).leaves fun _ hw => hv.same hw

theorem Ok.perform (hok : Ok s) (ha : enabled env s a = true) (hdestroys : DestroysReleased s a) :
    Leaves Ok (perform env a) s := by
  obtain ⟨D, h⟩ := hok
  have hquiet {x : M Unit} (hx : Quiet x) : Leaves Ok x s := hx.leaves fun _ ht => ⟨D, h.same ht⟩
  cases a with
  | load o fb => exact hquiet (.discard (.vmwDriverLoad env o fb))
  | unload takedown => exact hquiet (.vmwDriverUnload env takedown)
  | contextInit r size o rel =>
    simp only [enabled, Bool.and_eq_true, decide_eq_true_eq] at ha
    exact (contextInit_ends env h ha.2 size o rel).discard
  | surfaceInit r size o =>
    simp only [enabled, Bool.and_eq_true, decide_eq_true_eq] at ha
    exact (surfaceInit_ends env h ha.2 size o).discard
  | shaderInit r size byteCode =>
    simp only [enabled, Bool.and_eq_true, decide_eq_true_eq] at ha
    exact (shaderInit_ends h ha.1.2 size byteCode).discard
  | streamInit r o claim rel =>
    simp only [enabled, Bool.and_eq_true, decide_eq_true_eq] at ha
    exact (streamInit_ends env h ha.2 o claim rel).discard
  | reserve r noBackup alloc => exact Inv.ok (reserve_ends h noBackup alloc).discard
  | validate r o =>
    simp only [enabled, usable, Bool.and_eq_true] at ha
    exact Inv.ok (validateRound_ends env h (h.known r (.inr ha.1.2.1)) ((h.cover r).mp ha.1.2.1) o).discard
  | unreserve r newBackup =>
    simp only [enabled, usable, Bool.and_eq_true] at ha
    exact Inv.ok (unreserve_ends h ((h.cover r).mp ha.1.1) newBackup)
  | pin r =>
    change Leaves Ok (setRes r fun res => { res with pinCount := res.pinCount + 1 }) s
    exact hquiet (.setRes r (fun _ => rfl) (fun _ => rfl) (fun _ => rfl) (fun _ => rfl))
  | unpin r =>
    change Leaves Ok (setRes r fun res => { res with pinCount := res.pinCount - 1 }) s
    exact hquiet (.setRes r (fun _ => rfl) (fun _ => rfl) (fun _ => rfl) (fun _ => rfl))
  | evict type o => exact Inv.ok (evictFirst_ends env h type o).discard
  | release r o =>
    simp only [enabled, usable, Bool.and_eq_true] at ha
    have hset (hstream : (s.res r).func ≠ .stream) : Settled s r := h.settled ((h.cover r).mp ha.1.1) hstream
    refine (release_ends env (h.except (some r)) (fun _ => hset) (fun hact => ?_) fun _ => hdestroys).mono
      (fun _ ht => ⟨_, ht⟩) fun _ ht => ⟨_, ht⟩
    exact (Bool.false_ne_true (hact.symm.trans ha.1.2)).elim
  | bufCreate b =>
    exact hquiet (.bind (.modify fun s => { Same.refl s with }) fun _ => .setBuf b _)
  | bufValidate b dest pin o => exact hquiet (.discard (.ttmBoValidate env b dest pin o))
  | bufRelease b o => exact hquiet (.bind (.setBuf b _) fun _ => .vmwTtmUnbind env b o)
  | execbuf o => exact hquiet (.discard (.vmwExecbufProcess env o))
  | releasePinned o => exact hquiet (.vmwExecbufReleasePinnedBo o)
  | command ok => exact hquiet (.discard (.fifoCommand ok))
  | masterSet o vtLock takedown => exact hquiet (.discard (.vmwMasterSet env o vtLock takedown))
  | masterDrop o takedown => exact hquiet (.vmwMasterDrop env o takedown)
  | notifierPrepare o => exact Inv.ok (notifierPrepare_ends h o)
  | pmPrepare takedown o => exact hquiet (.discard (.vmwPmPrepare env takedown o))
  | pmComplete o => exact hquiet (.vmwPmComplete env o)
  | notifierPost => exact hquiet (.modify fun s => { Same.refl s with })

theorem Ok.step (hok : Ok s) (hdestroys : DestroysReleased s a) (hstep : step env s a = some t) : Ok t := by
  unfold Device.step at hstep
  split at hstep
  · rename_i ha
    cases hstep
    exact (hok.perform ha hdestroys).endState
  · cases hstep

theorem Ok.init : Ok State.init := by
  refine ⟨fun _ => False, ?_⟩
  refine { fit := trivial, noStream := fun _ => rfl, holder := ?_, inIdr := ?_, unique := ?_, known := ?_,
           cover := ?_, defined := ?_, lru := ?_ }
  · intro _ _ h
    cases h
  · intro _ _ h
    cases h
  · intro _ _ _ _ h
    cases h
  · rintro _ (h | h) <;> cases h
  · intro _
    exact ⟨fun h => Bool.false_ne_true h, False.elim⟩
  · intro _ _ h
    exact h.elim
  · intro _ _ h
    cases h

theorem Ok.returned (hok : Ok s) : ReturnedUndefined s := by
  obtain ⟨D, h⟩ := hok
  intro type i hlive
  obtain ⟨r, rfl, hid⟩ := h.holder type i hlive
  exact h.inIdr r i hid

section Leak

theorem Quiet.noRoom {β : Type} {f : Bool → M β} (hf : Quiet (f false)) :
    Quiet (Device.vmwFifoReserve false >>= f) :=
  fun _ t ht => hf _ _ (ht.trans { Same.refl t with })

/-- Without room for the destroy command nothing is destroyed. -/
theorem hwDestroy_quiet (env : Env) (r : ResId) {o : Release} (hfifo : o.destroy.fifo = false) :
    Quiet (hwDestroy env r o) := by
  have hctx : Quiet (vmwGbContextDestroy env r o.destroy) := by
    refine .bind .get fun _ => .ite (.pure _) ?_
    rw [hfifo]
    exact .noRoom (.pure _)
  have hsurface : Quiet (vmwGbSurfaceDestroy env r o.destroy) := by
    refine .bind .get fun _ => .ite (.pure _) (.bind (.lock _) fun _ => .bind (.scrubAll _) fun _ => ?_)
    rw [hfifo]
    exact .noRoom (.pure _)
  have hshader : Quiet (vmwGbShaderDestroy env r o.destroy) := by
    refine .bind .get fun _ => .ite (.pure _) (.bind (.lock _) fun _ => .bind (.scrubAll _) fun _ => ?_)
    rw [hfifo]
    exact .noRoom (.bind (.unlock _) fun _ => .pure _)
  have hhwctx : Quiet (vmwHwContextDestroy env r o) := by
    refine .bind .get fun _ => .ite ?_ (.bind (.vmwExecbufReleasePinnedBo _) fun _ => ?_)
    · exact .bind (.lock _) fun _ => .bind (.lock _) fun _ => .bind (.scrubAll _) fun _ => .bind hctx fun _ =>
        .bind .get fun _ => .bind (.onlyIf _ (.releasePinnedLocked false _)) fun _ => .bind (.unlock _) fun _ =>
          .unlock _
    · rw [hfifo]
      exact .noRoom (.pure _)
  have hhwsrf : Quiet (vmwHwSurfaceDestroy env r o.destroy) := by
    refine .bind .get fun _ => .ite (.bind hsurface fun _ => .pure _) (.ite ?_ (.dec env _ _))
    rw [hfifo]
    exact .noRoom (.pure _)
  refine .bind .get fun s => ?_
  split
  · exact hhwctx
  · exact hhwctx
  · exact hhwsrf
  · exact hhwsrf
  · exact .bind hshader fun _ => .pure _
  · exact .pure _

/-- A release that comes to its end without having destroyed the resource gives its id away. -/
theorem release_leaks (hok : Ok s) {r : ResId} {o : Release} (ha : enabled env s (.release r o) = true)
    (hleak : ¬ DestroysReleased s (.release r o)) :
    Leads (fun t => ¬ ReturnedUndefined t) (fun _ => True) (vmwResourceRelease env r o) s := by
  obtain ⟨D, h⟩ := hok
  simp only [enabled, usable, Bool.and_eq_true] at ha
  simp only [DestroysReleased, Reserved, Classical.not_imp, Bool.not_eq_true] at hleak
  obtain ⟨hid, hstream, -, hfifo⟩ := hleak
  obtain ⟨i, hi⟩ := Option.isSome_iff_exists.mp hid
  have hlive := h.settled ((h.cover r).mp ha.1.1) hstream i hi
  refine .bind_modify (.bind_modify ?_)
  generalize hu : State.lruDel { s with
    res := Function.update s.res r { s.res r with alive := false } } r = u
  have hufunc : (u.res r).func = (s.res r).func := by simp [← hu, State.lruDel]
  have huid : (u.res r).id = some i := by simp [← hu, State.lruDel, hi]
  have hulog : u.log = s.log := by simp [← hu, State.lruDel]
  refine Quiet.then (.releaseBackup r _) (fun _ _ => trivial) fun _ v hv => .bind_get ?_
  refine Quiet.then (.onlyIf _ (.bind (hwDestroy_quiet env r hfifo) fun _ => .bind (.lock _) fun _ =>
    .unlock _)) (fun _ _ => trivial) fun _ w hw => ?_
  have hsame := hv.trans hw
  refine ends_releaseId.mpr fun hreturned => ?_
  have hin := hreturned (s.res r).func.resType i (by
    change live w.log _ i = true
    rw [hsame.live, hulog]
    exact hlive)
  rw [dropId_idr, hsame.func, hsame.id, hufunc, huid] at hin
  exact hin.2 ⟨rfl, rfl⟩

end Leak

/-- In any run in which the final releases get their destroy commands into the FIFO, nothing is
defined twice, nothing is destroyed that is not defined, and no id of a live object is free. A
release that does not get its command in and comes to its end frees the id of a live object. -/
theorem ids_returned_undefined {as : List Action} (hrun : Run (step env) DestroysReleased State.init as s) :
    CommandsFit s.log ∧ ReturnedUndefined s ∧
      ∀ r o, enabled env s (.release r o) = true → ¬ DestroysReleased s (.release r o) →
        Leads (fun t => ¬ ReturnedUndefined t) (fun _ => True) (vmwResourceRelease env r o) s := by
  have hok : Ok s := hrun.invariant (fun _ _ _ hd hs h => h.step hd hs) Ok.init
  refine ⟨?_, hok.returned, fun r o ha hleak => release_leaks hok ha hleak⟩
  obtain ⟨D, h⟩ := hok
  exact h.fit

section Example

def legacyEnv : Env := { hasMob := false, enableFb := true, gmr2 := true, memorySize := 1000 }

def granting : Request := { vmalloc := true, fence := true, otables := .ok, dummyBo := true, takedown := true }

def creating : Create := { alloc := true, fifo := true, request := granting }

/-- A release whose destroy command finds room in the FIFO, or not. -/
def releasing (fifo : Bool) : Release :=
  { unbind := ⟨[], true, true⟩, kill := [], destroy := ⟨[], fifo, true⟩, pinned := ⟨true, true, true⟩ }

/-- A context is created and released, then another one is created. -/
def twoContexts (fifo : Bool) : List Action :=
  [.load granting none, .contextInit 0 0 creating (releasing true), .release 0 (releasing fifo),
    .contextInit 1 0 creating (releasing true)]

theorem ids_returned_undefined_contexts : ∃ s,
    Run (step legacyEnv) DestroysReleased State.init (twoContexts true) s ∧ s.idr .context = [1] ∧
      CommandsFit s.log ∧ ReturnedUndefined s := by
  have hrun : Run (step legacyEnv) DestroysReleased State.init (twoContexts true) _ :=
    .cons trivial rfl <| .cons trivial rfl <| .cons (fun _ _ _ => rfl) rfl <| .cons trivial rfl <| .nil _
  have hids := ids_returned_undefined hrun
  exact ⟨_, hrun, rfl, hids.1, hids.2.1⟩

/-- The second context is defined under the id of the first one, which is still defined. -/
theorem id_of_live_context : ¬ ∀ (env : Env) (as : List Action) (s : State),
    Run (step env) (fun _ _ => True) State.init as s → CommandsFit s.log ∧ ReturnedUndefined s := by
  intro h
  have hrun : Run (step legacyEnv) (fun _ _ => True) State.init (twoContexts false) _ :=
    .cons trivial rfl <| .cons trivial rfl <| .cons trivial rfl <| .cons trivial rfl <| .nil _
  obtain ⟨⟨hfree, -⟩, -⟩ := h _ _ _ hrun
  cases hfree

end Example

end Machine

end Vmwgfx.Device
