/-! Runs of a machine whose steps are chosen by actions. -/

universe u v

namespace Vmwgfx.Lib

variable {σ : Type u} {α : Type v}

/-- A run of the machine `step`, every step of which meets the condition `ok`. -/
inductive Run (step : σ → α → Option σ) (ok : σ → α → Prop) : σ → List α → σ → Prop
  | nil (s : σ) : Run step ok s [] s
  | cons {s s' s'' : σ} {a : α} {as : List α} (hok : ok s a) (hstep : step s a = some s')
      (hrun : Run step ok s' as s'') : Run step ok s (a :: as) s''

namespace Run

variable {step : σ → α → Option σ} {ok ok' : σ → α → Prop} {s s' s'' : σ} {as as' : List α}

/-- What every step that meets the condition preserves holds at the end of a run. -/
theorem invariant {I : σ → Prop}
    (hstep : ∀ s a s', ok s a → step s a = some s' → I s → I s')
    (hrun : Run step ok s as s') (h : I s) : I s' := by
  induction hrun with
  | nil => exact h
  | cons hok hs _ ih => exact ih (hstep _ _ _ hok hs h)

/-- What the invariant says of every step holds along the run. -/
theorem strengthen {I : σ → Prop}
    (hstep : ∀ s a s', ok s a → step s a = some s' → I s → ok' s a ∧ I s')
    (hrun : Run step ok s as s') (h : I s) : Run step ok' s as s' ∧ I s' := by
  induction hrun with
  | nil s => exact ⟨.nil s, h⟩
  | cons hok hs _ ih =>
    obtain ⟨hok', h'⟩ := hstep _ _ _ hok hs h
    obtain ⟨hrun', h''⟩ := ih h'
    exact ⟨.cons hok' hs hrun', h''⟩

theorem mono (hok : ∀ s a, ok s a → ok' s a) (hrun : Run step ok s as s') :
    Run step ok' s as s' := by
  induction hrun with
  | nil s => exact .nil s
  | cons h hs _ ih => exact .cons (hok _ _ h) hs ih

theorem append (hrun : Run step ok s as s') (hrun' : Run step ok s' as' s'') :
    Run step ok s (as ++ as') s'' := by
  induction hrun with
  | nil => exact hrun'
  | cons h hs _ ih => exact .cons h hs (ih hrun')

theorem split (hrun : Run step ok s (as ++ as') s'') :
    ∃ s', Run step ok s as s' ∧ Run step ok s' as' s'' := by
  induction as generalizing s with
  | nil => exact ⟨s, .nil s, hrun⟩
  | cons a as ih =>
    cases hrun with
    | cons hok hs hrest =>
      obtain ⟨s', h, h'⟩ := ih hrest
      exact ⟨s', .cons hok hs h, h'⟩

theorem deterministic {t t' : σ} (hrun : Run step ok s as t) (hrun' : Run step ok' s as t') :
    t = t' := by
  induction hrun with
  | nil =>
    cases hrun'
    rfl
  | cons _ hs _ ih =>
    cases hrun' with
    | cons _ hs' hrest =>
      rw [hs] at hs'
      cases hs'
      exact ih hrest

theorem single {a : α} (hok : ok s a) (hstep : step s a = some s') : Run step ok s [a] s' :=
  .cons hok hstep (.nil s')

end Run

/-- Runs the machine as long as the condition is met. -/
def exec (step : σ → α → Option σ) (ok : σ → α → Bool) : σ → List α → Option σ
  | s, [] => some s
  | s, a :: as => if ok s a then (step s a).bind (fun s' => exec step ok s' as) else none

theorem Run.of_exec {step : σ → α → Option σ} {ok : σ → α → Bool} {s s' : σ} {as : List α}
    (h : exec step ok s as = some s') : Run step (fun s a => ok s a) s as s' := by
  induction as generalizing s with
  | nil =>
    cases h
    exact .nil _
  | cons a as ih =>
    unfold exec at h
    split at h
    · rename_i hok
      obtain ⟨t, ht, hrest⟩ := Option.bind_eq_some_iff.mp h
      exact .cons hok ht (ih hrest)
    · cases h

/-- What each action of the list preserves where it may be taken. -/
theorem exec_invariant {step : σ → α → Option σ} {ok : σ → α → Bool} {I : σ → Prop} {s s' : σ} {as : List α}
    (hstep : ∀ s a s', a ∈ as → ok s a = true → step s a = some s' → I s → I s')
    (h : exec step ok s as = some s') (hI : I s) : I s' := by
  induction as generalizing s with
  | nil =>
    cases h
    exact hI
  | cons a as ih =>
    unfold exec at h
    split at h
    case isFalse => cases h
    case isTrue hok =>
      obtain ⟨t, ht, hrest⟩ := Option.bind_eq_some_iff.mp h
      refine ih ?_ hrest (hstep s a t List.mem_cons_self hok ht hI)
      intro s a s' ha
      exact hstep s a s' (List.mem_cons_of_mem _ ha)

end Vmwgfx.Lib
