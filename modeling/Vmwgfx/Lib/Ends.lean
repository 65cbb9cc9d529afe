import Mathlib.Order.Defs.Unbundled
import Vmwgfx.Lib.Outcome

/-! Programs that may stop: what holds of the state wherever they end. -/

universe u v

namespace Vmwgfx.Lib

variable {ε σ α β : Type u}

/-- Started in `s`, the program `x` ends as `P` says, or stops as `E` says. -/
def Ends (x : EStateM ε σ α) (s : σ) (P : α → σ → Prop) (E : ε → σ → Prop) : Prop :=
  match x s with
  | .ok a t => P a t
  | .error e t => E e t

section Rules

variable {P P' : α → σ → Prop} {Q : β → σ → Prop} {E E' : ε → σ → Prop} {s : σ}

@[simp] theorem ends_pure (a : α) : Ends (pure a : EStateM ε σ α) s P E ↔ P a s := Iff.rfl

@[simp] theorem ends_throw (e : ε) : Ends (throw e : EStateM ε σ α) s P E ↔ E e s := Iff.rfl

@[simp] theorem ends_get {P : σ → σ → Prop} : Ends (get : EStateM ε σ σ) s P E ↔ P s s := Iff.rfl

@[simp] theorem ends_modify {f : σ → σ} {P : PUnit → σ → Prop} :
    Ends (modify f : EStateM ε σ PUnit) s P E ↔ P PUnit.unit (f s) := Iff.rfl

@[simp] theorem ends_bind {x : EStateM ε σ α} {f : α → EStateM ε σ β} :
    Ends (x >>= f) s Q E ↔ Ends x s (fun a t => Ends (f a) t Q E) E := by
  change Ends (EStateM.bind x f) s Q E ↔ _
  unfold Ends EStateM.bind
  cases x s with
  | ok a t => exact Iff.rfl
  | error e t => exact Iff.rfl

@[simp] theorem ends_map {x : EStateM ε σ α} {f : α → β} :
    Ends (f <$> x) s Q E ↔ Ends x s (fun a t => Q (f a) t) E := by
  change Ends (EStateM.map f x) s Q E ↔ _
  unfold Ends EStateM.map
  cases x s with
  | ok a t => exact Iff.rfl
  | error e t => exact Iff.rfl

@[simp] theorem ends_discard {x : EStateM ε σ α} {P : PUnit → σ → Prop} :
    Ends (discard x) s P E ↔ Ends x s (fun _ t => P PUnit.unit t) E := by
  change Ends (EStateM.map (Function.const α PUnit.unit) x) s P E ↔ _
  unfold Ends EStateM.map
  cases x s with
  | ok a t => exact Iff.rfl
  | error e t => exact Iff.rfl

theorem Ends.mono {x : EStateM ε σ α} (h : Ends x s P E) (hP : ∀ a t, P a t → P' a t)
    (hE : ∀ e t, E e t → E' e t) : Ends x s P' E' := by
  unfold Ends at h ⊢
  cases hx : x s with
  | ok a t =>
    rw [hx] at h
    exact hP a t h
  | error e t =>
    rw [hx] at h
    exact hE e t h

theorem Ends.bind {x : EStateM ε σ α} {f : α → EStateM ε σ β} (h : Ends x s P E)
    (hf : ∀ a t, P a t → Ends (f a) t Q E) : Ends (x >>= f) s Q E :=
  ends_bind.mpr (h.mono hf fun _ _ he => he)

theorem Ends.ite {c : Prop} [Decidable c] {x y : EStateM ε σ α} (hx : c → Ends x s P E)
    (hy : ¬ c → Ends y s P E) : Ends (if c then x else y) s P E := by
  by_cases h : c
  · rw [if_pos h]
    exact hx h
  · rw [if_neg h]
    exact hy h

theorem Ends.bind_get {f : σ → EStateM ε σ β} (hf : Ends (f s) s Q E) : Ends (get >>= f) s Q E :=
  ends_bind.mpr hf

theorem Ends.bind_view {g : σ → α} {f : α → EStateM ε σ β} (hf : Ends (f (g s)) s Q E) :
    Ends ((fun s => .ok (g s) s : EStateM ε σ α) >>= f) s Q E :=
  ends_bind.mpr hf

theorem Ends.bind_modify {g : σ → σ} {f : PUnit → EStateM ε σ β} (hf : Ends (f PUnit.unit) (g s) Q E) :
    Ends (modify g >>= f) s Q E :=
  ends_bind.mpr hf

end Rules

/-- Whatever the program does, `I` still holds where it ends. -/
def Keeps (I : σ → Prop) (x : EStateM ε σ α) : Prop :=
  ∀ s, I s → Ends x s (fun _ t => I t) (fun _ t => I t)

namespace Keeps

variable {I : σ → Prop}

theorem pure (a : α) : Keeps I (Pure.pure a : EStateM ε σ α) := fun _ h => h

theorem throw (e : ε) : Keeps I (MonadExcept.throw e : EStateM ε σ α) := fun _ h => h

theorem get : Keeps I (MonadState.get : EStateM ε σ σ) := fun _ h => h

theorem modify {f : σ → σ} (hf : ∀ s, I s → I (f s)) :
    Keeps I (modify f : EStateM ε σ PUnit) := fun s h => hf s h

theorem bind {x : EStateM ε σ α} {f : α → EStateM ε σ β} (hx : Keeps I x) (hf : ∀ a, Keeps I (f a)) :
    Keeps I (x >>= f) :=
  fun s h => (hx s h).bind fun a t ht => hf a t ht

theorem discard {x : EStateM ε σ α} (hx : Keeps I x) : Keeps I (discard x) :=
  fun s h => ends_discard.mpr (hx s h)

theorem ite {c : Prop} [Decidable c] {x y : EStateM ε σ α} (hx : Keeps I x) (hy : Keeps I y) :
    Keeps I (if c then x else y) :=
  fun s h => .ite (fun _ => hx s h) (fun _ => hy s h)

end Keeps

/-- The program keeps `I` where it ends well; where it stops, `E` holds. -/
def Guards (I E : σ → Prop) (x : EStateM ε σ α) : Prop :=
  ∀ s, I s → Ends x s (fun _ t => I t) (fun _ t => E t)

namespace Guards

variable {I E : σ → Prop}

theorem pure (a : α) : Guards I E (Pure.pure a : EStateM ε σ α) := fun _ h => h

theorem throw (hE : ∀ s, I s → E s) (e : ε) : Guards I E (MonadExcept.throw e : EStateM ε σ α) := hE

theorem view (f : σ → α) : Guards I E (fun s => .ok (f s) s : EStateM ε σ α) := fun _ h => h

theorem bind {x : EStateM ε σ α} {f : α → EStateM ε σ β} (hx : Guards I E x)
    (hf : ∀ a, Guards I E (f a)) : Guards I E (x >>= f) :=
  fun s h => (hx s h).bind fun a t ht => hf a t ht

/-- The rest may rely on what it was told of the state. -/
theorem bind_view {g : σ → α} {f : α → EStateM ε σ β}
    (hf : ∀ s, I s → Ends (f (g s)) s (fun _ t => I t) (fun _ t => E t)) :
    Guards I E ((fun s => .ok (g s) s : EStateM ε σ α) >>= f) :=
  fun s h => .bind_view (hf s h)

theorem ite {c : Prop} [Decidable c] {x y : EStateM ε σ α} (hx : c → Guards I E x)
    (hy : ¬ c → Guards I E y) : Guards I E (if c then x else y) :=
  fun s h => .ite (fun hc => hx hc s h) (fun hc => hy hc s h)

end Guards

/-- Wherever the program ends, the state is related to the one it was started in. -/
def Stays (R : σ → σ → Prop) (x : EStateM ε σ α) : Prop := ∀ s, Ends x s (fun _ t => R s t) (fun _ t => R s t)

namespace Stays

variable {R : σ → σ → Prop}

theorem pure [Std.Refl R] (a : α) : Stays R (Pure.pure a : EStateM ε σ α) := fun s => refl_of R s

theorem throw [Std.Refl R] (e : ε) : Stays R (MonadExcept.throw e : EStateM ε σ α) := fun s => refl_of R s

theorem view [Std.Refl R] (f : σ → α) : Stays R (fun s => .ok (f s) s : EStateM ε σ α) := fun s => refl_of R s

/-- The rest may rely on what is known where the first program ends well. -/
theorem bind_of [IsTrans σ R] {x : EStateM ε σ α} {f : α → EStateM ε σ β} {P : σ → α → σ → Prop}
    (hx : ∀ s, Ends x s (fun a t => R s t ∧ P s a t) (fun _ t => R s t))
    (hf : ∀ s a t, P s a t → Ends (f a) t (fun _ u => R t u) (fun _ u => R t u)) : Stays R (x >>= f) := by
  intro s
  refine (hx s).bind fun a t ht => ?_
  exact (hf s a t ht.2).mono (fun _ u hu => trans_of R ht.1 hu) fun _ u hu => trans_of R ht.1 hu

theorem bind [IsTrans σ R] {x : EStateM ε σ α} {f : α → EStateM ε σ β} (hx : Stays R x) (hf : ∀ a, Stays R (f a)) :
    Stays R (x >>= f) := by
  intro s
  exact (hx s).bind fun a t ht =>
    (hf a t).mono (fun _ u hu => trans_of R ht hu) fun _ u hu => trans_of R ht hu

theorem bind_view {g : σ → α} {f : α → EStateM ε σ β}
    (hf : ∀ s, Ends (f (g s)) s (fun _ t => R s t) (fun _ t => R s t)) :
    Stays R ((fun s => .ok (g s) s : EStateM ε σ α) >>= f) :=
  fun s => .bind_view (hf s)

theorem ite {c : Prop} [Decidable c] {x y : EStateM ε σ α} (hx : c → Stays R x) (hy : ¬ c → Stays R y) :
    Stays R (if c then x else y) :=
  fun s => .ite (fun hc => hx hc s) (fun hc => hy hc s)

/-- What the relation preserves is kept. -/
theorem guards {I E : σ → Prop} {x : EStateM ε σ α} (hx : Stays R x) (hI : ∀ s t, R s t → I s → I t)
    (hE : ∀ s, I s → E s) : Guards I E x :=
  fun s hs => (hx s).mono (fun _ t ht => hI s t ht hs) fun _ t ht => hE t (hI s t ht hs)

end Stays

end Vmwgfx.Lib
