/-! Acquisitions and releases: what is held, the last acquisition on top. -/

universe u

namespace Vmwgfx.Lib

inductive Event (ρ : Type u) : Type u
  | acquire (r : ρ)
  | release (r : ρ)
  deriving DecidableEq

variable {ρ : Type u} [DecidableEq ρ]

/-- Only the last acquisition may be released, and only once. -/
def Event.replay (e : Event ρ) (held : List ρ) : Option (List ρ) :=
  match e, held with
  | .acquire r, held => some (r :: held)
  | .release _, [] => none
  | .release r, r' :: held => if r = r' then some held else none

def replay (log : List (Event ρ)) (held : List ρ) : Option (List ρ) :=
  log.foldlM (fun held e => e.replay held) held

/-- What the log leaves held. -/
def Leaves (log : List (Event ρ)) (held : List ρ) : Prop := replay log [] = some held

variable {log : List (Event ρ)} {held held' : List ρ} {r r' : ρ}

theorem replay_snoc (log : List (Event ρ)) (e : Event ρ) (held : List ρ) :
    replay (log ++ [e]) held = (replay log held).bind (fun held => e.replay held) := by
  unfold replay
  rw [List.foldlM_append]
  simp

theorem leaves_nil : Leaves ([] : List (Event ρ)) [] := rfl

theorem Leaves.acquire (h : Leaves log held) (r : ρ) : Leaves (log ++ [.acquire r]) (r :: held) := by
  unfold Leaves at *
  rw [replay_snoc, h]
  rfl

theorem Leaves.release (h : Leaves log (r :: held)) : Leaves (log ++ [.release r]) held := by
  unfold Leaves at *
  rw [replay_snoc, h]
  exact if_pos rfl

theorem Leaves.unique (h : Leaves log held) (h' : Leaves log held') : held = held' :=
  Option.some.inj (h.symm.trans h')

/-- No continuation makes up for a step out of order. -/
def Broken (log : List (Event ρ)) : Prop := replay log [] = none

theorem Leaves.broken (h : Leaves log (r' :: held)) (hne : r ≠ r') : Broken (log ++ [.release r]) := by
  unfold Leaves Broken at *
  rw [replay_snoc, h]
  exact if_neg hne

theorem Broken.append (h : Broken log) (log' : List (Event ρ)) : Broken (log ++ log') := by
  unfold Broken replay at *
  rw [List.foldlM_append, h]
  rfl

theorem Broken.not_leaves (h : Broken log) : ¬Leaves log held := by
  unfold Broken Leaves at *
  simp [h]

/-- Releases in the order reverse to that of the acquisitions. -/
theorem Leaves.releases {rs : List ρ} (h : Leaves log (rs ++ held)) :
    Leaves (log ++ rs.map .release) held := by
  induction rs generalizing log with
  | nil => simpa using h
  | cons r rs ih =>
    have hrest := ih (Leaves.release h)
    rwa [List.append_assoc] at hrest

end Vmwgfx.Lib
