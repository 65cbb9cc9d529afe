import Mathlib.Data.List.Count
import Mathlib.Tactic.Common
import Vmwgfx.Fence.Events

/-! Where the event of an action is: still with the action, in the hands of a file that
goes away, delivered or destroyed. It is in one of these places. -/

namespace Vmwgfx.Fence.Events

namespace Files

/-- The event is taken off the list of its file by `vmw_event_fence_fpriv_gone`, and not
yet destroyed. -/
def inClosing (f : Files) (a : ActionId) : Bool := f.file (f.eaction a).file == .closing (some a)

/-- How often the event was appended to the list of its file. -/
def deliveries (f : Files) (a : ActionId) : Nat := (f.eventList (f.eaction a).file).count a

def destructions (f : Files) (a : ActionId) : Nat := f.destroyed.count a

end Files

theorem seqPassed_next (f : Files) (actions : List ActionId) : (f.seqPassed actions).nextAction = f.nextAction := by
  unfold Files.seqPassed
  induction actions generalizing f with
  | nil => rfl
  | cons a actions ih =>
    rw [List.foldl_cons, ih]
    unfold Files.vmwEventFenceActionSeqPassed
    dsimp only
    split <;> rfl

structure FilesInv (f : Files) : Prop where
  listed : ∀ a file, a ∈ f.fenceEvents file ↔ (f.eaction a).event = true ∧ (f.eaction a).file = file
  nodup : ∀ file, (f.fenceEvents file).Nodup
  fresh : ∀ a, (f.eaction a).event = true → a < f.nextAction
  delivered : ∀ a file, a ∈ f.eventList file → a < f.nextAction ∧ (f.eaction a).file = file
  closing : ∀ a file, f.file file = .closing (some a) → a < f.nextAction ∧ (f.eaction a).file = file
  destroyed : ∀ a ∈ f.destroyed, a < f.nextAction
  once : ∀ a < f.nextAction,
    (f.eaction a).event.toNat + (f.inClosing a).toNat + (f.deliveries a + f.destructions a) = 1
  gone : ∀ file, f.file file = .gone → f.fenceEvents file = []

namespace FilesInv

variable {f : Files} {a : ActionId} {file : FileId}

/-- The event of a new action is linked to a file that is open. -/
theorem queueEvent (h : FilesInv f) (hopen : f.file file = .opened) (fence : FenceId) :
    FilesInv (f.queueEvent fence file) := by
  have hself : (f.queueEvent fence file).eaction f.nextAction = ⟨true, fence, file⟩ := Function.update_self ..
  have hother : ∀ a, a ≠ f.nextAction → (f.queueEvent fence file).eaction a = f.eaction a :=
    fun a ha => Function.update_of_ne ha ..
  have hold : ∀ a, a < f.nextAction → (f.queueEvent fence file).eaction a = f.eaction a :=
    fun a ha => hother a (Nat.ne_of_lt ha)
  have hnew : ∀ file', f.nextAction ∉ f.fenceEvents file' := fun file' hm =>
    Nat.lt_irrefl _ (h.fresh _ ((h.listed _ _).mp hm).1)
  have hlistSelf : (f.queueEvent fence file).fenceEvents file = f.fenceEvents file ++ [f.nextAction] :=
    Function.update_self ..
  have hlistOther : ∀ file', file' ≠ file → (f.queueEvent fence file).fenceEvents file' = f.fenceEvents file' :=
    fun file' hf => Function.update_of_ne hf ..
  constructor
  case listed =>
    intro a file'
    by_cases ha : a = f.nextAction
    · subst ha
      rw [hself]
      by_cases hf : file' = file
      · subst hf
        simp [hlistSelf]
      · simp [hlistOther file' hf, hnew file', Ne.symm hf]
    · rw [hother a ha, ← h.listed]
      by_cases hf : file' = file
      · subst hf
        simp [hlistSelf, ha]
      · rw [hlistOther file' hf]
  case nodup =>
    intro file'
    by_cases hf : file' = file
    · subst hf
      rw [hlistSelf, ← List.concat_eq_append]
      exact (h.nodup file').concat (hnew file')
    · rw [hlistOther file' hf]
      exact h.nodup file'
  case fresh =>
    intro a ha
    by_cases hn : a = f.nextAction
    · exact hn ▸ Nat.lt_succ_self _
    · rw [hother a hn] at ha
      exact Nat.lt_succ_of_lt (h.fresh a ha)
  case delivered =>
    intro a file' hm
    obtain ⟨hlt, hfile⟩ := h.delivered a file' hm
    exact ⟨Nat.lt_succ_of_lt hlt, by rw [hold a hlt]; exact hfile⟩
  case closing =>
    intro a file' hc
    obtain ⟨hlt, hfile⟩ := h.closing a file' hc
    exact ⟨Nat.lt_succ_of_lt hlt, by rw [hold a hlt]; exact hfile⟩
  case destroyed => exact fun a ha => Nat.lt_succ_of_lt (h.destroyed a ha)
  case once =>
    intro a ha
    rcases Nat.lt_succ_iff_lt_or_eq.mp ha with hlt | rfl
    · have honce := h.once a hlt
      unfold Files.inClosing Files.deliveries at honce ⊢
      rw [hold a hlt]
      exact honce
    · have hclosing : (f.queueEvent fence file).inClosing f.nextAction = false := by
        unfold Files.inClosing
        rw [hself, show (f.queueEvent fence file).file = f.file from rfl, hopen]
        rfl
      have hdelivered : (f.queueEvent fence file).deliveries f.nextAction = 0 :=
        List.count_eq_zero.mpr fun hm => Nat.lt_irrefl _ (h.delivered _ _ hm).1
      have hdestroyed : (f.queueEvent fence file).destructions f.nextAction = 0 :=
        List.count_eq_zero.mpr fun hm => Nat.lt_irrefl _ (h.destroyed _ hm)
      rw [hclosing, hdelivered, hdestroyed, hself]
      rfl
  case gone =>
    intro file' hgone
    have hf : file' ≠ file := by
      rintro rfl
      rw [show (f.queueEvent fence file').file = f.file from rfl, hopen] at hgone
      cases hgone
    rw [hlistOther file' hf]
    exact h.gone file' hgone

/-- The state of a file that was not closing an event changes. -/
theorem setFile (h : FilesInv f) (fs : FileState) (hwas : ∀ a, f.file file ≠ .closing (some a))
    (hnot : ∀ a, fs ≠ .closing (some a)) (hempty : fs = .gone → f.fenceEvents file = []) :
    FilesInv (f.setFile file fs) := by
  have hclosing : ∀ file' a, (f.setFile file fs).file file' = .closing (some a) ↔ f.file file' = .closing (some a) := by
    intro file' a
    by_cases hf : file' = file
    · subst hf
      rw [show (f.setFile file' fs).file file' = fs from Function.update_self ..]
      exact iff_of_false (hnot a) (hwas a)
    · rw [show (f.setFile file fs).file file' = f.file file' from Function.update_of_ne hf ..]
  constructor
  case listed => exact h.listed
  case nodup => exact h.nodup
  case fresh => exact h.fresh
  case delivered => exact h.delivered
  case closing => exact fun a file' hc => h.closing a file' ((hclosing file' a).mp hc)
  case destroyed => exact h.destroyed
  case once =>
    intro a ha
    have hsame : (f.setFile file fs).inClosing a = f.inClosing a := Bool.eq_iff_iff.mpr (by
      unfold Files.inClosing
      rw [beq_iff_eq, beq_iff_eq]
      exact hclosing _ a)
    rw [hsame]
    exact h.once a ha
  case gone =>
    intro file' hgone
    by_cases hf : file' = file
    · subst hf
      exact hempty (by rwa [show (f.setFile file' fs).file file' = fs from Function.update_self ..] at hgone)
    · exact h.gone file' (by rwa [show (f.setFile file fs).file file' = f.file file' from Function.update_of_ne hf ..] at hgone)

theorem close (h : FilesInv f) (hopen : f.file file = .opened) : FilesInv (f.setFile file (.closing none)) := by
  refine h.setFile _ ?_ nofun nofun
  rw [hopen]
  nofun

/-- The event of `a` is taken off the list of its file, to be delivered or destroyed. -/
structure Taken (f g : Files) (a : ActionId) : Prop where
  event : (f.eaction a).event = true
  self : g.eaction a = { f.eaction a with event := false }
  other : ∀ b, b ≠ a → g.eaction b = f.eaction b
  next : g.nextAction = f.nextAction
  lists : ∀ file, g.fenceEvents file = (f.fenceEvents file).erase a
  delivered : ∀ b file, b ∈ g.eventList file → b ∈ f.eventList file ∨ b = a ∧ file = (f.eaction a).file
  closing : ∀ b file, g.file file = .closing (some b) → f.file file = .closing (some b) ∨
    b = a ∧ file = (f.eaction a).file
  destroyed : g.destroyed = f.destroyed
  place : (g.inClosing a).toNat + g.deliveries a = (f.inClosing a).toNat + f.deliveries a + 1
  places : ∀ b, b ≠ a → g.inClosing b = f.inClosing b ∧ g.deliveries b = f.deliveries b
  gone : ∀ file, g.file file = .gone → f.file file = .gone

section Taken

variable {g : Files}

theorem Taken.sameFile (t : Taken f g a) (b : ActionId) : (g.eaction b).file = (f.eaction b).file := by
  by_cases hb : b = a
  · rw [hb, t.self]
  · rw [t.other b hb]

theorem take (h : FilesInv f) (t : Taken f g a) : FilesInv g where
  listed b file' := by
    rw [t.lists, (h.nodup file').mem_erase_iff, h.listed, t.sameFile]
    by_cases hb : b = a
    · subst hb
      simp [t.self]
    · simp [t.other b hb, hb]
  nodup file' := by
    rw [t.lists]
    exact (h.nodup file').erase a
  fresh b hb := by
    rw [t.next]
    by_cases hba : b = a
    · exact hba ▸ h.fresh a t.event
    · exact h.fresh b (t.other b hba ▸ hb)
  delivered b file' hm := by
    rw [t.next, t.sameFile]
    cases t.delivered b file' hm with
    | inl hm => exact h.delivered b file' hm
    | inr hba => exact ⟨hba.1 ▸ h.fresh a t.event, by rw [hba.1, hba.2]⟩
  closing b file' hc := by
    rw [t.next, t.sameFile]
    cases t.closing b file' hc with
    | inl hc => exact h.closing b file' hc
    | inr hba => exact ⟨hba.1 ▸ h.fresh a t.event, by rw [hba.1, hba.2]⟩
  destroyed := by
    rw [t.destroyed, t.next]
    exact h.destroyed
  once b hb := by
    rw [t.next] at hb
    have honce := h.once b hb
    have hde : g.destructions b = f.destructions b := congrArg (List.count b) t.destroyed
    by_cases hba : b = a
    · subst hba
      have hplace := t.place
      rw [t.event] at honce
      rw [t.self, hde]
      simp only [Bool.toNat_true, Bool.toNat_false] at honce ⊢
      omega
    · rw [t.other b hba, (t.places b hba).1, (t.places b hba).2, hde]
      exact honce
  gone file' hgone := by
    rw [t.lists, h.gone file' (t.gone file' hgone)]
    rfl

end Taken

/-- The callback of an action appends its event to the list of its file. -/
theorem taken_seqPassed (h : FilesInv f) (ha : (f.eaction a).event = true) :
    Taken f (f.vmwEventFenceActionSeqPassed a) a := by
  have hnot : ¬ (f.eaction a).event = false := by
    rw [ha]
    exact nofun
  have hself : ∀ e : EAction, Function.update f.eaction a e a = e := fun e => Function.update_self ..
  have hother : ∀ (e : EAction) b, b ≠ a → Function.update f.eaction a e b = f.eaction b :=
    fun e b hb => Function.update_of_ne hb ..
  unfold Files.vmwEventFenceActionSeqPassed
  dsimp only
  rw [if_neg hnot]
  constructor
  case event => exact ha
  case self => exact hself _
  case other => exact hother _
  case next => rfl
  case lists =>
    intro file
    by_cases hf : file = (f.eaction a).file
    · subst hf
      exact Function.update_self ..
    · rw [List.erase_of_not_mem fun hm => hf ((h.listed a file).mp hm).2.symm]
      exact Function.update_of_ne hf ..
  case delivered =>
    intro b file hm
    dsimp only at hm
    by_cases hf : file = (f.eaction a).file
    · subst hf
      rw [Function.update_self, List.mem_append, List.mem_singleton] at hm
      exact hm.imp_right fun hba => ⟨hba, rfl⟩
    · rw [Function.update_of_ne hf] at hm
      exact .inl hm
  case closing => exact fun b file hc => .inl hc
  case destroyed => rfl
  case place =>
    unfold Files.inClosing Files.deliveries
    dsimp only
    rw [hself, Function.update_self, List.count_append, List.count_singleton_self, Nat.add_assoc]
  case places =>
    intro b hb
    unfold Files.inClosing Files.deliveries
    dsimp only
    rw [hother _ b hb]
    refine ⟨rfl, ?_⟩
    by_cases hf : (f.eaction b).file = (f.eaction a).file
    · rw [hf, Function.update_self, List.count_append, List.count_singleton, if_neg (by simpa using Ne.symm hb),
        Nat.add_zero]
    · rw [Function.update_of_ne hf]
  case gone => exact fun file hgone => hgone

theorem seqPassed_of_gone (ha : (f.eaction a).event = false) : f.vmwEventFenceActionSeqPassed a = f :=
  if_pos ha

theorem seqPassed (h : FilesInv f) (actions : List ActionId) : FilesInv (f.seqPassed actions) := by
  unfold Files.seqPassed
  induction actions generalizing f with
  | nil => exact h
  | cons a actions ih =>
    apply ih
    cases ha : (f.eaction a).event with
    | true => exact h.take (h.taken_seqPassed ha)
    | false => rwa [seqPassed_of_gone ha]

/-- The first event of a file that goes away is taken off its list. -/
theorem taken_fprivUnlink {rest : List ActionId} (h : FilesInv f) (hclosing : f.file file = .closing none)
    (hlist : f.fenceEvents file = a :: rest) : Taken f (f.fprivUnlink file) a := by
  have hwas : ∀ b, f.file file ≠ .closing (some b) := by
    rw [hclosing]
    nofun
  obtain ⟨ha, hfile⟩ := (h.listed a file).mp (hlist ▸ List.mem_cons_self)
  have hself : ∀ e : EAction, Function.update f.eaction a e a = e := fun e => Function.update_self ..
  have hother : ∀ (e : EAction) b, b ≠ a → Function.update f.eaction a e b = f.eaction b :=
    fun e b hb => Function.update_of_ne hb ..
  have hstate : Function.update f.file file (.closing (some a)) file = .closing (some a) :=
    Function.update_self ..
  have hstates : ∀ file', file' ≠ file → Function.update f.file file (.closing (some a)) file' = f.file file' :=
    fun file' hf => Function.update_of_ne hf ..
  unfold Files.fprivUnlink
  rw [hlist]
  constructor
  case event => exact ha
  case self => exact hself _
  case other => exact hother _
  case next => rfl
  case lists =>
    intro file'
    by_cases hf : file' = file
    · subst hf
      rw [hlist, List.erase_cons_head]
      exact Function.update_self ..
    · rw [List.erase_of_not_mem fun hm => hf (((h.listed a file').mp hm).2.symm.trans hfile)]
      exact Function.update_of_ne hf ..
  case delivered => exact fun b file' hm => .inl hm
  case closing =>
    intro b file' hc
    dsimp only [Files.setFile] at hc
    by_cases hf : file' = file
    · subst hf
      rw [hstate] at hc
      cases hc
      exact .inr ⟨rfl, hfile.symm⟩
    · rw [hstates file' hf] at hc
      exact .inl hc
  case destroyed => rfl
  case place =>
    unfold Files.inClosing Files.deliveries Files.setFile
    dsimp only
    rw [hself, hfile, hstate, beq_self_eq_true, beq_eq_false_iff_ne.mpr (hwas a)]
    simp only [Bool.toNat_true, Bool.toNat_false]
    omega
  case places =>
    intro b hb
    unfold Files.inClosing Files.deliveries Files.setFile
    dsimp only
    rw [hother _ b hb]
    refine ⟨?_, rfl⟩
    by_cases hf : (f.eaction b).file = file
    · rw [hf, hstate]
      rw [beq_eq_false_iff_ne.mpr (hwas b), beq_eq_false_iff_ne]
      intro hc
      injection hc with hc
      injection hc with hc
      exact hb hc.symm
    · rw [hstates _ hf]
  case gone =>
    intro file' hgone
    dsimp only [Files.setFile] at hgone
    by_cases hf : file' = file
    · subst hf
      rw [hstate] at hgone
      cases hgone
    · rwa [hstates file' hf] at hgone

theorem fprivUnlink_nil (hlist : f.fenceEvents file = []) : f.fprivUnlink file = f.setFile file .gone := by
  unfold Files.fprivUnlink
  rw [hlist]

theorem fprivUnlink (h : FilesInv f) (hclosing : f.file file = .closing none) : FilesInv (f.fprivUnlink file) := by
  cases hlist : f.fenceEvents file with
  | nil =>
    rw [fprivUnlink_nil hlist]
    refine h.setFile .gone ?_ nofun fun _ => hlist
    rw [hclosing]
    nofun
  | cons a rest => exact h.take (h.taken_fprivUnlink hclosing hlist)

/-- The event that was taken is destroyed. -/
theorem fprivDestroy (h : FilesInv f) (hclosing : f.file file = .closing (some a)) :
    FilesInv (f.fprivDestroy file a) := by
  obtain ⟨hlt, hfile⟩ := h.closing a file hclosing
  have hstate : Function.update f.file file (.closing none) file = .closing none := Function.update_self ..
  have hstates : ∀ file', file' ≠ file → Function.update f.file file (.closing none) file' = f.file file' :=
    fun file' hf => Function.update_of_ne hf ..
  constructor
  case listed => exact h.listed
  case nodup => exact h.nodup
  case fresh => exact h.fresh
  case delivered => exact h.delivered
  case closing =>
    intro b file' hc
    dsimp only [Files.fprivDestroy, Files.setFile] at hc
    by_cases hf : file' = file
    · subst hf
      rw [hstate] at hc
      cases hc
    · rw [hstates file' hf] at hc
      exact h.closing b file' hc
  case destroyed =>
    intro b hb
    cases List.mem_append.mp hb with
    | inl hb => exact h.destroyed b hb
    | inr hb => exact List.mem_singleton.mp hb ▸ hlt
  case once =>
    intro b hb
    have honce := h.once b hb
    unfold Files.inClosing Files.deliveries Files.destructions at honce ⊢
    unfold Files.fprivDestroy Files.setFile
    dsimp only
    rw [List.count_append]
    by_cases hba : b = a
    · subst hba
      rw [hfile, hstate, List.count_singleton_self, beq_eq_false_iff_ne.mpr (by nofun)]
      rw [hfile, hclosing, beq_self_eq_true] at honce
      simp only [Bool.toNat_true, Bool.toNat_false] at honce ⊢
      omega
    · rw [List.count_singleton, if_neg (by simpa using Ne.symm hba), Nat.add_zero]
      by_cases hf : (f.eaction b).file = file
      · rw [hf, hstate]
        rw [hf, hclosing, beq_eq_false_iff_ne.mpr (by simpa using Ne.symm hba)] at honce
        exact honce
      · rw [hstates _ hf]
        exact honce
  case gone =>
    intro file' hgone
    dsimp only [Files.fprivDestroy, Files.setFile] at hgone
    by_cases hf : file' = file
    · subst hf
      rw [hstate] at hgone
      cases hgone
    · rw [hstates file' hf] at hgone
      exact h.gone file' hgone

/-- The cleanup finds an action whose event is gone off every list. -/
theorem listDel_eq (h : FilesInv f) (ha : (f.eaction a).event = false) : f.listDel a = f := by
  have hlist : (f.fenceEvents (f.eaction a).file).erase a = f.fenceEvents (f.eaction a).file :=
    List.erase_of_not_mem fun hm => by
      rw [((h.listed a _).mp hm).1] at ha
      cases ha
  unfold Files.listDel
  dsimp only
  rw [hlist, Function.update_eq_self]

/-- What no step does: an action keeps its fence and its file, an event that is handed on
does not come back, and a file that is gone gets no event and has none destroyed. -/
structure Kept (f g : Files) : Prop where
  next : f.nextAction ≤ g.nextAction
  fence : ∀ a < f.nextAction, (g.eaction a).fence = (f.eaction a).fence
  file : ∀ a < f.nextAction, (g.eaction a).file = (f.eaction a).file
  event : ∀ a < f.nextAction, (f.eaction a).event = false → (g.eaction a).event = false
  gone : ∀ file, f.file file = .gone → g.file file = .gone ∧ g.eventList file = f.eventList file ∧
    ∀ a < f.nextAction, (f.eaction a).file = file → g.destructions a = f.destructions a

section Kept

variable {g e : Files}

theorem Kept.refl (f : Files) : Kept f f :=
  ⟨Nat.le_refl _, fun _ _ => rfl, fun _ _ => rfl, fun _ _ h => h, fun _ h => ⟨h, rfl, fun _ _ _ => rfl⟩⟩

theorem Kept.trans (h : Kept f g) (h' : Kept g e) : Kept f e where
  next := Nat.le_trans h.next h'.next
  fence a ha := (h'.fence a (Nat.lt_of_lt_of_le ha h.next)).trans (h.fence a ha)
  file a ha := (h'.file a (Nat.lt_of_lt_of_le ha h.next)).trans (h.file a ha)
  event a ha he := h'.event a (Nat.lt_of_lt_of_le ha h.next) (h.event a ha he)
  gone file hgone := by
    obtain ⟨hgone₁, hlist₁, hdestroyed₁⟩ := h.gone file hgone
    obtain ⟨hgone₂, hlist₂, hdestroyed₂⟩ := h'.gone file hgone₁
    refine ⟨hgone₂, hlist₂.trans hlist₁, fun a ha hfile => ?_⟩
    exact (hdestroyed₂ a (Nat.lt_of_lt_of_le ha h.next) ((h.file a ha).trans hfile)).trans (hdestroyed₁ a ha hfile)

theorem kept_queueEvent (f : Files) (fence : FenceId) (file : FileId) : Kept f (f.queueEvent fence file) := by
  have hold : ∀ a < f.nextAction, (f.queueEvent fence file).eaction a = f.eaction a :=
    fun a ha => Function.update_of_ne (Nat.ne_of_lt ha) ..
  exact ⟨Nat.le_succ _, fun a ha => by rw [hold a ha], fun a ha => by rw [hold a ha],
    fun a ha he => by rwa [hold a ha], fun _ h => ⟨h, rfl, fun _ _ _ => rfl⟩⟩

theorem kept_setFile (fs : FileState) (hnot : f.file file ≠ .gone) : Kept f (f.setFile file fs) := by
  refine ⟨Nat.le_refl _, fun _ _ => rfl, fun _ _ => rfl, fun _ _ h => h, fun file' hgone => ⟨?_, rfl, fun _ _ _ => rfl⟩⟩
  have hne : file' ≠ file := fun heq => hnot (heq ▸ hgone)
  exact (Function.update_of_ne hne ..).trans hgone

theorem kept_close (hopen : f.file file = .opened) : Kept f (f.setFile file (.closing none)) := by
  apply kept_setFile
  rw [hopen]
  nofun

/-- An event that is taken is not one of a file that is gone. -/
theorem Taken.kept (h : FilesInv f) (t : Taken f g a) (hgone : ∀ file, f.file file = .gone → g.file file = .gone)
    (hlists : ∀ file, file ≠ (f.eaction a).file → g.eventList file = f.eventList file) : Kept f g where
  next := Nat.le_of_eq t.next.symm
  fence b _ := by
    by_cases hb : b = a
    · rw [hb, t.self]
    · rw [t.other b hb]
  file b _ := t.sameFile b
  event b _ he := by
    by_cases hb : b = a
    · rw [hb, t.self]
    · rwa [t.other b hb]
  gone file' hg := by
    refine ⟨hgone file' hg, hlists file' ?_, fun b _ _ => congrArg (List.count b) t.destroyed⟩
    rintro rfl
    have hm := (h.listed a _).mpr ⟨t.event, rfl⟩
    rw [h.gone _ hg] at hm
    cases hm

theorem kept_seqPassed (h : FilesInv f) (actions : List ActionId) : Kept f (f.seqPassed actions) := by
  unfold Files.seqPassed
  induction actions generalizing f with
  | nil => exact .refl f
  | cons a actions ih =>
    cases ha : (f.eaction a).event with
    | false =>
      rw [List.foldl_cons, seqPassed_of_gone ha]
      exact ih h
    | true =>
      have t := h.taken_seqPassed ha
      refine .trans (t.kept h ?_ ?_) (ih (h.take t))
      · unfold Files.vmwEventFenceActionSeqPassed
        dsimp only
        split <;> exact fun _ hgone => hgone
      · intro file hf
        unfold Files.vmwEventFenceActionSeqPassed
        dsimp only
        split
        · rfl
        · exact Function.update_of_ne hf ..

/-- The callbacks leave none of their actions with its event. -/
theorem seqPassed_event (h : FilesInv f) {actions : List ActionId} (hlt : ∀ a ∈ actions, a < f.nextAction) :
    ∀ a ∈ actions, ((f.seqPassed actions).eaction a).event = false := by
  unfold Files.seqPassed
  induction actions generalizing f with
  | nil => exact fun _ h => absurd h List.not_mem_nil
  | cons b actions ih =>
    have hb := hlt b List.mem_cons_self
    have hkept := h.kept_seqPassed [b]
    have hinv := h.seqPassed [b]
    have hrest : ∀ a ∈ actions, a < (f.vmwEventFenceActionSeqPassed b).nextAction :=
      fun a ha => Nat.lt_of_lt_of_le (hlt a (List.mem_cons_of_mem b ha)) hkept.next
    intro a ha
    cases List.mem_cons.mp ha with
    | inr ha => exact ih hinv hrest a ha
    | inl heq =>
      subst heq
      have hgone : ((f.vmwEventFenceActionSeqPassed a).eaction a).event = false := by
        cases he : (f.eaction a).event with
        | false => rwa [seqPassed_of_gone he]
        | true => rw [(h.taken_seqPassed he).self]
      exact (hinv.kept_seqPassed actions).event a (Nat.lt_of_lt_of_le hb hkept.next) hgone

theorem kept_fprivUnlink (h : FilesInv f) (hclosing : f.file file = .closing none) : Kept f (f.fprivUnlink file) := by
  have hnot : f.file file ≠ .gone := by
    rw [hclosing]
    nofun
  cases hlist : f.fenceEvents file with
  | nil =>
    rw [fprivUnlink_nil hlist]
    exact kept_setFile .gone hnot
  | cons a rest =>
    refine (h.taken_fprivUnlink hclosing hlist).kept h ?_ ?_
    · unfold Files.fprivUnlink
      rw [hlist]
      intro file' hgone
      have hne : file' ≠ file := fun heq => hnot (heq ▸ hgone)
      exact (Function.update_of_ne hne ..).trans hgone
    · unfold Files.fprivUnlink
      rw [hlist]
      exact fun _ _ => rfl

theorem kept_fprivDestroy (h : FilesInv f) (hclosing : f.file file = .closing (some a)) :
    Kept f (f.fprivDestroy file a) := by
  have hnot : f.file file ≠ .gone := by
    rw [hclosing]
    nofun
  have hset : Kept f (f.setFile file (.closing none)) := kept_setFile _ hnot
  refine ⟨hset.next, hset.fence, hset.file, hset.event, fun file' hgone => ?_⟩
  obtain ⟨hgone', hlist, -⟩ := hset.gone file' hgone
  refine ⟨hgone', hlist, fun b _ hfile => ?_⟩
  have hne : b ≠ a := by
    rintro rfl
    rw [← hfile, (h.closing b file hclosing).2] at hgone
    exact hnot hgone
  unfold Files.destructions Files.fprivDestroy
  dsimp only
  rw [List.count_append, List.count_singleton, if_neg (by simpa using Ne.symm hne), Nat.add_zero]

end Kept

end FilesInv

end Vmwgfx.Fence.Events
