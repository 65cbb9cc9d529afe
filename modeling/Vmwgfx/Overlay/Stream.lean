import Vmwgfx.Lib.Count
import Vmwgfx.Lib.Machine
import Vmwgfx.Overlay.Defs

/-! What the device shows of a stream is what the stream says. -/

namespace Vmwgfx.Overlay

open Lib

variable {s s' : State} {i : Nat} {b : BufId} {ret : Int} {interruptible : Bool}

/-- A stream between two operations. -/
structure StreamInv (s : State) (i : Nat) : Prop where
  shown : ∀ v, s.shown i = some v → s.pinned i = some v.buf
  pinned : ∀ b, s.pinned i = some b → (s.stream i).buf = some b ∧ (s.stream i).paused = false
  playing : ∀ b, (s.stream i).buf = some b → (s.stream i).paused = false → s.pinned i = some b
  paused : (s.stream i).paused = true → (s.stream i).buf ≠ none
  saved : (s.stream i).buf ≠ none → (s.stream i).saved.streamId = i

structure Inv (s : State) : Prop where
  streams : ∀ i, StreamInv s i
  refs : ∀ b, s.bufRef b = s.handleRef b + s.streamRefs b
  holders : ∀ i ∈ s.holders, i < VMW_MAX_NUM_STREAMS
  beyond : ∀ i, VMW_MAX_NUM_STREAMS ≤ i → (s.stream i).buf = none

/-- The operation is about stream `i`. -/
structure Only (i : Nat) (s s' : State) : Prop where
  stream : ∀ j, j ≠ i → s'.stream j = s.stream j
  shown : ∀ j, j ≠ i → s'.shown j = s.shown j
  pinned : ∀ j, j ≠ i → s'.pinned j = s.pinned j
  handleRef : s'.handleRef = s.handleRef
  holders : s'.holders = s.holders

namespace Only

variable {s'' : State}

theorem refl (i : Nat) (s : State) : Only i s s := ⟨fun _ _ => rfl, fun _ _ => rfl, fun _ _ => rfl, rfl, rfl⟩

theorem trans (h : Only i s s') (h' : Only i s' s'') : Only i s s'' :=
  ⟨fun j hj => (h'.stream j hj).trans (h.stream j hj), fun j hj => (h'.shown j hj).trans (h.shown j hj),
    fun j hj => (h'.pinned j hj).trans (h.pinned j hj), h'.handleRef.trans h.handleRef, h'.holders.trans h.holders⟩

theorem modify (s : State) (i : Nat) (f : VmwStream → VmwStream) : Only i s (s.modify i f) :=
  ⟨fun _ hj => Function.update_of_ne hj .., fun _ _ => rfl, fun _ _ => rfl, rfl, rfl⟩

theorem setBuf (s : State) (i : Nat) (b : BufId) : Only i s (s.setBuf i b) :=
  ⟨fun _ hj => Function.update_of_ne hj .., fun _ _ => rfl, fun _ _ => rfl, rfl, rfl⟩

theorem dropBuf (s : State) (i : Nat) : Only i s (s.dropBuf i) := by
  unfold State.dropBuf
  split
  · exact refl i s
  · exact ⟨fun _ hj => Function.update_of_ne hj .., fun _ _ => rfl, fun _ _ => rfl, rfl, rfl⟩

theorem setShown (s : State) (i : Nat) (v : Option Shown) :
    Only i s { s with shown := Function.update s.shown i v } :=
  ⟨fun _ _ => rfl, fun _ hj => Function.update_of_ne hj .., fun _ _ => rfl, rfl, rfl⟩

end Only

section Stream

theorem modify_stream (s : State) (i : Nat) (f : VmwStream → VmwStream) : (s.modify i f).stream i = f (s.stream i) :=
  Function.update_self ..

theorem setBuf_stream (s : State) (i : Nat) (b : BufId) :
    (s.setBuf i b).stream i = { s.stream i with buf := some b } := Function.update_self ..

theorem dropBuf_stream (s : State) (i : Nat) : (s.dropBuf i).stream i = { s.stream i with buf := none } := by
  unfold State.dropBuf
  split
  · rename_i hnone
    rw [← hnone]
  · exact Function.update_self ..

theorem dropBuf_frame (s : State) (i : Nat) : (s.dropBuf i).shown = s.shown ∧ (s.dropBuf i).pinned = s.pinned := by
  unfold State.dropBuf
  split <;> exact ⟨rfl, rfl⟩

/-- The references of streams, when one stream changes. -/
theorem streamRefs_only (ho : ∀ j, j ≠ i → s'.stream j = s.stream j) (hi : i < VMW_MAX_NUM_STREAMS) (b : BufId) :
    s'.streamRefs b + named (s.stream i).buf b = s.streamRefs b + named (s'.stream i).buf b :=
  countP_named List.nodup_range (List.mem_range.mpr hi) (f := fun j => (s'.stream j).buf)
    (g := fun j => (s.stream j).buf) (fun j hj => by rw [ho j hj]) b

/-- The count of a buffer follows its streams. -/
def Counted (s : State) : Prop := ∀ b, s.bufRef b = s.handleRef b + s.streamRefs b

theorem Counted.congr (h : Counted s) (hbuf : ∀ j, (s'.stream j).buf = (s.stream j).buf) (href : s'.bufRef = s.bufRef)
    (hhandle : s'.handleRef = s.handleRef) : Counted s' := by
  intro b
  have hsame : s'.streamRefs b = s.streamRefs b := by
    unfold State.streamRefs
    exact List.countP_congr fun j _ => by rw [hbuf j]
  rw [href, hhandle, hsame]
  exact h b

theorem Counted.modify (h : Counted s) {f : VmwStream → VmwStream} (hf : (f (s.stream i)).buf = (s.stream i).buf) :
    Counted (s.modify i f) := by
  refine h.congr (fun j => ?_) rfl rfl
  by_cases hj : j = i
  · rw [hj, modify_stream, hf]
  · rw [(Only.modify s i f).stream j hj]

theorem Counted.setBuf (h : Counted s) (hi : i < VMW_MAX_NUM_STREAMS) (hnone : (s.stream i).buf = none) (b : BufId) :
    Counted (s.setBuf i b) := by
  intro b'
  have hcount := streamRefs_only (s := s) (Only.setBuf s i b).stream hi b'
  have hb' := h b'
  rw [hnone, setBuf_stream, named_none] at hcount
  change Function.update s.bufRef b (s.bufRef b + 1) b' = s.handleRef b' + _
  by_cases heq : b' = b
  · subst heq
    rw [named_self] at hcount
    rw [Function.update_self]
    omega
  · rw [named_ne (Ne.symm heq)] at hcount
    rw [Function.update_of_ne heq]
    omega

theorem Counted.dropBuf (h : Counted s) (hi : i < VMW_MAX_NUM_STREAMS) : Counted (s.dropBuf i) := by
  cases hbuf : (s.stream i).buf with
  | none =>
    have hsame : s.dropBuf i = s := by
      unfold State.dropBuf
      rw [hbuf]
    rwa [hsame]
  | some b =>
    intro b'
    have hcount := streamRefs_only (s := s) (Only.dropBuf s i).stream hi b'
    have hb' := h b'
    rw [hbuf, dropBuf_stream, named_none] at hcount
    have hrefs : (s.dropBuf i).bufRef = Function.update s.bufRef b (s.bufRef b - 1) := by
      unfold State.dropBuf
      rw [hbuf]
    rw [hrefs, (Only.dropBuf s i).handleRef]
    by_cases heq : b' = b
    · subst heq
      rw [named_self] at hcount
      rw [Function.update_self]
      omega
    · rw [named_ne (Ne.symm heq)] at hcount
      rw [Function.update_of_ne heq]
      omega

/-- An operation on one stream has to look after that stream only. -/
theorem Inv.only (h : Inv s) (ho : Only i s s') (hlt : i < VMW_MAX_NUM_STREAMS) (hcounted : Counted s')
    (hi : StreamInv s' i) : Inv s' := by
  refine ⟨fun j => ?_, hcounted, ho.holders ▸ h.holders, fun j hj => ?_⟩
  swap
  · rw [ho.stream j (by omega)]
    exact h.beyond j hj
  by_cases hj : j = i
  · exact hj ▸ hi
  · obtain ⟨hshown, hpinned, hplaying, hpaused, hsaved⟩ := h.streams j
    constructor
    all_goals
      first
      | rw [ho.stream j hj, ho.pinned j hj]
      | rw [ho.shown j hj, ho.pinned j hj]
      | rw [ho.stream j hj]
      assumption

end Stream

section Stop

/-- The stream is off the screen. -/
def hide (s : State) (i : Nat) : State := { s with shown := Function.update s.shown i none }

def unpinned (s : State) (i : Nat) : State := { s with pinned := Function.update s.pinned i none }

theorem vmwFallbackWait_cases (interruptible signal : Bool) :
    vmwFallbackWait interruptible signal = 0 ∨
      interruptible = true ∧ vmwFallbackWait interruptible signal = -ERESTARTSYS := by
  unfold vmwFallbackWait
  split
  · rename_i hsignal
    exact .inr ⟨hsignal.1, rfl⟩
  · exact .inl rfl

theorem vmwOverlaySendStop_spec (s : State) (i : Nat) (interruptible : Bool) (waits : List Bool) :
    ∃ ret s', vmwOverlaySendStop s i interruptible waits = some (ret, s') ∧
      (ret = 0 ∧ s' = hide s i ∨ ret ≠ 0 ∧ s' = s) := by
  induction waits with
  | nil => exact ⟨0, _, rfl, .inl ⟨rfl, rfl⟩⟩
  | cons signal waits ih =>
    unfold vmwOverlaySendStop
    dsimp only
    rcases vmwFallbackWait_cases interruptible signal with hret | ⟨hint, hret⟩
    · rw [hret, if_neg (fun hc => absurd hc.2 (by decide)), if_neg (not_not.mpr rfl)]
      exact ih
    · rw [hret, if_pos ⟨hint, rfl⟩]
      exact ⟨_, s, rfl, .inr ⟨by decide, rfl⟩⟩

theorem stopPlaying_spec (s : State) (i : Nat) (b : BufId) {o : StopOutcome} (hunpin : UnpinRet interruptible o.unpin) :
    ∃ ret s', stopPlaying s i b interruptible o = some (ret, s') ∧
      (ret = 0 ∧ s' = unpinned (hide s i) i ∨ ret ≠ 0 ∧ (s' = s ∨ s' = hide s i)) := by
  obtain ⟨ret, s', hstop, hcases⟩ := vmwOverlaySendStop_spec s i interruptible o.waits
  unfold stopPlaying
  rw [hstop]
  dsimp only [Option.bind_some]
  rcases hcases with ⟨rfl, rfl⟩ | ⟨hret, rfl⟩
  · rw [if_neg (not_not.mpr rfl)]
    rcases hunpin with hok | ⟨hint, hintr⟩
    · rw [hok, if_neg (fun hc => absurd hc.2 (by decide)), if_neg (not_not.mpr rfl)]
      exact ⟨0, _, rfl, .inl ⟨rfl, rfl⟩⟩
    · rw [hintr, if_pos ⟨hint, rfl⟩]
      refine ⟨_, _, rfl, .inr ⟨by decide, .inr ?_⟩⟩
      exact if_neg (by decide)
  · rw [if_pos hret]
    exact ⟨ret, s', rfl, .inr ⟨hret, .inl rfl⟩⟩

/-- What a `vmw_overlay_stop` that is through leaves. -/
structure Stopped (s' : State) (i : Nat) (pause : Bool) : Prop where
  shown : s'.shown i = none
  pinned : s'.pinned i = none
  stream : if pause then (s'.stream i).buf ≠ none → (s'.stream i).paused = true
    else (s'.stream i).buf = none ∧ (s'.stream i).paused = false

theorem StreamInv.of_unpinned (hpinned : s.pinned i = none) (hshown : s.shown i = none)
    (hplaying : (s.stream i).buf ≠ none → (s.stream i).paused = true)
    (hpaused : (s.stream i).paused = true → (s.stream i).buf ≠ none)
    (hsaved : (s.stream i).buf ≠ none → (s.stream i).saved.streamId = i) : StreamInv s i where
  shown v hv := by
    rw [hshown] at hv
    cases hv
  pinned b hb := by
    rw [hpinned] at hb
    cases hb
  playing b hb hno := by
    rw [hplaying (by rw [hb]; exact Option.some_ne_none b)] at hno
    cases hno
  paused := hpaused
  saved := hsaved

theorem StreamInv.hidden (h : StreamInv s i) (hpinned : s.pinned i = none) : s.shown i = none := by
  cases hshown : s.shown i with
  | none => rfl
  | some v =>
    have hv := h.shown v hshown
    rw [hpinned] at hv
    cases hv

theorem StreamInv.paused_pinned (h : StreamInv s i) (hpaused : (s.stream i).paused = true) : s.pinned i = none := by
  cases hpinned : s.pinned i with
  | none => rfl
  | some b =>
    have hb := (h.pinned b hpinned).2
    rw [hpaused] at hb
    cases hb

theorem StreamInv.idle_pinned (h : StreamInv s i) (hnone : (s.stream i).buf = none) :
    s.pinned i = none ∧ (s.stream i).paused = false := by
  constructor
  · cases hpinned : s.pinned i with
    | none => rfl
    | some b =>
      have hb := (h.pinned b hpinned).1
      rw [hnone] at hb
      cases hb
  · cases hpaused : (s.stream i).paused with
    | false => rfl
    | true => exact absurd hnone (h.paused hpaused)

/-- `vmw_overlay_stop` of a stream that has been taken off the screen and unpinned. -/
theorem stop_end {s₀ : State} (h₀ : Inv s₀) (hi : i < VMW_MAX_NUM_STREAMS) (ho : Only i s₀ s) (hcounted : Counted s)
    (hstream : s.stream i = s₀.stream i) (hpinned : s.pinned i = none) (hshown : s.shown i = none)
    (hbuf : (s.stream i).buf ≠ none) (pause : Bool) :
    ∃ s', (if ¬ pause then (0, (s.dropBuf i).modify i (fun stream => { stream with paused := false }))
        else ((0 : Int), s.modify i (fun stream => { stream with paused := true }))) = (0, s') ∧
      Inv s' ∧ Only i s₀ s' ∧ Stopped s' i pause := by
  cases pause with
  | false =>
    refine ⟨_, if_pos Bool.false_ne_true, ?_⟩
    have hself : (((s.dropBuf i).modify i fun stream => { stream with paused := false }).stream i) =
        { s.stream i with buf := none, paused := false } := by rw [modify_stream, dropBuf_stream]
    obtain ⟨hshown', hpinned'⟩ := dropBuf_frame s i
    have hshown' : ((s.dropBuf i).modify i fun stream => { stream with paused := false }).shown i = none := by
      rw [← hshown, ← hshown']
      rfl
    have hpinned' : ((s.dropBuf i).modify i fun stream => { stream with paused := false }).pinned i = none := by
      rw [← hpinned, ← hpinned']
      rfl
    have ho' := (ho.trans (Only.dropBuf s i)).trans (Only.modify _ i fun stream => { stream with paused := false })
    have hcounted' : Counted ((s.dropBuf i).modify i fun stream => { stream with paused := false }) :=
      (hcounted.dropBuf hi).modify rfl
    refine ⟨h₀.only ho' hi hcounted' (.of_unpinned hpinned' hshown' ?_ ?_ ?_), ho', hshown', hpinned', ?_⟩
    all_goals rw [hself]
    · exact fun hc => absurd rfl hc
    · exact fun hc => Bool.noConfusion hc
    · exact fun hc => absurd rfl hc
    · exact ⟨rfl, rfl⟩
  | true =>
    refine ⟨_, if_neg (not_not.mpr rfl), ?_⟩
    have hself := modify_stream s i fun stream => { stream with paused := true }
    have ho' := ho.trans (Only.modify s i fun stream => { stream with paused := true })
    have hcounted' : Counted (s.modify i fun stream => { stream with paused := true }) := hcounted.modify rfl
    refine ⟨h₀.only ho' hi hcounted' (.of_unpinned hpinned hshown ?_ ?_ ?_), ho', hshown, hpinned, ?_⟩
    all_goals rw [hself]
    · exact fun _ => rfl
    · exact fun _ => hbuf
    · rw [hstream]
      exact (h₀.streams i).saved
    · exact fun _ => rfl

/-- The stop command went out, the unpin was interrupted. -/
theorem Inv.hide (h : Inv s) (hi : i < VMW_MAX_NUM_STREAMS) : Inv (hide s i) := by
  obtain ⟨_, hpinned, hplaying, hpaused, hsaved⟩ := h.streams i
  refine h.only (Only.setShown s i none) hi (Counted.congr h.refs (fun _ => rfl) rfl rfl)
    ⟨fun v hv => ?_, hpinned, hplaying, hpaused, hsaved⟩
  rw [show (Overlay.hide s i).shown i = none from Function.update_self ..] at hv
  cases hv

theorem vmwOverlayStop_spec (h : Inv s) (hi : i < VMW_MAX_NUM_STREAMS) (pause : Bool) {o : StopOutcome}
    (hunpin : UnpinRet interruptible o.unpin) :
    ∃ ret s', vmwOverlayStop s i pause interruptible o = some (ret, s') ∧ Inv s' ∧ Only i s s' ∧
      (ret = 0 → Stopped s' i pause) := by
  unfold vmwOverlayStop
  cases hbuf : (s.stream i).buf with
  | none =>
    obtain ⟨hpinned, hpaused⟩ := (h.streams i).idle_pinned hbuf
    refine ⟨0, s, rfl, h, .refl i s, fun _ => ⟨(h.streams i).hidden hpinned, hpinned, ?_⟩⟩
    split
    · exact fun hc => absurd hbuf hc
    · exact ⟨hbuf, hpaused⟩
  | some b =>
    have hsome : (s.stream i).buf ≠ none := by rw [hbuf]; exact Option.some_ne_none b
    dsimp only
    by_cases hpaused : (s.stream i).paused = true
    · have hpinned := (h.streams i).paused_pinned hpaused
      obtain ⟨s', hend, hinv, ho, hstopped⟩ :=
        stop_end h hi (.refl i s) h.refs rfl hpinned ((h.streams i).hidden hpinned) hsome pause
      rw [if_pos hpaused, Option.map_some, if_neg (not_not.mpr rfl), hend]
      exact ⟨0, s', rfl, hinv, ho, fun _ => hstopped⟩
    · rw [if_neg hpaused]
      obtain ⟨ret, s₁, hstop, ⟨rfl, rfl⟩ | ⟨hret, hfail⟩⟩ := stopPlaying_spec s i b hunpin
      · have hcounted : Counted (unpinned (hide s i) i) := Counted.congr h.refs (fun _ => rfl) rfl rfl
        have ho₁ : Only i s (unpinned (hide s i) i) :=
          ⟨fun _ _ => rfl, fun _ hj => Function.update_of_ne hj .., fun _ hj => Function.update_of_ne hj .., rfl, rfl⟩
        obtain ⟨s', hend, hinv, ho, hstopped⟩ := stop_end h hi ho₁ hcounted rfl (Function.update_self ..)
          (Function.update_self ..) hsome pause
        rw [hstop, Option.map_some, if_neg (not_not.mpr rfl), hend]
        exact ⟨0, s', rfl, hinv, ho, fun _ => hstopped⟩
      · rw [hstop, Option.map_some, if_pos hret]
        refine ⟨ret, s₁, rfl, ?_, ?_, fun hc => absurd hc hret⟩
        · rcases hfail with rfl | rfl
          · exact h
          · exact h.hide hi
        · rcases hfail with rfl | rfl
          · exact .refl i s₁
          · exact Only.setShown s i none

end Stop

section Start

variable {arg : ControlStreamArg} {o : UpdateOutcome}

/-- `vmw_overlay_update_stream` of a stream that has been pinned and put on the screen. -/
theorem start_end {s₀ : State} (h₀ : Inv s₀) (hi : i < VMW_MAX_NUM_STREAMS) (ho : Only i s₀ s) (hcounted : Counted s)
    (hid : arg.streamId = i) (hpinned : s.pinned i = some b) (hshown : ∀ v, s.shown i = some v → v.buf = b)
    (hbuf : (s.stream i).buf = none ∨ (s.stream i).buf = some b) :
    Inv ((if (s.stream i).buf ≠ some b then s.setBuf i b else s).modify i
        fun stream => { stream with saved := arg, paused := false }) ∧
      Only i s₀ ((if (s.stream i).buf ≠ some b then s.setBuf i b else s).modify i
        fun stream => { stream with saved := arg, paused := false }) := by
  obtain ⟨s₁, hs₁⟩ : ∃ s₁, s₁ = if (s.stream i).buf ≠ some b then s.setBuf i b else s := ⟨_, rfl⟩
  have hmid :
      Only i s₀ s₁ ∧ Counted s₁ ∧ (s₁.stream i).buf = some b ∧ s₁.pinned = s.pinned ∧ s₁.shown = s.shown := by
    rw [hs₁]
    rcases hbuf with hnone | hsame
    · rw [if_pos (by rw [hnone]; exact (Option.some_ne_none b).symm)]
      exact ⟨ho.trans (Only.setBuf s i b), hcounted.setBuf hi hnone b, by rw [setBuf_stream], rfl, rfl⟩
    · rw [if_neg (not_not.mpr hsame)]
      exact ⟨ho, hcounted, hsame, rfl, rfl⟩
  obtain ⟨ho₁, hcounted₁, hbuf₁, hpinned₁, hshown₁⟩ := hmid
  rw [← hs₁]
  have hself := modify_stream s₁ i fun stream => { stream with saved := arg, paused := false }
  have ho' := ho₁.trans (Only.modify s₁ i fun stream => { stream with saved := arg, paused := false })
  refine ⟨h₀.only ho' hi (hcounted₁.modify rfl)
    ⟨fun v hv => ?_, fun b' hb' => ?_, fun b' hb' _ => ?_, ?_, ?_⟩, ho'⟩
  · change s₁.shown i = some v at hv
    change s₁.pinned i = some v.buf
    rw [hshown₁] at hv
    rw [hpinned₁, hpinned, hshown v hv]
  · change s₁.pinned i = some b' at hb'
    rw [hpinned₁, hpinned] at hb'
    rw [hself]
    exact ⟨hbuf₁.trans hb', rfl⟩
  · rw [hself] at hb'
    change s₁.pinned i = some b'
    rw [hpinned₁, hpinned]
    exact hbuf₁.symm.trans hb'
  · rw [hself]
    exact fun hc => Bool.noConfusion hc
  · rw [hself]
    exact fun _ => hid

/-- A stream that is paused with the buffer, or has none, is started with it or stays as it is. -/
theorem startStream_spec (h : Inv s) (hi : arg.streamId < VMW_MAX_NUM_STREAMS) (hpinned : s.pinned arg.streamId = none)
    (hbuf : (s.stream arg.streamId).buf = none ∨ (s.stream arg.streamId).buf = some b)
    (hunpin : UnpinRet false o.unpin) :
    ∃ ret s', startStream s b arg o = some (ret, s') ∧ Inv s' ∧ Only arg.streamId s s' := by
  have hshown := (h.streams _).hidden hpinned
  unfold startStream vmwOverlaySendPut
  dsimp only
  by_cases hpin : o.pin = 0
  · rw [if_neg (not_not.mpr hpin)]
    have hmove : vmwOverlayMoveBuffer s arg.streamId b true o.pin =
        { s with pinned := Function.update s.pinned arg.streamId (some b) } := if_pos hpin
    rw [hmove]
    by_cases hput : o.put = true
    · rw [if_neg (not_not.mpr hput)]
      dsimp only
      rw [if_neg (not_not.mpr rfl)]
      have ho : Only arg.streamId s
          { s with pinned := Function.update s.pinned arg.streamId (some b)
                   shown := Function.update s.shown arg.streamId (some ⟨b, arg.offset, arg.size⟩) } :=
        ⟨fun _ _ => rfl, fun _ hj => Function.update_of_ne hj .., fun _ hj => Function.update_of_ne hj .., rfl, rfl⟩
      have hcounted := Counted.congr h.refs (fun _ => rfl) rfl rfl
      refine ⟨0, _, rfl, start_end h hi ho hcounted rfl (Function.update_self ..) ?_ hbuf⟩
      intro v hv
      change Function.update s.shown arg.streamId (some ⟨b, arg.offset, arg.size⟩) arg.streamId = some v at hv
      rw [Function.update_self] at hv
      exact (Option.some.inj hv) ▸ rfl
    · rw [if_pos hput]
      dsimp only
      rw [if_pos (show (-ENOMEM : Int) ≠ 0 by decide)]
      rcases hunpin with hok | ⟨hno, _⟩
      swap
      · exact Bool.noConfusion hno
      rw [if_neg (not_not.mpr hok)]
      refine ⟨_, _, rfl, ?_⟩
      have hback : vmwOverlayMoveBuffer { s with pinned := Function.update s.pinned arg.streamId (some b) } arg.streamId b
          false o.unpin = s := by
        unfold vmwOverlayMoveBuffer
        rw [if_pos hok]
        simp only [Function.update_idem, Bool.false_eq_true, if_false, ← hpinned, Function.update_eq_self]
      rw [hback]
      exact ⟨h, .refl _ s⟩
  · rw [if_pos hpin]
    refine ⟨_, _, rfl, ?_⟩
    rw [show vmwOverlayMoveBuffer s arg.streamId b true o.pin = s from if_neg hpin]
    exact ⟨h, .refl _ s⟩

/-- The stream goes on, with another part of its buffer. -/
theorem replay (h : Inv s) (hi : i < VMW_MAX_NUM_STREAMS) (hbuf : (s.stream i).buf = some b)
    (hpaused : (s.stream i).paused = false) (hid : arg.streamId = i) (v : Shown) (hv : v.buf = b) :
    Inv (State.modify { s with shown := Function.update s.shown i (some v) } i fun stream =>
        { stream with saved := arg }) ∧
      Only i s (State.modify { s with shown := Function.update s.shown i (some v) } i fun stream =>
        { stream with saved := arg }) := by
  have hpinned := (h.streams i).playing b hbuf hpaused
  have ho := (Only.setShown s i (some v)).trans
    (Only.modify { s with shown := Function.update s.shown i (some v) } i fun stream => { stream with saved := arg })
  have hself := modify_stream { s with shown := Function.update s.shown i (some v) } i fun stream =>
    { stream with saved := arg }
  have hcounted : Counted { s with shown := Function.update s.shown i (some v) } :=
    Counted.congr h.refs (fun _ => rfl) rfl rfl
  refine ⟨h.only ho hi (hcounted.modify rfl) ⟨fun v' hv' => ?_, fun b' hb' => ?_, fun b' hb' _ => ?_, ?_, ?_⟩, ho⟩
  · change Function.update s.shown i (some v) i = some v' at hv'
    rw [Function.update_self] at hv'
    rw [← Option.some.inj hv', hv]
    exact hpinned
  · rw [hself]
    exact (h.streams i).pinned b' hb'
  · rw [hself] at hb'
    exact (h.streams i).playing b' hb' hpaused
  · rw [hself]
    exact (h.streams i).paused
  · rw [hself]
    exact fun _ => hid

/-- A resume is not interruptible, but finds the stream paused. -/
theorem vmwOverlayUpdateStream_spec (h : Inv s) (hi : arg.streamId < VMW_MAX_NUM_STREAMS) {buf : Option BufId}
    (hplay : interruptible = false → ¬ ((s.stream arg.streamId).buf = buf ∧ (s.stream arg.streamId).paused = false))
    (hstop : UnpinRet interruptible o.stop.unpin) (hunpin : UnpinRet false o.unpin) :
    ∃ ret s', vmwOverlayUpdateStream s buf arg interruptible o = some (ret, s') ∧ Inv s' ∧ Only arg.streamId s s' := by
  unfold vmwOverlayUpdateStream
  cases buf with
  | none => exact ⟨_, s, rfl, h, .refl _ s⟩
  | some b =>
    dsimp only
    by_cases hsame : (s.stream arg.streamId).buf = some b
    · by_cases hpaused : (s.stream arg.streamId).paused = true
      · rw [if_neg (fun hc => hc.2 hpaused), if_neg (not_not.mpr hsame), Option.bind_some]
        rw [if_neg (not_not.mpr rfl)]
        exact startStream_spec h hi ((h.streams _).paused_pinned hpaused) (.inr hsame) hunpin
      · rw [if_pos ⟨hsame, hpaused⟩]
        unfold vmwOverlaySendPut
        have hpaused' : (s.stream arg.streamId).paused = false := eq_false_of_ne_true hpaused
        by_cases hput : o.put = true
        · rw [if_neg (not_not.mpr hput)]
          dsimp only
          rw [if_pos rfl]
          exact ⟨0, _, rfl, replay h hi hsame hpaused' rfl _ rfl⟩
        · rw [if_pos hput]
          dsimp only
          have hint : interruptible = true := by
            by_contra hno
            exact hplay (eq_false_of_ne_true hno) ⟨hsame, hpaused'⟩
          rw [if_neg (show (-ENOMEM : Int) ≠ 0 by decide), if_neg (not_not.mpr hint)]
          exact ⟨_, s, rfl, h, .refl _ s⟩
    · rw [if_neg (fun hc => hsame hc.1), if_pos hsame]
      obtain ⟨ret, s₁, hstopped, hinv, ho, hdone⟩ := vmwOverlayStop_spec h hi false hstop
      rw [hstopped, Option.bind_some]
      by_cases hret : ret = 0
      · rw [if_neg (not_not.mpr hret)]
        obtain ⟨_, hpinned, hstream⟩ := hdone hret
        obtain ⟨ret', s', hstart, hinv', ho'⟩ := startStream_spec hinv hi hpinned (.inl hstream.1) hunpin
        exact ⟨ret', s', hstart, hinv', ho.trans ho'⟩
      · rw [if_pos hret]
        exact ⟨ret, s₁, rfl, hinv, ho⟩

end Start

section Handles

theorem Inv.handleGet (h : Inv s) (b : BufId) : Inv (s.handleGet b) := by
  refine ⟨fun i => ?_, fun b' => ?_, h.holders, h.beyond⟩
  · obtain ⟨hshown, hpinned, hplaying, hpaused, hsaved⟩ := h.streams i
    exact ⟨hshown, hpinned, hplaying, hpaused, hsaved⟩
  · change Function.update s.bufRef b (s.bufRef b + 1) b' =
      Function.update s.handleRef b (s.handleRef b + 1) b' + s.streamRefs b'
    have hrefs := h.refs b'
    by_cases heq : b' = b
    · subst heq
      rw [Function.update_self, Function.update_self]
      omega
    · rw [Function.update_of_ne heq, Function.update_of_ne heq]
      exact hrefs

theorem Inv.handlePut (h : Inv s) (hpos : 0 < s.handleRef b) : Inv (s.handlePut b) := by
  refine ⟨fun i => ?_, fun b' => ?_, h.holders, h.beyond⟩
  · obtain ⟨hshown, hpinned, hplaying, hpaused, hsaved⟩ := h.streams i
    exact ⟨hshown, hpinned, hplaying, hpaused, hsaved⟩
  · change Function.update s.bufRef b (s.bufRef b - 1) b' =
      Function.update s.handleRef b (s.handleRef b - 1) b' + s.streamRefs b'
    have hrefs := h.refs b'
    by_cases heq : b' = b
    · subst heq
      rw [Function.update_self, Function.update_self]
      omega
    · rw [Function.update_of_ne heq, Function.update_of_ne heq]
      exact hrefs

/-- A claim says nothing about what is shown. -/
theorem Inv.setClaimed (h : Inv s) (i : Nat) (c : Bool) {holders : List Nat}
    (hlt : ∀ j ∈ holders, j < VMW_MAX_NUM_STREAMS) :
    Inv { s.modify i (fun stream => { stream with claimed := c }) with holders := holders } := by
  have hstream : ∀ j, ∃ c', (s.modify i fun stream => { stream with claimed := c }).stream j =
      { s.stream j with claimed := c' } := by
    intro j
    by_cases hj : j = i
    · subst hj
      exact ⟨c, modify_stream ..⟩
    · exact ⟨(s.stream j).claimed, (Only.modify s i _).stream j hj⟩
  refine ⟨fun j => ?_, ?_, hlt, fun j hj => ?_⟩
  · obtain ⟨c', hc'⟩ := hstream j
    obtain ⟨hshown, hpinned, hplaying, hpaused, hsaved⟩ := h.streams j
    constructor
    all_goals
      first
      | exact hshown
      | dsimp only
        rw [hc']
        assumption
  · refine Counted.congr (s := s) h.refs (fun j => ?_) rfl rfl
    obtain ⟨c', hc'⟩ := hstream j
    dsimp only
    rw [hc']
  · obtain ⟨c', hc'⟩ := hstream j
    dsimp only
    rw [hc']
    exact h.beyond j hj

end Handles

section Run

/-- One stream after another, an invariant at a time. -/
theorem forStreams_spec {f : State → Nat → Option State}
    (hf : ∀ s i, Inv s → i < VMW_MAX_NUM_STREAMS → ∃ s', f s i = some s' ∧ Inv s') (h : Inv s) :
    ∃ s', forStreams f s = some s' ∧ Inv s' := by
  have hlist : ∀ (l : List Nat), (∀ i ∈ l, i < VMW_MAX_NUM_STREAMS) →
      ∀ s, Inv s → ∃ s', l.foldlM f s = some s' ∧ Inv s' := by
    intro l
    induction l with
    | nil => exact fun _ s hs => ⟨s, rfl, hs⟩
    | cons i l ih =>
      intro hl s hs
      obtain ⟨s₁, hf₁, hs₁⟩ := hf s i hs (hl i List.mem_cons_self)
      obtain ⟨s', hrest, hs'⟩ := ih (fun j hj => hl j (List.mem_cons_of_mem i hj)) s₁ hs₁
      refine ⟨s', ?_, hs'⟩
      rw [List.foldlM_cons, hf₁]
      exact hrest
  exact hlist _ (fun i hi => List.mem_range.mp hi) s h

theorem vmwOverlayStopAll_spec (h : Inv s) {o : Nat → StopOutcome} (hunpin : ∀ i, UnpinRet false (o i).unpin) :
    ∃ s', vmwOverlayStopAll s o = some s' ∧ Inv s' := by
  refine forStreams_spec (fun s i hs hi => ?_) h
  split
  · exact ⟨s, rfl, hs⟩
  · obtain ⟨ret, s', hstop, hs', _⟩ := vmwOverlayStop_spec hs hi false (hunpin i)
    exact ⟨s', by rw [hstop, Option.map_some], hs'⟩

theorem vmwOverlayPauseAll_spec (h : Inv s) {o : Nat → StopOutcome} (hunpin : ∀ i, UnpinRet false (o i).unpin) :
    ∃ s', vmwOverlayPauseAll s o = some s' ∧ Inv s' := by
  refine forStreams_spec (fun s i hs hi => ?_) h
  obtain ⟨ret, s', hstop, hs', _⟩ := vmwOverlayStop_spec hs hi true (hunpin i)
  exact ⟨s', by rw [hstop, Option.map_some], hs'⟩

theorem vmwOverlayResumeAll_spec (h : Inv s) {o : Nat → UpdateOutcome}
    (hunpin : ∀ i, UnpinRet false (o i).stop.unpin ∧ UnpinRet false (o i).unpin) :
    ∃ s', vmwOverlayResumeAll s o = some s' ∧ Inv s' := by
  refine forStreams_spec (fun s i hs hi => ?_) h
  split
  · exact ⟨s, rfl, hs⟩
  · rename_i hpaused
    have hpaused : (s.stream i).paused = true := not_not.mp hpaused
    have hid := (hs.streams i).saved ((hs.streams i).paused hpaused)
    have hlt : (s.stream i).saved.streamId < VMW_MAX_NUM_STREAMS := by
      rw [hid]
      exact hi
    have hplay (_ : false = false) : ¬ ((s.stream (s.stream i).saved.streamId).buf = (s.stream i).buf ∧
        (s.stream (s.stream i).saved.streamId).paused = false) := by
      rw [hid, hpaused]
      exact fun hc => Bool.noConfusion hc.2
    obtain ⟨ret, s', hupdate, hs', _⟩ := vmwOverlayUpdateStream_spec hs hlt hplay (hunpin i).1 (hunpin i).2
    exact ⟨s', by rw [hupdate, Option.map_some], hs'⟩

theorem vmwOverlayIoctl_spec (h : Inv s) {arg : ControlStreamArg} {l : Lookups} {o : UpdateOutcome}
    (hen : Enabled s (.ioctl arg l o)) (hunpins : Unpins (.ioctl arg l o)) :
    ∃ ret s', vmwOverlayIoctl s arg l o = some (ret, s') ∧ Inv s' := by
  unfold vmwOverlayIoctl
  split
  · exact ⟨_, s, rfl, h⟩
  · split
    · exact ⟨_, s, rfl, h⟩
    · rename_i i hi
      have hlt := h.holders i (hen.1 i hi)
      split
      · obtain ⟨ret, s', hstop, hs', _⟩ := vmwOverlayStop_spec h hlt false hunpins.1
        exact ⟨ret, s', hstop, hs'⟩
      · split
        · exact ⟨_, s, rfl, h⟩
        · rename_i b hb
          have hplay (hno : true = false) : ¬ (((s.handleGet b).stream i).buf = some b ∧
              ((s.handleGet b).stream i).paused = false) := Bool.noConfusion hno
          obtain ⟨ret, s', hupdate, hs', ho⟩ := vmwOverlayUpdateStream_spec (o := o) (h.handleGet b)
            (show ({ arg with streamId := i } : ControlStreamArg).streamId < _ from hlt) hplay hunpins.1 hunpins.2
          rw [hupdate, Option.map_some]
          refine ⟨ret, _, rfl, hs'.handlePut ?_⟩
          rw [ho.handleRef]
          change 0 < Function.update s.handleRef b (s.handleRef b + 1) b
          rw [Function.update_self]
          exact Nat.succ_pos _

theorem vmwOverlayClaim_spec (h : Inv s) : Inv (vmwOverlayClaim s).2 := by
  unfold vmwOverlayClaim
  split
  · exact h
  · rename_i i hfind
    refine h.setClaimed i true fun j hj => ?_
    rcases List.mem_cons.mp hj with rfl | hj
    · exact List.mem_range.mp (List.mem_of_find?_eq_some hfind)
    · exact h.holders j hj

theorem vmwOverlayUnref_spec (h : Inv s) {o : StopOutcome} (hi : i ∈ s.holders) (hunpin : UnpinRet false o.unpin) :
    ∃ s', vmwOverlayUnref s i o = some s' ∧ Inv s' := by
  have hlt := h.holders i hi
  obtain ⟨ret, s', hstop, hs', _⟩ := vmwOverlayStop_spec h hlt false hunpin
  unfold vmwOverlayUnref
  rw [if_neg (not_le.mpr hlt), hstop, Option.map_some]
  exact ⟨_, rfl, hs'.setClaimed i false fun j hj => hs'.holders j (List.mem_of_mem_erase hj)⟩

/-- No operation reaches a `BUG_ON`. -/
theorem Inv.step {a : Act} (h : Inv s) (hen : Enabled s a) (hunpins : Unpins a) : ∃ s', step s a = some s' ∧ Inv s' := by
  cases a with
  | ioctl arg l o =>
    obtain ⟨ret, s', hioctl, hs'⟩ := vmwOverlayIoctl_spec h hen hunpins
    refine ⟨s', ?_, hs'⟩
    change (vmwOverlayIoctl s arg l o).map _ = _
    rw [hioctl, Option.map_some]
  | pauseAll o => exact vmwOverlayPauseAll_spec h hunpins
  | resumeAll o => exact vmwOverlayResumeAll_spec h hunpins
  | stopAll o => exact vmwOverlayStopAll_spec h hunpins
  | claim => exact ⟨_, rfl, vmwOverlayClaim_spec h⟩
  | unref i o => exact vmwOverlayUnref_spec h hen hunpins
  | handleGet b => exact ⟨_, rfl, h.handleGet b⟩
  | handlePut b => exact ⟨_, rfl, h.handlePut hen⟩

theorem Inv.init : Inv State.init where
  streams _ := by
    refine ⟨fun v hv => ?_, fun b hb => ?_, fun b hb => ?_, fun hc => Bool.noConfusion hc, fun hc => absurd rfl hc⟩
    · cases hv
    · cases hb
    · cases hb
  refs b := by
    have hzero : State.init.streamRefs b = 0 := List.countP_eq_zero.mpr fun i _ => by
      rw [decide_eq_true_eq]
      exact (Option.some_ne_none b).symm
    rw [hzero]
    rfl
  holders i hi := by cases hi
  beyond _ _ := rfl

theorem Inv.truthful (h : Inv s) : Truthful s := by
  refine ⟨fun i v hv => ?_, fun i hpaused => ?_, fun i hnone => ?_, h.refs⟩
  · have hpinned := (h.streams i).shown v hv
    have hbuf := ((h.streams i).pinned v.buf hpinned).1
    refine ⟨hbuf, ?_, hpinned⟩
    have hlt : i < VMW_MAX_NUM_STREAMS := by
      by_contra hge
      rw [h.beyond i (not_lt.mp hge)] at hbuf
      cases hbuf
    have hcount : 0 < s.streamRefs v.buf :=
      List.countP_pos_iff.mpr ⟨i, List.mem_range.mpr hlt, decide_eq_true hbuf⟩
    have hrefs := h.refs v.buf
    omega
  · have hpinned := (h.streams i).paused_pinned hpaused
    exact ⟨(h.streams i).paused hpaused, hpinned, (h.streams i).hidden hpinned⟩
  · obtain ⟨hpinned, hpaused⟩ := (h.streams i).idle_pinned hnone
    exact ⟨hpaused, (h.streams i).hidden hpinned⟩

theorem run_inv {acts : List Act} (hrun : Run step (fun s a => Enabled s a ∧ Unpins a) State.init acts s) : Inv s := by
  refine Run.invariant (fun s a s' hok hstep hinv => ?_) hrun Inv.init
  obtain ⟨s'', hs'', hinv''⟩ := hinv.step hok.1 hok.2
  exact (Option.some.inj (hs''.symm.trans hstep)) ▸ hinv''

theorem overlay_truthful {acts : List Act} (hrun : Run step (fun s a => Enabled s a ∧ Unpins a) State.init acts s) :
    Truthful s ∧ ∀ a, Enabled s a → Unpins a → ∃ s', step s a = some s' := by
  have hinv := run_inv hrun
  refine ⟨hinv.truthful, fun a hen hunpins => ?_⟩
  obtain ⟨s', hs', _⟩ := hinv.step hen hunpins
  exact ⟨s', hs'⟩

/-- A stream is put on the screen, and paused. -/
def playAndPause : List Act :=
  [.handleGet 5, .claim, .ioctl ⟨0, true, 16, 64⟩ ⟨true, .ok 0, .ok 5⟩ ⟨⟨[], 0⟩, 0, true, 0⟩, .handlePut 5,
    .pauseAll fun _ => ⟨[false], 0⟩]

theorem overlay_truthful_paused :
    ∃ s, Run step (fun s a => Enabled s a ∧ Unpins a) State.init playAndPause s ∧
      (s.stream 0).paused = true ∧ Truthful s := by
  have hok : UnpinRet true 0 ∧ UnpinRet false 0 := ⟨.inl rfl, .inl rfl⟩
  have hen : Enabled (vmwOverlayClaim (State.init.handleGet 5)).2
      (.ioctl ⟨0, true, 16, 64⟩ ⟨true, .ok 0, .ok 5⟩ ⟨⟨[], 0⟩, 0, true, 0⟩) := by
    refine ⟨fun i hi => ?_, fun b hb => ?_⟩
    · cases hi
      exact List.mem_cons_self
    · cases hb
      exact Nat.one_pos
  have hrun : Run step (fun s a => Enabled s a ∧ Unpins a) State.init playAndPause _ :=
    .cons ⟨trivial, trivial⟩ rfl <| .cons ⟨trivial, trivial⟩ rfl <| .cons ⟨hen, hok⟩ rfl <|
      .cons ⟨Nat.one_pos, trivial⟩ rfl <| .cons ⟨trivial, fun _ => hok.2⟩ rfl <| .nil _
  exact ⟨_, hrun, rfl, (overlay_truthful hrun).1⟩

end Run

end Vmwgfx.Overlay
