import Vmwgfx.Kernel

/-! Overlay streams: `vmwgfx_overlay.c`. -/

namespace Vmwgfx.Overlay

abbrev BufId := Nat

def VMW_MAX_NUM_STREAMS : Nat := 1

def ENOSYS : Int := 38
def ESRCH : Int := 3
def ERESTARTSYS : Int := 512

/-- The part of `struct drm_vmw_control_stream_arg` that decides on what is shown. -/
structure ControlStreamArg where
  streamId : Nat
  enabled : Bool
  offset : Nat
  size : Nat
  deriving DecidableEq, Repr

structure VmwStream where
  buf : Option BufId
  claimed : Bool
  paused : Bool
  saved : ControlStreamArg

/-- What the device shows for a stream. -/
structure Shown where
  buf : BufId
  offset : Nat
  size : Nat
  deriving DecidableEq, Repr

structure State where
  stream : Nat → VmwStream
  bufRef : BufId → Nat
  /-- The references of user space handles. -/
  handleRef : BufId → Nat
  /-- The streams that a `struct vmw_stream` refers to. -/
  holders : List Nat
  shown : Nat → Option Shown
  /-- What the overlay has pinned for a stream, and has not unpinned since. -/
  pinned : Nat → Option BufId

namespace State

variable (s : State)

def modify (i : Nat) (f : VmwStream → VmwStream) : State :=
  { s with stream := Function.update s.stream i (f (s.stream i)) }

/-- `stream->buf = vmw_dmabuf_reference(buf)`. -/
def setBuf (i : Nat) (b : BufId) : State :=
  { s.modify i (fun stream => { stream with buf := some b }) with
    bufRef := Function.update s.bufRef b (s.bufRef b + 1) }

/-- `vmw_dmabuf_unreference(&stream->buf)`. -/
def dropBuf (i : Nat) : State :=
  match (s.stream i).buf with
  | none => s
  | some b =>
    { s.modify i (fun stream => { stream with buf := none }) with
      bufRef := Function.update s.bufRef b (s.bufRef b - 1) }

/-- A reference of a handle, or of a lookup. -/
def handleGet (b : BufId) : State :=
  { s with bufRef := Function.update s.bufRef b (s.bufRef b + 1)
           handleRef := Function.update s.handleRef b (s.handleRef b + 1) }

def handlePut (b : BufId) : State :=
  { s with bufRef := Function.update s.bufRef b (s.bufRef b - 1)
           handleRef := Function.update s.handleRef b (s.handleRef b - 1) }

end State

/-- What `vmw_fallback_wait` returns; `signal` is a pending signal. -/
def vmwFallbackWait (interruptible signal : Bool) : Int := if interruptible ∧ signal then -ERESTARTSYS else 0

/-- `vmw_overlay_send_put`; there is `room` in the FIFO or not. -/
def vmwOverlaySendPut (s : State) (buf : BufId) (arg : ControlStreamArg) (room : Bool) : Int × State :=
  if ¬ room then (-ENOMEM, s)
  else (0, { s with shown := Function.update s.shown arg.streamId (some ⟨buf, arg.offset, arg.size⟩) })

/-- `vmw_overlay_send_stop`, with the waits until there is room in the FIFO. `none` is a `BUG_ON`. -/
def vmwOverlaySendStop (s : State) (i : Nat) (interruptible : Bool) : List Bool → Option (Int × State)
  | [] => some (0, { s with shown := Function.update s.shown i none })
  | signal :: waits =>
    let ret := vmwFallbackWait interruptible signal
    if interruptible ∧ ret = -ERESTARTSYS then some (ret, s)
    else if ret ≠ 0 then none
    else vmwOverlaySendStop s i interruptible waits

/-- `vmw_overlay_move_buffer`, which returns `ret`. -/
def vmwOverlayMoveBuffer (s : State) (i : Nat) (buf : BufId) (pin : Bool) (ret : Int) : State :=
  if ret = 0 then { s with pinned := Function.update s.pinned i (if pin then some buf else none) } else s

/-- How the calls of a `vmw_overlay_stop` turn out. -/
structure StopOutcome where
  waits : List Bool
  unpin : Int

/-- The part of `vmw_overlay_stop` for a stream that is not paused. -/
def stopPlaying (s : State) (i : Nat) (b : BufId) (interruptible : Bool) (o : StopOutcome) : Option (Int × State) :=
  (vmwOverlaySendStop s i interruptible o.waits).bind fun (ret, s) =>
    if ret ≠ 0 then some (ret, s)
    else
      let s := vmwOverlayMoveBuffer s i b false o.unpin
      if interruptible ∧ o.unpin = -ERESTARTSYS then some (o.unpin, s)
      else if o.unpin ≠ 0 then none
      else some (0, s)

def vmwOverlayStop (s : State) (i : Nat) (pause interruptible : Bool) (o : StopOutcome) : Option (Int × State) :=
  match (s.stream i).buf with
  | none => some (0, s)
  | some b =>
    (if (s.stream i).paused then some (0, s) else stopPlaying s i b interruptible o).map fun (ret, s) =>
      if ret ≠ 0 then (ret, s)
      else if ¬ pause then (0, (s.dropBuf i).modify i (fun stream => { stream with paused := false }))
      else (0, s.modify i (fun stream => { stream with paused := true }))

/-- How the calls of a `vmw_overlay_update_stream` turn out. -/
structure UpdateOutcome where
  stop : StopOutcome
  pin : Int
  /-- There is room for the put command. -/
  put : Bool
  unpin : Int

/-- The part of `vmw_overlay_update_stream` that starts a stream. -/
def startStream (s : State) (b : BufId) (arg : ControlStreamArg) (o : UpdateOutcome) : Option (Int × State) :=
  let i := arg.streamId
  let s := vmwOverlayMoveBuffer s i b true o.pin
  if o.pin ≠ 0 then some (o.pin, s)
  else
    let (ret, s) := vmwOverlaySendPut s b arg o.put
    if ret ≠ 0 then
      if o.unpin ≠ 0 then none else some (ret, vmwOverlayMoveBuffer s i b false o.unpin)
    else
      let s := if (s.stream i).buf ≠ some b then s.setBuf i b else s
      some (0, s.modify i (fun stream => { stream with saved := arg, paused := false }))

def vmwOverlayUpdateStream (s : State) (buf : Option BufId) (arg : ControlStreamArg) (interruptible : Bool)
    (o : UpdateOutcome) : Option (Int × State) :=
  let i := arg.streamId
  match buf with
  | none => some (-EINVAL, s)
  | some b =>
    if (s.stream i).buf = some b ∧ ¬ (s.stream i).paused then
      let (ret, s) := vmwOverlaySendPut s b arg o.put
      if ret = 0 then some (ret, s.modify i (fun stream => { stream with saved := arg }))
      else if ¬ interruptible then none
      else some (ret, s)
    else
      (if (s.stream i).buf ≠ some b then vmwOverlayStop s i false interruptible o.stop else some (0, s)).bind
        fun (ret, s) => if ret ≠ 0 then some (ret, s) else startStream s b arg o

section All

/-- The streams one after another. -/
def forStreams (f : State → Nat → Option State) (s : State) : Option State :=
  (List.range VMW_MAX_NUM_STREAMS).foldlM f s

def vmwOverlayStopAll (s : State) (o : Nat → StopOutcome) : Option State :=
  forStreams (fun s i =>
    if (s.stream i).buf.isNone then some s else (vmwOverlayStop s i false false (o i)).map (·.2)) s

def vmwOverlayResumeAll (s : State) (o : Nat → UpdateOutcome) : Option State :=
  forStreams (fun s i =>
    if ¬ (s.stream i).paused then some s
    else (vmwOverlayUpdateStream s (s.stream i).buf (s.stream i).saved false (o i)).map (·.2)) s

def vmwOverlayPauseAll (s : State) (o : Nat → StopOutcome) : Option State :=
  forStreams (fun s i => (vmwOverlayStop s i true false (o i)).map (·.2)) s

end All

/-- What the lookups of a `vmw_overlay_ioctl` return. -/
structure Lookups where
  available : Bool
  stream : Except Int Nat
  dmabuf : Except Int BufId

def vmwOverlayIoctl (s : State) (arg : ControlStreamArg) (l : Lookups) (o : UpdateOutcome) : Option (Int × State) :=
  if ¬ l.available then some (-ENOSYS, s)
  else
    match l.stream with
    | .error ret => some (ret, s)
    | .ok i =>
      if ¬ arg.enabled then vmwOverlayStop s i false true o.stop
      else
        match l.dmabuf with
        | .error ret => some (ret, s)
        | .ok b =>
          (vmwOverlayUpdateStream (s.handleGet b) (some b) { arg with streamId := i } true o).map
            fun (ret, s) => (ret, s.handlePut b)

/-- `vmw_overlay_claim`, for a new `struct vmw_stream`. -/
def vmwOverlayClaim (s : State) : Int × State :=
  match (List.range VMW_MAX_NUM_STREAMS).find? (fun i => ! (s.stream i).claimed) with
  | none => (-ESRCH, s)
  | some i => (0, { s.modify i (fun stream => { stream with claimed := true }) with holders := i :: s.holders })

/-- `vmw_overlay_unref`, when the `struct vmw_stream` goes. -/
def vmwOverlayUnref (s : State) (i : Nat) (o : StopOutcome) : Option State :=
  if VMW_MAX_NUM_STREAMS ≤ i then none
  else
    (vmwOverlayStop s i false false o).map fun (_, s) =>
      { s.modify i (fun stream => { stream with claimed := false }) with holders := s.holders.erase i }

inductive Act
  | ioctl (arg : ControlStreamArg) (l : Lookups) (o : UpdateOutcome)
  | pauseAll (o : Nat → StopOutcome)
  | resumeAll (o : Nat → UpdateOutcome)
  | stopAll (o : Nat → StopOutcome)
  | claim
  | unref (i : Nat) (o : StopOutcome)
  | handleGet (b : BufId)
  | handlePut (b : BufId)

/-- `none` is a `BUG_ON`. The overlay mutex makes each operation one step. -/
def step (s : State) : Act → Option State
  | .ioctl arg l o => (vmwOverlayIoctl s arg l o).map (·.2)
  | .pauseAll o => vmwOverlayPauseAll s o
  | .resumeAll o => vmwOverlayResumeAll s o
  | .stopAll o => vmwOverlayStopAll s o
  | .claim => some (vmwOverlayClaim s).2
  | .unref i o => vmwOverlayUnref s i o
  | .handleGet b => some (s.handleGet b)
  | .handlePut b => some (s.handlePut b)

/-- Lookups find what is there, and references are dropped by who has them. -/
def Enabled (s : State) : Act → Prop
  | .ioctl _ l _ => (∀ i, l.stream = .ok i → i ∈ s.holders) ∧ ∀ b, l.dmabuf = .ok b → 0 < s.handleRef b
  | .unref i _ => i ∈ s.holders
  | .handlePut b => 0 < s.handleRef b
  | _ => True

/-- An unpin is interrupted, or succeeds. -/
def UnpinRet (interruptible : Bool) (ret : Int) : Prop := ret = 0 ∨ interruptible = true ∧ ret = -ERESTARTSYS

/-- What the unpins of a step return. -/
def Unpins : Act → Prop
  | .ioctl _ _ o => UnpinRet true o.stop.unpin ∧ UnpinRet false o.unpin
  | .pauseAll o | .stopAll o => ∀ i, UnpinRet false (o i).unpin
  | .resumeAll o => ∀ i, UnpinRet false (o i).stop.unpin ∧ UnpinRet false (o i).unpin
  | .unref _ o => UnpinRet false o.unpin
  | _ => True

/-- `vmw_overlay_init`. -/
def State.init : State where
  stream _ := ⟨none, false, false, ⟨0, false, 0, 0⟩⟩
  bufRef _ := 0
  handleRef _ := 0
  holders := []
  shown _ := none
  pinned _ := none

/-- The references of streams on a buffer. -/
def State.streamRefs (s : State) (b : BufId) : Nat :=
  (List.range VMW_MAX_NUM_STREAMS).countP (fun i => (s.stream i).buf = some b)

/-- The streams are what the device shows. -/
structure Truthful (s : State) : Prop where
  shown : ∀ i v, s.shown i = some v → (s.stream i).buf = some v.buf ∧ 0 < s.bufRef v.buf ∧ s.pinned i = some v.buf
  paused : ∀ i, (s.stream i).paused = true → (s.stream i).buf ≠ none ∧ s.pinned i = none ∧ s.shown i = none
  idle : ∀ i, (s.stream i).buf = none → (s.stream i).paused = false ∧ s.shown i = none
  balanced : ∀ b, s.bufRef b = s.handleRef b + s.streamRefs b

end Vmwgfx.Overlay
