import Mathlib.Algebra.Ring.Int.Defs
import Mathlib.Algebra.Ring.Nat
import Mathlib.Logic.Function.Basic
import Mathlib.Order.Lattice
import Vmwgfx.Lib.Machine

/-! The frame buffer console: `vmwgfx_fb.c` with the deferred io of `vmwgfx_defio.c`. -/

namespace Vmwgfx.Fb

def PAGE_SIZE : Nat := 4096

/-- Of `struct fb_info`, as `vmw_fb_init` and `vmw_fb_check_var` leave it. -/
structure Info where
  xres : Nat
  yres : Nat
  maxWidth : Nat
  maxHeight : Nat
  xres_le : xres ≤ maxWidth
  yres_le : yres ≤ maxHeight
  maxWidth_le : maxWidth ≤ 2048
  maxHeight_le : maxHeight ≤ 2048

namespace Info

variable (info : Info)

def lineLength : Nat := info.maxWidth * 32 / 8

def smemLen : Nat := info.lineLength * info.maxHeight

def stride : Nat := info.lineLength / 4

/-- The 32 bit word of a pixel. -/
def word (x y : Nat) : Nat := y * info.stride + x

def Visible (x y : Nat) : Prop := x < info.xres ∧ y < info.yres

end Info

/-- The page of `screen_base` with the word. -/
def pageOf (k : Nat) : Nat := 4 * k / PAGE_SIZE

/-- `par->dirty`, the flag aside. -/
structure Dirty where
  x1 : Nat
  y1 : Nat
  x2 : Nat
  y2 : Nat

def Dirty.Has (d : Dirty) (x y : Nat) : Prop := (d.x1 ≤ x ∧ x < d.x2) ∧ d.y1 ≤ y ∧ y < d.y2

/-- The body of `SVGA_CMD_UPDATE`. -/
structure Update where
  x : Nat
  y : Nat
  width : Nat
  height : Nat

def Update.Has (u : Update) (x y : Nat) : Prop := (u.x ≤ x ∧ x < u.x + u.width) ∧ u.y ≤ y ∧ y < u.y + u.height

/-- What has become of a pixel since the start. -/
inductive Pixel
  | blank
  | drawn
  /-- Copied to VRAM since it was drawn. -/
  | copied
  /-- Announced to the device since it was copied. -/
  | shown
  deriving DecidableEq

/-- Drawn since it was last copied to VRAM and announced to the device. -/
def Pixel.Stale (p : Pixel) : Prop := p = .drawn ∨ p = .copied

/-- Where `fb_deferred_io_work` is. -/
inductive Work
  | idle
  /-- The pages are clean, the callback is next. -/
  | begun
  /-- `vmw_fb_dirty_flush` is next. -/
  | called
  /-- The flush has taken the rectangle. -/
  | taken (u : Update)
  /-- The rectangle is in VRAM. -/
  | copied (u : Update)
  /-- The page list is cleared next. -/
  | flushed

structure State where
  /-- The words of `screen_base`. -/
  screen : Nat → Nat
  /-- The words of `bo_ptr`. -/
  vram : Nat → Nat
  pixel : Nat → Pixel
  dirty : Dirty
  /-- `dirty.active`. -/
  active : Bool
  /-- `bo_ptr` is not `NULL`. -/
  mapped : Bool
  suspended : Bool
  pagelist : List Nat
  /-- `deferred_work` is scheduled. -/
  pending : Bool
  work : Work
  /-- The words written by `iowrite32` so far. -/
  stores : List Nat
  updates : List Update

/-- After `vmw_fb_init`. -/
def State.init (screen vram : Nat → Nat) : State :=
  { screen := screen, vram := vram, pixel := fun _ => .blank, dirty := ⟨0, 0, 0, 0⟩, active := true, mapped := true
    suspended := false, pagelist := [], pending := false, work := .idle, stores := [], updates := [] }

section Draw

variable (info : Info)

def State.scheduleDelayedWork (s : State) : State := { s with pending := true }

def Dirty.mark (d : Dirty) (x1 y1 x2 y2 : Nat) : Dirty :=
  if d.x1 = d.x2 then
    ⟨x1, y1, x2, y2⟩
  else
    ⟨if x1 < d.x1 then x1 else d.x1, if y1 < d.y1 then y1 else d.y1,
      if d.x2 < x2 then x2 else d.x2, if d.y2 < y2 then y2 else d.y2⟩

def vmwFbDirtyMark (s : State) (x1 y1 width height : Nat) : State :=
  let t := { s with dirty := s.dirty.mark x1 y1 (x1 + width) (y1 + height) }
  if s.dirty.x1 = s.dirty.x2 && s.active then t.scheduleDelayedWork else t

/-- The pixels of a rectangle get new values, as by `cfb_fillrect`, `cfb_copyarea` and `cfb_imageblit`. -/
def draw (s : State) (dx dy width height : Nat) (value : Nat → Nat → Nat) : State :=
  let inside (k : Nat) : Bool :=
    decide (dx ≤ k % info.stride ∧ k % info.stride < dx + width ∧ dy ≤ k / info.stride ∧ k / info.stride < dy + height)
  { s with
    screen := fun k => if inside k then value (k % info.stride) (k / info.stride) else s.screen k
    pixel := fun k => if inside k then .drawn else s.pixel k }

def vmwFbFillrect (s : State) (dx dy width height color : Nat) : State :=
  vmwFbDirtyMark (draw info s dx dy width height fun _ _ => color) dx dy width height

def vmwFbCopyarea (s : State) (dx dy width height sx sy : Nat) : State :=
  vmwFbDirtyMark (draw info s dx dy width height fun x y => s.screen (info.word (sx + (x - dx)) (sy + (y - dy))))
    dx dy width height

def vmwFbImageblit (s : State) (dx dy width height : Nat) (data : Nat → Nat → Nat) : State :=
  vmwFbDirtyMark (draw info s dx dy width height fun x y => data (x - dx) (y - dy)) dx dy width height

/-- The page list is sorted. -/
def addPage (p : Nat) : List Nat → List Nat
  | [] => [p]
  | cur :: rest => if cur = p then cur :: rest else if p < cur then p :: cur :: rest else cur :: addPage p rest

/-- `fb_deferred_io_mkwrite`. -/
def fbDeferredIoMkwrite (s : State) (p : Nat) : State :=
  { s with pagelist := addPage p s.pagelist }.scheduleDelayedWork

/-- A write to a mapped page; `fault` says that the page was not writable. -/
def pageWrite (s : State) (k value : Nat) (fault : Bool) : State :=
  let t := if fault then fbDeferredIoMkwrite s (pageOf k) else s
  { t with screen := Function.update s.screen k value, pixel := Function.update s.pixel k .drawn }

end Draw

section Flush

variable (info : Info)

/-- The inner loop of the copy. -/
def copyRow (limit stop : Nat) : Nat → Nat → List Nat
  | 0, _ => []
  | fuel + 1, k => if k < stop && k < limit then k :: copyRow limit stop fuel (k + 1) else []

/-- The outer loop of the copy. -/
def copyRows (limit stride : Nat) (u : Update) : Nat → Nat → List Nat
  | 0, _ => []
  | fuel + 1, i =>
    if i < limit then
      copyRow limit ((i + u.x + u.width) % 2 ^ 32) limit (i + u.x) ++ copyRows limit stride u fuel (i + stride)
    else
      []

/-- The words that `vmw_fb_dirty_flush` copies. -/
def copyWords (u : Update) : List Nat :=
  copyRows (info.smemLen / 4) info.stride u (info.smemLen / 4) (u.y * info.stride)

/-- The first part of `vmw_fb_dirty_flush`; the subtractions are unsigned. -/
def flushTake (s : State) : State :=
  if s.suspended then
    { s with work := .flushed }
  else if !s.active then
    { s with work := .flushed }
  else
    let d := s.dirty
    { s with
      dirty := ⟨0, 0, 0, 0⟩
      work := .taken ⟨d.x1, d.y1, (min d.x2 info.xres + 2 ^ 32 - d.x1) % 2 ^ 32,
        (min d.y2 info.yres + 2 ^ 32 - d.y1) % 2 ^ 32⟩ }

/-- The copy. -/
def flushCopy (s : State) (u : Update) : State :=
  let words := copyWords info u
  { s with
    vram := fun k => if k ∈ words then s.screen k else s.vram k
    pixel := fun k => if k ∈ words && s.pixel k = .drawn then .copied else s.pixel k
    stores := s.stores ++ words
    work := .copied u }

/-- The command; `room` is the result of the reservation. -/
def flushUpdate (s : State) (u : Update) (room : Bool) : State :=
  if !room then
    { s with work := .flushed }
  else
    { s with
      pixel := fun k =>
        if u.x ≤ k % info.stride && k % info.stride < u.x + u.width && u.y ≤ k / info.stride &&
            k / info.stride < u.y + u.height && s.pixel k = .copied then .shown else s.pixel k
      updates := u :: s.updates
      work := .flushed }

/-- The first and the last byte of the pages on the list. -/
def pageRange (pages : List Nat) : Nat × Nat :=
  pages.foldl (fun r p => (min r.1 (p * PAGE_SIZE), max r.2 (p * PAGE_SIZE + PAGE_SIZE - 1))) (2 ^ 64 - 1, 0)

/-- The rows of the pages on the list. -/
def pageRows (pages : List Nat) : Nat × Nat :=
  ((pageRange pages).1 / info.lineLength, (pageRange pages).2 / info.lineLength + 1)

/-- `vmw_deferred_io`, up to the flush. -/
def vmwDeferredIo (s : State) : State :=
  let r := pageRange s.pagelist
  let t := { s with work := .called }
  if r.1 < r.2 then
    { t with dirty := ⟨0, (pageRows info s.pagelist).1, info.xres, (pageRows info s.pagelist).2⟩ }
  else
    t

end Flush

section OnOff

variable (info : Info)

/-- `vmw_fb_off` until it waits for the work. -/
def vmwFbOff (s : State) : State := { s with active := false }

/-- The end of `vmw_fb_off`. -/
def vmwFbUnmap (s : State) : State := { s with mapped := false }

/-- `vmw_fb_on`, with the result of `vmw_dmabuf_to_start_of_vram`. -/
def vmwFbOn (s : State) (pinned : Bool) : State :=
  if s.mapped then
    s
  else
    let t := if pinned then { s with mapped := true, active := true } else s
    (vmwFbDirtyMark t 0 0 info.xres info.yres).scheduleDelayedWork

end OnOff

section Machine

inductive Action
  | fillrect (dx dy width height color : Nat)
  | copyarea (dx dy width height sx sy : Nat)
  | imageblit (dx dy width height : Nat) (data : Nat → Nat → Nat)
  | pageWrite (k value : Nat) (fault : Bool)
  | workBegin
  | deferredIo
  | flushTake
  | flushCopy
  | flushUpdate (room : Bool)
  | workEnd
  | fbOff
  | fbUnmap
  | fbOn (pinned : Bool)
  | suspend
  | resume

variable (info : Info)

/-- The rectangle is on the virtual screen. -/
def onScreen (dx dy width height : Nat) : Bool := dx + width ≤ info.maxWidth && dy + height ≤ info.maxHeight

/-- `vmw_fb_off` is not between its two parts. -/
def settled (s : State) : Bool := !s.mapped || s.active

def step (s : State) : Action → Option State
  | .fillrect dx dy width height color =>
    if onScreen info dx dy width height then some (vmwFbFillrect info s dx dy width height color) else none
  | .copyarea dx dy width height sx sy =>
    if onScreen info dx dy width height && onScreen info sx sy width height then
      some (vmwFbCopyarea info s dx dy width height sx sy)
    else
      none
  | .imageblit dx dy width height data =>
    if onScreen info dx dy width height then some (vmwFbImageblit info s dx dy width height data) else none
  | .pageWrite k value fault =>
    -- while the work runs it has the mutex, and the pages on its list are not writable
    match s.work with
    | .idle =>
      if 4 * k < info.smemLen && (fault || pageOf k ∈ s.pagelist) then some (pageWrite s k value fault) else none
    | _ => none
  | .workBegin =>
    match s.work with
    | .idle => if s.pending then some { s with pending := false, work := .begun } else none
    | _ => none
  | .deferredIo =>
    match s.work with
    | .begun => some (vmwDeferredIo info s)
    | _ => none
  | .flushTake =>
    match s.work with
    | .called => some (flushTake info s)
    | _ => none
  | .flushCopy =>
    match s.work with
    | .taken u => some (flushCopy info s u)
    | _ => none
  | .flushUpdate room =>
    match s.work with
    | .copied u => some (flushUpdate info s u room)
    | _ => none
  | .workEnd =>
    match s.work with
    | .flushed => some { s with pagelist := [], work := .idle }
    | _ => none
  | .fbOff => if settled s then some (vmwFbOff s) else none
  | .fbUnmap =>
    match s.work with
    | .idle => if !s.active then some (vmwFbUnmap s) else none
    | _ => none
  | .fbOn pinned => if settled s then some (vmwFbOn info s pinned) else none
  | .suspend => if !s.suspended then some { s with suspended := true } else none
  | .resume => if s.suspended then some { s with suspended := false } else none

end Machine

end Vmwgfx.Fb
