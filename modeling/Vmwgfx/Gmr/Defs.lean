import Vmwgfx.Lib.Uint
import Vmwgfx.Mob.Iter

/-! Guest memory regions: the descriptors and the command stream of `vmwgfx_gmr.c`, and how the
device reads them. -/

namespace Vmwgfx.Gmr

open Lib Mob

/-- `struct svga_guest_mem_descriptor`. -/
structure Desc where
  ppn : Nat
  numPages : Nat
  deriving DecidableEq, Repr

/-- `desc_per_page`; one more entry fits a page. -/
def descPerPage : Nat := PAGE_SIZE / 8 - 1

/-- The entries of a descriptor page. -/
abbrev DescPage := Nat → Desc

/-- A write outside of the page has no outcome. -/
def DescPage.write (page : DescPage) (i : Nat) (d : Desc) : Option DescPage :=
  if i ≤ descPerPage then some (Function.update page i d) else none

/-- `page_virtual[desc_per_page].ppn = ppn`. -/
def DescPage.setLink (page : DescPage) (ppn : Nat) : DescPage :=
  Function.update page descPerPage { page descPerPage with ppn }

/-- What a build asks of the rest of the kernel. -/
structure BuildRequest where
  /-- `alloc_page` succeeds, by page. -/
  alloc : Nat → Bool
  /-- What a new page holds. -/
  page : Nat → DescPage
  /-- The outcome of `dma_map_page`, by page. -/
  map : Nat → Option Nat
  /-- What stands in `ret` before it is set. -/
  ret : Int

/-- The inner loop: the entries used and the frames left. -/
def fillPage (a : Arch) : DescPage → (used prevPfn : Nat) → List Nat → Option (DescPage × Nat × List Nat)
  | page, used, _, [] => some (page, used, [])
  | page, used, prevPfn, pfn :: frames =>
    if pfn ≠ (prevPfn + 1) % 2 ^ wordBits a then
      if used = descPerPage then some (page, used, pfn :: frames)
      else (page.write used ⟨pfn % 2 ^ 32, 1⟩).bind fun page => fillPage a page (used + 1) pfn frames
    else
      match used with
      -- the entry in front of the page
      | 0 => none
      | last + 1 =>
        (page.write last { page last with numPages := add32 (page last).numPages 1 }).bind fun page =>
          fillPage a page (last + 1) pfn frames

/-- The outer loop: whether it got to its end, and the pages. -/
def buildPages (a : Arch) (req : BuildRequest) : Nat → Nat → List Nat → Option (Bool × List DescPage)
  | _, _, [] => some (true, [])
  | 0, _, _ :: _ => none
  | fuel + 1, k, frames@(_ :: _) =>
    if ¬ req.alloc k then some (false, [])
    else
      (fillPage a (req.page k) 0 (2 ^ wordBits a - 1) frames).bind fun (page, used, rest) =>
        (page.write used ⟨0, 0⟩).bind fun page =>
          (buildPages a req fuel (k + 1) rest).map fun (ok, pages) => (ok, page :: pages)

/-- Where the second pass stands: `desc_dma`, or a failed mapping. -/
structure Links where
  next : Option Nat
  pages : List DescPage
  /-- The addresses of the pages mapped so far. -/
  mapped : List Nat

/-- The pass from the last page to the first. -/
def linkPages (map : Nat → Option Nat) : Nat → List DescPage → Links
  | _, [] => { next := some 0, pages := [], mapped := [] }
  | k, page :: pages =>
    let l := linkPages map (k + 1) pages
    match l.next with
    | none => { l with pages := page :: l.pages }
    | some dma =>
      let page := page.setLink (dma / PAGE_SIZE % 2 ^ 32)
      match map k with
      | none => { l with next := none, pages := page :: l.pages }
      | some addr => { next := some addr, pages := page :: l.pages, mapped := addr :: l.mapped }

/-- `page_virtual[desc_per_page].ppn << PAGE_SHIFT`, in 32 bits. -/
def DescPage.linked (page : DescPage) : Nat := (page descPerPage).ppn * PAGE_SIZE % 2 ^ 32

/-- `vmw_gmr_free_descriptors`: the addresses that are unmapped. -/
def unmapPages : Nat → List DescPage → List Nat
  | _, [] => []
  | dma, page :: pages => (if dma ≠ 0 then [dma] else []) ++ unmapPages page.linked pages

/-- What sends a build to `out_err`. -/
inductive Failure
  | allocPage
  | mapPage
  deriving DecidableEq, Repr

/-- What a build, or a bind, has done. -/
structure Build where
  ret : Int
  failed : Option Failure
  firstDma : Nat
  /-- The pages on the list. -/
  descPages : List DescPage
  mapped : List Nat
  unmapped : List Nat
  allocated : Nat
  freed : Nat

/-- `vmw_gmr_free_descriptors`. -/
def vmwGmrFreeDescriptors (dma : Nat) (b : Build) : Build :=
  { b with
    descPages := []
    unmapped := b.unmapped ++ unmapPages dma b.descPages
    freed := b.freed + b.descPages.length }

def vmwGmrBuildDescriptors (a : Arch) (req : BuildRequest) (frames : List Nat) : Option Build :=
  -- every page takes a frame
  (buildPages a req frames.length 0 frames).map fun (ok, pages) =>
    if ok then
      let l := linkPages req.map 0 pages
      let b : Build :=
        { ret := 0, failed := none, firstDma := 0, descPages := l.pages, mapped := l.mapped, unmapped := []
          allocated := pages.length, freed := 0 }
      match l.next with
      | some dma => { b with firstDma := dma }
      | none => vmwGmrFreeDescriptors 0 { b with ret := req.ret, failed := some .mapPage }
    else
      vmwGmrFreeDescriptors 0
        { ret := -ENOMEM, failed := some .allocPage, firstDma := 0, descPages := pages, mapped := [], unmapped := []
          allocated := pages.length, freed := 0 }

/-- `desc_dma >> PAGE_SHIFT` in `SVGA_REG_GMR_DESCRIPTOR`. -/
def Build.root (b : Build) : Nat := b.firstDma / PAGE_SIZE % 2 ^ 32

section Remap

def SVGA_CMD_DEFINE_GMR2 : Nat := 41

def SVGA_CMD_REMAP_GMR2 : Nat := 42

def SVGA_REMAP_GMR2_PPN32 : Nat := 0

def SVGA_REMAP_GMR2_PPN64 : Nat := 2

def VMW_PPN_PER_REMAP (a : Arch) : Nat := 31 * 1024 / VMW_PPN_SIZE a

/-- The words of a page frame number. -/
def ppnWords : (a : Arch) → DmaAddr a → List Nat
  | .bits32, d => [d.val / PAGE_SIZE % 2 ^ 32]
  | .bits64, d => [d.val / PAGE_SIZE % 2 ^ 32, d.val / PAGE_SIZE / 2 ^ 32 % 2 ^ 32]

def remapFlags (a : Arch) : Nat := if 4 < VMW_PPN_SIZE a then SVGA_REMAP_GMR2_PPN64 else SVGA_REMAP_GMR2_PPN32

/-- The loop of `vmw_gmr2_bind`; every round takes a page. -/
def remapLoop (a : Arch) (gmrId : Nat) : Nat → (remapPos : Nat) → List (DmaAddr a) → List Nat
  | 0, _, _ => []
  | fuel + 1, remapPos, addrs =>
    if addrs.length = 0 then []
    else
      let nr := min addrs.length (VMW_PPN_PER_REMAP a)
      [SVGA_CMD_REMAP_GMR2, gmrId, remapFlags a, remapPos, nr % 2 ^ 32] ++
        (addrs.take nr).flatMap (ppnWords a) ++ remapLoop a gmrId fuel (add32 remapPos nr) (addrs.drop nr)

/-- `sizeof(SVGAFifoCmdDefineGMR2)` and a command word. -/
def defineSize : Nat := 12

/-- `sizeof(SVGAFifoCmdRemapGMR2)` and a command word. -/
def remapHeaderSize : Nat := 20

def remapNum (a : Arch) (numPages : Nat) : Nat :=
  numPages / VMW_PPN_PER_REMAP a + if 0 < numPages % VMW_PPN_PER_REMAP a then 1 else 0

/-- `cmd_size`, a `uint32_t` as the sizes it is computed from. -/
def cmdSize (a : Arch) (numPages : Nat) : Nat :=
  add32 defineSize ((VMW_PPN_SIZE a * numPages + remapHeaderSize * (remapNum a numPages % 2 ^ 32)) % 2 ^ 32)

/-- `vmw_gmr2_bind`: the return value and the words it wrote. `none` is the `BUG_ON`. -/
def vmwGmr2Bind (a : Arch) (addrs : List (DmaAddr a)) (gmrId : Nat) (fifo : Bool) : Option (Int × List Nat) :=
  if ¬ fifo then some (-ENOMEM, [])
  else
    let words := [SVGA_CMD_DEFINE_GMR2, gmrId, addrs.length % 2 ^ 32] ++ remapLoop a gmrId addrs.length 0 addrs
    if words.length ≠ cmdSize a addrs.length / 4 then none else some (0, words)

end Remap

structure Capabilities where
  gmr2 : Bool
  gmr : Bool
  maxGmrDescriptors : Nat

/-- What `vmw_gmr_bind` has done: a stream of commands, or descriptors and the root it wrote. -/
inductive Bound
  | nothing (ret : Int)
  | stream (ret : Int) (words : List Nat)
  | descriptors (b : Build) (fired : Option Nat)

variable {a : Arch}

/-- The end of `vmw_gmr_bind`. -/
def bindDescriptors (a : Arch) (req : BuildRequest) (frames : List Nat) : Option (Build × Option Nat) :=
  (vmwGmrBuildDescriptors a req frames).map fun b =>
    if b.ret ≠ 0 then (b, none) else (vmwGmrFreeDescriptors b.firstDma b, some b.root)

def vmwGmrBind (caps : Capabilities) (vsgt : VmwSgTable a) (gmrId : Nat) (fifo : Bool) (req : BuildRequest) :
    Option Bound :=
  if vsgt.addrs = [] then some (.nothing 0)
  else if caps.gmr2 then (vmwGmr2Bind a vsgt.addrs gmrId fifo).map fun (ret, words) => .stream ret words
  else if ¬ caps.gmr then some (.nothing (-EINVAL))
  else if caps.maxGmrDescriptors < vsgt.numRegions then some (.nothing (-EINVAL))
  else
    (bindDescriptors a req (vsgt.addrs.map fun d => d.val / PAGE_SIZE)).map fun (b, fired) =>
      .descriptors b fired

section Device

/-- The frames that an entry stands for. -/
def Desc.frames (d : Desc) : List Nat := List.range' d.ppn d.numPages

/-- How the device goes over the entries of a page from entry `i` on: one without pages is a link,
or the end. It never crosses a page. -/
def walk (read : Nat → Option DescPage) : Nat → DescPage → Nat → Option (List Nat)
  | 0, _, _ => none
  | fuel + 1, page, i =>
    if descPerPage < i then none
    else if (page i).numPages ≠ 0 then (walk read fuel page (i + 1)).map ((page i).frames ++ ·)
    else if (page i).ppn = 0 then some []
    else (read (page i).ppn).bind fun page => walk read fuel page 0

/-- The list that starts at a frame; at frame 0 there is none. -/
def expand (read : Nat → Option DescPage) (fuel ppn : Nat) : Option (List Nat) :=
  if ppn = 0 then some [] else (read ppn).bind fun page => walk read fuel page 0

/-- The descriptor page of a build with a frame number. -/
def Build.read (b : Build) (ppn : Nat) : Option DescPage :=
  (b.mapped.findIdx? (fun addr => addr / PAGE_SIZE = ppn)).bind (b.descPages[·]?)

structure Remap where
  gmrId : Nat
  offsetPages : Nat
  ppns : List Nat
  deriving DecidableEq, Repr

/-- `SVGAFifoCmdDefineGMR2` and the remaps that follow it. -/
structure Stream where
  gmrId : Nat
  numPages : Nat
  remaps : List Remap
  deriving DecidableEq, Repr

def readPpns (flags : Nat) : Nat → List Nat → Option (List Nat × List Nat)
  | 0, words => some ([], words)
  | n + 1, words =>
    if flags = SVGA_REMAP_GMR2_PPN64 then
      match words with
      | lo :: hi :: words => (readPpns flags n words).map fun (ppns, rest) => ((lo + hi * 2 ^ 32) :: ppns, rest)
      | _ => none
    else if flags = SVGA_REMAP_GMR2_PPN32 then
      match words with
      | w :: words => (readPpns flags n words).map fun (ppns, rest) => (w :: ppns, rest)
      | _ => none
    else none

def readRemaps : Nat → List Nat → Option (List Remap)
  | _, [] => some []
  | fuel + 1, id :: gmrId :: flags :: offsetPages :: numPages :: words =>
    if id ≠ SVGA_CMD_REMAP_GMR2 then none
    else
      (readPpns flags numPages words).bind fun (ppns, rest) =>
        (readRemaps fuel rest).map fun remaps => { gmrId, offsetPages, ppns } :: remaps
  | _, _ => none

/-- The commands in the words, to their end. -/
def readStream : List Nat → Option Stream
  | id :: gmrId :: numPages :: words =>
    if id ≠ SVGA_CMD_DEFINE_GMR2 then none
    else (readRemaps words.length words).map fun remaps => { gmrId, numPages, remaps }
  | _ => none

/-- The pages that a remap gives, by offset. -/
def Remap.pages (r : Remap) : List (Nat × Nat) := (List.range' r.offsetPages r.ppns.length).zip r.ppns

end Device

end Vmwgfx.Gmr
