import Mathlib.Data.Stream.Init
import Evdi.Foundations.While
import Evdi.Model.Framebuffer
import Evdi.Model.GemCreate

/-!
# The memory of the framebuffer console

`evdifb_create` makes a GEM object for the console, and tells the kernel where it is mapped;
`evdi_fb_mmap` maps it into a process, one page at a time.

* `evdifbCreate`: what is left of the object, whichever step fails;
* `fbMmap`: the loop, given up after `n` turns.
-/

namespace Evdi

open While

/-- What `evdifb_create` reads of `struct drm_fb_helper_surface_size`. -/
structure SurfaceSize where
  surfaceWidth : UInt32
  surfaceHeight : UInt32
  surfaceBpp : UInt32

/-- `info->fix.smem_start` and `info->fix.smem_len`. -/
structure FbInfo where
  smemStart : UInt64
  smemLen : UInt32
  deriving DecidableEq

/-- Answers of the kernel during one `evdifb_create`: those to `evdi_gem_alloc_object` and `evdi_gem_vmap`,
the address of the mapping, whether `framebuffer_alloc` gave an `fb_info`, and the results of
`drm_framebuffer_init` and `fb_alloc_cmap`. -/
structure FbdevAnswers where
  gem : GemCreateAnswers
  vmap : VmapAnswers
  vmapping : UInt64
  framebufferAlloc : Bool
  framebufferInit : ℤ
  fbAllocCmap : ℤ

/-- What `evdifb_create` leaves: its result, the `fb_info` of the helper, and the new object, unless its
reference was put. -/
structure FbdevCreated where
  ret : ℤ
  info : Option FbInfo
  object : Option GemObject

/-- The size of the console's object. Either way `surface_bpp` is 32 by then. -/
def fbdevSize (sizes : SurfaceSize) : UInt32 :=
  alignToPage (sizes.surfaceWidth * ((32 + 7) / 8) * sizes.surfaceHeight)

/-- `evdifb_create`, for a `struct evdi_fbdev` just made. `out_gfree` puts `efbdev->efb.obj`, which is
`NULL` up to `evdi_framebuffer_init`. -/
def evdifbCreate (ans : FbdevAnswers) (sizes : SurfaceSize) : FbdevCreated :=
  if sizes.surfaceBpp ≠ 24 ∧ sizes.surfaceBpp ≠ 32 then ⟨-EINVAL, none, none⟩
  else
    let size := fbdevSize sizes
    match gemAllocObject ans.gem size.toNat with
    | none => ⟨0, none, none⟩
    | some obj =>
      let (obj, ret) := gemVmap obj ans.vmap
      if ret ≠ 0 then ⟨ret, none, some obj⟩
      else if !ans.framebufferAlloc then ⟨-ENOMEM, none, some obj⟩
      else if ans.framebufferInit ≠ 0 then ⟨ans.framebufferInit, none, none⟩
      else
        let info : FbInfo := ⟨ans.vmapping, size⟩
        if ans.fbAllocCmap ≠ 0 then ⟨-ENOMEM, some info, none⟩
        else ⟨0, some info, some obj⟩

/-! ### Mapping the console -/

/-- What `evdi_fb_mmap` reads of `struct vm_area_struct`. -/
structure Vma where
  vmStart : UInt64
  vmEnd : UInt64
  vmPgoff : UInt64

/-- `~0UL >> PAGE_SHIFT`. -/
def vmPgoffMax : UInt64 := ~~~(0 : UInt64) >>> 12

/-- `vma->vm_end - vma->vm_start`. -/
def Vma.size (vma : Vma) : UInt64 := vma.vmEnd - vma.vmStart

/-- `evdi_fb_mmap` in its loop: its variables, the page frames mapped and where, the answers of
`remap_pfn_range` to come, and what is returned. -/
structure FbMmap where
  start : UInt64
  pos : UInt64
  size : UInt64
  mapped : List (UInt64 × ℕ)
  remap : Stream' Bool
  ret : ℤ

/-- The loop goes on. -/
def FbMmap.goesOn (s : FbMmap) : Bool := s.size > 0 && s.ret == 0

/-- A turn of the loop. -/
def fbMmapTurn (vmallocToPfn : UInt64 → ℕ) (s : FbMmap) : FbMmap :=
  if !s.remap.head then { s with remap := s.remap.tail, ret := -EAGAIN }
  else
    { start := s.start + 4096
      pos := s.pos + 4096
      size := if s.size > 4096 then s.size - 4096 else 0
      mapped := s.mapped ++ [(s.start, vmallocToPfn s.pos)]
      remap := s.remap.tail
      ret := s.ret }

/-- `evdi_fb_mmap`: its result and the pages mapped. -/
def fbMmap (n : ℕ) (vmallocToPfn : UInt64 → ℕ) (remap : Stream' Bool) (info : FbInfo) (vma : Vma) :
    Option (ℤ × List (UInt64 × ℕ)) :=
  let offset := vma.vmPgoff <<< 12
  if vma.vmPgoff > vmPgoffMax then some (-EINVAL, [])
  else if offset > info.smemLen.toUInt64 ∨ vma.size > info.smemLen.toUInt64 - offset then
    some (-EINVAL, [])
  else
    (whileLoop FbMmap.goesOn (fbMmapTurn vmallocToPfn) n
      ⟨vma.vmStart, info.smemStart + offset, vma.size, [], remap, 0⟩).map fun s => (s.ret, s.mapped)

end Evdi
