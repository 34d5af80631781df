import Evdi.Foundations.Transition
import Evdi.Model.GemCreate

/-!
# Pins and kernel mappings

What takes back the pages and the mapping of a GEM object that `pinPages` and `gemVmap` have obtained, the
other callers of the pins, and who reads the page array.

* `Pinned.Step`: pins and mappings of one object, each undone later;
* `Mappings.Step`: who maps one object into the kernel.
-/

namespace Evdi

open Words

/-- What the kernel promises of its answers: a dma-buf that was mapped has an address, and an error
pointer is not 0. -/
structure VmapAnswers.Documented (ans : VmapAnswers) : Prop where
  dmaBufVaddr : ans.dmaBufVmap = 0 → ans.dmaBufVaddr = true
  getPages : ∀ err, ans.getPages = .error err → err ≠ 0

/-- `evdi_gem_put_pages`: the array of an imported object is freed, the pages of a native one go back
with `drm_gem_put_pages`. -/
def gemPutPages (obj : GemObject) : GemObject := { obj with pages := none }

/-- `evdi_unpin_pages`. -/
def unpinPages (obj : GemObject) : GemObject :=
  let obj := { obj with pagesPinCount := obj.pagesPinCount - 1 }
  if obj.pagesPinCount = 0 then gemPutPages obj else obj

/-- `evdi_gem_vunmap`. -/
def gemVunmap (obj : GemObject) : GemObject :=
  if gemObjectUseImportAttach obj.ref then { obj with vmapped := false }
  else unpinPages { obj with vmapped := false }

/-- `evdi_gem_free_object`, up to the end of the object itself. -/
def gemFreeObject (obj : GemObject) : GemObject :=
  let obj := if obj.vmapped then gemVunmap obj else obj
  if obj.pages.isSome then gemPutPages obj else obj

/-- `evdi_prime_pin`. -/
def primePin (obj : GemObject) (ans : VmapAnswers) : GemObject × ℤ := pinPages obj ans

/-- `evdi_prime_unpin`. -/
def primeUnpin (obj : GemObject) : GemObject := unpinPages obj

/-- Answers of the kernel during one `evdi_gem_mmap`: those to the pin, the result of
`drm_gem_create_mmap_offset` and the offset of the object's node. -/
structure MmapAnswers extends VmapAnswers where
  createMmapOffset : ℤ
  nodeOffset : UInt64

/-- `evdi_gem_mmap` of the object that `drm_gem_object_lookup` finds: the object, the result, and the
offset if it is stored. -/
def gemMmap (obj : Option GemObject) (ans : MmapAnswers) : Option GemObject × ℤ × Option UInt64 :=
  match obj with
  | none => (none, -ENOENT, none)
  | some obj =>
    let (obj, ret) := pinPages obj ans.toVmapAnswers
    if ret ≠ 0 then (some obj, ret, none)
    -- imported objects are not mapped
    else if obj.ref.importOwner.isSome then (some obj, -EINVAL, none)
    else if ans.createMmapOffset ≠ 0 then (some obj, ans.createMmapOffset, none)
    else (some obj, 0, some ans.nodeOffset)

/-! ### Who reads the page array -/

/-- `VM_FAULT_NOPAGE`, `VM_FAULT_OOM` and `VM_FAULT_SIGBUS`. -/
inductive VmFault
  | nopage
  | oom
  | sigbus
  deriving DecidableEq

/-- `ERESTARTSYS` and `EBUSY`. -/
def ERESTARTSYS : ℤ := 512
def EBUSY : ℤ := 16

/-- The index of `pages` that `evdi_gem_fault` reads, for a fault `offset` bytes behind `vm_start`. -/
def gemFaultIndex (obj : GemObject) (offset : ℕ) : Option ℕ :=
  let numPages := obj.ref.size / pageSize
  let pageOffset := offset / pageSize
  if obj.pages.isNone ∨ pageOffset ≥ numPages then none else some pageOffset

/-- `evdi_gem_fault`, where `vmInsertPage` is the answer of `vm_insert_page` for the entry read (`none`
when it lies behind the array). -/
def gemFault (obj : GemObject) (offset : ℕ) (vmInsertPage : Option ℕ → ℤ) : VmFault :=
  match gemFaultIndex obj offset with
  | none => .sigbus
  | some i =>
    let ret := vmInsertPage (obj.pages.bind (·[i]?))
    if ret = -EAGAIN ∨ ret = 0 ∨ ret = -ERESTARTSYS ∨ ret = -EBUSY then .nopage
    else if ret = -ENOMEM then .oom
    else .sigbus

/-- `page_count` of `evdi_gem_vmap`, as `vmap` takes it: it reads that many entries. -/
def gemVmapPageCount (obj : GemObject) : ℕ := u32 (divRoundUp obj.ref.size pageSize)

/-- The number of entries that `evdi_prime_get_sg_table` has `drm_prime_pages_to_sg` read. -/
def primeGetSgTableCount (obj : GemObject) : ℕ := u32 (obj.ref.size / pageSize)

/-! ### What the operations do -/

/-- The pin fails: the object has no pages, and gets none. -/
def PinFails (obj : GemObject) (ans : VmapAnswers) : Prop :=
  obj.pagesPinCount = 0 ∧ obj.pages = none ∧ ∃ err ≠ 0, ans.getPages = .error err

/-- The pages after a pin that does not fail. -/
def pinnedPages (obj : GemObject) (ans : VmapAnswers) : Option (List ℕ) :=
  if obj.pagesPinCount = 0 ∧ obj.pages.isNone then ans.getPages.toOption else obj.pages

/-- **A pin** fails and changes nothing, or it is counted. -/
theorem pinPages_cases (obj : GemObject) (ans : VmapAnswers) :
    (PinFails obj ans ∧ (pinPages obj ans).1 = obj ∧ (pinPages obj ans).2 ≠ 0) ∨
    (¬ PinFails obj ans ∧ pinPages obj ans =
      ({ obj with pagesPinCount := obj.pagesPinCount + 1, pages := pinnedPages obj ans }, 0)) := by
  by_cases hcount : obj.pagesPinCount = 0
  · cases hpages : obj.pages with
    | some pages =>
      refine .inr ⟨?_, by simp [pinPages, gemGetPages, pinnedPages, hcount, hpages]⟩
      rintro ⟨-, hnone, -⟩
      simp [hpages] at hnone
    | none =>
      cases hget : ans.getPages with
      | ok pages =>
        refine .inr ⟨?_, by
          simp [pinPages, gemGetPages, pinnedPages, hcount, hpages, hget, Except.toOption]⟩
        rintro ⟨-, -, err, -, herr⟩
        simp [hget] at herr
      | error err =>
        by_cases herr : err = 0
        · refine .inr ⟨?_, by
            simp [pinPages, gemGetPages, pinnedPages, hcount, hpages, hget, herr, Except.toOption]⟩
          rintro ⟨-, -, err', hne, herr'⟩
          rw [hget] at herr'
          cases herr'
          exact hne herr
        · have hpin : pinPages obj ans = (obj, err) := by
            rcases obj with ⟨ref, pages, count, vmapped, memory⟩
            obtain rfl : pages = none := hpages
            obtain rfl : count = 0 := hcount
            simp [pinPages, gemGetPages, hget, herr]
          refine .inl ⟨⟨hcount, hpages, err, herr, hget⟩, ?_, ?_⟩
          · rw [hpin]
          · rw [hpin]
            exact herr
  · refine .inr ⟨fun h => hcount h.1, ?_⟩
    simp [pinPages, pinnedPages, hcount]

/-- A pin that does not fail leaves pages. -/
theorem pinnedPages_ne_none {obj : GemObject} {ans : VmapAnswers} (hans : ans.Documented)
    (hpin : ¬ PinFails obj ans) (h : obj.pagesPinCount ≠ 0 → obj.pages ≠ none) :
    pinnedPages obj ans ≠ none := by
  unfold pinnedPages
  split_ifs with hfirst
  · obtain ⟨hcount, hpages⟩ := hfirst
    cases hget : ans.getPages with
    | ok pages => simp [Except.toOption]
    | error err =>
      exact absurd ⟨hcount, Option.isNone_iff_eq_none.1 hpages, err, hans.getPages err hget, hget⟩ hpin
  · rw [not_and_or] at hfirst
    rcases hfirst with hcount | hpages
    · exact h hcount
    · exact fun hnone => hpages (by simp [hnone])

/-- **A mapping** is made by the dma-buf, is not made because the pin fails, or comes after a pin. -/
theorem gemVmap_cases (obj : GemObject) (ans : VmapAnswers) :
    (gemObjectUseImportAttach obj.ref = true ∧
      gemVmap obj ans = if ans.dmaBufVmap ≠ 0 then (obj, -ENOMEM)
        else ({ obj with vmapped := ans.dmaBufVaddr }, 0)) ∨
    (gemObjectUseImportAttach obj.ref = false ∧ PinFails obj ans ∧ (gemVmap obj ans).1 = obj ∧
      (gemVmap obj ans).2 ≠ 0) ∨
    (gemObjectUseImportAttach obj.ref = false ∧ ¬ PinFails obj ans ∧
      gemVmap obj ans =
        ({ obj with
            pagesPinCount := obj.pagesPinCount + 1
            pages := pinnedPages obj ans
            vmapped := ans.vmap }, if ans.vmap then 0 else -ENOMEM)) := by
  cases himport : gemObjectUseImportAttach obj.ref with
  | true => exact .inl ⟨rfl, by simp [gemVmap, himport]⟩
  | false =>
    right
    rcases pinPages_cases obj ans with ⟨hfails, hobj, hret⟩ | ⟨hpin, heq⟩
    · have hmap : gemVmap obj ans = pinPages obj ans := by simp [gemVmap, himport, hret]
      exact .inl ⟨rfl, hfails, by rw [hmap, hobj], by rwa [hmap]⟩
    · refine .inr ⟨rfl, hpin, ?_⟩
      cases hvmap : ans.vmap <;> simp [gemVmap, himport, heq, hvmap]

/-- A mapping that was made has an address. -/
theorem gemVmap_vmapped {obj : GemObject} {ans : VmapAnswers} (hans : ans.Documented)
    (h : (gemVmap obj ans).2 = 0) : (gemVmap obj ans).1.vmapped = true := by
  rcases gemVmap_cases obj ans with ⟨-, heq⟩ | ⟨-, -, -, hne⟩ | ⟨-, -, heq⟩
  · rw [heq] at h ⊢
    split_ifs at h ⊢ with hret
    · exact absurd h (by decide : ¬ -ENOMEM = 0)
    · exact hans.dmaBufVaddr (not_not.1 hret)
  · exact absurd h hne
  · rw [heq] at h ⊢
    cases hvmap : ans.vmap with
    | true => rfl
    | false => simp [hvmap, ENOMEM] at h

/-! ### Pins and mappings, each undone later -/

/-- A GEM object, with the number of its pins and of its mappings that are still to be undone. -/
structure Pinned where
  object : GemObject
  pins : ℕ
  maps : ℕ

namespace Pinned

/-- What may happen to the object. -/
inductive Action
  | pin (ans : VmapAnswers)
  | unpin
  | vmap (ans : VmapAnswers)
  | vunmap

/-- One call. Pins may fail; mappings succeed; what is undone was done before. -/
inductive Step : Pinned → Action → Pinned → Prop
  | pin {s : Pinned} (ans : VmapAnswers) : ans.Documented → Step s (.pin ans) { s with
      object := (primePin s.object ans).1
      pins := if (primePin s.object ans).2 = 0 then s.pins + 1 else s.pins }
  | unpin {s : Pinned} : 0 < s.pins → Step s .unpin { s with
      object := primeUnpin s.object
      pins := s.pins - 1 }
  | vmap {s : Pinned} (ans : VmapAnswers) : ans.Documented → (gemVmap s.object ans).2 = 0 →
      Step s (.vmap ans) { s with object := (gemVmap s.object ans).1, maps := s.maps + 1 }
  | vunmap {s : Pinned} : 0 < s.maps → Step s .vunmap { s with
      object := gemVunmap s.object
      maps := s.maps - 1 }

/-- No pin and no mapping. -/
def init (obj : GemObject) : Pinned := ⟨obj, 0, 0⟩

/-- The pins to be undone: a mapping is one, unless the dma-buf has made it. -/
def outstanding (s : Pinned) : ℕ :=
  if gemObjectUseImportAttach s.object.ref then s.pins else s.pins + s.maps

end Pinned

/-! ### Who maps an object -/

/-- A GEM object with the kernel mappings made of it, which are numbered `0 … made - 1`. `address` is
the number of the one that `vmapping` points to, when it is not `NULL`; `undone` are those that were
unmapped, in order; `measuring` counts the measurements that have mapped and not yet unmapped. -/
structure Mappings where
  object : GemObject
  address : ℕ
  made : ℕ
  undone : List ℕ
  measuring : ℕ
  freed : Bool

namespace Mappings

/-- `vmapping`. -/
def vmapping (s : Mappings) : Option ℕ := if s.object.vmapped then some s.address else none

/-- The mappings that are live. -/
def live (s : Mappings) : Set ℕ := {n | n < s.made ∧ n ∉ s.undone}

/-- `evdi_gem_vmap`, which has made one more mapping if it succeeds. -/
def vmap (s : Mappings) (ans : VmapAnswers) : Mappings :=
  let (object, ret) := gemVmap s.object ans
  if ret = 0 then { s with object := object, address := s.made, made := s.made + 1 }
  else { s with object := object }

/-- `if (!obj->vmapping) evdi_gem_vmap(obj)`. -/
def mapOnDemand (s : Mappings) (ans : VmapAnswers) : Mappings :=
  if s.object.vmapped then s else s.vmap ans

/-- What `evdi_gem_vunmap` and `evdi_gem_free_object` unmap is what `vmapping` points to. -/
def unmapped (s : Mappings) (object : GemObject) : Mappings :=
  { s with object := object, undone := s.undone ++ s.vmapping.toList }

/-- Who may touch the mapping: the cursor and `GRABPIX`, the two halves of a measurement
(`evdi_painter_debugfs_measure_copy_fb`), and the end of the object. -/
inductive Action
  | mapOnDemand (ans : VmapAnswers)
  | measureMap (ans : VmapAnswers)
  | measureUnmap
  | free

/-- One call; all mappings succeed. A measurement holds a reference on the framebuffer, so that the
object is not freed under it. -/
inductive Step : Mappings → Action → Mappings → Prop
  | mapOnDemand {s : Mappings} (ans : VmapAnswers) : s.freed = false → ans.Documented →
      (gemMapOnDemand s.object ans).2 = 0 → Step s (.mapOnDemand ans) (s.mapOnDemand ans)
  | measureMap {s : Mappings} (ans : VmapAnswers) : s.freed = false → ans.Documented →
      (gemVmap s.object ans).2 = 0 →
      Step s (.measureMap ans) { s.vmap ans with measuring := s.measuring + 1 }
  | measureUnmap {s : Mappings} : s.freed = false → 0 < s.measuring →
      Step s .measureUnmap { s.unmapped (gemVunmap s.object) with measuring := s.measuring - 1 }
  | free {s : Mappings} : s.freed = false → s.measuring = 0 →
      Step s .free { s.unmapped (gemFreeObject s.object) with freed := true }

/-- An object that was never mapped. -/
def init (obj : GemObject) : Mappings := ⟨obj, 0, 0, [], 0, false⟩

end Mappings

end Evdi
