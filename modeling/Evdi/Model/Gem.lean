import Evdi.Foundations.Bytes
import Evdi.Model.Device

/-!
# GEM objects and their kernel mapping

`evdi_gem_vmap` with the page pinning under it.  What the calls it makes into the kernel answer is
a `VmapAnswers`.  `memory` is the kernel memory around the object: the bytes at `0 … size - 1` are
the object's own, the others belong to somebody else.
-/

namespace Evdi

open Bytes

/-- The part of a `struct evdi_gem_object` that changes. -/
structure GemObject where
  ref : GemRef
  pages : Option (List ℕ)
  pagesPinCount : UInt32
  vmapped : Bool
  memory : Memory

/-- Answers of the kernel during one `evdi_gem_vmap`: the result of the dma-buf's vmap and whether
the address it gave is non-`NULL`, the pages or the error of `drm_gem_get_pages`, and whether
`vmap` gave an address. -/
structure VmapAnswers where
  dmaBufVmap : ℤ
  dmaBufVaddr : Bool
  getPages : Except ℤ (List ℕ)
  vmap : Bool

/-- `evdi_drm_gem_object_use_import_attach`. -/
def gemObjectUseImportAttach (obj : GemRef) : Bool :=
  match obj.importOwner with
  | some (some name) => name != "amdgpu"
  | _ => false

/-- `evdi_gem_get_pages`. -/
def gemGetPages (obj : GemObject) (ans : VmapAnswers) : GemObject × ℤ :=
  match obj.pages with
  | some _ => (obj, 0)
  | none =>
    match ans.getPages with
    | .error ret => (obj, ret)
    | .ok pages => ({ obj with pages := some pages }, 0)

/-- `evdi_pin_pages`. -/
def pinPages (obj : GemObject) (ans : VmapAnswers) : GemObject × ℤ :=
  let pinned := { obj with pagesPinCount := obj.pagesPinCount + 1 }
  if obj.pagesPinCount = 0 then
    let (obj', ret) := gemGetPages pinned ans
    if ret ≠ 0 then ({ obj' with pagesPinCount := obj'.pagesPinCount - 1 }, ret) else (obj', ret)
  else (pinned, 0)

/-- `evdi_gem_vmap`. -/
def gemVmap (obj : GemObject) (ans : VmapAnswers) : GemObject × ℤ :=
  if gemObjectUseImportAttach obj.ref then
    if ans.dmaBufVmap ≠ 0 then (obj, -ENOMEM)
    else ({ obj with vmapped := ans.dmaBufVaddr }, 0)
  else
    let (obj, ret) := pinPages obj ans
    if ret ≠ 0 then (obj, ret)
    else
      let obj := { obj with vmapped := ans.vmap }
      if obj.vmapped then (obj, 0) else (obj, -ENOMEM)

/-- `if (!obj->vmapping) evdi_gem_vmap(obj)`, as the cursor and `GRABPIX` map an object on demand. -/
def gemMapOnDemand (obj : GemObject) (ans : VmapAnswers) : GemObject × ℤ :=
  if obj.vmapped then (obj, 0) else gemVmap obj ans

theorem gemGetPages_ref_memory (obj : GemObject) (ans : VmapAnswers) :
    (gemGetPages obj ans).1.ref = obj.ref ∧ (gemGetPages obj ans).1.memory = obj.memory := by
  unfold gemGetPages
  cases obj.pages with
  | some _ => exact ⟨rfl, rfl⟩
  | none => cases ans.getPages <;> exact ⟨rfl, rfl⟩

theorem pinPages_ref_memory (obj : GemObject) (ans : VmapAnswers) :
    (pinPages obj ans).1.ref = obj.ref ∧ (pinPages obj ans).1.memory = obj.memory := by
  have h := gemGetPages_ref_memory { obj with pagesPinCount := obj.pagesPinCount + 1 } ans
  unfold pinPages
  dsimp only
  split_ifs
  · exact h
  · exact h
  · exact ⟨rfl, rfl⟩

theorem gemVmap_ref_memory (obj : GemObject) (ans : VmapAnswers) :
    (gemVmap obj ans).1.ref = obj.ref ∧ (gemVmap obj ans).1.memory = obj.memory := by
  have h := pinPages_ref_memory obj ans
  unfold gemVmap
  dsimp only
  split_ifs
  · exact ⟨rfl, rfl⟩
  · exact ⟨rfl, rfl⟩
  · exact h
  · exact h
  · exact h

/-- Mapping an object on demand moves nothing. -/
theorem gemMapOnDemand_ref_memory (obj : GemObject) (ans : VmapAnswers) :
    (gemMapOnDemand obj ans).1.ref = obj.ref ∧ (gemMapOnDemand obj ans).1.memory = obj.memory := by
  unfold gemMapOnDemand
  split_ifs
  · exact ⟨rfl, rfl⟩
  · exact gemVmap_ref_memory obj ans

end Evdi
