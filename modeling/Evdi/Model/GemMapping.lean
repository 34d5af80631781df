import Evdi.Model.GemPages

/-!
# A mapping of a GEM object

An object that a client maps: `MODE_MAP_DUMB` (`evdi_gem_mmap`) pins the pages for good, and so does a
kernel mapping that fails after its pin.  The pins and mappings of `Pinned` go on meanwhile.

* `gemFaultPage`: the page that a fault inserts;
* `MappedObject.Step`: the calls, on one object;
* `MappedObject.BoundedStep`: those that leave fewer pins than the count can hold.
-/

namespace Evdi

/-- The page that `evdi_gem_fault` inserts `offset` bytes behind `vm_start`; without one it is `SIGBUS`. -/
def gemFaultPage (obj : GemObject) (offset : ℕ) : Option ℕ :=
  (gemFaultIndex obj offset).bind fun i => obj.pages.bind (·[i]?)

/-- `drm_gem_get_pages` gives the pages of the whole object. -/
def VmapAnswers.Covers (ans : VmapAnswers) (obj : GemObject) : Prop :=
  ∀ pages, ans.getPages = .ok pages → pages.length = obj.ref.size / pageSize

/-- A GEM object with the pins that will be undone, and the number of those that will not. -/
structure MappedObject extends Pinned where
  kept : ℕ

namespace MappedObject

/-- All pins. -/
def pinned (s : MappedObject) : ℕ := s.outstanding + s.kept

/-- A call has left the object so, and its pin, if it has made one, stays. -/
def keep (s : MappedObject) (obj : GemObject) : MappedObject :=
  { s with
    object := obj
    kept := if obj.pagesPinCount = s.object.pagesPinCount then s.kept else s.kept + 1 }

/-- What may happen to the object. -/
inductive Action
  | call (a : Pinned.Action)
  | failedVmap (ans : VmapAnswers)
  | mmap (ans : MmapAnswers)

/-- The answers of the kernel to a call. -/
def answers : Pinned.Action → Option VmapAnswers
  | .pin ans | .vmap ans => some ans
  | .unpin | .vunmap => none

/-- One call. -/
inductive Step : MappedObject → Action → MappedObject → Prop
  | call {s : MappedObject} {t : Pinned} {a : Pinned.Action} : Pinned.Step s.toPinned a t →
      (∀ ans ∈ answers a, ans.Covers s.object) → Step s (.call a) { s with toPinned := t }
  | failedVmap {s : MappedObject} (ans : VmapAnswers) : ans.Documented → ans.Covers s.object →
      (gemVmap s.object ans).2 ≠ 0 → Step s (.failedVmap ans) (s.keep (gemVmap s.object ans).1)
  | mmap {s : MappedObject} (ans : MmapAnswers) : ans.toVmapAnswers.Documented →
      ans.toVmapAnswers.Covers s.object →
      Step s (.mmap ans) (s.keep ((gemMmap (some s.object) ans).1.getD s.object))

/-- A call that leaves fewer than 2³² pins. -/
def BoundedStep (s : MappedObject) (a : Action) (t : MappedObject) : Prop :=
  Step s a t ∧ t.pinned < 2 ^ 32

/-- No pin and no mapping. -/
def init (obj : GemObject) : MappedObject := ⟨.init obj, 0⟩

end MappedObject

end Evdi
