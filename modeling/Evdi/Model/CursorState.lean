import Evdi.Foundations.Transition
import Evdi.Model.GemPages
import Evdi.Model.Modeset

/-!
# The cursor and its object

`evdi_crtc_cursor_set`, by which kernels without a cursor plane set the cursor, the end of the cursor,
and runs of all that changes it.  The GEM objects around the device are a `GemTable`.

`CursorLife.Step` is one call: an update of the cursor plane, `evdi_crtc_cursor_set`, a disconnect,
`evdi_cursor_free`, or one that has nothing to do with the cursor.
-/

namespace Evdi

open Atomic

/-- `DRM_FORMAT_ARGB8888`. -/
def drmFormatArgb8888 : UInt32 := 0x34325241

/-- `evdi_mark_full_screen_dirty`. -/
def markFullScreenDirty : Prog Device Unit := do
  let rect ← .read painterFramebufferSize
  .modify (painterMarkDirty rect)
  painterSendUpdateReadyIfNeeded

/-- `evdi_crtc_cursor_set`, where `gemObjectLookup` finds the objects of the caller's file.  The lookup
takes a reference, which is put back at the end. -/
def crtcCursorSet (gemObjectLookup : UInt32 → Option GemRef) (env : CursorEnv)
    (handle width height : UInt32) (hotX hotY : Int32) : Prog Device Unit := do
  let obj := if handle ≠ 0 then gemObjectLookup handle else none
  .modify (drmGemObjectRef obj 1)
  .modify (cursorSet (obj.map env.objects) env.vmap
    ⟨width, height, hotX, hotY, drmFormatArgb8888, 4 * width⟩)
  .modify (drmGemObjectRef obj (-1))
  if ← .read (·.cursorEventsEnabled) then painterSendCursorSet env.gemHandle
  else markFullScreenDirty

/-- `evdi_cursor_free`, up to the end of the cursor's memory. -/
def cursorFree (d : Device) : Device := cursorSetGem none d

/-! ### The cursor and its reference -/

/-- The references that a cursor showing `obj` holds. -/
def heldRefs (obj : Option GemRef) (id : ℕ) : ℤ := if obj.map (·.id) = some id then 1 else 0

/-- Whether the cursor is enabled, its object, and the references to GEM objects that others hold. -/
def cursorView (d : Device) : Bool × Option GemRef × (ℕ → ℤ) :=
  (d.cursor.enabled, d.cursor.obj, fun id => d.drm.gemRefs id - heldRefs d.cursor.obj id)

/-! ### GEM objects -/

/-- The state of the GEM objects. -/
structure GemTable where
  state : GemRef → GemObject
  ref_eq : ∀ ref, (state ref).ref = ref

/-- An object is mapped on demand. -/
def GemTable.mapOnDemand (t : GemTable) (ref : GemRef) (ans : VmapAnswers) : GemTable where
  state := Function.update t.state ref (gemMapOnDemand (t.state ref) ans).1
  ref_eq := by
    intro r
    by_cases hr : r = ref
    · subst hr
      rw [Function.update_self, (gemMapOnDemand_ref_memory _ ans).1]
      exact t.ref_eq r
    · rw [Function.update_of_ne hr]
      exact t.ref_eq r

/-- The object that `evdi_cursor_set` is handed, if any, is mapped on demand. -/
def GemTable.mapImage (t : GemTable) (ref : Option GemRef) (ans : VmapAnswers) : GemTable :=
  match ref with
  | some ref => t.mapOnDemand ref ans
  | none => t

/-! ### Runs -/

/-- A device and the GEM objects; `live` as long as the cursor is not freed. -/
structure CursorLife where
  device : Device
  objects : GemTable
  live : Bool

namespace CursorLife

/-- What may happen to the cursor. -/
inductive Action
  | update (old new : PlaneState) (ans : VmapAnswers) (gemHandle : UInt32)
  | set (gemObjectLookup : UInt32 → Option GemRef) (ans : VmapAnswers)
      (gemHandle handle width height : UInt32) (hotX hotY : Int32)
  | disconnect (file : DrmFile)
  | free
  | other

/-- What a call finds around the device. -/
def env (s : CursorLife) (ans : VmapAnswers) (gemHandle : UInt32) : CursorEnv :=
  ⟨s.objects.state, ans, gemHandle⟩

/-- The object of the image that an update of the plane shows anew. -/
def newImage (old new : PlaneState) : Option GemRef :=
  if new.fb != old.fb then new.fb.map (·.obj) else none

/-- One call. -/
inductive Step : CursorLife → Action → CursorLife → Prop
  | update {s : CursorLife} (old new : PlaneState) (ans : VmapAnswers) (gemHandle : UInt32) :
      s.live = true → ans.Documented → Step s (.update old new ans gemHandle) { s with
        device := ((cursorAtomicUpdate old new (s.env ans gemHandle)).exec s.device).1
        objects := s.objects.mapImage (newImage old new) ans }
  | set {s : CursorLife} (gemObjectLookup : UInt32 → Option GemRef) (ans : VmapAnswers)
      (gemHandle handle width height : UInt32) (hotX hotY : Int32) :
      s.live = true → ans.Documented →
      Step s (.set gemObjectLookup ans gemHandle handle width height hotX hotY) { s with
        device := ((crtcCursorSet gemObjectLookup (s.env ans gemHandle) handle width height hotX
          hotY).exec s.device).1
        objects := s.objects.mapImage (if handle ≠ 0 then gemObjectLookup handle else none) ans }
  | disconnect {s : CursorLife} (file : DrmFile) : s.live = true →
      Step s (.disconnect file) { s with device := (painterDisconnect file s.device).1 }
  | free {s : CursorLife} : s.live = true →
      Step s .free { s with device := cursorFree s.device, live := false }
  | other {s : CursorLife} (f : Device → Device) : (∀ d, cursorView (f d) = cursorView d) →
      Step s .other { s with device := f s.device }

end CursorLife

end Evdi
