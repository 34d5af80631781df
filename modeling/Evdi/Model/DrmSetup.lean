import Evdi.Foundations.Allocation
import Evdi.Foundations.Transition
import Evdi.Model.Device

/-!
# Creation and removal of DRM devices

`evdi_drm_device_create`, `evdi_drm_device_remove` and what they call, as far as memory and the chain
of VT notifiers are concerned: which structures are allocated, where the pointers to them are kept,
and who frees them. The kernel has managed actions (5.8), and `CONFIG_FB`.

An allocation is named by the DRM device that it is made for and its kind; a device is created once,
with one allocation of each kind.  What a freed structure says is still there to be read; the read is
a fault.

* `evdiDrmDeviceInit`: the steps, and the labels `err_init` and `err_free`;
* `evdiDrmDeviceReleaseCb`: the managed action;
* `DrmSetup.Step`: creations, removals, and last references dropped.
-/

namespace Evdi

open Allocation Transition

/-! ### Memory -/

/-- The structures that are allocated for a device. -/
inductive SetupKind
  | evdi
  | painter
  | cursor
  | fbdev
  deriving DecidableEq

/-- A structure, by the DRM device that it is made for. -/
structure ObjId where
  drm : ℕ
  kind : SetupKind
  deriving DecidableEq

/-- The pointers in `struct evdi_device`. -/
structure EvdiPointers where
  painter : Option ObjId
  cursor : Option ObjId
  fbdev : Option ObjId

/-- A `struct drm_device`: its `dev_private`, whether `evdi_drm_device_release_cb` is to run when it
is released, and whether it was removed and is only still referred to. -/
structure DrmDevice where
  devPrivate : Option ObjId
  releaseCb : Bool
  removed : Bool

/-- The memory, the contents of the evdi devices, the chain of VT notifiers by their painters, and the
DRM devices. -/
structure DrmSetup where
  heap : Heap ObjId
  evdis : ObjId → EvdiPointers
  vtNotifiers : List ObjId
  drms : ℕ → Option DrmDevice
  nextDrm : ℕ

namespace DrmSetup

/-- No device was created. -/
def init : DrmSetup where
  heap := .empty
  evdis := fun _ => ⟨none, none, none⟩
  vtNotifiers := []
  drms := fun _ => none
  nextDrm := 0

variable (s : DrmSetup)

/-- `kzalloc`. -/
def kzalloc (success : Bool) (a : ObjId) : DrmSetup × Option ObjId :=
  if success then ({ s with heap := s.heap.alloc a }, some a) else (s, none)

/-- An access. -/
def touch (p : Option ObjId) : DrmSetup := { s with heap := s.heap.touch p }

/-- `kfree`. -/
def kfree (p : Option ObjId) : DrmSetup := { s with heap := s.heap.free p }

/-- What is read of an evdi device. -/
def pointers (evdi : Option ObjId) : EvdiPointers := evdi.elim ⟨none, none, none⟩ s.evdis

/-- A write to an evdi device. -/
def onEvdi (evdi : Option ObjId) (f : EvdiPointers → EvdiPointers) : DrmSetup :=
  match evdi with
  | none => s.touch none
  | some e => { s.touch (some e) with evdis := Function.update s.evdis e (f (s.evdis e)) }

/-- `dev->dev_private`. -/
def devPrivate (dev : ℕ) : Option ObjId := (s.drms dev).bind (·.devPrivate)

/-- Change a DRM device. -/
def onDrm (dev : ℕ) (f : DrmDevice → DrmDevice) : DrmSetup :=
  { s with drms := Function.update s.drms dev ((s.drms dev).map f) }

end DrmSetup

/-- What the steps of a creation come to: whether memory can be had, and the results of the kernel's
functions. -/
structure SetupAnswers where
  drmDevAlloc : Bool
  evdi : Bool
  painter : Bool
  cursor : Bool
  fbdev : Bool
  drmFbHelperInit : ℤ
  drmFbHelperInitialConfig : ℤ
  drmVblankInit : ℤ
  drmmAddAction : ℤ
  drmDevRegister : ℤ

/-! ### The parts of a device -/

/-- `evdi_painter_init`, with `evdi_painter_register_to_vt`. -/
def evdiPainterInit (ans : SetupAnswers) (dev : ObjId) (s : DrmSetup) : DrmSetup × ℤ :=
  let (s, painter) := s.kzalloc ans.painter ⟨dev.drm, .painter⟩
  let s := s.onEvdi dev fun evdi => { evdi with painter := painter }
  match painter with
  | none => (s, -ENOMEM)
  | some p =>
    let s := s.touch p
    ({ s with vtNotifiers := s.vtNotifiers ++ [p] }, 0)

/-- `evdi_painter_cleanup`, with `evdi_painter_unregister_from_vt`. -/
def evdiPainterCleanup (painter : Option ObjId) (s : DrmSetup) : DrmSetup :=
  match painter with
  | none => s
  | some p =>
    let s := s.touch painter
    let s := { s with vtNotifiers := s.vtNotifiers.erase p }
    s.kfree painter

/-- `evdi_cursor_init(&evdi->cursor)`. -/
def evdiCursorInit (ans : SetupAnswers) (evdi : ObjId) (s : DrmSetup) : DrmSetup × ℤ :=
  let s := s.touch evdi
  if (s.pointers evdi).cursor ≠ none then (s, -EINVAL)
  else
    let (s, cursor) := s.kzalloc ans.cursor ⟨evdi.drm, .cursor⟩
    let s := s.onEvdi evdi fun evdi => { evdi with cursor := cursor }
    match cursor with
    | none => (s, -ENOMEM)
    | some _ => (s.touch cursor, 0)

/-- `evdi_cursor_free`. -/
def evdiCursorFree (cursor : Option ObjId) (s : DrmSetup) : DrmSetup :=
  match cursor with
  | none => s
  | some _ => (s.touch cursor).kfree cursor

/-- `evdi_fbdev_init`. -/
def evdiFbdevInit (ans : SetupAnswers) (dev : ℕ) (s : DrmSetup) : DrmSetup × ℤ :=
  let evdi := s.devPrivate dev
  let (s, efbdev) := s.kzalloc ans.fbdev ⟨dev, .fbdev⟩
  match efbdev with
  | none => (s, -ENOMEM)
  | some _ =>
    let s := s.onEvdi evdi fun evdi => { evdi with fbdev := efbdev }
    let s := s.touch efbdev
    if ans.drmFbHelperInit ≠ 0 then (s.kfree efbdev, ans.drmFbHelperInit)
    else if ans.drmFbHelperInitialConfig ≠ 0 then
      ((s.touch efbdev).kfree efbdev, ans.drmFbHelperInitialConfig)
    else (s, ans.drmFbHelperInitialConfig)

/-- `evdi_fbdev_cleanup`, where `evdi_fbdev_destroy` is an access. -/
def evdiFbdevCleanup (dev : ℕ) (s : DrmSetup) : DrmSetup :=
  let evdi := s.devPrivate dev
  let s := s.touch evdi
  match (s.pointers evdi).fbdev with
  | none => s
  | some f =>
    let s := s.touch (some f)
    let s := s.kfree (some f)
    s.onEvdi evdi fun evdi => { evdi with fbdev := none }

/-- `evdi_fbdev_unplug`. -/
def evdiFbdevUnplug (dev : ℕ) (s : DrmSetup) : DrmSetup :=
  let evdi := s.devPrivate dev
  let s := s.touch evdi
  match (s.pointers evdi).fbdev with
  | none => s
  | some f => s.touch (some f)

/-! ### Devices -/

/-- `evdi_drm_device_release_cb`. -/
def evdiDrmDeviceReleaseCb (dev : ℕ) (s : DrmSetup) : DrmSetup :=
  let evdi := s.devPrivate dev
  let s := s.touch evdi
  let s := evdiCursorFree (s.pointers evdi).cursor s
  let s := s.touch evdi
  let s := evdiPainterCleanup (s.pointers evdi).painter s
  let s := s.kfree evdi
  s.onDrm dev fun drm => { drm with devPrivate := none }

/-- `drmm_add_action_or_reset`, which runs the action when it cannot be added. -/
def drmmAddActionOrReset (ans : SetupAnswers) (dev : ℕ) (s : DrmSetup) : DrmSetup × ℤ :=
  if ans.drmmAddAction ≠ 0 then (evdiDrmDeviceReleaseCb dev s, ans.drmmAddAction)
  else (s.onDrm dev fun drm => { drm with releaseCb := true }, 0)

/-- The label `err_free` of `evdi_drm_device_init`. -/
def errFree (evdi : ObjId) (dev : ℕ) (ret : ℤ) (s : DrmSetup) : DrmSetup × ℤ :=
  let s := s.touch evdi
  let s := evdiCursorFree (s.pointers evdi).cursor s
  let s := s.touch evdi
  let s := s.kfree (s.pointers evdi).painter
  let s := s.kfree evdi
  (s.onDrm dev fun drm => { drm with devPrivate := none }, ret)

/-- The label `err_init`. -/
def errInit (evdi : ObjId) (dev : ℕ) (ret : ℤ) (s : DrmSetup) : DrmSetup × ℤ :=
  errFree evdi dev ret (evdiFbdevCleanup dev s)

/-- `evdi_drm_device_init`, from `evdi_painter_init` on. -/
def evdiDrmDeviceInitParts (ans : SetupAnswers) (evdi : ObjId) (dev : ℕ) (s : DrmSetup) : DrmSetup × ℤ :=
  let (s, ret) := evdiPainterInit ans evdi s
  if ret ≠ 0 then errFree evdi dev ret s
  else
    let (s, ret) := evdiCursorInit ans evdi s
    if ret ≠ 0 then errFree evdi dev ret s
    else
      let (s, ret) := evdiFbdevInit ans dev s
      if ret ≠ 0 then errInit evdi dev ret s
      else if ans.drmVblankInit ≠ 0 then errInit evdi dev ans.drmVblankInit s
      else
        let (s, ret) := drmmAddActionOrReset ans dev s
        if ret ≠ 0 then errInit evdi dev ret s else (s, 0)

/-- `evdi_drm_device_init`. -/
def evdiDrmDeviceInit (ans : SetupAnswers) (dev : ℕ) (s : DrmSetup) : DrmSetup × ℤ :=
  let (s, evdi) := s.kzalloc ans.evdi ⟨dev, .evdi⟩
  match evdi with
  | none => (s, -ENOMEM)
  | some evdi =>
    evdiDrmDeviceInitParts ans evdi dev (s.onDrm dev fun drm => { drm with devPrivate := some evdi })

/-- The last reference to a DRM device is dropped: its managed action runs, if there is one. -/
def drmDevRelease (dev : ℕ) (s : DrmSetup) : DrmSetup :=
  let releaseCb := (s.drms dev).any (·.releaseCb)
  let s := if releaseCb then evdiDrmDeviceReleaseCb dev s else s
  { s with drms := Function.update s.drms dev none }

/-- `evdi_drm_device_create`, where `drm_dev_alloc` makes the device `s.nextDrm`. -/
def evdiDrmDeviceCreate (ans : SetupAnswers) (s : DrmSetup) : DrmSetup :=
  if !ans.drmDevAlloc then s
  else
    let dev := s.nextDrm
    let s := { s with
      drms := Function.update s.drms dev (some ⟨none, false, false⟩)
      nextDrm := dev + 1 }
    let (s, ret) := evdiDrmDeviceInit ans dev s
    if ret ≠ 0 then drmDevRelease dev s
    else if ans.drmDevRegister ≠ 0 then drmDevRelease dev s
    else s

/-- `evdi_drm_device_remove`, up to its `drm_dev_put`. -/
def evdiDrmDeviceRemove (dev : ℕ) (s : DrmSetup) : DrmSetup :=
  let s := evdiFbdevUnplug dev s
  let s := evdiFbdevCleanup dev s
  s.onDrm dev fun drm => { drm with removed := true }

/-! ### Runs -/

namespace DrmSetup

/-- What may happen. -/
inductive Action
  | create (ans : SetupAnswers)
  | remove (dev : ℕ)
  | release (dev : ℕ)

/-- A device is created; one that is there is removed; or the last reference to one that was removed
is dropped, by the removal itself or later. -/
inductive Step : DrmSetup → Action → DrmSetup → Prop
  | create {s : DrmSetup} (ans : SetupAnswers) : Step s (.create ans) (evdiDrmDeviceCreate ans s)
  | remove {s : DrmSetup} {dev : ℕ} {drm : DrmDevice} : s.drms dev = some drm → drm.removed = false →
      Step s (.remove dev) (evdiDrmDeviceRemove dev s)
  | release {s : DrmSetup} {dev : ℕ} {drm : DrmDevice} : s.drms dev = some drm → drm.removed = true →
      Step s (.release dev) (drmDevRelease dev s)

end DrmSetup

end Evdi
