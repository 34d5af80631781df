import Evdi.Model.Events

/-!
# The painter: damage, vblank events, update requests, notifications

The functions of `evdi_painter.c` that a compositor's commit and the client's requests go through.
What runs under `painter->lock` is one section; the functions that take the lock more than once, or
work without it, are programs of several sections.
-/

namespace Evdi

open Atomic

/-! ### Damage -/

/-- The new list of dirty rectangles when `rect` is added: merged when it is full, and collapsed
when it is still full. -/
def addDirtyRect (rects : List ClipRect) (rect : ClipRect) : List ClipRect :=
  let rects := if rects.length = maxDirts then mergeDirtyRects rects else rects
  let rects := if rects.length = maxDirts then collapseDirtyRects rects else rects
  rects ++ [rect]

/-- `evdi_painter_mark_dirty`, on the painter. -/
def Painter.markDirty (p : Painter) (dirtyRect : ClipRect) : Painter :=
  match p.scanoutFb with
  | none => p
  | some efb =>
    { p with
      dirtyRects := addDirtyRect p.dirtyRects
        (framebufferSanitizeRect efb.width efb.height dirtyRect) }

/-- `evdi_painter_mark_dirty`. -/
def painterMarkDirty (dirtyRect : ClipRect) (d : Device) : Device :=
  d.onPainter fun p => p.markDirty dirtyRect

/-- `evdi_painter_get_num_dirts`. -/
def painterGetNumDirts (d : Device) : ℤ :=
  match d.painter with
  | some p => p.numDirts
  | none => 0

theorem numDirts_pos {d : Device} : painterGetNumDirts d > 0 ↔ d.dirtyRects ≠ [] := by
  unfold painterGetNumDirts Device.dirtyRects
  cases d.painter with
  | none => simp
  | some p => simp [Painter.numDirts, List.length_pos_iff]

theorem dirtyRects_onPainter {f : Painter → Painter} (d : Device)
    (hf : ∀ p, (f p).dirtyRects = p.dirtyRects) : (d.onPainter f).dirtyRects = d.dirtyRects := by
  cases h : d.painter <;> simp [Device.dirtyRects, h, hf]

/-- `evdi_painter_framebuffer_size`. -/
def painterFramebufferSize (d : Device) : ClipRect :=
  match d.painter with
  | some p =>
    match p.scanoutFb with
    | some efb => efb.fullscreenRect
    | none => ⟨0, 0, 0, 0⟩
  | none => ⟨0, 0, 0, 0⟩

/-! ### The scanout framebuffer -/

/-- `drm_framebuffer_get` and `drm_framebuffer_put`, by the references they add. -/
def drmFramebufferRef (fb : Framebuffer) (n : ℤ) (d : Device) : Device :=
  d.onDrm fun drm => { drm with fbRefs := Function.update drm.fbRefs fb.id (drm.fbRefs fb.id + n) }

/-- The locked swap of `evdi_painter_set_scanout_buffer`. -/
def swapScanoutBuffer (newfb : Option Framebuffer) (d : Device) : Device × Option Framebuffer :=
  (d.onPainter fun p => { p with scanoutFb := newfb }, d.painter.bind (·.scanoutFb))

/-- `evdi_painter_set_scanout_buffer`. -/
def painterSetScanoutBuffer (newfb : Option Framebuffer) : Prog Device Unit := do
  match newfb with
  | some fb => .modify (drmFramebufferRef fb 1)
  | none => pure ()
  match ← .act (swapScanoutBuffer newfb) with
  | some oldfb => .modify (drmFramebufferRef oldfb (-1))
  | none => pure ()

/-- The references moved by a change of the scanout buffer. -/
def scanoutRefs (newfb oldfb : Option Framebuffer) (drm : DrmCore) : DrmCore :=
  let get := newfb.elim drm.fbRefs fun fb => Function.update drm.fbRefs fb.id (drm.fbRefs fb.id + 1)
  { drm with fbRefs := oldfb.elim get fun fb => Function.update get fb.id (get fb.id + -1) }

/-- Without interference, the painter has the new buffer and the references are moved. -/
theorem painterSetScanoutBuffer_exec (newfb : Option Framebuffer) (d : Device) :
    ((painterSetScanoutBuffer newfb).exec d).1 =
      (d.onDrm (scanoutRefs newfb (d.painter.bind (·.scanoutFb)))).onPainter fun p =>
        { p with scanoutFb := newfb } := by
  cases newfb <;> cases h : d.painter.bind (·.scanoutFb) <;>
    simp [painterSetScanoutBuffer, swapScanoutBuffer, drmFramebufferRef, scanoutRefs,
      Device.onPainter, Device.onDrm, h]

/-! ### Vblank events -/

/-- `evdi_send_vblank`. -/
def sendVblank (crtc : Option Crtc) (vblank : Option VblankEvent) (d : Device) : Device :=
  match crtc, vblank with
  | some c, some v => d.onDrm fun drm => { drm with sentVblanks := drm.sentVblanks ++ [(c, v)] }
  | _, _ => d

/-- `evdi_painter_send_vblank`. -/
def painterSendVblank (d : Device) : Device :=
  match d.painter with
  | none => d
  | some p =>
    (sendVblank p.crtc p.vblank d).onPainter fun p => { p with crtc := none, vblank := none }

/-- `evdi_painter_set_vblank`. -/
def painterSetVblank (crtc : Option Crtc) (vblank : Option VblankEvent) (d : Device) : Device :=
  match d.painter with
  | none => sendVblank crtc vblank d
  | some p =>
    let d := painterSendVblank d
    if p.numDirts > 0 ∧ p.isConnected = true then
      d.onPainter fun p => { p with crtc := crtc, vblank := vblank }
    else sendVblank crtc vblank d

/-! ### Update requests -/

/-- `evdi_painter_request_update_ioctl`. -/
def painterRequestUpdateIoctl (d : Device) : Device × ℤ :=
  match d.painter with
  | none => (d, -ENODEV)
  | some p =>
    if p.wasUpdateRequested then (d, 0)
    else if p.numDirts > 0 then (d, 1)
    else (d.onPainter fun p => { p with wasUpdateRequested := true }, 0)

/-- A request sets the flag, or changes nothing. -/
theorem painterRequestUpdateIoctl_device (d : Device) :
    (painterRequestUpdateIoctl d).1 = d ∨
      (painterRequestUpdateIoctl d).1 = d.onPainter fun p => { p with wasUpdateRequested := true } := by
  unfold painterRequestUpdateIoctl
  cases d.painter with
  | none => exact .inl rfl
  | some p =>
    dsimp only
    split_ifs
    · exact .inl rfl
    · exact .inl rfl
    · exact .inr rfl

/-- `evdi_painter_send_update_ready`. -/
def painterSendUpdateReady : Prog Device Unit := createAndSend .updateReady

/-- The body of `evdi_painter_send_update_ready_if_needed` under the painter lock, as built for
kernels from 5.10 on. -/
def updateReadyIfNeeded : Prog Device Unit := do
  if ← .read fun d => d.painter.any fun p => p.wasUpdateRequested && p.numDirts != 0 then
    painterSendUpdateReady
    .modify fun d => d.onPainter fun p => { p with wasUpdateRequested := false }
  else pure ()

/-- `evdi_painter_send_update_ready_if_needed`. -/
def painterSendUpdateReadyIfNeeded : Prog Device Unit := updateReadyIfNeeded.atomically

/-- The section of `evdi_painter_send_update_ready_if_needed`. -/
theorem updateReadyIfNeeded_exec (d : Device) : (updateReadyIfNeeded.exec d).1 =
    if d.painter.any fun p => p.wasUpdateRequested && p.numDirts != 0 then
      (painterSendUpdateReady.exec d).1.onPainter fun p => { p with wasUpdateRequested := false }
    else d := by
  rw [updateReadyIfNeeded, Prog.exec_read_ite]
  split_ifs
  · rw [Prog.exec_bind, Prog.exec_modify]
  · rfl

/-! ### Notifications -/

/-- `DRM_MODE_DPMS_ON` and `DRM_MODE_DPMS_OFF`. -/
def dpmsOn : Int32 := 0
def dpmsOff : Int32 := 3

/-- `evdi_painter_dpms_notify`. -/
def painterDpmsNotify (mode : Int32) : Prog Device Unit := do
  if ← .read fun d => d.painter.any (·.isConnected) then
    .when (mode == dpmsOn) (.modify fun d =>
      d.onPainter fun p => { p with fgConsole := d.fgConsole })
    createAndSend (.dpms mode)
  else pure ()

/-- What the driver reads of `struct drm_display_mode`, with the value of `drm_mode_vrefresh`. -/
structure DisplayMode where
  hdisplay : UInt16
  vdisplay : UInt16
  vrefresh : Int32

/-- `evdi_painter_mode_changed_notify`. -/
def painterModeChangedNotify (newMode : DisplayMode) : Prog Device Unit := do
  match ← .read fun d => d.painter.bind (·.scanoutFb) with
  | none => pure ()
  | some fb =>
    createAndSend (.modeChanged (.ofNat newMode.hdisplay.toNat) (.ofNat newMode.vdisplay.toNat)
      newMode.vrefresh (.ofNat (fb.format.cpp0.toNat * 8)) fb.format.format)
    .modify fun d => d.onPainter fun p => { p with needsFullModeset := false }

/-- `evdi_painter_needs_full_modeset`. -/
def painterNeedsFullModeset (d : Device) : Bool := d.painter.any (·.needsFullModeset)

/-- `evdi_painter_force_full_modeset`. -/
def painterForceFullModeset (d : Device) : Device :=
  d.onPainter fun p => { p with needsFullModeset := true }

/-! ### What sending a vblank event does -/

/-- The event `evdi_send_vblank` sends, with its CRTC, if it sends one. -/
def vblankPair (crtc : Option Crtc) (vblank : Option VblankEvent) : List (Crtc × VblankEvent) :=
  match crtc, vblank with
  | some c, some v => [(c, v)]
  | _, _ => []

theorem sendVblank_eq (crtc : Option Crtc) (vblank : Option VblankEvent) (d : Device) :
    sendVblank crtc vblank d =
      d.onDrm fun drm => { drm with sentVblanks := drm.sentVblanks ++ vblankPair crtc vblank } := by
  cases crtc with
  | none => simp [sendVblank, vblankPair, Device.onDrm]
  | some c => cases vblank <;> simp [sendVblank, vblankPair, Device.onDrm]

/-! ### What marking keeps -/

/-- Adding a rectangle covers it and uncovers nothing. -/
theorem covered_addDirtyRect (rects : List ClipRect) (rect : ClipRect) :
    covered rects ∪ rect.pixels ⊆ covered (addDirtyRect rects rect) := by
  have hmerge : covered rects ⊆
      covered (if rects.length = maxDirts then mergeDirtyRects rects else rects) := by
    split_ifs
    · exact covered_mergeDirtyRects rects
    · exact subset_rfl
  have hcollapse : ∀ l : List ClipRect, covered l ⊆
      covered (if l.length = maxDirts then collapseDirtyRects l else l) := by
    intro l
    split_ifs
    · exact covered_collapseDirtyRects l
    · exact subset_rfl
  simp only [addDirtyRect, Absorption.cover_append, Absorption.cover_cons, Absorption.cover_nil,
    Set.union_empty]
  exact Set.union_subset_union_left _ (hmerge.trans (hcollapse _))

theorem Painter.markDirty_scanoutFb (p : Painter) (r : ClipRect) :
    (p.markDirty r).scanoutFb = p.scanoutFb := by
  unfold Painter.markDirty
  split <;> rfl

/-- Marking covers the clipped rectangle and uncovers nothing. -/
theorem Painter.covered_markDirty {p : Painter} {fb : Framebuffer} (h : p.scanoutFb = some fb)
    (r : ClipRect) :
    covered p.dirtyRects ∪ (framebufferSanitizeRect fb.width fb.height r).pixels ⊆
      covered (p.markDirty r).dirtyRects := by
  simp only [Painter.markDirty, h]
  exact covered_addDirtyRect _ _

theorem addDirtyRect_ne_nil (rects : List ClipRect) (rect : ClipRect) :
    addDirtyRect rects rect ≠ [] := by
  simp [addDirtyRect]

end Evdi
