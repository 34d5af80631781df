import Mathlib.Data.Stream.Init
import Evdi.Model.Rect

/-!
# The state of an evdi device

The structures of the driver as it uses them: framebuffers and their GEM objects, the events sent
to the client, the cursor, the painter and the device.  Pointers to objects outside the device
(open files, CRTCs, vblank events, framebuffers, GEM objects) are numbers; a pointer that may be
`NULL` is an `Option`.

`DrmCore` is what the rest of the kernel sees and answers: the answers still to come of the event
allocator and of `drm_event_reserve_init_locked`, and the history of what the driver handed over
(events submitted, delivered, freed; vblank events sent; references taken on framebuffers and GEM
objects).  The driver never reads the history.
-/

namespace Evdi

/-! ### Error numbers and constants -/

def ENOENT : ℤ := 2
def EAGAIN : ℤ := 11
def ENOMEM : ℤ := 12
def EFAULT : ℤ := 14
def ENODEV : ℤ := 19
def EINVAL : ℤ := 22

/-- `MAX_DIRTS`. -/
def maxDirts : ℕ := 16

/-- `PAGE_SIZE`. -/
def pageSize : ℕ := 4096

/-! ### Pointers -/

/-- An open `struct drm_file`. -/
abbrev DrmFile := ℕ

/-- A `struct drm_crtc`. -/
abbrev Crtc := ℕ

/-- A `struct drm_pending_vblank_event`. -/
abbrev VblankEvent := ℕ

/-! ### Framebuffers -/

/-- What the driver reads of `struct drm_format_info`. -/
structure DrmFormatInfo where
  format : UInt32
  cpp0 : UInt8
  deriving DecidableEq

/-- A `struct evdi_gem_object`, up to what may change of it: which object it is, its size, the
owner of the dma-buf it was imported from (if it was imported, and the owner's name if it has
one), and whether its creator lets cursor moves mark only the cursor rectangles. -/
structure GemRef where
  id : ℕ
  size : ℕ
  importOwner : Option (Option String)
  allowSwCursorRectUpdates : Bool
  deriving DecidableEq

/-- A `struct evdi_framebuffer`. -/
structure Framebuffer where
  id : ℕ
  width : UInt32
  height : UInt32
  pitch0 : UInt32
  offset0 : UInt32
  format : DrmFormatInfo
  obj : GemRef
  isFromXe : Bool
  deriving DecidableEq

/-- The framebuffers the DRM core lets through: sizes within the limits set by
`evdi_modeset_init`, and rows of four-byte pixels that fit the pitch. -/
structure Framebuffer.Admitted (fb : Framebuffer) : Prop where
  width_le : fb.width.toNat ≤ 7680
  height_le : fb.height.toNat ≤ 4320
  pitch_ge : 4 * fb.width.toNat ≤ fb.pitch0.toNat

/-- The pixels of a framebuffer. -/
def Framebuffer.pixels (fb : Framebuffer) : Set Pixel :=
  {p | p.1 < fb.width.toNat ∧ p.2 < fb.height.toNat}

/-- `{0, 0, fb->width, fb->height}`. -/
def Framebuffer.fullscreenRect (fb : Framebuffer) : ClipRect where
  x1 := 0
  y1 := 0
  x2 := fb.width.toUInt16
  y2 := fb.height.toUInt16

/-! ### Events -/

/-- The output events of `evdi_drm.h`. -/
inductive Event
  | updateReady
  | dpms (mode : Int32)
  | modeChanged (hdisplay vdisplay vrefresh bitsPerPixel : Int32) (pixelFormat : UInt32)
  | cursorSet (hotX hotY : Int32) (width height : UInt32) (enabled : Bool)
      (bufferHandle bufferLength pixelFormat stride : UInt32)
  | cursorMove (x y : Int32)
  | ddcciData (buffer : List UInt8) (bufferLength : UInt32) (flags address : UInt16)
  deriving DecidableEq, Repr

/-- The `DRM_EVDI_EVENT_*` code in the header of the event. -/
def Event.type : Event → UInt32
  | .updateReady => 0x80000000
  | .dpms _ => 0x80000001
  | .modeChanged .. => 0x80000002
  | .cursorSet .. => 0x80000004
  | .cursorMove .. => 0x80000005
  | .ddcciData .. => 0x80000006

/-- An allocated `struct drm_pending_event`; `serial` tells allocations apart. -/
structure PendingEvent where
  serial : ℕ
  event : Event
  deriving DecidableEq, Repr

/-! ### The device -/

/-- `struct evdi_cursor`. -/
structure Cursor where
  enabled : Bool
  x : Int32
  y : Int32
  width : UInt32
  height : UInt32
  hotX : Int32
  hotY : Int32
  pixelFormat : UInt32
  stride : UInt32
  obj : Option GemRef
  deriving DecidableEq

/-- `struct evdi_painter`. `dirtyRects` holds the first `num_dirts` entries of `dirty_rects`. -/
structure Painter where
  isConnected : Bool
  edid : Option (List UInt8)
  edidLength : UInt32
  dirtyRects : List ClipRect
  scanoutFb : Option Framebuffer
  drmFilp : Option DrmFile
  wasUpdateRequested : Bool
  needsFullModeset : Bool
  crtc : Option Crtc
  vblank : Option VblankEvent
  pendingEvents : List PendingEvent
  sendEventsWorkPending : Bool
  ddcciResponseReceived : ℕ
  ddcciBuffer : Option (List UInt8)
  ddcciBufferLength : UInt32
  fgConsole : ℤ

/-- `painter->num_dirts`, an `int`. -/
def Painter.numDirts (p : Painter) : ℤ := p.dirtyRects.length

/-- The kernel around the driver: answers to come, and history. -/
structure DrmCore where
  kzalloc : Stream' Bool
  hasSpace : Stream' Bool
  nextSerial : ℕ
  submitted : List PendingEvent
  delivered : List PendingEvent
  freed : List PendingEvent
  sentVblanks : List (Crtc × VblankEvent)
  fbRefs : ℕ → ℤ
  gemRefs : ℕ → ℤ

/-- `struct evdi_device`, with the kernel's `fg_console`. -/
structure Device where
  painter : Option Painter
  cursor : Cursor
  cursorEventsEnabled : Bool
  pixelAreaLimit : UInt32
  pixelPerSecondLimit : UInt32
  i2cAdapter : Bool
  fgConsole : ℤ
  drm : DrmCore

/-- The cursor made by `evdi_cursor_init` (all zero). -/
def Cursor.init : Cursor :=
  ⟨false, 0, 0, 0, 0, 0, 0, 0, 0, none⟩

/-- The painter made by `evdi_painter_init`. -/
def Painter.init : Painter where
  isConnected := false
  edid := none
  edidLength := 0
  dirtyRects := []
  scanoutFb := none
  drmFilp := none
  wasUpdateRequested := false
  needsFullModeset := true
  crtc := none
  vblank := none
  pendingEvents := []
  sendEventsWorkPending := false
  ddcciResponseReceived := 0
  ddcciBuffer := none
  ddcciBufferLength := 0
  fgConsole := 0

/-- A kernel whose answers are given, with nothing handed over yet. -/
def DrmCore.init (kzalloc hasSpace : Stream' Bool) : DrmCore where
  kzalloc := kzalloc
  hasSpace := hasSpace
  nextSerial := 0
  submitted := []
  delivered := []
  freed := []
  sentVblanks := []
  fbRefs := fun _ => 0
  gemRefs := fun _ => 0

/-- The device as `evdi_drm_device_init` leaves it. -/
def Device.init (fgConsole : ℤ) (drm : DrmCore) : Device where
  painter := some Painter.init
  cursor := Cursor.init
  cursorEventsEnabled := false
  pixelAreaLimit := 0
  pixelPerSecondLimit := 0
  i2cAdapter := false
  fgConsole := fgConsole
  drm := drm

/-- Change the painter, if there is one. -/
def Device.onPainter (d : Device) (f : Painter → Painter) : Device :=
  { d with painter := d.painter.map f }

/-- Change what the kernel has seen. -/
def Device.onDrm (d : Device) (f : DrmCore → DrmCore) : Device := { d with drm := f d.drm }

section

variable (d : Device) (f : Painter → Painter) (g : DrmCore → DrmCore)

@[simp] theorem Device.onPainter_painter : (d.onPainter f).painter = d.painter.map f := rfl
@[simp] theorem Device.onPainter_drm : (d.onPainter f).drm = d.drm := rfl
@[simp] theorem Device.onPainter_cursor : (d.onPainter f).cursor = d.cursor := rfl

@[simp] theorem Device.onPainter_onPainter (f' : Painter → Painter) :
    (d.onPainter f).onPainter f' = d.onPainter fun p => f' (f p) := by
  simp [Device.onPainter, Function.comp_def]

@[simp] theorem Device.onDrm_painter : (d.onDrm g).painter = d.painter := rfl
@[simp] theorem Device.onDrm_drm : (d.onDrm g).drm = g d.drm := rfl
@[simp] theorem Device.onDrm_cursor : (d.onDrm g).cursor = d.cursor := rfl

end

/-- The rectangles pending in the painter (none without a painter). -/
def Device.dirtyRects (d : Device) : List ClipRect :=
  match d.painter with
  | some p => p.dirtyRects
  | none => []

theorem Device.dirtyRects_some {d : Device} {p : Painter} (h : d.painter = some p) :
    d.dirtyRects = p.dirtyRects := by
  rw [Device.dirtyRects, h]

end Evdi
