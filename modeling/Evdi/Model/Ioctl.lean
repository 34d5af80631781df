import Evdi.Foundations.Words
import Evdi.Model.Grabpix

/-!
# Requests as bytes

How a request reaches its handler: through `drm_ioctl`, with the native layout of its structure, or
from a 32-bit process through `evdi_compat_ioctl`.  A handler works on the kernel's copy of the
structure, of which only `GRABPIX` changes a field, `num_rects`.

`Request32` is what a 32-bit process asks for; `fields64` and `fields32` are the two layouts of its
structure, with the padding.
-/

namespace Evdi

open Bytes Words

/-! ### Requests -/

/-- The driver's requests, `DRM_EVDI_*` of `evdi_drm.h`. -/
inductive IoctlNr
  | connect
  | requestUpdate
  | grabpix
  | ddcciResponse
  | enableCursorEvents
  deriving DecidableEq

/-- The size of the structure of a request. -/
def IoctlNr.size : IoctlNr → ℕ
  | .connect => 32
  | .requestUpdate => 4
  | .grabpix => 40
  | .ddcciResponse => 16
  | .enableCursorEvents => 12

/-- The same with pointers of four bytes. -/
def IoctlNr.size32 : IoctlNr → ℕ
  | .connect => 24
  | .requestUpdate => 4
  | .grabpix => 28
  | .ddcciResponse => 12
  | .enableCursorEvents => 12

/-- What a handler is called with. -/
inductive Request
  | connect (cmd : ConnectCmd)
  | requestUpdate
  | grabpix (cmd : GrabpixCmd)
  | ddcciResponse (cmd : DdcciResponseCmd)
  | enableCursorEvents (cmd : EnableCursorEventsCmd)
  deriving DecidableEq

/-- A signed field of four bytes. -/
def int32Field (bs : List UInt8) (offset : ℕ) : Int32 := (UInt32.ofNat (field bs offset 4)).toInt32

/-- `struct drm_evdi_connect`. -/
def ConnectCmd.ofBytes (bs : List UInt8) : ConnectCmd where
  connected := int32Field bs 0
  devIndex := int32Field bs 4
  edid := .ofNat (field bs 8 8)
  edidLength := .ofNat (field bs 16 4)
  pixelAreaLimit := .ofNat (field bs 20 4)
  pixelPerSecondLimit := .ofNat (field bs 24 4)

/-- `struct drm_evdi_grabpix`. -/
def GrabpixCmd.ofBytes (bs : List UInt8) : GrabpixCmd where
  mode := .ofNat (field bs 0 4)
  bufWidth := int32Field bs 4
  bufHeight := int32Field bs 8
  bufByteStride := int32Field bs 12
  buffer := .ofNat (field bs 16 8)
  numRects := int32Field bs 24
  rects := .ofNat (field bs 32 8)

/-- `struct drm_evdi_ddcci_response`. -/
def DdcciResponseCmd.ofBytes (bs : List UInt8) : DdcciResponseCmd where
  buffer := .ofNat (field bs 0 8)
  bufferLength := .ofNat (field bs 8 4)
  result := .ofNat (field bs 12 1)

/-- `struct drm_evdi_enable_cursor_events`. -/
def EnableCursorEventsCmd.ofBytes (bs : List UInt8) : EnableCursorEventsCmd where
  enable := .ofNat (field bs 8 1)

/-- The structure a handler reads in the kernel's copy. -/
def IoctlNr.decode : IoctlNr → List UInt8 → Request
  | .connect, bs => .connect (.ofBytes bs)
  | .requestUpdate, _ => .requestUpdate
  | .grabpix, bs => .grabpix (.ofBytes bs)
  | .ddcciResponse, bs => .ddcciResponse (.ofBytes bs)
  | .enableCursorEvents, bs => .enableCursorEvents (.ofBytes bs)

/-- What a call finds outside the device: the caller's open file, the answers of the kernel, and in
`grab` the caller's memory around each of its pointers. -/
structure IoctlEnv where
  file : DrmFile
  connect : ConnectAnswers
  kzalloc : Bool
  grab : GrabEnv

/-- `evdi_painter_ioctls`, run by `drm_ioctl_kernel`: the device, the structure after the call, and the
result. -/
def Request.handle (env : IoctlEnv) : Request → Device → Device × Request × ℤ
  | .connect cmd, d =>
    let (d, ret) := painterConnectIoctl env.grab.user env.connect cmd env.file d
    (d, .connect cmd, ret)
  | .requestUpdate, d =>
    let (d, ret) := painterRequestUpdateIoctl d
    (d, .requestUpdate, ret)
  | .grabpix cmd, d =>
    let (d, cmd, ret, _) := painterGrabpixIoctl env.grab cmd d
    (d, .grabpix cmd, ret)
  | .ddcciResponse cmd, d =>
    let (d, ret) := painterDdcciResponseIoctl env.grab.user env.kzalloc cmd d
    (d, .ddcciResponse cmd, ret)
  | .enableCursorEvents cmd, d =>
    let (d, ret) := painterEnableCursorEventsIoctl cmd d
    (d, .enableCursorEvents cmd, ret)

/-- The field a handler writes, in the kernel's copy of the structure. -/
def Request.store : Request → List UInt8 → List UInt8
  | .grabpix cmd, bs => patch bs 24 (le 4 cmd.numRects.toUInt32.toNat)
  | _, bs => bs

/-! ### The two paths -/

/-- What a call leaves: the device, its result, what the handler was called with, if it was, and the
caller's memory around the argument. -/
structure IoctlOutcome where
  device : Device
  ret : ℤ
  handled : Option Request
  arg : UserRegion

/-- `drm_ioctl` of the DRM core, for a request whose structure has `usize` bytes in the caller's
memory: they are copied in and extended with zeros, and copied out again whatever the result. -/
def drmIoctl (env : IoctlEnv) (nr : IoctlNr) (usize : ℕ) (arg : UserRegion) (d : Device) :
    IoctlOutcome :=
  match copyFromUser arg usize with
  | none => ⟨d, -EFAULT, none, arg⟩
  | some bytes =>
    let kdata := bytes ++ List.replicate (nr.size - usize) 0
    let (d, req, ret) := (nr.decode kdata).handle env d
    let (arg, fault) := copyToUser arg 0 (ofList (req.store kdata)) 0 usize
    ⟨d, if fault then -EFAULT else ret, some (nr.decode kdata), arg⟩

/-- `struct drm_evdi_connect32`. -/
structure Connect32 where
  connected : Int32
  devIndex : Int32
  edidPtr32 : UInt32
  edidLength : UInt32
  pixelAreaLimit : UInt32
  pixelPerSecondLimit : UInt32

/-- `struct drm_evdi_grabpix32`. -/
structure Grabpix32 where
  mode : UInt32
  bufWidth : Int32
  bufHeight : Int32
  bufByteStride : Int32
  bufferPtr32 : UInt32
  numRects : Int32
  rectsPtr32 : UInt32

def Connect32.ofBytes (bs : List UInt8) : Connect32 where
  connected := int32Field bs 0
  devIndex := int32Field bs 4
  edidPtr32 := .ofNat (field bs 8 4)
  edidLength := .ofNat (field bs 12 4)
  pixelAreaLimit := .ofNat (field bs 16 4)
  pixelPerSecondLimit := .ofNat (field bs 20 4)

def Grabpix32.ofBytes (bs : List UInt8) : Grabpix32 where
  mode := .ofNat (field bs 0 4)
  bufWidth := int32Field bs 4
  bufHeight := int32Field bs 8
  bufByteStride := int32Field bs 12
  bufferPtr32 := .ofNat (field bs 16 4)
  numRects := int32Field bs 20
  rectsPtr32 := .ofNat (field bs 24 4)

/-- `compat_ptr`. -/
def compatPtr (uptr : UInt32) : UInt64 := uptr.toUInt64

/-- The `krequest` of `compat_evdi_connect`. -/
def Connect32.krequest (req32 : Connect32) : ConnectCmd where
  connected := req32.connected
  devIndex := req32.devIndex
  edid := compatPtr req32.edidPtr32
  edidLength := req32.edidLength
  pixelAreaLimit := req32.pixelAreaLimit
  pixelPerSecondLimit := req32.pixelPerSecondLimit

/-- The `krequest` of `compat_evdi_grabpix`. -/
def Grabpix32.krequest (req32 : Grabpix32) : GrabpixCmd where
  mode := req32.mode
  bufWidth := req32.bufWidth
  bufHeight := req32.bufHeight
  bufByteStride := req32.bufByteStride
  buffer := compatPtr req32.bufferPtr32
  numRects := req32.numRects
  rects := compatPtr req32.rectsPtr32

/-- `compat_evdi_connect`. -/
def compatEvdiConnect (env : IoctlEnv) (arg : UserRegion) (d : Device) : IoctlOutcome :=
  match copyFromUser arg IoctlNr.connect.size32 with
  | none => ⟨d, -EFAULT, none, arg⟩
  | some bytes =>
    let krequest := Request.connect (Connect32.ofBytes bytes).krequest
    let (d, _, ret) := krequest.handle env d
    ⟨d, ret, some krequest, arg⟩

/-- `compat_evdi_grabpix`. -/
def compatEvdiGrabpix (env : IoctlEnv) (arg : UserRegion) (d : Device) : IoctlOutcome :=
  match copyFromUser arg IoctlNr.grabpix.size32 with
  | none => ⟨d, -EFAULT, none, arg⟩
  | some bytes =>
    let krequest := (Grabpix32.ofBytes bytes).krequest
    let (d, cmd, ret, _) := painterGrabpixIoctl env.grab krequest d
    if ret ≠ 0 then ⟨d, ret, some (.grabpix krequest), arg⟩
    else
      let req32 := patch bytes 20 (le 4 cmd.numRects.toUInt32.toNat)
      let (arg, fault) := copyToUser arg 0 (ofList req32) 0 IoctlNr.grabpix.size32
      ⟨d, if fault then -EFAULT else 0, some (.grabpix krequest), arg⟩

/-- `evdi_compat_ioctl`, with the entries of `evdi_compat_ioctls`. -/
def evdiCompatIoctl (env : IoctlEnv) (nr : IoctlNr) (arg : UserRegion) (d : Device) :
    IoctlOutcome :=
  match nr with
  | .connect => compatEvdiConnect env arg d
  | .grabpix => compatEvdiGrabpix env arg d
  | nr => drmIoctl env nr nr.size32 arg d

/-! ### What a 32-bit process asks for -/

/-- A request with all that its structure holds: `reserved` and `base` are read by nobody. -/
inductive Request32
  | connect (req : Connect32)
  | requestUpdate (reserved : UInt32)
  | grabpix (req : Grabpix32)
  | ddcciResponse (buffer bufferLength : UInt32) (result : UInt8)
  | enableCursorEvents (base : UInt64) (enable : UInt8)

def Request32.nr : Request32 → IoctlNr
  | .connect _ => .connect
  | .requestUpdate _ => .requestUpdate
  | .grabpix _ => .grabpix
  | .ddcciResponse .. => .ddcciResponse
  | .enableCursorEvents .. => .enableCursorEvents

/-- The request with its pointers extended. -/
def Request32.request : Request32 → Request
  | .connect req => .connect req.krequest
  | .requestUpdate _ => .requestUpdate
  | .grabpix req => .grabpix req.krequest
  | .ddcciResponse buffer bufferLength result =>
    .ddcciResponse ⟨compatPtr buffer, bufferLength, result⟩
  | .enableCursorEvents _ enable => .enableCursorEvents ⟨enable⟩

/-- The layout with pointers of eight bytes, where the padding holds `pad`. -/
def Request32.fields64 (pad : ℕ) : Request32 → List (ℕ × ℕ)
  | .connect req =>
    [(4, req.connected.toUInt32.toNat), (4, req.devIndex.toUInt32.toNat),
      (8, (compatPtr req.edidPtr32).toNat), (4, req.edidLength.toNat),
      (4, req.pixelAreaLimit.toNat), (4, req.pixelPerSecondLimit.toNat), (4, pad)]
  | .requestUpdate reserved => [(4, reserved.toNat)]
  | .grabpix req =>
    [(4, req.mode.toNat), (4, req.bufWidth.toUInt32.toNat), (4, req.bufHeight.toUInt32.toNat),
      (4, req.bufByteStride.toUInt32.toNat), (8, (compatPtr req.bufferPtr32).toNat),
      (4, req.numRects.toUInt32.toNat), (4, pad), (8, (compatPtr req.rectsPtr32).toNat)]
  | .ddcciResponse buffer bufferLength result =>
    [(8, (compatPtr buffer).toNat), (4, bufferLength.toNat), (1, result.toNat), (3, pad)]
  | .enableCursorEvents base enable => [(8, base.toNat), (1, enable.toNat), (3, pad)]

/-- The layout with pointers of four bytes. -/
def Request32.fields32 (pad : ℕ) : Request32 → List (ℕ × ℕ)
  | .connect req =>
    [(4, req.connected.toUInt32.toNat), (4, req.devIndex.toUInt32.toNat),
      (4, req.edidPtr32.toNat), (4, req.edidLength.toNat),
      (4, req.pixelAreaLimit.toNat), (4, req.pixelPerSecondLimit.toNat)]
  | .requestUpdate reserved => [(4, reserved.toNat)]
  | .grabpix req =>
    [(4, req.mode.toNat), (4, req.bufWidth.toUInt32.toNat), (4, req.bufHeight.toUInt32.toNat),
      (4, req.bufByteStride.toUInt32.toNat), (4, req.bufferPtr32.toNat),
      (4, req.numRects.toUInt32.toNat), (4, req.rectsPtr32.toNat)]
  | .ddcciResponse buffer bufferLength result =>
    [(4, buffer.toNat), (4, bufferLength.toNat), (1, result.toNat), (3, pad)]
  | .enableCursorEvents base enable => [(8, base.toNat), (1, enable.toNat), (3, pad)]

/-- The call of a 64-bit process. -/
def Request32.nativeIoctl (req : Request32) (pad : ℕ) (env : IoctlEnv) (d : Device) : IoctlOutcome :=
  drmIoctl env req.nr req.nr.size (.ofList (pack (req.fields64 pad))) d

/-- The call of a 32-bit process. -/
def Request32.compatIoctl (req : Request32) (pad : ℕ) (env : IoctlEnv) (d : Device) : IoctlOutcome :=
  evdiCompatIoctl env req.nr (.ofList (pack (req.fields32 pad))) d

/-! ### Reading back what was laid out -/

theorem length_fields64 (req : Request32) (pad : ℕ) :
    (pack (req.fields64 pad)).length = req.nr.size := by
  cases req <;> simp [Request32.fields64, Request32.nr, IoctlNr.size]

theorem length_fields32 (req : Request32) (pad : ℕ) :
    (pack (req.fields32 pad)).length = req.nr.size32 := by
  cases req <;> simp [Request32.fields32, Request32.nr, IoctlNr.size32]

/-- The native layout is read as it is meant. -/
theorem decode_fields64 (req : Request32) (pad : ℕ) :
    req.nr.decode (pack (req.fields64 pad)) = req.request := by
  cases req with
  | connect req =>
    simp [Request32.nr, IoctlNr.decode, Request32.request, ConnectCmd.ofBytes, Connect32.krequest,
      Request32.fields64, int32Field, field_le, field_of_le]
  | requestUpdate reserved => rfl
  | grabpix req =>
    simp [Request32.nr, IoctlNr.decode, Request32.request, GrabpixCmd.ofBytes, Grabpix32.krequest,
      Request32.fields64, int32Field, field_le, field_le_self, field_of_le]
  | ddcciResponse buffer bufferLength result =>
    simp [Request32.nr, IoctlNr.decode, Request32.request, DdcciResponseCmd.ofBytes,
      Request32.fields64, field_le, field_of_le]
  | enableCursorEvents base enable =>
    simp [Request32.nr, IoctlNr.decode, Request32.request, EnableCursorEventsCmd.ofBytes,
      Request32.fields64, field_le, field_of_le]

theorem ofBytes_fields32_connect (req : Connect32) (pad : ℕ) :
    Connect32.ofBytes (pack (Request32.fields32 pad (.connect req))) = req := by
  simp [Connect32.ofBytes, Request32.fields32, int32Field, field_le, field_le_self, field_of_le]

theorem ofBytes_fields32_grabpix (req : Grabpix32) (pad : ℕ) :
    Grabpix32.ofBytes (pack (Request32.fields32 pad (.grabpix req))) = req := by
  simp [Grabpix32.ofBytes, Request32.fields32, int32Field, field_le, field_le_self, field_of_le]

/-- A `DDCCI_RESPONSE` of a 32-bit process is read with its fields shifted: the length as the upper half
of the pointer, and the result and the padding as the length. -/
theorem decode_fields32_ddcciResponse (buffer bufferLength : UInt32) (result : UInt8) (pad : ℕ) :
    IoctlNr.ddcciResponse.decode
      (pack (Request32.fields32 pad (.ddcciResponse buffer bufferLength result)) ++
        List.replicate 4 0) =
    .ddcciResponse ⟨compatPtr buffer + 4294967296 * bufferLength.toUInt64,
      result.toUInt32 + 256 * .ofNat pad, 0⟩ := by
  have hpointer := le_append (m := 4) (n := 4) (w := bufferLength.toNat) buffer.toNat_lt
  have hlength := le_append (m := 1) (n := 3) (w := pad) result.toNat_lt
  have hbytes : pack (Request32.fields32 pad (.ddcciResponse buffer bufferLength result)) ++
      List.replicate 4 0 = le 8 (buffer.toNat + 256 ^ 4 * bufferLength.toNat) ++
        (le 4 (result.toNat + 256 ^ 1 * pad) ++ le 4 0) := by
    rw [le_zero, ← hpointer, ← hlength]
    simp [Request32.fields32]
  have hresult : field (le 4 0) 0 1 = 0 := by decide
  have hword : ∀ n, UInt32.ofNat (n % 4294967296) = .ofNat n := fun n =>
    UInt32.toNat.inj (by simp)
  have hlong : ∀ n, UInt64.ofNat (n % 18446744073709551616) = .ofNat n := fun n =>
    UInt64.toNat.inj (by simp)
  rw [hbytes]
  simp [IoctlNr.decode, DdcciResponseCmd.ofBytes, compatPtr, field_le, field_of_le, hresult, hword,
    hlong]

end Evdi
