import Evdi.Foundations.Retry
import Evdi.Model.Grabpix

/-!
# The client library: grabbing

`evdi_grab_pixels` of `evdi_lib.c`, with its retry loop around the request.  The kernel copies the
structure of a request back whatever its result, so each call finds `num_rects` as the last one left it.
-/

namespace Evdi

open Retry

def EINTR : ℤ := 4

/-- What the library reads of a registered `struct evdi_buffer`. -/
structure EvdiBuffer where
  id : Int32
  buffer : UInt64
  width : Int32
  height : Int32
  stride : Int32

/-- `struct evdi_device_context`, with its list of buffers. -/
structure EvdiDeviceContext where
  bufferToUpdate : Int32
  frameBuffers : List EvdiBuffer

/-- `findBuffer`. -/
def findBuffer (context : EvdiDeviceContext) (id : Int32) : Option EvdiBuffer :=
  context.frameBuffers.find? (·.id == id)

/-- The loop condition of the library's `drm_ioctl`: `errno` is `EINTR` or `EAGAIN`. -/
def ioctlAgain (ret : ℤ) : Bool := ret == -EINTR || ret == -EAGAIN

/-- What a `GRABPIX` request works on: the device, the structure, and what this call and those after it
find. -/
structure GrabRequest where
  device : Device
  grab : GrabpixCmd
  envs : Stream' GrabEnv

/-- `ioctl(fd, DRM_IOCTL_EVDI_GRABPIX, &grab)`: its result, and the rectangles it has written. -/
def GrabRequest.ioctl (s : GrabRequest) : GrabRequest × ℤ × List ClipRect :=
  let (d, grab, ret, out) := painterGrabpixIoctl s.envs.head s.grab s.device
  (⟨d, grab, s.envs.tail⟩, ret, out.elim [] (·.rects))

/-- The structure `evdi_grab_pixels` makes, where `kernelDirts` is its array of rectangles. -/
def EvdiBuffer.grab (b : EvdiBuffer) (kernelDirts : UInt64) : GrabpixCmd where
  mode := grabpixModeDirty
  bufWidth := b.width
  bufHeight := b.height
  bufByteStride := b.stride
  buffer := b.buffer
  numRects := .ofNat maxDirts
  rects := kernelDirts

/-- What `evdi_grab_pixels` leaves: the device, the rectangles it has filled in, and `*num_rects`. -/
structure GrabResult where
  device : Device
  rects : List ClipRect
  numRects : Int32

/-- The end of `evdi_grab_pixels`. The array `kernelDirts` was all zero. -/
def grabResult (s : GrabRequest) (ret : ℤ) (written : List ClipRect) : GrabResult :=
  if ret = 0 then
    { device := s.device
      rects := (List.range s.grab.numRects.toInt.toNat).map fun r => written.getD r ⟨0, 0, 0, 0⟩
      numRects := s.grab.numRects }
  else ⟨s.device, [], 0⟩

/-- `evdi_grab_pixels`, given up after `n` calls. -/
def evdiGrabPixels (n : ℕ) (context : EvdiDeviceContext) (kernelDirts : UInt64)
    (envs : Stream' GrabEnv) (d : Device) : Option GrabResult :=
  match findBuffer context context.bufferToUpdate with
  | none => some ⟨d, [], 0⟩
  | some b =>
    (retry (fun r => ioctlAgain r.1) GrabRequest.ioctl n ⟨d, b.grab kernelDirts, envs⟩).map
      fun r => grabResult r.1 r.2.1 r.2.2

end Evdi
