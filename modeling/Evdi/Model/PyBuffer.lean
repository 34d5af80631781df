import Evdi.Model.Dispatch

/-!
# The buffers of the Python client

`Buffer::Buffer` of `pyevdi/Buffer.cpp`.  The rows are 64 pixels wide or a multiple of that, in `int`; the
bytes to allocate are counted in `size_t`.  `calloc` does not fail.
-/

namespace Evdi

/-- `class Buffer`, with the address that `calloc` has given it. -/
structure PyBuffer where
  buffer : EvdiBuffer
  rectCount : Int32
  bytesPerPixel : UInt64
  bufferSize : UInt64

/-- `pitch_mask`. -/
def pitchMask : Int32 := 63

/-- The bytes from one row to the next. -/
def paddedStride (width : Int32) : Int32 := ((width + pitchMask) &&& ~~~pitchMask) * 4

/-- `Buffer::Buffer`; `id` is what `numerator` was. -/
def PyBuffer.make (mode : EvdiMode) (id : Int32) (address : UInt64) : PyBuffer :=
  let bytesPerPixel := (mode.bitsPerPixel / 8).toInt64.toUInt64
  { buffer := ⟨id, address, mode.width, mode.height, paddedStride mode.width⟩
    rectCount := 16
    bytesPerPixel
    bufferSize := (mode.width * mode.height).toInt64.toUInt64 * bytesPerPixel }

end Evdi
