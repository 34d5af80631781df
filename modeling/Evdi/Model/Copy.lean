import Evdi.Foundations.Bytes
import Evdi.Foundations.Words
import Evdi.Model.Gem

/-!
# Copying pixels to the client

`copy_primary_pixels` and its variant for framebuffers imported from xe, and the composition of the
cursor, `evdi_cursor_compose_and_copy`.  The offsets are computed in 32-bit arithmetic, as in the
source: an offset into the framebuffer in `unsigned int` and then converted to `int`, an offset into
the client's buffer in `int`.
-/

namespace Evdi

open Bytes Words

/-! ### The framebuffer -/

/-- The loop over the rows of one rectangle: copy `byteSpan` bytes `n` times, moving down one row on
both sides after each. True when a user copy faulted. -/
def copyRows (mem : Memory) (pitch stride byteSpan : ℤ) :
    ℕ → ℤ → ℤ → UserRegion → UserRegion × Bool
  | 0, _, _, buffer => (buffer, false)
  | n + 1, src, dst, buffer =>
    let (buffer, fault) := copyToUser buffer dst mem src byteSpan
    if fault then (buffer, true)
    else copyRows mem pitch stride byteSpan n (src + pitch) (dst + stride) buffer

/-- `src_offset` of a rectangle. -/
def srcOffset (fb : Framebuffer) (r : ClipRect) : ℤ :=
  s32 (u32 (fb.offset0.toNat + fb.pitch0.toNat * r.y1.toNat + r.x1.toNat * 4))

/-- `dst_offset` of a rectangle. -/
def dstOffset (bufByteStride : ℤ) (r : ClipRect) : ℤ :=
  s32 (bufByteStride * r.y1.toNat + r.x1.toNat * 4)

/-- An offset into the framebuffer that fits an `int`. -/
theorem srcOffset_eq {fb : Framebuffer} {r : ClipRect}
    (h : fb.offset0.toNat + fb.pitch0.toNat * r.y1.toNat + 4 * r.x1.toNat < 2 ^ 31) :
    srcOffset fb r =
      (fb.offset0.toNat + fb.pitch0.toNat * r.y1.toNat + 4 * r.x1.toNat : ℕ) := by
  rw [mul_comm 4] at h ⊢
  rw [srcOffset, s32_u32, s32_natCast h]

/-- An offset into the client's buffer that fits an `int`. -/
theorem dstOffset_eq {stride : ℕ} {r : ClipRect} (h : stride * r.y1.toNat + 4 * r.x1.toNat < 2 ^ 31) :
    dstOffset stride r = (stride * r.y1.toNat + 4 * r.x1.toNat : ℕ) := by
  rw [mul_comm 4] at h ⊢
  rw [← s32_natCast h, dstOffset]
  push_cast
  rfl

/-- `copy_primary_pixels` for a framebuffer that is not from xe: the loop over the rectangles. -/
def copyRects (fb : Framebuffer) (mem : Memory) (bufByteStride maxX maxY : ℤ) :
    List ClipRect → UserRegion → UserRegion × ℤ
  | [], buffer => (buffer, 0)
  | r :: rects, buffer =>
    -- the rectangle's size may correspond to a previous resolution
    if maxX < r.x2.toNat ∨ maxY < r.y2.toNat then (buffer, -EFAULT)
    else
      let (buffer, fault) := copyRows mem fb.pitch0.toNat bufByteStride
        (((r.x2.toNat : ℤ) - r.x1.toNat) * 4) (r.y2.toNat - r.y1.toNat) (srcOffset fb r)
        (dstOffset bufByteStride r) buffer
      if fault then (buffer, -EFAULT)
      else copyRects fb mem bufByteStride maxX maxY rects buffer

/-- The loop of `copy_primary_pixels_on_xe`, `n` rows from row `y` on. -/
def copyRowsOnXe (fb : Framebuffer) (mem : Memory) (bufByteStride byteSpan : ℤ) :
    ℕ → ℕ → UserRegion → UserRegion × ℤ
  | 0, _, buffer => (buffer, 0)
  | n + 1, y, buffer =>
    let (buffer, fault) := copyToUser buffer (s32 (bufByteStride * y)) mem
      (s32 (u32 (fb.offset0.toNat + fb.pitch0.toNat * y))) byteSpan
    if fault then (buffer, -EFAULT)
    else copyRowsOnXe fb mem bufByteStride byteSpan n (y + 1) buffer

/-- `copy_primary_pixels_on_xe`. -/
def copyPrimaryPixelsOnXe (fb : Framebuffer) (mem : Memory) (bufByteStride maxX maxY : ℤ)
    (buffer : UserRegion) : UserRegion × ℤ :=
  copyRowsOnXe fb mem bufByteStride (s32 (maxX * 4)) maxY.toNat 0 buffer

/-- Copying rows looks at the bytes of those rows only. -/
theorem copyRows_congr {m m' : Memory} {pitch stride byteSpan : ℤ} (n : ℕ) {src dst : ℤ}
    {buffer : UserRegion} (h : ∀ k < n, ∀ i, 0 ≤ i → i < byteSpan →
      m (src + pitch * (k : ℕ) + i) = m' (src + pitch * (k : ℕ) + i)) :
    copyRows m pitch stride byteSpan n src dst buffer =
      copyRows m' pitch stride byteSpan n src dst buffer := by
  induction n generalizing src dst buffer with
  | zero => rfl
  | succ n ih =>
    have hrow : copyToUser buffer dst m src byteSpan = copyToUser buffer dst m' src byteSpan :=
      copyToUser_congr fun i hi hin => by simpa using h 0 (by omega) i hi hin
    rw [copyRows, copyRows, hrow]
    have hrest : ∀ buffer, copyRows m pitch stride byteSpan n (src + pitch) (dst + stride) buffer =
        copyRows m' pitch stride byteSpan n (src + pitch) (dst + stride) buffer := by
      intro buffer
      refine ih fun k hk i hi hin => ?_
      have hnext := h (k + 1) (by omega) i hi hin
      have haddr : src + pitch * ((k + 1 : ℕ) : ℤ) + i = src + pitch + pitch * (k : ℕ) + i := by
        push_cast
        ring
      rwa [haddr] at hnext
    dsimp only
    split_ifs
    · rfl
    · exact hrest _

/-- `copy_primary_pixels`. -/
def copyPrimaryPixels (fb : Framebuffer) (mem : Memory) (buffer : UserRegion)
    (bufByteStride : ℤ) (rects : List ClipRect) (maxX maxY : ℤ) : UserRegion × ℤ :=
  if fb.isFromXe then copyPrimaryPixelsOnXe fb mem bufByteStride maxX maxY buffer
  else copyRects fb mem bufByteStride maxX maxY rects buffer

/-! ### The cursor -/

/-- `evdi_fb_get_bpp`, where `drmFormatInfo` is the format table of the DRM core. -/
def fbGetBpp (drmFormatInfo : UInt32 → Option DrmFormatInfo) (format : UInt32) : ℕ :=
  match drmFormatInfo format with
  | some info => info.cpp0.toNat * 8
  | none => 0

/-- `blend_component`, in `uint32_t`. -/
def blendComponent (pixel blend alpha : UInt32) : UInt32 :=
  let preBlend := pixel * (255 - alpha) + blend * alpha
  (preBlend + ((preBlend + 1) <<< 8)) >>> 16

/-- `blend_alpha`. -/
def blendAlpha (pixelVal32 blendVal32 : UInt32) : UInt32 :=
  let alpha := blendVal32 >>> 24
  blendComponent (pixelVal32 &&& 0xff) (blendVal32 &&& 0xff) alpha |||
    blendComponent ((pixelVal32 &&& 0xff00) >>> 8) ((blendVal32 &&& 0xff00) >>> 8) alpha <<< 8 |||
    blendComponent ((pixelVal32 &&& 0xff0000) >>> 16) ((blendVal32 &&& 0xff0000) >>> 16) alpha
      <<< 16

/-- The little-endian word at an address. -/
def wordAt (mem : Memory) (a : ℤ) : UInt32 :=
  UInt32.ofNat (ofLe [mem a, mem (a + 1), mem (a + 2), mem (a + 3)])

/-- The bytes of a word, at addresses `0 … 3`. -/
def wordBytes (w : UInt32) : Memory := fun a => (le 4 w.toNat).getD a.toNat 0

/-- The client's view of one composed pixel: `evdi_cursor_compose_pixel` at loop position `(x, y)`,
or nothing when the position is not on the framebuffer. -/
def composePixel (cursor : Cursor) (cursorMem : Memory) (fb : Framebuffer) (mem : Memory)
    (bufByteStride : ℤ) (bytespp : ℕ) (x y : ℤ) (buffer : UserRegion) : UserRegion × Bool :=
  let hCursorW : ℤ := (cursor.width.toNat / 2 : ℕ)
  let hCursorH : ℤ := (cursor.height.toNat / 2 : ℕ)
  let mousePixX := s32 (cursor.x.toInt + x + hCursorW)
  let mousePixY := s32 (cursor.y.toInt + y + hCursorH)
  if mousePixX ≥ 0 ∧ mousePixY ≥ 0 ∧ mousePixX < s32 fb.width.toNat ∧
      mousePixY < s32 fb.height.toNat then
    let cursorPix := s32 (hCursorW + x + (hCursorH + y) * cursor.width.toNat)
    let cursVal := wordAt cursorMem (4 * cursorPix)
    let fbIndex := u32 (fb.pitch0.toNat / 4 * mousePixY.toNat + mousePixX.toNat)
    let fbValue := wordAt mem (fb.offset0.toNat + 4 * (fbIndex : ℤ))
    let cmdOffset := s32 (bufByteStride * mousePixY + mousePixX * bytespp)
    copyToUser buffer cmdOffset (wordBytes (blendAlpha fbValue cursVal)) 0 4
  else (buffer, false)

/-- One of the two nested loops, over the positions of `xs` in order. -/
def composeLoop (body : ℤ → UserRegion → UserRegion × Bool) :
    List ℤ → UserRegion → UserRegion × Bool
  | [], buffer => (buffer, false)
  | x :: xs, buffer =>
    let (buffer, fault) := body x buffer
    if fault then (buffer, true) else composeLoop body xs buffer

/-- The positions `-h, …, h - 1`. -/
def halfRange (h : ℕ) : List ℤ := (List.range (2 * h)).map fun i : ℕ => (i : ℤ) - h

/-- `evdi_cursor_compose_and_copy`. `cursorObj` is the state of the cursor's GEM object. -/
def cursorComposeAndCopy (drmFormatInfo : UInt32 → Option DrmFormatInfo) (cursor : Cursor)
    (cursorObj : GemObject) (fb : Framebuffer) (mem : Memory) (buffer : UserRegion)
    (bufByteStride : ℤ) : UserRegion × ℤ :=
  let bytespp := (fbGetBpp drmFormatInfo cursor.pixelFormat + 7) / 8
  if !cursor.enabled then (buffer, 0)
  else match cursor.obj with
  | none => (buffer, -EINVAL)
  | some obj =>
    if !cursorObj.vmapped then (buffer, -EINVAL)
    else if bytespp ≠ 4 then (buffer, -EINVAL)
    else if (cursor.width * cursor.height * UInt32.ofNat bytespp).toNat > obj.size then
      (buffer, -EINVAL)
    else
      let row := fun y => composeLoop
        (fun x => composePixel cursor cursorObj.memory fb mem bufByteStride bytespp x y)
        (halfRange (cursor.width.toNat / 2))
      let (buffer, fault) := composeLoop row (halfRange (cursor.height.toNat / 2)) buffer
      (buffer, if fault then -EFAULT else 0)

end Evdi
