import Evdi.Model.PyBuffer
import Evdi.Properties.PlainCopy

/-!
# The size of the Python client's buffers

The constructor pads the rows to 64 pixels, and allocates as many bytes as the pixels of the mode take
without the padding.

* `PyBuffer.HoldsGrabs`: the allocation has every byte at the offsets that the copies and the cursor
  compute for a screen of the buffer's size;
* `holdsGrabs_iff`: for which modes it does;
* `PyBuffer.HoldsGrabs.grab`: then a grab changes no byte outside the allocation.
-/

namespace Evdi

open Bytes Overwrite Words

/-! ### The constructor's arithmetic -/

/-- An `int32_t` that is not negative is its 32 bits. -/
theorem toNat_of_toInt {x : Int32} {n : ℕ} (h : x.toInt = n) : x.toBitVec.toNat = n := by
  have hcond := x.toBitVec.toInt_eq_toNat_cond
  have hlt := x.toBitVec.isLt
  rw [Int32.toInt_toBitVec] at hcond
  split_ifs at hcond <;> omega

/-- A width rounded up to 64 pixels, of four bytes each. -/
theorem paddedStride_toInt {width : Int32} {w : ℕ} (hw : width.toInt = w)
    (hfits : 256 * ((w + 63) / 64) < 2 ^ 31) :
    (paddedStride width).toInt = (256 * ((w + 63) / 64) : ℕ) := by
  have hmask : pitchMask.toBitVec.toNat = 63 := by decide
  have hnotMask : (~~~pitchMask).toBitVec.toNat = 2 ^ 32 - 2 ^ 6 := by decide
  have hfour : (4 : Int32).toBitVec.toNat = 4 := by decide
  have hsum : (width + pitchMask).toBitVec.toNat = w + 63 := by
    rw [Int32.toBitVec_add, BitVec.toNat_add, toNat_of_toInt hw, hmask]
    omega
  have hpadded : ((width + pitchMask) &&& ~~~pitchMask).toBitVec.toNat = (w + 63) / 64 * 64 := by
    rw [Int32.toBitVec_and, BitVec.toNat_and, hsum, hnotMask,
      and_highMask (by norm_num) (by omega)]
    norm_num
  have hstride : (paddedStride width).toBitVec.toNat = 256 * ((w + 63) / 64) := by
    rw [paddedStride, Int32.toBitVec_mul, BitVec.toNat_mul, hpadded, hfour]
    omega
  rw [← Int32.toInt_toBitVec, BitVec.toInt_eq_toNat_of_lt (by omega), hstride]

/-- The bytes allocated. -/
theorem bufferSize_make {mode : EvdiMode} {w h : ℕ} (hw : mode.width.toInt = w)
    (hh : mode.height.toInt = h) (hbpp : mode.bitsPerPixel = 32) (hsize : 4 * (w * h) < 2 ^ 31)
    (id : Int32) (address : UInt64) :
    (PyBuffer.make mode id address).bufferSize.toNat = 4 * (w * h) := by
  have hbytes : (mode.bitsPerPixel / 8).toInt64.toUInt64 = 4 := by
    rw [hbpp]
    decide
  have harea : (mode.width * mode.height).toInt = (w * h : ℕ) := by
    rw [Int32.toInt_mul, hw, hh, ← Nat.cast_mul]
    exact s32_natCast (by omega)
  have hpixels : (mode.width * mode.height).toInt64.toUInt64.toNat = w * h := by
    have hcond := (mode.width * mode.height).toInt64.toBitVec.toInt_eq_toNat_cond
    have hlt := (mode.width * mode.height).toInt64.toBitVec.isLt
    rw [Int64.toInt_toBitVec, Int32.toInt_toInt64, harea] at hcond
    show (mode.width * mode.height).toInt64.toBitVec.toNat = _
    split_ifs at hcond <;> omega
  have hfour : UInt64.toNat 4 = 4 := rfl
  rw [PyBuffer.make, hbytes, UInt64.toNat_mul, hpixels, hfour]
  omega

/-! ### What a grab writes to -/

/-- The byte at the offset is allocated. -/
def PyBuffer.Has (b : PyBuffer) (offset : ℤ) : Prop := 0 ≤ offset ∧ offset < b.bufferSize.toNat

/-- The pixel is in the buffer's size. -/
def PyBuffer.InSize (b : PyBuffer) (p : Pixel) : Prop :=
  (p.1 : ℤ) < b.buffer.width.toInt ∧ (p.2 : ℤ) < b.buffer.height.toInt

/-- Every byte that is written for a screen of the buffer's size is allocated: by `copy_primary_pixels`
for a rectangle, by its variant for xe, and by the composition of the cursor. -/
structure PyBuffer.HoldsGrabs (b : PyBuffer) : Prop where
  rect : ∀ r : ClipRect, (r.x2.toNat : ℤ) ≤ b.buffer.width.toInt →
    (r.y2.toNat : ℤ) ≤ b.buffer.height.toInt → ∀ p ∈ r.pixels, ∀ k : ℕ, k < 4 →
    b.Has (dstOffset b.buffer.stride.toInt r + b.buffer.stride.toInt * (p.2 - r.y1.toNat) +
      (4 * (p.1 - r.x1.toNat) + k))
  xe : ∀ p, b.InSize p → ∀ k : ℕ, k < 4 →
    b.Has (s32 (b.buffer.stride.toInt * p.2) + (4 * p.1 + k))
  cursor : ∀ p, b.InSize p → ∀ k : ℕ, k < 4 →
    b.Has (s32 (b.buffer.stride.toInt * p.2 + p.1 * 4) + k)

/-- Where no pixel ends behind the allocation, no offset wraps. -/
theorem holdsGrabs_of_ends {b : PyBuffer} (hsize : b.bufferSize.toNat < 2 ^ 31)
    (hends : ∀ p, b.InSize p → 0 ≤ b.buffer.stride.toInt * p.2 ∧
      b.buffer.stride.toInt * p.2 + (4 * p.1 + 4) ≤ b.bufferSize.toNat) : b.HoldsGrabs where
  rect := by
    intro r hx hy p hp k hk
    rw [ClipRect.mem_pixels] at hp
    -- the rectangle is not empty, so its first pixel is on the screen too
    have hfirst := hends (r.x1.toNat, r.y1.toNat) ⟨by dsimp only; omega, by dsimp only; omega⟩
    have hend := hends p ⟨by omega, by omega⟩
    dsimp only at hfirst
    have hoffset : dstOffset b.buffer.stride.toInt r =
        b.buffer.stride.toInt * r.y1.toNat + r.x1.toNat * 4 :=
      s32_of_bounds (by omega) (by omega)
    have hsum : dstOffset b.buffer.stride.toInt r +
        b.buffer.stride.toInt * (p.2 - r.y1.toNat) + (4 * (p.1 - r.x1.toNat) + k) =
        b.buffer.stride.toInt * p.2 + (4 * p.1 + k) := by
      rw [hoffset]
      ring
    rw [hsum]
    exact ⟨by omega, by omega⟩
  xe := by
    intro p hp k hk
    have hend := hends p hp
    rw [s32_of_bounds (by omega) (by omega)]
    exact ⟨by omega, by omega⟩
  cursor := by
    intro p hp k hk
    have hend := hends p hp
    rw [s32_of_bounds (by omega) (by omega)]
    exact ⟨by omega, by omega⟩

/-- Where a sequence first exceeds a bound. -/
theorem exists_crossing {f : ℕ → ℕ} {bound n : ℕ} (hzero : f 0 ≤ bound) (hn : bound < f n) :
    ∃ y < n, f y ≤ bound ∧ bound < f (y + 1) := by
  induction n with
  | zero => omega
  | succ n ih =>
    rcases lt_or_ge bound (f n) with hlt | hge
    · obtain ⟨y, hy, hcross⟩ := ih hlt
      exact ⟨y, by omega, hcross⟩
    · exact ⟨n, by omega, hge, hn⟩

/-- An offset that is no more than the last one before the allocation's end plus a row, and behind the
end, is behind it as an `int` or has wrapped to a negative value. -/
theorem not_has_of_end {b : PyBuffer} {v s : ℕ} (hend : b.bufferSize.toNat < v + 4)
    (hv : v ≤ b.bufferSize.toNat + s) (hlt : b.bufferSize.toNat + s + 4 < 2 ^ 32) :
    ¬ b.Has (s32 v + (3 : ℕ)) := by
  rintro ⟨hnonneg, hbelow⟩
  rcases lt_or_ge v (2 ^ 31) with hfits | hwraps
  · rw [s32_natCast hfits] at hbelow
    omega
  · have hwrapped := @s32_le_sub (v : ℤ) (by omega)
    omega

/-- Where the last pixel ends behind the allocation, the cursor's first such offset in the last column is
not in it. -/
theorem not_holdsGrabs {b : PyBuffer} {w h s : ℕ} (hw : b.buffer.width.toInt = (w + 1 : ℕ))
    (hh : b.buffer.height.toInt = (h + 1 : ℕ)) (hs : b.buffer.stride.toInt = s)
    (hlt : b.bufferSize.toNat + s + 4 < 2 ^ 32) (hrow : 4 * w + 4 ≤ b.bufferSize.toNat)
    (hend : b.bufferSize.toNat < s * h + (4 * w + 4)) : ¬ b.HoldsGrabs := by
  intro hholds
  obtain ⟨y, hy, hbefore, hafter⟩ :=
    @exists_crossing (fun y => s * y + (4 * w + 4)) b.bufferSize.toNat h (by simpa using hrow) hend
  have hin : b.InSize (w, y + 1) := by
    refine ⟨?_, ?_⟩ <;> dsimp only <;> omega
  have hhas := hholds.cursor _ hin 3 (by norm_num)
  have hvalue : b.buffer.stride.toInt * ((y + 1 : ℕ) : ℤ) + (w : ℤ) * 4 =
      (s * (y + 1) + 4 * w : ℕ) := by
    rw [hs]
    push_cast
    ring
  rw [hvalue] at hhas
  rw [Nat.mul_succ] at hafter hhas
  exact not_has_of_end (by omega) (by omega) hlt hhas

/-- **The buffer holds what the kernel writes** when the rows need no padding, or when there is only one
row, and for no other mode. -/
theorem holdsGrabs_iff {mode : EvdiMode} (hwidth : 0 < mode.width.toInt)
    (hheight : 0 < mode.height.toInt) (hbpp : mode.bitsPerPixel = 32)
    (hsize : mode.width.toInt * mode.height.toInt * 4 < 2 ^ 31) (id : Int32) (address : UInt64) :
    (PyBuffer.make mode id address).HoldsGrabs ↔
      64 ∣ mode.width.toInt ∨ mode.height.toInt = 1 := by
  obtain ⟨w, hw⟩ := Int.eq_ofNat_of_zero_le hwidth.le
  obtain ⟨h, hh⟩ := Int.eq_ofNat_of_zero_le hheight.le
  have hfits : 4 * (w * h) < 2 ^ 31 := by
    rw [hw, hh] at hsize
    zify
    linarith
  have hbytes := bufferSize_make hw hh hbpp hfits id address
  have hrow : w ≤ w * h := Nat.le_mul_of_pos_right w (by omega)
  constructor
  · intro hholds
    by_contra hnone
    rw [not_or] at hnone
    obtain ⟨hpadding, hrows⟩ := hnone
    have hpadding' : ¬ 64 ∣ w := by
      rw [hw] at hpadding
      exact_mod_cast hpadding
    obtain ⟨x, rfl⟩ : ∃ x, w = x + 1 := ⟨w - 1, by omega⟩
    obtain ⟨y, rfl⟩ : ∃ y, h = y + 1 + 1 := ⟨h - 2, by omega⟩
    have harea : (x + 1) * (y + 1 + 1) = x * y + 2 * x + y + 2 := by ring
    have hstride := paddedStride_toInt hw (by omega)
    -- each row but the last takes at least a pixel more than was allocated for it
    have hrows : (4 * (x + 1) + 4) * (y + 1) ≤ 256 * ((x + 1 + 63) / 64) * (y + 1) :=
      Nat.mul_le_mul_right _ (by omega)
    have hexp : (4 * (x + 1) + 4) * (y + 1) = 4 * (x * y) + 4 * x + 8 * y + 8 := by ring
    exact not_holdsGrabs hw hh hstride (by rw [hbytes]; omega) (by rw [hbytes]; omega)
      (by rw [hbytes]; omega) hholds
  · intro hcases
    refine holdsGrabs_of_ends (by omega) fun p hp => ?_
    obtain ⟨hpx, hpy⟩ := hp
    have hpx' : p.1 < w := by exact_mod_cast hpx.trans_eq hw
    have hpy' : p.2 < h := by exact_mod_cast hpy.trans_eq hh
    rw [hbytes]
    rcases hcases with hdvd | hone
    · obtain ⟨q, rfl⟩ : 64 ∣ w := by
        rw [hw] at hdvd
        exact_mod_cast hdvd
      have hstride := paddedStride_toInt hw (by omega)
      have hround : 256 * ((64 * q + 63) / 64) = 4 * (64 * q) := by omega
      have hrows : 64 * q * (p.2 + 1) ≤ 64 * q * h := Nat.mul_le_mul_left _ hpy'
      rw [Nat.mul_succ] at hrows
      have hcast : (PyBuffer.make mode id address).buffer.stride.toInt * (p.2 : ℤ) =
          (4 * (64 * q * p.2) : ℕ) := by
        show (paddedStride mode.width).toInt * (p.2 : ℤ) = _
        rw [hstride, hround]
        push_cast
        ring
      rw [hcast]
      exact ⟨by omega, by omega⟩
    · have hzero : p.2 = 0 := by omega
      rw [hzero, Nat.cast_zero, mul_zero]
      exact ⟨le_rfl, by omega⟩

/-- A mode whose rows need no padding. -/
theorem holdsGrabs_1920 : (PyBuffer.make ⟨1920, 1080, 60, 32, 0⟩ 0 4096).HoldsGrabs ↔
    64 ∣ (1920 : Int32).toInt ∨ (1080 : Int32).toInt = 1 :=
  @holdsGrabs_iff ⟨1920, 1080, 60, 32, 0⟩ (by decide) (by decide) rfl (by decide) 0 4096

/-- A whole screen of 1366 by 768 ends behind the allocation. -/
theorem padded_rows_overrun : ¬ (PyBuffer.make ⟨1366, 768, 60, 32, 0⟩ 0 4096).HoldsGrabs := by
  intro hholds
  have hlast := hholds.rect ⟨0, 0, 1366, 768⟩ (by decide) (by decide) (1365, 767)
    (by rw [ClipRect.mem_pixels]; decide) 3 (by norm_num)
  exact absurd hlast.2 (by decide +kernel)

/-! ### What a grab changes -/

/-- A successful grab, with cursor events enabled, of a framebuffer that is not from xe changes no byte
but those of a buffer that holds it. -/
theorem PyBuffer.HoldsGrabs.grab {b : PyBuffer} (hb : b.HoldsGrabs) {env : GrabEnv} {g : Grab}
    {d : Device} {dirts : UInt64} {stride : ℕ} (hcmd : g.cmd = b.buffer.grab dirts)
    (hfb : g.efb.Admitted) (hxe : g.efb.isFromXe = false) (hge : 4 * g.efb.width.toNat ≤ stride)
    (hfits : ∀ r ∈ g.dirtyRects, CopyFits g.efb stride r)
    (hstride : b.buffer.stride.toInt = stride) (hcursor : d.cursorEventsEnabled = true)
    (h : (painterGrabpixCopy env g d).ret = 0) {a : ℤ}
    (ha : (painterGrabpixCopy env g d).buffer.byte a ≠ (env.user g.cmd.buffer).byte a) : b.Has a := by
  have hgrab := (painterGrabpixCopy_ret_eq_zero env g d).1 h
  have hwidth : b.buffer.width.toInt = g.efb.width.toNat := by
    have heq := hgrab.width_eq
    rw [hcmd] at heq
    exact toInt_of_toUInt32_eq heq (hfb.width_le.trans_lt (by norm_num))
  have hheight : b.buffer.height.toInt = g.efb.height.toNat := by
    have heq := hgrab.height_eq
    rw [hcmd] at heq
    exact toInt_of_toUInt32_eq heq (hfb.height_le.trans_lt (by norm_num))
  obtain ⟨hinside, hover⟩ :=
    grabpixCopy_overwrites hfb hxe hge hfits (by rw [hcmd]; exact hstride) hcursor h
  obtain ⟨⟨p, k⟩, ⟨hp, hk⟩, rfl⟩ := hover.changed ha
  obtain ⟨r, hr, hpr⟩ := hp
  have hp' := (@ClipRect.mem_pixels r p).1 hpr
  -- the last column and the last row of the rectangle are on the screen
  have hx := (hinside ⟨r, hr, @ClipRect.mem_pixels r (r.x2.toNat - 1, p.2) |>.2 (by omega)⟩).1
  have hy := (hinside ⟨r, hr, @ClipRect.mem_pixels r (p.1, r.y2.toNat - 1) |>.2 (by omega)⟩).2
  dsimp only at hx hy
  have hhas := hb.rect r (by omega) (by omega) p hpr k hk
  have hcell : dstOffset b.buffer.stride.toInt r + b.buffer.stride.toInt * (p.2 - r.y1.toNat) +
      (4 * (p.1 - r.x1.toNat) + k) = clientCell stride (p, k) := by
    rw [hstride, ((hfits r hr).exact ⟨p, hpr⟩).2]
    simp only [clientCell, cell]
    push_cast
    ring
  rwa [hcell] at hhas

end Evdi
