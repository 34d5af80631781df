import Evdi.Model.GemCreate

/-!
# The size of dumb buffers

The DRM core checks that the pixels of a dumb buffer take less than `2 ^ 32` bytes.  `evdi_dumb_create`
rounds the width up to 64 pixels or more, and multiplies what it gets with the height in 32 bits.

* `ModeCreateDumb.alignedSize`: the bytes that the rows then take;
* `DumbFits`: pitch and size are what the caller needs, and the object is that large;
* `dumb_fits_iff`: they are, exactly when the rows as rounded up take less than `2 ^ 32` bytes.
-/

namespace Evdi

open Words

/-- What the DRM core has checked before it calls the driver. -/
structure ModeCreateDumb.Admitted (args : ModeCreateDumb) : Prop where
  width_pos : 0 < args.width.toNat
  height_pos : 0 < args.height.toNat
  bpp_pos : 0 < args.bpp.toNat
  bpp_le : args.bpp.toNat ≤ 2 ^ 32 - 1 - 8
  size_le : divRoundUp args.bpp.toNat 8 * args.width.toNat * args.height.toNat ≤ 2 ^ 32 - 1

/-- A row of the buffer fits the pitch, and all rows fit the size and the object. -/
structure DumbFits (args : ModeCreateDumb) (buffer : DumbBuffer) : Prop where
  pitch_ge : args.width.toNat * divRoundUp args.bpp.toNat 8 ≤ buffer.pitch.toNat
  size_ge : buffer.pitch.toNat * args.height.toNat ≤ buffer.size.toNat
  object_ge : ∀ obj handle, buffer.created = .ok (obj, handle) →
    buffer.pitch.toNat * args.height.toNat ≤ obj.ref.size

/-- The number of bits of a row's length in pixels that are rounded up. -/
def pitchBits (cpp : ℕ) : ℕ :=
  if cpp = 1 then 8 else if cpp = 2 then 7 else if cpp = 3 ∨ cpp = 4 then 6 else 0

/-- A width as rounded up. -/
def alignedWidth (width cpp : ℕ) : ℕ := divRoundUp width (2 ^ pitchBits cpp) * 2 ^ pitchBits cpp

/-- The bytes that the rows of the buffer take. -/
def ModeCreateDumb.alignedSize (args : ModeCreateDumb) : ℕ :=
  let cpp := divRoundUp args.bpp.toNat 8
  alignedWidth args.width.toNat cpp * cpp * args.height.toNat

theorem pitchBits_cases (cpp : ℕ) :
    (cpp = 1 ∧ pitchBits cpp = 8) ∨ (cpp = 2 ∧ pitchBits cpp = 7) ∨ (cpp = 3 ∧ pitchBits cpp = 6) ∨
      (cpp = 4 ∧ pitchBits cpp = 6) ∨ pitchBits cpp = 0 := by
  unfold pitchBits
  split_ifs with h1 h2 h3
  · exact .inl ⟨h1, rfl⟩
  · exact .inr (.inl ⟨h2, rfl⟩)
  · rcases h3 with h3 | h4
    · exact .inr (.inr (.inl ⟨h3, rfl⟩))
    · exact .inr (.inr (.inr (.inl ⟨h4, rfl⟩)))
  · exact .inr (.inr (.inr (.inr rfl)))

/-- Rounding up adds less than 256 bytes to a row. -/
theorem alignedWidth_bounds (width cpp : ℕ) :
    width * cpp ≤ alignedWidth width cpp * cpp ∧ alignedWidth width cpp * cpp < width * cpp + 256 := by
  rcases pitchBits_cases cpp with ⟨rfl, hbits⟩ | ⟨rfl, hbits⟩ | ⟨rfl, hbits⟩ | ⟨rfl, hbits⟩ | hbits
  · simp only [alignedWidth, hbits, divRoundUp]
    omega
  · simp only [alignedWidth, hbits, divRoundUp]
    omega
  · simp only [alignedWidth, hbits, divRoundUp]
    omega
  · simp only [alignedWidth, hbits, divRoundUp]
    omega
  · simp [alignedWidth, hbits, divRoundUp]

/-- Rounding up a word loses a multiple of `2 ^ 32`. -/
theorem alignedWidth_mod (width cpp : ℕ) :
    (width + (2 ^ pitchBits cpp - 1)) % 2 ^ 32 / 2 ^ pitchBits cpp * 2 ^ pitchBits cpp ≡
      alignedWidth width cpp [MOD 2 ^ 32] := by
  unfold alignedWidth divRoundUp Nat.ModEq
  rcases pitchBits_cases cpp with ⟨-, hbits⟩ | ⟨-, hbits⟩ | ⟨-, hbits⟩ | ⟨-, hbits⟩ | hbits
  · rw [hbits]
    omega
  · rw [hbits]
    omega
  · rw [hbits]
    omega
  · rw [hbits]
    omega
  · simp [hbits]

/-- The mask that `evdi_align_pitch` chooses. -/
theorem alignPitch_eq (width cpp : UInt32) : ∃ mask : UInt32,
    (alignPitch width.toInt32 cpp.toInt32).toUInt32 = ((width + mask) &&& ~~~mask) * cpp ∧
      mask.toNat = 2 ^ pitchBits cpp.toNat - 1 ∧ (~~~mask).toNat = 2 ^ 32 - 2 ^ pitchBits cpp.toNat := by
  have hcpp : ∀ n : UInt32, cpp.toInt32 = n.toInt32 ↔ cpp.toNat = n.toNat := fun n =>
    ⟨fun h => congrArg (·.toUInt32.toNat) h, fun h => congrArg _ (UInt32.toNat.inj h)⟩
  have h1 : cpp.toInt32 = 1 ↔ cpp.toNat = 1 := hcpp 1
  have h2 : cpp.toInt32 = 2 ↔ cpp.toNat = 2 := hcpp 2
  have h3 : cpp.toInt32 = 3 ↔ cpp.toNat = 3 := hcpp 3
  have h4 : cpp.toInt32 = 4 ↔ cpp.toNat = 4 := hcpp 4
  simp only [alignPitch, h1, h2, h3, h4, pitchBits]
  split_ifs
  · exact ⟨255, rfl, rfl, rfl⟩
  · exact ⟨127, rfl, rfl, rfl⟩
  · exact ⟨63, rfl, rfl, rfl⟩
  · exact ⟨0, rfl, rfl, rfl⟩

/-- **`evdi_align_pitch`** rounds up, modulo `2 ^ 32`. -/
theorem alignPitch_toNat (width cpp : UInt32) :
    (alignPitch width.toInt32 cpp.toInt32).toUInt32.toNat =
      alignedWidth width.toNat cpp.toNat * cpp.toNat % 2 ^ 32 := by
  obtain ⟨mask, hpitch, hmask, hnot⟩ := alignPitch_eq width cpp
  have hbits : pitchBits cpp.toNat ≤ 32 := by
    rcases pitchBits_cases cpp.toNat with ⟨-, h⟩ | ⟨-, h⟩ | ⟨-, h⟩ | ⟨-, h⟩ | h <;> omega
  rw [hpitch, UInt32.toNat_mul, UInt32.toNat_and, UInt32.toNat_add, hnot, hmask,
    and_highMask hbits (Nat.mod_lt _ (by norm_num))]
  exact (alignedWidth_mod width.toNat cpp.toNat).mul_right cpp.toNat

/-- The object is as large as was asked for, up to a page. -/
theorem gemCreate_size {ans : GemCreateAnswers} {size : UInt64} {obj : GemObject} {handle : UInt32}
    (h : gemCreate ans size = .ok (obj, handle)) (hsize : size.toNat < 2 ^ 32) :
    size.toNat ≤ obj.ref.size := by
  have hround : size.toNat ≤ ((size + 4095) / 4096 * 4096).toNat := by
    have hlow : (4095 : UInt64).toNat = 4095 := rfl
    have hpage : (4096 : UInt64).toNat = 4096 := rfl
    rw [UInt64.toNat_mul, UInt64.toNat_div, UInt64.toNat_add, hlow, hpage]
    omega
  rw [gemCreate_ok h]
  exact hround

section

variable {args : ModeCreateDumb}

theorem cpp_toNat (h : args.Admitted) : ((args.bpp + 7) / 8).toNat = divRoundUp args.bpp.toNat 8 := by
  have hle := h.bpp_le
  have hseven : (7 : UInt32).toNat = 7 := rfl
  have hbits : (8 : UInt32).toNat = 8 := rfl
  rw [UInt32.toNat_div, UInt32.toNat_add, hseven, hbits, divRoundUp]
  omega

theorem dumbCreate_pitch (h : args.Admitted) (ans : GemCreateAnswers) :
    (dumbCreate ans args).pitch.toNat =
      alignedWidth args.width.toNat (divRoundUp args.bpp.toNat 8) * divRoundUp args.bpp.toNat 8 %
        2 ^ 32 := by
  have hpitch := alignPitch_toNat args.width ((args.bpp + 7) / 8)
  rwa [cpp_toNat h] at hpitch

theorem dumbCreate_size (args : ModeCreateDumb) (ans : GemCreateAnswers) :
    (dumbCreate ans args).size.toNat =
      (dumbCreate ans args).pitch.toNat * args.height.toNat % 2 ^ 32 := by
  rw [← UInt32.toNat_mul]
  rfl

/-- Sizes that do not wrap are all that is needed. -/
theorem dumbFits_of_lt (ans : GemCreateAnswers)
    (hpitch : args.width.toNat * divRoundUp args.bpp.toNat 8 ≤ (dumbCreate ans args).pitch.toNat)
    (hlt : (dumbCreate ans args).pitch.toNat * args.height.toNat < 2 ^ 32) :
    DumbFits args (dumbCreate ans args) := by
  have hsize : (dumbCreate ans args).size.toNat =
      (dumbCreate ans args).pitch.toNat * args.height.toNat := by
    rw [dumbCreate_size, Nat.mod_eq_of_lt hlt]
  refine ⟨hpitch, hsize.ge, fun obj handle hcreated => ?_⟩
  rw [← hsize]
  exact gemCreate_size hcreated (by omega)

/-- **Dumb buffers are large enough** exactly when their rows, as rounded up, take less than `2 ^ 32`
bytes. -/
theorem dumb_fits_iff (h : args.Admitted) (ans : GemCreateAnswers) :
    DumbFits args (dumbCreate ans args) ↔ args.alignedSize < 2 ^ 32 := by
  have hpitch := dumbCreate_pitch h ans
  have hsize := dumbCreate_size args ans
  have hcore := h.size_le
  obtain ⟨hlow, hhigh⟩ := alignedWidth_bounds args.width.toNat (divRoundUp args.bpp.toNat 8)
  -- a row is not longer than the buffer, and neither is an aligned row
  have hrow : args.width.toNat * divRoundUp args.bpp.toNat 8 ≤ 2 ^ 32 - 1 := by
    rw [mul_comm]
    exact (Nat.le_mul_of_pos_right _ h.height_pos).trans hcore
  simp only [ModeCreateDumb.alignedSize]
  generalize alignedWidth args.width.toNat (divRoundUp args.bpp.toNat 8) *
    divRoundUp args.bpp.toNat 8 = row at *
  constructor
  · intro hfits
    have hge := hfits.pitch_ge
    have hle := hfits.size_ge
    have hwrap : row < 2 ^ 32 := by omega
    rw [Nat.mod_eq_of_lt hwrap] at hpitch
    rw [hsize, hpitch] at hle
    exact hle.trans_lt (Nat.mod_lt _ (by norm_num))
  · intro hlt
    have hwrap : row < 2 ^ 32 := (Nat.le_mul_of_pos_right _ h.height_pos).trans_lt hlt
    rw [Nat.mod_eq_of_lt hwrap] at hpitch
    exact dumbFits_of_lt ans (by omega) (by rwa [hpitch])

end

/-- A buffer of 100 by 100 with 32 bits per pixel, in rows of 128 pixels. -/
theorem dumb_fits_small :
    DumbFits ⟨100, 100, 32⟩ (dumbCreate .sample ⟨100, 100, 32⟩) :=
  (dumb_fits_iff ⟨by decide, by decide, by decide, by decide, by decide⟩ _).2 (by decide)

/-- A buffer of one pixel by `2 ^ 24` takes 64 MiB of pixels and 4 GiB of rows: the size is 0. -/
theorem dumb_buffer_empty :
    (⟨16777216, 1, 32⟩ : ModeCreateDumb).Admitted ∧
      (dumbCreate .sample ⟨16777216, 1, 32⟩).pitch = 256 ∧
      (dumbCreate .sample ⟨16777216, 1, 32⟩).size = 0 ∧
      ¬ DumbFits ⟨16777216, 1, 32⟩
        (dumbCreate .sample ⟨16777216, 1, 32⟩) := by
  refine ⟨⟨by decide, by decide, by decide, by decide, by decide⟩, by decide, by decide, fun h => ?_⟩
  exact absurd h.size_ge (by decide)

end Evdi
