import Evdi.Model.Copy

/-!
# Blending the cursor

`blend_alpha` mixes a pixel of the framebuffer and one of the cursor, channel by channel, weighted by the
cursor's top byte.  `blend_component` divides by 255 with a multiplication and a shift.

* `channel`: the bytes of a pixel;
* `BlendExact`: what `blend_component` computes, none of its steps wrapping;
* `blendAlpha_toNat`: the channels side by side;
* `blend_alpha_exact`: the result.
-/

namespace Evdi

open Words

/-- Channel `i` of a pixel: 0 to 2 are the colours, 3 is the top byte. -/
def channel (v : UInt32) (i : ℕ) : ℕ := v.toNat / 256 ^ i % 256

/-- The mean of two channel values with the weights `255 - alpha` and `alpha`, rounded down. -/
def blendedChannel (pixel blend alpha : ℕ) : ℕ := (pixel * (255 - alpha) + blend * alpha) / 255

theorem channel_lt (v : UInt32) (i : ℕ) : channel v i < 256 := Nat.mod_lt _ (by norm_num)

/-! ### One channel -/

theorem blendedChannel_between (pixel blend : ℕ) {alpha : ℕ} (h : alpha ≤ 255) :
    min pixel blend ≤ blendedChannel pixel blend alpha ∧
      blendedChannel pixel blend alpha ≤ max pixel blend := by
  obtain ⟨k, hk⟩ := Nat.exists_eq_add_of_le h
  have hrest : 255 - alpha = k := by omega
  rw [blendedChannel, hrest]
  -- either bound is itself a mean with these weights
  have hsplit : ∀ m, m * 255 = m * k + m * alpha := by
    intro m
    rw [hk, Nat.mul_add, Nat.add_comm]
  constructor
  · rw [Nat.le_div_iff_mul_le (by norm_num), hsplit]
    exact Nat.add_le_add (Nat.mul_le_mul_right k (min_le_left _ _))
      (Nat.mul_le_mul_right alpha (min_le_right _ _))
  · refine Nat.div_le_of_le_mul ?_
    rw [Nat.mul_comm 255, hsplit]
    exact Nat.add_le_add (Nat.mul_le_mul_right k (le_max_left _ _))
      (Nat.mul_le_mul_right alpha (le_max_right _ _))

theorem blendedChannel_zero (pixel blend : ℕ) : blendedChannel pixel blend 0 = pixel := by
  simp [blendedChannel]

theorem blendedChannel_full (pixel blend : ℕ) : blendedChannel pixel blend 255 = blend := by
  simp [blendedChannel]

/-- `blend_component` computes the mean, in steps that all fit 32 bits, and its result fits 8. -/
structure BlendExact (pixel blend alpha : UInt32) : Prop where
  preBlend : (pixel * (255 - alpha) + blend * alpha).toNat =
    pixel.toNat * (255 - alpha.toNat) + blend.toNat * alpha.toNat
  scaled : ∀ preBlend, preBlend = pixel * (255 - alpha) + blend * alpha →
    (preBlend + ((preBlend + 1) <<< 8)).toNat = preBlend.toNat + (preBlend.toNat + 1) * 256
  result : (blendComponent pixel blend alpha).toNat =
    blendedChannel pixel.toNat blend.toNat alpha.toNat
  fits : (blendComponent pixel blend alpha).toNat < 256

theorem blendExact {pixel blend alpha : UInt32} (hpixel : pixel.toNat < 256)
    (hblend : blend.toNat < 256) (halpha : alpha.toNat < 256) : BlendExact pixel blend alpha := by
  have hweights : pixel.toNat * (255 - alpha.toNat) + blend.toNat * alpha.toNat ≤ 255 * 255 := by
    have hp := Nat.mul_le_mul_right (255 - alpha.toNat) (show pixel.toNat ≤ 255 by omega)
    have hb := Nat.mul_le_mul_right alpha.toNat (show blend.toNat ≤ 255 by omega)
    omega
  have hsub : (255 - alpha).toNat = 255 - alpha.toNat :=
    UInt32.toNat_sub_of_le _ _ (UInt32.le_iff_toNat_le.2 (show alpha.toNat ≤ 255 by omega))
  have hpre : (pixel * (255 - alpha) + blend * alpha).toNat =
      pixel.toNat * (255 - alpha.toNat) + blend.toNat * alpha.toNat := by
    rw [UInt32.toNat_add, UInt32.toNat_mul, UInt32.toNat_mul, hsub, ← Nat.add_mod,
      Nat.mod_eq_of_lt (by omega)]
  have hscaled : ∀ preBlend, preBlend = pixel * (255 - alpha) + blend * alpha →
      (preBlend + ((preBlend + 1) <<< 8)).toNat = preBlend.toNat + (preBlend.toNat + 1) * 256 := by
    intro preBlend heq
    have hle : preBlend.toNat ≤ 255 * 255 := by rwa [heq, hpre]
    have hone : (1 : UInt32).toNat = 1 := rfl
    have hshift : (8 : UInt32).toNat % 32 = 8 := rfl
    rw [UInt32.toNat_add, UInt32.toNat_shiftLeft, UInt32.toNat_add, hone, hshift, Nat.shiftLeft_eq]
    omega
  have hresult : (blendComponent pixel blend alpha).toNat =
      blendedChannel pixel.toNat blend.toNat alpha.toNat := by
    have hshift : (16 : UInt32).toNat % 32 = 16 := rfl
    rw [blendComponent, UInt32.toNat_shiftRight, hscaled _ rfl, hpre, hshift,
      Nat.shiftRight_eq_div_pow, blendedChannel]
    exact div_pred_base (d := 255) (by omega) (by norm_num)
  refine ⟨hpre, hscaled, hresult, ?_⟩
  rw [hresult, blendedChannel]
  omega

/-! ### All channels -/

/-- The `i`-th byte of a word, masked off and shifted down. -/
theorem toNat_maskShift (v mask shift : UInt32) {i : ℕ} (hshift : shift.toNat % 32 = 8 * i)
    (hmask : mask.toNat >>> (8 * i) = 2 ^ 8 - 1) : ((v &&& mask) >>> shift).toNat = channel v i := by
  rw [UInt32.toNat_shiftRight, UInt32.toNat_and, hshift, Nat.shiftRight_and_distrib, hmask,
    Nat.and_two_pow_sub_one_eq_mod, Nat.shiftRight_eq_div_pow, pow_mul]
  rfl

/-- The cursor's top byte. -/
theorem toNat_alpha (v : UInt32) : (v >>> 24).toNat = channel v 3 := by
  have hv := v.toNat_lt
  have hshift : (24 : UInt32).toNat % 32 = 24 := rfl
  rw [UInt32.toNat_shiftRight, hshift, Nat.shiftRight_eq_div_pow, channel]
  omega

theorem toNat_lowByte (v : UInt32) : (v &&& 0xff).toNat = channel v 0 := by
  have hmask : (0xff : UInt32).toNat = 2 ^ 8 - 1 := rfl
  rw [UInt32.toNat_and, hmask, Nat.and_two_pow_sub_one_eq_mod, channel, pow_zero, Nat.div_one]

/-- The component of channel `i`. -/
theorem toNat_component (pixel cursor : UInt32) {p c : UInt32} {i : ℕ} (hp : p.toNat = channel pixel i)
    (hc : c.toNat = channel cursor i) : (blendComponent p c (cursor >>> 24)).toNat =
      blendedChannel (channel pixel i) (channel cursor i) (channel cursor 3) ∧
    (blendComponent p c (cursor >>> 24)).toNat < 256 := by
  have hexact : BlendExact p c (cursor >>> 24) := by
    refine blendExact ?_ ?_ ?_
    · rw [hp]
      exact channel_lt pixel i
    · rw [hc]
      exact channel_lt cursor i
    · rw [toNat_alpha]
      exact channel_lt cursor 3
  refine ⟨?_, hexact.fits⟩
  rw [hexact.result, hp, hc, toNat_alpha]

/-- The components stand side by side. -/
theorem blendAlpha_toNat (pixel cursor : UInt32) :
    let blended i := blendedChannel (channel pixel i) (channel cursor i) (channel cursor 3)
    (blendAlpha pixel cursor).toNat = blended 0 + blended 1 * 2 ^ 8 + blended 2 * 2 ^ 16 ∧
      blended 0 < 256 ∧ blended 1 < 256 ∧ blended 2 < 256 := by
  intro blended
  obtain ⟨h0, hlt0⟩ := toNat_component pixel cursor (toNat_lowByte pixel) (toNat_lowByte cursor)
  obtain ⟨h1, hlt1⟩ := toNat_component pixel cursor
    (toNat_maskShift pixel 0xff00 8 (i := 1) rfl rfl) (toNat_maskShift cursor 0xff00 8 rfl rfl)
  obtain ⟨h2, hlt2⟩ := toNat_component pixel cursor
    (toNat_maskShift pixel 0xff0000 16 (i := 2) rfl rfl) (toNat_maskShift cursor 0xff0000 16 rfl rfl)
  rw [h0] at hlt0
  rw [h1] at hlt1
  rw [h2] at hlt2
  refine ⟨?_, hlt0, hlt1, hlt2⟩
  have hlow := toNat_or_shiftLeft (s := 8) (by norm_num) (h0 ▸ hlt0) (by rw [h1]; omega)
  rw [h0, h1] at hlow
  have hall := toNat_or_shiftLeft (s := 16) (by norm_num) (by rw [hlow]; omega) (by rw [h2]; omega)
  rw [hlow, h2] at hall
  exact hall

/-! ### The result -/

/-- **Blending is exact.** The top byte of the result is 0; each of the colours is the mean of the two
pixels' colours, weighted by the cursor's top byte and rounded down, and is computed without a step that
wraps or a bit that another colour shares.  So it lies between the two, is the framebuffer's when the top
byte is 0, and the cursor's when it is 255. -/
theorem blend_alpha_exact (pixel cursor : UInt32) :
    channel (blendAlpha pixel cursor) 3 = 0 ∧
    ∀ i < 3, BlendExact (.ofNat (channel pixel i)) (.ofNat (channel cursor i)) (cursor >>> 24) ∧
      channel (blendAlpha pixel cursor) i =
        (channel pixel i * (255 - channel cursor 3) + channel cursor i * channel cursor 3) / 255 ∧
      min (channel pixel i) (channel cursor i) ≤ channel (blendAlpha pixel cursor) i ∧
      channel (blendAlpha pixel cursor) i ≤ max (channel pixel i) (channel cursor i) ∧
      (channel cursor 3 = 0 → channel (blendAlpha pixel cursor) i = channel pixel i) ∧
      (channel cursor 3 = 255 → channel (blendAlpha pixel cursor) i = channel cursor i) := by
  obtain ⟨hvalue, h0, h1, h2⟩ := blendAlpha_toNat pixel cursor
  dsimp only at hvalue h0 h1 h2
  refine ⟨?_, fun i hi => ?_⟩
  · rw [channel, hvalue]
    omega
  have hchannel : channel (blendAlpha pixel cursor) i =
      blendedChannel (channel pixel i) (channel cursor i) (channel cursor 3) := by
    rw [channel, hvalue]
    interval_cases i <;> omega
  have halpha := channel_lt cursor 3
  have hofNat : ∀ v : UInt32, (UInt32.ofNat (channel v i)).toNat < 256 := by
    intro v
    rw [UInt32.toNat_ofNat']
    exact (Nat.mod_le _ _).trans_lt (channel_lt v i)
  obtain ⟨hmin, hmax⟩ := blendedChannel_between (channel pixel i) (channel cursor i)
    (show channel cursor 3 ≤ 255 by omega)
  rw [hchannel]
  refine ⟨blendExact (hofNat pixel) (hofNat cursor) (by rwa [toNat_alpha]), rfl, hmin, hmax, ?_, ?_⟩
  · intro hzero
    rw [hzero, blendedChannel_zero]
  · intro hfull
    rw [hfull, blendedChannel_full]

/-- Half transparent white over orange. -/
theorem blend_alpha_exact_white : channel (blendAlpha 0xffff8000 0x80ffffff) 1 = 191 :=
  ((blend_alpha_exact 0xffff8000 0x80ffffff).2 1 (by norm_num)).2.1

end Evdi
