import Evdi.Model.ModeFilter
import Evdi.Model.Client

/-!
# Which modes are let through

The filter multiplies width, height and refresh rate in 32 bits, and so does the library when it derives
the limit of pixels per second from that of the area.

* `ModeAllowed`: what the limits say of a mode, with exact products;
* `mode_valid_iff`: the filter does that, unless the pixels per second wrap below their limit;
* `area_only_iff`: when a connection that gives an area only limits the area only.
-/

namespace Evdi

open Bytes

/-! ### Exact products -/

namespace DisplayMode

/-- The number of pixels. -/
def area (mode : DisplayMode) : ℕ := mode.hdisplay.toNat * mode.vdisplay.toNat

/-- The pixels per second. -/
def pixelRate (mode : DisplayMode) : ℤ := mode.area * mode.vrefresh.toInt

/-- No mode of the same resolution has a lower refresh rate. -/
def IsLowest (modes : List DisplayMode) (mode : DisplayMode) : Prop :=
  ∀ m ∈ modes, m.hdisplay = mode.hdisplay → m.vdisplay = mode.vdisplay → mode.vrefresh ≤ m.vrefresh

/-- The sizes that `evdi_modeset_init` lets through. -/
structure Sized (mode : DisplayMode) : Prop where
  hdisplay_le : mode.hdisplay.toNat ≤ 7680
  vdisplay_le : mode.vdisplay.toNat ≤ 4320

end DisplayMode

/-- What the limits say of a mode. -/
def ModeAllowed (areaLimit rateLimit : UInt32) (modes : List DisplayMode) (mode : DisplayMode) : Prop :=
  mode.area ≤ areaLimit.toNat ∧ (mode.pixelRate ≤ rateLimit.toNat ∨ mode.IsLowest modes)

section

variable {modes : List DisplayMode} {mode : DisplayMode}

theorem isLowest_iff :
    isLowestFrequencyModeOfGivenResolution modes mode = true ↔ mode.IsLowest modes := by
  simp only [isLowestFrequencyModeOfGivenResolution, DisplayMode.IsLowest, List.all_eq_true,
    Bool.not_eq_true', Bool.and_eq_false_iff, beq_eq_false_iff_ne, decide_eq_false_iff_not,
    Int32.not_lt]
  refine forall₂_congr fun m _ => ⟨fun h hw hv => ?_, fun h => ?_⟩
  · rcases h with (hne | hne) | hle
    · exact absurd hw hne
    · exact absurd hv hne
    · exact hle
  · by_cases hw : m.hdisplay = mode.hdisplay
    · by_cases hv : m.vdisplay = mode.vdisplay
      · exact .inr (h hw hv)
      · exact .inl (.inr hv)
    · exact .inl (.inl hw)

/-- The area fits 32 bits. -/
theorem area_toNat (mode : DisplayMode) :
    (mode.hdisplay.toUInt32 * mode.vdisplay.toUInt32).toNat = mode.area := by
  have hlt : mode.hdisplay.toNat * mode.vdisplay.toNat < 2 ^ 32 := by
    have hmul := Nat.mul_le_mul (Nat.le_of_lt_succ mode.hdisplay.toNat_lt)
      (Nat.le_of_lt_succ mode.vdisplay.toNat_lt)
    omega
  rw [UInt32.toNat_mul, UInt16.toNat_toUInt32, UInt16.toNat_toUInt32, Nat.mod_eq_of_lt hlt,
    DisplayMode.area]

/-- The pixels per second are cut to 32 bits. -/
theorem modeLimit_toNat (mode : DisplayMode) :
    ((mode.hdisplay.toUInt32 * mode.vdisplay.toUInt32 * mode.vrefresh.toUInt32).toNat : ℤ) =
      mode.pixelRate % 2 ^ 32 := by
  have hrefresh : (mode.vrefresh.toUInt32.toNat : ℤ) = mode.vrefresh.toInt % 2 ^ 32 := by
    have hwrap : mode.vrefresh.toInt = (mode.vrefresh.toUInt32.toNat : ℤ).bmod (2 ^ 32) :=
      BitVec.toInt_eq_toNat_bmod _
    have hlt : (mode.vrefresh.toUInt32.toNat : ℤ) < 2 ^ 32 := by
      exact_mod_cast mode.vrefresh.toUInt32.toNat_lt
    have hpow : (2 : ℤ) ^ 32 = ((2 ^ 32 : ℕ) : ℤ) := by norm_num
    rw [hwrap, hpow, Int.bmod_emod, ← hpow, Int.emod_eq_of_lt (Int.natCast_nonneg _) hlt]
  rw [UInt32.toNat_mul, area_toNat, Int.natCast_mod, Nat.cast_mul, hrefresh, DisplayMode.pixelRate]
  exact Int.ModEq.mul_left _ (Int.mod_modEq _ _)

/-- **What the filter computes.** -/
theorem evdiModeValid_iff (d : Device) : evdiModeValid d modes mode = .ok ↔
    d.pixelPerSecondLimit = 0 ∨ mode.area ≤ d.pixelAreaLimit.toNat ∧
      (mode.pixelRate % 2 ^ 32 ≤ d.pixelPerSecondLimit.toNat ∨ mode.IsLowest modes) := by
  have harea : mode.hdisplay.toUInt32 * mode.vdisplay.toUInt32 > d.pixelAreaLimit ↔
      ¬ mode.area ≤ d.pixelAreaLimit.toNat := by
    rw [gt_iff_lt, UInt32.lt_iff_toNat_lt, area_toNat, not_le]
  have hrate : mode.hdisplay.toUInt32 * mode.vdisplay.toUInt32 * mode.vrefresh.toUInt32 ≤
      d.pixelPerSecondLimit ↔ mode.pixelRate % 2 ^ 32 ≤ d.pixelPerSecondLimit.toNat := by
    rw [UInt32.le_iff_toNat_le, ← modeLimit_toNat, Nat.cast_le]
  have hlowest := @isLowest_iff modes mode
  unfold evdiModeValid
  simp only [harea, hrate]
  split_ifs with hlimit harea hrate hfirst
  · exact iff_of_true rfl (.inl hlimit)
  · exact iff_of_true rfl (.inr ⟨harea, .inl hrate⟩)
  · exact iff_of_true rfl (.inr ⟨harea, .inr (hlowest.1 hfirst)⟩)
  · refine iff_of_false (by decide) ?_
    tauto
  · refine iff_of_false (by decide) ?_
    tauto

/-! ### The limits of a client -/

/-- The pixels per second are compared as they are: those from `2 ^ 32` on are still above the limit when
they are cut to 32 bits. (A negative refresh rate, which no mode has, would have to be below it.) -/
def RateCompared (rateLimit : UInt32) (mode : DisplayMode) : Prop :=
  if mode.pixelRate < 0 then mode.pixelRate % 2 ^ 32 ≤ rateLimit.toNat
  else mode.pixelRate < 2 ^ 32 ∨ rateLimit.toNat < mode.pixelRate % 2 ^ 32

theorem rateCompared_iff (rateLimit : UInt32) (mode : DisplayMode) : RateCompared rateLimit mode ↔
    (mode.pixelRate % 2 ^ 32 ≤ rateLimit.toNat ↔ mode.pixelRate ≤ rateLimit.toNat) := by
  have hlt := rateLimit.toNat_lt
  unfold RateCompared
  split_ifs <;> omega

/-- **The mode filter is exact** but for the modes within the area limit, not the slowest of their
resolution, whose pixels per second wrap below their limit. -/
theorem mode_valid_iff {d : Device} (hlimit : d.pixelPerSecondLimit ≠ 0) (modes : List DisplayMode)
    (mode : DisplayMode) :
    (evdiModeValid d modes mode = .ok ↔
      ModeAllowed d.pixelAreaLimit d.pixelPerSecondLimit modes mode) ↔
    d.pixelAreaLimit.toNat < mode.area ∨ mode.IsLowest modes ∨
      RateCompared d.pixelPerSecondLimit mode := by
  rw [evdiModeValid_iff, ModeAllowed, rateCompared_iff, ← not_le]
  tauto

/-- A device with the limits given. -/
def Device.limited (areaLimit rateLimit : UInt32) : Device :=
  { Device.init 0 (.init (.const true) (.const true)) with
    pixelAreaLimit := areaLimit
    pixelPerSecondLimit := rateLimit }

/-- A display with 1920 by 1080 at 144 Hz and at 60 Hz. -/
def sampleModes : List DisplayMode := [⟨1920, 1080, 144⟩, ⟨1920, 1080, 60⟩]

/-- The filter does what limits of just as much as the slower mode say of the faster one. -/
theorem mode_valid_within : evdiModeValid (.limited 2073600 124416000) sampleModes ⟨1920, 1080, 144⟩ = .ok ↔
    ModeAllowed 2073600 124416000 sampleModes ⟨1920, 1080, 144⟩ :=
  (@mode_valid_iff (.limited 2073600 124416000) (by decide) sampleModes ⟨1920, 1080, 144⟩).2
    (.inr (.inr (by unfold RateCompared; decide)))

/-- With limits for 7680 by 4320 at 60 Hz, the same size at 130 Hz is let through. -/
theorem fast_mode_accepted :
    evdiModeValid (.limited 33177600 1990656000) [⟨7680, 4320, 130⟩, ⟨7680, 4320, 60⟩]
      ⟨7680, 4320, 130⟩ = .ok ∧
    ¬ ModeAllowed 33177600 1990656000 [⟨7680, 4320, 130⟩, ⟨7680, 4320, 60⟩] ⟨7680, 4320, 130⟩ := by
  refine ⟨by decide, ?_⟩
  rintro ⟨-, hrate | hlowest⟩
  · exact absurd hrate (by decide)
  · exact absurd (hlowest ⟨7680, 4320, 60⟩ (by simp) rfl rfl) (by decide)

/-! ### Connections with an area only -/

/-- The request of a connection is not made again. -/
theorem evdiConnect2_stops (user : UInt64 → UserRegion) (ans : ConnectAnswers) (file : DrmFile)
    (deviceIndex : Int32) (edid : UInt64) (edidLength area rate : UInt32) (d : Device) :
    ioctlAgain (evdiConnect2 user ans file deviceIndex edid edidLength area rate d).2 = false := by
  unfold evdiConnect2 painterConnectIoctl
  cases d.painter with
  | none => rfl
  | some p =>
    have hconnects : (1 : Int32) ≠ 0 := by decide
    simp only [if_pos hconnects, painterConnect]
    split_ifs
    · rfl
    · rfl
    · rfl
    · cases copyFromUser (user edid) edidLength.toNat <;> rfl

/-- The limits of a client that has connected with an area. -/
theorem evdiConnect_limits {user : UInt64 → UserRegion} {ans : ConnectAnswers} {file : DrmFile}
    {deviceIndex : Int32} {edid : UInt64} {edidLength area : UInt32} {d d' : Device}
    (h : evdiConnect user ans file deviceIndex edid edidLength area d = (d', 0)) :
    d'.pixelAreaLimit = area ∧ d'.pixelPerSecondLimit = area * 60 := by
  unfold evdiConnect evdiConnect2 at h
  rcases painterConnectIoctl_cases user ans _ file d with ⟨err, heq, hneg⟩ | ⟨bytes, -, -, -, -, heq⟩ |
    ⟨hzero, -⟩
  · rw [heq] at h
    exact absurd (Prod.mk.inj h).2 hneg.ne
  · rw [heq] at h
    obtain ⟨rfl, -⟩ := Prod.mk.inj h
    exact ⟨rfl, rfl⟩
  · have hconnects : (1 : Int32) ≠ 0 := by decide
    exact absurd hzero hconnects

theorem mul_sixty_toNat (area : UInt32) : (area * 60).toNat = 60 * area.toNat % 2 ^ 32 := by
  rw [UInt32.toNat_mul, mul_comm]
  rfl

theorem DisplayMode.Sized.area_le (h : mode.Sized) : mode.area ≤ 7680 * 4320 :=
  Nat.mul_le_mul h.hdisplay_le h.vdisplay_le

/-- **A connection that gives an area limits the area only** for the modes that are the slowest of their
resolution or have no more than 60 times the area's pixels per second (both cut to 32 bits), and for all
modes when the area is a multiple of `2 ^ 30`. -/
theorem area_only_iff {user : UInt64 → UserRegion} {ans : ConnectAnswers} {file : DrmFile}
    {deviceIndex : Int32} {edid : UInt64} {edidLength area : UInt32} {d d' : Device}
    (hconnect : evdiConnect user ans file deviceIndex edid edidLength area d = (d', 0))
    (harea : 0 < area) (hsized : mode.Sized) :
    (evdiModeValid d' modes mode = .ok ↔ mode.area ≤ area.toNat) ↔
    area.toNat < mode.area ∨ mode.IsLowest modes ∨ 2 ^ 30 ∣ area.toNat ∨
      mode.pixelRate % 2 ^ 32 ≤ (60 * area.toNat % 2 ^ 32 : ℕ) := by
  obtain ⟨hareaLimit, hrateLimit⟩ := evdiConnect_limits hconnect
  have hle := hsized.area_le
  have hpos : 0 < area.toNat := UInt32.lt_iff_toNat_lt.1 harea
  -- the limit of pixels per second wraps to 0, which lets all modes through
  have hzero : d'.pixelPerSecondLimit = 0 ↔ 2 ^ 30 ∣ area.toNat := by
    rw [hrateLimit, ← UInt32.toNat_inj, mul_sixty_toNat, UInt32.toNat_zero]
    omega
  have hfits : 2 ^ 30 ∣ area.toNat → mode.area ≤ area.toNat := fun hdvd =>
    hle.trans (le_trans (by norm_num) (Nat.le_of_dvd hpos hdvd))
  rw [evdiModeValid_iff, hzero, hareaLimit, hrateLimit, mul_sixty_toNat, ← not_le]
  tauto

end

/-- A connection with an area of 1920 by 1080. -/
def sampleConnect : Device × ℤ :=
  evdiConnect (fun _ => sampleUser 0) ⟨true, true⟩ 1 0 0 128 2073600
    (.init 0 (.init (.const true) (.const true)))

/-- At 60 Hz, the size that was given is let through. -/
theorem area_only_slow : evdiModeValid sampleConnect.1 sampleModes ⟨1920, 1080, 60⟩ = .ok ↔
    DisplayMode.area ⟨1920, 1080, 60⟩ ≤ 2073600 :=
  (@area_only_iff sampleModes ⟨1920, 1080, 60⟩ (fun _ => sampleUser 0) ⟨true, true⟩ 1 0 0 128 2073600
    (.init 0 (.init (.const true) (.const true))) _ rfl (by decide) ⟨by decide, by decide⟩).2
    (.inr (.inl (by unfold DisplayMode.IsLowest; decide)))

/-- At 144 Hz it is not. -/
theorem area_only_fast_rejected : sampleConnect.2 = 0 ∧
    evdiModeValid sampleConnect.1 sampleModes ⟨1920, 1080, 144⟩ = .bad ∧
    DisplayMode.area ⟨1920, 1080, 144⟩ ≤ 2073600 :=
  ⟨by decide +kernel, by decide +kernel, by decide⟩

end Evdi
