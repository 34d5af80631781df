import Evdi.Model.Connect
import Evdi.Model.Library

/-!
# The mode filter

`evdi_mode_valid` of the connector, which holds the modes of the display against the limits that the
client has connected with, and the calls of the library that set these limits.

* `evdiModeValid`: the filter;
* `evdiConnect`, `evdiConnect2`: the library's calls.
-/

namespace Evdi

open Bytes

/-! ### The connector -/

/-- `MODE_OK` and `MODE_BAD`. -/
inductive DrmModeStatus
  | ok
  | bad
  deriving DecidableEq

/-- `is_lowest_frequency_mode_of_given_resolution`, where `modes` is the list of the connector. -/
def isLowestFrequencyModeOfGivenResolution (modes : List DisplayMode) (mode : DisplayMode) : Bool :=
  modes.all fun modeptr =>
    !(modeptr.hdisplay == mode.hdisplay && modeptr.vdisplay == mode.vdisplay &&
      modeptr.vrefresh < mode.vrefresh)

/-- `evdi_mode_valid`. -/
def evdiModeValid (d : Device) (modes : List DisplayMode) (mode : DisplayMode) : DrmModeStatus :=
  let areaLimit := mode.hdisplay.toUInt32 * mode.vdisplay.toUInt32
  let modeLimit := areaLimit * mode.vrefresh.toUInt32
  if d.pixelPerSecondLimit = 0 then .ok
  else if areaLimit > d.pixelAreaLimit then .bad
  else if modeLimit ≤ d.pixelPerSecondLimit then .ok
  else if isLowestFrequencyModeOfGivenResolution modes mode then .ok
  else .bad

/-! ### The library -/

/-- `evdi_connect2`. Its request is made once (`evdiConnect2_stops`). -/
def evdiConnect2 (user : UInt64 → UserRegion) (ans : ConnectAnswers) (file : DrmFile)
    (deviceIndex : Int32) (edid : UInt64) (edidLength pixelAreaLimit pixelPerSecondLimit : UInt32)
    (d : Device) : Device × ℤ :=
  painterConnectIoctl user ans
    ⟨1, deviceIndex, edid, edidLength, pixelAreaLimit, pixelPerSecondLimit⟩ file d

/-- `evdi_connect`. -/
def evdiConnect (user : UInt64 → UserRegion) (ans : ConnectAnswers) (file : DrmFile)
    (deviceIndex : Int32) (edid : UInt64) (edidLength skuAreaLimit : UInt32) (d : Device) :
    Device × ℤ :=
  evdiConnect2 user ans file deviceIndex edid edidLength skuAreaLimit (skuAreaLimit * 60) d

end Evdi
