import Evdi.Model.Client
import Evdi.Model.Ioctl

/-!
# The requests of 32-bit processes

A request of a 32-bit process, against the same request of a 64-bit one: the handler is called with the
same fields, the device and the result are the same, and the caller reads the same `num_rects`
(`SameOutcome`).  `compat_ioctl_iff` says when: `DDCCI_RESPONSE` has no conversion, and a failed
`GRABPIX` does not store the count it has rewritten.
-/

namespace Evdi

open Bytes Words

/-- The `num_rects` that a 64-bit process finds in its structure. -/
def IoctlOutcome.numRects64 (out : IoctlOutcome) : Option ℕ :=
  (copyFromUser out.arg IoctlNr.grabpix.size).map (field · 24 4)

/-- The `num_rects` that a 32-bit process finds. -/
def IoctlOutcome.numRects32 (out : IoctlOutcome) : Option ℕ :=
  (copyFromUser out.arg IoctlNr.grabpix.size32).map (field · 20 4)

/-- The compatibility path did what the native one did. -/
structure SameOutcome (nr : IoctlNr) (native compat : IoctlOutcome) : Prop where
  handled : compat.handled = native.handled
  device : compat.device = native.device
  ret : compat.ret = native.ret
  numRects : nr = .grabpix → compat.numRects32 = native.numRects64

/-- A `GRABPIX` is refused before the painter's lock, or leaves as many rectangles as it was offered
room for, or its copy succeeds. -/
def GrabpixCmd.CountStored (cmd : GrabpixCmd) (env : GrabEnv) (d : Device) : Prop :=
  cmd.mode ≠ grabpixModeDirty ∨ cmd.numRects < 1 ∨ d.painter = none ∨
    Int32.ofNat (shrinkDirtyRects cmd.numRects d.dirtyRects).length = cmd.numRects ∨
    ∃ efb, d.painter.bind (·.scanoutFb) = some efb ∧
      Grabbable env cmd efb (shrinkDirtyRects cmd.numRects d.dirtyRects)

/-- The requests that the compatibility path carries out as the native one does: all but some
`GRABPIX` calls, and the `DDCCI_RESPONSE` calls whose structure is not zero behind the pointer. -/
def Request32.Faithful (req : Request32) (pad : ℕ) (env : IoctlEnv) (d : Device) : Prop :=
  match req with
  | .grabpix req => req.krequest.CountStored env.grab d
  | .ddcciResponse _ bufferLength result => bufferLength = 0 ∧ result = 0 ∧ 2 ^ 24 ∣ pad
  | _ => True

/-! ### The core's path -/

theorem length_le_store (req : Request) (bs : List UInt8) : bs.length ≤ (req.store bs).length := by
  cases req with
  | grabpix cmd => exact length_le_patch _ _ _
  | _ => exact le_rfl

/-- `drm_ioctl` on an argument that is all there. -/
theorem drmIoctl_ofList (env : IoctlEnv) (nr : IoctlNr) {bytes kdata : List UInt8} (d : Device)
    (h : bytes ++ List.replicate (nr.size - bytes.length) 0 = kdata) :
    drmIoctl env nr bytes.length (.ofList bytes) d =
      ⟨((nr.decode kdata).handle env d).1, ((nr.decode kdata).handle env d).2.2,
        some (nr.decode kdata),
        .ofList ((((nr.decode kdata).handle env d).2.1.store kdata).take bytes.length)⟩ := by
  have hlength : bytes.length ≤ (((nr.decode kdata).handle env d).2.1.store kdata).length := by
    refine le_trans ?_ (length_le_store _ kdata)
    simp [← h]
  simp only [drmIoctl, copyFromUser_ofList, h, copyToUser_ofList hlength]
  simp

/-- A 64-bit process. -/
theorem nativeIoctl_eq (req : Request32) (pad : ℕ) (env : IoctlEnv) (d : Device) :
    req.nativeIoctl pad env d =
      ⟨(req.request.handle env d).1, (req.request.handle env d).2.2, some req.request,
        .ofList (((req.request.handle env d).2.1.store (pack (req.fields64 pad))).take
          req.nr.size)⟩ := by
  have hlength := length_fields64 req pad
  have hkdata : pack (req.fields64 pad) ++
      List.replicate (req.nr.size - (pack (req.fields64 pad)).length) 0 =
        pack (req.fields64 pad) := by
    rw [hlength, Nat.sub_self, List.replicate_zero, List.append_nil]
  have hdrm := drmIoctl_ofList env req.nr d hkdata
  rwa [hlength, decode_fields64] at hdrm

/-- The requests without pointers have one layout. -/
theorem compatIoctl_of_fields_eq {req : Request32} {pad : ℕ} (env : IoctlEnv) (d : Device)
    (hnr : req.nr ≠ .connect ∧ req.nr ≠ .grabpix) (hsize : req.nr.size32 = req.nr.size)
    (hfields : req.fields32 pad = req.fields64 pad) :
    req.compatIoctl pad env d = req.nativeIoctl pad env d := by
  unfold Request32.compatIoctl Request32.nativeIoctl evdiCompatIoctl
  rw [hfields]
  split
  · exact absurd ‹_› hnr.1
  · exact absurd ‹_› hnr.2
  · rw [hsize]

/-! ### GRABPIX -/

/-- A call that is not refused before the lock rewrites the count. -/
theorem grabpixIoctl_numRects {env : GrabEnv} {cmd : GrabpixCmd} {d : Device} {p : Painter}
    (hmode : cmd.mode = grabpixModeDirty) (hnum : ¬ cmd.numRects < 1) (hp : d.painter = some p) :
    (painterGrabpixIoctl env cmd d).2.1.numRects =
      Int32.ofNat (shrinkDirtyRects cmd.numRects p.dirtyRects).length := by
  have hneg : ¬ p.numDirts < 0 := by simp [Painter.numDirts]
  have hmode' : ¬ cmd.mode ≠ grabpixModeDirty := not_not.2 hmode
  simp only [painterGrabpixIoctl, painterGrabpixLocked, if_neg hmode', if_neg hnum, hp,
    if_neg hneg]
  cases p.scanoutFb <;> rfl

/-- A call that is refused for want of a scanout buffer. -/
theorem grabpixIoctl_noScanout {env : GrabEnv} {cmd : GrabpixCmd} {d : Device} {p : Painter}
    (hmode : cmd.mode = grabpixModeDirty) (hnum : ¬ cmd.numRects < 1) (hp : d.painter = some p)
    (hfb : p.scanoutFb = none) : (painterGrabpixIoctl env cmd d).2.2.1 = -EAGAIN := by
  have hneg : ¬ p.numDirts < 0 := by simp [Painter.numDirts]
  have hmode' : ¬ cmd.mode ≠ grabpixModeDirty := not_not.2 hmode
  simp only [painterGrabpixIoctl, painterGrabpixLocked, if_neg hmode', if_neg hnum, hp,
    if_neg hneg, hfb]

/-- When the count is the same in the caller's structure whether it is stored or not. -/
theorem countStored_iff (env : GrabEnv) (cmd : GrabpixCmd) (d : Device) :
    (painterGrabpixIoctl env cmd d).2.2.1 = 0 ∨
      (painterGrabpixIoctl env cmd d).2.1.numRects = cmd.numRects ↔ cmd.CountStored env d := by
  unfold GrabpixCmd.CountStored
  by_cases hmode : cmd.mode ≠ grabpixModeDirty
  · simp [painterGrabpixIoctl, painterGrabpixLocked, hmode]
  by_cases hnum : cmd.numRects < 1
  · simp [painterGrabpixIoctl, painterGrabpixLocked, hmode, hnum]
  cases hp : d.painter with
  | none => simp [painterGrabpixIoctl, painterGrabpixLocked, hmode, hnum, hp]
  | some p =>
    rw [not_not] at hmode
    rw [grabpixIoctl_numRects hmode hnum hp, Device.dirtyRects_some hp]
    cases hfb : p.scanoutFb with
    | none =>
      have hret : -EAGAIN ≠ 0 := by decide
      rw [grabpixIoctl_noScanout hmode hnum hp hfb]
      simp [hmode, hnum, hfb, hret]
    | some efb =>
      rw [painterGrabpixIoctl_ret_eq_zero hmode hnum hp hfb]
      simp [hmode, hnum, hfb, or_comm]

theorem int32_eq_of_toNat_eq {x y : Int32} (h : x.toUInt32.toNat = y.toUInt32.toNat) : x = y := by
  rw [← x.toInt32_toUInt32, UInt32.toNat.inj h, y.toInt32_toUInt32]

/-- What a 64-bit process finds in `num_rects` after a call. -/
theorem numRects64_nativeIoctl (req : Grabpix32) (pad : ℕ) (env : IoctlEnv) (d : Device) :
    (Request32.nativeIoctl (.grabpix req) pad env d).numRects64 =
      some (painterGrabpixIoctl env.grab req.krequest d).2.1.numRects.toUInt32.toNat := by
  have hlength : (pack (Request32.fields64 pad (.grabpix req))).length = 40 :=
    length_fields64 (.grabpix req) pad
  generalize hbytes : pack (Request32.fields64 pad (.grabpix req)) = bytes at hlength
  generalize hn : (painterGrabpixIoctl env.grab req.krequest d).2.1.numRects.toUInt32 = n
  have hfits : n.toNat < 256 ^ 4 := n.toNat_lt
  have hstored : (patch bytes 24 (le 4 n.toNat)).length = 40 := by
    rw [length_patch (by rw [hlength, length_le]; decide), hlength]
  have harg : (Request32.nativeIoctl (.grabpix req) pad env d).arg =
      .ofList (patch bytes 24 (le 4 n.toNat)) := by
    rw [nativeIoctl_eq, hbytes]
    rw [← hn] at hstored ⊢
    exact congrArg UserRegion.ofList (List.take_of_length_le hstored.le)
  have hread : copyFromUser (.ofList (patch bytes 24 (le 4 n.toNat))) IoctlNr.grabpix.size =
      some (patch bytes 24 (le 4 n.toNat)) := by
    rw [show IoctlNr.grabpix.size = _ from hstored.symm, copyFromUser_ofList]
  rw [IoctlOutcome.numRects64, harg, hread, Option.map_some,
    field_patch 4 n.toNat (by rw [hlength]; decide), Nat.mod_eq_of_lt hfits]

/-- `compat_evdi_grabpix` on a structure that is all there: the count is stored when the call
succeeds. -/
theorem compatEvdiGrabpix_ofList (env : IoctlEnv) {bytes : List UInt8} (d : Device)
    (hlength : bytes.length = 28) :
    let krequest := (Grabpix32.ofBytes bytes).krequest
    let call := painterGrabpixIoctl env.grab krequest d
    compatEvdiGrabpix env (.ofList bytes) d =
      ⟨call.1, call.2.2.1, some (.grabpix krequest), .ofList
        (if call.2.2.1 = 0 then patch bytes 20 (le 4 call.2.1.numRects.toUInt32.toNat) else bytes)⟩ := by
  intro krequest call
  have hread : copyFromUser (.ofList bytes) IoctlNr.grabpix.size32 = some bytes := by
    rw [show IoctlNr.grabpix.size32 = _ from hlength.symm, copyFromUser_ofList]
  simp only [compatEvdiGrabpix, hread]
  by_cases hret : call.2.2.1 = 0
  · have hstored : (patch bytes 20 (le 4 call.2.1.numRects.toUInt32.toNat)).length =
        bytes.length := length_patch (by rw [hlength, length_le]; decide)
    have hwrite := copyToUser_ofList hstored.ge
    have hsize : (IoctlNr.grabpix.size32 : ℤ) = bytes.length := by rw [hlength]; rfl
    rw [List.take_of_length_le hstored.le, ← hsize] at hwrite
    rw [if_neg (not_not.2 hret), if_pos hret, hret, hwrite]
    rfl
  · rw [if_pos hret, if_neg hret]

/-- What a 32-bit process finds there: the count, if the call succeeded. -/
theorem compatIoctl_grabpix (req : Grabpix32) (pad : ℕ) (env : IoctlEnv) (d : Device) :
    let out := Request32.compatIoctl (.grabpix req) pad env d
    let call := painterGrabpixIoctl env.grab req.krequest d
    out.handled = some (.grabpix req.krequest) ∧ out.device = call.1 ∧ out.ret = call.2.2.1 ∧
      out.numRects32 = some (if call.2.2.1 = 0 then call.2.1.numRects.toUInt32.toNat
        else req.numRects.toUInt32.toNat) := by
  intro out call
  have hlength : (pack (Request32.fields32 pad (.grabpix req))).length = 28 :=
    length_fields32 (.grabpix req) pad
  have hfield : field (pack (Request32.fields32 pad (.grabpix req))) 20 4 =
      req.numRects.toUInt32.toNat := by
    simp [Request32.fields32, field_le, field_of_le]
  have hout := compatEvdiGrabpix_ofList env d hlength
  rw [ofBytes_fields32_grabpix] at hout
  rw [show out = _ from hout]
  refine ⟨rfl, rfl, rfl, ?_⟩
  generalize pack (Request32.fields32 pad (.grabpix req)) = bytes at hlength hfield
  have hread : ∀ bs : List UInt8, bs.length = 28 →
      copyFromUser (.ofList bs) IoctlNr.grabpix.size32 = some bs := by
    intro bs hbs
    rw [show IoctlNr.grabpix.size32 = _ from hbs.symm, copyFromUser_ofList]
  have hfits : call.2.1.numRects.toUInt32.toNat < 256 ^ 4 := UInt32.toNat_lt _
  rw [IoctlOutcome.numRects32]
  by_cases hret : call.2.2.1 = 0
  · rw [if_pos hret, if_pos hret, hread _ (by rw [length_patch] <;> simp [hlength]),
      Option.map_some, field_patch _ _ (by rw [hlength]; decide), Nat.mod_eq_of_lt hfits]
  · rw [if_neg hret, if_neg hret, hread _ hlength, Option.map_some, hfield]

/-- The count that the two processes find is the same exactly when it was stored, or need not be. -/
theorem sameOutcome_grabpix_iff (req : Grabpix32) (pad64 pad32 : ℕ) (env : IoctlEnv) (d : Device) :
    SameOutcome .grabpix (Request32.nativeIoctl (.grabpix req) pad64 env d)
      (Request32.compatIoctl (.grabpix req) pad32 env d) ↔ req.krequest.CountStored env.grab d := by
  obtain ⟨hhandled, hdevice, hret, hcompat⟩ := compatIoctl_grabpix req pad32 env d
  have hnative := numRects64_nativeIoctl req pad64 env d
  have hcount : (Request32.compatIoctl (.grabpix req) pad32 env d).numRects32 =
      (Request32.nativeIoctl (.grabpix req) pad64 env d).numRects64 ↔
      req.krequest.CountStored env.grab d := by
    rw [hcompat, hnative, Option.some.injEq, ← countStored_iff]
    split_ifs with hzero
    · simp [hzero]
    · simp only [hzero, false_or]
      exact ⟨fun h => (int32_eq_of_toNat_eq h).symm, fun h => by rw [h]; rfl⟩
  constructor
  · exact fun h => hcount.1 (h.numRects rfl)
  · intro h
    refine ⟨?_, ?_, ?_, fun _ => hcount.2 h⟩
    · rw [hhandled, nativeIoctl_eq]
      rfl
    · rw [hdevice, nativeIoctl_eq]
      rfl
    · rw [hret, nativeIoctl_eq]
      rfl

/-! ### DDCCI_RESPONSE -/

/-- The fields that a `DDCCI_RESPONSE` of a 32-bit process is read with are the ones meant exactly when
nothing but the pointer is set. -/
theorem shifted_eq_iff (buffer bufferLength : UInt32) (result : UInt8) (pad : ℕ) :
    (⟨compatPtr buffer + 4294967296 * bufferLength.toUInt64, result.toUInt32 + 256 * .ofNat pad, 0⟩ :
      DdcciResponseCmd) = ⟨compatPtr buffer, bufferLength, result⟩ ↔
      bufferLength = 0 ∧ result = 0 ∧ 2 ^ 24 ∣ pad := by
  have hupper : 4294967296 * bufferLength.toUInt64 = 0 ↔ bufferLength = 0 := by
    have hlt := bufferLength.toNat_lt
    rw [← UInt64.toNat_inj, ← UInt32.toNat_inj, UInt64.toNat_mul]
    simp only [UInt64.reduceToNat, UInt32.toNat_toUInt64, UInt32.toNat_zero, UInt64.toNat_zero]
    omega
  have hpad : (256 : UInt32) * .ofNat pad = 0 ↔ 2 ^ 24 ∣ pad := by
    rw [← UInt32.toNat_inj, UInt32.toNat_mul]
    simp only [UInt32.reduceToNat, UInt32.toNat_ofNat', UInt32.toNat_zero]
    omega
  simp only [DdcciResponseCmd.mk.injEq, UInt64.add_eq_left, hupper]
  constructor
  · rintro ⟨rfl, hlength, rfl⟩
    refine ⟨rfl, rfl, hpad.1 ?_⟩
    simpa using hlength
  · rintro ⟨rfl, rfl, hdvd⟩
    refine ⟨rfl, ?_, rfl⟩
    rw [hpad.2 hdvd]
    rfl

theorem compatIoctl_ddcciResponse (buffer bufferLength : UInt32) (result : UInt8) (pad : ℕ)
    (env : IoctlEnv) (d : Device) :
    let out := Request32.compatIoctl (.ddcciResponse buffer bufferLength result) pad env d
    let req := Request.ddcciResponse ⟨compatPtr buffer + 4294967296 * bufferLength.toUInt64,
      result.toUInt32 + 256 * .ofNat pad, 0⟩
    out.handled = some req ∧ out.device = (req.handle env d).1 ∧
      out.ret = (req.handle env d).2.2 := by
  intro out req
  have hlength := length_fields32 (.ddcciResponse buffer bufferLength result) pad
  have hdrm := @drmIoctl_ofList env .ddcciResponse
    (pack (Request32.fields32 pad (.ddcciResponse buffer bufferLength result))) _ d rfl
  have hdecode := decode_fields32_ddcciResponse buffer bufferLength result pad
  rw [hlength] at hdrm
  have hout : out = _ := hdrm
  rw [hout]
  have hkdata : IoctlNr.ddcciResponse.decode
      (pack (Request32.fields32 pad (.ddcciResponse buffer bufferLength result)) ++
        List.replicate (IoctlNr.ddcciResponse.size -
          (Request32.ddcciResponse buffer bufferLength result).nr.size32) 0) = req := hdecode
  rw [hkdata]
  exact ⟨rfl, rfl, rfl⟩

theorem sameOutcome_ddcciResponse_iff (buffer bufferLength : UInt32) (result : UInt8)
    (pad64 pad32 : ℕ) (env : IoctlEnv) (d : Device) :
    SameOutcome .ddcciResponse
      (Request32.nativeIoctl (.ddcciResponse buffer bufferLength result) pad64 env d)
      (Request32.compatIoctl (.ddcciResponse buffer bufferLength result) pad32 env d) ↔
      bufferLength = 0 ∧ result = 0 ∧ 2 ^ 24 ∣ pad32 := by
  obtain ⟨hhandled, hdevice, hret⟩ :=
    compatIoctl_ddcciResponse buffer bufferLength result pad32 env d
  rw [← shifted_eq_iff buffer bufferLength result pad32]
  constructor
  · intro h
    have hsame := hhandled.symm.trans (h.handled.trans (by rw [nativeIoctl_eq]))
    simpa [Request32.request] using hsame
  · intro h
    rw [h] at hhandled hdevice hret
    refine ⟨?_, ?_, ?_, fun hnr => by cases hnr⟩
    · rw [hhandled, nativeIoctl_eq]
      rfl
    · rw [hdevice, nativeIoctl_eq]
      rfl
    · rw [hret, nativeIoctl_eq]
      rfl

/-! ### The result -/

theorem sameOutcome_connect (req : Connect32) (pad64 pad32 : ℕ) (env : IoctlEnv) (d : Device) :
    SameOutcome .connect (Request32.nativeIoctl (.connect req) pad64 env d)
      (Request32.compatIoctl (.connect req) pad32 env d) := by
  have hlength : (pack (Request32.fields32 pad32 (.connect req))).length = 24 :=
    length_fields32 (.connect req) pad32
  have hread : copyFromUser (.ofList (pack (Request32.fields32 pad32 (.connect req))))
      IoctlNr.connect.size32 = some (pack (Request32.fields32 pad32 (.connect req))) := by
    rw [show IoctlNr.connect.size32 = _ from hlength.symm, copyFromUser_ofList]
  have hcompat : Request32.compatIoctl (.connect req) pad32 env d =
      compatEvdiConnect env (.ofList (pack (Request32.fields32 pad32 (.connect req)))) d := rfl
  rw [hcompat, nativeIoctl_eq]
  simp only [compatEvdiConnect, hread, ofBytes_fields32_connect]
  exact ⟨rfl, rfl, rfl, fun hnr => by cases hnr⟩

/-- **The compatibility path** does what the native one does exactly for the requests described, for
every request, padding, device and answer of the kernel. -/
theorem compat_ioctl_iff (req : Request32) (pad64 pad32 : ℕ) (env : IoctlEnv) (d : Device) :
    SameOutcome req.nr (req.nativeIoctl pad64 env d) (req.compatIoctl pad32 env d) ↔
      req.Faithful pad32 env d := by
  cases req with
  | connect req => exact iff_of_true (sameOutcome_connect req pad64 pad32 env d) trivial
  | requestUpdate reserved =>
    refine iff_of_true ?_ trivial
    have hcompat := @compatIoctl_of_fields_eq (.requestUpdate reserved) pad32 env d
      ⟨by simp [Request32.nr], by simp [Request32.nr]⟩ rfl rfl
    rw [hcompat, nativeIoctl_eq, nativeIoctl_eq]
    exact ⟨rfl, rfl, rfl, fun hnr => by cases hnr⟩
  | grabpix req => exact sameOutcome_grabpix_iff req pad64 pad32 env d
  | ddcciResponse buffer bufferLength result =>
    exact sameOutcome_ddcciResponse_iff buffer bufferLength result pad64 pad32 env d
  | enableCursorEvents base enable =>
    refine iff_of_true ?_ trivial
    have hcompat := @compatIoctl_of_fields_eq (.enableCursorEvents base enable) pad32 env d
      ⟨by simp [Request32.nr], by simp [Request32.nr]⟩ rfl rfl
    rw [hcompat, nativeIoctl_eq, nativeIoctl_eq]
    exact ⟨rfl, rfl, rfl, fun hnr => by cases hnr⟩

/-- A response of four bytes at `0x1000`: the handler of a 32-bit process is told of none, at another
address. -/
theorem ddcci_response_misread :
    let env : IoctlEnv := ⟨1, ⟨true, true⟩, true, .sample 0⟩
    let d := Device.init 0 (.init (.const true) (.const true))
    let req := Request32.ddcciResponse 0x1000 4 0
    (req.nativeIoctl 0 env d).handled = some (.ddcciResponse ⟨0x1000, 4, 0⟩) ∧
      (req.compatIoctl 0 env d).handled = some (.ddcciResponse ⟨0x400001000, 0, 0⟩) ∧
      ¬ SameOutcome req.nr (req.nativeIoctl 0 env d) (req.compatIoctl 0 env d) := by
  intro env d req
  refine ⟨by decide +kernel, by decide +kernel, fun hsame => ?_⟩
  have hzero := ((sameOutcome_ddcciResponse_iff 0x1000 4 0 0 0 env d).1 hsame).1
  exact absurd hzero (by decide)

end Evdi
